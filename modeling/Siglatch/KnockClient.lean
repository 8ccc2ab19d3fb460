import Siglatch.KnockOpts

set_option autoImplicit false

namespace Siglatch.KnockClient
open MuxTypes NetIpRange LibArgv KnockEnv KnockDefaults KnockOpts
open KnockAliasOps (AliasKind AliasOp AliasCommand Unbroken)
open KnockAliasMap (AliasEntry Held)

inductive Order where
  | amend (command : AliasCommand)
  | deleteMap (kind : AliasKind) (host : CString)
  | deleteHost (host : CString)
  | sendFrom (command : SendFromDefault)
  deriving DecidableEq

section CommandLine

def aliasSpecs : List OptionSpec := [flag "--opts-dump" 1, keyed "--output-mode" 2]

def aliasSelector (argv : List (Option CString)) : Option CString :=
  match argv[1]? with
  | some (some selector) => if ascii "--alias".toList <+: selector then some selector else none
  | _ => none

def wrongOutputMode (parsed : Parsed) : Bool :=
  parsed.options.any fun option =>
    option.spec.id = 2 && (getEnum option outputModeMap).isNone

def confirmedHost (selector unconfirmed : String) (positionals : List CString) :
    Except String CString :=
  if positionals.length < 2 then .error unconfirmed
  else if 2 < positionals.length then .error ("Too many arguments for " ++ selector)
  else if positionals.getD 1 [] ≠ ascii "YES".toList then .error unconfirmed
  else KnockAliasOps.copyToken 256 (positionals.getD 0 []) "host"

def confirmWipe : String := "You must confirm destructive alias wipe by typing YES"
def confirmMap : String := "You must confirm map deletion by typing YES"

/-- The other selectors show aliases or are refused, and change nothing either way. -/
def aliasOrder (selector : CString) (positionals : List CString) : Except String (Option Order) :=
  match [AliasOp.setUser, .setAction, .deleteUser, .deleteAction].find?
      fun op => ascii op.selector.toList = selector with
  | some op => (KnockAliasOps.parse op positionals).map fun command => some (.amend command)
  | none =>
    if selector = ascii "--alias-delete".toList then
      (confirmedHost "--alias-delete" confirmWipe positionals).map fun host =>
        some (.deleteHost host)
    else if selector = ascii "--alias-user-delete-map".toList then
      (confirmedHost "--alias-user-delete-map" confirmMap positionals).map fun host =>
        some (.deleteMap .user host)
    else if selector = ascii "--alias-action-delete-map".toList then
      (confirmedHost "--alias-action-delete-map" confirmMap positionals).map fun host =>
        some (.deleteMap .action host)
    else .ok none

def parseAlias (selector : CString) (argv : List (Option CString)) : Option Order :=
  match LibArgv.parse true aliasSpecs argv.tail with
  | .error _ => none
  | .ok parsed =>
    if wrongOutputMode parsed || has parsed OPTS_DUMP then none
    else (aliasOrder selector parsed.positionals).toOption.join

/-- What a command line changes, if anything. -/
def order (argv : List (Option CString)) : Option Order :=
  if sendFromMode argv then
    match parseCommand argv with
    | .ok (command, false) => some (.sendFrom command)
    | _ => none
  else (aliasSelector argv).bind fun selector => parseAlias selector argv

def transmitMode (argv : List (Option CString)) : Bool :=
  match argv[1]? with
  | some (some first) =>
    !sendFromMode argv && (aliasSelector argv).isNone &&
      first ≠ ascii "--output-mode-default".toList && first ≠ ascii "--help".toList
  | _ => false

def knock (io : Io) (maps : KnockAliasMap.Io) (files : Files) (argv : List (Option CString)) :
    Option (Parsed × TransmitOpts) :=
  if transmitMode argv = false then none
  else
    match LibArgv.parse true transmitSpecs argv with
    | .error _ => none
    | .ok parsed =>
      if has parsed OPTS_DUMP then none
      else (parseTransmit io maps files parsed).toOption.map fun opts => (parsed, opts)

end CommandLine

section Run

structure Call where
  io : Io
  maps : KnockAliasMap.Io
  removes : AliasKind → Bool
  argv : List (Option CString)

inductive Event where
  | amended (command : AliasCommand)
  | wiped (kind : AliasKind) (host : CString)
  | sendFrom (command : SendFromDefault)

def executeAlias (call : Call) (files : Files) (command : AliasCommand) : Files × List Event :=
  let kind := command.op.kind
  let outcome := KnockAliasOps.execute (mapIo call.io call.maps command.host kind)
    (mapFile call.io files command.host kind) command
  match buildHostConfigPath call.io command.host (mapName kind) with
  | none => (files, [])
  | some path =>
    (Function.update files (locate path) outcome.file,
      if outcome.ok then [.amended command] else [])

def deleteMapFile (call : Call) (files : Files) (kind : AliasKind) (host : CString) :
    Files × List Event :=
  match buildHostConfigPath call.io host (mapName kind) with
  | none => (files, [])
  | some path =>
    if files (locate path) = none ∨ call.removes kind = false then (files, [])
    else (Function.update files (locate path) none, [.wiped kind host])

def deleteHost (call : Call) (files : Files) (host : CString) : Files × List Event :=
  if (buildHostConfigPath call.io host (mapName .user)).isNone ∨
      (buildHostConfigPath call.io host (mapName .action)).isNone then (files, [])
  else
    let first := deleteMapFile call files .user host
    let second := deleteMapFile call first.1 .action host
    (second.1, first.2 ++ second.2)

def carryOut (call : Call) (files : Files) : Order → Files × List Event
  | .amend command => executeAlias call files command
  | .deleteMap kind host => deleteMapFile call files kind host
  | .deleteHost host => deleteHost call files host
  | .sendFrom command =>
    let outcome := KnockDefaults.execute call.io files command
    (outcome.2, if outcome.1 then [.sendFrom command] else [])

/-- Other command lines, knocks among them, leave maps and settings alone. For a knock this takes a
`--log` that names none of their files, since a log is appended to whatever file it is given. -/
def invoke (files : Files) (call : Call) : Files × List Event :=
  match order call.argv with
  | none => (files, [])
  | some order => carryOut call files order

def run (files : Files) (calls : List Call) : Files × List Event :=
  StepRuns.run invoke files calls

end Run

section History

def settles (kind : AliasKind) (host name : CString) : Event → Option ℕ
  | .amended command =>
    if command.op.kind = kind ∧ command.host = host ∧ command.name = name then
      some (if command.op.sets then command.id else 0)
    else none
  | .wiped kind' host' => if kind' = kind ∧ host' = host then some 0 else none
  | .sendFrom _ => none

def lastId (start : AliasKind → CString → List AliasEntry) (kind : AliasKind)
    (host name : CString) (done : List Event) : ℕ :=
  done.foldl (fun id event => (settles kind host name event).getD id)
    (KnockAliasMap.idOf (start kind host) name)

def sendFroms (done : List Event) : List SendFromDefault :=
  done.filterMap fun
    | .sendFrom command => some command
    | _ => none

def mapPlace (home host : CString) (kind : AliasKind) : List CString :=
  locate (configRoot home) ++ [host, mapName kind]

/-- The maps and settings hold what the events make of those of the start. -/
structure Books (home : CString) (start : AliasKind → CString → List AliasEntry)
    (before files : Files) (done : List Event) : Prop where
  maps : ∀ kind host, Component host → ∃ list,
    Held kind.maxId (files (mapPlace home host kind)) list ∧
      ∀ name, KnockAliasMap.idOf list name = lastId start kind host name done
  settings : Settings home before files (sendFroms done)

variable {home : CString} {start : AliasKind → CString → List AliasEntry}
  {before files : Files} {done : List Event}

theorem lastId_snoc (kind : AliasKind) (host name : CString) (event : Event) :
    lastId start kind host name (done ++ [event]) =
      (settles kind host name event).getD (lastId start kind host name done) := by
  unfold lastId
  rw [List.foldl_append]
  rfl

theorem sendFroms_append (more : List Event) :
    sendFroms (done ++ more) = sendFroms done ++ sendFroms more :=
  List.filterMap_append

theorem mapName_component (kind : AliasKind) : Component (mapName kind) := by
  cases kind <;> exact ⟨by decide, by decide, by decide, by decide⟩

theorem mapName_inj {kind kind' : AliasKind} (same : mapName kind = mapName kind') :
    kind = kind' := by
  cases kind <;> cases kind' <;> first | rfl | exact absurd same (by decide)

theorem mapPlace_inj {host host' : CString} {kind kind' : AliasKind}
    (same : mapPlace home host kind = mapPlace home host' kind') : host = host' ∧ kind = kind' := by
  have tails := List.cons.inj (List.append_cancel_left same)
  exact ⟨tails.1, mapName_inj (List.cons.inj tails.2).1⟩

theorem mapPlace_apart (host host' user : CString) (kind : AliasKind) :
    mapPlace home host kind ≠ placeOf home host' user := by
  intro same
  have tails := List.cons.inj (List.append_cancel_left same)
  have names := congrArg List.head? (List.cons.inj tails.2).1
  cases kind <;> exact absurd names (by simp [userConfigName, mapName, ascii])

theorem locate_map {io : Io} {host path : CString} {kind : AliasKind}
    (known : ∀ home' ∈ io.home, home' = home) (component : Component host)
    (built : buildHostConfigPath io host (mapName kind) = some path) :
    locate path = mapPlace home host kind := by
  obtain ⟨-, home', given, rfl⟩ := buildHostConfigPath_some built
  obtain rfl := known home' given
  exact locate_file component (mapName_component kind)

theorem books_map (h : Books home start before files done) {kind : AliasKind} {host : CString}
    {file : Option Bytes} {list : List AliasEntry} {event : Event}
    (quiet : sendFroms [event] = []) (held : Held kind.maxId file list)
    (here : ∀ name, KnockAliasMap.idOf list name =
      lastId start kind host name (done ++ [event]))
    (others : ∀ kind' host' name, ¬ (host' = host ∧ kind' = kind) →
      settles kind' host' name event = none) :
    Books home start before (Function.update files (mapPlace home host kind) file)
      (done ++ [event]) := by
  refine ⟨fun kind' host' component => ?_, ?_⟩
  · by_cases same : host' = host ∧ kind' = kind
    · obtain ⟨rfl, rfl⟩ := same
      rw [Function.update_self]
      exact ⟨list, held, here⟩
    · obtain ⟨list', held', ids⟩ := h.maps kind' host' component
      rw [Function.update_of_ne fun equal => same (mapPlace_inj equal)]
      refine ⟨list', held', fun name => ?_⟩
      rw [ids, lastId_snoc, others kind' host' name same, Option.getD_none]
  · rw [sendFroms_append, quiet, List.append_nil]
    refine ⟨fun host' user component => ?_, h.settings.sound⟩
    rw [Function.update_of_ne (mapPlace_apart host host' user kind).symm]
    exact h.settings.places host' user component

theorem books_sendFrom (h : Books home start before files done) {command : SendFromDefault}
    (sound : command.clear = false → isSingleIpv4 command.ip = true ∧ command.ip.length ≤ 63) :
    Books home start before
      (Function.update files (placeOf home command.host command.user) (contents command))
      (done ++ [.sendFrom command]) := by
  refine ⟨fun kind host component => ?_, ?_⟩
  · obtain ⟨list, held, ids⟩ := h.maps kind host component
    rw [Function.update_of_ne (mapPlace_apart host command.host command.user kind)]
    refine ⟨list, held, fun name => ?_⟩
    rw [ids, lastId_snoc]
    rfl
  · rw [sendFroms_append]
    exact settings_next h.settings sound

end History

section Steps

variable {home : CString} {start : AliasKind → CString → List AliasEntry}
  {before files : Files} {done : List Event} {call : Call}

/-- An order whose host is one component of a path, and a line can hold what it sets. -/
def Orderly : Order → Prop
  | .amend command => Component command.host ∧ Unbroken command
  | .deleteMap _ host => Component host
  | .deleteHost host => Component host
  | .sendFrom command => Component command.host

/-- A run of the program in one home, on a disk with room for a line. -/
structure Sound (home : CString) (call : Call) : Prop where
  known : ∀ home' ∈ call.io.home, home' = home
  whole : call.io.written = none
  orderly : ∀ wanted ∈ order call.argv, Orderly wanted

theorem executeAlias_books (h : Books home start before files done)
    (known : ∀ home' ∈ call.io.home, home' = home) {command : AliasCommand}
    (issued : KnockAliasOps.Issued command) (component : Component command.host)
    (unbroken : Unbroken command) :
    Books home start before (executeAlias call files command).1
      (done ++ (executeAlias call files command).2) := by
  unfold executeAlias mapFile
  dsimp only
  cases built : buildHostConfigPath call.io command.host (mapName command.op.kind) with
  | none =>
    dsimp only
    rwa [List.append_nil]
  | some path =>
    have place := locate_map known component built
    obtain ⟨list, held, ids⟩ := h.maps command.op.kind command.host component
    rw [← place] at held
    have executed := KnockAliasOps.execute_executed
      (mapIo call.io call.maps command.host command.op.kind) held issued unbroken
    rw [Option.bind_some]
    dsimp only
    rcases executed with failed | ⟨ok, list', held', rewrites⟩
    · rw [failed, Function.update_eq_self]
      dsimp only
      rwa [if_neg Bool.false_ne_true, List.append_nil]
    · rw [ok, if_pos rfl, place]
      rw [place] at held'
      refine books_map h rfl held' (fun name => ?_) fun kind host name apart => ?_
      · rw [lastId_snoc]
        dsimp only [settles]
        by_cases same : command.name = name
        · rw [if_pos ⟨rfl, rfl, same⟩, ← same, rewrites.here]
          rfl
        · rw [if_neg fun all => same all.2.2, rewrites.others name (Ne.symm same), ids]
          rfl
      · exact if_neg fun all => apart ⟨all.2.1.symm, all.1.symm⟩

theorem deleteMapFile_books (h : Books home start before files done)
    (known : ∀ home' ∈ call.io.home, home' = home) {kind : AliasKind} {host : CString}
    (component : Component host) :
    Books home start before (deleteMapFile call files kind host).1
      (done ++ (deleteMapFile call files kind host).2) := by
  have unchanged : Books home start before files (done ++ []) := by rwa [List.append_nil]
  unfold deleteMapFile
  split
  · exact unchanged
  rename_i path built
  split
  · exact unchanged
  rw [locate_map known component built]
  refine books_map h rfl ⟨.inl ⟨rfl, rfl⟩, by simp, by simp⟩ (fun name => ?_)
    fun kind' host' name apart => ?_
  · rw [lastId_snoc]
    dsimp only [settles]
    rw [if_pos ⟨rfl, rfl⟩]
    rfl
  · exact if_neg fun all => apart ⟨all.2.symm, all.1.symm⟩

theorem deleteHost_books (h : Books home start before files done)
    (known : ∀ home' ∈ call.io.home, home' = home) {host : CString}
    (component : Component host) :
    Books home start before (deleteHost call files host).1
      (done ++ (deleteHost call files host).2) := by
  unfold deleteHost
  split
  · rwa [List.append_nil]
  · have first := @deleteMapFile_books home start before files done call h known .user host
      component
    dsimp only
    rw [← List.append_assoc]
    exact deleteMapFile_books first known component

theorem map_ok {α β : Type} {x : Except String α} {f : α → β} {out : β}
    (h : x.map f = .ok out) : ∃ a, x = .ok a ∧ f a = out := by
  cases x with
  | error text => cases h
  | ok a => exact ⟨a, rfl, Except.ok.inj h⟩

theorem aliasOrder_cases {selector : CString} {positionals : List CString} {wanted : Order}
    (parsed : aliasOrder selector positionals = .ok (some wanted)) :
    (∃ op command, KnockAliasOps.parse op positionals = .ok command ∧ wanted = .amend command) ∨
      (∃ host, wanted = .deleteHost host) ∨ ∃ kind host, wanted = .deleteMap kind host := by
  unfold aliasOrder at parsed
  split at parsed
  · rename_i op found
    obtain ⟨command, got, made⟩ := map_ok parsed
    exact .inl ⟨op, command, got, (Option.some.inj made).symm⟩
  split at parsed
  · obtain ⟨host, -, made⟩ := map_ok parsed
    exact .inr (.inl ⟨host, (Option.some.inj made).symm⟩)
  split at parsed
  · obtain ⟨host, -, made⟩ := map_ok parsed
    exact .inr (.inr ⟨.user, host, (Option.some.inj made).symm⟩)
  split at parsed
  · obtain ⟨host, -, made⟩ := map_ok parsed
    exact .inr (.inr ⟨.action, host, (Option.some.inj made).symm⟩)
  · cases parsed

def Admitted : Order → Prop
  | .amend command => KnockAliasOps.Issued command
  | .sendFrom command => KnockDefaults.Issued command
  | _ => True

theorem order_admitted {argv : List (Option CString)} {wanted : Order}
    (given : order argv = some wanted) : Admitted wanted := by
  unfold order at given
  split at given
  · split at given
    · rename_i command parsed
      obtain rfl := Option.some.inj given
      exact parseCommand_issued parsed
    · cases given
  · obtain ⟨selector, -, given⟩ := Option.bind_eq_some_iff.mp given
    unfold parseAlias at given
    split at given
    · cases given
    split at given
    · cases given
    rename_i parsed _ _
    have ordered : aliasOrder selector parsed.positionals = .ok (some wanted) := by
      cases got : aliasOrder selector parsed.positionals with
      | error text =>
        rw [got] at given
        cases given
      | ok inner =>
        rw [got] at given
        exact congrArg Except.ok given
    rcases aliasOrder_cases ordered with ⟨op, command, got, rfl⟩ | ⟨host, rfl⟩ | ⟨kind, host, rfl⟩
    · exact KnockAliasOps.parse_issued got
    · trivial
    · trivial

theorem invoke_books (sound : Sound home call) (h : Books home start before files done) :
    Books home start before (invoke files call).1 (done ++ (invoke files call).2) := by
  unfold invoke
  cases wanted : order call.argv with
  | none =>
    dsimp only
    rwa [List.append_nil]
  | some order =>
    have orderly := sound.orderly order wanted
    cases order with
    | amend command =>
      exact executeAlias_books h sound.known (order_admitted wanted) orderly.1 orderly.2
    | deleteMap kind host => exact deleteMapFile_books h sound.known orderly
    | deleteHost host => exact deleteHost_books h sound.known orderly
    | sendFrom command =>
      have issued : KnockDefaults.Issued command := order_admitted wanted
      dsimp only [carryOut]
      rcases @execute_cases home call.io files command sound.known sound.whole orderly with
        failed | ran
      · rw [failed]
        dsimp only
        rwa [if_neg Bool.false_ne_true, List.append_nil]
      · rw [ran]
        exact books_sendFrom h fun setting => ⟨issued.single setting, issued.ipFits⟩

/-- A command about an address does here just what it does to the settings alone. -/
theorem invoke_settings (files : Files) (mode : sendFromMode call.argv = true) :
    invoke files call = ((KnockDefaults.invoke files (call.io, call.argv)).1,
      (KnockDefaults.invoke files (call.io, call.argv)).2.map .sendFrom) := by
  unfold invoke order KnockDefaults.invoke
  dsimp only
  rw [mode, if_pos rfl, if_neg Bool.noConfusion]
  cases parsed : parseCommand call.argv with
  | error refused => rfl
  | ok out =>
    obtain ⟨command, dump⟩ := out
    cases dump with
    | true => rfl
    | false =>
      dsimp only [carryOut]
      rw [if_neg Bool.false_ne_true]
      cases (KnockDefaults.execute call.io files command).1 <;> rfl

theorem run_books (calls : List Call) (sound : ∀ call ∈ calls, Sound home call)
    (held : ∀ kind host, Component host →
      Held kind.maxId (before (mapPlace home host kind)) (start kind host)) :
    Books home start before (run before calls).1 (run before calls).2 :=
  StepRuns.run_history (Sound home) (fun _ _ _ allowed h => invoke_books allowed h) before
    ⟨fun kind host component => ⟨start kind host, held kind host component, fun _ => rfl⟩,
      recorded_start.toSettings⟩ calls sound

end Steps

section Follows

variable {home : CString} {start : AliasKind → CString → List AliasEntry}
  {before files : Files} {done : List Event} {io : Io} {maps : KnockAliasMap.Io}
  {host user : CString}

/-- A command line whose words name a user and an action at a host, run where the maps of the
host can be read. -/
structure Typed (home : CString) (io : Io) (maps : KnockAliasMap.Io) (parsed : Parsed)
    (host user action : CString) : Prop where
  known : io.home = some home
  reads : maps.openRead = true ∧ maps.memory = true
  paths : ∀ kind, buildHostConfigPath io host (mapName kind) ≠ none
  words : ∃ more, parsed.positionals = host :: user :: action :: more
  component : Component host
  hostFits : host.length ≤ 255
  named : user ≠ [] ∧ user.length ≤ 127

/-- What an accepted knock is sent with: the ids and the address that the commands before it have
left, where the command line does not give them itself. -/
structure Sends (home : CString) (start : AliasKind → CString → List AliasEntry)
    (before : Files) (done : List Event) (io : Io) (parsed : Parsed) (opts : TransmitOpts)
    (host user action : CString) : Prop where
  wellFormed : WellFormed opts
  there : opts.host = host
  userId : idOf (lastId start .user host user done) 65535 user = some opts.userId
  actionId : idOf (lastId start .action host action done) 255 action = some opts.actionId
  source : ∃ stated, applyOptions defaults parsed.options = .ok stated ∧
    if stated.sendFromIp = [] then
      outcome host user (standing (loadHostUserSendFromIp io before host user 64)
        (sendFroms done) host user) = .ok opts.sendFromIp
    else opts.sendFromIp = stated.sendFromIp
  request : ∀ payload targetIp targetPort moment, Carries opts
    (KnockTransmit.buildM7muxSendPacket (request opts payload) opts.protocol targetIp targetPort
      moment)

theorem resolve_books (h : Books home start before files done) (known : io.home = some home)
    (reads : maps.openRead = true ∧ maps.memory = true) (component : Component host)
    {kind : AliasKind} (path : buildHostConfigPath io host (mapName kind) ≠ none)
    (name : CString) :
    resolve io maps files kind host name = lastId start kind host name done := by
  obtain ⟨path, built⟩ := Option.ne_none_iff_exists'.mp path
  obtain ⟨list, held, ids⟩ := h.maps kind host component
  have place : locate path = mapPlace home host kind :=
    locate_map (fun home' given => Option.some.inj (given.symm.trans known)) component built
  have readable : (mapIo io maps host kind).Readable := by
    refine ⟨?_, reads.1, reads.2⟩
    unfold mapIo
    rw [built]
    rfl
  have resolved : resolve io maps files kind host name =
      KnockAliasMap.resolve (mapIo io maps host kind) kind.maxId (mapFile io files host kind)
        host name := by
    cases kind <;> rfl
  rw [resolved, mapFile, built, Option.bind_some, place,
    KnockAliasMap.resolve_held held readable component.nonempty, ids]

theorem load_valid (valid : loadHostUserSendFromIp io files host user 64 ≠ .invalid) :
    hostUserConfigPath io host user ≠ none ∧ io.opens = true := by
  unfold loadHostUserSendFromIp at valid
  split at valid
  · exact absurd rfl valid
  rename_i path built
  split at valid
  · exact absurd rfl valid
  rename_i opens
  exact ⟨by simp [built], by simpa using opens⟩

theorem knock_some {argv : List (Option CString)} {parsed : Parsed} {opts : TransmitOpts}
    (accepted : knock io maps files argv = some (parsed, opts)) :
    parseTransmit io maps files parsed = .ok opts := by
  unfold knock at accepted
  split at accepted
  · cases accepted
  split at accepted
  · cases accepted
  split at accepted
  · cases accepted
  rename_i read _ _
  cases got : parseTransmit io maps files read with
  | error text =>
    rw [got] at accepted
    cases accepted
  | ok out =>
    rw [got] at accepted
    cases accepted
    exact got

theorem knock_sends (h : Books home start before files done) {argv : List (Option CString)}
    {parsed : Parsed} {opts : TransmitOpts} {action : CString}
    (accepted : knock io maps files argv = some (parsed, opts))
    (typed : Typed home io maps parsed host user action) :
    Sends home start before done io parsed opts host user action := by
  obtain ⟨stated, placed, applied, addressed, checked⟩ :=
    parseTransmit_some (knock_some accepted)
  obtain ⟨more, words⟩ := typed.words
  obtain ⟨host', user', action', more', userId, actionId, same, resolvedUser, resolvedAction,
    rfl⟩ := applyPositionals_some addressed
  rw [words] at same
  simp only [List.cons.injEq] at same
  obtain ⟨rfl, rfl, rfl, -⟩ := same
  have resolves (kind : AliasKind) (name : CString) :=
    resolve_books h typed.known typed.reads typed.component (typed.paths kind) name
  have hostWhole := List.take_of_length_le typed.hostFits
  have userWhole := List.take_of_length_le typed.named.2
  refine ⟨checked.wellFormed, checked.host.trans hostWhole, ?_, ?_, ⟨stated, applied, ?_⟩,
    request_carries checked.wellFormed⟩
  · rw [checked.userId, ← resolves .user, resolvedUser]
  · rw [checked.actionId, ← resolves .action, resolvedAction]
  have valid := checked.valid
  unfold sendFrom at valid
  dsimp only at valid
  rw [hostWhole, userWhole] at valid
  split
  · rename_i unstated
    rw [if_pos ⟨typed.component.nonempty, typed.named.1, unstated⟩] at valid
    obtain ⟨built, opens⟩ := load_valid valid
    have followed := checked_resolves checked (List.length_take_le 255 _)
      (List.length_take_le 127 _) unstated
    dsimp only at followed
    rw [hostWhole, userWhole] at followed
    rw [← followed, settings_resolve h.settings typed.known opens typed.component built
      typed.hostFits typed.named.2]
  · rename_i given
    have source := checked.source
    unfold sendFrom at source
    rwa [if_neg fun all => given all.2.2] at source

end Follows

section Obeys

variable {home : CString} {start : AliasKind → CString → List AliasEntry}
  {before files : Files} {done : List Event} {call : Call}

structure Obliging (home : CString) (call : Call) (host : CString) : Prop where
  willing : KnockDefaults.Willing home call.io
  maps : ∀ kind, (mapIo call.io call.maps host kind).Willing
  removes : ∀ kind, call.removes kind = true

theorem obliging_path {host : CString} (obliging : Obliging home call host) (kind : AliasKind) :
    ∃ path, buildHostConfigPath call.io host (mapName kind) = some path :=
  Option.isSome_iff_exists.mp (obliging.maps kind).buildPath

theorem executeAlias_obeyed (h : Books home start before files done) {command : AliasCommand}
    (known : ∀ home' ∈ call.io.home, home' = home) (issued : KnockAliasOps.Issued command)
    (component : Component command.host) (obliging : Obliging home call command.host) :
    lastId start command.op.kind command.host command.name
      (done ++ (executeAlias call files command).2) =
        if command.op.sets then command.id else 0 := by
  obtain ⟨path, built⟩ := obliging_path obliging command.op.kind
  obtain ⟨list, held, ids⟩ := h.maps command.op.kind command.host component
  rw [← locate_map known component built] at held
  unfold executeAlias mapFile
  dsimp only
  rw [built, Option.bind_some]
  dsimp only
  rcases KnockAliasOps.execute_willing (obliging.maps command.op.kind) held issued with
    ok | ⟨deletes, gone⟩
  · rw [ok, if_pos rfl, lastId_snoc]
    dsimp only [settles]
    rw [if_pos ⟨rfl, rfl, rfl⟩]
    rfl
  · split
    · rw [lastId_snoc]
      dsimp only [settles]
      rw [if_pos ⟨rfl, rfl, rfl⟩]
      rfl
    · rw [List.append_nil, ← ids, gone, if_neg (by simp [deletes])]

theorem deleteMapFile_obeyed (h : Books home start before files done) {kind : AliasKind}
    {host : CString} (known : ∀ home' ∈ call.io.home, home' = home) (component : Component host)
    (obliging : Obliging home call host) (name : CString) :
    lastId start kind host name (done ++ (deleteMapFile call files kind host).2) = 0 := by
  obtain ⟨path, built⟩ := obliging_path obliging kind
  obtain ⟨list, held, ids⟩ := h.maps kind host component
  rw [← locate_map known component built] at held
  unfold deleteMapFile
  rw [built]
  dsimp only
  rw [obliging.removes kind]
  split
  · rename_i kept
    have gone : files (locate path) = none := kept.resolve_right Bool.noConfusion
    rw [List.append_nil, ← ids]
    obtain ⟨-, rfl⟩ | there := held.file
    · rfl
    · cases gone.symm.trans there
  · rw [lastId_snoc]
    dsimp only [settles]
    rw [if_pos ⟨rfl, rfl⟩]
    rfl

theorem deleteMapFile_other {kind kind' : AliasKind} (apart : kind ≠ kind') (host name : CString) :
    lastId start kind' host name (done ++ (deleteMapFile call files kind host).2) =
      lastId start kind' host name done := by
  have unchanged : lastId start kind' host name (done ++ []) =
      lastId start kind' host name done := by rw [List.append_nil]
  unfold deleteMapFile
  split
  · exact unchanged
  split
  · exact unchanged
  rw [lastId_snoc]
  dsimp only [settles]
  rw [if_neg fun all => apart all.1]
  rfl

theorem deleteHost_obeyed (h : Books home start before files done) {host : CString}
    (known : ∀ home' ∈ call.io.home, home' = home) (component : Component host)
    (obliging : Obliging home call host) (kind : AliasKind) (name : CString) :
    lastId start kind host name (done ++ (deleteHost call files host).2) = 0 := by
  obtain ⟨userPath, userBuilt⟩ := obliging_path obliging .user
  obtain ⟨actionPath, actionBuilt⟩ := obliging_path obliging .action
  unfold deleteHost
  rw [userBuilt, actionBuilt, if_neg (by simp)]
  dsimp only
  rw [← List.append_assoc]
  have first := @deleteMapFile_books home start before files done call h known .user host component
  cases kind with
  | user =>
    rw [deleteMapFile_other (by decide)]
    exact deleteMapFile_obeyed h known component obliging name
  | action => exact deleteMapFile_obeyed first known component obliging name

theorem run_snoc (fewer : List Call) : run before (fewer ++ [call]) =
    ((invoke (run before fewer).1 call).1,
      (run before fewer).2 ++ (invoke (run before fewer).1 call).2) := by
  unfold run
  rw [StepRuns.run_append]
  simp [StepRuns.run]

/-- What a command is to have done, once it was the last of a run. -/
def Obeyed (start : AliasKind → CString → List AliasEntry) (done : List Event) : Order → Prop
  | .amend command => lastId start command.op.kind command.host command.name done =
      if command.op.sets then command.id else 0
  | .deleteMap kind host => ∀ name, lastId start kind host name done = 0
  | .deleteHost host => ∀ kind name, lastId start kind host name done = 0
  | .sendFrom command => lastFor (sendFroms done) command.host command.user = some command

def Order.host : Order → CString
  | .amend command => command.host
  | .deleteMap _ host => host
  | .deleteHost host => host
  | .sendFrom command => command.host

def Order.placed (io : Io) : Order → Prop
  | .sendFrom command => hostUserConfigPath io command.host command.user ≠ none
  | _ => True

theorem invoke_obeyed (h : Books home start before files done) (sound : Sound home call)
    {wanted : Order} (given : order call.argv = some wanted)
    (obliging : Obliging home call wanted.host) (placed : wanted.placed call.io) :
    Obeyed start (done ++ (invoke files call).2) wanted := by
  have admitted := order_admitted given
  have orderly := sound.orderly wanted given
  unfold invoke
  rw [given]
  cases wanted with
  | amend command => exact executeAlias_obeyed h sound.known admitted orderly.1 obliging
  | deleteMap kind host => exact deleteMapFile_obeyed h sound.known orderly obliging
  | deleteHost host => exact deleteHost_obeyed h sound.known orderly obliging
  | sendFrom command =>
    have carried := @execute_willing home call.io files command obliging.willing admitted placed
    dsimp only [carryOut, Obeyed]
    rw [carried, if_pos rfl, sendFroms_append]
    exact lastFor_last ⟨rfl, rfl⟩

/-- Knocks are sent with what the commands before them left, and commands that the system grants
everything are carried out. -/
structure Serves (home : CString) (start : AliasKind → CString → List AliasEntry)
    (before : Files) (calls : List Call) : Prop where
  sends : ∀ (io : Io) (maps : KnockAliasMap.Io) argv parsed opts host user action,
    knock io maps (run before calls).1 argv = some (parsed, opts) →
    Typed home io maps parsed host user action →
    Sends home start before (run before calls).2 io parsed opts host user action
  obeys : ∀ fewer call wanted, calls = fewer ++ [call] → order call.argv = some wanted →
    Obliging home call wanted.host → wanted.placed call.io →
    Obeyed start (run before calls).2 wanted

theorem commands_followed (home : CString) (start : AliasKind → CString → List AliasEntry)
    (before : Files) (calls : List Call) (sound : ∀ call ∈ calls, Sound home call)
    (held : ∀ kind host, Component host →
      Held kind.maxId (before (mapPlace home host kind)) (start kind host)) :
    Serves home start before calls := by
  refine ⟨fun io maps argv parsed opts host user action accepted typed => ?_, ?_⟩
  · exact knock_sends (run_books calls sound held) accepted typed
  · rintro fewer call wanted rfl given obliging placed
    have earlier := run_books fewer (fun call' member => sound call' (by simp [member])) held
    rw [run_snoc]
    exact invoke_obeyed earlier (sound call (by simp)) given obliging placed

end Obeys

section Porter

def porterMaps : KnockAliasMap.Io := ⟨true, true, true, true, true⟩

def porterCall (words : List String) : Call :=
  ⟨deskIo, porterMaps, fun _ => true, deskArgv words⟩

def porterCalls : List Call :=
  [porterCall ["--alias-user", "gate", "ann", "7"],
    porterCall ["--alias-action", "gate", "open", "3"],
    porterCall ["--alias-action-delete-map", "gate", "YES"],
    porterCall ["--alias-action", "gate", "open", "9"],
    porterCall ["--send-from-default", "gate", "ann", "10.0.0.7"]]

theorem porter_sound {words : List String} {wanted : Order}
    (given : order (deskArgv words) = some wanted) (orderly : Orderly wanted) :
    Sound (ascii "/h".toList) (porterCall words) := by
  refine ⟨fun home known => (Option.some.inj known).symm, rfl, fun other again => ?_⟩
  obtain rfl := Option.some.inj (given.symm.trans again)
  exact orderly

theorem porter_served : Serves (ascii "/h".toList) (fun _ _ => []) (fun _ => none) porterCalls ∧
    (knock deskIo porterMaps (run (fun _ => none) porterCalls).1
      (deskArgv ["gate", "ann", "open", "hello"])).map
        (fun accepted => (accepted.2.userId, accepted.2.actionId, accepted.2.sendFromIp)) =
      some (7, 9, ascii "10.0.0.7".toList) := by
  have gate : Component (ascii "gate".toList) := ⟨by decide, by decide, by decide, by decide⟩
  have plain : KnockAliasMap.PlainHost (ascii "gate".toList) :=
    ⟨0, 0, ascii "gate".toList, rfl, by decide, by decide, by decide⟩
  refine ⟨commands_followed _ _ _ _ ?_ fun _ _ _ => ⟨.inl ⟨rfl, rfl⟩, by simp, by simp⟩,
    by decide +kernel⟩
  simp only [porterCalls, List.forall_mem_cons]
  refine ⟨?_, ?_, ?_, ?_, ?_, fun call member => absurd member List.not_mem_nil⟩
  · exact @porter_sound _ (.amend ⟨.setUser, ascii "gate".toList, ascii "ann".toList, 7⟩)
      (by decide +kernel) ⟨gate, fun _ => ⟨by decide, by decide, plain⟩⟩
  · exact @porter_sound _ (.amend ⟨.setAction, ascii "gate".toList, ascii "open".toList, 3⟩)
      (by decide +kernel) ⟨gate, fun _ => ⟨by decide, by decide, plain⟩⟩
  · exact @porter_sound _ (.deleteMap .action (ascii "gate".toList)) (by decide +kernel) gate
  · exact @porter_sound _ (.amend ⟨.setAction, ascii "gate".toList, ascii "open".toList, 9⟩)
      (by decide +kernel) ⟨gate, fun _ => ⟨by decide, by decide, plain⟩⟩
  · exact @porter_sound _ (.sendFrom ⟨false, ascii "gate".toList, ascii "ann".toList,
      ascii "10.0.0.7".toList⟩) (by decide +kernel) gate

end Porter

end Siglatch.KnockClient
