import Siglatch.KnockEnv
import Siglatch.LibArgv
import Siglatch.StepRuns

set_option autoImplicit false

namespace Siglatch.KnockDefaults
open MuxTypes NetIpRange LibStr LibArgv KnockEnv

structure SendFromDefault where
  clear : Bool
  host : CString
  user : CString
  ip : CString
  deriving DecidableEq

def SEND_FROM_DEFAULT : CString := ascii "--send-from-default".toList
def SEND_FROM_DEFAULT_CLEAR : CString := ascii "--send-from-default-clear".toList
def OPTS_DUMP : CString := ascii "--opts-dump".toList

def sendFromDefaultSpecs : List OptionSpec :=
  [⟨SEND_FROM_DEFAULT, 3, 3, false, false, false⟩,
    ⟨SEND_FROM_DEFAULT_CLEAR, 4, 2, false, false, false⟩,
    ⟨OPTS_DUMP, 5, 0, false, false, true⟩]

inductive Refused where
  | argv (error : ArgvError)
  | message (text : String)
  deriving DecidableEq

section Parse

def findFirstById (parsed : Parsed) (id : ℤ) : Option ParsedOption :=
  parsed.options.find? (·.spec.id = id)

def has (parsed : Parsed) (name : CString) : Bool := parsed.options.any (·.spec.name = name)

def argument (option : ParsedOption) (index size : ℕ) : CString :=
  ((option.args.getD index none).getD []).take (size - 1)

def tooManyPositionals : Refused :=
  .message "Too many positional arguments for send-from-default command"

def parseSendFromDefault (parsed : Parsed) : Except Refused SendFromDefault :=
  match findFirstById parsed 3, findFirstById parsed 4 with
  | some option, none =>
    let command : SendFromDefault :=
      ⟨false, argument option 1 256, argument option 2 128, argument option 3 64⟩
    if 0 < parsed.positionals.length then .error tooManyPositionals
    else if isSingleIpv4 command.ip = false then
      .error (.message "Invalid IPv4 for --send-from-default")
    else .ok command
  | none, some option =>
    if 0 < parsed.positionals.length then .error tooManyPositionals
    else .ok ⟨true, argument option 1 256, argument option 2 128, []⟩
  | _, _ =>
    .error (.message "Expected exactly one of --send-from-default or --send-from-default-clear")

def sendFromMode (argv : List (Option CString)) : Bool :=
  argv[1]? = some (some SEND_FROM_DEFAULT) || argv[1]? = some (some SEND_FROM_DEFAULT_CLEAR)

def parseCommand (argv : List (Option CString)) : Except Refused (SendFromDefault × Bool) :=
  match LibArgv.parse true sendFromDefaultSpecs argv with
  | .error error => .error (.argv error)
  | .ok parsed => (parseSendFromDefault parsed).map fun command => (command, has parsed OPTS_DUMP)

end Parse

section Run

def execute (io : Io) (files : Files) (command : SendFromDefault) : Bool × Files :=
  if command.clear then clearHostUserSendFromIp io files command.host command.user
  else saveHostUserSendFromIp io files command.host command.user command.ip

/-- One run of the program, with the command if it was carried out. Other modes of the command
line leave the settings of users alone, unless a knock's `--log` names the file of one: a log is
appended to whatever file it is given. -/
def invoke (files : Files) (now : Io × List (Option CString)) : Files × List SendFromDefault :=
  if sendFromMode now.2 = false then (files, [])
  else
    match parseCommand now.2 with
    | .error _ => (files, [])
    | .ok (command, dump) =>
      if dump then (files, [])
      else
        let outcome := execute now.1 files command
        (outcome.2, if outcome.1 then [command] else [])

def run (files : Files) (commands : List (Io × List (Option CString))) :
    Files × List SendFromDefault :=
  StepRuns.run invoke files commands

def invalidSendFrom : CString := ascii "Invalid --send-from IPv4 address".toList

def invalidSetting (host user : CString) : CString :=
  (ascii "Invalid host user send_from_ip config for ".toList ++ (host ++ 47 :: user)).take 255

/-- The address that a knock is sent from, which the command line gives or the settings do. An
empty one leaves the choice to the system. -/
def resolveSendFrom (io : Io) (files : Files) (host user given : CString) :
    Except CString CString :=
  let host := host.take 255
  let user := user.take 127
  let given := given.take 63
  if host ≠ [] ∧ user ≠ [] ∧ given = [] then
    match loadHostUserSendFromIp io files host user 64 with
    | .absent => .ok []
    | .invalid => .error (invalidSetting host user)
    | .found ip => if ip ≠ [] ∧ isSingleIpv4 ip = false then .error invalidSendFrom else .ok ip
  else if given ≠ [] ∧ isSingleIpv4 given = false then .error invalidSendFrom
  else .ok given

end Run

section History

def concerns (host user : CString) (command : SendFromDefault) : Prop :=
  command.host = host ∧ command.user = user

instance (host user : CString) : DecidablePred (concerns host user) :=
  fun _ => inferInstanceAs (Decidable (_ ∧ _))

def lastFor (done : List SendFromDefault) (host user : CString) : Option SendFromDefault :=
  done.reverse.find? fun command => concerns host user command

def standing (before : SendFrom) (done : List SendFromDefault) (host user : CString) : SendFrom :=
  match lastFor done host user with
  | none => before
  | some command => if command.clear then .absent else readBack command.ip

def contents (command : SendFromDefault) : Option Bytes :=
  if command.clear then none else some (settingText command.ip)

/-- Users' settings as the commands which were carried out leave those of the start. -/
structure Settings (home : CString) (before files : Files) (done : List SendFromDefault) :
    Prop where
  places : ∀ host user, Component host → files (placeOf home host user) =
    match lastFor done host user with
    | none => before (placeOf home host user)
    | some command => contents command
  sound : ∀ command ∈ done, command.clear = false →
    isSingleIpv4 command.ip = true ∧ command.ip.length ≤ 63

structure Recorded (home : CString) (before files : Files) (done : List SendFromDefault) : Prop
    extends Settings home before files done where
  others : ∀ place, (∀ command ∈ done, place ≠ placeOf home command.host command.user) →
    files place = before place

variable {home : CString} {before files : Files} {done : List SendFromDefault}

theorem lastFor_last {command : SendFromDefault} {host user : CString}
    (same : concerns host user command) : lastFor (done ++ [command]) host user = some command := by
  unfold lastFor
  rw [List.reverse_append, List.reverse_singleton, List.singleton_append,
    List.find?_cons_of_pos (by simpa using same)]

theorem lastFor_other {command : SendFromDefault} {host user : CString}
    (other : ¬ concerns host user command) :
    lastFor (done ++ [command]) host user = lastFor done host user := by
  unfold lastFor
  rw [List.reverse_append, List.reverse_singleton, List.singleton_append,
    List.find?_cons_of_neg (by simpa using other)]

theorem lastFor_mem {command : SendFromDefault} {host user : CString}
    (last : lastFor done host user = some command) : command ∈ done ∧ concerns host user command :=
  ⟨List.mem_reverse.mp (List.mem_of_find?_eq_some last), by
    simpa using List.find?_some last⟩

theorem recorded_start : Recorded home before before [] :=
  ⟨⟨fun _ _ _ => rfl, fun _ member => absurd member List.not_mem_nil⟩, fun _ _ => rfl⟩

theorem settings_next (h : Settings home before files done) {command : SendFromDefault}
    (sound : command.clear = false → isSingleIpv4 command.ip = true ∧ command.ip.length ≤ 63) :
    Settings home before
      (Function.update files (placeOf home command.host command.user) (contents command))
      (done ++ [command]) := by
  refine ⟨fun host user named => ?_, fun c member => ?_⟩
  · by_cases same : concerns host user command
    · rw [lastFor_last same, ← same.1, ← same.2, Function.update_self]
    · have apart : placeOf home host user ≠ placeOf home command.host command.user := by
        intro equal
        obtain ⟨hosts, users⟩ := placeOf_inj equal
        exact same ⟨hosts.symm, users.symm⟩
      rw [lastFor_other same, Function.update_of_ne apart]
      exact h.places host user named
  · rcases List.mem_append.mp member with earlier | now
    · exact h.sound c earlier
    · obtain rfl := List.mem_singleton.mp now
      exact sound

theorem recorded_next (h : Recorded home before files done) {command : SendFromDefault}
    (sound : command.clear = false → isSingleIpv4 command.ip = true ∧ command.ip.length ≤ 63) :
    Recorded home before
      (Function.update files (placeOf home command.host command.user) (contents command))
      (done ++ [command]) := by
  refine ⟨settings_next h.toSettings sound, fun place apart => ?_⟩
  have last := apart command (by simp)
  rw [Function.update_of_ne last]
  exact h.others place fun c member => apart c (List.mem_append_left _ member)

end History

section Steps

variable {home : CString} {io : Io} {files : Files} {command : SendFromDefault}

/-- A command fails and changes nothing, or it puts its contents in the place of its user. -/
theorem execute_cases (known : ∀ home' ∈ io.home, home' = home) (whole : io.written = none)
    (component : Component command.host) :
    execute io files command = (false, files) ∨ execute io files command = (true,
      Function.update files (placeOf home command.host command.user) (contents command)) := by
  have located {path : CString}
      (built : hostUserConfigPath io command.host command.user = some path) :
      locate path = placeOf home command.host command.user := by
    obtain ⟨valid, -, home', given, rfl⟩ := hostUserConfigPath_some built
    rw [known home' given, locate_placeOf component valid]
  unfold execute contents
  cases clearing : command.clear with
  | true =>
    rw [if_pos rfl, if_pos rfl]
    unfold clearHostUserSendFromIp
    cases built : hostUserConfigPath io command.host command.user with
    | none => exact .inl rfl
    | some path =>
      dsimp only
      split
      · exact .inl rfl
      · rw [located built]
        exact .inr rfl
  | false =>
    rw [if_neg Bool.false_ne_true, if_neg Bool.false_ne_true]
    unfold saveHostUserSendFromIp
    split
    · exact .inl rfl
    cases built : hostUserConfigPath io command.host command.user with
    | none => exact .inl rfl
    | some path =>
      dsimp only
      split
      · exact .inl rfl
      · rw [whole, located built]
        exact .inr rfl

structure Issued (command : SendFromDefault) : Prop where
  hostFits : command.host.length ≤ 255
  userFits : command.user.length ≤ 127
  ipFits : command.ip.length ≤ 63
  single : command.clear = false → isSingleIpv4 command.ip = true

theorem parseCommand_issued {argv : List (Option CString)} {dump : Bool}
    (parsed : parseCommand argv = .ok (command, dump)) : Issued command := by
  unfold parseCommand at parsed
  split at parsed
  · cases parsed
  unfold parseSendFromDefault at parsed
  split at parsed
  · dsimp only at parsed
    split at parsed
    · cases parsed
    split at parsed
    · cases parsed
    rename_i single
    obtain ⟨rfl, -⟩ := Prod.mk.inj (Except.ok.inj parsed)
    exact ⟨List.length_take_le 255 _, List.length_take_le 127 _, List.length_take_le 63 _,
      fun _ => by simpa using single⟩
  · split at parsed
    · cases parsed
    obtain ⟨rfl, -⟩ := Prod.mk.inj (Except.ok.inj parsed)
    exact ⟨List.length_take_le 255 _, List.length_take_le 127 _, Nat.zero_le 63,
      fun setting => Bool.noConfusion setting⟩
  · cases parsed

structure Willing (home : CString) (io : Io) : Prop where
  known : io.home = some home
  ensureDir : io.ensureDir = true
  opens : io.opens = true
  unlinks : io.unlinks = true
  whole : io.written = none

theorem execute_willing (willing : Willing home io) (issued : Issued command)
    (built : hostUserConfigPath io command.host command.user ≠ none) :
    (execute io files command).1 = true := by
  obtain ⟨path, built⟩ := Option.ne_none_iff_exists'.mp built
  unfold execute
  split
  · unfold clearHostUserSendFromIp
    rw [built]
    dsimp only
    rw [willing.unlinks, if_neg Bool.noConfusion]
  · rename_i setting
    have single := issued.single (by simpa using setting)
    unfold saveHostUserSendFromIp
    rw [single, willing.ensureDir, if_neg (by simp), built]
    dsimp only
    rw [willing.opens, if_neg Bool.noConfusion, willing.whole]

/-- A run of the program in one home, on a disk with room for a line, at a host whose name is one
component of a path. -/
structure Named (home : CString) (now : Io × List (Option CString)) : Prop where
  known : ∀ home' ∈ now.1.home, home' = home
  whole : now.1.written = none
  component : ∀ command dump, parseCommand now.2 = .ok (command, dump) → Component command.host

theorem invoke_recorded {before : Files} {done : List SendFromDefault}
    {now : Io × List (Option CString)} (named : Named home now)
    (h : Recorded home before files done) :
    Recorded home before (invoke files now).1 (done ++ (invoke files now).2) := by
  have unchanged : Recorded home before files (done ++ []) := by rwa [List.append_nil]
  unfold invoke
  split
  · exact unchanged
  split
  · exact unchanged
  rename_i command dump parsed
  split
  · exact unchanged
  have component := named.component command dump parsed
  have issued := parseCommand_issued parsed
  rcases @execute_cases home now.1 files command named.known named.whole component with
    failed | ran
  · rw [failed]
    exact unchanged
  · rw [ran]
    exact recorded_next h fun setting => ⟨issued.single setting, issued.ipFits⟩

theorem run_recorded (before : Files) (commands : List (Io × List (Option CString)))
    (named : ∀ now ∈ commands, Named home now) :
    Recorded home before (run before commands).1 (run before commands).2 :=
  StepRuns.run_history (Named home) (fun _ _ _ now h => invoke_recorded now h) before
    recorded_start commands named

end Steps

section Follows

variable {home : CString} {before files : Files} {done : List SendFromDefault} {io : Io}
  {host user : CString}

theorem load_settings (h : Settings home before files done) (known : io.home = some home)
    (opens : io.opens = true) (component : Component host)
    (built : hostUserConfigPath io host user ≠ none) :
    loadHostUserSendFromIp io files host user 64 =
      standing (loadHostUserSendFromIp io before host user 64) done host user := by
  obtain ⟨path, built⟩ := Option.ne_none_iff_exists'.mp built
  obtain ⟨valid, -, home', given, rfl⟩ := hostUserConfigPath_some built
  obtain rfl := Option.some.inj (known.symm.trans given)
  have place := h.places host user component
  unfold loadHostUserSendFromIp
  rw [built]
  dsimp only
  rw [opens, if_neg Bool.noConfusion, if_neg Bool.noConfusion, locate_placeOf component valid,
    place]
  unfold standing
  cases last : lastFor done host user with
  | none => rfl
  | some command =>
    unfold contents
    dsimp only
    cases clearing : command.clear with
    | true => rfl
    | false =>
      obtain ⟨single, short⟩ := h.sound command (lastFor_mem last).1 clearing
      exact scan_settingText single short

theorem scan_single {lines : List CString} {ip : CString}
    (found : scanSettings 64 lines = .found ip) : isSingleIpv4 ip = true := by
  induction lines with
  | nil => cases found
  | cons line rest ih =>
    unfold scanSettings at found
    dsimp only at found
    split at found
    · exact ih found
    split at found
    · exact ih found
    rename_i key value kv
    split at found
    · exact ih found
    split at found
    · cases found
    rename_i single
    rw [Bool.not_eq_false] at single
    obtain ⟨literal, small, -⟩ := single_literal single
    have trimmed : trim value = value := by
      unfold splitKv at kv
      split at kv
      · obtain ⟨-, rfl⟩ := Prod.mk.inj (Option.some.inj kv)
        exact AppAllowlists.trim_trim _
      · cases kv
    obtain rfl := SendFrom.found.inj found
    rw [trimmed] at small
    have whole : lcpy value 64 = value := List.take_of_length_le (by omega)
    rwa [whole]

theorem load_single {ip : CString}
    (found : loadHostUserSendFromIp io files host user 64 = .found ip) :
    isSingleIpv4 ip = true := by
  unfold loadHostUserSendFromIp at found
  split at found
  · cases found
  split at found
  · cases found
  split at found
  · cases found
  · exact scan_single found

/-- What a setting means for a knock that names no address itself. -/
def outcome (host user : CString) : SendFrom → Except CString CString
  | .absent => .ok []
  | .invalid => .error (invalidSetting host user)
  | .found ip => .ok ip

theorem resolve_outcome (host_ne : host ≠ []) (user_ne : user ≠ []) (host_fits : host.length ≤ 255)
    (user_fits : user.length ≤ 127) : resolveSendFrom io files host user [] =
      outcome host user (loadHostUserSendFromIp io files host user 64) := by
  unfold resolveSendFrom
  dsimp only
  rw [List.take_of_length_le host_fits, List.take_of_length_le user_fits, List.take_nil,
    if_pos ⟨host_ne, user_ne, rfl⟩]
  cases found : loadHostUserSendFromIp io files host user 64 with
  | absent => rfl
  | invalid => rfl
  | found ip =>
    have single := load_single found
    dsimp only
    rw [if_neg fun refused => absurd (single.symm.trans refused.2) Bool.noConfusion]
    rfl

theorem run_snoc (now : Io × List (Option CString)) (fewer : List (Io × List (Option CString))) :
    run before (fewer ++ [now]) = ((invoke (run before fewer).1 now).1,
      (run before fewer).2 ++ (invoke (run before fewer).1 now).2) := by
  unfold run
  rw [StepRuns.run_append]
  simp [StepRuns.run]

/-- Knocks follow the settings as the commands that were carried out left them. -/
structure Follows (home : CString) (before : Files)
    (commands : List (Io × List (Option CString))) : Prop where
  resolves : ∀ (io : Io) host user, io.home = some home → io.opens = true → Component host →
    hostUserConfigPath io host user ≠ none → host.length ≤ 255 → user.length ≤ 127 →
    resolveSendFrom io (run before commands).1 host user [] =
      outcome host user (standing (loadHostUserSendFromIp io before host user 64)
        (run before commands).2 host user)
  settles : ∀ fewer now command (io : Io), commands = fewer ++ [now] →
    sendFromMode now.2 = true → parseCommand now.2 = .ok (command, false) →
    Willing home now.1 → hostUserConfigPath now.1 command.host command.user ≠ none →
    io.home = some home → io.opens = true →
    resolveSendFrom io (run before commands).1 command.host command.user [] =
      outcome command.host command.user (if command.clear then .absent else readBack command.ip)
  others : ∀ host user, (∀ command ∈ (run before commands).2, ¬ concerns host user command) →
    (run before commands).1 (placeOf home host user) = before (placeOf home host user)

theorem settings_resolve (h : Settings home before files done) (known : io.home = some home)
    (opens : io.opens = true) (component : Component host)
    (built : hostUserConfigPath io host user ≠ none) (hostFits : host.length ≤ 255)
    (userFits : user.length ≤ 127) : resolveSendFrom io files host user [] =
      outcome host user
        (standing (loadHostUserSendFromIp io before host user 64) done host user) := by
  have user_ne : user ≠ [] := by
    rintro rfl
    exact built rfl
  rw [resolve_outcome component.nonempty user_ne hostFits userFits,
    load_settings h known opens component built]

theorem send_from_followed (home : CString) (before : Files)
    (commands : List (Io × List (Option CString))) (named : ∀ now ∈ commands, Named home now) :
    Follows home before commands := by
  have recorded := run_recorded before commands named
  refine ⟨fun io host user known opens component built hostFits userFits => ?_, ?_,
    fun host user apart => recorded.others _ fun command member same => ?_⟩
  · exact settings_resolve recorded.toSettings known opens component built hostFits userFits
  · rintro fewer now command io rfl mode parsed willing built known opens
    have component := (named now (by simp)).component command false parsed
    have issued := parseCommand_issued parsed
    have carried := @execute_willing home now.1 (run before fewer).1 command willing issued built
    have told : (run before (fewer ++ [now])).2 = (run before fewer).2 ++ [command] := by
      rw [run_snoc]
      unfold invoke
      rw [mode, if_neg Bool.noConfusion, parsed]
      dsimp only
      rw [if_neg Bool.noConfusion, carried, if_pos rfl]
    have same_path : hostUserConfigPath io command.host command.user =
        hostUserConfigPath now.1 command.host command.user := by
      unfold hostUserConfigPath buildHostConfigPath buildConfigRootPath
      rw [known, willing.known]
    rw [settings_resolve recorded.toSettings known opens component (same_path ▸ built)
      issued.hostFits issued.userFits, told]
    unfold standing
    rw [lastFor_last ⟨rfl, rfl⟩]
  · obtain ⟨hosts, users⟩ := placeOf_inj same
    exact apart command member ⟨hosts.symm, users.symm⟩

end Follows

section Desk

def deskIo : Io := ⟨some (ascii "/h".toList), true, true, true, none⟩

def deskArgv (words : List String) : List (Option CString) :=
  (ascii "knocker".toList :: words.map fun word => ascii word.toList).map some

def deskCommands : List (Io × List (Option CString)) :=
  [(deskIo, deskArgv ["--send-from-default", "gate", "ann", "10.0.0.7"]),
    (deskIo, deskArgv ["--send-from-default", "gate", "bob", " 10.0.0.8"]),
    (deskIo, deskArgv ["--send-from-default-clear", "gate", "ann"])]

theorem desk_named {words : List String} {command : SendFromDefault}
    (parsed : parseCommand (deskArgv words) = .ok (command, false))
    (component : Component command.host) :
    Named (ascii "/h".toList) (deskIo, deskArgv words) := by
  refine ⟨fun home known => (Option.some.inj known).symm, rfl, fun other dump again => ?_⟩
  obtain ⟨rfl, -⟩ := Prod.mk.inj (Except.ok.inj (parsed.symm.trans again))
  exact component

theorem desk_follows : Follows (ascii "/h".toList) (fun _ => none) deskCommands ∧
    resolveSendFrom deskIo (run (fun _ => none) deskCommands).1 (ascii "gate".toList)
      (ascii "bob".toList) [] = .ok (ascii "10.0.0.8".toList) ∧
    resolveSendFrom deskIo (run (fun _ => none) deskCommands).1 (ascii "gate".toList)
      (ascii "ann".toList) [] = .ok [] := by
  have gate : Component (ascii "gate".toList) := ⟨by decide, by decide, by decide, by decide⟩
  refine ⟨send_from_followed _ _ _ ?_, by decide +kernel, by decide +kernel⟩
  simp only [deskCommands, List.forall_mem_cons]
  refine ⟨?_, ?_, ?_, fun now member => absurd member List.not_mem_nil⟩
  · exact @desk_named _ ⟨false, ascii "gate".toList, ascii "ann".toList,
      ascii "10.0.0.7".toList⟩ (by decide +kernel) gate
  · exact @desk_named _ ⟨false, ascii "gate".toList, ascii "bob".toList,
      ascii " 10.0.0.8".toList⟩ (by decide +kernel) gate
  · exact @desk_named _ ⟨true, ascii "gate".toList, ascii "ann".toList, []⟩
      (by decide +kernel) gate

end Desk

end Siglatch.KnockDefaults
