import Siglatch.DaemonGrants
import Siglatch.DaemonHandlers

set_option autoImplicit false

namespace Siglatch.DaemonPrograms
open MuxTypes AppConfig KnockDigest DaemonTypes DaemonPayload AppConfigForm DaemonLoop DaemonPolicy
open AppRuntime StepRuns RelatedLists PayloadShell ProcessUser AppObject DaemonHandlers DaemonGrants

section Externals

/-- Code from outside the daemon and whose process runs it. A program has its command, an object's
handler has none. -/
structure External where
  runAs : CString
  credentials : Credentials
  command : Option Exec

def ofProgram (outer : Outer) (launch : Launch) (runAs : CString) : Option External :=
  (program outer launch runAs).map fun started =>
    ⟨runAs, started.credentials, some started.command⟩

def ofObject (outer : Outer) (runtime : Runtime) (job : Job) (user : User) (action : Action) :
    Option External :=
  if outer.machine.pipe && outer.machine.fork then
    let forked := child outer.machine (buildContext runtime job user action)
      (action.handler == .dynamic)
    forked.handler.map fun _ => ⟨action.runAs, forked.credentials, none⟩
  else none

def actionExternal (outer : Outer) (runtime : Runtime) (job : Job) (user : User)
    (action : Action) : Option External :=
  if action.handler = .builtin ∧ action.builtin ≠ [] then none
  else if action.handler = .static ∨ action.handler = .dynamic then
    ofObject outer runtime job user action
  else if action.constructor = [] then none
  else ofProgram outer (shellLaunch outer runtime job user action) action.runAs

def deaddropExternal (outer : Outer) (runtime : Runtime) (job : Job) : Option External :=
  match runtime.listener.server with
  | none => none
  | some server =>
    match deaddropStartsWithBuffer runtime.config server job.request.payload with
    | none => none
    | some (deaddrop, matchLen) =>
      if deaddrop.requireAscii && !isAscii job.request.payload then none
      else ofProgram outer (deaddropLaunch outer runtime job deaddrop matchLen) deaddrop.runAs

def external (outer : Outer) (hash : Hash) (record : Processed) : Option External :=
  if record.job.wireVersion = 0 then deaddropExternal outer record.before record.job
  else record.done.dispatched.bind fun (user, action) =>
    actionExternal outer (handed hash record.before record.job).1
      (handed hash record.before record.job).2 user action

variable {outer : Outer} {runtime : Runtime} {job : Job} {user : User} {action : Action}
  {code : External}

theorem program_guarded {launch : Launch} {runAs : CString} {started : Program}
    (short : runAs.length < 64) (runs : program outer launch runAs = some started)
    (entered : (enter outer.machine.toHost outer.machine.credentials runAs).1 = true) :
    Guarded outer.machine started.credentials runAs := by
  obtain ⟨-, same⟩ := program_some runs
  rw [same]
  exact entered_guarded short entered

theorem child_guarded {machine : Machine} {ctx : ObjectContext} {isDynamic : Bool}
    (short : ctx.action.runAs.length < 64)
    (calls : (child machine ctx isDynamic).handler ≠ none) :
    Guarded machine (child machine ctx isDynamic).credentials ctx.action.runAs := by
  cases entered : (enter machine.toHost machine.credentials ctx.action.runAs).1 with
  | false => exact absurd (child_refused entered).1 calls
  | true =>
    have same : (child machine ctx isDynamic).credentials =
        (enter machine.toHost machine.credentials ctx.action.runAs).2 := by
      unfold child
      dsimp only
      rw [if_neg (by rw [entered]; decide)]
    rw [same]
    exact entered_guarded short entered

theorem actionExternal_guarded (short : action.runAs.length < 64)
    (runs : actionExternal outer runtime job user action = some code) :
    code.runAs = action.runAs ∧ Guarded outer.machine code.credentials code.runAs := by
  unfold actionExternal at runs
  split at runs
  · cases runs
  split at runs
  · unfold ofObject at runs
    split at runs
    · obtain ⟨handler, calls, rfl⟩ := Option.map_eq_some_iff.mp runs
      exact ⟨rfl, child_guarded short (by rw [calls]; exact Option.some_ne_none handler)⟩
    · cases runs
  split at runs
  · cases runs
  · obtain ⟨started, found, rfl⟩ := Option.map_eq_some_iff.mp runs
    exact ⟨rfl, program_guarded short found (shellLaunch_entered found).1⟩

/-- A dead drop is one that its server lists and whose mark the payload bears. -/
theorem deaddropExternal_found (runs : deaddropExternal outer runtime job = some code) :
    ∃ server deaddrop matchLen started, runtime.listener.server = some server ∧
      deaddrop.name ∈ server.deaddrops ∧
      deaddropByName runtime.config deaddrop.name = some deaddrop ∧ deaddrop.enabled = true ∧
      (∃ mark ∈ deaddrop.startsWith, mark <+: job.request.payload) ∧
      program outer (deaddropLaunch outer runtime job deaddrop matchLen) deaddrop.runAs =
        some started ∧ code = ⟨deaddrop.runAs, started.credentials, some started.command⟩ := by
  unfold deaddropExternal at runs
  split at runs
  · cases runs
  rename_i server listening
  split at runs
  · cases runs
  rename_i deaddrop matchLen found
  split at runs
  · cases runs
  obtain ⟨started, launched, rfl⟩ := Option.map_eq_some_iff.mp runs
  unfold deaddropStartsWithBuffer at found
  split at found
  · cases found
  obtain ⟨allowed, listed, taken⟩ := List.exists_of_findSome?_eq_some found
  cases known : deaddropByName runtime.config allowed with
  | none =>
    rw [known] at taken
    cases taken
  | some own =>
    rw [known] at taken
    dsimp only at taken
    split at taken
    · rename_i enabled
      obtain ⟨mark, marks, same⟩ := Option.map_eq_some_iff.mp taken
      obtain ⟨rfl, rfl⟩ := Prod.mk.inj same
      have name : own.name = allowed := by
        cases config : runtime.config with
        | none =>
          rw [config] at known
          cases known
        | some cfg =>
          rw [config] at known
          have same := List.find?_some (p := fun d : Deaddrop => d.name == allowed) known
          exact beq_iff_eq.mp same
      have bears := List.find?_some (p := fun m : Bytes => m.isPrefixOf job.request.payload) marks
      rw [← name] at listed known
      exact ⟨server, own, _, started, listening, listed, known, enabled,
        ⟨mark, List.mem_of_find?_eq_some marks, List.isPrefixOf_iff_prefix.mp bears⟩, launched,
        rfl⟩
    · cases taken

end Externals

section Runs

/-- What the rules say of a request that code is run for: its user may ask for the action, or its
payload bears the mark of a dead drop that the daemon's server lists. The account is the one that is
named there. -/
def Asked (rules : Config) (hash : Hash) (record : Processed) (runAs : CString) : Prop :=
  (∃ user action, record.done.dispatched = some (user, action) ∧
    Granted rules hash record.job user action ∧ runAs = action.runAs) ∨
  record.job.wireVersion = 0 ∧ ∃ deaddrop ∈ rules.deaddrops, deaddrop.enabled = true ∧
    (∃ server ∈ rules.servers, ∃ active, record.before.listener.server = some active ∧
      SameGrants server active ∧ deaddrop.name ∈ server.deaddrops) ∧
    (∃ mark ∈ deaddrop.startsWith, mark <+: record.job.request.payload) ∧
    runAs = deaddrop.runAs

variable {rules : Config} {hash : Hash} {outer : Outer} {code : External}

theorem external_guarded {record : Processed} (form : WellFormed rules)
    (inForce : InForce rules record.before)
    (granted : ∀ user action, record.done.dispatched = some (user, action) →
      Granted rules hash record.job user action)
    (runs : external outer hash record = some code) :
    Guarded outer.machine code.credentials code.runAs ∧ Asked rules hash record code.runAs := by
  unfold external at runs
  split at runs
  · rename_i raw
    obtain ⟨server, deaddrop, matchLen, started, listening, listed, known, enabled, marks, found,
      rfl⟩ := deaddropExternal_found runs
    obtain ⟨cfg, config, keeps, serving⟩ := inForce
    have member : deaddrop ∈ rules.deaddrops := by
      rw [config] at known
      rw [← keeps.deaddrops]
      exact List.mem_of_find?_eq_some known
    obtain ⟨own, mine, grants⟩ := related_right keeps.servers
      (List.mem_of_find?_eq_some (serving server listening))
    have offers : deaddrop.name ∈ own.deaddrops := by
      rw [← grants.same] at listed
      exact listed
    exact ⟨program_guarded (form.deaddrops deaddrop member).runAs found
      (deaddropLaunch_entered found).1,
      .inr ⟨raw, deaddrop, member, enabled, ⟨own, mine, server, listening, grants, offers⟩,
        marks, rfl⟩⟩
  · obtain ⟨⟨user, action⟩, dispatched, starts⟩ := Option.bind_eq_some_iff.mp runs
    have allowed := granted user action dispatched
    have member : action ∈ rules.actions := List.mem_of_find?_eq_some allowed.action_known
    obtain ⟨account, guarded⟩ :=
      actionExternal_guarded (form.actions action member).1.runAs starts
    exact ⟨guarded, .inl ⟨user, action, dispatched, allowed, account⟩⟩

def porterHost : Host where
  getpwnam name := if name = ascii "porter".toList then some ⟨name, 1001, 1001⟩ else none
  named := by
    intro name entry found
    split at found
    · cases found
      rfl
    · cases found
  groupsOf _ := [27]
  grants _ := true

def porterOuter : Outer where
  machine := ⟨porterHost, ⟨.all ROOT, .all ROOT, []⟩, fun _ => none, true, true⟩
  system := ⟨true, true, fun _ => false, true, some [], some (.exited 0)⟩

theorem porter_called : (requests (some porterLoop) porterRun).any (fun p =>
    (external porterOuter p.1.turn.world.hash p.2).isSome) = true := by
  decide +kernel

/-- Alice's knock has the door opened by the porter, with `hi` for its last argument. -/
example : (requests (some porterLoop) porterRun).map (fun p =>
    (external porterOuter p.1.turn.world.hash p.2).map fun code =>
      (code.runAs, code.credentials.user.effective, code.command.map (·.argv))) =
    [some (ascii "porter".toList, 1001, some [ascii "/open".toList, ascii "10.1.2.3".toList,
      ascii "3".toList, ascii "alice".toList, ascii "7".toList, ascii "open".toList,
      ascii "0".toList, ascii "aGk=".toList])] := by
  decide +kernel

end Runs

end Siglatch.DaemonPrograms
