import Siglatch.AppConfigPolicy
import Siglatch.DaemonAllowlist

set_option autoImplicit false

namespace Siglatch.DaemonAscii
open MuxTypes AppConfig AppConfigPolicy KnockDigest DaemonTypes DaemonPayload DaemonAllowlist

def failingHandlers : Handlers where
  builtin runtime _ _ _ := (false, ⟨false, false, false, [], Nat.zero_lt_succ _⟩, runtime)
  runStatic _ _ _ _ := (false, ⟨false, false, false, [], Nat.zero_lt_succ _⟩)
  runDynamic _ _ _ _ := (false, ⟨false, false, false, [], Nat.zero_lt_succ _⟩)
  runShellWait _ _ _ _ := none
  runShellCapture _ _ _ _ := none

structure Idle (action : Action) : Prop where
  unbuilt : ¬ (action.handler = .builtin ∧ action.builtin ≠ [])
  unloaded : ¬ (action.handler = .static ∨ action.handler = .dynamic)
  commandless : action.constructor = []

section Dispatch

variable {runtime : Runtime} {job : Job} {user : User} {action : Action}

theorem dispatchAction_idle (idle : Idle action) (handlers : Handlers) :
    dispatchAction handlers runtime job user action = ⟨false, runtime, job⟩ := by
  unfold dispatchAction
  split
  · rfl
  · rw [if_neg idle.unbuilt, if_neg idle.unloaded]
    exact if_pos idle.commandless

theorem dispatchAction_ok (listening : runtime.listener.server ≠ none) (busy : ¬ Idle action) :
    (dispatchAction silentHandlers runtime job user action).ok = true ∧
    (dispatchAction failingHandlers runtime job user action).ok = false := by
  unfold dispatchAction
  rw [if_neg listening, if_neg listening]
  by_cases built : action.handler = .builtin ∧ action.builtin ≠ []
  · rw [if_pos built, if_pos built]
    exact ⟨rfl, rfl⟩
  rw [if_neg built, if_neg built]
  by_cases loaded : action.handler = .static ∨ action.handler = .dynamic
  · rw [if_pos loaded, if_pos loaded]
    by_cases compiled : action.handler = .static
    · rw [if_pos compiled, if_pos compiled]
      exact ⟨rfl, rfl⟩
    · rw [if_neg compiled, if_neg compiled]
      exact ⟨rfl, rfl⟩
  rw [if_neg loaded, if_neg loaded]
  have command : action.constructor ≠ [] := fun empty => busy ⟨built, loaded, empty⟩
  unfold dispatchShell
  rw [if_neg command, if_neg command]
  exact ⟨rfl, rfl⟩

end Dispatch

section Consume

variable (hash : Hash) {runtime : Runtime} {job : Job}

/-- The way to `dispatch_action` is the same whatever the handlers are. -/
theorem consume_dispatches (structured : job.wireVersion ≠ 0) {handlers : Handlers} {user : User}
    {action : Action}
    (h : (consume hash handlers runtime job).dispatched = some (user, action)) :
    ∃ after handed, after.listener = runtime.listener ∧ ∀ other : Handlers,
      consume hash other runtime job =
        ⟨(dispatchAction other after handed user action).ok,
          (dispatchAction other after handed user action).runtime,
          (dispatchAction other after handed user action).job, some (user, action)⟩ := by
  revert h
  unfold consume
  rw [if_neg structured]
  split
  · intro h
    cases h
  dsimp only
  split
  · intro h
    cases h
  split
  · intro h
    cases h
  split
  · intro h
    cases h
  · intro h
    obtain ⟨rfl, rfl⟩ := Prod.mk.inj (Option.some.inj h)
    refine ⟨_, _, ?_, fun other => rfl⟩
    rfl

theorem structured_runs_nothing_iff (structured : job.wireVersion ≠ 0) :
    RunsNothing hash runtime job ↔ ∀ server user action,
      Gate hash runtime.config runtime.listener job server user action → Idle action := by
  constructor
  · intro same server user action gate
    by_contra busy
    have reached := (consume_dispatched_iff hash silentHandlers runtime structured user
      action).mpr ⟨server, gate⟩
    obtain ⟨after, handed, listener, outcome⟩ := consume_dispatches hash structured reached
    have listening : after.listener.server ≠ none := by
      rw [listener, gate.listening]
      exact Option.some_ne_none server
    obtain ⟨done, failed⟩ := @dispatchAction_ok after handed user action listening busy
    have both := congrArg Consumed.ok (same silentHandlers failingHandlers)
    rw [outcome, outcome] at both
    exact absurd (done.symm.trans (both.trans failed)) Bool.noConfusion
  · intro idle handlers other
    cases reached : (consume hash handlers runtime job).dispatched with
    | none => exact consume_undispatched hash structured handlers other reached
    | some pair =>
      obtain ⟨user, action⟩ := pair
      obtain ⟨server, gate⟩ := (consume_dispatched_iff hash handlers runtime structured user
        action).mp reached
      have commandless := idle server user action gate
      obtain ⟨after, handed, -, outcome⟩ := consume_dispatches hash structured reached
      rw [outcome, outcome, dispatchAction_idle commandless, dispatchAction_idle commandless]

def serving (config : PolicyConfig) (runtime : Runtime) : Runtime :=
  { runtime with config := some config.served }

/-- The dead drop that takes a raw payload, or the action that a request names, asks for text. -/
def RequiresAscii (config : PolicyConfig) (runtime : Runtime) (job : Job) : Prop :=
  if job.wireVersion = 0 then ∃ server deaddrop matchLen, runtime.listener.server = some server ∧
    deaddropStartsWithBuffer runtime.config server job.request.payload =
      some (deaddrop, matchLen) ∧ deaddrop.requireAscii = true
  else ∃ action, config.actionById job.request.actionId.toUInt32 = some action ∧
    action.requireAscii = true

/-- A payload that is not text starts nothing that asks for text. -/
def AsciiKept (config : PolicyConfig) (runtime : Runtime) (job : Job) : Prop :=
  RequiresAscii config runtime job → isAscii job.request.payload = false →
    RunsNothing hash runtime job

theorem raw_kept (config : PolicyConfig) (raw : job.wireVersion = 0) :
    AsciiKept hash config runtime job := by
  intro requires other
  unfold RequiresAscii at requires
  rw [if_pos raw] at requires
  obtain ⟨server, deaddrop, matchLen, listening, taken, strict⟩ := requires
  rw [raw_runs_nothing_iff hash listening raw]
  unfold deaddropTaking
  rw [taken]
  dsimp only
  rw [strict, other]
  rfl

/-- The flag of a dead drop is honoured. That of an action is not read where requests are served:
a payload that is not text is kept from an action that asks for text only where nothing would have
run anyway. -/
theorem ascii_kept_iff (config : PolicyConfig) (runtime : Runtime) (job : Job) :
    AsciiKept hash config (serving config runtime) job ↔
      job.wireVersion = 0 ∨ isAscii job.request.payload = true ∨
      ¬ RequiresAscii config (serving config runtime) job ∨
      ∀ server user action, Gate hash (some config.served) runtime.listener job server user action →
        Idle action := by
  constructor
  · intro kept
    by_cases raw : job.wireVersion = 0
    · exact Or.inl raw
    by_cases text : isAscii job.request.payload = true
    · exact Or.inr (Or.inl text)
    by_cases requires : RequiresAscii config (serving config runtime) job
    · have nothing := kept requires (Bool.eq_false_iff.mpr text)
      exact Or.inr (Or.inr (Or.inr ((structured_runs_nothing_iff hash raw).mp nothing)))
    · exact Or.inr (Or.inr (Or.inl requires))
  · intro condition
    by_cases raw : job.wireVersion = 0
    · exact raw_kept hash config raw
    intro requires other
    rcases condition with wire | text | free | idle
    · exact absurd wire raw
    · rw [text] at other
      cases other
    · exact absurd requires free
    · exact (structured_runs_nothing_iff hash raw).mpr idle

end Consume

section Sample

def textConfig : PolicyConfig where
  payloadOverflow := .reject
  users := [alice]
  actions := [⟨openDoor, true, .inherit⟩]
  servers := [⟨frontServer, .inherit⟩]
  deaddrops := []
  rooted := by decide

/-- The request with the payload 1, 2, 3 opens it. -/
theorem binary_opens_door :
    RequiresAscii textConfig (serving textConfig frontRuntime) doorRequest ∧
    isAscii doorRequest.request.payload = false ∧
    ¬ RunsNothing plainHash (serving textConfig frontRuntime) doorRequest := by
  refine ⟨?_, by decide, ?_⟩
  · have structured : doorRequest.wireVersion ≠ 0 := by decide
    unfold RequiresAscii
    rw [if_neg structured]
    exact ⟨⟨openDoor, true, .inherit⟩, rfl, rfl⟩
  · intro same
    have opened : (consume plainHash silentHandlers (serving textConfig frontRuntime)
      doorRequest).ok = true := by decide +kernel
    have failed : (consume plainHash failingHandlers (serving textConfig frontRuntime)
      doorRequest).ok = false := by decide +kernel
    rw [same silentHandlers failingHandlers, failed] at opened
    cases opened

end Sample

end Siglatch.DaemonAscii
