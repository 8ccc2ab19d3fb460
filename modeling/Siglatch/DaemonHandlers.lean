import Siglatch.AppObject
import Siglatch.LibBase64
import Siglatch.PayloadShell

set_option autoImplicit false

namespace Siglatch.DaemonHandlers
open MuxTypes AppConfig DaemonTypes DaemonPayload LibStr LibBase64 PayloadShell PipeChannel
open ProcessUser AppObject SextetCode

/-- What the handlers that leave the daemon meet: the machine with its accounts, and how the calls
of a launch come out. -/
structure Outer where
  machine : Machine
  system : System

/-- The launchers drop privileges by way of the accounts. -/
def Outer.shell (outer : Outer) : System :=
  { outer.system with
    dropToName := fun name => (dropToName outer.machine.toHost outer.machine.credentials name).1 }

section Arguments

def base64Text (sizeOf : ℕ → Option ℕ) (payload : Bytes) : Option CString :=
  if payload.length = 0 then some []
  else
    match sizeOf payload.length with
    | none => none
    | some size =>
      let (count, memory) := base64Encode payload size fun _ => 0
      if count < 0 then none else some (cString ((List.range size).map memory))

def encryptedText (server : Server) : CString := ascii (if server.secure then ['1'] else ['0'])

def shellArgv (server : Server) (job : Job) (user : User) (action : Action) (text : CString) :
    List CString :=
  [job.ip, decimalText job.request.userId.toNat, user.name, decimalText job.request.actionId.toNat,
    action.name, encryptedText server, text]

def deaddropArgv (server : Server) (job : Job) (deaddrop : Deaddrop) (text : CString) :
    List CString :=
  [job.ip, deaddrop.name, encryptedText server, text]

theorem text_clean (payload : Bytes) : 0 ∉ LibBase64.text payload := by
  intro member
  rcases encode_mem member with padding | ⟨i, small, char⟩
  · cases padding
  · have letters : ∀ i < 64, (0 : UInt8) ≠ tableChar i := by decide +kernel
    exact letters i small char

theorem range_written (memory : Memory) (bytes : List UInt8) :
    (List.range bytes.length).map (written memory 0 bytes) = bytes := by
  apply List.ext_getElem
  · rw [List.length_map, List.length_range]
  · intro k _ inside
    rw [List.getElem_map, List.getElem_range]
    unfold written
    rw [if_pos (Nat.zero_le k), Nat.sub_zero, List.getElem?_eq_getElem inside, Option.getD_some]

/-- The text that is handed on is the payload's. -/
theorem base64Text_short {payload : Bytes} (short : payload.length ≤ 1610612733) :
    base64Text base64Size payload = some (LibBase64.text payload) := by
  unfold base64Text
  split
  · rename_i empty
    rw [List.length_eq_zero_iff.mp empty]
    rfl
  · have handed := handedOff_short short
    have size : (LibBase64.text payload).length + 1 =
        (LibBase64.text payload ++ [0]).length := by
      rw [List.length_append, List.length_singleton]
    have count : ¬ ((LibBase64.text payload).length : ℤ) < 0 := by omega
    rw [handed.size]
    dsimp only
    rw [handed.fits]
    dsimp only
    rw [if_neg count, size, range_written]
    unfold cString
    rw [List.takeWhile_append_of_pos]
    · simp
    · intro c member
      exact decide_eq_true fun zero => text_clean payload (zero ▸ member)

end Arguments

section Launches

def unlaunched : Launch := ⟨false, .unspawned, none, []⟩

/-- The part of `dispatch_action` that runs the action's program. -/
def shellLaunch (outer : Outer) (runtime : Runtime) (job : Job) (user : User) (action : Action) :
    Launch :=
  match runtime.listener.server, base64Text daemonPayloadBase64Size job.request.payload with
  | some server, some text => PayloadShell.runShellWait outer.shell action.constructor
      (shellArgv server job user action text) action.execSplit action.runAs
  | _, _ => unlaunched

/-- The part of `unstructured_handle` that runs a dead drop's program on what follows its mark. -/
def deaddropLaunch (outer : Outer) (runtime : Runtime) (job : Job) (deaddrop : Deaddrop)
    (matchLen : ℕ) : Launch :=
  match runtime.listener.server,
    base64Text unstructuredBase64Size (job.request.payload.drop matchLen) with
  | some server, some text => PayloadShell.runShellCapture outer.shell deaddrop.constructor
      (deaddropArgv server job deaddrop text) deaddrop.execSplit deaddrop.runAs
      APP_JOB_RESPONSE_BLOCK_SIZE
  | _, _ => unlaunched

structure Program where
  command : Exec
  credentials : Credentials

def program (outer : Outer) (launch : Launch) (runAs : CString) : Option Program :=
  match launch.child with
  | .execs command =>
    some ⟨command, (enter outer.machine.toHost outer.machine.credentials runAs).2⟩
  | _ => none

theorem captureChunk_take (outCap : ℕ) (read chunk : Bytes) :
    captureChunk outCap (read.take outCap) chunk = (read ++ chunk).take outCap := by
  unfold captureChunk
  split
  · rename_i room
    rw [List.length_take] at room ⊢
    have short : read.length ≤ outCap := by omega
    rw [List.take_append, List.take_of_length_le short, Nat.min_eq_right short]
  · rename_i full
    rw [List.length_take] at full
    rw [List.take_append_of_le_length (by omega)]

theorem capture_take (outCap : ℕ) (chunks : List Bytes) :
    chunks.foldl (captureChunk outCap) [] = chunks.flatten.take outCap := by
  have step : ∀ read : Bytes, chunks.foldl (captureChunk outCap) (read.take outCap) =
      (read ++ chunks.flatten).take outCap := by
    induction chunks with
    | nil =>
      intro read
      rw [List.flatten_nil, List.append_nil]
      rfl
    | cons chunk chunks ih =>
      intro read
      rw [List.foldl_cons, captureChunk_take, ih, List.flatten_cons, List.append_assoc]
  have all := step []
  rw [List.take_nil, List.nil_append] at all
  exact all

theorem runShellCapture_fits (sys : System) (scriptPath : CString) (argv : List CString)
    (execSplit : Bool) (runAs : CString) (outCap : ℕ) :
    (PayloadShell.runShellCapture sys scriptPath argv execSplit runAs outCap).output.length ≤
      outCap := by
  unfold PayloadShell.runShellCapture
  split
  · exact Nat.zero_le _
  split
  · exact Nat.zero_le _
  split
  · exact Nat.zero_le _
  split
  · exact Nat.zero_le _
  split
  · exact Nat.zero_le _
  split
  · exact Nat.zero_le _
  · dsimp only
    rw [capture_take]
    exact List.length_take_le _ _

theorem deaddropLaunch_fits (outer : Outer) (runtime : Runtime) (job : Job) (deaddrop : Deaddrop)
    (matchLen : ℕ) : (deaddropLaunch outer runtime job deaddrop matchLen).output.length ≤
      APP_JOB_RESPONSE_BLOCK_SIZE := by
  unfold deaddropLaunch
  split
  · exact runShellCapture_fits _ _ _ _ _ _
  · exact Nat.zero_le _

/-- The handlers of a daemon whose calls come out so, request by request. An object answers what
some run of its fork returns. -/
structure Real (outer : Runtime → Job → Outer) (handlers : Handlers) : Prop where
  static : ∀ runtime job user action, ∃ ops,
    AppObject.runStatic (outer runtime job).machine (buildContext runtime job user action)
      ops = some (handlers.runStatic runtime job user action)
  dynamic : ∀ runtime job user action, ∃ ops,
    AppObject.runDynamic (outer runtime job).machine (buildContext runtime job user action)
      ops = some (handlers.runDynamic runtime job user action)
  shell : ∀ runtime job user action, handlers.runShellWait runtime job user action =
    let launch := shellLaunch (outer runtime job) runtime job user action
    if launch.ok then launch.exitCode.map Int.ofNat else none
  capture : ∀ runtime job deaddrop matchLen,
    handlers.runShellCapture runtime job deaddrop matchLen =
      let launch := deaddropLaunch (outer runtime job) runtime job deaddrop matchLen
      if launch.ok then
        some ⟨launch.output, deaddropLaunch_fits (outer runtime job) runtime job deaddrop matchLen⟩
      else none

end Launches

section Identity

variable {outer : Outer} {scriptPath : CString} {argv : List CString} {execSplit : Bool}
  {runAs : CString} {command : Exec}

theorem entered_of_willing (willing : ¬ (runAs ≠ [] ∧ outer.shell.dropToName runAs = false)) :
    (enter outer.machine.toHost outer.machine.credentials runAs).1 = true := by
  unfold enter
  split
  · rfl
  · rename_i asked
    by_contra refused
    have denied : (dropToName outer.machine.toHost outer.machine.credentials runAs).1 = false := by
      simpa using refused
    exact willing ⟨asked, denied⟩

theorem runShellWait_entered
    (execs : (PayloadShell.runShellWait outer.shell scriptPath argv execSplit runAs).child =
      .execs command) :
    (enter outer.machine.toHost outer.machine.credentials runAs).1 = true ∧
      finalCommand scriptPath argv execSplit = some command := by
  unfold PayloadShell.runShellWait at execs
  split at execs
  · cases execs
  split at execs
  · cases execs
  rename_i final made
  have forked : forkExec outer.shell final runAs = .execs command := by
    split at execs
    · cases execs
    · split at execs
      · exact execs
      · exact execs
  unfold forkExec at forked
  split at forked
  · cases forked
  split at forked
  · cases forked
  · rename_i willing
    cases forked
    exact ⟨entered_of_willing willing, made⟩

theorem runShellCapture_entered {outCap : ℕ}
    (execs : (PayloadShell.runShellCapture outer.shell scriptPath argv execSplit runAs
      outCap).child = .execs command) :
    (enter outer.machine.toHost outer.machine.credentials runAs).1 = true ∧
      finalCommand scriptPath argv execSplit = some command := by
  unfold PayloadShell.runShellCapture at execs
  split at execs
  · cases execs
  split at execs
  · cases execs
  split at execs
  · cases execs
  rename_i final made
  have forked : captureExec outer.shell final runAs = .execs command := by
    split at execs
    · cases execs
    split at execs
    · exact execs
    split at execs
    · exact execs
    · exact execs
  unfold captureExec at forked
  split at forked
  · cases forked
  split at forked
  · cases forked
  rename_i willing
  split at forked
  · cases forked
  · cases forked
    exact ⟨entered_of_willing willing, made⟩

theorem program_some {launch : Launch} {started : Program}
    (runs : program outer launch runAs = some started) : launch.child = .execs started.command ∧
      started.credentials = (enter outer.machine.toHost outer.machine.credentials runAs).2 := by
  unfold program at runs
  split at runs
  · rename_i found
    cases runs
    exact ⟨found, rfl⟩
  · cases runs

theorem shellLaunch_entered {runtime : Runtime} {job : Job} {user : User} {action : Action}
    {started : Program} (runs : program outer (shellLaunch outer runtime job user action)
      action.runAs = some started) :
    (enter outer.machine.toHost outer.machine.credentials action.runAs).1 = true ∧
      ∃ server text, runtime.listener.server = some server ∧
        base64Text daemonPayloadBase64Size job.request.payload = some text ∧
        finalCommand action.constructor (shellArgv server job user action text) action.execSplit =
          some started.command := by
  obtain ⟨execs, -⟩ := program_some runs
  unfold shellLaunch at execs
  split at execs
  · rename_i server text serving fits
    obtain ⟨entered, made⟩ := runShellWait_entered execs
    exact ⟨entered, server, text, serving, fits, made⟩
  · cases execs

theorem deaddropLaunch_entered {runtime : Runtime} {job : Job} {deaddrop : Deaddrop}
    {matchLen : ℕ} {started : Program} (runs : program outer
      (deaddropLaunch outer runtime job deaddrop matchLen) deaddrop.runAs = some started) :
    (enter outer.machine.toHost outer.machine.credentials deaddrop.runAs).1 = true ∧
      ∃ server text, runtime.listener.server = some server ∧
        base64Text unstructuredBase64Size (job.request.payload.drop matchLen) = some text ∧
        finalCommand deaddrop.constructor (deaddropArgv server job deaddrop text)
          deaddrop.execSplit = some started.command := by
  obtain ⟨execs, -⟩ := program_some runs
  unfold deaddropLaunch at execs
  split at execs
  · rename_i server text serving fits
    obtain ⟨entered, made⟩ := runShellCapture_entered execs
    exact ⟨entered, server, text, serving, fits, made⟩
  · cases execs

/-- Whose process code from outside the daemon gets, and that it is so for good. -/
structure Guarded (machine : Machine) (after : Credentials) (runAs : CString) : Prop where
  runsAs : RunsAs machine.toHost machine.credentials after runAs
  barred : runAs ≠ [] → machine.credentials.user.effective = ROOT →
    (∀ entry, machine.getpwnam runAs = some entry → entry.uid ≠ ROOT) →
    ∀ calls, (ProcessCredentials.attempts ROOT after calls).privileged ROOT = false

theorem entered_guarded {machine : Machine} (short : runAs.length < 64)
    (entered : (enter machine.toHost machine.credentials runAs).1 = true) :
    Guarded machine (enter machine.toHost machine.credentials runAs).2 runAs := by
  have runsAs := enter_runsAs short entered
  refine ⟨runsAs, ?_⟩
  intro asked root other calls
  rcases runsAs with nobody | ⟨-, entry, found, settled⟩
  · exact absurd nobody.1 asked
  · by_contra again
    rcases settled.regains_iff.mp ⟨calls, by simpa using again⟩ with same | kept
    · exact other entry found same
    · exact kept.1 root

end Identity

end Siglatch.DaemonHandlers
