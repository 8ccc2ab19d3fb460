import Siglatch.MuxTypes
import Mathlib.Data.List.TakeWhile

set_option autoImplicit false

namespace Siglatch.PayloadShell
open MuxTypes

structure Exec where
  path : CString
  argv : List CString
  deriving DecidableEq

def parseCmd (input : CString) (cmdSize argSize : ℕ) : Option (CString × CString) :=
  if cmdSize = 0 ∨ argSize = 0 then none
  else
    let body := input.dropWhile (· = 32)
    let cmd := body.takeWhile (· ≠ 32)
    if cmdSize ≤ cmd.length then none
    else
      let arg := (body.drop cmd.length).dropWhile (· = 32)
      some (cmd, if argSize ≤ arg.length then arg.take (argSize - 1) else arg)

/-- The command the three launchers put together before they fork. -/
def finalCommand (scriptPath : CString) (argv : List CString) (execSplit : Bool) : Option Exec :=
  if execSplit && scriptPath.contains 32 then
    match parseCmd scriptPath 128 256 with
    | none => none
    | some (cmd, script) =>
      some ⟨cmd, cmd :: (if script ≠ [] ∧ cmd ≠ script then [script] else []) ++ argv⟩
  else some ⟨scriptPath, scriptPath :: argv⟩

inductive WaitStatus where
  | exited (code : ℕ)
  | signaled (signal : ℕ)
  | other

/-- How the system answers the calls a launch makes. An interrupted call is made again, so
    what is given here is the last answer. -/
structure System where
  pipe : Bool
  fork : Bool
  dropToName : CString → Bool
  dup2 : Bool
  read : Option (List Bytes)
  waitpid : Option WaitStatus

/-- What becomes of the child: it is not there, it leaves with 126, or it calls `execv`. -/
inductive Child where
  | unspawned
  | stopped
  | execs (command : Exec)
  deriving DecidableEq

def forkExec (sys : System) (command : Exec) (runAs : CString) : Child :=
  if sys.fork = false then .unspawned
  else if runAs ≠ [] ∧ sys.dropToName runAs = false then .stopped
  else .execs command

def waitpidExitCode (sys : System) : Option ℕ :=
  match sys.waitpid with
  | none => none
  | some (.exited code) => some code
  | some (.signaled signal) => some (128 + signal)
  | some .other => some 127

/-- The child and what the caller is given. An exit code of `none` is left as it was. -/
structure Launch where
  ok : Bool
  child : Child
  exitCode : Option ℕ
  output : Bytes

def runShell (sys : System) (scriptPath : CString) (argv : List CString) (execSplit : Bool)
    (runAs : CString) : Launch :=
  if argv = [] then ⟨false, .unspawned, none, []⟩
  else
    match finalCommand scriptPath argv execSplit with
    | none => ⟨false, .unspawned, none, []⟩
    | some command =>
      match forkExec sys command runAs with
      | .unspawned => ⟨false, .unspawned, none, []⟩
      | child => ⟨true, child, none, []⟩

def runShellWait (sys : System) (scriptPath : CString) (argv : List CString) (execSplit : Bool)
    (runAs : CString) : Launch :=
  if argv = [] then ⟨false, .unspawned, none, []⟩
  else
    match finalCommand scriptPath argv execSplit with
    | none => ⟨false, .unspawned, some 127, []⟩
    | some command =>
      match forkExec sys command runAs with
      | .unspawned => ⟨false, .unspawned, some 127, []⟩
      | child =>
        match waitpidExitCode sys with
        | none => ⟨false, child, some 127, []⟩
        | some exitCode => ⟨true, child, some exitCode, []⟩

/-- What fits in the caller's buffer is kept, the rest is read and dropped. -/
def captureChunk (outCap : ℕ) (out chunk : Bytes) : Bytes :=
  if out.length < outCap then out ++ chunk.take (outCap - out.length) else out

def captureExec (sys : System) (command : Exec) (runAs : CString) : Child :=
  if sys.fork = false then .unspawned
  else if runAs ≠ [] ∧ sys.dropToName runAs = false then .stopped
  else if sys.dup2 = false then .stopped
  else .execs command

def runShellCapture (sys : System) (scriptPath : CString) (argv : List CString)
    (execSplit : Bool) (runAs : CString) (outCap : ℕ) : Launch :=
  if argv = [] ∨ outCap = 0 then ⟨false, .unspawned, none, []⟩
  else if sys.pipe = false then ⟨false, .unspawned, some 127, []⟩
  else
    match finalCommand scriptPath argv execSplit with
    | none => ⟨false, .unspawned, some 127, []⟩
    | some command =>
      match captureExec sys command runAs with
      | .unspawned => ⟨false, .unspawned, some 127, []⟩
      | child =>
        match sys.read with
        | none => ⟨false, child, some 127, []⟩
        | some chunks =>
          match waitpidExitCode sys with
          | none => ⟨false, child, some 127, []⟩
          | some exitCode => ⟨true, child, some exitCode, chunks.foldl (captureChunk outCap) []⟩

def token (scriptPath : CString) : CString :=
  (scriptPath.dropWhile (· = 32)).takeWhile (· ≠ 32)

def remainder (scriptPath : CString) : CString :=
  ((scriptPath.dropWhile (· = 32)).dropWhile (· ≠ 32)).dropWhile (· = 32)

def commanded (scriptPath : CString) (argv : List CString) (execSplit : Bool) : Exec :=
  if execSplit then
    ⟨token scriptPath, token scriptPath ::
      (if remainder scriptPath = [] then [] else [remainder scriptPath]) ++ argv⟩
  else ⟨scriptPath, scriptPath :: argv⟩

/-- The child is the configured one, or it is missing and the caller is told. The system is the
    only one that stops a child. -/
def Launch.Keeps (launch : Launch) (command : Exec) (refused : Prop) : Prop :=
  match launch.child with
  | .unspawned => launch.ok = false
  | .stopped => refused
  | .execs exec => exec = command

def Refuses (sys : System) (runAs : CString) : Prop :=
  runAs ≠ [] ∧ sys.dropToName runAs = false

structure Willing (sys : System) (runAs : CString) : Prop where
  pipe : sys.pipe = true
  fork : sys.fork = true
  drop : ¬ Refuses sys runAs
  dup2 : sys.dup2 = true

structure Faithful (scriptPath : CString) (argv : List CString) (execSplit : Bool) : Prop where
  shell : ∀ sys runAs, (runShell sys scriptPath argv execSplit runAs).Keeps
    (commanded scriptPath argv execSplit) (Refuses sys runAs)
  wait : ∀ sys runAs, (runShellWait sys scriptPath argv execSplit runAs).Keeps
    (commanded scriptPath argv execSplit) (Refuses sys runAs)
  capture : ∀ sys runAs outCap, (runShellCapture sys scriptPath argv execSplit runAs outCap).Keeps
    (commanded scriptPath argv execSplit) (Refuses sys runAs ∨ sys.dup2 = false)
  same : ∀ sys runAs outCap, Willing sys runAs → outCap ≠ 0 →
    (runShellWait sys scriptPath argv execSplit runAs).child =
        (runShell sys scriptPath argv execSplit runAs).child ∧
      (runShellCapture sys scriptPath argv execSplit runAs outCap).child =
        (runShell sys scriptPath argv execSplit runAs).child

theorem drop_takeWhile {α : Type} (p : α → Bool) (l : List α) :
    l.drop (l.takeWhile p).length = l.dropWhile p := by
  calc
    l.drop (l.takeWhile p).length =
        (l.takeWhile p ++ l.dropWhile p).drop (l.takeWhile p).length := by
      rw [List.takeWhile_append_dropWhile]
    _ = l.dropWhile p := List.drop_left

theorem parseCmd_eq (input : CString) : parseCmd input 128 256 =
    if 128 ≤ (token input).length then none
    else some (token input, (remainder input).take 255) := by
  have harg := drop_takeWhile (· ≠ 32) (input.dropWhile (· = 32))
  unfold parseCmd
  simp only [harg]
  change (if 128 ≤ (token input).length then none else some (token input,
    if 256 ≤ (remainder input).length then (remainder input).take 255 else remainder input)) = _
  split
  · rfl
  · split
    · rfl
    · rw [List.take_of_length_le (by omega)]

section unspaced
variable (scriptPath : CString) (hspace : 32 ∉ scriptPath)
include hspace

theorem unspaced_all : ∀ c ∈ scriptPath, decide (c ≠ 32) = true :=
  fun _ hc => decide_eq_true fun heq => hspace (heq ▸ hc)

theorem unspaced_body : scriptPath.dropWhile (· = 32) = scriptPath := by
  cases scriptPath with
  | nil => rfl
  | cons c rest =>
    have hc : c ≠ 32 := fun heq => hspace (heq ▸ List.mem_cons_self)
    exact List.dropWhile_cons_of_neg (by simpa using hc)

theorem unspaced_token : token scriptPath = scriptPath := by
  unfold token
  rw [unspaced_body scriptPath hspace]
  exact List.takeWhile_eq_self_iff.mpr (unspaced_all scriptPath hspace)

theorem unspaced_remainder : remainder scriptPath = [] := by
  have hrest : scriptPath.dropWhile (· ≠ 32) = [] :=
    List.dropWhile_eq_nil_iff.mpr (unspaced_all scriptPath hspace)
  unfold remainder
  rw [unspaced_body scriptPath hspace, hrest]
  rfl

end unspaced

section command
variable (scriptPath : CString) (argv : List CString) (execSplit : Bool)

def kept (cmd rest : CString) : List CString :=
  if rest.take 255 ≠ [] ∧ cmd ≠ rest.take 255 then [rest.take 255] else []

theorem kept_iff (cmd rest : CString) :
    kept cmd rest = (if rest = [] then [] else [rest]) ↔
      rest = [] ∨ rest.length ≤ 255 ∧ rest ≠ cmd := by
  by_cases hnil : rest = []
  · simp [kept, hnil]
  have htake : rest.take 255 ≠ [] := by simpa using hnil
  by_cases hlen : rest.length ≤ 255
  · have hall : rest.take 255 = rest := List.take_of_length_le hlen
    unfold kept
    rw [hall]
    by_cases hcmd : rest = cmd
    · simp [hcmd]
    · simp [hnil, hlen, hcmd, Ne.symm hcmd]
  · -- a shortened argument has another length than the whole one
    have hshort : [rest.take 255] ≠ [rest] := by
      intro heq
      have hcut : (rest.take 255).length = rest.length :=
        congrArg List.length (List.head_eq_of_cons_eq heq)
      rw [List.length_take] at hcut
      omega
    simp only [kept, hnil, hlen, if_false, false_or, false_and, iff_false]
    split
    · exact hshort
    · simp

theorem finalCommand_split (hsplit : execSplit = true) (hspace : 32 ∈ scriptPath) :
    finalCommand scriptPath argv execSplit =
      if 128 ≤ (token scriptPath).length then none
      else some ⟨token scriptPath,
        token scriptPath :: kept (token scriptPath) (remainder scriptPath) ++ argv⟩ := by
  have hcontains : scriptPath.contains 32 = true := List.contains_iff_mem.mpr hspace
  unfold finalCommand
  rw [parseCmd_eq]
  simp only [hsplit, hcontains, Bool.and_self, if_true]
  by_cases hlong : 128 ≤ (token scriptPath).length
  · rw [if_pos hlong, if_pos hlong]
  · rw [if_neg hlong, if_neg hlong]
    rfl

theorem finalCommand_whole (h : ¬ (execSplit = true ∧ 32 ∈ scriptPath)) :
    finalCommand scriptPath argv execSplit = some ⟨scriptPath, scriptPath :: argv⟩ := by
  have hcond : ¬ (execSplit && scriptPath.contains 32) = true := by
    simpa [List.contains_iff_mem] using h
  unfold finalCommand
  rw [if_neg hcond]

theorem commanded_whole (h : ¬ (execSplit = true ∧ 32 ∈ scriptPath)) :
    commanded scriptPath argv execSplit = ⟨scriptPath, scriptPath :: argv⟩ := by
  unfold commanded
  split
  · rename_i hsplit
    have hspace : 32 ∉ scriptPath := fun hmem => h ⟨hsplit, hmem⟩
    simp [unspaced_token scriptPath hspace, unspaced_remainder scriptPath hspace]
  · rfl

/-- The configured constructor survives the buffers it is split into. -/
def Intact : Prop :=
  execSplit = false ∨ 128 ≤ (token scriptPath).length ∨ remainder scriptPath = [] ∨
    (remainder scriptPath).length ≤ 255 ∧ remainder scriptPath ≠ token scriptPath

theorem finalCommand_commanded_iff :
    (∀ exec, finalCommand scriptPath argv execSplit = some exec →
        exec = commanded scriptPath argv execSplit) ↔ Intact scriptPath execSplit := by
  by_cases h : execSplit = true ∧ 32 ∈ scriptPath
  · obtain ⟨hsplit, hspace⟩ := h
    rw [finalCommand_split scriptPath argv execSplit hsplit hspace, Intact, hsplit,
      ← kept_iff (token scriptPath) (remainder scriptPath)]
    by_cases hlong : 128 ≤ (token scriptPath).length
    · simp [hlong]
    · simp [hlong, commanded]
  · have hintact : Intact scriptPath execSplit := by
      by_cases hsplit : execSplit = true
      · have hspace : 32 ∉ scriptPath := fun hmem => h ⟨hsplit, hmem⟩
        exact .inr (.inr (.inl (unspaced_remainder scriptPath hspace)))
      · exact .inl (by simpa using hsplit)
    rw [finalCommand_whole scriptPath argv execSplit h,
      commanded_whole scriptPath argv execSplit h]
    refine ⟨fun _ => hintact, fun _ exec hexec => ?_⟩
    exact (Option.some.inj hexec).symm

end command

section launches
variable (sys : System) (scriptPath : CString) (argv : List CString) (execSplit : Bool)
  (runAs : CString)

/-- The command that is put together is the configured one. -/
def Ordered (scriptPath : CString) (argv : List CString) (execSplit : Bool) : Prop :=
  ∀ exec, finalCommand scriptPath argv execSplit = some exec →
    exec = commanded scriptPath argv execSplit

theorem runShell_keeps (h : argv ≠ [] → Ordered scriptPath argv execSplit) :
    (runShell sys scriptPath argv execSplit runAs).Keeps
      (commanded scriptPath argv execSplit) (Refuses sys runAs) := by
  unfold runShell
  split
  · rfl
  rename_i hargv
  split
  · rfl
  rename_i command hcommand
  have hordered := h hargv command hcommand
  unfold forkExec Launch.Keeps
  split_ifs with hfork hdrop
  · rfl
  · exact hdrop
  · exact hordered

theorem runShellWait_keeps (h : argv ≠ [] → Ordered scriptPath argv execSplit) :
    (runShellWait sys scriptPath argv execSplit runAs).Keeps
      (commanded scriptPath argv execSplit) (Refuses sys runAs) := by
  unfold runShellWait
  split
  · rfl
  rename_i hargv
  split
  · rfl
  rename_i command hcommand
  have hordered := h hargv command hcommand
  unfold forkExec Launch.Keeps
  split_ifs with hfork hdrop
  · rfl
  · cases waitpidExitCode sys <;> exact hdrop
  · cases waitpidExitCode sys <;> exact hordered

theorem runShellCapture_keeps (outCap : ℕ) (h : argv ≠ [] → Ordered scriptPath argv execSplit) :
    (runShellCapture sys scriptPath argv execSplit runAs outCap).Keeps
      (commanded scriptPath argv execSplit) (Refuses sys runAs ∨ sys.dup2 = false) := by
  unfold runShellCapture
  split
  · rfl
  rename_i hargs
  split
  · rfl
  split
  · rfl
  rename_i command hcommand
  have hordered := h (fun hargv => hargs (.inl hargv)) command hcommand
  unfold captureExec Launch.Keeps
  split_ifs with hfork hdrop hdup
  · rfl
  · cases sys.read <;> cases waitpidExitCode sys <;> exact .inl hdrop
  · cases sys.read <;> cases waitpidExitCode sys <;> exact .inr hdup
  · cases sys.read <;> cases waitpidExitCode sys <;> exact hordered

def launched (scriptPath : CString) (argv : List CString) (execSplit : Bool) : Child :=
  if argv = [] then .unspawned
  else
    match finalCommand scriptPath argv execSplit with
    | none => .unspawned
    | some command => .execs command

section willing
variable (hwilling : Willing sys runAs)
include hwilling

theorem forkExec_willing (command : Exec) : forkExec sys command runAs = .execs command := by
  unfold forkExec
  have hdrop : ¬ (runAs ≠ [] ∧ sys.dropToName runAs = false) := hwilling.drop
  rw [if_neg (by simp [hwilling.fork]), if_neg hdrop]

theorem captureExec_willing (command : Exec) :
    captureExec sys command runAs = .execs command := by
  unfold captureExec
  have hdrop : ¬ (runAs ≠ [] ∧ sys.dropToName runAs = false) := hwilling.drop
  rw [if_neg (by simp [hwilling.fork]), if_neg hdrop, if_neg (by simp [hwilling.dup2])]

theorem runShell_launched : (runShell sys scriptPath argv execSplit runAs).child =
    launched scriptPath argv execSplit := by
  unfold runShell launched
  split
  · rfl
  split
  · rfl
  rw [forkExec_willing sys runAs hwilling]

theorem runShellWait_launched : (runShellWait sys scriptPath argv execSplit runAs).child =
    launched scriptPath argv execSplit := by
  unfold runShellWait launched
  split
  · rfl
  split
  · rfl
  rw [forkExec_willing sys runAs hwilling]
  cases waitpidExitCode sys <;> rfl

theorem runShellCapture_launched (outCap : ℕ) (hcap : outCap ≠ 0) :
    (runShellCapture sys scriptPath argv execSplit runAs outCap).child =
      launched scriptPath argv execSplit := by
  unfold runShellCapture launched
  rw [if_neg (by simp [hwilling.pipe] : ¬ sys.pipe = false)]
  simp only [hcap, or_false]
  split
  · rfl
  split
  · rfl
  rw [captureExec_willing sys runAs hwilling]
  cases sys.read <;> cases waitpidExitCode sys <;> rfl

end willing

end launches

section faithful
variable (scriptPath : CString) (argv : List CString) (execSplit : Bool)

def obliging : System := ⟨true, true, fun _ => true, true, some [], some (.exited 0)⟩

theorem obliging_willing : Willing obliging [] := ⟨rfl, rfl, fun h => h.1 rfl, rfl⟩

theorem Faithful.ordered (h : Faithful scriptPath argv execSplit) (hargv : argv ≠ []) :
    Ordered scriptPath argv execSplit := by
  intro exec hexec
  have hkeeps := h.shell obliging []
  have hchild : (runShell obliging scriptPath argv execSplit []).child = .execs exec := by
    rw [runShell_launched obliging scriptPath argv execSplit [] obliging_willing]
    simp [launched, hargv, hexec]
  unfold Launch.Keeps at hkeeps
  rwa [hchild] at hkeeps

theorem faithful_of_ordered (h : argv ≠ [] → Ordered scriptPath argv execSplit) :
    Faithful scriptPath argv execSplit where
  shell sys runAs := runShell_keeps sys scriptPath argv execSplit runAs h
  wait sys runAs := runShellWait_keeps sys scriptPath argv execSplit runAs h
  capture sys runAs outCap := runShellCapture_keeps sys scriptPath argv execSplit runAs outCap h
  same sys runAs outCap hwilling hcap := by
    rw [runShell_launched sys scriptPath argv execSplit runAs hwilling]
    exact ⟨runShellWait_launched sys scriptPath argv execSplit runAs hwilling,
      runShellCapture_launched sys scriptPath argv execSplit runAs hwilling outCap hcap⟩

/-- The launchers run what is configured exactly when nothing is called for, or the constructor
    is not split, or its first piece is refused as too long, or all that comes after it fits in
    255 bytes and does not repeat it. -/
theorem launchers_faithful_iff : Faithful scriptPath argv execSplit ↔
    argv = [] ∨ execSplit = false ∨ 128 ≤ (token scriptPath).length ∨
      remainder scriptPath = [] ∨
      (remainder scriptPath).length ≤ 255 ∧ remainder scriptPath ≠ token scriptPath := by
  constructor
  · intro h
    by_cases hargv : argv = []
    · exact .inl hargv
    · exact .inr ((finalCommand_commanded_iff scriptPath argv execSplit).mp
        (Faithful.ordered scriptPath argv execSplit h hargv))
  · rintro (hargv | hintact)
    · exact faithful_of_ordered scriptPath argv execSplit fun h => absurd hargv h
    · exact faithful_of_ordered scriptPath argv execSplit fun _ =>
        (finalCommand_commanded_iff scriptPath argv execSplit).mpr hintact

end faithful

/-- An argument of 256 bytes loses its last one, and an argument that repeats the program's name
    is left out. -/
theorem launchers_unfaithful :
    ¬ Faithful (ascii ['r', 'u', 'n', ' '] ++ List.replicate 256 97) [ascii ['x']] true ∧
      ¬ Faithful (ascii ['r', 'u', 'n', ' ', 'r', 'u', 'n']) [ascii ['x']] true := by
  have hlong : ¬ Intact (ascii ['r', 'u', 'n', ' '] ++ List.replicate 256 97) true := by
    unfold Intact
    decide +kernel
  have htwice : ¬ Intact (ascii ['r', 'u', 'n', ' ', 'r', 'u', 'n']) true := by
    unfold Intact
    decide +kernel
  refine ⟨fun h => hlong ?_, fun h => htwice ?_⟩
  · exact (finalCommand_commanded_iff _ _ _).mp (Faithful.ordered _ _ _ h (by simp))
  · exact (finalCommand_commanded_iff _ _ _).mp (Faithful.ordered _ _ _ h (by simp))

end Siglatch.PayloadShell
