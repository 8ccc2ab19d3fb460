import Mathlib.Data.List.Basic
import Mathlib.Tactic.Push

set_option autoImplicit false

namespace Siglatch.PipeChannel

/-! A pipe between a process that writes a record and a process that reads it, either up to a
length or to the end of the file. Each call moves as much as it likes, or nothing if it was
interrupted, and the calls of the two come in any order. -/

variable {α : Type*}

/-- `outcome` is how the reader's loop has ended. -/
structure Channel (α : Type*) where
  unsent : List α
  writing : Bool
  opened : Bool
  held : List α
  got : List α
  outcome : Option Bool

/-- The writer may give up or be killed at any time, and a read may fail. -/
inductive Call where
  | write (n : ℕ)
  | stop
  | close
  | read (n : ℕ)
  | fail

def start (want : Option ℕ) (record : List α) : Channel α :=
  ⟨record, true, true, [], [], if want = some 0 then some true else none⟩

variable (capacity : ℕ) (want : Option ℕ)

def accepts (c : Channel α) (n : ℕ) : ℕ := min n (min (capacity - c.held.length) c.unsent.length)

def yields (c : Channel α) (n : ℕ) : ℕ :=
  min n (min (want.elim c.held.length fun total => total - c.got.length) c.held.length)

def write (c : Channel α) (n : ℕ) : Channel α :=
  let count := accepts capacity c n
  if c.writing = false ∨ count = 0 then c
  else { c with unsent := c.unsent.drop count, held := c.held ++ c.unsent.take count }

/-- The write end closes once the writer is through or has given up. -/
def close (c : Channel α) : Channel α :=
  if c.writing = true ∧ c.unsent ≠ [] then c else { c with writing := false, opened := false }

/-- An empty pipe blocks the reader while it is open and is the end of the file when it is not. -/
def read (c : Channel α) (n : ℕ) : Channel α :=
  let count := yields want c n
  if c.outcome.isSome then c
  else if c.held = [] then if c.opened then c else { c with outcome := some want.isNone }
  else if count = 0 then c
  else
    { c with
      held := c.held.drop count, got := c.got ++ c.held.take count
      outcome := if want = some (c.got.length + count) then some true else none }

def fail (c : Channel α) : Channel α :=
  if c.outcome.isSome then c else { c with outcome := some false }

def call (c : Channel α) : Call → Channel α
  | .write n => write capacity c n
  | .stop => { c with writing := false }
  | .close => close c
  | .read n => read want c n
  | .fail => fail c

def calls (c : Channel α) (ops : List Call) : Channel α := ops.foldl (call capacity want) c

section Moves

variable {capacity want} {c c' : Channel α} {op : Call}

inductive Moves (want : Option ℕ) (c : Channel α) : Call → Channel α → Prop where
  | wrote (n count : ℕ) (busy : c.writing = true) (some_ : 0 < count)
      (most : count ≤ c.unsent.length) :
      Moves want c (.write n)
        { c with unsent := c.unsent.drop count, held := c.held ++ c.unsent.take count }
  | stopped : Moves want c .stop { c with writing := false }
  | closed (through : c.writing = true → c.unsent = []) :
      Moves want c .close { c with writing := false, opened := false }
  | took (n count : ℕ) (running : c.outcome = none) (some_ : 0 < count)
      (most : count ≤ c.held.length)
      (within : ∀ total, want = some total → c.got.length + count ≤ total) :
      Moves want c (.read n)
        { c with
          held := c.held.drop count, got := c.got ++ c.held.take count
          outcome := if want = some (c.got.length + count) then some true else none }
  | ended (n : ℕ) (running : c.outcome = none) (empty : c.held = []) (shut : c.opened = false) :
      Moves want c (.read n) { c with outcome := some want.isNone }
  | failed (running : c.outcome = none) : Moves want c .fail { c with outcome := some false }

theorem call_moves (c : Channel α) (op : Call) :
    call capacity want c op = c ∨ Moves want c op (call capacity want c op) := by
  cases op with
  | write n =>
    simp only [call, write]
    split
    · exact .inl rfl
    · rename_i moves
      push Not at moves
      refine .inr (.wrote n _ (by simpa using moves.1) (by omega) ?_)
      unfold accepts
      omega
  | stop => exact .inr .stopped
  | close =>
    simp only [call, close]
    split
    · exact .inl rfl
    · rename_i through
      refine .inr (.closed fun busy => ?_)
      by_contra more
      exact through ⟨busy, more⟩
  | read n =>
    simp only [call, read]
    split
    · exact .inl rfl
    rename_i reading
    have running : c.outcome = none := by simpa using reading
    split
    · rename_i empty
      split
      · exact .inl rfl
      · rename_i shut
        exact .inr (.ended n running empty (by simpa using shut))
    split
    · exact .inl rfl
    · rename_i count
      refine .inr (.took n _ running (by omega) ?_ ?_)
      · unfold yields
        omega
      · rintro total rfl
        unfold yields at count ⊢
        simp only [Option.elim] at count ⊢
        omega
  | fail =>
    simp only [call, fail]
    split
    · exact .inl rfl
    · rename_i reading
      exact .inr (.failed (by simpa using reading))

theorem calls_keep {P : Channel α → Prop} (allowed : Call → Prop)
    (kept : ∀ c c' op, allowed op → P c → Moves want c op c' → P c') (holds : P c)
    (ops : List Call) (all : ∀ op ∈ ops, allowed op) : P (calls capacity want c ops) := by
  unfold calls
  induction ops generalizing c with
  | nil => exact holds
  | cons op ops ih =>
    refine ih ?_ fun op' member => all op' (List.mem_cons_of_mem _ member)
    rcases @call_moves α capacity want c op with same | moves
    · rw [same]
      exact holds
    · exact kept c _ op (all op List.mem_cons_self) holds moves

end Moves

section Invariant

variable {capacity want} {c c' : Channel α} {op : Call} {record : List α}

/-- `flows`: what has been read, what is in the pipe and what is still to be written come in
this order. -/
structure Sound (record : List α) (want : Option ℕ) (c : Channel α) : Prop where
  flows : c.got ++ (c.held ++ c.unsent) = record
  closed : c.opened = false → c.writing = false
  within : ∀ total, want = some total → c.got.length ≤ total
  full : ∀ total, want = some total → (c.outcome = some true ↔ c.got.length = total)
  drained : want = none → c.outcome = some true → c.held = [] ∧ c.opened = false

theorem sound_start (want : Option ℕ) (record : List α) :
    Sound record want (start want record) := by
  refine ⟨rfl, fun shut => (by cases shut), fun total _ => Nat.zero_le total, ?_, ?_⟩
  · rintro total rfl
    by_cases none_ : total = 0
    · simp [start, none_]
    · simp [start, none_, Ne.symm none_]
  · rintro rfl done
    cases done

/-- A reader that has not ended still has something to get. -/
theorem Sound.short (sound : Sound record want c) (running : c.outcome = none) {total : ℕ}
    (wanted : want = some total) : c.got.length ≠ total := by
  intro all
  have done := (sound.full total wanted).mpr all
  rw [running] at done
  cases done

theorem sound_moves (sound : Sound record want c) (moves : Moves want c op c') :
    Sound record want c' := by
  cases moves with
  | wrote n count busy some_ most =>
    refine ⟨?_, sound.closed, sound.within, sound.full, ?_⟩
    · simp only [List.append_assoc, List.take_append_drop]
      exact sound.flows
    · intro toEnd done
      have idle := sound.closed (sound.drained toEnd done).2
      rw [busy] at idle
      cases idle
  | stopped => exact ⟨sound.flows, fun _ => rfl, sound.within, sound.full, sound.drained⟩
  | closed through =>
    exact ⟨sound.flows, fun _ => rfl, sound.within, sound.full,
      fun toEnd done => ⟨(sound.drained toEnd done).1, rfl⟩⟩
  | took n count running some_ most within =>
    have taken : (c.held.take count).length = count := List.length_take_of_le most
    refine ⟨?_, sound.closed, ?_, ?_, ?_⟩
    · rw [← sound.flows, List.append_assoc, ← List.append_assoc (List.take _ _),
        List.take_append_drop]
    · intro total wanted
      rw [List.length_append, taken]
      exact within total wanted
    · rintro total rfl
      simp only [List.length_append, taken, Option.some.injEq]
      constructor
      · intro done
        split at done
        · rename_i all
          exact all.symm
        · cases done
      · intro all
        rw [if_pos all.symm]
    · rintro rfl done
      cases done
  | ended n running empty shut =>
    refine ⟨sound.flows, sound.closed, sound.within, ?_, fun _ _ => ⟨empty, shut⟩⟩
    rintro total rfl
    exact iff_of_false (fun done => (by cases done)) (sound.short running rfl)
  | failed running =>
    refine ⟨sound.flows, sound.closed, sound.within, ?_, fun _ done => (by cases done)⟩
    intro total wanted
    exact iff_of_false (fun done => (by cases done)) (sound.short running wanted)

theorem sound_calls (ops : List Call) :
    Sound record want (calls capacity want (start want record) ops) :=
  calls_keep (fun _ => True) (fun _ _ _ _ sound moves => sound_moves sound moves)
    (sound_start want record) ops fun _ _ => trivial

theorem Sound.read_take {total : ℕ} (sound : Sound record (some total) c)
    (done : c.outcome = some true) : c.got = record.take total := by
  have length := (sound.full total rfl).mp done
  have front := congrArg (List.take total) sound.flows
  rw [List.take_left' length] at front
  exact front

theorem calls_through (through : c.outcome.isSome = true) (ops : List Call) :
    (calls capacity want c ops).outcome = c.outcome ∧ (calls capacity want c ops).got = c.got := by
  refine @calls_keep α capacity want c (fun now => now.outcome = c.outcome ∧ now.got = c.got)
    (fun _ => True) ?_ ⟨rfl, rfl⟩ ops fun _ _ => trivial
  rintro now after op - ⟨outcome, got⟩ moves
  have reading : now.outcome ≠ none := by
    rw [outcome]
    exact Option.isSome_iff_ne_none.mp through
  cases moves with
  | wrote n count busy some_ most => exact ⟨outcome, got⟩
  | stopped => exact ⟨outcome, got⟩
  | closed => exact ⟨outcome, got⟩
  | took n count running some_ most within => exact absurd running reading
  | ended n running empty shut => exact absurd running reading
  | failed running => exact absurd running reading

theorem calls_append (first second : List Call) : calls capacity want c (first ++ second) =
    calls capacity want (calls capacity want c first) second := List.foldl_append

end Invariant

section Calm

variable {capacity want} {c c' : Channel α} {op : Call} {record : List α}

def Calm : Call → Prop
  | .stop | .fail => False
  | _ => True

structure Unharmed (record : List α) (want : Option ℕ) (c : Channel α) : Prop where
  sound : Sound record want c
  written : c.writing = false → c.unsent = []
  fine : c.outcome ≠ some false

theorem unharmed_start (want : Option ℕ) (record : List α) :
    Unharmed record want (start want record) := by
  refine ⟨sound_start want record, fun idle => (by cases idle), ?_⟩
  unfold start
  dsimp only
  split
  · simp
  · simp

theorem unharmed_moves (whole : ∀ total, want = some total → total ≤ record.length)
    (calm : Calm op) (unharmed : Unharmed record want c) (moves : Moves want c op c') :
    Unharmed record want c' := by
  refine ⟨sound_moves unharmed.sound moves, ?_, ?_⟩
  · have written := unharmed.written
    cases moves with
    | wrote n count busy some_ most =>
      intro idle
      have busy' : c.writing = false := idle
      rw [busy] at busy'
      cases busy'
    | stopped => exact calm.elim
    | closed through =>
      intro _
      cases busy : c.writing with
      | true => exact through busy
      | false => exact written busy
    | took n count running some_ most within => exact written
    | ended n running empty shut => exact written
    | failed running => exact calm.elim
  · have fine := unharmed.fine
    cases moves with
    | wrote n count busy some_ most => exact fine
    | stopped => exact calm.elim
    | closed through => exact fine
    | took n count running some_ most within =>
      dsimp only
      split
      · simp
      · simp
    | ended n running empty shut =>
      cases want with
      | none => simp
      | some total =>
        -- All has been written and read, so the length would have been reached.
        have unsent := unharmed.written (unharmed.sound.closed shut)
        have flows := unharmed.sound.flows
        rw [empty, unsent, List.append_nil, List.append_nil] at flows
        have enough := whole total rfl
        have bound := unharmed.sound.within total rfl
        have short := unharmed.sound.short running rfl
        rw [← flows] at enough
        omega
    | failed running => exact calm.elim

theorem unharmed_calls (whole : ∀ total, want = some total → total ≤ record.length)
    (ops : List Call) (calm : ∀ op ∈ ops, Calm op) :
    Unharmed record want (calls capacity want (start want record) ops) :=
  calls_keep Calm (fun _ _ _ calm unharmed moves => unharmed_moves whole calm unharmed moves)
    (unharmed_start want record) ops calm

end Calm

section Progress

variable {capacity want} {c c' : Channel α} {op : Call} {record : List α}

theorem moves_on (room : 0 < capacity) (sound : Sound record want c) (running : c.outcome = none) :
    ∃ op, Calm op ∧ call capacity want c op ≠ c := by
  by_cases empty : c.held = []
  · cases open_ : c.opened with
    | true =>
      by_cases busy : c.writing = true ∧ c.unsent ≠ []
      · refine ⟨.write 1, trivial, fun same => ?_⟩
        have more := List.length_pos_iff.mpr busy.2
        have wrote := congrArg (fun c => c.unsent.length) same
        have count : accepts capacity c 1 = 1 := by
          simp only [accepts, empty, List.length_nil]
          omega
        simp only [call, write, count, busy.1, Bool.true_eq_false, false_or, Nat.one_ne_zero,
          if_false, List.length_drop] at wrote
        omega
      · refine ⟨.close, trivial, fun same => ?_⟩
        have shut := congrArg Channel.opened same
        simp only [call, close, if_neg busy] at shut
        rw [open_] at shut
        cases shut
    | false =>
      refine ⟨.read 1, trivial, fun same => ?_⟩
      have done := congrArg Channel.outcome same
      simp [call, read, running, empty, open_] at done
  · refine ⟨.read 1, trivial, fun same => ?_⟩
    have more := List.length_pos_iff.mpr empty
    have count : yields want c 1 = 1 := by
      cases want with
      | none =>
        simp only [yields, Option.elim]
        omega
      | some total =>
        have bound := sound.within total rfl
        have short := sound.short running rfl
        simp only [yields, Option.elim]
        omega
    have got := congrArg (fun c => c.held.length) same
    simp only [call, read, running, empty, count, Option.isSome_none, Bool.false_eq_true,
      Nat.one_ne_zero, if_false, List.length_drop] at got
    omega

def left (c : Channel α) : ℕ :=
  2 * c.unsent.length + c.held.length + c.writing.toNat + c.opened.toNat +
    if c.outcome = none then 1 else 0

theorem left_moves (moves : Moves want c op c') (other : c' ≠ c) : left c' < left c := by
  cases moves with
  | wrote n count busy some_ most =>
    simp only [left, List.length_drop, List.length_append, List.length_take]
    omega
  | stopped =>
    cases busy : c.writing with
    | true =>
      simp only [left, busy, Bool.toNat_false, Bool.toNat_true]
      omega
    | false =>
      refine absurd ?_ other
      rw [← busy]
  | closed through =>
    cases busy : c.writing with
    | true =>
      simp only [left, busy, Bool.toNat_false, Bool.toNat_true]
      omega
    | false =>
      cases open_ : c.opened with
      | true =>
        simp only [left, busy, open_, Bool.toNat_false, Bool.toNat_true]
        omega
      | false =>
        refine absurd ?_ other
        cases c
        cases busy
        cases open_
        rfl
  | took n count running some_ most within =>
    have one : ∀ outcome : Option Bool, (if outcome = none then 1 else 0) ≤ 1 := by
      intro outcome
      split
      · exact Nat.le_refl 1
      · exact Nat.zero_le 1
    have last := one (if want = some (c.got.length + count) then some true else none)
    simp only [left, running, List.length_drop, if_true]
    omega
  | ended n running empty shut => simp [left, running]
  | failed running => simp [left, running]

theorem left_calls (ops : List Call)
    (moving : ∀ before op after, ops = before ++ op :: after →
      call capacity want (calls capacity want c before) op ≠ calls capacity want c before) :
    ops.length ≤ left c := by
  induction ops generalizing c with
  | nil => exact Nat.zero_le _
  | cons op ops ih =>
    have first : call capacity want c op ≠ c := moving [] op ops rfl
    have rest := ih (c := call capacity want c op) fun before op' after split =>
      moving (op :: before) op' after (congrArg (op :: ·) split)
    rcases @call_moves α capacity want c op with same | moves
    · exact absurd same first
    · have less := left_moves moves first
      rw [List.length_cons]
      omega

/-- From anywhere the two can go on until the reader is through. -/
theorem finishes (room : 0 < capacity) (sound : Sound record want c) :
    ∃ ops, (∀ op ∈ ops, Calm op) ∧ (calls capacity want c ops).outcome.isSome = true := by
  induction h : left c using Nat.strongRecOn generalizing c with
  | _ bound ih =>
    subst h
    cases running : c.outcome with
    | some result => exact ⟨[], by simp, by simp [calls, running]⟩
    | none =>
      obtain ⟨op, calm, first⟩ := moves_on room sound running
      rcases @call_moves α capacity want c op with same | moves
      · exact absurd same first
      obtain ⟨ops, all, done⟩ := ih _ (left_moves moves first) (sound_moves sound moves) rfl
      refine ⟨op :: ops, ?_, done⟩
      intro op' member
      rcases List.mem_cons.mp member with rfl | member
      · exact calm
      · exact all op' member

end Progress

end Siglatch.PipeChannel
