import Mathlib.Data.List.Induction
import Mathlib.Algebra.Order.Ring.Nat

set_option autoImplicit false

namespace Siglatch.StepRuns

/-! Runs of a deterministic machine that emits events, and properties of state and history. -/

variable {σ ι ε : Type*}

def run (step : σ → ι → σ × List ε) : σ → List ι → σ × List ε
  | s, [] => (s, [])
  | s, op :: ops =>
    let now := step s op
    let rest := run step now.1 ops
    (rest.1, now.2 ++ rest.2)

theorem run_append (step : σ → ι → σ × List ε) (s : σ) (xs ys : List ι) :
    run step s (xs ++ ys) =
      ((run step (run step s xs).1 ys).1,
        (run step s xs).2 ++ (run step (run step s xs).1 ys).2) := by
  induction xs generalizing s with
  | nil => rfl
  | cons x xs ih =>
    rw [List.cons_append]
    simp only [run, ih, List.append_assoc]

/-- What every allowed step keeps about the state and the events so far holds of every run. -/
theorem run_history {step : σ → ι → σ × List ε} {P : σ → List ε → Prop} (allowed : ι → Prop)
    (hstep : ∀ s events op, allowed op → P s events →
      P (step s op).1 (events ++ (step s op).2))
    (s : σ) (h0 : P s []) (ops : List ι) (hops : ∀ op ∈ ops, allowed op) :
    P (run step s ops).1 (run step s ops).2 := by
  have hgen : ∀ (ops : List ι) (s : σ) (events : List ε), (∀ op ∈ ops, allowed op) →
      P s events → P (run step s ops).1 (events ++ (run step s ops).2) := by
    intro ops
    induction ops with
    | nil =>
      intro s events _ h
      simpa [run] using h
    | cons op ops ih =>
      intro s events hall h
      have hnow := hstep s events op (hall op List.mem_cons_self) h
      have hrest := ih _ _ (fun op' hop => hall op' (List.mem_cons_of_mem _ hop)) hnow
      simpa [run, List.append_assoc] using hrest
  simpa using hgen ops s [] hops h0

/-- The states that a run passes through, each with what comes in there. -/
def steps (step : σ → ι → σ × List ε) : σ → List ι → List (σ × ι)
  | _, [] => []
  | s, op :: ops => (s, op) :: steps step (step s op).1 ops

theorem steps_input {step : σ → ι → σ × List ε} {s : σ} {ops : List ι} {p : σ × ι}
    (taken : p ∈ steps step s ops) : p.2 ∈ ops := by
  induction ops generalizing s with
  | nil => cases taken
  | cons op ops ih =>
    rcases List.mem_cons.mp taken with rfl | later
    · exact List.mem_cons_self
    · exact List.mem_cons_of_mem op (ih later)

theorem run_flatMap (step : σ → ι → σ × List ε) (s : σ) (ops : List ι) :
    (run step s ops).2 = (steps step s ops).flatMap fun p => (step p.1 p.2).2 := by
  induction ops generalizing s with
  | nil => rfl
  | cons op ops ih =>
    rw [run, steps, List.flatMap_cons, ih]

theorem run_steps {step : σ → ι → σ × List ε} {P : σ → Prop} {E : ε → Prop}
    (allowed : σ → ι → Prop)
    (kept : ∀ s op, allowed s op → P s → P (step s op).1 ∧ ∀ e ∈ (step s op).2, E e)
    (s : σ) (holds : P s) (ops : List ι) (all : ∀ p ∈ steps step s ops, allowed p.1 p.2) :
    P (run step s ops).1 ∧ ∀ e ∈ (run step s ops).2, E e := by
  induction ops generalizing s with
  | nil => exact ⟨holds, fun _ member => absurd member List.not_mem_nil⟩
  | cons op ops ih =>
    obtain ⟨next, now⟩ := kept s op (all (s, op) List.mem_cons_self) holds
    obtain ⟨ends, later⟩ := ih (step s op).1 next
      (fun p member => all p (List.mem_cons_of_mem _ member))
    refine ⟨ends, ?_⟩
    intro e member
    rcases List.mem_append.mp member with first | rest
    · exact now e first
    · exact later e rest

/-- The states of a run, the first and the last among them. -/
def reached (step : σ → ι → σ × List ε) : σ → List ι → List σ
  | s, [] => [s]
  | s, op :: ops => s :: reached step (step s op).1 ops

theorem run_reached {step : σ → ι → σ × List ε} {P : σ → Prop} (allowed : σ → ι → Prop)
    (kept : ∀ s op, allowed s op → P s → P (step s op).1) (s : σ) (holds : P s) (ops : List ι)
    (all : ∀ p ∈ steps step s ops, allowed p.1 p.2) : ∀ t ∈ reached step s ops, P t := by
  induction ops generalizing s with
  | nil =>
    intro t member
    obtain rfl := List.mem_singleton.mp member
    exact holds
  | cons op ops ih =>
    intro t member
    have next := kept s op (all (s, op) List.mem_cons_self) holds
    rcases List.mem_cons.mp member with rfl | later
    · exact holds
    · exact ih (step s op).1 next (fun p taken => all p (List.mem_cons_of_mem _ taken)) t later

theorem reached_first {step : σ → ι → σ × List ε} (s : σ) (ops : List ι) :
    s ∈ reached step s ops := by
  cases ops with
  | nil => exact List.mem_singleton.mpr rfl
  | cons op ops => exact List.mem_cons_self

theorem steps_reached {step : σ → ι → σ × List ε} {s : σ} {ops : List ι} {p : σ × ι}
    (taken : p ∈ steps step s ops) : p.1 ∈ reached step s ops := by
  induction ops generalizing s with
  | nil => cases taken
  | cons op ops ih =>
    rcases List.mem_cons.mp taken with rfl | later
    · exact List.mem_cons_self
    · exact List.mem_cons_of_mem s (ih later)

theorem reached_run {step : σ → ι → σ × List ε} {s t : σ} {ops : List ι}
    (member : t ∈ reached step s ops) : ∃ fewer, (run step s fewer).1 = t := by
  induction ops generalizing s with
  | nil =>
    obtain rfl := List.mem_singleton.mp member
    exact ⟨[], rfl⟩
  | cons op ops ih =>
    rcases List.mem_cons.mp member with rfl | later
    · exact ⟨[], rfl⟩
    · obtain ⟨fewer, ends⟩ := ih later
      exact ⟨op :: fewer, ends⟩

theorem steps_append (step : σ → ι → σ × List ε) (s : σ) (ops : List ι) (op : ι) :
    steps step s (ops ++ [op]) = steps step s ops ++ [((run step s ops).1, op)] := by
  induction ops generalizing s with
  | nil => rfl
  | cons first ops ih =>
    rw [List.cons_append, steps, ih]
    rfl

theorem steps_last (step : σ → ι → σ × List ε) (s : σ) (ops : List ι) (op : ι) :
    ((run step s ops).1, op) ∈ steps step s (ops ++ [op]) := by
  rw [steps_append]
  exact List.mem_append_right _ (List.mem_singleton.mpr rfl)

theorem run_traced {step : σ → ι → σ × List ε} {P : σ → List (σ × ι) → Prop}
    (kept : ∀ s trace op, P s trace → P (step s op).1 (trace ++ [(s, op)]))
    (s : σ) (holds : P s []) (ops : List ι) : P (run step s ops).1 (steps step s ops) := by
  induction ops using List.reverseRecOn with
  | nil => exact holds
  | append_singleton ops op ih =>
    rw [run_append, steps_append]
    exact kept _ _ op ih

theorem reached_iff {step : σ → ι → σ × List ε} {P : σ → Prop} {allowed : σ → ι → Prop}
    (kept : ∀ s op, P s → (P (step s op).1 ↔ allowed s op)) (s : σ) (holds : P s) (ops : List ι) :
    (∀ t ∈ reached step s ops, P t) ↔ ∀ p ∈ steps step s ops, allowed p.1 p.2 := by
  refine ⟨?_, run_reached allowed (fun s op ok h => (kept s op h).mpr ok) s holds ops⟩
  induction ops generalizing s with
  | nil => exact fun _ p taken => absurd taken List.not_mem_nil
  | cons op ops ih =>
    intro all p taken
    have next : P (step s op).1 :=
      all _ (List.mem_cons_of_mem s (reached_first (step s op).1 ops))
    rcases List.mem_cons.mp taken with rfl | later
    · exact (kept s op holds).mp next
    · exact ih (step s op).1 next (fun t member => all t (List.mem_cons_of_mem s member)) p later

theorem steps_iff {step : σ → ι → σ × List ε} {P : σ → Prop} {given allowed Right : σ → ι → Prop}
    (kept : ∀ s op, given s op → P s →
      (Right s op ↔ allowed s op) ∧ (allowed s op → P (step s op).1))
    (s : σ) (holds : P s) (ops : List ι) (all : ∀ p ∈ steps step s ops, given p.1 p.2) :
    (∀ p ∈ steps step s ops, Right p.1 p.2) ↔ ∀ p ∈ steps step s ops, allowed p.1 p.2 := by
  induction ops generalizing s with
  | nil => simp [steps]
  | cons op ops ih =>
    obtain ⟨exactly, next⟩ := kept s op (all (s, op) List.mem_cons_self) holds
    have rest (ok : allowed s op) := ih (step s op).1 (next ok)
      fun p taken => all p (List.mem_cons_of_mem _ taken)
    simp only [steps, List.forall_mem_cons]
    constructor
    · rintro ⟨now, later⟩
      have ok := exactly.mp now
      exact ⟨ok, (rest ok).mp later⟩
    · rintro ⟨ok, later⟩
      exact ⟨exactly.mpr ok, (rest ok).mpr later⟩

theorem steps_events {step : σ → ι → σ × List ε} {s : σ} {ops : List ι} {p : σ × ι}
    (taken : p ∈ steps step s ops) : ∀ e ∈ (step p.1 p.2).2, e ∈ (run step s ops).2 := by
  induction ops generalizing s with
  | nil => cases taken
  | cons op ops ih =>
    intro e member
    rcases List.mem_cons.mp taken with rfl | later
    · exact List.mem_append_left _ member
    · exact List.mem_append_right _ (ih later e member)

/-- Events that every step pays for, out of what the state holds and what the step brings in. -/
theorem run_count {step : σ → ι → σ × List ε} {holds : σ → ℕ} {gain : σ → ι → ℕ} {C : ε → Bool}
    (allowed : σ → ι → Prop)
    (paid : ∀ s op, allowed s op →
      holds (step s op).1 + (step s op).2.countP C ≤ holds s + gain s op)
    (s : σ) (ops : List ι) (all : ∀ p ∈ steps step s ops, allowed p.1 p.2) :
    holds (run step s ops).1 + (run step s ops).2.countP C ≤
      holds s + ((steps step s ops).map fun p => gain p.1 p.2).sum := by
  induction ops generalizing s with
  | nil => exact Nat.le_refl _
  | cons op ops ih =>
    have now := paid s op (all (s, op) List.mem_cons_self)
    have later := ih (step s op).1 fun p member => all p (List.mem_cons_of_mem _ member)
    rw [run, steps, List.map_cons, List.sum_cons, List.countP_append]
    dsimp only
    omega

theorem run_paid {step : σ → ι → σ × List ε} {holds : σ → ℕ} {cost gain : σ → ι → ℕ}
    (paid : ∀ s op, holds (step s op).1 + cost s op ≤ holds s + gain s op) (s : σ) (ops : List ι) :
    holds (run step s ops).1 + ((steps step s ops).map fun p => cost p.1 p.2).sum ≤
      holds s + ((steps step s ops).map fun p => gain p.1 p.2).sum := by
  induction ops generalizing s with
  | nil => exact Nat.le_refl _
  | cons op ops ih =>
    have now := paid s op
    have later := ih (step s op).1
    rw [run, steps, List.map_cons, List.map_cons, List.sum_cons, List.sum_cons]
    dsimp only
    omega

end Siglatch.StepRuns
