import Siglatch.StepRuns

set_option autoImplicit false

namespace Siglatch.FifoLog
open StepRuns

/-! An unbounded first-in first-out queue, seen through what is put in and what is taken out. -/

variable {α : Type*}

inductive Event (α : Type*) where
  | put (x : α)
  | take (x : α)

/-- `Runs q events r`: from the queue `q` the events may happen, and leave `r`. -/
inductive Runs : List α → List (Event α) → List α → Prop
  | nil (q : List α) : Runs q [] q
  | put {q r : List α} {x : α} {events : List (Event α)} :
      Runs (q ++ [x]) events r → Runs q (.put x :: events) r
  | take {q r : List α} {x : α} {events : List (Event α)} :
      Runs q events r → Runs (x :: q) (.take x :: events) r

def puts : List (Event α) → List α
  | [] => []
  | .put x :: events => x :: puts events
  | .take _ :: events => puts events

def takes : List (Event α) → List α
  | [] => []
  | .put _ :: events => takes events
  | .take x :: events => x :: takes events

def Event.put? : Event α → Option α
  | .put x => some x
  | .take _ => none

def Event.take? : Event α → Option α
  | .put _ => none
  | .take x => some x

theorem puts_filterMap {ε : Type*} (view : ε → Option (Event α)) (events : List ε) :
    puts (events.filterMap view) = events.filterMap fun e => (view e).bind Event.put? := by
  induction events with
  | nil => rfl
  | cons e events ih =>
    rw [List.filterMap_cons, List.filterMap_cons]
    cases view e with
    | none => exact ih
    | some event =>
      cases event with
      | put x => exact congrArg (x :: ·) ih
      | take x => exact ih

theorem takes_filterMap {ε : Type*} (view : ε → Option (Event α)) (events : List ε) :
    takes (events.filterMap view) = events.filterMap fun e => (view e).bind Event.take? := by
  induction events with
  | nil => rfl
  | cons e events ih =>
    rw [List.filterMap_cons, List.filterMap_cons]
    cases view e with
    | none => exact ih
    | some event =>
      cases event with
      | put x => exact ih
      | take x => exact congrArg (x :: ·) ih

theorem Runs.append {q m r : List α} {xs ys : List (Event α)} (first : Runs q xs m)
    (rest : Runs m ys r) : Runs q (xs ++ ys) r := by
  induction first with
  | nil _ => exact rest
  | put _ ih => exact .put (ih rest)
  | take _ ih => exact .take (ih rest)

/-- Nothing is lost, made up or overtaken. -/
theorem Runs.conserves {q r : List α} {events : List (Event α)} (h : Runs q events r) :
    q ++ puts events = takes events ++ r := by
  induction h with
  | nil q => simp [puts, takes]
  | put _ ih => simpa [puts, takes, List.append_assoc] using ih
  | take _ ih => simpa [puts, takes] using ih

theorem runs_takes (xs q : List α) : Runs (xs ++ q) (xs.map .take) q := by
  induction xs with
  | nil => exact .nil q
  | cons x xs ih => exact .take ih

theorem runs_puts (xs q : List α) : Runs q (xs.map .put) (q ++ xs) := by
  induction xs generalizing q with
  | nil => simpa using Runs.nil q
  | cons x xs ih =>
    have h := ih (q ++ [x])
    rw [List.append_assoc] at h
    exact .put h

/-- A machine whose every step does to its contents what the queue does, does so in every run. -/
theorem run_refines {σ ι ε : Type*} {step : σ → ι → σ × List ε} {view : ε → Option (Event α)}
    {contents : σ → List α}
    (refines : ∀ s op, Runs (contents s) ((step s op).2.filterMap view) (contents (step s op).1))
    (s : σ) (ops : List ι) :
    Runs (contents s) ((run step s ops).2.filterMap view) (contents (run step s ops).1) := by
  induction ops generalizing s with
  | nil => exact .nil (contents s)
  | cons op ops ih =>
    change Runs _ (((step s op).2 ++ (run step (step s op).1 ops).2).filterMap view) _
    rw [List.filterMap_append]
    exact (refines s op).append (ih (step s op).1)

end Siglatch.FifoLog
