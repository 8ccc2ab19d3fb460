import Mathlib.Algebra.Order.Ring.Nat

set_option autoImplicit false

namespace Siglatch.IdCounter

/-! A counter of ids below `size` that also steps past every id it is shown. A request for 0 asks
for an id of the counter's own. -/

variable {size next id : ℕ}

def given (next id : ℕ) : ℕ := if id = 0 then next else id

def after (size next id : ℕ) : ℕ :=
  if next ≤ given next id then (given next id + 1) % size else next

def Passed (size next id : ℕ) : Prop := id ≠ 0 ∧ (id < next ∨ (id + 1) % size = next)

theorem after_eq_iff (several : 1 < size) (below : next < size) :
    after size next id = next ↔ Passed size next id := by
  unfold after Passed given
  by_cases own : id = 0
  · have moved : (next + 1) % size ≠ next := by
      by_cases last : next + 1 = size
      · rw [last, Nat.mod_self]
        omega
      · rw [Nat.mod_eq_of_lt (by omega)]
        omega
    simp [own, moved]
  · rw [if_neg own]
    split
    · simp only [own, ne_eq, not_false_eq_true, true_and]
      omega
    · simp only [own, ne_eq, not_false_eq_true, true_and, true_iff]
      omega

theorem given_lt (below : next < size) (named : id < size) : given next id < size := by
  unfold given
  split
  · exact below
  · exact named

section Above

variable {α : Type*} {toNat : α → ℕ} {used used' : α → Prop} {new : α}

/-- As long as the last id is unused, the counter is above every id that is used. -/
def Above (size : ℕ) (toNat : α → ℕ) (next : ℕ) (used : α → Prop) : Prop :=
  (∀ k, used k → toNat k ≠ size - 1) → 0 < next ∧ ∀ k, used k → toNat k < next

theorem above_after (below : next < size) (named : id < size) (above : Above size toNat next used)
    (gives : toNat new = given next id) (grown : ∀ k, used' k ↔ used k ∨ k = new) :
    Above size toNat (after size next id) used' := by
  intro unspent
  obtain ⟨positive, exceeded⟩ := above fun k member => unspent k ((grown k).mpr (.inl member))
  have bound := given_lt below named
  have notLast : given next id ≠ size - 1 := by
    rw [← gives]
    exact unspent new ((grown new).mpr (.inr rfl))
  have stepped : after size next id = if next ≤ given next id then given next id + 1 else next := by
    unfold after
    rw [Nat.mod_eq_of_lt (by omega)]
  rw [stepped]
  refine ⟨by split <;> omega, ?_⟩
  intro k member
  rcases (grown k).mp member with earlier | rfl
  · have := exceeded k earlier
    split <;> omega
  · rw [gives]
    split <;> omega

theorem own_fresh (above : Above size toNat next used)
    (unspent : ∀ k, used k → toNat k ≠ size - 1) (own : toNat new = next) :
    toNat new ≠ 0 ∧ ¬ used new := by
  obtain ⟨positive, exceeded⟩ := above unspent
  refine ⟨by omega, ?_⟩
  intro member
  have := exceeded new member
  omega

end Above

end Siglatch.IdCounter
