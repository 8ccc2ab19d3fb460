import Mathlib.Data.List.Basic

set_option autoImplicit false

namespace Siglatch.SlotArray

/-! An array whose slots in use are the first so many, which grows by doubling and closes its
gaps. -/

variable {α : Type*}

/-- Doubling until there is room. -/
def grow (needed : ℕ) : ℕ → ℕ → ℕ
  | 0, capacity => capacity
  | rounds + 1, capacity =>
    if capacity < needed then grow needed rounds (capacity * 2) else capacity

/-- The slots behind one, up to the last, each a place further down. -/
def shiftDown (slots : List α) (place count : ℕ) : List α :=
  (List.range' place count).foldl
    (fun slots j => (slots[j + 1]?).elim slots fun slot => slots.set j slot) slots

theorem grow_enough {needed rounds capacity : ℕ} (some_room : 1 ≤ capacity)
    (enough : needed ≤ capacity + rounds) : needed ≤ grow needed rounds capacity := by
  induction rounds generalizing capacity with
  | zero => exact enough
  | succ rounds ih =>
    unfold grow
    split
    · exact ih (by omega) (by omega)
    · omega

theorem take_set_next (slots : List α) (slot : α) {used : ℕ} (room : used < slots.length) :
    (slots.set used slot).take (used + 1) = slots.take used ++ [slot] := by
  have written : (slots.set used slot)[used]? = some slot := by
    rw [List.getElem?_set, if_pos rfl, if_pos room]
  rw [List.take_add_one, written, List.take_set_of_le (Nat.le_refl used)]
  rfl

theorem shiftDown_succ (slots : List α) (place count : ℕ) :
    shiftDown slots place (count + 1) =
      ((shiftDown slots place count)[place + count + 1]?).elim (shiftDown slots place count)
        fun slot => (shiftDown slots place count).set (place + count) slot := by
  unfold shiftDown
  rw [List.range'_1_concat, List.foldl_append]
  rfl

theorem shiftDown_length (slots : List α) (place count : ℕ) :
    (shiftDown slots place count).length = slots.length := by
  induction count with
  | zero => rfl
  | succ count ih =>
    rw [shiftDown_succ]
    cases (shiftDown slots place count)[place + count + 1]? with
    | none => exact ih
    | some slot => rw [Option.elim_some, List.length_set, ih]

theorem shiftDown_get (slots : List α) (place count k : ℕ)
    (inside : place + count < slots.length) :
    (shiftDown slots place count)[k]? =
      if place ≤ k ∧ k < place + count then slots[k + 1]? else slots[k]? := by
  induction count generalizing k with
  | zero => rw [if_neg (by omega)]; rfl
  | succ count ih =>
    have bound : place + count + 1 < slots.length := by omega
    have there : slots[place + count + 1]? = some slots[place + count + 1] :=
      List.getElem?_eq_getElem bound
    have next := ih (place + count + 1) (by omega)
    rw [if_neg (by omega), there] at next
    rw [shiftDown_succ, next, Option.elim_some, List.getElem?_set, shiftDown_length]
    split
    · rename_i here
      subst here
      rw [if_pos (by omega), if_pos (by omega), there]
    · rename_i other
      rw [ih k (by omega)]
      by_cases moved : place ≤ k ∧ k < place + count
      · rw [if_pos moved, if_pos (by omega)]
      · rw [if_neg moved, if_neg (by omega)]

/-- What is in use after the shift is what was, without the slot of the gap. -/
theorem take_shiftDown (slots : List α) {place last : ℕ} (inside : last < slots.length)
    (before : place ≤ last) :
    (shiftDown slots place (last - place)).take last = (slots.take (last + 1)).eraseIdx place := by
  apply List.ext_getElem?
  intro k
  have shifted := shiftDown_get slots place (last - place) k (by omega)
  rw [List.getElem?_take, List.getElem?_eraseIdx, shifted]
  by_cases kept : k < last
  · rw [if_pos kept]
    by_cases front : k < place
    · rw [if_pos front, if_neg (by omega), List.getElem?_take_of_lt (by omega)]
    · rw [if_neg front, if_pos (by omega), List.getElem?_take_of_lt (by omega)]
  · rw [if_neg kept]
    split
    · omega
    · rw [List.getElem?_eq_none]
      rw [List.length_take]
      omega

section keys

variable {β : Type*} [DecidableEq β]

/-- With keys that differ, the first slot of a key is the only one. -/
theorem eraseP_distinct (key : α → β) (b : β) (slots : List α) (distinct : (slots.map key).Nodup) :
    slots.eraseP (fun slot => key slot = b) = slots.filter (fun slot => key slot ≠ b) := by
  induction slots with
  | nil => rfl
  | cons slot slots ih =>
    rw [List.map_cons, List.nodup_cons] at distinct
    obtain ⟨fresh, distinct⟩ := distinct
    by_cases same : key slot = b
    · have others : ∀ other ∈ slots, decide (key other ≠ b) = true := by
        intro other member
        refine decide_eq_true fun again => fresh ?_
        rw [same, ← again]
        exact List.mem_map_of_mem member
      rw [List.eraseP_cons_of_pos (by simpa using same),
        List.filter_cons_of_neg (by simpa using same), List.filter_eq_self.mpr others]
    · rw [List.eraseP_cons_of_neg (by simpa using same),
        List.filter_cons_of_pos (by simpa using same), ih distinct]

end keys

end Siglatch.SlotArray
