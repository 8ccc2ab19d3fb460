import Mathlib.Data.List.Forall2

set_option autoImplicit false

namespace Siglatch.OverwriteRing

/-! A fixed number of slots that are written in turn, the oldest first, and the window of a log that
they hold. -/

structure RingBuffer (α : Type*) where
  slots : List α
  next : ℕ
  next_lt : next < slots.length

section RingBuffer

variable {α : Type*} (r : RingBuffer α)

def RingBuffer.push (x : α) : RingBuffer α where
  slots := r.slots.set r.next x
  next := (r.next + 1) % r.slots.length
  next_lt := by
    rw [List.length_set]
    exact Nat.mod_lt _ (Nat.zero_lt_of_lt r.next_lt)

/-- The slots from the one written last to the one to be written next. -/
def RingBuffer.recent : List α := (r.slots.drop r.next ++ r.slots.take r.next).reverse

theorem mem_recent {x : α} : x ∈ r.recent ↔ x ∈ r.slots := by
  rw [RingBuffer.recent, List.mem_reverse, List.mem_append, or_comm, ← List.mem_append,
    List.take_append_drop]

/-- A push puts a slot in front and gives the oldest one up. -/
theorem recent_push (x : α) : (r.push x).recent = x :: r.recent.dropLast := by
  have inside := r.next_lt
  have old : r.slots.drop r.next ++ r.slots.take r.next =
      r.slots[r.next] :: (r.slots.drop (r.next + 1) ++ r.slots.take r.next) := by
    rw [List.drop_eq_getElem_cons inside, List.cons_append]
  have written : (r.slots.set r.next x).drop (r.next + 1) = r.slots.drop (r.next + 1) :=
    List.drop_set_of_lt (Nat.lt_succ_self _)
  have kept : (r.slots.set r.next x).take (r.next + 1) = r.slots.take r.next ++ [x] := by
    rw [List.take_succ_eq_append_getElem (by rw [List.length_set]; exact inside),
      List.take_set_of_le (Nat.le_refl _), List.getElem_set_self]
  have turned : (r.push x).slots.drop (r.push x).next ++ (r.push x).slots.take (r.push x).next =
      r.slots.drop (r.next + 1) ++ (r.slots.take r.next ++ [x]) := by
    change (r.slots.set r.next x).drop ((r.next + 1) % r.slots.length) ++
      (r.slots.set r.next x).take ((r.next + 1) % r.slots.length) = _
    by_cases last : r.next + 1 = r.slots.length
    · rw [last, Nat.mod_self, List.drop_zero, List.take_zero, List.append_nil, List.drop_length,
        List.nil_append, ← kept, last, List.take_of_length_le (Nat.le_of_eq (List.length_set ..))]
    · rw [Nat.mod_eq_of_lt (by omega), written, kept]
  rw [RingBuffer.recent, turned, ← List.append_assoc, List.reverse_append, List.reverse_singleton,
    RingBuffer.recent, old, List.reverse_cons, List.dropLast_concat, List.singleton_append]

theorem recent_forall₂ {β : Type*} {R : α → β → Prop} {q : RingBuffer β} (same : r.next = q.next)
    (slots : List.Forall₂ R r.slots q.slots) : List.Forall₂ R r.recent q.recent := by
  rw [RingBuffer.recent, RingBuffer.recent, List.forall₂_reverse_iff, same]
  exact List.rel_append (List.forall₂_drop _ slots) (List.forall₂_take _ slots)

end RingBuffer

section Window

variable {β : Type*}

/-- The newest entries of a log, as many as there are slots, and blanks where there are fewer. -/
def window (n : ℕ) (log : List β) : List (Option β) :=
  (log.map some ++ List.replicate n none).take n

theorem window_nil (n : ℕ) : window n ([] : List β) = List.replicate n none := by
  rw [window, List.map_nil, List.nil_append,
    List.take_of_length_le (Nat.le_of_eq List.length_replicate)]

theorem window_length (n : ℕ) (log : List β) : (window n log).length = n := by
  rw [window, List.length_take, List.length_append, List.length_replicate]
  omega

theorem window_cons {n : ℕ} (pos : 0 < n) (b : β) (log : List β) :
    window n (b :: log) = some b :: (window n log).dropLast := by
  obtain ⟨m, rfl⟩ : ∃ m, n = m + 1 := ⟨n - 1, by omega⟩
  rw [List.dropLast_eq_take, window_length, Nat.add_sub_cancel, window, window, List.take_take,
    Nat.min_eq_left (Nat.le_succ m), List.map_cons, List.cons_append, List.take_succ_cons]

theorem some_mem_window {n : ℕ} {log : List β} {b : β} :
    some b ∈ window n log ↔ ∃ i, i < n ∧ log[i]? = some b := by
  rw [List.mem_iff_getElem?]
  apply exists_congr
  intro i
  by_cases inside : i < n
  · rw [window, List.getElem?_take_of_lt inside]
    by_cases kept : i < log.length
    · rw [List.getElem?_append_left (by rw [List.length_map]; exact kept), List.getElem?_map]
      simp [inside]
    · rw [List.getElem?_append_right (by rw [List.length_map]; omega),
        List.getElem?_eq_none (Nat.not_lt.mp kept)]
      simp [List.getElem?_replicate]
  · rw [List.getElem?_eq_none (by rw [window_length]; omega)]
    simp [inside]

end Window

end Siglatch.OverwriteRing
