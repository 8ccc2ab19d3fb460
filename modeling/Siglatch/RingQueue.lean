import Mathlib.Data.List.Basic
import Mathlib.Data.Nat.ModEq
import Mathlib.Logic.Function.Basic

set_option autoImplicit false

namespace Siglatch.RingQueue

/-! A bounded queue in an array of `n` slots with wrapping head and tail indices. -/

structure Ring (n : ℕ) (α : Type*) where
  queue : Fin n → α
  head : ℕ
  tail : ℕ
  count : ℕ
  head_lt : head < n
  count_le : count ≤ n
  tail_eq : tail = (head + count) % n

namespace Ring

variable {n : ℕ} {α : Type*}

theorem pos (q : Ring n α) : 0 < n := Nat.zero_lt_of_lt q.head_lt

def slot (q : Ring n α) (j : ℕ) : Fin n := ⟨(q.head + j) % n, Nat.mod_lt _ q.pos⟩

def get (q : Ring n α) (j : ℕ) : α := q.queue (q.slot j)

/-- The queued entries, oldest first. -/
def contents (q : Ring n α) : List α := (List.range q.count).map q.get

def empty (hn : 0 < n) (blank : α) : Ring n α where
  queue := fun _ => blank
  head := 0
  tail := 0
  count := 0
  head_lt := hn
  count_le := Nat.zero_le n
  tail_eq := (Nat.zero_mod n).symm

/-- Write at the tail; the caller has checked that the queue is not full. -/
def push (q : Ring n α) (x : α) (h : q.count < n) : Ring n α where
  queue := Function.update q.queue ⟨q.tail, q.tail_eq ▸ Nat.mod_lt _ q.pos⟩ x
  head := q.head
  tail := (q.tail + 1) % n
  count := q.count + 1
  head_lt := q.head_lt
  count_le := h
  tail_eq := by rw [q.tail_eq, Nat.mod_add_mod, Nat.add_assoc]

/-- Blank the head slot and step over it; the caller has checked that there is one. -/
def pop (q : Ring n α) (blank : α) (h : 0 < q.count) : Ring n α where
  queue := Function.update q.queue ⟨q.head, q.head_lt⟩ blank
  head := (q.head + 1) % n
  tail := q.tail
  count := q.count - 1
  head_lt := Nat.mod_lt _ q.pos
  count_le := (Nat.sub_le _ _).trans q.count_le
  tail_eq := by
    have hc : 1 + (q.count - 1) = q.count := by omega
    rw [q.tail_eq, Nat.mod_add_mod, Nat.add_assoc, hc]

def front (q : Ring n α) : α := q.queue ⟨q.head, q.head_lt⟩

@[simp] theorem contents_length (q : Ring n α) : q.contents.length = q.count := by
  simp [contents]

@[simp] theorem contents_empty (hn : 0 < n) (blank : α) : (empty hn blank).contents = [] := rfl

theorem contents_eq_nil (q : Ring n α) : q.contents = [] ↔ q.count = 0 := by
  rw [← List.length_eq_zero_iff, contents_length]

theorem slot_ne {h j k : ℕ} (hjk : j < k) (hk : k < j + n) : (h + j) % n ≠ (h + k) % n := by
  intro he
  have hmod : j ≡ k [MOD n] := Nat.ModEq.add_left_cancel' h he
  have hdvd : n ∣ k - j := (Nat.modEq_iff_dvd' hjk.le).mp hmod
  have := Nat.le_of_dvd (by omega) hdvd
  omega

theorem slot_tail (q : Ring n α) : q.slot q.count = ⟨q.tail, q.tail_eq ▸ Nat.mod_lt _ q.pos⟩ := by
  apply Fin.ext
  exact q.tail_eq.symm

theorem slot_zero (q : Ring n α) : q.slot 0 = ⟨q.head, q.head_lt⟩ := by
  apply Fin.ext
  exact Nat.mod_eq_of_lt q.head_lt

theorem push_get_old (q : Ring n α) (x : α) (h : q.count < n) {j : ℕ} (hj : j < q.count) :
    (q.push x h).get j = q.get j := by
  have hne : q.slot j ≠ q.slot q.count := by
    intro he
    exact slot_ne (h := q.head) hj (by omega) (congrArg Fin.val he)
  change Function.update q.queue _ x (q.slot j) = q.queue (q.slot j)
  rw [← slot_tail, Function.update_of_ne hne]

theorem push_get_new (q : Ring n α) (x : α) (h : q.count < n) :
    (q.push x h).get q.count = x := by
  change Function.update q.queue _ x (q.slot q.count) = x
  rw [← slot_tail, Function.update_self]

theorem contents_push (q : Ring n α) (x : α) (h : q.count < n) :
    (q.push x h).contents = q.contents ++ [x] := by
  change (List.range (q.count + 1)).map (q.push x h).get = _
  rw [List.range_succ, List.map_append]
  congr 1
  · refine List.map_congr_left ?_
    intro j hj
    exact push_get_old q x h (List.mem_range.mp hj)
  · simp [push_get_new]

theorem pop_get (q : Ring n α) (blank : α) (h : 0 < q.count) {j : ℕ} (hj : j < q.count - 1) :
    (q.pop blank h).get j = q.get (j + 1) := by
  have hslot : (q.pop blank h).slot j = q.slot (j + 1) := by
    apply Fin.ext
    change ((q.head + 1) % n + j) % n = (q.head + (j + 1)) % n
    rw [Nat.mod_add_mod]
    congr 1
    omega
  have hne : q.slot (j + 1) ≠ q.slot 0 := by
    intro he
    have := q.count_le
    exact slot_ne (h := q.head) (Nat.succ_pos j) (by omega) (congrArg Fin.val he).symm
  change Function.update q.queue _ blank ((q.pop blank h).slot j) = q.queue (q.slot (j + 1))
  rw [hslot, ← slot_zero, Function.update_of_ne hne]

theorem contents_pop (q : Ring n α) (blank : α) (h : 0 < q.count) :
    q.contents = q.front :: (q.pop blank h).contents := by
  have hfront : q.get 0 = q.front := by
    change q.queue (q.slot 0) = q.queue _
    rw [slot_zero]
  obtain ⟨c, hc⟩ : ∃ c, q.count = c + 1 := ⟨q.count - 1, by omega⟩
  have hpop : (q.pop blank h).count = c := by change q.count - 1 = c; omega
  unfold contents
  rw [hc, hpop, List.range_succ_eq_map, List.map_cons, hfront, List.map_map]
  congr 1
  refine List.map_congr_left ?_
  intro j hj
  rw [pop_get q blank h (by have := List.mem_range.mp hj; omega)]
  rfl

end Ring

end Siglatch.RingQueue
