import Mathlib.Data.Fintype.Card
import Mathlib.Algebra.BigOperators.Group.Finset.Piecewise
import Mathlib.Algebra.Order.BigOperators.Group.Finset
import Mathlib.Data.Fin.Tuple.Basic

set_option autoImplicit false

namespace Siglatch.SlotTable

/-! Fixed-size tables of slots, searched from index zero and written one slot at a time. -/

section Search

variable {n : ℕ} {α : Type*}

def find? (t : Fin n → α) (p : α → Bool) : Option (Fin n) := Fin.find? fun i => p (t i)

theorem find?_holds {t : Fin n → α} {p : α → Bool} {i : Fin n} (h : find? t p = some i) :
    p (t i) = true :=
  Fin.eq_true_of_find?_eq_some h

theorem find?_first {t : Fin n → α} {p : α → Bool} {i j : Fin n} (h : find? t p = some i)
    (hj : j < i) : p (t j) = false :=
  Fin.eq_false_of_find?_eq_some_of_lt h j hj

theorem find?_none_iff {t : Fin n → α} {p : α → Bool} :
    find? t p = none ↔ ∀ i, p (t i) = false :=
  Fin.find?_eq_none_iff

theorem find?_exists {t : Fin n → α} {p : α → Bool} {i : Fin n} (h : p (t i) = true) :
    ∃ j, find? t p = some j := by
  cases hf : find? t p with
  | some j => exact ⟨j, rfl⟩
  | none => rw [find?_none_iff.mp hf i] at h; contradiction

theorem find?_congr {t u : Fin n → α} {p q : α → Bool} (h : ∀ i, p (t i) = q (u i)) :
    find? t p = find? u q := by
  unfold find?
  exact congrArg Fin.find? (funext h)

theorem find?_kept {t u : Fin n → α} {p : α → Bool} {i : Fin n} (h : find? t p = some i)
    (hi : p (u i) = true) (hu : ∀ j, p (u j) = true → p (t j) = true) : find? u p = some i := by
  refine Fin.find?_eq_some_iff.mpr ⟨hi, ?_⟩
  intro j hj
  by_contra hmatch
  have hbefore := hu j (by simpa using hmatch)
  rw [find?_first h hj] at hbefore
  contradiction

theorem find?_unique {t : Fin n → α} {p : α → Bool} {i : Fin n} (h : p (t i) = true)
    (hi : ∀ j, p (t j) = true → j = i) : find? t p = some i := by
  obtain ⟨j, hj⟩ := find?_exists h
  rw [hj, hi j (find?_holds hj)]

end Search

section Contents

variable {n : ℕ} {α β : Type*} {f : α → Option β}

def single (o : Option β) : Multiset β := o.elim 0 fun b => {b}

/-- What the slots hold, seen through `f`: `none` marks a slot that holds nothing. -/
def contents (f : α → Option β) (t : Fin n → α) : Multiset β := ∑ i, single (f (t i))

def others (f : α → Option β) (t : Fin n → α) (i : Fin n) : Multiset β :=
  ∑ j ∈ Finset.univ.erase i, single (f (t j))

theorem mem_single {o : Option β} {b : β} : b ∈ single o ↔ o = some b := by
  cases o with
  | none => simp [single]
  | some c => simp [single, eq_comm]

theorem mem_contents {t : Fin n → α} {b : β} : b ∈ contents f t ↔ ∃ i, f (t i) = some b := by
  simp [contents, Multiset.mem_sum, mem_single]

theorem contents_split (t : Fin n → α) (i : Fin n) :
    contents f t = single (f (t i)) + others f t i :=
  (Finset.add_sum_erase Finset.univ (fun j => single (f (t j))) (Finset.mem_univ i)).symm

theorem others_update (t : Fin n → α) (i : Fin n) (x : α) :
    others f (Function.update t i x) i = others f t i := by
  unfold others
  refine Finset.sum_congr rfl ?_
  intro j hj
  rw [Function.update_of_ne (Finset.ne_of_mem_erase hj)]

theorem contents_update (t : Fin n → α) (i : Fin n) (x : α) :
    single (f (t i)) + contents f (Function.update t i x) = single (f x) + contents f t := by
  rw [contents_split t i, contents_split (Function.update t i x) i, Function.update_self,
    others_update]
  exact add_left_comm _ _ _

theorem contents_fill {t : Fin n → α} {i : Fin n} {x : α} {b : β} (h : f (t i) = none)
    (hx : f x = some b) : contents f (Function.update t i x) = b ::ₘ contents f t := by
  have hu := contents_update (f := f) t i x
  rw [h, hx] at hu
  simpa [single] using hu

theorem contents_clear {t : Fin n → α} {i : Fin n} {x : α} {b : β} (h : f (t i) = some b)
    (hx : f x = none) : contents f t = b ::ₘ contents f (Function.update t i x) := by
  have hu := contents_update (f := f) t i x
  rw [h, hx] at hu
  simpa [single] using hu.symm

theorem contents_overwrite {t : Fin n → α} {i : Fin n} {x : α} (h : f x = f (t i)) :
    contents f (Function.update t i x) = contents f t := by
  have hu := contents_update (f := f) t i x
  rw [h] at hu
  exact add_left_cancel hu

theorem single_filter (o : Option β) (p : β → Prop) [DecidablePred p] :
    single (o.filter fun b => decide (p b)) = (single o).filter p := by
  cases o with
  | none => rfl
  | some b =>
    by_cases hb : p b
    · simp [single, Option.filter, hb, Multiset.filter_singleton]
    · simp [single, Option.filter, hb, Multiset.filter_singleton]

theorem contents_filter {t u : Fin n → α} {p : β → Prop} [DecidablePred p]
    (h : ∀ i, f (u i) = (f (t i)).filter fun b => decide (p b)) :
    contents f u = (contents f t).filter p := by
  have hsum : ∀ s : Finset (Fin n),
      ∑ i ∈ s, single (f (u i)) = (∑ i ∈ s, single (f (t i))).filter p := by
    intro s
    induction s using Finset.induction_on with
    | empty => rfl
    | insert i s hi ih =>
      rw [Finset.sum_insert hi, Finset.sum_insert hi, Multiset.filter_add, ih, h i, single_filter]
  exact hsum Finset.univ

theorem contents_empty {t : Fin n → α} (h : ∀ i, f (t i) = none) : contents f t = 0 := by
  unfold contents
  refine Finset.sum_eq_zero ?_
  intro i _
  rw [h i]
  rfl

theorem map_single {γ : Type*} (g : β → γ) (o : Option β) :
    (single o).map g = single (o.map g) := by
  cases o with
  | none => rfl
  | some b => rfl

theorem contents_map {γ : Type*} (g : β → γ) (t : Fin n → α) :
    (contents f t).map g = contents (fun a => (f a).map g) t := by
  unfold contents
  refine (map_sum (Multiset.mapAddMonoidHom g) _ _).trans ?_
  exact Finset.sum_congr rfl fun i _ => map_single g (f (t i))

theorem slot_unique {t : Fin n → α} (nodup : (contents f t).Nodup) {i j : Fin n} {b : β}
    (hi : f (t i) = some b) (hj : f (t j) = some b) : i = j := by
  by_contra other
  rw [contents_split t i, hi] at nodup
  have again : b ∈ others f t i :=
    Multiset.mem_sum.mpr ⟨j, Finset.mem_erase.mpr ⟨Ne.symm other, Finset.mem_univ j⟩,
      mem_single.mpr hj⟩
  exact (Multiset.nodup_cons.mp nodup).1 again

theorem card_single (o : Option β) : (single o).card = if o.isSome then 1 else 0 := by
  cases o <;> rfl

theorem card_contents (t : Fin n → α) :
    (contents f t).card = (Finset.univ.filter fun i => (f (t i)).isSome).card := by
  unfold contents
  rw [Multiset.card_sum, Finset.card_filter]
  exact Finset.sum_congr rfl fun i _ => card_single _

theorem card_contents_le (t : Fin n → α) : (contents f t).card ≤ n := by
  rw [card_contents]
  exact (Finset.card_filter_le _ _).trans_eq (by simp)

theorem contents_le {t u : Fin n → α} (h : ∀ i, f (u i) = none ∨ f (u i) = f (t i)) :
    contents f u ≤ contents f t := by
  refine Finset.sum_le_sum ?_
  intro i _
  rcases h i with emptied | kept
  · rw [emptied]
    exact Multiset.zero_le _
  · rw [kept]

theorem update_of_others {t u : Fin n → α} {i : Fin n} (h : ∀ j, j ≠ i → u j = t j) :
    u = Function.update t i (u i) := by
  funext j
  by_cases same : j = i
  · rw [same, Function.update_self]
  · rw [Function.update_of_ne same, h j same]

theorem free_iff (t : Fin n → α) : (∃ i, f (t i) = none) ↔ (contents f t).card < n := by
  rw [card_contents]
  constructor
  · rintro ⟨i, hi⟩
    refine (Finset.card_lt_univ_of_notMem (x := i) ?_).trans_eq (by simp)
    simp [hi]
  · intro h
    by_contra hn
    push Not at hn
    have hall : (Finset.univ.filter fun i => (f (t i)).isSome) = Finset.univ := by
      refine Finset.filter_true_of_mem ?_
      intro i _
      exact Option.isSome_iff_ne_none.mpr (hn i)
    rw [hall] at h
    simp at h

end Contents

section Keyed

variable {n : ℕ} {α κ : Type*} [DecidableEq κ] (key : α → Option κ)

def lookup (t : Fin n → α) (k : κ) : Option (Fin n) := find? t fun a => decide (key a = some k)

def free (t : Fin n → α) : Option (Fin n) := find? t fun a => (key a).isNone

/-- The slot holding `k`; when there is none, the first free slot, overwritten by `fresh`. -/
def acquire (fresh : α) (t : Fin n → α) (k : κ) : Option (Fin n) × (Fin n → α) :=
  match lookup key t k with
  | some i => (some i, t)
  | none =>
    match free key t with
    | some i => (some i, Function.update t i fresh)
    | none => (none, t)

/-- The entry a search for `k` sees. -/
def entry (t : Fin n → α) (k : κ) : Option α := (lookup key t k).map t

variable {key} {t : Fin n → α} {i : Fin n} {k : κ} {x : α}

theorem lookup_key (h : lookup key t k = some i) : key (t i) = some k := by
  have hp : (fun a => decide (key a = some k)) (t i) = true := find?_holds h
  exact of_decide_eq_true hp

theorem lookup_none_iff : lookup key t k = none ↔ k ∉ contents key t := by
  unfold lookup
  rw [find?_none_iff, mem_contents]
  simp

omit [DecidableEq κ] in
theorem free_key (h : free key t = some i) : key (t i) = none :=
  Option.isNone_iff_eq_none.mp (find?_holds h)

omit [DecidableEq κ] in
theorem free_none_iff : free key t = none ↔ (contents key t).card = n := by
  have hle := card_contents_le (f := key) t
  have hfree := free_iff (f := key) t
  unfold free
  rw [find?_none_iff]
  constructor
  · intro h
    by_contra hne
    obtain ⟨i, hi⟩ := hfree.mpr (by omega)
    have := h i
    rw [hi] at this
    contradiction
  · intro h i
    cases hi : key (t i) with
    | some k => rfl
    | none => have := hfree.mp ⟨i, hi⟩; omega

theorem lookup_unique (nodup : (contents key t).Nodup) (h : key (t i) = some k) :
    lookup key t k = some i := by
  refine find?_unique (decide_eq_true h) ?_
  intro j hj
  exact slot_unique nodup (of_decide_eq_true hj) h

theorem entry_of_lookup (h : lookup key t k = some i) : entry key t k = some (t i) := by
  simp [entry, h]

theorem entry_none_iff : entry key t k = none ↔ k ∉ contents key t := by
  rw [← lookup_none_iff (t := t)]
  simp [entry]

theorem lookup_overwrite (h : lookup key t k = some i) (hx : key x = some k) (k' : κ) :
    lookup key (Function.update t i x) k' = lookup key t k' := by
  refine find?_congr ?_
  intro j
  by_cases hj : j = i
  · subst j; rw [Function.update_self, hx, lookup_key h]
  · rw [Function.update_of_ne hj]

theorem lookup_fill_ne (h : key (t i) = none) (hx : key x = some k) {k' : κ} (hk : k' ≠ k) :
    lookup key (Function.update t i x) k' = lookup key t k' := by
  refine find?_congr ?_
  intro j
  by_cases hj : j = i
  · rw [hj]
    have hne : key x ≠ some k' := by rw [hx]; exact fun e => hk (Option.some.inj e).symm
    have hfree : key (t i) ≠ some k' := by rw [h]; exact (Option.some_ne_none k').symm
    rw [Function.update_self, decide_eq_false hne, decide_eq_false hfree]
  · rw [Function.update_of_ne hj]

theorem lookup_fill_self (hk : lookup key t k = none) (hx : key x = some k) :
    lookup key (Function.update t i x) k = some i := by
  refine find?_unique ?_ ?_
  · rw [Function.update_self]; exact decide_eq_true hx
  · intro j hj
    by_contra hne
    rw [Function.update_of_ne hne] at hj
    have hno := find?_none_iff.mp hk j
    rw [hj] at hno
    contradiction

theorem entry_update_ne (hi : ∀ k', k' ≠ k →
      lookup key (Function.update t i x) k' = lookup key t k')
    (ht : ∀ k', key (t i) = some k' → k' = k) {k' : κ} (hk : k' ≠ k) :
    entry key (Function.update t i x) k' = entry key t k' := by
  unfold entry
  rw [hi k' hk]
  cases hl : lookup key t k' with
  | none => rfl
  | some j =>
    have hj : j ≠ i := by
      rintro rfl
      exact hk (ht k' (lookup_key hl))
    simp [Function.update_of_ne hj]

theorem entry_overwrite_ne (h : lookup key t k = some i) (hx : key x = some k) {k' : κ}
    (hk : k' ≠ k) : entry key (Function.update t i x) k' = entry key t k' := by
  refine entry_update_ne (fun k' _ => lookup_overwrite h hx k') ?_ hk
  intro k'' hk''
  rw [lookup_key h] at hk''
  exact (Option.some.inj hk'').symm

theorem entry_overwrite_self (h : lookup key t k = some i) (hx : key x = some k) :
    entry key (Function.update t i x) k = some x := by
  rw [entry_of_lookup ((lookup_overwrite h hx k).trans h), Function.update_self]

theorem entry_fill_ne (h : key (t i) = none) (hx : key x = some k) {k' : κ} (hk : k' ≠ k) :
    entry key (Function.update t i x) k' = entry key t k' := by
  refine entry_update_ne (fun k' hk' => lookup_fill_ne h hx hk') ?_ hk
  intro k'' hk''
  rw [h] at hk''
  contradiction

variable (key) in
/-- What acquiring a key does to the table, whichever of its branches is taken. -/
theorem acquire_cases (fresh : α) (t : Fin n → α) (k : κ) :
    (∃ i, lookup key t k = some i ∧ acquire key fresh t k = (some i, t)) ∨
    (∃ i, lookup key t k = none ∧ key (t i) = none ∧
      acquire key fresh t k = (some i, Function.update t i fresh)) ∨
    (lookup key t k = none ∧ (contents key t).card = n ∧ acquire key fresh t k = (none, t)) := by
  unfold acquire
  cases hl : lookup key t k with
  | some i => exact .inl ⟨i, rfl, rfl⟩
  | none =>
    cases hf : free key t with
    | some i => exact .inr (.inl ⟨i, rfl, free_key hf, rfl⟩)
    | none => exact .inr (.inr ⟨rfl, free_none_iff.mp hf, rfl⟩)

theorem acquire_some {fresh : α} {u : Fin n → α} (hfresh : key fresh = some k)
    (h : acquire key fresh t k = (some i, u)) :
    lookup key u k = some i ∧ u i = (entry key t k).getD fresh ∧
    (∀ k', k' ≠ k → entry key u k' = entry key t k') := by
  obtain ⟨j, hl, ha⟩ | ⟨j, hl, hj, ha⟩ | ⟨hl, hc, ha⟩ := acquire_cases key fresh t k
  · rw [ha] at h
    obtain ⟨rfl, rfl⟩ : j = i ∧ t = u := by simpa using h
    exact ⟨hl, by rw [entry_of_lookup hl]; rfl, fun _ _ => rfl⟩
  · rw [ha] at h
    obtain ⟨rfl, rfl⟩ : j = i ∧ Function.update t j fresh = u := by simpa using h
    refine ⟨lookup_fill_self hl hfresh, ?_, fun k' hk' => entry_fill_ne hj hfresh hk'⟩
    rw [Function.update_self]
    simp [entry, hl]
  · rw [ha] at h
    simp at h

theorem acquire_none_iff {fresh : α} :
    (acquire key fresh t k).1 = none ↔ k ∉ contents key t ∧ (contents key t).card = n := by
  rw [← lookup_none_iff]
  obtain ⟨j, hl, ha⟩ | ⟨j, hl, hj, ha⟩ | ⟨hl, hc, ha⟩ := acquire_cases key fresh t k
  · rw [ha, hl]; simp
  · have hlt := (free_iff (f := key) t).mp ⟨j, hj⟩
    rw [ha]
    simp
    omega
  · rw [ha]; simp [hl, hc]

theorem acquire_contents {fresh : α} (hfresh : key fresh = some k) :
    contents key (acquire key fresh t k).2 =
      if k ∈ contents key t then contents key t
      else if (contents key t).card = n then contents key t else k ::ₘ contents key t := by
  obtain ⟨j, hl, ha⟩ | ⟨j, hl, hj, ha⟩ | ⟨hl, hc, ha⟩ := acquire_cases key fresh t k
  · have hmem : k ∈ contents key t := by
      rw [mem_contents]; exact ⟨j, lookup_key hl⟩
    rw [ha, if_pos hmem]
  · have hlt := (free_iff (f := key) t).mp ⟨j, hj⟩
    rw [ha, if_neg (lookup_none_iff.mp hl), if_neg (by omega)]
    exact contents_fill hj hfresh
  · rw [ha, if_neg (lookup_none_iff.mp hl), if_pos hc]

end Keyed

end Siglatch.SlotTable
