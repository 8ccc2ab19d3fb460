import Mathlib.Data.List.Basic

set_option autoImplicit false

namespace Siglatch.KeyedEntries

/-! A list of entries as a map from keys, where the first entry of a key counts. -/

variable {α κ : Type*} [DecidableEq κ] (key : α → κ)

def lookup (k : κ) (entries : List α) : Option α := entries.find? (key · = k)

/-- The first entry of the key is renewed, or a fresh one comes last. -/
def upsert (k : κ) (renew : α → α) (fresh : α) : List α → List α
  | [] => [fresh]
  | e :: es => if key e = k then renew e :: es else e :: upsert k renew fresh es

def remove (k : κ) (entries : List α) : List α := entries.filter (key · ≠ k)

section lemmas
variable {key} {k k' : κ} {renew : α → α} {fresh : α} (entries : List α)

theorem lookup_upsert_same (hrenew : ∀ e, key (renew e) = key e) (hfresh : key fresh = k) :
    lookup key k (upsert key k renew fresh entries) =
      some (((lookup key k entries).map renew).getD fresh) := by
  induction entries with
  | nil => simp [lookup, upsert, hfresh]
  | cons e es ih =>
    unfold lookup at ih
    by_cases he : key e = k
    · simp [lookup, upsert, he, hrenew]
    · simp [lookup, upsert, he, ih]

theorem lookup_upsert_other (hrenew : ∀ e, key (renew e) = key e) (hfresh : key fresh = k)
    (h : k' ≠ k) :
    lookup key k' (upsert key k renew fresh entries) = lookup key k' entries := by
  induction entries with
  | nil => simp [lookup, upsert, hfresh, Ne.symm h]
  | cons e es ih =>
    unfold lookup at ih
    by_cases he : key e = k
    · simp [lookup, upsert, he, hrenew, Ne.symm h]
    · simp [lookup, upsert, he, ih, List.find?_cons]

theorem upsert_forall {p : α → Prop} (hrenew : ∀ e, p e → p (renew e)) (hfresh : p fresh)
    (h : ∀ e ∈ entries, p e) : ∀ e ∈ upsert key k renew fresh entries, p e := by
  induction entries with
  | nil => simpa [upsert] using hfresh
  | cons e es ih =>
    have hes : ∀ e' ∈ es, p e' := fun e' he' => h e' (List.mem_cons_of_mem e he')
    have he : p e := h e List.mem_cons_self
    unfold upsert
    split
    · exact List.forall_mem_cons.mpr ⟨hrenew e he, hes⟩
    · exact List.forall_mem_cons.mpr ⟨he, ih hes⟩

theorem lookup_remove_same : lookup key k (remove key k entries) = none := by
  simp [lookup, remove]

theorem lookup_remove_other (h : k' ≠ k) :
    lookup key k' (remove key k entries) = lookup key k' entries := by
  have hsame : (fun e => decide (decide (key e ≠ k) = true ∧ decide (key e = k') = true)) =
      fun e => decide (key e = k') := by
    funext e
    by_cases he : key e = k'
    · simp [he, h]
    · simp [he]
  unfold lookup remove
  rw [List.find?_filter, hsame]

theorem lookup_map {g : α → α} (hkeys : ∀ e, key (g e) = key e) :
    lookup key k (entries.map g) = (lookup key k entries).map g := by
  unfold lookup
  rw [List.find?_map]
  have hsame : ((fun e => decide (key e = k)) ∘ g) = fun e => decide (key e = k) := by
    funext e
    simp [hkeys]
  rw [hsame]

end lemmas

end Siglatch.KeyedEntries
