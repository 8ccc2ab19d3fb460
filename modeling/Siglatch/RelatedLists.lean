import Mathlib.Data.List.Forall2

set_option autoImplicit false

namespace Siglatch.RelatedLists

/-! Lists whose entries come from one another by a function that may fail. -/

theorem mapM_forall₂ {α β : Type} {f : α → Option β} {xs : List α} {ys : List β}
    (h : xs.mapM f = some ys) : List.Forall₂ (fun x y => f x = some y) xs ys := by
  induction xs generalizing ys with
  | nil =>
    obtain rfl := Option.some.inj h
    exact .nil
  | cons x xs ih =>
    rw [List.mapM_cons] at h
    obtain ⟨y, made, h⟩ := Option.bind_eq_some_iff.mp h
    obtain ⟨rest, mapped, h⟩ := Option.bind_eq_some_iff.mp h
    obtain rfl := Option.some.inj h
    exact .cons made (ih mapped)

section Made

variable {α β γ : Type*} {f : α → Option β} {g : β → Option γ} {xs : List α} {ys : List β}
  {zs : List γ}

theorem forall₂_bind (first : List.Forall₂ (fun x y => f x = some y) xs ys)
    (second : List.Forall₂ (fun y z => g y = some z) ys zs) :
    List.Forall₂ (fun x z => (f x).bind g = some z) xs zs := by
  induction first generalizing zs with
  | nil =>
    cases second
    exact .nil
  | cons made _ ih =>
    cases second with
    | cons next rest => exact .cons (made ▸ next) (ih rest)

theorem forall₂_map (g : β → γ) (made : List.Forall₂ (fun x y => f x = some y) xs ys) :
    List.Forall₂ (fun x z => (f x).map g = some z) xs (ys.map g) := by
  rw [List.forall₂_map_right_iff]
  exact made.imp fun x y own => congrArg (Option.map g) own

theorem map_made (made : List.Forall₂ (fun x y => f x = some y) xs ys) :
    xs.map f = ys.map some := by
  rw [← List.forall₂_eq_eq_eq, List.forall₂_map_left_iff, List.forall₂_map_right_iff]
  exact made

theorem mem_made (made : List.Forall₂ (fun x y => f x = some y) xs ys) (y : β) :
    y ∈ ys ↔ ∃ x ∈ xs, f x = some y := by
  rw [← List.mem_map, map_made made, List.mem_map]
  constructor
  · intro member
    exact ⟨y, member, rfl⟩
  · rintro ⟨w, member, same⟩
    exact Option.some.inj same ▸ member

/-- The one entry that a property holds of is found exactly if its origin is there. -/
theorem find?_made (made : List.Forall₂ (fun x y => f x = some y) xs ys) {p : β → Bool} {x : α}
    {y : β} (own : f x = some y) (fits : p y = true)
    (only : ∀ z ∈ xs, ∀ w, f z = some w → p w = true → z = x) (w : β) :
    ys.find? p = some w ↔ w = y ∧ x ∈ xs := by
  have origin (w : β) (found : ys.find? p = some w) : w = y ∧ x ∈ xs := by
    obtain ⟨z, member, made⟩ := (mem_made made w).mp (List.mem_of_find?_eq_some found)
    obtain rfl := only z member w made (List.find?_some found)
    exact ⟨Option.some.inj (made.symm.trans own), member⟩
  constructor
  · exact origin w
  · rintro ⟨rfl, member⟩
    have there : w ∈ ys := (mem_made made w).mpr ⟨x, member, own⟩
    obtain ⟨v, found⟩ := Option.isSome_iff_exists.mp (List.find?_isSome.mpr ⟨w, there, fits⟩)
    rw [found, (origin v found).1]

end Made

section Related

variable {α β γ : Type*} {R : α → β → Prop} {S : α → γ → Prop} {T : γ → β → Prop} {xs : List α}
  {ys : List β} {zs : List γ}

theorem related_left (related : List.Forall₂ R xs ys) {x : α} (member : x ∈ xs) :
    ∃ y ∈ ys, R x y := by
  induction related with
  | nil => cases member
  | cons first rest ih =>
    rcases List.mem_cons.mp member with rfl | member
    · exact ⟨_, List.mem_cons_self, first⟩
    · obtain ⟨y, there, second⟩ := ih member
      exact ⟨y, List.mem_cons_of_mem _ there, second⟩

theorem related_right (related : List.Forall₂ R xs ys) {y : β} (member : y ∈ ys) :
    ∃ x ∈ xs, R x y :=
  related_left related.flip member

theorem forall₂_through (first : List.Forall₂ R xs ys) (second : List.Forall₂ S xs zs)
    (through : ∀ x y z, R x y → S x z → T z y) : List.Forall₂ T zs ys := by
  induction first generalizing zs with
  | nil =>
    cases second
    exact .nil
  | cons here _ ih =>
    cases second with
    | cons there rest => exact .cons (through _ _ _ here there) (ih rest)

end Related

end Siglatch.RelatedLists
