import Mathlib.Data.List.Basic
import Mathlib.Tactic.TypeStar

set_option autoImplicit false

namespace Siglatch.ProcessCredentials

/-! Who a process runs as, and the calls by which it changes that: any id where it is privileged,
one of the ids it already has where it is not. -/

variable {ι : Type*} [DecidableEq ι]

structure Ids (ι : Type*) where
  real : ι
  effective : ι
  saved : ι
  deriving DecidableEq

def Ids.all (id : ι) : Ids ι := ⟨id, id, id⟩

def Ids.Has (ids : Ids ι) (id : ι) : Prop :=
  id = ids.real ∨ id = ids.effective ∨ id = ids.saved

instance (ids : Ids ι) (id : ι) : Decidable (ids.Has id) :=
  inferInstanceAs (Decidable (_ ∨ _ ∨ _))

structure Credentials (ι : Type*) where
  user : Ids ι
  group : Ids ι
  groups : List ι
  deriving DecidableEq

/-- What `setuid` does to the user's ids, and `setgid` to the group's. -/
def set (privileged : Bool) (ids : Ids ι) (id : ι) : Option (Ids ι) :=
  if privileged then some (.all id)
  else if id = ids.real ∨ id = ids.saved then some { ids with effective := id }
  else none

/-- What `setresuid` and `setresgid` do, where `none` leaves an id as it is. -/
def setres (privileged : Bool) (ids : Ids ι) (real effective saved : Option ι) : Option (Ids ι) :=
  let after : Ids ι :=
    ⟨real.getD ids.real, effective.getD ids.effective, saved.getD ids.saved⟩
  if privileged = true ∨
      ids.Has after.real ∧ ids.Has after.effective ∧ ids.Has after.saved then some after
  else none

inductive Call (ι : Type*) where
  | setuid (id : ι)
  | setgid (id : ι)
  | setresuid (real effective saved : Option ι)
  | setresgid (real effective saved : Option ι)
  | setgroups (groups : List ι)

variable (root : ι)

def Credentials.privileged (c : Credentials ι) : Bool := decide (c.user.effective = root)

def call (c : Credentials ι) : Call ι → Option (Credentials ι)
  | .setuid id => (set (c.privileged root) c.user id).map fun user => { c with user := user }
  | .setgid id => (set (c.privileged root) c.group id).map fun group => { c with group := group }
  | .setresuid real effective saved =>
    (setres (c.privileged root) c.user real effective saved).map fun user => { c with user := user }
  | .setresgid real effective saved =>
    (setres (c.privileged root) c.group real effective saved).map fun group =>
      { c with group := group }
  | .setgroups groups => if c.privileged root then some { c with groups := groups } else none

def attempt (c : Credentials ι) (op : Call ι) : Credentials ι := (call root c op).getD c

def attempts (c : Credentials ι) (ops : List (Call ι)) : Credentials ι :=
  ops.foldl (attempt root) c

section Privileged

variable {root} {user group : Ids ι} {groups : List ι}

theorem setuid_privileged (strong : user.effective = root) (id : ι) :
    call root ⟨user, group, groups⟩ (.setuid id) = some ⟨.all id, group, groups⟩ := by
  have privileged : Credentials.privileged root ⟨user, group, groups⟩ = true :=
    decide_eq_true strong
  simp only [call, set]
  rw [if_pos privileged]
  rfl

theorem setgid_privileged (strong : user.effective = root) (id : ι) :
    call root ⟨user, group, groups⟩ (.setgid id) = some ⟨user, .all id, groups⟩ := by
  have privileged : Credentials.privileged root ⟨user, group, groups⟩ = true :=
    decide_eq_true strong
  simp only [call, set]
  rw [if_pos privileged]
  rfl

theorem setgroups_privileged (strong : user.effective = root) (others : List ι) :
    call root ⟨user, group, groups⟩ (.setgroups others) = some ⟨user, group, others⟩ := by
  simp only [call]
  exact if_pos (decide_eq_true strong)

end Privileged

section Confined

variable {root} {c : Credentials ι} {ids after : Ids ι} {id : ι}

theorem set_has (changed : set false ids id = some after) {other : ι} (has : after.Has other) :
    ids.Has other := by
  unfold set at changed
  rw [if_neg (by decide)] at changed
  split at changed
  · rename_i own
    cases changed
    rcases has with real | effective | saved
    · exact .inl real
    · rw [effective]
      rcases own with real | saved
      · exact .inl real
      · exact .inr (.inr saved)
    · exact .inr (.inr saved)
  · cases changed

theorem setres_has {real effective saved : Option ι}
    (changed : setres false ids real effective saved = some after) {other : ι}
    (has : after.Has other) : ids.Has other := by
  unfold setres at changed
  dsimp only at changed
  split at changed
  · rename_i own
    cases changed
    obtain ⟨own_real, own_effective, own_saved⟩ := own.resolve_left (by decide)
    rcases has with rfl | rfl | rfl
    · exact own_real
    · exact own_effective
    · exact own_saved
  · cases changed

/-- All the ids are among those the process had at some point, where it was not privileged. -/
structure Confined (root : ι) (from_ c : Credentials ι) : Prop where
  user : ∀ id, c.user.Has id → from_.user.Has id
  group : ∀ id, c.group.Has id → from_.group.Has id
  groups : c.groups = from_.groups
  barred : ¬ from_.user.Has root

theorem Confined.unprivileged {from_ : Credentials ι} (confined : Confined root from_ c) :
    c.privileged root = false := by
  refine decide_eq_false fun same => confined.barred (confined.user root ?_)
  exact .inr (.inl same.symm)

theorem confined_attempt {from_ : Credentials ι} (confined : Confined root from_ c) (op : Call ι) :
    Confined root from_ (attempt root c op) := by
  have weak := confined.unprivileged
  unfold attempt
  cases op with
  | setuid id =>
    simp only [call, weak]
    cases changed : set false c.user id with
    | none => exact confined
    | some user =>
      exact ⟨fun id has => confined.user id (set_has changed has), confined.group,
        confined.groups, confined.barred⟩
  | setgid id =>
    simp only [call, weak]
    cases changed : set false c.group id with
    | none => exact confined
    | some group =>
      exact ⟨confined.user, fun id has => confined.group id (set_has changed has),
        confined.groups, confined.barred⟩
  | setresuid real effective saved =>
    simp only [call, weak]
    cases changed : setres false c.user real effective saved with
    | none => exact confined
    | some user =>
      exact ⟨fun id has => confined.user id (setres_has changed has), confined.group,
        confined.groups, confined.barred⟩
  | setresgid real effective saved =>
    simp only [call, weak]
    cases changed : setres false c.group real effective saved with
    | none => exact confined
    | some group =>
      exact ⟨confined.user, fun id has => confined.group id (setres_has changed has),
        confined.groups, confined.barred⟩
  | setgroups groups =>
    simp only [call, weak]
    exact confined

theorem confined_attempts (barred : ¬ c.user.Has root) (ops : List (Call ι)) :
    Confined root c (attempts root c ops) := by
  have step : ∀ now, Confined root c now → Confined root c (attempts root now ops) := by
    unfold attempts
    induction ops with
    | nil => exact fun _ confined => confined
    | cons op ops ih => exact fun now confined => ih _ (confined_attempt confined op)
  exact step c ⟨fun _ has => has, fun _ has => has, rfl, barred⟩

/-- A process gets privileged again exactly if it has kept the id. -/
theorem regains_iff : (∃ ops, (attempts root c ops).privileged root = true) ↔ c.user.Has root := by
  constructor
  · rintro ⟨ops, again⟩
    by_contra barred
    have never := (confined_attempts barred ops).unprivileged
    rw [again] at never
    cases never
  · intro has
    refine ⟨[.setresuid none (some root) none], ?_⟩
    have back : setres (c.privileged root) c.user none (some root) none =
        some { c.user with effective := root } := by
      unfold setres
      exact if_pos (.inr ⟨.inl rfl, has, .inr (.inr rfl)⟩)
    have after : attempt root c (.setresuid none (some root) none) =
        { c with user := { c.user with effective := root } } := by
      unfold attempt
      simp only [call]
      rw [back]
      rfl
    change (attempt root c _).privileged root = true
    rw [after]
    exact decide_eq_true rfl

end Confined

end Siglatch.ProcessCredentials
