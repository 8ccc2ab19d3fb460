import Siglatch.MuxTypes
import Siglatch.ProcessCredentials

set_option autoImplicit false

namespace Siglatch.ProcessUser
open MuxTypes ProcessCredentials

abbrev Credentials := ProcessCredentials.Credentials UInt32
abbrev Call := ProcessCredentials.Call UInt32

def ROOT : UInt32 := 0

structure Passwd where
  name : CString
  uid : UInt32
  gid : UInt32

/-- The accounts of the machine, and which calls of a process it turns down whatever they ask for:
the memory for a list of groups or the number of a user's processes may be exhausted. -/
structure Host where
  getpwnam : CString → Option Passwd
  named : ∀ name entry, getpwnam name = some entry → entry.name = name
  groupsOf : CString → List UInt32
  grants : Call → Bool

structure ProcessUserIdentity where
  uid : UInt32
  gid : UInt32
  name : CString
  fits : name.length < 64

def make (host : Host) (c : Credentials) (op : Call) : Option Credentials :=
  if host.grants op then call ROOT c op else none

def initgroups (host : Host) (c : Credentials) (name : CString) (gid : UInt32) :
    Option Credentials :=
  make host c (.setgroups (gid :: host.groupsOf name))

def lookupByName (host : Host) (name : CString) : Option ProcessUserIdentity :=
  if name = [] then none
  else
    (host.getpwnam name).map fun pwd =>
      ⟨pwd.uid, pwd.gid, pwd.name.take 63, by rw [List.length_take]; omega⟩

/-- Whether the process may go on, and who it is by then. -/
def dropToIdentity (host : Host) (c : Credentials) (identity : ProcessUserIdentity) :
    Bool × Credentials :=
  if identity.name = [] then (false, c)
  else if c.user.effective ≠ ROOT then
    (decide (c.user.effective = identity.uid ∧ c.group.effective = identity.gid), c)
  else
    match initgroups host c identity.name identity.gid with
    | none => (false, c)
    | some c =>
      match make host c (.setgid identity.gid) with
      | none => (false, c)
      | some c =>
        match make host c (.setuid identity.uid) with
        | none => (false, c)
        | some c => (true, c)

def dropToName (host : Host) (c : Credentials) (name : CString) : Bool × Credentials :=
  match lookupByName host name with
  | none => (false, c)
  | some identity => dropToIdentity host c identity

/-- What a child does before it runs anything. -/
def enter (host : Host) (c : Credentials) (runAs : CString) : Bool × Credentials :=
  if runAs = [] then (true, c) else dropToName host c runAs

section Drop

variable {host : Host} {c : Credentials} {name : CString} {entry : Passwd}

def settled (host : Host) (entry : Passwd) : Credentials :=
  ⟨.all entry.uid, .all entry.gid, entry.gid :: host.groupsOf entry.name⟩

def Granted (host : Host) (entry : Passwd) : Prop :=
  host.grants (.setgroups (entry.gid :: host.groupsOf entry.name)) = true ∧
    host.grants (.setgid entry.gid) = true ∧ host.grants (.setuid entry.uid) = true

instance (host : Host) (entry : Passwd) : Decidable (Granted host entry) :=
  inferInstanceAs (Decidable (_ ∧ _ ∧ _))

theorem lookupByName_short (short : name.length < 64) (some_ : name ≠ [])
    (found : host.getpwnam name = some entry) :
    ∃ fits, lookupByName host name = some ⟨entry.uid, entry.gid, entry.name, fits⟩ := by
  have same := host.named name entry found
  have whole : entry.name.take 63 = entry.name := by
    rw [same]
    exact List.take_of_length_le (by omega)
  refine ⟨by rw [same]; exact short, ?_⟩
  unfold lookupByName
  rw [if_neg some_, found, Option.map_some]
  simp only [whole]

theorem make_granted {op : Call} (granted : host.grants op = true) :
    make host c op = call ROOT c op := if_pos granted

theorem make_denied {op : Call} (denied : ¬ host.grants op = true) : make host c op = none :=
  if_neg denied

theorem dropToIdentity_root (root : c.user.effective = ROOT) {identity : ProcessUserIdentity}
    (some_ : identity.name ≠ []) (same : identity.uid = entry.uid ∧ identity.gid = entry.gid ∧
      identity.name = entry.name) :
    if Granted host entry then dropToIdentity host c identity = (true, settled host entry)
    else (dropToIdentity host c identity).1 = false := by
  obtain ⟨uid, gid, named⟩ := same
  unfold dropToIdentity initgroups
  rw [if_neg some_, if_neg (not_not_intro root), uid, gid, named]
  by_cases groups : host.grants (.setgroups (entry.gid :: host.groupsOf entry.name)) = true
  · rw [make_granted groups, setgroups_privileged root]
    dsimp only
    by_cases setgid : host.grants (.setgid entry.gid) = true
    · rw [make_granted setgid, setgid_privileged root]
      dsimp only
      by_cases setuid : host.grants (.setuid entry.uid) = true
      · rw [make_granted setuid, setuid_privileged root,
          if_pos (show Granted host entry from ⟨groups, setgid, setuid⟩)]
        rfl
      · rw [make_denied setuid, if_neg (show ¬ Granted host entry from fun all => setuid all.2.2)]
    · rw [make_denied setgid, if_neg (show ¬ Granted host entry from fun all => setgid all.2.1)]
  · rw [make_denied groups, if_neg (show ¬ Granted host entry from fun all => groups all.1)]

/-- Root becomes the account. Any other process only finds out that it is the account already. -/
def Drops (host : Host) (c : Credentials) (entry : Passwd) : Prop :=
  if c.user.effective = ROOT then Granted host entry
  else c.user.effective = entry.uid ∧ c.group.effective = entry.gid

def dropped (host : Host) (c : Credentials) (entry : Passwd) : Credentials :=
  if c.user.effective = ROOT then settled host entry else c

theorem dropToName_found (short : name.length < 64) (some_ : name ≠ [])
    (found : host.getpwnam name = some entry) :
    ((dropToName host c name).1 = true ↔ Drops host c entry) ∧
      (Drops host c entry → (dropToName host c name).2 = dropped host c entry) := by
  obtain ⟨fits, lookup⟩ := lookupByName_short short some_ found
  have named : entry.name ≠ [] := by
    rw [host.named name entry found]
    exact some_
  unfold dropToName Drops dropped
  rw [lookup]
  dsimp only
  by_cases root : c.user.effective = ROOT
  · have drop := @dropToIdentity_root host c entry root ⟨entry.uid, entry.gid, entry.name, fits⟩
      named ⟨rfl, rfl, rfl⟩
    rw [if_pos root, if_pos root]
    split at drop
    · rename_i granted
      rw [drop]
      exact ⟨iff_of_true rfl granted, fun _ => rfl⟩
    · rename_i denied
      rw [drop]
      exact ⟨iff_of_false (by decide) denied, fun granted => absurd granted denied⟩
  · unfold dropToIdentity
    rw [if_neg named, if_pos root, if_neg root, if_neg root]
    exact ⟨decide_eq_true_iff, fun _ => rfl⟩

structure Settled (host : Host) (c after : Credentials) (entry : Passwd) : Prop where
  user : after.user.effective = entry.uid
  group : after.group.effective = entry.gid
  root : c.user.effective = ROOT → after = settled host entry
  other : c.user.effective ≠ ROOT → after = c

theorem dropped_settled (drops : Drops host c entry) :
    Settled host c (dropped host c entry) entry := by
  unfold Drops at drops
  unfold dropped
  split at drops
  · rename_i root
    rw [if_pos root]
    exact ⟨rfl, rfl, fun _ => rfl, fun other => absurd root other⟩
  · rename_i other
    rw [if_neg other]
    exact ⟨drops.1, drops.2, fun root => absurd root other, fun _ => rfl⟩

/-- Root's ids can be had again only by root itself, or where they were kept all the time. -/
theorem Settled.regains_iff {after : Credentials} (is_settled : Settled host c after entry) :
    (∃ ops, (attempts ROOT after ops).privileged ROOT = true) ↔
      entry.uid = ROOT ∨ c.user.effective ≠ ROOT ∧ c.user.Has ROOT := by
  rw [ProcessCredentials.regains_iff]
  by_cases root : c.user.effective = ROOT
  · rw [is_settled.root root]
    constructor
    · rintro (same | same | same)
      · exact .inl same.symm
      · exact .inl same.symm
      · exact .inl same.symm
    · rintro (same | kept)
      · exact .inl same.symm
      · exact absurd root kept.1
  · have same := is_settled.user
    rw [is_settled.other root] at same ⊢
    constructor
    · exact fun has => .inr ⟨root, has⟩
    · rintro (uid | kept)
      · exact absurd (same.trans uid) root
      · exact kept.2

theorem dropToName_settles (short : name.length < 64) :
    ((dropToName host c name).1 = true ↔
        ∃ entry, name ≠ [] ∧ host.getpwnam name = some entry ∧ Drops host c entry) ∧
      ((dropToName host c name).1 = true → ∃ entry, host.getpwnam name = some entry ∧
        Settled host c (dropToName host c name).2 entry) := by
  by_cases some_ : name = []
  · have refused : (dropToName host c name).1 = false := by
      unfold dropToName lookupByName
      rw [if_pos some_]
    rw [refused]
    refine ⟨iff_of_false (by decide) ?_, fun never => (by cases never)⟩
    rintro ⟨entry, other, -⟩
    exact other some_
  cases found : host.getpwnam name with
  | none =>
    have refused : (dropToName host c name).1 = false := by
      unfold dropToName lookupByName
      rw [if_neg some_, found]
      rfl
    rw [refused]
    refine ⟨iff_of_false (by decide) ?_, fun never => (by cases never)⟩
    rintro ⟨entry, -, other, -⟩
    cases other
  | some entry =>
    obtain ⟨drops_iff, becomes⟩ := @dropToName_found host c name entry short some_ found
    rw [drops_iff]
    constructor
    · constructor
      · exact fun drops => ⟨entry, some_, rfl, drops⟩
      · rintro ⟨other, -, same, drops⟩
        cases same
        exact drops
    · intro drops
      rw [becomes drops]
      exact ⟨entry, rfl, dropped_settled drops⟩

/-- Whose process it is that goes on: nobody asked, or it is the account that was asked for. -/
def RunsAs (host : Host) (c after : Credentials) (runAs : CString) : Prop :=
  runAs = [] ∧ after = c ∨
    runAs ≠ [] ∧ ∃ entry, host.getpwnam runAs = some entry ∧ Settled host c after entry

theorem enter_runsAs (short : name.length < 64) (entered : (enter host c name).1 = true) :
    RunsAs host c (enter host c name).2 name := by
  unfold enter at entered ⊢
  split at entered
  · rename_i nobody
    rw [if_pos nobody]
    exact .inl ⟨nobody, rfl⟩
  · rename_i asked
    rw [if_neg asked]
    exact .inr ⟨asked, (dropToName_settles short).2 entered⟩

end Drop

end Siglatch.ProcessUser
