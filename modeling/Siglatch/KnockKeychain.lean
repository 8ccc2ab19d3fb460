import Siglatch.KnockContext
import Siglatch.SlotArray
import Siglatch.StepRuns

set_option autoImplicit false

namespace Siglatch.KnockKeychain
open MuxTypes AppConfig SlotArray

structure KeyEntry where
  userId : UInt32
  name : Option CString
  publicKey : Option EvpPkey
  privateKey : Option EvpPkey
  hmacKey : Option Bytes
  hmacKeyLen : ℕ
  flags : UInt32
  deriving DecidableEq

/-- The part of a codec context that holds the keychain. The array is as long as the capacity. -/
structure Context where
  keychain : List KeyEntry
  keychainLen : ℕ
  activeKeyName : Option CString
  deriving DecidableEq

/-- What the system grants to an addition. -/
structure Resources where
  growth : Bool
  nameCopy : Bool
  publicRef : Bool
  privateRef : Bool
  hmacCopy : Bool

def zeroEntry : KeyEntry := ⟨0, none, none, none, none, 0, 0⟩

def create : Context := ⟨[], 0, none⟩

def freeEntry (entry : KeyEntry) : KeyEntry :=
  { entry with
    name := none, publicKey := none, privateKey := none, hmacKey := none, hmacKeyLen := 0
    userId := 0, flags := 0 }

def copyEntry (resources : Resources) (src : KeyEntry) (slot : KeyEntry) : Bool × KeyEntry :=
  match src.name with
  | none => (false, slot)
  | some name =>
    if !resources.nameCopy then (false, zeroEntry)
    else
      let dst := { zeroEntry with name := some name }
      if src.publicKey.isSome && !resources.publicRef then (false, freeEntry dst)
      else
        let dst := { dst with publicKey := src.publicKey }
        if src.privateKey.isSome && !resources.privateRef then (false, freeEntry dst)
        else
          let dst := { dst with privateKey := src.privateKey }
          if 0 < src.hmacKeyLen && (src.hmacKey.isNone || !resources.hmacCopy) then
            (false, freeEntry dst)
          else
            (true, { dst with
              hmacKey :=
                if 0 < src.hmacKeyLen then src.hmacKey.map (·.take src.hmacKeyLen) else none
              hmacKeyLen := src.hmacKeyLen
              userId := src.userId
              flags := src.flags })

/-- The entries up to the length, which are those that the codecs look at. -/
def visible (context : Context) : List KeyEntry := context.keychain.take context.keychainLen

def nameExists (context : Context) (name : CString) : Bool :=
  (visible context).any (·.name = some name)

def ensureCapacity (growth : Bool) (context : Context) (needed : ℕ) : Bool × Context :=
  if needed ≤ context.keychain.length then (true, context)
  else if !growth then (false, context)
  else
    let old := context.keychain.length
    let new := grow needed needed (if old ≠ 0 then old else 4)
    (true, { context with keychain := context.keychain ++ List.replicate (new - old) zeroEntry })

section operations

variable (initialized : Bool)

def addKeychain (context : Context) (resources : Resources) (entry : KeyEntry) : Bool × Context :=
  if !initialized || entry.name.getD [] = [] then (false, context)
  else if nameExists context (entry.name.getD []) then (false, context)
  else
    match ensureCapacity resources.growth context (context.keychainLen + 1) with
    | (false, context) => (false, context)
    | (true, context) =>
      let index := context.keychainLen
      match copyEntry resources entry (context.keychain.getD index zeroEntry) with
      | (false, slot) =>
        (false, { context with keychain := context.keychain.set index (freeEntry slot) })
      | (true, slot) =>
        (true, { context with
          keychain := context.keychain.set index slot, keychainLen := index + 1 })

/-- The name can be that of the entry itself: it is compared before the entry is freed, and not
    read after that. -/
def removeKeychain (context : Context) (name : Option CString) : Bool × Context :=
  if !initialized || name.getD [] = [] then (false, context)
  else
    match (visible context).findIdx? (·.name = some (name.getD [])) with
    | none => (false, context)
    | some i =>
      let activeMatches := context.activeKeyName = some (name.getD [])
      let last := context.keychainLen - 1
      let freed := context.keychain.modify i freeEntry
      (true, {
        keychain := (shiftDown freed i (last - i)).set last zeroEntry
        keychainLen := last
        activeKeyName := if activeMatches then none else context.activeKeyName })

inductive Op where
  | add (resources : Resources) (entry : KeyEntry)
  | remove (name : Option CString)

def apply (context : Context) : Op → Bool × Context
  | .add resources entry => addKeychain initialized context resources entry
  | .remove name => removeKeychain initialized context name

def step (context : Context) (op : Op) : Context × List (Op × Bool) :=
  ((apply initialized context op).2, [(op, (apply initialized context op).1)])

/-- The loop of a reload that empties the keychain by the name of its first entry. -/
def clearKeychain : ℕ → Context → Bool × Context
  | 0, context => (context.keychainLen = 0, context)
  | fuel + 1, context =>
    if context.keychainLen = 0 then (true, context)
    else
      match (context.keychain.getD 0 zeroEntry).name with
      | none => (false, context)
      | some name =>
        match removeKeychain initialized context (some name) with
        | (false, context) => (false, context)
        | (true, context) => clearKeychain fuel context

end operations

structure WellFormed (context : Context) : Prop where
  room : context.keychainLen ≤ context.keychain.length
  named : ∀ entry ∈ visible context, ∃ name, entry.name = some name ∧ name ≠ []
  distinct : ((visible context).map KeyEntry.name).Nodup
  active : ∀ name, context.activeKeyName = some name →
    some name ∈ (visible context).map KeyEntry.name

theorem create_wellFormed : WellFormed create :=
  ⟨Nat.le_refl 0, by simp [visible, create], by simp [visible, create], by simp [create]⟩

section copy

variable {resources : Resources} {src slot slot' : KeyEntry}

def stored (entry : KeyEntry) : KeyEntry :=
  { entry with
    hmacKey := if 0 < entry.hmacKeyLen then entry.hmacKey.map (·.take entry.hmacKeyLen) else none }

theorem copyEntry_stored (copied : copyEntry resources src slot = (true, slot')) :
    slot' = stored src := by
  unfold copyEntry at copied
  split at copied
  · cases copied
  rename_i name named
  dsimp only at copied
  split at copied
  · cases copied
  split at copied
  · cases copied
  split at copied
  · cases copied
  split at copied
  · cases copied
  · cases copied
    unfold stored
    rw [← named]

theorem copyEntry_granted (name : CString) (named : src.name = some name)
    (granted : resources.nameCopy = true ∧ resources.publicRef = true ∧
      resources.privateRef = true ∧ resources.hmacCopy = true)
    (keyed : 0 < src.hmacKeyLen → src.hmacKey.isSome = true) :
    copyEntry resources src slot = (true, stored src) := by
  obtain ⟨nameCopy, publicRef, privateRef, hmacCopy⟩ := granted
  have whole : ¬ (0 < src.hmacKeyLen && (src.hmacKey.isNone || !resources.hmacCopy)) = true := by
    rw [hmacCopy, Bool.and_eq_true, decide_eq_true_iff]
    rintro ⟨some_key, missing⟩
    have there := keyed some_key
    rw [Option.isSome_iff_ne_none] at there
    simp [there] at missing
  unfold copyEntry
  rw [named]
  dsimp only
  rw [nameCopy, publicRef, privateRef, Bool.not_true, Bool.and_false, Bool.and_false,
    if_neg Bool.false_ne_true, if_neg Bool.false_ne_true, if_neg Bool.false_ne_true, if_neg whole]
  unfold stored
  rw [← named]

end copy

theorem usable_name {initialized : Bool} {name : Option CString}
    (usable : ¬ (!initialized || decide (name.getD [] = [])) = true) :
    ∃ given, name = some given ∧ given ≠ [] := by
  cases name with
  | none => simp at usable
  | some given => exact ⟨given, rfl, fun empty => by simp [empty] at usable⟩

theorem nameExists_iff (context : Context) (name : CString) :
    nameExists context name = true ↔ some name ∈ (visible context).map KeyEntry.name := by
  simp [nameExists]

section array

variable {context context' : Context} {growth : Bool} {needed : ℕ}

/-- The entries that are in use, their number and the active name are as they were. -/
structure Kept (context context' : Context) : Prop where
  entries : visible context' = visible context
  len : context'.keychainLen = context.keychainLen
  active : context'.activeKeyName = context.activeKeyName
  room : context'.keychainLen ≤ context'.keychain.length

theorem ensureCapacity_kept (good : WellFormed context) {granted : Bool}
    (ensured : ensureCapacity growth context needed = (granted, context')) :
    Kept context context' ∧ (granted = true → needed ≤ context'.keychain.length) := by
  unfold ensureCapacity at ensured
  dsimp only at ensured
  split at ensured
  · rename_i enough
    cases ensured
    exact ⟨⟨rfl, rfl, rfl, good.room⟩, fun _ => enough⟩
  split at ensured
  · cases ensured
    exact ⟨⟨rfl, rfl, rfl, good.room⟩, fun h => absurd h Bool.false_ne_true⟩
  · cases ensured
    have room := good.room
    have first : 1 ≤ if context.keychain.length ≠ 0 then context.keychain.length else 4 := by
      split <;> omega
    have grown := @grow_enough needed needed _ first (by omega)
    refine ⟨⟨List.take_append_of_le_length room, rfl, rfl, ?_⟩, fun _ => ?_⟩
    · dsimp only
      rw [List.length_append]
      omega
    · dsimp only
      rw [List.length_append, List.length_replicate]
      omega

theorem ensureCapacity_granted (context : Context) (needed : ℕ) :
    (ensureCapacity true context needed).1 = true := by
  unfold ensureCapacity
  split
  · rfl
  · rfl

end array

section add

variable {initialized : Bool} {context context' : Context} {resources : Resources}
  {entry : KeyEntry}

/-- An addition puts a copy behind the entries, or changes none of them. -/
theorem addKeychain_cases (good : WellFormed context) {result : Bool}
    (added : addKeychain initialized context resources entry = (result, context')) :
    (result = false ∧ Kept context context') ∨
    (result = true ∧ (∃ name, entry.name = some name ∧ name ≠ []) ∧
      entry.name ∉ (visible context).map KeyEntry.name ∧
      visible context' = visible context ++ [stored entry] ∧
      context'.keychainLen ≤ context'.keychain.length ∧
      context'.activeKeyName = context.activeKeyName) := by
  have unchanged : Kept context context := ⟨rfl, rfl, rfl, good.room⟩
  unfold addKeychain at added
  split at added
  · cases added
    exact .inl ⟨rfl, unchanged⟩
  rename_i usable
  split at added
  · cases added
    exact .inl ⟨rfl, unchanged⟩
  rename_i fresh
  obtain ⟨name, named, nonempty⟩ := usable_name usable
  have absent : entry.name ∉ (visible context).map KeyEntry.name := by
    rw [named, Option.getD_some, nameExists_iff] at fresh
    rw [named]
    exact fresh
  split at added
  · rename_i larger ensured
    cases added
    exact .inl ⟨rfl, (ensureCapacity_kept good ensured).1⟩
  rename_i larger ensured
  obtain ⟨kept, room⟩ := ensureCapacity_kept good ensured
  have space := room rfl
  dsimp only at added
  split at added
  · rename_i slot copied
    cases added
    have beyond : (larger.keychain.set larger.keychainLen (freeEntry slot)).take
        larger.keychainLen = visible larger := List.take_set_of_le (Nat.le_refl _)
    refine .inl ⟨rfl, beyond.trans kept.entries, kept.len, kept.active, ?_⟩
    rw [List.length_set]
    exact kept.room
  · rename_i slot copied
    cases added
    refine .inr ⟨rfl, ⟨name, named, nonempty⟩, absent, ?_, ?_, kept.active⟩
    · have inside : larger.keychainLen < larger.keychain.length := by
        rw [kept.len]
        omega
      rw [← kept.entries, ← copyEntry_stored copied]
      exact take_set_next larger.keychain slot inside
    · dsimp only
      rw [List.length_set, kept.len]
      exact space

theorem addKeychain_present (present : entry.name ∈ (visible context).map KeyEntry.name)
    (good : WellFormed context) :
    addKeychain initialized context resources entry = (false, context) := by
  obtain ⟨other, inside, same⟩ := List.mem_map.mp present
  obtain ⟨name, named, -⟩ := good.named other inside
  have exists' : nameExists context (entry.name.getD []) = true := by
    rw [← same, named] at present ⊢
    exact (nameExists_iff context name).mpr present
  unfold addKeychain
  split
  · rfl
  · rfl

/-- The system's part in an addition: room for the entry, and its copy. -/
def granted (resources : Resources) (context : Context) (entry : KeyEntry) : Bool :=
  let ensured := ensureCapacity resources.growth context (context.keychainLen + 1)
  ensured.1 &&
    (copyEntry resources entry (ensured.2.keychain.getD ensured.2.keychainLen zeroEntry)).1

theorem granted_given (name : CString) (named : entry.name = some name)
    (growth : resources.growth = true) (publicRef : resources.publicRef = true)
    (privateRef : resources.privateRef = true) (hmacCopy : resources.hmacCopy = true)
    (keyed : 0 < entry.hmacKeyLen → entry.hmacKey.isSome = true) :
    granted resources context entry = resources.nameCopy := by
  unfold granted
  dsimp only
  rw [growth, ensureCapacity_granted, Bool.true_and]
  cases nameCopy : resources.nameCopy with
  | true => rw [copyEntry_granted name named ⟨nameCopy, publicRef, privateRef, hmacCopy⟩ keyed]
  | false =>
    unfold copyEntry
    rw [named]
    dsimp only
    rw [nameCopy]
    rfl

theorem addKeychain_verdict : (addKeychain true context resources entry).1 = true ↔
    entry.name.getD [] ≠ [] ∧ ¬ nameExists context (entry.name.getD []) = true ∧
      granted resources context entry = true := by
  unfold addKeychain granted
  by_cases empty : entry.name.getD [] = []
  · simp [empty]
  by_cases present : nameExists context (entry.name.getD []) = true
  · simp [empty, present]
  simp only [empty, present, Bool.not_true, Bool.false_or, decide_false, Bool.false_eq_true,
    if_false, ne_eq, not_false_eq_true, true_and]
  rcases ensureCapacity resources.growth context (context.keychainLen + 1) with ⟨room, larger⟩
  cases room with
  | false => simp
  | true =>
    dsimp only
    rcases copyEntry resources entry (larger.keychain.getD larger.keychainLen zeroEntry) with
      ⟨copied, slot⟩
    cases copied <;> simp

theorem stored_name (entry : KeyEntry) : (stored entry).name = entry.name := rfl

theorem addKeychain_wellFormed (good : WellFormed context) {result : Bool}
    (added : addKeychain initialized context resources entry = (result, context')) :
    WellFormed context' := by
  rcases addKeychain_cases good added with ⟨-, kept⟩ |
    ⟨-, ⟨name, named, nonempty⟩, absent, grown, room, active⟩
  · refine ⟨kept.room, ?_, ?_, ?_⟩
    · rw [kept.entries]
      exact good.named
    · rw [kept.entries]
      exact good.distinct
    · rw [kept.entries, kept.active]
      exact good.active
  · refine ⟨room, ?_, ?_, ?_⟩
    · rw [grown]
      intro other member
      rcases List.mem_append.mp member with old | new
      · exact good.named other old
      · obtain rfl := List.mem_singleton.mp new
        exact ⟨name, named, nonempty⟩
    · rw [grown, List.map_append, List.nodup_append]
      refine ⟨good.distinct, List.pairwise_singleton _ _, ?_⟩
      intro old member new single same
      obtain rfl := List.mem_singleton.mp single
      rw [same, stored_name] at member
      exact absent member
    · rw [grown, List.map_append, active]
      exact fun name is => List.mem_append_left _ (good.active name is)

end add

section remove

variable {initialized : Bool} {context context' : Context} {name : Option CString}

/-- A removal takes out the entry of the name, and the active name with it, or changes nothing. -/
theorem removeKeychain_cases (good : WellFormed context) {result : Bool}
    (removed : removeKeychain initialized context name = (result, context')) :
    (result = false ∧ context' = context) ∨
    (result = true ∧ name ∈ (visible context).map KeyEntry.name ∧
      visible context' = (visible context).filter (fun entry => entry.name ≠ name) ∧
      context'.keychainLen ≤ context'.keychain.length ∧
      context'.keychainLen + 1 = context.keychainLen ∧
      context'.activeKeyName =
        if context.activeKeyName = name then none else context.activeKeyName) := by
  unfold removeKeychain at removed
  split at removed
  · cases removed
    exact .inl ⟨rfl, rfl⟩
  rename_i usable
  obtain ⟨given, rfl, -⟩ := usable_name usable
  rw [Option.getD_some] at removed
  split at removed
  · cases removed
    exact .inl ⟨rfl, rfl⟩
  rename_i i found
  cases removed
  obtain ⟨inside, matched, -⟩ := List.findIdx?_eq_some_iff_getElem.mp found
  have room := good.room
  have used : (visible context).length = context.keychainLen := by
    rw [visible, List.length_take]
    omega
  rw [used] at inside
  have same := of_decide_eq_true matched
  refine .inr ⟨rfl, ?_, ?_, ?_, ?_, ?_⟩
  · rw [← same]
    exact List.mem_map_of_mem (List.getElem_mem _)
  · have long : context.keychainLen - 1 < (context.keychain.modify i freeEntry).length := by
      rw [List.length_modify]
      omega
    have erased : (visible context).eraseIdx i =
        (visible context).eraseP (fun entry => entry.name = some given) := by
      rw [List.eraseP_eq_eraseIdx, found]
    rw [← eraseP_distinct KeyEntry.name _ _ good.distinct, ← erased]
    dsimp only [visible]
    rw [List.take_set_of_le (Nat.le_refl _), take_shiftDown _ long (by omega),
      Nat.sub_add_cancel (by omega), List.take_modify, List.eraseIdx_modify_of_eq]
  · dsimp only
    rw [List.length_set, shiftDown_length, List.length_modify]
    omega
  · dsimp only
    omega
  · rfl

theorem removeKeychain_wellFormed (good : WellFormed context) {result : Bool}
    (removed : removeKeychain initialized context name = (result, context')) :
    WellFormed context' := by
  rcases removeKeychain_cases good removed with ⟨-, rfl⟩ | ⟨-, -, fewer, room, -, active⟩
  · exact good
  have part : (visible context').Sublist (visible context) := by
    rw [fewer]
    exact List.filter_sublist
  refine ⟨room, fun entry member => good.named entry (part.subset member),
    good.distinct.sublist (part.map _), ?_⟩
  intro current is
  rw [active] at is
  split at is
  · cases is
  · rename_i other
    obtain ⟨entry, member, called⟩ := List.mem_map.mp (good.active current is)
    rw [fewer]
    refine List.mem_map.mpr ⟨entry, List.mem_filter.mpr ⟨member, decide_eq_true ?_⟩, called⟩
    rw [called, ← is]
    exact other

theorem removeKeychain_present (good : WellFormed context)
    (present : name ∈ (visible context).map KeyEntry.name) :
    (removeKeychain true context name).1 = true := by
  obtain ⟨entry, member, called⟩ := List.mem_map.mp present
  obtain ⟨given, named, nonempty⟩ := good.named entry member
  rw [← called, named]
  unfold removeKeychain
  have usable : ¬ (!true || decide ((some given).getD [] = [])) = true := by
    simpa using nonempty
  rw [if_neg usable, Option.getD_some]
  split
  · rename_i missing
    have not_it := List.findIdx?_eq_none_iff.mp missing entry member
    simp [named] at not_it
  · rfl

end remove

section clear

/-- A reload empties a keychain whatever it held. -/
theorem clearKeychain_empties (fuel : ℕ) (context : Context) (good : WellFormed context)
    (enough : context.keychainLen ≤ fuel) :
    ∃ emptied, clearKeychain true fuel context = (true, emptied) ∧ WellFormed emptied ∧
      emptied.keychainLen = 0 := by
  induction fuel generalizing context with
  | zero =>
    have empty : context.keychainLen = 0 := by omega
    exact ⟨context, by rw [clearKeychain, decide_eq_true empty], good, empty⟩
  | succ fuel ih =>
    rw [clearKeychain]
    split
    · rename_i empty
      exact ⟨context, rfl, good, empty⟩
    rename_i filled
    have room := good.room
    have inside : 0 < context.keychain.length := by omega
    have shown : 0 < (visible context).length := by
      rw [visible, List.length_take]
      omega
    have first : context.keychain.getD 0 zeroEntry = (visible context)[0] := by
      rw [List.getD_eq_getElem?_getD, List.getElem?_eq_getElem inside]
      exact List.getElem_take.symm
    have member : (visible context)[0] ∈ visible context := List.getElem_mem _
    obtain ⟨name, named, -⟩ := good.named _ member
    rw [first, named]
    dsimp only
    have present : some name ∈ (visible context).map KeyEntry.name := by
      rw [← named]
      exact List.mem_map_of_mem member
    have result := removeKeychain_present good present
    cases removed : removeKeychain true context (some name) with
    | mk done fewer =>
      rw [removed] at result
      obtain rfl : done = true := result
      dsimp only
      apply ih fewer (removeKeychain_wellFormed good removed)
      rcases removeKeychain_cases good removed with ⟨failed, -⟩ | ⟨-, -, -, -, shorter, -⟩
      · cases failed
      · omega

end clear

section history

def react (entries : List KeyEntry) : Op × Bool → List KeyEntry
  | (.add _ entry, true) => entries ++ [stored entry]
  | (.remove name, true) => entries.filter fun entry => entry.name ≠ name
  | (_, false) => entries

def added : Op × Bool → Option KeyEntry
  | (.add _ entry, true) => some (stored entry)
  | _ => none

variable {initialized : Bool} {context : Context}

theorem apply_wellFormed (good : WellFormed context) (op : Op) :
    WellFormed (apply initialized context op).2 := by
  cases op with
  | add resources entry => exact addKeychain_wellFormed good rfl
  | remove name => exact removeKeychain_wellFormed good rfl

theorem apply_react (good : WellFormed context) (op : Op) :
    visible (apply initialized context op).2 =
      react (visible context) (op, (apply initialized context op).1) := by
  cases op with
  | add resources entry =>
    cases called : addKeychain initialized context resources entry with
    | mk result after =>
      rw [apply, called]
      rcases addKeychain_cases good called with ⟨rfl, kept⟩ | ⟨rfl, -, -, grown, -, -⟩
      · exact kept.entries
      · exact grown
  | remove name =>
    cases called : removeKeychain initialized context name with
    | mk result after =>
      rw [apply, called]
      rcases removeKeychain_cases good called with ⟨rfl, rfl⟩ | ⟨rfl, -, fewer, -, -, -⟩
      · rfl
      · exact fewer

theorem react_sublist (entries : List KeyEntry) (event : Op × Bool) :
    (react entries event).Sublist (entries ++ [event].filterMap added) := by
  obtain ⟨op, result⟩ := event
  cases result with
  | false =>
    cases op with
    | add resources entry => exact List.sublist_append_left _ _
    | remove name => exact List.sublist_append_left _ _
  | true =>
    cases op with
    | add resources entry => exact List.Sublist.refl _
    | remove name => exact List.filter_sublist.trans (List.sublist_append_left _ _)

structure Follows (context now : Context) (events : List (Op × Bool)) : Prop where
  wellFormed : WellFormed now
  reacted : visible now = events.foldl react (visible context)
  ordered : (visible now).Sublist (visible context ++ events.filterMap added)

theorem follows_nil (good : WellFormed context) : Follows context context [] := by
  refine ⟨good, rfl, ?_⟩
  rw [List.filterMap_nil, List.append_nil]

theorem follows_step {now : Context} {events : List (Op × Bool)}
    (h : Follows context now events) (op : Op) :
    Follows context (step initialized now op).1 (events ++ (step initialized now op).2) := by
  have next : visible (step initialized now op).1 = _ := apply_react h.wellFormed op
  refine ⟨apply_wellFormed h.wellFormed op, ?_, ?_⟩
  · rw [List.foldl_append, ← h.reacted]
    exact next
  · rw [List.filterMap_append, ← List.append_assoc, next]
    exact (react_sublist _ _).trans (h.ordered.append_right _)

/-- Over all calls, whatever was granted: the keychain stays well formed, each entry is one that
was added, in that order and whole, and no name is added twice. -/
theorem keychain_ordered (good : WellFormed context) (ops : List Op) :
    let ended := StepRuns.run (step initialized) context ops
    WellFormed ended.1 ∧ visible ended.1 = ended.2.foldl react (visible context) ∧
      (visible ended.1).Sublist (visible context ++ ended.2.filterMap added) ∧
      ∀ resources entry, entry.name ∈ (visible ended.1).map KeyEntry.name →
        addKeychain initialized ended.1 resources entry = (false, ended.1) := by
  intro ended
  have follows : Follows context ended.1 ended.2 :=
    @StepRuns.run_history _ _ _ (step initialized) (Follows context) (fun _ => True)
      (fun _ _ op _ h => follows_step h op) context (follows_nil good) ops fun _ _ => trivial
  exact ⟨follows.wellFormed, follows.reacted, follows.ordered, fun resources entry present =>
    addKeychain_present present follows.wellFormed⟩

theorem keychain_ordered_sample :
    let entry (name : CString) : KeyEntry := ⟨1, some name, none, none, some [7, 8], 1, 0⟩
    let context : Context := ⟨[entry [97], entry [98]], 2, some [97]⟩
    let granted : Resources := ⟨true, true, true, true, true⟩
    let ops : List Op := [.add granted (entry [97]), .remove (some [97]),
      .add { granted with hmacCopy := false } (entry [99]), .add granted (entry [97])]
    let ended := StepRuns.run (step true) context ops
    WellFormed ended.1 ∧ visible ended.1 = ended.2.foldl react (visible context) ∧
      (visible ended.1).Sublist (visible context ++ ended.2.filterMap added) ∧
      ∀ resources entry, entry.name ∈ (visible ended.1).map KeyEntry.name →
        addKeychain true ended.1 resources entry = (false, ended.1) :=
  keychain_ordered ⟨by decide, by decide, by decide, by decide⟩ _

end history

section codec

open KnockContext (CodecContext)

def view (entry : KeyEntry) : KnockContext.KeyEntry :=
  ⟨entry.userId, entry.name.getD [], entry.publicKey, entry.hmacKey.getD []⟩

def viewed (codec : CodecContext) (context : Context) : CodecContext :=
  { codec with keychain := (visible context).map view }

variable {initialized : Bool} {context context' : Context} (codec : CodecContext)

theorem view_named (good : WellFormed context) (name : CString) :
    name ∈ ((visible context).map view).map (·.name) ↔
      some name ∈ (visible context).map KeyEntry.name := by
  rw [List.map_map, List.mem_map, List.mem_map]
  refine exists_congr fun entry => and_congr_right fun member => ?_
  obtain ⟨own, named, -⟩ := good.named entry member
  change entry.name.getD [] = name ↔ _
  rw [named, Option.getD_some, Option.some.injEq]

theorem view_is {name : CString} (nonempty : name ≠ []) :
    (fun entry : KnockContext.KeyEntry => entry.name == name) ∘ view =
      fun entry => decide (entry.name = some name) := by
  funext entry
  rw [Function.comp_apply, view, Bool.beq_eq_decide_eq]
  cases entry.name with
  | none => simp [nonempty.symm]
  | some own => simp

theorem addKeychain_viewed (good : WellFormed context) (resources : Resources)
    (entry : KeyEntry) :
    KnockContext.addKeychain (granted resources context entry) (viewed codec context)
        (view (stored entry)) =
      if (addKeychain true context resources entry).1 then
        some (viewed codec (addKeychain true context resources entry).2)
      else none := by
  have verdict := @addKeychain_verdict context resources entry
  have same : KnockContext.nameExists (viewed codec context) (entry.name.getD []) =
      nameExists context (entry.name.getD []) := by
    rw [Bool.eq_iff_iff, KnockContext.nameExists_iff, nameExists_iff]
    exact view_named good _
  unfold KnockContext.addKeychain
  change (if entry.name.getD [] = [] then none
    else if KnockContext.nameExists (viewed codec context) (entry.name.getD []) = true then none
    else _) = _
  rw [same]
  cases added : addKeychain true context resources entry with
  | mk result after =>
  rw [added] at verdict
  cases result with
  | false =>
    rw [if_neg Bool.false_ne_true]
    split
    · rfl
    rename_i named
    split
    · rfl
    rename_i absent
    split
    · rfl
    rename_i given
    exact absurd (verdict.mpr ⟨named, absent, by simpa using given⟩) Bool.false_ne_true
  | true =>
    obtain ⟨named, absent, given⟩ := verdict.mp rfl
    rcases addKeychain_cases good added with ⟨failed, -⟩ | ⟨-, -, -, grown, -, -⟩
    · cases failed
    rw [if_neg named, if_neg absent, given, if_neg (by decide), if_pos rfl]
    unfold viewed
    rw [grown, List.map_append]
    rfl

theorem addKeychain_refused (good : WellFormed context) (resources : Resources) (entry : KeyEntry)
    (refused : (addKeychain initialized context resources entry).1 = false) :
    viewed codec (addKeychain initialized context resources entry).2 = viewed codec context := by
  cases added : addKeychain initialized context resources entry with
  | mk result after =>
    rcases addKeychain_cases good added with ⟨-, kept⟩ | ⟨done, -⟩
    · rw [viewed, viewed, kept.entries]
    · rw [added, done] at refused
      cases refused

theorem removeKeychain_viewed (good : WellFormed context) (name : CString) :
    KnockContext.removeKeychain (viewed codec context) name =
      if (removeKeychain true context (some name)).1 then
        some (viewed codec (removeKeychain true context (some name)).2)
      else none := by
  unfold KnockContext.removeKeychain
  by_cases empty : name = []
  · rw [if_pos empty]
    unfold removeKeychain
    simp [empty]
  rw [if_neg empty]
  cases removed : removeKeychain true context (some name) with
  | mk result after =>
  rcases removeKeychain_cases good removed with ⟨rfl, rfl⟩ | ⟨rfl, present, fewer, -, -, -⟩
  · have absent : ¬ KnockContext.nameExists (viewed codec after) name = true := by
      rw [KnockContext.nameExists_iff]
      intro known
      have done := removeKeychain_present good ((view_named good name).mp known)
      rw [removed] at done
      cases done
    rw [if_neg absent]
    rfl
  · have there : KnockContext.nameExists (viewed codec context) name = true := by
      rw [KnockContext.nameExists_iff]
      exact (view_named good name).mpr present
    rw [if_pos there, if_pos rfl]
    unfold viewed
    rw [fewer, ← eraseP_distinct KeyEntry.name _ _ good.distinct]
    dsimp only
    rw [List.eraseP_map, view_is empty]

end codec

end Siglatch.KnockKeychain
