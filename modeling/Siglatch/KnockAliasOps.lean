import Siglatch.KnockAliasMap
import Siglatch.StepRuns

set_option autoImplicit false

namespace Siglatch.KnockAliasOps
open MuxTypes NetIpRange KeyedEntries KnockAliasMap

inductive AliasKind where
  | user
  | action
  deriving DecidableEq

inductive AliasOp where
  | setUser
  | setAction
  | deleteUser
  | deleteAction
  deriving DecidableEq

def AliasOp.kind : AliasOp → AliasKind
  | .setUser => .user
  | .setAction => .action
  | .deleteUser => .user
  | .deleteAction => .action

def AliasOp.sets : AliasOp → Bool
  | .setUser => true
  | .setAction => true
  | .deleteUser => false
  | .deleteAction => false

def AliasKind.maxId : AliasKind → ℕ
  | .user => 2 ^ 16 - 1
  | .action => 2 ^ 8 - 1

structure AliasCommand where
  op : AliasOp
  host : CString
  name : CString
  id : ℕ
  deriving DecidableEq

def AliasOp.selector : AliasOp → String
  | .setUser => "--alias-user"
  | .setAction => "--alias-action"
  | .deleteUser => "--alias-user-delete"
  | .deleteAction => "--alias-action-delete"

def invalidId : AliasOp → String
  | .setUser => "Invalid user ID for --alias-user (expected range 1-65535)"
  | .setAction => "Invalid action ID for --alias-action (expected range 1-255)"
  | .deleteUser => ""
  | .deleteAction => ""

def expectPositionals (positionals : List CString) (count : ℕ) (selector : String) :
    Except String Unit :=
  if positionals.length < count then .error ("Not enough arguments for " ++ selector)
  else if count < positionals.length then .error ("Too many arguments for " ++ selector)
  else .ok ()

def copyToken (dstSize : ℕ) (src : CString) (label : String) : Except String CString :=
  if src = [] then .error ("Missing " ++ label ++ " for alias command")
  else if dstSize ≤ src.length then .error ("Alias " ++ label ++ " is too long")
  else .ok src

def parseId (value : CString) (minValue maxValue : ℕ) : Option ℕ :=
  if value = [] ∨ maxValue < minValue then none
  else
    let parsed := strtoul value
    if parsed.2 ≠ [] then none
    else if parsed.1 < minValue ∨ maxValue < parsed.1 then none
    else some parsed.1

def parse (op : AliasOp) (positionals : List CString) : Except String AliasCommand := do
  if op.sets then
    expectPositionals positionals 3 op.selector
    let host ← copyToken 256 (positionals.getD 0 []) "host"
    let name ← copyToken 128 (positionals.getD 1 []) "name"
    match parseId (positionals.getD 2 []) 1 op.kind.maxId with
    | none => throw (invalidId op)
    | some id => return ⟨op, host, name, id⟩
  else
    expectPositionals positionals 2 op.selector
    let host ← copyToken 256 (positionals.getD 0 []) "host"
    let name ← copyToken 128 (positionals.getD 1 []) "name"
    return ⟨op, host, name, 0⟩

structure Outcome where
  ok : Bool
  file : Option Bytes

def setAlias (io : Io) (file : Option Bytes) (host name : CString) (id : ℕ) : Outcome :=
  if host = [] ∨ name = [] ∨ id = 0 then ⟨false, file⟩
  else if io.ensureDir = false then ⟨false, file⟩
  else if io.buildPath = false then ⟨false, file⟩
  else
    let aliases := match file with
      | none => some []
      | some text => readMap io text
    match aliases with
    | none => ⟨false, file⟩
    | some aliases =>
      match updateEntry io aliases name host id with
      | none => ⟨false, file⟩
      | some aliases =>
        match writeMap io aliases with
        | none => ⟨false, file⟩
        | some text => ⟨true, some text⟩

def setUser : Io → Option Bytes → CString → CString → ℕ → Outcome := setAlias
def setAction : Io → Option Bytes → CString → CString → ℕ → Outcome := setAlias

def deleteAlias (io : Io) (file : Option Bytes) (host name : CString) : Outcome :=
  if host = [] ∨ name = [] then ⟨false, file⟩
  else if io.buildPath = false then ⟨false, file⟩
  else
    match file with
    | none => ⟨false, file⟩
    | some text =>
      match readMap io text with
      | none => ⟨false, file⟩
      | some aliases =>
        if lookup AliasEntry.name name aliases = none then ⟨false, file⟩
        else
          match writeMap io (remove AliasEntry.name name aliases) with
          | none => ⟨false, file⟩
          | some text => ⟨true, some text⟩

def deleteUser : Io → Option Bytes → CString → CString → Outcome := deleteAlias
def deleteAction : Io → Option Bytes → CString → CString → Outcome := deleteAlias

def resolveUser (io : Io) (file : Option Bytes) (host name : CString) : ℕ :=
  resolve io (2 ^ 16 - 1) file host name

def resolveAction (io : Io) (file : Option Bytes) (host name : CString) : ℕ :=
  resolve io (2 ^ 8 - 1) file host name

def resolveKind (kind : AliasKind) : Io → Option Bytes → CString → CString → ℕ :=
  match kind with
  | .user => resolveUser
  | .action => resolveAction

abbrev MapFiles := AliasKind → Option Bytes

def execute (io : Io) (file : Option Bytes) (command : AliasCommand) : Outcome :=
  match command.op with
  | .setUser => setUser io file command.host command.name command.id
  | .setAction => setAction io file command.host command.name command.id
  | .deleteUser => deleteUser io file command.host command.name
  | .deleteAction => deleteAction io file command.host command.name

/-- A command works on the map file of its kind, and is told of when it reports success. -/
def step (files : MapFiles) (now : Io × AliasCommand) : MapFiles × List AliasCommand :=
  let outcome := execute now.1 (files now.2.op.kind) now.2
  (Function.update files now.2.op.kind outcome.file, if outcome.ok then [now.2] else [])

def run (commands : List (Io × AliasCommand)) : MapFiles × List AliasCommand :=
  StepRuns.run step (fun _ => none) commands

structure Issued (command : AliasCommand) : Prop where
  host : command.host ≠ []
  hostFits : command.host.length ≤ 255
  name : command.name ≠ []
  nameFits : command.name.length ≤ 127
  id : command.op.sets = true → 1 ≤ command.id ∧ command.id ≤ command.op.kind.maxId

theorem copyToken_ok {dstSize : ℕ} {src out : CString} {label : String}
    (h : copyToken dstSize src label = .ok out) : out ≠ [] ∧ out.length < dstSize := by
  unfold copyToken at h
  split at h
  · cases h
  rename_i hne
  split at h
  · cases h
  obtain rfl := Except.ok.inj h
  exact ⟨hne, by omega⟩

theorem parseId_some {value : CString} {minValue maxValue id : ℕ}
    (h : parseId value minValue maxValue = some id) : minValue ≤ id ∧ id ≤ maxValue := by
  unfold parseId at h
  simp only at h
  split at h
  · cases h
  split at h
  · cases h
  split at h
  · cases h
  obtain rfl := Option.some.inj h
  omega

theorem bind_ok {ε α β : Type} {x : Except ε α} {f : α → Except ε β} {out : β}
    (h : (x >>= f) = .ok out) : ∃ a, x = .ok a ∧ f a = .ok out := by
  cases x with
  | error message => cases h
  | ok a => exact ⟨a, rfl, h⟩

theorem parse_issued {op : AliasOp} {positionals : List CString} {command : AliasCommand}
    (h : parse op positionals = .ok command) : Issued command := by
  unfold parse at h
  split at h
  · obtain ⟨_, -, h⟩ := bind_ok h
    obtain ⟨host, hhost, h⟩ := bind_ok h
    obtain ⟨name, hname, h⟩ := bind_ok h
    split at h
    · cases h
    rename_i id hid
    obtain rfl := Except.ok.inj h
    obtain ⟨hhostNe, hhostFits⟩ := copyToken_ok hhost
    obtain ⟨hnameNe, hnameFits⟩ := copyToken_ok hname
    exact ⟨hhostNe, Nat.le_of_lt_succ hhostFits, hnameNe, Nat.le_of_lt_succ hnameFits,
      fun _ => parseId_some hid⟩
  · rename_i hsets
    obtain ⟨_, -, h⟩ := bind_ok h
    obtain ⟨host, hhost, h⟩ := bind_ok h
    obtain ⟨name, hname, h⟩ := bind_ok h
    obtain rfl := Except.ok.inj h
    obtain ⟨hhostNe, hhostFits⟩ := copyToken_ok hhost
    obtain ⟨hnameNe, hnameFits⟩ := copyToken_ok hname
    exact ⟨hhostNe, Nat.le_of_lt_succ hhostFits, hnameNe, Nat.le_of_lt_succ hnameFits,
      fun h => absurd h hsets⟩

/-- What a command leaves of the entries: all ids but that of its name are as they were. -/
structure Rewrites (command : AliasCommand) (list list' : List AliasEntry) : Prop where
  here : idOf list' command.name = if command.op.sets then command.id else 0
  others : ∀ name, name ≠ command.name → idOf list' name = idOf list name

def Unbroken (command : AliasCommand) : Prop :=
  command.op.sets = true → 44 ∉ command.name ∧ 10 ∉ command.name ∧ PlainHost command.host

section command
variable {io : Io} {file : Option Bytes} {maxId : ℕ} {list : List AliasEntry}

def loaded (io : Io) (file : Option Bytes) : Option (List AliasEntry) :=
  match file with
  | none => some []
  | some text => readMap io text

theorem loaded_held (h : Held maxId file list) {aliases : List AliasEntry}
    (hload : loaded io file = some aliases) : aliases = list.map settle := by
  obtain ⟨rfl, rfl⟩ | rfl := h.file
  · exact (Option.some.inj hload).symm
  · rw [readMap_some hload, readEntries_renderMap list h.plain]

theorem loaded_readable (hio : io.Readable) (file : Option Bytes) :
    ∃ aliases, loaded io file = some aliases := by
  cases file with
  | none => exact ⟨[], rfl⟩
  | some text => exact ⟨readEntries text, readMap_readable hio text⟩

theorem updateEntry_some {aliases list' : List AliasEntry} {name host : CString} {id : ℕ}
    (h : updateEntry io aliases name host id = some list') :
    list' = putEntry aliases name host id := by
  unfold updateEntry at h
  split at h
  · cases h
  · exact (Option.some.inj h).symm

theorem setAlias_cases {host name : CString} {id : ℕ} {outcome : Outcome}
    (h : setAlias io file host name id = outcome) :
    outcome = ⟨false, file⟩ ∨ ∃ aliases list', loaded io file = some aliases ∧
      updateEntry io aliases name host id = some list' ∧
      outcome = ⟨true, some (renderMap list')⟩ := by
  unfold setAlias at h
  split at h
  · exact .inl h.symm
  split at h
  · exact .inl h.symm
  split at h
  · exact .inl h.symm
  change (match loaded io file with
    | none => _
    | some aliases => _) = outcome at h
  split at h
  · exact .inl h.symm
  rename_i aliases hload
  split at h
  · exact .inl h.symm
  rename_i list' hupdate
  split at h
  · exact .inl h.symm
  rename_i text hwrite
  obtain rfl := writeMap_some hwrite
  exact .inr ⟨aliases, list', hload, hupdate, h.symm⟩

theorem setAlias_willing (hio : io.Willing) {host name : CString} {id : ℕ} (hhost : host ≠ [])
    (hname : name ≠ []) (hid : 1 ≤ id) : (setAlias io file host name id).ok = true := by
  obtain ⟨aliases, hload⟩ := loaded_readable hio.toReadable file
  have hguard : ¬ (host = [] ∨ name = [] ∨ id = 0) := by
    simp only [hhost, hname, false_or]
    omega
  have hmemory : ∀ p : Prop, ¬ (io.memory = false ∧ p) := by simp [hio.memory]
  unfold loaded at hload
  unfold setAlias
  rw [if_neg hguard, if_neg (by simp [hio.ensureDir]), if_neg (by simp [hio.buildPath])]
  simp only [hload, updateEntry, writeMap, hio.openWrite, if_neg (hmemory _)]
  rfl

theorem deleteAlias_cases {host name : CString} {outcome : Outcome}
    (h : deleteAlias io file host name = outcome) :
    outcome = ⟨false, file⟩ ∨ ∃ aliases, loaded io file = some aliases ∧
      outcome = ⟨true, some (renderMap (remove AliasEntry.name name aliases))⟩ := by
  unfold deleteAlias at h
  split at h
  · exact .inl h.symm
  split at h
  · exact .inl h.symm
  split at h
  · exact .inl h.symm
  rename_i text
  split at h
  · exact .inl h.symm
  rename_i aliases hread
  split at h
  · exact .inl h.symm
  split at h
  · exact .inl h.symm
  rename_i text' hwrite
  obtain rfl := writeMap_some hwrite
  exact .inr ⟨aliases, hread, h.symm⟩

theorem deleteAlias_willing (hio : io.Willing) (h : Held maxId file list) {host name : CString}
    (hhost : host ≠ []) (hname : name ≠ []) :
    (deleteAlias io file host name).ok = true ∨ idOf list name = 0 := by
  have hguard : ¬ (host = [] ∨ name = []) := by simp [hhost, hname]
  obtain ⟨rfl, rfl⟩ | rfl := h.file
  · exact .inr rfl
  have hread := readMap_readable hio.toReadable (renderMap list)
  rw [readEntries_renderMap list h.plain] at hread
  by_cases hfound : lookup AliasEntry.name name (list.map settle) = none
  · right
    rw [← idOf_settle, idOf, hfound]
  · left
    unfold deleteAlias
    rw [if_neg hguard, if_neg (by simp [hio.buildPath])]
    simp only [hread, if_neg hfound, writeMap, hio.openWrite]
    rfl

end command

section rewrites
variable {io : Io} {file : Option Bytes} {list : List AliasEntry} {command : AliasCommand}

/-- The command reported a failure and changed nothing, or the file holds its entries now. -/
def Executed (command : AliasCommand) (file : Option Bytes) (list : List AliasEntry)
    (outcome : Outcome) : Prop :=
  outcome = ⟨false, file⟩ ∨ outcome.ok = true ∧ ∃ list',
    Held command.op.kind.maxId outcome.file list' ∧ Rewrites command list list'

theorem maxId_le (kind : AliasKind) : kind.maxId < 2 ^ 16 := by
  cases kind <;> decide

theorem set_executed (h : Held command.op.kind.maxId file list) (hissued : Issued command)
    (hplain : Unbroken command) (hsets : command.op.sets = true) :
    Executed command file list (setAlias io file command.host command.name command.id) := by
  rcases setAlias_cases (rfl : setAlias io file command.host command.name command.id = _) with
    hfailed | ⟨aliases, list', hload, hupdate, hdone⟩
  · exact .inl hfailed
  obtain rfl := loaded_held h hload
  obtain rfl := updateEntry_some hupdate
  obtain ⟨hcomma, hnewline, hhost⟩ := hplain hsets
  obtain ⟨hpos, hmax⟩ := hissued.id hsets
  have hsmall : command.id < 2 ^ 16 := Nat.lt_of_le_of_lt hmax (maxId_le command.op.kind)
  have hentry : Plain ⟨command.name, command.host, command.id⟩ :=
    ⟨hissued.name, hcomma, hnewline, hissued.nameFits, hhost, hissued.hostFits, hpos, hsmall⟩
  obtain ⟨holdPlain, holdRange⟩ := held_settle h
  refine .inr (hdone ▸ ⟨rfl, _, ⟨.inr rfl, ?_, ?_⟩, ?_, ?_⟩)
  · exact putEntry_plain _ hissued.nameFits holdPlain hentry
  · exact putEntry_inRange _ _ _ holdRange hmax
  · rw [if_pos hsets, idOf_putEntry_same _ hissued.nameFits]
  · intro name hname
    rw [idOf_putEntry_other _ hissued.nameFits hname, idOf_settle]

theorem delete_executed (h : Held command.op.kind.maxId file list)
    (hsets : command.op.sets = false) :
    Executed command file list (deleteAlias io file command.host command.name) := by
  rcases deleteAlias_cases (rfl : deleteAlias io file command.host command.name = _) with
    hfailed | ⟨aliases, hload, hdone⟩
  · exact .inl hfailed
  obtain rfl := loaded_held h hload
  obtain ⟨holdPlain, holdRange⟩ := held_settle h
  refine .inr (hdone ▸ ⟨rfl, _, ⟨.inr rfl, ?_, ?_⟩, ?_, ?_⟩)
  · exact fun entry hentry => holdPlain entry (List.mem_of_mem_filter hentry)
  · exact fun entry hentry => holdRange entry (List.mem_of_mem_filter hentry)
  · rw [if_neg (by simp [hsets]), idOf, lookup_remove_same]
  · intro name hname
    rw [← idOf_settle list, idOf, idOf, lookup_remove_other _ hname]

theorem execute_eq (io : Io) (file : Option Bytes) (command : AliasCommand) :
    execute io file command =
      if command.op.sets then setAlias io file command.host command.name command.id
      else deleteAlias io file command.host command.name := by
  unfold execute
  cases command.op <;> rfl

theorem execute_executed (io : Io) (h : Held command.op.kind.maxId file list)
    (hissued : Issued command) (hplain : Unbroken command) :
    Executed command file list (execute io file command) := by
  rw [execute_eq]
  split
  · rename_i hsets
    exact set_executed h hissued hplain hsets
  · rename_i hsets
    exact delete_executed h (by simpa using hsets)

theorem execute_willing (hio : io.Willing) (h : Held command.op.kind.maxId file list)
    (hissued : Issued command) :
    (execute io file command).ok = true ∨
      command.op.sets = false ∧ idOf list command.name = 0 := by
  rw [execute_eq]
  split
  · rename_i hsets
    exact .inl (setAlias_willing hio hissued.host hissued.name (hissued.id hsets).1)
  · rename_i hsets
    have hdelete : command.op.sets = false := by simpa using hsets
    exact (deleteAlias_willing hio h hissued.host hissued.name).imp_right fun hgone =>
      ⟨hdelete, hgone⟩

end rewrites

end Siglatch.KnockAliasOps
