import Siglatch.NetIpSpec
import Siglatch.TextLines
import Siglatch.KeyedEntries
import Mathlib.Data.List.Find

set_option autoImplicit false

namespace Siglatch.KnockAliasMap
open MuxTypes NetIpRange NetIpSpec TextLines KeyedEntries
open LibStr (decimalText decimalText_length)

structure AliasEntry where
  name : CString
  host : CString
  id : ℕ
  deriving DecidableEq

def UINT32_MAX : ℕ := 2 ^ 32 - 1

def readEntry (line : CString) : Option AliasEntry :=
  match strtok [44] line with
  | none => none
  | some (name, rest) =>
    match strtok [44] rest with
    | none => none
    | some (host, rest) =>
      match strtok [44, 10] rest with
      | none => none
      | some (idStr, _) =>
        let parsed := strtoul idStr
        if parsed.2 ≠ [] ∨ parsed.1 = 0 ∨ UINT32_MAX < parsed.1 then none
        else some ⟨name.take 127, host.take 255, parsed.1⟩

structure Io where
  ensureDir : Bool
  buildPath : Bool
  openRead : Bool
  openWrite : Bool
  memory : Bool

def readEntries (text : Bytes) : List AliasEntry := (readLines 10 512 [] text).filterMap readEntry

def readMap (io : Io) (text : Bytes) : Option (List AliasEntry) :=
  if io.openRead = false then none
  else if io.memory = false ∧ readEntries text ≠ [] then none
  else some (readEntries text)

def putEntry (list : List AliasEntry) (name host : CString) (id : ℕ) : List AliasEntry :=
  upsert AliasEntry.name name (fun entry => { entry with id := id, host := host.take 255 })
    ⟨name.take 127, host.take 255, id⟩ list

/-- A name that is not there yet takes more memory. -/
def updateEntry (io : Io) (list : List AliasEntry) (name host : CString) (id : ℕ) :
    Option (List AliasEntry) :=
  if io.memory = false ∧ lookup AliasEntry.name name list = none then none
  else some (putEntry list name host id)

def entryLine (entry : AliasEntry) : CString :=
  entry.name ++ 44 :: (entry.host ++ 44 :: decimalText entry.id)

def renderMap (list : List AliasEntry) : Bytes :=
  ((list.map entryLine).map (· ++ [10])).flatten

def writeMap (io : Io) (list : List AliasEntry) : Option Bytes :=
  if io.openWrite = false then none else some (renderMap list)

/-- The first entry of a name whose id is in range, or 0. -/
def resolve (io : Io) (maxId : ℕ) (file : Option Bytes) (host name : CString) : ℕ :=
  if host = [] ∨ io.buildPath = false then 0
  else
    match file with
    | none => 0
    | some text =>
      match readMap io text with
      | none => 0
      | some list =>
        match list.find? fun entry => entry.name = name ∧ 1 ≤ entry.id ∧ entry.id ≤ maxId with
        | none => 0
        | some entry => entry.id

section decimal

theorem digit_byte {c : Char} (hc : c.isDigit = true) :
    c.toNat.toUInt8.toNat = c.toNat ∧ 48 ≤ c.toNat ∧ c.toNat ≤ 57 := by
  have hrange : 48 ≤ c.toNat ∧ c.toNat ≤ 57 := by
    simpa [Char.isDigit, UInt32.le_iff_toNat_le] using hc
  refine ⟨?_, hrange⟩
  rw [Nat.toUInt8_eq, UInt8.toNat_ofNat']
  exact Nat.mod_eq_of_lt (by omega)

theorem decimalText_digits (n : ℕ) : Digits (decimalText n) := by
  refine ⟨by simp [decimalText, ascii], fun c hc => ?_⟩
  obtain ⟨d, hd, rfl⟩ := List.mem_map.mp hc
  obtain ⟨hbyte, hlow, hhigh⟩ := digit_byte (Nat.isDigit_of_mem_toDigits (by omega) (by omega) hd)
  exact isDigit_iff.mpr ⟨by omega, by omega⟩

theorem decimal_ascii (digits : List Char) (h : ∀ c ∈ digits, c.isDigit = true) :
    decimal (ascii digits) = Nat.ofDigitChars 10 digits 0 := by
  have hfold : ∀ (digits : List Char), (∀ c ∈ digits, c.isDigit = true) → ∀ init : ℕ,
      (ascii digits).foldl (fun n c => n * 10 + (c.toNat - 48)) init =
        Nat.ofDigitChars 10 digits init := by
    intro digits
    induction digits with
    | nil => intro _ init; rfl
    | cons c digits ih =>
      intro h init
      have hbyte := (digit_byte (h c List.mem_cons_self)).1
      have hrest := ih (fun d hd => h d (List.mem_cons_of_mem c hd))
      rw [Nat.ofDigitChars_cons, ← hrest, Nat.mul_comm 10 init]
      change (ascii digits).foldl _ (init * 10 + (c.toNat.toUInt8.toNat - 48)) = _
      rw [hbyte]
      rfl
  exact hfold digits h 0

theorem decimal_decimalText (n : ℕ) : decimal (decimalText n) = n := by
  rw [decimalText, decimal_ascii _ fun c hc =>
    Nat.isDigit_of_mem_toDigits (by omega) (by omega) hc]
  exact Nat.ofDigitChars_ten_toDigits

theorem strtoul_decimalText {n : ℕ} (hn : n ≤ UINT32_MAX) :
    strtoul (decimalText n) = (n, []) := by
  have hsmall : ¬ ULONG_MAX < n := by
    unfold ULONG_MAX
    unfold UINT32_MAX at hn
    omega
  rw [strtoul_digits (decimalText_digits n), decimal_decimalText, if_neg hsmall]

theorem decimalText_clean (n : ℕ) : ∀ c ∈ decimalText n, c ∉ ([44, 10] : List UInt8) := by
  intro c hc
  have hdigit := isDigit_iff.mp ((decimalText_digits n).2 c hc)
  simp only [List.mem_cons, List.not_mem_nil, or_false, ← UInt8.toNat_inj]
  change ¬ (_ = 44 ∨ _ = 10)
  omega

end decimal

/-- A host that a line gives back: one piece, with nothing but commas around it. -/
def PlainHost (host : CString) : Prop :=
  ∃ i j core, host = List.replicate i 44 ++ (core ++ List.replicate j 44) ∧ core ≠ [] ∧
    44 ∉ core ∧ 10 ∉ core

structure Plain (entry : AliasEntry) : Prop where
  named : entry.name ≠ []
  comma : 44 ∉ entry.name
  newline : 10 ∉ entry.name
  nameFits : entry.name.length ≤ 127
  host : PlainHost entry.host
  hostFits : entry.host.length ≤ 255
  positive : 1 ≤ entry.id
  small : entry.id < 2 ^ 16

def hostPiece (host : CString) : CString := (host.dropWhile (· = 44)).takeWhile (· ≠ 44)

def settle (entry : AliasEntry) : AliasEntry := { entry with host := hostPiece entry.host }

theorem hostPiece_eq {core : CString} (hne : core ≠ []) (hcomma : 44 ∉ core) (i j : ℕ) :
    hostPiece (List.replicate i 44 ++ (core ++ List.replicate j 44)) = core := by
  obtain ⟨c, more, rfl⟩ := List.exists_cons_of_ne_nil hne
  have hc : c ≠ 44 := fun heq => hcomma (heq ▸ List.mem_cons_self)
  have hfront : ∀ a ∈ List.replicate i (44 : UInt8), decide (a = 44) = true := by simp
  have hpiece : ∀ a ∈ c :: more, decide (a ≠ 44) = true :=
    fun a ha => decide_eq_true fun heq => hcomma (heq ▸ ha)
  have hback : (List.replicate j (44 : UInt8)).takeWhile (· ≠ 44) = [] := by
    cases j with
    | zero => rfl
    | succ j => rfl
  unfold hostPiece
  rw [List.dropWhile_append_of_pos hfront, List.cons_append,
    List.dropWhile_cons_of_neg (by simpa using hc), ← List.cons_append,
    List.takeWhile_append_of_pos hpiece, hback, List.append_nil]

theorem plainHost_core {core : CString} (hne : core ≠ []) (hcomma : 44 ∉ core)
    (hnewline : 10 ∉ core) : PlainHost core :=
  ⟨0, 0, core, by simp, hne, hcomma, hnewline⟩

section plain
variable {entry : AliasEntry} (h : Plain entry)
include h

theorem settle_plain : Plain (settle entry) := by
  obtain ⟨i, j, core, hhost, hne, hcomma, hnewline⟩ := h.host
  have hpiece : hostPiece entry.host = core := by rw [hhost, hostPiece_eq hne hcomma]
  have hlength : core.length ≤ 255 := by
    have hfits := h.hostFits
    rw [hhost] at hfits
    simp only [List.length_append] at hfits
    omega
  exact
    { named := h.named
      comma := h.comma
      newline := h.newline
      nameFits := h.nameFits
      host := by
        change PlainHost (hostPiece entry.host)
        exact hpiece ▸ plainHost_core hne hcomma hnewline
      hostFits := by
        change (hostPiece entry.host).length ≤ 255
        exact hpiece ▸ hlength
      positive := h.positive
      small := h.small }

theorem readEntry_entryLine : readEntry (entryLine entry ++ [10]) = some (settle entry) := by
  obtain ⟨i, j, core, hhost, hne, hcomma, hnewline⟩ := h.host
  have hpiece : hostPiece entry.host = core := by rw [hhost, hostPiece_eq hne hcomma]
  have hsmall : entry.id ≤ UINT32_MAX := by
    have hid := h.small
    unfold UINT32_MAX
    omega
  have hcommas : ∀ k, ∀ c ∈ List.replicate k (44 : UInt8), c ∈ ([44] : List UInt8) := by simp
  have hcommas' : ∀ k, ∀ c ∈ List.replicate k (44 : UInt8), c ∈ ([44, 10] : List UInt8) := by
    simp
  -- the commas behind the host's piece are skipped in front of the id
  have hline : entryLine entry ++ [10] = [] ++ (entry.name ++ 44 ::
      (List.replicate i 44 ++ (core ++ 44 ::
        (List.replicate j 44 ++ (decimalText entry.id ++ [10]))))) := by
    have hshift : List.replicate j (44 : UInt8) ++ [44] = 44 :: List.replicate j 44 := by
      rw [← List.replicate_succ', List.replicate_succ]
    unfold entryLine
    rw [hhost]
    have hassoc := congrArg (· ++ (decimalText entry.id ++ [10])) hshift
    simp only [List.append_assoc, List.cons_append, List.nil_append] at hassoc ⊢
    rw [hassoc]
  have hname := @strtok_piece _ _ [44] [] entry.name
    (List.replicate i 44 ++ (core ++ 44 ::
      (List.replicate j 44 ++ (decimalText entry.id ++ [10])))) 44
    (by simp) (fun c hc heq => h.comma (List.mem_singleton.mp heq ▸ hc)) h.named (by simp)
  have hhostPiece := @strtok_piece _ _ [44] (List.replicate i 44) core
    (List.replicate j 44 ++ (decimalText entry.id ++ [10])) 44
    (hcommas i) (fun c hc heq => hcomma (List.mem_singleton.mp heq ▸ hc)) hne (by simp)
  have hid := @strtok_piece _ _ [44, 10] (List.replicate j 44) (decimalText entry.id) [] 10
    (hcommas' j) (decimalText_clean entry.id) (decimalText_digits entry.id).1 (by simp)
  have hcore : core.length ≤ 255 := by
    have hfits := (settle_plain h).hostFits
    change (hostPiece entry.host).length ≤ 255 at hfits
    rwa [hpiece] at hfits
  have hvalid : ¬ (entry.id = 0 ∨ UINT32_MAX < entry.id) := by
    have hpos := h.positive
    omega
  rw [hline]
  simp only [readEntry, hname, hhostPiece, hid, strtoul_decimalText hsmall]
  simp only [ne_eq, not_true_eq_false, false_or, if_neg hvalid]
  rw [List.take_of_length_le h.nameFits, List.take_of_length_le hcore, settle, hpiece]

theorem entryLine_fits : 10 ∉ entryLine entry ∧ (entryLine entry).length + 1 < 512 := by
  obtain ⟨i, j, core, hhost, hne, hcomma, hnewline⟩ := h.host
  have hnewlines : ∀ k, (10 : UInt8) ∉ List.replicate k 44 := by
    intro k hk
    exact absurd (List.eq_of_mem_replicate hk) (by decide)
  have hid : (10 : UInt8) ∉ decimalText entry.id :=
    fun hmem => decimalText_clean entry.id 10 hmem (by simp)
  have hhostClean : 10 ∉ entry.host := by
    rw [hhost]
    simp [hnewlines, hnewline]
  constructor
  · simp [entryLine, h.newline, hhostClean, hid]
  · have hdigits := @decimalText_length entry.id 5 (by omega) (by have := h.small; omega)
    have hname := h.nameFits
    have hhostFits := h.hostFits
    simp only [entryLine, List.length_append, List.length_cons]
    omega

end plain

theorem readEntries_renderMap (list : List AliasEntry) (h : ∀ entry ∈ list, Plain entry) :
    readEntries (renderMap list) = list.map settle := by
  have hlines : ∀ body ∈ list.map entryLine, 10 ∉ body ∧ body.length + 1 < 512 := by
    intro body hbody
    obtain ⟨entry, hentry, rfl⟩ := List.mem_map.mp hbody
    exact entryLine_fits (h entry hentry)
  unfold readEntries renderMap
  rw [readLines_flatten _ hlines, List.map_map, List.filterMap_map]
  induction list with
  | nil => rfl
  | cons entry list ih =>
    have hentry : (readEntry ∘ ((· ++ [10]) ∘ entryLine)) entry = some (settle entry) :=
      readEntry_entryLine (h entry List.mem_cons_self)
    have hrest := ih (fun e he => h e (List.mem_cons_of_mem entry he))
      (fun body hbody => hlines body (List.mem_cons_of_mem _ hbody))
    rw [List.filterMap_cons_some hentry, hrest, List.map_cons]

theorem readEntry_name {line : CString} {entry : AliasEntry} (hline : 10 ∉ line.dropLast)
    (h : readEntry line = some entry) : 44 ∉ entry.name ∧ 10 ∉ entry.name := by
  unfold readEntry at h
  split at h
  · cases h
  rename_i name rest hname
  split at h
  · cases h
  rename_i host rest' hhost
  split at h
  · cases h
  simp only at h
  split at h
  · cases h
  obtain rfl := Option.some.inj h
  obtain ⟨hclean, front, back, rfl, rfl⟩ := strtok_parts hname
  refine ⟨fun hmem => hclean 44 (List.mem_of_mem_take hmem) (by simp), fun hmem => hline ?_⟩
  -- there is a host behind the name, so the name stops before the end of the line
  have hback : back ≠ [] := by
    rintro rfl
    cases hhost
  rw [← List.append_assoc, List.dropLast_append_of_ne_nil hback]
  exact List.mem_append_left _ (List.mem_append_right _ (List.mem_of_mem_take hmem))

theorem readEntries_name {text : Bytes} {entry : AliasEntry} (h : entry ∈ readEntries text) :
    44 ∉ entry.name ∧ 10 ∉ entry.name := by
  obtain ⟨line, hline, hentry⟩ := List.mem_filterMap.mp h
  exact readEntry_name (readLines_stop [] text List.not_mem_nil line hline) hentry

/-- A name with a comma or a newline in it resolves to nothing, whatever the file holds. -/
theorem resolve_separated {io : Io} {maxId : ℕ} {file : Option Bytes} {host name : CString}
    (h : 44 ∈ name ∨ 10 ∈ name) : resolve io maxId file host name = 0 := by
  unfold resolve
  split
  · rfl
  split
  · rfl
  rename_i text
  split
  · rfl
  rename_i list hread
  split
  · rfl
  rename_i entry hfind
  have hmem : entry ∈ readEntries text := by
    unfold readMap at hread
    split_ifs at hread
    obtain rfl := Option.some.inj hread
    exact List.mem_of_find?_eq_some hfind
  have hname : entry.name = name := by
    have hcond := List.find?_some hfind
    simp only [decide_eq_true_eq] at hcond
    exact hcond.1
  obtain ⟨hcomma, hnewline⟩ := readEntries_name hmem
  rw [hname] at hcomma hnewline
  exact absurd h (not_or.mpr ⟨hcomma, hnewline⟩)

def idOf (list : List AliasEntry) (name : CString) : ℕ :=
  match lookup AliasEntry.name name list with
  | none => 0
  | some entry => entry.id

theorem idOf_settle (list : List AliasEntry) (name : CString) :
    idOf (list.map settle) name = idOf list name := by
  have hkeys : ∀ entry, (settle entry).name = entry.name := fun _ => rfl
  unfold idOf
  rw [lookup_map list hkeys]
  cases lookup AliasEntry.name name list <;> rfl

section putEntry
variable (list : List AliasEntry) {name host : CString} {id : ℕ} (hfits : name.length ≤ 127)
include hfits

theorem idOf_putEntry_same : idOf (putEntry list name host id) name = id := by
  have hkeys : ∀ entry : AliasEntry,
      ({ entry with id := id, host := host.take 255 } : AliasEntry).name = entry.name :=
    fun _ => rfl
  have hfresh := List.take_of_length_le hfits
  unfold idOf putEntry
  rw [lookup_upsert_same list hkeys hfresh]
  cases lookup AliasEntry.name name list <;> rfl

theorem idOf_putEntry_other {name' : CString} (h : name' ≠ name) :
    idOf (putEntry list name host id) name' = idOf list name' := by
  have hkeys : ∀ entry : AliasEntry,
      ({ entry with id := id, host := host.take 255 } : AliasEntry).name = entry.name :=
    fun _ => rfl
  have hfresh := List.take_of_length_le hfits
  unfold idOf putEntry
  rw [lookup_upsert_other list hkeys hfresh h]

theorem putEntry_plain (hplain : ∀ entry ∈ list, Plain entry) (hfresh : Plain ⟨name, host, id⟩) :
    ∀ entry ∈ putEntry list name host id, Plain entry := by
  have hhost : host.take 255 = host := List.take_of_length_le hfresh.hostFits
  unfold putEntry
  rw [List.take_of_length_le hfits, hhost]
  refine upsert_forall list (fun entry hentry => ?_) hfresh hplain
  exact
    { hentry with
      host := hfresh.host
      hostFits := hfresh.hostFits
      positive := hfresh.positive
      small := hfresh.small }

end putEntry

theorem putEntry_inRange (list : List AliasEntry) (name host : CString) {id maxId : ℕ}
    (hlist : ∀ entry ∈ list, entry.id ≤ maxId) (hid : id ≤ maxId) :
    ∀ entry ∈ putEntry list name host id, entry.id ≤ maxId :=
  upsert_forall list (fun _ _ => hid) hid hlist

/-- The map file holds these entries. A file that is not there holds none. -/
structure Held (maxId : ℕ) (file : Option Bytes) (list : List AliasEntry) : Prop where
  file : file = none ∧ list = [] ∨ file = some (renderMap list)
  plain : ∀ entry ∈ list, Plain entry
  inRange : ∀ entry ∈ list, entry.id ≤ maxId

structure Io.Readable (io : Io) : Prop where
  buildPath : io.buildPath = true
  openRead : io.openRead = true
  memory : io.memory = true

structure Io.Willing (io : Io) : Prop extends Io.Readable io where
  ensureDir : io.ensureDir = true
  openWrite : io.openWrite = true

theorem readMap_readable {io : Io} (hio : io.Readable) (text : Bytes) :
    readMap io text = some (readEntries text) := by
  simp [readMap, hio.openRead, hio.memory]

theorem readMap_some {io : Io} {text : Bytes} {list : List AliasEntry}
    (h : readMap io text = some list) : list = readEntries text := by
  unfold readMap at h
  split at h
  · cases h
  split at h
  · cases h
  exact (Option.some.inj h).symm

theorem writeMap_some {io : Io} {list : List AliasEntry} {text : Bytes}
    (h : writeMap io list = some text) : text = renderMap list := by
  unfold writeMap at h
  split at h
  · cases h
  exact (Option.some.inj h).symm

section held
variable {maxId : ℕ} {file : Option Bytes} {list : List AliasEntry}

theorem held_settle (h : Held maxId file list) :
    (∀ entry ∈ list.map settle, Plain entry) ∧ ∀ entry ∈ list.map settle, entry.id ≤ maxId := by
  constructor
  · intro entry hentry
    obtain ⟨old, hold, rfl⟩ := List.mem_map.mp hentry
    exact settle_plain (h.plain old hold)
  · intro entry hentry
    obtain ⟨old, hold, rfl⟩ := List.mem_map.mp hentry
    exact h.inRange old hold

theorem resolve_held (h : Held maxId file list) {io : Io} (hio : io.Readable) {host : CString}
    (hhost : host ≠ []) (name : CString) : resolve io maxId file host name = idOf list name := by
  have hopen : ¬ (host = [] ∨ io.buildPath = false) := by simp [hhost, hio.buildPath]
  unfold resolve
  rw [if_neg hopen]
  obtain ⟨rfl, rfl⟩ | rfl := h.file
  · rfl
  obtain ⟨hplain, hrange⟩ := held_settle h
  simp only [readMap_readable hio, readEntries_renderMap list h.plain]
  have hsame : (list.map settle).find? (fun entry =>
      entry.name = name ∧ 1 ≤ entry.id ∧ entry.id ≤ maxId) =
        lookup AliasEntry.name name (list.map settle) := by
    refine List.find?_congr fun entry hentry => ?_
    simp [(hplain entry hentry).positive, hrange entry hentry]
  rw [hsame, ← idOf_settle list name]
  rfl

end held

end Siglatch.KnockAliasMap
