import Siglatch.TextLines
import Siglatch.LibStr
import Mathlib.Data.List.DropRight

set_option autoImplicit false

namespace Siglatch.ParseIni
open MuxTypes NetIpRange LibStr TextLines

def INI_LINE_BUFFER_SIZE : ℕ := 4096
def MESSAGE_SIZE : ℕ := 256

structure IniEntry where
  key : CString
  value : CString
  line : ℕ
  deriving DecidableEq

/-- The entries before all headers stand in a section without a name. -/
structure IniSection where
  name : Option CString
  line : ℕ
  entries : List IniEntry
  deriving DecidableEq

structure IniDocument where
  global : IniSection
  sections : List IniSection
  deriving DecidableEq

structure IniError where
  line : ℕ
  message : CString
  deriving DecidableEq

def errorSet (line : ℕ) (text : CString) : IniError := ⟨line, text.take (MESSAGE_SIZE - 1)⟩

/-- The loop of `ini_read_file`. The section that entries go to is a place in the array, or the
    global one. -/
structure Reader where
  document : IniDocument
  current : Option ℕ
  lineNumber : ℕ
  deriving DecidableEq

def start : Reader := ⟨⟨⟨none, 0, []⟩, []⟩, none, 0⟩

def appendSection (document : IniDocument) (name : CString) (line : ℕ) : IniDocument :=
  { document with sections := document.sections ++ [⟨some name, line, []⟩] }

def IniSection.appendEntry (found : IniSection) (key value : CString) (line : ℕ) : IniSection :=
  { found with entries := found.entries ++ [⟨key, value, line⟩] }

def appendEntry (document : IniDocument) (current : Option ℕ) (key value : CString) (line : ℕ) :
    IniDocument :=
  match current with
  | none => { document with global := document.global.appendEntry key value line }
  | some place =>
    { document with sections := document.sections.modify place (·.appendEntry key value line) }

def parseSectionName (text : CString) (line : ℕ) : Except IniError CString :=
  if text.length < 2 ∨ text.head? ≠ some 91 ∨ text.getLast? ≠ some 93 then
    .error (errorSet line (ascii "Invalid section header '".toList ++ text ++ [39]))
  else if trim text.dropLast.tail = [] then
    .error (errorSet line (ascii "Section name cannot be empty".toList))
  else .ok (trim text.dropLast.tail)

def BOM : Bytes := [0xEF, 0xBB, 0xBF]

/-- A mark is looked for on the first line only. -/
def dropBom (line : ℕ) (trimmed : CString) : CString :=
  if line = 1 ∧ BOM <+: trimmed then trim (trimmed.drop 3) else trimmed

def exceeds (line : ℕ) : IniError :=
  errorSet line (ascii "INI line exceeds ".toList ++
    decimalText (INI_LINE_BUFFER_SIZE - 1) ++ ascii " bytes".toList)

def consume (reader : Reader) (line : ℕ) (trimmed : CString) : Except IniError Reader :=
  if trimmed.all isSpace then .ok { reader with lineNumber := line }
  else if trimmed.head? = some 35 ∨ trimmed.head? = some 59 then
    .ok { reader with lineNumber := line }
  else if trimmed.head? = some 91 then
    match parseSectionName trimmed line with
    | .error error => .error error
    | .ok name =>
      .ok ⟨appendSection reader.document name line, some reader.document.sections.length, line⟩
  else
    match splitKv trimmed with
    | none => .error (errorSet line (ascii "Invalid INI line '".toList ++ trimmed ++ [39]))
    | some (key, value) =>
      if key = [] then .error (errorSet line (ascii "INI key cannot be empty".toList))
      else .ok { reader with
        document := appendEntry reader.document reader.current key value line, lineNumber := line }

/-- One round: what `fgets` left in the buffer, and whether it met the end of the file. -/
def readLine (reader : Reader) (piece : Bytes × Bool) : Except IniError Reader :=
  let line := reader.lineNumber + 1
  let text := cString piece.1
  if 10 ∉ text ∧ piece.2 = false then .error (exceeds line)
  else consume reader line (dropBom line (trim text))

def readStream (file : Bytes) : Except IniError IniDocument :=
  ((readPieces 10 INI_LINE_BUFFER_SIZE [] file).foldlM readLine start).map Reader.document

def readFile (files : CString → Option Bytes) (path : Option CString) :
    Except IniError IniDocument :=
  match path with
  | none => .error (errorSet 0 (ascii "Missing INI file path".toList))
  | some path =>
    match files path with
    | none =>
      .error (errorSet 0 (ascii "Failed to open INI file '".toList ++ path ++ [39]))
    | some file => readStream file

section trim

theorem rdropWhile_inner {front back : CString} {c : UInt8} (bare : isSpace c = false) :
    (front ++ c :: back).rdropWhile isSpace = front ++ c :: back.rdropWhile isSpace := by
  unfold List.rdropWhile
  rw [List.reverse_append, List.reverse_cons, List.append_assoc, List.dropWhile_append]
  split
  · rename_i gone
    rw [List.isEmpty_iff.mp gone, List.reverse_nil, List.singleton_append,
      List.dropWhile_cons_of_neg (by simp [bare]), List.reverse_cons, List.reverse_reverse]
  · simp

theorem dropWhile_rdropWhile (text : CString) :
    (text.rdropWhile isSpace).dropWhile isSpace = (text.dropWhile isSpace).rdropWhile isSpace := by
  induction text with
  | nil => rfl
  | cons c rest ih =>
    cases blank : isSpace c with
    | false =>
      have back := @rdropWhile_inner [] rest c blank
      rw [List.nil_append, List.nil_append] at back
      rw [List.dropWhile_cons_of_neg (by simp [blank]), back,
        List.dropWhile_cons_of_neg (by simp [blank])]
    | true =>
      rw [List.dropWhile_cons_of_pos blank, ← ih]
      by_cases all : ∀ d ∈ rest, isSpace d = true
      · have none : (c :: rest).rdropWhile isSpace = [] :=
          List.rdropWhile_eq_nil_iff.mpr (List.forall_mem_cons.mpr ⟨blank, all⟩)
        rw [none, List.rdropWhile_eq_nil_iff.mpr all]
      · push Not at all
        obtain ⟨d, member, bare⟩ := all
        obtain ⟨front, back, rfl⟩ := List.append_of_mem member
        rw [← List.cons_append, rdropWhile_inner (Bool.eq_false_iff.mpr bare),
          rdropWhile_inner (Bool.eq_false_iff.mpr bare), List.cons_append,
          List.dropWhile_cons_of_pos blank]

theorem trim_rdropWhile (text : CString) : trim (text.rdropWhile isSpace) = trim text := by
  calc trim (text.rdropWhile isSpace)
      = ((text.rdropWhile isSpace).dropWhile isSpace).rdropWhile isSpace := rfl
    _ = ((text.dropWhile isSpace).rdropWhile isSpace).rdropWhile isSpace := by
      rw [dropWhile_rdropWhile]
    _ = trim text := List.rdropWhile_idempotent isSpace _

theorem trim_cons_blank {c : UInt8} (blank : isSpace c = true) (text : CString) :
    trim (c :: text) = trim text := by
  unfold trim
  rw [List.dropWhile_cons_of_pos blank]

theorem trim_concat_blank {c : UInt8} (blank : isSpace c = true) (text : CString) :
    trim (text ++ [c]) = trim text := by
  rw [← trim_rdropWhile, List.rdropWhile_concat_pos _ _ _ blank, trim_rdropWhile]

theorem trim_inner {front back : CString} {b c : UInt8} (first : isSpace b = false)
    (bare : isSpace c = false) :
    trim (b :: (front ++ c :: back)) = b :: (front ++ c :: back.rdropWhile isSpace) := by
  unfold trim
  rw [List.dropWhile_cons_of_neg (by simp [first])]
  exact @rdropWhile_inner (b :: front) back c bare

end trim

end Siglatch.ParseIni
