import Siglatch.ParseIni
import Siglatch.AppConfigLoad
import Mathlib.Data.List.Infix

set_option autoImplicit false

namespace Siglatch.ParseIniRender
open MuxTypes NetIpRange LibStr TextLines ParseIni

inductive Line where
  | header (name : CString)
  | entry (key value : CString)
  | filler (text : CString)
  deriving DecidableEq

def Line.text : Line → CString
  | .header name => 91 :: (name ++ [93])
  | .entry key value => key ++ 32 :: 61 :: 32 :: value
  | .filler text => text

def Line.isItem : Line → Bool
  | .filler _ => false
  | _ => true

def Clean (text : CString) : Prop := 10 ∉ text ∧ 0 ∉ text

def Plain (text : CString) : Prop := trim text = text ∧ Clean text

def Line.WellFormed : Line → Prop
  | .header name => Plain name ∧ name ≠ []
  | .entry key value => Plain key ∧ key ≠ [] ∧ 61 ∉ key ∧
      (∀ c ∈ key.head?, c ≠ 91 ∧ c ≠ 35 ∧ c ≠ 59) ∧ Plain value
  | .filler text => Clean text ∧ ((∀ c ∈ text, isSpace c = true) ∨
      (text.dropWhile isSpace).head? = some 35 ∨ (text.dropWhile isSpace).head? = some 59)

instance (text : CString) : Decidable (Clean text) := inferInstanceAs (Decidable (_ ∧ _))

instance (text : CString) : Decidable (Plain text) := inferInstanceAs (Decidable (_ ∧ _))

instance : DecidablePred Line.WellFormed
  | .header _ => inferInstanceAs (Decidable (_ ∧ _))
  | .entry _ _ => inferInstanceAs (Decidable (_ ∧ _))
  | .filler _ => inferInstanceAs (Decidable (_ ∧ _))

def sectionLines (found : AppConfigLoad.IniSection) : List Line :=
  .header found.name :: found.entries.map fun entry => .entry entry.key entry.value

def itemLines (document : AppConfigLoad.IniDocument) : List Line :=
  document.globals.map (fun entry => .entry entry.key entry.value) ++
    document.sections.flatMap sectionLines

/-- The lines of the file itself, where a byte-order mark is part of the first. -/
def physical (marked : Bool) (lines : List Line) : List CString :=
  match marked, lines with
  | false, lines => lines.map Line.text
  | true, [] => [BOM]
  | true, line :: more => (BOM ++ line.text) :: more.map Line.text

def render (marked final : Bool) (lines : List Line) : Bytes :=
  joined 10 final (physical marked lines)

/-- Lines that say what a document says, with others between them. -/
structure Written (document : AppConfigLoad.IniDocument) (lines : List Line) : Prop where
  items : lines.filter Line.isItem = itemLines document
  wellFormed : ∀ line ∈ lines, line.WellFormed

def entriesOf (found : IniSection) : List AppConfigLoad.IniEntry :=
  found.entries.map fun entry => ⟨entry.key, entry.value⟩

def sectionOf (found : IniSection) : AppConfigLoad.IniSection :=
  ⟨found.name.getD [], entriesOf found⟩

def contents (document : IniDocument) : AppConfigLoad.IniDocument :=
  ⟨entriesOf document.global, document.sections.map sectionOf⟩

section consume

variable {reader : Reader} {number : ℕ}

def advance (reader : Reader) (number : ℕ) : Line → Reader
  | .header name =>
    ⟨appendSection reader.document name number, some reader.document.sections.length, number⟩
  | .entry key value => { reader with
      document := appendEntry reader.document reader.current key value number
      lineNumber := number }
  | .filler _ => { reader with lineNumber := number }

theorem trim_head {c : UInt8} {text : CString} (first : (text.dropWhile isSpace).head? = some c) :
    (trim text).head? = some c ∧ isSpace c = false := by
  have bare := List.head?_dropWhile_not isSpace text
  rw [first] at bare
  obtain ⟨rest, cut⟩ := List.head?_eq_some_iff.mp first
  have back := @rdropWhile_inner [] rest c (by simpa using bare)
  unfold trim
  rw [cut]
  change ((c :: rest).rdropWhile isSpace).head? = some c ∧ _
  rw [← List.nil_append (c :: rest), back]
  exact ⟨rfl, by simpa using bare⟩

theorem all_of_head {c : UInt8} {text : CString} (first : text.head? = some c)
    (bare : isSpace c = false) : text.all isSpace = false := by
  obtain ⟨rest, rfl⟩ := List.head?_eq_some_iff.mp first
  rw [List.all_cons, bare, Bool.false_and]

theorem trim_header (name : CString) : trim (Line.header name).text = (Line.header name).text := by
  have cut := @trim_inner name [] 91 93 rfl rfl
  rwa [List.rdropWhile_nil] at cut

theorem consume_header {name : CString} (plain : Plain name) (nonempty : name ≠ []) :
    consume reader number (trim (Line.header name).text) =
      .ok (advance reader number (.header name)) := by
  have inner : trim ((Line.header name).text.dropLast.tail) = name := by
    change trim (91 :: (name ++ [93])).dropLast.tail = name
    rw [← List.cons_append, List.dropLast_concat, List.tail_cons]
    exact plain.1
  have shape : ¬ ((Line.header name).text.length < 2 ∨ (Line.header name).text.head? ≠ some 91 ∨
      (Line.header name).text.getLast? ≠ some 93) := by
    change ¬ ((91 :: (name ++ [93])).length < 2 ∨ (some (91 : UInt8)) ≠ some 91 ∨
      (91 :: (name ++ [93])).getLast? ≠ some 93)
    rw [← List.cons_append, List.getLast?_concat]
    simp
  have parsed : parseSectionName (Line.header name).text number = .ok name := by
    unfold parseSectionName
    rw [if_neg shape, inner, if_neg nonempty]
  have first : (Line.header name).text.head? = some 91 := rfl
  unfold consume
  rw [trim_header, all_of_head first rfl, if_neg Bool.false_ne_true, first, if_neg (by decide),
    if_pos rfl, parsed]
  rfl

theorem key_head {key : CString} (trimmed : trim key = key) (nonempty : key ≠ []) :
    ∃ c rest, key = c :: rest ∧ isSpace c = false := by
  obtain ⟨c, rest, rfl⟩ := List.exists_cons_of_ne_nil nonempty
  refine ⟨c, rest, rfl, Bool.eq_false_iff.mpr fun blank => ?_⟩
  have same : trim rest = c :: rest := by rw [← trim_cons_blank blank, trimmed]
  have shorter : (trim rest).length ≤ rest.length := by
    refine (List.IsPrefix.length_le (List.rdropWhile_prefix isSpace _)).trans ?_
    exact (List.dropWhile_suffix isSpace).length_le
  rw [same, List.length_cons] at shorter
  omega

theorem trim_entry {key value : CString} (trimmed : trim key = key) (nonempty : key ≠ []) :
    trim (Line.entry key value).text =
      (key ++ [32]) ++ 61 :: (32 :: value).rdropWhile isSpace := by
  obtain ⟨c, rest, rfl, bare⟩ := key_head trimmed nonempty
  have cut := @trim_inner (rest ++ [32]) (32 :: value) c 61 bare rfl
  rw [List.append_assoc rest [32] (61 :: 32 :: value), List.singleton_append] at cut
  exact cut

theorem splitKv_entry {key back : CString} (trimmed : trim key = key) (noEq : 61 ∉ key) :
    splitKv ((key ++ [32]) ++ 61 :: back) = some (key, trim back) := by
  have before : ∀ c ∈ key ++ [32], decide (c ≠ 61) = true := by
    intro c member
    rcases List.mem_append.mp member with inside | blank
    · exact decide_eq_true fun same => noEq (same ▸ inside)
    · rw [List.mem_singleton.mp blank]
      rfl
  have head : ((key ++ [32]) ++ 61 :: back).takeWhile (· ≠ 61) = key ++ [32] := by
    rw [List.takeWhile_append_of_pos before, List.takeWhile_cons_of_neg (by decide),
      List.append_nil]
  have rest : ((key ++ [32]) ++ 61 :: back).dropWhile (· ≠ 61) = 61 :: back := by
    rw [List.dropWhile_append_of_pos before, List.dropWhile_cons_of_neg (by decide)]
  unfold splitKv
  rw [if_pos (List.mem_append_right _ List.mem_cons_self), head, rest, trim_concat_blank rfl,
    trimmed, List.tail_cons]

theorem consume_entry {key value : CString} (wellFormed : (Line.entry key value).WellFormed) :
    consume reader number (trim (Line.entry key value).text) =
      .ok (advance reader number (.entry key value)) := by
  obtain ⟨keyPlain, nonempty, noEq, start, valuePlain⟩ := wellFormed
  have value_back : trim ((32 :: value).rdropWhile isSpace) = value := by
    rw [trim_rdropWhile, trim_cons_blank rfl]
    exact valuePlain.1
  have parsed := @splitKv_entry key ((32 :: value).rdropWhile isSpace) keyPlain.1 noEq
  rw [value_back, ← trim_entry keyPlain.1 nonempty] at parsed
  obtain ⟨c, rest, rfl, bare⟩ := key_head keyPlain.1 nonempty
  have first : (trim (Line.entry (c :: rest) value).text).head? = some c := by
    rw [trim_entry keyPlain.1 nonempty]
    rfl
  obtain ⟨notHeader, notHash, notSemicolon⟩ := start c rfl
  unfold consume
  rw [all_of_head first bare, if_neg Bool.false_ne_true, first, if_neg (by simp [*]),
    if_neg (by simp [*]), parsed]
  dsimp only
  rw [if_neg nonempty]
  rfl

theorem consume_filler {text : CString} (wellFormed : (Line.filler text).WellFormed) :
    consume reader number (trim (Line.filler text).text) =
      .ok (advance reader number (.filler text)) := by
  change consume reader number (trim text) = .ok { reader with lineNumber := number }
  rcases wellFormed.2 with blank | comment
  · have empty : trim text = [] := by
      unfold trim
      rw [List.dropWhile_eq_nil_iff.mpr blank]
      rfl
    rw [empty]
    rfl
  · have first : ∃ c, (trim text).head? = some c ∧ isSpace c = false ∧ (c = 35 ∨ c = 59) := by
      rcases comment with hash | semicolon
      · exact ⟨35, (trim_head hash).1, rfl, .inl rfl⟩
      · exact ⟨59, (trim_head semicolon).1, rfl, .inr rfl⟩
    obtain ⟨c, first, bare, sign⟩ := first
    unfold consume
    rw [all_of_head first bare, if_neg Bool.false_ne_true, first, if_pos]
    simpa using sign

theorem consume_line {line : Line} (wellFormed : line.WellFormed) :
    consume reader number (trim line.text) = .ok (advance reader number line) := by
  cases line with
  | header name => exact consume_header wellFormed.1 wellFormed.2
  | entry key value => exact consume_entry wellFormed
  | filler text => exact consume_filler wellFormed

end consume

section mark

theorem dropBom_mark (text : CString) : dropBom 1 (trim (BOM ++ text)) = trim text := by
  have cut := @trim_inner [0xBB] text 0xEF 0xBF rfl rfl
  have marked : trim (BOM ++ text) = BOM ++ text.rdropWhile isSpace := cut
  unfold dropBom
  rw [marked, if_pos ⟨rfl, List.prefix_append _ _⟩, ← trim_rdropWhile text]
  rfl

theorem dropBom_later {number : ℕ} (later : number ≠ 1) (trimmed : CString) :
    dropBom number trimmed = trimmed := if_neg fun h => later h.1

theorem trim_begins {c : UInt8} {text : CString} (first : text.head? = some c)
    (bare : isSpace c = false) : trim text <+: text := by
  obtain ⟨rest, rfl⟩ := List.head?_eq_some_iff.mp first
  unfold trim
  rw [List.dropWhile_cons_of_neg (by simp [bare])]
  exact List.rdropWhile_prefix isSpace _

theorem mark_head {text : CString} (marked : BOM <+: text) : text.head? = some 0xEF := by
  obtain ⟨rest, rfl⟩ := marked
  rfl

theorem unmarked {line : Line} (wellFormed : line.WellFormed) (clear : ¬ BOM <+: line.text) :
    ¬ BOM <+: trim line.text := by
  intro marked
  have head := mark_head marked
  cases line with
  | header name =>
    rw [trim_header] at marked
    exact clear marked
  | entry key value =>
    obtain ⟨c, rest, rfl, bare⟩ := key_head wellFormed.1.1 wellFormed.2.1
    exact clear (marked.trans (@trim_begins c _ rfl bare))
  | filler text =>
    change (trim text).head? = some 0xEF at head
    rcases wellFormed.2 with blank | hash | semicolon
    · have empty : trim text = [] := by
        unfold trim
        rw [List.dropWhile_eq_nil_iff.mpr blank]
        rfl
      rw [empty] at head
      cases head
    · rw [(trim_head hash).1] at head
      cases head
    · rw [(trim_head semicolon).1] at head
      cases head

end mark

section run

/-- The physical lines of the file, behind so many others, show the lines of a document. -/
inductive Shows : ℕ → List CString → List Line → Prop
  | nil (number : ℕ) : Shows number [] []
  | cons {number : ℕ} {text : CString} {line : Line} {texts : List CString} {lines : List Line}
    (clean : Clean text) (wellFormed : line.WellFormed)
    (shown : dropBom (number + 1) (trim text) = trim line.text)
    (more : Shows (number + 1) texts lines) : Shows number (text :: texts) (line :: lines)

def advanceAll (reader : Reader) : List Line → Reader
  | [] => reader
  | line :: lines => advanceAll (advance reader (reader.lineNumber + 1) line) lines

theorem advance_number (reader : Reader) (number : ℕ) (line : Line) :
    (advance reader number line).lineNumber = number := by
  cases line <;> rfl

theorem readLine_ended {reader : Reader} {text : CString} {line : Line} (clean : Clean text)
    (wellFormed : line.WellFormed)
    (shown : dropBom (reader.lineNumber + 1) (trim text) = trim line.text) :
    readLine reader (text ++ [10], false) =
      .ok (advance reader (reader.lineNumber + 1) line) := by
  have whole : cString (text ++ [10]) = text ++ [10] := cString_clean (by simp [clean.2])
  unfold readLine
  dsimp only
  rw [whole, if_neg (by simp), trim_concat_blank rfl, shown, consume_line wellFormed]

theorem readLine_last {reader : Reader} {text : CString} {line : Line} (clean : Clean text)
    (wellFormed : line.WellFormed)
    (shown : dropBom (reader.lineNumber + 1) (trim text) = trim line.text) :
    readLine reader (text, true) = .ok (advance reader (reader.lineNumber + 1) line) := by
  unfold readLine
  dsimp only
  rw [cString_clean clean.2, if_neg (by simp), shown, consume_line wellFormed]

theorem advance_nothing {reader : Reader} {number : ℕ} {line : Line} (wellFormed : line.WellFormed)
    (empty : trim line.text = []) : (advance reader number line).document = reader.document := by
  cases line with
  | header name =>
    rw [trim_header] at empty
    cases empty
  | entry key value =>
    rw [trim_entry wellFormed.1.1 wellFormed.2.1] at empty
    simp at empty
  | filler text => rfl

theorem fold_pieces (final : Bool) {reader : Reader} {number : ℕ} {texts : List CString}
    {lines : List Line} (shows : Shows number texts lines) (at_line : reader.lineNumber = number) :
    ((pieces 10 final texts).foldlM readLine reader).map Reader.document =
      .ok (advanceAll reader lines).document := by
  induction shows generalizing reader with
  | nil => rfl
  | @cons number text line texts lines clean wellFormed shown more ih =>
    subst at_line
    have rest := ih (advance_number reader _ line)
    have ended := readLine_ended clean wellFormed shown
    cases texts with
    | nil =>
      cases more
      unfold pieces
      split
      · rw [List.foldlM_cons, ended]
        rfl
      split
      · rename_i empty
        have nothing : trim line.text = [] := by
          rw [← shown, empty]
          unfold dropBom
          split
          · rfl
          · rfl
        have same := @advance_nothing reader (reader.lineNumber + 1) line wellFormed nothing
        rw [advanceAll, advanceAll, same]
        rfl
      · rw [List.foldlM_cons, readLine_last clean wellFormed shown]
        rfl
    | cons next texts =>
      rw [pieces, List.foldlM_cons, ended]
      exact rest

theorem shows_later {lines : List Line} {number : ℕ} (later : number ≠ 0)
    (wellFormed : ∀ line ∈ lines, line.WellFormed ∧ Clean line.text) :
    Shows number (lines.map Line.text) lines := by
  induction lines generalizing number with
  | nil => exact .nil number
  | cons line lines ih =>
    obtain ⟨good, clean⟩ := wellFormed line List.mem_cons_self
    have more := @ih (number + 1) (Nat.succ_ne_zero number) fun l member =>
      wellFormed l (List.mem_cons_of_mem line member)
    exact .cons clean good (dropBom_later (by omega) _) more

theorem clean_text {line : Line} (wellFormed : line.WellFormed) : Clean line.text := by
  cases line with
  | header name =>
    obtain ⟨⟨-, newline, nul⟩, -⟩ := wellFormed
    exact ⟨by simp [Line.text, newline], by simp [Line.text, nul]⟩
  | entry key value =>
    obtain ⟨⟨-, newline, nul⟩, -, -, -, -, newline', nul'⟩ := wellFormed
    exact ⟨by simp [Line.text, newline, newline'], by simp [Line.text, nul, nul']⟩
  | filler text => exact wellFormed.1

theorem clean_mark {text : CString} (clean : Clean text) : Clean (BOM ++ text) :=
  ⟨by simp [BOM, clean.1], by simp [BOM, clean.2]⟩

theorem shows_physical {marked final : Bool} {lines : List Line}
    (wellFormed : ∀ line ∈ lines, line.WellFormed)
    (clear : marked = false → ¬ BOM <+: render marked final lines) :
    Shows 0 (physical marked lines) lines ∨
      lines = [] ∧ Shows 0 (physical marked lines) [.filler []] := by
  have blank : (Line.filler []).WellFormed :=
    ⟨⟨List.not_mem_nil, List.not_mem_nil⟩, .inl fun _ member => by cases member⟩
  have rest (line : Line) (more : List Line) (same : lines = line :: more) :
      Shows 1 (more.map Line.text) more := by
    refine shows_later Nat.one_ne_zero fun l member => ?_
    have good := wellFormed l (same ▸ List.mem_cons_of_mem line member)
    exact ⟨good, clean_text good⟩
  cases lines with
  | nil =>
    cases marked with
    | false => exact .inl (.nil 0)
    | true =>
      have clean := clean_mark (clean_text blank)
      exact .inr ⟨rfl, .cons clean blank (dropBom_mark []) (.nil 1)⟩
  | cons line more =>
    have good := wellFormed line List.mem_cons_self
    have clean := clean_text good
    left
    cases marked with
    | false =>
      have apart : ¬ BOM <+: line.text := fun inside =>
        clear rfl (inside.trans (joined_begins final line.text (more.map Line.text)))
      have shown : dropBom (0 + 1) (trim line.text) = trim line.text :=
        if_neg fun h => unmarked good apart h.2
      exact .cons clean good shown (rest line more rfl)
    | true => exact .cons (clean_mark clean) good (dropBom_mark line.text) (rest line more rfl)

theorem physical_clean {marked : Bool} {lines : List Line}
    (wellFormed : ∀ line ∈ lines, line.WellFormed) :
    ∀ text ∈ physical marked lines, Clean text := by
  have plain (more : List Line) (good : ∀ line ∈ more, line.WellFormed) :
      ∀ text ∈ more.map Line.text, Clean text := by
    intro text member
    obtain ⟨line, inside, rfl⟩ := List.mem_map.mp member
    exact clean_text (good line inside)
  cases marked with
  | false => exact plain lines wellFormed
  | true =>
    cases lines with
    | nil =>
      intro text member
      obtain rfl := List.mem_singleton.mp member
      exact ⟨by decide, by decide⟩
    | cons line more =>
      obtain ⟨good, later⟩ := List.forall_mem_cons.mp wellFormed
      exact List.forall_mem_cons.mpr ⟨clean_mark (clean_text good), plain more later⟩

theorem read_render {marked final : Bool} {lines : List Line}
    (wellFormed : ∀ line ∈ lines, line.WellFormed)
    (short : ∀ text ∈ physical marked lines, text.length ≤ 4094)
    (clear : marked = false → ¬ BOM <+: render marked final lines) :
    readStream (render marked final lines) = .ok (advanceAll start lines).document := by
  have chunks : readPieces 10 INI_LINE_BUFFER_SIZE [] (render marked final lines) =
      pieces 10 final (physical marked lines) := by
    refine readPieces_joined final _ fun text member => ?_
    have fits := short text member
    have clean := physical_clean wellFormed text member
    exact ⟨clean.1, by unfold INI_LINE_BUFFER_SIZE; omega⟩
  unfold readStream
  rw [chunks]
  rcases shows_physical wellFormed clear with shows | ⟨rfl, shows⟩
  · exact fold_pieces final shows rfl
  · exact (fold_pieces final shows rfl).trans rfl

end run

section contents

def put (document : AppConfigLoad.IniDocument) : Line → AppConfigLoad.IniDocument
  | .header name => { document with sections := document.sections ++ [⟨name, []⟩] }
  | .entry key value =>
    if document.sections = [] then
      { document with globals := document.globals ++ [⟨key, value⟩] }
    else
      { document with
        sections := document.sections.modify (document.sections.length - 1) fun found =>
          { found with entries := found.entries ++ [⟨key, value⟩] } }
  | .filler _ => document

/-- Entries go to the section that was added last, or to the global one if there is none. -/
def AtLast (reader : Reader) : Prop :=
  reader.current = if reader.document.sections = [] then none
    else some (reader.document.sections.length - 1)

theorem sectionOf_append (found : IniSection) (key value : CString) (line : ℕ) :
    sectionOf (found.appendEntry key value line) =
      { sectionOf found with entries := (sectionOf found).entries ++ [⟨key, value⟩] } := by
  unfold sectionOf entriesOf IniSection.appendEntry
  rw [List.map_append]
  rfl

theorem map_modify {α β : Type*} {g : α → β} {f : α → α} {f' : β → β}
    (same : ∀ a, g (f a) = f' (g a)) (items : List α) (place : ℕ) :
    (items.modify place f).map g = (items.map g).modify place f' := by
  apply List.ext_getElem?
  intro i
  rw [List.getElem?_map, List.getElem?_modify, List.getElem?_modify, List.getElem?_map]
  cases items[i]? with
  | none => rfl
  | some a =>
    by_cases here : place = i
    · simp [here, same]
    · simp [here]

theorem modify_last {α : Type*} (front : List α) (last : α) (f : α → α) :
    (front ++ [last]).modify front.length f = front ++ [f last] := by
  induction front with
  | nil => rfl
  | cons first front ih =>
    rw [List.cons_append, List.length_cons, List.modify_succ_cons, ih, List.cons_append]

theorem advance_put {reader : Reader} (at_last : AtLast reader) (number : ℕ) (line : Line) :
    AtLast (advance reader number line) ∧
      contents (advance reader number line).document = put (contents reader.document) line := by
  cases line with
  | header name =>
    constructor
    · unfold AtLast advance appendSection
      simp
    · unfold contents put advance appendSection
      rw [List.map_append]
      rfl
  | entry key value =>
    unfold AtLast at at_last
    by_cases bare : reader.document.sections = []
    · rw [if_pos bare] at at_last
      constructor
      · unfold AtLast advance appendEntry
        rw [at_last]
        exact (if_pos bare).symm
      · unfold contents put advance appendEntry
        rw [at_last, bare]
        unfold entriesOf IniSection.appendEntry
        dsimp only
        rw [List.map_append]
        rfl
    · rw [if_neg bare] at at_last
      constructor
      · unfold AtLast advance appendEntry
        rw [at_last]
        simp [bare]
      · unfold contents put advance appendEntry
        rw [at_last]
        dsimp only
        rw [if_neg (by simpa using bare), List.length_map]
        congr 1
        exact map_modify (fun found => sectionOf_append found key value number) _ _
  | filler text => exact ⟨at_last, rfl⟩

theorem advanceAll_put {reader : Reader} (at_last : AtLast reader) (lines : List Line) :
    contents (advanceAll reader lines).document = lines.foldl put (contents reader.document) := by
  induction lines generalizing reader with
  | nil => rfl
  | cons line lines ih =>
    obtain ⟨kept, step⟩ := advance_put at_last (reader.lineNumber + 1) line
    rw [advanceAll, ih kept, step, List.foldl_cons]

/-- Blank lines and comments change nothing. -/
theorem foldl_items (document : AppConfigLoad.IniDocument) (lines : List Line) :
    lines.foldl put document = (lines.filter Line.isItem).foldl put document := by
  induction lines generalizing document with
  | nil => rfl
  | cons line lines ih =>
    cases line with
    | header name => exact ih _
    | entry key value => exact ih _
    | filler text => exact ih document

theorem foldl_globals (front entries : List AppConfigLoad.IniEntry) :
    (entries.map fun entry => Line.entry entry.key entry.value).foldl put ⟨front, []⟩ =
      ⟨front ++ entries, []⟩ := by
  induction entries generalizing front with
  | nil => rw [List.append_nil]; rfl
  | cons entry entries ih =>
    have step := ih (front ++ [entry])
    rw [List.append_assoc, List.singleton_append] at step
    exact step

theorem put_last (globals : List AppConfigLoad.IniEntry) (front : List AppConfigLoad.IniSection)
    (name : CString) (old : List AppConfigLoad.IniEntry) (entry : AppConfigLoad.IniEntry) :
    put ⟨globals, front ++ [⟨name, old⟩]⟩ (.entry entry.key entry.value) =
      ⟨globals, front ++ [⟨name, old ++ [entry]⟩]⟩ := by
  have place : (front ++ [(⟨name, old⟩ : AppConfigLoad.IniSection)]).length - 1 = front.length := by
    simp
  unfold put
  dsimp only
  rw [if_neg (by simp), place, modify_last]

theorem foldl_section (globals : List AppConfigLoad.IniEntry)
    (front : List AppConfigLoad.IniSection) (name : CString)
    (old entries : List AppConfigLoad.IniEntry) :
    (entries.map fun entry => Line.entry entry.key entry.value).foldl put
        ⟨globals, front ++ [⟨name, old⟩]⟩ = ⟨globals, front ++ [⟨name, old ++ entries⟩]⟩ := by
  induction entries generalizing old with
  | nil => rw [List.append_nil]; rfl
  | cons entry entries ih =>
    have step := ih (old ++ [entry])
    rw [List.append_assoc, List.singleton_append] at step
    rw [List.map_cons, List.foldl_cons, put_last, step]

theorem foldl_sections (globals : List AppConfigLoad.IniEntry)
    (front sections : List AppConfigLoad.IniSection) :
    (sections.flatMap sectionLines).foldl put ⟨globals, front⟩ = ⟨globals, front ++ sections⟩ := by
  induction sections generalizing front with
  | nil => rw [List.append_nil]; rfl
  | cons found sections ih =>
    have header : put ⟨globals, front⟩ (.header found.name) =
        ⟨globals, front ++ [⟨found.name, []⟩]⟩ := rfl
    rw [List.flatMap_cons, List.foldl_append, sectionLines, List.foldl_cons, header,
      foldl_section, List.nil_append, ih, List.append_assoc, List.singleton_append]

theorem foldl_itemLines (document : AppConfigLoad.IniDocument) :
    (itemLines document).foldl put ⟨[], []⟩ = document := by
  unfold itemLines
  rw [List.foldl_append, foldl_globals, foldl_sections, List.nil_append, List.nil_append]

theorem contents_written {document : AppConfigLoad.IniDocument} {lines : List Line}
    (written : Written document lines) :
    contents (advanceAll start lines).document = document := by
  have at_last : AtLast start := rfl
  rw [advanceAll_put at_last, foldl_items, written.items]
  exact foldl_itemLines document

theorem readStream_written {document : AppConfigLoad.IniDocument} {marked final : Bool}
    {lines : List Line} (written : Written document lines)
    (short : ∀ text ∈ physical marked lines, text.length ≤ 4094)
    (clear : marked = false → ¬ BOM <+: render marked final lines) :
    ∃ found, readStream (render marked final lines) = .ok found ∧ contents found = document :=
  ⟨_, read_render written.wellFormed short clear, contents_written written⟩

/-- The reader as the loader of configurations sees it. -/
def readIni (disk : CString → Option Bytes) (path : CString) : Option AppConfigLoad.IniDocument :=
  (readFile disk (some path)).toOption.map contents

/-- Loading a written configuration is taking in its document. -/
theorem loadDetached_written {files : AppConfigLoad.Files} {disk : CString → Option Bytes}
    (reads : files.readIni = readIni disk) {path : CString} (named : path ≠ [])
    {document : AppConfigLoad.IniDocument} {marked final : Bool} {lines : List Line}
    (written : Written document lines)
    (short : ∀ text ∈ physical marked lines, text.length ≤ 4094)
    (clear : marked = false → ¬ BOM <+: render marked final lines)
    (there : disk path = some (render marked final lines)) :
    AppConfigLoad.loadDetached files path =
      (AppConfigLoad.consumeDocument files document).bind (AppConfigLoad.loadKeys files) := by
  obtain ⟨found, read, same⟩ := readStream_written written short clear
  have one : files.readIni path = some document := by
    rw [reads]
    unfold readIni readFile
    dsimp only
    rw [there]
    dsimp only
    rw [read, ← same]
    rfl
  unfold AppConfigLoad.loadDetached
  rw [if_neg named, one]
  rfl

end contents

section long

variable {before : List CString}

theorem consume_number {reader next : Reader} {number : ℕ} {trimmed : CString}
    (read : consume reader number trimmed = .ok next) : next.lineNumber = number := by
  unfold consume at read
  split at read
  · cases read; rfl
  split at read
  · cases read; rfl
  split at read
  · split at read
    · cases read
    · cases read; rfl
  split at read
  · cases read
  split at read
  · cases read
  · cases read; rfl

theorem fold_number {chunks : List (Bytes × Bool)} {reader next : Reader}
    (read : chunks.foldlM readLine reader = .ok next) :
    next.lineNumber = reader.lineNumber + chunks.length := by
  induction chunks generalizing reader with
  | nil =>
    cases read
    rfl
  | cons chunk chunks ih =>
    rw [List.foldlM_cons] at read
    cases one : readLine reader chunk with
    | error error =>
      rw [one] at read
      cases read
    | ok middle =>
      rw [one] at read
      have step : middle.lineNumber = reader.lineNumber + 1 := by
        unfold readLine at one
        dsimp only at one
        split at one
        · cases one
        · exact consume_number one
      rw [ih read, step, List.length_cons]
      omega

theorem pieces_length (lines : List CString) :
    (pieces 10 true lines).length = lines.length := by
  induction lines with
  | nil => rfl
  | cons line lines ih =>
    cases lines with
    | nil => rfl
    | cons next more =>
      rw [pieces, List.length_cons, ih]
      rfl

theorem readLine_full (reader : Reader) {chunk : Bytes} (noNewline : 10 ∉ chunk) :
    readLine reader (chunk, false) = .error (exceeds (reader.lineNumber + 1)) :=
  if_pos ⟨fun inside => noNewline ((List.takeWhile_prefix _).subset inside), rfl⟩

theorem read_before (clean : ∀ line ∈ before, 10 ∉ line)
    (short : ∀ line ∈ before, line.length ≤ 4094) (rest : Bytes) :
    readPieces 10 INI_LINE_BUFFER_SIZE [] (joined 10 true before ++ rest) =
      pieces 10 true before ++ readPieces 10 INI_LINE_BUFFER_SIZE [] rest := by
  refine readPieces_append before (fun line member => ⟨clean line member, ?_⟩) rest
  have fits := short line member
  unfold INI_LINE_BUFFER_SIZE
  omega

theorem first_piece {long : CString} (more : List CString) (clean : 10 ∉ long)
    (tooLong : 4094 < long.length) : ∃ chunks,
    readPieces 10 INI_LINE_BUFFER_SIZE [] (joined 10 false (long :: more)) =
      (long.take 4095, false) :: chunks := by
  obtain ⟨tail, whole⟩ := @joined_begins _ 10 false long more
  have full : (long.take 4095).length = 4095 := by rw [List.length_take]; omega
  have size : ([] : Bytes).length + (long.take 4095).length + 1 = INI_LINE_BUFFER_SIZE := by
    rw [full]
    rfl
  have nonempty : long.take 4095 ≠ [] := List.ne_nil_of_length_pos (by omega)
  have chunk := readPieces_full (long.take 4095) (fun inside => clean (List.mem_of_mem_take inside))
    nonempty [] (long.drop 4095 ++ tail) size
  rw [← List.append_assoc, List.take_append_drop, whole] at chunk
  exact ⟨_, chunk⟩

theorem readStream_long {long : CString} {more : List CString}
    (clean : ∀ line ∈ before ++ long :: more, 10 ∉ line)
    (short : ∀ line ∈ before, line.length ≤ 4094) (tooLong : 4094 < long.length) :
    ∃ error, readStream (joined 10 false (before ++ long :: more)) = .error error ∧
      (error = exceeds (before.length + 1) ∨
        readStream (joined 10 true before) = .error error) := by
  have cleanBefore : ∀ line ∈ before, 10 ∉ line := fun line member =>
    clean line (List.mem_append_left _ member)
  have alone := read_before cleanBefore short []
  obtain ⟨chunks, chunk⟩ := first_piece more
    (clean long (List.mem_append_right _ List.mem_cons_self)) tooLong
  rw [List.append_nil, readPieces, if_pos rfl, List.append_nil] at alone
  unfold readStream
  rw [joined_append, read_before cleanBefore short, chunk, List.foldlM_append, alone]
  cases front : (pieces 10 true before).foldlM readLine start with
  | error error => exact ⟨error, rfl, .inr rfl⟩
  | ok reader =>
    have number := fold_number front
    rw [pieces_length] at number
    have noNewline : 10 ∉ long.take 4095 := fun inside =>
      clean long (List.mem_append_right _ List.mem_cons_self) (List.mem_of_mem_take inside)
    have full := readLine_full reader noNewline
    refine ⟨exceeds (reader.lineNumber + 1), ?_, .inl ?_⟩
    · change (((long.take 4095, false) :: chunks).foldlM readLine reader).map Reader.document = _
      rw [List.foldlM_cons, full]
      rfl
    · rw [number]
      change exceeds (0 + before.length + 1) = _
      rw [Nat.zero_add]

theorem first_long {lines : List CString} (some_long : ∃ line ∈ lines, 4094 < line.length) :
    ∃ before long more, lines = before ++ long :: more ∧
      (∀ line ∈ before, line.length ≤ 4094) ∧ 4094 < long.length := by
  induction lines with
  | nil =>
    obtain ⟨line, member, -⟩ := some_long
    cases member
  | cons line lines ih =>
    by_cases tooLong : 4094 < line.length
    · exact ⟨[], line, lines, rfl, List.forall_mem_nil _, tooLong⟩
    · obtain ⟨other, member, long⟩ := some_long
      rcases List.mem_cons.mp member with rfl | later
      · exact absurd long tooLong
      obtain ⟨before, found, more, rfl, short, exceeds⟩ := ih ⟨other, later, long⟩
      have whole : ∀ l ∈ line :: before, l.length ≤ 4094 :=
        List.forall_mem_cons.mpr ⟨Nat.le_of_not_lt tooLong, short⟩
      exact ⟨line :: before, found, more, rfl, whole, exceeds⟩

/-- Reading gives back the document that a file was written from, whatever blank lines and
    comments it has, and a line that does not fit is an error. -/
theorem readFile_inverts {files : CString → Option Bytes} {path : CString} {file : Bytes}
    (there : files path = some file) :
    (∀ document lines marked final, Written document lines →
      (∀ text ∈ physical marked lines, text.length ≤ 4094) →
      (marked = false → ¬ BOM <+: file) → file = render marked final lines →
        ∃ found, readFile files (some path) = .ok found ∧ contents found = document) ∧
    ((∃ line ∈ file.splitOn 10, 4094 < line.length) →
      ∃ before long more error, file.splitOn 10 = before ++ long :: more ∧
        (∀ line ∈ before, line.length ≤ 4094) ∧ 4094 < long.length ∧
        readFile files (some path) = .error error ∧
        (error = exceeds (before.length + 1) ∨
          readStream (joined 10 true before) = .error error)) := by
  have opened : readFile files (some path) = readStream file := by
    unfold readFile
    dsimp only
    rw [there]
  rw [opened]
  constructor
  · rintro document lines marked final written short clear rfl
    exact readStream_written written short clear
  · intro some_long
    obtain ⟨before, long, more, cut, short, tooLong⟩ := first_long some_long
    have clean : ∀ line ∈ file.splitOn 10, 10 ∉ line := not_mem_splitOn file
    rw [cut] at clean
    obtain ⟨error, failed, which⟩ := readStream_long clean short tooLong
    rw [← cut, joined_splitOn] at failed
    exact ⟨before, long, more, error, cut, short, tooLong, failed, which⟩

def sampleLines : List Line :=
  [.filler [59, 99], .entry [97] [49, 61, 93], .filler [32, 9], .header [120, 93],
    .entry [98, 32, 98] []]

def sample : AppConfigLoad.IniDocument :=
  ⟨[⟨[97], [49, 61, 93]⟩], [⟨[120, 93], [⟨[98, 32, 98], []⟩]⟩]⟩

theorem readFile_inverts_sample :
    (∃ found, readFile (fun _ => some (render true false sampleLines)) (some [47]) = .ok found ∧
      contents found = sample) ∧
    ∃ error, readFile (fun _ => some (List.replicate 4095 120)) (some [47]) = .error error := by
  constructor
  · exact (@readFile_inverts (fun _ => some (render true false sampleLines)) [47] _ rfl).1
      sample sampleLines true false ⟨by decide, by decide +kernel⟩ (by decide)
      (fun h => absurd h (by decide)) rfl
  · have one : (List.replicate 4095 (120 : UInt8)).splitOn 10 = [List.replicate 4095 120] :=
      List.splitOn_eq_singleton fun member => by
        have same := List.eq_of_mem_replicate member
        revert same
        decide
    have tooLong : 4094 < (List.replicate 4095 (120 : UInt8)).length := by
      rw [List.length_replicate]
      decide
    obtain ⟨-, -, -, error, -, -, -, failed, -⟩ :=
      (@readFile_inverts (fun _ => some (List.replicate 4095 120)) [47] _ rfl).2
        ⟨_, by rw [one]; exact List.mem_singleton_self _, tooLong⟩
    exact ⟨error, failed⟩

/-- A first key with the bytes of a mark loses them where the file has no mark of its own. -/
theorem markedKey_cut :
    ¬ ∀ document lines marked final, Written document lines →
      (∀ text ∈ physical marked lines, text.length ≤ 4094) →
        ∃ found, readFile (fun _ => some (render marked final lines)) (some [47]) = .ok found ∧
          contents found = document := by
  intro all
  obtain ⟨found, read, same⟩ := all ⟨[⟨BOM ++ [97], [49]⟩], []⟩ [.entry (BOM ++ [97]) [49]]
    false true ⟨by decide, by decide +kernel⟩ (by decide)
  cases read
  have keys := congrArg (fun document => document.globals.map (·.key)) same
  revert keys
  decide

end long

end Siglatch.ParseIniRender
