import Siglatch.AppBuiltin
import Siglatch.NetIpSpec

set_option autoImplicit false

namespace Siglatch.AppBindTarget
open MuxTypes NetIpRange LibStr NetIpSpec AppBuiltin

/-! Which payloads ask for a binding, and those that are read otherwise. -/

/-- What `inet_pton` says of the texts it takes for addresses of version 6. -/
structure Ipv6Texts (isIpv6 : CString → Bool) : Prop where
  chars : ∀ text, isIpv6 text = true → ∀ c ∈ text,
    isDigit c = true ∨ (65 ≤ c.toNat ∧ c.toNat ≤ 70) ∨ (97 ≤ c.toNat ∧ c.toNat ≤ 102) ∨
      c = 58 ∨ c = 46
  colon : ∀ text, isIpv6 text = true → 58 ∈ text
  short : ∀ text, isIpv6 text = true → text.length < 46

def IpLiteral (isIpv6 : CString → Bool) (text : CString) : Prop :=
  (∃ addr, Quad text addr) ∨ isIpv6 text = true

def PortDigits (text : CString) (port : ℕ) : Prop :=
  Digits text ∧ decimal text = port ∧ 1 ≤ port ∧ port ≤ 65535

/-- A port that `strtoul` reads from other texts: behind blanks or a plus sign, or from a number
    that wraps around below a minus sign. -/
def LoosePort (text : CString) (port : ℕ) : Prop :=
  ∃ blanks sign digits, text = blanks ++ (sign ++ digits) ∧ (∀ c ∈ blanks, isSpace c = true) ∧
    Digits digits ∧
    (sign = [] ∧ blanks ≠ [] ∧ decimal digits = port ∨ sign = [43] ∧ decimal digits = port ∨
      sign = [45] ∧ decimal digits + port = 2 ^ 64) ∧ 1 ≤ port ∧ port ≤ 65535

def bracketed (host port : CString) : CString := 91 :: (host ++ 93 :: 58 :: port)

/-- The trimmed texts that ask for a binding. -/
inductive Requests (isIpv6 : CString → Bool) : CString → BindTarget → Prop
  | nothing : Requests isIpv6 [] ⟨none, none⟩
  | port {text : CString} {port : ℕ} : PortDigits text port → Requests isIpv6 text ⟨none, some port⟩
  | ip {text : CString} : IpLiteral isIpv6 text → Requests isIpv6 text ⟨some text, none⟩
  | both {host text : CString} {port : ℕ} : IpLiteral isIpv6 host → PortDigits text port →
    Requests isIpv6 (bracketed host text) ⟨some host, some port⟩

def Loosely (isIpv6 : CString → Bool) (text : CString) (target : BindTarget) : Prop :=
  ∃ host port n, text = bracketed host port ∧ IpLiteral isIpv6 host ∧ LoosePort port n ∧
    target = ⟨some host, some (n : ℤ)⟩

/-- The parser takes a payload for what it asks for, and nothing else. -/
def Meant (isIpv6 : CString → Bool) (payload : Bytes) : Prop :=
  ∀ target, parseBindTarget isIpv6 payload = some target ↔ Requests isIpv6 (trim payload) target

section ports

variable {text : CString} {port : ℕ}

theorem loosePort_not_digits (loose : LoosePort text port) : ¬ Digits text := by
  rintro ⟨-, all⟩
  obtain ⟨blanks, sign, digits, rfl, blank, -, reads, -⟩ := loose
  rcases reads with ⟨-, bare, -⟩ | ⟨rfl, -⟩ | ⟨rfl, -⟩
  · obtain ⟨c, rest, rfl⟩ := List.exists_cons_of_ne_nil bare
    have space := blank c List.mem_cons_self
    rw [(isDigit_not_space (all c (by simp))).1] at space
    cases space
  · exact (isDigit_not_space (all 43 (by simp))).2.1 rfl
  · exact (isDigit_not_space (all 45 (by simp))).2.2.1 rfl

theorem in_range {magnitude value : ℕ}
    (range : ¬ ((if ULONG_MAX < magnitude then ULONG_MAX else value) = 0 ∨
      65535 < if ULONG_MAX < magnitude then ULONG_MAX else value)) : ¬ ULONG_MAX < magnitude := by
  intro big
  rw [if_pos big] at range
  exact range (.inr (by decide))

theorem parsePortText_reads {found : ℤ} (parsed : parsePortText text = some found) :
    ∃ port : ℕ, found = port ∧ (PortDigits text port ∨ LoosePort text port) := by
  have limit : ULONG_MAX = 2 ^ 64 - 1 := rfl
  have plain : ¬ ([] : CString) = [45] := by decide
  have plus : ¬ ([43] : CString) = [45] := by decide
  unfold parsePortText at parsed
  dsimp only at parsed
  split at parsed
  · cases parsed
  rename_i nonempty
  split at parsed
  · cases parsed
  rename_i whole
  split at parsed
  · cases parsed
  rename_i range
  refine ⟨(strtoul text).1, (Option.some.inj parsed).symm, ?_⟩
  rcases strtoul_whole (not_not.mp whole) with rfl |
    ⟨blanks, sign, digits, rfl, blank, signed, shown⟩
  · exact absurd rfl nonempty
  rw [strtoul_parts blank signed shown] at range ⊢
  dsimp only at range ⊢
  rcases signed with rfl | rfl | rfl
  · rw [if_neg plain] at range ⊢
    have small := in_range range
    rw [if_neg small] at range ⊢
    by_cases bare : blanks = []
    · rw [bare]
      exact .inl ⟨shown, rfl, by omega⟩
    · exact .inr ⟨blanks, [], digits, rfl, blank, shown, .inl ⟨rfl, bare, rfl⟩, by omega⟩
  · rw [if_neg plus] at range ⊢
    have small := in_range range
    rw [if_neg small] at range ⊢
    exact .inr ⟨blanks, [43], digits, rfl, blank, shown, .inr (.inl ⟨rfl, rfl⟩), by omega⟩
  · rw [if_pos rfl] at range ⊢
    have small := in_range range
    rw [if_neg small] at range ⊢
    exact .inr ⟨blanks, [45], digits, rfl, blank, shown, .inr (.inr ⟨rfl, by omega⟩), by omega⟩

theorem parsePortText_digits {port : ℕ} (digits : PortDigits text port) :
    parsePortText text = some (port : ℤ) := by
  have limit : ULONG_MAX = 2 ^ 64 - 1 := rfl
  obtain ⟨shown, rfl, low, high⟩ := digits
  unfold parsePortText
  dsimp only
  rw [if_neg shown.1, strtoul_digits shown]
  dsimp only
  rw [if_neg (by simp), if_neg (show ¬ ULONG_MAX < decimal text by omega), if_neg (by omega)]

theorem parsePortText_loose {port : ℕ} (loose : LoosePort text port) :
    parsePortText text = some (port : ℤ) := by
  have limit : ULONG_MAX = 2 ^ 64 - 1 := rfl
  have plain : ¬ ([] : CString) = [45] := by decide
  have plus : ¬ ([43] : CString) = [45] := by decide
  obtain ⟨blanks, sign, digits, rfl, blank, shown, reads, low, high⟩ := loose
  have signed : sign = [] ∨ sign = [43] ∨ sign = [45] :=
    reads.imp And.left (Or.imp And.left And.left)
  have nonempty : blanks ++ (sign ++ digits) ≠ [] := by
    intro empty
    exact shown.1 (List.append_eq_nil_iff.mp (List.append_eq_nil_iff.mp empty).2).2
  unfold parsePortText
  dsimp only
  rw [if_neg nonempty, strtoul_parts blank signed shown]
  dsimp only
  rw [if_neg (by simp)]
  rcases reads with ⟨rfl, -, rfl⟩ | ⟨rfl, rfl⟩ | ⟨rfl, sum⟩
  · rw [if_neg (show ¬ ULONG_MAX < decimal digits by omega), if_neg plain, if_neg (by omega)]
  · rw [if_neg (show ¬ ULONG_MAX < decimal digits by omega), if_neg plus, if_neg (by omega)]
  · have value : (2 ^ 64 - decimal digits) % 2 ^ 64 = port := by omega
    rw [if_neg (show ¬ ULONG_MAX < decimal digits by omega), if_pos rfl, value,
      if_neg (by omega)]

theorem parsePortText_iff {found : ℤ} : parsePortText text = some found ↔
    ∃ port : ℕ, found = port ∧ (PortDigits text port ∨ LoosePort text port) := by
  constructor
  · exact parsePortText_reads
  · rintro ⟨port, rfl, digits | loose⟩
    · exact parsePortText_digits digits
    · exact parsePortText_loose loose

end ports

section literals

variable {isIpv6 : CString → Bool} {text host port host' port' : CString} {target : BindTarget}

theorem isIpLiteral_iff (texts : Ipv6Texts isIpv6) :
    isIpLiteral isIpv6 text = true ↔ IpLiteral isIpv6 text := by
  unfold isIpLiteral IpLiteral
  rw [Bool.and_eq_true, Bool.or_eq_true, bne_iff_ne, Option.isSome_iff_exists]
  constructor
  · rintro ⟨-, ⟨addr, parsed⟩ | six⟩
    · exact .inl ⟨addr, parseIpv4Literal_iff.mp parsed⟩
    · exact .inr six
  · rintro (⟨addr, quad⟩ | six)
    · exact ⟨(quad_length quad).2, .inl ⟨addr, parseIpv4Literal_iff.mpr quad⟩⟩
    · refine ⟨?_, .inr six⟩
      rintro rfl
      exact List.not_mem_nil (texts.colon [] six)

theorem literal_length (texts : Ipv6Texts isIpv6) (literal : IpLiteral isIpv6 text) :
    text ≠ [] ∧ text.length < 46 := by
  rcases literal with ⟨addr, quad⟩ | six
  · obtain ⟨short, nonempty⟩ := quad_length quad
    exact ⟨nonempty, by omega⟩
  · refine ⟨?_, texts.short text six⟩
    rintro rfl
    exact List.not_mem_nil (texts.colon [] six)

theorem literal_clean (texts : Ipv6Texts isIpv6) (literal : IpLiteral isIpv6 text) :
    91 ∉ text ∧ 93 ∉ text ∧ 0 ∉ text := by
  have char : ∀ c ∈ text, c ≠ 91 ∧ c ≠ 93 ∧ c ≠ 0 := by
    have value {c : UInt8} (range : 46 ≤ c.toNat ∧ c.toNat ≤ 58 ∨ 65 ≤ c.toNat ∧ c.toNat ≤ 70 ∨
        97 ≤ c.toNat) : c ≠ 91 ∧ c ≠ 93 ∧ c ≠ 0 := by
      refine ⟨?_, ?_, ?_⟩
      · rintro rfl
        revert range
        decide
      · rintro rfl
        revert range
        decide
      · rintro rfl
        revert range
        decide
    intro c member
    apply value
    rcases literal with ⟨addr, quad⟩ | six
    · rcases quad_chars quad c member with digit | rfl
      · have bounds := isDigit_iff.mp digit
        omega
      · exact .inl (by decide)
    · rcases texts.chars text six c member with digit | upper | lower | rfl | rfl
      · have bounds := isDigit_iff.mp digit
        omega
      · omega
      · omega
      · exact .inl (by decide)
      · exact .inl (by decide)
  exact ⟨fun member => (char 91 member).1 rfl, fun member => (char 93 member).2.1 rfl,
    fun member => (char 0 member).2.2 rfl⟩

theorem literal_not_digits (texts : Ipv6Texts isIpv6) (literal : IpLiteral isIpv6 text) :
    ¬ Digits text := by
  rintro ⟨-, all⟩
  rcases literal with ⟨addr, a, b, c, d, -, rfl, -⟩ | six
  · have dot := all 46 (List.mem_append_right _ List.mem_cons_self)
    revert dot
    decide
  · have colon := all 58 (texts.colon text six)
    revert colon
    decide

theorem isAllDigits_iff : isAllDigits text = true ↔ Digits text := by
  unfold isAllDigits Digits
  rw [Bool.and_eq_true, bne_iff_ne, List.all_eq_true]

theorem bracket_split (clean : 93 ∉ host) :
    (host ++ 93 :: 58 :: port).takeWhile (· ≠ 93) = host ∧
      (host ++ 93 :: 58 :: port).dropWhile (· ≠ 93) = 93 :: 58 :: port := by
  have plain : ∀ c ∈ host, decide (c ≠ 93) = true := fun c member =>
    decide_eq_true fun same => clean (same ▸ member)
  constructor
  · rw [List.takeWhile_append_of_pos plain, List.takeWhile_cons_of_neg (by decide),
      List.append_nil]
  · rw [List.dropWhile_append_of_pos plain, List.dropWhile_cons_of_neg (by decide)]

theorem bracketed_unique (clean : 93 ∉ host) (clean' : 93 ∉ host')
    (same : bracketed host port = bracketed host' port') : host = host' ∧ port = port' := by
  have inner := (List.cons.inj same).2
  obtain ⟨front, back⟩ := @bracket_split host port clean
  obtain ⟨front', back'⟩ := @bracket_split host' port' clean'
  rw [inner, front'] at front
  rw [inner, back'] at back
  refine ⟨front.symm, ?_⟩
  exact (List.cons.inj (List.cons.inj back).2).2.symm

theorem lcpy_short (texts : Ipv6Texts isIpv6) (literal : IpLiteral isIpv6 text) :
    lcpy text MAX_IP_RANGE_LEN = text := by
  have short := (literal_length texts literal).2
  unfold lcpy MAX_IP_RANGE_LEN
  exact List.take_of_length_le (by omega)

theorem loosely_not_requests (texts : Ipv6Texts isIpv6) {other : BindTarget}
    (loosely : Loosely isIpv6 text target) : ¬ Requests isIpv6 text other := by
  obtain ⟨host, port, n, whole, literal, loose, -⟩ := loosely
  have bracket : 91 ∈ text := whole ▸ List.mem_cons_self
  intro requests
  cases requests with
  | nothing => cases whole
  | port digits =>
    have digit := digits.1.2 91 bracket
    revert digit
    decide
  | ip single => exact (literal_clean texts single).1 bracket
  | both single digits =>
    obtain ⟨-, rfl⟩ := bracketed_unique (literal_clean texts single).2.1
      (literal_clean texts literal).2.1 whole
    exact loosePort_not_digits loose digits.1

theorem requests_clean (texts : Ipv6Texts isIpv6) (requests : Requests isIpv6 text target) :
    0 ∉ text := by
  have digits_clean {text : CString} (digits : Digits text) : 0 ∉ text := by
    intro member
    have digit := digits.2 0 member
    revert digit
    decide
  cases requests with
  | nothing => exact List.not_mem_nil
  | port digits => exact digits_clean digits.1
  | ip single => exact (literal_clean texts single).2.2
  | both single digits =>
    have host := (literal_clean texts single).2.2
    have port := digits_clean digits.1
    simp [bracketed, host, port]

end literals

section targets

variable {isIpv6 : CString → Bool} {text : CString} {target : BindTarget}

/-- What `app_builtin_parse_bind_target` makes of the text that it has trimmed. -/
def readTarget (isIpv6 : CString → Bool) (text : CString) : Option BindTarget :=
  if text = [] then some ⟨none, none⟩
  else if text.head? = some 91 then
    let host := text.tail.takeWhile (· ≠ 93)
    let close := text.tail.dropWhile (· ≠ 93)
    if host = [] ∨ close.take 2 ≠ [93, 58] then none
    else if MAX_IP_RANGE_LEN ≤ host.length then none
    else if !isIpLiteral isIpv6 host then none
    else (parsePortText (close.drop 2)).map fun port =>
      ⟨some (lcpy host MAX_IP_RANGE_LEN), some port⟩
  else if isAllDigits text then (parsePortText text).map fun port => ⟨none, some port⟩
  else if isIpLiteral isIpv6 text then some ⟨some (lcpy text MAX_IP_RANGE_LEN), none⟩
  else none

theorem parse_read {payload : Bytes} (short : payload.length < 128) :
    parseBindTarget isIpv6 payload = readTarget isIpv6 (trim (cString payload)) := by
  unfold parseBindTarget
  split
  · rename_i empty
    rw [List.length_eq_zero_iff.mp empty]
    rfl
  · rw [if_neg (by omega)]
    rfl

theorem read_bracketed (texts : Ipv6Texts isIpv6) {host port : CString}
    (literal : IpLiteral isIpv6 host) : readTarget isIpv6 (bracketed host port) =
      (parsePortText port).map fun port => ⟨some host, some port⟩ := by
  obtain ⟨nonempty, short⟩ := literal_length texts literal
  obtain ⟨front, back⟩ := @bracket_split host port (literal_clean texts literal).2.1
  have room : ¬ MAX_IP_RANGE_LEN ≤ host.length := by
    unfold MAX_IP_RANGE_LEN
    omega
  unfold readTarget bracketed
  rw [if_neg (List.cons_ne_nil _ _), List.head?_cons, if_pos rfl, List.tail_cons]
  dsimp only
  rw [front, back, if_neg (by simp [nonempty]), if_neg room,
    (isIpLiteral_iff texts).mpr literal, lcpy_short texts literal]
  rfl

theorem bracketed_shape (bracket : text.head? = some 91)
    (close : (text.tail.dropWhile (· ≠ 93)).take 2 = [93, 58]) :
    text = bracketed (text.tail.takeWhile (· ≠ 93)) ((text.tail.dropWhile (· ≠ 93)).drop 2) := by
  obtain ⟨rest, whole⟩ := List.head?_eq_some_iff.mp bracket
  have behind := @List.take_append_drop _ 2 (text.tail.dropWhile (· ≠ 93))
  rw [close] at behind
  have split : text.tail.takeWhile (· ≠ 93) ++ text.tail.dropWhile (· ≠ 93) = text.tail :=
    List.takeWhile_append_dropWhile
  rw [← behind] at split
  have tail : text = 91 :: text.tail := by rw [whole, List.tail_cons]
  exact tail.trans (congrArg (List.cons 91) split.symm)

theorem read_sound (texts : Ipv6Texts isIpv6) (read : readTarget isIpv6 text = some target) :
    Requests isIpv6 text target ∨ Loosely isIpv6 text target := by
  unfold readTarget at read
  dsimp only at read
  split at read
  · rename_i empty
    cases read
    rw [empty]
    exact .inl .nothing
  split at read
  · rename_i bracket
    split at read
    · cases read
    rename_i closed
    split at read
    · cases read
    split at read
    · cases read
    rename_i address
    obtain ⟨found, parsed, made⟩ := Option.map_eq_some_iff.mp read
    have literal : IpLiteral isIpv6 (text.tail.takeWhile (· ≠ 93)) :=
      (isIpLiteral_iff texts).mp (by simpa using address)
    have close : (text.tail.dropWhile (· ≠ 93)).take 2 = [93, 58] :=
      not_not.mp (not_or.mp closed).2
    have shape := bracketed_shape bracket close
    rw [lcpy_short texts literal] at made
    obtain ⟨port, rfl, digits | loose⟩ := parsePortText_iff.mp parsed
    · have both := Requests.both literal digits
      rw [← shape, made] at both
      exact .inl both
    · exact .inr ⟨_, _, port, shape, literal, loose, made.symm⟩
  split at read
  · rename_i all
    obtain ⟨found, parsed, rfl⟩ := Option.map_eq_some_iff.mp read
    obtain ⟨port, rfl, digits | loose⟩ := parsePortText_iff.mp parsed
    · exact .inl (.port digits)
    · exact absurd (isAllDigits_iff.mp all) (loosePort_not_digits loose)
  split at read
  · rename_i address
    have literal := (isIpLiteral_iff texts).mp address
    rw [lcpy_short texts literal] at read
    cases read
    exact .inl (.ip literal)
  · cases read

theorem read_complete (texts : Ipv6Texts isIpv6)
    (asked : Requests isIpv6 text target ∨ Loosely isIpv6 text target) :
    readTarget isIpv6 text = some target := by
  have head {c : UInt8} (absent : 91 ∉ text) : text.head? ≠ some 91 := fun first =>
    absent (List.mem_of_mem_head? first)
  rcases asked with requests | ⟨host, port, n, rfl, literal, loose, rfl⟩
  · cases requests with
    | nothing => rfl
    | @port _ port digits =>
      have absent : 91 ∉ text := by
        intro member
        have digit := digits.1.2 91 member
        revert digit
        decide
      unfold readTarget
      rw [if_neg digits.1.1, if_neg (@head 0 absent), if_pos (isAllDigits_iff.mpr digits.1),
        parsePortText_iff.mpr ⟨port, rfl, .inl digits⟩]
      rfl
    | ip literal =>
      have none : ¬ isAllDigits text = true := fun all =>
        literal_not_digits texts literal (isAllDigits_iff.mp all)
      unfold readTarget
      rw [if_neg (literal_length texts literal).1, if_neg (@head 0 (literal_clean texts literal).1),
        if_neg none, if_pos ((isIpLiteral_iff texts).mpr literal), lcpy_short texts literal]
    | @both _ _ port literal digits =>
      rw [read_bracketed texts literal, parsePortText_iff.mpr ⟨port, rfl, .inl digits⟩]
      rfl
  · rw [read_bracketed texts literal, parsePortText_iff.mpr ⟨n, rfl, .inr loose⟩]
    rfl

theorem read_iff (texts : Ipv6Texts isIpv6) : readTarget isIpv6 text = some target ↔
    Requests isIpv6 text target ∨ Loosely isIpv6 text target :=
  ⟨read_sound texts, read_complete texts⟩

end targets

section payloads

variable {isIpv6 : CString → Bool} {payload : Bytes}

theorem mem_trim {text : CString} {c : UInt8} (member : c ∈ text) (bare : isSpace c = false) :
    c ∈ trim text := by
  have kept {text : CString} (member : c ∈ text) : c ∈ text.dropWhile isSpace := by
    rw [← @List.takeWhile_append_dropWhile _ isSpace text] at member
    rcases List.mem_append.mp member with front | back
    · rw [List.mem_takeWhile_imp front] at bare
      cases bare
    · exact back
  unfold trim
  exact List.mem_reverse.mpr (kept (List.mem_reverse.mpr (kept member)))

theorem meant_clean (texts : Ipv6Texts isIpv6) (short : payload.length < 128)
    (clean : 0 ∉ payload) :
    Meant isIpv6 payload ↔ ¬ ∃ target, Loosely isIpv6 (trim payload) target := by
  unfold Meant
  rw [parse_read short, cString_clean clean]
  constructor
  · rintro meant ⟨target, loosely⟩
    have read := read_complete texts (.inr loosely)
    exact loosely_not_requests texts loosely ((meant target).mp read)
  · intro strict target
    rw [read_iff texts]
    exact or_iff_left fun loosely => strict ⟨target, loosely⟩

theorem meant_nul (texts : Ipv6Texts isIpv6) (short : payload.length < 128)
    (nul : 0 ∈ payload) :
    Meant isIpv6 payload ↔ ¬ ∃ target, Requests isIpv6 (trim (cString payload)) target ∨
      Loosely isIpv6 (trim (cString payload)) target := by
  have nothing (target : BindTarget) : ¬ Requests isIpv6 (trim payload) target :=
    fun requests => requests_clean texts requests (mem_trim nul rfl)
  unfold Meant
  rw [parse_read short]
  constructor
  · rintro meant ⟨target, asked⟩
    exact nothing target ((meant target).mp (read_complete texts asked))
  · intro refused target
    constructor
    · intro read
      exact absurd ⟨target, read_sound texts read⟩ refused
    · exact fun requests => absurd requests (nothing target)

/-- A payload is taken for what it asks for, unless it has a loose port between the bracketed
    address and its end, or something that is accepted in front of a NUL. -/
theorem bindTarget_meant_iff (texts : Ipv6Texts isIpv6) (short : payload.length < 128) :
    Meant isIpv6 payload ↔
      (0 ∉ payload → ¬ ∃ target, Loosely isIpv6 (trim payload) target) ∧
      (0 ∈ payload → ¬ ∃ target, Requests isIpv6 (trim (cString payload)) target ∨
        Loosely isIpv6 (trim (cString payload)) target) := by
  by_cases nul : 0 ∈ payload
  · rw [meant_nul texts short nul]
    exact ⟨fun refused => ⟨fun clean => absurd nul clean, fun _ => refused⟩,
      fun both => both.2 nul⟩
  · rw [meant_clean texts short nul]
    exact ⟨fun strict => ⟨fun _ => strict, fun there => absurd there nul⟩, fun both => both.1 nul⟩

def loopback (text : CString) : Bool := text == [58, 58, 49]

theorem loopback_texts : Ipv6Texts loopback := by
  have only {text : CString} (six : loopback text = true) : text = [58, 58, 49] := by
    simpa [loopback] using six
  refine ⟨?_, ?_, ?_⟩
  · intro text six c member
    rw [only six] at member
    revert c
    decide +kernel
  · intro text six
    rw [only six]
    decide
  · intro text six
    rw [only six]
    decide

theorem bindTarget_meant_port : Meant loopback [32, 56, 48] ↔
    ((0 : UInt8) ∉ [32, 56, 48] → ¬ ∃ target, Loosely loopback (trim [32, 56, 48]) target) ∧
    ((0 : UInt8) ∈ [32, 56, 48] →
      ¬ ∃ target, Requests loopback (trim (cString [32, 56, 48])) target ∨
        Loosely loopback (trim (cString [32, 56, 48])) target) :=
  bindTarget_meant_iff loopback_texts (by decide)

/-- `[1.2.3.4]:+80`, and `80` in front of a NUL and another byte, are accepted. -/
theorem loose_bindTargets :
    ¬ Meant loopback [91, 49, 46, 50, 46, 51, 46, 52, 93, 58, 43, 56, 48] ∧
    ¬ Meant loopback [56, 48, 0, 120] := by
  constructor
  · intro meant
    have requests := (meant ⟨some [49, 46, 50, 46, 51, 46, 52], some 80⟩).mp (by decide)
    have loosely : Loosely loopback [91, 49, 46, 50, 46, 51, 46, 52, 93, 58, 43, 56, 48]
        ⟨some [49, 46, 50, 46, 51, 46, 52], some 80⟩ := by
      refine ⟨[49, 46, 50, 46, 51, 46, 52], [43, 56, 48], 80, rfl, ?_, ?_, rfl⟩
      · exact .inl ⟨16909060, 1, 2, 3, 4, by decide, by decide, by decide⟩
      · exact ⟨[], [43], [56, 48], rfl, by decide +kernel, ⟨by decide, by decide +kernel⟩,
          .inr (.inl ⟨rfl, rfl⟩), by decide⟩
    exact loosely_not_requests loopback_texts loosely requests
  · intro meant
    have requests := (meant ⟨none, some 80⟩).mp (by decide)
    exact requests_clean loopback_texts requests (by decide)

end payloads

end Siglatch.AppBindTarget
