import Siglatch.LibStr
import Mathlib.Data.List.TakeWhile
import Mathlib.Data.Set.Insert

set_option autoImplicit false

namespace Siglatch.NetIpSpec
open MuxTypes NetIpRange LibStr

/-! What an address spec denotes, and the texts that the parser reads otherwise. -/

def digit (d : ℕ) : UInt8 := UInt8.ofNat (48 + d)

def octetText (n : ℕ) : CString :=
  if n < 10 then [digit n] else if n < 100 then [digit (n / 10), digit (n % 10)]
  else [digit (n / 100), digit (n / 10 % 10), digit (n % 10)]

def Quad (text : CString) (addr : UInt32) : Prop :=
  ∃ a b c d : ℕ, (a < 256 ∧ b < 256 ∧ c < 256 ∧ d < 256) ∧
    text = octetText a ++ 46 :: (octetText b ++ 46 :: (octetText c ++ 46 :: octetText d)) ∧
    addr.toNat = ((a * 256 + b) * 256 + c) * 256 + d

section Digits

theorem digit_toNat {d : ℕ} (small : d < 10) : (digit d).toNat = 48 + d := by
  unfold digit
  rw [UInt8.toNat_ofNat']
  omega

theorem isDigit_iff {c : UInt8} : isDigit c = true ↔ 48 ≤ c.toNat ∧ c.toNat ≤ 57 := by
  unfold isDigit
  rw [Bool.and_eq_true, decide_eq_true_iff, decide_eq_true_iff, UInt8.le_iff_toNat_le,
    UInt8.le_iff_toNat_le]
  rfl

theorem isDigit_digit {d : ℕ} (small : d < 10) : isDigit (digit d) = true := by
  rw [isDigit_iff, digit_toNat small]
  omega

theorem digit_of_isDigit {c : UInt8} (shown : isDigit c = true) : ∃ d, d < 10 ∧ c = digit d := by
  obtain ⟨low, high⟩ := isDigit_iff.mp shown
  refine ⟨c.toNat - 48, by omega, UInt8.toNat_inj.mp ?_⟩
  rw [digit_toNat (by omega)]
  omega

end Digits

section Scan

variable {text rest : CString} {done octets : List ℕ} {v d n : ℕ}

theorem scan_digit (small : d < 10) (seen : Bool) :
    inetPtonScan (digit d :: rest) done v seen =
      if seen ∧ v = 0 then none else if 255 < v * 10 + d then none
      else if !seen ∧ 4 < done.length + 1 then none
      else inetPtonScan rest done (v * 10 + d) true := by
  have value : (digit d).toNat - 48 = d := by
    rw [digit_toNat small]
    omega
  rw [inetPtonScan, if_pos (isDigit_digit small), value]

theorem scan_seen_some (scanned : inetPtonScan text done v true = some octets) :
    (text = [] ∧ 3 ≤ done.length ∧ octets = done ++ [v]) ∨
    (∃ rest, text = 46 :: rest ∧ done.length + 1 ≠ 4 ∧
      inetPtonScan rest (done ++ [v]) 0 false = some octets) ∨
    ∃ d rest, d < 10 ∧ text = digit d :: rest ∧ v ≠ 0 ∧ v * 10 + d ≤ 255 ∧
      inetPtonScan rest done (v * 10 + d) true = some octets := by
  cases text with
  | nil =>
    unfold inetPtonScan at scanned
    split at scanned
    · cases scanned
    · rename_i enough
      refine .inl ⟨rfl, ?_, (Option.some.inj scanned).symm⟩
      simp at enough
      omega
  | cons c rest =>
    by_cases shown : isDigit c = true
    · obtain ⟨d, small, rfl⟩ := digit_of_isDigit shown
      rw [scan_digit small] at scanned
      split at scanned
      · cases scanned
      rename_i leading
      split at scanned
      · cases scanned
      rename_i fits
      split at scanned
      · cases scanned
      refine .inr (.inr ⟨d, rest, small, rfl, ?_, by omega, scanned⟩)
      exact fun zero => leading ⟨rfl, zero⟩
    · rw [inetPtonScan, if_neg shown] at scanned
      split at scanned
      · rename_i dot
        split at scanned
        · cases scanned
        · rename_i more
          rw [dot.1]
          exact .inr (.inl ⟨rest, rfl, more, scanned⟩)
      · cases scanned

theorem scan_unseen_some (few : done.length ≤ 3)
    (scanned : inetPtonScan text done 0 false = some octets) :
    ∃ d rest, d < 10 ∧ text = digit d :: rest ∧ inetPtonScan rest done d true = some octets := by
  cases text with
  | nil =>
    unfold inetPtonScan at scanned
    rw [if_pos (by simp; omega)] at scanned
    cases scanned
  | cons c rest =>
    by_cases shown : isDigit c = true
    · obtain ⟨d, small, rfl⟩ := digit_of_isDigit shown
      rw [scan_digit small, if_neg (by simp), if_neg (by omega), if_neg (by simp; omega)] at scanned
      rw [Nat.zero_mul, Nat.zero_add] at scanned
      exact ⟨d, rest, small, rfl, scanned⟩
    · rw [inetPtonScan, if_neg shown, if_neg (by simp)] at scanned
      cases scanned

theorem octetText_one (small : n < 10) : octetText n = [digit n] := if_pos small

theorem octetText_two (low : 10 ≤ n) (high : n < 100) :
    octetText n = [digit (n / 10), digit (n % 10)] := by
  unfold octetText
  rw [if_neg (by omega), if_pos high]

theorem octetText_three (low : 100 ≤ n) :
    octetText n = [digit (n / 100), digit (n / 10 % 10), digit (n % 10)] := by
  unfold octetText
  rw [if_neg (by omega), if_neg (by omega)]

theorem scan_octet (small : n < 256) (few : done.length ≤ 3) (rest : CString) :
    inetPtonScan (octetText n ++ rest) done 0 false = inetPtonScan rest done n true := by
  have first (d : ℕ) (below : d < 10) (more : CString) :
      inetPtonScan (digit d :: more) done 0 false = inetPtonScan more done d true := by
    rw [scan_digit below, if_neg (by simp), if_neg (by omega), if_neg (by simp; omega),
      Nat.zero_mul, Nat.zero_add]
  have next (v d : ℕ) (below : d < 10) (nonzero : v ≠ 0) (fits : v * 10 + d < 256)
      (more : CString) : inetPtonScan (digit d :: more) done v true =
        inetPtonScan more done (v * 10 + d) true := by
    rw [scan_digit below, if_neg (fun h => nonzero h.2), if_neg (by omega), if_neg (by simp)]
  by_cases one : n < 10
  · rw [octetText_one one]
    exact first n one rest
  by_cases two : n < 100
  · rw [octetText_two (by omega) two]
    change inetPtonScan (digit _ :: digit _ :: rest) done 0 false = _
    rw [first _ (by omega), next _ _ (by omega) (by omega) (by omega)]
    congr 1
    omega
  · rw [octetText_three (by omega)]
    change inetPtonScan (digit _ :: digit _ :: digit _ :: rest) done 0 false = _
    rw [first _ (by omega), next _ _ (by omega) (by omega) (by omega),
      next _ _ (by omega) (by omega) (by omega)]
    congr 1
    omega

theorem scan_octet_some (few : done.length ≤ 3)
    (scanned : inetPtonScan text done 0 false = some octets) :
    ∃ n, n < 256 ∧ ((text = octetText n ∧ 3 ≤ done.length ∧ octets = done ++ [n]) ∨
      ∃ rest, text = octetText n ++ 46 :: rest ∧ done.length + 1 ≠ 4 ∧
        inetPtonScan rest (done ++ [n]) 0 false = some octets) := by
  obtain ⟨d, rest, small, rfl, first⟩ := scan_unseen_some few scanned
  rcases scan_seen_some first with ⟨rfl, enough, rfl⟩ | ⟨rest, rfl, more, later⟩ |
    ⟨e, rest, below, rfl, nonzero, fits, second⟩
  · exact ⟨d, by omega, .inl ⟨by rw [octetText_one small], enough, rfl⟩⟩
  · exact ⟨d, by omega, .inr ⟨rest, by rw [octetText_one small]; rfl, more, later⟩⟩
  have two : octetText (d * 10 + e) = [digit d, digit e] := by
    rw [octetText_two (by omega) (by omega), show (d * 10 + e) / 10 = d by omega,
      show (d * 10 + e) % 10 = e by omega]
  rcases scan_seen_some second with ⟨rfl, enough, rfl⟩ | ⟨rest, rfl, more, later⟩ |
    ⟨f, rest, below', rfl, -, fits', third⟩
  · exact ⟨d * 10 + e, by omega, .inl ⟨by rw [two], enough, rfl⟩⟩
  · exact ⟨d * 10 + e, by omega, .inr ⟨rest, by rw [two]; rfl, more, later⟩⟩
  have three : octetText ((d * 10 + e) * 10 + f) = [digit d, digit e, digit f] := by
    rw [octetText_three (by omega), show ((d * 10 + e) * 10 + f) / 100 = d by omega,
      show ((d * 10 + e) * 10 + f) / 10 % 10 = e by omega,
      show ((d * 10 + e) * 10 + f) % 10 = f by omega]
  rcases scan_seen_some third with ⟨rfl, enough, rfl⟩ | ⟨rest, rfl, more, later⟩ |
    ⟨g, rest, -, -, -, big, -⟩
  · exact ⟨(d * 10 + e) * 10 + f, by omega, .inl ⟨by rw [three], enough, rfl⟩⟩
  · exact ⟨(d * 10 + e) * 10 + f, by omega, .inr ⟨rest, by rw [three]; rfl, more, later⟩⟩
  · omega

end Scan

section Quads

variable {text : CString} {addr : UInt32}

/-- `inet_pton` takes the dotted quads and nothing else. -/
theorem parseIpv4Literal_iff : parseIpv4Literal text = some addr ↔ Quad text addr := by
  unfold parseIpv4Literal
  rw [Option.map_eq_some_iff]
  constructor
  · rintro ⟨octets, scanned, rfl⟩
    obtain ⟨a, ha, ⟨-, short, -⟩ | ⟨text1, rfl, -, scanned1⟩⟩ :=
      scan_octet_some (by simp) scanned
    · exact absurd short (by decide)
    obtain ⟨b, hb, ⟨-, short, -⟩ | ⟨text2, rfl, -, scanned2⟩⟩ :=
      scan_octet_some (by simp) scanned1
    · exact absurd short (by simp)
    obtain ⟨c, hc, ⟨-, short, -⟩ | ⟨text3, rfl, -, scanned3⟩⟩ :=
      scan_octet_some (by simp) scanned2
    · exact absurd short (by simp)
    obtain ⟨d, hd, ⟨rfl, -, rfl⟩ | ⟨-, -, more, -⟩⟩ := scan_octet_some (by simp) scanned3
    · refine ⟨a, b, c, d, ⟨ha, hb, hc, hd⟩, rfl, ?_⟩
      change (UInt32.ofNat ((((0 * 256 + a) * 256 + b) * 256 + c) * 256 + d)).toNat = _
      rw [UInt32.toNat_ofNat']
      omega
    · exact absurd more (by simp)
  · rintro ⟨a, b, c, d, ⟨ha, hb, hc, hd⟩, rfl, named⟩
    refine ⟨[a, b, c, d], ?_, ?_⟩
    · have dot (rest : CString) (done : List ℕ) (v : ℕ) (few : done.length + 1 ≠ 4) :
          inetPtonScan (46 :: rest) done v true = inetPtonScan rest (done ++ [v]) 0 false := by
        rw [inetPtonScan, if_neg (by decide), if_pos ⟨rfl, rfl⟩, if_neg few]
      rw [scan_octet ha (by simp), dot _ _ _ (by simp), scan_octet hb (by simp),
        dot _ _ _ (by simp), scan_octet hc (by simp), dot _ _ _ (by simp),
        ← List.append_nil (octetText d), scan_octet hd (by simp)]
      rfl
    · apply UInt32.toNat_inj.mp
      change (UInt32.ofNat ((((0 * 256 + a) * 256 + b) * 256 + c) * 256 + d)).toNat = _
      rw [named, UInt32.toNat_ofNat']
      omega

theorem quad_length (quad : Quad text addr) : text.length ≤ 15 ∧ text ≠ [] := by
  have parsed := parseIpv4Literal_iff.mpr quad
  refine ⟨(parseIpv4Literal_single (by rw [parsed]; rfl)).1, ?_⟩
  rintro rfl
  cases parsed

theorem quad_chars (quad : Quad text addr) (c : UInt8) (member : c ∈ text) :
    isDigit c = true ∨ c = 46 := by
  obtain ⟨octets, scanned, -⟩ := Option.map_eq_some_iff.mp (parseIpv4Literal_iff.mpr quad)
  exact (inetPtonScan_some scanned (Nat.zero_le 3)).1 c member

theorem quad_no_slash (quad : Quad text addr) : 47 ∉ text := by
  intro member
  rcases quad_chars quad 47 member with shown | dot
  · exact absurd shown (by decide)
  · exact absurd dot (by decide)

end Quads

section Mask

/-- Masking with a prefix keeps exactly what the first bits of an address say. -/
theorem and_prefixMask_iff {p : ℕ} (short : p ≤ 32) (x y : UInt32) :
    x &&& prefixMask p = y &&& prefixMask p ↔
      x.toNat / 2 ^ (32 - p) = y.toNat / 2 ^ (32 - p) := by
  have bits (i : ℕ) :
      (prefixMask p).toNat.testBit i = (decide (32 - p ≤ i) && decide (i < 32)) := by
    unfold prefixMask
    by_cases none : p = 0
    · rw [if_pos none, none]
      simp
    by_cases all : 32 ≤ p
    · obtain rfl : p = 32 := by omega
      rw [if_neg none, if_pos all]
      change (2 ^ 32 - 1).testBit i = _
      rw [Nat.testBit_two_pow_sub_one]
      simp
    · rw [if_neg none, if_neg all, UInt32.toNat_shiftLeft, UInt32.toNat_ofNat']
      have shift : (32 - p) % 2 ^ 32 % 32 = 32 - p := by omega
      rw [shift, Nat.testBit_mod_two_pow, Nat.testBit_shiftLeft]
      change (_ && (_ && (2 ^ 32 - 1).testBit (i - (32 - p)))) = _
      rw [Nat.testBit_two_pow_sub_one]
      by_cases low : 32 - p ≤ i
      · by_cases high : i < 32
        · simp [low, high]
          omega
        · simp [high]
      · simp [low]
  rw [← Nat.shiftRight_eq_div_pow, ← Nat.shiftRight_eq_div_pow, ← UInt32.toNat_inj,
    UInt32.toNat_and, UInt32.toNat_and]
  have beyond (z : UInt32) (i : ℕ) (high : 32 ≤ i) : z.toNat.testBit i = false :=
    Nat.testBit_lt_two_pow (lt_of_lt_of_le z.toNat_lt (Nat.pow_le_pow_right (by omega) high))
  constructor
  · intro same
    apply Nat.eq_of_testBit_eq
    intro i
    rw [Nat.testBit_shiftRight, Nat.testBit_shiftRight]
    by_cases high : 32 - p + i < 32
    · have here := congrArg (fun z => Nat.testBit z (32 - p + i)) same
      simpa [Nat.testBit_and, bits, high] using here
    · rw [beyond x _ (by omega), beyond y _ (by omega)]
  · intro same
    apply Nat.eq_of_testBit_eq
    intro i
    rw [Nat.testBit_and, Nat.testBit_and, bits]
    by_cases low : 32 - p ≤ i
    · have here := congrArg (fun z => Nat.testBit z (i - (32 - p))) same
      simp only [Nat.testBit_shiftRight] at here
      rw [show 32 - p + (i - (32 - p)) = i by omega] at here
      rw [here]
    · simp [low]

end Mask

def decimal (digits : CString) : ℕ := digits.foldl (fun n c => n * 10 + (c.toNat - 48)) 0

def Digits (text : CString) : Prop := text ≠ [] ∧ ∀ c ∈ text, isDigit c = true

/-- A text that `strtoul` reads to its end as a number up to 32 although it is not written in
digits alone: no number at all, blanks or a plus in front, or a minus before a number that wraps
round to a small one. -/
def LooseNumber (text : CString) : Prop :=
  text = [] ∨ ∃ blanks sign digits, text = blanks ++ (sign ++ digits) ∧
    (∀ c ∈ blanks, isSpace c = true) ∧ Digits digits ∧
    ((sign = [] ∧ blanks ≠ [] ∧ decimal digits ≤ 32) ∨ (sign = [43] ∧ decimal digits ≤ 32) ∨
      (sign = [45] ∧
        (decimal digits = 0 ∨ 2 ^ 64 - 32 ≤ decimal digits ∧ decimal digits < 2 ^ 64)))

section Strtoul

variable {text digits : CString}

theorem isDigit_not_space {c : UInt8} (shown : isDigit c = true) :
    isSpace c = false ∧ c ≠ 43 ∧ c ≠ 45 ∧ c ≠ 47 := by
  obtain ⟨d, small, rfl⟩ := digit_of_isDigit shown
  have value := digit_toNat small
  unfold isSpace
  simp only [Bool.or_eq_false_iff, Bool.and_eq_false_iff, decide_eq_false_iff_not,
    UInt8.le_iff_toNat_le, ne_eq, ← UInt8.toNat_inj, value]
  change (¬ _ = 32 ∧ (¬ 9 ≤ _ ∨ ¬ _ ≤ 13)) ∧ ¬ _ = 43 ∧ ¬ _ = 45 ∧ ¬ _ = 47
  omega

theorem digits_run (all : ∀ c ∈ digits, isDigit c = true) :
    digits.takeWhile isDigit = digits ∧ digits.dropWhile isDigit = [] :=
  ⟨List.takeWhile_eq_self_iff.mpr all, List.dropWhile_eq_nil_iff.mpr all⟩

theorem dropWhile_blanks {blanks rest : CString} (blank : ∀ c ∈ blanks, isSpace c = true)
    (bare : ∀ c, rest.head? = some c → isSpace c = false) :
    (blanks ++ rest).dropWhile isSpace = rest := by
  induction blanks with
  | nil =>
    cases rest with
    | nil => rfl
    | cons c rest => exact List.dropWhile_cons_of_neg (by simp [bare c rfl])
  | cons c blanks ih =>
    rw [List.cons_append, List.dropWhile_cons_of_pos (blank c List.mem_cons_self)]
    exact ih fun d member => blank d (List.mem_cons_of_mem c member)

/-- What `strtoul` makes of blanks, a sign and digits. -/
theorem strtoul_parts {blanks sign : CString} (blank : ∀ c ∈ blanks, isSpace c = true)
    (signed : sign = [] ∨ sign = [43] ∨ sign = [45]) (shown : Digits digits) :
    strtoul (blanks ++ (sign ++ digits)) =
      (if ULONG_MAX < decimal digits then ULONG_MAX
        else if sign = [45] then (2 ^ 64 - decimal digits) % 2 ^ 64 else decimal digits, []) := by
  obtain ⟨run, rest⟩ := digits_run shown.2
  obtain ⟨c, more, rfl⟩ := List.exists_cons_of_ne_nil shown.1
  obtain ⟨bare, plus, minus, -⟩ := isDigit_not_space (shown.2 c List.mem_cons_self)
  have body : (blanks ++ (sign ++ c :: more)).dropWhile isSpace = sign ++ c :: more := by
    refine dropWhile_blanks blank ?_
    intro e head
    rcases signed with rfl | rfl | rfl
    · obtain rfl := Option.some.inj head
      exact bare
    · obtain rfl := Option.some.inj head
      decide
    · obtain rfl := Option.some.inj head
      decide
  unfold strtoul
  rw [body]
  rcases signed with rfl | rfl | rfl
  · have front : (c :: more : CString).head? = some c := rfl
    have neither : ¬ (c = 45 ∨ c = 43) := not_or.mpr ⟨minus, plus⟩
    simp only [List.nil_append, front, Option.some.injEq, if_neg neither, run, rest]
    simp [decimal, minus]
  · have front : ([43] ++ c :: more : CString).head? = some 43 := rfl
    have tail : ([43] ++ c :: more : CString).tail = c :: more := rfl
    simp only [front, tail, Option.some.injEq, or_true, if_true, run, rest]
    simp [decimal]
  · have front : ([45] ++ c :: more : CString).head? = some 45 := rfl
    have tail : ([45] ++ c :: more : CString).tail = c :: more := rfl
    simp only [front, tail, Option.some.injEq, true_or, if_true, run, rest]
    simp [decimal]

theorem strtoul_digits (shown : Digits text) :
    strtoul text = (if ULONG_MAX < decimal text then ULONG_MAX else decimal text, []) := by
  have parts := @strtoul_parts text [] [] (fun _ member => absurd member List.not_mem_nil)
    (.inl rfl) shown
  rw [if_neg (show ¬ ([] : CString) = [45] by decide)] at parts
  exact parts

/-- What `strtoul` reads to its end consists of blanks, a sign and digits, or is empty. -/
theorem strtoul_whole (whole : (strtoul text).2 = []) :
    text = [] ∨ ∃ blanks sign digits, text = blanks ++ (sign ++ digits) ∧
      (∀ c ∈ blanks, isSpace c = true) ∧ (sign = [] ∨ sign = [43] ∨ sign = [45]) ∧
      Digits digits := by
  have blank : ∀ c ∈ text.takeWhile isSpace, isSpace c = true :=
    fun c member => List.mem_takeWhile_imp member
  have body : text = text.takeWhile isSpace ++ text.dropWhile isSpace :=
    (List.takeWhile_append_dropWhile).symm
  have digitsOf (digits : CString) (left : digits.dropWhile isDigit = [])
      (run : digits.takeWhile isDigit ≠ []) : Digits digits := by
    refine ⟨?_, List.dropWhile_eq_nil_iff.mp left⟩
    rintro rfl
    exact run rfl
  unfold strtoul at whole
  dsimp only at whole
  by_cases signed : (text.dropWhile isSpace).head? = some 45 ∨
      (text.dropWhile isSpace).head? = some 43
  · rw [if_pos signed] at whole
    split at whole
    · exact .inl whole
    rename_i seen
    have shown := digitsOf _ whole seen
    right
    rcases signed with minus | plus
    · obtain ⟨rest, found⟩ := List.head?_eq_some_iff.mp minus
      rw [found] at shown body
      exact ⟨_, [45], rest, body, blank, .inr (.inr rfl), shown⟩
    · obtain ⟨rest, found⟩ := List.head?_eq_some_iff.mp plus
      rw [found] at shown body
      exact ⟨_, [43], rest, body, blank, .inr (.inl rfl), shown⟩
  · rw [if_neg signed] at whole
    split at whole
    · exact .inl whole
    rename_i seen
    exact .inr ⟨_, [], _, body, blank, .inl rfl, digitsOf _ whole seen⟩

theorem strtoul_short_iff : (strtoul text).2 = [] ∧ (strtoul text).1 ≤ 32 ↔
    (Digits text ∧ decimal text ≤ 32) ∨ LooseNumber text := by
  have limit : ULONG_MAX = 2 ^ 64 - 1 := rfl
  constructor
  · rintro ⟨whole, short⟩
    rcases strtoul_whole whole with rfl | ⟨blanks, sign, digits, rfl, blank, signed, shown⟩
    · exact .inr (.inl rfl)
    · rw [strtoul_parts blank signed shown] at short
      dsimp only at short
      rcases signed with rfl | rfl | rfl
      · rw [if_neg (show ¬ ([] : CString) = [45] by decide)] at short
        have value : decimal digits ≤ 32 := by split at short <;> omega
        by_cases bare : blanks = []
        · rw [bare]
          exact .inl ⟨shown, value⟩
        · exact .inr (.inr ⟨blanks, [], digits, rfl, blank, shown, .inl ⟨rfl, bare, value⟩⟩)
      · rw [if_neg (show ¬ ([43] : CString) = [45] by decide)] at short
        have value : decimal digits ≤ 32 := by split at short <;> omega
        exact .inr (.inr ⟨blanks, [43], digits, rfl, blank, shown, .inr (.inl ⟨rfl, value⟩)⟩)
      · rw [if_pos rfl] at short
        refine .inr (.inr ⟨blanks, [45], digits, rfl, blank, shown, .inr (.inr ⟨rfl, ?_⟩)⟩)
        split at short <;> omega
  · rintro (⟨shown, short⟩ | rfl | ⟨blanks, sign, digits, rfl, blank, shown, reads⟩)
    · rw [strtoul_digits shown, if_neg (by omega)]
      exact ⟨rfl, short⟩
    · exact ⟨rfl, by decide⟩
    · have signed : sign = [] ∨ sign = [43] ∨ sign = [45] :=
        reads.imp And.left (Or.imp And.left And.left)
      rw [strtoul_parts blank signed shown]
      refine ⟨rfl, ?_⟩
      dsimp only
      rcases reads with ⟨rfl, -, value⟩ | ⟨rfl, value⟩ | ⟨rfl, value⟩
      · rw [if_neg (by omega), if_neg (by decide)]
        exact value
      · rw [if_neg (by omega), if_neg (by decide)]
        exact value
      · rw [if_neg (by omega), if_pos rfl]
        omega

theorem loose_not_digits (loose : LooseNumber text) : ¬ Digits text := by
  rintro ⟨nonempty, all⟩
  rcases loose with rfl | ⟨blanks, sign, digits, rfl, blank, -, reads⟩
  · exact nonempty rfl
  · rcases reads with ⟨rfl, bare, -⟩ | ⟨rfl, -⟩ | ⟨rfl, -⟩
    · obtain ⟨c, rest, rfl⟩ := List.exists_cons_of_ne_nil bare
      have space := blank c List.mem_cons_self
      rw [(isDigit_not_space (all c (by simp))).1] at space
      contradiction
    · exact (isDigit_not_space (all 43 (by simp))).2.1 rfl
    · exact (isDigit_not_space (all 45 (by simp))).2.2.1 rfl

end Strtoul

/-- The address specs and the sets of addresses they stand for. -/
inductive Denotes : CString → Set UInt32 → Prop
  | single {text : CString} {addr : UInt32} : Quad text addr → Denotes text {addr}
  | range {address digits : CString} {net : UInt32} : Quad address net → Digits digits →
      decimal digits ≤ 32 → Denotes (address ++ 47 :: digits)
        {ip | ip.toNat / 2 ^ (32 - decimal digits) = net.toNat / 2 ^ (32 - decimal digits)}

def Loose (text : CString) : Prop :=
  ∃ address net behind, text = address ++ 47 :: behind ∧ Quad address net ∧ LooseNumber behind

section Specs

variable {text spec ip address behind : CString} {addr net : UInt32} {range : Spec}
  {set : Set UInt32}

theorem trimCopy_trim {outLen : ℕ} : trimCopy outLen spec = some text ↔
    text = trim spec ∧ text ≠ [] ∧ text.length < outLen := by
  unfold trimCopy trim
  dsimp only
  split
  · rename_i refused
    constructor
    · rintro ⟨⟩
    · rintro ⟨rfl, nonempty, short⟩
      rcases refused with empty | long
      · exact absurd empty nonempty
      · omega
  · rename_i taken
    rw [not_or, not_le] at taken
    constructor
    · rintro ⟨rfl⟩
      exact ⟨rfl, taken⟩
    · rintro ⟨rfl, -⟩
      rfl

theorem slash_split (clean : 47 ∉ address) :
    (address ++ 47 :: behind).takeWhile (· != 47) = address ∧
      (address ++ 47 :: behind).dropWhile (· != 47) = 47 :: behind := by
  induction address with
  | nil => exact ⟨rfl, rfl⟩
  | cons c address ih =>
    obtain ⟨first, rest⟩ := not_or.mp (fun h => clean (List.mem_cons.mpr h))
    have other : (c != 47) = true := bne_iff_ne.mpr (Ne.symm first)
    obtain ⟨front, back⟩ := ih rest
    refine ⟨?_, ?_⟩
    · rw [List.cons_append, @List.takeWhile_cons_of_pos _ (· != 47) c _ other, front]
    · rw [List.cons_append, @List.dropWhile_cons_of_pos _ (· != 47) c _ other, back]

theorem slash_unique {address' behind' : CString} (clean : 47 ∉ address) (clean' : 47 ∉ address')
    (same : address ++ 47 :: behind = address' ++ 47 :: behind') :
    address = address' ∧ behind = behind' := by
  obtain ⟨front, back⟩ := @slash_split address behind clean
  obtain ⟨front', back'⟩ := @slash_split address' behind' clean'
  rw [same, front'] at front
  rw [same, back'] at back
  exact ⟨front.symm, (List.cons.inj back).2.symm⟩

theorem number_no_slash (number : Digits text ∧ decimal text ≤ 32 ∨ LooseNumber text) :
    47 ∉ text := by
  have digit {c : UInt8} (shown : isDigit c = true) : 47 ≠ c :=
    Ne.symm (isDigit_not_space shown).2.2.2
  intro member
  rcases number with ⟨⟨-, all⟩, -⟩ | rfl | ⟨blanks, sign, digits, rfl, blank, ⟨-, all⟩, reads⟩
  · exact digit (all 47 member) rfl
  · exact List.not_mem_nil member
  · rcases List.mem_append.mp member with front | later
    · exact absurd (blank 47 front) (by decide)
    rcases List.mem_append.mp later with mark | back
    · rcases reads with ⟨rfl, -⟩ | ⟨rfl, -⟩ | ⟨rfl, -⟩
      · exact List.not_mem_nil mark
      · exact absurd (List.mem_singleton.mp mark) (by decide)
      · exact absurd (List.mem_singleton.mp mark) (by decide)
    · exact digit (all 47 back) rfl

/-- What the parser makes of a spec: a quad, or a quad and what `strtoul` reads behind the
slash. -/
theorem parseIpv4Spec_iff : parseIpv4Spec spec = some range ↔
    (trim spec).length < 128 ∧
    ((∃ addr, Quad (trim spec) addr ∧ range = ⟨addr, 0xFFFFFFFF, false⟩) ∨
      ∃ address behind addr, trim spec = address ++ 47 :: behind ∧ Quad address addr ∧
        ((strtoul behind).2 = [] ∧ (strtoul behind).1 ≤ 32) ∧
        range = ⟨addr &&& prefixMask (strtoul behind).1, prefixMask (strtoul behind).1, true⟩) := by
  unfold parseIpv4Spec
  constructor
  · intro parsed
    obtain ⟨trimmed, copied, parsed⟩ := Option.bind_eq_some_iff.mp parsed
    obtain ⟨rfl, -, short⟩ := trimCopy_trim.mp copied
    refine ⟨short, ?_⟩
    split at parsed
    · rename_i slash
      right
      obtain ⟨address, behind, apart, clean⟩ := List.eq_append_cons_of_mem slash
      obtain ⟨front, back⟩ := @slash_split address behind clean
      dsimp only at parsed
      rw [apart, front, back, List.tail_cons] at parsed
      split at parsed
      · cases parsed
      obtain ⟨addr, literal, parsed⟩ := Option.bind_eq_some_iff.mp parsed
      split at parsed
      · cases parsed
      rename_i reads
      rw [not_or, not_not, not_lt] at reads
      exact ⟨address, behind, addr, apart, parseIpv4Literal_iff.mp literal, reads,
        (Option.some.inj parsed).symm⟩
    · obtain ⟨addr, literal, parsed⟩ := Option.bind_eq_some_iff.mp parsed
      exact .inl ⟨addr, parseIpv4Literal_iff.mp literal, (Option.some.inj parsed).symm⟩
  · rintro ⟨short, ⟨addr, quad, rfl⟩ | ⟨address, behind, addr, apart, quad, reads, rfl⟩⟩
    · rw [trimCopy_trim.mpr ⟨rfl, (quad_length quad).2, short⟩, Option.bind_eq_bind,
        Option.bind_some, if_neg (quad_no_slash quad), parseIpv4Literal_iff.mpr quad]
      rfl
    · obtain ⟨front, back⟩ := @slash_split address behind (quad_no_slash quad)
      have clean := number_no_slash (strtoul_short_iff.mp reads)
      have nonempty : trim spec ≠ [] := by
        rw [apart]
        simp
      have slash : 47 ∈ trim spec := by
        rw [apart]
        simp
      have gate : ¬ ((strtoul behind).2 ≠ [] ∨ 32 < (strtoul behind).1) := by
        rw [not_or, not_not, not_lt]
        exact reads
      rw [trimCopy_trim.mpr ⟨rfl, nonempty, short⟩, Option.bind_eq_bind,
        Option.bind_some, if_pos slash]
      dsimp only
      rw [apart, front, back, List.tail_cons, if_neg clean, parseIpv4Literal_iff.mpr quad,
        Option.bind_eq_bind, Option.bind_some, if_neg gate]

theorem denotes_iff : Denotes text set ↔ (∃ addr, Quad text addr ∧ set = {addr}) ∨
    ∃ address digits net, text = address ++ 47 :: digits ∧ Quad address net ∧ Digits digits ∧
      decimal digits ≤ 32 ∧ set = {ip | ip.toNat / 2 ^ (32 - decimal digits) =
        net.toNat / 2 ^ (32 - decimal digits)} := by
  constructor
  · intro denotes
    cases denotes with
    | single quad => exact .inl ⟨_, quad, rfl⟩
    | range quad shown short => exact .inr ⟨_, _, _, rfl, quad, shown, short, rfl⟩
  · rintro (⟨addr, quad, rfl⟩ | ⟨address, digits, net, rfl, quad, shown, short, rfl⟩)
    · exact .single quad
    · exact .range quad shown short

theorem loose_not_denotes (loose : Loose text) : ¬ Denotes text set := by
  obtain ⟨address, net, behind, rfl, quad, number⟩ := loose
  intro denotes
  rcases denotes_iff.mp denotes with ⟨addr, whole, -⟩ |
    ⟨address', digits, net', same, quad', shown, -⟩
  · exact quad_no_slash whole (by simp)
  · obtain ⟨-, rfl⟩ := slash_unique (quad_no_slash quad) (quad_no_slash quad') same
    exact loose_not_digits number shown

def hosts (range : Spec) : Set UInt32 := {addr | addr &&& range.mask = range.network}

theorem hosts_single : hosts ⟨addr, 0xFFFFFFFF, false⟩ = {addr} := by
  ext ip
  have all : ip &&& (0xFFFFFFFF : UInt32) = ip := UInt32.and_neg_one
  change ip &&& 0xFFFFFFFF = addr ↔ ip = addr
  rw [all]

theorem hosts_range {p : ℕ} (short : p ≤ 32) :
    hosts ⟨net &&& prefixMask p, prefixMask p, true⟩ =
      {ip | ip.toNat / 2 ^ (32 - p) = net.toNat / 2 ^ (32 - p)} := by
  ext ip
  exact and_prefixMask_iff short ip net

theorem parse_denotes_iff (short : (trim spec).length < 128) (strict : ¬ Loose (trim spec)) :
    (∃ range, parseIpv4Spec spec = some range ∧ hosts range = set) ↔
      Denotes (trim spec) set := by
  rw [denotes_iff]
  constructor
  · rintro ⟨range, parsed, rfl⟩
    obtain ⟨-, ⟨addr, quad, rfl⟩ | ⟨address, behind, addr, apart, quad, reads, rfl⟩⟩ :=
      parseIpv4Spec_iff.mp parsed
    · exact .inl ⟨addr, quad, hosts_single⟩
    · rcases strtoul_short_iff.mp reads with ⟨shown, small⟩ | loose
      · have value : (strtoul behind).1 = decimal behind := by
          have limit : ULONG_MAX = 2 ^ 64 - 1 := rfl
          rw [strtoul_digits shown, if_neg (by omega)]
        rw [value]
        exact .inr ⟨address, behind, addr, apart, quad, shown, small, hosts_range small⟩
      · exact absurd ⟨address, addr, behind, apart, quad, loose⟩ strict
  · rintro (⟨addr, quad, rfl⟩ | ⟨address, digits, net, apart, quad, shown, small, rfl⟩)
    · exact ⟨_, parseIpv4Spec_iff.mpr ⟨short, .inl ⟨addr, quad, rfl⟩⟩, hosts_single⟩
    · have value : (strtoul digits).1 = decimal digits := by
        have limit : ULONG_MAX = 2 ^ 64 - 1 := rfl
        rw [strtoul_digits shown, if_neg (by omega)]
      have reads := strtoul_short_iff.mpr (.inl ⟨shown, small⟩)
      have parsed := parseIpv4Spec_iff.mpr
        ⟨short, .inr ⟨address, digits, net, apart, quad, reads, rfl⟩⟩
      refine ⟨_, parsed, ?_⟩
      rw [value]
      exact hosts_range small

theorem accepted_iff : isSingleIpv4 spec = true ∨ isCidrIpv4 spec = true ↔
    ∃ range, parseIpv4Spec spec = some range := by
  unfold isSingleIpv4 isCidrIpv4
  constructor
  · rintro (single | cidr)
    · cases copied : trimCopy 64 spec with
      | none =>
        rw [copied] at single
        cases single
      | some trimmed =>
        rw [copied] at single
        obtain ⟨rfl, -, fits⟩ := trimCopy_trim.mp copied
        obtain ⟨addr, literal⟩ := Option.isSome_iff_exists.mp (Bool.and_eq_true_iff.mp single).2
        have short : (trim spec).length < 128 := by omega
        exact ⟨_, parseIpv4Spec_iff.mpr ⟨short, .inl ⟨addr, parseIpv4Literal_iff.mp literal, rfl⟩⟩⟩
    · cases parsed : parseIpv4Spec spec with
      | none =>
        rw [parsed] at cidr
        cases cidr
      | some range => exact ⟨range, rfl⟩
  · rintro ⟨range, parsed⟩
    obtain ⟨-, ⟨addr, quad, rfl⟩ | ⟨address, behind, addr, -, -, -, rfl⟩⟩ :=
      parseIpv4Spec_iff.mp parsed
    · obtain ⟨small, nonempty⟩ := quad_length quad
      left
      have copied := @trimCopy_trim (trim spec) spec 64
      rw [copied.mpr ⟨rfl, nonempty, by omega⟩]
      simp [quad_no_slash quad, parseIpv4Literal_iff.mpr quad]
    · right
      rw [parsed]

theorem contains_hosts (quad : Quad ip addr) : containsSpecIpv4 spec ip = true ↔
    ∃ range, parseIpv4Spec spec = some range ∧ addr ∈ hosts range := by
  rw [containsSpecIpv4_iff]
  constructor
  · rintro ⟨range, addr', parsed, literal, inside⟩
    rw [parseIpv4Literal_iff.mpr quad] at literal
    obtain rfl := Option.some.inj literal
    exact ⟨range, parsed, inside⟩
  · rintro ⟨range, parsed, inside⟩
    exact ⟨range, addr, parsed, parseIpv4Literal_iff.mpr quad, inside⟩

/-- A spec is taken exactly if it has one of the two forms, and then admits what it denotes. -/
def Meant (spec : CString) : Prop :=
  (∀ ip addr, Quad ip addr → (containsSpecIpv4 spec ip = true ↔
    ∃ set, Denotes (trim spec) set ∧ addr ∈ set)) ∧
  (isSingleIpv4 spec = true ∨ isCidrIpv4 spec = true ↔ ∃ set, Denotes (trim spec) set)

theorem meant_of_strict (short : (trim spec).length < 128) (strict : ¬ Loose (trim spec)) :
    Meant spec := by
  refine ⟨fun ip addr quad => ?_, ?_⟩
  · rw [contains_hosts quad]
    constructor
    · rintro ⟨range, parsed, inside⟩
      exact ⟨hosts range, (parse_denotes_iff short strict).mp ⟨range, parsed, rfl⟩, inside⟩
    · rintro ⟨set, denotes, inside⟩
      obtain ⟨range, parsed, rfl⟩ := (parse_denotes_iff short strict).mpr denotes
      exact ⟨range, parsed, inside⟩
  · rw [accepted_iff]
    constructor
    · rintro ⟨range, parsed⟩
      exact ⟨hosts range, (parse_denotes_iff short strict).mp ⟨range, parsed, rfl⟩⟩
    · rintro ⟨set, denotes⟩
      obtain ⟨range, parsed, -⟩ := (parse_denotes_iff short strict).mpr denotes
      exact ⟨range, parsed⟩

theorem loose_parses (short : (trim spec).length < 128) (loose : Loose (trim spec)) :
    ∃ range, parseIpv4Spec spec = some range := by
  obtain ⟨address, net, behind, apart, quad, number⟩ := loose
  have reads := strtoul_short_iff.mpr (.inr number)
  exact ⟨_, parseIpv4Spec_iff.mpr ⟨short, .inr ⟨address, behind, net, apart, quad, reads, rfl⟩⟩⟩

theorem loose_not_meant (short : (trim spec).length < 128) (loose : Loose (trim spec)) :
    ¬ Meant spec := by
  rintro ⟨-, accepted⟩
  obtain ⟨set, denotes⟩ := accepted.mp (accepted_iff.mpr (loose_parses short loose))
  exact loose_not_denotes loose denotes

theorem long_refused (long : 128 ≤ (trim spec).length) : parseIpv4Spec spec = none := by
  cases parsed : parseIpv4Spec spec with
  | none => rfl
  | some range =>
    have short := (parseIpv4Spec_iff.mp parsed).1
    omega

end Specs

/-- Specs mean what they say unless the prefix length is loose, or a range is too long for the
buffer. -/
theorem meant_iff (spec : CString) : Meant spec ↔
    ((trim spec).length < 128 → ¬ Loose (trim spec)) ∧
    (128 ≤ (trim spec).length → ¬ ∃ set, Denotes (trim spec) set) := by
  rcases Nat.lt_or_ge (trim spec).length 128 with short | long
  · constructor
    · exact fun meant => ⟨fun _ loose => loose_not_meant short loose meant, fun long => by omega⟩
    · exact fun strict => meant_of_strict short (strict.1 short)
  · have refused := long_refused long
    constructor
    · rintro ⟨-, accepted⟩
      refine ⟨fun short => by omega, fun _ denotes => ?_⟩
      obtain ⟨range, parsed⟩ := accepted_iff.mp (accepted.mpr denotes)
      rw [refused] at parsed
      cases parsed
    · rintro ⟨-, plain⟩
      refine ⟨fun ip addr quad => ?_, ?_⟩
      · rw [contains_hosts quad, refused]
        constructor
        · rintro ⟨range, ⟨⟩, -⟩
        · rintro ⟨set, denotes, -⟩
          exact absurd ⟨set, denotes⟩ (plain long)
      · rw [accepted_iff, refused]
        constructor
        · rintro ⟨range, ⟨⟩⟩
        · exact fun denotes => absurd denotes (plain long)

/-- `10.0.0.1/`, with nothing behind the slash, admits every address. -/
theorem bare_slash_admits : ∃ spec, spec = [49, 48, 46, 48, 46, 48, 46, 49, 47] ∧ ¬ Meant spec ∧
    ∀ ip addr, Quad ip addr → containsSpecIpv4 spec ip = true := by
  refine ⟨_, rfl, ?_, ?_⟩
  · refine loose_not_meant (by decide) ⟨[49, 48, 46, 48, 46, 48, 46, 49], 167772161, [], ?_, ?_, ?_⟩
    · decide
    · exact ⟨10, 0, 0, 1, by decide, by decide, by decide⟩
    · exact .inl rfl
  · intro ip addr quad
    refine (contains_hosts quad).mpr ⟨⟨0, 0, true⟩, by decide +kernel, ?_⟩
    exact UInt32.and_zero

end Siglatch.NetIpSpec
