import Siglatch.MuxTypes
import Mathlib.Algebra.Group.Nat.Defs

set_option autoImplicit false

namespace Siglatch.NetIpRange
open MuxTypes

def isSpace (c : UInt8) : Bool := c = 32 || (9 ≤ c && c ≤ 13)
def isDigit (c : UInt8) : Bool := 48 ≤ c && c ≤ 57

/-- `trim_copy` into a buffer of the given size, which also has to hold the terminator. -/
def trimCopy (outLen : ℕ) (input : CString) : Option CString :=
  let trimmed := ((input.dropWhile isSpace).reverse.dropWhile isSpace).reverse
  if trimmed = [] ∨ outLen ≤ trimmed.length then none else some trimmed

/-- The scan of `inet_pton` for `AF_INET`: the octets behind a dot, the octet being read and
whether a digit of it was seen. -/
def inetPtonScan : CString → List ℕ → ℕ → Bool → Option (List ℕ)
  | [], done, current, sawDigit =>
    if done.length + sawDigit.toNat < 4 then none else some (done ++ [current])
  | c :: rest, done, current, sawDigit =>
    if isDigit c then
      let value := current * 10 + (c.toNat - 48)
      if sawDigit ∧ current = 0 then none
      else if 255 < value then none
      else if !sawDigit ∧ 4 < done.length + 1 then none
      else inetPtonScan rest done value true
    else if c = 46 ∧ sawDigit then
      if done.length + 1 = 4 then none else inetPtonScan rest (done ++ [current]) 0 false
    else none

/-- The address in host order, as `ntohl` leaves it. -/
def parseIpv4Literal (text : CString) : Option UInt32 :=
  (inetPtonScan text [] 0 false).map fun octets =>
    UInt32.ofNat (octets.foldl (fun addr octet => addr * 256 + octet) 0)

def ULONG_MAX : ℕ := 2 ^ 64 - 1

def strtoul (text : CString) : ℕ × CString :=
  let body := text.dropWhile isSpace
  let negative := body.head? = some 45
  let digits := if negative ∨ body.head? = some 43 then body.tail else body
  let run := digits.takeWhile isDigit
  let magnitude := run.foldl (fun n c => n * 10 + (c.toNat - 48)) 0
  if run = [] then (0, text)
  else
    (if ULONG_MAX < magnitude then ULONG_MAX
      else if negative then (2 ^ 64 - magnitude) % 2 ^ 64 else magnitude,
      digits.dropWhile isDigit)

def prefixMask (prefixLen : ℕ) : UInt32 :=
  if prefixLen = 0 then 0
  else if 32 ≤ prefixLen then 0xFFFFFFFF
  else 0xFFFFFFFF <<< UInt32.ofNat (32 - prefixLen)

structure Spec where
  network : UInt32
  mask : UInt32
  isCidr : Bool
  deriving DecidableEq

def parseIpv4Spec (spec : CString) : Option Spec := do
  let trimmed ← trimCopy 128 spec
  if 47 ∈ trimmed then
    let address := trimmed.takeWhile (· != 47)
    let behind := (trimmed.dropWhile (· != 47)).tail
    if 47 ∈ behind then none
    else
      let addr ← parseIpv4Literal address
      let (prefixLen, rest) := strtoul behind
      if rest ≠ [] ∨ 32 < prefixLen then none
      else
        let mask := prefixMask prefixLen
        some ⟨addr &&& mask, mask, true⟩
  else
    let addr ← parseIpv4Literal trimmed
    some ⟨addr, 0xFFFFFFFF, false⟩

def isSingleIpv4 (spec : CString) : Bool :=
  match trimCopy 64 spec with
  | none => false
  | some trimmed => 47 ∉ trimmed && (parseIpv4Literal trimmed).isSome

def isCidrIpv4 (spec : CString) : Bool :=
  match parseIpv4Spec spec with
  | none => false
  | some range => range.isCidr

def containsSpecIpv4 (spec ip : CString) : Bool :=
  match parseIpv4Spec spec, parseIpv4Literal ip with
  | some range, some addr =>
    if !range.isCidr then addr == range.network else addr &&& range.mask == range.network
  | _, _ => false

theorem parseIpv4Spec_single {spec : CString} {range : Spec}
    (h : parseIpv4Spec spec = some range) (single : range.isCidr = false) :
    range.mask = 0xFFFFFFFF := by
  revert h
  unfold parseIpv4Spec
  cases trimCopy 128 spec with
  | none => simp
  | some trimmed =>
    simp only [Option.bind_eq_bind, Option.bind_some]
    split
    · split
      · simp
      · cases parseIpv4Literal (trimmed.takeWhile (· != 47)) with
        | none => simp
        | some addr =>
          simp only [Option.bind_some]
          split
          · simp
          · rintro ⟨rfl⟩
            simp at single
    · cases parseIpv4Literal trimmed with
      | none => simp
      | some addr =>
        rintro ⟨rfl⟩
        rfl

theorem containsSpecIpv4_iff (spec ip : CString) :
    containsSpecIpv4 spec ip = true ↔ ∃ range addr, parseIpv4Spec spec = some range ∧
      parseIpv4Literal ip = some addr ∧ addr &&& range.mask = range.network := by
  unfold containsSpecIpv4
  cases hs : parseIpv4Spec spec with
  | none => simp
  | some range =>
    cases parseIpv4Literal ip with
    | none => simp
    | some addr =>
      cases hc : range.isCidr with
      | true => simp [hc]
      | false =>
        have all : addr &&& (0xFFFFFFFF : UInt32) = addr := UInt32.and_neg_one
        simp [hc, parseIpv4Spec_single hs hc, all]

def digitsLeft (current : ℕ) (sawDigit : Bool) : ℕ :=
  if !sawDigit then 3 else if current = 0 then 0 else if current < 10 then 2
  else if current < 100 then 1 else 0

theorem digitsLeft_step {current digit : ℕ} {sawDigit : Bool}
    (leading : ¬ (sawDigit = true ∧ current = 0)) (small : ¬ 255 < current * 10 + digit) :
    digitsLeft (current * 10 + digit) true + 1 ≤ digitsLeft current sawDigit := by
  unfold digitsLeft
  cases sawDigit with
  | false => grind
  | true => grind

/-- An address is made of digits and dots, at most three digits to each of four octets. -/
theorem inetPtonScan_some {text : CString} {done octets : List ℕ} {current : ℕ} {sawDigit : Bool}
    (h : inetPtonScan text done current sawDigit = some octets) (few : done.length ≤ 3) :
    (∀ c ∈ text, isDigit c = true ∨ c = 46) ∧
      text.length ≤ 4 * (3 - done.length) + digitsLeft current sawDigit := by
  induction text generalizing done current sawDigit with
  | nil => exact ⟨fun _ member => absurd member List.not_mem_nil, Nat.zero_le _⟩
  | cons c rest ih =>
    unfold inetPtonScan at h
    dsimp only at h
    split at h
    · rename_i digit
      split at h
      · cases h
      rename_i leading
      split at h
      · cases h
      rename_i small
      split at h
      · cases h
      obtain ⟨chars, length⟩ := ih h few
      refine ⟨?_, ?_⟩
      · intro d member
        rcases List.mem_cons.mp member with rfl | later
        · exact .inl digit
        · exact chars d later
      · have step := digitsLeft_step leading small
        rw [List.length_cons]
        omega
    · split at h
      · rename_i dot
        split at h
        · cases h
        rename_i more
        obtain ⟨chars, length⟩ := ih h (by rw [List.length_append, List.length_singleton]; omega)
        refine ⟨?_, ?_⟩
        · intro d member
          rcases List.mem_cons.mp member with rfl | later
          · exact .inr dot.1
          · exact chars d later
        · rw [List.length_append, List.length_singleton] at length
          rw [List.length_cons]
          have three : digitsLeft 0 false = 3 := rfl
          omega
      · cases h

theorem trimCopy_plain {outLen : ℕ} {text : CString} (plain : ∀ c ∈ text, isSpace c = false)
    (nonempty : text ≠ []) (short : text.length < outLen) : trimCopy outLen text = some text := by
  have front (xs : CString) (bare : ∀ c ∈ xs, isSpace c = false) : xs.dropWhile isSpace = xs := by
    cases xs with
    | nil => rfl
    | cons c xs => rw [List.dropWhile_cons, bare c List.mem_cons_self, if_neg Bool.false_ne_true]
  have back := front text.reverse fun c member => plain c (List.mem_reverse.mp member)
  unfold trimCopy
  dsimp only
  rw [front text plain, back, List.reverse_reverse, if_neg]
  rintro (empty | long)
  · exact nonempty empty
  · omega

/-- What `inet_pton` takes for an address is short and names a single host. -/
theorem parseIpv4Literal_single {text : CString} (literal : (parseIpv4Literal text).isSome = true) :
    text.length ≤ 15 ∧ isSingleIpv4 text = true := by
  obtain ⟨addr, parsed⟩ := Option.isSome_iff_exists.mp literal
  obtain ⟨octets, scanned, -⟩ := Option.map_eq_some_iff.mp parsed
  obtain ⟨chars, length⟩ := inetPtonScan_some scanned (Nat.zero_le 3)
  change text.length ≤ 4 * (3 - 0) + 3 at length
  have nonempty : text ≠ [] := by
    rintro rfl
    cases scanned
  have plain : ∀ c ∈ text, isSpace c = false ∧ c ≠ 47 := by
    intro c member
    rcases chars c member with digit | rfl
    · unfold isDigit at digit
      unfold isSpace
      simp only [Bool.and_eq_true, decide_eq_true_eq, UInt8.le_iff_toNat_le] at digit
      simp only [Bool.or_eq_false_iff, Bool.and_eq_false_iff, decide_eq_false_iff_not,
        UInt8.le_iff_toNat_le, ne_eq, ← UInt8.toNat_inj]
      change 48 ≤ _ ∧ _ ≤ 57 at digit
      change (¬ _ = 32 ∧ (¬ 9 ≤ _ ∨ ¬ _ ≤ 13)) ∧ ¬ _ = 47
      omega
    · decide
  refine ⟨length, ?_⟩
  unfold isSingleIpv4
  rw [trimCopy_plain (fun c member => (plain c member).1) nonempty (by omega)]
  have slash : 47 ∉ text := fun member => (plain 47 member).2 rfl
  simp [slash, literal]

end Siglatch.NetIpRange
