import Siglatch.MuxTypes
import Siglatch.SextetCode
import Mathlib.Logic.Function.Basic
import Mathlib.Algebra.Group.Int.Defs

set_option autoImplicit false

namespace Siglatch.LibBase64
open MuxTypes SextetCode

def SIZE_MAX : ℕ := 2 ^ 64 - 1

/-- The bytes from the start of an output buffer on, those behind the buffer among them. -/
abbrev Memory := ℕ → UInt8

def base64Table : CString :=
  ascii "ABCDEFGHIJKLMNOPQRSTUVWXYZabcdefghijklmnopqrstuvwxyz0123456789+/".toList

def tableChar (i : ℕ) : UInt8 := base64Table.getD i 0

def arr4 (a b c : UInt8) : List UInt8 :=
  [(a &&& 0xfc) >>> 2, ((a &&& 0x03) <<< 4) + ((b &&& 0xf0) >>> 4),
    ((b &&& 0x0f) <<< 2) + ((c &&& 0xc0) >>> 6), c &&& 0x3f]

structure Writer where
  j : ℕ
  output : Memory

/-- `output_len - 1`, which wraps for an empty buffer. -/
def limit (outputLen : ℕ) : ℕ := (outputLen + SIZE_MAX) % 2 ^ 64

/-- A write that does not fit leaves what is written so far. -/
def put (outputLen : ℕ) (writer : Writer) (byte : UInt8) : Except Memory Writer :=
  if limit outputLen ≤ writer.j then .error writer.output
  else .ok ⟨writer.j + 1, Function.update writer.output writer.j byte⟩

def putAll (outputLen : ℕ) (writer : Writer) (bytes : List UInt8) : Except Memory Writer :=
  bytes.foldlM (put outputLen) writer

def groupChars (group : List UInt8) : List UInt8 :=
  (arr4 (group.getD 0 0) (group.getD 1 0) (group.getD 2 0)).map fun sextet =>
    tableChar sextet.toNat

/-- The loop over the input. The list in front holds the entries of `arr_3` in use, as many as the
    index `i` says. -/
def feed (outputLen : ℕ) : List UInt8 → Writer → List UInt8 → Except Memory (List UInt8 × Writer)
  | group, writer, [] => .ok (group, writer)
  | group, writer, c :: rest =>
    if (group ++ [c]).length = 3 then
      (putAll outputLen writer (groupChars (group ++ [c]))).bind fun writer =>
        feed outputLen [] writer rest
    else feed outputLen (group ++ [c]) writer rest

def putTail (outputLen : ℕ) (group : List UInt8) (writer : Writer) : Except Memory Writer :=
  if group.length = 0 then .ok writer
  else
    (putAll outputLen writer ((groupChars group).take (group.length + 1))).bind fun writer =>
      putAll outputLen writer (List.replicate (3 - group.length) 61)

/-- The number of characters as an int, or -1, and the memory. -/
def terminate : Except Memory Writer → ℤ × Memory
  | .error output => (-1, output)
  | .ok writer => ((writer.j : ℤ).bmod (2 ^ 32), Function.update writer.output writer.j 0)

def base64Encode (input : Bytes) (outputLen : ℕ) (memory : Memory) : ℤ × Memory :=
  terminate ((feed outputLen [] ⟨0, memory⟩ input).bind fun state =>
    putTail outputLen state.1 state.2)

def base64Size (inputLen : ℕ) : Option ℕ :=
  if SIZE_MAX - 2 < inputLen then none
  else if (SIZE_MAX - 1) / 4 < (inputLen + 2) / 3 then none
  else some ((inputLen + 2) / 3 * 4 + 1)

/-- The copies of the daemon and of the unstructured payloads. -/
def daemonPayloadBase64Size : ℕ → Option ℕ := base64Size
def unstructuredBase64Size : ℕ → Option ℕ := base64Size

example : (base64Encode [102, 111, 111, 98] 9 fun _ => 7).1 = 8 := by decide
example : (List.range 10).map (base64Encode [102, 111, 111, 98] 9 fun _ => 7).2 =
    ascii "Zm9vYg==".toList ++ [0, 7] := by decide

section sextets

theorem bits (n : ℕ) (h : n < 256) :
    ((UInt8.ofNat n &&& 0xfc) >>> 2).toNat = n / 4 ∧
    ((UInt8.ofNat n &&& 0x03) <<< 4).toNat = n % 4 * 16 ∧
    ((UInt8.ofNat n &&& 0xf0) >>> 4).toNat = n / 16 ∧
    ((UInt8.ofNat n &&& 0x0f) <<< 2).toNat = n % 16 * 4 ∧
    ((UInt8.ofNat n &&& 0xc0) >>> 6).toNat = n / 64 ∧
    (UInt8.ofNat n &&& 0x3f).toNat = n % 64 := by
  revert n
  decide +kernel

theorem byte_bits (a : UInt8) :
    ((a &&& 0xfc) >>> 2).toNat = a.toNat / 4 ∧ ((a &&& 0x03) <<< 4).toNat = a.toNat % 4 * 16 ∧
    ((a &&& 0xf0) >>> 4).toNat = a.toNat / 16 ∧ ((a &&& 0x0f) <<< 2).toNat = a.toNat % 16 * 4 ∧
    ((a &&& 0xc0) >>> 6).toNat = a.toNat / 64 ∧ (a &&& 0x3f).toNat = a.toNat % 64 := by
  have all := bits a.toNat a.toNat_lt
  rwa [UInt8.ofNat_toNat] at all

theorem arr4_chars (a b c : UInt8) :
    (arr4 a b c).map (fun sextet => tableChar sextet.toNat) =
      quartet tableChar (triple a b c) := by
  obtain ⟨a1, a2, -⟩ := byte_bits a
  obtain ⟨-, -, b1, b2, -⟩ := byte_bits b
  obtain ⟨-, -, -, -, c1, c2⟩ := byte_bits c
  have ha := a.toNat_lt
  have hb := b.toNat_lt
  have hc := c.toNat_lt
  have second : (((a &&& 0x03) <<< 4) + ((b &&& 0xf0) >>> 4)).toNat =
      a.toNat % 4 * 16 + b.toNat / 16 := by
    rw [UInt8.toNat_add, a2, b1]
    omega
  have third : (((b &&& 0x0f) <<< 2) + ((c &&& 0xc0) >>> 6)).toNat =
      b.toNat % 16 * 4 + c.toNat / 64 := by
    rw [UInt8.toNat_add, b2, c1]
    omega
  have v1 : a.toNat / 4 = triple a b c / 262144 % 64 := by unfold triple; omega
  have v2 : a.toNat % 4 * 16 + b.toNat / 16 = triple a b c / 4096 % 64 := by unfold triple; omega
  have v3 : b.toNat % 16 * 4 + c.toNat / 64 = triple a b c / 64 % 64 := by unfold triple; omega
  have v4 : c.toNat % 64 = triple a b c % 64 := by unfold triple; omega
  unfold arr4 quartet
  rw [List.map_cons, List.map_cons, List.map_cons, List.map_cons, List.map_nil, a1, second, third,
    c2, v1, v2, v3, v4]

def tableValue (c : UInt8) : Option ℕ := base64Table.findIdx? (· = c)

theorem table_alphabet : Alphabet tableChar 61 tableValue :=
  ⟨by decide +kernel, by decide +kernel⟩

end sextets

section writing

variable {outputLen : ℕ} {writer : Writer}

def written (memory : Memory) (start : ℕ) (bytes : List UInt8) : Memory := fun k =>
  if start ≤ k then (bytes[k - start]?).getD (memory k) else memory k

theorem written_nil (memory : Memory) (start : ℕ) : written memory start [] = memory := by
  funext k
  unfold written
  split <;> rfl

theorem written_cons (memory : Memory) (start : ℕ) (byte : UInt8) (bytes : List UInt8) :
    written (Function.update memory start byte) (start + 1) bytes =
      written memory start (byte :: bytes) := by
  funext k
  unfold written
  by_cases first : k = start
  · rw [first, if_neg (by omega), if_pos (Nat.le_refl _), Nat.sub_self, Function.update_self]
    rfl
  · rw [Function.update_of_ne first]
    by_cases behind : start ≤ k
    · have next : k - start = (k - (start + 1)) + 1 := by omega
      rw [if_pos (by omega), if_pos behind, next, List.getElem?_cons_succ]
    · rw [if_neg (by omega), if_neg behind]

theorem written_concat (memory : Memory) (bytes : List UInt8) (byte : UInt8) :
    Function.update (written memory 0 bytes) bytes.length byte =
      written memory 0 (bytes ++ [byte]) := by
  funext k
  unfold written
  rw [if_pos (Nat.zero_le k), Nat.sub_zero]
  by_cases last : k = bytes.length
  · rw [last, Function.update_self, List.getElem?_concat_length]
    rfl
  · rw [Function.update_of_ne last, if_pos (Nat.zero_le k), Nat.sub_zero, List.getElem?_append]
    split
    · rfl
    · rename_i beyond
      rw [List.getElem?_eq_none (by omega), List.getElem?_eq_none]
      rw [List.length_singleton]
      omega

theorem putAll_append (first second : List UInt8) : putAll outputLen writer (first ++ second) =
    (putAll outputLen writer first).bind fun writer => putAll outputLen writer second :=
  List.foldlM_append

theorem putAll_fits (bytes : List UInt8) (fits : writer.j + bytes.length ≤ limit outputLen) :
    putAll outputLen writer bytes =
      .ok ⟨writer.j + bytes.length, written writer.output writer.j bytes⟩ := by
  induction bytes generalizing writer with
  | nil =>
    rw [written_nil]
    rfl
  | cons byte bytes ih =>
    rw [List.length_cons] at fits
    have room : ¬ limit outputLen ≤ writer.j := by omega
    have rest := @ih ⟨writer.j + 1, Function.update writer.output writer.j byte⟩ (by
      dsimp only
      omega)
    unfold putAll at rest ⊢
    rw [List.foldlM_cons, put, if_neg room]
    change List.foldlM (put outputLen) _ bytes = _
    rw [rest, written_cons, List.length_cons]
    dsimp only
    rw [Nat.add_assoc, Nat.add_comm 1]

theorem putAll_full (bytes : List UInt8) (inside : writer.j ≤ limit outputLen)
    (full : limit outputLen < writer.j + bytes.length) : ∃ output,
      putAll outputLen writer bytes = .error output ∧
        ∀ k, limit outputLen ≤ k → output k = writer.output k := by
  induction bytes generalizing writer with
  | nil =>
    rw [List.length_nil] at full
    omega
  | cons byte bytes ih =>
    rw [List.length_cons] at full
    unfold putAll
    rw [List.foldlM_cons, put]
    split
    · exact ⟨writer.output, rfl, fun _ _ => rfl⟩
    · rename_i room
      obtain ⟨output, failed, kept⟩ :=
        @ih ⟨writer.j + 1, Function.update writer.output writer.j byte⟩ (by
          dsimp only
          omega) (by
          dsimp only
          omega)
      refine ⟨output, failed, fun k behind => ?_⟩
      rw [kept k behind]
      have other : k ≠ writer.j := by omega
      exact Function.update_of_ne other byte writer.output

end writing

section text

variable {outputLen : ℕ}

def text (input : Bytes) : List UInt8 := encode tableChar 61 input

theorem putTail_text {group : List UInt8} (writer : Writer) (short : group.length < 3) :
    putTail outputLen group writer = putAll outputLen writer (text group) := by
  cases group with
  | nil => rw [text, encode]; rfl
  | cons a group =>
    cases group with
    | nil =>
      have chars : groupChars [a] = quartet tableChar (triple a 0 0) := arr4_chars a 0 0
      have one : [a].length = 1 := rfl
      have pads : List.replicate (3 - 1) (61 : UInt8) = [61, 61] := rfl
      unfold putTail
      rw [one, if_neg Nat.one_ne_zero, pads, text, encode, putAll_append, ← chars]
    | cons b group =>
      cases group with
      | nil =>
        have chars : groupChars [a, b] = quartet tableChar (triple a b 0) := arr4_chars a b 0
        have two : [a, b].length = 2 := rfl
        have pads : List.replicate (3 - 2) (61 : UInt8) = [61] := rfl
        unfold putTail
        rw [two, if_neg (Nat.succ_ne_zero 1), pads, text, encode, putAll_append, ← chars]
      | cons c group =>
        simp only [List.length_cons] at short
        omega

theorem feed_text {group : List UInt8} (writer : Writer) (input : List UInt8)
    (short : group.length < 3) :
    ((feed outputLen group writer input).bind fun state => putTail outputLen state.1 state.2) =
      putAll outputLen writer (text (group ++ input)) := by
  induction input generalizing group writer with
  | nil =>
    rw [List.append_nil, ← putTail_text writer short]
    rfl
  | cons c rest ih =>
    have whole : group ++ c :: rest = (group ++ [c]) ++ rest := by
      rw [List.append_assoc, List.singleton_append]
    unfold feed
    split
    · rename_i three
      obtain ⟨a, b, rfl⟩ : ∃ a b, group = [a, b] := by
        rw [List.length_append, List.length_singleton] at three
        exact List.length_eq_two.mp (by omega)
      have chars : groupChars ([a, b] ++ [c]) = quartet tableChar (triple a b c) :=
        arr4_chars a b c
      have cut : text ([a, b] ++ c :: rest) = groupChars ([a, b] ++ [c]) ++ text rest := by
        rw [chars]
        change encode tableChar 61 (a :: b :: c :: rest) = _
        rw [encode]
        rfl
      rw [cut, putAll_append]
      cases putAll outputLen writer (groupChars ([a, b] ++ [c])) with
      | error output => rfl
      | ok writer => exact ih writer (by decide)
    · rename_i fewer
      rw [List.length_append, List.length_singleton] at fewer
      rw [whole]
      exact ih writer (by rw [List.length_append, List.length_singleton]; omega)

theorem base64Encode_text (input : Bytes) (outputLen : ℕ) (memory : Memory) :
    base64Encode input outputLen memory =
      terminate (putAll outputLen ⟨0, memory⟩ (text input)) := by
  have all := @feed_text outputLen [] ⟨0, memory⟩ input (by decide)
  rw [List.nil_append] at all
  exact congrArg terminate all

theorem limit_pred (some_room : 1 ≤ outputLen) (size : outputLen ≤ SIZE_MAX) :
    limit outputLen = outputLen - 1 := by
  unfold limit
  unfold SIZE_MAX at size ⊢
  omega

theorem text_length (input : Bytes) : (text input).length = 4 * ((input.length + 2) / 3) :=
  encode_length input

theorem base64Encode_fits (input : Bytes) (size : (text input).length + 1 ≤ SIZE_MAX)
    (memory : Memory) : base64Encode input ((text input).length + 1) memory =
      (((text input).length : ℤ).bmod (2 ^ 32), written memory 0 (text input ++ [0])) := by
  have last := limit_pred (Nat.le_add_left 1 (text input).length) size
  have room : (⟨0, memory⟩ : Writer).j + (text input).length ≤
      limit ((text input).length + 1) := by
    rw [last]
    dsimp only
    omega
  rw [base64Encode_text, putAll_fits (text input) room]
  unfold terminate
  dsimp only
  rw [Nat.zero_add, written_concat]

theorem base64Encode_short (input : Bytes) (some_room : 1 ≤ outputLen)
    (short : outputLen ≤ (text input).length) (size : outputLen ≤ SIZE_MAX) (memory : Memory) :
    (base64Encode input outputLen memory).1 = -1 ∧
      ∀ k, outputLen ≤ k → (base64Encode input outputLen memory).2 k = memory k := by
  have last := limit_pred some_room size
  obtain ⟨output, failed, kept⟩ := @putAll_full outputLen ⟨0, memory⟩ (text input)
    (Nat.zero_le _) (by
      rw [last]
      dsimp only
      omega)
  rw [base64Encode_text, failed]
  exact ⟨rfl, fun k behind => kept k (by omega)⟩

end text

section handoff

variable {payload : Bytes} {sizeOf : ℕ → Option ℕ}

/-- The size computed for a payload is the exact room for its text, which the payload can be read
    back from, and nothing is written behind a smaller buffer. -/
structure HandedOff (sizeOf : ℕ → Option ℕ) (payload : Bytes) : Prop where
  size : sizeOf payload.length = some ((text payload).length + 1)
  length : (text payload).length = 4 * ((payload.length + 2) / 3)
  decodes : decode tableChar 61 tableValue (text payload) = some payload
  fits : ∀ memory, base64Encode payload ((text payload).length + 1) memory =
    (((text payload).length : ℤ), written memory 0 (text payload ++ [0]))
  smaller : ∀ outputLen, 1 ≤ outputLen → outputLen ≤ (text payload).length →
    outputLen ≤ SIZE_MAX → ∀ memory, (base64Encode payload outputLen memory).1 = -1 ∧
      ∀ k, outputLen ≤ k → (base64Encode payload outputLen memory).2 k = memory k

theorem handedOff_short (short : payload.length ≤ 1610612733) :
    HandedOff base64Size payload := by
  have length := text_length payload
  have small : (text payload).length + 1 ≤ SIZE_MAX := by
    unfold SIZE_MAX
    omega
  refine ⟨?_, length, decode_encode table_alphabet payload, fun memory => ?_, ?_⟩
  · have first : ¬ SIZE_MAX - 2 < payload.length := by
      unfold SIZE_MAX
      omega
    have second : ¬ (SIZE_MAX - 1) / 4 < (payload.length + 2) / 3 := by
      unfold SIZE_MAX
      omega
    unfold base64Size
    rw [if_neg first, if_neg second, length, Nat.mul_comm 4]
  · have int : ((text payload).length : ℤ).bmod (2 ^ 32) = (text payload).length := by
      rw [Int.bmod_eq_of_le] <;> omega
    rw [base64Encode_fits payload small memory, int]
  · intro outputLen some_room less size memory
    exact base64Encode_short payload some_room less size memory

theorem handedOff_long (handed : HandedOff base64Size payload) :
    payload.length ≤ 1610612733 := by
  have length := text_length payload
  have size := handed.size
  unfold base64Size at size
  split at size
  · cases size
  split at size
  · cases size
  rename_i groups
  have small : (text payload).length + 1 ≤ SIZE_MAX := by
    unfold SIZE_MAX at groups ⊢
    omega
  have same := congrArg Prod.fst (handed.fits fun _ => 0)
  rw [base64Encode_fits payload small] at same
  dsimp only at same
  have below : ((text payload).length : ℤ).bmod (2 ^ 32) < ((2 ^ 32 : ℕ) + 1) / 2 :=
    Int.bmod_lt (by decide)
  rw [same] at below
  omega

theorem base64_handedOff_iff (payload : Bytes) :
    HandedOff daemonPayloadBase64Size payload ∧ HandedOff unstructuredBase64Size payload ↔
      payload.length ≤ 1610612733 :=
  ⟨fun both => handedOff_long both.1, fun short => ⟨handedOff_short short, handedOff_short short⟩⟩

/-- From this length on the number of characters does not fit into an int. -/
theorem long_payload_wraps :
    (base64Encode (List.replicate 1610612734 0) 2147483649 fun _ => 0).1 = -2147483648 ∧
      ¬ HandedOff daemonPayloadBase64Size (List.replicate 1610612734 0) := by
  have count : (List.replicate 1610612734 (0 : UInt8)).length = 1610612734 := List.length_replicate
  have length : (text (List.replicate 1610612734 0)).length = 2147483648 := by
    rw [text_length, count]
  constructor
  · have fits := base64Encode_fits (List.replicate 1610612734 0)
      (by rw [length]; decide) fun _ => 0
    rw [length] at fits
    rw [fits]
    decide
  · intro handed
    have short := handedOff_long handed
    rw [count] at short
    omega

end handoff

end Siglatch.LibBase64
