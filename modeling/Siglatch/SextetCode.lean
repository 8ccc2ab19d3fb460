import Mathlib.Algebra.Group.Nat.Defs
import Mathlib.Data.List.Basic

set_option autoImplicit false

namespace Siglatch.SextetCode

/-! Bytes as characters of six bits each, in groups of four that a padding character fills up. -/

section code

variable {α : Type*} [DecidableEq α] (char : ℕ → α) (pad : α) (value : α → Option ℕ)

def quartet (v : ℕ) : List α :=
  [char (v / 262144 % 64), char (v / 4096 % 64), char (v / 64 % 64), char (v % 64)]

def triple (a b c : UInt8) : ℕ := (a.toNat * 256 + b.toNat) * 256 + c.toNat

def encode : List UInt8 → List α
  | [] => []
  | [a] => (quartet char (triple a 0 0)).take 2 ++ [pad, pad]
  | [a, b] => (quartet char (triple a b 0)).take 3 ++ [pad]
  | a :: b :: c :: rest => quartet char (triple a b c) ++ encode rest

/-- The leading bytes of a number of 24 bits, if nothing is in the others. -/
def bytes (count v : ℕ) : Option (List UInt8) :=
  if v % 256 ^ (3 - count) = 0 then
    some ([UInt8.ofNat (v / 65536), UInt8.ofNat (v / 256), UInt8.ofNat v].take count)
  else none

def number (a b c d : α) : Option ℕ := do
  let x ← value a
  let y ← value b
  let z ← value c
  let w ← value d
  some (((x * 64 + y) * 64 + z) * 64 + w)

/-- Padding stands for zeros, at the end of the last group only. -/
def decode : List α → Option (List UInt8)
  | [] => some []
  | a :: b :: c :: d :: rest =>
    if rest = [] ∧ d = pad then
      if c = pad then (number value a b (char 0) (char 0)).bind (bytes 1)
      else (number value a b c (char 0)).bind (bytes 2)
    else do
      let v ← number value a b c d
      let front ← bytes 3 v
      let back ← decode rest
      some (front ++ back)
  | _ => none

structure Alphabet : Prop where
  value_char : ∀ i < 64, value (char i) = some i
  char_ne_pad : ∀ i < 64, char i ≠ pad

end code

section laws

variable {α : Type*} {char : ℕ → α} {pad : α} {value : α → Option ℕ}

@[simp] theorem quartet_length (v : ℕ) : (quartet char v).length = 4 := rfl

theorem encode_length (input : List UInt8) :
    (encode char pad input).length = 4 * ((input.length + 2) / 3) := by
  induction input using encode.induct with
  | case1 => rw [encode]; rfl
  | case2 a => simp [encode]
  | case3 a b => simp [encode]
  | case4 a b c rest ih =>
    rw [encode, List.length_append, ih, quartet_length, List.length_cons, List.length_cons,
      List.length_cons]
    omega

theorem quartet_mem {v : ℕ} {c : α} (member : c ∈ quartet char v) : ∃ i < 64, c = char i := by
  have small (n : ℕ) : n % 64 < 64 := Nat.mod_lt n (by decide)
  simp only [quartet, List.mem_cons, List.not_mem_nil, or_false] at member
  rcases member with rfl | rfl | rfl | rfl
  · exact ⟨_, small _, rfl⟩
  · exact ⟨_, small _, rfl⟩
  · exact ⟨_, small _, rfl⟩
  · exact ⟨_, small _, rfl⟩

theorem encode_mem {input : List UInt8} {c : α} (member : c ∈ encode char pad input) :
    c = pad ∨ ∃ i < 64, c = char i := by
  induction input using encode.induct with
  | case1 =>
    rw [encode] at member
    exact absurd member List.not_mem_nil
  | case2 a =>
    rw [encode] at member
    rcases List.mem_append.mp member with front | padding
    · exact .inr (quartet_mem (List.mem_of_mem_take front))
    · simp only [List.mem_cons, List.not_mem_nil, or_false, or_self] at padding
      exact .inl padding
  | case3 a b =>
    rw [encode] at member
    rcases List.mem_append.mp member with front | padding
    · exact .inr (quartet_mem (List.mem_of_mem_take front))
    · exact .inl (List.mem_singleton.mp padding)
  | case4 a b c rest ih =>
    rw [encode] at member
    rcases List.mem_append.mp member with front | rest
    · exact .inr (quartet_mem front)
    · exact ih rest

theorem triple_lt (a b c : UInt8) : triple a b c < 16777216 := by
  have ha := a.toNat_lt
  have hb := b.toNat_lt
  have hc := c.toNat_lt
  unfold triple
  omega

theorem number_quartet (alphabet : Alphabet char pad value) {v : ℕ} (h : v < 16777216) :
    number value (char (v / 262144 % 64)) (char (v / 4096 % 64)) (char (v / 64 % 64))
      (char (v % 64)) = some v := by
  have sum : ((v / 262144 % 64 * 64 + v / 4096 % 64) * 64 + v / 64 % 64) * 64 + v % 64 = v := by
    omega
  unfold number
  rw [alphabet.value_char _ (Nat.mod_lt _ (by decide)),
    alphabet.value_char _ (Nat.mod_lt _ (by decide)),
    alphabet.value_char _ (Nat.mod_lt _ (by decide)),
    alphabet.value_char _ (Nat.mod_lt _ (by decide))]
  exact congrArg some sum

theorem bytes_triple (a b c : UInt8) : bytes 3 (triple a b c) = some [a, b, c] := by
  have ha := a.toNat_lt
  have hb := b.toNat_lt
  have hc := c.toNat_lt
  have high : UInt8.ofNat (triple a b c / 65536) = a := by
    rw [← UInt8.toNat_inj, UInt8.toNat_ofNat']
    unfold triple
    omega
  have middle : UInt8.ofNat (triple a b c / 256) = b := by
    rw [← UInt8.toNat_inj, UInt8.toNat_ofNat']
    unfold triple
    omega
  have low : UInt8.ofNat (triple a b c) = c := by
    rw [← UInt8.toNat_inj, UInt8.toNat_ofNat']
    unfold triple
    omega
  have whole : triple a b c % 256 ^ (3 - 3) = 0 := Nat.mod_one _
  unfold bytes
  rw [high, middle, low, if_pos whole]
  rfl

theorem bytes_prefix {count : ℕ} {a b c : UInt8}
    (zeros : triple a b c % 256 ^ (3 - count) = 0) :
    bytes count (triple a b c) = some ([a, b, c].take count) := by
  have divides : triple a b c % 256 ^ (3 - 3) = 0 := Nat.mod_one _
  have whole := bytes_triple a b c
  unfold bytes at whole ⊢
  rw [if_pos divides] at whole
  have list := Option.some.inj whole
  rw [List.take_of_length_le (Nat.le_refl 3)] at list
  rw [if_pos zeros, list]

theorem low_sextets (a b : UInt8) :
    triple a 0 0 / 64 % 64 = 0 ∧ triple a 0 0 % 64 = 0 ∧ triple a b 0 % 64 = 0 := by
  have zero : (0 : UInt8).toNat = 0 := rfl
  unfold triple
  rw [zero]
  omega

theorem decode_encode [DecidableEq α] (alphabet : Alphabet char pad value) (input : List UInt8) :
    decode char pad value (encode char pad input) = some input := by
  induction input using encode.induct with
  | case1 => rw [encode, decode]
  | case2 a =>
    obtain ⟨third, fourth, -⟩ := low_sextets a 0
    have read := number_quartet alphabet (triple_lt a 0 0)
    rw [third, fourth] at read
    have zeros : triple a 0 0 % 256 ^ (3 - 1) = 0 := by
      have zero : (0 : UInt8).toNat = 0 := rfl
      unfold triple
      rw [zero]
      omega
    rw [encode]
    change decode char pad value [_, _, pad, pad] = _
    rw [decode, if_pos ⟨rfl, rfl⟩, if_pos rfl, read]
    exact bytes_prefix zeros
  | case3 a b =>
    obtain ⟨-, -, fourth⟩ := low_sextets a b
    have read := number_quartet alphabet (triple_lt a b 0)
    rw [fourth] at read
    have zeros : triple a b 0 % 256 ^ (3 - 2) = 0 := by
      have zero : (0 : UInt8).toNat = 0 := rfl
      unfold triple
      rw [zero]
      omega
    have used : char (triple a b 0 / 64 % 64) ≠ pad :=
      alphabet.char_ne_pad _ (Nat.mod_lt _ (by decide))
    rw [encode]
    change decode char pad value [_, _, _, pad] = _
    rw [decode, if_pos ⟨rfl, rfl⟩, if_neg used, read]
    exact bytes_prefix zeros
  | case4 a b c rest ih =>
    have last : ¬ (encode char pad rest = [] ∧ char (triple a b c % 64) = pad) := fun h =>
      alphabet.char_ne_pad _ (Nat.mod_lt _ (by decide)) h.2
    rw [encode]
    change decode char pad value (_ :: _ :: _ :: _ :: encode char pad rest) = _
    rw [decode, if_neg last, number_quartet alphabet (triple_lt a b c), Option.bind_eq_bind,
      Option.bind_some, bytes_triple, Option.bind_eq_bind, Option.bind_some, ih]
    rfl

end laws

end Siglatch.SextetCode
