import Mathlib.Data.Nat.Basic
import Mathlib.Tactic.Ring

set_option autoImplicit false

namespace Siglatch.ByteOrder

/-- The `k` low bytes of a number, least significant first. -/
def leBytes : ℕ → ℕ → List UInt8
  | 0, _ => []
  | k + 1, v => UInt8.ofNat v :: leBytes k (v / 256)

def leValue : List UInt8 → ℕ
  | [] => 0
  | b :: bs => b.toNat + 256 * leValue bs

def beBytes (k v : ℕ) : List UInt8 := (leBytes k v).reverse
def beValue (bs : List UInt8) : ℕ := leValue bs.reverse

def slice (offset length : ℕ) (buf : List UInt8) : List UInt8 := (buf.drop offset).take length

def byteAt (buf : List UInt8) (offset : ℕ) : UInt8 := buf.getD offset 0

@[simp] theorem length_leBytes (k v : ℕ) : (leBytes k v).length = k := by
  induction k generalizing v with
  | zero => rfl
  | succ k ih => simp only [leBytes, List.length_cons, ih]

@[simp] theorem length_beBytes (k v : ℕ) : (beBytes k v).length = k := by
  rw [beBytes, List.length_reverse, length_leBytes]

theorem leValue_leBytes (k v : ℕ) : leValue (leBytes k v) = v % 256 ^ k := by
  induction k generalizing v with
  | zero => simp only [leBytes, leValue, pow_zero, Nat.mod_one]
  | succ k ih =>
    have low : (UInt8.ofNat v).toNat = v % 256 := UInt8.toNat_ofNat'
    rw [leBytes, leValue, ih, low, pow_succ, Nat.mul_comm (256 ^ k), Nat.mod_mul]

theorem leValue_leBytes_of_lt {k v : ℕ} (h : v < 256 ^ k) : leValue (leBytes k v) = v := by
  rw [leValue_leBytes, Nat.mod_eq_of_lt h]

theorem beValue_beBytes_of_lt {k v : ℕ} (h : v < 256 ^ k) : beValue (beBytes k v) = v := by
  rw [beValue, beBytes, List.reverse_reverse, leValue_leBytes_of_lt h]

theorem slice_head (a b : List UInt8) : slice 0 a.length (a ++ b) = a := by
  rw [slice, List.drop_zero, List.take_left]

theorem slice_skip {a : List UInt8} (b : List UInt8) {offset : ℕ} (length : ℕ)
    (h : a.length ≤ offset) :
    slice offset length (a ++ b) = slice (offset - a.length) length b := by
  rw [slice, slice, List.drop_append, List.drop_of_length_le h, List.nil_append]

theorem slice_all (a : List UInt8) : slice 0 a.length a = a := by
  rw [slice, List.drop_zero, List.take_length]

theorem slice_flatten (fields : List (List UInt8)) (k : ℕ) (field : List UInt8)
    (h : fields[k]? = some field) :
    slice ((fields.take k).map List.length).sum field.length fields.flatten = field := by
  induction fields generalizing k with
  | nil => cases h
  | cons first fields ih =>
    rw [List.flatten_cons]
    cases k with
    | zero =>
      rw [List.getElem?_cons_zero, Option.some.injEq] at h
      subst h
      exact slice_head first fields.flatten
    | succ k =>
      rw [List.getElem?_cons_succ] at h
      rw [List.take_succ_cons, List.map_cons, List.sum_cons, slice_skip _ _ (Nat.le_add_right _ _),
        Nat.add_sub_cancel_left]
      exact ih k h

theorem flatMap_slice {offset length : ℕ → ℕ} (first : offset 0 = 0) (count : ℕ)
    (next : ∀ i < count, offset (i + 1) = offset i + length i) (buf : List UInt8) :
    (List.range count).flatMap (fun i => slice (offset i) (length i) buf) =
      buf.take (offset count) := by
  induction count with
  | zero => rw [first, List.take_zero]; rfl
  | succ count ih =>
    rw [List.range_succ, List.flatMap_append, ih fun i hi => next i (Nat.lt_succ_of_lt hi),
      next count (Nat.lt_succ_self count), List.take_add, List.flatMap_singleton]
    rfl

theorem byteAt_skip {a : List UInt8} (b : List UInt8) {offset : ℕ} (h : a.length ≤ offset) :
    byteAt (a ++ b) offset = byteAt b (offset - a.length) := by
  rw [byteAt, byteAt, List.getD_eq_getElem?_getD, List.getD_eq_getElem?_getD,
    List.getElem?_append_right h]

theorem byteAt_head (c : UInt8) (b : List UInt8) : byteAt ([c] ++ b) 0 = c := rfl

def writeU16Be (v : UInt16) : List UInt8 := beBytes 2 v.toNat
def writeU32Be (v : UInt32) : List UInt8 := beBytes 4 v.toNat
def writeU64Be (v : UInt64) : List UInt8 := beBytes 8 v.toNat

def readU16Be (buf : List UInt8) (offset : ℕ) : UInt16 :=
  UInt16.ofNat (beValue (slice offset 2 buf))
def readU32Be (buf : List UInt8) (offset : ℕ) : UInt32 :=
  UInt32.ofNat (beValue (slice offset 4 buf))
def readU64Be (buf : List UInt8) (offset : ℕ) : UInt64 :=
  UInt64.ofNat (beValue (slice offset 8 buf))

@[simp] theorem length_writeU16Be (v : UInt16) : (writeU16Be v).length = 2 := length_beBytes 2 _
@[simp] theorem length_writeU32Be (v : UInt32) : (writeU32Be v).length = 4 := length_beBytes 4 _
@[simp] theorem length_writeU64Be (v : UInt64) : (writeU64Be v).length = 8 := length_beBytes 8 _

theorem readU16Be_head (v : UInt16) (b : List UInt8) : readU16Be (writeU16Be v ++ b) 0 = v := by
  have front := slice_head (writeU16Be v) b
  rw [length_writeU16Be] at front
  rw [readU16Be, front, writeU16Be, beValue_beBytes_of_lt v.toNat_lt, UInt16.ofNat_toNat]

theorem readU32Be_head (v : UInt32) (b : List UInt8) : readU32Be (writeU32Be v ++ b) 0 = v := by
  have front := slice_head (writeU32Be v) b
  rw [length_writeU32Be] at front
  rw [readU32Be, front, writeU32Be, beValue_beBytes_of_lt v.toNat_lt, UInt32.ofNat_toNat]

theorem readU64Be_head (v : UInt64) (b : List UInt8) : readU64Be (writeU64Be v ++ b) 0 = v := by
  have front := slice_head (writeU64Be v) b
  rw [length_writeU64Be] at front
  rw [readU64Be, front, writeU64Be, beValue_beBytes_of_lt v.toNat_lt, UInt64.ofNat_toNat]

theorem readU16Be_skip {a : List UInt8} (b : List UInt8) {offset : ℕ} (h : a.length ≤ offset) :
    readU16Be (a ++ b) offset = readU16Be b (offset - a.length) := by
  rw [readU16Be, readU16Be, slice_skip b 2 h]

theorem readU32Be_skip {a : List UInt8} (b : List UInt8) {offset : ℕ} (h : a.length ≤ offset) :
    readU32Be (a ++ b) offset = readU32Be b (offset - a.length) := by
  rw [readU32Be, readU32Be, slice_skip b 4 h]

theorem readU64Be_skip {a : List UInt8} (b : List UInt8) {offset : ℕ} (h : a.length ≤ offset) :
    readU64Be (a ++ b) offset = readU64Be b (offset - a.length) := by
  rw [readU64Be, readU64Be, slice_skip b 8 h]

def readU16Le (buf : List UInt8) (offset : ℕ) : UInt16 :=
  UInt16.ofNat (leValue (slice offset 2 buf))
def readU32Le (buf : List UInt8) (offset : ℕ) : UInt32 :=
  UInt32.ofNat (leValue (slice offset 4 buf))

section Slices

variable {buf : List UInt8} {offset : ℕ}

theorem byteAt_of_slice {c : UInt8} (h : slice offset 1 buf = [c]) : byteAt buf offset = c := by
  have first := congrArg List.head? h
  rw [slice, List.head?_take, if_neg one_ne_zero, List.head?_drop] at first
  rw [byteAt, List.getD_eq_getElem?_getD, first]
  rfl

theorem readU16Le_of_slice {v : UInt16} (h : slice offset 2 buf = leBytes 2 v.toNat) :
    readU16Le buf offset = v := by
  rw [readU16Le, h, leValue_leBytes_of_lt v.toNat_lt, UInt16.ofNat_toNat]

theorem readU32Le_of_slice {v : UInt32} (h : slice offset 4 buf = leBytes 4 v.toNat) :
    readU32Le buf offset = v := by
  rw [readU32Le, h, leValue_leBytes_of_lt v.toNat_lt, UInt32.ofNat_toNat]

theorem readU16Be_of_slice {v : UInt16} (h : slice offset 2 buf = writeU16Be v) :
    readU16Be buf offset = v := by
  rw [readU16Be, h, writeU16Be, beValue_beBytes_of_lt v.toNat_lt, UInt16.ofNat_toNat]

theorem readU32Be_of_slice {v : UInt32} (h : slice offset 4 buf = writeU32Be v) :
    readU32Be buf offset = v := by
  rw [readU32Be, h, writeU32Be, beValue_beBytes_of_lt v.toNat_lt, UInt32.ofNat_toNat]

end Slices

section Wire

variable {buf : List UInt8} {offset : ℕ}

theorem leBytes_leValue (bs : List UInt8) : leBytes bs.length (leValue bs) = bs := by
  induction bs with
  | nil => rfl
  | cons b bs ih =>
    have small := b.toNat_lt
    have low : UInt8.ofNat (b.toNat + 256 * leValue bs) = b := by
      apply UInt8.toNat_inj.mp
      rw [UInt8.toNat_ofNat']
      omega
    rw [List.length_cons, leValue, leBytes, low, show (b.toNat + 256 * leValue bs) / 256 =
      leValue bs by omega, ih]

theorem leValue_lt (bs : List UInt8) : leValue bs < 256 ^ bs.length := by
  have back := leValue_leBytes bs.length (leValue bs)
  rw [leBytes_leValue] at back
  rw [back]
  exact Nat.mod_lt _ (Nat.pow_pos (by omega))

theorem beBytes_beValue (bs : List UInt8) : beBytes bs.length (beValue bs) = bs := by
  rw [beBytes, beValue, ← List.length_reverse, leBytes_leValue, List.reverse_reverse]

theorem beValue_lt (bs : List UInt8) : beValue bs < 256 ^ bs.length := by
  rw [beValue, ← List.length_reverse]
  exact leValue_lt bs.reverse

theorem length_slice {length : ℕ} (inside : offset + length ≤ buf.length) :
    (slice offset length buf).length = length := by
  rw [slice, List.length_take, List.length_drop]
  omega

/-- A number that was read off the wire is written as it stood there. -/
theorem writeU16Be_readU16Be (inside : offset + 2 ≤ buf.length) :
    writeU16Be (readU16Be buf offset) = slice offset 2 buf := by
  have length := length_slice inside
  have small := beValue_lt (slice offset 2 buf)
  have back := beBytes_beValue (slice offset 2 buf)
  rw [length] at small back
  rw [writeU16Be, readU16Be, UInt16.toNat_ofNat',
    show 2 ^ 16 = 256 ^ 2 from rfl, Nat.mod_eq_of_lt small, back]

theorem writeU32Be_readU32Be (inside : offset + 4 ≤ buf.length) :
    writeU32Be (readU32Be buf offset) = slice offset 4 buf := by
  have length := length_slice inside
  have small := beValue_lt (slice offset 4 buf)
  have back := beBytes_beValue (slice offset 4 buf)
  rw [length] at small back
  rw [writeU32Be, readU32Be, UInt32.toNat_ofNat',
    show 2 ^ 32 = 256 ^ 4 from rfl, Nat.mod_eq_of_lt small, back]

theorem writeU64Be_readU64Be (inside : offset + 8 ≤ buf.length) :
    writeU64Be (readU64Be buf offset) = slice offset 8 buf := by
  have length := length_slice inside
  have small := beValue_lt (slice offset 8 buf)
  have back := beBytes_beValue (slice offset 8 buf)
  rw [length] at small back
  rw [writeU64Be, readU64Be, UInt64.toNat_ofNat',
    show 2 ^ 64 = 256 ^ 8 from rfl, Nat.mod_eq_of_lt small, back]

theorem slice_one (inside : offset + 1 ≤ buf.length) :
    [byteAt buf offset] = slice offset 1 buf := by
  rw [slice, List.take_one, List.head?_drop, byteAt, List.getD_eq_getElem?_getD,
    List.getElem?_eq_getElem inside]
  rfl

theorem slice_append (offset first second : ℕ) (buf : List UInt8) :
    slice offset first buf ++ slice (offset + first) second buf =
      slice offset (first + second) buf := by
  rw [slice, slice, slice, List.take_add, List.drop_drop]

end Wire

end Siglatch.ByteOrder
