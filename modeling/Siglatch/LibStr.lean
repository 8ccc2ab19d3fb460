import Siglatch.NetIpRange
import Mathlib.Algebra.Group.Int.Defs
import Mathlib.Data.List.TakeWhile

set_option autoImplicit false

namespace Siglatch.LibStr
open MuxTypes NetIpRange

def cString (buf : Bytes) : CString := buf.takeWhile (· ≠ 0)

theorem cString_clean {text : CString} (clean : 0 ∉ text) : cString text = text :=
  List.takeWhile_eq_self_iff.mpr fun _ member =>
    decide_eq_true fun zero => clean (zero ▸ member)

def lcpy (src : CString) (dstsize : ℕ) : CString := src.take (dstsize - 1)

/-- What `%u` prints. -/
def decimalText (n : ℕ) : CString := ascii (Nat.toDigits 10 n)

theorem decimalText_length {n k : ℕ} (positive : 0 < k) (small : n < 10 ^ k) :
    (decimalText n).length ≤ k := by
  rw [decimalText, ascii, List.length_map]
  exact (Nat.length_toDigits_le_iff (by omega) positive).mpr small

def trim (str : CString) : CString := ((str.dropWhile isSpace).reverse.dropWhile isSpace).reverse

def toLower (c : UInt8) : UInt8 := if 65 ≤ c && c ≤ 90 then c + 32 else c

/-- `strcasecmp` finds no difference. -/
def sameIgnoringCase (a b : CString) : Bool := a.map toLower == b.map toLower

def toBool (text : CString) : Option Bool :=
  if sameIgnoringCase text (ascii ['1']) || sameIgnoringCase text (ascii ['y', 'e', 's']) then
    some true
  else if sameIgnoringCase text (ascii ['0']) || sameIgnoringCase text (ascii ['n', 'o']) then
    some false
  else none

def splitKv (text : CString) : Option (CString × CString) :=
  if 61 ∈ text then
    some (trim (text.takeWhile (· ≠ 61)), trim (text.dropWhile (· ≠ 61)).tail)
  else none

/-- `strtok` over all of a text: the pieces between commas, without the empty ones. -/
def tokens (value : CString) : List CString := (value.splitOn 44).filter (· ≠ [])

/-- The items that were there before stay in front. -/
def parseCsvFixed (items : List CString) (maxItems itemSize : ℕ) (value : CString) : List CString :=
  items ++ ((tokens value).take (maxItems - items.length)).map fun tok => lcpy (trim tok) itemSize

def LONG_MAX : ℤ := 2 ^ 63 - 1

def strtol (text : CString) : ℤ :=
  let body := text.dropWhile isSpace
  let negative := body.head? = some 45
  let digits := if negative ∨ body.head? = some 43 then body.tail else body
  let magnitude : ℤ := (digits.takeWhile isDigit).foldl (fun n c => n * 10 + (c.toNat - 48)) 0
  if negative then max (-LONG_MAX - 1) (-magnitude) else min LONG_MAX magnitude

/-- The long that `strtol` gives, cut down to an int. -/
def atoi (text : CString) : ℤ := (strtol text).bmod (2 ^ 32)

example : toBool (ascii ['Y', 'e', 's']) = some true := by decide
example : atoi (ascii ['-', '4', '2']) = -42 := by decide
example : atoi (ascii ['4', '2', '9', '4', '9', '6', '7', '2', '9', '6']) = 0 := by decide
example : splitKv (ascii ['p', ' ', '=', ' ', '5']) = some (ascii ['p'], ascii ['5']) := by decide

end Siglatch.LibStr
