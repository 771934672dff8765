import Stencil.Text.Basic

/-!
# Decimal digits

A decimal digit is a character of one of the blocks of ten that number systems use: it has a
value from 0 to 9 and stands in a block that starts with a zero.
-/

namespace Stencil.Text

def digitZeros : List Nat := [
  1632, 1776, 1984, 2406, 2534, 2662, 2790, 2918, 3046, 3174, 3302, 3430, 3558, 3664, 3792,
  3872, 4160, 4240, 6112, 6160, 6470, 6608, 6784, 6800, 6992, 7088, 7232, 7248, 42528,
  43216, 43264, 43472, 43504, 43600, 44016, 65296, 66720, 68912, 69734, 69872, 69942,
  70096, 70384, 70736, 70864, 71248, 71360, 71472, 71904, 72016, 72784, 73040, 73120,
  92768, 92864, 93008, 120782, 120792, 120802, 120812, 120822, 123200, 123632, 125264,
  130032]

def digitValue? (c : Char) : Option Nat :=
  if '0' ≤ c ∧ c ≤ '9' then some (c.toNat - '0'.toNat)
  else if c.toNat < 128 then none
  else (digitZeros.find? fun first => first ≤ c.toNat && c.toNat < first + 10).map (c.toNat - ·)

def isDecimalDigit (c : Char) : Bool := (digitValue? c).isSome

def digitLikeRanges : List (Nat × Nat) := [
  (178, 179), (185, 185), (4969, 4977), (6618, 6618), (8304, 8304), (8308, 8313),
  (8320, 8329), (9312, 9320), (9332, 9340), (9352, 9360), (9450, 9450), (9461, 9469),
  (9471, 9471), (10102, 10110), (10112, 10120), (10122, 10130), (68160, 68163),
  (69216, 69224), (69714, 69722), (127232, 127242)]

def isDigitLike (c : Char) : Bool := isDecimalDigit c || inRanges digitLikeRanges c

def isHexDigit (c : Char) : Bool :=
  c.isDigit || ('a' ≤ c && c ≤ 'f') || ('A' ≤ c && c ≤ 'F')

def hexValue (c : Char) : Nat :=
  if c.isDigit then c.toNat - '0'.toNat
  else if 'a' ≤ c ∧ c ≤ 'f' then c.toNat - 'a'.toNat + 10
  else c.toNat - 'A'.toNat + 10

def hexNumber (t : Text) : Nat := t.foldl (fun n c => n * 16 + hexValue c) 0

/-- The number that a text of decimal digits writes, most significant first. However many they are:
spans, instances and captured values are counted, and no count comes near the limit on digits. -/
def digitsToNat? (t : Text) : Option Nat :=
  t.foldl (fun acc c => acc.bind fun n => (digitValue? c).map (10 * n + ·)) (some 0)

end Stencil.Text
