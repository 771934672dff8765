import Stencil.Number.Shortest
import Stencil.Text.Basic

/-!
# Floating-point numbers as text

A style says between which powers of ten a number is written positionally, how its exponent is
marked and what a number without a fraction looks like.
-/

namespace Stencil.Number

structure Style where
  /-- Positional from this power of the leading digit on. -/
  positionalFrom : Int
  /-- Positional below this power of the leading digit. -/
  positionalBelow : Int
  /-- Written behind a positional number without a fraction. -/
  wholeTail : Text
  exponentMark : Char
  exponentWidth : Nat

/-- Numbers are written positionally from `0.0001` up to sixteen digits, always with a fraction,
and otherwise with a signed exponent of at least two digits. -/
def Style.plain : Style := ⟨-4, 16, ['.', '0'], 'e', 2⟩

def trimZeros (ds : Text) : Text := (ds.reverse.dropWhile (· == '0')).reverse

def signText (negative : Bool) : Text := if negative then ['-'] else []

def exponentText (mark : Char) (width : Nat) (e : Int) : Text :=
  mark :: (if e < 0 then '-' else '+') :: Text.padLeft '0' width (Text.ofNat e.natAbs)

/-- Digits with a point behind the first `whole` of them, filled with zeros on either side. -/
def placePoint (ds : Text) (whole : Int) (tail : Text) : Text :=
  if whole ≤ 0 then '0' :: '.' :: List.replicate (-whole).toNat '0' ++ ds
  else
    let n := whole.toNat
    if ds.length ≤ n then ds ++ List.replicate (n - ds.length) '0' ++ tail
    else ds.take n ++ '.' :: ds.drop n

def Style.decimal (s : Style) (d : Decimal) : Text :=
  let ds := trimZeros (Text.ofNat d.digits)
  let lead : Int := d.exponent + (Text.ofNat d.digits).length - 1
  if s.positionalFrom ≤ lead ∧ lead < s.positionalBelow then placePoint ds (lead + 1) s.wholeTail
  else
    let mantissa := match ds with
      | first :: more@(_ :: _) => first :: '.' :: more
      | short => short
    mantissa ++ exponentText s.exponentMark s.exponentWidth lead

def display (x : Float) : Text :=
  match Binary.ofFloat x with
  | .nan => "nan".toList
  | .infinite negative => signText negative ++ "inf".toList
  | .finite negative 0 _ => signText negative ++ "0.0".toList
  | .finite negative m e => signText negative ++ Style.plain.decimal (shortest m e)

/-! ## Given precision -/

def fixed (places n d : Nat) : Text :=
  let ds := Text.padLeft '0' (places + 1) (Text.ofNat (toPlaces places n d))
  if places = 0 then ds
  else ds.take (ds.length - places) ++ '.' :: ds.drop (ds.length - places)

def scientific (mark : Char) (places n d : Nat) : Text :=
  let (ds, lead) : Text × Int :=
    if n = 0 then (List.replicate (places + 1) '0', 0)
    else
      let decimal := toDigits (places + 1) n d
      (Text.ofNat decimal.digits, decimal.exponent + places)
  (match ds with
    | first :: more@(_ :: _) => first :: '.' :: more
    | short => short) ++ exponentText mark 2 lead

inductive WholeMark where
  /-- Not at all. -/
  | none
  /-- By a point and a zero. -/
  | pointZero
  /-- All digits asked for are kept, with a point. -/
  | allDigits
deriving DecidableEq, Repr

/-- A fraction with a number of significant digits, positional or with an exponent, whichever its
leading digit asks for. Some of the digits may be reserved, so that a number that needs them all
before its point is written with an exponent. -/
def general (mark : Char) (whole : WholeMark) (reserved precision n d : Nat) : Text :=
  let count := max precision 1
  let (ds, lead) : Text × Int :=
    if n = 0 then (List.replicate count '0', 0)
    else
      let decimal := toDigits count n d
      (Text.ofNat decimal.digits, decimal.exponent + count - 1)
  let kept := if whole = .allDigits then ds else
    match trimZeros ds with
    | [] => ['0']
    | short => short
  if -4 ≤ lead ∧ lead + reserved < count then
    placePoint kept (lead + 1) (match whole with
      | .none => []
      | .pointZero => ['.', '0']
      | .allDigits => ['.'])
  else
    (match kept, whole with
      | [first], .allDigits => [first, '.']
      | first :: more@(_ :: _), _ => first :: '.' :: more
      | short, _ => short) ++ exponentText mark 2 lead

end Stencil.Number
