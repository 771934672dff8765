import Stencil.Number.Binary
import Stencil.Text.Blank
import Stencil.Text.Digit

/-!
# Reading numbers

A decimal text is a sign, digits with at most one point among them, and an exponent. An
underscore may stand between two digits. The number read is the floating-point number nearest to
the decimal.
-/

namespace Stencil.Number

def digitTail (isDigit : Char → Bool) : Text → Text × Text
  | [] => ([], [])
  | '_' :: c :: rest =>
    if isDigit c then
      let (ds, behind) := digitTail isDigit rest
      (c :: ds, behind)
    else ([], '_' :: c :: rest)
  | c :: rest =>
    if isDigit c then
      let (ds, behind) := digitTail isDigit rest
      (c :: ds, behind)
    else ([], c :: rest)

/-- Digits with single underscores between them, written without the underscores; the rest of the
text follows. `none` if no digit comes first. -/
def digitRun? (isDigit : Char → Bool) : Text → Option (Text × Text)
  | [] => none
  | c :: rest =>
    if isDigit c then
      let (ds, behind) := digitTail isDigit rest
      some (c :: ds, behind)
    else none

def digitsToNat (base : Nat) (value : Char → Nat) (ds : Text) : Nat :=
  ds.foldl (fun n c => base * n + value c) 0

def alphaDigit (c : Char) : Nat :=
  if c.isDigit then c.toNat - '0'.toNat
  else if 'a' ≤ c ∧ c ≤ 'z' then c.toNat - 'a'.toNat + 10
  else if 'A' ≤ c ∧ c ≤ 'Z' then c.toNat - 'A'.toNat + 10
  else (Text.digitValue? c).getD 36

def ofDecimal (negative : Bool) (digits : Nat) (exponent : Int) : Float :=
  let lead : Int := exponent + (Nat.toDigits 10 digits).length
  if digits = 0 ∨ lead < -330 then zero negative
  else if 330 < lead then infinity negative
  else
    let (n, d) : Nat × Nat :=
      if 0 ≤ exponent then (digits * Nat.pow 10 exponent.toNat, 1)
      else (digits, Nat.pow 10 (-exponent).toNat)
    (ofRatio? (if negative then -(n : Int) else n) d).getD (infinity negative)

def takeSign : Text → Bool × Text
  | '-' :: rest => (true, rest)
  | '+' :: rest => (false, rest)
  | t => (false, t)

def unsignedDecimal? (t : Text) : Option (Text × Text × Int × Text) := do
  let (whole, rest) := (digitRun? Text.isDecimalDigit t).getD ([], t)
  let (places, rest) := match rest with
    | '.' :: more => (digitRun? Text.isDecimalDigit more).getD ([], more)
    | _ => ([], rest)
  if whole.isEmpty && places.isEmpty then none
  match rest with
  | e :: more =>
    if e = 'e' ∨ e = 'E' then
      let (negative, more) := takeSign more
      let (ds, behind) ← digitRun? Text.isDecimalDigit more
      let n : Int := digitsToNat 10 alphaDigit ds
      some (whole, places, if negative then -n else n, behind)
    else some (whole, places, 0, rest)
  | [] => some (whole, places, 0, [])

/-- A floating-point number with blanks around it; infinities and the number that is none may be
spelled out in any case. -/
def parseFloat? (t : Text) : Option Float :=
  let (negative, rest) := takeSign (Text.strip t)
  let word := rest.map Char.toLower
  if word = "inf".toList ∨ word = "infinity".toList then some (infinity negative)
  else if word = "nan".toList then some notANumber
  else do
    let (whole, places, e, behind) ← unsignedDecimal? rest
    if behind.isEmpty then
      let digits := digitsToNat 10 alphaDigit (whole ++ places)
      some (ofDecimal negative digits (e - places.length))
    else none

def baseMark? : Text → Option (Nat × Text)
  | '0' :: mark :: rest =>
    if mark = 'x' ∨ mark = 'X' then some (16, rest)
    else if mark = 'o' ∨ mark = 'O' then some (8, rest)
    else if mark = 'b' ∨ mark = 'B' then some (2, rest)
    else none
  | _ => none

structure Numeral where
  base : Nat
  negative : Bool
  digits : Text

namespace Numeral

def value (n : Numeral) : Int :=
  let size : Int := digitsToNat n.base alphaDigit n.digits
  if n.negative then -size else size

/-- Digits in a base that is a power of two are never too many. -/
def isTooLong (n : Numeral) : Bool :=
  !([2, 4, 8, 16, 32].contains n.base) && Text.maxDigits < n.digits.length

end Numeral

/-- A numeral in a base from 2 to 36, with a sign and blanks around it. Base zero takes the
base from the mark, and without a mark a leading zero is refused. -/
def numeral? (base : Nat) (t : Text) : Option Numeral := do
  let (negative, rest) := takeSign (Text.strip t)
  let (radix, body, marked) : Nat × Text × Bool := match baseMark? rest with
    | some (b, more) =>
      if base = 0 ∨ base = b then (b, (match more with | '_' :: m => m | m => m), true)
      else (base, rest, false)
    | none => (if base = 0 then 10 else base, rest, false)
  let (ds, behind) ← digitRun? (fun c => alphaDigit c < radix) body
  if !behind.isEmpty then none
  if base = 0 && !marked && ds.length > 1 && ds.head? == some '0' && ds.any (· != '0') then none
  some ⟨radix, negative, ds⟩

end Stencil.Number
