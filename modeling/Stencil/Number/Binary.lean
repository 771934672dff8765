/-!
# Binary floating point, exactly

A finite floating-point number is a whole mantissa times a power of two. Going from a number to
that form loses nothing; going back from a quotient of whole numbers rounds to the nearest number
that has one, a tie to the even mantissa.
-/

namespace Stencil.Number

/-- A floating-point number taken apart; a finite one is `mantissa * 2 ^ exponent`. -/
inductive Binary where
  | nan
  | infinite (negative : Bool)
  | finite (negative : Bool) (mantissa : Nat) (exponent : Int)
deriving DecidableEq, Repr

def minExponent : Int := -1074

/-- The mantissas of normal numbers start here and double before the exponent grows. -/
def hiddenBit : Nat := 0x10000000000000

/-- Signed numbers of 64 bits lie below this bound; it is the sign of a floating-point number. -/
def wordBound : Nat := 0x8000000000000000

def fitsWord (n : Int) : Bool := -(wordBound : Int) ≤ n && n < wordBound

def Binary.ofFloat (x : Float) : Binary :=
  let bits := x.toBits.toNat
  let negative := bits / wordBound == 1
  let biased := bits / hiddenBit % 2048
  let fraction := bits % hiddenBit
  if biased = 2047 then
    if fraction = 0 then .infinite negative else .nan
  else if biased = 0 then .finite negative fraction minExponent
  else .finite negative (hiddenBit + fraction) (biased - 1075)

/-- The nearest whole number to a quotient, a tie to the even one. -/
def roundDiv (num den : Nat) : Nat :=
  let q := num / den
  let twice := 2 * (num % den)
  if twice < den then q
  else if twice = den then q + q % 2
  else q + 1

def scaleDown (n d : Nat) (e : Int) : Nat × Nat :=
  if 0 ≤ e then (n, d * Nat.pow 2 e.toNat) else (n * Nat.pow 2 (-e).toNat, d)

def fullExponent (n d : Nat) : Int :=
  let guess : Int := (n.log2 : Int) - d.log2 - 52
  let (num, den) := scaleDown n d guess
  max minExponent (if num / den < hiddenBit then guess - 1 else guess)

/-- The bits of the positive number nearest to `n / d`; `none` beyond the largest number. -/
def nearestBits? (n d : Nat) : Option Nat :=
  if n = 0 then some 0
  else
    let e := fullExponent n d
    let (num, den) := scaleDown n d e
    let m := roundDiv num den
    -- A mantissa that rounds up to the next power of two carries into the exponent field.
    let bits := if m < hiddenBit then m else (e + 1074).toNat * hiddenBit + m
    if bits < 2047 * hiddenBit then some bits else none

def ofRatio? (num : Int) (den : Nat) : Option Float :=
  (nearestBits? num.natAbs den).map fun bits =>
    Float.ofBits (UInt64.ofNat (if num < 0 then wordBound + bits else bits))

def ofInt? (n : Int) : Option Float := ofRatio? n 1

def infinity (negative : Bool) : Float :=
  Float.ofBits (UInt64.ofNat ((if negative then wordBound else 0) + 2047 * hiddenBit))

def notANumber : Float := Float.ofBits (UInt64.ofNat (2047 * hiddenBit + hiddenBit / 2))

def zero (negative : Bool) : Float :=
  Float.ofBits (UInt64.ofNat (if negative then wordBound else 0))

def fraction (negative : Bool) (mantissa : Nat) (exponent : Int) : Int × Nat :=
  let (n, d) : Nat × Nat :=
    if 0 ≤ exponent then (mantissa * Nat.pow 2 exponent.toNat, 1)
    else (mantissa, Nat.pow 2 (-exponent).toNat)
  (if negative then -(n : Int) else n, d)

def ratio? (x : Float) : Option (Int × Nat) :=
  match Binary.ofFloat x with
  | .finite negative m e => some (fraction negative m e)
  | _ => none

def isNegative (x : Float) : Bool :=
  match Binary.ofFloat x with
  | .finite negative _ _ | .infinite negative => negative
  | .nan => false

def isZero (x : Float) : Bool :=
  match Binary.ofFloat x with
  | .finite _ m _ => m == 0
  | _ => false

def truncate? (x : Float) : Option Int :=
  (ratio? x).map fun (n, d) => Int.tdiv n d

def round? (x : Float) : Option Int :=
  (ratio? x).map fun (n, d) =>
    let r : Int := roundDiv n.natAbs d
    if n < 0 then -r else r

def whole? (x : Float) : Option Int :=
  (ratio? x).bind fun (n, d) => if n % d = 0 then some (n / d) else none

end Stencil.Number
