import Stencil.Number.Binary

/-!
# Shortest decimals

Of all decimals that a reader rounds to a given floating-point number, the shortest one is taken,
and of the shortest the nearest. The search tries one digit, then two, and so on; with a given
number of digits only the two neighbours of the number on that decimal grid can qualify.
-/

namespace Stencil.Number

structure Decimal where
  digits : Nat
  exponent : Int
deriving DecidableEq, Repr

def belowPower (n d : Nat) (e : Int) : Bool :=
  if 0 ≤ e then n < d * Nat.pow 10 e.toNat else n * Nat.pow 10 (-e).toNat < d

def leadingPower (n d : Nat) : Int :=
  let guess : Int := ((n.log2 : Int) - d.log2) * 30103 / 100000
  if belowPower n d guess then
    if belowPower n d (guess - 1) then guess - 2 else guess - 1
  else if belowPower n d (guess + 1) then guess
  else if belowPower n d (guess + 2) then guess + 1
  else guess + 2

def scaleDownTen (n d : Nat) (e : Int) : Nat × Nat :=
  if 0 ≤ e then (n, d * Nat.pow 10 e.toNat) else (n * Nat.pow 10 (-e).toNat, d)

/-- The reals that round to one number, as fractions over one denominator; the ends belong to it
when the mantissa is even. -/
structure Interval where
  low : Nat
  value : Nat
  high : Nat
  den : Nat
  closed : Bool

/-- Below a power of two the neighbour is nearer by half, except at the smallest exponent. -/
def Interval.around (mantissa : Nat) (exponent : Int) : Interval :=
  let unit := if 0 ≤ exponent then Nat.pow 2 exponent.toNat else 1
  let den := 4 * (if 0 ≤ exponent then 1 else Nat.pow 2 (-exponent).toNat)
  let value := 4 * mantissa * unit
  let below := if mantissa = hiddenBit ∧ minExponent < exponent then unit else 2 * unit
  ⟨value - below, value, value + 2 * unit, den, mantissa % 2 == 0⟩

def Interval.holds (i : Interval) (digits : Nat) (e : Int) : Bool :=
  let (p, scale) : Nat × Nat :=
    if 0 ≤ e then (digits * Nat.pow 10 e.toNat * i.den, 1)
    else (digits * i.den, Nat.pow 10 (-e).toNat)
  if i.closed then i.low * scale ≤ p && p ≤ i.high * scale
  else i.low * scale < p && p < i.high * scale

/-- The neighbour of the value on the grid of `10 ^ e` that lies in the interval, the nearer one
if both do. -/
def Interval.onGrid? (i : Interval) (e : Int) : Option Decimal :=
  let (num, den) := scaleDownTen i.value i.den e
  let below := num / den
  let nearest := roundDiv num den
  if i.holds nearest e then some ⟨nearest, e⟩
  else if i.holds below e then some ⟨below, e⟩
  else if i.holds (below + 1) e then some ⟨below + 1, e⟩
  else none

/-- The first grid with a hit, from `count` digits on; seventeen digits always suffice. -/
def Interval.shortestFrom (i : Interval) (lead : Int) : (fuel count : Nat) → Decimal
  | 0, count => ⟨i.value / i.den, lead - count⟩
  | fuel + 1, count =>
    match i.onGrid? (lead + 1 - count) with
    | some decimal => decimal
    | none => i.shortestFrom lead fuel (count + 1)

def shortest (mantissa : Nat) (exponent : Int) : Decimal :=
  let i := Interval.around mantissa exponent
  i.shortestFrom (leadingPower i.value i.den) 17 1

def toPlaces (places : Nat) (n d : Nat) : Nat := roundDiv (n * Nat.pow 10 places) d

def toDigits (count : Nat) (n d : Nat) : Decimal :=
  let e := leadingPower n d + 1 - count
  let (num, den) := scaleDownTen n d e
  let m := roundDiv num den
  -- Nines that round up give one digit more.
  if Nat.pow 10 count ≤ m then ⟨m / 10, e + 1⟩ else ⟨m, e⟩

end Stencil.Number
