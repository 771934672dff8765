import Stencil.Number.Binary

/-!
# Quotients and remainders

Division of whole numbers rounds toward minus infinity and the remainder has the sign of the
divisor. The remainder of floating-point numbers is exact, with the same rule for its sign.
-/

namespace Stencil.Number

def truncatedRemainder (x y : Float) : Float :=
  match ratio? x, ratio? y with
  | some (a, b), some (c, d) =>
    let q := Int.tdiv (a * d) (b * c)
    let num := a * d - q * (b * c)
    if num = 0 then zero (isNegative x)
    else (ofRatio? num (b * d)).getD x
  | _, _ =>
    match Binary.ofFloat x, Binary.ofFloat y with
    | .finite .., .infinite _ => x
    | _, _ => notANumber

def floatDivMod (x y : Float) : Float × Float :=
  let r := truncatedRemainder x y
  let q := (x - r) / y
  let (r, q) :=
    if isZero r then (zero (isNegative y), q)
    else if isNegative r ≠ isNegative y then (r + y, q - 1)
    else (r, q)
  if isZero q then (zero (isNegative (x / y)), r)
  else
    let f := q.floor
    (if q - f > 0.5 then f + 1 else f, r)

/-- The quotient of whole numbers, the divisor not zero; `none` if it is too large. A quotient that
is zero keeps its sign. -/
def divide? (a b : Int) : Option Float :=
  if a = 0 then some (zero (b < 0))
  else ofRatio? (if b < 0 then -a else a) b.natAbs

end Stencil.Number
