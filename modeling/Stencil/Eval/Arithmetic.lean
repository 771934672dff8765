import Stencil.Eval.Compare
import Stencil.Format.Percent
import Stencil.Number.Bits
import Stencil.Number.Quotient

/-!
# Operators

Arithmetic is exact on whole numbers and follows floating-point rules as soon as one operand is
of that kind. Sequences can be joined and repeated, mappings and sets combined, and a text can be
filled in as a format.
-/

namespace Stencil

namespace BinaryOp

def mark : BinaryOp → Text
  | add => "+"
  | subtract => "-"
  | multiply => "*"
  | divide => "/"
  | floorDivide => "//"
  | modulo => "%"
  | power => "** or pow()"
  | shiftLeft => "<<"
  | shiftRight => ">>"
  | bitAnd => "&"
  | bitOr => "|"
  | bitXor => "^"
  | matMultiply => "@"

def updateMark : BinaryOp → Text
  | power => "**="
  | op => op.mark ++ ['=']

end BinaryOp

namespace Eval

/-! ## Numbers -/

def intToFloat (n : Int) : Eval Float :=
  match Number.ofInt? n with
  | some x => pure x
  | none => fault .intTooLarge

def toFloat? (v : Value) : Eval (Option Float) := do
  match v, v.int? with
  | .float x _, _ => return some x
  | _, some n => return some (← intToFloat n)
  | _, none => return none

/-- Powers of floating-point numbers. A negative base has powers with whole exponents only. -/
def floatPower (x y : Float) : Eval Value := do
  if Number.isZero x && Number.isNegative y && !Number.isZero y then fault .zeroToNegative
  else
    let z := x ^ y
    if z.isInf && x.isFinite && y.isFinite then fault .resultTooLarge else newFloat z

def maxShift : Int := 10000000

def intOp (op : BinaryOp) (a b : Int) : Eval Value := do
  match op with
  | .add => newInt (a + b)
  | .subtract => newInt (a - b)
  | .multiply => newInt (a * b)
  | .divide =>
    if b = 0 then fault .intDivision
    else match Number.divide? a b with
      | some x => newFloat x
      | none => fault .quotientTooLarge
  | .floorDivide => if b = 0 then fault .integerDivision else newInt (Int.fdiv a b)
  | .modulo => if b = 0 then fault .integerModulo else newInt (Int.fmod a b)
  | .power =>
    if 0 ≤ b then newInt (Int.pow a b.toNat)
    else floatPower (← intToFloat a) (← intToFloat b)
  | .shiftLeft =>
    if b < 0 then fault .negativeShift
    else if a = 0 then newInt 0
    else if maxShift < b then fault .shiftTooLarge
    else newInt (a * Nat.pow 2 b.toNat)
  | .shiftRight =>
    if b < 0 then fault .negativeShift
    else if maxShift < b then newInt (if a < 0 then -1 else 0)
    else newInt (Int.fdiv a (Nat.pow 2 b.toNat))
  | .bitAnd => newInt (Number.bitAnd a b)
  | .bitOr => newInt (Number.bitOr a b)
  | .bitXor => newInt (Number.bitXor a b)
  | .matMultiply => fault (.unsupported op.mark "int" "int")

def floatOp? (op : BinaryOp) (x y : Float) : Option (Eval Value) :=
  match op with
  | .add => some (newFloat (x + y))
  | .subtract => some (newFloat (x - y))
  | .multiply => some (newFloat (x * y))
  | .divide => some (if Number.isZero y then fault .floatDivision else newFloat (x / y))
  | .floorDivide => some (
    if Number.isZero y then fault .floatFloorDivision else newFloat (Number.floatDivMod x y).1)
  | .modulo => some (
    if Number.isZero y then fault .floatModulo else newFloat (Number.floatDivMod x y).2)
  | .power => some (floatPower x y)
  | _ => none

/-! ## Sequences -/

def repeated {α : Type} (n : Int) (items : List α) : List α :=
  (List.replicate n.toNat items).flatten

def isSequence : Value → Bool
  | .str .. | .list _ | .tuple .. => true
  | _ => false

def repeatSequence (v : Value) (n : Int) : Eval Value := do
  match v with
  | .str t _ => if n = 1 then pure v else newText (repeated n t)
  | .list a => newList (repeated n ((← heap).list a).toList)
  | .tuple items _ => if n = 1 then pure v else newTuple (repeated n items)
  | _ => pure v

/-! ## Sets and mappings -/

def setOp (op : BinaryOp) (a b : Array Value) : Option (Array Value) :=
  let holds (s : Array Value) (v : Value) := s.any (·.equalKey v)
  match op with
  | .bitAnd => some (a.filter (holds b))
  | .bitOr => some (b.foldl insertItem a)
  | .subtract => some (a.filter fun v => !holds b v)
  | .bitXor => some (a.filter (fun v => !holds b v) ++ b.filter fun v => !holds a v)
  | _ => none

def mergeInto (m : Mapping) (entries : List (Value × Value)) : Mapping :=
  entries.foldl (fun m (k, v) => m.put k v) m

/-! ## All operators -/

/-- What operators make of texts, containers and truth values; `none` for other operands. -/
def combine? (unsupported : Eval Value) (op : BinaryOp) (v w : Value) : Option (Eval Value) :=
  match op, v, w with
  | .modulo, .str t _, _ => some do newText (← ofExcept (Format.Percent.format t (← datum w)))
  | .add, .str s _, .str t _ => some (
    if s.isEmpty then pure w else if t.isEmpty then pure v else newText (s ++ t))
  | .add, .tuple a _, .tuple b _ => some (
    if a.isEmpty then pure w else if b.isEmpty then pure v else newTuple (a ++ b))
  | .add, .list a, .list b => some do
    let h ← heap
    newList ((h.list a).toList ++ (h.list b).toList)
  | .add, .str .., _ => some do fault (.onlyConcatenate .str (← typeName w))
  | .add, .list _, _ => some do fault (.onlyConcatenate .list (← typeName w))
  | .add, .tuple .., _ => some do fault (.onlyConcatenate .tuple (← typeName w))
  | .bitOr, .mapping a, .mapping b => some do
    let h ← heap
    let m := h.mapping a
    if m.isScope || (h.mapping b).isScope then
      change fun h => h.newMapping (mergeInto { m with isScope := false } (h.mapping b).entries)
    else change fun h => h.newMapping (mergeInto m (h.mapping b).entries)
  | op, .set a, .set b => some do
    let h ← heap
    match setOp op (h.set a) (h.set b) with
    | some items => change fun h => h.newSet items
    | none => unsupported
  | .bitAnd, .bool a, .bool b => some (pure (.bool (a && b)))
  | .bitOr, .bool a, .bool b => some (pure (.bool (a || b)))
  | .bitXor, .bool a, .bool b => some (pure (.bool (a != b)))
  | _, _, _ => none

def isNumber : Value → Bool
  | .float .. => true
  | v => v.int?.isSome

def floatOperation (unsupported : Eval Value) (op : BinaryOp) (v w : Value) : Eval Value := do
  if isNumber v && isNumber w then
    match ← toFloat? v, ← toFloat? w with
    | some x, some y => (floatOp? op x y).getD unsupported
    | _, _ => unsupported
  else unsupported

def numberOperation (unsupported : Eval Value) (op : BinaryOp) (v w : Value) : Eval Value :=
  match op, v.int?, w.int? with
  | .matMultiply, _, _ => unsupported
  | _, some a, some b => intOp op a b
  | .multiply, _, some n =>
    if isSequence v then repeatSequence v n else floatOperation unsupported op v w
  | .multiply, some n, _ =>
    if isSequence w then repeatSequence w n else floatOperation unsupported op v w
  | .multiply, none, none =>
    if isSequence v then do fault (.repeatBy (← typeName w))
    else if isSequence w then do fault (.repeatBy (← typeName v))
    else floatOperation unsupported op v w
  | _, _, _ => floatOperation unsupported op v w

/-- The operators on two operands. A message about operands that do not fit calls the operator by
`mark`. -/
def binaryAs (mark : Text) (op : BinaryOp) (v w : Value) : Eval Value :=
  let unsupported : Eval Value := do
    fault (.unsupported mark (← typeName v) (← typeName w))
  (combine? unsupported op v w).getD (numberOperation unsupported op v w)

def binary (op : BinaryOp) (v w : Value) : Eval Value := binaryAs op.mark op v w

def unary (op : UnaryOp) (v : Value) : Eval Value := do
  match op, v, v.int? with
  | .not, _, _ => return .bool (!(← truth v))
  | .negate, .float x _, _ => newFloat (-x)
  | .plus, .float .., _ => pure v
  | .negate, _, some n => newInt (-n)
  | .plus, .int .., _ => pure v
  | .plus, _, some n => newInt n
  | .invert, _, some n => newInt (-n - 1)
  | .negate, _, none => do fault (.badUnary "-" (← typeName v))
  | .plus, _, none => do fault (.badUnary "+" (← typeName v))
  | .invert, _, none => do fault (.badUnary "~" (← typeName v))

end Eval

end Stencil
