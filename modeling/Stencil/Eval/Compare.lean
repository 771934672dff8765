import Stencil.Eval.Dialog

/-!
# Comparison

Equality and order of values. Numbers compare exactly whatever their kinds, texts and sequences
lexicographically, sets by inclusion. What is inside a container equals itself even if it does not
equal itself as a number.
-/

namespace Stencil

namespace Heap

def equalWithin (h : Heap) : (fuel : Nat) → Value → Value → Bool
  | 0, _, _ => false
  | fuel + 1, v, w =>
    let sub (a b : Value) := a.same b || equalWithin h fuel a b
    let all (as bs : List Value) := as.length == bs.length && (as.zip bs).all fun (a, b) => sub a b
    match v, w with
    | .tuple as _, .tuple bs _ => all as bs
    | .list a, .list b => a == b || all (h.list a).toList (h.list b).toList
    | .mapping a, .mapping b =>
      a == b ||
        let m := h.mapping a
        let n := h.mapping b
        m.entries.length == n.entries.length &&
          m.entries.all fun (k, v) => (n.get? k).any (sub v)
    | .set a, .set b =>
      a == b || ((h.set a).size == (h.set b).size &&
        (h.set a).all fun v => (h.set b).any (·.equalKey v))
    | .float x _, .float y _ => x == y
    | v, w => v.equalKey w

def equal (h : Heap) (v w : Value) : Bool := h.equalWithin depth v w

def equalItem (h : Heap) (v w : Value) : Bool := v.same w || h.equal v w

end Heap

inductive OrderOp where
  | less
  | lessEqual
  | greater
  | greaterEqual
deriving DecidableEq, Repr

namespace OrderOp

def mark : OrderOp → Text
  | less => "<"
  | lessEqual => "<="
  | greater => ">"
  | greaterEqual => ">="

def holds : OrderOp → Value.Comparison → Bool
  | less, .less | lessEqual, .less | lessEqual, .equal => true
  | greater, .greater | greaterEqual, .greater | greaterEqual, .equal => true
  | _, _ => false

end OrderOp

def compareTexts (s t : Text) : Value.Comparison :=
  if s = t then .equal else if Text.less s t then .less else .greater

namespace Heap

/-- Order of sequences, given that of their items: the first items that differ decide. -/
def orderItems (h : Heap) (op : OrderOp) (order : Value → Value → Except Fault Bool)
    (as bs : List Value) : Except Fault Bool :=
  match (as.zip bs).find? fun (a, b) => !h.equalItem a b with
  | some (a, b) => order a b
  | none => .ok (op.holds (Value.compareInts as.length bs.length))

def orderNumbers (h : Heap) (op : OrderOp) (v w : Value) : Except Fault Bool :=
  match v.compareNumbers? w with
  | some c => .ok (op.holds c)
  | none => .error (.notOrdered op.mark (h.typeName v) (h.typeName w))

def orderWithin (h : Heap) (op : OrderOp) : (fuel : Nat) → Value → Value → Except Fault Bool
  | 0, _, _ => .ok false
  | fuel + 1, v, w =>
    let sequence := h.orderItems op (orderWithin h op fuel)
    match v, w with
    | .str s _, .str t _ => .ok (op.holds (compareTexts s t))
    | .tuple as _, .tuple bs _ => sequence as bs
    | .list a, .list b => sequence (h.list a).toList (h.list b).toList
    | .date a b c _, .date d e f _ =>
      let day (y m d : Nat) : Int := (y * 100 + m) * 100 + d
      .ok (op.holds (Value.compareInts (day a b c) (day d e f)))
    | .set a, .set b =>
      let within (x y : Array Value) := x.all fun v => y.any (·.equalKey v)
      let (x, y) := (h.set a, h.set b)
      .ok (match op with
        | .less => x.size < y.size && within x y
        | .lessEqual => within x y
        | .greater => y.size < x.size && within y x
        | .greaterEqual => within y x)
    | v, w => h.orderNumbers op v w

def order (h : Heap) (op : OrderOp) (v w : Value) : Except Fault Bool :=
  h.orderWithin op depth v w

/-! ## Truth -/

def truth (h : Heap) : Value → Bool
  | .none => false
  | .bool b => b
  | .int n _ => n ≠ 0
  | .float x _ => !Number.isZero x
  | .str t _ => !t.isEmpty
  | .tuple items _ => !items.isEmpty
  | .range start stop step _ => Value.rangeLength start stop step ≠ 0
  | .list a => !(h.list a).isEmpty
  | .mapping a | .view _ a _ => !(h.mapping a).entries.isEmpty
  | .set a => !(h.set a).isEmpty
  | _ => true

/-! ## Keys -/

mutual

def unhashable? (h : Heap) : Value → Option Text
  | .list a => some (h.typeName (.list a))
  | .mapping a => some (h.typeName (.mapping a))
  | .set a => some (h.typeName (.set a))
  | .registry => some (h.typeName .registry)
  | .view .keys a serial => some (h.typeName (.view .keys a serial))
  | .view .items a serial => some (h.typeName (.view .items a serial))
  | .tuple items _ => unhashableItem? h items
  | _ => none

def unhashableItem? (h : Heap) : List Value → Option Text
  | [] => none
  | v :: more => (unhashable? h v).or (unhashableItem? h more)

end

end Heap

namespace Eval

def truth (v : Value) : Eval Bool := look Heap.truth v

def checkKey (v : Value) : Eval Unit := do
  match (← heap).unhashable? v with
  | some type => fault (.unhashable type)
  | none => pure ()

def order (op : OrderOp) (v w : Value) : Eval Bool := do ofExcept ((← heap).order op v w)

def equal (v w : Value) : Eval Bool := do return (← heap).equal v w

end Eval

end Stencil
