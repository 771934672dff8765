import Stencil.Eval.Compare

/-!
# Iteration and calls

What functions need of the evaluator: to call a value and to take the next item of an iterator.
Most containers give their items at once.
-/

namespace Stencil

structure Arguments where
  positional : List Value
  named : List (Text × Value)

/-- What a function can ask of the evaluator. Fuel bounds the items that one loop takes. -/
structure Reach where
  call : Value → Arguments → Eval Value
  next : Nat → Eval (Option Value)
  fuel : Nat

namespace Eval

def characters : Text → Eval (List Value)
  | [] => pure []
  | c :: rest => do
    let v ← newText [c]
    return v :: (← characters rest)

def rangeItems (start step : Int) : Nat → Eval (List Value)
  | 0 => pure []
  | n + 1 => do
    let v ← newInt start
    return v :: (← rangeItems (start + step) step n)

def pairItems : List (Value × Value) → Eval (List Value)
  | [] => pure []
  | (k, v) :: more => do
    let p ← newTuple [k, v]
    return p :: (← pairItems more)

def viewed (kind : ViewKind) (entries : List (Value × Value)) : Eval (List Value) :=
  match kind with
  | .keys => pure (entries.map (·.1))
  | .values => pure (entries.map (·.2))
  | .items => pairItems entries

/-- A new iterator over a value; `none` if it cannot be iterated. An iterator is its own. -/
def iterator? (v : Value) : Eval (Option Nat) := do
  match v with
  | .iterator a => return some a
  | .list a => return some (← newIterator (.list a 0))
  | .tuple items _ => return some (← newIterator (.items "tuple_iterator" items))
  | .str t _ =>
    return some (← newIterator (.items (Heap.textIteratorName t) (← characters t)))
  | .range start stop step _ =>
    return some (← newIterator (.range start step (Value.rangeLength start stop step)))
  | .mapping a =>
    return some (← newIterator (.mapping .keys a ((← heap).mapping a).entries.length 0))
  | .view kind a _ =>
    return some (← newIterator (.mapping kind a ((← heap).mapping a).entries.length 0))
  | .set a => return some (← newIterator (.set a ((← heap).set a).size 0))
  | _ => return none

def iterator (v : Value) : Eval Nat := do
  match ← iterator? v with
  | some a => return a
  | none => fault (.notIterable (← typeName v))

def drain (reach : Reach) : (fuel : Nat) → (a : Nat) → (taken : Array Value) → Eval (List Value)
  | 0, _, _ => exhausted
  | fuel + 1, a, taken => do
    match ← reach.next a with
    | some v => drain reach fuel a (taken.push v)
    | none => return taken.toList

def items? (reach : Reach) (v : Value) : Eval (Option (List Value)) := do
  match v with
  | .list a => return some ((← heap).list a).toList
  | .tuple items _ => return some items
  | .str t _ => return some (← characters t)
  | .range start stop step _ =>
    return some (← rangeItems start step (Value.rangeLength start stop step))
  | .mapping a => return some (((← heap).mapping a).entries.map (·.1))
  | .view kind a _ => return some (← viewed kind ((← heap).mapping a).entries)
  | .set a => return some ((← heap).set a).toList
  | .iterator a => return some (← drain reach reach.fuel a #[])
  | _ => return none

def items (reach : Reach) (v : Value) : Eval (List Value) := do
  match ← items? reach v with
  | some items => return items
  | none => fault (.notIterable (← typeName v))

/-! ## Arguments -/

def noKeywords (function : Text) (args : Arguments) : Eval Unit :=
  if args.named.isEmpty then pure () else fault (.takesKeywords function)

def takeNone (function : Text) (args : Arguments) : Eval Unit := do
  noKeywords function args
  if args.positional.isEmpty then pure ()
  else fault (.takesNone function args.positional.length)

def takeOne (function : Text) (args : Arguments) : Eval Value := do
  noKeywords function args
  match args.positional with
  | [v] => return v
  | other => fault (.takesOne function other.length)

def takeBetween (function : Text) (least most : Nat) (args : Arguments) : Eval (List Value) := do
  let given := args.positional.length
  if !args.named.isEmpty then fault (.takesKeywords function)
  else if least = most ∧ given ≠ least then fault (.takesCount function least given)
  else if given < least then fault (.takesAtLeast function least given)
  else if most < given then fault (.takesAtMost function most given)
  else return args.positional

def takeNamed (function : Text) (params : List Text) (args : Arguments) :
    Eval (List (Option Value)) := do
  match args.named.find? fun (n, _) => !params.contains n with
  | some (n, _) => fault (.unknownKeyword function n)
  | none =>
    if params.length < args.positional.length then
      fault (.takesAtMost function params.length args.positional.length)
    else
      return params.zipIdx.map fun (n, i) => (args.positional[i]?).or (args.named.lookup n)

/-- Puts the arguments of a method that is not builtin into their places. Its object counts among
them, and so many of its parameters must be given. -/
def takeParameters (function : Text) (params : List Text) (required : Nat) (args : Arguments) :
    Eval (List (Option Value)) := do
  let unknown := args.named.find? fun (n, _) => !params.contains n
  let repeated := args.named.find? fun (n, _) =>
    (params.take args.positional.length).contains n
  let given := params.zipIdx.map fun p => (args.positional[p.2]?).or (args.named.lookup p.1)
  let missing := ((params.zip (given.map Option.isNone)).take required).filter (·.2)
  match unknown, repeated with
  | some (n, _), _ => fault (.unexpectedKeyword function n)
  | none, some (n, _) => fault (.repeatedArgument function n)
  | none, none =>
    if params.length < args.positional.length then
      fault (.takesPositional function (required + 1) (params.length + 1)
        (args.positional.length + 1))
    else if missing.isEmpty then return given
    else fault (.missingParameters function (missing.map (·.1)))

def toIndex (v : Value) : Eval Int := do
  match v.int? with
  | some n => return n
  | none => fault (.notInteger (← typeName v))

end Eval

end Stencil
