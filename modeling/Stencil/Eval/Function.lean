import Stencil.Eval.ContainerMethod

/-!
# Builtin functions
-/

namespace Stencil.Eval

/-! ## Numbers -/

def wholeOf (f : Float → Option Int) (x : Float) : Eval Value :=
  match f x with
  | some n => newInt n
  | none => fault (if x.isNaN then .nanToInt else .infinityToInt)

def roundToTens (n : Int) (places : Nat) : Int :=
  let unit := Nat.pow 10 places
  let rounded : Int := Number.roundDiv n.natAbs unit * unit
  if n < 0 then -rounded else rounded

def roundFloat (x : Float) (places : Int) : Eval Value := do
  match Number.Binary.ofFloat x with
  | .finite negative m e =>
    let (n, d) := Number.fraction false m e
    -- Far behind the point nothing is rounded, far before it nothing is left.
    if 400 < places then newFloat x
    else if places < -400 then newFloat (Number.zero negative)
    else
      let (num, den) : Nat × Nat :=
        if 0 ≤ places then (Number.toPlaces places.toNat n.natAbs d, Nat.pow 10 places.toNat)
        else
          let unit := Nat.pow 10 (-places).toNat
          (Number.roundDiv n.natAbs (d * unit) * unit, 1)
      match Number.ofRatio? num den with
      | some y => newFloat (if negative then -y else y)
      | none => fault ⟨.overflow, "rounded value too large to represent"⟩
  | _ => newFloat x

def roundInt (n : Int) (places : Int) : Int :=
  if 0 ≤ places then n else roundToTens n (-places).toNat

def round (v : Value) (places : Option Value) : Eval Value := do
  match v, v.int?, places with
  | .float x _, _, none | .float x _, _, some .none => wholeOf Number.round? x
  | .float x _, _, some p => do roundFloat x (← toIndex p)
  | _, some n, none | _, some n, some .none => newInt n
  | _, some n, some p => do newInt (roundInt n (← toIndex p))
  | _, none, _ => do fault (.noRound (← typeName v))

def readInt (base : Nat) (t : Text) : Eval Value := do
  match Number.numeral? base t with
  | some n =>
    if n.isTooLong then fault (.tooManyDigitsToRead n.digits.length) else newInt n.value
  | none => fault (.badIntText base t)

def toInt (args : List Value) : Eval Value := do
  match args with
  | [] => newInt 0
  | [v] =>
    match v with
    | .int .. => return v
    | .bool b => newInt (if b then 1 else 0)
    | .float x _ => wholeOf Number.truncate? x
    | .str t _ => readInt 10 t
    | _ => fault (.notNumberForInt (← typeName v))
  | v :: base :: _ =>
    let base ← toIndex base
    match v with
    | .str t _ =>
      if (base < 2 ∧ base ≠ 0) ∨ 36 < base then fault .badBase
      else readInt base.toNat t
    | _ => fault .baseNeedsText

def toFloat (args : List Value) : Eval Value := do
  match args with
  | [] => newFloat 0
  | v :: _ =>
    match v, v.int? with
    | .float .., _ => return v
    | .str t _, _ =>
      match Number.parseFloat? t with
      | some x => newFloat x
      | none => fault (.badFloatText t)
    | _, some n => newFloat (← intToFloat n)
    | _, none => fault (.notNumberForFloat (← typeName v))

def divMod (v w : Value) : Eval Value := do
  match v.int?, w.int? with
  | some a, some b =>
    if b = 0 then fault .integerDivision
    else newTuple [← newInt (Int.fdiv a b), ← newInt (Int.fmod a b)]
  | _, _ =>
    if isNumber v && isNumber w then
      match ← toFloat? v, ← toFloat? w with
      | some x, some y =>
        if Number.isZero y then fault .floatDivmod
        else
          let (q, r) := Number.floatDivMod x y
          newTuple [← newFloat q, ← newFloat r]
      | _, _ => return .none
    else fault (.unsupported "divmod()" (← typeName v) (← typeName w))

def powerModulo (a b m : Int) : Eval Value :=
  if m = 0 then fault .zeroModulus
  else if b < 0 then fault .notInvertible
  else newInt (Int.fmod (go b.toNat.log2.succ (Int.fmod a m) b.toNat 1) m)
where
  /-- Square and multiply, the exponent halved at each step. -/
  go : (fuel : Nat) → (square : Int) → (exponent : Nat) → (product : Int) → Int
    | 0, _, _, product => product
    | fuel + 1, square, exponent, product =>
      go fuel (Int.fmod (square * square) m) (exponent / 2)
        (if exponent % 2 = 1 then Int.fmod (product * square) m else product)

def based (mark : Text) (base : Nat) (n : Int) : Text :=
  (if n < 0 then ['-'] else []) ++ mark ++ Nat.toDigits base n.natAbs

/-! ## Containers -/

def length (v : Value) : Eval Nat := do
  let h ← heap
  match v with
  | .str t _ => return t.length
  | .tuple items _ => return items.length
  | .list a => return (h.list a).size
  | .mapping a | .view _ a _ => return (h.mapping a).entries.length
  | .set a => return (h.set a).size
  | .range start stop step _ => return Value.rangeLength start stop step
  | _ => fault (.noLength (← typeName v))

def givenItems (reach : Reach) (args : List Value) : Eval (List Value) :=
  match args with
  | [] => pure []
  | v :: _ => items reach v

def search (reach : Reach) (wanted : Bool) : (fuel : Nat) → (a : Nat) → Eval Bool
  | 0, _ => exhausted
  | fuel + 1, a => do
    match ← reach.next a with
    | none => return false
    | some v => if (← truth v) = wanted then return true else search reach wanted fuel a

def sum (start : Value) (items : List Value) : Eval Value := do
  match start with
  | .str .. => fault .sumText
  | _ => items.foldlM (fun acc v => binary .add acc v) start

def candidates (reach : Reach) (function : Text) (args : List Value) : Eval (List Value) := do
  match args with
  | [] => fault (.takesAtLeast function 1 0)
  | [v] => items reach v
  | many => return many

def best (reach : Reach) (op : OrderOp) (function : Text) (args : Arguments) : Eval Value := do
  match args.named.find? fun (n, _) => n ≠ "key".toList ∧ n ≠ "default".toList with
  | some (n, _) => fault (.unknownKeyword function n)
  | none =>
    let key := match args.named.lookup "key".toList with
      | some .none => none
      | other => other
    let items ← candidates reach function args.positional
    match ← extreme reach op key items, args.named.lookup "default".toList with
    | some v, _ => return v
    | none, some v => return v
    | none, none => fault (.emptyArgument function)

def reversed (v : Value) : Eval Value := do
  let h ← heap
  let type : Text := "reversed"
  match v with
  | .list a => return .iterator (← newIterator (.listBackwards a (h.list a).size))
  | .tuple items _ => return .iterator (← newIterator (.items type items.reverse))
  | .str t _ => return .iterator (← newIterator (.items type (← characters t.reverse)))
  | .range start stop step _ =>
    let n := Value.rangeLength start stop step
    return .iterator (← newIterator (.range (start + (n - 1) * step) (-step) n))
  | .mapping a =>
    let n := (h.mapping a).entries.length
    return .iterator (← newIterator (.mappingBackwards .keys a n n))
  | .view kind a _ =>
    let n := (h.mapping a).entries.length
    return .iterator (← newIterator (.mappingBackwards kind a n n))
  | _ => fault (.notReversible (← typeName v))

def rangeBounds (args : List Value) : Eval (Int × Int × Int) := do
  match args with
  | [stop] => return (0, ← toIndex stop, 1)
  | [start, stop] => return (← toIndex start, ← toIndex stop, 1)
  | [start, stop, step] => return (← toIndex start, ← toIndex stop, ← toIndex step)
  | _ => return (0, 0, 1)

def makeRange (args : List Value) : Eval Value := do
  let (start, stop, step) ← rangeBounds args
  if step = 0 then fault .zeroRangeStep
  else return .range start stop step (.made (← serial))

/-! ## Types -/

def typeOf (v : Value) : Eval Value := do
  let name ← typeName v
  match Builtin.ofName? name with
  | some b => return if b.isType then .builtin b else .typeObject name
  | none => return .typeObject name

def supertypes (name : Text) : List Text :=
  if name = "bool".toList then ["int"]
  else if name = "Scope".toList then ["dict"]
  else []

def isInstance (v : Value) : (fuel : Nat) → Value → Eval Bool
  | 0, _ => exhausted
  | fuel + 1, type => do
    let name ← typeName v
    let isOf (n : Text) : Bool := n == name || (supertypes name).contains n
    match type with
    | .builtin b => if b.isType then return isOf b.name else fault .classinfo
    | .typeObject n => return isOf n
    | .tuple types _ =>
      types.foldlM (fun found t => if found then pure true else isInstance v fuel t) false
    | _ => fault .classinfo

def isCallable : Value → Bool
  | .builtin _ | .typeObject _ | .closure _ | .method .. => true
  | _ => false

/-! ## Calls -/

def construct (reach : Reach) (b : Builtin) (args : Arguments) : Eval Value := do
  let atMostOne := takeBetween b.name 0 1 args
  match b with
  | .bool => return .bool (← match ← atMostOne with
      | [v] => truth v
      | _ => pure false)
  | .int =>
    match ← takeNamed b.name ["x", "base"] args with
    | [some v, some base] => toInt [v, base]
    | [some v, none] => toInt [v]
    | _ => toInt []
  | .float => do toFloat (← atMostOne)
  | .str =>
    match ← takeNamed b.name ["object", "encoding", "errors"] args with
    | some (.str t id) :: _ => return .str t id
    | some v :: _ => newText (← write Datum.display v)
    | _ => newText []
  | .list => do newList (← givenItems reach (← atMostOne))
  | .tuple =>
    match ← atMostOne with
    | [.tuple items id] => return .tuple items id
    | given => newTuple (← givenItems reach given)
  | .set =>
    let items ← givenItems reach (← atMostOne)
    items.forM checkKey
    change fun h => h.newSet (items.foldl insertItem #[])
  | .dict =>
    let entries ← givenEntries reach b.name args
    change fun h => h.newMapping (mergeInto ⟨false, []⟩ entries)
  | .range => do makeRange (← takeBetween b.name 1 3 args)
  | .enumerate =>
    match ← takeNamed b.name ["iterable", "start"] args with
    | some v :: start =>
      let start ← match start with
        | [some s] => toIndex s
        | _ => pure 0
      return .iterator (← newIterator (.enumerate (← iterator v) start))
    | _ => fault (.missingParameter b.name "iterable")
  | .zip =>
    noKeywords b.name args
    return .iterator (← newIterator (.zip (← args.positional.mapM iterator)))
  | .map =>
    match args.positional with
    | f :: first :: more =>
      return .iterator (← newIterator (.map f (← (first :: more).mapM iterator)))
    | _ => fault ⟨.type, "map() must have at least two arguments."⟩
  | .filter =>
    match ← takeBetween b.name 2 2 args with
    | [f, v] => return .iterator (← newIterator (.filter f (← iterator v)))
    | _ => return .none
  | .reversed => do reversed (← takeOne b.name args)
  | .type =>
    if args.positional.length = 3 then beyond b.name else do typeOf (← takeOne b.name args)
  | _ => return .none

/-- Ends the program, which no handler of faults keeps it from. -/
def endProgram (args : Arguments) : Eval Value := do
  match ← takeParameters "Quitter.__call__" ["code".toList] 0 args with
  | [some v] => fail (.escape (.exit (← write Datum.display v)))
  | _ => fail (.escape (.exit "None".toList))

def callBuiltin (reach : Reach) (b : Builtin) (args : Arguments) : Eval Value := do
  let one := takeOne b.name args
  match b with
  | .abs =>
    let v ← one
    match v, v.int? with
    | .float x _, _ => newFloat x.abs
    | _, some n => newInt n.natAbs
    | _, none => fault (.badAbs (← typeName v))
  | .all => return .bool (!(← search reach false reach.fuel (← iterator (← one))))
  | .any => return .bool (← search reach true reach.fuel (← iterator (← one)))
  | .bin => do newText (based "0b" 2 (← toIndex (← one)))
  | .oct => do newText (based "0o" 8 (← toIndex (← one)))
  | .hex => do newText (based "0x" 16 (← toIndex (← one)))
  | .callable => return .bool (isCallable (← one))
  | .chr =>
    let n ← toIndex (← one)
    if 0 ≤ n ∧ n < 0x110000 then newText [Char.ofNat n.toNat] else fault .chrOutOfRange
  | .ord =>
    match ← one with
    | .str [c] _ => newInt c.toNat
    | .str t _ => fault (.ordNeedsOne t.length)
    | v => fault (.ordNeedsText (← typeName v))
  | .divmod =>
    match ← takeBetween b.name 2 2 args with
    | [v, w] => divMod v w
    | _ => return .none
  | .pow =>
    match ← takeNamed b.name ["base", "exp", "mod"] args with
    | [some v, some w, none] | [some v, some w, some .none] => binary .power v w
    | [some v, some w, some m] =>
      match v.int?, w.int?, m.int? with
      | some a, some b, some m => powerModulo a b m
      | _, _, _ => fault (.unsupported "** or pow()" (← typeName v) (← typeName w))
    | _ => fault (.missingParameter b.name "exp")
  | .format =>
    match ← takeBetween b.name 1 2 args with
    | [v] => newText (← write Datum.display v)
    | [v, .str spec _] => do newText (← ofExcept (Format.writeDatum (← datum v) spec))
    | [_, spec] => do fault (.formatArgument (← typeName spec))
    | _ => return .none
  | .getattr =>
    match ← takeBetween b.name 2 3 args with
    | [v, .str n _] => getMember v n
    | [v, .str n _, fallback] => if ← hasMember v n then getMember v n else return fallback
    | _ => fault ⟨.type, "attribute name must be string"⟩
  | .hasattr =>
    match ← takeBetween b.name 2 2 args with
    | [v, .str n _] => return .bool (← hasMember v n)
    | _ => fault ⟨.type, "attribute name must be string"⟩
  | .isinstance =>
    match ← takeBetween b.name 2 2 args with
    | [v, type] => return .bool (← isInstance v reach.fuel type)
    | _ => return .none
  | .iter => return .iterator (← iterator (← one))
  | .len => newInt (← length (← one))
  | .max => best reach .greater b.name args
  | .min => best reach .less b.name args
  | .next =>
    match ← takeBetween b.name 1 2 args with
    | .iterator a :: fallback =>
      match ← reach.next a, fallback with
      | some v, _ => return v
      | none, v :: _ => return v
      | none, [] => fault .iterationEnded
    | v :: _ => fault (.notIterator (← typeName v))
    | [] => return .none
  | .repr => do newText (← write Datum.quoted (← one))
  | .round =>
    match ← takeNamed b.name ["number", "ndigits"] args with
    | [some v, places] => round v places
    | _ => fault (.missingParameter b.name "number")
  | .exit | .quit => endProgram args
  | .sorted =>
    match args.positional with
    | [v] =>
      let (key, backwards) ← sortArguments "sort" args.named
      let items ← items reach v
      newList (← sortItems reach key backwards items)
    | other => fault (.takesCount b.name 1 other.length)
  | .sum =>
    match ← takeNamed b.name ["iterable", "start"] args with
    | [some v, start] => do
      let start ← match start with
        | some s => pure s
        | none => newInt 0
      sum start (← items reach v)
    | _ => fault (.missingParameter b.name "iterable")
  | b => construct reach b args

end Stencil.Eval
