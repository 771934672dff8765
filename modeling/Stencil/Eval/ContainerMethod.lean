import Stencil.Eval.Arithmetic
import Stencil.Eval.Sort
import Stencil.Eval.TextMethod

/-!
# Methods of containers and numbers
-/

namespace Stencil.Eval

/-! ## Sequences -/

def indexIn (items : List Value) (args : List Value) : Eval (Option Nat) := do
  match args with
  | [] => return none
  | v :: rest =>
    let (start, stop) ← windowArguments rest
    let h ← heap
    let bound (b : Int) : Nat := if b < 0 then (b + items.length).toNat else b.toNat
    let first := (start.map bound).getD 0
    let last := min items.length ((stop.map bound).getD items.length)
    return (((items.take last).drop first).findIdx? fun w => h.equalItem w v).map (first + ·)

def countItem (items : List Value) (v : Value) : Eval Value := do
  let h ← heap
  newInt (items.countP fun w => h.equalItem w v)

def popItem (a : Nat) (index : Int) : Eval Value := do
  let items := (← heap).list a
  if items.isEmpty then fault .popEmpty
  else match position? items.size index with
    | some i =>
      modifyHeap fun h => h.setList a (items.eraseIdxIfInBounds i)
      return items.getD i .none
    | none => fault .popOutOfRange

def listMethod (reach : Reach) (name : Text) (a : Nat) (args : Arguments) : Eval Value := do
  let called := methodName "list" name
  let items := (← heap).list a
  let put (items : Array Value) : Eval Value := do
    modifyHeap fun h => h.setList a items
    return .none
  match String.ofList name with
  | "append" => do put (items.push (← takeOne called args))
  | "extend" => do
    let more ← Eval.items reach (← takeOne called args)
    put (((← heap).list a) ++ more.toArray)
  | "insert" =>
    match ← takeBetween name 2 2 args with
    | [i, v] =>
      let i ← toIndex i
      let i := if i < 0 then (i + items.size).toNat else min i.toNat items.size
      put (items.insertIdxIfInBounds i v)
    | _ => return .none
  | "pop" =>
    match ← takeBetween name 0 1 args with
    | [v] => do popItem a (← toIndex v)
    | _ => popItem a (-1)
  | "remove" =>
    let v ← takeOne called args
    let h ← heap
    match items.findIdx? fun w => h.equalItem w v with
    | some i => put (items.eraseIdxIfInBounds i)
    | none => fault .notRemoved
  | "index" =>
    let given ← takeBetween name 1 3 args
    match ← indexIn items.toList given with
    | some i => newInt i
    | none => fault (.notInList (← write Datum.quoted (given.headD .none)))
  | "count" => do countItem items.toList (← takeOne called args)
  | "reverse" => do
    takeNone called args
    put items.reverse
  | "copy" => do
    takeNone called args
    newList items.toList
  | "clear" => do
    takeNone called args
    put #[]
  | "sort" =>
    if !args.positional.isEmpty then
      fault (.takesPositional name 0 0 args.positional.length)
    else
      let (key, backwards) ← sortArguments name args.named
      put (← sortItems reach key backwards items.toList).toArray
  | _ => noMember (.list a) name

def tupleMethod (name : Text) (self : Value) (items : List Value) (args : Arguments) :
    Eval Value := do
  match String.ofList name with
  | "count" => do countItem items (← takeOne (methodName "tuple" name) args)
  | "index" =>
    match ← indexIn items (← takeBetween name 1 3 args) with
    | some i => newInt i
    | none => fault .notInTuple
  | _ => noMember self name

def rangePosition? (start stop step : Int) (v : Value) : Option Nat :=
  let found (n : Int) : Option Nat :=
    let q := (n - start) / step
    if 0 ≤ q ∧ q < Value.rangeLength start stop step ∧ start + q * step = n then some q.toNat
    else none
  match v, v.int? with
  | _, some n => found n
  | .float x _, none => (Number.whole? x).bind found
  | _, none => none

def rangeMethod (name : Text) (start stop step : Int) (args : Arguments) : Eval Value := do
  let v ← takeOne (methodName "range" name) args
  match rangePosition? start stop step v, String.ofList name with
  | some i, "index" => newInt i
  | none, "index" => fault (.notInRange (← write Datum.quoted v))
  | found, _ => newInt (if found.isSome then 1 else 0)

/-! ## Mappings -/

def entryOf (reach : Reach) (index : Nat) (v : Value) : Eval (Value × Value) := do
  match ← items? reach v with
  | some [k, w] => return (k, w)
  | some other => fault (.pairLength index other.length)
  | none => fault (.pairItem index)

def entriesOf (reach : Reach) (v : Value) : Eval (List (Value × Value)) := do
  match v with
  | .mapping a => return ((← heap).mapping a).entries
  | v =>
    let items ← items reach v
    items.zipIdx.mapM fun (v, i) => entryOf reach i v

def namedEntries (named : List (Text × Value)) : List (Value × Value) :=
  named.map fun (n, v) => (.str n .shared, v)

def entryOfPair? : Value → Option (Value × Value)
  | .tuple [k, v] _ => some (k, v)
  | _ => none

def checkKeys (entries : List (Value × Value)) : Eval Unit :=
  entries.forM fun (k, _) => checkKey k

def givenEntries (reach : Reach) (function : Text) (args : Arguments) :
    Eval (List (Value × Value)) := do
  let first ← match args.positional with
    | [] => pure []
    | [v] => entriesOf reach v
    | other => fault (.takesAtMost function 1 other.length)
  checkKeys first
  return first ++ namedEntries args.named

def mappingMethod (reach : Reach) (name : Text) (a : Nat) (args : Arguments) : Eval Value := do
  let called := methodName "dict" name
  let m := (← heap).mapping a
  let put (m : Mapping) : Eval Unit := modifyHeap fun h => h.setMapping a m
  let view (kind : ViewKind) : Eval Value := do
    takeNone called args
    return .view kind a (← serial)
  match String.ofList name with
  | "keys" => view .keys
  | "values" => view .values
  | "items" => view .items
  | "get" =>
    match ← takeBetween name 1 2 args with
    | key :: fallback =>
      checkKey key
      return (m.get? key).getD (fallback.headD .none)
    | [] => return .none
  | "pop" =>
    match ← takeBetween name 1 2 args with
    | key :: fallback =>
      checkKey key
      match m.get? key, fallback with
      | some v, _ =>
        put (m.remove key)
        return v
      | none, v :: _ => return v
      | none, [] => fault (.missingKey (← datum key).quoted)
    | [] => return .none
  | "setdefault" =>
    match ← takeBetween name 1 2 args with
    | key :: fallback =>
      checkKey key
      match m.get? key with
      | some v => return v
      | none =>
        let v := fallback.headD .none
        put (m.put key v)
        return v
    | [] => return .none
  | "popitem" =>
    takeNone called args
    match m.entries.getLast? with
    | some (k, v) =>
      put { m with entries := m.entries.dropLast }
      newTuple [k, v]
    | none => fault .emptyMapping
  | "update" =>
    let entries ← givenEntries reach name args
    put (mergeInto ((← heap).mapping a) entries)
    return .none
  | "copy" =>
    takeNone called args
    change fun h => h.newMapping ⟨false, m.entries⟩
  | "clear" =>
    takeNone called args
    put { m with entries := [] }
    return .none
  | _ => noMember (.mapping a) name

/-! ## Sets -/

def setsOf (reach : Reach) (vs : List Value) : Eval (List (Array Value)) :=
  vs.mapM fun v => do
    let items ← items reach v
    items.forM checkKey
    return items.foldl insertItem #[]

def otherSet (reach : Reach) (function : Text) (args : Arguments) : Eval (Array Value) := do
  match ← setsOf reach [← takeOne function args] with
  | t :: _ => return t
  | [] => return #[]

def setMethod (reach : Reach) (name : Text) (a : Nat) (args : Arguments) : Eval Value := do
  let called := methodName "set" name
  let s := (← heap).set a
  let put (s : Array Value) : Eval Value := do
    modifyHeap fun h => h.setSet a s
    return .none
  let fresh (s : Array Value) : Eval Value := change fun h => h.newSet s
  let within (x y : Array Value) : Bool := x.all fun v => y.any (·.equalKey v)
  let combine (op : BinaryOp) : Eval (Array Value) := do
    noKeywords called args
    return (← setsOf reach args.positional).foldl (fun s t => (setOp op s t).getD s) s
  let other := otherSet reach called args
  match String.ofList name with
  | "add" =>
    let v ← takeOne called args
    checkKey v
    put (insertItem s v)
  | "discard" =>
    let v ← takeOne called args
    checkKey v
    put (s.filter fun w => !w.equalKey v)
  | "remove" =>
    let v ← takeOne called args
    checkKey v
    if s.any (·.equalKey v) then put (s.filter fun w => !w.equalKey v)
    else fault (.missingKey (← datum v).quoted)
  | "pop" =>
    takeNone called args
    match s[0]? with
    | some v =>
      let _ ← put (s.eraseIdxIfInBounds 0)
      return v
    | none => fault .emptySet
  | "clear" =>
    takeNone called args
    put #[]
  | "copy" =>
    takeNone called args
    fresh s
  | "union" => do fresh (← combine .bitOr)
  | "update" => do put (← combine .bitOr)
  | "intersection" => do fresh (← combine .bitAnd)
  | "difference" => do fresh (← combine .subtract)
  | "symmetric_difference" => do fresh ((setOp .bitXor s (← other)).getD s)
  | "issubset" => return .bool (within s (← other))
  | "issuperset" => return .bool (within (← other) s)
  | "isdisjoint" => return .bool (!(← other).any fun v => s.any (·.equalKey v))
  | _ => noMember (.set a) name

/-! ## Numbers -/

def intMethod (name : Text) (self : Value) (n : Int) (args : Arguments) : Eval Value := do
  takeNone (methodName "int" name) args
  match String.ofList name with
  | "bit_length" => newInt (if n = 0 then 0 else n.natAbs.log2 + 1)
  | "bit_count" => newInt ((Nat.toDigits 2 n.natAbs).count '1')
  | "conjugate" => newInt n
  | _ => noMember self name

def plainMethod (name : Text) (self : Value) (args : Arguments) : Eval Value :=
  match self.int? with
  | some n => intMethod name self n args
  | none => noMember self name

def floatMethod (name : Text) (self : Value) (x : Float) (args : Arguments) : Eval Value := do
  takeNone (methodName "float" name) args
  match String.ofList name with
  | "is_integer" => return .bool (Number.whole? x).isSome
  | "conjugate" => return self
  | "as_integer_ratio" =>
    match Number.ratio? x with
    | some (n, d) =>
      let g := Nat.gcd n.natAbs d
      newTuple [← newInt (n / g), ← newInt (d / g : Nat)]
    | none =>
      if x.isNaN then fault ⟨.value, "cannot convert NaN to integer ratio"⟩
      else fault ⟨.overflow, "cannot convert Infinity to integer ratio"⟩
  | _ => noMember self name

end Stencil.Eval
