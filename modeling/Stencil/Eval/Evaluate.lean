import Stencil.Eval.Function
import Stencil.Expr.Parser

/-!
# Evaluation

Expressions are evaluated from left to right. Names that a comprehension or a function binds are
local to it; all other names are those of the memory, behind which stand the builtin functions.
Every step into a part of an expression and every item that a loop takes uses up fuel.
-/

namespace Stencil

structure Frame where
  code : Nat
  locals : Names

namespace Eval

def literal (code : Nat) : Constant → Value
  | .none => .none
  | .bool b => .bool b
  | .int n => .ofInt n (.constant code)
  | .float x => .float x (.constant code)
  | .str t => Value.asConstant code (.str t .shared)
  | .ellipsis => .ellipsis

def lookupName (frame : Frame) (n : Text) : Eval Value := do
  match frame.locals.get? n, (← names).get? n, Builtin.ofName? n with
  | some v, _, _ => return v
  | none, some v, _ => return v
  | none, none, some b => return .builtin b
  | none, none, none =>
    if Builtin.furtherNames.contains n then beyond n else fault (.unknownName n)

def findItem (reach : Reach) (v : Value) : (fuel : Nat) → (a : Nat) → Eval Bool
  | 0, _ => exhausted
  | fuel + 1, a => do
    match ← reach.next a with
    | none => return false
    | some w => if (← heap).equalItem w v then return true else findItem reach v fuel a

def contains (reach : Reach) (container v : Value) : Eval Bool := do
  let h ← heap
  match container with
  | .str t _ =>
    match v with
    | .str needle _ => return (Text.find? needle t).isSome
    | _ => fault (.inString (← typeName v))
  | .list a => return (h.list a).any fun w => h.equalItem w v
  | .tuple items _ => return items.any fun w => h.equalItem w v
  | .mapping a | .view .keys a _ =>
    checkKey v
    return ((h.mapping a).get? v).isSome
  | .view kind a _ =>
    return (← viewed kind (h.mapping a).entries).any fun w => h.equalItem w v
  | .set a =>
    checkKey v
    return (h.set a).any (·.equalKey v)
  | .range start stop step _ => return (rangePosition? start stop step v).isSome
  | .iterator a => findItem reach v reach.fuel a
  | _ => fault (.notContainer (← typeName container))

def compareWith (reach : Reach) (op : CompareOp) (v w : Value) : Eval Bool := do
  match op with
  | .equal => equal v w
  | .notEqual => return !(← equal v w)
  | .less => order .less v w
  | .lessEqual => order .lessEqual v w
  | .greater => order .greater v w
  | .greaterEqual => order .greaterEqual v w
  | .isIn => contains reach w v
  | .notIn => return !(← contains reach w v)
  | .same => return v.same w
  | .notSame => return !v.same w

def convert : Conversion → Datum → Except Fault Datum
  | .none, d => .ok d
  | .display, d => .str <$> d.write Datum.display
  | .quoted, d => .str <$> d.write Datum.quoted
  | .ascii, d => .str <$> d.write Format.asciiQuoted

def showField (conversion : Conversion) (d : Datum) (spec : Text) : Except Fault Text := do
  Format.writeDatum (← convert conversion d) spec

/-! ## What templates offer -/

def templateArguments (reach : Reach) (v : Value) : Eval (List (Value × Value)) := do
  if ← truth v then entriesOf reach v else return []

def hostParameters (name : Text) : List Text × Nat :=
  match String.ofList name with
  | "capture" => (["value"], 1)
  | "capture_reference" => (["index"], 1)
  | "render" => (["name", "args"], 1)
  | "render_include" => (["name", "scope", "owner"], 2)
  | "load_source" => (["name"], 1)
  | _ => ([], 0)

def templateMethod (id : Nat) (name : Text) (args : Arguments) : Eval Value := do
  let (params, required) := hostParameters name
  let given ← takeParameters (methodName "TemplateInstance" name) params required args
  match String.ofList name, given with
  | "capture", [some v] => ask (.capture id v)
  | "capture_reference", [some (.int n _)] => ask (.reference id n)
  | "dispose", _ => ask (.dispose id)
  | _, _ => beyond name

def engineMethod (reach : Reach) (name : Text) (args : Arguments) : Eval Value := do
  let (params, required) := hostParameters name
  let given ← takeParameters (methodName "TemplateEngine" name) params required args
  match String.ofList name, given with
  | "render", [some (.str n _), v] => do
    ask (.render n (← templateArguments reach (v.getD .none)))
  | "render_include", [some (.str n _), some v, none]
  | "render_include", [some (.str n _), some v, some .none] => do
    ask (.renderInclude n (← templateArguments reach v) none)
  | "render_include", [some (.str n _), some v, some (.template id _)] => do
    ask (.renderInclude n (← templateArguments reach v) (some id))
  | "load_source", [some (.str n _)] => ask (.source n)
  | _, _ => beyond name

def registryMethod (name : Text) (args : Arguments) : Eval Value := do
  takeNone (methodName "dict" name) args
  ask .clear

/-! ## Unpacking -/

def targetCount (targets : List Target) : Nat × Bool :=
  let starred := targets.any fun
    | .starred _ => true
    | _ => false
  (if starred then targets.length - 1 else targets.length, starred)

/-- The items that go to each of some targets; a starred one gets a new list of what is left. -/
def distribute : List Target → List Value → (spare : Nat) → Eval (List (Target × Value))
  | [], _, _ => pure []
  | .starred t :: more, items, spare => do
    let taken ← newList (items.take spare)
    return (t, taken) :: (← distribute more (items.drop spare) 0)
  | t :: more, v :: items, spare => do return (t, v) :: (← distribute more items spare)
  | _ :: _, [], _ => pure []

def unpack (reach : Reach) (targets : List Target) (v : Value) :
    Eval (List (Target × Value)) := do
  match ← items? reach v with
  | none => fault (.unpackNotIterable (← typeName v))
  | some items =>
    let (count, starred) := targetCount targets
    if items.length < count then fault (.notEnoughValues count starred items.length)
    else if count < items.length ∧ !starred then fault (.tooManyValues count)
    else distribute targets items (items.length - count)

def bindParameters (params : List (Text × Option Value)) (args : Arguments) : Eval Names := do
  let function : Text := "<lambda>"
  match args.named.find? fun (n, _) => !(params.map (·.1)).contains n with
  | some (n, _) => fault (.unexpectedKeyword function n)
  | none =>
    if params.length < args.positional.length then
      fault (.takesPositional function ((params.map (·.2.isNone)).count true) params.length
        args.positional.length)
    else
      params.zipIdx.mapM fun ((n, fallback), i) => do
        match args.positional[i]?, args.named.lookup n, fallback with
        | some _, some _, _ => fault (.repeatedArgument function n)
        | some v, none, _ | none, some v, _ | none, none, some v => return (n, v)
        | none, none, none => fault (.missingParameter function n)

def argumentPlace : Value → Text
  | .builtin b => b.name ++ "() argument".toList
  | .method _ n _ => n ++ "() argument".toList
  | _ => "Value"

/-! ## Expressions -/

mutual

def eval : Nat → Frame → Expr → Eval Value
  | 0, _, _ => exhausted
  | f + 1, frame, e => do
    match e with
    | .constant c => return literal frame.code c
    | .folded e => return (← eval f frame e).asConstant frame.code
    | .name n => lookupName frame n
    | .member e n => do getMember (← eval f frame e) n
    | .subscript e (.slice start stop step) =>
      let v ← eval f frame e
      getSlice v (← evalBound f frame start) (← evalBound f frame stop) (← evalBound f frame step)
    | .subscript e i =>
      let v ← eval f frame e
      getItem v (← eval f frame i)
    | .slice .. => return .none
    | .call g args =>
      let g ← eval f frame g
      let args ← evalArguments f frame g args
      call f g args
    | .unary op e => do unary op (← eval f frame e)
    | .binary op a b =>
      let v ← eval f frame a
      let w ← eval f frame b
      binary op v w
    | .both a b =>
      let v ← eval f frame a
      if ← truth v then eval f frame b else return v
    | .either a b =>
      let v ← eval f frame a
      if ← truth v then return v else eval f frame b
    | .compare first more => do evalComparisons f frame (← eval f frame first) more
    | .ifElse cond yes no =>
      if ← truth (← eval f frame cond) then eval f frame yes else eval f frame no
    | .bind n e =>
      let v ← eval f frame e
      putName n v
      return v
    | .starred e => eval f frame e
    | .tuple items => do newTuple (← evalItems f frame items)
    | .list items => do newList (← evalItems f frame items)
    | .set items =>
      let items ← evalItems f frame items
      items.forM checkKey
      change fun h => h.newSet (items.foldl insertItem #[])
    | .dict entries =>
      let entries ← evalEntries f frame entries
      change fun h => h.newMapping (mergeInto ⟨false, []⟩ entries)
    | .collect collector element clauses =>
      let a ← startComprehension f frame element clauses
      match collector with
      | .generator => return .iterator a
      | .list => do newList (← drain ⟨call f, next f, f⟩ f a #[])
      | .set =>
        let items ← drain ⟨call f, next f, f⟩ f a #[]
        items.forM checkKey
        change fun h => h.newSet (items.foldl insertItem #[])
    | .collectDict key value clauses =>
      let a ← startComprehension f frame (.tuple [key, value]) clauses
      let items ← drain ⟨call f, next f, f⟩ f a #[]
      let entries := items.filterMap entryOfPair?
      checkKeys entries
      change fun h => h.newMapping (mergeInto ⟨false, []⟩ entries)
    | .joined parts => do newText (← evalParts f frame parts)
    | .field .. => do newText (← evalParts f frame [e])
    | .lambda params body =>
      let params ← evalDefaults f frame params
      change fun h => h.newClosure ⟨params, body, frame.locals, frame.code⟩

def evalBound : Nat → Frame → Option Expr → Eval Value
  | 0, _, _ => exhausted
  | _ + 1, _, none => pure .none
  | f + 1, frame, some e => eval f frame e

def evalItems : Nat → Frame → List Expr → Eval (List Value)
  | 0, _, _ => exhausted
  | _ + 1, _, [] => pure []
  | f + 1, frame, .starred e :: more => do
    let v ← eval f frame e
    match ← items? ⟨call f, next f, f⟩ v with
    | some first => return first ++ (← evalItems f frame more)
    | none => fault (.notSpreadable "Value" (← typeName v))
  | f + 1, frame, e :: more => do
    let v ← eval f frame e
    return v :: (← evalItems f frame more)

def evalEntries : Nat → Frame → List (Option Expr × Expr) → Eval (List (Value × Value))
  | 0, _, _ => exhausted
  | _ + 1, _, [] => pure []
  | f + 1, frame, (some k, e) :: more => do
    let k ← eval f frame k
    let v ← eval f frame e
    checkKey k
    return (k, v) :: (← evalEntries f frame more)
  | f + 1, frame, (none, e) :: more => do
    match ← eval f frame e with
    | .mapping a =>
      let entries := ((← heap).mapping a).entries
      return entries ++ (← evalEntries f frame more)
    | v => fault (.notMapping (← typeName v))

def evalArguments : Nat → Frame → Value → List (ArgumentForm × Expr) → Eval Arguments
  | 0, _, _, _ => exhausted
  | _ + 1, _, _, [] => pure ⟨[], []⟩
  | f + 1, frame, g, (form, e) :: more => do
    let v ← eval f frame e
    match form with
    | .positional =>
      let rest ← evalArguments f frame g more
      return { rest with positional := v :: rest.positional }
    | .named n =>
      let rest ← evalArguments f frame g more
      return { rest with named := (n, v) :: rest.named }
    | .spread =>
      match ← items? ⟨call f, next f, f⟩ v with
      | some items =>
        let rest ← evalArguments f frame g more
        return { rest with positional := items ++ rest.positional }
      | none => fault (.notSpreadable (argumentPlace g) (← typeName v))
    | .spreadNamed =>
      match v with
      | .mapping a =>
        let entries := ((← heap).mapping a).entries
        let named ← entries.mapM fun (k, w) => match k with
          | .str n _ => pure (n, w)
          | _ => fault .keywordNotText
        let rest ← evalArguments f frame g more
        return { rest with named := named ++ rest.named }
      | v => fault (.notMappingArgument (argumentPlace g) (← typeName v))

def evalComparisons : Nat → Frame → Value → List (CompareOp × Expr) → Eval Value
  | 0, _, _, _ => exhausted
  | _ + 1, _, _, [] => pure (.bool true)
  | f + 1, frame, v, (op, e) :: more => do
    let w ← eval f frame e
    if ← compareWith ⟨call f, next f, f⟩ op v w then evalComparisons f frame w more
    else return .bool false

def evalParts : Nat → Frame → List Expr → Eval Text
  | 0, _, _ => exhausted
  | _ + 1, _, [] => pure []
  | f + 1, frame, .field e conversion spec :: more => do
    let v ← eval f frame e
    let spec ← evalParts f frame spec
    let shown ← ofExcept (showField conversion (← datum v) spec)
    return shown ++ (← evalParts f frame more)
  | f + 1, frame, .joined parts :: more => do
    let first ← evalParts f frame parts
    return first ++ (← evalParts f frame more)
  | f + 1, frame, e :: more => do
    let v ← eval f frame e
    return (← write Datum.display v) ++ (← evalParts f frame more)

def evalDefaults : Nat → Frame → List (Text × Option Expr) → Eval (List (Text × Option Value))
  | 0, _, _ => exhausted
  | _ + 1, _, [] => pure []
  | f + 1, frame, (n, none) :: more => do return (n, none) :: (← evalDefaults f frame more)
  | f + 1, frame, (n, some e) :: more => do
    let v ← eval f frame e
    return (n, some v) :: (← evalDefaults f frame more)

/-- The iterator of a comprehension. Its first iterable is evaluated at once. -/
def startComprehension : Nat → Frame → Expr → List Clause → Eval Nat
  | 0, _, _, _ => exhausted
  | _ + 1, _, _, [] => newIterator .done
  | f + 1, frame, element, clauses@(.mk _ iterable _ :: _) => do
    let a ← iterator (← eval f frame iterable)
    newIterator (.comprehension ⟨element, clauses, frame.code⟩ [⟨a, frame.locals⟩])

/-- Gives a target a value and gives the frame behind it; names are bound in the frame if they are
local, else in the memory. -/
def assign : Nat → (isLocal : Bool) → Frame → Target → Value → Eval Frame
  | 0, _, _, _, _ => exhausted
  | f + 1, isLocal, frame, target, v => do
    match target with
    | .name n =>
      if isLocal then return { frame with locals := frame.locals.put n v }
      else
        putName n v
        return frame
    | .member e n =>
      setMember (← eval f frame e) n
      return frame
    | .subscript e (.slice start stop step) =>
      let c ← eval f frame e
      let (start, stop, step) :=
        (← evalBound f frame start, ← evalBound f frame stop, ← evalBound f frame step)
      setSlice c start stop step (← items ⟨call f, next f, f⟩ v)
      return frame
    | .subscript e i =>
      let c ← eval f frame e
      setItem c (← eval f frame i) v
      return frame
    | .tuple targets => do assignAll f isLocal frame (← unpack ⟨call f, next f, f⟩ targets v)
    | .starred t => assign f isLocal frame t v

def assignAll : Nat → (isLocal : Bool) → Frame → List (Target × Value) → Eval Frame
  | 0, _, _, _ => exhausted
  | _ + 1, _, frame, [] => pure frame
  | f + 1, isLocal, frame, (t, v) :: more => do
    let frame ← assign f isLocal frame t v
    assignAll f isLocal frame more

def call : Nat → Value → Arguments → Eval Value
  | 0, _, _ => exhausted
  | f + 1, g, args => do
    let reach : Reach := ⟨call f, next f, f⟩
    match g with
    | .builtin b => callBuiltin reach b args
    | .closure a =>
      match (← heap).closure? a with
      | some c =>
        let bound ← bindParameters c.params args
        eval f ⟨c.code, bound ++ c.locals⟩ c.body
      | none => return .none
    | .method r n _ =>
      match r with
      | .str t _ => textMethod reach n r t args
      | .list a => listMethod reach n a args
      | .mapping a => mappingMethod reach n a args
      | .set a => setMethod reach n a args
      | .tuple items _ => tupleMethod n r items args
      | .range start stop step _ => rangeMethod n start stop step args
      | .float x _ => floatMethod n r x args
      | .template id _ => templateMethod id n args
      | .engine => engineMethod reach n args
      | .registry => registryMethod n args
      | r => plainMethod n r args
    | .typeObject n => beyond n
    | g => fault (.notCallable (← typeName g))

def next : Nat → (a : Nat) → Eval (Option Value)
  | 0, _ => exhausted
  | f + 1, a => do
    let h ← heap
    let put (i : Iteration) : Eval Unit := modifyHeap fun h => h.setIteration a i
    let finish : Eval (Option Value) := do
      put .done
      return none
    match h.iteration a with
    | .done => return none
    | .list l i =>
      match (h.list l)[i]? with
      | some v =>
        put (.list l (i + 1))
        return some v
      | none => finish
    | .listBackwards l remaining =>
      match remaining with
      | 0 => finish
      | i + 1 =>
        match (h.list l)[i]? with
        | some v =>
          put (.listBackwards l i)
          return some v
        | none => finish
    | .items type (v :: rest) =>
      put (.items type rest)
      return some v
    | .items _ [] => finish
    | .range n step (k + 1) =>
      put (.range (n + step) step k)
      return some (← newInt n)
    | .range _ _ 0 => finish
    | .mapping kind m size i =>
      let entries := (h.mapping m).entries
      if entries.length ≠ size then fault .mappingResized
      else match ← viewed kind (entries.drop i |>.take 1) with
        | v :: _ =>
          put (.mapping kind m size (i + 1))
          return some v
        | [] => finish
    | .mappingBackwards kind m size remaining =>
      let entries := (h.mapping m).entries
      if entries.length ≠ size then fault .mappingResized
      else match remaining with
        | 0 => finish
        | i + 1 =>
          put (.mappingBackwards kind m size i)
          return (← viewed kind (entries.drop i |>.take 1)).head?
    | .set s size i =>
      let items := h.set s
      if items.size ≠ size then fault .setResized
      else match items[i]? with
        | some v =>
          put (.set s size (i + 1))
          return some v
        | none => finish
    | .enumerate source n =>
      match ← next f source with
      | none => finish
      | some v =>
        put (.enumerate source (n + 1))
        return some (← newTuple [← newInt n, v])
    | .zip sources =>
      if sources.isEmpty then return none
      else match ← nextAll f sources with
        | some items => return some (← newTuple items)
        | none => finish
    | .map g sources =>
      match ← nextAll f sources with
      | some items => return some (← call f g ⟨items, []⟩)
      | none => finish
    | .filter g source => nextMatching f g source
    | .comprehension c stack =>
      -- While it runs it has nothing to give; a fault ends it.
      put .done
      match ← resume f c stack with
      | some (v, stack) =>
        put (.comprehension c stack)
        return some v
      | none => return none

def nextAll : Nat → List Nat → Eval (Option (List Value))
  | 0, _ => exhausted
  | _ + 1, [] => pure (some [])
  | f + 1, a :: more => do
    match ← next f a with
    | none => return none
    | some v => return (← nextAll f more).map (v :: ·)

def nextMatching : Nat → Value → (a : Nat) → Eval (Option Value)
  | 0, _, _ => exhausted
  | f + 1, g, a => do
    match ← next f a with
    | none => return none
    | some v =>
      let verdict ← match g with
        | .none => pure v
        | g => call f g ⟨[v], []⟩
      if ← truth verdict then return some v else nextMatching f g a

def resume : Nat → Comprehension → List Running → Eval (Option (Value × List Running))
  | 0, _, _ => exhausted
  | _ + 1, _, [] => pure none
  | f + 1, c, r :: outer => do
    match ← next f r.iterator, c.clauses[outer.length]? with
    | none, _ | _, none => resume f c outer
    | some v, some (.mk target _ conditions) =>
      let frame ← assign f true ⟨c.code, r.locals⟩ target v
      if !(← evalConditions f frame conditions) then resume f c (r :: outer)
      else match c.clauses[outer.length + 1]? with
        | none => return some (← eval f frame c.element, r :: outer)
        | some (.mk _ iterable _) =>
          let a ← iterator (← eval f frame iterable)
          resume f c (⟨a, frame.locals⟩ :: r :: outer)

def evalConditions : Nat → Frame → List Expr → Eval Bool
  | 0, _, _ => exhausted
  | _ + 1, _, [] => pure true
  | f + 1, frame, e :: more => do
    if ← truth (← eval f frame e) then evalConditions f frame more else return false

end

/-! ## Statements -/

/-- An operator that updates its left operand: a list is extended in place. -/
def update (reach : Reach) (op : BinaryOp) (v w : Value) : Eval Value := do
  match op, v with
  | .add, .list a =>
    let more ← items reach w
    modifyHeap fun h => h.setList a (h.list a ++ more.toArray)
    return v
  | _, _ => binaryAs op.updateMark op v w

def targetValue (f : Nat) (frame : Frame) : Target → Eval Value
  | .name n => lookupName frame n
  | .member e n => do getMember (← eval f frame e) n
  | .subscript e i => eval f frame (.subscript e i)
  | _ => pure .none

def delete (f : Nat) (frame : Frame) : (depth : Nat) → Target → Eval Unit
  | 0, _ => exhausted
  | depth + 1, target => do
    match target with
    | .name n =>
      match (← names).get? n with
      | some _ => removeName n
      | none => fault (.unknownName n)
    | .member e n => do setMember (← eval f frame e) n
    | .subscript e (.slice start stop step) =>
      let c ← eval f frame e
      removeSlice c (← evalBound f frame start) (← evalBound f frame stop)
        (← evalBound f frame step)
    | .subscript e i =>
      let c ← eval f frame e
      removeItem c (← eval f frame i)
    | .tuple targets => targets.forM (delete f frame depth)
    | .starred _ => pure ()

def execute (f : Nat) (frame : Frame) : Statement → Eval Unit
  | .effect e => do
    let _ ← eval f frame e
  | .assign targets e => do
    let v ← eval f frame e
    targets.forM fun t => do
      let _ ← assign f false frame t v
  | .update target op e => do
    let v ← targetValue f frame target
    let w ← eval f frame e
    let _ ← assign f false frame target (← update ⟨call f, next f, f⟩ op v w)
  | .delete targets => targets.forM (delete f frame f)
  | .raise what cause => do
    match what with
    | none => fault .nothingRaised
    | some e =>
      -- No value that is offered here is an exception.
      let _ ← eval f frame e
      let _ ← evalBound f frame cause
      fault .notAnException
  | .pass => pure ()

end Eval

end Stencil
