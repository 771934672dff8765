import Stencil.Value.Basic
import Stencil.Value.Datum

/-!
# Heaps

The objects that can change: lists, mappings, sets and iterators, each kind with addresses of its
own. Nothing is ever freed, so an address stays good. A serial number is given to each immutable
object that is made.
-/

namespace Stencil

/-- A mapping in the order in which its keys came; a scope reads a missing key as nothing. -/
structure Mapping where
  isScope : Bool
  entries : List (Value × Value)
deriving Inhabited

namespace Mapping

def get? (m : Mapping) (key : Value) : Option Value :=
  (m.entries.find? fun (k, _) => k.equalKey key).map (·.2)

/-- An equal key keeps its place and stays the key. -/
def putEntry (key v : Value) : List (Value × Value) → List (Value × Value)
  | [] => [(key, v)]
  | (k, w) :: more => if k.equalKey key then (k, v) :: more else (k, w) :: putEntry key v more

def put (m : Mapping) (key v : Value) : Mapping := { m with entries := putEntry key v m.entries }

def remove (m : Mapping) (key : Value) : Mapping :=
  { m with entries := m.entries.filter fun (k, _) => !k.equalKey key }

end Mapping

def insertItem (items : Array Value) (v : Value) : Array Value :=
  if items.any (·.equalKey v) then items else items.push v

structure Comprehension where
  element : Expr
  clauses : List Clause
  code : Nat

structure Running where
  iterator : Nat
  locals : Names

inductive Iteration where
  | done
  /-- A list, read as it is when the next item is taken. -/
  | list (address position : Nat)
  | listBackwards (address remaining : Nat)
  | items (type : Text) (rest : List Value)
  | range (next step : Int) (remaining : Nat)
  /-- A mapping that must keep its size. -/
  | mapping (kind : ViewKind) (address size position : Nat)
  | mappingBackwards (kind : ViewKind) (address size remaining : Nat)
  | set (address size position : Nat)
  | enumerate (source : Nat) (next : Int)
  | zip (sources : List Nat)
  | map (f : Value) (sources : List Nat)
  | filter (f : Value) (source : Nat)
  /-- The running clauses, innermost first. -/
  | comprehension (c : Comprehension) (stack : List Running)
deriving Inhabited

structure Closure where
  params : List (Text × Option Value)
  body : Expr
  locals : Names
  code : Nat
deriving Inhabited

structure Heap where
  lists : Array (Array Value) := #[]
  mappings : Array Mapping := #[]
  sets : Array (Array Value) := #[]
  iterations : Array Iteration := #[]
  closures : Array Closure := #[]
  serial : Nat := 0
deriving Inhabited

namespace Heap

def list (h : Heap) (a : Nat) : Array Value := h.lists.getD a #[]

def mapping (h : Heap) (a : Nat) : Mapping := h.mappings.getD a ⟨false, []⟩

def set (h : Heap) (a : Nat) : Array Value := h.sets.getD a #[]

def iteration (h : Heap) (a : Nat) : Iteration := h.iterations.getD a .done

def closure? (h : Heap) (a : Nat) : Option Closure := h.closures[a]?

def setList (h : Heap) (a : Nat) (items : Array Value) : Heap :=
  { h with lists := h.lists.setIfInBounds a items }

def setMapping (h : Heap) (a : Nat) (m : Mapping) : Heap :=
  { h with mappings := h.mappings.setIfInBounds a m }

def setSet (h : Heap) (a : Nat) (items : Array Value) : Heap :=
  { h with sets := h.sets.setIfInBounds a items }

def setIteration (h : Heap) (a : Nat) (i : Iteration) : Heap :=
  { h with iterations := h.iterations.setIfInBounds a i }

/-! ## New objects -/

def newList (h : Heap) (items : Array Value) : Value × Heap :=
  (.list h.lists.size, { h with lists := h.lists.push items })

def newMapping (h : Heap) (m : Mapping) : Value × Heap :=
  (.mapping h.mappings.size, { h with mappings := h.mappings.push m })

def newSet (h : Heap) (items : Array Value) : Value × Heap :=
  (.set h.sets.size, { h with sets := h.sets.push items })

def newIterator (h : Heap) (i : Iteration) : Nat × Heap :=
  (h.iterations.size, { h with iterations := h.iterations.push i })

def newClosure (h : Heap) (c : Closure) : Value × Heap :=
  (.closure h.closures.size, { h with closures := h.closures.push c })

def newSerial (h : Heap) : Nat × Heap := (h.serial, { h with serial := h.serial + 1 })

def newText (h : Heap) (t : Text) : Value × Heap :=
  (.ofText t (.made h.serial), { h with serial := h.serial + 1 })

def newPairs (h : Heap) (isScope : Bool) (pairs : List (Text × Value)) : Value × Heap :=
  h.newMapping (pairs.foldl (fun m (n, v) => m.put (.str n .shared) v) ⟨isScope, []⟩)

/-! ## Types -/

def textIteratorName (t : Text) : Text :=
  if t.all (·.toNat < 128) then "str_ascii_iterator".toList else "str_iterator".toList

def iterationType : Iteration → Text
  | .done => "generator".toList
  | .list .. => "list_iterator".toList
  | .listBackwards .. => "list_reverseiterator".toList
  | .items type _ => type
  | .range .. => "range_iterator".toList
  | .mapping .keys .. => "dict_keyiterator".toList
  | .mapping .values .. => "dict_valueiterator".toList
  | .mapping .items .. => "dict_itemiterator".toList
  | .mappingBackwards .keys .. => "dict_reversekeyiterator".toList
  | .mappingBackwards .values .. => "dict_reversevalueiterator".toList
  | .mappingBackwards .items .. => "dict_reverseitemiterator".toList
  | .set .. => "set_iterator".toList
  | .enumerate .. => "enumerate".toList
  | .zip .. => "zip".toList
  | .map .. => "map".toList
  | .filter .. => "filter".toList
  | .comprehension .. => "generator".toList

def viewType : ViewKind → Text
  | .keys => "dict_keys".toList
  | .values => "dict_values".toList
  | .items => "dict_items".toList

def isHost : Value → Bool
  | .template .. | .engine => true
  | _ => false

def typeName (h : Heap) : Value → Text
  | .none => "NoneType".toList
  | .bool _ => "bool".toList
  | .int .. => "int".toList
  | .float .. => "float".toList
  | .str .. => "str".toList
  | .tuple .. => "tuple".toList
  | .range .. => "range".toList
  | .date .. => "date".toList
  | .ellipsis => "ellipsis".toList
  | .list _ => "list".toList
  | .mapping a => if (h.mapping a).isScope then "Scope".toList else "dict".toList
  | .set _ => "set".toList
  | .iterator a => iterationType (h.iteration a)
  | .view kind .. => viewType kind
  | .builtin b =>
    if b.isType then "type".toList
    else if b.isQuitter then "Quitter".toList
    else "builtin_function_or_method".toList
  | .typeObject _ => "type".toList
  | .closure _ => "function".toList
  | .method r _ _ =>
    if isHost r then "method".toList else "builtin_function_or_method".toList
  | .template .. => "TemplateInstance".toList
  | .engine => "TemplateEngine".toList
  | .registry => "dict".toList

/-! ## Views -/

def viewItems (kind : ViewKind) (entries : List (Value × Value)) : List Value :=
  entries.map fun (k, v) => match kind with
    | .keys => k
    | .values => v
    | .items => .tuple [k, v] .shared

def typeText (name : Text) : Text := "<class '".toList ++ name ++ "'>".toList

def quitterText (b : Builtin) : Text :=
  "Use ".toList ++ b.name ++ "() or Ctrl-D (i.e. EOF) to exit".toList

def templateText (id : Nat) (name : Text) : Text :=
  "TemplateInstance(id=".toList ++ Text.ofNat id ++ ", name=".toList ++ Text.quoted name ++ [')']

/-- The datum of a value. An object that is inside itself is shown there by dots, and so is what
lies deeper than the fuel reaches. -/
def view (h : Heap) : (fuel : Nat) → (inside : List Value) → Value → Datum
  | 0, _, _ => .other [] "...".toList
  | fuel + 1, inside, v =>
    let again := inside.any (·.same v)
    let sub := view h fuel (v :: inside)
    let pairs (entries : List (Value × Value)) := entries.map fun (k, w) => (sub k, sub w)
    match v with
    | .none => .none
    | .bool b => .bool b
    | .int n _ => .int n
    | .float x _ => .float x
    | .str t _ => .str t
    | .tuple items _ => .tuple (items.map sub)
    | .range start stop step _ => .range start stop step
    | .date year month day _ => .date year month day
    | .ellipsis => .other "ellipsis".toList "Ellipsis".toList
    | .list a =>
      if again then .other "list".toList "[...]".toList else .list ((h.list a).toList.map sub)
    | .mapping a =>
      let m := h.mapping a
      if again then
        if m.isScope then .other "Scope".toList "Scope(\x7b...\x7d)".toList
        else .other "dict".toList "\x7b...\x7d".toList
      else if m.isScope then .scope (pairs m.entries)
      else .dict (pairs m.entries)
    | .set a => .set ((h.set a).toList.map sub)
    | .view kind a _ =>
      let items := (viewItems kind (h.mapping a).entries).map sub
      .other (viewType kind) (viewType kind ++ Datum.between '(' [(Datum.list items).quoted] ')')
    | .builtin b =>
      .other (h.typeName v) (if b.isType then typeText b.name
        else if b.isQuitter then quitterText b
        else "<built-in function ".toList ++ b.name ++ ['>'])
    | .typeObject name => .other "type".toList (typeText name)
    | .template id name => .other (h.typeName v) (templateText id name)
    | .iterator _ | .closure _ | .method .. | .engine | .registry =>
      .other (h.typeName v) ('<' :: h.typeName v ++ " object>".toList)

/-- How deep values may be nested: looking into one takes a recursion, which ends here. -/
def depth : Nat := 1000

def datum (h : Heap) (v : Value) : Datum := h.view depth [] v

end Heap

end Stencil
