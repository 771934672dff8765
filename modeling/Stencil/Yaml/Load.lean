import Stencil.Eval.Compare
import Stencil.Yaml.Meaning
import Stencil.Yaml.Parse

/-!
# Values of documents

A document becomes a value: its scalars are given their meaning, sequences become lists and
mappings become mappings in the order of their keys. An alias is the very object that its anchor
names. Equal keys are a mistake, except that a merged mapping may hold keys that are given anew.
-/

namespace Stencil.Yaml

/-- Why a text has no value: it is no document, a scalar is not what it is written like, or it holds
something that is left open. -/
inductive Trouble where
  | mistake (m : Mistake)
  | fault (f : Fault)
  | beyond (what : Text)
deriving DecidableEq, Repr

structure Loader where
  heap : Heap
  anchors : List (Text × Value) := []

abbrev Load := ExceptT Trouble (StateM Loader)

namespace Load

def mistake {α : Type} (m : Mistake) : Load α := throw (.mistake m)

def fault {α : Type} (f : Fault) : Load α := throw (.fault f)

def beyond {α : Type} (what : Text) : Load α := throw (.beyond what)

def inHeap {α : Type} (x : StateM Heap α) : Load α :=
  modifyGet fun l =>
    let (a, heap) := x l.heap
    (a, { l with heap })

def serial : Load Identity := do return .made (← inHeap (modifyGet Heap.newSerial))

def name (anchor : Option Text) (v : Value) : Load Unit :=
  match anchor with
  | some anchor => modify fun l => { l with anchors := (anchor, v) :: l.anchors }
  | none => pure ()

/-! ## Scalars -/

def text (t : Text) : Load Value := inHeap (modifyGet fun h => h.newText t)

def int (negative : Bool) (base : Nat) (digits : Text) : Load Value := do
  if digits.isEmpty then fault (.badIntText base [])
  let n : Int := Number.digitsToNat base Number.alphaDigit digits
  return .ofInt (if negative then -n else n) (← serial)

def float (t : Text) : Load Value := do
  let (negative, rest) := Number.takeSign (t.map Char.toLower)
  let x ← if rest = ".inf".toList then pure (Number.infinity negative)
    else if rest = ".nan".toList then pure Number.notANumber
    else match Number.parseFloat? rest with
      | some x => pure (if negative then -x else x)
      | none => fault (.badFloatText rest)
  return .float x (← serial)

def isLeapYear (year : Nat) : Bool := year % 4 = 0 && (year % 100 ≠ 0 || year % 400 = 0)

def daysOfMonth (year month : Nat) : Nat :=
  if month = 2 then if isLeapYear year then 29 else 28
  else if [4, 6, 9, 11].contains month then 30
  else 31

def date (year month day : Nat) : Load Value := do
  if year = 0 then fault (.yearOutOfRange year)
  if month = 0 ∨ 12 < month then fault .monthOutOfRange
  if day = 0 ∨ daysOfMonth year month < day then fault .dayOutOfRange
  return .date year month day (← serial)

def ofMeaning (m : Meaning) : Load Value :=
  match m with
  | .null => return .none
  | .bool b => return .bool b
  | .int negative base digits => int negative base digits
  | .float t => float t
  | .date year month day => date year month day
  | .text t => text t
  | .merge => text ['<', '<']
  | .moment => beyond "timestamp"
  | .default => mistake .badTag

def coreTag? (tag : Text) : Option Text := Text.after? "tag:yaml.org,2002:".toList tag

def furtherTags : List Text := ["binary", "timestamp", "omap", "pairs"].map String.toList

def strangeTag {α : Type} (tag : Text) : Load α :=
  match coreTag? tag with
  | some name => if furtherTags.contains name then beyond name else mistake .badTag
  | none => mistake .badTag

def tagged (tag t : Text) : Load Value :=
  match (coreTag? tag).map String.ofList with
  | some "str" => text t
  | some "null" => return .none
  | some "bool" =>
    let word := t.map Char.toLower
    if ["true", "yes", "on", "y"].any (·.toList = word) then return .bool true
    else if ["false", "no", "off", "n"].any (·.toList = word) then return .bool false
    else fault (.missingKey (Text.quoted word))
  | some "int" =>
    let (negative, rest) := Number.takeSign (Meaning.ungapped t)
    match Meaning.wholeNumber? rest with
    | some (base, digits) => int negative base digits
    | none => fault (.badIntText 10 rest)
  | some "float" => float (Meaning.ungapped t)
  | _ => strangeTag tag

def scalar (p : Properties) (plain : Bool) (t : Text) : Load Value :=
  match p.tag with
  | none => if plain then ofMeaning (Meaning.ofPlain t) else text t
  | some tag => if tag = ['!'] then ofMeaning (Meaning.ofPlain t) else tagged tag t

/-! ## Collections -/

def isMerge : Node → Bool
  | .scalar p plain t => plain && p.tag.isNone && Meaning.ofPlain t = .merge
  | _ => false

def isDefault : Node → Bool
  | .scalar p plain t => plain && p.tag.isNone && Meaning.ofPlain t = .default
  | _ => false

/-- A value as a key: a list becomes a tuple, and other collections are refused. -/
def asKey (v : Value) : Load Value := do
  let h := (← get).heap
  match v with
  | .list a =>
    let items := (h.list a).toList
    match h.unhashableItem? items with
    | some type => fault (.unhashable type)
    | none => return .ofItems items (← serial)
  | .mapping _ | .set _ => mistake .badKey
  | v => return v

/-- The entries that a value adds to a mapping it is merged into; of several mappings the first
one wins. -/
def mergedEntries (v : Value) : Load (List (Value × Value)) := do
  let h := (← get).heap
  match v with
  | .mapping a => return (h.mapping a).entries
  | .list a =>
    let parts ← (h.list a).toList.mapM fun
      | .mapping b => pure (h.mapping b).entries
      | _ => mistake .badMerge
    return parts.reverse.flatten
  | _ => mistake .badMerge

def checkTag (p : Properties) (kind : String) : Load Unit :=
  match p.tag with
  | none => pure ()
  | some tag =>
    if tag = ['!'] ∨ coreTag? tag = some kind.toList then pure () else strangeTag tag

def repeatsKey : List (Value × Value) → Bool
  | [] => false
  | (k, _) :: more => more.any (·.1.equalKey k) || repeatsKey more

mutual

def node : Node → Load Value
  | .alias n => do
    match (← get).anchors.lookup n with
    | some v => return v
    | none => mistake .unknownAlias
  | .scalar p plain t => do
    let v ← scalar p plain t
    name p.anchor v
    return v
  | .sequence p items => do
    checkTag p "seq"
    let v ← inHeap (modifyGet fun h => h.newList #[])
    name p.anchor v
    let items ← nodes items
    if let .list a := v then inHeap (modify fun h => h.setList a items.toArray)
    return v
  | .mapping p entries => do
    let isSet := (p.tag.bind coreTag?) = some "set".toList
    if !isSet then checkTag p "map"
    let v ← inHeap (modifyGet fun h => h.newMapping ⟨false, []⟩)
    if !isSet then name p.anchor v
    let (merged, own) ← pairs [] [] entries
    if merged.isEmpty && repeatsKey own then mistake .repeatedKey
    let all := (merged ++ own).foldl (fun es (k, w) => Mapping.putEntry k w es) []
    if isSet then
      let set ← inHeap (modifyGet fun h => h.newSet (all.map (·.1)).toArray)
      name p.anchor set
      return set
    else
      if let .mapping a := v then inHeap (modify fun h => h.setMapping a ⟨false, all⟩)
      return v

def nodes : List Node → Load (List Value)
  | [] => return []
  | n :: more => do
    let v ← node n
    return v :: (← nodes more)

def pairs (merged own : List (Value × Value)) :
    List (Node × Node) → Load (List (Value × Value) × List (Value × Value))
  | [] => return (merged, own)
  | (k, n) :: more => do
    if isMerge k then
      if !merged.isEmpty then mistake .repeatedKey
      pairs (← mergedEntries (← node n)) own more
    else
      let key ← if isDefault k then text ['='] else do asKey (← node k)
      let v ← node n
      pairs merged (own ++ [(key, v)]) more

end

end Load

def load (t : Text) (h : Heap) : Except Trouble (Value × Heap) :=
  match document? t with
  | .error m => .error (.mistake m)
  | .ok none => .ok (.none, h)
  | .ok (some root) =>
    match ExceptT.run (Load.node root) ⟨h, []⟩ with
    | (.ok v, l) => .ok (v, l.heap)
    | (.error e, _) => .error e

end Stencil.Yaml
