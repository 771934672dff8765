import Stencil.Eval.Subscript

/-!
# Members

What stands behind the point of a member access: methods, parts of numbers, and what a template
lets its expressions see of itself.
-/

namespace Stencil

namespace Heap

def textMethods : List Text := [
  "capitalize", "casefold", "center", "count", "endswith", "expandtabs", "find", "format",
  "format_map", "index", "isalnum", "isalpha", "isascii", "isdecimal", "isdigit", "isidentifier",
  "islower", "isnumeric", "isprintable", "isspace", "istitle", "isupper", "join", "ljust",
  "lower", "lstrip", "partition", "removeprefix", "removesuffix", "replace", "rfind", "rindex",
  "rjust", "rpartition", "rsplit", "rstrip", "split", "splitlines", "startswith", "strip",
  "swapcase", "title", "upper", "zfill"].map String.toList

def listMethods : List Text := [
  "append", "clear", "copy", "count", "extend", "index", "insert", "pop", "remove", "reverse",
  "sort"].map String.toList

def mappingMethods : List Text := [
  "clear", "copy", "get", "items", "keys", "pop", "popitem", "setdefault", "update",
  "values"].map String.toList

def setMethods : List Text := [
  "add", "clear", "copy", "difference", "discard", "intersection", "isdisjoint", "issubset",
  "issuperset", "pop", "remove", "symmetric_difference", "union", "update"].map String.toList

def sequenceMethods : List Text := ["count", "index"].map String.toList

def floatMethods : List Text :=
  ["as_integer_ratio", "conjugate", "is_integer"].map String.toList

def templateMethods : List Text :=
  ["capture", "capture_reference", "dispose"].map String.toList

def engineMethods : List Text := ["load_source", "render", "render_include"].map String.toList

def registryMethods : List Text := ["clear"].map String.toList

def methods : Value → List Text
  | .str .. => textMethods
  | .list _ => listMethods
  | .mapping _ => mappingMethods
  | .set _ => setMethods
  | .tuple .. | .range .. => sequenceMethods
  | .int .. | .bool _ => Datum.intMethods
  | .float .. => floatMethods
  | .template .. => templateMethods
  | .engine => engineMethods
  | .registry => registryMethods
  | _ => []

/-! ## What is left open -/

def furtherTemplateMembers : List Text := [
  "_capture_index", "capture_owner", "captured_values", "compile", "include_handler", "on_render",
  "reload", "render", "rendered_root", "renderer", "run", "snapshot", "snapshot_markup",
  "spans"].map String.toList

def furtherEngineMembers : List Text := [
  "_ids", "config", "create", "extractor", "from_directory", "get_by_id", "globals", "lookup",
  "markup", "on_render", "resolve", "source_lookup"].map String.toList

def furtherDateMembers : List Text := [
  "ctime", "fromisocalendar", "fromisoformat", "fromordinal", "fromtimestamp", "isocalendar",
  "isoformat", "isoweekday", "max", "min", "replace", "resolution", "strftime", "timetuple",
  "today", "toordinal", "weekday"].map String.toList

def furtherMembers : Value → List Text
  | .str .. => ["encode", "maketrans", "translate"].map String.toList
  | .int .. | .bool _ => Datum.furtherIntMembers
  | .float .. => ["fromhex", "hex"].map String.toList
  | .mapping _ => ["fromkeys"].map String.toList
  | .set _ => ["difference_update", "intersection_update",
      "symmetric_difference_update"].map String.toList
  | .date .. => furtherDateMembers
  | .view .. => ["isdisjoint", "mapping"].map String.toList
  | .iterator _ => ["close", "gi_code", "gi_frame", "gi_running", "gi_suspended", "gi_yieldfrom",
      "send", "throw"].map String.toList
  | .builtin _ => ["eof", "name"].map String.toList
  | .template .. => furtherTemplateMembers
  | .engine => furtherEngineMembers
  | .registry => "fromkeys".toList :: mappingMethods
  | _ => []

def isType : Value → Bool
  | .builtin b => b.isType
  | .typeObject _ => true
  | _ => false

/-- Whether it is left open what the member of a value is. -/
def leavesOpen (v : Value) (n : Text) : Bool :=
  Datum.isReserved n || isType v || (furtherMembers v).contains n

/-- Values that take any member that is assigned to them. -/
def takesMembers (h : Heap) : Value → Bool
  | .mapping a => (h.mapping a).isScope
  | .builtin _ | .typeObject _ | .closure _ | .template .. | .engine => true
  | _ => false

end Heap

namespace Eval

def numberPart? (v : Value) (n : Text) : Option (Eval Value) :=
  match v, v.int? with
  | .float x _, _ =>
    if n = "real".toList then some (pure v)
    else if n = "imag".toList then some (newFloat (x - x))
    else none
  | _, some k => (Datum.intPart? k n).map newInt
  | _, none => none

def rangePart? (start stop step : Int) (n : Text) : Option (Eval Value) :=
  if n = "start".toList then some (newInt start)
  else if n = "stop".toList then some (newInt stop)
  else if n = "step".toList then some (newInt step)
  else none

def datePart? (year month day : Nat) (n : Text) : Option (Eval Value) :=
  if n = "year".toList then some (newInt year)
  else if n = "month".toList then some (newInt month)
  else if n = "day".toList then some (newInt day)
  else none

def templatePart? (id : Nat) (name n : Text) : Option (Eval Value) :=
  if n = "id".toList then some (newInt id)
  else if n = "name".toList then some (pure (.str name .shared))
  else if n = "scope".toList then some (ask (.scope id))
  else if n = "engine".toList then some (pure .engine)
  else none

def enginePart? (n : Text) : Option (Eval Value) :=
  if n = "instances".toList then some (pure .registry) else none

def part? (v : Value) (n : Text) : Option (Eval Value) :=
  match v with
  | .range start stop step _ => rangePart? start stop step n
  | .date year month day _ => datePart? year month day n
  | .template id name => templatePart? id name n
  | .engine => enginePart? n
  | v => numberPart? v n

def noMember (v : Value) (n : Text) : Eval Value := do fault (.noMember (← typeName v) n)

def getMember (v : Value) (n : Text) : Eval Value := do
  match part? v n with
  | some value => value
  | none =>
    if (Heap.methods v).contains n then return .method v n (← serial)
    else if Heap.leavesOpen v n then beyond n
    else noMember v n

def hasMember (v : Value) (n : Text) : Eval Bool :=
  if (part? v n).isSome || (Heap.methods v).contains n then pure true
  else if Heap.leavesOpen v n then beyond n
  else pure false

def setMember (v : Value) (n : Text) : Eval Unit := do
  if (← heap).takesMembers v then beyond n
  else if ← hasMember v n then fault (.readOnlyMember (← typeName v) n)
  else fault (.noMember (← typeName v) n)

end Eval

end Stencil
