import Stencil.Format.Field
import Stencil.Text.Blank
import Stencil.Text.Digit

/-!
# Capture references

A captured value is written as a text with the number of its instance and its index, in a format
that may use both as fields. The text is read back by matching it against the same format, in
which each field stands for decimal digits; a field that occurs again must have the same digits.
-/

namespace Stencil.Reference

structure Target where
  instanceId : Int
  index : Int
deriving DecidableEq, Repr

/-! ## Writing -/

abbrev Access := Datum → Format.Step → Except Fault Datum

/-- Whole numbers have their parts and their methods. What a method or another object has is left
open, but for what belongs to the language. -/
def access : Access
  | .int n, .member name =>
    match Datum.intPart? n name with
    | some k => .ok (.int k)
    | none =>
      if (Datum.intMethods ++ Datum.furtherIntMembers).contains name then
        .ok (.other "builtin_function_or_method" (Text.say ["<built-in method ", name, ">"]))
      else if Datum.reservedIntMembers.contains name then .ok (.other "object" name)
      else .error (.noMember "int" name)
  | .other type shown, .member name =>
    if Datum.isReserved name then .ok (.other "object" name)
    else .error (.noMember type (shown ++ '.' :: name))
  | d, .member name => .error (.noMember d.typeName name)
  | d, .item _ | d, .key _ => .error (.notSubscriptable d.typeName)

def fetch (access : Access) (target : Target) (path : Format.Path) : Except Fault Datum := do
  let start ← match path.source with
    | .named name =>
      if name = "id".toList then .ok (.int target.instanceId)
      else if name = "index".toList then .ok (.int target.index)
      else .error (.missingKey (Text.quoted name))
    | .position i => .error (.replacementOutOfRange i)
  let d ← path.steps.foldlM access (start : Datum)
  match path.mistake with
  | some f => .error f
  | none => .ok d

def writeWith (access : Access) (format : Text) (target : Target) : Except Fault Text := do
  let (t, _) ← Format.fill (m := Except Fault) .error Format.datum (fetch access target)
    Format.maxDepth .undecided format
  return t

def write (format : Text) (target : Target) : Except Fault Text := writeWith access format target

/-! ## Reading -/

inductive Part where
  | literal (t : Text)
  | field (name : Text)
deriving DecidableEq, Repr

def Part.ofPiece (p : Format.Piece) : List Part :=
  .literal p.literal :: (p.field.map fun f => Part.field f.name).toList

/-- The parts of a format; a format that is no format has none. -/
def parts (format : Text) : List Part :=
  match Format.pieces format with
  | .ok pieces => pieces.flatMap Part.ofPiece
  | .error _ => []

def fieldNames (parts : List Part) : List Text :=
  parts.filterMap fun
    | .field name => some name
    | .literal _ => none

abbrev Found := List (Text × Text)

/-- Matches a whole text against parts. A field takes as many digits as the rest lets it have. -/
def matchParts : List Part → Found → Text → Option Found
  | [], found, t => if t.isEmpty then some found else none
  | .literal l :: more, found, t => (Text.after? l t).bind (matchParts more found)
  | .field name :: more, found, t =>
    match found.lookup name with
    | some digits => (Text.after? digits t).bind (matchParts more found)
    | none =>
      let most := (t.takeWhile Text.isDecimalDigit).length
      ((List.range most).reverse.map (· + 1)).findSome? fun n =>
        matchParts more ((name, t.take n) :: found) (t.drop n)

def number? (found : Found) (name : String) : Option Int :=
  ((found.lookup name.toList).bind Text.digitsToNat?).map Int.ofNat

/-- What a text refers to. Only formats whose fields are the two numbers can be read back. -/
def read? (format t : Text) : Option Target := do
  let parts := parts format
  let names := fieldNames parts
  if names.contains "id".toList && names.contains "index".toList &&
      names.all (fun n => n = "id".toList ∨ n = "index".toList) then
    let found ← matchParts parts [] (Text.strip t)
    return ⟨← number? found "id", ← number? found "index"⟩
  else none

end Stencil.Reference
