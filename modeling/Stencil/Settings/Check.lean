import Stencil.Number.Read
import Stencil.Settings.Basic
import Stencil.Settings.Reference
import Stencil.Value.Datum

/-!
# Checking settings

Settings are given by name as data. Data of another type are taken where they clearly mean a value
of the right one. All fields are checked, and everything wrong with them is reported together.
-/

namespace Stencil

inductive Problem where
  | unknownName
  | notBool
  | unreadableBool
  | notInt
  | unreadableInt
  | intTooLong
  | fractional
  | notFinite
  | notText
  | badReference
deriving DecidableEq, Repr

def Problem.word : Problem → Text
  | unknownName => "extra_forbidden"
  | notBool => "bool_type"
  | unreadableBool => "bool_parsing"
  | notInt => "int_type"
  | unreadableInt => "int_parsing"
  | intTooLong => "int_parsing_size"
  | fractional => "int_from_float"
  | notFinite => "finite_number"
  | notText => "string_type"
  | badReference => "value_error"

inductive Rejection where
  | problems (fields : List (Text × Problem))
  /-- A fault that the check of a field does not expect. -/
  | fault (f : Fault)
deriving DecidableEq, Repr

namespace Settings

/-! ## Values -/

def trueWords : List Text := ["1", "on", "t", "true", "y", "yes"].map String.toList

def falseWords : List Text := ["0", "off", "f", "false", "n", "no"].map String.toList

def boolOfInt (n : Int) : Except Problem Bool :=
  if n = 0 then .ok false else if n = 1 then .ok true else .error .unreadableBool

def intOfFloat (x : Float) : Except Problem Int :=
  match Number.Binary.ofFloat x with
  | .nan | .infinite _ => .error .notFinite
  | .finite negative m e =>
    let (n, d) := Number.fraction negative m e
    if n % d ≠ 0 then .error .fractional
    else if Number.fitsWord (n / d) then .ok (n / d)
    else .error .intTooLong

def asBool : Datum → Except Problem Bool
  | .bool b => .ok b
  | .str t =>
    let word := t.map Char.toLower
    if trueWords.contains word then .ok true
    else if falseWords.contains word then .ok false
    else .error .unreadableBool
  | .int n => boolOfInt n
  | .float x =>
    match intOfFloat x with
    | .ok n => boolOfInt n
    | .error _ => .error .notBool
  | _ => .error .notBool

def digitsOf? (t : Text) : Option Nat :=
  match Number.digitRun? Char.isDigit t with
  | some (ds, []) => some (Number.digitsToNat 10 Number.alphaDigit ds)
  | _ => none

/-- A whole number with a sign; zeros may stand behind a point. -/
def intOfText? (t : Text) : Option Int :=
  let t := Text.strip t
  let (negative, rest) : Bool × Text := match t with
    | '-' :: rest => (true, rest)
    | '+' :: rest => (false, rest)
    | t => (false, t)
  let whole := rest.takeWhile (· != '.')
  let places := (rest.drop whole.length).drop 1
  if places.all (· == '0') then
    (digitsOf? whole).map fun n => if negative then -(n : Int) else n
  else none

def asInt : Datum → Except Problem Int
  | .int n => .ok n
  | .bool b => .ok (if b then 1 else 0)
  | .str t =>
    if Text.maxDigits < t.length then .error .intTooLong
    else match intOfText? t with
      | some n => .ok n
      | none => .error .unreadableInt
  | .float x => intOfFloat x
  | _ => .error .notInt

def asText : Datum → Except Problem Text
  | .str t => .ok t
  | _ => .error .notText

/-- How data become values of fields. Data of the right type are taken as they are. -/
structure Coercion where
  int : Datum → Except Problem Int
  bool : Datum → Except Problem Bool
  text : Datum → Except Problem Text
  int_int (n : Int) : int (.int n) = .ok n
  bool_bool (b : Bool) : bool (.bool b) = .ok b
  text_str (t : Text) : text (.str t) = .ok t

structure Checker where
  coercion : Coercion
  access : Reference.Access

def Checker.standard : Checker :=
  ⟨⟨asInt, asBool, asText, fun _ => rfl, fun _ => rfl, fun _ => rfl⟩, Reference.access⟩

/-- Whether a fault in a format of references is one that is looked for. -/
def isFormatMistake (f : Fault) : Bool := f.kind.isValue || f.kind = .key || f.kind = .index

def asReference (c : Checker) (d : Datum) : Except Fault (Except Problem Text) :=
  match c.coercion.text d with
  | .error p => .ok (.error p)
  | .ok format =>
    match Reference.writeWith c.access format ⟨0, 0⟩ with
    | .ok _ => .ok (.ok format)
    | .error f => if isFormatMistake f then .ok (.error .badReference) else .error f

/-! ## Fields -/

def names : List Text := ["schema_version", "trim_lines", "capture_reference", "markup_parser",
  "template_suffix", "templates_dir"].map String.toList

def fieldOr {α : Type} (data : List (Text × Datum)) (name : String) (fallback : α)
    (read : Datum → Except Problem α) : Except (Text × Problem) α :=
  match data.lookup name.toList with
  | none => .ok fallback
  | some d => (read d).mapError (name.toList, ·)

def problem? {α : Type} : Except (Text × Problem) α → Option (Text × Problem)
  | .ok _ => none
  | .error p => some p

def referenceOr (c : Checker) (data : List (Text × Datum)) : Except Fault (Except Problem Text) :=
  match data.lookup "capture_reference".toList with
  | none => .ok (.ok ({} : Settings).captureReference)
  | some d => asReference c d

def unknownNames (data : List (Text × Datum)) : List Text :=
  (data.map (·.1)).filter (!names.contains ·)

def collect (c : Coercion) (data : List (Text × Datum)) (reference : Except Problem Text) :
    Except Rejection Settings :=
  let default : Settings := {}
  let version := fieldOr data "schema_version" default.schemaVersion c.int
  let trim := fieldOr data "trim_lines" default.trimLines c.bool
  let reference := reference.mapError ("capture_reference".toList, ·)
  let parser := fieldOr data "markup_parser" default.markupParser c.text
  let suffix := fieldOr data "template_suffix" default.templateSuffix c.text
  let folder := fieldOr data "templates_dir" default.templatesDir c.text
  match version, trim, reference, parser, suffix, folder, unknownNames data with
  | .ok schemaVersion, .ok trimLines, .ok captureReference, .ok markupParser,
      .ok templateSuffix, .ok templatesDir, [] =>
    .ok { schemaVersion, trimLines, captureReference, markupParser, templateSuffix,
          templatesDir }
  | _, _, _, _, _, _, unknown =>
    .error (.problems ([problem? version, problem? trim, problem? reference, problem? parser,
      problem? suffix, problem? folder].filterMap id ++ unknown.map (·, .unknownName)))

def ofDataWith (c : Checker) (data : List (Text × Datum)) : Except Rejection Settings := do
  collect c.coercion data (← (referenceOr c data).mapError .fault)

def ofData (data : List (Text × Datum)) : Except Rejection Settings := ofDataWith .standard data

def data (s : Settings) : List (Text × Datum) :=
  names.zip [.int s.schemaVersion, .bool s.trimLines, .str s.captureReference,
    .str s.markupParser, .str s.templateSuffix, .str s.templatesDir]

end Settings

end Stencil
