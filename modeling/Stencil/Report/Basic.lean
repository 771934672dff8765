import Stencil.Number.Layout

/-!
# Reports

A report is a tree of plain data, written for other programs to read: on one line, or with every
item on a line of its own and two spaces more for each level. The fields of a record keep their
order.
-/

namespace Stencil

inductive Report where
  | null
  | bool (b : Bool)
  | int (n : Int)
  | float (x : Float)
  | text (t : Text)
  | list (items : List Report)
  | record (fields : List (Text × Report))
deriving Repr, Inhabited

namespace Report

/-! ## Leaves -/

def boolWord (b : Bool) : Text := if b then "true".toList else "false".toList

/-- What is not a finite number has a name. -/
def number (x : Float) : Text :=
  if x.isNaN then "NaN".toList
  else if x.isInf then if x < 0.0 then "-Infinity".toList else "Infinity".toList
  else Number.display x

def escapeChar (c : Char) : Text :=
  match c with
  | '"' => ['\\', '"']
  | '\\' => ['\\', '\\']
  | '\n' => ['\\', 'n']
  | '\r' => ['\\', 'r']
  | '\t' => ['\\', 't']
  | '\x08' => ['\\', 'b']
  | '\x0c' => ['\\', 'f']
  | c =>
    if c.toNat < 0x20 then '\\' :: 'u' :: Text.padLeft '0' 4 (Nat.toDigits 16 c.toNat) else [c]

def quote (t : Text) : Text := '"' :: t.flatMap escapeChar ++ ['"']

/-! ## Trees -/

inductive Layout where
  | oneLine
  | indented
deriving DecidableEq, Repr

namespace Layout

def gap (layout : Layout) (depth : Nat) : Text :=
  match layout with
  | oneLine => []
  | indented => '\n' :: List.replicate (2 * depth) ' '

def separator (layout : Layout) (depth : Nat) : Text :=
  match layout with
  | oneLine => [',', ' ']
  | indented => ',' :: gap indented depth

def enclose (layout : Layout) (depth : Nat) (opening closing : Char) (items : List Text) : Text :=
  if items.isEmpty then [opening, closing]
  else Text.say [[opening], layout.gap (depth + 1),
    Text.join (layout.separator (depth + 1)) items, layout.gap depth, [closing]]

end Layout

mutual

def writeAt (layout : Layout) (depth : Nat) : Report → Text
  | null => "null".toList
  | bool b => boolWord b
  | int n => Text.ofInt n
  | float x => number x
  | text t => quote t
  | list items => layout.enclose depth '[' ']' (writeItems layout (depth + 1) items)
  | record fields => layout.enclose depth '{' '}' (writeFields layout (depth + 1) fields)

def writeItems (layout : Layout) (depth : Nat) : List Report → List Text
  | [] => []
  | r :: more => writeAt layout depth r :: writeItems layout depth more

def writeFields (layout : Layout) (depth : Nat) : List (Text × Report) → List Text
  | [] => []
  | (name, r) :: more =>
    (quote name ++ ':' :: ' ' :: writeAt layout depth r) :: writeFields layout depth more

end

def write (layout : Layout) (r : Report) : Text := writeAt layout 0 r

end Report

end Stencil
