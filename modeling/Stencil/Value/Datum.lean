import Stencil.Number.Layout
import Stencil.Text.Quoted

/-!
# Data

A datum is a value without identity: the tree that printing, writing and configuration see.
-/

namespace Stencil

inductive Datum where
  | none
  | bool (b : Bool)
  | int (n : Int)
  | float (x : Float)
  | str (t : Text)
  | list (items : List Datum)
  | tuple (items : List Datum)
  | dict (entries : List (Datum × Datum))
  /-- A mapping whose missing keys read as nothing. -/
  | scope (entries : List (Datum × Datum))
  | set (items : List Datum)
  | range (start stop step : Int)
  | date (year month day : Nat)
  /-- An object of another type, as it is printed. -/
  | other (type shown : Text)
deriving Repr, Inhabited

namespace Datum

def typeName : Datum → Text
  | none => "NoneType".toList
  | bool _ => "bool".toList
  | int _ => "int".toList
  | float _ => "float".toList
  | str _ => "str".toList
  | list _ => "list".toList
  | tuple _ => "tuple".toList
  | dict _ => "dict".toList
  | scope _ => "Scope".toList
  | set _ => "set".toList
  | range .. => "range".toList
  | date .. => "date".toList
  | other type _ => type

def boolText (b : Bool) : Text := if b then "True".toList else "False".toList

def separator : Text := [',', ' ']

def between (opening : Char) (parts : List Text) (closing : Char) : Text :=
  opening :: Text.join separator parts ++ [closing]

/-- A tuple of one item keeps its comma. -/
def tupleText : List Text → Text
  | [item] => '(' :: item ++ [',', ')']
  | items => between '(' items ')'

def dateText (year month day : Nat) : Text :=
  Text.join ['-'] [Text.padLeft '0' 4 (Text.ofNat year), Text.padLeft '0' 2 (Text.ofNat month),
    Text.padLeft '0' 2 (Text.ofNat day)]

mutual

def quoted : Datum → Text
  | none => "None".toList
  | bool b => boolText b
  | int n => Text.ofInt n
  | float x => Number.display x
  | str t => Text.quoted t
  | list items => between '[' (quotedItems items) ']'
  | tuple items => tupleText (quotedItems items)
  | dict entries => between '{' (quotedEntries entries) '}'
  | scope entries => "Scope(".toList ++ between '{' (quotedEntries entries) '}' ++ [')']
  | set [] => "set()".toList
  | set items => between '{' (quotedItems items) '}'
  | range start stop step =>
    "range".toList ++ between '(' ([start, stop].map Text.ofInt ++
      if step = 1 then [] else [Text.ofInt step]) ')'
  | date year month day =>
    "datetime.date".toList ++ between '(' ([year, month, day].map Text.ofNat) ')'
  | other _ shown => shown

def quotedItems : List Datum → List Text
  | [] => []
  | d :: more => quoted d :: quotedItems more

def quotedEntries : List (Datum × Datum) → List Text
  | [] => []
  | (k, v) :: more => (quoted k ++ ':' :: ' ' :: quoted v) :: quotedEntries more

end

mutual

def isWritable : Datum → Bool
  | int n => (Text.ofNat n.natAbs).length ≤ Text.maxDigits
  | range start stop step =>
    [start, stop, step].all fun n => (Text.ofNat n.natAbs).length ≤ Text.maxDigits
  | list items | tuple items | set items => areWritable items
  | dict entries | scope entries => areWritableEntries entries
  | _ => true

def areWritable : List Datum → Bool
  | [] => true
  | d :: more => isWritable d && areWritable more

def areWritableEntries : List (Datum × Datum) → Bool
  | [] => true
  | (k, v) :: more => isWritable k && isWritable v && areWritableEntries more

end

/-- The printed form in which a text or a date is itself. -/
def display : Datum → Text
  | str t => t
  | date year month day => dateText year month day
  | d => quoted d

/-- What is written out for a value: nothing for no value. -/
def written : Datum → Text
  | none => []
  | d => display d

/-! ## Members of whole numbers -/

def intPart? (n : Int) (name : Text) : Option Int :=
  if name = "real".toList ∨ name = "numerator".toList then some n
  else if name = "imag".toList then some 0
  else if name = "denominator".toList then some 1
  else Option.none

def intMethods : List Text := ["bit_count", "bit_length", "conjugate"].map String.toList

def furtherIntMembers : List Text :=
  ["as_integer_ratio", "from_bytes", "to_bytes"].map String.toList

def reservedIntMembers : List Text :=
  ["abs", "add", "and", "bool", "ceil", "class", "delattr", "dir", "divmod", "doc", "eq", "float",
    "floor", "floordiv", "format", "ge", "getattribute", "getnewargs", "getstate", "gt", "hash",
    "index", "init", "init_subclass", "int", "invert", "le", "lshift", "lt", "mod", "mul", "ne",
    "neg", "new", "or", "pos", "pow", "radd", "rand", "rdivmod", "reduce", "reduce_ex", "repr",
    "rfloordiv", "rlshift", "rmod", "rmul", "ror", "round", "rpow", "rrshift", "rshift", "rsub",
    "rtruediv", "rxor", "setattr", "sizeof", "str", "sub", "subclasshook", "truediv", "trunc",
    "xor"].map fun name => ("__" ++ name ++ "__").toList

def isReserved (name : Text) : Bool :=
  Text.startsWith ['_', '_'] name && Text.endsWith ['_', '_'] name

end Datum

end Stencil
