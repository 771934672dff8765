import Stencil.Expr.Basic
import Stencil.Number.Binary

/-!
# Values

What expressions compute with. Numbers, texts and tuples are immutable; lists, mappings, sets and
iterators are addresses into a heap. Every value is an object that can be told from its equals,
so an immutable value also says which object it is.
-/

namespace Stencil

/-- Which object an immutable value is. -/
inductive Identity where
  /-- The only object with its content. -/
  | shared
  /-- The only object with its content among the constants of one expression. -/
  | constant (code : Nat)
  /-- The object with a serial number. -/
  | made (serial : Nat)
deriving DecidableEq, Repr

inductive Builtin where
  | abs | all | any | bin | bool | callable | chr | dict | divmod | enumerate | exit | filter
  | float | format | getattr | hasattr | hex | int | isinstance | iter | len | list | map | max
  | min | next | oct | ord | pow | quit | range | repr | reversed | round | set | sorted | str
  | sum | tuple | type | zip
deriving DecidableEq, Repr

namespace Builtin

def table : List (Text × Builtin) := [
  ("abs", abs), ("all", all), ("any", any), ("bin", bin), ("bool", bool), ("callable", callable),
  ("chr", chr), ("dict", dict), ("divmod", divmod), ("enumerate", enumerate), ("exit", exit),
  ("filter", filter), ("float", float), ("format", format), ("getattr", getattr),
  ("hasattr", hasattr), ("hex", hex), ("int", int), ("isinstance", isinstance), ("iter", iter),
  ("len", len), ("list", list), ("map", map), ("max", max), ("min", min), ("next", next),
  ("oct", oct), ("ord", ord), ("pow", pow), ("quit", quit), ("range", range), ("repr", repr),
  ("reversed", reversed), ("round", round), ("set", set), ("sorted", sorted), ("str", str),
  ("sum", sum), ("tuple", tuple), ("type", type), ("zip", zip)].map fun (n, b) => (n.toList, b)

def ofName? (n : Text) : Option Builtin := table.lookup n

def name (b : Builtin) : Text :=
  match table.find? fun (_, other) => other = b with
  | some (n, _) => n
  | none => []

def isType : Builtin → Bool
  | bool | dict | enumerate | filter | float | int | list | map | range | reversed | set | str
  | tuple | type | zip => true
  | _ => false

def isQuitter : Builtin → Bool
  | exit | quit => true
  | _ => false

/-- Names of the language itself for which nothing is offered here, the kinds of exceptions among
them. -/
def furtherNames : List Text := [
  "ArithmeticError", "AssertionError", "AttributeError", "BaseException", "BaseExceptionGroup",
  "BlockingIOError", "BrokenPipeError", "BufferError", "BytesWarning", "ChildProcessError",
  "ConnectionAbortedError", "ConnectionError", "ConnectionRefusedError", "ConnectionResetError",
  "DeprecationWarning", "EOFError", "Ellipsis", "EncodingWarning", "EnvironmentError",
  "Exception", "ExceptionGroup", "FileExistsError", "FileNotFoundError", "FloatingPointError",
  "FutureWarning", "GeneratorExit", "IOError", "ImportError", "ImportWarning",
  "IndentationError", "IndexError", "InterruptedError", "IsADirectoryError", "KeyError",
  "KeyboardInterrupt", "LookupError", "MemoryError", "ModuleNotFoundError", "NameError",
  "NotADirectoryError", "NotImplemented", "NotImplementedError", "OSError", "OverflowError",
  "PendingDeprecationWarning", "PermissionError", "ProcessLookupError", "RecursionError",
  "ReferenceError", "ResourceWarning", "RuntimeError", "RuntimeWarning", "StopAsyncIteration",
  "StopIteration", "SyntaxError", "SyntaxWarning", "SystemError", "SystemExit", "TabError",
  "TimeoutError", "TypeError", "UnboundLocalError", "UnicodeDecodeError", "UnicodeEncodeError",
  "UnicodeError", "UnicodeTranslateError", "UnicodeWarning", "UserWarning", "ValueError",
  "Warning", "ZeroDivisionError", "__build_class__", "__builtins__", "__debug__", "__doc__",
  "__import__", "__loader__", "__name__", "__package__", "__spec__", "aiter", "anext", "ascii",
  "breakpoint", "bytearray", "bytes", "classmethod", "compile", "complex", "copyright", "credits",
  "delattr", "dir", "eval", "exec", "frozenset", "globals", "hash", "help", "id", "input",
  "issubclass", "license", "locals", "memoryview", "object", "open", "print", "property",
  "setattr", "slice", "staticmethod", "super", "vars"].map String.toList

end Builtin

inductive ViewKind where
  | keys
  | values
  | items
deriving DecidableEq, Repr

inductive Value where
  | none
  | bool (b : Bool)
  | int (n : Int) (id : Identity)
  | float (x : Float) (id : Identity)
  | str (t : Text) (id : Identity)
  | tuple (items : List Value) (id : Identity)
  | range (start stop step : Int) (id : Identity)
  | date (year month day : Nat) (id : Identity)
  | ellipsis
  | list (address : Nat)
  | mapping (address : Nat)
  | set (address : Nat)
  | iterator (address : Nat)
  /-- A view of a mapping; each one that is made has a serial number. -/
  | view (kind : ViewKind) (address serial : Nat)
  | builtin (b : Builtin)
  /-- A type that has no builtin of its own, such as that of a template instance. -/
  | typeObject (name : Text)
  | closure (address : Nat)
  /-- A method together with the object it was taken from. -/
  | method (receiver : Value) (name : Text) (serial : Nat)
  /-- A template instance. -/
  | template (id : Nat) (name : Text)
  | engine
  /-- The registry of the engine. -/
  | registry
deriving Repr, Inhabited

abbrev Names := List (Text × Value)

namespace Names

def get? (names : Names) (n : Text) : Option Value := names.lookup n

def put (n : Text) (v : Value) : Names → Names
  | [] => [(n, v)]
  | (m, w) :: more => if m = n then (n, v) :: more else (m, w) :: put n v more

def remove (n : Text) (names : Names) : Names := names.filter fun (m, _) => m ≠ n

end Names

namespace Value

/-- Whole numbers in this range are single objects. -/
def isSharedInt (n : Int) : Bool := -5 ≤ n && n ≤ 256

/-- The empty text and texts of one character from the first two Unicode blocks are single
objects. -/
def isSharedText : Text → Bool
  | [] => true
  | [c] => c.toNat < 256
  | _ => false

def ofInt (n : Int) (id : Identity) : Value := .int n (if isSharedInt n then .shared else id)

def ofText (t : Text) (id : Identity) : Value := .str t (if isSharedText t then .shared else id)

def ofItems (items : List Value) (id : Identity) : Value :=
  .tuple items (if items.isEmpty then .shared else id)

/-- A constant text that could be a name is one object in all expressions. -/
def isNameLike (t : Text) : Bool := t.all fun c => c.isAlphanum || c == '_'

mutual

def asConstant (code : Nat) : Value → Value
  | int n _ => ofInt n (.constant code)
  | float x _ => .float x (.constant code)
  | str t _ => if isNameLike t then .str t .shared else ofText t (.constant code)
  | tuple items _ => ofItems (asConstants code items) (.constant code)
  | v => v

def asConstants (code : Nat) : List Value → List Value
  | [] => []
  | v :: more => v.asConstant code :: asConstants code more

end

/-! ## Identity -/

def sameFloat (x y : Float) : Bool := x.toBits == y.toBits

mutual

def same : Value → Value → Bool
  | none, none | ellipsis, ellipsis | engine, engine | registry, registry => true
  | bool a, bool b => a == b
  | int m i, int n j => i == j && m == n
  | float x i, float y j => i == j && sameFloat x y
  | str s i, str t j => i == j && s == t
  | tuple a i, tuple b j => i == j && sameAll a b
  | range a b c i, range d e f j => i == j && a == d && b == e && c == f
  | date a b c i, date d e f j => i == j && a == d && b == e && c == f
  | list a, list b | mapping a, mapping b | set a, set b | iterator a, iterator b
  | closure a, closure b => a == b
  | view _ _ a, view _ _ b => a == b
  | builtin a, builtin b => a == b
  | typeObject a, typeObject b => a == b
  | method _ _ a, method _ _ b => a == b
  | template a _, template b _ => a == b
  | _, _ => false

def sameAll : List Value → List Value → Bool
  | [], [] => true
  | a :: as, b :: bs => same a b && sameAll as bs
  | _, _ => false

end

/-! ## Numbers -/

/-- A number as a whole number if it is one of that kind; truth values count as one and zero. -/
def int? : Value → Option Int
  | int n _ => some n
  | bool b => some (if b then 1 else 0)
  | _ => Option.none

def rangeLength (start stop step : Int) : Nat :=
  if 0 < step then ((stop - start + step - 1) / step).toNat
  else if step < 0 then ((start - stop - step - 1) / -step).toNat
  else 0

inductive Comparison where
  | less
  | equal
  | greater
  /-- One side is not a number. -/
  | unordered
deriving DecidableEq, Repr

def compareInts (a b : Int) : Comparison :=
  if a < b then .less else if a = b then .equal else .greater

def compareIntFloat (n : Int) (x : Float) : Comparison :=
  match Number.Binary.ofFloat x with
  | .nan => .unordered
  | .infinite negative => if negative then .greater else .less
  | .finite negative m e =>
    let (num, den) := Number.fraction negative m e
    compareInts (n * den) num

def compareFloats (x y : Float) : Comparison :=
  if x < y then .less else if x == y then .equal else if y < x then .greater else .unordered

def Comparison.flip : Comparison → Comparison
  | .less => .greater
  | .greater => .less
  | c => c

def compareNumbers? : Value → Value → Option Comparison
  | float x _, float y _ => some (compareFloats x y)
  | float x _, v => v.int?.map fun n => (compareIntFloat n x).flip
  | v, float x _ => v.int?.map fun n => compareIntFloat n x
  | v, w => do return compareInts (← v.int?) (← w.int?)

/-! ## Keys -/

mutual

/-- Equality of values that can be keys: numbers by value, texts and tuples by content, anything
else by identity. -/
def equalKey (a b : Value) : Bool :=
  a.same b ||
    match a, b with
    | str s _, str t _ => s == t
    | tuple as _, tuple bs _ => equalKeys as bs
    | range a b c _, range d e f _ =>
      let n := rangeLength a b c
      n == rangeLength d e f && (n == 0 || a == d && (n == 1 || c == f))
    | date a b c _, date d e f _ => a == d && b == e && c == f
    | a, b => a.compareNumbers? b == some .equal

def equalKeys : List Value → List Value → Bool
  | [], [] => true
  | a :: as, b :: bs => equalKey a b && equalKeys as bs
  | _, _ => false

end

end Value

end Stencil
