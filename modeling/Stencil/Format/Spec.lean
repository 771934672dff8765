import Stencil.Number.Read
import Stencil.Number.Layout
import Stencil.Value.Fault

/-!
# Format specifications

A specification says how a value is turned into text: fill and alignment, sign, width, grouping of
digits, precision, and a code for the kind of text. Numbers and texts accept different parts of
it.
-/

namespace Stencil.Format

structure Spec where
  fill : Option Char
  align : Option Char
  sign : Option Char
  /-- A negative number that rounds to zero loses its sign. -/
  plainZero : Bool
  alternate : Bool
  width : Nat
  grouping : Option Char
  precision : Option Nat
  code : Option Char
deriving DecidableEq, Repr

namespace Spec

def isAlign (c : Char) : Bool := c == '<' || c == '>' || c == '=' || c == '^'

def takeAlign : Text → Option Char × Option Char × Text
  | a :: b :: rest =>
    if isAlign b then (some a, some b, rest)
    else if isAlign a then (none, some a, b :: rest)
    else (none, none, a :: b :: rest)
  | [a] => if isAlign a then (none, some a, []) else (none, none, [a])
  | [] => (none, none, [])

def takeChar (p : Char → Bool) : Text → Option Char × Text
  | c :: rest => if p c then (some c, rest) else (none, c :: rest)
  | [] => (none, [])

def takeNumber (t : Text) : Except Fault (Option Nat × Text) :=
  let ds := t.takeWhile Text.isDecimalDigit
  match ds, Text.digitsToNat? ds with
  | _ :: _, some n =>
    if n < Number.wordBound then .ok (some n, t.drop ds.length) else .error .tooManyDigits
  | _, _ => .ok (none, t)

def takeGrouping (t : Text) : Except Fault (Option Char × Text) :=
  match t with
  | ',' :: '_' :: _ | '_' :: ',' :: _ => .error .twoGroupings
  | ',' :: rest => .ok (some ',', rest)
  | '_' :: rest => .ok (some '_', rest)
  | _ => .ok (none, t)

def takePrecision (t : Text) : Except Fault (Option Nat × Text) :=
  match t with
  | '.' :: rest => do
    match ← takeNumber rest with
    | (some n, rest) => .ok (some n, rest)
    | (none, _) => .error .missingPrecision
  | _ => .ok (none, t)

def isDecimalCode (c : Char) : Bool := "deEfFgG%".toList.contains c

def groupingFits (grouping code : Option Char) : Bool :=
  match grouping, code with
  | some mark, some c => isDecimalCode c || (mark == '_' && "boxX".toList.contains c)
  | _, _ => true

/-- Reads a specification for a value of a type. Numbers stand on the right by default, and zeros
before their width go behind the sign. -/
def ofText (type : Text) (isNumber : Bool) (t : Text) : Except Fault Spec := do
  let (fill, align, rest) := takeAlign t
  let (sign, rest) := takeChar (fun c => c == '+' || c == '-' || c == ' ') rest
  let (z, rest) := takeChar (· == 'z') rest
  let (hash, rest) := takeChar (· == '#') rest
  let (zeroFill, rest) := if fill.isNone then takeChar (· == '0') rest else (none, rest)
  let align := if zeroFill.isSome && align.isNone && isNumber then some '=' else align
  let (width, rest) ← takeNumber rest
  let (grouping, rest) ← takeGrouping rest
  let (precision, rest) ← takePrecision rest
  match rest with
  | _ :: _ :: _ => .error (.badSpecifier t type)
  | _ =>
    let code := rest.head?
    -- A text without a code has that of texts.
    if groupingFits grouping (code.or (if isNumber then none else some 's')) then
      return ⟨fill.or zeroFill, align, sign, z.isSome, hash.isSome, width.getD 0, grouping,
        precision, code⟩
    else .error (.badGrouping (grouping.getD ',') (code.getD 's'))

/-! ## Filling up -/

/-- Puts a text into the width. An alignment of its own goes between a sign and the rest. -/
def place (s : Spec) (byDefault : Char) (head body : Text) : Text :=
  let fill := s.fill.getD ' '
  let missing := s.width - (head.length + body.length)
  match s.align.getD byDefault with
  | '<' => head ++ body ++ List.replicate missing fill
  | '^' =>
    List.replicate (missing / 2) fill ++ head ++ body ++
      List.replicate (missing - missing / 2) fill
  | '=' => head ++ List.replicate missing fill ++ body
  | _ => List.replicate missing fill ++ head ++ body

/-- Digits in groups from the right, filled with zeros up to a width; both given reversed. -/
def groupReversed (size : Nat) (mark : Char) : (fuel : Nat) → (width : Nat) → Text → Text
  | 0, _, ds => ds
  | fuel + 1, width, ds =>
    let count := min size (max (max ds.length width) 1)
    let group := (ds ++ List.replicate (count - ds.length) '0').take count
    let rest := ds.drop count
    if rest.isEmpty && width ≤ count then group
    else group ++ mark :: groupReversed size mark fuel (width - count - 1) rest

def grouped (size : Nat) (mark : Char) (width : Nat) (ds : Text) : Text :=
  (groupReversed size mark (ds.length + width + 1) width ds.reverse).reverse

def number (s : Spec) (groupSize : Nat) (head whole tail : Text) : Text :=
  match s.grouping with
  | none => s.place '>' head (whole ++ tail)
  | some mark =>
    let zeros := s.fill == some '0' && s.align == some '='
    let width := if zeros then s.width - head.length - tail.length else 0
    s.place '>' head (grouped groupSize mark width whole ++ tail)

def signFor (s : Spec) (negative : Bool) : Text :=
  if negative then ['-']
  else match s.sign with
    | some '+' => ['+']
    | some ' ' => [' ']
    | _ => []

/-! ## Kinds of values -/

def text (s : Spec) (t : Text) : Except Fault Text := do
  match s.code with
  | some c => if c ≠ 's' then throw (Fault.unknownCode c "str")
  | none => pure ()
  if s.sign = some ' ' then throw Fault.spaceInText
  if s.sign.isSome then throw Fault.signInText
  if s.plainZero then throw Fault.negativeZeroInText
  if s.alternate then throw Fault.alternateInText
  if s.align = some '=' then throw Fault.alignInText
  return s.place '<' [] (match s.precision with
    | some n => t.take n
    | none => t)

def splitWhole (t : Text) : Text × Text := (t.takeWhile Char.isDigit, t.dropWhile Char.isDigit)

def upper (t : Text) : Text := t.map Char.toUpper

def floatText (s : Spec) (x : Float) (num den : Nat) : Text :=
  let precision := s.precision.getD 6
  let withPoint (t : Text) : Text :=
    if s.alternate && !t.contains '.' then
      let (whole, tail) := splitWhole t
      whole ++ '.' :: tail
    else t
  match s.code with
  | some 'e' => withPoint (Number.scientific 'e' precision num den)
  | some 'E' => withPoint (Number.scientific 'E' precision num den)
  | some 'f' | some 'F' => withPoint (Number.fixed precision num den)
  | some 'g' | some 'n' =>
    Number.general 'e' (if s.alternate then .allDigits else .none) 0 precision num den
  | some 'G' =>
    Number.general 'E' (if s.alternate then .allDigits else .none) 0 precision num den
  | some _ => withPoint (Number.fixed precision num den) ++ ['%']
  | none =>
    match s.precision with
    | some p =>
      Number.general 'e' (if s.alternate then .allDigits else .pointZero) 1 p num den
    | none => withPoint (Number.display x.abs)

def isUpperCode (code : Option Char) : Bool := code.any fun c => "EFG".toList.contains c

def float (s : Spec) (x : Float) : Except Fault Text := do
  match s.code with
  | some c => if !"eEfFgGn%".toList.contains c then throw (Fault.unknownCode c "float")
  | none => pure ()
  let scaled := if s.code = some '%' then x * 100 else x
  let tail : Text := if s.code = some '%' then ['%'] else []
  let cased (t : Text) : Text := if isUpperCode s.code then upper t else t
  match Number.Binary.ofFloat scaled with
  | .nan => return s.place '>' (s.signFor false) (cased "nan" ++ tail)
  | .infinite negative => return s.place '>' (s.signFor negative) (cased "inf" ++ tail)
  | .finite negative m e =>
    let (n, d) := Number.fraction false m e
    let t := s.floatText scaled n.natAbs d
    let isZero := (t.takeWhile fun c => c.isDigit || c == '.').all fun c => c == '0' || c == '.'
    let negative := negative && !(s.plainZero && isZero)
    let (whole, rest) := splitWhole t
    return s.number 3 (s.signFor negative) whole rest

def markFor (s : Spec) (t : Text) : Text := if s.alternate then t else []

def decimal (n : Nat) : Except Fault Text :=
  let ds := Text.ofNat n
  if Text.maxDigits < ds.length then .error .tooManyDigitsToWrite else .ok ds

def int (s : Spec) (n : Int) (type : Text) : Except Fault Text := do
  let code := s.code.getD 'd'
  if "eEfFgG%".toList.contains code then
    match Number.ofInt? n with
    | some x => s.float x
    | none => throw Fault.intTooLarge
  else if !"bcdoxXn".toList.contains code then throw (Fault.unknownCode code type)
  else
    if s.precision.isSome then throw Fault.precisionInInteger
    if s.plainZero then throw Fault.negativeZeroInInteger
    if code = 'c' then
      if s.sign.isSome then throw Fault.signInCharacter
      if s.alternate then throw Fault.alternateInCharacter
      if Number.wordBound ≤ n.natAbs then throw Fault.wordTooLarge
      if n < 0 ∨ 0x10ffff < n then throw Fault.characterOutOfRange
      return s.place '>' [] [Char.ofNat n.toNat]
    let sign := s.signFor (n < 0)
    let (mark, ds, size) : Text × Text × Nat ← match code with
      | 'b' => .ok (s.markFor "0b", Nat.toDigits 2 n.natAbs, 4)
      | 'o' => .ok (s.markFor "0o", Nat.toDigits 8 n.natAbs, 4)
      | 'x' => .ok (s.markFor "0x", Nat.toDigits 16 n.natAbs, 4)
      | 'X' => .ok (s.markFor "0X", upper (Nat.toDigits 16 n.natAbs), 4)
      | _ => do .ok ([], ← decimal n.natAbs, 3)
    return s.number size (sign ++ mark) ds []

end Spec

/-- The text of a datum under a specification; an empty one asks for the printed form, however long
it is. -/
def datum (d : Datum) (t : Text) : Except Fault Text :=
  if t.isEmpty then .ok d.display
  else match d with
    | .str s => do (← Spec.ofText "str" false t).text s
    | .int n => do (← Spec.ofText "int" true t).int n "int"
    | .bool b => do (← Spec.ofText "bool" true t).int (if b then 1 else 0) "bool"
    | .float x => do (← Spec.ofText "float" true t).float x
    | _ => .error (.badFormat d.typeName)

/-- The text of a datum under a specification, if no number in it has too many digits for that. -/
def writeDatum (d : Datum) (t : Text) : Except Fault Text :=
  if t.isEmpty then d.write Datum.display else datum d t

end Stencil.Format
