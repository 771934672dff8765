import Stencil.Format.Field

/-!
# Formats with percent signs

A percent sign starts a conversion: a key in parentheses, flags, a width, a precision and a letter.
Conversions take the items of a tuple one after the other, or the entries of a mapping by key.
-/

namespace Stencil.Format.Percent

structure Arguments where
  /-- Values that no conversion has taken yet. -/
  rest : List Datum
  /-- The values by key, if there are any. -/
  mapping : Option Datum
  /-- Whether values may be left over. -/
  mayLeave : Bool

/-- A tuple gives its items, anything else is one value. What has items by key or index may be left
over. -/
def Arguments.ofDatum (d : Datum) : Arguments :=
  match d with
  | .tuple items => ⟨items, none, false⟩
  | .dict _ | .scope _ | .list _ | .range .. => ⟨[d], some d, true⟩
  | _ => ⟨[d], none, false⟩

def Arguments.next (a : Arguments) : Except Fault (Datum × Arguments) :=
  match a.rest with
  | d :: rest => .ok (d, { a with rest })
  | [] => .error .notEnoughToFormat

structure Flags where
  left : Bool := false
  sign : Option Char := none
  alternate : Bool := false
  zero : Bool := false

def takeFlags (f : Flags) : Text → Flags × Text
  | [] => (f, [])
  | c :: rest =>
    match c with
    | '-' => takeFlags { f with left := true } rest
    | '+' => takeFlags { f with sign := some '+' } rest
    | ' ' => takeFlags { f with sign := f.sign.or (some ' ') } rest
    | '#' => takeFlags { f with alternate := true } rest
    | '0' => takeFlags { f with zero := true } rest
    | _ => (f, c :: rest)

def takeNumber (a : Arguments) : Text → Except Fault (Option Int × Arguments × Text)
  | '*' :: rest => do
    let (d, a) ← a.next
    match d with
    | .int n => return (some n, a, rest)
    | .bool b => return (some (if b then 1 else 0), a, rest)
    | _ => .error .widthNeedsInteger
  | t =>
    let ds := t.takeWhile Char.isDigit
    .ok (if ds.isEmpty then none else some (Number.digitsToNat 10 Number.alphaDigit ds), a,
      t.drop ds.length)

/-- A key up to the parenthesis that closes it; keys may hold parentheses in pairs. -/
def takeKey : (depth : Nat) → Text → Option (Text × Text)
  | _, [] => none
  | depth, c :: rest =>
    if c = ')' ∧ depth = 0 then some ([], rest)
    else
      let depth := if c = '(' then depth + 1 else if c = ')' then depth - 1 else depth
      (takeKey depth rest).map fun (key, rest) => (c :: key, rest)

def lookup (mapping : Datum) (key : Text) : Except Fault Datum :=
  match mapping with
  | .dict entries =>
    match entries.find? fun (k, _) => match k with
      | .str t => t == key
      | _ => false with
    | some (_, d) => .ok d
    | none => .error (.missingKey (Text.quoted key))
  | .scope entries =>
    .ok ((entries.find? fun (k, _) => match k with
      | .str t => t == key
      | _ => false).map (·.2) |>.getD .none)
  | .list _ => .error (.badIndex .list "str")
  | _ => .error (.badIndex .range "str")

def toInt (code : Char) (d : Datum) : Except Fault Int :=
  let whole := code == 'd' || code == 'i' || code == 'u'
  match d with
  | .int n => .ok n
  | .bool b => .ok (if b then 1 else 0)
  | .float x =>
    if !whole then .error (.formatNeedsInteger code "float")
    else match Number.truncate? x with
      | some n => .ok n
      | none => .error (if Number.Binary.ofFloat x = .nan then .nanToInt else .infinityToInt)
  | d => .error (if whole then .formatNeedsNumber code d.typeName
      else .formatNeedsInteger code d.typeName)

def toFloat (d : Datum) : Except Fault Float :=
  let ofInt (n : Int) : Except Fault Float :=
    match Number.ofInt? n with
    | some x => .ok x
    | none => .error .intTooLarge
  match d with
  | .float x => .ok x
  | .int n => ofInt n
  | .bool b => ofInt (if b then 1 else 0)
  | d => .error (.floatNeedsNumber d.typeName)

def character (d : Datum) : Except Fault Text :=
  match d with
  | .str [c] => .ok [c]
  | .int n =>
    if 0 ≤ n ∧ n < 0x110000 then .ok [Char.ofNat n.toNat] else .error .characterOutOfRange
  | .bool b => .ok [if b then '\x01' else '\x00']
  | _ => .error .formatNeedsCharacter

def convert (f : Flags) (width : Nat) (precision : Option Nat) (code : Char) (index : Nat)
    (d : Datum) : Except Fault Text := do
  let align := if f.left then '<' else if f.zero then '=' else '>'
  let fill := if f.zero && !f.left then '0' else ' '
  let spec : Spec := ⟨some fill, some align, f.sign, false, f.alternate, width, none, precision,
    some code⟩
  let plain (t : Text) : Text :=
    { spec with fill := some ' ', align := some (if f.left then '<' else '>') }.place '>' [] t
  let cut (t : Text) : Text := match precision with
    | some n => t.take n
    | none => t
  if code = 's' then return plain (cut (← d.write Datum.display))
  else if code = 'r' then return plain (cut (← d.write Datum.quoted))
  else if code = 'a' then return plain (cut (← d.write asciiQuoted))
  else if code = 'c' then return plain (← character d)
  else if "diuoxX".toList.contains code then
    let n ← toInt code d
    let (mark, ds) : Text × Text ← match code with
      | 'o' => .ok (spec.markFor "0o", Nat.toDigits 8 n.natAbs)
      | 'x' => .ok (spec.markFor "0x", Nat.toDigits 16 n.natAbs)
      | 'X' => .ok (spec.markFor "0X", Spec.upper (Nat.toDigits 16 n.natAbs))
      | _ => do .ok ([], ← Spec.decimal n.natAbs)
    return spec.place '>' (spec.signFor (n < 0) ++ mark) (Text.padLeft '0' (precision.getD 0) ds)
  else if "eEfFgG".toList.contains code then spec.float (← toFloat d)
  else .error (.unsupportedCharacter code index)

/-- The text of a conversion behind its percent sign, with the values left and the rest. A key
makes its entry the only value left. The position of the conversion is counted for the message
about its letter. -/
def conversion (length : Nat) (a : Arguments) (t : Text) :
    Except Fault (Text × Arguments × Text) := do
  let (values, t) ← match t with
    | '(' :: rest =>
      match a.mapping with
      | none => .error .formatNeedsMapping
      | some mapping =>
        match takeKey 0 rest with
        | none => .error .incompleteKey
        | some (key, rest) => do
          let d ← lookup mapping key
          .ok ({ a with rest := [d] }, rest)
    | _ => .ok (a, t)
  let (f, t) := takeFlags {} t
  let (width, values, t) ← takeNumber values t
  let f := if width.any (· < 0) then { f with left := true } else f
  let (precision, values, t) ← match t with
    | '.' :: rest => do
      let (n, values, rest) ← takeNumber values rest
      .ok (some (n.getD 0).toNat, values, rest)
    | _ => .ok (none, values, t)
  let t := match t with
    | c :: rest => if c = 'h' ∨ c = 'l' ∨ c = 'L' then rest else t
    | [] => t
  match t with
  | [] => .error .incompleteFormat
  | code :: rest =>
    let (d, values) ← values.next
    let shown ← convert f (width.getD 0).natAbs precision code (length - rest.length - 1) d
    return (shown, values, rest)

def fill (length : Nat) (a : Arguments) (t : Text) : Except Fault (Text × Arguments) :=
  match t with
  | [] => .ok ([], a)
  | '%' :: '%' :: rest => do
    let (more, a) ← fill length a rest
    return ('%' :: more, a)
  | '%' :: rest => do
    let (shown, a, behind) ← conversion length a rest
    if _h : behind.length < rest.length + 1 then
      let (more, a) ← fill length a behind
      return (shown ++ more, a)
    else return (shown, a)
  | c :: rest => do
    let (more, a) ← fill length a rest
    return (c :: more, a)
termination_by t.length

def format (t : Text) (d : Datum) : Except Fault Text := do
  let a := Arguments.ofDatum d
  let (shown, left) ← fill t.length a t
  if !left.rest.isEmpty && !a.mayLeave then .error .leftToFormat else return shown

end Stencil.Format.Percent
