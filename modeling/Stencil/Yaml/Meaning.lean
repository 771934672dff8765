import Stencil.Number.Read

/-!
# Meaning of plain scalars

A plain scalar is nothing, a truth value, a number, a date or the mark of a merge if it is written
like one, and a text otherwise. The rules are those of version 1.2: words such as `yes` are texts,
and a leading zero does not change the base.
-/

namespace Stencil.Yaml

inductive Meaning where
  | null
  | bool (b : Bool)
  /-- The digits of a whole number in a base; there may be none. -/
  | int (negative : Bool) (base : Nat) (digits : Text)
  /-- A decimal without underscores. -/
  | float (t : Text)
  | date (year month day : Nat)
  | moment
  | merge
  | default
  | text (t : Text)
deriving DecidableEq, Repr

namespace Meaning

def nullWords : List Text := ["", "~", "null", "Null", "NULL"].map String.toList

def trueWords : List Text := ["true", "True", "TRUE"].map String.toList

def falseWords : List Text := ["false", "False", "FALSE"].map String.toList

def infinityWords : List Text := [".inf", ".Inf", ".INF"].map String.toList

def nanWords : List Text := [".nan", ".NaN", ".NAN"].map String.toList

/-! ## Numbers -/

def isDigitOrGap (c : Char) : Bool := c.isDigit || c == '_'

def ungapped (t : Text) : Text := t.filter (· != '_')

def isExponent (needsSign : Bool) : Text → Bool
  | [] => true
  | e :: rest =>
    let (signed, digits) : Bool × Text := match rest with
      | s :: more => if s == '+' || s == '-' then (true, more) else (false, rest)
      | [] => (false, [])
    (e == 'e' || e == 'E') && (signed || !needsSign) && !digits.isEmpty && digits.all Char.isDigit

def isDecimal (t : Text) : Bool :=
  let whole := t.takeWhile isDigitOrGap
  let rest := t.drop whole.length
  let places := (rest.drop 1).takeWhile isDigitOrGap
  let behind := (rest.drop 1).drop places.length
  if whole.isEmpty then
    rest.head? == some '.' && !places.isEmpty && isExponent true behind
  else (whole.head?.map Char.isDigit).getD false &&
    if rest.head? == some '.' then isExponent false behind
    else !rest.isEmpty && isExponent false rest

def wholeNumber? (t : Text) : Option (Nat × Text) :=
  let marked (base : Nat) (isDigit : Char → Bool) (ds : Text) : Option (Nat × Text) :=
    if !ds.isEmpty && ds.all (fun c => isDigit c || c == '_') then some (base, ungapped ds)
    else none
  match t with
  | '0' :: 'b' :: ds => marked 2 (fun c => c == '0' || c == '1') ds
  | '0' :: 'o' :: ds => marked 8 (fun c => '0' ≤ c && c ≤ '7') ds
  | '0' :: 'x' :: ds => marked 16 Text.isHexDigit ds
  | ds => marked 10 Char.isDigit ds

/-! ## Dates -/

def number (t : Text) : Nat := Number.digitsToNat 10 Number.alphaDigit t

def date? : Text → Option (Nat × Nat × Nat)
  | [a, b, c, d, '-', e, f, '-', g, h] =>
    if [a, b, c, d, e, f, g, h].all Char.isDigit then
      some (number [a, b, c, d], number [e, f], number [g, h])
    else none
  | _ => none

def shortNumber? (t : Text) : Option Text :=
  let ds := (t.take 2).takeWhile Char.isDigit
  if ds.isEmpty then none else some (t.drop ds.length)

def digits? (n : Nat) (t : Text) : Option Text :=
  if (t.take n).length = n ∧ (t.take n).all Char.isDigit then some (t.drop n) else none

def isZone (t : Text) : Bool :=
  match t.dropWhile (fun c => c == ' ' || c == '\t') with
  | [] => true
  | ['Z'] => true
  | s :: rest =>
    (s == '+' || s == '-') &&
      match shortNumber? rest with
      | some [] => true
      | some (':' :: minutes) => digits? 2 minutes == some []
      | _ => false

def isMoment (t : Text) : Bool :=
  (do
    let t ← (digits? 4 t).bind (Text.after? ['-'])
    let t ← (shortNumber? t).bind (Text.after? ['-'])
    let t ← shortNumber? t
    let blanks := t.takeWhile (fun c => c == ' ' || c == '\t')
    let t ← if !blanks.isEmpty then some (t.drop blanks.length)
      else (Text.after? ['T'] t).or (Text.after? ['t'] t)
    let t ← (shortNumber? t).bind (Text.after? [':'])
    let t ← (digits? 2 t).bind (Text.after? [':'])
    let t ← digits? 2 t
    let t := match t with
      | '.' :: rest => rest.dropWhile Char.isDigit
      | t => t
    some (isZone t)).getD false

/-! ## Scalars -/

def ofNumeral? (t : Text) : Option Meaning :=
  let (negative, rest) : Bool × Text := Number.takeSign t
  if isDecimal rest || infinityWords.contains rest || nanWords.contains t then
    some (.float (ungapped t))
  else match wholeNumber? rest with
    | some (base, ds) => some (.int negative base ds)
    | none =>
      match date? t with
      | some (y, m, d) => some (.date y m d)
      | none => if isMoment t then some .moment else none

def isNumeralStart (c : Char) : Bool := c.isDigit || c == '+' || c == '-' || c == '.'

def ofPlain (t : Text) : Meaning :=
  if nullWords.contains t then .null
  else if trueWords.contains t then .bool true
  else if falseWords.contains t then .bool false
  else if t = ['<', '<'] then .merge
  else if t = ['='] then .default
  else if (t.head?.map isNumeralStart).getD false then (ofNumeral? t).getD (.text t)
  else .text t

end Meaning

end Stencil.Yaml
