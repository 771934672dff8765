import Stencil.Markup.Entity

/-!
# Character references

A reference names a character by a number or by an entity. In texts a number below 256 is read
in the code page of old documents; in attribute values the standard's table of corrections holds,
and an entity that needs no semicolon is found at the start of a longer name.
-/

namespace Stencil.Markup

/-- What the numbers from 128 to 159 stand for, as far as they stand for anything. -/
def windowsCharacters : List (Nat × Nat) := [
  (0x80, 0x20AC), (0x82, 0x201A), (0x83, 0x0192), (0x84, 0x201E), (0x85, 0x2026),
  (0x86, 0x2020), (0x87, 0x2021), (0x88, 0x02C6), (0x89, 0x2030), (0x8A, 0x0160),
  (0x8B, 0x2039), (0x8C, 0x0152), (0x8E, 0x017D), (0x91, 0x2018), (0x92, 0x2019),
  (0x93, 0x201C), (0x94, 0x201D), (0x95, 0x2022), (0x96, 0x2013), (0x97, 0x2014),
  (0x98, 0x02DC), (0x99, 0x2122), (0x9A, 0x0161), (0x9B, 0x203A), (0x9C, 0x0153),
  (0x9E, 0x017E), (0x9F, 0x0178)]

def replacement : Char := Char.ofNat 0xFFFD

def characterAt (n : Nat) : Char := if n.isValidChar then Char.ofNat n else replacement

def numberedCharacter (n : Nat) : Char := characterAt ((windowsCharacters.lookup n).getD n)

def isRefused (n : Nat) : Bool :=
  (1 ≤ n && n ≤ 8) || n == 11 || (14 ≤ n && n ≤ 31) || (127 ≤ n && n ≤ 159) ||
    (0xFDD0 ≤ n && n ≤ 0xFDEF) || 0xFFFE ≤ n % 0x10000

def numberedText (n : Nat) : Text :=
  if n = 0 then [replacement]
  else match windowsCharacters.lookup n with
    | some code => [Char.ofNat code]
    | none =>
      if n == 13 || n == 0x81 || n == 0x8D || n == 0x8F || n == 0x90 || n == 0x9D then
        [Char.ofNat n]
      else if !n.isValidChar then [replacement]
      else if isRefused n then []
      else [Char.ofNat n]

/-! ## Attribute values -/

def semicolons : Text → Nat
  | ';' :: _ => 1
  | _ => 0

def decimalNumber (t : Text) : Nat := t.foldl (fun n c => n * 10 + Text.hexValue c) 0

/-- The digits at the start of a text, without and with the semicolon that may end them. -/
def digits? (isDigit : Char → Bool) (t : Text) : Option (Text × Nat) :=
  let digits := t.takeWhile isDigit
  if digits.isEmpty then none
  else some (digits, digits.length + semicolons (t.drop digits.length))

def number? (t : Text) : Option (Nat × Nat) :=
  match t with
  | x :: more =>
    if x = 'x' ∨ x = 'X' then
      (digits? Text.isHexDigit more).map fun (ds, used) => (Text.hexNumber ds, used + 1)
    else (digits? Char.isDigit t).map fun (ds, used) => (decimalNumber ds, used)
  | [] => none

def endsName (c : Char) : Bool := "\t\n\x0c <&#;".toList.contains c

/-- The text of the longest entity that needs no semicolon among the starts of a name. -/
def bareText (name : Text) : Text :=
  let starts := ((List.range name.length).map (· + 1)).reverse.filter (1 < ·)
  match starts.findSome? fun k =>
      (Entity.table.find? fun e => e.bare && e.name == name.take k).map (·.text ++ name.drop k) with
  | some t => t
  | none => '&' :: name

def namedText (name : Text) (semicolon : Bool) : Text :=
  match Entity.ofName? name, semicolon with
  | some e, true => e.text
  | some e, false => if e.bare then e.text else bareText name
  | none, true => bareText name ++ [';']
  | none, false => bareText name

def longestName : Nat := 32

def reference? (t : Text) : Option (Text × Nat) :=
  match t with
  | '#' :: more => (number? more).map fun (n, used) => (numberedText n, used + 1)
  | t =>
    let name := (t.takeWhile (!endsName ·)).take longestName
    let ending := semicolons (t.drop name.length)
    if name.isEmpty then none else some (namedText name (ending == 1), name.length + ending)

def resolve : Text → Text
  | [] => []
  | c :: rest =>
    match if c = '&' then reference? rest else none with
    | some (found, used) => found ++ resolve (rest.drop used)
    | none => c :: resolve rest
termination_by t => t.length
decreasing_by all_goals simp only [List.length_drop, List.length_cons]; omega

end Stencil.Markup
