import Stencil.Number.Read
import Stencil.Text.Letter
import Stencil.Expr.Basic

/-!
# Tokens of expressions

Names, reserved words, numbers, quoted texts and marks. Blanks separate tokens and line breaks
inside brackets are blanks; a line break outside of brackets is a token of its own. A text that is
no sequence of tokens has no reading.
-/

namespace Stencil

inductive Token where
  | name (t : Text)
  /-- A reserved word. -/
  | word (t : Text)
  | number (c : Constant)
  | str (t : Text)
  /-- A formatted text as it is written, without its quotes. -/
  | formatted (raw : Bool) (body : Text)
  | mark (t : Text)
  | newline
deriving Repr, Inhabited

namespace Token

def reserved : List Text := [
  "False", "None", "True", "and", "as", "assert", "async", "await", "break", "class", "continue",
  "def", "del", "elif", "else", "except", "finally", "for", "from", "global", "if", "import",
  "in", "is", "lambda", "nonlocal", "not", "or", "pass", "raise", "return", "try", "while",
  "with", "yield"].map String.toList

/-! ## Numbers -/

def joinsName (c : Char) : Bool := c.isAlphanum || c == '_' || 128 ≤ c.toNat

def afterNumber : List Text :=
  ["and", "else", "for", "if", "in", "is", "not", "or"].map String.toList

def numberEnds : Text → Bool
  | [] => true
  | c :: rest => !joinsName c || afterNumber.any fun w => Text.startsWith w (c :: rest)

def exponent? : Text → Option (Option Int × Text)
  | e :: rest =>
    if e = 'e' ∨ e = 'E' then
      match rest with
      | sign :: more =>
        if sign = '+' ∨ sign = '-' then
          (Number.digitRun? Char.isDigit more).map fun (ds, behind) =>
            let n : Int := Number.digitsToNat 10 Number.alphaDigit ds
            (some (if sign = '-' then -n else n), behind)
        else match Number.digitRun? Char.isDigit rest with
          | some (ds, behind) => some (some (Number.digitsToNat 10 Number.alphaDigit ds), behind)
          | none => some (none, e :: rest)
      | [] => some (none, [e])
    else some (none, e :: rest)
  | [] => some (none, [])

def wholeNumber? (ds : Text) : Option Constant :=
  let leadingZero := ds.head? == some '0' && ds.any (· != '0')
  if leadingZero || Text.maxDigits < ds.length then none
  else some (.int (Number.digitsToNat 10 Number.alphaDigit ds))

def decimalTail? (whole rest : Text) : Option (Constant × Text) := do
  let (places, hasPoint, rest) := match rest with
    | '.' :: more =>
      match Number.digitRun? Char.isDigit more with
      | some (ds, behind) => (ds, true, behind)
      | none => ([], true, more)
    | _ => ([], false, rest)
  let (e, rest) ← exponent? rest
  if !hasPoint && e.isNone then return (← wholeNumber? whole, rest)
  else
    let digits := Number.digitsToNat 10 Number.alphaDigit (whole ++ places)
    return (.float (Number.ofDecimal false digits (e.getD 0 - places.length)), rest)

def number? (t : Text) : Option (Constant × Text) := do
  let (c, rest) ← match Number.baseMark? t with
    | some (base, more) => do
      let more := match more with | '_' :: m => m | m => m
      let (ds, rest) ← Number.digitRun? (fun c => Number.alphaDigit c < base && c.toNat < 128) more
      some (Constant.int (Number.digitsToNat base Number.alphaDigit ds), rest)
    | none =>
      match Number.digitRun? Char.isDigit t with
      | some (whole, rest) => decimalTail? whole rest
      | none => decimalTail? [] t
  if numberEnds rest then some (c, rest) else none

/-! ## Quoted texts -/

/-- The body of a quoted text and what follows its closing quote, of which there are one or three
in a row. A text in single quotes is one line. -/
def body? (quote : Char) (triple : Bool) : Text → Option (Text × Text)
  | [] => none
  | '\\' :: c :: rest => (body? quote triple rest).map fun (b, r) => ('\\' :: c :: b, r)
  | c :: rest =>
    if c = quote then
      if !triple then some ([], rest)
      else match rest with
        | a :: b :: more =>
          if a = quote ∧ b = quote then some ([], more)
          else (body? quote triple rest).map fun (b, r) => (c :: b, r)
        | _ => none
    else if c = '\n' ∧ !triple then none
    else (body? quote triple rest).map fun (b, r) => (c :: b, r)

def quotedBody? : Text → Option (Text × Text)
  | q :: a :: b :: rest =>
    if a = q ∧ b = q then body? q true rest else body? q false (a :: b :: rest)
  | q :: rest => body? q false rest
  | [] => none

def plainEscape? : Char → Option Char
  | '\\' => some '\\'
  | '\x27' => some '\x27'
  | '\x22' => some '\x22'
  | 'a' => some '\x07'
  | 'b' => some '\x08'
  | 'f' => some '\x0c'
  | 'n' => some '\n'
  | 'r' => some '\r'
  | 't' => some '\t'
  | 'v' => some '\x0b'
  | _ => none

def hexEscape? : Char → Option Nat
  | 'x' => some 2
  | 'u' => some 4
  | 'U' => some 8
  | _ => none

def isOctal (c : Char) : Bool := '0' ≤ c && c ≤ '7'

def isHex (c : Char) : Bool := c.toNat < 128 && Number.alphaDigit c < 16

def digits (base : Nat) (ds : Text) : Nat := Number.digitsToNat base Number.alphaDigit ds

/-- The text that a body with escapes stands for. A backslash with no escape behind it stands for
itself; a backslash at the end of a line hides the line break. -/
def unescape? (t : Text) : Option Text :=
  match t with
  | [] => some []
  | ['\\'] => some ['\\']
  | '\\' :: c :: rest =>
    if c = '\n' then unescape? rest
    else if let some plain := plainEscape? c then (unescape? rest).map (plain :: ·)
    else if isOctal c then
      let more := (rest.take 2).takeWhile isOctal
      (unescape? (rest.drop more.length)).map (Char.ofNat (digits 8 (c :: more)) :: ·)
    else if let some width := hexEscape? c then
      let ds := (rest.take width).takeWhile isHex
      let n := digits 16 ds
      if ds.length < width ∨ 0x10ffff < n then none
      else (unescape? (rest.drop width)).map (Char.ofNat n :: ·)
    else if c = 'N' then none
    else (unescape? rest).map fun more => '\\' :: c :: more
  | c :: rest => (unescape? rest).map (c :: ·)
termination_by t.length
decreasing_by all_goals (simp only [List.length_cons, List.length_drop]; omega)

def quotedToken? (letters t : Text) : Option (Token × Text) := do
  let (body, rest) ← quotedBody? t
  let raw := letters.contains 'r'
  if letters.contains 'b' then none
  else if letters.contains 'f' then some (.formatted raw body, rest)
  else if raw then some (.str body, rest)
  else do return (.str (← unescape? body), rest)

def stringLetters : List Text := ["r", "u", "b", "f", "br", "rb", "fr", "rf"].map String.toList

/-! ## Names and marks -/

def isName : Text → Bool
  | [] => false
  | c :: rest => Text.isNameStart c && rest.all Text.isNameChar

def isQuote (c : Char) : Bool := c == '\x27' || c == '\x22'

def wordToken? (t : Text) : Option (Token × Text) :=
  let w := t.takeWhile joinsName
  let rest := t.dropWhile joinsName
  let letters := w.map Char.toLower
  if (rest.head?.any isQuote) && stringLetters.contains letters then quotedToken? letters rest
  else if reserved.contains w then some (.word w, rest)
  else if isName w then some (.name w, rest)
  else none

/-- All marks, longer ones before those they start with. -/
def marks : List Text := [
  "**=", "//=", ">>=", "<<=", "...",
  "**", "//", ">>", "<<", "<=", ">=", "==", "!=", "->", "+=", "-=", "*=", "/=", "%=", "&=", "|=",
  "^=", "@=", ":=", "<>",
  "+", "-", "*", "/", "%", "@", "&", "|", "^", "~", "<", ">", "(", ")", "[", "]", "\x7b", "\x7d",
  ",", ":", ".", ";", "="].map String.toList

def markToken? (t : Text) : Option (Token × Text) :=
  marks.findSome? fun m => (Text.after? m t).map fun rest => (.mark m, rest)

def first? (t : Text) : Option (Token × Text) :=
  match t with
  | [] => none
  | c :: rest =>
    if c.isDigit || (c == '.' && rest.head?.any Char.isDigit) then
      (number? t).map fun (n, behind) => (.number n, behind)
    else if isQuote c then quotedToken? [] t
    else if joinsName c then wordToken? t
    else markToken? t

/-! ## Sequences -/

def isSpace (c : Char) : Bool := c == ' ' || c == '\t' || c == '\x0c'

def indented (line : Text) : Bool :=
  (line.head?.any isSpace) &&
    match line.dropWhile isSpace with
    | [] => false
    | c :: _ => c != '\n' && c != '#'

def depthAfter? (depth : Nat) : Token → Option Nat
  | mark ['('] | mark ['['] | mark ['\x7b'] => some (depth + 1)
  | mark [')'] | mark [']'] | mark ['\x7d'] => if depth = 0 then none else some (depth - 1)
  | _ => some depth

def sequence? (depth : Nat) (t : Text) : Option (List Token) :=
  match t with
  | [] => if depth = 0 then some [] else none
  | c :: rest =>
    if isSpace c then sequence? depth rest
    else if c = '\n' then
      if 0 < depth then sequence? depth rest
      else if indented rest then none
      else (sequence? depth rest).map (.newline :: ·)
    else if c = '#' then sequence? depth (rest.dropWhile (· != '\n'))
    else if c = '\\' then
      match rest with
      | '\n' :: next :: more => sequence? depth (next :: more)
      | _ => none
    else
      match first? (c :: rest) with
      | some (token, behind) =>
        if _h : behind.length < rest.length + 1 then do
          let depth ← depthAfter? depth token
          return token :: (← sequence? depth behind)
        else none
      | none => none
termination_by t.length
decreasing_by
  all_goals simp_wf
  all_goals try omega
  · have := (List.dropWhile_sublist (fun x => x != '\n') (l := rest)).length_le
    omega

/-- The tokens of a text; every way to end a line counts as a line feed. -/
def ofText? (t : Text) : Option (List Token) := sequence? 0 (Text.universalNewlines t)

end Token

end Stencil
