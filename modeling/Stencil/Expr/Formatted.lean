import Stencil.Text.Blank

/-!
# Parts of formatted texts

A formatted text alternates between literal text and fields in braces. A doubled brace is a
literal brace. The expression of a field ends at the first mark outside of its brackets and
quotes that cannot go on an expression.
-/

namespace Stencil.Formatted

/-- The literal text up to the next field, and the rest. Inside a field's own format a closing
brace ends the text as well; elsewhere it must be doubled. -/
def literal? (nested : Bool) : Text → Option (Text × Text)
  | [] => some ([], [])
  | c :: rest =>
    if c = '{' ∨ c = '}' then
      if nested then some ([], c :: rest)
      else match rest with
        | d :: more =>
          if d = c then (literal? nested more).map fun (t, r) => (c :: t, r)
          else if c = '{' then some ([], c :: rest)
          else none
        | [] => none
    else (literal? nested rest).map fun (t, r) => (c :: t, r)

structure FieldState where
  /-- The quote that is open and whether it is tripled. -/
  quote : Option (Char × Bool)
  closers : List Char

def closer? : Char → Option Char
  | '(' => some ')'
  | '[' => some ']'
  | '{' => some '}'
  | _ => none

def isCloser (c : Char) : Bool := c == ')' || c == ']' || c == '}'

def pairsWithEquals (c : Char) : Bool := c == '!' || c == '=' || c == '<' || c == '>'

def endsExpression (c : Char) : Bool := c == '!' || c == ':' || c == '}' || c == '='

def consField (cs : Text) (r : Option (Text × Text)) : Option (Text × Text) :=
  r.map fun (t, rest) => (cs ++ t, rest)

/-- The text of a field's expression and the rest, which starts with the mark that ends it. A
backslash and a comment are refused. -/
def expression? (s : FieldState) : Text → Option (Text × Text)
  | [] => none
  | c :: rest =>
    if c = '\\' then none
    else match s.quote with
      | some (q, triple) =>
        if c ≠ q then consField [c] (expression? s rest)
        else if !triple then consField [c] (expression? { s with quote := none } rest)
        else match rest with
          | a :: b :: more =>
            if a = q ∧ b = q then
              consField [c, a, b] (expression? { s with quote := none } more)
            else consField [c] (expression? s (a :: b :: more))
          | _ => none
      | none =>
        if c = '\x27' ∨ c = '\x22' then
          match rest with
          | a :: b :: more =>
            if a = c ∧ b = c then
              consField [c, a, b] (expression? { s with quote := some (c, true) } more)
            else consField [c] (expression? { s with quote := some (c, false) } (a :: b :: more))
          | _ => none
        else if let some close := closer? c then
          consField [c] (expression? { s with closers := close :: s.closers } rest)
        else if c = '#' then none
        else match s.closers with
          | close :: more =>
            if isCloser c then
              if c = close then consField [c] (expression? { s with closers := more } rest)
              else none
            else consField [c] (expression? s rest)
          | [] =>
            if pairsWithEquals c ∧ rest.head? = some '=' then
              consField [c, '='] (expression? s rest.tail)
            else if endsExpression c then some ([], c :: rest)
            else if isCloser c then none
            else consField [c] (expression? s rest)
termination_by t => t.length

end Stencil.Formatted
