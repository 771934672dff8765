import Stencil.Template.Span

/-!
# Directives

The text of a placeholder is a directive of the template language or, if no rule matches, an
expression to be written out. Each rule reads a whole trimmed text.
-/

namespace Stencil.Template

inductive IterMode where
  /-- The values of a mapping, the items of anything else. -/
  | values
  /-- The keys of a mapping, the indices of a sequence. -/
  | keys
deriving DecidableEq, Repr

def IterMode.word : IterMode → Text
  | .values => ['o', 'f']
  | .keys => ['i', 'n']

inductive Directive where
  | output (expr : Text) (escape : Bool)
  | assign (name expr : Text)
  | forRange (name init cond step : Text)
  | forEach (name : Text) (mode : IterMode) (expr : Text)
  | endFor
  | ifThen (cond : Text)
  | elseIf (cond : Text)
  | otherwise
  | endIf
  | serialize (expr : Text)
  | hasContent
  | content
  | endContent
  | endHasContent
  | include (name : Text)
deriving DecidableEq, Repr

namespace Directive

/-! ## Words and names -/

def isIdentStart (c : Char) : Bool := c.isAlpha || c == '_'

def isIdentChar (c : Char) : Bool := c.isAlphanum || c == '_'

def ident? : Text → Option (Text × Text)
  | [] => none
  | c :: rest =>
    if isIdentStart c then some (c :: rest.takeWhile isIdentChar, rest.dropWhile isIdentChar)
    else none

def blanks? : Text → Option Text
  | [] => none
  | c :: rest => if Text.isBlank c then some (rest.dropWhile Text.isBlank) else none

def keyword? (word t : Text) : Option Text := Text.after? word t >>= blanks?

def name? : Text → Option (Text × Text)
  | '$' :: rest => ident? rest
  | t => ident? t

def loopKeyword? (t : Text) : Option Text :=
  (keyword? "foreach".toList t).or (keyword? "for".toList t)

/-! ## Rules -/

def assign? (t : Text) : Option Directive := do
  let (name, rest) ← keyword? "assign".toList t >>= name?
  match rest.dropWhile Text.isBlank with
  | '=' :: '=' :: _ => none
  | '=' :: expr => some (.assign name (Text.strip expr))
  | _ => none

def forRange? (t : Text) : Option Directive := do
  let (name, rest) ← loopKeyword? t >>= name?
  match rest.dropWhile Text.isBlank with
  | '=' :: rest =>
    let (init, rest) ← Text.cut? [';'] rest
    let (cond, step) ← Text.cut? [';'] rest
    some (.forRange name (Text.strip init) (Text.strip cond) (Text.strip step))
  | _ => none

def forEach? (t : Text) : Option Directive := do
  let (name, rest) ← loopKeyword? t >>= name?
  let rest ← blanks? rest
  match keyword? IterMode.values.word rest, keyword? IterMode.keys.word rest with
  | some expr, _ => some (.forEach name .values (Text.strip expr))
  | none, some expr => some (.forEach name .keys (Text.strip expr))
  | none, none => none

def endFor? (t : Text) : Option Directive :=
  if t = "/for".toList ∨ t = "/foreach".toList then some .endFor else none

def ifThen? (t : Text) : Option Directive :=
  (keyword? "if".toList t).map fun cond => .ifThen (Text.strip cond)

def elseIf? (t : Text) : Option Directive :=
  (keyword? "else".toList t >>= keyword? "if".toList).map fun cond => .elseIf (Text.strip cond)

def serialize? (t : Text) : Option Directive :=
  (keyword? "serialize".toList t).map fun expr => .serialize (Text.strip expr)

def word? (word : Text) (d : Directive) (t : Text) : Option Directive :=
  if t = word then some d else none

/-- The name of an included template is one line and may stand in quotes. -/
def include? (t : Text) : Option Directive := do
  let rest ← keyword? "include".toList t
  if rest.isEmpty || rest.contains '\n' then none
  else some (.include (Text.stripBoth (fun c => c == '\x27' || c == '\x22') (Text.strip rest)))

def rawSigil : Char := '@'

def raw? : Text → Option Directive
  | c :: expr => if c = rawSigil then some (.output (Text.strip expr) false) else none
  | [] => none

def rules : List (Text → Option Directive) := [
  assign?, forRange?, forEach?, endFor?, ifThen?, elseIf?,
  word? "else".toList .otherwise, word? "/if".toList .endIf, serialize?,
  word? "hascontent".toList .hasContent, word? "content".toList .content,
  word? "/content".toList .endContent, word? "/hascontent".toList .endHasContent,
  include?, raw?]

def parse (t : Text) : Directive :=
  let t := Text.strip t
  (rules.findSome? fun rule => rule t).getD (.output t true)

end Directive

/-- Double braces hold an expression that is written out as it is; a sigil before single braces
makes their content an expression as well. -/
def Placeholder.classify (p : Placeholder) : Directive :=
  let t := p.directive
  match p.form, p.valueSigil with
  | .double, _ => (Directive.raw? t).getD (.output t false)
  | .single, true => (Directive.raw? t).getD (.output t true)
  | .single, false => Directive.parse t

end Stencil.Template
