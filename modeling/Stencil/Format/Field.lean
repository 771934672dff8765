import Stencil.Format.Spec

/-!
# Replacement fields

A format is text with fields in braces, a doubled brace being text. A field names a value, by name
or by position, and members and items of it; it may ask for a conversion and gives a
specification, which can hold fields itself. Formats are read from left to right and a mistake in
one is found only when it is reached.
-/

namespace Stencil.Format

structure Field where
  name : Text
  conversion : Option Char
  spec : Text
deriving DecidableEq, Repr

structure Piece where
  literal : Text
  field : Option Field
deriving DecidableEq, Repr

/-! ## Fields -/

/-- The name of a field, the mark that ends it and the rest. Brackets hide all marks but their
own end. -/
def takeName : (inBrackets : Bool) → Text → Except Fault (Text × Option Char × Text)
  | _, [] => .ok ([], none, [])
  | true, c :: rest => do
    let (name, mark, rest) ← takeName (c != ']') rest
    return (c :: name, mark, rest)
  | false, c :: rest =>
    if c = '{' then .error .unexpectedOpen
    else if c = '}' ∨ c = ':' ∨ c = '!' then .ok ([], some c, rest)
    else do
      let (name, mark, rest) ← takeName (c == '[') rest
      return (c :: name, mark, rest)

def takeSpec : (openBraces : Nat) → Text → Except Fault (Text × Text)
  | _, [] => .error .unmatchedInSpec
  | n, c :: rest =>
    if c = '}' then
      match n with
      | 0 => .ok ([], rest)
      | m + 1 => do
        let (spec, rest) ← takeSpec m rest
        return (c :: spec, rest)
    else do
      let (spec, rest) ← takeSpec (if c = '{' then n + 1 else n) rest
      return (c :: spec, rest)

def takeField (t : Text) : Except Fault (Field × Text) := do
  match ← takeName false t with
  | (name, some '}', rest) => return (⟨name, none, []⟩, rest)
  | (name, some ':', rest) =>
    let (spec, rest) ← takeSpec 0 rest
    return (⟨name, none, spec⟩, rest)
  | (name, some _, rest) =>
    match rest with
    | [] => .error .endInConversion
    | c :: '}' :: rest => return (⟨name, some c, []⟩, rest)
    | c :: ':' :: rest =>
      let (spec, rest) ← takeSpec 0 rest
      return (⟨name, some c, spec⟩, rest)
    | [_] => .error .unmatchedInSpec
    | _ => .error .expectedColon
  | (_, none, _) => .error .expectedClose

def nextPiece? (t : Text) : Except Fault (Option (Piece × Text)) :=
  let literal := t.takeWhile fun c => c != '{' && c != '}'
  match t.drop literal.length with
  | [] => .ok (if t.isEmpty then none else some (⟨literal, none⟩, []))
  | '{' :: '{' :: rest => .ok (some (⟨literal ++ ['{'], none⟩, rest))
  | '}' :: '}' :: rest => .ok (some (⟨literal ++ ['}'], none⟩, rest))
  | '{' :: [] => .error .strayOpen
  | '{' :: rest => do
    let (field, rest) ← takeField rest
    return some (⟨literal, some field⟩, rest)
  | _ => .error .strayClose

def pieces (t : Text) : Except Fault (List Piece) := do
  match ← nextPiece? t with
  | none => return []
  | some (piece, rest) =>
    if _h : rest.length < t.length then return piece :: (← pieces rest) else return [piece]
termination_by t.length

/-! ## Values of fields -/

inductive Source where
  | named (name : Text)
  | position (index : Nat)
deriving DecidableEq, Repr

inductive Step where
  | member (name : Text)
  | item (index : Nat)
  | key (name : Text)
deriving DecidableEq, Repr

/-- A source and the steps from it; a mistake in the name is met behind the last of them. -/
structure Path where
  source : Source
  steps : List Step
  mistake : Option Fault
deriving DecidableEq, Repr

def wholeIndex? (t : Text) : Except Fault (Option Nat) :=
  match t, Text.digitsToNat? t with
  | _ :: _, some n => if n < Number.wordBound then .ok (some n) else .error .tooManyDigits
  | _, _ => .ok none

def isStepStart (c : Char) : Bool := c == '.' || c == '['

def stepsOf (fuel : Nat) (t : Text) : List Step × Option Fault :=
  match fuel, t with
  | 0, _ => ([], none)
  | _, [] => ([], none)
  | fuel + 1, '.' :: rest =>
    match rest.takeWhile (!isStepStart ·) with
    | [] => ([], some .emptyMember)
    | name =>
      let (steps, mistake) := stepsOf fuel (rest.drop name.length)
      (.member name :: steps, mistake)
  | fuel + 1, '[' :: rest =>
    match Text.cut? [']'] rest with
    | none => ([], some .missingBracket)
    | some ([], _) => ([], some .emptyMember)
    | some (name, behind) =>
      match wholeIndex? name with
      | .error f => ([], some f)
      | .ok index =>
        let (steps, mistake) := stepsOf fuel behind
        ((match index with
          | some n => .item n
          | none => .key name) :: steps, mistake)
  | _, _ => ([], some .onlyAfterBracket)

/-- How fields without a name are numbered: not decided, by themselves, or by hand. -/
inductive Numbering where
  | undecided
  | automatic (next : Nat)
  | manual
deriving DecidableEq, Repr

def pathOf (numbering : Numbering) (name : Text) : Except Fault (Path × Numbering) := do
  let first := name.takeWhile (!isStepStart ·)
  let (steps, mistake) := stepsOf name.length (name.drop first.length)
  match ← wholeIndex? first, first, numbering with
  | some _, _, .automatic _ => .error .switchToManual
  | some n, _, _ => return (⟨.position n, steps, mistake⟩, .manual)
  | none, [], .manual => .error .switchToAutomatic
  | none, [], .automatic n => return (⟨.position n, steps, mistake⟩, .automatic (n + 1))
  | none, [], .undecided => return (⟨.position 0, steps, mistake⟩, .automatic 1)
  | none, _, _ => return (⟨.named first, steps, mistake⟩, numbering)

def asciiQuoted (d : Datum) : Text :=
  d.quoted.flatMap fun c => if c.toNat < 128 then [c] else
    if c.toNat < 0x100 then '\\' :: 'x' :: Text.hexDigits 2 c.toNat
    else if c.toNat < 0x10000 then '\\' :: 'u' :: Text.hexDigits 4 c.toNat
    else '\\' :: 'U' :: Text.hexDigits 8 c.toNat

def convert (conversion : Option Char) (d : Datum) : Except Fault Datum :=
  match conversion with
  | none => .ok d
  | some 's' => .str <$> d.write Datum.display
  | some 'r' => .str <$> d.write Datum.quoted
  | some 'a' => .str <$> d.write asciiQuoted
  | some c => .error (.unknownConversion c)

/-! ## Formatting -/

section

variable {m : Type → Type} [Monad m] (raise : {α : Type} → Fault → m α)
  (present : Datum → Text → Except Fault Text) (fetch : Path → m Datum)

def fillField (fillSpec : Numbering → Text → m (Text × Numbering)) (numbering : Numbering)
    (field : Field) : m (Text × Numbering) :=
  match pathOf numbering field.name with
  | .error f => raise f
  | .ok (path, numbering) => do
    match convert field.conversion (← fetch path) with
    | .error f => raise f
    | .ok d =>
      let (spec, numbering) ←
        if field.spec.contains '{' then fillSpec numbering field.spec
        else pure (field.spec, numbering)
      match present d spec with
      | .error f => raise f
      | .ok shown => pure (shown, numbering)

def fillPieces (fillSpec : Numbering → Text → m (Text × Numbering)) (numbering : Numbering)
    (t : Text) : m (Text × Numbering) :=
  match nextPiece? t with
  | .error f => raise f
  | .ok none => pure ([], numbering)
  | .ok (some (piece, rest)) =>
    if _h : rest.length < t.length then do
      let (shown, numbering) ← match piece.field with
        | none => pure (([] : Text), numbering)
        | some field => fillField raise present fetch fillSpec numbering field
      let (more, numbering) ← fillPieces fillSpec numbering rest
      pure (piece.literal ++ shown ++ more, numbering)
    else pure (piece.literal, numbering)
termination_by t.length

/-- Fills the fields of a format with the values that `fetch` finds, as `present` shows them. A
specification may hold fields while the depth is above one. -/
def fill : Nat → Numbering → Text → m (Text × Numbering)
  | 0, _, _ => raise .tooDeep
  | deeper + 1, numbering, t => fillPieces raise present fetch (fill deeper) numbering t

end

def maxDepth : Nat := 2

end Stencil.Format
