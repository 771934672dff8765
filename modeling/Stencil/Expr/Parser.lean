import Stencil.Expr.Token
import Stencil.Expr.Formatted

/-!
# Reading expressions

A parser by recursive descent over tokens, one function for each level of the grammar. Each
function gives what it read and the tokens behind it. The depth of the descent is bounded by the
length of the text, which the fuel is computed from.
-/

namespace Stencil

abbrev Tokens := List Token

namespace Tokens

def word? (w : String) : Tokens → Option Tokens
  | .word t :: rest => if t = w.toList then some rest else none
  | _ => none

def mark? (m : String) : Tokens → Option Tokens
  | .mark t :: rest => if t = m.toList then some rest else none
  | _ => none

def startsMark (m : String) (ts : Tokens) : Bool := (mark? m ts).isSome

/-- Operators between two operands; a greater level binds tighter. -/
def binaryOps : List (Text × BinaryOp × Nat) := [
  ("|", .bitOr, 1), ("^", .bitXor, 2), ("&", .bitAnd, 3), ("<<", .shiftLeft, 4),
  (">>", .shiftRight, 4), ("+", .add, 5), ("-", .subtract, 5), ("*", .multiply, 6),
  ("/", .divide, 6), ("//", .floorDivide, 6), ("%", .modulo, 6),
  ("@", .matMultiply, 6)].map fun (s, op, level) => (s.toList, op, level)

def binaryOp? : Tokens → Option (BinaryOp × Nat × Tokens)
  | .mark m :: rest => (binaryOps.lookup m).map fun (op, level) => (op, level, rest)
  | _ => none

def updateOp? : Tokens → Option (BinaryOp × Tokens)
  | .mark m :: rest =>
    if m = "**=".toList then some (.power, rest)
    else match m.reverse with
      | '=' :: op => (binaryOps.lookup op.reverse).map fun (op, _) => (op, rest)
      | _ => none
  | _ => none

def comparisonMarks : List (Text × CompareOp) := [
  ("==", .equal), ("!=", .notEqual), ("<", .less), ("<=", .lessEqual), (">", .greater),
  (">=", .greaterEqual)].map fun (s, op) => (s.toList, op)

def compareOp? (ts : Tokens) : Option (CompareOp × Tokens) :=
  match ts with
  | .mark m :: rest => (comparisonMarks.lookup m).map (·, rest)
  | _ =>
    if let some rest := word? "in" ts then some (.isIn, rest)
    else if let some rest := word? "not" ts then (word? "in" rest).map (.notIn, ·)
    else if let some rest := word? "is" ts then
      match word? "not" rest with
      | some rest => some (.notSame, rest)
      | none => some (.same, rest)
    else none

def unaryOp? (ts : Tokens) : Option (UnaryOp × Tokens) :=
  if let some rest := mark? "-" ts then some (.negate, rest)
  else if let some rest := mark? "+" ts then some (.plus, rest)
  else (mark? "~" ts).map (.invert, ·)

end Tokens

namespace Expr

open Tokens

/-! ## Building -/

def ofUnary (op : UnaryOp) (e : Expr) : Expr := foldIf [e] (.unary op e)

def ofBinary (op : BinaryOp) (a b : Expr) : Expr := foldIf [a, b] (.binary op a b)

def ofTuple (items : List Expr) : Expr := foldIf items (.tuple items)

def ofCompare (first : Expr) (more : List (CompareOp × Expr)) : Expr :=
  if more.isEmpty then first else .compare first more

/-- Items with commas between them are a tuple, a lone item is itself. -/
def ofItems : List Expr → (commas : Bool) → Expr
  | [e], false => e
  | items, _ => ofTuple items

def isStarred : Expr → Bool
  | .starred _ => true
  | _ => false

def ofParts (parts : List Expr) : Expr :=
  let texts := parts.filterMap fun
    | .constant (.str t) => some t
    | _ => none
  if texts.length = parts.length then .constant (.str texts.flatten) else .joined parts

/-- How far the arguments of a call have come: only named ones may follow a named one, and behind
the entries of a mapping no items of an iterable. -/
inductive ArgumentStage where
  | start
  | positional
  | named
  | mapping

def ArgumentStage.next? : ArgumentStage → ArgumentForm → Option ArgumentStage
  | .start, .positional | .start, .spread => some .positional
  | .positional, .positional | .positional, .spread => some .positional
  | .named, .spread => some .named
  | .mapping, .named _ => some .mapping
  | _, .named _ => some .named
  | _, .spreadNamed => some .mapping
  | _, _ => none

def argumentNames (args : List (ArgumentForm × Expr)) : List Text :=
  args.filterMap fun
    | (.named n, _) => some n
    | _ => none

/-! ## Grammar -/

mutual

def expression : Nat → Tokens → Option (Expr × Tokens)
  | 0, _ => none
  | f + 1, ts =>
    if let some rest := word? "lambda" ts then do
      let (params, rest) ← parameters f rest
      let (body, rest) ← expression f rest
      return (.lambda params body, rest)
    else do
      let (yes, rest) ← disjunction f ts
      match word? "if" rest with
      | none => return (yes, rest)
      | some rest =>
        let (cond, rest) ← disjunction f rest
        let (no, rest) ← expression f (← word? "else" rest)
        return (.ifElse cond yes no, rest)

def namedExpression : Nat → Tokens → Option (Expr × Tokens)
  | 0, _ => none
  | f + 1, .name n :: .mark [':', '='] :: rest => do
    let (e, rest) ← expression f rest
    return (.bind n e, rest)
  | f + 1, ts => expression f ts

def disjunction : Nat → Tokens → Option (Expr × Tokens)
  | 0, _ => none
  | f + 1, ts => do
    let (a, rest) ← conjunction f ts
    disjunctionTail f a rest

def disjunctionTail : Nat → Expr → Tokens → Option (Expr × Tokens)
  | 0, _, _ => none
  | f + 1, a, ts =>
    match word? "or" ts with
    | none => some (a, ts)
    | some rest => do
      let (b, rest) ← conjunction f rest
      disjunctionTail f (.either a b) rest

def conjunction : Nat → Tokens → Option (Expr × Tokens)
  | 0, _ => none
  | f + 1, ts => do
    let (a, rest) ← inversion f ts
    conjunctionTail f a rest

def conjunctionTail : Nat → Expr → Tokens → Option (Expr × Tokens)
  | 0, _, _ => none
  | f + 1, a, ts =>
    match word? "and" ts with
    | none => some (a, ts)
    | some rest => do
      let (b, rest) ← inversion f rest
      conjunctionTail f (.both a b) rest

def inversion : Nat → Tokens → Option (Expr × Tokens)
  | 0, _ => none
  | f + 1, ts =>
    match word? "not" ts with
    | some rest => do
      let (e, rest) ← inversion f rest
      return (ofUnary .not e, rest)
    | none => do
      let (first, rest) ← climb f 1 ts
      let (more, rest) ← comparisons f rest
      return (ofCompare first more, rest)

def comparisons : Nat → Tokens → Option (List (CompareOp × Expr) × Tokens)
  | 0, _ => none
  | f + 1, ts =>
    match compareOp? ts with
    | none => some ([], ts)
    | some (op, rest) => do
      let (e, rest) ← climb f 1 rest
      let (more, rest) ← comparisons f rest
      return ((op, e) :: more, rest)

def climb : Nat → (level : Nat) → Tokens → Option (Expr × Tokens)
  | 0, _, _ => none
  | f + 1, level, ts => do
    let (a, rest) ← signed f ts
    climbTail f level a rest

def climbTail : Nat → (level : Nat) → Expr → Tokens → Option (Expr × Tokens)
  | 0, _, _, _ => none
  | f + 1, level, a, ts =>
    match binaryOp? ts with
    | none => some (a, ts)
    | some (op, opLevel, rest) =>
      if opLevel < level then some (a, ts)
      else do
        let (b, rest) ← climb f (opLevel + 1) rest
        climbTail f level (ofBinary op a b) rest

/-- Signs bind less than the operator of powers on their right. -/
def signed : Nat → Tokens → Option (Expr × Tokens)
  | 0, _ => none
  | f + 1, ts =>
    match unaryOp? ts with
    | some (op, rest) => do
      let (e, rest) ← signed f rest
      return (ofUnary op e, rest)
    | none => do
      let (e, rest) ← atom f ts
      let (base, rest) ← trailers f e rest
      match mark? "**" rest with
      | none => return (base, rest)
      | some rest =>
        let (e, rest) ← signed f rest
        return (ofBinary .power base e, rest)

def trailers : Nat → Expr → Tokens → Option (Expr × Tokens)
  | 0, _, _ => none
  | f + 1, e, .mark ['.'] :: .name n :: rest => trailers f (.member e n) rest
  | f + 1, e, .mark ['('] :: rest => do
    let (args, rest) ← arguments f .start rest
    if (argumentNames args).Nodup then trailers f (.call e args) rest else none
  | f + 1, e, .mark ['['] :: rest => do
    let (items, commas, rest) ← subscripts f rest
    let index := ofItems items commas
    trailers f (foldIf [e, index] (.subscript e index)) rest
  | _ + 1, e, ts => some (e, ts)

/-- The arguments of a call and its closing parenthesis. A generator is the only argument. -/
def arguments : Nat → ArgumentStage → Tokens → Option (List (ArgumentForm × Expr) × Tokens)
  | 0, _, _ => none
  | f + 1, stage, ts =>
    match mark? ")" ts with
    | some rest => some ([], rest)
    | none => do
      let ((form, e), rest) ← argument f ts
      if (word? "for" rest).isSome then
        let (clauses, rest) ← clauses f rest
        match form, stage, mark? ")" rest with
        | .positional, .start, some rest =>
          return ([(.positional, .collect .generator e clauses)], rest)
        | _, _, _ => none
      else
        let stage ← stage.next? form
        match mark? "," rest with
        | some rest =>
          let (more, rest) ← arguments f stage rest
          return ((form, e) :: more, rest)
        | none => return ([(form, e)], ← mark? ")" rest)

def argument : Nat → Tokens → Option ((ArgumentForm × Expr) × Tokens)
  | 0, _ => none
  | f + 1, .name n :: .mark ['='] :: rest => do
    let (e, rest) ← expression f rest
    return ((.named n, e), rest)
  | f + 1, ts =>
    if let some rest := mark? "*" ts then do
      let (e, rest) ← expression f rest
      return ((.spread, e), rest)
    else if let some rest := mark? "**" ts then do
      let (e, rest) ← expression f rest
      return ((.spreadNamed, e), rest)
    else do
      let (e, rest) ← namedExpression f ts
      return ((.positional, e), rest)

def subscripts : Nat → Tokens → Option (List Expr × Bool × Tokens)
  | 0, _ => none
  | f + 1, ts => do
    let (e, rest) ← subscriptItem f ts
    if let some rest := mark? "]" rest then return ([e], isStarred e, rest)
    else
      let rest ← mark? "," rest
      if let some rest := mark? "]" rest then return ([e], true, rest)
      else
        let (more, _, rest) ← subscripts f rest
        return (e :: more, true, rest)

def subscriptItem : Nat → Tokens → Option (Expr × Tokens)
  | 0, _ => none
  | f + 1, ts =>
    if let some rest := mark? "*" ts then do
      let (e, rest) ← climb f 1 rest
      return (.starred e, rest)
    else if let some rest := mark? ":" ts then sliceTail f none rest
    else do
      let (e, rest) ← namedExpression f ts
      match mark? ":" rest with
      | some rest => sliceTail f (some e) rest
      | none => return (e, rest)

def sliceTail : Nat → Option Expr → Tokens → Option (Expr × Tokens)
  | 0, _, _ => none
  | f + 1, start, ts => do
    let (stop, rest) ← sliceBound f ts
    match mark? ":" rest with
    | some rest =>
      let (step, rest) ← sliceBound f rest
      return (.slice start stop step, rest)
    | none => return (.slice start stop none, rest)

def sliceBound : Nat → Tokens → Option (Option Expr × Tokens)
  | 0, _ => none
  | f + 1, ts =>
    if startsMark ":" ts || startsMark "," ts || startsMark "]" ts then some (none, ts)
    else do
      let (e, rest) ← expression f ts
      return (some e, rest)

def atom : Nat → Tokens → Option (Expr × Tokens)
  | 0, _ => none
  | f + 1, ts =>
    match ts with
    | .name n :: rest => some (.name n, rest)
    | .number c :: rest => some (.constant c, rest)
    | .str _ :: _ | .formatted .. :: _ => do
      let (parts, rest) ← texts f ts
      return (ofParts parts, rest)
    | .mark ['.', '.', '.'] :: rest => some (.constant .ellipsis, rest)
    | .mark ['('] :: rest => group f rest
    | .mark ['['] :: rest => listDisplay f rest
    | .mark ['{'] :: rest => braceDisplay f rest
    | _ =>
      if let some rest := word? "None" ts then some (.constant .none, rest)
      else if let some rest := word? "True" ts then some (.constant (.bool true), rest)
      else if let some rest := word? "False" ts then some (.constant (.bool false), rest)
      else none

def texts : Nat → Tokens → Option (List Expr × Tokens)
  | 0, _ => none
  | f + 1, .str t :: rest => do
    let (more, rest) ← texts f rest
    return (.constant (.str t) :: more, rest)
  | f + 1, .formatted raw body :: rest => do
    let (parts, []) ← formattedParts f raw 0 body | none
    let (more, rest) ← texts f rest
    return (.joined parts :: more, rest)
  | _ + 1, ts => some ([], ts)

def formattedParts : Nat → (raw : Bool) → (level : Nat) → Text → Option (List Expr × Text)
  | 0, _, _, _ => none
  | f + 1, raw, level, t => do
    let (written, rest) ← Formatted.literal? (level != 0) t
    let literal ← if raw then some written else Token.unescape? written
    let head := if literal.isEmpty then [] else [.constant (.str literal)]
    match rest with
    | '{' :: rest =>
      let (parts, rest) ← formattedField f raw level rest
      let (more, rest) ← formattedParts f raw level rest
      return (head ++ parts ++ more, rest)
    | _ => return (head, rest)

/-- A field behind its opening brace. An equals sign after the expression shows its source. -/
def formattedField : Nat → (raw : Bool) → (level : Nat) → Text → Option (List Expr × Text)
  | 0, _, _, _ => none
  | f + 1, raw, level, t => do
    if 2 ≤ level then none
    let (source, rest) ← Formatted.expression? ⟨none, []⟩ t
    if source.all Text.isBlank then none
    let tokens ← Token.sequence? 0 ('(' :: source ++ [')'])
    let (e, []) ← group f (tokens.drop 1) | none
    let (shown, rest) : List Expr × Text := match rest with
      | '=' :: more =>
        let blanks := more.takeWhile Text.isBlank
        ([.constant (.str (source ++ '=' :: blanks))], more.drop blanks.length)
      | _ => ([], rest)
    let (conversion, rest) ← match rest with
      | '!' :: 's' :: more => some (Conversion.display, more)
      | '!' :: 'r' :: more => some (Conversion.quoted, more)
      | '!' :: 'a' :: more => some (Conversion.ascii, more)
      | '!' :: _ => none
      | _ => some (Conversion.none, rest)
    let (spec, hasSpec, rest) ← match rest with
      | ':' :: more => do
        let (spec, rest) ← formattedParts f raw (level + 1) more
        some (spec, true, rest)
      | _ => some ([], false, rest)
    let conversion :=
      if !shown.isEmpty && !hasSpec && conversion = .none then .quoted else conversion
    match rest with
    | '}' :: rest => return (shown ++ [.field e conversion spec], rest)
    | _ => none

def group : Nat → Tokens → Option (Expr × Tokens)
  | 0, _ => none
  | f + 1, ts =>
    match mark? ")" ts with
    | some rest => some (ofTuple [], rest)
    | none => do
      let (e, rest) ← item f ts
      if (word? "for" rest).isSome && !isStarred e then
        let (clauses, rest) ← clauses f rest
        return (.collect .generator e clauses, ← mark? ")" rest)
      else if let some rest := mark? ")" rest then
        if isStarred e then none else return (e, rest)
      else
        let (more, rest) ← items f ")" (← mark? "," rest)
        return (ofTuple (e :: more), rest)

def listDisplay : Nat → Tokens → Option (Expr × Tokens)
  | 0, _ => none
  | f + 1, ts =>
    match mark? "]" ts with
    | some rest => some (.list [], rest)
    | none => do
      let (e, rest) ← item f ts
      if (word? "for" rest).isSome && !isStarred e then
        let (clauses, rest) ← clauses f rest
        return (.collect .list e clauses, ← mark? "]" rest)
      else if let some rest := mark? "]" rest then return (.list [e], rest)
      else
        let (more, rest) ← items f "]" (← mark? "," rest)
        return (.list (e :: more), rest)

/-- What follows an opening brace: a mapping if its first item is an entry, else a set. -/
def braceDisplay : Nat → Tokens → Option (Expr × Tokens)
  | 0, _ => none
  | f + 1, ts =>
    if let some rest := mark? "\x7d" ts then some (.dict [], rest)
    else if startsMark "**" ts then do
      let (entries, rest) ← entries f ts
      return (.dict entries, rest)
    else do
      let (e, rest) ← item f ts
      if startsMark ":" rest then
        let (value, rest') ← expression f (← mark? ":" rest)
        if (word? "for" rest').isSome then
          let (clauses, rest) ← clauses f rest'
          return (.collectDict e value clauses, ← mark? "\x7d" rest)
        else
          let (entries, rest) ← entries f ts
          return (.dict entries, rest)
      else if (word? "for" rest).isSome && !isStarred e then
        let (clauses, rest) ← clauses f rest
        return (.collect .set e clauses, ← mark? "\x7d" rest)
      else if let some rest := mark? "\x7d" rest then return (.set [e], rest)
      else
        let (more, rest) ← items f "\x7d" (← mark? "," rest)
        return (.set (e :: more), rest)

def entries : Nat → Tokens → Option (List (Option Expr × Expr) × Tokens)
  | 0, _ => none
  | f + 1, ts => do
    if let some rest := mark? "\x7d" ts then return ([], rest)
    else
      let ((key, value), rest) ← entry f ts
      if let some rest := mark? "\x7d" rest then return ([(key, value)], rest)
      else
        let (more, rest) ← entries f (← mark? "," rest)
        return ((key, value) :: more, rest)

def entry : Nat → Tokens → Option ((Option Expr × Expr) × Tokens)
  | 0, _ => none
  | f + 1, ts =>
    if let some rest := mark? "**" ts then do
      let (e, rest) ← climb f 1 rest
      return ((none, e), rest)
    else do
      let (key, rest) ← expression f ts
      let (value, rest) ← expression f (← mark? ":" rest)
      return ((some key, value), rest)

def items : Nat → (close : String) → Tokens → Option (List Expr × Tokens)
  | 0, _, _ => none
  | f + 1, close, ts =>
    if let some rest := mark? close ts then some ([], rest)
    else do
      let (e, rest) ← item f ts
      if let some rest := mark? close rest then return ([e], rest)
      else
        let (more, rest) ← items f close (← mark? "," rest)
        return (e :: more, rest)

def item : Nat → Tokens → Option (Expr × Tokens)
  | 0, _ => none
  | f + 1, ts =>
    if let some rest := mark? "*" ts then do
      let (e, rest) ← climb f 1 rest
      return (.starred e, rest)
    else namedExpression f ts

def clauses : Nat → Tokens → Option (List Clause × Tokens)
  | 0, _ => none
  | f + 1, ts =>
    match word? "for" ts with
    | none => some ([], ts)
    | some rest => do
      let (targets, commas, rest) ← targetItems f rest
      let target ← (ofItems targets commas).target?
      let (iterable, rest) ← disjunction f (← word? "in" rest)
      let (conditions, rest) ← conditions f rest
      let (more, rest) ← clauses f rest
      return (.mk target iterable conditions :: more, rest)

def conditions : Nat → Tokens → Option (List Expr × Tokens)
  | 0, _ => none
  | f + 1, ts =>
    match word? "if" ts with
    | none => some ([], ts)
    | some rest => do
      let (e, rest) ← disjunction f rest
      let (more, rest) ← conditions f rest
      return (e :: more, rest)

def targetItems : Nat → Tokens → Option (List Expr × Bool × Tokens)
  | 0, _ => none
  | f + 1, ts => do
    let (e, rest) ← match mark? "*" ts with
      | some rest => do
        let (e, rest) ← climb f 1 rest
        some (Expr.starred e, rest)
      | none => climb f 1 ts
    match mark? "," rest with
    | none => return ([e], false, rest)
    | some rest =>
      if (word? "in" rest).isSome then return ([e], true, rest)
      else
        let (more, _, rest) ← targetItems f rest
        return (e :: more, true, rest)

def parameters : Nat → Tokens → Option (List (Text × Option Expr) × Tokens)
  | 0, _ => none
  | f + 1, ts =>
    if let some rest := mark? ":" ts then some ([], rest)
    else match ts with
      | .name n :: rest => do
        let (fallback, rest) ← match mark? "=" rest with
          | some rest => do
            let (e, rest) ← expression f rest
            some (some e, rest)
          | none => some (none, rest)
        if let some rest := mark? ":" rest then return ([(n, fallback)], rest)
        else
          let (more, rest) ← parameters f (← mark? "," rest)
          return ((n, fallback) :: more, rest)
      | _ => none

end

/-! ## Whole texts -/

/-- Expressions with commas between them are a tuple. Iterables to spread are allowed on request,
but not alone. -/
def expressions (starred : Bool) : Nat → Tokens → Option (List Expr × Bool × Tokens)
  | 0, _ => none
  | f + 1, ts => do
    let (e, rest) ← match mark? "*" ts, starred with
      | some rest, true => do
        let (e, rest) ← climb f 1 rest
        some (Expr.starred e, rest)
      | _, _ => expression f ts
    match mark? "," rest with
    | none => return ([e], false, rest)
    | some rest =>
      match expressions starred f rest with
      | some (more, _, rest) => return (e :: more, true, rest)
      | none => return ([e], true, rest)

def expressionList (starred : Bool) (f : Nat) (ts : Tokens) : Option (Expr × Tokens) := do
  let (es, commas, rest) ← expressions starred f ts
  let e := ofItems es commas
  if isStarred e then none else some (e, rest)

def isNewline : Token → Bool
  | .newline => true
  | _ => false

def fuelFor (t : Text) : Nat := 32 * (t.length + 2)

def ofText? (t : Text) : Option Expr := do
  let tokens ← Token.ofText? t
  let (e, rest) ← expressionList false (fuelFor t) (tokens.dropWhile isNewline)
  if rest.all isNewline then some e else none

end Expr

namespace Statement

open Tokens Stencil.Expr

def assignment : Nat → List Target → Expr → Tokens → Option (Statement × Tokens)
  | 0, _, _, _ => none
  | f + 1, targets, e, ts =>
    match mark? "=" ts with
    | some rest => do
      let target ← e.target?
      let (e, rest) ← expressionList true f rest
      assignment f (target :: targets) e rest
    | none =>
      if targets.isEmpty then some (.effect e, ts) else some (.assign targets.reverse e, ts)

def single? : Expr → Option Target
  | .tuple _ | .list _ => none
  | e => e.target?

def raised (f : Nat) (ts : Tokens) : Option (Statement × Tokens) :=
  match expression f ts with
  | none => some (.raise none none, ts)
  | some (e, rest) =>
    match word? "from" rest with
    | none => some (.raise (some e) none, rest)
    | some rest => do
      let (cause, rest) ← expression f rest
      return (.raise (some e) (some cause), rest)

def one (f : Nat) (ts : Tokens) : Option (Statement × Tokens) :=
  if let some rest := word? "pass" ts then some (.pass, rest)
  else if let some rest := word? "raise" ts then raised f rest
  else if let some rest := word? "del" ts then do
    let (es, _, rest) ← expressions false f rest
    return (.delete (← es.mapM Expr.target?), rest)
  else do
    let (e, rest) ← expressionList true f ts
    match updateOp? rest with
    | some (op, rest) =>
      let (value, rest) ← expressionList false f rest
      return (.update (← single? e) op value, rest)
    | none => assignment f [] e rest

def sequence : Nat → Tokens → Option (List Statement)
  | 0, _ => none
  | _ + 1, [] => some []
  | f + 1, .newline :: rest => sequence f rest
  | f + 1, ts => do
    let (s, rest) ← one f ts
    match rest with
    | [] => return [s]
    | .newline :: rest => return s :: (← sequence f rest)
    | .mark [';'] :: rest => return s :: (← sequence f rest)
    | _ => none

def ofText? (t : Text) : Option (List Statement) := do
  sequence (fuelFor t) (← Token.ofText? t)

end Statement

end Stencil
