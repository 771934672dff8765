import Stencil.Markup.Reference
import Stencil.Markup.Selector

/-!
# Reading selectors

A list of selectors is read from left to right, and the first thing that cannot be read decides
the error. Lists also stand in the brackets of some pseudo-classes; there an empty place may be
forgiven, or each selector may start from the element that is tested.
-/

namespace Stencil.Markup

inductive SelectorError where
  | malformed
  /-- Parts of the language that say nothing about a tree. -/
  | unsupported
deriving DecidableEq, Repr

namespace Selector

/-! ## Blanks and names -/

/-- How many characters the blank at the start of a text takes; a line end is one blank. -/
def blankLength : Text → Nat
  | '\r' :: '\n' :: _ => 2
  | c :: _ => if isSelectorSpace c then 1 else 0
  | [] => 0

def commentLength : Text → Nat
  | '/' :: '*' :: rest =>
    match Text.cut? ['*', '/'] rest with
    | some (inside, _) => inside.length + 4
    | none => 0
  | _ => 0

def spaceLength (t : Text) : Nat := if 0 < blankLength t then blankLength t else commentLength t

def skip (t : Text) : Text :=
  match _h : t with
  | [] => []
  | _ :: rest => if spaceLength t = 0 then t else skip (rest.drop (spaceLength t - 1))
termination_by t.length
decreasing_by subst _h; simp only [List.length_drop, List.length_cons]; omega

def trailing : Text → Nat
  | [] => 0
  | c :: rest => if (skip (c :: rest)).isEmpty then rest.length + 1 else trailing rest

def isIdentifierStart (c : Char) : Bool := c.isAlpha || c == '_' || 0xA0 ≤ c.toNat

def isIdentifierChar (c : Char) : Bool := isIdentifierStart c || c.isDigit || c == '-'

/-- The character that a backslash and what follows it stand for, and the rest behind them. In a
string a backslash also hides a line end. -/
def escaped? (inString : Bool) (t : Text) : Option (Text × Text) :=
  let digits := (t.takeWhile Text.isHexDigit).take 6
  if !digits.isEmpty then
    let behind := t.drop digits.length
    let code := Text.hexNumber digits
    some ([if code = 0 then replacement else characterAt code], behind.drop (blankLength behind))
  else match t with
    | [] => some ([replacement], [])
    | c :: rest =>
      if "\r\n\x0c".toList.contains c then
        if inString then some ([], t.drop (blankLength t)) else none
      else some ([c], rest)

def nameChar? (p : Char → Bool) : Text → Option (Text × Text)
  | '\\' :: rest => escaped? false rest
  | c :: rest => if p c then some ([c], rest) else none
  | [] => none

def nameTail : (fuel : Nat) → Text → Text × Text
  | 0, t => ([], t)
  | fuel + 1, t =>
    match nameChar? isIdentifierChar t with
    | some (c, rest) =>
      let (more, behind) := nameTail fuel rest
      (c ++ more, behind)
    | none => ([], t)

def identifier? (t : Text) : Option (Text × Text) := do
  let (hyphen, rest) : Text × Text := match t with
    | '-' :: rest => (['-'], rest)
    | t => ([], t)
  let (first, rest) ← match hyphen, rest with
    | ['-'], '-' :: rest => some (['-'], rest)
    | _, rest => nameChar? isIdentifierStart rest
  let (more, behind) := nameTail rest.length rest
  return (hyphen ++ first ++ more, behind)

def quotedTail? (quote : Char) : (fuel : Nat) → Text → Option (Text × Text)
  | 0, _ => none
  | fuel + 1, t =>
    match t with
    | [] => none
    | '\\' :: rest => do
      if rest.isEmpty then none
      let (c, rest) ← escaped? true rest
      let (more, behind) ← quotedTail? quote fuel rest
      return (c ++ more, behind)
    | c :: rest =>
      if c = quote then some ([], rest)
      else if "\r\n\x0c".toList.contains c then none
      else (quotedTail? quote fuel rest).map fun (more, behind) => (c :: more, behind)

def textValue? (t : Text) : Option (Text × Text) :=
  match t with
  | '"' :: rest => quotedTail? '"' t.length rest
  | '\'' :: rest => quotedTail? '\'' t.length rest
  | t => identifier? t

def textValues? : (fuel : Nat) → Text → Option (List Text × Text)
  | 0, _ => none
  | fuel + 1, t => do
    let (v, rest) ← textValue? t
    match skip rest with
    | ',' :: more =>
      match textValues? fuel (skip more) with
      | some (vs, behind) => return (v :: vs, behind)
      | none => return ([v], rest)
    | _ => return ([v], rest)

def closing? (t : Text) : Option Text :=
  match skip t with
  | ')' :: rest => some rest
  | _ => none

/-! ## Simple selectors -/

def elementName? (t : Text) : Option (Text × Text) :=
  match t with
  | '*' :: rest => some (['*'], rest)
  | t => identifier? t

def qualified? (name? : Text → Option (Text × Text)) (t : Text) :
    Option (Option Text × Text × Text) :=
  let space : Option (Text × Text) := match t with
    | '|' :: rest => some ([], rest)
    | t => match elementName? t with
      | some (space, '|' :: rest) => some (space, rest)
      | _ => none
  match space.bind fun (space, rest) => (name? rest).map fun (name, behind) =>
      (some space, name, behind) with
  | some found => some found
  | none => (name? t).map fun (name, behind) => (none, name, behind)

/-- No namespaces are known, so only the star stands for one. -/
def element? (t : Text) : Option (Selector × Text) := do
  let (space, name, behind) ← qualified? elementName? t
  let test := if name = ['*'] then every else named (lowerAscii name)
  return (if space.getD ['*'] = ['*'] then test else never, behind)

def comparison? (t : Text) : Option (ValueTest × Bool × Text) :=
  match t with
  | '=' :: rest => some (.equal, false, rest)
  | '!' :: '=' :: rest => some (.equal, true, rest)
  | '~' :: '=' :: rest => some (.word, false, rest)
  | '^' :: '=' :: rest => some (.starts, false, rest)
  | '$' :: '=' :: rest => some (.ends, false, rest)
  | '*' :: '=' :: rest => some (.contains, false, rest)
  | '|' :: '=' :: rest => some (.dashed, false, rest)
  | _ => none

/-- The end of a test of an attribute: a letter that says whether case counts, and a bracket. -/
def attributeEnd? (t : Text) : Option (Option Bool × Text) :=
  match skip t with
  | ']' :: rest => some (none, rest)
  | c :: rest =>
    match "iIsS".toList.contains c, skip rest with
    | true, ']' :: behind => some (some (c == 'i' || c == 'I'), behind)
    | _, _ => none
  | [] => none

/-- A test of an attribute behind its opening bracket. The value of a type is compared without
regard to case. -/
def attribute? (t : Text) : Option (Selector × Text) := do
  let (_, name, rest) ← qualified? identifier? (skip t)
  match skip rest with
  | ']' :: behind => return (ofAttribute ⟨name, .any, [], false⟩, behind)
  | rest =>
    let (test, negated, rest) ← comparison? rest
    let (value, rest) ← textValue? (skip rest)
    let (ignoreCase, behind) ← attributeEnd? rest
    let test := ofAttribute
      ⟨name, test, value, ignoreCase.getD (lowerAscii name == "type".toList)⟩
    return (if negated then not test else test, behind)

/-! ## Positions -/

def digits? (t : Text) : Option (Nat × Text) :=
  let digits := t.takeWhile Char.isDigit
  if digits.isEmpty then none else some (decimalNumber digits, t.drop digits.length)

def sign (c : Char) : Option Int :=
  if c = '-' then some (-1) else if c = '+' then some 1 else none

def addend (t : Text) : Int × Text :=
  match skip t with
  | c :: rest =>
    match sign c, digits? (skip rest) with
    | some s, some (n, behind) => (s * n, behind)
    | _, _ => (0, t)
  | [] => (0, t)

def positions? (t : Text) : Option (Positions × Text) :=
  let (s, rest) : Int × Text := match t with
    | c :: rest => match sign c with
      | some s => (s, rest)
      | none => (1, t)
    | [] => (1, t)
  let number := digits? rest
  let behind := (number.map (·.2)).getD rest
  match number, behind with
  | _, n :: more =>
    if n = 'n' ∨ n = 'N' then
      let (start, behind) := addend more
      some (⟨s * ((number.map (·.1)).getD 1 : Nat), start⟩, behind)
    else match number with
      | some (k, _) => some (⟨0, s * k⟩, behind)
      | none =>
        if (t.take 4).map Char.toLower = "even".toList then some (⟨2, 0⟩, t.drop 4)
        else if (t.take 3).map Char.toLower = "odd".toList then some (⟨2, 1⟩, t.drop 3)
        else none
  | some (k, _), [] => some (⟨0, s * k⟩, [])
  | none, [] => none

def ofWord? (t : Text) : Option Text :=
  let rec blanks : (fuel : Nat) → Text → Option Text
    | 0, _ => none
    | fuel + 1, t =>
      if 0 < blankLength t then some (skip t)
      else if 0 < commentLength t then blanks fuel (t.drop (commentLength t))
      else none
  do
    let rest ← blanks (t.length + 1) t
    match rest with
    | o :: f :: rest =>
      if o.toLower = 'o' ∧ f.toLower = 'f' then blanks (rest.length + 1) rest else none
    | _ => none

/-! ## Pseudo-classes -/

def ofNames (names : List String) : Selector := anyOf (names.map fun n => named n.toList)

def withAttribute (name : String) : Selector := ofAttribute ⟨name.toList, .any, [], false⟩

def ofType (types : List String) : Selector :=
  anyOf (types.map fun t => ofAttribute ⟨"type".toList, .equal, t.toList, true⟩)

def blankAttribute (name : String) : Selector := ofAttribute ⟨name.toList, .equal, [], false⟩

def position1 (fromEnd : Bool) : Selector := position ⟨0, 1⟩ fromEnd every

def positionOfName1 (fromEnd : Bool) : Selector := positionOfName ⟨0, 1⟩ fromEnd

def visibleControls : Selector :=
  or (and (named "input".toList) (not (ofType ["hidden"])))
    (ofNames ["button", "select", "textarea", "fieldset"])

def disabledFieldset : Selector := and (named "fieldset".toList) (withAttribute "disabled")

def disabled : Selector := anyOf [
  and (or visibleControls (ofNames ["optgroup", "option"])) (withAttribute "disabled"),
  and (named "option".toList)
    (related .parent (and (named "optgroup".toList) (withAttribute "disabled"))),
  and visibleControls (related .parent disabledFieldset),
  and visibleControls (related .ancestor
    (and (not (and (named "legend".toList) (positionOfName1 false)))
      (related .parent disabledFieldset)))]

def readWrite : Selector := or
  (allOf [
    or (named "textarea".toList) (and (named "input".toList) (anyOf [
      not (withAttribute "type"), blankAttribute "type",
      ofType ["date", "datetime-local", "email", "month", "number", "password", "search", "tel",
        "text", "time", "url", "week"]])),
    not (withAttribute "readonly"), not disabled])
  (or (blankAttribute "contenteditable")
    (ofAttribute ⟨"contenteditable".toList, .equal, "true".toList, true⟩))

def placeholderShown : Selector :=
  let placeholder := and (withAttribute "placeholder") (not (blankAttribute "placeholder"))
  or
    (allOf [
      named "input".toList, placeholder,
      anyOf [not (withAttribute "type"), blankAttribute "type",
        ofType ["text", "search", "url", "tel", "email", "password", "number"]],
      or (not (withAttribute "value")) (blankAttribute "value")])
    (allOf [named "textarea".toList, placeholder, empty])

def simplePseudos : List (String × Selector) := [
  ("root", top), ("scope", top), ("empty", empty), ("defined", defined),
  ("first-child", position1 false), ("last-child", position1 true),
  ("only-child", and (position1 false) (position1 true)),
  ("first-of-type", positionOfName1 false), ("last-of-type", positionOfName1 true),
  ("only-of-type", and (positionOfName1 false) (positionOfName1 true)),
  ("link", and (ofNames ["a", "area"]) (withAttribute "href")),
  ("any-link", and (ofNames ["a", "area"]) (withAttribute "href")),
  ("checked", or
    (allOf [named "input".toList, ofType ["checkbox", "radio"], withAttribute "checked"])
    (and (named "option".toList) (withAttribute "selected"))),
  ("disabled", disabled),
  ("enabled", and (or visibleControls (ofNames ["optgroup", "option"])) (not disabled)),
  ("required", and (ofNames ["input", "select", "textarea"]) (withAttribute "required")),
  ("optional", and (ofNames ["input", "select", "textarea"]) (not (withAttribute "required"))),
  ("read-write", readWrite), ("read-only", not readWrite),
  ("placeholder-shown", placeholderShown),
  ("open", and (ofNames ["details", "dialog"]) (withAttribute "open")),
  ("muted", and (ofNames ["video", "audio"]) (withAttribute "muted"))]

/-- Pseudo-classes of states that a tree at rest is not in. -/
def neverPseudos : List String := [
  "active", "autofill", "buffering", "current", "default", "focus", "focus-visible",
  "focus-within", "fullscreen", "future", "host", "hover", "in-range", "indeterminate",
  "local-link", "modal", "out-of-range", "past", "paused", "picture-in-picture", "playing",
  "popover-open", "seeking", "stalled", "target", "target-within", "user-invalid", "visited",
  "volume-locked"]

def simplePseudo? (name : Text) : Option Selector :=
  if neverPseudos.any (·.toList = name) then some never
  else (simplePseudos.find? (·.1.toList = name)).map (·.2)

inductive Listing where
  | whole
  | bracket
  /-- A bracket in which a place may be empty. -/
  | forgiving
  /-- A bracket whose selectors start from the tested element. -/
  | relative
deriving DecidableEq, Repr

def listPseudo? (name : Text) : Option (Listing × (List Selector → Selector)) :=
  let isAny (s : String) : Bool := s.toList = name
  if ["is", "where"].any isAny then some (.forgiving, anyOf)
  else if ["matches", "contains", "-soup-contains", "-soup-contains-own"].any isAny then
    some (.bracket, anyOf)
  else if isAny "not" then some (.bracket, fun s => not (anyOf s))
  else if isAny "has" then some (.relative, anyOf)
  else if ["current", "host", "host-context"].any isAny then some (.bracket, fun _ => never)
  else none

def containing? (own : Bool) (t : Text) : Option (Selector × Text) := do
  let (texts, rest) ← textValues? (t.length + 1) t
  return (containing texts own, ← closing? rest)

/-- Languages and directions are not known of a tree. -/
def language? (t : Text) : Option (Selector × Text) := do
  let (_, rest) ← textValues? (t.length + 1) t
  return (never, ← closing? rest)

def direction? (t : Text) : Option (Selector × Text) := do
  let word := (t.take 3).map Char.toLower
  if word = "ltr".toList || word = "rtl".toList then return (never, ← closing? (t.drop 3))
  else none

/-! ## Lists -/

structure Reading where
  /-- The selectors before the last comma, in reverse. -/
  finished : List Selector := []
  /-- The tests of the current element. -/
  current : Selector := every
  hasCurrent : Bool := false
  /-- What stands before the current element: the relation to it. -/
  left : Selector := every
  hasLeft : Bool := false
  /-- The elements of a relative selector so far, with how each follows, in reverse. -/
  chain : List (Relation × Selector) := []
  /-- How the current element of a relative selector follows. -/
  follows : Relation := .descendant

namespace Reading

def test (r : Reading) (s : Selector) : Reading :=
  { r with current := and r.current s, hasCurrent := true }

/-- The relative selector of a chain, whose last element comes first. -/
def chained (chain : List (Relation × Selector)) : Selector :=
  chain.foldl (fun inner (relation, s) => related relation (and s inner)) every

def finish (listing : Listing) (r : Reading) : Reading :=
  let s := match listing with
    | .relative => chained ((r.follows, r.current) :: r.chain)
    | _ => and r.current r.left
  { finished := s :: r.finished }

def backward (combinator : Char) : Relation :=
  if combinator = '>' then .parent
  else if combinator = '~' then .earlier
  else if combinator = '+' then .previous
  else .ancestor

def forward (combinator : Char) : Relation :=
  if combinator = '>' then .child
  else if combinator = '~' then .later
  else if combinator = '+' then .next
  else .descendant

def combine (listing : Listing) (combinator : Char) (r : Reading) :
    Except SelectorError Reading :=
  if combinator = ',' then
    if r.hasCurrent then .ok (r.finish listing)
    else if listing = .forgiving then .ok { finished := never :: r.finished }
    else .error .malformed
  else if listing = .relative then
    if r.hasCurrent then
      .ok { r with
        current := every, hasCurrent := false, chain := (r.follows, r.current) :: r.chain
        follows := forward combinator }
    else if r.follows = .descendant then .ok { r with follows := forward combinator }
    else .error .malformed
  else if r.hasCurrent then
    .ok { r with
      current := every, hasCurrent := false, hasLeft := true
      left := related (backward combinator) (and r.current r.left) }
  else .error .malformed

def close (listing : Listing) (r : Reading) : Except SelectorError (List Selector) :=
  if r.hasCurrent then .ok (r.finish listing).finished.reverse
  else if listing = .forgiving && (r.finished.isEmpty || !r.hasLeft) then
    .ok (never :: r.finished).reverse
  else .error .malformed

end Reading

/-- A combinator or a comma, and the rest behind it and the blanks around it. A blank is one
unless a combinator stands directly behind it. -/
def combinator? : (fuel : Nat) → Text → Option (Char × Text)
  | 0, _ => none
  | fuel + 1, t =>
    let isMark (c : Char) : Bool := ",+>~".toList.contains c
    match t with
    | [] => none
    | c :: rest =>
      let blank := blankLength t
      let behind := t.drop blank
      if isMark c then some (c, skip rest)
      else if 0 < blank && !(behind.head?.map isMark).getD false then some (' ', skip behind)
      else if 0 < spaceLength t then combinator? fuel (t.drop (spaceLength t))
      else none

def plainPseudo? (name : Text) (behind : Text) : Option (Selector × Text) :=
  match behind with
  | '(' :: rest =>
    let inside := skip rest
    let counted (fromEnd : Bool) : Option (Selector × Text) := do
      let (p, rest) ← positions? inside
      return (positionOfName p fromEnd, ← closing? rest)
    if name = "contains".toList || name = "-soup-contains".toList then containing? false inside
    else if name = "-soup-contains-own".toList then containing? true inside
    else if name = "nth-of-type".toList then counted false
    else if name = "nth-last-of-type".toList then counted true
    else if name = "lang".toList then language? inside
    else if name = "dir".toList then direction? inside
    else none
  | behind => (simplePseudo? name).map (·, behind)

def childPositions? (name : Text) (behind : Text) : Option (Positions × Bool × Text) :=
  match behind with
  | '(' :: rest =>
    if name = "nth-child".toList || name = "nth-last-child".toList then
      (positions? (skip rest)).map fun (p, rest) => (p, name = "nth-last-child".toList, rest)
    else none
  | _ => none

/-- Reads a list from a state on. So many characters at the end of the text count as its end. -/
def readList (ending : Nat) (listing : Listing) : (fuel : Nat) → Reading → Text →
    Except SelectorError (List Selector × Text)
  | 0, _, _ => .error .malformed
  | fuel + 1, r, t => do
    if t.length ≤ ending then
      if listing = .whole then return (← r.close listing, t)
      else throw .malformed
    let go (r : Reading) (rest : Text) := readList ending listing fuel r rest
    let simple (found : Option (Selector × Text)) :=
      match found with
      | some (s, rest) => go (r.test s) rest
      | none => throw .malformed
    let bracket (listing : Listing) (make : List Selector → Selector) (rest : Text) := do
      let (list, rest) ← readList ending listing fuel {} rest
      go (r.test (make list)) rest
    if let some rest := closing? t then
      if listing = .whole then throw .malformed
      return (← r.close listing, rest)
    match t with
    | ':' :: ':' :: rest =>
      if (identifier? rest).isSome then throw .unsupported else throw .malformed
    | ':' :: rest =>
      match identifier? rest with
      | none => throw .malformed
      | some (name, behind) =>
        let name := lowerAscii name
        if let some (s, rest) := plainPseudo? name behind then go (r.test s) rest
        else if let some (p, fromEnd, rest) := childPositions? name behind then
          if let some rest := closing? rest then go (r.test (position p fromEnd every)) rest
          else if let some rest := ofWord? rest then
            bracket .bracket (fun list => position p fromEnd (anyOf list)) rest
          else throw .malformed
        else match behind, listPseudo? name with
          | '(' :: rest, some (listing, make) => bracket listing make (skip rest)
          | _, _ => throw .malformed
    | '&' :: rest => go (r.test top) rest
    | '@' :: p :: rest =>
      if p.toLower = 'p' && (identifier? rest).isSome then throw .unsupported
      else throw .malformed
    | '#' :: rest => simple ((identifier? rest).map fun (n, rest) => (id n, rest))
    | '.' :: rest => simple ((identifier? rest).map fun (n, rest) => (ofClass n, rest))
    | '[' :: rest => simple (attribute? rest)
    | t =>
      if let some (s, rest) := element? t then
        if r.hasCurrent then throw .malformed else go (r.test s) rest
      else if let some (c, rest) := combinator? (t.length + 1) t then
        go (← r.combine listing c) rest
      else throw .malformed

def ofText (t : Text) : Except SelectorError Selector := do
  let t := t.map fun c => if c.toNat = 0 then replacement else c
  let (list, _) ← readList (trailing t) .whole (t.length + 1) {} (skip t)
  return anyOf list

end Selector

end Stencil.Markup
