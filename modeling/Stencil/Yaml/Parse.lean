import Stencil.Yaml.Scalar

/-!
# Reading documents

The grammar of documents by recursive descent. Outside of brackets the structure is given by
indentation: a node is deeper than the column of the sequence or mapping it belongs to, and the
entries of one collection stand in one column. A key of a mapping stands on one line with its
colon.
-/

namespace Stencil.Yaml

/-! ## Properties -/

def isNameChar (c : Char) : Bool := c.isAlphanum || c == '-' || c == '_'

def isTagChar (c : Char) : Bool := c.isAlphanum || "-;/?:@&=+$_.!~*'()%#".toList.contains c

def endsName (t : Text) : Bool :=
  isOpen t || (t.head?.map "?:,]\x7d%@\x60".toList.contains).getD false

def nodeName (c : Cursor) : Except Mistake (Text × Cursor) :=
  let name := (c.rest.drop 1).takeWhile isNameChar
  let behind := c.advance (name.length + 1)
  if name.isEmpty || !endsName behind.rest then .error .badName else .ok (name, behind)

def fullTag (t : Text) : Text :=
  match t with
  | '!' :: '!' :: name => "tag:yaml.org,2002:".toList ++ name
  | t => t

def nodeTag (c : Cursor) : Except Mistake (Text × Cursor) :=
  match c.rest with
  | '!' :: '<' :: rest =>
    match Text.cut? ['>'] rest with
    | some (name, behind) =>
      if name.any (fun x => isSpace x || isBreak x) || !isOpen behind then .error .badTag
      else .ok (name, c.advance (name.length + 3))
    | none => .error .badTag
  | _ =>
    let tag := c.rest.takeWhile isTagChar
    let behind := c.advance tag.length
    let closed := isOpen behind.rest || (behind.rest.head?.map isFlowMark).getD false
    if closed then .ok (fullTag tag, behind) else .error .badTag

def properties (flow : Bool) : (fuel : Nat) → Properties → (fresh : Bool) → Cursor →
    Except Mistake (Properties × Bool × Cursor)
  | 0, p, fresh, c => .ok (p, fresh, c)
  | fuel + 1, p, fresh, c =>
    match c.rest.head? with
    | some '&' => do
      if p.anchor.isSome || fresh then return (p, fresh, c)
      let (name, c) ← nodeName c
      let (fresh, c) := c.skip flow
      properties flow fuel { p with anchor := some name } fresh c
    | some '!' => do
      if p.tag.isSome || fresh then return (p, fresh, c)
      let (tag, c) ← nodeTag c
      let (fresh, c) := c.skip flow
      properties flow fuel { p with tag := some tag } fresh c
    | _ => .ok (p, fresh, c)

/-! ## Nodes in brackets -/

/-- Whether a node is written so that a colon may follow it at once. -/
def isJsonLike : Text → Bool
  | c :: _ => c == '"' || c == '\x27' || c == '[' || c == '{'
  | [] => false

mutual

def leaf (flow : Bool) (indent : Nat) : (fuel : Nat) → Cursor → Except Mistake (Node × Cursor)
  | 0, _ => .error .tooDeep
  | fuel + 1, c =>
    match c.rest with
    | [] => .error .unfinished
    | '[' :: _ => flowItems fuel [] (c.advance 1)
    | '{' :: _ => flowEntries fuel [] (c.advance 1)
    | '*' :: _ => do
      let (name, c) ← nodeName c
      return (.alias name, c)
    | q :: _ =>
      if q == '"' || q == '\x27' then do
        let (t, c) ← quoted q c
        return (.scalar {} false t, c)
      else if startsPlain flow c.rest then
        let (t, c) := plain flow indent c
        .ok (.scalar {} true t, c)
      else .error .unexpected

def flowNode : (fuel : Nat) → Cursor → Except Mistake (Node × Cursor)
  | 0, _ => .error .tooDeep
  | fuel + 1, c => do
    let (_, c) := c.skip true
    if c.atMarker then throw .markerInside
    let (p, _, c) ← properties true 2 {} false c
    let bare := match c.rest with
      | x :: _ => x == ',' || x == ']' || x == '}' || marksValue true false c.rest
      | [] => false
    if bare && !p.isEmpty then return (.scalar p true [], c)
    let (n, c) ← leaf true 0 fuel c
    return (← n.withProperties p, c)

def flowValue : (fuel : Nat) → Cursor → Except Mistake (Node × Cursor)
  | 0, _ => .error .tooDeep
  | fuel + 1, c =>
    let (_, c) := c.skip true
    match c.rest with
    | x :: _ => if x == ',' || x == ']' || x == '}' then .ok (.empty, c) else flowNode fuel c
    | [] => .error .unfinished

def flowPair : (fuel : Nat) → Cursor → Except Mistake ((Node × Option Node) × Cursor)
  | 0, _ => .error .tooDeep
  | fuel + 1, c => do
    let (_, c) := c.skip true
    if c.isIndicator '?' then
      let (key, c) ← explicitKey fuel (c.advance 1)
      let (_, c) := c.skip true
      if marksValue true true c.rest then
        let (value, c) ← flowValue fuel (c.advance 1)
        return ((key, some value), c)
      else return ((key, some .empty), c)
    else
      let jsonLike := isJsonLike c.rest
      let (key, behind) ← flowNode fuel c
      let colon := behind.pastSpaces
      if marksValue true jsonLike colon.rest && behind.line == c.line then
        let (value, c) ← flowValue fuel (colon.advance 1)
        return ((key, some value), c)
      else return ((key, none), behind)

def explicitKey : (fuel : Nat) → Cursor → Except Mistake (Node × Cursor)
  | 0, _ => .error .tooDeep
  | fuel + 1, c =>
    let (_, c) := c.skip true
    match c.rest with
    | x :: _ =>
      if x == ',' || x == ']' || x == '}' || marksValue true true c.rest then .ok (.empty, c)
      else flowNode fuel c
    | [] => .error .unfinished

def flowItems : (fuel : Nat) → List Node → Cursor → Except Mistake (Node × Cursor)
  | 0, _, _ => .error .tooDeep
  | fuel + 1, items, c => do
    let (_, c) := c.skip true
    match c.rest with
    | [] => throw .unfinished
    | ']' :: _ => return (.sequence {} items, c.advance 1)
    | _ =>
      let ((key, value?), c) ← flowPair fuel c
      let item := match value? with
        | some value => .mapping {} [(key, value)]
        | none => key
      let (_, c) := c.skip true
      match c.rest with
      | ',' :: _ => flowItems fuel (items ++ [item]) (c.advance 1)
      | ']' :: _ => return (.sequence {} (items ++ [item]), c.advance 1)
      | [] => throw .unfinished
      | _ => throw .unexpected

def flowEntries : (fuel : Nat) → List (Node × Node) → Cursor → Except Mistake (Node × Cursor)
  | 0, _, _ => .error .tooDeep
  | fuel + 1, entries, c => do
    let (_, c) := c.skip true
    match c.rest with
    | [] => throw .unfinished
    | '}' :: _ => return (.mapping {} entries, c.advance 1)
    | _ =>
      let ((key, value?), c) ← flowPair fuel c
      let entries := entries ++ [(key, value?.getD .empty)]
      let (_, c) := c.skip true
      match c.rest with
      | ',' :: _ => flowEntries fuel entries (c.advance 1)
      | '}' :: _ => return (.mapping {} entries, c.advance 1)
      | [] => throw .unfinished
      | _ => throw .unexpected

end

/-! ## Nodes by indentation -/

/-- Whether nothing is written here for a node that must stand deeper than a column: the document
is over or the line belongs to an outer collection. -/
def isBare (parent : Option Nat) (fresh : Bool) (c : Cursor) : Bool :=
  c.atEnd || (fresh && (parent.map fun column => decide (c.column ≤ column)).getD false)

mutual

/-- A node deeper than the column of its parent. A sequence may be the value of a mapping without
being deeper; a collection may start on the line only where keys are allowed. -/
def node : (fuel : Nat) → (parent : Option Nat) → (level keys : Bool) → Cursor →
    Except Mistake (Node × Cursor)
  | 0, _, _, _, _ => .error .tooDeep
  | fuel + 1, parent, level, keys, c =>
    let (fresh, c) := c.skipLine keys
    if level && fresh && !c.atEnd && c.isIndicator '-' && parent == some c.column then
      items fuel c.column true [] c
    else if isBare parent fresh c then .ok (.empty, c)
    else content fuel parent level (keys || fresh) c

def content : (fuel : Nat) → (parent : Option Nat) → (level keys : Bool) → Cursor →
    Except Mistake (Node × Cursor)
  | 0, _, _, _, _ => .error .tooDeep
  | fuel + 1, parent, level, keys, c =>
    if c.isIndicator '-' then
      if keys then items fuel c.column false [] c else .error .misplacedEntry
    else if c.isIndicator '?' || c.isIndicator ':' then
      if keys then entries fuel c.column [] c else .error .misplacedValue
    else do
      let (p, fresh, inner) ← properties false 2 {} false c
      if fresh then
        let (n, behind) ← if level && !inner.atEnd && inner.isIndicator '-' &&
              parent == some inner.column then items fuel inner.column true [] inner
          else if isBare parent true inner then pure (.empty, inner)
          else content fuel parent level true inner
        return (← n.withProperties p, behind)
      let least := (parent.map (· + 1)).getD 0
      match inner.rest.head? with
      | some x =>
        if x == '|' || x == '>' then
          let (t, behind) ← block least inner
          return (.scalar p false t, behind)
        else
          let (n, behind) ← if inner.isIndicator ':' && !p.isEmpty then pure (.empty, inner)
            else leaf false least fuel inner
          let n ← n.withProperties p
          let colon := behind.pastSpaces
          if !colon.isIndicator ':' then return (n, behind)
          else if keys && behind.line == c.line then
            let (value, behind) ← node fuel (some c.column) true false (colon.advance 1)
            entriesMore fuel c.column [(n, value)] behind
          else throw .misplacedValue
      | none => return (← Node.empty.withProperties p, inner)

def items : (fuel column : Nat) → (level : Bool) → List Node → Cursor →
    Except Mistake (Node × Cursor)
  | 0, _, _, _, _ => .error .tooDeep
  | fuel + 1, column, level, found, c => do
    let (item, behind) ← node fuel (some column) false true (c.advance 1)
    let found := found ++ [item]
    let (_, next) := behind.skip false
    if next.atEnd || next.column < column then return (.sequence {} found, next)
    else if next.column == column && next.isIndicator '-' then
      items fuel column level found next
    else if next.column == column && level then return (.sequence {} found, next)
    else throw .badIndent

def entries : (fuel column : Nat) → List (Node × Node) → Cursor → Except Mistake (Node × Cursor)
  | 0, _, _, _ => .error .tooDeep
  | fuel + 1, column, found, c => do
    if c.isIndicator '?' then
      let (key, behind) ← node fuel (some column) true true (c.advance 1)
      let (_, next) := behind.skip false
      if next.column == column && next.isIndicator ':' && !next.atEnd then
        let (value, behind) ← node fuel (some column) true true (next.advance 1)
        entriesMore fuel column (found ++ [(key, value)]) behind
      else entriesMore fuel column (found ++ [(key, .empty)]) next
    else if c.isIndicator ':' then
      let (value, behind) ← node fuel (some column) true true (c.advance 1)
      entriesMore fuel column (found ++ [(.empty, value)]) behind
    else
      let (p, fresh, inner) ← properties false 2 {} false c
      if fresh then throw .missingValue
      let (n, behind) ← if inner.isIndicator ':' && !p.isEmpty then pure (.empty, inner)
        else leaf false (column + 1) fuel inner
      let key ← n.withProperties p
      let colon := behind.pastSpaces
      if colon.isIndicator ':' && behind.line == c.line then
        let (value, behind) ← node fuel (some column) true false (colon.advance 1)
        entriesMore fuel column (found ++ [(key, value)]) behind
      else throw .missingValue

def entriesMore : (fuel column : Nat) → List (Node × Node) → Cursor →
    Except Mistake (Node × Cursor)
  | 0, _, _, _ => .error .tooDeep
  | fuel + 1, column, found, c =>
    let (_, next) := c.skip false
    if next.atEnd || next.column < column then .ok (.mapping {} found, next)
    else if next.column == column then entries fuel column found next
    else .error .badIndent

end

/-! ## Documents -/

/-- Control characters other than tabs and line ends, and code points that are no characters. -/
def isForbidden : Char → Bool :=
  Text.inRanges [(0, 8), (11, 12), (14, 31), (127, 132), (134, 159), (0xfffe, 0xffff)]

def pastDirectives : (fuel : Nat) → (found : Bool) → Cursor → Bool × Cursor
  | 0, found, c => (found, c)
  | fuel + 1, found, c =>
    let (_, c) := c.skipLine true
    if c.column = 0 ∧ c.rest.head? = some '%' then
      pastDirectives fuel true (c.advance (c.rest.takeWhile (!isBreak ·)).length)
    else (found, c)

def pastEnds : (fuel : Nat) → Cursor → Cursor
  | 0, c => c
  | fuel + 1, c =>
    let (_, c) := c.skip false
    if c.isMark Cursor.documentEnd then pastEnds fuel (c.advance 3) else c

def document? (t : Text) : Except Mistake (Option Node) := do
  if t.any isForbidden then throw .controlCharacter
  let t := unifyBreaks (if t.head? = some '\ufeff' then t.drop 1 else t)
  let fuel := 8 * t.length + 64
  let (directed, c) := pastDirectives fuel false ⟨t, 0, 0⟩
  let started := c.isMark Cursor.documentStart
  if !started && c.ended then
    if directed then throw .unfinished else return none
  if !started && directed then throw .unexpected
  let (root, c) ← node fuel none false (!started) (if started then c.advance 3 else c)
  let (_, c) := c.skip false
  if !c.atEnd then throw .badIndent
  if !(pastEnds fuel c).ended then throw .severalDocuments
  return some root

end Stencil.Yaml
