import Stencil.Text.Digit
import Stencil.Yaml.Cursor
import Stencil.Yaml.Node

/-!
# Scalars of documents

A scalar is written plainly, between quotes, or as a block of lines that are kept or folded.
-/

namespace Stencil.Yaml

/-! ## Plain scalars -/

def reservedMarks : Text := "-?:,[]\x7b\x7d#&*!|>\x27\x22%@\x60".toList

def startsPlain (flow : Bool) : Text → Bool
  | [] => false
  | c :: rest =>
    if isSpace c || isBreak c then false
    else if !reservedMarks.contains c then true
    else !isOpen rest && (c == '-' || (!flow && (c == '?' || c == ':')))

def marksValue (flow jsonLike : Bool) : Text → Bool
  | ':' :: rest => isOpen rest || (flow && (jsonLike || (rest.head?.map isFlowMark).getD false))
  | _ => false

def plainLine (flow afterSpace : Bool) : Text → Text
  | [] => []
  | c :: rest =>
    if isBreak c || (flow && isFlowMark c) || (c == '#' && afterSpace) ||
        marksValue flow false (c :: rest) then []
    else c :: plainLine flow (isSpace c) rest

def plainMore (flow : Bool) (indent : Nat) : (fuel : Nat) → Text → Cursor → Text × Cursor
  | 0, t, c => (t, c)
  | fuel + 1, t, c =>
    let (breaks, next) := Cursor.breaks [] c.line c.column c.rest
    let line := plainLine flow true next.rest
    if breaks.isEmpty || next.atEnd || line.isEmpty || (!flow && next.column < indent) then (t, c)
    else plainMore flow indent fuel (t ++ folded breaks ++ Text.stripRight isSpace line)
      (next.advance line.length)

def plain (flow : Bool) (indent : Nat) (c : Cursor) : Text × Cursor :=
  let line := plainLine flow false c.rest
  plainMore flow indent c.rest.length (Text.stripRight isSpace line) (c.advance line.length)

/-! ## Quoted scalars -/

def escapes : List (Char × Char) := [
  ('0', '\x00'), ('a', '\x07'), ('b', '\x08'), ('t', '\t'), ('\t', '\t'), ('n', '\n'),
  ('v', '\x0b'), ('f', '\x0c'), ('r', '\r'), ('e', '\x1b'), (' ', ' '), ('"', '"'), ('/', '/'),
  ('\\', '\\'), ('N', Char.ofNat 0x85), ('_', Char.ofNat 0xa0), ('L', Char.ofNat 0x2028),
  ('P', Char.ofNat 0x2029)]

def codeWidth? : Char → Option Nat
  | 'x' => some 2
  | 'u' => some 4
  | 'U' => some 8
  | _ => none

def hexNumber? (width : Nat) (t : Text) : Option Nat :=
  let ds := t.take width
  if ds.length = width ∧ ds.all Text.isHexDigit then
    some (Text.hexNumber ds)
  else none

def isHighSurrogate (n : Nat) : Bool := 0xd800 ≤ n && n < 0xdc00

def isLowSurrogate (n : Nat) : Bool := 0xdc00 ≤ n && n < 0xe000

def lowHalf? : Text → Option Nat
  | '\\' :: 'u' :: rest => (hexNumber? 4 rest).filter isLowSurrogate
  | _ => none

def codePoint? (width : Nat) (t : Text) : Option (Char × Nat) := do
  let n ← hexNumber? width t
  if isHighSurrogate n then
    let low ← lowHalf? (t.drop width)
    some (Char.ofNat (0x10000 + (n - 0xd800) * 0x400 + (low - 0xdc00)), width + 6)
  else if n.isValidChar then some (Char.ofNat n, width)
  else none

def quotedFrom (quote : Char) : (fuel : Nat) → Text → Cursor → Except Mistake (Text × Cursor)
  | 0, _, _ => .error .unfinished
  | fuel + 1, t, c =>
    match c.rest with
    | [] => .error .unfinished
    | x :: rest =>
      if isSpace x || isBreak x then
        let spaces := c.rest.takeWhile isSpace
        let (breaks, behind) := Cursor.breaks [] c.line c.column c.rest
        if breaks.isEmpty then quotedFrom quote fuel (t ++ spaces) (c.advance spaces.length)
        else if behind.atMarker then .error .markerInside
        else quotedFrom quote fuel (t ++ folded breaks) behind
      else if x == quote then
        if quote == '\x27' && rest.head? == some '\x27' then
          quotedFrom quote fuel (t ++ ['\x27']) (c.advance 2)
        else .ok (t, c.advance 1)
      else if x == '\\' && quote == '"' then
        match rest with
        | [] => .error .unfinished
        | y :: more =>
          if isBreak y then
            let (breaks, behind) := Cursor.breaks [] c.line (c.column + 1) rest
            if behind.atMarker then .error .markerInside
            else quotedFrom quote fuel (t ++ breaks.drop 1) behind
          else match escapes.lookup y, codeWidth? y with
            | some z, _ => quotedFrom quote fuel (t ++ [z]) (c.advance 2)
            | none, some width =>
              match codePoint? width more with
              | some (z, length) => quotedFrom quote fuel (t ++ [z]) (c.advance (2 + length))
              | none => .error .badEscape
            | none, none => .error .badEscape
      else quotedFrom quote fuel (t ++ [x]) (c.advance 1)

def quoted (quote : Char) (c : Cursor) : Except Mistake (Text × Cursor) :=
  quotedFrom quote (c.rest.length + 1) [] (c.advance 1)

/-! ## Blocks -/

inductive Chomping where
  /-- One line break stays at the end. -/
  | clip
  | strip
  | keep
deriving DecidableEq, Repr

structure Header where
  chomping : Chomping := .clip
  increment : Option Nat := none
deriving DecidableEq, Repr

def Header.ofText : (fuel : Nat) → Header → Text → Except Mistake (Header × Text)
  | 0, h, t => .ok (h, t)
  | _, h, [] => .ok (h, [])
  | fuel + 1, h, c :: rest =>
    if (c == '+' || c == '-') && h.chomping = .clip then
      Header.ofText fuel { h with chomping := if c == '+' then .keep else .strip } rest
    else if c.isDigit && h.increment.isNone then
      if c == '0' then .error .badHeader
      else Header.ofText fuel { h with increment := some (c.toNat - '0'.toNat) } rest
    else .ok (h, c :: rest)

structure BlockLine where
  body : Text
  ending : Text
deriving Repr

def blockLines : Text → List BlockLine
  | [] => []
  | c :: rest =>
    if isBreak c then ⟨[], [c]⟩ :: blockLines rest
    else match blockLines rest with
      | [] => [⟨[c], []⟩]
      | line :: more => if line.body.isEmpty && line.ending.isEmpty then ⟨[c], []⟩ :: more
        else { line with body := c :: line.body } :: more

namespace BlockLine

def spaces (l : BlockLine) : Nat := (l.body.takeWhile (· == ' ')).length

def isBare (indent : Nat) (l : BlockLine) : Bool :=
  l.spaces == l.body.length && (l.spaces ≤ indent || l.ending.isEmpty)

def indentation (lines : List BlockLine) : Nat :=
  let blank := lines.takeWhile fun l => l.spaces == l.body.length
  let first := (lines.drop blank.length).take 1
  (blank ++ first).foldl (fun n l => max n l.spaces) 0

end BlockLine

/-- A block being read: its text so far, the break behind its last line, the bare breaks behind
that one, and whether the last line may be folded. -/
structure Block where
  text : Text := []
  ending : Text := []
  breaks : Text := []
  folds : Bool := false
  started : Bool := false

def startsBlank (t : Text) : Bool := (t.head?.map isSpace).getD false

def Block.add (fold : Bool) (body ending : Text) (b : Block) : Block :=
  let between : Text :=
    if !b.started then []
    else if fold && b.folds && b.ending == ['\n'] && !startsBlank body then
      if b.breaks.isEmpty then [' '] else []
    else b.ending
  { text := b.text ++ between ++ b.breaks ++ body, ending, breaks := [], started := true
    folds := !startsBlank body }

def blockText (fold : Bool) (chomping : Chomping) (indent : Nat) :
    Block → (taken : Nat) → List BlockLine → Text × Nat
  | b, taken, [] => (finish b, taken)
  | b, taken, line :: more =>
    if line.isBare indent then
      blockText fold chomping indent { b with breaks := b.breaks ++ line.ending } (taken + 1) more
    else if indent ≤ line.spaces then
      blockText fold chomping indent (b.add fold (line.body.drop indent) line.ending) (taken + 1)
        more
    else (finish b, taken)
where
  finish (b : Block) : Text :=
    match chomping with
    | .strip => b.text
    | .clip => b.text ++ b.ending
    | .keep => b.text ++ b.ending ++ b.breaks

def block (least : Nat) (c : Cursor) : Except Mistake (Text × Cursor) := do
  let (header, behind) ← Header.ofText 2 {} (c.rest.drop 1)
  let blanks := behind.takeWhile isSpace
  let tail := behind.drop blanks.length
  let comment := if !blanks.isEmpty && tail.head? == some '#' then tail.takeWhile (!isBreak ·)
    else []
  match tail.drop comment.length with
  | [] => return ([], ⟨[], c.line, c.column⟩)
  | x :: body =>
    if !isBreak x then throw .badHeader
    let lines := blockLines body
    let indent := match header.increment with
      | some n => max least 1 + n - 1
      | none => max least (BlockLine.indentation lines)
    let (t, taken) := blockText (c.rest.head? == some '>') header.chomping indent {} 0 lines
    let rest := (lines.drop taken).flatMap fun l => l.body ++ l.ending
    return (t, ⟨rest, c.line + 1 + taken, 0⟩)

end Stencil.Yaml
