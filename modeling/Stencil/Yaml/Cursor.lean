import Stencil.Text.Basic

/-!
# Places in a document

A place is the text that is still to be read, with its line and column, since the meaning of a
document depends on indentation. Line ends are single characters here.
-/

namespace Stencil.Yaml

def isSpace (c : Char) : Bool := c == ' ' || c == '\t'

/-- The line feed and the two separators of Unicode. -/
def isBreak (c : Char) : Bool := c == '\n' || c.toNat == 0x2028 || c.toNat == 0x2029

def isFlowMark (c : Char) : Bool := c == ',' || c == '[' || c == ']' || c == '{' || c == '}'

def isOpen : Text → Bool
  | [] => true
  | c :: _ => isSpace c || isBreak c

/-- Line ends made one: a carriage return, alone or before a line feed, and the next-line
character become a line feed. -/
def unifyBreaks : Text → Text
  | [] => []
  | '\r' :: '\n' :: rest => '\n' :: unifyBreaks rest
  | c :: rest => (if c == '\r' || c.toNat == 0x85 then '\n' else c) :: unifyBreaks rest

structure Cursor where
  rest : Text
  line : Nat := 0
  column : Nat := 0
deriving Repr, Inhabited

namespace Cursor

def next (c : Cursor) : Cursor :=
  match c.rest with
  | [] => c
  | x :: rest =>
    if isBreak x then ⟨rest, c.line + 1, 0⟩ else { c with rest, column := c.column + 1 }

def advance (n : Nat) (c : Cursor) : Cursor :=
  { c with rest := c.rest.drop n, column := c.column + n }

def ended (c : Cursor) : Bool := c.rest.isEmpty

def isMark (mark : Text) (c : Cursor) : Bool :=
  c.column == 0 && ((Text.after? mark c.rest).map isOpen).getD false

def documentStart : Text := ['-', '-', '-']

def documentEnd : Text := ['.', '.', '.']

def atMarker (c : Cursor) : Bool := c.isMark documentStart || c.isMark documentEnd

def atEnd (c : Cursor) : Bool := c.ended || c.atMarker

def pastSpaces (c : Cursor) : Cursor := c.advance (c.rest.takeWhile isSpace).length

def isIndicator (mark : Char) (c : Cursor) : Bool :=
  match c.rest with
  | x :: rest => x == mark && isOpen rest
  | [] => false

/-- The line breaks from a place on, blanks between them left out, and the place behind the blanks
of the last line. -/
def breaks (found : Text) (line column : Nat) : Text → Text × Cursor
  | [] => (found, ⟨[], line, column⟩)
  | x :: rest =>
    if isBreak x then breaks (found ++ [x]) (line + 1) 0 rest
    else if isSpace x then breaks found line (column + 1) rest
    else (found, ⟨x :: rest, line, column⟩)

/-- What lies between two tokens: blanks, comments and line breaks. Tabs are blanks on the first
line as said, and on the others only in brackets, where they do not indent. Gives whether a new
line was begun. -/
def skipFrom (flow tabs inComment fresh : Bool) (line column : Nat) : Text → Bool × Cursor
  | [] => (fresh, ⟨[], line, column⟩)
  | x :: rest =>
    if isBreak x then skipFrom flow flow false true (line + 1) 0 rest
    else if inComment || x == ' ' || (x == '\t' && tabs) then
      skipFrom flow tabs inComment fresh line (column + 1) rest
    else if x == '#' then skipFrom flow tabs true fresh line (column + 1) rest
    else (fresh, ⟨x :: rest, line, column⟩)

def skip (flow : Bool) (c : Cursor) : Bool × Cursor :=
  skipFrom flow true false false c.line c.column c.rest

/-- Past what lies in front of a node outside of brackets; a tab would indent a key. -/
def skipLine (keys : Bool) (c : Cursor) : Bool × Cursor :=
  skipFrom false (!keys) false false c.line c.column c.rest

end Cursor

/-- A line break in the middle of a text is a blank; of several, the first is left out. -/
def folded (breaks : Text) : Text :=
  match breaks with
  | ['\n'] => [' ']
  | '\n' :: more => more
  | breaks => breaks

end Stencil.Yaml
