import Stencil.Text.Basic

/-!
# Blanks and lines

Blanks are the characters that white space classes of regular expressions and the trimming of
texts know; line ends are those that separate lines. Both sets reach beyond ASCII.
-/

namespace Stencil.Text

def blankRanges : List (Nat × Nat) := [
  (9, 13), (28, 32), (133, 133), (160, 160), (5760, 5760), (8192, 8202), (8232, 8233),
  (8239, 8239), (8287, 8287), (12288, 12288)]

def isBlank (c : Char) : Bool := inRanges blankRanges c

def lineEndRanges : List (Nat × Nat) := [(10, 13), (28, 30), (133, 133), (8232, 8233)]

def isLineEnd (c : Char) : Bool := inRanges lineEndRanges c

def strip (t : Text) : Text := stripBoth isBlank t

/-- The lines of a text without their ends; a carriage return and the line feed behind it end
one line, and the last line may lack its end. -/
def lines : Text → List Text
  | [] => []
  | '\r' :: '\n' :: rest => [] :: lines rest
  | c :: rest =>
    if isLineEnd c then [] :: lines rest
    else match lines rest with
      | [] => [[c]]
      | line :: more => (c :: line) :: more

def words (t : Text) : List Text :=
  let rec go : Text → Text → List Text
    | word, [] => if word.isEmpty then [] else [word.reverse]
    | word, c :: rest =>
      if isBlank c then
        if word.isEmpty then go [] rest else word.reverse :: go [] rest
      else go (c :: word) rest
  go [] t

/-- Line ends of files: a carriage return, alone or before a line feed, becomes a line feed. -/
def universalNewlines : Text → Text
  | [] => []
  | '\r' :: '\n' :: rest => '\n' :: universalNewlines rest
  | '\r' :: rest => '\n' :: universalNewlines rest
  | c :: rest => c :: universalNewlines rest

end Stencil.Text
