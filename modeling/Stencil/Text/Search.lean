import Stencil.Text.Blank
import Stencil.Text.Case

/-!
# Searching and splitting

Parts of texts by position and by separator, from either end.
-/

namespace Stencil.Text

/-- The part of a text between two bounds that count from the end when negative, and where it
starts; `none` when the bounds leave nothing, not even an empty part. -/
def window (t : Text) (start stop : Option Int) : Option (Text × Nat) :=
  let bound (b : Int) : Nat := if b < 0 then (b + t.length).toNat else b.toNat
  let first := (start.map bound).getD 0
  let last := min t.length ((stop.map bound).getD t.length)
  if last < first then none else some ((t.take last).drop first, first)

def findLast? (needle t : Text) : Option Nat :=
  (find? needle.reverse t.reverse).map fun i => t.length - needle.length - i

def occurrences (needle t : Text) : Nat :=
  if h : needle = [] then t.length + 1 else count needle h t

def splitAtMost (separator : Text) : (times : Nat) → Text → List Text
  | 0, t => [t]
  | n + 1, t =>
    match cut? separator t with
    | some (before, behind) => before :: splitAtMost separator n behind
    | none => [t]

def splitAtMostRight (separator : Text) (times : Nat) (t : Text) : List Text :=
  ((splitAtMost separator.reverse times t.reverse).map List.reverse).reverse

def wordsAtMost : (times : Nat) → Text → List Text
  | times, t =>
    match times, t.dropWhile isBlank with
    | _, [] => []
    | 0, rest => [rest]
    | n + 1, rest =>
      rest.takeWhile (!isBlank ·) :: wordsAtMost n (rest.dropWhile (!isBlank ·))

def wordsAtMostRight (times : Nat) (t : Text) : List Text :=
  ((wordsAtMost times t.reverse).map List.reverse).reverse

/-- Replaces at most so many occurrences; an empty text occurs around every character. -/
def replaceAtMost (old new : Text) (times : Option Nat) (t : Text) : Text :=
  if h : old = [] then
    match times with
    | some 0 => t
    | some n =>
      let touched := t.take (n - 1)
      new ++ touched.flatMap (fun c => c :: new) ++ t.drop (n - 1)
    | none => new ++ t.flatMap (fun c => c :: new)
  else match times with
    | some n => join new (splitAtMost old n t)
    | none => replaceAll old h new t

def linesWithEnds : Text → List Text
  | [] => []
  | '\r' :: '\n' :: rest => ['\r', '\n'] :: linesWithEnds rest
  | c :: rest =>
    if isLineEnd c then [c] :: linesWithEnds rest
    else match linesWithEnds rest with
      | [] => [[c]]
      | line :: more => (c :: line) :: more

/-- Fills up on both sides; an odd blank goes to the left if the width is odd. -/
def center (fill : Char) (width : Nat) (t : Text) : Text :=
  let missing := width - t.length
  let left := missing / 2 + (missing % 2) * (width % 2)
  List.replicate left fill ++ t ++ List.replicate (missing - left) fill

def zeroFill (width : Nat) (t : Text) : Text :=
  let zeros := List.replicate (width - t.length) '0'
  match t with
  | c :: rest => if c = '+' ∨ c = '-' then c :: zeros ++ rest else zeros ++ t
  | [] => zeros

def expandTabs (size : Nat) : (column : Nat) → Text → Text
  | _, [] => []
  | column, c :: rest =>
    if c = '\t' then
      let width := if size = 0 then 0 else size - column % size
      List.replicate width ' ' ++ expandTabs size (column + width) rest
    else c :: expandTabs size (if c = '\n' ∨ c = '\r' then 0 else column + 1) rest

def isTitle (t : Text) : Bool :=
  t.any isCased && title t == t

end Stencil.Text
