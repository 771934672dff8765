import Stencil.Files.Tree

/-!
# Patterns of file names

In a pattern a star stands for any text, a question mark for any character, and brackets for one
of the characters in them. A pattern with slashes is followed from folder to folder; a pair of dots
leads out of a folder, and two stars to all folders below it.
-/

namespace Stencil.Files

inductive Glob where
  | char (c : Char)
  | any
  | star
  | oneOf (negated : Bool) (set : Text)
deriving DecidableEq, Repr

namespace Glob

def inSet (c : Char) : Text → Bool
  | a :: '-' :: b :: rest => (a ≤ c && c ≤ b) || inSet c rest
  | a :: rest => a == c || inSet c rest
  | [] => false

/-- The set in brackets and the rest; a closing bracket in front is in the set. -/
def set? (t : Text) : Option (Bool × Text × Text) :=
  let (negated, t) := match t with
    | '!' :: rest => (true, rest)
    | t => (false, t)
  let (first, rest) : Text × Text := match t with
    | ']' :: rest => ([']'], rest)
    | t => ([], t)
  (Text.cut? [']'] rest).map fun (inside, behind) => (negated, first ++ inside, behind)

def ofText : (fuel : Nat) → Text → List Glob
  | 0, _ | _, [] => []
  | fuel + 1, c :: rest =>
    if c = '*' then star :: ofText fuel rest
    else if c = '?' then any :: ofText fuel rest
    else if c = '[' then
      match set? rest with
      | some (negated, inside, behind) => oneOf negated inside :: ofText fuel behind
      | none => char c :: ofText fuel rest
    else char c :: ofText fuel rest

def fits : List Glob → Text → Bool
  | [], t => t.isEmpty
  | star :: more, t => go (fits more) t
  | _ :: _, [] => false
  | char d :: more, c :: rest => c == d && fits more rest
  | any :: more, _ :: rest => fits more rest
  | oneOf negated s :: more, c :: rest => (inSet c s != negated) && fits more rest
where
  /-- Whether some end of a text fits. -/
  go (fits : Text → Bool) : Text → Bool
    | [] => fits []
    | c :: rest => fits (c :: rest) || go fits rest

end Glob

inductive Part where
  /-- An entry of a folder whose name fits. -/
  | entry (g : List Glob)
  /-- The folder around. -/
  | up
  /-- A folder itself and all folders below it. -/
  | below
deriving DecidableEq, Repr

/-- Two stars are no pattern of a name, but stand alone. -/
def Part.ofText (t : Text) : Except Fault Part :=
  if t = ['*', '*'] then .ok .below
  else if (Text.find? ['*', '*'] t).isSome then .error .badPattern
  else if t = ['.', '.'] then .ok .up
  else .ok (.entry (Glob.ofText t.length t))

structure Pattern where
  parts : List Part
  foldersOnly : Bool

def Pattern.ofText (t : Text) : Except Fault Pattern := do
  return ⟨← (Path.partsOf t).mapM Part.ofText, t.getLast? = some '/'⟩

mutual

def Tree.folders (around : List Tree) (path : List Text) :
    Tree → List (List Text × List Tree × Tree)
  | .file _ => []
  | .folder entries =>
    (path, around, .folder entries) :: Tree.foldersIn (.folder entries :: around) path entries

def Tree.foldersIn (around : List Tree) (path : List Text) :
    List (Text × Tree) → List (List Text × List Tree × Tree)
  | [] => []
  | (name, t) :: more => t.folders around (path ++ [name]) ++ Tree.foldersIn around path more

end

def Tree.matching (foldersOnly : Bool) : List Part → (around : List Tree) → Tree → List (List Text)
  | [], _, t => if foldersOnly && !t.isFolder then [] else [[]]
  | .entry g :: more, around, .folder entries =>
    (entries.filter fun (name, _) => Glob.fits g name).flatMap fun (name, inner) =>
      (inner.matching foldersOnly more (.folder entries :: around)).map (name :: ·)
  | .up :: more, outer :: around, .folder _ =>
    (outer.matching foldersOnly more around).map (['.', '.'] :: ·)
  | .below :: more, around, t =>
    (t.folders around []).flatMap fun (path, around, inner) =>
      (inner.matching foldersOnly more around).map (path ++ ·)
  | _, _, _ => []

/-- All that a pattern leads to from a folder or one below it, each once. -/
def Tree.search (p : Pattern) (around : List Tree) (t : Tree) : List (List Text) :=
  (t.matching p.foldersOnly (.below :: p.parts) around).eraseDups

end Stencil.Files
