import Stencil.Files.Path
import Stencil.Text.Blank
import Stencil.Text.Utf8
import Stencil.Value.Fault

/-!
# Files

The folder that a program works in, with everything below it. Nothing outside it exists. A path is
followed part by part, and every part but the last must be a folder.
-/

namespace Stencil.Files

inductive Tree where
  | file (bytes : List UInt8)
  | folder (entries : List (Text × Tree))
deriving Inhabited

namespace Tree

def isFolder : Tree → Bool
  | folder _ => true
  | file _ => false

def child? (t : Tree) (name : Text) : Option Tree :=
  match t with
  | folder entries => entries.lookup name
  | file _ => none

def step? (around : List Tree) (t : Tree) (part : Text) : Option (List Tree × Tree) :=
  if part = ['.', '.'] then
    match t, around with
    | folder _, outer :: around => some (around, outer)
    | _, _ => none
  else (t.child? part).map (t :: around, ·)

def follow? (around : List Tree) (t : Tree) : List Text → Option (List Tree × Tree)
  | [] => some (around, t)
  | part :: more => (step? around t part).bind fun (around, t) => follow? around t more

def place? (t : Tree) (p : Path) : Option (List Tree × Tree) :=
  match p.anchor with
  | .root _ => none
  | _ => follow? [] t p.parts

def at? (t : Tree) (p : Path) : Option Tree := (t.place? p).map (·.2)

def isFile (t : Tree) (p : Path) : Bool := ((t.at? p).map (!·.isFolder)).getD false

def exists? (t : Tree) (p : Path) : Bool := (t.at? p).isSome

/-- Puts a tree at a place, making the folders on the way. -/
def put (new : Tree) : (place : List Text) → Tree → Tree
  | [], _ => new
  | part :: more, t =>
    let entries := match t with
      | folder entries => entries
      | file _ => []
    let inner := put new more ((entries.lookup part).getD (folder []))
    folder (if entries.any (·.1 = part) then
      entries.map fun (n, e) => if n = part then (n, inner) else (n, e)
    else entries ++ [(part, inner)])

def read (t : Tree) (p : Path) : Except Fault Text :=
  match t.at? p with
  | some (.file bytes) =>
    match Text.ofBytes bytes with
    | .ok text => .ok (Text.universalNewlines text)
    | .error e => .error (.undecodable e.message)
  | _ => .error .directoryFound

end Tree

end Stencil.Files
