import Stencil.Text.Basic

/-!
# Paths of files

A path is relative to the working folder, below the working folder by its full name, or absolute.
Empty parts and single dots are left out; a pair of dots stays, since it leads out of a folder that
may not exist.
-/

namespace Stencil.Files

inductive Anchor where
  | relative
  /-- The working folder, written by its full name. -/
  | working
  /-- One slash, or two. -/
  | root (slashes : Nat)
deriving DecidableEq, Repr

structure Path where
  anchor : Anchor
  parts : List Text
deriving DecidableEq, Repr

namespace Path

def partsOf (t : Text) : List Text :=
  (Text.splitOn ['/'] (by simp) t).filter fun p => p ≠ [] ∧ p ≠ ['.']

def ofText (t : Text) : Path :=
  let slashes := (t.takeWhile (· == '/')).length
  let anchor :=
    if slashes = 0 then .relative else if slashes = 2 then .root 2 else .root 1
  ⟨anchor, partsOf t⟩

def working : Path := ⟨.working, []⟩

/-- A path inside another one; an absolute path stands for itself. -/
def join (p q : Path) : Path :=
  match q.anchor with
  | .relative => { p with parts := p.parts ++ q.parts }
  | _ => q

def text (folder : Text) (p : Path) : Text :=
  let inner := Text.join ['/'] p.parts
  match p.anchor with
  | .relative => if p.parts.isEmpty then ['.'] else inner
  | .working => if p.parts.isEmpty then folder else Text.say [folder, "/", inner]
  | .root n => List.replicate n '/' ++ inner

end Path

end Stencil.Files
