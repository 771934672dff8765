import Stencil.Files.Glob

/-!
# Template sources

Templates are found by name: in a table, or as files below a folder, where the name is the path
without the suffix of template files.
-/

namespace Stencil

structure Library where
  files : Files.Tree
  root : Files.Path
  suffix : Text
  folder : Text := []

namespace Library

def pathFor (l : Library) (name : Text) : Files.Path :=
  l.root.join (.ofText (name ++ l.suffix))

def find? (l : Library) (name : Text) : Except Fault (Option Text) :=
  if l.files.isFile (l.pathFor name) then (l.files.read (l.pathFor name)).map some else .ok none

/-- The name of what a path leads to: the path without the suffix, but nothing without one. -/
def nameOf (l : Library) (parts : List Text) : Text :=
  let path := Text.join ['/'] parts
  if l.suffix.isEmpty then [] else path.take (path.length - l.suffix.length)

def names (l : Library) : Except Fault (List Text) :=
  match l.files.place? l.root with
  | some (around, .folder entries) => do
    let pattern ← Files.Pattern.ofText ('*' :: l.suffix)
    let found := (Files.Tree.folder entries).search pattern around
    return (found.map l.nameOf).mergeSort fun a b => !Text.less b a
  | _ => .ok []

end Library

inductive Sources where
  | table (entries : List (Text × Text))
  | library (l : Library)

namespace Sources

def find? : Sources → Text → Except Fault (Option Text)
  | table entries, name => .ok (entries.lookup name)
  | library l, name => l.find? name

def add (name text : Text) : Sources → Sources
  | table entries =>
    if entries.any (·.1 = name) then
      table (entries.map fun (n, t) => if n = name then (n, text) else (n, t))
    else table (entries ++ [(name, text)])
  | library l => library l

end Sources

end Stencil
