import Stencil.Engine.Render
import Stencil.Template.Snapshot

/-!
# Running and reloading

A run keeps the tree of what it renders. A reload renders one element of that tree anew: the element
of the snapshot that a selector finds gives the part of the template to compile, and the element of
the tree that it finds is replaced by the first element of the result.
-/

namespace Stencil.Action

open Template (Compiled)

def callHook (hook : Option Text) (rootOf : Option Nat) (node : Markup.Element) : Action Unit :=
  match hook with
  | some hook =>
    modify fun e => { e with hookCalls := e.hookCalls ++ [⟨hook, rootOf, node⟩] }
  | none => pure ()

def run (m : Machine) (depth : Nat) (id : Nat) (args : Entries) : Action Markup.Element := do
  let markup ← render m depth id args
  let tree ← ofExcept ((← reader).read markup)
  update id fun i => { i with root := some tree }
  callHook (← «instance» id).hook (some id) tree
  return tree

def restoreMarkup (spans : List Template.Span) (markup : Text) : Except Fault Text :=
  match Template.restoreSpans spans markup with
  | .ok source => .ok source
  | .error e => .error (if e.index < Number.wordBound then .outOfRange .list else .indexTooLarge)

/-- The template text of a part of a snapshot. Braces in the markup of a snapshot are text. -/
def fragmentSource (spans : List Template.Span) (markup : Text) : Except Fault Text :=
  restoreMarkup spans (Template.protectBraces markup)

def fragmentSegments (i : Instance) (element : Markup.Element) :
    Except Fault (List Template.Segment) := do
  return (Template.extract false (← fragmentSource i.spans element.outer)).segments

def renderFragment (m : Machine) (nested : Nested) (i : Instance) (scope : Nat)
    (element : Markup.Element) : Action Text := do
  let segments ← ofExcept (fragmentSegments i element)
  let program ← Template.generate (m := Action) (some (includeMarkup nested i.id scope)) segments
  let compiled ← build (i.name ++ "#fragment".toList) program
  runProgram m nested i.owner scope compiled

def overlaidScope (id : Nat) (args : Entries) : Action Nat := do
  let entries ← mapping (← «instance» id).scope
  newScope (args.foldl (fun es (k, v) => Mapping.putEntry k v es) entries)

def findElement (tree : Markup.Element) (selector : Text) :
    Action (Option (Markup.Path × Markup.Element)) := do
  let path ← ofExcept (tree.find? selector)
  return path.bind fun path => (tree.at? path).map (path, ·)

def missed {α : Type} (i : Instance) (why : List Text) : Action (Option α) := do
  note ["Reload miss in '", i.name, "' (#", Text.ofNat i.id, "): ", Text.say why]
  return none

structure Found where
  element : Markup.Element
  root : Markup.Element
  path : Markup.Path

def findBoth (i : Instance) (selector : Text) : Action (Option Found) := do
  match i.snapshotTree, i.root with
  | some snapshot, some root =>
    match ← findElement snapshot selector with
    | none => missed i ["'", selector, "' not in snapshot"]
    | some (_, element) =>
      match ← findElement root selector with
      | none => missed i ["'", selector, "' not in output"]
      | some (path, _) => return some ⟨element, root, path⟩
  | _, _ => missed i ["template was never run"]

def replace (i : Instance) (selector : Text) (found : Found) (markup : Text) : Action Unit := do
  let (root, new) ← ofExcept ((← reader).replace found.root found.path markup)
  update i.id fun i => { i with root := some root }
  note ["Reloaded '", selector, "' in '", i.name, "' (#", Text.ofNat i.id, ")"]
  if let some new := new then callHook i.hook none new

/-- Renders anew what a selector finds. Gives whether it was found both in the snapshot and in the
tree. -/
def reload (m : Machine) (depth : Nat) (id : Nat) (selector : Text) (args : Entries) :
    Action Bool := do
  let i ← «instance» id
  match ← findBoth i selector with
  | none => return false
  | some found =>
    let scope ← overlaidScope id args
    let markup ← renderFragment m (render m depth) i scope found.element
    replace i selector found markup
    return true

end Stencil.Action
