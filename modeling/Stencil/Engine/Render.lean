import Stencil.Engine.Basic
import Stencil.Markup.Parse
import Stencil.Settings.Reference
import Stencil.Template.Generate
import Stencil.Template.Run

/-!
# Rendering

Rendering an instance binds arguments to a new scope, compiles the template if that has not been
done, and runs the program in a dialog with the engine. Templates render others in two ways: an
include is rendered when the template is compiled, and expressions can ask for more while it runs.
Both go one level deeper, and the number of levels is bounded.
-/

namespace Stencil

open Template (Compiled Evaluator IncludeHandler)

/-- How far an engine goes: how expressions are evaluated, and how many instructions a run may
take. -/
structure Machine where
  evaluator : Evaluator
  steps : Nat

abbrev Entries := List (Value × Value)

abbrev Nested := Nat → Entries → Action Text

namespace Action

def converse {α : Type} (answer : Request → Action Value) : Dialog α → Action α
  | .done result memory => ExceptT.mk do
    modify fun e => { e with heap := memory.heap }
    return result
  | .ask request memory resume => ExceptT.mk do
    modify fun e => { e with heap := memory.heap }
    let result ← ExceptT.run (answer request)
    ExceptT.run (converse answer (resume result (← get).heap))

def referenceText (id : Nat) (index : Int) : Action Text := do
  ofExcept (Reference.write (← get).settings.captureReference ⟨id, index⟩)

def renderOnce (nested : Nested) (name : Text) (args : Entries) : Action Text := do
  let id ← create name none
  (nested id args).andFinally (Engine.dispose id)

/-- Makes the instance of a template that is rendered once, whose captured values go to an owner if
there is one. -/
def openInclude (name : Text) (owner : Option Nat) : Action Nat := do
  note ["Including '", name, "'"]
  let id ← create name none
  if let some owner := owner then update id fun i => { i with owner }
  return id

def renderInclude (nested : Nested) (name : Text) (args : Entries) (owner : Option Nat) :
    Action Text := do
  let id ← openInclude name owner
  (nested id args).andFinally (Engine.dispose id)

def answer (nested : Nested) : Request → Action Value
  | .capture id v => do newInt (← capture id v)
  | .reference id index => do newText (← referenceText id index)
  | .scope id => do return .mapping (← «instance» id).scope
  | .render name args => do newText (← renderOnce nested name args)
  | .renderInclude name args owner => do newText (← renderInclude nested name args owner)
  | .source name => do newText (← loadSource name)
  | .dispose id => do
    modify (Engine.dispose id)
    return .none
  | .clear => do
    modify Engine.clear
    return .none

def includeMarkup (nested : Nested) (id scope : Nat) : Text → Action Text := fun name => do
  note ["Inlining include '", name, "'"]
  renderInclude nested name (← mapping scope) (some (← «instance» id).owner)

def build (name : Text) (program : Template.Program) : Action Compiled := do
  match Template.compile name (← get).codes program with
  | .ok (compiled, codes) =>
    modify fun e => { e with codes }
    return compiled
  | .error e => throw e

def reader : Action Markup.Reader := do
  return { parser := (← get).settings.markupParser }

/-- Takes the template of an instance apart and keeps its spans and its snapshot. Gives the instance
as it was before. -/
def takeApart (id : Nat) : Action (Instance × Template.Extraction) := do
  let i ← «instance» id
  let source ← loadSource i.name
  let extraction := Template.extract (← get).settings.trimLines source
  update id (Instance.withExtraction extraction)
  let tree ← ofExcept ((← reader).read extraction.snapshot)
  update id fun i => { i with snapshotTree := some tree }
  return (i, extraction)

def equip (id : Nat) (name : Text) (spans : Nat) (program : Template.Program) :
    Action Compiled := do
  let compiled ← build name program
  update id fun i => { i with renderer := some compiled }
  note ["Compiled template '", name, "' (#", Text.ofNat id, "): ", Text.ofNat spans, " spans, ",
    Text.ofNat program.length, " instructions"]
  return compiled

def compile (nested : Nested) (id : Nat) : Action Compiled := do
  let (i, extraction) ← takeApart id
  let program ← Template.generate (m := Action) (some (includeMarkup nested id i.scope))
    extraction.segments
  equip id i.name extraction.spans.length program

def runProgram (m : Machine) (nested : Nested) (owner scope : Nat) (compiled : Compiled) :
    Action Text := do
  let host ← «instance» owner
  let e ← get
  converse (answer nested)
    (Template.run m.evaluator m.steps e.globals ⟨.template owner host.name, scope⟩ compiled e.heap)

def bindScope (id : Nat) (args : Entries) : Action Nat := do
  let scope ← newScope args
  update id fun i => { i with scope }
  return scope

def ready (nested : Nested) (id : Nat) : Action Compiled := do
  match (← «instance» id).renderer with
  | some compiled => return compiled
  | none => compile nested id

def renderWith (m : Machine) (nested : Nested) (id : Nat) (args : Entries) : Action Text := do
  let scope ← bindScope id args
  let compiled ← ready nested id
  runProgram m nested (← «instance» id).owner scope compiled

def render (m : Machine) : (depth : Nat) → Nested
  | 0 => fun _ _ => throw .exhausted
  | depth + 1 => renderWith m (render m depth)

end Action

end Stencil
