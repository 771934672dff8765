import Stencil.Engine.Sources
import Stencil.Eval.Dialog
import Stencil.Markup.Node
import Stencil.Settings.Basic
import Stencil.Template.Compile
import Stencil.Template.Extract

/-!
# Engines

An engine owns the instances of templates. An instance is one use of a template: what its source was
compiled to, the scope of the last rendering, the table of values that were captured for it, and the
tree of its last run. Instances are numbered from one on in the order in which they are made. The
engine keeps every instance that was ever made; those that can be found by number are registered.
-/

namespace Stencil

structure Instance where
  id : Nat
  name : Text
  /-- What is told about trees that change. -/
  hook : Option Text
  spans : List Template.Span := []
  snapshot : Text := []
  snapshotTree : Option Markup.Element := none
  renderer : Option Template.Compiled := none
  /-- The mapping that holds the scope. -/
  scope : Nat
  captured : List Value := []
  root : Option Markup.Element := none
  /-- The instance whose table takes captured values. -/
  owner : Nat

def Instance.withExtraction (extraction : Template.Extraction) (i : Instance) : Instance :=
  { i with spans := extraction.spans, snapshot := extraction.snapshot }

structure HookCall where
  hook : Text
  rootOf : Option Nat
  node : Markup.Element

structure Engine where
  settings : Settings := {}
  sources : Sources := .table []
  globals : Names := []
  /-- The hook of instances that are made without one. -/
  hook : Option Text := none
  instances : List Instance := []
  registry : List Nat := []
  codes : Nat := 0
  heap : Heap := {}
  log : List Text := []
  hookCalls : List HookCall := []

/-- Work on an engine, whose effects stay when it fails. -/
abbrev Action := ExceptT Template.Failure (StateM Engine)

namespace Action

variable {α : Type}

def on (x : Action α) (e : Engine) : Except Template.Failure α × Engine := (ExceptT.run x).run e

def fault (f : Fault) : Action α := throw (.fault f)

def ofExcept : Except Fault α → Action α
  | .ok a => pure a
  | .error f => fault f

def andFinally (x : Action α) (last : Engine → Engine) : Action α := ExceptT.mk do
  let result ← ExceptT.run x
  modify last
  return result

def note (parts : List Text) : Action Unit :=
  modify fun e => { e with log := e.log ++ [Text.say parts] }

/-! ## Values -/

def newText (t : Text) : Action Value :=
  modifyGet fun e =>
    let (v, heap) := e.heap.newText t
    (v, { e with heap })

def newInt (n : Int) : Action Value :=
  modifyGet fun e =>
    let (serial, heap) := e.heap.newSerial
    (.ofInt n (.made serial), { e with heap })

def newScope (entries : List (Value × Value)) : Action Nat :=
  modifyGet fun e =>
    (e.heap.mappings.size, { e with heap := (e.heap.newMapping ⟨true, entries⟩).2 })

def mapping (address : Nat) : Action (List (Value × Value)) := do
  return ((← get).heap.mapping address).entries

end Action

namespace Engine

/-! ## Instances -/

def instance? (e : Engine) (id : Nat) : Option Instance :=
  if id = 0 then none else e.instances[id - 1]?

def registered? (e : Engine) (id : Nat) : Option Instance :=
  if id ∈ e.registry then e.instance? id else none

def update (id : Nat) (f : Instance → Instance) (e : Engine) : Engine :=
  { e with instances := e.instances.map fun i => if i.id = id then f i else i }

def dispose (id : Nat) (e : Engine) : Engine := { e with registry := e.registry.erase id }

def clear (e : Engine) : Engine := { e with registry := [] }

end Engine

namespace Action

def «instance» (id : Nat) : Action Instance := do
  match (← get).instance? id with
  | some i => return i
  | none => fault (.unknownInstance id)

def update (id : Nat) (f : Instance → Instance) : Action Unit := modify (Engine.update id f)

def create (name : Text) (hook : Option Text) : Action Nat := do
  let scope ← newScope []
  modifyGet fun e =>
    let id := e.instances.length + 1
    (id, { e with
      instances := e.instances ++ [{ id, name, scope, owner := id, hook := hook.or e.hook }]
      registry := e.registry ++ [id] })

def loadSource (name : Text) : Action Text := do
  match ← ofExcept ((← get).sources.find? name) with
  | some text => return text
  | none =>
    if let .library l := (← get).sources then
      note ["Template file not found: ", (l.pathFor name).text l.folder]
    throw (.sourceNotFound name)

/-! ## Captured values -/

/-- The index of a value in the table of an instance, which takes it if it is not there yet. -/
def capture (id : Nat) (v : Value) : Action Nat := do
  let i ← «instance» id
  match i.captured.findIdx? (·.same v) with
  | some index => return index
  | none =>
    update id fun i => { i with captured := i.captured ++ [v] }
    return i.captured.length

end Action

end Stencil
