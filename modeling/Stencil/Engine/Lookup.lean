import Stencil.Engine.Render

/-!
# References to captured values

A reference that a template has written leads back to the very value that was captured.
-/

namespace Stencil.Action

/-- The item of a table at an index, which counts from the end if it is negative. -/
def itemAt (items : List Value) (index : Int) : Except Fault Value :=
  let position := if index < 0 then index + items.length else index
  match if position < 0 then none else items[position.toNat]? with
  | some v => .ok v
  | none => .error (if Number.fitsWord index then .outOfRange .list else .indexTooLarge)

def lookup (id index : Int) : Action Value := do
  let e ← get
  match if id < 0 then none else e.registered? id.toNat with
  | some i => ofExcept (itemAt i.captured index)
  | none => fault (.unknownInstance id)

def resolve (reference : Text) : Action Value := do
  let format := (← get).settings.captureReference
  match Reference.read? format reference with
  | some target => lookup target.instanceId target.index
  | none => fault (.notAReference reference format)

end Stencil.Action
