import Stencil.Proofs.Engine.Answers
import Stencil.Proofs.Engine.Moving
import Stencil.Proofs.Template.Sparing

/-!
# Mappings that rendering leaves alone

If no expression writes to a mapping, rendering leaves it as it is: each program has a scope of its
own, which was not there before.
-/

namespace Stencil

open Template (Compiled Failure Segment Setting)

/-- The machine that gets no further when an expression has changed the mapping with an address. -/
noncomputable def Machine.guarding (m : Machine) (address : Nat) : Machine :=
  { m with evaluator := m.evaluator.guarding address }

/-- A mapping that is there is left alone. -/
def Heap.Spares (address : Nat) (h h' : Heap) : Prop :=
  address < h.mappings.size → h'.mappings[address]? = h.mappings[address]?

theorem Heap.Spares.lt_size {address : Nat} {h h' : Heap} (hspares : h.Spares address h')
    (hlt : address < h.mappings.size) : address < h'.mappings.size := by
  have hsome := hspares hlt
  rw [Array.getElem?_eq_getElem hlt] at hsome
  exact (Array.getElem?_eq_some_iff.mp hsome).1

instance Heap.lenient_spares {address : Nat} : Heap.Lenient (Heap.Spares address) where
  refl _ _ := rfl
  trans hfirst hrest hlt := (hrest (hfirst.lt_size hlt)).trans (hfirst hlt)
  newSerial _ _ := rfl
  newMapping _ _ hlt :=
    (Array.getElem?_push_lt hlt).trans (Array.getElem?_eq_getElem hlt).symm

namespace Action

variable {α β : Type} {address : Nat}

def Spares (address : Nat) (x : Action α) : Prop := x.Moves (Heap.Spares address)

namespace Spares

theorem bind_of {x : Action α} {f : α → Action β} (hx : x.Spares address)
    (hf : ∀ e a e', address < e.heap.mappings.size → x.on e = (.ok a, e') →
      (f a).Spares address) : (x >>= f).Spares address :=
  Moves.bind_of hx fun e a e' hrun hfirst he =>
    Heap.Lenient.trans hfirst (hf e a e' he hrun e') he

theorem ne_of_on_newScope {entries : Entries} {e e' : Engine} {scope : Nat}
    (he : address < e.heap.mappings.size) (h : (newScope entries).on e = (.ok scope, e')) :
    scope ≠ address := by
  cases h
  exact Nat.ne_of_gt he

end Spares

variable {m : Machine} {nested : Nested}

theorem capturesRespect_answering (nested : Nested) (address : Nat) :
    Template.CapturesRespect (Answering nested) address where
  capture h := congrArg (·[address]?) (answering_capture h)
  reference h := congrArg (·[address]?) (answering_reference h)

/-- A program whose expressions are guarded leaves any mapping but its scope alone. -/
theorem spares_runProgram (owner : Nat) {scope : Nat} (hscope : scope ≠ address)
    (compiled : Compiled) :
    (runProgram (m.guarding address) nested owner scope compiled).Spares address := by
  refine .bind (.instance owner) fun host e he => ?_
  rw [on_bind_of_ok (on_get e)]
  generalize hrun : (converse (answer nested) (Template.run (m.guarding address).evaluator
    (m.guarding address).steps e.globals ⟨.template owner host.name, scope⟩ compiled
      e.heap)).on e = outcome
  obtain ⟨memory, hends, hheap⟩ := ends_of_converse hrun
  rw [hheap]
  exact Template.sameMapping_of_ends_run (m.evaluator.respects_guarding _ compiled address) hscope
    (capturesRespect_answering nested address) hends

theorem spares_render (depth id : Nat) (args : Entries) :
    (render (m.guarding address) depth id args).Spares address := by
  induction depth generalizing id args with
  | zero => exact .throw _
  | succ depth ih =>
      have hbind : (bindScope id args).Spares address :=
        .bind (.newScope args) fun _ => .bind (.update id _) fun _ => .pure _
      refine hbind.bind_of fun e scope e' he hscope => .bind (moves_ready ih id) fun compiled =>
        .bind (.instance id) fun i => spares_runProgram i.owner ?_ compiled
      obtain ⟨scope', e₁, hnew, hrest⟩ := on_bind_ok_iff.mp hscope
      cases hrest
      exact Spares.ne_of_on_newScope he hnew

end Action

end Stencil
