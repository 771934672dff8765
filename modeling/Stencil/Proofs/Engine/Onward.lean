import Stencil.Proofs.Engine.Answers
import Stencil.Proofs.Engine.Moving
import Stencil.Proofs.Template.Advancing

/-!
# Engines go onward

Whatever an engine is asked for while a program runs, no iterator that goes through a collection is
set back by it: the templates that it renders for that run programs in the same way.
-/

namespace Stencil

open Template (Compiled)

instance Heap.lenient_onward {P : Nat → Prop} : Heap.Lenient (Heap.Onward P) where
  refl := .refl
  trans := .trans
  newSerial _ := .of_iterations rfl
  newMapping _ _ := .of_iterations rfl

namespace Action

variable {fuel steps : Nat} {nested : Nested} {P : Nat → Prop}

theorem onward_answering (hn : ∀ id args, (nested id args).Moves (Heap.Onward fun _ => True)) :
    (Answering nested).Onward where
  answers request h := ⟨_, _, { heap := h }, _, rfl, rfl, rfl⟩
  onward := by
    rintro request _ result _ ⟨e, e', rfl, hrun, rfl⟩
    have hmoves := moves_answer hn request e
    rwa [on, hrun] at hmoves

theorem moves_runProgram (hn : ∀ id args, (nested id args).Moves (Heap.Onward fun _ => True))
    (owner scope : Nat) (compiled : Compiled) :
    (runProgram ⟨.standard fuel, steps⟩ nested owner scope compiled).Moves (Heap.Onward P) := by
  refine .bind (.instance owner) fun host e => ?_
  rw [on_bind_of_ok (on_get e)]
  generalize hrun : (converse (answer nested) (Template.run (.standard fuel) steps e.globals
    ⟨.template owner host.name, scope⟩ compiled e.heap)).on e = outcome
  obtain ⟨memory, hends, hheap⟩ := ends_of_converse hrun
  rw [hheap]
  exact Template.onward_of_run (onward_answering hn) hends

theorem moves_render (depth id : Nat) (args : Entries) :
    (render ⟨.standard fuel, steps⟩ depth id args).Moves (Heap.Onward fun _ => True) := by
  induction depth generalizing id args with
  | zero => exact .throw _
  | succ depth ih =>
      exact .bind (.bindScope id args) fun scope => .bind (moves_ready ih id) fun compiled =>
        .bind (.instance id) fun i => moves_runProgram ih i.owner scope compiled

theorem onward_answering_render (fuel steps depth : Nat) :
    (Answering (render ⟨.standard fuel, steps⟩ depth)).Onward :=
  onward_answering fun id args => moves_render depth id args

end Action

end Stencil
