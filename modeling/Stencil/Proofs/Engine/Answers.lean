import Stencil.Engine.Render
import Stencil.Proofs.Eval.Ends

/-!
# Answers of engines

The ways in which an engine answers an evaluation. Capturing a value and referring to it leave all
mappings alone.
-/

namespace Stencil

open Template (Failure)

namespace Action

variable {α : Type} {nested : Nested}

/-- What an engine with a heap can answer, and the heap that it has then. -/
def Answering (nested : Nested) : Answers := fun request heap result heap' =>
  ∃ e e' : Engine,
    e.heap = heap ∧ (ExceptT.run (answer nested request)).run e = (result, e') ∧ e'.heap = heap'

theorem ends_of_converse {d : Dialog α} {e e' : Engine} {result : Except Failure α}
    (h : (ExceptT.run (converse (answer nested) d)).run e = (result, e')) :
    ∃ m, d.Ends (Answering nested) result m ∧ e'.heap = m.heap := by
  induction d generalizing e with
  | done result₁ m =>
      cases h
      exact ⟨m, .done _ _, rfl⟩
  | ask request m resume ih =>
      obtain ⟨m', hends, hheap⟩ := ih _ _ h
      exact ⟨m', .ask ⟨_, _, rfl, rfl, rfl⟩ hends, hheap⟩

def KeepsMappings (x : Action α) : Prop :=
  ∀ e, ((ExceptT.run x).run e).2.heap.mappings = e.heap.mappings

namespace KeepsMappings

protected theorem pure (a : α) : (pure a : Action α).KeepsMappings := fun _ => rfl

protected theorem fault (f : Fault) : (fault f : Action α).KeepsMappings := fun _ => rfl

protected theorem get : (get : Action Engine).KeepsMappings := fun _ => rfl

protected theorem newText (t : Text) : (newText t).KeepsMappings := fun _ => rfl

protected theorem newInt (n : Int) : (newInt n).KeepsMappings := fun _ => rfl

protected theorem update (id : Nat) (f : Instance → Instance) : (update id f).KeepsMappings :=
  fun _ => rfl

protected theorem bind {β : Type} {x : Action α} {f : α → Action β} (hx : x.KeepsMappings)
    (hf : ∀ a, (f a).KeepsMappings) : (x >>= f).KeepsMappings := by
  intro e
  have hfirst := hx e
  change (StateT.run (ExceptT.run x >>= ExceptT.bindCont f) e).2.heap.mappings = _
  rw [StateT.run_bind]
  cases hrun : (ExceptT.run x).run e with
  | mk result e₁ =>
      rw [hrun] at hfirst
      cases result with
      | ok a => exact (hf a e₁).trans hfirst
      | error failure => exact hfirst

protected theorem ofExcept (r : Except Fault α) : (ofExcept r).KeepsMappings := by
  cases r with
  | ok a => exact .pure a
  | error f => exact .fault f

protected theorem «instance» (id : Nat) : («instance» id).KeepsMappings := by
  refine .bind .get fun e => ?_
  cases e.instance? id with
  | some i => exact .pure i
  | none => exact .fault _

protected theorem capture (id : Nat) (v : Value) : (capture id v).KeepsMappings := by
  refine .bind (.instance id) fun i => ?_
  cases i.captured.findIdx? (·.same v) with
  | some index => exact .pure index
  | none => exact .bind (.update id _) fun _ => .pure _

protected theorem referenceText (id : Nat) (index : Int) :
    (referenceText id index).KeepsMappings :=
  .bind .get fun _ => .ofExcept _

end KeepsMappings

theorem answering_capture {id : Nat} {v : Value} {heap heap' : Heap}
    {result : Except Failure Value} (h : Answering nested (.capture id v) heap result heap') :
    heap'.mappings = heap.mappings := by
  obtain ⟨e, e', rfl, hrun, rfl⟩ := h
  have hkept : (answer nested (.capture id v)).KeepsMappings :=
    .bind (.capture id v) fun index => .newInt index
  simpa only [hrun] using hkept e

theorem answering_reference {id : Nat} {index : Int} {heap heap' : Heap}
    {result : Except Failure Value} (h : Answering nested (.reference id index) heap result heap') :
    heap'.mappings = heap.mappings := by
  obtain ⟨e, e', rfl, hrun, rfl⟩ := h
  have hkept : (answer nested (.reference id index)).KeepsMappings :=
    .bind (.referenceText id index) fun t => .newText t
  simpa only [hrun] using hkept e

end Action

end Stencil
