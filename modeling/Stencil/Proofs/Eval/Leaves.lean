import Stencil.Eval.Iterate
import Stencil.Proofs.Eval.Ends

/-!
# Evaluations that leave a mapping alone

However an evaluation ends, a mapping is what it was at its start.
-/

namespace Stencil

open Template (Failure)

def SameMapping (address : Nat) (m m' : Memory) : Prop :=
  m'.heap.mappings[address]? = m.heap.mappings[address]?

theorem SameMapping.trans {address : Nat} {m m₁ m' : Memory} (h : SameMapping address m m₁)
    (h' : SameMapping address m₁ m') : SameMapping address m m' :=
  Eq.trans h' h

/-- However the evaluation ends, it leaves the mapping with an address as it was. -/
def Eval.Leaves {α : Type} (W : Answers) (address : Nat) (x : Eval α) : Prop :=
  ∀ m result m', x.Ends W m result m' → SameMapping address m m'

namespace Eval.Leaves

variable {α β : Type} {W : Answers} {address : Nat}

theorem of_apply {x : Eval α}
    (h : ∀ m, ∃ result m', x m = .done result m' ∧ SameMapping address m m') :
    x.Leaves W address := by
  intro m result m' hends
  obtain ⟨result₁, m₁, hx, hsame⟩ := h m
  rw [Ends, hx] at hends
  obtain ⟨-, rfl⟩ := Dialog.ends_done_iff.mp hends
  exact hsame

theorem pure (a : α) : (Pure.pure a : Eval α).Leaves W address :=
  of_apply fun m => ⟨_, m, rfl, rfl⟩

theorem fail (e : Failure) : (Eval.fail e : Eval α).Leaves W address :=
  of_apply fun m => ⟨_, m, rfl, rfl⟩

theorem bind_of {x : Eval α} {f : α → Eval β} (hx : x.Leaves W address)
    (hf : ∀ a m m', x.Ends W m (.ok a) m' → (f a).Leaves W address) :
    (x >>= f).Leaves W address := by
  intro m result m' hends
  rcases ends_bind_iff.mp hends with ⟨a, m₁, hfirst, hrest⟩ | ⟨e, -, hfirst⟩
  · exact (hx _ _ _ hfirst).trans (hf a m m₁ hfirst _ _ _ hrest)
  · exact hx _ _ _ hfirst

theorem bind {x : Eval α} {f : α → Eval β} (hx : x.Leaves W address)
    (hf : ∀ a, (f a).Leaves W address) : (x >>= f).Leaves W address :=
  bind_of hx fun a _ _ _ => hf a

theorem change {f : Heap → α × Heap} (h : ∀ heap, (f heap).2.mappings = heap.mappings) :
    (Eval.change f).Leaves W address :=
  of_apply fun m => ⟨_, _, rfl, by simp only [SameMapping, h]⟩

theorem ask {request : Request}
    (h : ∀ {heap answer heap'}, W request heap answer heap' →
      heap'.mappings[address]? = heap.mappings[address]?) :
    (Eval.ask request).Leaves W address := by
  intro m result m' hends
  cases hends with
  | ask hanswer hrest =>
      obtain ⟨-, rfl⟩ := Dialog.ends_done_iff.mp hrest
      exact h hanswer

theorem ofExcept (result : Except Fault α) : (Eval.ofExcept result).Leaves W address := by
  cases result with
  | ok a => exact pure a
  | error f => exact fail _

variable (W address)

theorem heap : Eval.heap.Leaves W address := of_apply fun m => ⟨_, m, rfl, rfl⟩

theorem names : Eval.names.Leaves W address := of_apply fun m => ⟨_, m, rfl, rfl⟩

theorem putName (n : Text) (v : Value) : (Eval.putName n v).Leaves W address :=
  of_apply fun _ => ⟨_, _, rfl, rfl⟩

theorem look (f : Heap → Value → α) (v : Value) : (Eval.look f v).Leaves W address := by
  unfold Eval.look
  split
  · exact fail _
  · exact (heap W address).bind fun _ => pure _

theorem datum (v : Value) : (Eval.datum v).Leaves W address := look W address _ v

theorem write (form : Datum → Text) (v : Value) : (Eval.write form v).Leaves W address :=
  (datum W address v).bind fun d => ofExcept (d.write form)

theorem truth (v : Value) : (Eval.truth v).Leaves W address := look W address _ v

theorem typeName (v : Value) : (Eval.typeName v).Leaves W address := look W address _ v

theorem newIterator (i : Iteration) : (Eval.newIterator i).Leaves W address :=
  change fun _ => rfl

theorem newText (t : Text) : (Eval.newText t).Leaves W address := by
  unfold Eval.newText
  split
  · exact pure _
  · have hserial : Eval.serial.Leaves W address := change fun _ => rfl
    exact hserial.bind fun _ => pure _

theorem characters (t : Text) : (Eval.characters t).Leaves W address := by
  induction t with
  | nil => exact pure _
  | cons c rest ih => exact (newText W address [c]).bind fun _ => ih.bind fun _ => pure _

theorem iterator? (v : Value) : (Eval.iterator? v).Leaves W address := by
  have hnew (i : Iteration) :
      (do return some (← Eval.newIterator i) : Eval (Option Nat)).Leaves W address :=
    (newIterator W address i).bind fun _ => pure _
  cases v with
  | str t id => exact (characters W address t).bind fun _ => hnew _
  | mapping a => exact (heap W address).bind fun _ => hnew _
  | view kind a serial => exact (heap W address).bind fun _ => hnew _
  | set a => exact (heap W address).bind fun _ => hnew _
  | list | tuple | range => exact hnew _
  | _ => exact pure _

theorem iterator (v : Value) : (Eval.iterator v).Leaves W address := by
  refine (iterator? W address v).bind fun found => ?_
  cases found with
  | some a => exact pure _
  | none => exact (typeName W address v).bind fun _ => fail _

end Eval.Leaves

end Stencil
