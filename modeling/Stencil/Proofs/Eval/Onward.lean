import Stencil.Proofs.Eval.Composed.Evaluate
import Stencil.Proofs.Eval.Ends

/-!
# Ends of evaluations that go onward

If no answer sets back an iterator that goes through a collection, no evaluation does. If all
requests are answered, every evaluation ends.
-/

namespace Stencil

variable {α : Type} {W : Answers} {P : Nat → Prop}

/-- All requests are answered, and no answer sets back an iterator that goes through a
collection. -/
structure Answers.Onward (W : Answers) : Prop where
  answers : ∀ request h, ∃ answer h', W request h answer h'
  onward : ∀ {request h answer h'}, W request h answer h' → h.Onward (fun _ => True) h'

namespace Dialog

theorem exists_ends (hW : W.Onward) (d : Dialog α) : ∃ result m', d.Ends W result m' := by
  induction d with
  | done result m => exact ⟨result, m, .done result m⟩
  | ask request m resume ih =>
      obtain ⟨answer, h', hanswer⟩ := hW.answers request m.heap
      obtain ⟨result, m', hends⟩ := ih answer h'
      exact ⟨result, m', .ask hanswer hends⟩

theorem Goes.onward {h : Heap} {d : Dialog α} {result : Except Template.Failure α} {m' : Memory}
    (hd : d.Goes P h) (hW : W.Onward) (hends : d.Ends W result m') : h.Onward P m'.heap := by
  induction hd with
  | ok _ honward | fault _ honward | escape _ honward | exhausted honward =>
      obtain ⟨-, rfl⟩ := ends_done_iff.mp hends
      exact honward
  | @ask h request m resume honward hok herror ih =>
      cases hends with
      | @ask _ _ _ answer h₁ _ _ hanswer hends =>
          have hanswered : m.heap.Onward P h₁ := (hW.onward hanswer).mono fun _ _ => trivial
          refine honward.trans (hanswered.trans ?_)
          cases answer with
          | ok v => exact ih v h₁ hanswered hends
          | error e =>
              obtain ⟨m₁, hfails, hheap⟩ := herror e h₁
              rw [hfails] at hends
              obtain ⟨-, rfl⟩ := ends_done_iff.mp hends
              exact hheap.symm ▸ .refl h₁

end Dialog

namespace Eval

variable {x : Eval α} {m m' : Memory} {result : Except Template.Failure α}

theorem exists_ends (hW : W.Onward) (x : Eval α) (m : Memory) :
    ∃ result m', x.Ends W m result m' :=
  Dialog.exists_ends hW (x m)

theorem Composed.onward (hx : x.Composed P) (hW : W.Onward) (hplain : m.heap.Plain P)
    (hends : x.Ends W m result m') : m.heap.Onward P m'.heap :=
  (hx.goes m hplain).onward hW hends

theorem onward_of_composed (hx : ∀ P, x.Composed P) (hW : W.Onward)
    (hends : x.Ends W m result m') : m.heap.Onward P m'.heap :=
  .of_plain fun a _ hplain => (hx (· = a)).onward hW hplain hends

end Eval

end Stencil
