import Stencil.Proofs.Engine.Work
import Stencil.Proofs.Eval.Dialog

/-!
# Dialogs with engines

A dialog with an engine as a function of the engine, together with the memory that the evaluation
has at its end.
-/

namespace Stencil

open Template (Failure)

variable {α β : Type} {answer : Request → Action Value}

/-- What an evaluation has come to: its memory, and the engine without what is in the memory. -/
structure Moment where
  memory : Memory
  engine : Engine

def Moment.full (t : Moment) : Engine := { t.engine with heap := t.memory.heap }

/-- What a dialog with an engine gives, and what it has come to then. -/
def Dialog.play (answer : Request → Action Value) : Dialog α → Engine → Except Failure α × Moment
  | .done result memory, e => (result, ⟨memory, e⟩)
  | .ask request memory resume, e =>
    let (result, e) := (answer request).on { e with heap := memory.heap }
    (resume result e.heap).play answer e

theorem Dialog.play_andThen (d : Dialog α) (f : Except Failure α → Memory → Dialog β) (e : Engine) :
    (d.andThen f).play answer e =
      let (result, t) := d.play answer e
      (f result t.memory).play answer t.engine := by
  induction d generalizing e with
  | done result memory => rfl
  | ask request memory resume ih => exact ih _ _ _

theorem Action.on_converse (d : Dialog α) (e : Engine) :
    (converse answer d).on e = ((d.play answer e).1, (d.play answer e).2.full) := by
  induction d generalizing e with
  | done result memory => rfl
  | ask request memory resume ih => exact ih _ _ _

namespace Eval

def play (answer : Request → Action Value) (x : Eval α) (t : Moment) : Except Failure α × Moment :=
  (x t.memory).play answer t.engine

theorem play_ask (request : Request) (t : Moment) :
    (ask request).play answer t =
      let (result, e) := (answer request).on t.full
      (result, ⟨{ t.memory with heap := e.heap }, e⟩) := rfl

theorem play_ask_of_on {request : Request} {t : Moment} {result : Except Failure Value} {e : Engine}
    (h : (answer request).on t.full = (result, e)) :
    (ask request).play answer t = (result, ⟨{ t.memory with heap := e.heap }, e⟩) := by
  rw [play_ask, h]

theorem play_handle (x : Eval α) (next : α → Eval β) (failed : Failure → Eval β) (t : Moment) :
    (x.handle next failed).play answer t =
      match x.play answer t with
      | (.ok a, t') => (next a).play answer t'
      | (.error e, t') => (failed e).play answer t' := by
  unfold play handle
  rw [Dialog.play_andThen]
  cases (x t.memory).play answer t.engine with
  | mk result t' => cases result <;> rfl

theorem play_bind (x : Eval α) (f : α → Eval β) (t : Moment) :
    (x >>= f).play answer t =
      match x.play answer t with
      | (.ok a, t') => (f a).play answer t'
      | (.error e, t') => (.error e, t') := by
  rw [bind_eq_handle, play_handle]
  rfl

theorem play_bind_ok_iff {x : Eval α} {f : α → Eval β} {t t' : Moment} {b : β} :
    (x >>= f).play answer t = (.ok b, t') ↔
      ∃ a t₁, x.play answer t = (.ok a, t₁) ∧ (f a).play answer t₁ = (.ok b, t') := by
  rw [play_bind]
  cases hx : x.play answer t with
  | mk result t₁ =>
      cases result with
      | error e => simp
      | ok a =>
          refine ⟨fun h => ⟨a, t₁, rfl, h⟩, ?_⟩
          rintro ⟨_, _, hfirst, h⟩
          cases hfirst
          exact h

end Eval

variable {m : Machine}

theorem Dialog.work_play (hanswer : ∀ request, (answer request).Works m none) (d : Dialog α)
    {e : Engine} (he : e.Sound) : e.Work m none (d.play answer e).2.engine := by
  induction d generalizing e with
  | done result memory => exact .refl he
  | ask request memory resume ih =>
      have halike := e.alike_heap memory.heap
      have hfirst := hanswer request _ (he.of_alike halike)
      exact (Engine.Work.of_alike he halike).trans (hfirst.trans (ih _ _ hfirst.sound))

end Stencil
