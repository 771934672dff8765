import Stencil.Eval.Dialog

/-!
# Laws of dialogs

Evaluations are a lawful monad. Going on after a result of either kind is one operation, `handle`,
in which binding, catching and cleaning up are written. Of two evaluations with a bound on their
steps, one approximates another if it says the same until it has no steps left.
-/

namespace Stencil

open Template (Failure)

variable {α β γ δ : Type}

/-! ## Going on -/

namespace Dialog

theorem andThen_assoc (d : Dialog α) (f : Except Failure α → Memory → Dialog β)
    (g : Except Failure β → Memory → Dialog γ) :
    (d.andThen f).andThen g = d.andThen fun result memory => (f result memory).andThen g := by
  induction d with
  | done result memory => rfl
  | ask request memory resume ih =>
      simp only [andThen, ih]

theorem andThen_done (d : Dialog α) : d.andThen .done = d := by
  induction d with
  | done result memory => rfl
  | ask request memory resume ih =>
      simp only [andThen, ih]

end Dialog

namespace Eval

def handle (x : Eval α) (next : α → Eval β) (failed : Failure → Eval β) : Eval β := fun memory =>
  (x memory).andThen fun result memory =>
    match result with
    | .ok a => next a memory
    | .error e => failed e memory

theorem bind_eq_handle (x : Eval α) (f : α → Eval β) : x >>= f = x.handle f fail := by
  funext memory
  change Eval.bind x f memory = x.handle f fail memory
  unfold Eval.bind handle
  cases x memory with
  | done result memory => cases result <;> rfl
  | ask request memory resume => rfl

theorem bind_apply (x : Eval α) (f : α → Eval β) (m : Memory) :
    (x >>= f) m = (x m).andThen fun result m' =>
      match result with
      | .ok a => f a m'
      | .error e => .done (.error e) m' := by
  rw [bind_eq_handle]
  rfl

theorem bind_of_apply {x : Eval α} {f : α → Eval β} {a : α} {m m' : Memory}
    (h : x m = .done (.ok a) m') : (x >>= f) m = f a m' := by
  rw [bind_apply, h]
  rfl

theorem attempt_bind (x : Eval α) (f : Except Failure α → Eval β) :
    x.attempt >>= f = x.handle (fun a => f (.ok a)) fun e => f (.error e) := by
  funext memory
  simp only [bind_eq_handle, handle, attempt, Dialog.andThen_assoc, Dialog.andThen]
  congr 1
  funext result memory
  cases result <;> rfl

theorem handle_handle (x : Eval α) (next : α → Eval β) (failed : Failure → Eval β)
    (next' : β → Eval γ) (failed' : Failure → Eval γ) :
    (x.handle next failed).handle next' failed' =
      x.handle (fun a => (next a).handle next' failed')
        fun e => (failed e).handle next' failed' := by
  funext memory
  simp only [handle, Dialog.andThen_assoc]
  congr 1
  funext result memory
  cases result <;> rfl

@[simp] theorem pure_handle (a : α) (next : α → Eval β) (failed : Failure → Eval β) :
    (pure a : Eval α).handle next failed = next a := rfl

theorem handle_pure_fail (x : Eval α) : x.handle pure fail = x := by
  funext memory
  refine Eq.trans ?_ (Dialog.andThen_done (x memory))
  unfold handle
  congr 1
  funext result memory
  cases result <;> rfl

theorem bind_handle (x : Eval α) (f : α → Eval β) (next : β → Eval γ)
    (failed : Failure → Eval γ) :
    (x >>= f).handle next failed = x.handle (fun a => (f a).handle next failed) failed := by
  rw [bind_eq_handle, handle_handle]
  rfl

instance : LawfulMonad Eval := LawfulMonad.mk' Eval
  (fun x => (bind_eq_handle x pure).trans (handle_pure_fail x))
  (fun _ _ => rfl)
  (fun x f g => by
    rw [bind_eq_handle, bind_handle, bind_eq_handle]
    congr 1
    funext a
    rw [bind_eq_handle])

end Eval

/-! ## Approximation -/

/-- The first dialog goes on like the second one, with related results, until it is out of steps. -/
inductive Dialog.Approximates (R : α → β → Prop) : Dialog α → Dialog β → Prop
  | exhausted (memory : Memory) (d : Dialog β) :
      Approximates R (.done (.error .exhausted) memory) d
  | ok {a : α} {b : β} (memory : Memory) (h : R a b) :
      Approximates R (.done (.ok a) memory) (.done (.ok b) memory)
  | error (e : Failure) (memory : Memory) :
      Approximates R (.done (.error e) memory) (.done (.error e) memory)
  | ask (request : Request) (memory : Memory)
      {resume : Except Failure Value → Heap → Dialog α}
      {resume' : Except Failure Value → Heap → Dialog β}
      (h : ∀ answer heap, Approximates R (resume answer heap) (resume' answer heap)) :
      Approximates R (.ask request memory resume) (.ask request memory resume')

/-- Two computations with a bound are the same in the limit: each goes as far as the other one, if
only its bound is high enough. -/
def Dialog.SameLimit (f g : Nat → Dialog α) : Prop :=
  (∀ n, ∃ m, (f n).Approximates Eq (g m)) ∧ ∀ n, ∃ m, (g n).Approximates Eq (f m)

namespace Dialog

theorem Approximates.refl (d : Dialog α) : d.Approximates Eq d := by
  induction d with
  | done result memory =>
      cases result with
      | ok a => exact .ok memory rfl
      | error e => exact .error e memory
  | ask request memory resume ih => exact .ask request memory ih

theorem Approximates.trans {R : α → β → Prop} {S : β → γ → Prop} {T : α → γ → Prop}
    (hT : ∀ a b c, R a b → S b c → T a c) {d : Dialog α} {d' : Dialog β} {d'' : Dialog γ}
    (h : d.Approximates R d') (h' : d'.Approximates S d'') : d.Approximates T d'' := by
  induction h generalizing d'' with
  | exhausted memory => exact .exhausted memory d''
  | ok memory hR =>
      cases h' with
      | ok _ hS => exact .ok memory (hT _ _ _ hR hS)
  | error e memory =>
      cases h' with
      | exhausted => exact .exhausted memory d''
      | error => exact .error e memory
  | ask request memory _ ih =>
      cases h' with
      | ask _ _ hrest => exact .ask request memory fun answer heap => ih answer heap (hrest _ _)

theorem Approximates.andThen {R : α → β → Prop} {S : γ → δ → Prop} {d : Dialog α}
    {d' : Dialog β} {f : Except Failure α → Memory → Dialog γ}
    {f' : Except Failure β → Memory → Dialog δ} (h : d.Approximates R d')
    (hok : ∀ a b memory, R a b → (f (.ok a) memory).Approximates S (f' (.ok b) memory))
    (herror : ∀ e memory, (f (.error e) memory).Approximates S (f' (.error e) memory))
    (hexhausted : ∀ memory d, (f (.error .exhausted) memory).Approximates S d) :
    (d.andThen f).Approximates S (d'.andThen f') := by
  induction h with
  | exhausted memory => exact hexhausted memory _
  | ok memory hR => exact hok _ _ memory hR
  | error e memory => exact herror e memory
  | ask request memory _ ih => exact .ask request memory ih

end Dialog

namespace Eval

def Approximates (R : α → β → Prop) (x : Eval α) (y : Eval β) : Prop :=
  ∀ memory, (x memory).Approximates R (y memory)

def Exhausts (x : Eval α) : Prop :=
  ∀ memory, ∃ memory', x memory = .done (.error .exhausted) memory'

theorem exhausts_exhausted : Exhausts (exhausted : Eval α) := fun memory => ⟨memory, rfl⟩

theorem Exhausts.approximates {R : α → β → Prop} {x : Eval α} (h : x.Exhausts) (y : Eval β) :
    x.Approximates R y := by
  intro memory
  obtain ⟨memory', hx⟩ := h memory
  rw [hx]
  exact .exhausted memory' _

theorem Approximates.refl (x : Eval α) : x.Approximates Eq x :=
  fun memory => .refl (x memory)

theorem Approximates.pure {R : α → β → Prop} {a : α} {b : β} (h : R a b) :
    (Pure.pure a : Eval α).Approximates R (Pure.pure b : Eval β) :=
  fun memory => .ok memory h

theorem Approximates.fail {R : α → β → Prop} (e : Failure) :
    (Eval.fail e : Eval α).Approximates R (Eval.fail e : Eval β) :=
  fun memory => .error e memory

theorem Approximates.trans {x y z : Eval α} (h : x.Approximates Eq y)
    (h' : y.Approximates Eq z) : x.Approximates Eq z :=
  fun memory => Dialog.Approximates.trans (S := Eq) (fun _ _ _ => Eq.trans) (h memory) (h' memory)

theorem Approximates.handle {R : α → β → Prop} {S : γ → δ → Prop} {x : Eval α} {y : Eval β}
    {next : α → Eval γ} {next' : β → Eval δ} {failed : Failure → Eval γ}
    {failed' : Failure → Eval δ} (h : x.Approximates R y)
    (hnext : ∀ a b, R a b → (next a).Approximates S (next' b))
    (hfailed : ∀ e, (failed e).Approximates S (failed' e))
    (hexhausts : (failed .exhausted).Exhausts) :
    (x.handle next failed).Approximates S (y.handle next' failed') :=
  fun memory => (h memory).andThen (fun a b memory hR => hnext a b hR memory)
    (fun e memory => hfailed e memory) fun memory d => by
      obtain ⟨memory', hm⟩ := hexhausts memory
      simp only [hm]
      exact .exhausted memory' d

theorem Approximates.bind {R : α → β → Prop} {S : γ → δ → Prop} {x : Eval α} {y : Eval β}
    {f : α → Eval γ} {g : β → Eval δ} (h : x.Approximates R y)
    (hf : ∀ a b, R a b → (f a).Approximates S (g b)) :
    (x >>= f).Approximates S (y >>= g) := by
  rw [bind_eq_handle, bind_eq_handle]
  exact h.handle hf Approximates.fail exhausts_exhausted

theorem Approximates.bind_of_eq {S : γ → δ → Prop} (x : Eval α) {f : α → Eval γ} {g : α → Eval δ}
    (h : ∀ a, (f a).Approximates S (g a)) : (x >>= f).Approximates S (x >>= g) :=
  (Approximates.refl x).bind fun a _ heq => heq ▸ h a

theorem Approximates.bind_right {x y : Eval α} (h : x.Approximates Eq y) (f : α → Eval β) :
    (x >>= f).Approximates Eq (y >>= f) :=
  h.bind fun a _ heq => heq ▸ .refl (f a)

end Eval

end Stencil
