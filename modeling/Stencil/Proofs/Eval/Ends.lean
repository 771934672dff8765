import Stencil.Proofs.Eval.Dialog

/-!
# Ends of evaluations

What an evaluation can end with, if what it asks for is answered in given ways.
-/

namespace Stencil

open Template (Failure)

/-- Ways to answer: what a request can give and what it can make of a heap. -/
abbrev Answers := Request → Heap → Except Failure Value → Heap → Prop

variable {α β γ : Type} {W : Answers}

inductive Dialog.Ends (W : Answers) : Dialog α → Except Failure α → Memory → Prop
  | done (result : Except Failure α) (memory : Memory) : Ends W (.done result memory) result memory
  | ask {request : Request} {memory memory' : Memory} {answer : Except Failure Value} {heap : Heap}
      {resume : Except Failure Value → Heap → Dialog α} {result : Except Failure α}
      (hanswer : W request memory.heap answer heap)
      (h : Ends W (resume answer heap) result memory') :
      Ends W (.ask request memory resume) result memory'

namespace Dialog

@[simp] theorem ends_done_iff {result result' : Except Failure α} {m m' : Memory} :
    Ends W (.done result m) result' m' ↔ result' = result ∧ m' = m := by
  constructor
  · intro h
    cases h
    exact ⟨rfl, rfl⟩
  · rintro ⟨rfl, rfl⟩
    exact .done _ _

theorem ends_andThen_iff {d : Dialog α} {f : Except Failure α → Memory → Dialog β}
    {result : Except Failure β} {m' : Memory} :
    (d.andThen f).Ends W result m' ↔
      ∃ first m, d.Ends W first m ∧ (f first m).Ends W result m' := by
  constructor
  · intro h
    induction d with
    | done first m => exact ⟨first, m, .done first m, h⟩
    | ask request memory resume ih =>
        cases h with
        | ask hanswer h =>
            obtain ⟨first, m, hfirst, hrest⟩ := ih _ _ h
            exact ⟨first, m, .ask hanswer hfirst, hrest⟩
  · rintro ⟨first, m, hfirst, hrest⟩
    induction hfirst with
    | done => exact hrest
    | ask hanswer _ ih => exact .ask hanswer (ih hrest)

def gives [DecidableEq α] (a : α) : Dialog α → Bool
  | .done (.ok given) _ => given = a
  | _ => false

theorem ends_of_gives [DecidableEq α] {d : Dialog α} {a : α} (h : d.gives a = true) :
    ∃ m, d.Ends W (.ok a) m := by
  cases d with
  | ask request m resume => cases h
  | done result m =>
      cases result with
      | error e => cases h
      | ok given =>
          obtain rfl : given = a := of_decide_eq_true h
          exact ⟨m, .done _ _⟩

end Dialog

namespace Eval

def Ends (W : Answers) (x : Eval α) (m : Memory) (result : Except Failure α) (m' : Memory) : Prop :=
  (x m).Ends W result m'

variable {m m' : Memory} {e : Failure}

@[simp] theorem ends_pure_iff {a : α} {result : Except Failure α} :
    (pure a : Eval α).Ends W m result m' ↔ result = .ok a ∧ m' = m :=
  Dialog.ends_done_iff

@[simp] theorem ends_fail_iff {result : Except Failure α} :
    (fail e : Eval α).Ends W m result m' ↔ result = .error e ∧ m' = m :=
  Dialog.ends_done_iff

theorem ends_handle_iff {x : Eval α} {next : α → Eval β} {failed : Failure → Eval β}
    {result : Except Failure β} :
    (x.handle next failed).Ends W m result m' ↔
      (∃ a m₁, x.Ends W m (.ok a) m₁ ∧ (next a).Ends W m₁ result m') ∨
        ∃ e m₁, x.Ends W m (.error e) m₁ ∧ (failed e).Ends W m₁ result m' := by
  simp only [Ends, handle, Dialog.ends_andThen_iff]
  constructor
  · rintro ⟨first | a, m₁, hfirst, hrest⟩
    · exact .inr ⟨first, m₁, hfirst, hrest⟩
    · exact .inl ⟨a, m₁, hfirst, hrest⟩
  · rintro (⟨a, m₁, hfirst, hrest⟩ | ⟨e, m₁, hfirst, hrest⟩)
    · exact ⟨_, m₁, hfirst, hrest⟩
    · exact ⟨_, m₁, hfirst, hrest⟩

theorem ends_bind_iff {x : Eval α} {f : α → Eval β} {result : Except Failure β} :
    (x >>= f).Ends W m result m' ↔
      (∃ a m₁, x.Ends W m (.ok a) m₁ ∧ (f a).Ends W m₁ result m') ∨
        ∃ e, result = .error e ∧ x.Ends W m (.error e) m' := by
  rw [bind_eq_handle, ends_handle_iff]
  refine or_congr_right ⟨?_, ?_⟩
  · rintro ⟨e, m₁, hfirst, hrest⟩
    obtain ⟨rfl, rfl⟩ := ends_fail_iff.mp hrest
    exact ⟨e, rfl, hfirst⟩
  · rintro ⟨e, rfl, hfirst⟩
    exact ⟨e, m', hfirst, ends_fail_iff.mpr ⟨rfl, rfl⟩⟩

theorem ends_bind_ok_iff {x : Eval α} {f : α → Eval β} {b : β} :
    (x >>= f).Ends W m (.ok b) m' ↔
      ∃ a m₁, x.Ends W m (.ok a) m₁ ∧ (f a).Ends W m₁ (.ok b) m' := by
  simp [ends_bind_iff]

theorem Ends.bind {x : Eval α} {f : α → Eval β} {a : α} {m₁ : Memory} {result : Except Failure β}
    (h : x.Ends W m (.ok a) m₁) (hrest : (f a).Ends W m₁ result m') :
    (x >>= f).Ends W m result m' :=
  ends_bind_iff.mpr (.inl ⟨a, m₁, h, hrest⟩)

theorem Ends.bind_error {x : Eval α} (h : x.Ends W m (.error e) m') (f : α → Eval β) :
    (x >>= f).Ends W m (.error e) m' :=
  ends_bind_iff.mpr (.inr ⟨e, rfl, h⟩)

theorem ends_bind_of_apply {x : Eval α} {f : α → Eval β} {a : α} {m₁ : Memory}
    {result : Except Failure β} (h : x m = .done (.ok a) m₁) :
    (x >>= f).Ends W m result m' ↔ (f a).Ends W m₁ result m' := by
  rw [Ends, bind_of_apply h, Ends]

end Eval

end Stencil
