import Stencil.Proofs.Eval.Onward
import Stencil.Proofs.Template.Control

/-!
# Loops over collections

A loop over a collection has a known number of items left. No step gives it more, as long as nobody
makes the list longer that it goes through, and each further turn takes one of them.
-/

namespace Stencil

/-- The value is no iterator, or one that goes through a collection. -/
def Heap.HasItems (h : Heap) (v : Value) : Prop :=
  ∀ a, v = .iterator a → ∃ n, h.remaining? a = some n

/-- Iterators that go onward have no more left if their lists have not become longer. -/
theorem Heap.Onward.remaining? {h h' : Heap} {a n : Nat} (honward : h.Onward (· = a) h')
    (hlist : ∀ l i, h.iteration a = .list l i → (h'.list l).size ≤ (h.list l).size)
    (hn : h.remaining? a = some n) : ∃ n' ≤ n, h'.remaining? a = some n' := by
  obtain ⟨hget, hleft⟩ := iteration_of_left? hn
  have hnow : ∃ k ≤ n, h.left? (fun l => (h'.list l).size) a = some k := by
    simp only [left?, hget, Option.bind_some]
    cases hi : h.iteration a with
    | list l i =>
        rw [hi] at hleft
        cases hleft
        exact ⟨_, Nat.sub_le_sub_right (hlist l i hi) i, rfl⟩
    | _ =>
        rw [hi] at hleft
        exact ⟨n, Nat.le_refl n, hleft⟩
  obtain ⟨k, hle, hk⟩ := hnow
  obtain ⟨n', hle', hn'⟩ := honward a rfl _ k hk
  exact ⟨n', Nat.le_trans hle' hle, hn'⟩

namespace Eval

variable {W : Answers} {m m' : Memory} {a : Nat}

/-! ## New iterators -/

theorem plain_of_newIterator {i : Iteration} (hi : ∀ lengths, ∃ n, i.left? lengths = some n)
    (h : (newIterator i).Ends W m (.ok a) m') : m'.heap.Plain (· = a) := by
  obtain ⟨ha, rfl⟩ := Dialog.ends_done_iff.mp h
  obtain rfl : a = m.heap.iterations.size := Except.ok.inj ha
  rintro _ rfl lengths
  obtain ⟨n, hn⟩ := hi lengths
  have hget : (m.heap.iterations.push i)[m.heap.iterations.size]? = some i :=
    Array.getElem?_push_size
  exact ⟨n, (congrArg (Option.bind · _) hget).trans hn⟩

theorem plain_of_iterator {v : Value} (hv : m.heap.HasItems v)
    (h : (iterator v).Ends W m (.ok a) m') : m'.heap.Plain (· = a) := by
  obtain ⟨found, m₁, hfound, hrest⟩ := ends_bind_ok_iff.mp h
  cases found with
  | none =>
      obtain ⟨type, m₂, -, hfault⟩ := ends_bind_ok_iff.mp hrest
      cases (ends_fail_iff.mp hfault).1
  | some b =>
      obtain ⟨ha, rfl⟩ := ends_pure_iff.mp hrest
      cases ha
      cases v with
      | iterator b =>
          obtain ⟨hb, rfl⟩ := ends_pure_iff.mp hfound
          cases hb
          obtain ⟨n, hn⟩ := hv a rfl
          exact Heap.plain_singleton hn
      | list | tuple | range =>
          obtain ⟨b, m₂, hnew, hpure⟩ := ends_bind_ok_iff.mp hfound
          obtain ⟨hb, rfl⟩ := ends_pure_iff.mp hpure
          cases hb
          exact plain_of_newIterator (fun _ => ⟨_, rfl⟩) hnew
      | str | mapping | view | set =>
          obtain ⟨_, m₂, -, hmore⟩ := ends_bind_ok_iff.mp hfound
          obtain ⟨b, m₃, hnew, hpure⟩ := ends_bind_ok_iff.mp hmore
          obtain ⟨hb, rfl⟩ := ends_pure_iff.mp hpure
          cases hb
          exact plain_of_newIterator (fun _ => ⟨_, rfl⟩) hnew
      | _ => cases (ends_pure_iff.mp hfound).1

end Eval

namespace Template

variable {W : Answers} {P : Nat → Prop} {fuel : Nat} {s : Setting} {p : Compiled} {c : Config}
  {m m' : Memory}

theorem plain_of_iterate {mode : IterMode} {v : Value} {a : Nat} (hv : m.heap.HasItems v)
    (h : (iterate mode v).Ends W m (.ok a) m') : m'.heap.Plain (· = a) := by
  obtain ⟨h₀, m₁, hheap, hrest⟩ := Eval.ends_bind_ok_iff.mp h
  obtain ⟨-, rfl⟩ := Dialog.ends_done_iff.mp hheap
  dsimp only at hrest
  split at hrest
  case h_8 => exact Eval.plain_of_iterator hv hrest
  all_goals exact Eval.plain_of_newIterator (fun _ => ⟨_, rfl⟩) hrest

/-! ## Open loops -/

/-- Nobody has made a list longer that the iterator of an open loop goes through. -/
def Config.KeepsLists (c : Config) (h h' : Heap) : Prop :=
  ∀ frame ∈ c.loops, ∀ a l i, frame.iterator = some a → h.iteration a = .list l i →
    (h'.list l).size ≤ (h.list l).size

/-- The iterators of loops have no more left than before. -/
def Advanced (loops : List LoopFrame) (h h' : Heap) : Prop :=
  ∀ frame ∈ loops, ∀ a n, frame.iterator = some a → h.remaining? a = some n →
    ∃ n' ≤ n, h'.remaining? a = some n'

theorem Advanced.refl (loops : List LoopFrame) (h : Heap) : Advanced loops h h :=
  fun _ _ _ n _ hn => ⟨n, Nat.le_refl n, hn⟩

theorem Advanced.trans {loops : List LoopFrame} {h h₁ h' : Heap} (hfirst : Advanced loops h h₁)
    (hrest : Advanced loops h₁ h') : Advanced loops h h' := by
  intro frame hframe a n ha hn
  obtain ⟨k, hle, hk⟩ := hfirst frame hframe a n ha hn
  obtain ⟨n', hle', hn'⟩ := hrest frame hframe a k ha hk
  exact ⟨n', Nat.le_trans hle' hle, hn'⟩

theorem Advanced.tail {frame : LoopFrame} {loops : List LoopFrame} {h h' : Heap}
    (hall : Advanced (frame :: loops) h h') : Advanced loops h h' :=
  fun other hother => hall other (List.mem_cons_of_mem _ hother)

theorem onward_of_step (hW : W.Onward) {result : Except Failure Config}
    (h : (step (.standard fuel) s p c).Ends W m result m') : m.heap.Onward P m'.heap :=
  Eval.onward_of_composed (fun _ => composed_step (Evaluator.composed_standard fuel) s p c) hW h

theorem advanced_of_step (hW : W.Onward) (hlists : c.KeepsLists m.heap m'.heap)
    {result : Except Failure Config} (h : (step (.standard fuel) s p c).Ends W m result m') :
    Advanced c.loops m.heap m'.heap :=
  fun frame hframe a _ ha hn =>
    (onward_of_step hW h).remaining? (fun l i => hlists frame hframe a l i ha) hn

theorem valueCode_eq_ok {pc : Nat} {code : Code} (h : (valueCode p pc).Ends W m (.ok code) m') :
    p.codes.lookup pc = some (.value code) ∧ m' = m := by
  unfold valueCode at h
  split at h
  · next found hfound =>
      obtain ⟨hcode, rfl⟩ := Eval.ends_pure_iff.mp h
      cases hcode
      exact ⟨hfound, rfl⟩
  · cases (Eval.ends_fail_iff.mp h).1

theorem plain_of_enterLoop (hW : W.Onward) {pc : Nat} {name iterable : Text} {mode : IterMode}
    {frame : LoopFrame} {proceed : Bool}
    (hitems : ∀ code v m₁, p.codes.lookup pc = some (.value code) →
      ((Evaluator.standard fuel).value code).Ends W m (.ok v) m₁ → m₁.heap.HasItems v)
    (h : (enterLoop (.standard fuel) s p pc name (.each mode iterable)).Ends W m
      (.ok (frame, proceed)) m') :
    ∃ a, frame.iterator = some a ∧ m'.heap.Plain (· = a) := by
  rw [enterLoop, Eval.ends_bind_of_apply (saveFrame_apply s name m)] at h
  simp only [startTurns, Eval.ends_bind_ok_iff, Eval.ends_pure_iff] at h
  obtain ⟨⟨_, go⟩, m₁, ⟨code, m₂, hcode, v, m₃, hvalue, a, m₄, hiterate, _, m₅, hadvance,
    hframe, rfl⟩, _, m₆, hpublish, hresult, rfl⟩ := h
  cases hframe
  cases hresult
  obtain ⟨hlookup, rfl⟩ := valueCode_eq_ok hcode
  have hplain := plain_of_iterate (hitems code v m₃ hlookup hvalue) hiterate
  have hcomposed := composed_advance (P := (· = a)) (Evaluator.composed_standard fuel) name a
  have hplain' := (hcomposed.onward hW hplain hadvance).plain hplain
  refine ⟨a, rfl, ?_⟩
  have hpublished : (publishIf s name go).Composed (· = a) := by
    cases go with
    | true => exact composed_publish s name
    | false => exact Eval.composed_pure ()
  exact (hpublished.onward hW hplain' hpublish).plain hplain'

theorem remaining?_of_publish {name : Text} {a : Nat}
    (h : (publish s name).Ends W m (.ok ()) m') : m'.heap.remaining? a = m.heap.remaining? a := by
  obtain ⟨names, m₁, hnames, hrest⟩ := Eval.ends_bind_ok_iff.mp h
  obtain ⟨-, rfl⟩ := Dialog.ends_done_iff.mp hnames
  split at hrest
  · obtain ⟨-, rfl⟩ := Dialog.ends_done_iff.mp hrest
    rfl
  · cases (Eval.ends_fail_iff.mp hrest).1

theorem remaining?_of_nextTurn {pc a n : Nat} {frame : LoopFrame} (ha : frame.iterator = some a)
    (hn : m.heap.remaining? a = some n)
    (h : (nextTurn (.standard fuel) s p pc frame).Ends W m (.ok true) m') :
    ∃ n' < n, m'.heap.remaining? a = some n' := by
  obtain ⟨go, m₁, hgo, hrest⟩ := Eval.ends_bind_ok_iff.mp h
  obtain ⟨u, m₂, hpublish, hpure⟩ := Eval.ends_bind_ok_iff.mp hrest
  obtain ⟨hresult, rfl⟩ := Eval.ends_pure_iff.mp hpure
  cases hresult
  rw [remaining?_of_publish hpublish]
  simp only [goOn, ha, advance] at hgo
  obtain ⟨item, m₂, hitem, hput⟩ := Eval.ends_bind_ok_iff.mp hgo
  cases fuel with
  | zero => cases (Eval.ends_fail_iff.mp hitem).1
  | succ f =>
      obtain ⟨taken, m₃, hnext, htakes⟩ := Eval.takesNext_of_remaining? f hn
      have hends : (Dialog.done taken m₃).Ends W (.ok item) m₂ := hnext ▸ hitem
      obtain ⟨rfl, rfl⟩ := Dialog.ends_done_iff.mp hends
      cases item with
      | none => cases (Eval.ends_pure_iff.mp hput).1
      | some v =>
          obtain ⟨-, rfl⟩ := Dialog.ends_done_iff.mp hput
          exact htakes.gives v rfl n hn

/-! ## Whole runs -/

theorem iterations_undoAll (loops : List LoopFrame) (m : Memory) :
    (undoAll s loops m).heap.iterations = m.heap.iterations := by
  induction loops generalizing m with
  | nil => rfl
  | cons frame outer ih => exact ih (frame.undo s m)

theorem onward_of_runFrom (hW : W.Onward) {n : Nat} {result : Except Failure (Array Text)}
    (h : (runFrom (.standard fuel) s p n c).Ends W m result m') : m.heap.Onward P m'.heap := by
  induction n generalizing c m with
  | zero =>
      rw [runFrom_zero, Eval.Ends, unwind_apply] at h
      obtain ⟨-, rfl⟩ := Dialog.ends_done_iff.mp h
      exact .of_iterations (iterations_undoAll _ _)
  | succ n ih =>
      by_cases hlt : c.pc < p.program.length
      · rw [runFrom_succ _ s p n (List.getElem?_eq_getElem hlt), located_handle,
          Eval.ends_handle_iff] at h
        rcases h with ⟨c', m₁, hstep, hrest⟩ | ⟨e, m₁, hstep, hrest⟩
        · exact (onward_of_step hW hstep).trans (ih hrest)
        · rw [Eval.Ends, unwind_apply] at hrest
          obtain ⟨-, rfl⟩ := Dialog.ends_done_iff.mp hrest
          exact (onward_of_step hW hstep).trans (.of_iterations (iterations_undoAll _ _))
      · rw [runFrom_end _ s p n (Nat.le_of_not_lt hlt)] at h
        obtain ⟨-, rfl⟩ := Eval.ends_pure_iff.mp h
        exact .refl _

theorem onward_of_run (hW : W.Onward) {n : Nat} {globals : Names} {h : Heap}
    {result : Except Failure Text}
    (hends : (run (.standard fuel) n globals s p h).Ends W result m') : h.Onward P m'.heap := by
  rcases Eval.ends_bind_iff.mp hends with ⟨out, m₁, hrun, hpure⟩ | ⟨e, -, hrun⟩
  · obtain ⟨-, rfl⟩ := Eval.ends_pure_iff.mp hpure
    exact onward_of_runFrom hW hrun
  · exact onward_of_runFrom hW hrun

end Template

end Stencil
