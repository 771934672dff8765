import Stencil.Proofs.Eval.Leaves
import Stencil.Proofs.Template.Control
import Stencil.Proofs.Value.Entry

/-!
# What steps do to the scope

Expressions are taken to leave the scope alone. Then assignments change the entry that they name,
loops change the entries of their variables, and a step that fails changes nothing.
-/

namespace Stencil.Template

variable {W : Answers} {ev : Evaluator} {s : Setting} {p : Compiled}

/-! ## Entries of the scope -/

def Setting.Bound (s : Setting) (m : Memory) : Prop := s.scope < m.heap.mappings.size

section

variable {m m' : Memory}

theorem entry_of_sameMapping (h : SameMapping s.scope m m') (x : Text) :
    s.entry m' x = s.entry m x := by
  simp only [SameMapping] at h
  simp only [Setting.entry, Heap.mapping, Array.getD_eq_getD_getElem?, h]

theorem Setting.Bound.of_sameMapping (hm : s.Bound m) (h : SameMapping s.scope m m') :
    s.Bound m' := by
  simp only [SameMapping] at h
  have hsome := Array.getElem?_eq_getElem hm
  rw [← h] at hsome
  exact (Array.getElem?_eq_some_iff.mp hsome).1

/-- The scope is still there, and only its entry for one name may have changed. -/
def KeepsOthers (s : Setting) (n : Text) (m m' : Memory) : Prop :=
  s.Bound m → s.Bound m' ∧ ∀ x, n ≠ x → s.entry m' x = s.entry m x

theorem KeepsOthers.of_sameMapping (n : Text) (h : SameMapping s.scope m m') :
    KeepsOthers s n m m' :=
  fun hm => ⟨hm.of_sameMapping h, fun x _ => entry_of_sameMapping h x⟩

theorem KeepsOthers.trans {n : Text} {m₁ : Memory} (h : KeepsOthers s n m m₁)
    (h' : KeepsOthers s n m₁ m') : KeepsOthers s n m m' := by
  intro hm
  obtain ⟨hm₁, hentry⟩ := h hm
  obtain ⟨hm', hentry'⟩ := h' hm₁
  exact ⟨hm', fun x hx => (hentry' x hx).trans (hentry x hx)⟩

theorem ends_scopePut {n : Text} {v : Value} {result : Except Failure Unit}
    (h : (scopePut s.scope n v).Ends W m result m') : result = .ok () ∧ KeepsOthers s n m m' := by
  obtain ⟨hresult, rfl⟩ := Dialog.ends_done_iff.mp h
  refine ⟨hresult, fun hm => ⟨?_, fun x hx => ?_⟩⟩
  · simpa [Setting.Bound, Heap.setMapping] using hm
  · simp only [Setting.entry, Heap.mapping_setMapping hm, Mapping.get?_put_of_ne hx]

theorem ends_publish {n : Text} {result : Except Failure Unit}
    (h : (publish s n).Ends W m result m') :
    result = .ok () ∧ KeepsOthers s n m m' ∨ ∃ e, result = .error e ∧ m' = m := by
  have hread : Eval.names m = .done (.ok m.names) m := rfl
  rw [publish, Eval.ends_bind_of_apply hread] at h
  cases hn : m.names.get? n with
  | some v =>
      rw [hn] at h
      exact .inl (ends_scopePut h)
  | none =>
      rw [hn] at h
      obtain ⟨hresult, rfl⟩ := Eval.ends_fail_iff.mp h
      exact .inr ⟨_, hresult, rfl⟩

end

/-! ## Frames -/

namespace LoopFrame

variable {frame : LoopFrame} {m : Memory}

theorem bound_undo : s.Bound (frame.undo s m) ↔ s.Bound m := by
  simp [Setting.Bound, undo, Heap.setMapping]

theorem entry_undo_self (hm : s.Bound m) :
    s.entry (frame.undo s m) frame.name = frame.savedScope := by
  obtain ⟨name, savedScope, savedName, iterator⟩ := frame
  simp only [Setting.entry, undo, Heap.mapping_setMapping hm]
  cases savedScope with
  | none => exact Mapping.get?_remove_self
  | some v => exact Mapping.get?_put_self

theorem entry_undo_of_ne {x : Text} (hm : s.Bound m) (hx : frame.name ≠ x) :
    s.entry (frame.undo s m) x = s.entry m x := by
  obtain ⟨name, savedScope, savedName, iterator⟩ := frame
  simp only [Setting.entry, undo, Heap.mapping_setMapping hm]
  cases savedScope with
  | none => exact Mapping.get?_remove_of_ne hx
  | some v => exact Mapping.get?_put_of_ne hx

theorem names_undo_self : (frame.undo s m).names.get? frame.name = frame.savedName := by
  obtain ⟨name, savedScope, savedName, iterator⟩ := frame
  cases savedName with
  | none => exact Names.get?_remove_self
  | some v => exact Names.get?_put_self

end LoopFrame

/-! ## Expressions -/

def Compiled.Evaluates (p : Compiled) (code : Code) : Prop :=
  ∃ pc, p.codes.lookup pc = some (.value code) ∨
    ∃ other step, p.codes.lookup pc = some (.range code other step) ∨
      p.codes.lookup pc = some (.range other code step)

/-- Evaluating an expression or the statements of a program leaves a mapping alone. -/
structure Evaluator.Respects (W : Answers) (ev : Evaluator) (p : Compiled) (address : Nat) :
    Prop where
  value : ∀ code, p.Evaluates code → (ev.value code).Leaves W address
  effect : ∀ {pc init cond step}, p.codes.lookup pc = some (.range init cond step) →
    (ev.effect step).Leaves W address
  advance : ∀ a, (ev.advance a).Leaves W address

structure CapturesRespect (W : Answers) (address : Nat) : Prop where
  capture : ∀ {id v heap answer heap'}, W (.capture id v) heap answer heap' →
    heap'.mappings[address]? = heap.mappings[address]?
  reference : ∀ {id index heap answer heap'}, W (.reference id index) heap answer heap' →
    heap'.mappings[address]? = heap.mappings[address]?

theorem leaves_stuck_bind {α β : Type} (W : Answers) (address pc : Nat) (f : β → Eval α) :
    ((stuck pc : Eval β) >>= f).Leaves W address :=
  Eval.Leaves.bind_of (.fail _) fun a m m' h => by
    obtain ⟨hresult, -⟩ := Eval.ends_fail_iff.mp h
    cases hresult

theorem leaves_valueCode_bind {α : Type} {address pc : Nat} {f : Code → Eval α}
    (hf : ∀ code, p.Evaluates code → (f code).Leaves W address) :
    (valueCode p pc >>= f).Leaves W address := by
  unfold valueCode
  split
  next code hcode => exact hf code ⟨pc, .inl hcode⟩
  next => exact leaves_stuck_bind W address pc f

theorem leaves_rangeCode_bind {α : Type} {address pc : Nat} {f : Code × Code × StepCode → Eval α}
    (hf : ∀ init cond step, p.codes.lookup pc = some (.range init cond step) →
      (f (init, cond, step)).Leaves W address) :
    (rangeCode p pc >>= f).Leaves W address := by
  unfold rangeCode
  split
  next init cond step hcode => exact hf init cond step hcode
  next => exact leaves_stuck_bind W address pc f

theorem leaves_jump_bind {α : Type} {address : Nat} (table : List (Nat × Nat)) (pc : Nat)
    {f : Nat → Eval α} (hf : ∀ target, (f target).Leaves W address) :
    (jump table pc >>= f).Leaves W address := by
  unfold jump
  split
  next target _ => exact hf target
  next => exact leaves_stuck_bind W address pc f

theorem leaves_iterate (W : Answers) (address : Nat) (mode : IterMode) (v : Value) :
    (iterate mode v).Leaves W address := by
  refine (Eval.Leaves.heap W address).bind fun h => ?_
  cases mode <;> cases v <;>
    first
    | exact .newIterator W address _
    | exact .iterator W address _

namespace Evaluator.Respects

variable {address : Nat}

theorem holds (h : ev.Respects W p address) {code : Code} (hcode : p.Evaluates code) :
    (Template.holds ev code).Leaves W address :=
  (h.value code hcode).bind fun v => .truth W address v

theorem valueAt (h : ev.Respects W p address) (pc : Nat) :
    (do ev.value (← valueCode p pc)).Leaves W address :=
  leaves_valueCode_bind fun code hcode => h.value code hcode

theorem advanceBy (h : ev.Respects W p address) (name : Text) (a : Nat) :
    (Template.advance ev name a).Leaves W address := by
  refine (h.advance a).bind fun next => ?_
  cases next with
  | some v => exact (Eval.Leaves.putName W address name v).bind fun _ => .pure _
  | none => exact .pure _

theorem startTurns (h : ev.Respects W p address) (pc : Nat) (name : Text) (head : LoopHead)
    (saved : LoopFrame) : (Template.startTurns ev p pc name head saved).Leaves W address := by
  cases head with
  | range =>
      refine leaves_rangeCode_bind fun init cond step hcode => ?_
      refine (h.value init ⟨pc, .inr ⟨cond, step, .inl hcode⟩⟩).bind fun v => ?_
      refine (Eval.Leaves.putName W address name v).bind fun _ => ?_
      exact (h.holds ⟨pc, .inr ⟨init, step, .inr hcode⟩⟩).bind fun _ => .pure _
  | each mode iterable =>
      refine leaves_valueCode_bind fun code hcode => (h.value code hcode).bind fun v => ?_
      exact (leaves_iterate W address mode v).bind fun a =>
        (h.advanceBy name a).bind fun _ => .pure _

theorem goOn (h : ev.Respects W p address) (pc : Nat) (frame : LoopFrame) :
    (Template.goOn ev p pc frame).Leaves W address := by
  unfold Template.goOn
  split
  next a _ => exact h.advanceBy frame.name a
  next =>
    refine leaves_rangeCode_bind fun init cond step hcode => (h.effect hcode).bind fun _ => ?_
    exact h.holds ⟨pc, .inr ⟨init, step, .inr hcode⟩⟩

theorem enterBranch (h : ev.Respects W p address) (fuel pc : Nat) :
    (Template.enterBranch ev p fuel pc).Leaves W address := by
  induction fuel generalizing pc with
  | zero => exact .fail _
  | succ fuel ih =>
      unfold Template.enterBranch
      have hchoice : (do
          if ← Template.holds ev (← valueCode p pc) then return pc + 1
          else Template.enterBranch ev p fuel (← jump p.jumps.nextBranch pc) :
          Eval Nat).Leaves W address := by
        refine leaves_valueCode_bind fun code hcode => (h.holds hcode).bind fun first => ?_
        cases first with
        | true => exact .pure _
        | false => exact leaves_jump_bind _ _ fun next => ih next
      split
      · exact hchoice
      · exact hchoice
      · exact .pure _
      · exact .fail _

theorem captureText (h : ev.Respects W p address) (hW : CapturesRespect W address) {code : Code}
    (hcode : p.Evaluates code) : (Template.captureText ev s code).Leaves W address := by
  unfold Template.captureText
  split
  next id name _ =>
    refine (h.value code hcode).bind fun v => ?_
    refine (Eval.Leaves.ask hW.capture).bind fun index => ?_
    refine (Eval.Leaves.ask hW.reference).bind fun reference => ?_
    exact Eval.Leaves.write W address _ reference
  next => exact (Eval.Leaves.typeName W address _).bind fun _ => .fail _

end Evaluator.Respects

/-! ## Guarding the scope -/

open Classical in
/-- An evaluation that is out of steps when it has changed the mapping with an address. -/
noncomputable def guarded {α : Type} (address : Nat) (x : Eval α) : Eval α := fun m =>
  (x m).andThen fun result m' =>
    if SameMapping address m m' then .done result m' else .done (.error .exhausted) m

theorem leaves_guarded {α : Type} (W : Answers) (address : Nat) (x : Eval α) :
    (guarded address x).Leaves W address := by
  intro m result m' h
  obtain ⟨first, m₁, -, hrest⟩ := Dialog.ends_andThen_iff.mp h
  split at hrest
  next hsame =>
    obtain ⟨-, rfl⟩ := Dialog.ends_done_iff.mp hrest
    exact hsame
  next =>
    obtain ⟨-, rfl⟩ := Dialog.ends_done_iff.mp hrest
    rfl

theorem guarded_of_apply {α : Type} {address : Nat} {x : Eval α}
    (h : ∀ m, ∃ result m', x m = .done result m' ∧ SameMapping address m m') :
    guarded address x = x := by
  funext m
  obtain ⟨result, m', hx, hsame⟩ := h m
  simp [guarded, hx, Dialog.andThen, hsame]

/-- The evaluator that gets no further when it has changed the mapping with an address. -/
noncomputable def Evaluator.guarding (ev : Evaluator) (address : Nat) : Evaluator where
  value code := guarded address (ev.value code)
  effect step := guarded address (ev.effect step)
  advance a := guarded address (ev.advance a)

theorem Evaluator.respects_guarding (W : Answers) (ev : Evaluator) (p : Compiled) (address : Nat) :
    (ev.guarding address).Respects W p address where
  value code _ := leaves_guarded W address (ev.value code)
  effect _ := leaves_guarded W address (ev.effect _)
  advance a := leaves_guarded W address (ev.advance a)

/-- Nothing that a run evaluates writes to the scope: its steps are those of an evaluator that would
get no further then. -/
def ScopeUntouched (W : Answers) (ev : Evaluator) (s : Setting) (p : Compiled) (start : Memory) :
    Prop :=
  ∀ c m, Reachable W ev s p start c m → ∀ result m',
    (step ev s p c).Ends W m result m' →
      (step (ev.guarding s.scope) s p c).Ends W m result m'

/-! ## Loops and assignments -/

section

variable {m m' : Memory}

theorem ends_publishIf {n : Text} {proceed : Bool} {result : Except Failure Unit}
    (h : (publishIf s n proceed).Ends W m result m') :
    (result = .ok () ∧ if proceed then KeepsOthers s n m m' else m' = m) ∨
      ∃ e, result = .error e ∧ m' = m := by
  cases proceed with
  | true => simpa using ends_publish h
  | false =>
      obtain ⟨hresult, rfl⟩ := Eval.ends_pure_iff.mp h
      exact .inl ⟨hresult, rfl⟩

theorem ends_bind_publishIf {α : Type} {n : Text} {x : Eval α} {proceed : α → Bool}
    {result : Except Failure α} (hx : x.Leaves W s.scope)
    (h : (x >>= fun a => publishIf s n (proceed a) >>= fun _ => pure a).Ends W m result m') :
    SameMapping s.scope m m' ∨
      ∃ a, result = .ok a ∧ proceed a = true ∧ KeepsOthers s n m m' := by
  rcases Eval.ends_bind_iff.mp h with ⟨a, m₁, hfirst, hrest⟩ | ⟨e, -, hfirst⟩
  · have hsame := hx _ _ _ hfirst
    rcases Eval.ends_bind_iff.mp hrest with ⟨u, m₂, hpublish, hpure⟩ | ⟨e, -, hpublish⟩
    · obtain ⟨hresult, rfl⟩ := Eval.ends_pure_iff.mp hpure
      rcases ends_publishIf hpublish with ⟨-, hkept⟩ | ⟨e, herror, -⟩
      · cases hproceed : proceed a with
        | true =>
            rw [hproceed] at hkept
            exact .inr ⟨a, hresult, hproceed, (KeepsOthers.of_sameMapping n hsame).trans hkept⟩
        | false =>
            rw [hproceed] at hkept
            obtain rfl : m' = m₁ := hkept
            exact .inl hsame
      · cases herror
    · rcases ends_publishIf hpublish with ⟨hok, -⟩ | ⟨e, -, rfl⟩
      · cases hok
      · exact .inl hsame
  · exact .inl (hx _ _ _ hfirst)

theorem ends_enterLoop_scope {pc : Nat} {name : Text} {head : LoopHead}
    {result : Except Failure (LoopFrame × Bool)} (hev : ev.Respects W p s.scope)
    (h : (enterLoop ev s p pc name head).Ends W m result m') :
    SameMapping s.scope m m' ∨ ∃ frame, result = .ok (frame, true) ∧ KeepsOthers s name m m' := by
  rw [enterLoop, Eval.ends_bind_of_apply (saveFrame_apply s name m)] at h
  rcases ends_bind_publishIf (hev.startTurns pc name head _) h with
    hsame | ⟨⟨frame, proceed⟩, hresult, rfl, hkept⟩
  · exact .inl hsame
  · exact .inr ⟨frame, hresult, hkept⟩

theorem ends_nextTurn_scope {pc : Nat} {frame : LoopFrame} {result : Except Failure Bool}
    (hev : ev.Respects W p s.scope) (h : (nextTurn ev s p pc frame).Ends W m result m') :
    SameMapping s.scope m m' ∨ result = .ok true ∧ KeepsOthers s frame.name m m' := by
  rcases ends_bind_publishIf (hev.goOn pc frame) h with hsame | ⟨proceed, hresult, rfl, hkept⟩
  · exact .inl hsame
  · exact .inr ⟨hresult, hkept⟩

end

/-! ## Steps -/

variable (s p) in
/-- What a step does to the loops and to the scope. -/
inductive Effect (c : Config) (m : Memory) : Except Failure Config → Memory → Prop
  | failed {m' : Memory} (e : Failure) (hsame : SameMapping s.scope m m') :
      Effect c m (.error e) m'
  | kept {c' : Config} {m' : Memory}
      (hopen : ∀ name head source, p.program[c.pc]? ≠ some (.openLoop name head source))
      (hloops : c'.loops = c.loops) (hsame : SameMapping s.scope m m') : Effect c m (.ok c') m'
  | assigned {c' : Config} {m' : Memory} {n expr source : Text}
      (hi : p.program[c.pc]? = some (.assign n expr source)) (hloops : c'.loops = c.loops)
      (hkept : KeepsOthers s n m m') : Effect c m (.ok c') m'
  | entered {c' : Config} {m' : Memory} {frame : LoopFrame} {head : LoopHead} {source : Text}
      (hi : p.program[c.pc]? = some (.openLoop frame.name head source))
      (hloops : c'.loops = frame :: c.loops)
      (hscope : frame.savedScope = s.entry m frame.name)
      (hname : frame.savedName = m.names.get? frame.name) (hkept : KeepsOthers s frame.name m m') :
      Effect c m (.ok c') m'
  | skipped {c' : Config} {m₁ : Memory} {frame : LoopFrame} {head : LoopHead} {source : Text}
      (hi : p.program[c.pc]? = some (.openLoop frame.name head source))
      (hloops : c'.loops = c.loops)
      (hscope : frame.savedScope = s.entry m frame.name)
      (hname : frame.savedName = m.names.get? frame.name) (hsame : SameMapping s.scope m m₁) :
      Effect c m (.ok c') (frame.undo s m₁)
  | repeated {c' : Config} {m' : Memory} {frame : LoopFrame} {outer : List LoopFrame}
      (hi : p.program[c.pc]? = some .closeLoop) (hframe : c.loops = frame :: outer)
      (hloops : c'.loops = c.loops) (hkept : KeepsOthers s frame.name m m') :
      Effect c m (.ok c') m'
  | left {c' : Config} {m₁ : Memory} {frame : LoopFrame}
      (hi : p.program[c.pc]? = some .closeLoop) (hframe : c.loops = frame :: c'.loops)
      (hsame : SameMapping s.scope m m₁) : Effect c m (.ok c') (frame.undo s m₁)

theorem step_effect {c : Config} {m m' : Memory} {i : Instruction}
    {result : Except Failure Config} (hev : ev.Respects W p s.scope)
    (hW : CapturesRespect W s.scope) (hc : c.Agrees p) (hi : p.program[c.pc]? = some i)
    (hcoherent : Coherent p c.pc i) (h : (step ev s p c).Ends W m result m') :
    Effect s p c m result m' := by
  have hleaves {α : Type} {x : Eval α} {next : α → Config}
      (hopen : ∀ name head source, i ≠ .openLoop name head source)
      (h : (x >>= fun a => pure (next a)).Ends W m result m') (hx : x.Leaves W s.scope)
      (hnext : ∀ a, (next a).loops = c.loops) : Effect s p c m result m' := by
    rcases Eval.ends_bind_iff.mp h with ⟨a, m₁, hfirst, hpure⟩ | ⟨e, rfl, hfirst⟩
    · obtain ⟨rfl, rfl⟩ := Eval.ends_pure_iff.mp hpure
      exact .kept (by simpa [hi] using hopen) (hnext a) (hx _ _ _ hfirst)
    · exact .failed e (hx _ _ _ hfirst)
  have hpure {c' : Config} (hopen : ∀ name head source, i ≠ .openLoop name head source)
      (h : (pure c' : Eval Config).Ends W m result m') (hloops : c'.loops = c.loops) :
      Effect s p c m result m' := by
    obtain ⟨rfl, rfl⟩ := Eval.ends_pure_iff.mp h
    exact .kept (by simpa [hi] using hopen) hloops rfl
  cases i with
  | literal t =>
      simp only [step, hi] at h
      exact hpure (by simp) h rfl
  | output expr escape source =>
      have hstep : step ev s p c =
          (Leaf.output expr escape source).exec ev s p c.pc >>= fun o => pure (c.after 1 o) :=
        Leaf.step_eq hi
      rw [hstep] at h
      refine hleaves (by simp) h ?_ fun _ => rfl
      refine leaves_valueCode_bind fun code hcode => (hev.value code hcode).bind fun v => ?_
      have hwritten : (outputText v escape).Leaves W s.scope :=
        (Eval.Leaves.write W s.scope _ v).bind fun _ => .pure _
      exact hwritten.bind fun _ => .pure _
  | assign n expr source =>
      have hstep : step ev s p c = (do ev.value (← valueCode p c.pc)) >>= fun v => do
          scopePut s.scope n v
          return { c with pc := c.pc + 1 } := by
        simp [step, hi]
      rw [hstep] at h
      rcases Eval.ends_bind_iff.mp h with ⟨v, m₁, hvalue, hrest⟩ | ⟨e, rfl, hvalue⟩
      · have hsame := hev.valueAt c.pc _ _ _ hvalue
        rcases Eval.ends_bind_iff.mp hrest with ⟨u, m₂, hput, hdone⟩ | ⟨e, -, hput⟩
        · obtain ⟨rfl, rfl⟩ := Eval.ends_pure_iff.mp hdone
          obtain ⟨-, hkept⟩ := ends_scopePut hput
          exact .assigned hi rfl ((KeepsOthers.of_sameMapping n hsame).trans hkept)
        · cases (ends_scopePut hput).1
      · exact .failed e (hev.valueAt c.pc _ _ _ hvalue)
  | capture expr source =>
      have hstep : step ev s p c =
          (Leaf.capture expr source).exec ev s p c.pc >>= fun o => pure (c.after 1 o) :=
        Leaf.step_eq hi
      rw [hstep] at h
      refine hleaves (by simp) h ?_ fun _ => rfl
      exact leaves_valueCode_bind fun code hcode =>
        (hev.captureText hW hcode).bind fun _ => .pure _
  | openLoop name head source =>
      obtain ⟨last, hlast, -⟩ := hcoherent
      rcases ends_openLoop hi hlast h with
        ⟨frame, henter, rfl⟩ | ⟨frame, m₁, henter, rfl, rfl⟩ | ⟨e, henter, rfl⟩
      · obtain ⟨rfl, -, hscope, hname⟩ := ends_enterLoop henter
        rcases ends_enterLoop_scope hev henter with hsame | ⟨frame', -, hkept⟩
        · exact .entered hi rfl hscope hname (KeepsOthers.of_sameMapping _ hsame)
        · exact .entered hi rfl hscope hname hkept
      · obtain ⟨rfl, -, hscope, hname⟩ := ends_enterLoop henter
        rcases ends_enterLoop_scope hev henter with hsame | ⟨frame', hentered, -⟩
        · exact .skipped hi rfl hscope hname hsame
        · cases hentered
      · rcases ends_enterLoop_scope hev henter with hsame | ⟨frame', hentered, -⟩
        · exact .failed e hsame
        · cases hentered
  | closeLoop =>
      obtain ⟨frame, outer, hloops⟩ := hc.loops_of_closeLoop hcoherent
      obtain ⟨start, name, head, source, outer', hstart, -⟩ := hcoherent
      rcases ends_closeLoop hi hloops hstart h with
        ⟨hnext, rfl⟩ | ⟨m₁, hnext, rfl, rfl⟩ | ⟨e, hnext, rfl⟩
      · rcases ends_nextTurn_scope hev hnext with hsame | ⟨-, hkept⟩
        · exact .repeated hi hloops rfl (KeepsOthers.of_sameMapping _ hsame)
        · exact .repeated hi hloops rfl hkept
      · rcases ends_nextTurn_scope hev hnext with hsame | ⟨hproceeds, -⟩
        · exact .left hi hloops hsame
        · cases hproceeds
      · rcases ends_nextTurn_scope hev hnext with hsame | ⟨hproceeds, -⟩
        · exact .failed e hsame
        · cases hproceeds
  | openIf cond source =>
      rw [step_openIf ev s p hi] at h
      exact hleaves (by simp) h (hev.enterBranch _ _) fun _ => rfl
  | elseIf | otherwise =>
      obtain ⟨last, hlast, -⟩ := hcoherent
      simp only [step, hi, jump_eq hlast, pure_bind] at h
      exact hpure (by simp) h rfl
  | closeIf | openHasContent =>
      simp only [step, hi] at h
      exact hpure (by simp) h rfl
  | openContent =>
      obtain ⟨frame, outer, hblocks⟩ := hc.blocks_of_wrappers hcoherent
      simp only [step, hi, hblocks] at h
      exact hpure (by simp) h rfl
  | closeContent =>
      obtain ⟨frame, outer, hblocks⟩ := hc.blocks_of_wrappers hcoherent.1
      simp only [step, hi, hblocks] at h
      exact hpure (by simp) h rfl
  | closeHasContent =>
      obtain ⟨around, haround⟩ := hcoherent
      obtain ⟨frame, outer, hblocks⟩ := hc.blocks_of_wrappers (by simp [haround])
      simp only [step, hi, hblocks] at h
      exact hpure (by simp) h rfl

theorem Reachable.effect {start m m' : Memory} {c : Config} {result : Except Failure Config}
    (hc : Reachable W ev s p start c m) (hlink : link p.program = .ok p.jumps)
    (huntouched : ScopeUntouched W ev s p start) (hW : CapturesRespect W s.scope)
    (hlt : c.pc < p.program.length) (h : (Template.step ev s p c).Ends W m result m') :
    Effect s p c m result m' := by
  have hi := List.getElem?_eq_getElem hlt
  -- The evaluator itself may write to the scope from memories that no run reaches.
  exact step_effect (ev.respects_guarding W p s.scope) hW (hc.agrees hlink) hi
    ((coherent_of_link hlink).2 hi) (huntouched c m hc result m' h)

end Stencil.Template
