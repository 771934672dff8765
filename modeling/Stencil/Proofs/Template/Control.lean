import Stencil.Proofs.Eval.Ends
import Stencil.Proofs.Template.Enclosing
import Stencil.Proofs.Template.Simulation

/-!
# Control flow

A configuration agrees with its program if the loops and wrappers around its instruction are those
on its stacks. Steps of a coherent program keep this, so that it holds of all that a run can reach,
and then nothing that a step looks up is missing.
-/

namespace Stencil.Template

variable {W : Answers} {ev : Evaluator} {s : Setting} {p : Compiled}

/-! ## Ends of steps -/

theorem ends_openLoop {c : Config} {m m' : Memory} {name source : Text} {head : LoopHead}
    {last : Nat} {result : Except Failure Config}
    (hi : p.program[c.pc]? = some (.openLoop name head source))
    (hlast : p.jumps.loopClose.lookup c.pc = some last)
    (h : (step ev s p c).Ends W m result m') :
    (∃ frame, (enterLoop ev s p c.pc name head).Ends W m (.ok (frame, true)) m' ∧
      result = .ok (c.inside frame)) ∨
    (∃ frame m₁, (enterLoop ev s p c.pc name head).Ends W m (.ok (frame, false)) m₁ ∧
      m' = frame.undo s m₁ ∧ result = .ok { c with pc := last + 1 }) ∨
    ∃ e, (enterLoop ev s p c.pc name head).Ends W m (.error e) m' ∧ result = .error e := by
  rw [step_openLoop ev s p hi, openLoop_eq ev s p hlast, Eval.ends_bind_iff] at h
  rcases h with ⟨⟨frame, proceed⟩, m₁, henter, hrest⟩ | ⟨e, he, henter⟩
  · cases proceed with
    | true =>
        obtain ⟨hresult, rfl⟩ := Eval.ends_pure_iff.mp hrest
        exact .inl ⟨frame, henter, hresult⟩
    | false =>
        have hpure := (Eval.ends_bind_of_apply (restore_apply s frame m₁)).mp hrest
        obtain ⟨hresult, hm'⟩ := Eval.ends_pure_iff.mp hpure
        exact .inr (.inl ⟨frame, m₁, henter, hm', hresult⟩)
  · exact .inr (.inr ⟨e, henter, he⟩)

theorem ends_closeLoop {c : Config} {m m' : Memory} {frame : LoopFrame}
    {outer : List LoopFrame} {start : Nat} {result : Except Failure Config}
    (hi : p.program[c.pc]? = some .closeLoop) (hloops : c.loops = frame :: outer)
    (hstart : p.jumps.loopOpen.lookup c.pc = some start)
    (h : (step ev s p c).Ends W m result m') :
    ((nextTurn ev s p start frame).Ends W m (.ok true) m' ∧
      result = .ok { c with pc := start + 1 }) ∨
    (∃ m₁, (nextTurn ev s p start frame).Ends W m (.ok false) m₁ ∧ m' = frame.undo s m₁ ∧
      result = .ok { c with pc := c.pc + 1, loops := outer }) ∨
    ∃ e, (nextTurn ev s p start frame).Ends W m (.error e) m' ∧ result = .error e := by
  rw [step_closeLoop ev s p hi, closeLoop_eq ev s p hloops hstart, Eval.ends_bind_iff] at h
  rcases h with ⟨proceed, m₁, hnext, hrest⟩ | ⟨e, he, hnext⟩
  · cases proceed with
    | true =>
        obtain ⟨hresult, rfl⟩ := Eval.ends_pure_iff.mp hrest
        exact .inl ⟨hnext, hresult⟩
    | false =>
        have hpure := (Eval.ends_bind_of_apply (restore_apply s frame m₁)).mp hrest
        obtain ⟨hresult, hm'⟩ := Eval.ends_pure_iff.mp hpure
        exact .inr (.inl ⟨m₁, hnext, hm', hresult⟩)
  · exact .inr (.inr ⟨e, hnext, he⟩)

theorem ends_startTurns {pc : Nat} {name : Text} {head : LoopHead} {saved frame : LoopFrame}
    {proceed : Bool} {m m' : Memory}
    (h : (startTurns ev p pc name head saved).Ends W m (.ok (frame, proceed)) m') :
    frame.name = saved.name ∧ frame.savedScope = saved.savedScope ∧
      frame.savedName = saved.savedName ∧
      (saved.iterator = none → frame.iterator.isSome = head.isEach) := by
  cases head with
  | range init cond step =>
      simp only [startTurns, Eval.ends_bind_ok_iff, Eval.ends_pure_iff] at h
      obtain ⟨code, m₁, -, v, m₂, -, u, m₃, -, go, m₄, -, hframe, -⟩ := h
      cases hframe
      exact ⟨rfl, rfl, rfl, fun hnone => by rw [hnone]; rfl⟩
  | each mode iterable =>
      simp only [startTurns, Eval.ends_bind_ok_iff, Eval.ends_pure_iff] at h
      obtain ⟨code, m₁, -, v, m₂, -, a, m₃, -, go, m₄, -, hframe, -⟩ := h
      cases hframe
      exact ⟨rfl, rfl, rfl, fun _ => rfl⟩

theorem ends_enterLoop {pc : Nat} {name : Text} {head : LoopHead} {m m' : Memory}
    {frame : LoopFrame} {proceed : Bool}
    (h : (enterLoop ev s p pc name head).Ends W m (.ok (frame, proceed)) m') :
    frame.name = name ∧ frame.iterator.isSome = head.isEach ∧
      frame.savedScope = s.entry m name ∧ frame.savedName = m.names.get? name := by
  rw [enterLoop, Eval.ends_bind_of_apply (saveFrame_apply s name m)] at h
  simp only [Eval.ends_bind_ok_iff, Eval.ends_pure_iff] at h
  obtain ⟨⟨frame', proceed'⟩, m₁, hstart, u, m₂, -, hframe, -⟩ := h
  cases hframe
  obtain ⟨hname, hscope, hnames, hiterator⟩ := ends_startTurns hstart
  exact ⟨hname, hiterator rfl, hscope, hnames⟩

theorem ends_enterBranch {around : List Instruction} {fuel pc target : Nat} {m m' : Memory}
    (henters : Enters p around fuel pc) (h : (enterBranch ev p fuel pc).Ends W m (.ok target) m') :
    target ≤ p.program.length ∧ SameContext (enclosing p.program target) around := by
  induction henters generalizing m with
  | @unconditional fuel pc i hi hcond hcontext =>
      rw [enterBranch_of_not_hasCondition ev p fuel hi hcond, Eval.ends_pure_iff] at h
      obtain ⟨htarget, -⟩ := h
      cases htarget
      exact ⟨(List.getElem?_eq_some_iff.mp hi).1, hcontext⟩
  | @conditional fuel pc next i hi hcond hcontext hnext _ ih =>
      rw [enterBranch_eq ev p fuel hi hcond hnext, Eval.ends_bind_ok_iff] at h
      obtain ⟨first, m₁, -, hrest⟩ := h
      cases first with
      | true =>
          obtain ⟨htarget, -⟩ := Eval.ends_pure_iff.mp hrest
          cases htarget
          exact ⟨(List.getElem?_eq_some_iff.mp hi).1, hcontext⟩
      | false => exact ih hrest

/-! ## Agreement -/

def LoopFrame.key (frame : LoopFrame) : Text × Bool := (frame.name, frame.iterator.isSome)

/-- The loops and the wrappers around the instruction are those on the stacks. -/
structure Config.Agrees (p : Compiled) (c : Config) : Prop where
  pc_le : c.pc ≤ p.program.length
  loops : c.loops.map LoopFrame.key = loopKeys (enclosing p.program c.pc)
  blocks : c.blocks.length = wrappers (enclosing p.program c.pc)

theorem Config.agrees_initial (p : Compiled) : Config.initial.Agrees p := ⟨Nat.zero_le _, rfl, rfl⟩

theorem Config.Agrees.move {c c' : Config} (h : c.Agrees p) (hpc : c'.pc ≤ p.program.length)
    (hloops : c'.loops = c.loops) (hblocks : c'.blocks.length = c.blocks.length)
    (hcontext : SameContext (enclosing p.program c'.pc) (enclosing p.program c.pc)) :
    c'.Agrees p where
  pc_le := hpc
  loops := by rw [hloops, h.loops, hcontext.loopKeys_eq]
  blocks := by rw [hblocks, h.blocks, hcontext.wrappers_eq]

theorem Config.Agrees.loops_of_closeLoop {c : Config} (hc : c.Agrees p)
    (hcoherent : Coherent p c.pc .closeLoop) :
    ∃ frame outer, c.loops = frame :: outer := by
  obtain ⟨start, name, head, source, outer, -, -, -, -, haround⟩ := hcoherent
  refine List.exists_cons_of_ne_nil fun hnil => ?_
  simpa [hnil, haround] using hc.loops

theorem Config.Agrees.blocks_of_wrappers {c : Config} (hc : c.Agrees p)
    (hpos : 0 < wrappers (enclosing p.program c.pc)) : ∃ frame outer, c.blocks = frame :: outer :=
  List.exists_cons_of_length_pos (Nat.lt_of_lt_of_eq hpos hc.blocks.symm)

theorem Config.Agrees.stacks_nil {c : Config} (hc : c.Agrees p)
    (hend : enclosing p.program c.pc = []) : c.loops = [] ∧ c.blocks = [] := by
  have hloops := hc.loops
  have hblocks := hc.blocks
  rw [hend] at hloops hblocks
  exact ⟨List.map_eq_nil_iff.mp hloops, List.length_eq_zero_iff.mp hblocks⟩

theorem Config.Agrees.step {c c' : Config} {m m' : Memory} {i : Instruction} (hc : c.Agrees p)
    (hi : p.program[c.pc]? = some i) (hcoherent : Coherent p c.pc i)
    (h : (step ev s p c).Ends W m (.ok c') m') : c'.Agrees p := by
  have hlt := (List.getElem?_eq_some_iff.mp hi).1
  have hsucc := enclosing_succ hi
  have hleaf (first : Leaf) (hfirst : i = first.instruction) : c'.Agrees p := by
    rw [Leaf.step_eq (hfirst ▸ hi), Eval.ends_bind_ok_iff] at h
    obtain ⟨o, m₁, -, hrest⟩ := h
    obtain ⟨hc', -⟩ := Eval.ends_pure_iff.mp hrest
    cases hc'
    refine hc.move hlt rfl (by simp [Config.after]) ?_
    rw [Config.after_pc, hsucc, hfirst]
    cases first <;> exact .refl _
  cases i with
  | literal t => exact hleaf (.literal t) rfl
  | output expr escape source => exact hleaf (.output expr escape source) rfl
  | assign name expr source => exact hleaf (.assign name expr source) rfl
  | capture expr source => exact hleaf (.capture expr source) rfl
  | openLoop name head source =>
      obtain ⟨last, hlast, hlt', haround⟩ := hcoherent
      rcases ends_openLoop hi hlast h with
        ⟨frame, henter, hc'⟩ | ⟨frame, m₁, -, -, hc'⟩ | ⟨e, -, hc'⟩
      · cases hc'
        obtain ⟨hname, hiterator, -⟩ := ends_enterLoop henter
        refine ⟨hlt, ?_, ?_⟩
        · simp [Config.inside, hsucc, enclose, LoopFrame.key, hname, hiterator, hc.loops]
        · simpa [Config.inside, hsucc, enclose] using hc.blocks
      · cases hc'
        exact hc.move hlt' rfl rfl (haround ▸ .refl _)
      · cases hc'
  | closeLoop =>
      obtain ⟨frame, loops, hloops⟩ := hc.loops_of_closeLoop hcoherent
      obtain ⟨start, name, head, source, outer, hstart, hlt', -, hfirst, haround⟩ := hcoherent
      rcases ends_closeLoop hi hloops hstart h with ⟨-, hc'⟩ | ⟨m₁, -, -, hc'⟩ | ⟨e, -, hc'⟩
      · cases hc'
        -- The first instruction of the body has the same blocks around it as the end of the loop.
        exact hc.move hlt' rfl rfl (by rw [hfirst, haround]; exact .refl _)
      · cases hc'
        have hkeys := hc.loops
        have hblocks := hc.blocks
        rw [haround] at hkeys hblocks hsucc
        rw [hloops] at hkeys
        refine ⟨hlt, ?_, ?_⟩
        · rw [hsucc]
          exact (List.cons.inj hkeys).2
        · rw [hsucc]
          exact hblocks
      · cases hc'
  | openIf cond source =>
      rw [step_openIf ev s p hi, Eval.ends_bind_ok_iff] at h
      obtain ⟨target, m₁, htarget, hrest⟩ := h
      obtain ⟨hc', -⟩ := Eval.ends_pure_iff.mp hrest
      cases hc'
      obtain ⟨hle, hcontext⟩ := ends_enterBranch hcoherent htarget
      exact hc.move hle rfl rfl hcontext
  | elseIf | otherwise =>
      obtain ⟨last, hlast, hlt', hcontext⟩ := hcoherent
      simp only [Template.step, hi, jump_eq hlast, pure_bind, Eval.ends_pure_iff] at h
      obtain ⟨hc', -⟩ := h
      cases hc'
      exact hc.move hlt' rfl rfl hcontext
  | closeIf =>
      simp only [Template.step, hi, Eval.ends_pure_iff] at h
      obtain ⟨hc', -⟩ := h
      cases hc'
      exact hc.move hlt rfl rfl hcoherent
  | openHasContent =>
      simp only [Template.step, hi, Eval.ends_pure_iff] at h
      obtain ⟨hc', -⟩ := h
      cases hc'
      refine ⟨hlt, ?_, ?_⟩
      · rw [hsucc]
        exact hc.loops
      · rw [hsucc]
        simp [enclose, hc.blocks]
  | openContent =>
      obtain ⟨frame, outer, hblocks⟩ := hc.blocks_of_wrappers hcoherent
      simp only [Template.step, hi, hblocks, Eval.ends_pure_iff] at h
      obtain ⟨hc', -⟩ := h
      cases hc'
      refine ⟨hlt, ?_, ?_⟩
      · rw [hsucc]
        exact hc.loops
      · rw [hsucc]
        simpa [enclose, hblocks] using hc.blocks
  | closeContent =>
      obtain ⟨hpos, around, haround⟩ := hcoherent
      obtain ⟨frame, outer, hblocks⟩ := hc.blocks_of_wrappers hpos
      simp only [Template.step, hi, hblocks, Eval.ends_pure_iff] at h
      obtain ⟨hc', -⟩ := h
      cases hc'
      have hkeys := hc.loops
      have hlength := hc.blocks
      rw [haround] at hkeys hlength
      refine ⟨hlt, ?_, ?_⟩
      · rw [hsucc, haround]
        exact hkeys
      · rw [hsucc, haround]
        simpa [enclose, hblocks] using hlength
  | closeHasContent =>
      obtain ⟨outer, haround⟩ := hcoherent
      have hkeys := hc.loops
      have hlength := hc.blocks
      rw [haround] at hkeys
      rw [haround, wrappers_openHasContent] at hlength
      obtain ⟨frame, blocks, hblocks⟩ := List.exists_cons_of_length_eq_add_one hlength
      simp only [Template.step, hi, hblocks, Eval.ends_pure_iff] at h
      obtain ⟨hc', -⟩ := h
      cases hc'
      rw [hblocks] at hlength
      refine ⟨hlt, ?_, ?_⟩
      · rw [hsucc, haround]
        exact hkeys
      · rw [hsucc, haround]
        exact Nat.succ.inj hlength

/-! ## Reachable configurations -/

variable (W ev s p) in
/-- A run gets here from its start with a memory. -/
inductive Reachable (start : Memory) : Config → Memory → Prop
  | initial : Reachable start .initial start
  | step {c c' : Config} {m m' : Memory} (hc : Reachable start c m)
      (hlt : c.pc < p.program.length) (h : (step ev s p c).Ends W m (.ok c') m') :
      Reachable start c' m'

theorem Reachable.agrees {start m : Memory} {c : Config} (hlink : link p.program = .ok p.jumps)
    (hc : Reachable W ev s p start c m) : c.Agrees p := by
  induction hc with
  | initial => exact Config.agrees_initial p
  | @step c c' m m' _ hlt h ih =>
      have hi := List.getElem?_eq_getElem hlt
      exact ih.step hi ((coherent_of_link hlink).2 hi) h

end Stencil.Template
