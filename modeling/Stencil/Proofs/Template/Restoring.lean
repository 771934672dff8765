import Stencil.Proofs.Engine.Answers
import Stencil.Proofs.Template.Scoping

/-!
# Loop variables are put back

What a loop variable hides is kept in the frame of its loop. Ending the open loops by hand would
give the scope its entries of the start back at any time, and leaving a loop gives its variable the
entry that it had in front of the loop.
-/

namespace Stencil.Template

variable {W : Answers} {ev : Evaluator} {s : Setting} {p : Compiled}

/-! ## Ending open loops -/

theorem undoAll_cons (frame : LoopFrame) (loops : List LoopFrame) (m : Memory) :
    undoAll s (frame :: loops) m = undoAll s loops (frame.undo s m) := rfl

theorem undoAll_append (loops outer : List LoopFrame) (m : Memory) :
    undoAll s (loops ++ outer) m = undoAll s outer (undoAll s loops m) := by
  induction loops generalizing m with
  | nil => rfl
  | cons frame more ih => exact ih (frame.undo s m)

theorem bound_undoAll {loops : List LoopFrame} {m : Memory} :
    s.Bound (undoAll s loops m) ↔ s.Bound m := by
  induction loops generalizing m with
  | nil => rfl
  | cons frame more ih => exact ih.trans LoopFrame.bound_undo

theorem LoopFrame.entry_undo_congr {frame : LoopFrame} {m m' : Memory} {x : Text} (hm : s.Bound m)
    (hm' : s.Bound m') (h : frame.name ≠ x → s.entry m x = s.entry m' x) :
    s.entry (frame.undo s m) x = s.entry (frame.undo s m') x := by
  by_cases hx : frame.name = x
  · rw [← hx, entry_undo_self hm, entry_undo_self hm']
  · rw [entry_undo_of_ne hm hx, entry_undo_of_ne hm' hx, h hx]

theorem entry_undoAll_congr {loops : List LoopFrame} {m m' : Memory} {x : Text} (hm : s.Bound m)
    (hm' : s.Bound m') (h : s.entry m x = s.entry m' x) :
    s.entry (undoAll s loops m) x = s.entry (undoAll s loops m') x := by
  induction loops generalizing m m' with
  | nil => exact h
  | cons frame more ih =>
      exact ih (LoopFrame.bound_undo.mpr hm) (LoopFrame.bound_undo.mpr hm')
        (LoopFrame.entry_undo_congr hm hm' fun _ => h)

theorem LoopFrame.entry_undo_saved {frame : LoopFrame} {m m' : Memory} (hm' : s.Bound m')
    (hscope : frame.savedScope = s.entry m frame.name)
    (hkept : ∀ x, frame.name ≠ x → s.entry m' x = s.entry m x) (x : Text) :
    s.entry (frame.undo s m') x = s.entry m x := by
  by_cases hx : frame.name = x
  · rw [← hx, entry_undo_self hm', hscope]
  · rw [entry_undo_of_ne hm' hx, hkept x hx]

/-! ## Whole runs -/

section

variable {c c' : Config} {m m' : Memory} {x : Text}

theorem Effect.bound {result : Except Failure Config} (h : Effect s p c m result m')
    (hm : s.Bound m) : s.Bound m' := by
  cases h with
  | failed e hsame => exact hm.of_sameMapping hsame
  | kept _ hloops hsame => exact hm.of_sameMapping hsame
  | assigned hi hloops hkept => exact (hkept hm).1
  | entered _ hloops hscope hname hkept => exact (hkept hm).1
  | skipped _ hloops hscope hname hsame => exact LoopFrame.bound_undo.mpr (hm.of_sameMapping hsame)
  | repeated _ hframe hloops hkept => exact (hkept hm).1
  | left _ hframe hsame => exact LoopFrame.bound_undo.mpr (hm.of_sameMapping hsame)

/-- If the loops inside some open ones were ended, an entry that is not assigned would be the same
before a step and after it, unless the step goes on with one of the loops around or ends it. -/
theorem Effect.entry_undoInner {inner inner' base : List LoopFrame}
    (h : Effect s p c m (.ok c') m') (hm : s.Bound m)
    (hx : ∀ expr source, p.program[c.pc]? ≠ some (.assign x expr source))
    (hloops : c.loops = inner ++ base) (hloops' : c'.loops = inner' ++ base)
    (hinside : ∀ frame outer, p.program[c.pc]? = some .closeLoop → c.loops = frame :: outer →
      inner ≠ []) :
    s.entry (undoAll s inner' m') x = s.entry (undoAll s inner m) x := by
  have hm' := h.bound hm
  have hstay (hsame : c'.loops = c.loops) : inner' = inner :=
    List.append_cancel_right (hloops'.symm.trans (hsame.trans hloops))
  cases h with
  | kept _ hsame hmapping =>
      rw [hstay hsame]
      exact entry_undoAll_congr hm' hm (entry_of_sameMapping hmapping x)
  | assigned hi hsame hkept =>
      rw [hstay hsame]
      refine entry_undoAll_congr hm' hm ((hkept hm).2 x ?_)
      rintro rfl
      exact hx _ _ hi
  | @entered _ _ frame _ _ hi hsame hscope hname hkept =>
      obtain rfl : inner' = frame :: inner := by
        refine List.append_cancel_right (hloops'.symm.trans ?_)
        rw [hsame, hloops]
        rfl
      rw [undoAll_cons]
      exact entry_undoAll_congr (LoopFrame.bound_undo.mpr hm') hm
        (LoopFrame.entry_undo_saved hm' hscope (hkept hm).2 x)
  | skipped _ hsame hscope hname hmapping =>
      rw [hstay hsame]
      exact entry_undoAll_congr hm' hm
        (LoopFrame.entry_undo_saved (hm.of_sameMapping hmapping) hscope
          (fun y _ => entry_of_sameMapping hmapping y) x)
  | @repeated _ _ frame _ hi hframe hsame hkept =>
      rw [hstay hsame]
      obtain ⟨first, more, rfl⟩ := List.exists_cons_of_ne_nil (hinside _ _ hi hframe)
      obtain ⟨rfl, -⟩ := List.cons.inj (hframe.symm.trans hloops)
      rw [undoAll_cons, undoAll_cons]
      exact entry_undoAll_congr (LoopFrame.bound_undo.mpr hm') (LoopFrame.bound_undo.mpr hm)
        (LoopFrame.entry_undo_congr hm' hm ((hkept hm).2 x))
  | @left _ _ frame hi hframe hmapping =>
      obtain ⟨first, more, rfl⟩ := List.exists_cons_of_ne_nil (hinside _ _ hi hframe)
      obtain ⟨rfl, hrest⟩ := List.cons.inj (hframe.symm.trans hloops)
      obtain rfl : inner' = more := List.append_cancel_right (hloops'.symm.trans hrest)
      rw [undoAll_cons]
      exact entry_undoAll_congr hm' (LoopFrame.bound_undo.mpr hm)
        (LoopFrame.entry_undo_congr (hm.of_sameMapping hmapping) hm
          fun _ => entry_of_sameMapping hmapping x)

theorem Effect.entry_undoAll (h : Effect s p c m (.ok c') m') (hm : s.Bound m)
    (hx : ∀ expr source, p.program[c.pc]? ≠ some (.assign x expr source)) :
    s.entry (undoAll s c'.loops m') x = s.entry (undoAll s c.loops m) x :=
  h.entry_undoInner hm hx (List.append_nil _).symm (List.append_nil _).symm fun _ _ _ hframe => by
    rw [hframe]
    exact List.cons_ne_nil _ _

/-- However a run goes on from where it has got to and ends, an entry that the program does not
assign is then what ending the open loops would have made it. -/
theorem Reachable.entry_runFrom {start : Memory} (hc : Reachable W ev s p start c m)
    (hlink : link p.program = .ok p.jumps) (huntouched : ScopeUntouched W ev s p start)
    (hW : CapturesRespect W s.scope) (hm : s.Bound m)
    (hx : ∀ expr source, .assign x expr source ∉ p.program) {fuel : Nat}
    {result : Except Failure (Array Text)} (h : (runFrom ev s p fuel c).Ends W m result m') :
    s.entry m' x = s.entry (undoAll s c.loops m) x := by
  induction fuel generalizing c m with
  | zero =>
      rw [runFrom_zero, Eval.Ends, unwind_apply] at h
      obtain ⟨-, rfl⟩ := Dialog.ends_done_iff.mp h
      rfl
  | succ fuel ih =>
      have hagrees := hc.agrees hlink
      by_cases hlt : c.pc < p.program.length
      · have hi := List.getElem?_eq_getElem hlt
        rw [runFrom_succ ev s p fuel hi, located_handle, Eval.ends_handle_iff] at h
        rcases h with ⟨c₁, m₁, hstep, hrest⟩ | ⟨e, m₁, hstep, hunwind⟩
        · have heffect := hc.effect hlink huntouched hW hlt hstep
          rw [ih (hc.step hlt hstep) (heffect.bound hm) hrest]
          refine heffect.entry_undoAll hm fun expr source hassign => hx expr source ?_
          exact List.mem_of_getElem? hassign
        · have heffect := hc.effect hlink huntouched hW hlt hstep
          rw [Eval.Ends, unwind_apply] at hunwind
          obtain ⟨-, rfl⟩ := Dialog.ends_done_iff.mp hunwind
          cases heffect with
          | failed _ hsame =>
              exact entry_undoAll_congr (hm.of_sameMapping hsame) hm (entry_of_sameMapping hsame x)
      · have hpc : c.pc = p.program.length :=
          Nat.le_antisymm hagrees.pc_le (Nat.le_of_not_lt hlt)
        rw [runFrom_end ev s p fuel (Nat.le_of_not_lt hlt)] at h
        obtain ⟨-, rfl⟩ := Eval.ends_pure_iff.mp h
        rw [(hagrees.stacks_nil (hpc ▸ (coherent_of_link hlink).1)).1]
        rfl

end

/-! ## Single loops -/

variable (W ev s p) in
/-- Steps between two configurations, with more than so many loops open at all times between. -/
inductive Excursion (base : Nat) : Config → Memory → Config → Memory → Prop
  | step {c c' : Config} {m m' : Memory} (hlt : c.pc < p.program.length)
      (h : (step ev s p c).Ends W m (.ok c') m') : Excursion base c m c' m'
  | more {c c₁ c' : Config} {m m₁ m' : Memory} (hlt : c.pc < p.program.length)
      (h : (Template.step ev s p c).Ends W m (.ok c₁) m₁) (habove : base < c₁.loops.length)
      (hrest : Excursion base c₁ m₁ c' m') : Excursion base c m c' m'

section

variable {c c' : Config} {m m' : Memory} {frame : LoopFrame} {inner outer : List LoopFrame}

theorem Effect.inside (h : Effect s p c m (.ok c') m') (hm : s.Bound m)
    (hloops : c.loops = inner ++ frame :: outer) :
    (∃ inner', c'.loops = inner' ++ frame :: outer) ∨
      c'.loops = outer ∧ s.entry m' frame.name = frame.savedScope ∧
        m'.names.get? frame.name = frame.savedName := by
  cases h with
  | kept _ hsame => exact .inl ⟨inner, hsame.trans hloops⟩
  | assigned _ hsame => exact .inl ⟨inner, hsame.trans hloops⟩
  | @entered _ _ first _ _ _ hfirst => exact .inl ⟨first :: inner, by rw [hfirst, hloops]; rfl⟩
  | skipped _ hsame => exact .inl ⟨inner, hsame.trans hloops⟩
  | repeated _ _ hsame => exact .inl ⟨inner, hsame.trans hloops⟩
  | @left _ m₁ first _ hfirst hsame =>
      cases inner with
      | nil =>
          rw [hfirst] at hloops
          obtain ⟨rfl, rfl⟩ := List.cons.inj hloops
          exact .inr ⟨rfl, LoopFrame.entry_undo_self (hm.of_sameMapping hsame),
            LoopFrame.names_undo_self⟩
      | cons other more =>
          rw [hfirst] at hloops
          exact .inl ⟨more, (List.cons.inj hloops).2⟩

theorem Effect.openLoop {name source : Text} {head : LoopHead} (h : Effect s p c m (.ok c') m')
    (hi : p.program[c.pc]? = some (.openLoop name head source)) (hm : s.Bound m) :
    (∃ frame, c'.loops = frame :: c.loops ∧ frame.name = name ∧
      frame.savedScope = s.entry m name ∧ frame.savedName = m.names.get? name) ∨
    c'.loops = c.loops ∧ s.entry m' name = s.entry m name ∧
      m'.names.get? name = m.names.get? name := by
  cases h with
  | kept hopen => exact absurd hi (hopen name head source)
  | assigned hi' => simp [hi] at hi'
  | repeated hi' => simp [hi] at hi'
  | left hi' => simp [hi] at hi'
  | @entered _ _ frame _ _ hi' hloops hscope hname =>
      cases hi.symm.trans hi'
      exact .inl ⟨frame, hloops, rfl, hscope, hname⟩
  | @skipped _ m₁ frame _ _ hi' hloops hscope hname hsame =>
      cases hi.symm.trans hi'
      refine .inr ⟨hloops, ?_, ?_⟩
      · rw [LoopFrame.entry_undo_self (hm.of_sameMapping hsame), hscope]
      · rw [LoopFrame.names_undo_self, hname]

theorem Excursion.inside {start : Memory} (h : Excursion W ev s p outer.length c m c' m')
    (hc : Reachable W ev s p start c m) (hlink : link p.program = .ok p.jumps)
    (huntouched : ScopeUntouched W ev s p start) (hW : CapturesRespect W s.scope) (hm : s.Bound m)
    (hloops : c.loops = inner ++ frame :: outer) :
    (Reachable W ev s p start c' m' ∧ s.Bound m') ∧
      ((∃ inner', c'.loops = inner' ++ frame :: outer) ∨
        c'.loops = outer ∧ s.entry m' frame.name = frame.savedScope ∧
          m'.names.get? frame.name = frame.savedName) := by
  induction h generalizing inner with
  | step hlt hstep =>
      have heffect := hc.effect hlink huntouched hW hlt hstep
      exact ⟨⟨hc.step hlt hstep, heffect.bound hm⟩, heffect.inside hm hloops⟩
  | more hlt hstep habove _ ih =>
      have heffect := hc.effect hlink huntouched hW hlt hstep
      rcases heffect.inside hm hloops with ⟨inner', hinner⟩ | ⟨hleft, -⟩
      · exact ih (hc.step hlt hstep) (heffect.bound hm) hinner
      · rw [hleft] at habove
        exact absurd habove (Nat.lt_irrefl _)

theorem Reachable.bound {start : Memory} (hc : Reachable W ev s p start c m)
    (hlink : link p.program = .ok p.jumps) (huntouched : ScopeUntouched W ev s p start)
    (hW : CapturesRespect W s.scope) (hstart : s.Bound start) : s.Bound m := by
  induction hc with
  | initial => exact hstart
  | step hc hlt h ih => exact (hc.effect hlink huntouched hW hlt h).bound ih

/-- From the start of a loop on, it is open with a frame that has what its variable hides, or it has
been left or was not entered, and then its variable has the entries that it had. -/
theorem Excursion.openLoop {start : Memory} {name source : Text} {head : LoopHead}
    (h : Excursion W ev s p c.loops.length c m c' m') (hc : Reachable W ev s p start c m)
    (hi : p.program[c.pc]? = some (.openLoop name head source))
    (hlink : link p.program = .ok p.jumps) (huntouched : ScopeUntouched W ev s p start)
    (hW : CapturesRespect W s.scope) (hstart : s.Bound start) :
    (Reachable W ev s p start c' m' ∧ s.Bound m') ∧
      ((∃ inner frame, c'.loops = inner ++ frame :: c.loops ∧ frame.name = name ∧
        frame.savedScope = s.entry m name) ∨
      c'.loops = c.loops ∧ s.entry m' name = s.entry m name ∧
        m'.names.get? name = m.names.get? name) := by
  have hm := hc.bound hlink huntouched hW hstart
  cases h with
  | step hlt hstep =>
      have heffect := hc.effect hlink huntouched hW hlt hstep
      refine ⟨⟨hc.step hlt hstep, heffect.bound hm⟩, ?_⟩
      rcases heffect.openLoop hi hm with ⟨frame, hloops, hname, hscope, -⟩ | hskipped
      · exact .inl ⟨[], frame, hloops, hname, hscope⟩
      · exact .inr hskipped
  | more hlt hstep habove hrest =>
      have heffect := hc.effect hlink huntouched hW hlt hstep
      rcases heffect.openLoop hi hm with ⟨frame, hloops, rfl, hscope, hnames⟩ | ⟨hloops, -⟩
      · have hopen : _ = [] ++ frame :: c.loops := hloops
        obtain ⟨hreached, hinside⟩ := hrest.inside (hc.step hlt hstep) hlink huntouched hW
          (heffect.bound hm) hopen
        refine ⟨hreached, ?_⟩
        rcases hinside with ⟨inner, hinner⟩ | ⟨hleft, hentry, hname⟩
        · exact .inl ⟨inner, frame, hinner, rfl, hscope⟩
        · exact .inr ⟨hleft, hentry.trans hscope, hname.trans hnames⟩
      · rw [hloops] at habove
        exact absurd habove (Nat.lt_irrefl _)

end

/-! ## All loops and all runs -/

theorem Action.capturesRespect (nested : Nested) (address : Nat) :
    CapturesRespect (Action.Answering nested) address where
  capture h := by rw [Action.answering_capture h]
  reference h := by rw [Action.answering_reference h]

/-- From the start of a loop in a memory on, the variable of the loop gets back what it hides. -/
structure LoopRestored (W : Answers) (ev : Evaluator) (s : Setting) (p : Compiled) (name : Text)
    (c : Config) (m : Memory) : Prop where
  /-- When the loop is not open any more, or has not been entered at all. -/
  left : ∀ c' m', Excursion W ev s p c.loops.length c m c' m' →
    c'.loops.length ≤ c.loops.length →
      c'.loops = c.loops ∧ s.entry m' name = s.entry m name ∧
        m'.names.get? name = m.names.get? name
  /-- When the loop cannot be entered. -/
  failed : ∀ e m', (step ev s p c).Ends W m (.error e) m' → s.entry m' name = s.entry m name
  /-- When a step in the loop or at its end fails, and this loop and those inside it are ended. -/
  abandoned : ∀ c₁ m₁ e m', Excursion W ev s p c.loops.length c m c₁ m₁ →
    c.loops.length < c₁.loops.length → (step ev s p c₁).Ends W m₁ (.error e) m' →
      ∃ inner m'', c₁.loops = inner ++ c.loops ∧ restoreAll s inner m' = .done (.ok ()) m'' ∧
        s.entry m'' name = s.entry m name

/-- Let no expression of a linked program write to the scope while it runs. Then each execution of a
loop gives its variable back what it hides, and however the run ends, the scope has the entries of
the start for all names that the program does not assign. -/
theorem loop_variables_restored (nested : Nested) (hlink : link p.program = .ok p.jumps)
    (globals : Names) (h : Heap) (hscope : s.scope < h.mappings.size)
    (huntouched :
      ScopeUntouched (Action.Answering nested) ev s p ⟨h, startNames globals s⟩) :
    (∀ c m name head source,
      Reachable (Action.Answering nested) ev s p ⟨h, startNames globals s⟩ c m →
        p.program[c.pc]? = some (.openLoop name head source) →
          LoopRestored (Action.Answering nested) ev s p name c m) ∧
    ∀ fuel result m', (run ev fuel globals s p h).Ends (Action.Answering nested) result m' →
      ∀ x, (∀ expr source, .assign x expr source ∉ p.program) →
        s.entry m' x = s.entry ⟨h, startNames globals s⟩ x := by
  have hW := Action.capturesRespect nested s.scope
  refine ⟨fun c m name head source hc hi => ?_, fun fuel result m' hrun x hx => ?_⟩
  · have hlt := (List.getElem?_eq_some_iff.mp hi).1
    refine ⟨fun c' m' hexcursion hle => ?_, fun e m' hfail => ?_,
      fun c₁ m₁ e m' hexcursion hlt₁ hfail => ?_⟩
    · obtain ⟨-, ⟨inner, frame, hloops, -⟩ | hleft⟩ :=
        hexcursion.openLoop hc hi hlink huntouched hW hscope
      · rw [hloops] at hle
        simp at hle
        omega
      · exact hleft
    · cases hc.effect hlink huntouched hW hlt hfail with
      | failed _ hsame => exact entry_of_sameMapping hsame name
    · obtain ⟨⟨hc₁, hm₁⟩, ⟨inner, frame, hloops, rfl, hsaved⟩ | ⟨hleft, -⟩⟩ :=
        hexcursion.openLoop hc hi hlink huntouched hW hscope
      · have hlt₁ : c₁.pc < p.program.length := by
          refine Nat.lt_of_le_of_ne (hc₁.agrees hlink).pc_le fun hpc => ?_
          have hnil := ((hc₁.agrees hlink).stacks_nil (hpc ▸ (coherent_of_link hlink).1)).1
          simp [hloops] at hnil
        -- The frame of this loop is undone last of those inside it, so that what it has counts.
        refine ⟨inner ++ [frame], _, by simp [hloops], restoreAll_apply s _ m', ?_⟩
        rw [undoAll_append, ← hsaved]
        have hm' := (hc₁.effect hlink huntouched hW hlt₁ hfail).bound hm₁
        exact LoopFrame.entry_undo_self (bound_undoAll.mpr hm')
      · rw [hleft] at hlt₁
        exact absurd hlt₁ (Nat.lt_irrefl _)
  · have hstart : s.Bound ⟨h, startNames globals s⟩ := hscope
    rcases Eval.ends_bind_iff.mp hrun with ⟨out, m₁, hfrom, hpure⟩ | ⟨e, -, hfrom⟩
    · obtain ⟨-, rfl⟩ := Eval.ends_pure_iff.mp hpure
      exact Reachable.initial.entry_runFrom hlink huntouched hW hstart hx hfrom
    · exact Reachable.initial.entry_runFrom hlink huntouched hW hstart hx hfrom

def Evaluator.plain : Evaluator where
  value code := do
    match code.expr with
    | .name n =>
      match (← Eval.names).get? n with
      | some v => return v
      | none => Eval.fault (.missingKey (Text.quoted n))
    | _ => Eval.exhausted
  effect _ := Eval.exhausted
  advance a := do
    match (← Eval.heap).iteration a with
    | .items type (v :: rest) =>
      Eval.modifyHeap fun h => h.setIteration a (.items type rest)
      return some v
    | .items _ [] =>
      Eval.modifyHeap fun h => h.setIteration a .done
      return none
    | .done => return none
    | _ => Eval.exhausted

theorem Evaluator.guarding_plain (address : Nat) : Evaluator.plain.guarding address = .plain := by
  have hvalue (code : Code) : guarded address (Evaluator.plain.value code) =
      Evaluator.plain.value code := by
    refine guarded_of_apply fun m => ?_
    obtain ⟨number, expr⟩ := code
    cases expr with
    | name n =>
        have hlookup : Evaluator.plain.value ⟨number, .name n⟩ m =
            (match m.names.get? n with
            | some v => pure v
            | none => Eval.fault (.missingKey (Text.quoted n)) : Eval Value) m := rfl
        rw [hlookup]
        cases m.names.get? n <;> exact ⟨_, m, rfl, rfl⟩
    | _ => exact ⟨_, m, rfl, rfl⟩
  have hadvance (a : Nat) : guarded address (Evaluator.plain.advance a) =
      Evaluator.plain.advance a := by
    refine guarded_of_apply fun m => ?_
    have hnext : Evaluator.plain.advance a m =
        (match m.heap.iteration a with
        | .items type (v :: rest) => do
          Eval.modifyHeap fun h => h.setIteration a (.items type rest)
          return some v
        | .items _ [] => do
          Eval.modifyHeap fun h => h.setIteration a .done
          return none
        | .done => pure none
        | _ => Eval.exhausted : Eval (Option Value)) m := rfl
    rw [hnext]
    cases m.heap.iteration a with
    | items type rest => cases rest <;> exact ⟨_, _, rfl, rfl⟩
    | _ => exact ⟨_, m, rfl, rfl⟩
  have heffect (step : StepCode) : guarded address (Evaluator.plain.effect step) =
      Evaluator.plain.effect step := guarded_of_apply fun m => ⟨_, m, rfl, rfl⟩
  simp only [guarding, hvalue, hadvance, heffect]

/-- Two loops over the values of a mapping whose variables have the same name. -/
def nestedLoops : Compiled where
  template := "nested".toList
  program := [.openLoop "x".toList (.each .values "m".toList) [],
    .openLoop "x".toList (.each .values "m".toList) [],
    .output "x".toList false [], .closeLoop, .closeLoop]
  jumps := ⟨[(0, 4), (1, 3)], [(4, 0), (3, 1)], [], []⟩
  codes := [(0, .value ⟨0, .name "m".toList⟩), (1, .value ⟨1, .name "m".toList⟩),
    (2, .value ⟨2, .name "x".toList⟩)]

def nestedHeap : Heap := {
  mappings := #[⟨true, [(.str "x".toList .shared, .bool true)]⟩,
    ⟨false, [(.none, .bool false), (.bool true, .none)]⟩] }

theorem loop_variables_restored_nestedLoops :
    LoopRestored (Action.Answering fun _ _ => throw .exhausted) .plain ⟨.none, 0⟩ nestedLoops
        "x".toList .initial ⟨nestedHeap, startNames [("m".toList, .mapping 1)] ⟨.none, 0⟩⟩ ∧
      ∃ m', (run .plain 30 [("m".toList, .mapping 1)] ⟨.none, 0⟩ nestedLoops nestedHeap).Ends
          (Action.Answering fun _ _ => throw .exhausted) (.ok "FalseFalse".toList) m' ∧
        Setting.entry ⟨.none, 0⟩ m' "x".toList = some (.bool true) := by
  have huntouched : ScopeUntouched (Action.Answering fun _ _ => throw .exhausted) .plain
      ⟨.none, 0⟩ nestedLoops ⟨nestedHeap, startNames [("m".toList, .mapping 1)] ⟨.none, 0⟩⟩ := by
    intro c m _ result m' h
    rwa [Evaluator.guarding_plain]
  have hlink : link nestedLoops.program = .ok nestedLoops.jumps := rfl
  have hassigned (expr source : Text) :
      .assign "x".toList expr source ∉ nestedLoops.program := nofun
  obtain ⟨hloops, hentries⟩ := loop_variables_restored _ hlink _ _ (by decide) huntouched
  refine ⟨hloops _ _ _ _ _ .initial rfl, ?_⟩
  have hgives : (run .plain 30 [("m".toList, .mapping 1)] ⟨.none, 0⟩ nestedLoops
      nestedHeap).gives "FalseFalse".toList = true := by decide +kernel
  obtain ⟨m', hends⟩ := Dialog.ends_of_gives hgives
  refine ⟨m', hends, ?_⟩
  rw [hentries 30 _ m' hends "x".toList hassigned]
  rfl

end Stencil.Template
