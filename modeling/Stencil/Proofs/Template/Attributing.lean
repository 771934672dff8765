import Stencil.Proofs.Template.Safety

/-!
# What a failure is attributed to

A step evaluates the expressions of one or more instructions: its own, those of the loop that it
ends, or those of the branches that it tries. It fails exactly when one of these fails, and the
failure is reported for the instruction of the step. Of the directives that are named so, only that
of a condition tried after the first one is not its own.
-/

namespace Stencil.Template

variable {W : Answers} {ev : Evaluator} {s : Setting} {p : Compiled}

/-! ## Tasks -/

/-- What a step does with the expressions of one instruction. -/
inductive Task where
  | leaf (first : Leaf)
  | enter (name : Text) (head : LoopHead)
  | again (frame : LoopFrame)
  | test

variable (W ev s p) in
/-- A task that is performed with the expressions of the instruction `q` fails. -/
def Task.Fails (q : Nat) (m : Memory) (e : Failure) (m' : Memory) : Task → Prop
  | leaf first => (first.exec ev s p q : Eval Marked).Ends W m (.error e) m'
  | enter name head => (enterLoop ev s p q name head).Ends W m (.error e) m'
  | again frame => (nextTurn ev s p q frame).Ends W m (.error e) m'
  | test => (do holds ev (← valueCode p q)).Ends W m (.error e) m'

variable (W ev p) in
/-- The search for a branch comes from a first branch to a later one, with some memory there. -/
inductive Tries (first : Nat) (m : Memory) : (q : Nat) → Memory → Prop
  | first : Tries first m first m
  | next {q next : Nat} {m₁ m₂ : Memory} {i : Instruction} (htries : Tries first m q m₁)
      (hi : p.program[q]? = some i) (hcond : i.hasCondition)
      (hfalse : (do holds ev (← valueCode p q)).Ends W m₁ (.ok false) m₂)
      (hnext : p.jumps.nextBranch.lookup q = some next) : Tries first m next m₂

variable (W ev p) in
/-- In its step a configuration performs a task for an instruction, from some memory on. -/
inductive Performs (c : Config) (m : Memory) : (q : Nat) → Task → Memory → Prop
  | leaf {first : Leaf} (hi : p.program[c.pc]? = some first.instruction) :
      Performs c m c.pc (.leaf first) m
  | enter {name source : Text} {head : LoopHead}
      (hi : p.program[c.pc]? = some (.openLoop name head source)) :
      Performs c m c.pc (.enter name head) m
  | again {frame : LoopFrame} {outer : List LoopFrame} {start : Nat}
      (hi : p.program[c.pc]? = some .closeLoop) (hloops : c.loops = frame :: outer)
      (hstart : p.jumps.loopOpen.lookup c.pc = some start) : Performs c m start (.again frame) m
  | test {cond source : Text} {q : Nat} {m' : Memory} {i : Instruction}
      (hi : p.program[c.pc]? = some (.openIf cond source)) (htries : Tries W ev p c.pc m q m')
      (hq : p.program[q]? = some i) (hcond : i.hasCondition) : Performs c m q .test m'

/-! ## Searching a branch -/

theorem Tries.enterBranch {around : List Instruction} {fuel first q : Nat} {m m₁ : Memory}
    (h : Tries W ev p first m q m₁) (henters : Enters p around fuel first) :
    ∃ fuel', Enters p around fuel' q ∧ ∀ {result m'},
      (enterBranch ev p fuel' q).Ends W m₁ result m' →
        (enterBranch ev p fuel first).Ends W m result m' := by
  induction h with
  | first => exact ⟨fuel, henters, id⟩
  | @next q next m₁ m₂ i _ hi hcond hfalse hnext ih =>
      obtain ⟨fuel', hq, hfrom⟩ := ih
      cases hq with
      | unconditional hi' hcond' =>
          cases hi.symm.trans hi'
          exact absurd hcond hcond'
      | @conditional fuel' _ _ _ _ _ _ hnext' hmore =>
          cases hnext.symm.trans hnext'
          refine ⟨fuel', hmore, fun h => hfrom ?_⟩
          rw [enterBranch_eq ev p fuel' hi hcond hnext, Eval.ends_bind_iff]
          exact .inl ⟨false, m₂, hfalse, h⟩

theorem ends_enterBranch_error {around : List Instruction} {fuel first q : Nat}
    {m m₁ m' : Memory} {e : Failure} (henters : Enters p around fuel q)
    (htries : Tries W ev p first m q m₁)
    (h : (enterBranch ev p fuel q).Ends W m₁ (.error e) m') :
    ∃ q' i m₂, Tries W ev p first m q' m₂ ∧ p.program[q']? = some i ∧ i.hasCondition ∧
      (do holds ev (← valueCode p q')).Ends W m₂ (.error e) m' := by
  induction henters generalizing m₁ with
  | @unconditional fuel q i hi hcond _ =>
      rw [enterBranch_of_not_hasCondition ev p fuel hi hcond, Eval.ends_pure_iff] at h
      cases h.1
  | @conditional fuel q next i hi hcond _ hnext _ ih =>
      rw [enterBranch_eq ev p fuel hi hcond hnext, Eval.ends_bind_iff] at h
      rcases h with ⟨first, m₂, htest, hrest⟩ | ⟨_, he, htest⟩
      · cases first with
        | true => cases (Eval.ends_pure_iff.mp hrest).1
        | false => exact ih (htries.next hi hcond htest hnext) hrest
      · cases he
        exact ⟨q, i, m₁, htries, hi, hcond, htest⟩

/-! ## Failing steps -/

theorem ends_step_error_iff {c : Config} {m m' : Memory} {i : Instruction} {e : Failure}
    (hc : c.Agrees p) (hi : p.program[c.pc]? = some i) (hcoherent : Coherent p c.pc i) :
    (step ev s p c).Ends W m (.error e) m' ↔
      ∃ q task m₁, Performs W ev p c m q task m₁ ∧
        task.Fails W ev s p q m₁ e m' := by
  constructor
  · intro h
    have hleaf (first : Leaf) (hfirst : i = first.instruction) :
        ∃ q task m₁, Performs W ev p c m q task m₁ ∧
          task.Fails W ev s p q m₁ e m' := by
      rw [Leaf.step_eq (hfirst ▸ hi), Eval.ends_bind_iff] at h
      rcases h with ⟨o, m₁, -, hrest⟩ | ⟨_, he, hexec⟩
      · cases (Eval.ends_pure_iff.mp hrest).1
      · cases he
        exact ⟨c.pc, .leaf first, m, .leaf (hfirst ▸ hi), hexec⟩
    cases i with
    | literal t => exact hleaf (.literal t) rfl
    | output expr escape source => exact hleaf (.output expr escape source) rfl
    | assign name expr source => exact hleaf (.assign name expr source) rfl
    | capture expr source => exact hleaf (.capture expr source) rfl
    | openLoop name head source =>
        obtain ⟨last, hlast, -⟩ := hcoherent
        rcases ends_openLoop hi hlast h with
          ⟨_, -, he⟩ | ⟨_, _, -, -, he⟩ | ⟨_, henter, he⟩ <;> cases he
        exact ⟨c.pc, .enter name head, m, .enter hi, henter⟩
    | closeLoop =>
        obtain ⟨frame, loops, hloops⟩ := hc.loops_of_closeLoop hcoherent
        obtain ⟨start, -, -, -, -, hstart, -⟩ := hcoherent
        rcases ends_closeLoop hi hloops hstart h with
          ⟨-, he⟩ | ⟨_, -, -, he⟩ | ⟨_, hnext, he⟩ <;> cases he
        exact ⟨start, .again frame, m, .again hi hloops hstart, hnext⟩
    | openIf cond source =>
        rw [step_openIf ev s p hi, Eval.ends_bind_iff] at h
        rcases h with ⟨target, m₁, -, hrest⟩ | ⟨_, he, henter⟩
        · cases (Eval.ends_pure_iff.mp hrest).1
        · cases he
          obtain ⟨q, j, m₁, htries, hq, hcond, htest⟩ :=
            ends_enterBranch_error hcoherent .first henter
          exact ⟨q, .test, m₁, .test hi htries hq hcond, htest⟩
    | elseIf | otherwise =>
        obtain ⟨last, hlast, -⟩ := hcoherent
        simp [Template.step, hi, jump_eq hlast] at h
    | closeIf | openHasContent => simp [Template.step, hi] at h
    | openContent =>
        obtain ⟨frame, outer, hblocks⟩ := hc.blocks_of_wrappers hcoherent
        simp [Template.step, hi, hblocks] at h
    | closeContent =>
        obtain ⟨frame, outer, hblocks⟩ := hc.blocks_of_wrappers hcoherent.1
        simp [Template.step, hi, hblocks] at h
    | closeHasContent =>
        obtain ⟨around, haround⟩ := hcoherent
        obtain ⟨frame, outer, hblocks⟩ := hc.blocks_of_wrappers (by simp [haround])
        simp [Template.step, hi, hblocks] at h
  · rintro ⟨q, task, m₁, hperforms, hfails⟩
    cases hperforms with
    | leaf hfirst =>
        rw [Leaf.step_eq hfirst, Eval.ends_bind_iff]
        exact .inr ⟨e, rfl, hfails⟩
    | @enter name _ head hopen =>
        cases hi.symm.trans hopen
        obtain ⟨last, hlast, -⟩ := hcoherent
        rw [step_openLoop ev s p hi, openLoop_eq ev s p hlast, Eval.ends_bind_iff]
        exact .inr ⟨e, rfl, hfails⟩
    | again hclose hloops hstart =>
        rw [step_closeLoop ev s p hclose, closeLoop_eq ev s p hloops hstart, Eval.ends_bind_iff]
        exact .inr ⟨e, rfl, hfails⟩
    | @test cond source _ _ j hopen htries hq hcond =>
        cases hi.symm.trans hopen
        obtain ⟨fuel, henters, hfrom⟩ := htries.enterBranch hcoherent
        rw [step_openIf ev s p hi, Eval.ends_bind_iff]
        refine .inr ⟨e, rfl, hfrom ?_⟩
        cases henters with
        | unconditional hi' hcond' =>
            cases hq.symm.trans hi'
            exact absurd hcond hcond'
        | conditional _ _ _ hnext _ =>
            rw [enterBranch_eq ev p _ hq hcond hnext, Eval.ends_bind_iff]
            exact .inr ⟨e, rfl, hfails⟩

/-! ## Later branches -/

def NotFirst (program : Program) (q : Nat) : Prop :=
  ∀ cond source, program[q]? ≠ some (.openIf cond source)

theorem notFirst_of_getElem? {program : Program} {q : Nat} {i : Instruction}
    (hi : program[q]? = some i) (hnot : ∀ cond source, i ≠ .openIf cond source) :
    NotFirst program q := by
  intro cond source h
  cases hi.symm.trans h
  exact hnot cond source rfl

theorem mem_dropLast_of_mem_branchJumps {target : Nat} {branches : List Nat} {entry : Nat × Nat}
    (h : entry ∈ LinkState.branchJumps target branches) :
    entry.2 = target ∨ entry.2 ∈ branches.dropLast := by
  induction branches generalizing target with
  | nil => cases h
  | cons pc more ih =>
      rcases List.mem_cons.mp h with rfl | hmore
      · exact .inl rfl
      · cases more with
        | nil => cases hmore
        | cons next more =>
            rw [List.dropLast_cons_cons]
            rcases ih hmore with htarget | hmem
            · exact .inr (htarget ▸ List.mem_cons_self)
            · exact .inr (List.mem_cons_of_mem _ hmem)

/-- All branches of open blocks but their first ones, and all that branches lead to, start no
condition. -/
structure LaterBranches (program : Program) (st : LinkState) : Prop where
  stacked : ∀ block ∈ st.stack, ∀ q ∈ block.branches.dropLast, NotFirst program q
  written : ∀ entry ∈ st.jumps.nextBranch, NotFirst program entry.2

theorem LaterBranches.step {program : Program} {st st' : LinkState} {pc : Nat} {i : Instruction}
    (hst : LaterBranches program st) (hi : program[pc]? = some i) (h : st.step pc i = .ok st') :
    LaterBranches program st' := by
  have hpush (kind : BlockKind) (branches : List Nat) (hbranches : branches.dropLast = []) :
      LaterBranches program (st.push kind pc branches) := by
    refine ⟨?_, hst.written⟩
    rintro block (_ | ⟨_, hmem⟩) q hq
    · rw [hbranches] at hq
      cases hq
    · exact hst.stacked block hmem q hq
  cases i with
  | literal | output | assign | capture =>
      cases h
      exact hst
  | openLoop | openHasContent | openIf =>
      cases h
      exact hpush _ _ rfl
  | openContent =>
      simp only [LinkState.step] at h
      split at h
      · cases h
        exact hpush _ _ rfl
      · cases h
  | elseIf | otherwise =>
      obtain ⟨block, outer, ⟨hs, -⟩, -, rfl⟩ := LinkState.branch_eq_ok_iff.mp h
      have hpc : NotFirst program pc := notFirst_of_getElem? hi (by simp)
      have hstacked := hst.stacked
      rw [hs] at hstacked
      refine ⟨?_, hst.written⟩
      rintro _ (_ | ⟨_, hmem⟩) q hq
      · cases hbranches : block.branches with
        | nil => simp [hbranches] at hq
        | cons last more =>
            rw [hbranches, List.dropLast_cons_cons] at hq
            rcases List.mem_cons.mp hq with rfl | hq
            · exact hpc
            · exact hstacked block List.mem_cons_self q (hbranches ▸ hq)
      · exact hstacked _ (List.mem_cons_of_mem _ hmem) q hq
  | closeLoop =>
      obtain ⟨block, outer, ⟨hs, -⟩, rfl⟩ := LinkState.closeLoop_eq_ok_iff.mp h
      exact ⟨fun b hb => hst.stacked b (hs ▸ List.mem_cons_of_mem _ hb), hst.written⟩
  | closeIf =>
      obtain ⟨block, outer, ⟨hs, -⟩, rfl⟩ := LinkState.closeBranch_eq_ok_iff.mp h
      refine ⟨fun b hb => hst.stacked b (hs ▸ List.mem_cons_of_mem _ hb), fun entry hentry => ?_⟩
      rcases List.mem_append.mp hentry with hnew | hold
      · rcases mem_dropLast_of_mem_branchJumps hnew with htarget | hmem
        · exact htarget ▸ notFirst_of_getElem? hi (by simp)
        · exact hst.stacked block (hs ▸ List.mem_cons_self) entry.2 hmem
      · exact hst.written entry hold
  | closeContent | closeHasContent =>
      obtain ⟨block, outer, ⟨hs, -⟩, rfl⟩ := LinkState.close_eq_ok_iff.mp h
      exact ⟨fun b hb => hst.stacked b (hs ▸ List.mem_cons_of_mem _ hb), hst.written⟩

theorem LaterBranches.linkFrom {program rest : Program} {st final : LinkState} {pc : Nat}
    (hst : LaterBranches program st) (hrest : program.drop pc = rest)
    (h : Template.linkFrom st pc rest = .ok final) : LaterBranches program final := by
  induction rest generalizing st pc with
  | nil =>
      cases h
      exact hst
  | cons i more ih =>
      obtain ⟨hi, hmore⟩ := drop_succ_of_drop_eq_cons hrest
      obtain ⟨st', hstep, hlinked⟩ := linkFrom_cons_eq_ok_iff.mp h
      exact ih (hst.step hi hstep) hmore hlinked

theorem notFirst_of_nextBranch (hlink : link p.program = .ok p.jumps) {q next : Nat}
    (hnext : p.jumps.nextBranch.lookup q = some next) : NotFirst p.program next := by
  have hinitial : LaterBranches p.program .initial := ⟨by simp [LinkState.initial],
    by simp [LinkState.initial, Jumps.empty]⟩
  have hfinal := hinitial.linkFrom List.drop_zero (link_eq_ok_iff.mp hlink)
  obtain ⟨before, after, hentries, -⟩ := List.lookup_eq_some_iff.mp hnext
  exact hfinal.written (q, next) (by simp [hentries])

/-! ## Reports -/

/-- The directive that an instruction was made from, if it carries one. -/
def Compiled.directive (p : Compiled) (pc : Nat) : Text :=
  (p.program[pc]?.map Instruction.source).getD []

/-- The directive of a step is that of each instruction for which the step performs a task, or there
is none, or the instruction is a later branch of the condition that the step is for. -/
theorem Performs.directive {c : Config} {m m₁ : Memory} {q : Nat} {task : Task}
    (hlink : link p.program = .ok p.jumps) (h : Performs W ev p c m q task m₁) :
    p.directive c.pc = [] ∨ p.directive c.pc = p.directive q ∨
      (∃ cond source, p.program[q]? = some (.elseIf cond source)) ∧
        ∃ cond, p.program[c.pc]? = some (.openIf cond (p.directive c.pc)) := by
  cases h with
  | leaf | enter => exact .inr (.inl rfl)
  | again hi => exact .inl (by simp [Compiled.directive, hi, Instruction.source])
  | @test cond source _ _ i hi htries hq hcond =>
      cases htries with
      | first => exact .inr (.inl rfl)
      | next _ _ _ _ hnext =>
          have hfirst := notFirst_of_nextBranch hlink hnext
          refine .inr (.inr ⟨?_, cond, by simp [Compiled.directive, hi, Instruction.source]⟩)
          cases i with
          | elseIf cond source => exact ⟨cond, source, hq⟩
          | openIf cond source => exact absurd hq (hfirst cond source)
          | _ => cases hcond

theorem Performs.lt {c : Config} {m m₁ : Memory} {q : Nat} {task : Task}
    (h : Performs W ev p c m q task m₁) : c.pc < p.program.length := by
  cases h with
  | leaf hi | enter hi | again hi | test hi => exact (List.getElem?_eq_some_iff.mp hi).1

theorem Reachable.ends_runFrom {start m : Memory} {c : Config}
    (hc : Reachable W ev s p start c m) :
    ∃ n, ∀ {fuel result m'}, (runFrom ev s p fuel c).Ends W m result m' →
      (runFrom ev s p (n + fuel) .initial).Ends W start result m' := by
  induction hc with
  | initial => exact ⟨0, fun h => (Nat.zero_add _).symm ▸ h⟩
  | @step c c' m m₁ _ hlt hstep ih =>
      obtain ⟨n, hfrom⟩ := ih
      refine ⟨n + 1, fun {fuel result m'} h => ?_⟩
      rw [show n + 1 + fuel = n + (fuel + 1) by omega]
      refine hfrom ?_
      rw [runFrom_succ ev s p fuel (List.getElem?_eq_getElem hlt), located_handle,
        Eval.ends_handle_iff]
      exact .inl ⟨c', m₁, hstep, h⟩

theorem ends_runFrom_of_fails {c : Config} {m m' : Memory} {e : Failure}
    (hlt : c.pc < p.program.length) (h : (step ev s p c).Ends W m (.error e) m') (fuel : Nat) :
    (runFrom ev s p (fuel + 1) c).Ends W m (.error (locate p c.pc e)) (undoAll s c.loops m') := by
  have hi := List.getElem?_eq_getElem hlt
  rw [runFrom_succ ev s p fuel hi, located_handle, Eval.ends_handle_iff]
  refine .inr ⟨e, m', h, ?_⟩
  rw [Eval.Ends, unwind_apply, locate_eq_inDirective hi]
  exact .done _ _

theorem Reachable.of_fails {start m m' : Memory} {c : Config} {e : Failure} {fuel : Nat}
    (hc : Reachable W ev s p start c m)
    (h : (runFrom ev s p fuel c).Ends W m (.error e) m') (he : e ≠ .exhausted) :
    ∃ c₁ m₁ cause m₂, Reachable W ev s p start c₁ m₁ ∧ c₁.pc < p.program.length ∧
      (Template.step ev s p c₁).Ends W m₁ (.error cause) m₂ ∧ e = locate p c₁.pc cause := by
  induction fuel generalizing c m with
  | zero =>
      rw [runFrom_zero, Eval.Ends, unwind_apply] at h
      obtain ⟨hexhausted, -⟩ := Dialog.ends_done_iff.mp h
      exact absurd (Except.error.inj hexhausted) he
  | succ fuel ih =>
      by_cases hlt : c.pc < p.program.length
      · have hi := List.getElem?_eq_getElem hlt
        rw [runFrom_succ ev s p fuel hi, located_handle, Eval.ends_handle_iff] at h
        rcases h with ⟨c₁, m₁, hstep, hrest⟩ | ⟨cause, m₁, hstep, hunwind⟩
        · exact ih (hc.step hlt hstep) hrest
        · rw [Eval.Ends, unwind_apply, ← locate_eq_inDirective hi] at hunwind
          obtain ⟨hlocated, -⟩ := Dialog.ends_done_iff.mp hunwind
          exact ⟨c, m, cause, m₁, hc, hlt, hstep, Except.error.inj hlocated⟩
      · rw [runFrom_end ev s p fuel (Nat.le_of_not_lt hlt)] at h
        cases (Eval.ends_pure_iff.mp h).1

/-- In a run of a linked program each fault of an expression becomes an error with the directive of
the step, which is empty or that of the instruction with the expression, unless the expression is a
condition behind the first one: then it is the directive of the first one. And each error of a run
comes from such a failure. -/
theorem render_error_directive (hlink : link p.program = .ok p.jumps) (W : Answers) (ev : Evaluator)
    (s : Setting) (start : Memory) :
    (∀ c m q task m₁ f m', Reachable W ev s p start c m → Performs W ev p c m q task m₁ →
      task.Fails W ev s p q m₁ (.fault f) m' →
        (∃ n, ∀ fuel, (runFrom ev s p (n + fuel) .initial).Ends W start
          (.error (.render p.template (p.directive c.pc) f)) (undoAll s c.loops m')) ∧
        (p.directive c.pc = [] ∨ p.directive c.pc = p.directive q ∨
          (∃ cond source, p.program[q]? = some (.elseIf cond source)) ∧
            ∃ cond, p.program[c.pc]? = some (.openIf cond (p.directive c.pc)))) ∧
    ∀ fuel e m', (runFrom ev s p fuel .initial).Ends W start (.error e) m' → e ≠ .exhausted →
      ∃ c m q task m₁ cause m₂, Reachable W ev s p start c m ∧ Performs W ev p c m q task m₁ ∧
        task.Fails W ev s p q m₁ cause m₂ ∧ e = locate p c.pc cause := by
  obtain ⟨-, hcoherent⟩ := coherent_of_link hlink
  constructor
  · intro c m q task m₁ f m' hc hperforms hfails
    have hlt := hperforms.lt
    have hi := List.getElem?_eq_getElem hlt
    have hstep := (ends_step_error_iff (hc.agrees hlink) hi (hcoherent hi)).mpr
      ⟨q, task, m₁, hperforms, hfails⟩
    obtain ⟨n, hfrom⟩ := hc.ends_runFrom
    refine ⟨⟨n + 1, fun fuel => ?_⟩, hperforms.directive hlink⟩
    rw [show n + 1 + fuel = n + (fuel + 1) by omega]
    exact hfrom (ends_runFrom_of_fails hlt hstep fuel)
  · intro fuel e m' hrun he
    obtain ⟨c, m, cause, m₂, hc, hlt, hstep, hlocated⟩ := Reachable.initial.of_fails hrun he
    have hi := List.getElem?_eq_getElem hlt
    obtain ⟨q, task, m₁, hperforms, hfails⟩ :=
      (ends_step_error_iff (hc.agrees hlink) hi (hcoherent hi)).mp hstep
    exact ⟨c, m, q, task, m₁, cause, m₂, hc, hperforms, hfails, hlocated⟩

/-- A loop whose step fails at the end of the first turn. -/
def brokenStep : Compiled where
  template := "loop".toList
  program := [.openLoop "i".toList (.range "yes".toList "yes".toList "zero".toList)
    "{for i = yes; yes; zero}".toList, .literal "x".toList, .closeLoop]
  jumps := ⟨[(0, 2)], [(2, 0)], [], []⟩
  codes := [(0, .range ⟨0, .name "yes".toList⟩ ⟨1, .name "yes".toList⟩
    ⟨2, [.effect (.name "zero".toList)]⟩)]

theorem render_error_directive_brokenStep :
    ∃ n m', ∀ fuel, (runFrom (.standard 9) ⟨.none, 0⟩ brokenStep (n + fuel) .initial).Ends
      (fun _ _ _ _ => False) ⟨{ mappings := #[⟨true, []⟩] }, [("yes".toList, .bool true)]⟩
      (.error (.render "loop".toList [] (.unknownName "zero".toList))) m' := by
  have hlink : link brokenStep.program = .ok brokenStep.jumps := rfl
  obtain ⟨hreports, -⟩ := render_error_directive hlink (fun _ _ _ _ => False) (.standard 9)
    ⟨.none, 0⟩ ⟨{ mappings := #[⟨true, []⟩] }, [("yes".toList, .bool true)]⟩
  obtain ⟨⟨n, hruns⟩, -⟩ := hreports _ _ _ _ _ _ _
    (.step (.step .initial (by decide) (.done _ _)) (by decide) (.done _ _))
    (.again rfl rfl rfl) (.done _ _)
  exact ⟨n, _, hruns⟩

/-- A condition whose second branch fails. -/
def lateCondition : Compiled where
  template := "late".toList
  program := [.openIf "no".toList "{if no}".toList, .literal "a".toList,
    .elseIf "zero".toList "{else if zero}".toList, .literal "b".toList, .closeIf]
  jumps := ⟨[], [], [(2, 4), (0, 2)], [(2, 4)]⟩
  codes := [(0, .value ⟨0, .name "no".toList⟩), (2, .value ⟨1, .name "zero".toList⟩)]

theorem other_directive_lateCondition :
    link lateCondition.program = .ok lateCondition.jumps ∧
      ∃ c m q task m₁ f m' fuel,
        Reachable (fun _ _ _ _ => False) (.standard 9) ⟨.none, 0⟩ lateCondition
            ⟨{ mappings := #[⟨true, []⟩] }, [("no".toList, .bool false)]⟩ c m ∧
          Performs (fun _ _ _ _ => False) (.standard 9) lateCondition c m q task m₁ ∧
          task.Fails (fun _ _ _ _ => False) (.standard 9) ⟨.none, 0⟩ lateCondition q m₁
            (.fault f) m' ∧
          (runFrom (.standard 9) ⟨.none, 0⟩ lateCondition fuel .initial).Ends
            (fun _ _ _ _ => False)
            ⟨{ mappings := #[⟨true, []⟩] }, [("no".toList, .bool false)]⟩
            (.error (.render "late".toList "{if no}".toList f)) m' ∧
          lateCondition.directive q = "{else if zero}".toList := by
  exact ⟨rfl, .initial, _, 2, .test, _, .unknownName "zero".toList, _, 1, .initial,
    .test rfl (.next .first rfl rfl (.done _ _) rfl) rfl rfl, .done _ _, .done _ _, rfl⟩

end Stencil.Template
