import Mathlib.Data.Set.Basic
import Mathlib.Tactic.IntervalCases
import Stencil.Proofs.Engine.Onward
import Stencil.Proofs.Template.Attributing
import Stencil.Proofs.Template.Grammar

/-!
# Runs that halt

A program halts if all its loops go through collections, however much its evaluations may take. Its
tree is run from the front: what stands behind a part halts for any memory in which the open loops
have no more items left, and then so does the part. The turns of a loop are counted down by the
items that it has left.
-/

namespace Stencil.Template

variable {W : Answers} {ev : Evaluator} {bounds : Set Nat} {s : Setting} {p : Compiled} {c : Config}
  {m start : Memory}

/-! ## Steps and runs

Evaluations take any of some bounds. If they may take all of them, nothing depends on a bound: what
ends at all ends with one of them. -/

variable (W bounds s p) in
/-- With one of the bounds a step ends in this way, and not because of the bound. -/
def StepsTo (c : Config) (m : Memory) (result : Except Failure Config) (m' : Memory) : Prop :=
  result ≠ .error .exhausted ∧ ∃ fuel ∈ bounds, (step (.standard fuel) s p c).Ends W m result m'

variable (W bounds s p) in
/-- A run gets here from its start with a memory, each step of it with one of the bounds. -/
inductive Arrives (start : Memory) : Config → Memory → Prop
  | initial : Arrives start .initial start
  | step {c c' : Config} {m m' : Memory} (hc : Arrives start c m) (hlt : c.pc < p.program.length)
      (h : StepsTo W bounds s p c m (.ok c') m') : Arrives start c' m'

variable (W bounds s p) in
/-- However a run goes on from here, its steps come to an end. -/
inductive Halts : Config → Memory → Prop
  | atEnd {c : Config} {m : Memory} (h : p.program.length ≤ c.pc) : Halts c m
  | step {c : Config} {m : Memory}
      (hends : ∀ fuel ∈ bounds, ∃ result m', (step (.standard fuel) s p c).Ends W m result m')
      (h : ∀ c' m', StepsTo W bounds s p c m (.ok c') m' → Halts c' m') : Halts c m

variable (W bounds s p) in
/-- Wherever a run gets, the evaluations of the next step end. -/
def EvaluationsEnd (start : Memory) : Prop :=
  ∀ {c m}, Arrives W bounds s p start c m → c.pc < p.program.length →
    ∃ result m', StepsTo W bounds s p c m result m'

variable (W bounds s p) in
/-- A run comes to the end of its program or to a step that fails. -/
def ComesToEnd (start : Memory) : Prop :=
  ∃ c m, Arrives W bounds s p start c m ∧
    (p.program.length ≤ c.pc ∨ ∃ e m', StepsTo W bounds s p c m (.error e) m')

def Compiled.WithoutRanges (p : Compiled) : Prop :=
  ∀ name init cond step source, .openLoop name (.range init cond step) source ∉ p.program

variable (W bounds s p) in
/-- Loops go through collections that nobody makes longer while they do. -/
structure OverCollections (start : Memory) : Prop where
  items : ∀ {c m}, Arrives W bounds s p start c m → ∀ {name mode iterable source},
    p.program[c.pc]? = some (.openLoop name (.each mode iterable) source) →
      ∀ fuel ∈ bounds, ∀ code v m', p.codes.lookup c.pc = some (.value code) →
        ((Evaluator.standard fuel).value code).Ends W m (.ok v) m' → m'.heap.HasItems v
  lists : ∀ {c m c' m'}, Arrives W bounds s p start c m →
    StepsTo W bounds s p c m (.ok c') m' → c.KeepsLists m.heap m'.heap

/-! ## Where steps lead -/

def Instruction.isStraight : Instruction → Bool
  | .openLoop .. | .closeLoop | .openIf .. | .elseIf .. | .otherwise => false
  | _ => true

theorem ends_step_of_isStraight {i : Instruction} {c' : Config} {m' : Memory}
    (hi : p.program[c.pc]? = some i) (hstraight : i.isStraight)
    (h : (step ev s p c).Ends W m (.ok c') m') : c'.pc = c.pc + 1 ∧ c'.loops = c.loops := by
  have hleaf (first : Leaf) (hfirst : i = first.instruction) :
      c'.pc = c.pc + 1 ∧ c'.loops = c.loops := by
    rw [Leaf.step_eq (hfirst ▸ hi), Eval.ends_bind_ok_iff] at h
    obtain ⟨o, m₁, -, hrest⟩ := h
    obtain ⟨hc', -⟩ := Eval.ends_pure_iff.mp hrest
    cases hc'
    exact ⟨rfl, rfl⟩
  cases i with
  | literal t => exact hleaf (.literal t) rfl
  | output expr escape source => exact hleaf (.output expr escape source) rfl
  | assign name expr source => exact hleaf (.assign name expr source) rfl
  | capture expr source => exact hleaf (.capture expr source) rfl
  | closeIf | openHasContent =>
      simp only [step, hi, Eval.ends_pure_iff] at h
      cases h.1
      exact ⟨rfl, rfl⟩
  | openContent | closeContent | closeHasContent =>
      simp only [step, hi] at h
      split at h
      · cases (Eval.ends_fail_iff.mp h).1
      · cases (Eval.ends_pure_iff.mp h).1
        exact ⟨rfl, rfl⟩
  | openLoop | closeLoop | openIf | elseIf | otherwise => cases hstraight

section

variable {k pc target : Nat} {i : Instruction} {m' : Memory}
  (h : (enterBranch ev p k pc).Ends W m (.ok target) m')

include h

theorem ends_enterBranch_of_not_hasCondition (hi : p.program[pc]? = some i)
    (hcond : ¬ i.hasCondition) : target = pc + 1 := by
  cases k with
  | zero => cases (Eval.ends_fail_iff.mp h).1
  | succ k =>
      rw [enterBranch_of_not_hasCondition ev p k hi hcond] at h
      exact Except.ok.inj (Eval.ends_pure_iff.mp h).1

theorem ends_enterBranch_of_hasCondition {next : Nat} (hi : p.program[pc]? = some i)
    (hcond : i.hasCondition) (hnext : p.jumps.nextBranch.lookup pc = some next) :
    target = pc + 1 ∨ ∃ k' m₁, (enterBranch ev p k' next).Ends W m₁ (.ok target) m' := by
  cases k with
  | zero => cases (Eval.ends_fail_iff.mp h).1
  | succ k =>
      rw [enterBranch_eq ev p k hi hcond hnext, Eval.ends_bind_ok_iff] at h
      obtain ⟨first, m₁, -, hrest⟩ := h
      cases first with
      | true => exact .inl (Except.ok.inj (Eval.ends_pure_iff.mp hrest).1)
      | false => exact .inr ⟨k, m₁, hrest⟩

end

/-! ## Parts that halt -/

variable (W bounds s p start) in
/-- A run that comes to an instruction with these loops open halts, if they have no more items left
than in a memory. -/
def HaltsFrom (pc : Nat) (loops : List LoopFrame) (m : Memory) : Prop :=
  ∀ c m', Arrives W bounds s p start c m' → c.pc = pc → c.loops = loops →
    Advanced loops m.heap m'.heap → Halts W bounds s p c m'

section

variable {pc : Nat} {loops : List LoopFrame} {i : Instruction}

theorem HaltsFrom.of_advanced {m' : Memory} (h : HaltsFrom W bounds s p start pc loops m)
    (hadvanced : Advanced loops m.heap m'.heap) : HaltsFrom W bounds s p start pc loops m' :=
  fun c m' hc hpc hloops hmore => h c m' hc hpc hloops (hadvanced.trans hmore)

variable (hW : W.Onward) (hover : OverCollections W bounds s p start)

include hW hover

theorem Arrives.halts (hc : Arrives W bounds s p start c m)
    (hlt : c.pc < p.program.length)
    (h : ∀ fuel ∈ bounds, ∀ c' m', (Template.step (.standard fuel) s p c).Ends W m (.ok c') m' →
      Arrives W bounds s p start c' m' → Advanced c.loops m.heap m'.heap →
        Halts W bounds s p c' m') :
    Halts W bounds s p c m := by
  refine .step (fun fuel _ => Eval.exists_ends hW _ m) fun c' m' hsteps => ?_
  obtain ⟨-, fuel, hfuel, hstep⟩ := id hsteps
  exact h fuel hfuel c' m' hstep (hc.step hlt hsteps)
    (advanced_of_step hW (hover.lists hc hsteps) hstep)

theorem haltsFrom_of_moves {pc' : Nat} (hi : p.program[pc]? = some i)
    (hmoves : ∀ {fuel c m c' m'}, c.pc = pc →
      (step (.standard fuel) s p c).Ends W m (.ok c') m' → c'.pc = pc' ∧ c'.loops = c.loops)
    (hend : HaltsFrom W bounds s p start pc' loops m) :
    HaltsFrom W bounds s p start pc loops m := by
  rintro c m' hc rfl rfl hadvanced
  refine hc.halts hW hover (List.getElem?_eq_some_iff.mp hi).1
    fun fuel _ c' m₁ hstep hc' hmore => ?_
  obtain ⟨hpc, hloops⟩ := hmoves rfl hstep
  exact hend c' m₁ hc' hpc hloops (hadvanced.trans hmore)

theorem haltsFrom_of_isStraight (hi : p.program[pc]? = some i) (hstraight : i.isStraight)
    (hend : HaltsFrom W bounds s p start (pc + 1) loops m) :
    HaltsFrom W bounds s p start pc loops m := by
  refine haltsFrom_of_moves hW hover hi ?_ hend
  rintro fuel c m c' m' rfl hstep
  exact ends_step_of_isStraight hi hstraight hstep

theorem haltsFrom_of_placed {bs : Branches} (hplaced : bs.Placed p.program p.jumps pc)
    (hend : HaltsFrom W bounds s p start (pc + bs.length) loops m) :
    HaltsFrom W bounds s p start pc loops m := by
  have hlt : pc < p.program.length := by
    have := hplaced.length_le
    have := bs.length_pos
    omega
  refine haltsFrom_of_moves hW hover (List.getElem?_eq_getElem hlt) ?_ hend
  rintro fuel c m c' m' rfl hstep
  rw [Branches.step_eq hplaced] at hstep
  cases (Eval.ends_pure_iff.mp hstep).1
  exact ⟨rfl, rfl⟩

/-- If the body of a loop halts, so do its turns: each of them leaves fewer items. -/
theorem haltsFrom_of_turns {first length a n : Nat} {frame : LoopFrame}
    (hclose : p.program[first + 1 + length]? = some .closeLoop)
    (hopen : p.jumps.loopOpen.lookup (first + 1 + length) = some first)
    (ha : frame.iterator = some a)
    (hbody : ∀ {m}, HaltsFrom W bounds s p start (first + 1 + length) (frame :: loops) m →
      HaltsFrom W bounds s p start (first + 1) (frame :: loops) m)
    (hn : m.heap.remaining? a = some n)
    (hend : HaltsFrom W bounds s p start (first + 1 + length + 1) loops m) :
    HaltsFrom W bounds s p start (first + 1) (frame :: loops) m := by
  induction n using Nat.strongRecOn generalizing m with
  | ind n ih =>
      refine hbody fun c m₁ hc hpc hloops hadvanced => ?_
      obtain ⟨n₁, hle, hn₁⟩ := hadvanced frame List.mem_cons_self a n ha hn
      rw [← hpc] at hclose hopen
      refine hc.halts hW hover (List.getElem?_eq_some_iff.mp hclose).1
        fun fuel _ c' m' hstep hc' hmore => ?_
      rw [hloops] at hmore
      have hall := hadvanced.tail.trans hmore.tail
      rcases ends_closeLoop hclose hloops hopen hstep with
        ⟨hturn, hresult⟩ | ⟨m₂, -, -, hresult⟩ | ⟨e, -, hresult⟩
      · cases hresult
        obtain ⟨n', hlt, hn'⟩ := remaining?_of_nextTurn ha hn₁ hturn
        exact ih n' (Nat.lt_of_lt_of_le hlt hle) hn' (hend.of_advanced hall) _ _ hc' rfl hloops
          (.refl _ _)
      · cases hresult
        exact hend _ _ hc' (congrArg Nat.succ hpc) rfl hall
      · cases hresult

theorem haltsFrom_of_loop {length : Nat} {name iterable source : Text} {mode : IterMode}
    (hfirst : p.program[pc]? = some (.openLoop name (.each mode iterable) source))
    (hlast : p.jumps.loopClose.lookup pc = some (pc + 1 + length))
    (hclose : p.program[pc + 1 + length]? = some .closeLoop)
    (hopen : p.jumps.loopOpen.lookup (pc + 1 + length) = some pc)
    (hbody : ∀ {loops m}, HaltsFrom W bounds s p start (pc + 1 + length) loops m →
      HaltsFrom W bounds s p start (pc + 1) loops m)
    (hend : HaltsFrom W bounds s p start (pc + 1 + length + 1) loops m) :
    HaltsFrom W bounds s p start pc loops m := by
  rintro c m₀ hc rfl rfl hadvanced
  refine hc.halts hW hover (List.getElem?_eq_some_iff.mp hfirst).1
    fun fuel hfuel c' m' hstep hc' hmore => ?_
  have hall := hadvanced.trans hmore
  rcases ends_openLoop hfirst hlast hstep with
    ⟨frame, henter, hresult⟩ | ⟨frame, m₁, -, -, hresult⟩ | ⟨e, -, hresult⟩
  · cases hresult
    obtain ⟨a, ha, hplain⟩ := plain_of_enterLoop hW (hover.items hc hfirst fuel hfuel) henter
    obtain ⟨n, hn⟩ := hplain a rfl fun l => (m'.heap.list l).size
    exact haltsFrom_of_turns hW hover hclose hopen ha hbody hn (hend.of_advanced hall) _ _ hc'
      rfl rfl (.refl _ _)
  · cases hresult
    exact hend _ _ hc' rfl rfl hall
  · cases hresult

end

/-! ## Trees that halt -/

section

variable (hW : W.Onward) (hover : OverCollections W bounds s p start)

include hW hover

mutual

theorem Body.haltsFrom (b : Body) (hrange : p.WithoutRanges) {pc : Nat} {loops : List LoopFrame}
    {m : Memory}
    (hplaced : b.Placed p.program p.jumps pc)
    (hend : HaltsFrom W bounds s p start (pc + b.length) loops m) :
    HaltsFrom W bounds s p start pc loops m := by
  match b with
  | .empty => exact hend
  | .leaf first rest =>
      obtain ⟨hi, hbehind⟩ := hplaced
      have hlength : pc + (Body.leaf first rest).length = pc + 1 + rest.length := by
        simp
        omega
      exact haltsFrom_of_isStraight hW hover hi (by cases first <;> rfl)
        (rest.haltsFrom hrange hbehind (hlength ▸ hend))
  | .loop name head source body rest =>
      obtain ⟨⟨hfirst, hlast⟩, hinside, ⟨hclose, hopen⟩, hbehind⟩ := hplaced
      have hlength : pc + (Body.loop name head source body rest).length =
          pc + 1 + body.length + 1 + rest.length := by
        simp
        omega
      cases head with
      | range init cond step =>
          exact absurd (List.mem_of_getElem? hfirst) (hrange name init cond step source)
      | each mode iterable =>
          exact haltsFrom_of_loop hW hover hfirst hlast hclose hopen
            (fun hinner => body.haltsFrom hrange hinside hinner)
            (rest.haltsFrom hrange hbehind (hlength ▸ hend))
  | .branch cond source body others rest =>
      obtain ⟨⟨hopen, hnext⟩, hinside, hothers, hbehind⟩ := hplaced
      have hlength : pc + (Body.branch cond source body others rest).length =
          pc + 1 + body.length + others.length + rest.length := by
        simp
        omega
      have hdone := rest.haltsFrom hrange hbehind (hlength ▸ hend)
      rintro c m₀ hc rfl rfl hadvanced
      refine hc.halts hW hover (List.getElem?_eq_some_iff.mp hopen).1
        fun fuel _ c' m' hstep hc' hmore => ?_
      have hall := hadvanced.trans hmore
      rw [step_openIf _ s p hopen, Eval.ends_bind_ok_iff] at hstep
      obtain ⟨target, m₁, htarget, hrest⟩ := hstep
      obtain ⟨hresult, rfl⟩ := Eval.ends_pure_iff.mp hrest
      cases hresult
      rcases ends_enterBranch_of_hasCondition htarget hopen rfl hnext with rfl | ⟨k, m₂, hentered⟩
      · exact body.haltsFrom hrange hinside (haltsFrom_of_placed hW hover hothers hdone) _ _ hc'
          rfl rfl hall
      · exact others.halts hrange hothers hdone hentered hc' rfl hall
  | .hasContent body rest | .content body rest =>
      obtain ⟨hopen, hinside, hclose, hbehind⟩ := hplaced
      refine haltsFrom_of_isStraight hW hover hopen rfl (body.haltsFrom hrange hinside ?_)
      refine haltsFrom_of_isStraight hW hover hclose rfl (rest.haltsFrom hrange hbehind ?_)
      have hlength : pc + (body.length + rest.length + 2) =
          pc + 1 + body.length + 1 + rest.length := by
        omega
      simpa [hlength] using hend

theorem Branches.halts (bs : Branches) (hrange : p.WithoutRanges) {fuel pc k : Nat}
    {loops : List LoopFrame} {m m₀ m₁ : Memory} {c : Config}
    (hplaced : bs.Placed p.program p.jumps pc)
    (hend : HaltsFrom W bounds s p start (pc + bs.length) loops m₀)
    (hentered : (enterBranch (.standard fuel) p k pc).Ends W m₁ (.ok c.pc) m)
    (hc : Arrives W bounds s p start c m) (hloops : c.loops = loops)
    (hadvanced : Advanced loops m₀.heap m.heap) : Halts W bounds s p c m := by
  match bs with
  | .close =>
      exact hend c m hc (ends_enterBranch_of_not_hasCondition hentered hplaced nofun) hloops
        hadvanced
  | .otherwise body =>
      obtain ⟨⟨hopen, -⟩, hinside, hclose⟩ := hplaced
      refine body.haltsFrom hrange hinside ?_ c m hc
        (ends_enterBranch_of_not_hasCondition hentered hopen nofun) hloops hadvanced
      have hlength : pc + (body.length + 2) = pc + 1 + body.length + 1 := by omega
      exact haltsFrom_of_isStraight hW hover hclose rfl (by simpa [hlength] using hend)
  | .elseIf cond source body others =>
      obtain ⟨⟨hopen, hnext, -⟩, hinside, hothers⟩ := hplaced
      have hlength : pc + (Branches.elseIf cond source body others).length =
          pc + 1 + body.length + others.length := by
        simp
        omega
      rw [hlength] at hend
      rcases ends_enterBranch_of_hasCondition hentered hopen rfl hnext with hpc | ⟨k', m₂, hmore⟩
      · exact body.haltsFrom hrange hinside (haltsFrom_of_placed hW hover hothers hend) c m hc hpc
          hloops hadvanced
      · exact others.halts hrange hothers hend hmore hc hloops hadvanced

end

end

/-! ## Runs that halt -/

theorem exists_ends_runFrom_of_le (h : p.program.length ≤ c.pc) (m : Memory) :
    ∃ n result m', ∀ k, n ≤ k → (runFrom ev s p k c).Ends W m result m' := by
  refine ⟨1, .ok c.out, m, fun k hk => ?_⟩
  obtain ⟨k, rfl⟩ := Nat.exists_eq_add_of_le' hk
  rw [runFrom_end ev s p k h]
  exact Eval.ends_pure_iff.mpr ⟨rfl, rfl⟩

/-- A run from where it halts ends in the same way with all bounds on its steps that are high
enough. -/
theorem Halts.exists_ends_runFrom {fuel : Nat} (h : Halts W bounds s p c m)
    (hfuel : fuel ∈ bounds) :
    ∃ n result m', ∀ k, n ≤ k → (runFrom (.standard fuel) s p k c).Ends W m result m' := by
  induction h with
  | @atEnd c m h => exact exists_ends_runFrom_of_le h m
  | @step c m hends _ ih =>
      by_cases hlt : c.pc < p.program.length
      · obtain ⟨first, m₁, hstep⟩ := hends fuel hfuel
        cases first with
        | ok c' =>
            obtain ⟨n, result, m', hmore⟩ := ih c' m₁ ⟨nofun, fuel, hfuel, hstep⟩
            refine ⟨n + 1, result, m', fun k hk => ?_⟩
            obtain ⟨k, rfl⟩ := Nat.exists_eq_add_of_le' (Nat.le_of_add_left_le hk)
            rw [runFrom_succ _ s p k (List.getElem?_eq_getElem hlt), located_handle,
              Eval.ends_handle_iff]
            exact .inl ⟨c', m₁, hstep, hmore k (Nat.le_of_succ_le_succ hk)⟩
        | error e =>
            refine ⟨1, .error (locate p c.pc e), undoAll s c.loops m₁, fun k hk => ?_⟩
            obtain ⟨k, rfl⟩ := Nat.exists_eq_add_of_le' hk
            exact ends_runFrom_of_fails hlt hstep k
      · exact exists_ends_runFrom_of_le (Nat.le_of_not_lt hlt) m

/-- A run that halts comes to an end, unless it comes to an evaluation that does not. -/
theorem Halts.comesToEnd (h : Halts W bounds s p c m) (hc : Arrives W bounds s p start c m)
    (heval : EvaluationsEnd W bounds s p start) : ComesToEnd W bounds s p start := by
  induction h with
  | @atEnd c m h => exact ⟨c, m, hc, .inl h⟩
  | @step c m _ _ ih =>
      by_cases hlt : c.pc < p.program.length
      · obtain ⟨result, m', hstep⟩ := heval hc hlt
        cases result with
        | ok c' => exact ih c' m' hstep (hc.step hlt hstep)
        | error e => exact ⟨c, m, hc, .inr ⟨e, m', hstep⟩⟩
      · exact ⟨c, m, hc, .inl (Nat.le_of_not_lt hlt)⟩

/-- If all loops of a linked program go through collections, its run halts, whatever its host
answers and whichever bounds its evaluations take. If these end, the run comes to the end of the
program or to a failure. With one bound for all evaluations it ends anyway, in the same way for all
bounds on its steps that are high enough. -/
theorem halts_of_overCollections (hlink : link p.program = .ok p.jumps) (hrange : p.WithoutRanges)
    (hW : W.Onward) (bounds : Set Nat) (s : Setting) (globals : Names) (h : Heap)
    (hover : OverCollections W bounds s p ⟨h, startNames globals s⟩) :
    Halts W bounds s p .initial ⟨h, startNames globals s⟩ ∧
      (EvaluationsEnd W bounds s p ⟨h, startNames globals s⟩ →
        ComesToEnd W bounds s p ⟨h, startNames globals s⟩) ∧
      ∀ fuel ∈ bounds, ∃ n result m', ∀ k, n ≤ k →
        (run (.standard fuel) k globals s p h).Ends W result m' := by
  obtain ⟨b, hb⟩ := exists_body_of_link hlink
  obtain ⟨-, hplaced⟩ := placed_of_link hlink hb
  have hend : HaltsFrom W bounds s p ⟨h, startNames globals s⟩ (0 + b.length) []
      ⟨h, startNames globals s⟩ := fun c m _ hpc _ _ => .atEnd (by simp [hpc, Body.length, hb])
  have hhalts := b.haltsFrom hW hover hrange hplaced hend .initial _ .initial rfl rfl (.refl _ _)
  refine ⟨hhalts, hhalts.comesToEnd .initial, fun fuel hfuel => ?_⟩
  obtain ⟨n, result, m', hends⟩ := hhalts.exists_ends_runFrom hfuel
  refine ⟨n, result.map fun out => out.toList.flatten, m', fun k hk => ?_⟩
  have hrun := hends k hk
  cases result with
  | ok out => exact hrun.bind (Eval.ends_pure_iff.mpr ⟨rfl, rfl⟩)
  | error e => exact hrun.bind_error _

variable (ev s p) in
def quietlyAt (start : Memory) : Nat → Config × Memory
  | 0 => (.initial, start)
  | n + 1 => match step ev s p (quietlyAt start n).1 (quietlyAt start n).2 with
    | .done (.ok c) m => (c, m)
    | _ => quietlyAt start n

theorem Arrives.exists_quietlyAt {n : Nat}
    (hend : p.program.length ≤ (quietlyAt ev s p start n).1.pc)
    (hsteps : ∀ k < n, ∀ fuel ∈ bounds, ∃ result m',
      Template.step (.standard fuel) s p (quietlyAt ev s p start k).1 (quietlyAt ev s p start k).2 =
        .done result m' ∧ ∀ c', result = .ok c' → (c', m') = quietlyAt ev s p start (k + 1))
    (hc : Arrives W bounds s p start c m) : ∃ k ≤ n, (c, m) = quietlyAt ev s p start k := by
  induction hc with
  | initial => exact ⟨0, Nat.zero_le n, rfl⟩
  | @step c c' m m' _ hlt h ih =>
      obtain ⟨k, hle, hk⟩ := ih
      obtain ⟨rfl, rfl⟩ := Prod.mk.inj hk
      rcases Nat.eq_or_lt_of_le hle with rfl | hlt'
      · exact absurd hlt (Nat.not_lt.mpr hend)
      obtain ⟨-, fuel, hfuel, hends⟩ := h
      obtain ⟨result, m₁, hstep, hresult⟩ := hsteps k hlt' fuel hfuel
      rw [Eval.Ends, hstep] at hends
      obtain ⟨rfl, rfl⟩ := Dialog.ends_done_iff.mp hends
      exact ⟨k + 1, hlt', hresult c' rfl⟩

theorem get?_of_ends_lookupName {number : Nat} {n : Text} {v : Value} {m' : Memory}
    (h : (Eval.lookupName ⟨number, []⟩ n).Ends W m (.ok v) m') :
    m.names.get? n = some v ∨ ∃ b, v = .builtin b := by
  obtain ⟨names, m₁, hnames, hrest⟩ := Eval.ends_bind_ok_iff.mp h
  cases (Dialog.ends_done_iff.mp hnames).1
  dsimp only at hrest
  split at hrest
  · next hlocal => cases hlocal
  · next hname =>
      cases (Eval.ends_pure_iff.mp hrest).1
      exact .inl hname
  · cases (Eval.ends_pure_iff.mp hrest).1
    exact .inr ⟨_, rfl⟩
  · split at hrest
    · cases (Eval.ends_fail_iff.mp hrest).1
    · cases (Eval.ends_fail_iff.mp hrest).1

def nestedRows : Compiled where
  template := "nested".toList
  program := [.openLoop "row".toList (.each .values "rows".toList) [],
    .openLoop "x".toList (.each .values "row".toList) [], .literal "x".toList, .closeLoop,
    .closeLoop]
  jumps := ⟨[(0, 4), (1, 3)], [(4, 0), (3, 1)], [], []⟩
  codes := [(0, .value ⟨0, .name "rows".toList⟩), (1, .value ⟨1, .name "row".toList⟩)]

def nestedRowsStart : Memory where
  heap := {
    lists := #[#[.list 1, .list 2], #[.bool true, .bool false], #[]]
    mappings := #[⟨true, []⟩] }
  names := startNames [("rows".toList, .list 0)] ⟨.none, 0⟩

def nestedRowsAt : Nat → Config × Memory :=
  quietlyAt (.standard 1) ⟨.none, 0⟩ nestedRows nestedRowsStart

theorem step_nestedRowsAt (fuel : Nat) {k : Nat} (hk : k < 9) :
    step (.standard (fuel + 1)) ⟨.none, 0⟩ nestedRows (nestedRowsAt k).1 (nestedRowsAt k).2 =
      .done (.ok (nestedRowsAt (k + 1)).1) (nestedRowsAt (k + 1)).2 := by
  interval_cases k <;> rfl

/-- No bound leads a run elsewhere: with the lowest one it comes to nothing where it evaluates. -/
theorem exists_nestedRowsAt
    (hc : Arrives W Set.univ ⟨.none, 0⟩ nestedRows nestedRowsStart c m) :
    ∃ k ≤ 9, (c, m) = nestedRowsAt k := by
  refine hc.exists_quietlyAt (by decide) fun k hk fuel _ => ?_
  cases fuel with
  | zero => interval_cases k <;> exact ⟨_, _, rfl, fun c' h => by cases h <;> rfl⟩
  | succ fuel => exact ⟨_, _, step_nestedRowsAt fuel hk, fun c' h => by cases h; rfl⟩

def nestedRowsKept (m : Memory) : Bool :=
  m.heap.lists.map Array.size == #[2, 2, 0] && m.names.all fun (_, v) => match v with
    | .iterator _ => false
    | _ => true

theorem nestedRowsKept_of_arrives
    (hc : Arrives W Set.univ ⟨.none, 0⟩ nestedRows nestedRowsStart c m) : nestedRowsKept m := by
  obtain ⟨k, hle, hk⟩ := exists_nestedRowsAt hc
  have hall : ∀ k < 10, nestedRowsKept (nestedRowsAt k).2 := by decide +kernel
  exact (Prod.mk.inj hk).2 ▸ hall k (Nat.lt_succ_of_le hle)

theorem overCollections_nestedRows (W : Answers) :
    OverCollections W Set.univ ⟨.none, 0⟩ nestedRows nestedRowsStart where
  items := by
    rintro c m hc - - - - - fuel - ⟨number, expr⟩ v m' hcode hvalue a rfl
    obtain ⟨n, rfl⟩ : ∃ n, expr = .name n := by
      obtain ⟨before, after, hcodes, -⟩ := List.lookup_eq_some_iff.mp hcode
      have hmem : (c.pc, InstructionCode.value ⟨number, expr⟩) ∈ nestedRows.codes := by
        simp [hcodes]
      simp only [nestedRows, List.mem_cons, Prod.mk.injEq, InstructionCode.value.injEq,
        Code.mk.injEq, List.not_mem_nil, or_false] at hmem
      rcases hmem with ⟨-, -, rfl⟩ | ⟨-, -, rfl⟩ <;> exact ⟨_, rfl⟩
    have hkept := nestedRowsKept_of_arrives hc
    cases fuel with
    | zero => cases (Eval.ends_fail_iff.mp hvalue).1
    | succ fuel =>
        rcases get?_of_ends_lookupName hvalue with hname | ⟨b, hbuiltin⟩
        · obtain ⟨before, after, hnames, -⟩ := List.lookup_eq_some_iff.mp hname
          have hmem : (n, Value.iterator a) ∈ m.names := by simp [hnames]
          cases List.all_eq_true.mp (Bool.and_eq_true_iff.mp hkept).2 _ hmem
        · cases hbuiltin
  lists := by
    intro c m c' m' hc hstep frame _ a l i _ _
    have hlt : c.pc < nestedRows.program.length := by
      obtain ⟨-, fuel, -, hends⟩ := hstep
      refine Nat.lt_of_not_le fun hend => ?_
      rw [step, List.getElem?_eq_none hend] at hends
      cases (Eval.ends_fail_iff.mp hends).1
    have hsize {m : Memory} (hm : nestedRowsKept m) :
        (m.heap.list l).size = #[2, 2, 0].getD l 0 := by
      rw [← LawfulBEq.eq_of_beq (Bool.and_eq_true_iff.mp hm).1, Heap.list,
        Array.getD_eq_getD_getElem?, Array.getD_eq_getD_getElem?, Array.getElem?_map]
      cases m.heap.lists[l]? <;> rfl
    exact Nat.le_of_eq ((hsize (nestedRowsKept_of_arrives (hc.step hlt hstep))).trans
      (hsize (nestedRowsKept_of_arrives hc)).symm)

theorem evaluationsEnd_nestedRows (W : Answers) :
    EvaluationsEnd W Set.univ ⟨.none, 0⟩ nestedRows nestedRowsStart := by
  intro c m hc hlt
  obtain ⟨k, hle, hk⟩ := exists_nestedRowsAt hc
  rcases Nat.eq_or_lt_of_le hle with rfl | hlt'
  · obtain ⟨rfl, -⟩ := Prod.mk.inj hk
    exact absurd hlt (by decide)
  · have hends := Dialog.Ends.done (W := W) (.ok (nestedRowsAt (k + 1)).1) (nestedRowsAt (k + 1)).2
    rw [← step_nestedRowsAt 0 hlt', ← hk] at hends
    exact ⟨.ok (nestedRowsAt (k + 1)).1, _, nofun, 1, trivial, hends⟩

def nineLevels : Answers := Action.Answering (Action.render ⟨.standard 9, 9⟩ 9)

theorem halts_of_overCollections_nestedRows :
    link nestedRows.program = .ok nestedRows.jumps ∧ nestedRows.WithoutRanges ∧
      nineLevels.Onward ∧
      OverCollections nineLevels Set.univ ⟨.none, 0⟩ nestedRows nestedRowsStart ∧
      Halts nineLevels Set.univ ⟨.none, 0⟩ nestedRows .initial nestedRowsStart ∧
      ComesToEnd nineLevels Set.univ ⟨.none, 0⟩ nestedRows nestedRowsStart ∧
      ∃ n result m', ∀ k, n ≤ k →
        (run (.standard 2) k [("rows".toList, .list 0)] ⟨.none, 0⟩ nestedRows
          nestedRowsStart.heap).Ends nineLevels result m' := by
  have hlink : link nestedRows.program = .ok nestedRows.jumps := rfl
  have hrange : nestedRows.WithoutRanges := by simp [Compiled.WithoutRanges, nestedRows]
  have hW : nineLevels.Onward := Action.onward_answering_render 9 9 9
  have hover := overCollections_nestedRows nineLevels
  obtain ⟨hhalts, hend, hruns⟩ := halts_of_overCollections hlink hrange hW Set.univ ⟨.none, 0⟩ _
    nestedRowsStart.heap hover
  exact ⟨hlink, hrange, hW, hover, hhalts, hend (evaluationsEnd_nestedRows nineLevels),
    hruns 2 trivial⟩

end Stencil.Template
