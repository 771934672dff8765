import Stencil.Proofs.Eval.Composed.Functions
import Stencil.Proofs.Eval.Taking
import Stencil.Template.Run

/-!
# The evaluator is composed

What the evaluator does with some fuel is composed of what it does with one less. So are statements
and the steps of a run whose expressions it evaluates.
-/

namespace Stencil

variable {P : Nat → Prop}

namespace Eval

/-! ## What expressions use -/

section

variable {reach : Reach} (h : reach.Composed P)

@[grind ←] theorem composed_lookupName (frame : Frame) (n : Text) :
    (lookupName frame n).Composed P := by
  unfold lookupName
  grind

@[grind ←] theorem composed_templateMethod (id : Nat) (name : Text) (args : Arguments) :
    (templateMethod id name args).Composed P := by
  refine (composed_takeParameters ..).bind fun given => ?_
  split
  · exact .ask _
  · exact .ask _
  · exact .ask _
  · exact .beyond name

@[grind ←] theorem composed_registryMethod (name : Text) (args : Arguments) :
    (registryMethod name args).Composed P :=
  (composed_takeNone ..).bind fun _ => .ask _

@[grind ←] theorem composed_bindParameters (params : List (Text × Option Value))
    (args : Arguments) : (bindParameters params args).Composed P := by
  unfold bindParameters
  dsimp only
  split
  · exact .fault _
  · split
    · exact .fault _
    · exact composed_mapM (fun _ => by grind) _

include h

@[grind ←] theorem composed_findItem (v : Value) (fuel a : Nat) :
    (findItem reach v fuel a).Composed P := by
  induction fuel with
  | zero => exact .exhausted
  | succ fuel ih =>
    unfold findItem
    grind

@[grind ←] theorem composed_contains (container v : Value) :
    (contains reach container v).Composed P := by
  unfold contains
  grind

@[grind ←] theorem composed_compareWith (op : CompareOp) (v w : Value) :
    (compareWith reach op v w).Composed P := by
  unfold compareWith
  cases op <;> grind

@[grind ←] theorem composed_templateArguments (v : Value) :
    (templateArguments reach v).Composed P := by
  unfold templateArguments
  grind

@[grind ←] theorem composed_engineMethod (name : Text) (args : Arguments) :
    (engineMethod reach name args).Composed P := by
  refine (composed_takeParameters ..).bind fun given => ?_
  split
  · exact (composed_templateArguments h _).bind fun _ => .ask _
  · exact (composed_templateArguments h _).bind fun _ => .ask _
  · exact (composed_templateArguments h _).bind fun _ => .ask _
  · exact (composed_templateArguments h _).bind fun _ => .ask _
  · exact .ask _
  · exact .beyond name

omit h in
@[grind ←] theorem composed_distribute (targets : List Target) (items : List Value) (spare : Nat) :
    (distribute targets items spare).Composed P := by
  induction targets, items, spare using distribute.induct <;> unfold distribute <;> grind

@[grind ←] theorem composed_unpack (targets : List Target) (v : Value) :
    (unpack reach targets v).Composed P := by
  unfold unpack
  grind

end

/-! ## The evaluator -/

variable (P) in
/-- All that the evaluator does with so much fuel is composed. -/
structure ComposedWithin (f : Nat) : Prop where
  eval : ∀ frame e, (Eval.eval f frame e).Composed P
  evalBound : ∀ frame bound, (Eval.evalBound f frame bound).Composed P
  evalItems : ∀ frame items, (Eval.evalItems f frame items).Composed P
  evalEntries : ∀ frame entries, (Eval.evalEntries f frame entries).Composed P
  evalArguments : ∀ frame g args, (Eval.evalArguments f frame g args).Composed P
  evalComparisons : ∀ frame v more, (Eval.evalComparisons f frame v more).Composed P
  evalParts : ∀ frame parts, (Eval.evalParts f frame parts).Composed P
  evalDefaults : ∀ frame params, (Eval.evalDefaults f frame params).Composed P
  startComprehension : ∀ frame element clauses,
    (Eval.startComprehension f frame element clauses).Composed P
  assign : ∀ isLocal frame target v, (Eval.assign f isLocal frame target v).Composed P
  assignAll : ∀ isLocal frame targets, (Eval.assignAll f isLocal frame targets).Composed P
  call : ∀ g args, (Eval.call f g args).Composed P
  next : ∀ a, (Eval.next f a).Composed P
  nextAll : ∀ as, (Eval.nextAll f as).Composed P
  nextMatching : ∀ g a, (Eval.nextMatching f g a).Composed P
  resume : ∀ c running, (Eval.resume f c running).Composed P
  evalConditions : ∀ frame conditions, (Eval.evalConditions f frame conditions).Composed P

namespace ComposedWithin

attribute [grind ←] eval evalBound evalItems evalEntries evalArguments evalComparisons evalParts
  evalDefaults startComprehension assign assignAll call next nextAll nextMatching resume
  evalConditions

variable {f : Nat} (h : ComposedWithin P f)
include h

theorem reach : Reach.Composed P ⟨Eval.call f, Eval.next f, f⟩ := ⟨h.call, h.next⟩

theorem eval_succ (frame : Frame) (e : Expr) : (Eval.eval (f + 1) frame e).Composed P := by
  have hreach := h.reach
  unfold Eval.eval
  cases e <;> grind

theorem evalBound_succ (frame : Frame) (bound : Option Expr) :
    (Eval.evalBound (f + 1) frame bound).Composed P := by
  unfold Eval.evalBound
  grind

theorem evalItems_succ (frame : Frame) (items : List Expr) :
    (Eval.evalItems (f + 1) frame items).Composed P := by
  have hreach := h.reach
  unfold Eval.evalItems
  grind

theorem evalEntries_succ (frame : Frame) (entries : List (Option Expr × Expr)) :
    (Eval.evalEntries (f + 1) frame entries).Composed P := by
  unfold Eval.evalEntries
  grind

theorem evalArguments_succ (frame : Frame) (g : Value) (args : List (ArgumentForm × Expr)) :
    (Eval.evalArguments (f + 1) frame g args).Composed P := by
  cases args with
  | nil => exact composed_pure _
  | cons arg more =>
    obtain ⟨form, e⟩ := arg
    have hmore := h.evalArguments frame g more
    rw [Eval.evalArguments]
    refine (h.eval frame e).bind fun v => ?_
    cases form with
    | positional | named => exact hmore.bind fun _ => composed_pure _
    | spread =>
      refine (composed_items? h.reach v).bind fun items => ?_
      cases items with
      | some items => exact hmore.bind fun _ => composed_pure _
      | none => exact composed_complaint ..
    | spreadNamed =>
      cases v with
      | mapping a =>
        refine composed_heap.bind fun _ => (composed_mapM (fun _ => ?_) _).bind fun _ =>
          hmore.bind fun _ => composed_pure _
        grind
      | _ => exact composed_complaint ..

theorem evalComparisons_succ (frame : Frame) (v : Value) (more : List (CompareOp × Expr)) :
    (Eval.evalComparisons (f + 1) frame v more).Composed P := by
  have hreach := h.reach
  unfold Eval.evalComparisons
  grind

theorem evalParts_succ (frame : Frame) (parts : List Expr) :
    (Eval.evalParts (f + 1) frame parts).Composed P := by
  unfold Eval.evalParts
  grind

theorem evalDefaults_succ (frame : Frame) (params : List (Text × Option Expr)) :
    (Eval.evalDefaults (f + 1) frame params).Composed P := by
  unfold Eval.evalDefaults
  grind

theorem startComprehension_succ (frame : Frame) (element : Expr) (clauses : List Clause) :
    (Eval.startComprehension (f + 1) frame element clauses).Composed P := by
  unfold Eval.startComprehension
  grind

theorem assign_succ (isLocal : Bool) (frame : Frame) (target : Target) (v : Value) :
    (Eval.assign (f + 1) isLocal frame target v).Composed P := by
  have hitem (e i : Expr) : (do
      let c ← Eval.eval f frame e
      setItem c (← Eval.eval f frame i) v
      return frame : Eval Frame).Composed P := by
    grind
  cases target with
  | name n => rw [Eval.assign]; grind
  | member e n => rw [Eval.assign]; grind
  | subscript e i =>
    cases i with
    | slice start stop step =>
      exact (h.eval frame e).bind fun _ => (h.evalBound frame start).bind fun _ =>
        (h.evalBound frame stop).bind fun _ => (h.evalBound frame step).bind fun _ =>
          (composed_items h.reach v).bind fun _ => (composed_setSlice ..).bind fun _ =>
            composed_pure _
    | _ => exact hitem ..
  | tuple targets =>
    exact (composed_unpack h.reach targets v).bind fun _ => h.assignAll isLocal frame _
  | starred t => exact h.assign isLocal frame t v

theorem assignAll_succ (isLocal : Bool) (frame : Frame) (targets : List (Target × Value)) :
    (Eval.assignAll (f + 1) isLocal frame targets).Composed P := by
  unfold Eval.assignAll
  grind

theorem call_succ (g : Value) (args : Arguments) : (Eval.call (f + 1) g args).Composed P := by
  have hreach := h.reach
  unfold Eval.call
  grind

theorem next_succ (a : Nat) : (Eval.next (f + 1) a).Composed P := by
  by_cases ha : P a
  · refine ⟨fun m hplain => ?_⟩
    obtain ⟨n, hn⟩ := hplain a ha fun l => (m.heap.list l).size
    obtain ⟨result, m', hnext, htakes⟩ := takesNext_of_remaining? f hn
    rw [hnext]
    exact htakes.goes
  · unfold Eval.next
    refine composed_heap.bind fun heap => ?_
    extract_lets put finish
    have hput (i : Iteration) : (put i).Composed P :=
      .act fun _ => ⟨_, _, rfl, Heap.onward_setIteration_of_not_mem ha i⟩
    have hfinish : finish.Composed P := (hput _).bind fun _ => composed_pure none
    clear_value put finish
    generalize heap.iteration a = i
    cases i <;> grind

theorem nextAll_succ (as : List Nat) : (Eval.nextAll (f + 1) as).Composed P := by
  unfold Eval.nextAll
  grind

theorem nextMatching_succ (g : Value) (a : Nat) : (Eval.nextMatching (f + 1) g a).Composed P := by
  unfold Eval.nextMatching
  grind

theorem resume_succ (c : Comprehension) (running : List Running) :
    (Eval.resume (f + 1) c running).Composed P := by
  match running with
  | [] => exact composed_pure none
  | r :: outer =>
    rw [Eval.resume]
    refine (h.next r.iterator).bind fun item => ?_
    split
    · exact h.resume c outer
    · exact h.resume c outer
    · refine (h.assign ..).bind fun frame => (h.evalConditions ..).bind fun holds => ?_
      split
      · exact h.resume c _
      · split
        · exact (h.eval ..).bind fun _ => composed_pure _
        · exact (h.eval ..).bind fun _ => (composed_iterator _).bind fun _ => h.resume c _

theorem evalConditions_succ (frame : Frame) (conditions : List Expr) :
    (Eval.evalConditions (f + 1) frame conditions).Composed P := by
  unfold Eval.evalConditions
  grind

end ComposedWithin

theorem composedWithin (f : Nat) : ComposedWithin P f := by
  induction f with
  | zero => constructor <;> intros <;> exact .exhausted
  | succ f h => exact {
      eval := h.eval_succ
      evalBound := h.evalBound_succ
      evalItems := h.evalItems_succ
      evalEntries := h.evalEntries_succ
      evalArguments := h.evalArguments_succ
      evalComparisons := h.evalComparisons_succ
      evalParts := h.evalParts_succ
      evalDefaults := h.evalDefaults_succ
      startComprehension := h.startComprehension_succ
      assign := h.assign_succ
      assignAll := h.assignAll_succ
      call := h.call_succ
      next := h.next_succ
      nextAll := h.nextAll_succ
      nextMatching := h.nextMatching_succ
      resume := h.resume_succ
      evalConditions := h.evalConditions_succ }

/-! ## Statements -/

theorem composed_update {reach : Reach} (h : reach.Composed P) (op : BinaryOp) (v w : Value) :
    (update reach op v w).Composed P := by
  unfold update
  grind

theorem composed_targetValue (f : Nat) (frame : Frame) (target : Target) :
    (targetValue f frame target).Composed P := by
  have h : ComposedWithin P f := composedWithin f
  unfold targetValue
  grind

theorem composed_delete (f : Nat) (frame : Frame) (depth : Nat) (target : Target) :
    (delete f frame depth target).Composed P := by
  have h : ComposedWithin P f := composedWithin f
  induction depth generalizing target with
  | zero => exact .exhausted
  | succ depth ih =>
    unfold delete
    cases target with
    | tuple targets => exact composed_forM ih targets
    | _ => grind

theorem composed_execute (f : Nat) (frame : Frame) (s : Statement) :
    (execute f frame s).Composed P := by
  have h : ComposedWithin P f := composedWithin f
  cases s with
  | effect e => exact (h.eval frame e).bind fun _ => composed_pure _
  | assign targets e =>
    exact (h.eval frame e).bind fun v => composed_forM (fun t =>
      (h.assign false frame t v).bind fun _ => composed_pure _) targets
  | update target op e =>
    exact (composed_targetValue f frame target).bind fun v => (h.eval frame e).bind fun w =>
      (composed_update h.reach op v w).bind fun _ => (h.assign false frame target _).bind fun _ =>
        composed_pure _
  | delete targets => exact composed_forM (composed_delete f frame f) targets
  | raise what cause =>
    cases what with
    | none => exact .fault _
    | some e =>
      exact (h.eval frame e).bind fun _ => (h.evalBound frame cause).bind fun _ => .fault _
  | pass => exact composed_pure _

end Eval

/-! ## Steps of a run -/

namespace Template

open Eval

variable (P) in
/-- Whatever the evaluator does is composed. -/
structure Evaluator.Composed (ev : Evaluator) : Prop where
  value : ∀ c, (ev.value c).Composed P
  effect : ∀ s, (ev.effect s).Composed P
  advance : ∀ a, (ev.advance a).Composed P

theorem Evaluator.composed_standard (fuel : Nat) : (Evaluator.standard fuel).Composed P where
  value c := (composedWithin fuel).eval _ c.expr
  effect s := composed_forM (composed_execute fuel _) s.statements
  advance := (composedWithin fuel).next

attribute [grind ←] Evaluator.Composed.value Evaluator.Composed.effect Evaluator.Composed.advance

section

variable (s : Setting) (p : Compiled)

@[grind ←] theorem composed_scopePut (scope : Nat) (name : Text) (v : Value) :
    (scopePut scope name v).Composed P :=
  composed_modifyHeap fun _ => rfl

@[grind ←] theorem composed_scopeRemove (scope : Nat) (name : Text) :
    (scopeRemove scope name).Composed P :=
  composed_modifyHeap fun _ => rfl

@[grind ←] theorem composed_saveFrame (name : Text) : (saveFrame s name).Composed P := by
  unfold saveFrame scopeGet
  grind

@[grind ←] theorem composed_restore (frame : LoopFrame) : (restore s frame).Composed P := by
  unfold restore
  grind

@[grind ←] theorem composed_publish (name : Text) : (publish s name).Composed P := by
  unfold publish
  grind

@[grind ←] theorem composed_iterate (mode : IterMode) (v : Value) :
    (iterate mode v).Composed P := by
  unfold iterate
  grind

@[grind ←] theorem composed_stuck {α : Type} (pc : Nat) : (stuck pc : Eval α).Composed P := .fault _

@[grind ←] theorem composed_jump (table : List (Nat × Nat)) (pc : Nat) :
    (jump table pc).Composed P := by
  unfold jump
  grind

@[grind ←] theorem composed_valueCode (pc : Nat) : (valueCode p pc).Composed P := by
  unfold valueCode
  grind

@[grind ←] theorem composed_rangeCode (pc : Nat) : (rangeCode p pc).Composed P := by
  unfold rangeCode
  grind

end

section

variable {ev : Evaluator} (h : ev.Composed P) (s : Setting) (p : Compiled) (c : Config)
include h

@[grind ←] theorem composed_advance (name : Text) (a : Nat) : (advance ev name a).Composed P := by
  unfold advance
  grind

@[grind ←] theorem composed_holds (code : Code) : (holds ev code).Composed P :=
  (h.value code).bind fun _ => composed_truth _

@[grind ←] theorem composed_enterBranch (fuel pc : Nat) :
    (enterBranch ev p fuel pc).Composed P := by
  induction fuel generalizing pc with
  | zero => exact composed_stuck pc
  | succ fuel ih =>
    unfold enterBranch
    grind

@[grind ←] theorem composed_openLoop (name : Text) (head : LoopHead) :
    (openLoop ev s p c name head).Composed P := by
  unfold openLoop
  refine (composed_saveFrame s name).bind fun frame => ?_
  cases head with
  | range init cond step =>
    refine (composed_rangeCode p c.pc).bind fun _ => (h.value _).bind fun _ =>
      (composed_putName ..).bind fun _ => (composed_holds h _).bind fun _ => ?_
    grind
  | each mode iterable =>
    refine (composed_valueCode p c.pc).bind fun _ => (h.value _).bind fun _ =>
      (composed_iterate ..).bind fun a => (composed_advance h ..).bind fun _ => ?_
    grind

@[grind ←] theorem composed_closeLoop : (closeLoop ev s p c).Composed P := by
  unfold closeLoop
  split
  · exact composed_stuck _
  · next frame outer _ =>
    refine (composed_jump ..).bind fun start => ?_
    cases frame.iterator with
    | some a =>
      refine (composed_advance h ..).bind fun _ => ?_
      grind
    | none =>
      refine (composed_rangeCode ..).bind fun _ => (h.effect _).bind fun _ =>
        (composed_holds h _).bind fun _ => ?_
      grind

@[grind ←] theorem composed_captureText (code : Code) : (captureText ev s code).Composed P := by
  unfold captureText
  grind

theorem composed_step : (step ev s p c).Composed P := by
  have houtput (v : Value) (escaped : Bool) : (outputText v escaped).Composed P :=
    (composed_write _ v).bind fun _ => composed_pure _
  unfold step
  dsimp only
  cases p.program[c.pc]? with
  | none => exact composed_stuck c.pc
  | some i => cases i <;> grind

end

end Template

end Stencil
