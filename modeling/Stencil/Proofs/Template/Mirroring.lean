import Stencil.Proofs.Eval.Mirroring.Evaluator
import Stencil.Template.Run

/-!
# Runs in step

Two runs of a program that leaves out the name of the host end alike if they start from heaps that
match, each with a scope that stands for that of the other. Neither asks the engine for anything.
-/

namespace Stencil.Template

open Eval (Mirrors mirrors_heap mirrors_names mirrors_modifyHeap mirrors_putName mirrors_removeName
  mirrors_newIterator mirrors_truth mirrors_datum)

variable {μ : Matching}

/-! ## Programs -/

/-- Expressions that are written alike, without the name of the host. -/
structure Code.Matches (μ : Matching) (c d : Code) : Prop where
  expr : c.expr = d.expr
  number : μ.code c.number d.number
  omits : d.expr.omits hostName = true

structure StepCode.Matches (μ : Matching) (c d : StepCode) : Prop where
  statements : c.statements = d.statements
  number : μ.code c.number d.number
  omits : d.statements.all (·.omits hostName) = true

inductive InstructionCode.Matches (μ : Matching) : InstructionCode → InstructionCode → Prop
  | value {c d : Code} (h : c.Matches μ d) : Matches μ (.value c) (.value d)
  | range {init init' cond cond' : Code} {step step' : StepCode} (hinit : init.Matches μ init')
      (hcond : cond.Matches μ cond') (hstep : step.Matches μ step') :
      Matches μ (.range init cond step) (.range init' cond' step')

/-- An instruction that captures nothing and binds no variable of the name of the host. -/
def Instruction.leavesHost : Instruction → Bool
  | .capture .. => false
  | .openLoop name _ _ => name ≠ hostName
  | _ => true

/-- Programs that differ only in how their expressions are numbered. -/
structure Compiled.Matches (μ : Matching) (p q : Compiled) : Prop where
  template : p.template = q.template
  program : p.program = q.program
  jumps : p.jumps = q.jumps
  codes : List.Forall₂ (fun c d => c.1 = d.1 ∧ c.2.Matches μ d.2) p.codes q.codes
  leavesHost : q.program.all Instruction.leavesHost = true

/-! ## Configurations -/

structure LoopFrame.Matches (μ : Matching) (f g : LoopFrame) : Prop where
  name : f.name = g.name
  name_ne : g.name ≠ hostName
  savedScope : Option.Rel (Value.Matches μ) f.savedScope g.savedScope
  savedName : Option.Rel (Value.Matches μ) f.savedName g.savedName
  iterator : Option.Rel (μ.rel .iterator) f.iterator g.iterator

theorem LoopFrame.Matches.withIterator {f g : LoopFrame} (h : f.Matches μ g) {a b : Nat}
    (hab : μ.rel .iterator a b) :
    LoopFrame.Matches μ { f with iterator := some a } { g with iterator := some b } :=
  ⟨h.name, h.name_ne, h.savedScope, h.savedName, .some hab⟩

structure Config.Matches (μ : Matching) (c d : Config) : Prop where
  pc : c.pc = d.pc
  out : c.out = d.out
  loops : List.Forall₂ (LoopFrame.Matches μ) c.loops d.loops
  blocks : c.blocks = d.blocks

theorem Config.Matches.initial : Config.Matches μ .initial .initial := ⟨rfl, rfl, .nil, rfl⟩

/-! ## The scope -/

section

variable {a b : Nat} (hab : μ.rel .mapping a b)
include hab

theorem mirrors_scopeGet (name : Text) :
    Mirrors μ (Option.Rel (Value.Matches μ)) (scopeGet a name) (scopeGet b name) :=
  mirrors_heap.bind fun _ _ hh => .pure ((hh.mapping hab).get? (.str name .shared))

theorem mirrors_scopePut (name : Text) {v w : Value} (hv : v.Matches μ w) :
    Mirrors μ Eq (scopePut a name v) (scopePut b name w) :=
  mirrors_modifyHeap fun _ _ hh => hh.setMapping hab ((hh.mapping hab).put (.str name .shared) hv)

theorem mirrors_scopeRemove (name : Text) :
    Mirrors μ Eq (scopeRemove a name) (scopeRemove b name) :=
  mirrors_modifyHeap fun _ _ hh => hh.setMapping hab ((hh.mapping hab).remove (.str name .shared))

end

/-! ## Loops -/

section

variable {s s' : Setting} (hs : μ.rel .mapping s.scope s'.scope)
include hs

theorem mirrors_saveFrame {name : Text} (hname : name ≠ hostName) :
    Mirrors μ (LoopFrame.Matches μ) (saveFrame s name) (saveFrame s' name) :=
  (mirrors_scopeGet hs name).bind fun _ _ hscope => mirrors_names.bind fun _ _ hns =>
    .pure ⟨rfl, hname, hscope, hns name hname, .none⟩

theorem mirrors_restore {f g : LoopFrame} (h : f.Matches μ g) :
    Mirrors μ Eq (restore s f) (restore s' g) := by
  obtain ⟨name, savedScope, savedName, _⟩ := f
  obtain ⟨_, _, _, _⟩ := g
  obtain ⟨rfl, -, hscope, hname, -⟩ := h
  have hback {x x' y y' : Eval Unit} (hx : Mirrors μ Eq x x') (hy : Mirrors μ Eq y y') :
      Mirrors μ Eq (do x; y) (do x'; y') :=
    hx.bind_eq fun _ => hy
  rcases hscope with hv | _ <;> rcases hname with hw | _
  · exact hback (mirrors_scopePut hs name hv) (mirrors_putName name hw)
  · exact hback (mirrors_scopePut hs name hv) (mirrors_removeName name)
  · exact hback (mirrors_scopeRemove hs name) (mirrors_putName name hw)
  · exact hback (mirrors_scopeRemove hs name) (mirrors_removeName name)

theorem mirrors_restoreAll {fs gs : List LoopFrame} (h : List.Forall₂ (LoopFrame.Matches μ) fs gs) :
    Mirrors μ Eq (restoreAll s fs) (restoreAll s' gs) := by
  induction h with
  | nil => exact .pure rfl
  | cons h _ ih => exact (mirrors_restore hs h).bind_eq fun _ => ih

theorem mirrors_publish {name : Text} (hname : name ≠ hostName) :
    Mirrors μ Eq (publish s name) (publish s' name) := by
  refine mirrors_names.bind fun ns ns' hns => ?_
  have hv := hns name hname
  generalize ns.get? name = x at hv ⊢
  generalize ns'.get? name = y at hv ⊢
  cases hv with
  | some hv => exact mirrors_scopePut hs name hv
  | none => exact .fault _

end

theorem mirrors_iterate (mode : IterMode) {v w : Value} (hv : v.Matches μ w) :
    Mirrors μ (μ.rel .iterator) (iterate mode v) (iterate mode w) := by
  have hiterator := Eval.mirrors_iterator hv
  unfold iterate
  refine mirrors_heap.bind fun h h' hh => ?_
  have hcount {n n' : Nat} (hn : n = n') : Mirrors μ (μ.rel .iterator)
      (Eval.newIterator (.range 0 1 n)) (Eval.newIterator (.range 0 1 n')) :=
    hn ▸ mirrors_newIterator (.range 0 1 n)
  cases hv with
  | none => cases mode <;> exact mirrors_newIterator .done
  | mapping ha =>
    have hentries := (hh.mapping ha).entries
    cases mode with
    | keys => exact mirrors_newIterator (.items _ (hentries.map fun _ _ hpq => hpq.1))
    | values => exact mirrors_newIterator (.items _ (hentries.map fun _ _ hpq => hpq.2))
  | list ha =>
    cases mode with
    | keys => exact hcount (hh.list ha).size_eq
    | values => exact hiterator
  | tuple hvs =>
    cases mode with
    | keys => exact hcount hvs.length_eq
    | values => exact hiterator
  | str | range =>
    cases mode with
    | keys => exact hcount rfl
    | values => exact hiterator
  | _ => cases mode <;> exact hiterator

/-! ## Expressions -/

section

variable (fuel : Nat)

theorem mirrors_value {c d : Code} (h : c.Matches μ d) :
    Mirrors μ (Value.Matches μ) ((Evaluator.standard fuel).value c)
      ((Evaluator.standard fuel).value d) := by
  simp only [Evaluator.standard, h.expr]
  exact Eval.mirrors_eval fuel ⟨h.number, .nil⟩ h.omits

theorem mirrors_effect {c d : StepCode} (h : c.Matches μ d) :
    Mirrors μ Eq ((Evaluator.standard fuel).effect c) ((Evaluator.standard fuel).effect d) := by
  simp only [Evaluator.standard, h.statements]
  refine Mirrors.forM (R := fun s t => s = t ∧ s ∈ d.statements)
    (List.forall₂_same.mpr fun s hs => ⟨rfl, hs⟩) ?_
  rintro s _ ⟨rfl, hs⟩
  exact Eval.mirrors_execute fuel ⟨h.number, .nil⟩ (List.all_eq_true.mp h.omits s hs)

theorem mirrors_holds {c d : Code} (h : c.Matches μ d) :
    Mirrors μ Eq (holds (.standard fuel) c) (holds (.standard fuel) d) :=
  (mirrors_value fuel h).bind fun _ _ hv => mirrors_truth hv

theorem mirrors_advance (name : Text) {a b : Nat} (hab : μ.rel .iterator a b) :
    Mirrors μ Eq (advance (.standard fuel) name a) (advance (.standard fuel) name b) := by
  refine ((Eval.mirrored μ fuel).next hab).bind fun x y hxy => ?_
  cases hxy with
  | some hv => exact (mirrors_putName name hv).bind_eq fun _ => .pure rfl
  | none => exact .pure rfl

end

theorem mirrors_outputText (escaped : Bool) {v w : Value} (hv : v.Matches μ w) :
    Mirrors μ Eq (outputText v escaped) (outputText w escaped) :=
  (Eval.mirrors_write hv _).bind_eq fun _ => .pure rfl

/-! ## Steps -/

theorem mirrors_jump (table : List (Nat × Nat)) (pc : Nat) :
    Mirrors μ Eq (jump table pc) (jump table pc) := by
  unfold jump
  split
  · exact .pure rfl
  · exact .fault _

section

variable {p q : Compiled} (hp : p.Matches μ q)
include hp

theorem Compiled.Matches.lookup (pc : Nat) :
    Option.Rel (InstructionCode.Matches μ) (p.codes.lookup pc) (q.codes.lookup pc) := by
  have hcodes := hp.codes
  generalize p.codes = cs at hcodes ⊢
  generalize q.codes = ds at hcodes ⊢
  induction hcodes with
  | nil => exact .none
  | @cons c d _ _ hcd _ ih =>
    obtain ⟨at₁, c⟩ := c
    obtain ⟨at₂, d⟩ := d
    obtain ⟨rfl, hcd⟩ := hcd
    rw [List.lookup_cons, List.lookup_cons]
    cases pc == at₁ with
    | true => exact .some hcd
    | false => exact ih

theorem mirrors_valueCode (pc : Nat) :
    Mirrors μ (Code.Matches μ) (valueCode p pc) (valueCode q pc) := by
  have hcode := hp.lookup pc
  unfold valueCode
  generalize p.codes.lookup pc = x at hcode ⊢
  generalize q.codes.lookup pc = y at hcode ⊢
  rcases hcode with h | _
  · cases h with
    | value h => exact .pure h
    | range => exact .fault _
  · exact .fault _

theorem mirrors_rangeCode (pc : Nat) :
    Mirrors μ (fun x y => x.1.Matches μ y.1 ∧ x.2.1.Matches μ y.2.1 ∧ x.2.2.Matches μ y.2.2)
      (rangeCode p pc) (rangeCode q pc) := by
  have hcode := hp.lookup pc
  unfold rangeCode
  generalize p.codes.lookup pc = x at hcode ⊢
  generalize q.codes.lookup pc = y at hcode ⊢
  rcases hcode with h | _
  · cases h with
    | value => exact .fault _
    | range hinit hcond hstep => exact .pure ⟨hinit, hcond, hstep⟩
  · exact .fault _

theorem mirrors_enterBranch (steps fuel pc : Nat) :
    Mirrors μ Eq (enterBranch (.standard fuel) p steps pc)
      (enterBranch (.standard fuel) q steps pc) := by
  induction steps generalizing pc with
  | zero => exact .fault _
  | succ steps ih =>
    have hbranch : Mirrors μ Eq
        (do
          if ← holds (.standard fuel) (← valueCode p pc) then return pc + 1
          else enterBranch (.standard fuel) p steps (← jump p.jumps.nextBranch pc))
        (do
          if ← holds (.standard fuel) (← valueCode q pc) then return pc + 1
          else enterBranch (.standard fuel) q steps (← jump q.jumps.nextBranch pc)) := by
      refine (mirrors_valueCode hp pc).bind fun _ _ hc =>
        (mirrors_holds fuel hc).bind_eq fun holds => ?_
      rw [hp.jumps]
      split_ifs
      · exact .pure rfl
      · exact (mirrors_jump _ pc).bind_eq fun _ => ih _
    unfold enterBranch
    rw [hp.program]
    split
    · exact hbranch
    · exact hbranch
    · exact .pure rfl
    · exact .fault _

variable {s s' : Setting} (hs : μ.rel .mapping s.scope s'.scope) {c d : Config}
  (hc : c.Matches μ d)
include hs hc

theorem mirrors_openLoop (fuel : Nat) {name : Text} (hname : name ≠ hostName) (head : LoopHead) :
    Mirrors μ (Config.Matches μ) (openLoop (.standard fuel) s p c name head)
      (openLoop (.standard fuel) s' q d name head) := by
  obtain ⟨pc, out, loops, blocks⟩ := c
  obtain ⟨_, _, loops', _⟩ := d
  obtain ⟨rfl, rfl, hloops, rfl⟩ := hc
  have hgo {f g : LoopFrame} (hf : f.Matches μ g) (proceed : Bool) : Mirrors μ (Config.Matches μ)
      (if proceed then do
        publish s name
        return ⟨pc + 1, out, f :: loops, blocks⟩
      else do
        restore s f
        return ⟨(← jump p.jumps.loopClose pc) + 1, out, loops, blocks⟩)
      (if proceed then do
        publish s' name
        return ⟨pc + 1, out, g :: loops', blocks⟩
      else do
        restore s' g
        return ⟨(← jump q.jumps.loopClose pc) + 1, out, loops', blocks⟩) := by
    rw [hp.jumps]
    split_ifs
    · exact (mirrors_publish hs hname).bind_eq fun _ => .pure ⟨rfl, rfl, .cons hf hloops, rfl⟩
    · exact (mirrors_restore hs hf).bind_eq fun _ => (mirrors_jump _ pc).bind_eq fun _ =>
        .pure ⟨rfl, rfl, hloops, rfl⟩
  refine (mirrors_saveFrame hs hname).bind fun f g hf => ?_
  cases head with
  | range init cond step =>
    exact (mirrors_rangeCode hp pc).bind fun _ _ hcodes => (mirrors_value fuel hcodes.1).bind
      fun _ _ hv => (mirrors_putName name hv).bind_eq fun _ =>
        (mirrors_holds fuel hcodes.2.1).bind_eq fun proceed => hgo hf proceed
  | each mode iterable =>
    exact (mirrors_valueCode hp pc).bind fun _ _ hcode => (mirrors_value fuel hcode).bind
      fun _ _ hv => (mirrors_iterate mode hv).bind fun _ _ ha =>
        (mirrors_advance fuel name ha).bind_eq fun proceed =>
          hgo (hf.withIterator ha) proceed

theorem mirrors_closeLoop (fuel : Nat) :
    Mirrors μ (Config.Matches μ) (closeLoop (.standard fuel) s p c)
      (closeLoop (.standard fuel) s' q d) := by
  obtain ⟨pc, out, loops, blocks⟩ := c
  obtain ⟨_, _, loops', _⟩ := d
  obtain ⟨rfl, rfl, hloops, rfl⟩ := hc
  cases hloops with
  | nil => exact .fault _
  | @cons f g outer outer' hf houter =>
    obtain ⟨name, saved, hidden, iterator⟩ := f
    obtain ⟨name', saved', hidden', iterator'⟩ := g
    obtain rfl : name = name' := hf.name
    have hgo (start : Nat) (proceed : Bool) : Mirrors μ (Config.Matches μ)
        (if proceed then do
          publish s name
          return ⟨start + 1, out, ⟨name, saved, hidden, iterator⟩ :: outer, blocks⟩
        else do
          restore s ⟨name, saved, hidden, iterator⟩
          return ⟨pc + 1, out, outer, blocks⟩)
        (if proceed then do
          publish s' name
          return ⟨start + 1, out, ⟨name, saved', hidden', iterator'⟩ :: outer', blocks⟩
        else do
          restore s' ⟨name, saved', hidden', iterator'⟩
          return ⟨pc + 1, out, outer', blocks⟩) := by
      split_ifs
      · exact (mirrors_publish hs hf.name_ne).bind_eq fun _ =>
          .pure ⟨rfl, rfl, .cons hf houter, rfl⟩
      · exact (mirrors_restore hs hf).bind_eq fun _ => .pure ⟨rfl, rfl, houter, rfl⟩
    unfold closeLoop
    dsimp only
    rw [hp.jumps]
    refine (mirrors_jump _ pc).bind_eq fun start => ?_
    have hiterator : Option.Rel (μ.rel .iterator) iterator iterator' := hf.iterator
    cases hiterator with
    | some ha =>
      exact (mirrors_advance fuel name ha).bind_eq fun proceed => hgo start proceed
    | none =>
      exact (mirrors_rangeCode hp start).bind fun _ _ hcodes =>
        (mirrors_effect fuel hcodes.2.2).bind_eq fun _ =>
          (mirrors_holds fuel hcodes.2.1).bind_eq fun proceed => hgo start proceed

theorem mirrors_step (fuel : Nat) :
    Mirrors μ (Config.Matches μ) (step (.standard fuel) s p c)
      (step (.standard fuel) s' q d) := by
  obtain ⟨pc, out, loops, blocks⟩ := c
  obtain ⟨_, _, loops', _⟩ := d
  obtain ⟨rfl, rfl, hloops, rfl⟩ := id hc
  unfold step
  dsimp only
  rw [hp.program, hp.jumps]
  cases hi : q.program[pc]? with
  | none => exact .fault _
  | some i =>
    have hleaves := List.all_eq_true.mp hp.leavesHost i (List.mem_of_getElem? hi)
    have hstay {out : Array Text} {blocks : List ContentFrame} : Mirrors μ (Config.Matches μ)
        (pure ⟨pc + 1, out, loops, blocks⟩) (pure ⟨pc + 1, out, loops', blocks⟩) :=
      .pure ⟨rfl, rfl, hloops, rfl⟩
    cases i with
    | literal t => exact hstay
    | output expr escaped source =>
      exact (mirrors_valueCode hp pc).bind fun _ _ hcode => (mirrors_value fuel hcode).bind
        fun _ _ hv => (mirrors_outputText escaped hv).bind_eq fun _ => hstay
    | assign name expr source =>
      exact (mirrors_valueCode hp pc).bind fun _ _ hcode => (mirrors_value fuel hcode).bind
        fun _ _ hv => (mirrors_scopePut hs name hv).bind_eq fun _ => hstay
    | openLoop name head source =>
      exact mirrors_openLoop hp hs hc fuel (of_decide_eq_true hleaves) head
    | closeLoop => exact mirrors_closeLoop hp hs hc fuel
    | openIf cond source =>
      exact (mirrors_enterBranch hp _ fuel pc).bind_eq fun _ => .pure ⟨rfl, rfl, hloops, rfl⟩
    | elseIf | otherwise =>
      exact (mirrors_jump _ pc).bind_eq fun _ => .pure ⟨rfl, rfl, hloops, rfl⟩
    | closeIf => exact hstay
    | capture => exact absurd hleaves Bool.false_ne_true
    | openHasContent => exact hstay
    | openContent | closeContent | closeHasContent =>
      cases blocks with
      | nil => exact .fault _
      | cons b outer => exact hstay

/-! ## Whole runs -/

theorem mirrors_runFrom (fuel steps : Nat) :
    Mirrors μ Eq (runFrom (.standard fuel) s p steps c)
      (runFrom (.standard fuel) s' q steps d) := by
  induction steps generalizing c d with
  | zero => exact (mirrors_restoreAll hs hc.loops).bind_eq fun _ => .exhausted
  | succ steps ih =>
    unfold runFrom
    rw [hp.program, hc.pc, hc.out]
    split_ifs
    · exact .pure rfl
    · refine (mirrors_step hp hs hc fuel).attempt.bind fun r r' hr => ?_
      cases hr with
      | ok hc => exact ih hc
      | error e =>
        have hlocate : locate p d.pc e = locate q d.pc e := by
          cases e with
          | fault f => simp only [locate, hp.template, hp.program]
          | _ => rfl
        dsimp only
        rw [hlocate]
        exact (mirrors_restoreAll hs hc.loops).bind_eq fun _ => .fail _

end

theorem run_done {p q : Compiled} (hp : p.Matches μ q) {s s' : Setting}
    (hs : μ.rel .mapping s.scope s'.scope) (fuel steps : Nat) {globals globals' : Names}
    (hglobals : ∀ n, n ≠ hostName →
      Option.Rel (Value.Matches μ) (globals.get? n) (globals'.get? n))
    {h h' : Heap} (hh : h.Matches μ h') :
    ∃ result memory memory',
      run (.standard fuel) steps globals s p h = .done result memory ∧
      run (.standard fuel) steps globals' s' q h' = .done result memory' ∧
      memory.heap.Matches μ memory'.heap := by
  have hnames (n : Text) (hn : n ≠ hostName) : Option.Rel (Value.Matches μ)
      ((startNames globals s).get? n) ((startNames globals' s').get? n) := by
    have hhost (ns : Names) (v : Value) : (ns.put "tpl".toList v).get? n = ns.get? n :=
      Names.get?_put_of_ne (Ne.symm hn)
    rw [startNames, startNames, hhost, hhost]
    by_cases hscope : scopeVariable = n
    · subst hscope
      rw [Names.get?_put_self, Names.get?_put_self]
      exact .some (.mapping hs)
    · rw [Names.get?_put_of_ne hscope, Names.get?_put_of_ne hscope]
      exact hglobals n hn
  have hrun : Mirrors μ Eq
      (do return (← runFrom (.standard fuel) s p steps .initial).toList.flatten)
      (do return (← runFrom (.standard fuel) s' q steps .initial).toList.flatten) :=
    (mirrors_runFrom hp hs .initial fuel steps).bind_eq fun _ => .pure rfl
  obtain ⟨r, r', memory, memory', hx, hy, hr, hmemory⟩ :=
    hrun.done ⟨h, startNames globals s⟩ ⟨h', startNames globals' s'⟩ ⟨hh, hnames⟩
  obtain rfl := hr.eq
  exact ⟨r, memory, memory', hx, hy, hmemory.heap⟩

end Stencil.Template
