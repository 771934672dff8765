import Stencil.Proofs.Template.Structured

/-!
# Steps of the machine

What a run does with one instruction, and what putting back loop variables does to the memory. More
steps never change what a run has said.
-/

namespace Stencil.Template

variable {α β : Type}

/-! ## Putting back loop variables -/

def Setting.entry (s : Setting) (m : Memory) (n : Text) : Option Value :=
  (m.heap.mapping s.scope).get? (.str n .shared)

theorem saveFrame_apply (s : Setting) (name : Text) (m : Memory) :
    saveFrame s name m = .done (.ok ⟨name, s.entry m name, m.names.get? name, none⟩) m := rfl

def LoopFrame.undo (s : Setting) (frame : LoopFrame) (m : Memory) : Memory :=
  let mapping := m.heap.mapping s.scope
  { heap := m.heap.setMapping s.scope (match frame.savedScope with
      | some v => mapping.put (.str frame.name .shared) v
      | none => mapping.remove (.str frame.name .shared))
    names := match frame.savedName with
      | some v => m.names.put frame.name v
      | none => m.names.remove frame.name }

def undoAll (s : Setting) : List LoopFrame → Memory → Memory
  | [], m => m
  | frame :: outer, m => undoAll s outer (frame.undo s m)

theorem restore_apply (s : Setting) (frame : LoopFrame) (m : Memory) :
    restore s frame m = .done (.ok ()) (frame.undo s m) := by
  obtain ⟨name, savedScope, savedName, iterator⟩ := frame
  cases savedScope <;> cases savedName <;> rfl

theorem restoreAll_apply (s : Setting) (loops : List LoopFrame) (m : Memory) :
    restoreAll s loops m = .done (.ok ()) (undoAll s loops m) := by
  induction loops generalizing m with
  | nil => rfl
  | cons frame outer ih =>
      change (restore s frame >>= fun _ => restoreAll s outer) m = _
      rw [Eval.bind_eq_handle, Eval.handle, restore_apply]
      exact ih (frame.undo s m)

def unwind (s : Setting) (loops : List LoopFrame) (e : Failure) : Eval α := do
  restoreAll s loops
  Eval.fail e

theorem unwind_apply (s : Setting) (loops : List LoopFrame) (e : Failure) (m : Memory) :
    (unwind s loops e : Eval α) m = .done (.error e) (undoAll s loops m) := by
  rw [unwind, Eval.bind_eq_handle, Eval.handle, restoreAll_apply]
  rfl

theorem exhausts_unwind (s : Setting) (loops : List LoopFrame) :
    (unwind s loops .exhausted : Eval α).Exhausts :=
  fun m => ⟨undoAll s loops m, unwind_apply s loops .exhausted m⟩

theorem restore_handle_unwind (s : Setting) (frame : LoopFrame) (outer : List LoopFrame)
    (e : Failure) :
    (restore s frame).handle (fun _ => unwind s outer e) (unwind s outer) =
      (unwind s (frame :: outer) e : Eval α) := by
  funext m
  rw [Eval.handle, restore_apply, unwind_apply]
  exact unwind_apply s outer e _

/-! ## Locating faults -/

section

variable (p : Compiled) (directive : Text)

theorem located_handle (x : Eval α) (next : α → Eval β) (failed : Failure → Eval β) :
    (located p directive x).handle next failed =
      x.handle next fun e => failed (e.inDirective p.template directive) := by
  rw [located, Eval.handle_handle]
  rfl

@[simp] theorem located_pure (a : α) : located p directive (pure a) = pure a := rfl

theorem located_bind (x : Eval α) (f : α → Eval β) :
    located p directive (x >>= f) =
      located p directive x >>= fun a => located p directive (f a) := by
  rw [Eval.bind_eq_handle (located p directive x), located_handle, located, Eval.bind_handle]
  rfl

theorem located_restore (s : Setting) (frame : LoopFrame) :
    located p directive (restore s frame) = restore s frame := by
  funext m
  rw [located, Eval.handle, restore_apply]
  rfl

theorem locate_eq_inDirective {p : Compiled} {pc : Nat} {i : Instruction}
    (h : p.program[pc]? = some i) (e : Failure) :
    locate p pc e = e.inDirective p.template i.source := by
  cases e <;> simp [locate, Failure.inDirective, h]

end

/-! ## Single steps -/

variable (ev : Evaluator) (s : Setting) (p : Compiled)

theorem runFrom_zero (c : Config) : runFrom ev s p 0 c = unwind s c.loops .exhausted := rfl

theorem runFrom_end {c : Config} (n : Nat) (h : p.program.length ≤ c.pc) :
    runFrom ev s p (n + 1) c = pure c.out := by
  simp [runFrom, h]

theorem runFrom_succ {c : Config} {i : Instruction} (n : Nat) (h : p.program[c.pc]? = some i) :
    runFrom ev s p (n + 1) c =
      (located p i.source (step ev s p c)).handle (runFrom ev s p n) (unwind s c.loops) := by
  have hlt : ¬ p.program.length ≤ c.pc :=
    Nat.not_le.mpr (List.getElem?_eq_some_iff.mp h).1
  simp only [runFrom, hlt, if_false, Eval.attempt_bind, located_handle]
  congr 1
  funext e
  rw [locate_eq_inDirective h]
  rfl

theorem runFrom_growing (n : Nat) (c : Config) :
    (runFrom ev s p n c).Approximates Eq (runFrom ev s p (n + 1) c) := by
  induction n generalizing c with
  | zero => exact (exhausts_unwind s c.loops).approximates _
  | succ n ih =>
      cases hi : p.program[c.pc]? with
      | none =>
          have hend := List.getElem?_eq_none_iff.mp hi
          rw [runFrom_end ev s p n hend, runFrom_end ev s p (n + 1) hend]
          exact .refl _
      | some i =>
          rw [runFrom_succ ev s p n hi, runFrom_succ ev s p (n + 1) hi]
          refine (Eval.Approximates.refl _).handle ?_ (fun e => .refl _) (exhausts_unwind s c.loops)
          rintro c' _ rfl
          exact ih c'

/-! ## Instructions that jump -/

theorem jump_eq {table : List (Nat × Nat)} {pc target : Nat}
    (h : table.lookup pc = some target) : jump table pc = pure target := by
  simp [jump, h]

theorem openLoop_eq {c : Config} {name : Text} {head : LoopHead} {target : Nat}
    (h : p.jumps.loopClose.lookup c.pc = some target) :
    openLoop ev s p c name head = (do
      let (frame, proceed) ← enterLoop ev s p c.pc name head
      if proceed then return { c with pc := c.pc + 1, loops := frame :: c.loops }
      else
        restore s frame
        return { c with pc := target + 1 }) := by
  unfold openLoop enterLoop startTurns
  simp only [jump_eq h, bind_assoc, pure_bind]
  refine bind_congr fun frame => ?_
  cases head with
  | range init cond step =>
      simp only [bind_assoc, pure_bind]
      refine bind_congr fun code => bind_congr fun v => bind_congr fun _ => bind_congr fun go => ?_
      cases go <;> simp [publishIf]
  | each mode iterable =>
      simp only [bind_assoc, pure_bind]
      refine bind_congr fun code => bind_congr fun v => bind_congr fun a => bind_congr fun go => ?_
      cases go <;> simp [publishIf]

theorem closeLoop_eq {c : Config} {frame : LoopFrame} {outer : List LoopFrame} {start : Nat}
    (hloops : c.loops = frame :: outer) (h : p.jumps.loopOpen.lookup c.pc = some start) :
    closeLoop ev s p c = (do
      if ← nextTurn ev s p start frame then return { c with pc := start + 1 }
      else
        restore s frame
        return { c with pc := c.pc + 1, loops := outer }) := by
  unfold closeLoop nextTurn goOn
  simp only [hloops, jump_eq h, pure_bind]
  cases frame.iterator with
  | none =>
      simp only [bind_assoc, pure_bind]
      refine bind_congr fun code => bind_congr fun _ => bind_congr fun go => ?_
      cases go <;> simp [publishIf]
  | some a =>
      simp only [bind_assoc, pure_bind]
      refine bind_congr fun go => ?_
      cases go <;> simp [publishIf]

theorem step_openLoop {c : Config} {name source : Text} {head : LoopHead}
    (hi : p.program[c.pc]? = some (.openLoop name head source)) :
    step ev s p c = openLoop ev s p c name head := by
  simp [step, hi]

theorem step_closeLoop {c : Config} (hi : p.program[c.pc]? = some .closeLoop) :
    step ev s p c = closeLoop ev s p c := by
  simp [step, hi]

theorem step_openIf {c : Config} {cond source : Text}
    (hi : p.program[c.pc]? = some (.openIf cond source)) :
    step ev s p c = (do
      let target ← enterBranch ev p p.program.length c.pc
      return { c with pc := target }) := by
  simp [step, hi]

theorem enterBranch_eq {pc next : Nat} {i : Instruction} (fuel : Nat)
    (hi : p.program[pc]? = some i) (hcond : i.hasCondition)
    (h : p.jumps.nextBranch.lookup pc = some next) :
    enterBranch ev p (fuel + 1) pc = (do
      if ← (do holds ev (← valueCode p pc)) then return pc + 1
      else enterBranch ev p fuel next) := by
  cases i <;> simp_all [enterBranch, jump_eq h, Instruction.hasCondition]

theorem enterBranch_of_not_hasCondition {pc : Nat} {i : Instruction} (fuel : Nat)
    (hi : p.program[pc]? = some i) (hcond : ¬ i.hasCondition) :
    enterBranch ev p (fuel + 1) pc = pure (pc + 1) := by
  cases i <;> simp_all [enterBranch, Instruction.hasCondition]

end Stencil.Template
