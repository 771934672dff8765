import Stencil.Proofs.Template.Scoping

/-!
# What runs leave alone

Apart from what its expressions do, a run writes to its own scope only.
-/

namespace Stencil

theorem Eval.Leaves.attempt {α : Type} {W : Answers} {address : Nat} {x : Eval α}
    (hx : x.Leaves W address) : x.attempt.Leaves W address := by
  intro m result m' h
  obtain ⟨first, m₁, hfirst, hrest⟩ := Dialog.ends_andThen_iff.mp h
  obtain ⟨-, rfl⟩ := Dialog.ends_done_iff.mp hrest
  exact hx _ _ _ hfirst

namespace Template

variable {W : Answers} {ev : Evaluator} {s : Setting} {p : Compiled} {address : Nat}

/-! ## Writing to another mapping -/

section

variable (W) (hother : s.scope ≠ address)

include hother

theorem leaves_setScope (f : Mapping → Mapping) :
    (Eval.modifyHeap fun h => h.setMapping s.scope (f (h.mapping s.scope))).Leaves W address :=
  .of_apply fun m => ⟨_, _, rfl, by simp [SameMapping, Heap.setMapping, hother]⟩

theorem leaves_scopePut (n : Text) (v : Value) : (scopePut s.scope n v).Leaves W address :=
  leaves_setScope W hother fun m => m.put (.str n .shared) v

theorem leaves_publish (n : Text) : (publish s n).Leaves W address := by
  refine (Eval.Leaves.names W address).bind fun names => ?_
  cases names.get? n with
  | some v => exact leaves_scopePut W hother n v
  | none => exact .fail _

theorem leaves_restore (frame : LoopFrame) : (restore s frame).Leaves W address := by
  refine .of_apply fun m => ⟨_, _, restore_apply s frame m, ?_⟩
  simp [SameMapping, LoopFrame.undo, Heap.setMapping, hother]

theorem leaves_restoreAll (loops : List LoopFrame) : (restoreAll s loops).Leaves W address := by
  induction loops with
  | nil => exact .pure _
  | cons frame outer ih => exact (leaves_restore W hother frame).bind fun _ => ih

end

/-! ## Steps and runs -/

theorem leaves_saveFrame (W : Answers) (address : Nat) (s : Setting) (n : Text) :
    (saveFrame s n).Leaves W address := .of_apply fun m => ⟨_, m, saveFrame_apply s n m, rfl⟩

theorem leaves_outputText (W : Answers) (address : Nat) (v : Value) (escaped : Bool) :
    (outputText v escaped).Leaves W address :=
  (Eval.Leaves.write W address _ v).bind fun _ => .pure _

theorem openLoop_eq_startTurns (ev : Evaluator) (s : Setting) (p : Compiled) (c : Config)
    (name : Text) (head : LoopHead) :
    openLoop ev s p c name head = (do
      let saved ← saveFrame s name
      let (frame, proceed) ← startTurns ev p c.pc name head saved
      if proceed then
        publish s name
        return { c with pc := c.pc + 1, loops := frame :: c.loops }
      else
        restore s frame
        return { c with pc := (← jump p.jumps.loopClose c.pc) + 1 }) := by
  unfold openLoop startTurns
  refine bind_congr fun saved => ?_
  cases head <;> simp only [bind_assoc, pure_bind]

theorem closeLoop_eq_goOn (ev : Evaluator) (s : Setting) (p : Compiled) {c : Config}
    {frame : LoopFrame} {outer : List LoopFrame} (hloops : c.loops = frame :: outer) :
    closeLoop ev s p c = (do
      let start ← jump p.jumps.loopOpen c.pc
      if ← goOn ev p start frame then
        publish s frame.name
        return { c with pc := start + 1 }
      else
        restore s frame
        return { c with pc := c.pc + 1, loops := outer }) := by
  unfold closeLoop goOn
  rw [hloops]
  refine bind_congr fun start => ?_
  cases frame.iterator <;> simp only [bind_assoc]

namespace Evaluator.Respects

variable (h : ev.Respects W p address) (hother : s.scope ≠ address)

include h hother

theorem openLoop (c : Config) (name : Text) (head : LoopHead) :
    (Template.openLoop ev s p c name head).Leaves W address := by
  rw [openLoop_eq_startTurns]
  refine (leaves_saveFrame W address s name).bind fun saved =>
    (h.startTurns c.pc name head saved).bind fun turns => ?_
  obtain ⟨frame, proceed⟩ := turns
  cases proceed with
  | true => exact (leaves_publish W hother name).bind fun _ => .pure _
  | false =>
      exact (leaves_restore W hother frame).bind fun _ => leaves_jump_bind _ _ fun _ => .pure _

theorem closeLoop (c : Config) : (Template.closeLoop ev s p c).Leaves W address := by
  cases hloops : c.loops with
  | nil =>
      rw [Template.closeLoop, hloops]
      exact .fail _
  | cons frame outer =>
      rw [closeLoop_eq_goOn ev s p hloops]
      refine leaves_jump_bind _ _ fun start => (h.goOn start frame).bind fun proceed => ?_
      cases proceed with
      | true => exact (leaves_publish W hother frame.name).bind fun _ => .pure _
      | false => exact (leaves_restore W hother frame).bind fun _ => .pure _

theorem step (hW : CapturesRespect W address) (c : Config) :
    (Template.step ev s p c).Leaves W address := by
  unfold Template.step
  split
  · exact .fail _
  · next i _ =>
      cases i with
      | literal t => exact .pure _
      | output expr escape source =>
          exact leaves_valueCode_bind fun code hcode => (h.value code hcode).bind fun v =>
            (leaves_outputText W address v escape).bind fun _ => .pure _
      | assign name expr source =>
          exact leaves_valueCode_bind fun code hcode => (h.value code hcode).bind fun v =>
            (leaves_scopePut W hother name v).bind fun _ => .pure _
      | capture expr source =>
          exact leaves_valueCode_bind fun code hcode =>
            (h.captureText hW hcode).bind fun _ => .pure _
      | openLoop name head source => exact h.openLoop hother c name head
      | closeLoop => exact h.closeLoop hother c
      | openIf cond source => exact (h.enterBranch _ _).bind fun _ => .pure _
      | elseIf | otherwise => exact leaves_jump_bind _ _ fun _ => .pure _
      | closeIf | openHasContent => exact .pure _
      | openContent | closeContent | closeHasContent =>
          simp only
          split
          · exact .fail _
          · exact .pure _

theorem runFrom (hW : CapturesRespect W address) (fuel : Nat) (c : Config) :
    (Template.runFrom ev s p fuel c).Leaves W address := by
  induction fuel generalizing c with
  | zero => exact (leaves_restoreAll W hother c.loops).bind fun _ => .fail _
  | succ fuel ih =>
      unfold Template.runFrom
      split
      · exact .pure _
      · refine ((h.step hother hW c).attempt).bind fun result => ?_
        cases result with
        | ok c => exact ih c
        | error e => exact (leaves_restoreAll W hother c.loops).bind fun _ => .fail _

end Evaluator.Respects

theorem sameMapping_of_ends_run (h : ev.Respects W p address) (hother : s.scope ≠ address)
    (hW : CapturesRespect W address) {fuel : Nat} {globals : Names} {heap : Heap}
    {result : Except Failure Text} {m' : Memory}
    (hends : (run ev fuel globals s p heap).Ends W result m') :
    m'.heap.mappings[address]? = heap.mappings[address]? :=
  ((h.runFrom hother hW fuel .initial).bind fun _ => .pure _) _ _ _ hends

end Template

end Stencil
