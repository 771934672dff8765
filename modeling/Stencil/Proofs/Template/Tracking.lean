import Stencil.Proofs.Template.Machine
import Stencil.Proofs.Template.Placement

/-!
# Parts of a run

What it is for the machine to do a part of a program and go on behind it, up to the steps that it
has. Such parts follow one another, and a loop is the turns of its body. Output is told in the
pieces that the machine keeps.
-/

namespace Stencil.Template

variable {α β : Type}

/-! ## Output in pieces -/

/-- The pieces that are written, where the last content block of the nearest wrapper starts among
them, and whether content was found for that wrapper. -/
structure Marked where
  pieces : List Text
  mark : Option Nat
  found : Bool

instance : Output Marked where
  empty := ⟨[], none, false⟩
  text t := ⟨[t], none, false⟩
  append a b :=
    ⟨a.pieces ++ b.pieces, (b.mark.map (a.pieces.length + ·)).or a.mark, a.found || b.found⟩
  content a := ⟨a.pieces, some (a.mark.getD 0),
    a.found || (a.pieces.drop (a.mark.getD 0)).any (!·.isEmpty)⟩
  hasContent a := ⟨if a.found then a.pieces else [], none, false⟩

def ContentFrame.after (size : Nat) (o : Marked) (b : ContentFrame) : ContentFrame :=
  { b with
    contentMark := (o.mark.map (size + ·)).getD b.contentMark
    hasContent := b.hasContent || o.found }

def Config.after (c : Config) (length : Nat) (o : Marked) : Config where
  pc := c.pc + length
  out := c.out ++ o.pieces.toArray
  loops := c.loops
  blocks := c.blocks.modifyHead (ContentFrame.after c.out.size o)

@[simp] theorem Config.after_pc (c : Config) (length : Nat) (o : Marked) :
    (c.after length o).pc = c.pc + length := rfl

theorem Config.after_empty (c : Config) (length : Nat) :
    c.after length Output.empty = { c with pc := c.pc + length } := by
  obtain ⟨pc, out, loops, blocks⟩ := c
  cases blocks <;> simp [after, Output.empty, ContentFrame.after]

theorem ContentFrame.after_after (size : Nat) (a b : Marked) (frame : ContentFrame) :
    (frame.after size a).after (size + a.pieces.length) b =
      frame.after size (Output.append a b) := by
  simp only [after, Output.append, Bool.or_assoc, ContentFrame.mk.injEq, true_and, and_true]
  cases b.mark <;> simp [Nat.add_assoc]

theorem Config.after_after (c : Config) (l l' : Nat) (a b : Marked) :
    (c.after l a).after l' b = c.after (l + l') (Output.append a b) := by
  obtain ⟨pc, out, loops, blocks⟩ := c
  simp only [after, Array.size_append, List.size_toArray, Config.mk.injEq, true_and]
  refine ⟨Nat.add_assoc pc l l', by simp [Output.append], ?_⟩
  cases blocks with
  | nil => rfl
  | cons frame outer => simp [ContentFrame.after_after]

/-! ## Tracking -/

/-- Up to a bound the first computation goes as far as the second one, and with some more steps at
least as far. -/
structure Tracks (bound cost : Nat) (M M' : Nat → Eval α) : Prop where
  upper : ∀ n ≤ bound, (M n).Approximates Eq (M' n)
  lower : ∀ n, (M' n).Approximates Eq (M (n + cost))

def Growing (M : Nat → Eval α) : Prop := ∀ n, (M n).Approximates Eq (M (n + 1))

theorem Growing.add {M : Nat → Eval α} (h : Growing M) (n k : Nat) :
    (M n).Approximates Eq (M (n + k)) := by
  induction k with
  | zero => exact .refl _
  | succ k ih => exact ih.trans (h (n + k))

theorem Growing.handle {K : β → Nat → Eval α} (x : Eval β) (h : ∀ b, Growing (K b))
    (failed : Failure → Eval α) (hfailed : (failed .exhausted).Exhausts) :
    Growing fun n => x.handle (fun b => K b n) failed := by
  intro n
  refine (Eval.Approximates.refl x).handle ?_ (fun e => .refl _) hfailed
  rintro b _ rfl
  exact h b n

namespace Tracks

variable {bound cost cost' : Nat} {M M' M'' : Nat → Eval α}

theorem refl (bound : Nat) (M : Nat → Eval α) : Tracks bound 0 M M :=
  ⟨fun n _ => .refl (M n), fun n => .refl (M n)⟩

theorem trans (h : Tracks bound cost M M') (h' : Tracks bound cost' M' M'') :
    Tracks bound (cost + cost') M M'' where
  upper n hn := (h.upper n hn).trans (h'.upper n hn)
  lower n := by
    rw [Nat.add_comm cost, ← Nat.add_assoc]
    exact (h'.lower n).trans (h.lower (n + cost'))

theorem mono {bound' : Nat} (h : Tracks bound cost M M') (hM : Growing M) (hbound : bound' ≤ bound)
    (hcost : cost ≤ cost') : Tracks bound' cost' M M' where
  upper n hn := h.upper n (Nat.le_trans hn hbound)
  lower n := by
    obtain ⟨k, rfl⟩ := Nat.exists_eq_add_of_le hcost
    rw [← Nat.add_assoc]
    exact (h.lower n).trans (hM.add (n + cost) k)

theorem handle {K K' : β → Nat → Eval α} (x : Eval β) (h : ∀ b, Tracks bound cost (K b) (K' b))
    (failed : Failure → Eval α) (hfailed : (failed .exhausted).Exhausts) :
    Tracks bound cost (fun n => x.handle (fun b => K b n) failed)
      (fun n => x.handle (fun b => K' b n) failed) where
  upper n hn := by
    refine (Eval.Approximates.refl x).handle ?_ (fun e => .refl _) hfailed
    rintro b _ rfl
    exact (h b).upper n hn
  lower n := by
    refine (Eval.Approximates.refl x).handle ?_ (fun e => .refl _) hfailed
    rintro b _ rfl
    exact (h b).lower n

theorem step (hzero : (M 0).Exhausts) (hsucc : ∀ n, M (n + 1) = M' n)
    (h : Tracks bound cost M' M'') (hM : Growing M'') :
    Tracks (bound + 1) (cost + 1) M M'' where
  upper n hn := by
    cases n with
    | zero => exact hzero.approximates _
    | succ n =>
        rw [hsucc]
        exact (h.upper n (Nat.le_of_succ_le_succ hn)).trans (hM n)
  lower n := by
    rw [← Nat.add_assoc, hsucc]
    exact h.lower n

end Tracks

/-! ## Parts of a program -/

variable {ev : Evaluator} {s : Setting} {p : Compiled}

theorem growing_runFrom (c : Config) : Growing fun n => runFrom ev s p n c :=
  fun n => runFrom_growing ev s p n c

variable (ev s p) in
/-- The machine does what an evaluation does and goes on with the configuration it tells; a failure
ends the loops that were open. -/
def Runs (bound cost : Nat) (c : Config) (loops : List LoopFrame) (x : Eval β)
    (next : β → Config) : Prop :=
  Tracks bound cost (fun n => runFrom ev s p n c)
    (fun n => x.handle (fun b => runFrom ev s p n (next b)) (unwind s loops))

namespace Runs

variable {bound cost cost' : Nat} {c : Config} {loops : List LoopFrame}

theorem pure (bound : Nat) (c : Config) (loops : List LoopFrame) (b : β) :
    Runs ev s p bound 0 c loops (Pure.pure b) (fun _ => c) :=
  .refl bound _

theorem bind {x : Eval β} {γ : Type} {f : β → Eval γ} {middle : β → Config} {next : γ → Config}
    (h : Runs ev s p bound cost c loops x middle)
    (hf : ∀ b, Runs ev s p bound cost' (middle b) loops (f b) next) :
    Runs ev s p bound (cost + cost') c loops (x >>= f) next := by
  simp only [Runs, Eval.bind_handle]
  exact Tracks.trans h (.handle x hf _ (exhausts_unwind s loops))

theorem mono {x : Eval β} {next : β → Config} {bound' : Nat}
    (h : Runs ev s p bound cost c loops x next) (hbound : bound' ≤ bound) (hcost : cost ≤ cost') :
    Runs ev s p bound' cost' c loops x next :=
  Tracks.mono h (growing_runFrom c) hbound hcost

theorem step {i : Instruction} (hi : p.program[c.pc]? = some i) {x : Eval β} {next : β → Config}
    (hstep : Template.step ev s p c = x >>= fun b => Pure.pure (next b)) :
    Runs ev s p bound 1 c c.loops (located p i.source x) next := by
  have hsucc (n : Nat) : runFrom ev s p (n + 1) c =
      (located p i.source x).handle (fun b => runFrom ev s p n (next b)) (unwind s c.loops) := by
    rw [runFrom_succ ev s p n hi, hstep, located_bind, Eval.bind_handle]
    rfl
  exact (Tracks.step (exhausts_unwind s c.loops) hsucc (.refl bound _)
    (.handle _ (fun b => growing_runFrom _) _ (exhausts_unwind s c.loops))).mono
      (growing_runFrom c) (Nat.le_succ bound) (Nat.le_refl 1)

end Runs

theorem tracks_step {bound : Nat} {c c' : Config} {i : Instruction}
    (hi : p.program[c.pc]? = some i) (hstep : step ev s p c = pure c') :
    Tracks bound 1 (fun n => runFrom ev s p n c) (fun n => runFrom ev s p n c') := by
  have h : Runs ev s p bound 1 c c.loops (located p i.source (pure ())) (fun _ => c') :=
    Runs.step hi (by rw [hstep]; rfl)
  exact h

/-! ## Loops -/

/-- Some wrapper is open where content may start. -/
def Config.Fits (wrapped : Bool) (c : Config) : Prop := wrapped = true → c.blocks ≠ []

theorem Config.Fits.after {wrapped : Bool} {c : Config} (h : c.Fits wrapped) (length : Nat)
    (o : Marked) : (c.after length o).Fits wrapped := by
  intro hw
  have hne := h hw
  obtain ⟨pc, out, loops, blocks⟩ := c
  cases blocks with
  | nil => exact absurd rfl hne
  | cons frame outer => simp [Config.after]

def Config.inside (c : Config) (frame : LoopFrame) : Config :=
  { c with pc := c.pc + 1, loops := frame :: c.loops }

theorem restore_handle (frame : LoopFrame) (next : Unit → Eval β) (failed : Failure → Eval β) :
    (restore s frame).handle next failed = fun m => next () (frame.undo s m) := by
  funext m
  rw [Eval.handle, restore_apply]
  rfl

theorem restoring_handle (frame : LoopFrame) (outer : List LoopFrame) (x : Eval α)
    (next : α → Eval β) :
    (restoring s frame x).handle next (unwind s outer) =
      x.handle (fun a => (restore s frame).handle (fun _ => next a) (unwind s outer))
        (unwind s (frame :: outer)) := by
  rw [restoring, Eval.handle_handle]
  congr 1
  · funext a
    exact Eval.bind_handle _ _ _ _
  · funext e
    rw [Eval.bind_handle]
    exact restore_handle_unwind s frame outer e

theorem runFrom_closeLoop {c : Config} {frame : LoopFrame} {outer : List LoopFrame} {start : Nat}
    (hloops : c.loops = frame :: outer) (hi : p.program[c.pc]? = some .closeLoop)
    (hopen : p.jumps.loopOpen.lookup c.pc = some start) (n : Nat) :
    runFrom ev s p (n + 1) c =
      (located p [] (nextTurn ev s p start frame)).handle
        (fun proceed =>
          if proceed then runFrom ev s p n { c with pc := start + 1 }
          else (restore s frame).handle
            (fun _ => runFrom ev s p n { c with pc := c.pc + 1, loops := outer }) (unwind s outer))
        (unwind s (frame :: outer)) := by
  rw [runFrom_succ ev s p n hi, step_closeLoop ev s p hi, closeLoop_eq ev s p hloops hopen,
    located_bind, Eval.bind_handle, hloops]
  congr 1
  funext proceed
  cases proceed with
  | true => rfl
  | false =>
      simp only [Bool.false_eq_true, reduceIte, located_bind, located_restore, located_pure,
        Eval.bind_handle, Eval.pure_handle, restore_handle]
      rfl

theorem growing_turn (next : Eval Bool) (body : Eval Marked) (frame : LoopFrame)
    (outer : List LoopFrame) (again : Marked → Config) (c : Config) :
    Growing fun n => next.handle
      (fun proceed =>
        if proceed then body.handle
          (fun o => (restore s frame).handle (fun _ => runFrom ev s p n (again o))
            (unwind s outer)) (unwind s (frame :: outer))
        else (restore s frame).handle (fun _ => runFrom ev s p n c) (unwind s outer))
      (unwind s (frame :: outer)) := by
  refine Growing.handle next (fun proceed => ?_) _ (exhausts_unwind s _)
  cases proceed with
  | true =>
      exact .handle body (fun o => .handle _ (fun _ => growing_runFrom _) _ (exhausts_unwind s _))
        _ (exhausts_unwind s _)
  | false => exact .handle _ (fun _ => growing_runFrom _) _ (exhausts_unwind s _)

theorem repeatTurns_succ_handle (body : Eval Marked) (next : Eval Bool) (turns : Nat)
    (behind : Marked → Eval α) (failed : Failure → Eval α) :
    (repeatTurns body next (turns + 1)).handle behind failed =
      body.handle (fun o => next.handle
        (fun proceed =>
          if proceed then (repeatTurns body next turns).handle
            (fun o' => behind (Output.append o o')) failed
          else behind o) failed) failed := by
  simp only [repeatTurns, Eval.bind_handle]
  congr 1
  funext o
  congr 1
  funext proceed
  cases proceed with
  | true => exact Eval.bind_handle _ _ _ _
  | false => rfl

theorem tracks_repeatTurns {bound cost start length : Nat} {frame : LoopFrame}
    {outer : List LoopFrame} {body : Eval Marked} {wrapped : Bool}
    (hbody : ∀ c : Config, c.pc = start → c.loops = outer → c.Fits wrapped →
      Runs ev s p bound cost (c.inside frame) (frame :: outer) body
        (fun o => (c.inside frame).after length o))
    (hclose : p.program[start + 1 + length]? = some .closeLoop)
    (hopen : p.jumps.loopOpen.lookup (start + 1 + length) = some start)
    {turns : Nat} (hturns : turns ≤ bound) {c : Config} (hpc : c.pc = start)
    (hloops : c.loops = outer) (hfits : c.Fits wrapped) :
    Tracks turns (turns * (cost + 1)) (fun n => runFrom ev s p n (c.inside frame))
      (fun n => (repeatTurns body (located p [] (nextTurn ev s p start frame)) turns).handle
        (fun o => (restore s frame).handle
          (fun _ => runFrom ev s p n (c.after (length + 2) o)) (unwind s outer))
        (unwind s (frame :: outer))) := by
  induction turns generalizing c with
  | zero =>
      refine ⟨fun n hn => ?_, fun n => ?_⟩
      · obtain rfl := Nat.le_zero.mp hn
        exact (exhausts_unwind s _).approximates _
      · exact (exhausts_unwind s (frame :: outer)).approximates _
  | succ turns ih =>
      simp only [repeatTurns_succ_handle]
      have hcost : (turns + 1) * (cost + 1) = cost + (turns * (cost + 1) + 1) := by
        rw [Nat.succ_mul]
        omega
      rw [hcost]
      refine Tracks.trans ((hbody c hpc hloops hfits).mono hturns (Nat.le_refl cost))
        (.handle body (fun o => ?_) _ (exhausts_unwind s _))
      have hend : ((c.inside frame).after length o).pc = start + 1 + length := by
        simp [Config.after, Config.inside, hpc]
      have hinner : ((c.inside frame).after length o).loops = frame :: outer := by
        simp [Config.after, Config.inside, hloops]
      have hback : { (c.inside frame).after length o with pc := start + 1 } =
          (c.after 0 o).inside frame := by
        simp [Config.after, Config.inside, hpc]
      have hleave : { (c.inside frame).after length o with
          pc := ((c.inside frame).after length o).pc + 1, loops := outer } =
            c.after (length + 2) o := by
        simp only [Config.after, Config.inside, hloops, Config.mk.injEq, and_true]
        omega
      refine Tracks.step (exhausts_unwind s _)
        (runFrom_closeLoop hinner (by rw [hend]; exact hclose) (by rw [hend]; exact hopen))
        ?_ (growing_turn _ _ _ _ _ _)
      refine .handle _ (fun proceed => ?_) _ (exhausts_unwind s _)
      cases proceed with
      | true =>
          have hagain := ih (Nat.le_of_succ_le hturns) (c := c.after 0 o) hpc hloops
            (hfits.after 0 o)
          simpa only [reduceIte, hback, Config.after_after, Nat.zero_add] using hagain
      | false =>
          rw [hleave]
          exact (Tracks.refl turns _).mono
            (.handle _ (fun _ => growing_runFrom _) _ (exhausts_unwind s _))
            (Nat.le_refl turns) (Nat.zero_le _)

theorem runFrom_openLoop {c : Config} {name source : Text} {head : LoopHead} {target : Nat}
    (hi : p.program[c.pc]? = some (.openLoop name head source))
    (hclose : p.jumps.loopClose.lookup c.pc = some target) (n : Nat) :
    runFrom ev s p (n + 1) c =
      (located p source (enterLoop ev s p c.pc name head)).handle
        (fun entered =>
          if entered.2 then runFrom ev s p n (c.inside entered.1)
          else (restore s entered.1).handle
            (fun _ => runFrom ev s p n { c with pc := target + 1 }) (unwind s c.loops))
        (unwind s c.loops) := by
  rw [runFrom_succ ev s p n hi, step_openLoop ev s p hi, openLoop_eq ev s p hclose, located_bind,
    Eval.bind_handle]
  congr 1
  funext entered
  obtain ⟨frame, proceed⟩ := entered
  cases proceed with
  | true => rfl
  | false =>
      simp only [Bool.false_eq_true, reduceIte, located_bind, located_restore, located_pure,
        Eval.bind_handle, Eval.pure_handle]

theorem execLoop_handle (turns pc : Nat) (name : Text) (head : LoopHead) (source : Text)
    (body : Eval Marked) (next : Marked → Eval α) (outer : List LoopFrame) :
    (execLoop ev s p turns pc name head source body).handle next (unwind s outer) =
      (located p source (enterLoop ev s p pc name head)).handle
        (fun entered =>
          if entered.2 then
            (repeatTurns body (located p [] (nextTurn ev s p pc entered.1)) turns).handle
              (fun o => (restore s entered.1).handle (fun _ => next o) (unwind s outer))
              (unwind s (entered.1 :: outer))
          else (restore s entered.1).handle (fun _ => next Output.empty) (unwind s outer))
        (unwind s outer) := by
  rw [execLoop, Eval.bind_handle]
  congr 1
  funext entered
  obtain ⟨frame, proceed⟩ := entered
  cases proceed with
  | true => exact restoring_handle frame outer _ next
  | false => exact Eval.bind_handle _ _ _ _

theorem runs_execLoop {bound cost length : Nat} {c : Config} {name source : Text}
    {head : LoopHead} {body : Eval Marked} {wrapped : Bool} (hfits : c.Fits wrapped)
    (hopen : p.program[c.pc]? = some (.openLoop name head source) ∧
      p.jumps.loopClose.lookup c.pc = some (c.pc + 1 + length))
    (hclose : p.program[c.pc + 1 + length]? = some .closeLoop ∧
      p.jumps.loopOpen.lookup (c.pc + 1 + length) = some c.pc)
    (hbody : ∀ (frame : LoopFrame) (c' : Config), c'.pc = c.pc → c'.loops = c.loops →
      c'.Fits wrapped → Runs ev s p bound cost (c'.inside frame) (frame :: c.loops) body
        (fun o => (c'.inside frame).after length o)) :
    Runs ev s p bound (1 + bound * (cost + 1)) c c.loops
      (execLoop ev s p bound c.pc name head source body) (fun o => c.after (length + 2) o) := by
  have hstep : Tracks (bound + 1) (bound * (cost + 1) + 1) (fun n => runFrom ev s p n c)
      (fun n => (execLoop ev s p bound c.pc name head source body).handle
        (fun o => runFrom ev s p n (c.after (length + 2) o)) (unwind s c.loops)) := by
    refine Tracks.step (exhausts_unwind s _) (runFrom_openLoop hopen.1 hopen.2) ?_
      (.handle _ (fun _ => growing_runFrom _) _ (exhausts_unwind s _))
    simp only [execLoop_handle]
    refine .handle _ (fun entered => ?_) _ (exhausts_unwind s _)
    obtain ⟨frame, proceed⟩ := entered
    cases proceed with
    | true =>
        exact tracks_repeatTurns (hbody frame) hclose.1 hclose.2 (Nat.le_refl bound) rfl rfl hfits
    | false =>
        have hskip :
            { c with pc := c.pc + 1 + length + 1 } = c.after (length + 2) Output.empty := by
          rw [Config.after_empty, show c.pc + 1 + length + 1 = c.pc + (length + 2) by omega]
        simp only [Bool.false_eq_true, reduceIte, hskip]
        exact (Tracks.refl bound _).mono
          (.handle _ (fun _ => growing_runFrom _) _ (exhausts_unwind s _))
          (Nat.le_refl bound) (Nat.zero_le _)
  rw [Nat.add_comm 1]
  exact hstep.mono (growing_runFrom c) (Nat.le_succ bound) (Nat.le_refl _)

end Stencil.Template
