import Stencil.Proofs.Template.Tracking

/-!
# The machine follows the tree

From the start of a tree that is placed in its program, the machine does what the tree does and goes
on behind it with the stacks that it had.
-/

namespace Stencil.Template

variable {ev : Evaluator} {s : Setting} {p : Compiled}

/-! ## Sequences -/

namespace Runs

variable {bound cost cost' : Nat} {c : Config} {loops : List LoopFrame} {β γ : Type}

theorem map {x : Eval β} (f : β → γ) {next : γ → Config}
    (h : Runs ev s p bound cost c loops x fun b => next (f b)) :
    Runs ev s p bound cost c loops (x >>= fun b => Pure.pure (f b)) next := by
  simpa only [Runs, Eval.bind_handle, Eval.pure_handle] using h

theorem append {x y : Eval Marked} {l l' : Nat}
    (hx : Runs ev s p bound cost c loops x fun o => c.after l o)
    (hy : ∀ o, Runs ev s p bound cost' (c.after l o) loops y fun o' => (c.after l o).after l' o') :
    Runs ev s p bound (cost + cost') c loops
      (do let written ← x; return Output.append written (← y)) fun o => c.after (l + l') o := by
  refine hx.bind fun o => map (Output.append o) ?_
  simpa only [Config.after_after] using hy o

end Runs

/-! ## Plain instructions -/

theorem Leaf.step_eq {c : Config} {first : Leaf} (h : p.program[c.pc]? = some first.instruction) :
    step ev s p c = first.exec ev s p c.pc >>= fun o => pure (c.after 1 o) := by
  obtain ⟨pc, out, loops, blocks⟩ := c
  cases first <;> cases blocks <;>
    simp_all [step, Leaf.exec, Leaf.instruction, Config.after, ContentFrame.after, Output.text,
      Output.empty]

theorem Leaf.runs (bound : Nat) {c : Config} {first : Leaf}
    (h : p.program[c.pc]? = some first.instruction) :
    Runs ev s p bound 1 c c.loops (located p first.instruction.source (first.exec ev s p c.pc))
      fun o => c.after 1 o :=
  Runs.step h (step_eq h)

/-! ## Content -/

theorem wroteSince_append (out : Array Text) (pieces : List Text) (mark : Nat) :
    wroteSince (out ++ pieces.toArray) (out.size + mark) =
      (pieces.drop mark).any (!·.isEmpty) := by
  have hdrop : (out ++ pieces.toArray).toList.drop (out.size + mark) = pieces.drop mark := by
    rw [Array.toList_append, ← Array.length_toList, List.drop_length_add_append]
  rw [wroteSince, ← Array.any_toList, Array.toList_extract, List.extract_eq_take_drop, hdrop,
    List.take_of_length_le (by simp; omega)]

def Config.wrapped (c : Config) : Config :=
  { c with pc := c.pc + 1, blocks := ⟨c.out.size, 0, false⟩ :: c.blocks }

def Config.collecting (c : Config) : Config :=
  { c with
    pc := c.pc + 1
    blocks := c.blocks.modifyHead fun frame => { frame with contentMark := c.out.size } }

section

variable {bound cost length : Nat} {c : Config} {body : Eval Marked}

theorem runs_hasContent (hopen : p.program[c.pc]? = some .openHasContent)
    (hclose : p.program[c.pc + 1 + length]? = some .closeHasContent)
    (hbody : Runs ev s p bound cost c.wrapped c.loops body fun o => c.wrapped.after length o) :
    Runs ev s p bound (1 + (cost + 1)) c c.loops
      (do let inside ← body; return Output.hasContent inside)
      fun o => c.after (length + 2) o := by
  have hstep : step ev s p c = pure c.wrapped := by simp [step, hopen, Config.wrapped]
  have hend (o : Marked) : step ev s p (c.wrapped.after length o) =
      pure (c.after (length + 2) (Output.hasContent o)) := by
    obtain ⟨pc, out, loops, blocks⟩ := c
    have hbehind : pc + 1 + length + 1 = pc + (length + 2) := by omega
    have hi : p.program[pc + 1 + length]? = some .closeHasContent := hclose
    cases hfound : o.found <;> cases blocks <;>
      simp [step, Config.wrapped, Config.after, ContentFrame.after, Output.hasContent, hi, hbehind,
        hfound]
  refine Tracks.trans (tracks_step hopen hstep) ?_
  simp only [Eval.bind_handle, Eval.pure_handle]
  exact Tracks.trans hbody
    (.handle body (fun o => tracks_step hclose (hend o)) _ (exhausts_unwind s _))

theorem runs_content (hopen : p.program[c.pc]? = some .openContent)
    (hclose : p.program[c.pc + 1 + length]? = some .closeContent) (hblocks : c.blocks ≠ [])
    (hbody : Runs ev s p bound cost c.collecting c.loops body
      fun o => c.collecting.after length o) :
    Runs ev s p bound (1 + (cost + 1)) c c.loops
      (do let inside ← body; return Output.content inside)
      fun o => c.after (length + 2) o := by
  obtain ⟨frame, outer, hframe⟩ := List.exists_cons_of_ne_nil hblocks
  have hstep : step ev s p c = pure c.collecting := by
    simp [step, hopen, hframe, Config.collecting]
  have hend (o : Marked) : step ev s p (c.collecting.after length o) =
      pure (c.after (length + 2) (Output.content o)) := by
    obtain ⟨pc, out, loops, blocks⟩ := c
    have hbehind : pc + 1 + length + 1 = pc + (length + 2) := by omega
    have hi : p.program[pc + 1 + length]? = some .closeContent := hclose
    have hmark : ((o.mark.map (out.size + ·)).getD out.size) = out.size + o.mark.getD 0 := by
      cases o.mark <;> rfl
    simp only at hframe
    simp [step, Config.collecting, Config.after, ContentFrame.after, Output.content, hi, hbehind,
      hframe, hmark, wroteSince_append, Bool.or_assoc]
  refine Tracks.trans (tracks_step hopen hstep) ?_
  simp only [Eval.bind_handle, Eval.pure_handle]
  exact Tracks.trans hbody
    (.handle body (fun o => tracks_step hclose (hend o)) _ (exhausts_unwind s _))

end

/-! ## Conditions -/

theorem Branches.step_eq {bs : Branches} {c : Config} (h : bs.Placed p.program p.jumps c.pc) :
    step ev s p c = pure { c with pc := c.pc + bs.length } := by
  match bs with
  | .close =>
      have hi : p.program[c.pc]? = some .closeIf := h
      simp [step, hi]
  | .otherwise body =>
      obtain ⟨⟨hi, hend⟩, -, -⟩ := h
      simp only [step, hi, jump_eq hend, pure_bind, Branches.length_otherwise]
      rw [show c.pc + (body.length + 2) = c.pc + 1 + body.length + 1 by omega]
  | .elseIf cond source body others =>
      obtain ⟨⟨hi, -, hend⟩, -, -⟩ := h
      simp only [step, hi, jump_eq hend, pure_bind, Branches.length_elseIf]
      rw [← Nat.add_assoc, ← Nat.add_assoc]

theorem tracks_condition {bound cost cost' fuel pc next : Nat} {c : Config} {source : Text}
    {i : Instruction} (hi : p.program[pc]? = some i) (hcond : i.hasCondition)
    (hnext : p.jumps.nextBranch.lookup pc = some next) {first others : Eval Marked}
    {behind : Marked → Config}
    (hfirst : Runs ev s p bound cost { c with pc := pc + 1 } c.loops first behind)
    (hothers : Tracks bound cost'
      (fun n => (located p source (enterBranch ev p fuel next)).handle
        (fun target => runFrom ev s p n { c with pc := target }) (unwind s c.loops))
      (fun n => others.handle (fun o => runFrom ev s p n (behind o)) (unwind s c.loops))) :
    Tracks bound (cost + cost')
      (fun n => (located p source (enterBranch ev p (fuel + 1) pc)).handle
        (fun target => runFrom ev s p n { c with pc := target }) (unwind s c.loops))
      (fun n => (do
          if ← located p source (do holds ev (← valueCode p pc)) then first else others).handle
        (fun o => runFrom ev s p n (behind o)) (unwind s c.loops)) := by
  simp only [enterBranch_eq ev p fuel hi hcond hnext, located_bind p source _ (fun b => ite _ _ _),
    Eval.bind_handle]
  refine .handle _ (fun holds => ?_) _ (exhausts_unwind s _)
  cases holds with
  | true => exact hfirst.mono (Nat.le_refl bound) (Nat.le_add_right cost cost')
  | false =>
      refine hothers.mono ?_ (Nat.le_refl bound) (Nat.le_add_left cost' cost)
      exact .handle _ (fun _ => growing_runFrom _) _ (exhausts_unwind s _)

theorem Runs.leave {bound cost skipped length : Nat} {c : Config} {body : Eval Marked}
    {others : Branches} (hothers : others.Placed p.program p.jumps (c.pc + skipped + length))
    (hbody : Runs ev s p bound cost { c with pc := c.pc + skipped } c.loops body
      fun o => Config.after { c with pc := c.pc + skipped } length o) :
    Runs ev s p bound (cost + 1) { c with pc := c.pc + skipped } c.loops body
      fun o => c.after (skipped + length + others.length) o := by
  refine Tracks.trans hbody (.handle body (fun o => ?_) _ (exhausts_unwind s _))
  have hend : Template.step ev s p (Config.after { c with pc := c.pc + skipped } length o) =
      Pure.pure (c.after (skipped + length + others.length) o) := by
    rw [Branches.step_eq hothers]
    simp only [Config.after]
    rw [← Nat.add_assoc, ← Nat.add_assoc]
  cases others with
  | close => exact tracks_step hothers hend
  | otherwise body => exact tracks_step hothers.1.1 hend
  | elseIf cond source body more => exact tracks_step hothers.1.1 hend

/-! ## Trees -/

mutual

/-- So many steps more than turns are enough for a tree. -/
def Body.cost (turns : Nat) : Body → Nat
  | .empty => 0
  | .leaf _ rest => 1 + rest.cost turns
  | .loop _ _ _ body rest => 1 + turns * (body.cost turns + 1) + rest.cost turns
  | .branch _ _ body others rest =>
    1 + (body.cost turns + 1 + others.cost turns) + rest.cost turns
  | .hasContent body rest | .content body rest =>
    1 + (body.cost turns + 1) + rest.cost turns

def Branches.cost (turns : Nat) : Branches → Nat
  | .close => 0
  | .otherwise body => body.cost turns + 1
  | .elseIf _ _ body others => body.cost turns + 1 + others.cost turns

end

mutual

theorem Body.runs (b : Body) (turns : Nat) (c : Config) {wrapped inContent : Bool}
    (hplaced : b.Placed p.program p.jumps c.pc) (hadmitted : b.Admitted wrapped inContent)
    (hfits : c.Fits wrapped) :
    Runs ev s p turns (b.cost turns) c c.loops (b.exec ev s p turns c.pc)
      fun o => c.after b.length o := by
  match b with
  | .empty =>
      have h : Runs ev s p turns 0 c c.loops (pure (Output.empty : Marked)) fun _ => c :=
        Runs.pure turns c c.loops _
      simpa only [Runs, Eval.pure_handle, Body.exec, Body.length_empty, Body.cost,
        Config.after_empty, Nat.add_zero] using h
  | .leaf first rest =>
      have hrest (o : Marked) := rest.runs turns (c.after 1 o) hplaced.2 hadmitted (hfits.after 1 o)
      rw [Body.length_leaf, Nat.add_comm rest.length]
      exact (Leaf.runs turns hplaced.1).append hrest
  | .loop name head source body rest =>
      obtain ⟨hopen, hinside, hclose, hbehind⟩ := hplaced
      have hpc : c.pc + 1 + body.length + 1 = c.pc + (body.length + 2) := by omega
      rw [hpc] at hbehind
      -- A turn starts with other output behind it than the loop, so the body runs from any such.
      have hbody (frame : LoopFrame) (c' : Config) (hpc' : c'.pc = c.pc)
          (hloops : c'.loops = c.loops) (hfits' : c'.Fits wrapped) :
          Runs ev s p turns (body.cost turns) (c'.inside frame) (frame :: c.loops)
            (body.exec ev s p turns (c.pc + 1)) fun o => (c'.inside frame).after body.length o := by
        rw [← hpc', ← hloops]
        refine body.runs turns (c'.inside frame) ?_ hadmitted.1 hfits'
        simpa [Config.inside, hpc'] using hinside
      have hrest (o : Marked) := rest.runs turns (c.after (body.length + 2) o) hbehind
        hadmitted.2 (hfits.after _ o)
      rw [Body.length_loop, Nat.add_right_comm, Body.exec, hpc]
      exact (runs_execLoop hfits hopen hclose hbody).append hrest
  | .branch cond source body others rest =>
      obtain ⟨⟨hopen, hnext⟩, hinside, hothers, hbehind⟩ := hplaced
      have hbound := hothers.length_le
      have hpc : c.pc + 1 + body.length = c.pc + (1 + body.length) := by omega
      have hend : c.pc + (1 + body.length) + others.length =
          c.pc + (1 + body.length + others.length) := by omega
      have hlength : body.length + others.length + rest.length + 1 =
          1 + body.length + others.length + rest.length := by omega
      -- The search has fuel for each instruction, more than there are branches.
      obtain ⟨fuel, hfuel⟩ : ∃ k, p.program.length = k + 1 :=
        Nat.exists_eq_succ_of_ne_zero (by omega)
      have hbody := Runs.leave hothers
        (body.runs turns { c with pc := c.pc + 1 } hinside hadmitted.1 hfits)
      rw [hpc] at hothers hnext hbehind
      rw [hend] at hbehind
      have hmore := others.tracks turns fuel c source hothers hadmitted.2.1 hfits (by omega)
      have hchoice : Runs ev s p turns 1 c c.loops
          (located p source (enterBranch ev p (fuel + 1) c.pc)) fun target =>
            { c with pc := target } :=
        Runs.step hopen (hfuel ▸ step_openIf ev s p hopen)
      have hfirst := Tracks.trans hchoice (tracks_condition hopen rfl hnext hbody hmore)
      have hrest (o : Marked) := rest.runs turns (c.after (1 + body.length + others.length) o)
        hbehind hadmitted.2.2 (hfits.after _ o)
      rw [Body.length_branch, hlength, Body.exec, hpc, hend, ← bind_assoc]
      exact Runs.append hfirst hrest
  | .hasContent body rest =>
      obtain ⟨hopen, hinside, hclose, hbehind⟩ := hplaced
      have hpc : c.pc + 1 + body.length + 1 = c.pc + (body.length + 2) := by omega
      rw [hpc] at hbehind
      have hbody := runs_hasContent hopen hclose
        (body.runs turns c.wrapped hinside hadmitted.1 (by simp [Config.Fits, Config.wrapped]))
      have hrest (o : Marked) := rest.runs turns (c.after (body.length + 2) o) hbehind
        hadmitted.2 (hfits.after _ o)
      rw [Body.length_hasContent, Nat.add_right_comm, Body.exec, hpc]
      simpa only [bind_assoc, pure_bind, Body.cost, Config.wrapped] using hbody.append hrest
  | .content body rest =>
      obtain ⟨hopen, hinside, hclose, hbehind⟩ := hplaced
      obtain ⟨⟨hwrapped, -⟩, hallowed, hadmitted⟩ := hadmitted
      have hblocks := hfits hwrapped
      have hpc : c.pc + 1 + body.length + 1 = c.pc + (body.length + 2) := by omega
      rw [hpc] at hbehind
      have hbody := runs_content hopen hclose hblocks
        (body.runs turns c.collecting hinside hallowed
          (by simpa [Config.Fits, Config.collecting] using fun _ => hblocks))
      have hrest (o : Marked) := rest.runs turns (c.after (body.length + 2) o) hbehind
        hadmitted (hfits.after _ o)
      rw [Body.length_content, Nat.add_right_comm, Body.exec, hpc]
      simpa only [bind_assoc, pure_bind, Body.cost, Config.collecting] using hbody.append hrest

theorem Branches.tracks (bs : Branches) (turns fuel : Nat) (c : Config) (source : Text)
    {skipped : Nat} {wrapped : Bool} (hplaced : bs.Placed p.program p.jumps (c.pc + skipped))
    (hadmitted : bs.Admitted wrapped) (hfits : c.Fits wrapped) (hfuel : bs.length ≤ fuel) :
    Tracks turns (bs.cost turns)
      (fun n => (located p source (enterBranch ev p fuel (c.pc + skipped))).handle
        (fun target => runFrom ev s p n { c with pc := target }) (unwind s c.loops))
      (fun n => (bs.exec ev s p turns source (c.pc + skipped) : Eval Marked).handle
        (fun o => runFrom ev s p n (c.after (skipped + bs.length) o)) (unwind s c.loops)) := by
  obtain ⟨fuel, rfl⟩ : ∃ k, fuel = k + 1 :=
    Nat.exists_eq_succ_of_ne_zero (by have := bs.length_pos; omega)
  match bs with
  | .close =>
      rw [enterBranch_of_not_hasCondition ev p fuel hplaced (by simp [Instruction.hasCondition])]
      simp only [located_pure, Eval.pure_handle, Branches.exec, Config.after_empty,
        Branches.length_close]
      exact .refl turns _
  | .otherwise body =>
      obtain ⟨⟨hopen, -⟩, hinside, hclose⟩ := hplaced
      have hlength : skipped + (body.length + 2) = skipped + 1 + body.length + 1 := by omega
      have hclose : Branches.close.Placed p.program p.jumps (c.pc + (skipped + 1) + body.length) :=
        hclose
      rw [enterBranch_of_not_hasCondition ev p fuel hopen (by simp [Instruction.hasCondition]),
        Branches.length_otherwise, hlength]
      exact Runs.leave hclose
        (body.runs turns { c with pc := c.pc + (skipped + 1) } hinside hadmitted hfits)
  | .elseIf cond source' body others =>
      obtain ⟨⟨hopen, hnext, -⟩, hinside, hothers⟩ := hplaced
      have hlength : skipped + (body.length + others.length + 1) =
          skipped + 1 + body.length + others.length := by omega
      have hpc : c.pc + skipped + 1 + body.length = c.pc + (skipped + 1 + body.length) := by omega
      have hbody := Runs.leave hothers
        (body.runs turns { c with pc := c.pc + (skipped + 1) } hinside hadmitted.1 hfits)
      rw [hpc] at hothers hnext
      have hmore := others.tracks turns fuel c source hothers hadmitted.2 hfits
        (by simp at hfuel; omega)
      rw [Branches.length_elseIf, hlength, Branches.exec, hpc]
      exact tracks_condition hopen rfl hnext hbody hmore

end

end Stencil.Template
