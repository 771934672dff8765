import Stencil.Proofs.Template.Control

/-!
# Output and content blocks

What a step does to the output and to the frames of wrappers. Content blocks belong to the wrapper
that is nearest around them, and jumps stay inside the same content blocks.
-/

namespace Stencil.Template

/-! ## Content blocks around an instruction -/

/-- How many content blocks are around that have so many wrappers around them. -/
def contentsAt (depth : Nat) : List Instruction → Nat
  | [] => 0
  | i :: outer =>
    (if i = .openContent ∧ wrappers outer = depth then 1 else 0) + contentsAt depth outer

theorem contentsAt_filter (depth : Nat) (around : List Instruction) :
    contentsAt depth (around.filter (!·.hasCondition)) = contentsAt depth around := by
  induction around with
  | nil => rfl
  | cons i outer ih =>
      by_cases hi : i.hasCondition
      · have hne : i ≠ .openContent := by
          rintro rfl
          cases hi
        rw [List.filter_cons_of_neg (by simp [hi]), ih]
        simp [contentsAt, hne]
      · rw [List.filter_cons_of_pos (by simp [hi]), contentsAt, wrappers_filter, ih, contentsAt]

theorem contentsAt_eq_zero {depth : Nat} {around : List Instruction}
    (h : wrappers around < depth) : contentsAt depth around = 0 := by
  induction around with
  | nil => rfl
  | cons i outer ih =>
      have houter : wrappers outer < depth :=
        Nat.lt_of_le_of_lt ((List.sublist_cons_self i outer).count_le _) h
      simp [contentsAt, ih houter, Nat.ne_of_lt houter]

structure SameContents (around around' : List Instruction) : Prop where
  wrappers_eq : wrappers around = wrappers around'
  contentsAt_eq : ∀ depth, contentsAt depth around = contentsAt depth around'

theorem SameContext.sameContents {around around' : List Instruction}
    (h : SameContext around around') : SameContents around around' where
  wrappers_eq := h.wrappers_eq
  contentsAt_eq depth := by rw [← contentsAt_filter, h, contentsAt_filter]

theorem sameContents_openLoop (name source : Text) (head : LoopHead) (around : List Instruction) :
    SameContents (.openLoop name head source :: around) around where
  wrappers_eq := rfl
  contentsAt_eq _ := by simp [contentsAt]

theorem SameContents.symm {around around' : List Instruction} (h : SameContents around around') :
    SameContents around' around :=
  ⟨h.wrappers_eq.symm, fun depth => (h.contentsAt_eq depth).symm⟩

/-! ## Steps -/

variable {W : Answers} {ev : Evaluator} {s : Setting} {p : Compiled}

def Instruction.isWrapping : Instruction → Bool
  | .openHasContent | .closeHasContent | .openContent | .closeContent => true
  | _ => false

inductive Writing (p : Compiled) (c c' : Config) : Prop
  | aside {i : Instruction} (hi : p.program[c.pc]? = some i) (hplain : ¬ i.isWrapping)
      (hout : c.out.toList <+: c'.out.toList) (hblocks : c'.blocks = c.blocks)
      (hcontents : SameContents (enclosing p.program c'.pc) (enclosing p.program c.pc))
  | openHasContent (hi : p.program[c.pc]? = some .openHasContent) (hc' : c' = c.wrapped)
  | openContent {frame : ContentFrame} {outer : List ContentFrame}
      (hi : p.program[c.pc]? = some .openContent) (hblocks : c.blocks = frame :: outer)
      (hc' : c' = { c with
        pc := c.pc + 1, blocks := { frame with contentMark := c.out.size } :: outer })
  | closeContent {frame : ContentFrame} {outer : List ContentFrame}
      {around : List Instruction} (hi : p.program[c.pc]? = some .closeContent)
      (haround : enclosing p.program c.pc = .openContent :: around)
      (hblocks : c.blocks = frame :: outer)
      (hc' : c' = { c with
        pc := c.pc + 1
        blocks := { frame with
          hasContent := frame.hasContent || wroteSince c.out frame.contentMark } :: outer })
  | closeHasContent {frame : ContentFrame} {outer : List ContentFrame}
      {around : List Instruction} (hi : p.program[c.pc]? = some .closeHasContent)
      (haround : enclosing p.program c.pc = .openHasContent :: around)
      (hblocks : c.blocks = frame :: outer)
      (hc' : c' = { c with
        pc := c.pc + 1
        out := if frame.hasContent then c.out else c.out.shrink frame.mark
        blocks := outer })

theorem Leaf.unmarked_of_ends {first : Leaf} {pc : Nat} {m m' : Memory} {o : Marked}
    (h : (first.exec ev s p pc).Ends W m (.ok o) m') : o.mark = none ∧ o.found = false := by
  cases first with
  | literal t =>
      obtain ⟨ho, -⟩ := Eval.ends_pure_iff.mp h
      cases ho
      exact ⟨rfl, rfl⟩
  | output expr escape source =>
      simp only [Leaf.exec, Eval.ends_bind_ok_iff, Eval.ends_pure_iff] at h
      obtain ⟨code, m₁, -, v, m₂, -, t, m₃, -, ho, -⟩ := h
      cases ho
      exact ⟨rfl, rfl⟩
  | assign name expr source =>
      simp only [Leaf.exec, Eval.ends_bind_ok_iff, Eval.ends_pure_iff] at h
      obtain ⟨code, m₁, -, v, m₂, -, u, m₃, -, ho, -⟩ := h
      cases ho
      exact ⟨rfl, rfl⟩
  | capture expr source =>
      simp only [Leaf.exec, Eval.ends_bind_ok_iff, Eval.ends_pure_iff] at h
      obtain ⟨code, m₁, -, t, m₂, -, ho, -⟩ := h
      cases ho
      exact ⟨rfl, rfl⟩

theorem ContentFrame.after_unmarked {size : Nat} {o : Marked} {frame : ContentFrame}
    (h : o.mark = none ∧ o.found = false) : frame.after size o = frame := by
  simp [after, h]

theorem Config.Agrees.writing {c c' : Config} {m m' : Memory} {i : Instruction} (hc : c.Agrees p)
    (hi : p.program[c.pc]? = some i) (hcoherent : Coherent p c.pc i)
    (h : (Template.step ev s p c).Ends W m (.ok c') m') : Writing p c c' := by
  have hsucc := enclosing_succ hi
  have hleaf (first : Leaf) (hfirst : i = first.instruction) : Writing p c c' := by
    rw [Leaf.step_eq (hfirst ▸ hi), Eval.ends_bind_ok_iff] at h
    obtain ⟨o, m₁, hexec, hrest⟩ := h
    obtain ⟨hc', -⟩ := Eval.ends_pure_iff.mp hrest
    cases hc'
    have hunmarked := Leaf.unmarked_of_ends hexec
    refine .aside hi (by cases first <;> simp [hfirst, Leaf.instruction, Instruction.isWrapping])
      (by simp [Config.after]) ?_ ?_
    · cases hblocks : c.blocks <;>
        simp [Config.after, hblocks, ContentFrame.after_unmarked hunmarked]
    · rw [Config.after_pc, hsucc, hfirst]
      cases first <;> exact SameContext.sameContents (.refl _)
  have haside (hplain : ¬ i.isWrapping) (hout : c'.out = c.out) (hblocks : c'.blocks = c.blocks)
      (hcontents : SameContents (enclosing p.program c'.pc) (enclosing p.program c.pc)) :
      Writing p c c' := .aside hi hplain (hout ▸ List.prefix_refl _) hblocks hcontents
  cases i with
  | literal t => exact hleaf (.literal t) rfl
  | output expr escape source => exact hleaf (.output expr escape source) rfl
  | assign name expr source => exact hleaf (.assign name expr source) rfl
  | capture expr source => exact hleaf (.capture expr source) rfl
  | openLoop name head source =>
      obtain ⟨last, hlast, -, haround⟩ := hcoherent
      rcases ends_openLoop hi hlast h with
        ⟨frame, -, hc'⟩ | ⟨frame, m₁, -, -, hc'⟩ | ⟨e, -, hc'⟩
      · cases hc'
        refine haside Bool.false_ne_true rfl rfl ?_
        simp only [Config.inside, hsucc]
        exact sameContents_openLoop name source head _
      · cases hc'
        exact haside Bool.false_ne_true rfl rfl (SameContext.sameContents (haround ▸ .refl _))
      · cases hc'
  | closeLoop =>
      obtain ⟨frame, loops, hloops⟩ := hc.loops_of_closeLoop hcoherent
      obtain ⟨start, name, head, source, outer, hstart, -, -, hfirst, haround⟩ := hcoherent
      rcases ends_closeLoop hi hloops hstart h with ⟨-, hc'⟩ | ⟨m₁, -, -, hc'⟩ | ⟨e, -, hc'⟩
      · cases hc'
        exact haside Bool.false_ne_true rfl rfl
          (SameContext.sameContents (by rw [hfirst, haround]; exact .refl _))
      · cases hc'
        refine haside Bool.false_ne_true rfl rfl ?_
        rw [hsucc, haround]
        exact (sameContents_openLoop name source head _).symm
      · cases hc'
  | openIf cond source =>
      rw [step_openIf ev s p hi, Eval.ends_bind_ok_iff] at h
      obtain ⟨target, m₁, htarget, hrest⟩ := h
      obtain ⟨hc', -⟩ := Eval.ends_pure_iff.mp hrest
      cases hc'
      exact haside Bool.false_ne_true rfl rfl (ends_enterBranch hcoherent htarget).2.sameContents
  | elseIf | otherwise =>
      obtain ⟨last, hlast, -, hcontext⟩ := hcoherent
      simp only [Template.step, hi, jump_eq hlast, pure_bind, Eval.ends_pure_iff] at h
      obtain ⟨hc', -⟩ := h
      cases hc'
      exact haside Bool.false_ne_true rfl rfl hcontext.sameContents
  | closeIf =>
      simp only [Template.step, hi, Eval.ends_pure_iff] at h
      obtain ⟨hc', -⟩ := h
      cases hc'
      exact haside Bool.false_ne_true rfl rfl (SameContext.sameContents hcoherent)
  | openHasContent =>
      simp only [Template.step, hi, Eval.ends_pure_iff] at h
      obtain ⟨hc', -⟩ := h
      cases hc'
      exact .openHasContent hi rfl
  | openContent =>
      obtain ⟨frame, outer, hblocks⟩ := hc.blocks_of_wrappers hcoherent
      simp only [Template.step, hi, hblocks, Eval.ends_pure_iff] at h
      obtain ⟨hc', -⟩ := h
      cases hc'
      exact .openContent hi hblocks rfl
  | closeContent =>
      obtain ⟨hpos, around, haround⟩ := hcoherent
      obtain ⟨frame, outer, hblocks⟩ := hc.blocks_of_wrappers hpos
      simp only [Template.step, hi, hblocks, Eval.ends_pure_iff] at h
      obtain ⟨hc', -⟩ := h
      cases hc'
      exact .closeContent hi haround hblocks rfl
  | closeHasContent =>
      obtain ⟨around, haround⟩ := hcoherent
      have hlength := hc.blocks
      rw [haround, wrappers_openHasContent] at hlength
      obtain ⟨frame, outer, hblocks⟩ := List.exists_cons_of_length_eq_add_one hlength
      simp only [Template.step, hi, hblocks, Eval.ends_pure_iff] at h
      obtain ⟨hc', -⟩ := h
      cases hc'
      exact .closeHasContent hi haround hblocks rfl

end Stencil.Template
