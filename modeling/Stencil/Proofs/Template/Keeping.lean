import Stencil.Proofs.Template.Contents
import Stencil.Proofs.Template.Refinement

/-!
# Wrappers are kept for their content

A run through a wrapper is watched: each content block of the wrapper that runs is recorded with
what it writes. The body of the wrapper stays in the output exactly if one of them writes something
behind the last start of a content block of that wrapper. Where no content block lies inside another
one of its wrapper, that is all that it writes.
-/

namespace Stencil.Template

/-! ## Watching a wrapper -/

/-- What an execution of a content block has written, and what of it is behind the last start of a
content block of its wrapper. -/
structure ContentRun where
  written : Text
  behind : Text
deriving DecidableEq, Repr

/-- What is known of the content blocks of a wrapper. Places count pieces of text. -/
structure Watch where
  /-- Where those that are running start, the innermost first. -/
  starts : List Nat
  /-- Where the one that has started last starts. -/
  last : Nat
  runs : List ContentRun
deriving DecidableEq, Repr

def Watch.initial : Watch := ⟨[], 0, []⟩

def textSince (out : Array Text) (place : Nat) : Text := (out.toList.drop place).flatten

def Watch.observe (p : Compiled) (depth : Nat) (w : Watch) (c : Config) : Watch :=
  if wrappers (enclosing p.program c.pc) = depth then
    match p.program[c.pc]?, w.starts with
    | some .openContent, starts => { w with starts := c.out.size :: starts, last := c.out.size }
    | some .closeContent, start :: outer =>
      { w with
        starts := outer
        runs := w.runs ++ [⟨textSince c.out start, textSince c.out w.last⟩] }
    | _, _ => w
  else w

/-- The executions of content blocks that a run has come to the end of. -/
def contentRuns (p : Compiled) (depth : Nat) (trace : List Config) : List ContentRun :=
  (trace.foldl (Watch.observe p depth) .initial).runs

/-! ## Runs through a wrapper -/

section

variable (W : Answers) (ev : Evaluator) (s : Setting) (p : Compiled)

/-- Steps that all start with more than so many wrappers open. -/
inductive Inside (base : Nat) : List Config → Config → Memory → Config → Memory → Prop
  | here (c : Config) (m : Memory) : Inside base [] c m c m
  | step {trace : List Config} {c c₁ c' : Config} {m m₁ m' : Memory}
      (hlt : c.pc < p.program.length) (habove : base < c.blocks.length)
      (h : (Template.step ev s p c).Ends W m (.ok c₁) m₁) (hrest : Inside base trace c₁ m₁ c' m') :
      Inside base (c :: trace) c m c' m'

/-- A run from the start of a wrapper to its end and over it. -/
structure WrapperRun (before : Config) (trace : List Config) (last behind : Config) : Prop where
  starts : p.program[before.pc]? = some .openHasContent
  stops : p.program[last.pc]? = some .closeHasContent
  depth : last.blocks.length = before.blocks.length + 1
  steps : ∃ start m m' m'', Reachable W ev s p start before m ∧
    Inside W ev s p before.blocks.length trace before.wrapped m last m' ∧
    (Template.step ev s p last).Ends W m' (.ok behind) m''

end

/-- What the content blocks of a wrapper write in a run through it. -/
def wrapperRuns (p : Compiled) (before : Config) (trace : List Config) : List ContentRun :=
  contentRuns p (before.blocks.length + 1) trace

/-- No content block lies inside another one of its wrapper. -/
def ContentApart (p : Compiled) : Prop :=
  ∀ pc, p.program[pc]? = some .openContent →
    contentsAt (wrappers (enclosing p.program pc)) (enclosing p.program pc) = 0

/-- A wrapper contributes its whole body if some content block of it has written a text, and nothing
otherwise. -/
def KeptByContent (p : Compiled) : Prop :=
  ∀ W ev s before trace last behind, WrapperRun W ev s p before trace last behind →
    behind.out = if ∃ run ∈ wrapperRuns p before trace, run.written ≠ [] then last.out
      else before.out

variable {W : Answers} {ev : Evaluator} {s : Setting} {p : Compiled}

/-! ## Text since a place -/

theorem wroteSince_eq (out : Array Text) (mark : Nat) :
    wroteSince out mark = !(textSince out mark).isEmpty := by
  rw [textSince, ← any_not_isEmpty, wroteSince, ← Array.any_toList, Array.toList_extract,
    List.extract_eq_take_drop, List.take_of_length_le (by simp)]

theorem textSince_suffix (out : Array Text) {place place' : Nat} (h : place ≤ place') :
    textSince out place' <:+ textSince out place := by
  obtain ⟨k, rfl⟩ := Nat.exists_eq_add_of_le h
  refine ⟨((out.toList.drop place).take k).flatten, ?_⟩
  rw [textSince, textSince, ← List.drop_drop, ← List.flatten_append, List.take_append_drop]

/-! ## Places -/

def Descending (floor : Nat) (places : List Nat) : Prop :=
  places.Pairwise (· ≥ ·) ∧ ∀ place ∈ places, floor ≤ place

namespace Descending

variable {floor n n' : Nat} {places : List Nat}

theorem grow (h : Descending floor (n :: places)) (hn : n ≤ n') :
    Descending floor (n' :: places) := by
  simp only [Descending, List.pairwise_cons, List.mem_cons, forall_eq_or_imp] at h ⊢
  obtain ⟨⟨hhead, htail⟩, hfloor, hplaces⟩ := h
  exact ⟨⟨fun place hplace => Nat.le_trans (hhead place hplace) hn, htail⟩,
    Nat.le_trans hfloor hn, hplaces⟩

theorem repeated (h : Descending floor (n :: places)) : Descending floor (n :: n :: places) := by
  simp only [Descending, List.pairwise_cons, List.mem_cons, forall_eq_or_imp] at h ⊢
  obtain ⟨hsorted, hfloor, hplaces⟩ := h
  exact ⟨⟨⟨Nat.le_refl n, hsorted.1⟩, hsorted⟩, hfloor, hfloor, hplaces⟩

theorem tail (h : Descending floor (n :: places)) : Descending floor places :=
  ⟨h.1.of_cons, fun place hplace => h.2 place (List.mem_cons_of_mem n hplace)⟩

theorem head_ge (h : Descending floor (n :: n' :: places)) : n' ≤ n :=
  (List.pairwise_cons.mp h.1).1 n' List.mem_cons_self

end Descending

/-! ## The invariant -/

/-- Inside a wrapper its frame tells what has been seen, and the output of before is still there.
No wrapper that is open inside reaches back behind the last start of a content block. -/
structure Watching (p : Compiled) (before c : Config) (w : Watch) (inner : List ContentFrame)
    (frame : ContentFrame) : Prop where
  blocks : c.blocks = inner ++ frame :: before.blocks
  mark : frame.mark = before.out.size
  contentMark : frame.contentMark = w.last
  hasContent : frame.hasContent = w.runs.any (!·.behind.isEmpty)
  out : before.out.toList <+: c.out.toList
  places : Descending (max before.out.size w.last) (c.out.size :: inner.map (·.mark))
  starts_le : ∀ start ∈ w.starts, start ≤ w.last
  running : w.starts.length = contentsAt (before.blocks.length + 1) (enclosing p.program c.pc)
  suffix : ∀ run ∈ w.runs, run.behind <:+ run.written
  apart : ContentApart p →
    (∀ start ∈ w.starts, start = w.last) ∧ ∀ run ∈ w.runs, run.behind = run.written

section

variable {before c c' : Config} {w : Watch} {inner inner' : List ContentFrame}
  {frame : ContentFrame}

theorem watching_wrapped (hbefore : before.Agrees p)
    (hi : p.program[before.pc]? = some .openHasContent) :
    Watching p before before.wrapped .initial [] ⟨before.out.size, 0, false⟩ where
  blocks := rfl
  mark := rfl
  contentMark := rfl
  hasContent := rfl
  out := List.prefix_refl _
  places := ⟨List.pairwise_singleton _ _, by simp [Watch.initial, Config.wrapped]⟩
  starts_le := nofun
  running := by
    simp only [Config.wrapped, enclosing_succ hi, enclose, contentsAt, hbefore.blocks]
    rw [contentsAt_eq_zero (Nat.lt_succ_self _)]
    rfl
  suffix := nofun
  apart _ := ⟨nofun, nofun⟩

theorem Watching.move (hw : Watching p before c w inner frame)
    (hblocks : c'.blocks = inner' ++ frame :: before.blocks)
    (hout : before.out.toList <+: c'.out.toList)
    (hplaces : Descending (max before.out.size w.last) (c'.out.size :: inner'.map (·.mark)))
    (hcontents : contentsAt (before.blocks.length + 1) (enclosing p.program c'.pc) =
      contentsAt (before.blocks.length + 1) (enclosing p.program c.pc)) :
    Watching p before c' w inner' frame where
  blocks := hblocks
  mark := hw.mark
  contentMark := hw.contentMark
  hasContent := hw.hasContent
  out := hout
  places := hplaces
  starts_le := hw.starts_le
  running := hw.running.trans hcontents.symm
  suffix := hw.suffix
  apart := hw.apart

theorem Watching.nearest_iff (hw : Watching p before c w inner frame) (hc : c.Agrees p) :
    wrappers (enclosing p.program c.pc) = before.blocks.length + 1 ↔ inner = [] := by
  rw [← hc.blocks, hw.blocks, List.length_append, List.length_cons,
    ← List.length_eq_zero_iff]
  omega

theorem Watch.observe_eq_self {depth : Nat} {i : Instruction} (hi : p.program[c.pc]? = some i)
    (h : i = .openContent ∨ i = .closeContent → wrappers (enclosing p.program c.pc) ≠ depth) :
    w.observe p depth c = w := by
  unfold Watch.observe
  split
  case isFalse => rfl
  case isTrue hdepth =>
      have hplain : ¬ (i = .openContent ∨ i = .closeContent) := fun hcontent => h hcontent hdepth
      split <;> simp_all

theorem Watching.starting (hw : Watching p before c w [] frame) (hc : c.Agrees p)
    (hi : p.program[c.pc]? = some .openContent) (hpc : c'.pc = c.pc + 1) (hout : c'.out = c.out)
    (hblocks : c'.blocks = { frame with contentMark := c.out.size } :: before.blocks) :
    Watching p before c' (w.observe p (before.blocks.length + 1) c) []
      { frame with contentMark := c.out.size } := by
  have hdepth := (hw.nearest_iff hc).mpr rfl
  have hobserve : w.observe p (before.blocks.length + 1) c =
      { w with starts := c.out.size :: w.starts, last := c.out.size } := by
    simp [Watch.observe, hdepth, hi]
  have hlast : w.last ≤ c.out.size :=
    Nat.le_trans (Nat.le_max_right _ _) (hw.places.2 _ List.mem_cons_self)
  rw [hobserve]
  refine ⟨hblocks, hw.mark, rfl, hw.hasContent, hout ▸ hw.out, ?_, ?_, ?_, hw.suffix, ?_⟩
  · rw [hout]
    refine ⟨List.pairwise_singleton _ _, fun place hplace => ?_⟩
    rw [List.mem_singleton.mp hplace]
    exact Nat.max_le.mpr ⟨hw.out.length_le, Nat.le_refl _⟩
  · intro start hstart
    rcases List.mem_cons.mp hstart with rfl | hmem
    · exact Nat.le_refl _
    · exact Nat.le_trans (hw.starts_le start hmem) hlast
  · simp only [hpc, enclosing_succ hi, enclose, contentsAt, hdepth, List.length_cons, hw.running]
    simp [Nat.add_comm]
  · intro hapart
    have hnone : w.starts = [] := by
      have hzero := hapart c.pc hi
      rw [hdepth, ← hw.running] at hzero
      exact List.length_eq_zero_iff.mp hzero
    refine ⟨fun start hstart => ?_, (hw.apart hapart).2⟩
    rw [hnone] at hstart
    exact List.mem_singleton.mp hstart

theorem Watching.ending (hw : Watching p before c w [] frame) (hc : c.Agrees p)
    (hi : p.program[c.pc]? = some .closeContent) {around : List Instruction}
    (haround : enclosing p.program c.pc = .openContent :: around) (hpc : c'.pc = c.pc + 1)
    (hout : c'.out = c.out)
    (hblocks : c'.blocks = { frame with
      hasContent := frame.hasContent || wroteSince c.out frame.contentMark } :: before.blocks) :
    Watching p before c' (w.observe p (before.blocks.length + 1) c) []
      { frame with hasContent := frame.hasContent || wroteSince c.out frame.contentMark } := by
  have hdepth := (hw.nearest_iff hc).mpr rfl
  have hrunning := hw.running
  rw [haround, contentsAt] at hrunning
  have houter : wrappers around = before.blocks.length + 1 := by
    rw [← hdepth, haround, wrappers_openContent]
  have hpos : 0 < w.starts.length := by
    rw [hrunning, if_pos ⟨rfl, houter⟩]
    omega
  obtain ⟨start, outer, hstarts⟩ := List.exists_cons_of_length_pos hpos
  have hobserve : w.observe p (before.blocks.length + 1) c =
      { w with
        starts := outer
        runs := w.runs ++ [⟨textSince c.out start, textSince c.out w.last⟩] } := by
    simp [Watch.observe, hdepth, hi, hstarts]
  have hle : start ≤ w.last := hw.starts_le start (by simp [hstarts])
  rw [hobserve]
  refine ⟨hblocks, hw.mark, hw.contentMark, ?_, hout ▸ hw.out, hout ▸ hw.places, ?_, ?_, ?_, ?_⟩
  · simp [hw.hasContent, hw.contentMark, wroteSince_eq]
  · exact fun start' hstart' => hw.starts_le start' (by simp [hstarts, hstart'])
  · simp only [hstarts, houter, List.length_cons] at hrunning
    simp only [hpc, enclosing_succ hi, haround, enclose, List.tail_cons]
    simp at hrunning
    omega
  · intro run hrun
    rcases List.mem_append.mp hrun with hold | hnew
    · exact hw.suffix run hold
    · rw [List.mem_singleton.mp hnew]
      exact textSince_suffix c.out hle
  · intro hapart
    obtain ⟨hlast, hruns⟩ := hw.apart hapart
    refine ⟨fun start' hstart' => hlast start' (by simp [hstarts, hstart']), fun run hrun => ?_⟩
    rcases List.mem_append.mp hrun with hold | hnew
    · exact hruns run hold
    · rw [List.mem_singleton.mp hnew, hlast start (by simp [hstarts])]

theorem prefix_shrink {out before : Array Text} {mark : Nat} (h : before.toList <+: out.toList)
    (hmark : before.size ≤ mark) : before.toList <+: (out.shrink mark).toList := by
  rw [Array.toList_shrink]
  exact List.prefix_take_iff.mpr ⟨h, hmark⟩

theorem Watching.step (hw : Watching p before c w inner frame) (hc : c.Agrees p)
    (hc' : Writing p c c') (habove : before.blocks.length < c'.blocks.length) :
    ∃ inner' frame',
      Watching p before c' (w.observe p (before.blocks.length + 1) c) inner' frame' := by
  have hnearest := hw.nearest_iff hc
  cases hc' with
  | aside hi hplain hout hblocks hcontents =>
      refine ⟨inner, frame, ?_⟩
      rw [Watch.observe_eq_self hi (by rintro (rfl | rfl) <;> exact absurd rfl hplain)]
      have hsize : c.out.size ≤ c'.out.size := hout.length_le
      exact hw.move (hblocks.trans hw.blocks) (hw.out.trans hout) (hw.places.grow hsize)
        (hcontents.contentsAt_eq _)
  | openHasContent hi hc' =>
      refine ⟨⟨c.out.size, 0, false⟩ :: inner, frame, ?_⟩
      rw [Watch.observe_eq_self hi (by simp), hc']
      refine hw.move (by simp [Config.wrapped, hw.blocks]) hw.out hw.places.repeated ?_
      simp [Config.wrapped, enclosing_succ hi, enclose, contentsAt]
  | @openContent first outer hi hblocks hc' =>
      cases inner with
      | nil =>
          obtain ⟨rfl, rfl⟩ := List.cons.inj (hblocks.symm.trans hw.blocks)
          exact ⟨[], _, hw.starting hc hi (by rw [hc']) (by rw [hc']) (by rw [hc'])⟩
      | cons b more =>
          obtain ⟨rfl, rfl⟩ := List.cons.inj (hblocks.symm.trans hw.blocks)
          refine ⟨{ first with contentMark := c.out.size } :: more, frame, ?_⟩
          have hdepth := mt hnearest.mp (List.cons_ne_nil first more)
          rw [Watch.observe_eq_self hi fun _ => hdepth, hc']
          refine hw.move rfl hw.out hw.places ?_
          simp [enclosing_succ hi, enclose, contentsAt, hdepth]
  | @closeContent first outer around hi haround hblocks hc' =>
      cases inner with
      | nil =>
          obtain ⟨rfl, rfl⟩ := List.cons.inj (hblocks.symm.trans hw.blocks)
          exact ⟨[], _, hw.ending hc hi haround (by rw [hc']) (by rw [hc']) (by rw [hc'])⟩
      | cons b more =>
          obtain ⟨rfl, rfl⟩ := List.cons.inj (hblocks.symm.trans hw.blocks)
          refine ⟨{ first with
            hasContent := first.hasContent || wroteSince c.out first.contentMark } :: more,
            frame, ?_⟩
          have hdepth := mt hnearest.mp (List.cons_ne_nil first more)
          rw [Watch.observe_eq_self hi fun _ => hdepth, hc']
          refine hw.move rfl hw.out hw.places ?_
          rw [haround, wrappers_openContent] at hdepth
          simp [enclosing_succ hi, haround, enclose, contentsAt, hdepth]
  | @closeHasContent first outer around hi haround hblocks hc' =>
      cases inner with
      | nil =>
          obtain ⟨rfl, rfl⟩ := List.cons.inj (hblocks.symm.trans hw.blocks)
          rw [hc'] at habove
          exact absurd habove (Nat.lt_irrefl _)
      | cons b more =>
          obtain ⟨rfl, rfl⟩ := List.cons.inj (hblocks.symm.trans hw.blocks)
          refine ⟨more, frame, ?_⟩
          rw [Watch.observe_eq_self hi (by simp), hc']
          have hmark : first.mark ≤ c.out.size := hw.places.head_ge
          have hfloor := hw.places.2 first.mark (by simp)
          refine hw.move rfl ?_ ?_ (by simp [enclosing_succ hi, haround, enclose, contentsAt])
          · split
            · exact hw.out
            · exact prefix_shrink hw.out (Nat.le_trans (Nat.le_max_left _ _) hfloor)
          · split
            · exact hw.places.tail.grow hmark
            · simpa [Nat.min_eq_left hmark] using hw.places.tail

theorem Inside.above {base : Nat} {trace : List Config} {m m' : Memory}
    (h : Inside W ev s p base trace c m c' m') (hend : base < c'.blocks.length) :
    base < c.blocks.length := by
  cases h with
  | here => exact hend
  | step hlt habove hstep hrest => exact habove

theorem Inside.watching {start m m' : Memory} {trace : List Config}
    (h : Inside W ev s p before.blocks.length trace c m c' m')
    (hend : before.blocks.length < c'.blocks.length) (hlink : link p.program = .ok p.jumps)
    (hc : Reachable W ev s p start c m) (hw : Watching p before c w inner frame) :
    c'.Agrees p ∧ ∃ inner' frame', Watching p before c'
      (trace.foldl (Watch.observe p (before.blocks.length + 1)) w) inner' frame' := by
  induction h generalizing w inner frame with
  | here => exact ⟨hc.agrees hlink, inner, frame, hw⟩
  | step hlt habove hstep hrest ih =>
      have hi := List.getElem?_eq_getElem hlt
      have hagrees := hc.agrees hlink
      have hwriting := hagrees.writing hi ((coherent_of_link hlink).2 hi) hstep
      obtain ⟨inner', frame', hw'⟩ := hw.step hagrees hwriting (hrest.above hend)
      exact ih hend (hc.step hlt hstep) hw'

end

/-! ## Kept and dropped bodies -/

theorem any_behind_iff {runs : List ContentRun} :
    runs.any (!·.behind.isEmpty) = true ↔ ∃ run ∈ runs, run.behind ≠ [] := by
  simp

/-- The output of before is kept, and all of the body exactly if some content block of the wrapper
has written something behind the last start of one. The other wrappers are as before. -/
theorem WrapperRun.out_eq {before last behind : Config} {trace : List Config}
    (hrun : WrapperRun W ev s p before trace last behind) (hlink : link p.program = .ok p.jumps) :
    (before.out.toList <+: last.out.toList ∧ behind.blocks = before.blocks ∧
      behind.out = if ∃ run ∈ wrapperRuns p before trace, run.behind ≠ [] then last.out
        else before.out) ∧
    ∀ run ∈ wrapperRuns p before trace, run.behind <:+ run.written ∧
      (ContentApart p → run.behind = run.written) := by
  obtain ⟨hi, hi', hdepth, start, m, m', m'', hreach, hinside, hstep⟩ := hrun
  have hlt := (List.getElem?_eq_some_iff.mp hi).1
  have hentry : step ev s p before = pure before.wrapped := by simp [step, hi, Config.wrapped]
  have hwrapped : Reachable W ev s p start before.wrapped m :=
    hreach.step hlt (by rw [hentry]; exact Eval.ends_pure_iff.mpr ⟨rfl, rfl⟩)
  obtain ⟨-, inner, frame, hw⟩ := hinside.watching (by omega) hlink hwrapped
    (watching_wrapped (hreach.agrees hlink) hi)
  have hinner : inner = [] := by
    have hlength := congrArg List.length hw.blocks
    rw [hdepth, List.length_append, List.length_cons] at hlength
    exact List.length_eq_zero_iff.mp (by omega)
  subst hinner
  have hblocks : last.blocks = frame :: before.blocks := hw.blocks
  simp only [step, hi', hblocks, Eval.ends_pure_iff] at hstep
  obtain ⟨hbehind, -⟩ := hstep
  cases hbehind
  have hdropped : last.out.shrink frame.mark = before.out := by
    rw [hw.mark, ← Array.toList_inj, Array.toList_shrink]
    exact (List.prefix_iff_eq_take.mp hw.out).symm
  refine ⟨⟨hw.out, rfl, ?_⟩, fun run hmem => ⟨hw.suffix run hmem, fun hapart =>
    (hw.apart hapart).2 run hmem⟩⟩
  change (if frame.hasContent = true then _ else _) = _
  rw [hdropped, hw.hasContent]
  exact ite_congr (propext any_behind_iff) (fun _ => rfl) fun _ => rfl

/-- In each run through a wrapper of a linked program its whole body is kept, behind the output of
before, exactly if some content block of it has written something behind the last start of a content
block of that wrapper, and then that block has written a text. Where no content block lies inside
another one of its wrapper, each wrapper is kept exactly if some content block of it has written a
text. -/
theorem wrapper_kept_iff (hlink : link p.program = .ok p.jumps) :
    (∀ W ev s before trace last behind, WrapperRun W ev s p before trace last behind →
      (before.out.toList <+: last.out.toList ∧ behind.blocks = before.blocks ∧
        behind.out = if ∃ run ∈ wrapperRuns p before trace, run.behind ≠ [] then last.out
          else before.out) ∧
      ∀ run ∈ wrapperRuns p before trace, run.behind <:+ run.written) ∧
    (ContentApart p → KeptByContent p) := by
  refine ⟨fun W ev s before trace last behind hrun => ?_,
    fun hapart W ev s before trace last behind hrun => ?_⟩
  · obtain ⟨hout, hruns⟩ := hrun.out_eq hlink
    exact ⟨hout, fun run hmem => (hruns run hmem).1⟩
  · obtain ⟨⟨-, -, hout⟩, hruns⟩ := hrun.out_eq hlink
    rw [hout]
    have hwritten : (∃ run ∈ wrapperRuns p before trace, run.behind ≠ []) ↔
        ∃ run ∈ wrapperRuns p before trace, run.written ≠ [] :=
      exists_congr fun run => and_congr_right fun hmem => by rw [(hruns run hmem).2 hapart]
    exact ite_congr (propext hwritten) (fun _ => rfl) fun _ => rfl

/-- A wrapper whose content block writes a text and then, in a condition, starts another one that
writes nothing. -/
def emptyInner : Compiled where
  template := "inner".toList
  program := [.openHasContent, .literal "<b>".toList, .openContent, .literal "A".toList,
    .openIf "t".toList [], .openContent, .closeContent, .closeIf, .closeContent,
    .literal "</b>".toList, .closeHasContent]
  jumps := ⟨[], [], [(4, 7)], []⟩
  codes := [(4, .value ⟨0, .name "t".toList⟩)]

def innerAt (pc : Nat) (out : List Text) (contentMark : Nat) : Config :=
  ⟨pc, out.toArray, [], [⟨0, contentMark, false⟩]⟩

def emptyInnerTrace : List Config := [
  innerAt 1 [] 0, innerAt 2 ["<b>".toList] 0, innerAt 3 ["<b>".toList] 1,
  innerAt 4 ["<b>".toList, "A".toList] 1, innerAt 5 ["<b>".toList, "A".toList] 1,
  innerAt 6 ["<b>".toList, "A".toList] 2, innerAt 7 ["<b>".toList, "A".toList] 2,
  innerAt 8 ["<b>".toList, "A".toList] 2, innerAt 9 ["<b>".toList, "A".toList] 2]

theorem wrapperRun_emptyInner :
    WrapperRun (fun _ _ _ _ => False) (.standard 9) ⟨.none, 0⟩ emptyInner .initial emptyInnerTrace
      (innerAt 10 ["<b>".toList, "A".toList, "</b>".toList] 2) ⟨11, #[], [], []⟩ := by
  let m : Memory := ⟨{}, [("t".toList, .bool true)]⟩
  have hinside : Inside (fun _ _ _ _ => False) (.standard 9) ⟨.none, 0⟩ emptyInner 0 emptyInnerTrace
      Config.initial.wrapped m (innerAt 10 ["<b>".toList, "A".toList, "</b>".toList] 2) m := by
    have hclose (pc : Nat) (hi : emptyInner.program[pc]? = some .closeContent) :
        (step (.standard 9) ⟨.none, 0⟩ emptyInner (innerAt pc ["<b>".toList, "A".toList] 2)).Ends
          (fun _ _ _ _ => False) m
          (.ok (innerAt (pc + 1) ["<b>".toList, "A".toList] 2)) m := by
      have hstep : step (.standard 9) ⟨.none, 0⟩ emptyInner
          (innerAt pc ["<b>".toList, "A".toList] 2) =
            pure (innerAt (pc + 1) ["<b>".toList, "A".toList] 2) := by
        simp [step, innerAt, hi, wroteSince_eq, textSince]
      rw [hstep]
      exact .done _ _
    iterate 5 refine .step (by decide) (by decide) (.done _ _) ?_
    refine .step (by decide) (by decide) (hclose 6 rfl) ?_
    refine .step (by decide) (by decide) (.done _ _) ?_
    refine .step (by decide) (by decide) (hclose 8 rfl) ?_
    exact .step (by decide) (by decide) (.done _ _) (.here _ _)
  exact ⟨rfl, rfl, rfl, m, m, m, m, .initial, hinside, .done _ _⟩

theorem wrapperRuns_emptyInner :
    wrapperRuns emptyInner .initial emptyInnerTrace = [⟨[], []⟩, ⟨"A".toList, []⟩] := by
  decide +kernel

theorem contentApart_wrappedLoop : ContentApart wrappedLoop := by
  have hall : ∀ pc < 7, wrappedLoop.program[pc]? = some .openContent →
      contentsAt (wrappers (enclosing wrappedLoop.program pc)) (enclosing wrappedLoop.program pc) =
        0 := by
    decide
  exact fun pc hi => hall pc (List.getElem?_eq_some_iff.mp hi).1 hi

theorem wrapper_kept_iff_emptyInner :
    (link emptyInner.program = .ok emptyInner.jumps ∧
      ∃ before trace last behind,
        WrapperRun (fun _ _ _ _ => False) (.standard 9) ⟨.none, 0⟩ emptyInner before trace last
          behind ∧ behind.out = before.out) ∧
    link wrappedLoop.program = .ok wrappedLoop.jumps ∧ KeptByContent wrappedLoop := by
  refine ⟨⟨rfl, _, _, _, _, wrapperRun_emptyInner, ?_⟩, rfl,
    (wrapper_kept_iff rfl).2 contentApart_wrappedLoop⟩
  rw [((wrapper_kept_iff rfl).1 _ _ _ _ _ _ _ wrapperRun_emptyInner).1.2.2, wrapperRuns_emptyInner,
    if_neg (by decide)]

theorem not_keptByContent_emptyInner :
    link emptyInner.program = .ok emptyInner.jumps ∧ ¬ KeptByContent emptyInner := by
  refine ⟨rfl, fun hkept => ?_⟩
  have hout := hkept _ _ _ _ _ _ _ wrapperRun_emptyInner
  rw [wrapperRuns_emptyInner, if_pos (by decide)] at hout
  cases hout

end Stencil.Template
