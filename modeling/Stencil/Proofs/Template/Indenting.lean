import Stencil.Proofs.Template.Grammar
import Stencil.Proofs.Text.Digits
import Stencil.Proofs.Text.Quoted
import Stencil.Template.Listing

/-!
# Listings show the blocks

The depth that a listing counts is the number of blocks around an instruction, as the block tree of
the program has them. Every line is one line, whatever the texts in it are.
-/

namespace Stencil.Template

/-! ## Lines -/

namespace Instruction

open Text

theorem isLine_call {name : String} {args : List Text} (hname : IsLine name.toList)
    (hargs : ∀ arg ∈ args, IsLine arg) : IsLine (call name args) := by
  have hseparator : IsLine ", ".toList := by decide
  have hjoined := isLine_cons.2 ⟨show isLineEnd '(' = false from rfl, hseparator.join hargs⟩
  exact isLine_append.2 ⟨isLine_append.2 ⟨hname, hjoined⟩, by decide⟩

theorem isLine_flag (b : Bool) : IsLine (flag b) := by
  cases b <;> decide

theorem isLine_word (mode : IterMode) : IsLine mode.word := by
  cases mode <;> decide

theorem isLine_summary (i : Instruction) : IsLine i.summary := by
  cases i with
  | literal text => exact isLine_call (by decide) (by simp [isLine_quoted])
  | output expr escape source =>
      have hescape : IsLine ("escape=".toList ++ flag escape) :=
        isLine_append.2 ⟨by decide, isLine_flag escape⟩
      exact isLine_call (by decide) (by simpa [isLine_quoted] using hescape)
  | assign name expr source => exact isLine_call (by decide) (by simp [isLine_quoted])
  | openLoop name head source =>
      cases head with
      | range init cond step =>
          have hhead : IsLine (Text.join "; ".toList [quoted init, quoted cond, quoted step]) :=
            IsLine.join (by decide) (by simp [isLine_quoted])
          exact isLine_call (by decide) (by simpa [isLine_quoted] using hhead)
      | each mode iterable =>
          have hhead : IsLine (mode.word ++ ' ' :: quoted iterable) :=
            isLine_append.2 ⟨isLine_word mode, isLine_cons.2 ⟨rfl, isLine_quoted iterable⟩⟩
          exact isLine_call (by decide) (by simpa [isLine_quoted] using hhead)
  | openIf cond source => exact isLine_call (by decide) (by simp [isLine_quoted])
  | elseIf cond source => exact isLine_call (by decide) (by simp [isLine_quoted])
  | capture expr source => exact isLine_call (by decide) (by simp [isLine_quoted])
  | closeLoop | otherwise | closeIf | openHasContent | openContent | closeContent
  | closeHasContent => decide

theorem head?_summary (i : Instruction) : ∃ c, i.summary.head? = some c ∧ c ≠ ' ' := by
  cases i with
  | openLoop name head source => cases head <;> exact ⟨_, rfl, by decide⟩
  | _ => exact ⟨_, rfl, by decide⟩

end Instruction

theorem isLine_listingLine (pc depth : Nat) (i : Instruction) :
    Text.IsLine (listingLine pc depth i) := by
  have hnumber : Text.IsLine (Text.padLeft ' ' 4 (Text.ofNat pc)) :=
    (Text.isLine_toDigits (by decide) pc).padLeft rfl
  have hindent : Text.IsLine (' ' :: List.replicate (2 * depth) ' ') :=
    Text.isLine_cons.2 ⟨rfl, Text.isLine_replicate _ rfl⟩
  exact Text.isLine_append.2 ⟨Text.isLine_append.2 ⟨hnumber, hindent⟩, i.isLine_summary⟩

/-! ## Depths -/

namespace Instruction

/-- The depth with which the listing has to arrive at an instruction at a level: at branches and at
the end of a block this block is one more. -/
def depthBefore (i : Instruction) (level : Nat) : Nat := if i.closesLevel then level + 1 else level

theorem lineDepth_depthBefore (i : Instruction) (level : Nat) :
    i.lineDepth (i.depthBefore level) = level := by
  unfold lineDepth depthBefore
  split <;> rfl

theorem depthBehind_depthBefore (i : Instruction) (level : Nat) :
    i.depthBehind (i.depthBefore level) = if i.opensLevel then level + 1 else level := by
  rw [depthBehind, lineDepth_depthBefore]

end Instruction

def depthsFrom (depth : Nat) : Program → List Nat
  | [] => [depth]
  | i :: more => depth :: depthsFrom (i.depthBehind depth) more

def Program.depths (p : Program) : List Nat := depthsFrom 0 p

theorem drop_listingFrom {p : Program} {n start depth before : Nat}
    (h : (depthsFrom depth p)[n]? = some before) :
    (listingFrom start depth p).drop n = listingFrom (start + n) before (p.drop n) := by
  induction p generalizing n start depth with
  | nil =>
      rw [listingFrom, List.drop_nil, List.drop_nil, listingFrom]
  | cons i more ih =>
      cases n with
      | zero =>
          cases h
          rfl
      | succ n =>
          rw [show start + (n + 1) = start + 1 + n by omega]
          exact ih h

theorem getElem?_listing {p : Program} {pc depth : Nat} {i : Instruction} (hi : p[pc]? = some i)
    (hdepth : p.depths[pc]? = some depth) :
    p.listing[pc]? = some (listingLine pc (i.lineDepth depth) i) := by
  obtain ⟨hpc, hp⟩ := List.getElem?_eq_some_iff.1 hi
  have hdrop : p.listing.drop pc = listingFrom (0 + pc) depth (p.drop pc) :=
    drop_listingFrom hdepth
  rw [List.drop_eq_getElem_cons hpc, hp, Nat.zero_add] at hdrop
  rw [← List.head?_drop, hdrop]
  rfl

theorem length_listingFrom (start depth : Nat) (p : Program) :
    (listingFrom start depth p).length = p.length := by
  induction p generalizing start depth with
  | nil => rfl
  | cons i more ih => rw [listingFrom, List.length_cons, ih, List.length_cons]

/-! ## Levels -/

mutual

/-- For each instruction the number of blocks strictly around it, if so many are around the whole
body. -/
def Body.levels (around : Nat) : Body → List Nat
  | .empty => []
  | .leaf _ rest => around :: rest.levels around
  | .loop _ _ _ body rest => around :: (body.levels (around + 1) ++ around :: rest.levels around)
  | .branch _ _ body others rest =>
    around :: (body.levels (around + 1) ++ (others.levels around ++ rest.levels around))
  | .hasContent body rest => around :: (body.levels (around + 1) ++ around :: rest.levels around)
  | .content body rest => around :: (body.levels (around + 1) ++ around :: rest.levels around)

def Branches.levels (around : Nat) : Branches → List Nat
  | .close => [around]
  | .otherwise body => around :: (body.levels (around + 1) ++ [around])
  | .elseIf _ _ body others => around :: (body.levels (around + 1) ++ others.levels around)

end

mutual

theorem Body.length_levels (b : Body) (around : Nat) :
    (b.levels around).length = b.instructions.length := by
  match b with
  | .empty => rfl
  | .leaf _ rest => simp [Body.levels, Body.instructions, rest.length_levels]
  | .loop _ _ _ body rest | .hasContent body rest | .content body rest =>
      simp [Body.levels, Body.instructions, body.length_levels, rest.length_levels]
  | .branch _ _ body others rest =>
      simp [Body.levels, Body.instructions, body.length_levels, others.length_levels,
        rest.length_levels]

theorem Branches.length_levels (bs : Branches) (around : Nat) :
    (bs.levels around).length = bs.instructions.length := by
  match bs with
  | .close => rfl
  | .otherwise body => simp [Branches.levels, Branches.instructions, body.length_levels]
  | .elseIf _ _ body others =>
      simp [Branches.levels, Branches.instructions, body.length_levels, others.length_levels]

end

def depthsBefore (p : Program) (levels : List Nat) : List Nat :=
  List.zipWith Instruction.depthBefore p levels

def Counts (p : Program) (levels : List Nat) (before behind : Nat) : Prop :=
  ∀ more, depthsFrom before (p ++ more) = depthsBefore p levels ++ depthsFrom behind more

theorem Counts.nil (depth : Nat) : Counts [] [] depth depth := fun _ => rfl

theorem Counts.cons {i : Instruction} {p : Program} {level before middle behind : Nat}
    {levels : List Nat} (h : Counts p levels middle behind)
    (hbefore : i.depthBefore level = before)
    (hmiddle : (if i.opensLevel then level + 1 else level) = middle) :
    Counts (i :: p) (level :: levels) before behind := by
  intro more
  rw [List.cons_append, depthsFrom, ← hbefore, i.depthBehind_depthBefore, hmiddle, h]
  rfl

theorem Counts.append {p p' : Program} {levels levels' : List Nat} {before middle behind : Nat}
    (h : Counts p levels before middle) (h' : Counts p' levels' middle behind)
    (hlength : levels.length = p.length) :
    Counts (p ++ p') (levels ++ levels') before behind := by
  intro more
  rw [List.append_assoc, h, h', ← List.append_assoc]
  exact congrArg (· ++ _) (List.zipWith_append hlength.symm).symm

theorem Counts.block {first last : Instruction} {inner rest : Program} {around : Nat}
    {innerLevels restLevels : List Nat}
    (hinner : Counts inner innerLevels (around + 1) (around + 1))
    (hlength : innerLevels.length = inner.length) (hrest : Counts rest restLevels around around)
    (hfirst : first.depthBefore around = around)
    (hopens : (if first.opensLevel then around + 1 else around) = around + 1)
    (hlast : last.depthBefore around = around + 1)
    (hcloses : (if last.opensLevel then around + 1 else around) = around) :
    Counts (first :: (inner ++ last :: rest)) (around :: (innerLevels ++ around :: restLevels))
      around around :=
  (hinner.append (hrest.cons hlast hcloses) hlength).cons hfirst hopens

mutual

theorem Body.counts (b : Body) (around : Nat) :
    Counts b.instructions (b.levels around) around around := by
  match b with
  | .empty => exact .nil around
  | .leaf first rest =>
      have hrest := rest.counts around
      cases first <;> exact hrest.cons rfl rfl
  | .loop _ _ _ body rest | .hasContent body rest | .content body rest =>
      exact (body.counts (around + 1)).block (body.length_levels _) (rest.counts around)
        rfl rfl rfl rfl
  | .branch _ _ body others rest =>
      have hothers := (others.counts around).append (rest.counts around) (others.length_levels _)
      exact ((body.counts (around + 1)).append hothers (body.length_levels _)).cons rfl rfl

theorem Branches.counts (bs : Branches) (around : Nat) :
    Counts bs.instructions (bs.levels around) (around + 1) around := by
  match bs with
  | .close => exact (Counts.nil around).cons rfl rfl
  | .otherwise body =>
      have hend : Counts [.closeIf] [around] (around + 1) around :=
        (Counts.nil around).cons rfl rfl
      exact ((body.counts (around + 1)).append hend (body.length_levels _)).cons rfl rfl
  | .elseIf cond source body others =>
      have hothers := others.counts around
      exact ((body.counts (around + 1)).append hothers (body.length_levels _)).cons rfl rfl

end

theorem Body.depths_instructions (b : Body) :
    b.instructions.depths = depthsBefore b.instructions (b.levels 0) ++ [0] := by
  have h := b.counts 0 []
  rwa [List.append_nil] at h

/-! ## Listings -/

theorem isLine_of_mem_listingFrom {start depth : Nat} {p : Program} :
    ∀ line ∈ listingFrom start depth p, Text.IsLine line := by
  induction p generalizing start depth with
  | nil => exact List.forall_mem_nil _
  | cons i more ih =>
      exact List.forall_mem_cons.2 ⟨isLine_listingLine _ _ i, ih⟩

theorem splitOn_listingText {p : Program} (hp : p ≠ []) :
    Text.splitOn ['\n'] (List.cons_ne_nil _ _) p.listingText = p.listing := by
  have hlisting : p.listing ≠ [] := by
    rw [← List.length_pos_iff, Program.listing, length_listingFrom]
    exact List.length_pos_iff.2 hp
  rw [Text.splitOn_eq, Program.listingText, Text.join_eq_intercalate]
  refine List.splitOn_intercalate '\n' (fun line hline hmem => ?_) hlisting
  exact Bool.false_ne_true (isLine_of_mem_listingFrom line hline '\n' hmem).symm

/-- In the listing of a program that links each instruction has one line, which shows behind its
number two blanks for each block strictly around it. The depth that the listing counts is the number
of these blocks, and one more in front of what belongs to a block that is open, so that it is never
lowered at zero; at the end it is zero. -/
theorem listing_shows_blocks {p : Program} {j : Jumps} (h : link p = .ok j) :
    (p ≠ [] → Text.splitOn ['\n'] (List.cons_ne_nil _ _) p.listingText = p.listing) ∧
      p.listing.length = p.length ∧
      (∃ b : Body, b.instructions = p ∧ ∀ pc i, p[pc]? = some i → ∃ level,
        (b.levels 0)[pc]? = some level ∧
        p.listing[pc]? = some (Text.padLeft ' ' 4 (Text.ofNat pc) ++
          ' ' :: List.replicate (2 * level) ' ' ++ i.summary) ∧
        (∃ c, i.summary.head? = some c ∧ c ≠ ' ') ∧
        p.depths[pc]? = some (if i.closesLevel then level + 1 else level)) ∧
      p.depths.getLast? = some 0 := by
  obtain ⟨b, rfl⟩ := exists_body_of_link h
  refine ⟨splitOn_listingText, length_listingFrom .., ⟨b, rfl, fun pc i hi => ?_⟩, ?_⟩
  · obtain ⟨hpc, -⟩ := List.getElem?_eq_some_iff.1 hi
    obtain ⟨level, hlevel⟩ : ∃ level, (b.levels 0)[pc]? = some level :=
      ⟨_, List.getElem?_eq_getElem ((b.length_levels 0).symm ▸ hpc)⟩
    have hdepth : b.instructions.depths[pc]? = some (i.depthBefore level) := by
      rw [b.depths_instructions, List.getElem?_append_left, depthsBefore, List.getElem?_zipWith,
        hi, hlevel]
      simpa [depthsBefore, b.length_levels] using hpc
    have hline := getElem?_listing hi hdepth
    rw [i.lineDepth_depthBefore] at hline
    exact ⟨level, hlevel, hline, i.head?_summary, hdepth⟩
  · rw [b.depths_instructions, List.getLast?_concat]

def brokenLines : Program := [
  .openLoop "x".toList (.each .values "$xs".toList) [], .openIf "x".toList [],
  .literal "a\nb".toList, .otherwise, .output "x\n".toList true [], .closeIf, .closeLoop]

theorem listing_shows_blocks_brokenLines :
    ∃ j, link brokenLines = .ok j ∧ brokenLines ≠ [] ∧
      Text.splitOn ['\n'] (List.cons_ne_nil _ _) brokenLines.listingText =
        ["   0 OpenLoop('x', of '$xs')", "   1   OpenIf('x')", "   2     AppendLiteral('a\\nb')",
          "   3   Else", "   4     AppendExpr('x\\n', escape=True)", "   5   CloseIf",
          "   6 CloseLoop"].map String.toList ∧
      brokenLines.depths.getLast? = some 0 := by
  have hsome : (link brokenLines).toOption.isSome := by decide
  cases hlink : link brokenLines with
  | error e =>
      rw [hlink] at hsome
      cases hsome
  | ok j =>
      obtain ⟨hlines, -, -, hend⟩ := listing_shows_blocks hlink
      have hne : brokenLines ≠ [] := by decide
      have hlisting := hlines hne
      exact ⟨j, rfl, hne, hlisting.trans (by decide +kernel), hend⟩

end Stencil.Template
