import Stencil.Proofs.Template.Placement

/-!
# Linking and the grammar of blocks

Linking keeps a stack of open blocks. It ends with an empty stack exactly for the programs of the
block trees that the grammar admits.
-/

namespace Stencil.Template

open LinkState

/-! ## Programs that link have a tree -/

/-- What ends a block: its last instruction, behind the branches that may still come. -/
def Block.Ending (block : Block) (p : Program) : Prop :=
  match block.kind with
  | .loop => p = [.closeLoop]
  | .hasContent => p = [.closeHasContent]
  | .content => p = [.closeContent]
  | .branch => ∃ bs : Branches, (block.hasElse = true → bs = .close) ∧ p = bs.instructions

/-- A program ends the open blocks, the innermost first, with a body before each ending. -/
def Completes : List Block → Program → Prop
  | [], p => ∃ b : Body, p = b.instructions
  | block :: outer, p => ∃ (b : Body) (ending rest : Program),
      p = b.instructions ++ (ending ++ rest) ∧ block.Ending ending ∧ Completes outer rest

theorem Completes.prepend {stack : List Block} {p front : Program} (h : Completes stack p)
    (hfront : ∀ b : Body, ∃ c : Body, c.instructions = front ++ b.instructions) :
    Completes stack (front ++ p) := by
  cases stack with
  | nil =>
      obtain ⟨b, rfl⟩ := h
      obtain ⟨c, hc⟩ := hfront b
      exact ⟨c, hc.symm⟩
  | cons block outer =>
      obtain ⟨b, ending, rest, rfl, hending, hrest⟩ := h
      obtain ⟨c, hc⟩ := hfront b
      exact ⟨c, ending, rest, by rw [hc, List.append_assoc], hending, hrest⟩

theorem Completes.ended {block : Block} {outer : List Block} {p : Program} (h : Completes outer p)
    (ending : Program) (hending : block.Ending ending) :
    Completes (block :: outer) (ending ++ p) :=
  ⟨.empty, ending, p, rfl, hending, h⟩

theorem Completes.opened {stack : List Block} {block : Block} {i : Instruction} {more : Program}
    (h : Completes (block :: stack) more)
    (hblock : ∀ (body : Body) (ending : Program), block.Ending ending → ∀ b : Body,
      ∃ c : Body, c.instructions = i :: (body.instructions ++ (ending ++ b.instructions))) :
    Completes stack (i :: more) := by
  obtain ⟨body, ending, rest, rfl, hending, hrest⟩ := h
  have hfront : ∀ b : Body, ∃ c : Body,
      c.instructions = i :: (body.instructions ++ ending) ++ b.instructions := by
    simpa using hblock body ending hending
  simpa using hrest.prepend hfront

theorem Completes.branched {block block' : Block} {outer : List Block} {i : Instruction}
    {more : Program} (h : Completes (block' :: outer) more)
    (hending : ∀ (body : Body) (ending : Program), block'.Ending ending →
      block.Ending (i :: (body.instructions ++ ending))) :
    Completes (block :: outer) (i :: more) := by
  obtain ⟨body, ending, rest, rfl, hbefore, hrest⟩ := h
  simpa using hrest.ended _ (hending body ending hbefore)

theorem Block.ending_elseIf {block : Block} (hkind : block.kind = .branch)
    (helse : block.hasElse = false) (cond source : Text) (branches : List Nat) (body : Body)
    (ending : Program)
    (h : Block.Ending { block with branches := branches, hasElse := false } ending) :
    block.Ending (.elseIf cond source :: (body.instructions ++ ending)) := by
  simp only [Ending, hkind] at h
  simp only [Ending, hkind, helse]
  obtain ⟨bs, -, rfl⟩ := h
  exact ⟨.elseIf cond source body bs, by simp, rfl⟩

theorem Block.ending_otherwise {block : Block} (hkind : block.kind = .branch)
    (helse : block.hasElse = false) (branches : List Nat) (body : Body) (ending : Program)
    (h : Block.Ending { block with branches := branches, hasElse := true } ending) :
    block.Ending (.otherwise :: (body.instructions ++ ending)) := by
  simp only [Ending, hkind] at h
  simp only [Ending, hkind, helse]
  obtain ⟨bs, hbs, rfl⟩ := h
  obtain rfl := hbs trivial
  exact ⟨.otherwise body, by simp, rfl⟩

theorem completes_of_linkFrom {p : Program} {s f : LinkState} {pc : Nat}
    (h : linkFrom s pc p = .ok f) (hf : f.stack = []) : Completes s.stack p := by
  induction p generalizing s pc with
  | nil =>
      cases h
      rw [hf]
      exact ⟨.empty, rfl⟩
  | cons i more ih =>
      obtain ⟨s', hstep, hmore⟩ := linkFrom_cons_eq_ok_iff.mp h
      have hrest := ih hmore
      have leaf (first : Leaf) (hs : s' = s) :
          Completes s.stack (first.instruction :: more) := by
        subst hs
        have hfront : ∀ b : Body, ∃ c : Body,
            c.instructions = [first.instruction] ++ b.instructions :=
          fun b => ⟨.leaf first b, rfl⟩
        exact hrest.prepend hfront
      cases i with
      | literal text => exact leaf (.literal text) (by cases hstep; rfl)
      | output expr escape source => exact leaf (.output expr escape source) (by cases hstep; rfl)
      | assign name expr source => exact leaf (.assign name expr source) (by cases hstep; rfl)
      | capture expr source => exact leaf (.capture expr source) (by cases hstep; rfl)
      | openLoop name head source =>
          cases hstep
          refine hrest.opened ?_
          rintro body _ rfl b
          exact ⟨.loop name head source body b, rfl⟩
      | closeLoop =>
          obtain ⟨block, outer, ⟨hs, hkind⟩, rfl⟩ := closeLoop_eq_ok_iff.mp hstep
          rw [hs]
          exact hrest.ended [.closeLoop] (by simp [Block.Ending, hkind])
      | openIf cond source =>
          cases hstep
          refine hrest.opened ?_
          rintro body _ ⟨bs, -, rfl⟩ b
          exact ⟨.branch cond source body bs b, rfl⟩
      | elseIf cond source =>
          obtain ⟨block, outer, ⟨hs, hkind⟩, helse, rfl⟩ := branch_eq_ok_iff.mp hstep
          rw [hs]
          exact hrest.branched (Block.ending_elseIf hkind helse cond source _)
      | otherwise =>
          obtain ⟨block, outer, ⟨hs, hkind⟩, helse, rfl⟩ := branch_eq_ok_iff.mp hstep
          rw [hs]
          exact hrest.branched (Block.ending_otherwise hkind helse _)
      | closeIf =>
          obtain ⟨block, outer, ⟨hs, hkind⟩, rfl⟩ := closeBranch_eq_ok_iff.mp hstep
          rw [hs]
          exact hrest.ended [.closeIf]
            (by simpa [Block.Ending, hkind] using ⟨.close, by simp, rfl⟩)
      | openHasContent =>
          cases hstep
          refine hrest.opened ?_
          rintro body _ rfl b
          exact ⟨.hasContent body b, rfl⟩
      | openContent =>
          simp only [step] at hstep
          split at hstep
          · cases hstep
            refine hrest.opened ?_
            rintro body _ rfl b
            exact ⟨.content body b, rfl⟩
          · cases hstep
      | closeContent =>
          obtain ⟨block, outer, ⟨hs, hkind⟩, rfl⟩ := close_eq_ok_iff.mp hstep
          rw [hs]
          exact hrest.ended [.closeContent] (by simp [Block.Ending, hkind])
      | closeHasContent =>
          obtain ⟨block, outer, ⟨hs, hkind⟩, rfl⟩ := close_eq_ok_iff.mp hstep
          rw [hs]
          exact hrest.ended [.closeHasContent] (by simp [Block.Ending, hkind])

/-! ## Whole programs -/

theorem link_eq_ok_iff {p : Program} {j : Jumps} :
    link p = .ok j ↔ linkFrom .initial 0 p = .ok ⟨[], j⟩ := by
  unfold link
  cases linkFrom .initial 0 p with
  | error e => simp
  | ok f =>
      obtain ⟨stack, jumps⟩ := f
      cases stack <;> simp

theorem placed_of_link {p : Program} {j : Jumps} (h : link p = .ok j) {b : Body}
    (hb : b.instructions = p) : b.Admitted false false ∧ b.Placed p j 0 := by
  have hlink : linkFrom .initial 0 (b.instructions ++ []) = .ok ⟨[], j⟩ := by
    rw [List.append_nil, hb, link_eq_ok_iff.mp h]
  have hp : p.drop 0 = b.instructions ++ [] := by simp [hb]
  obtain ⟨hadmitted, hplaced, -⟩ := b.placed_of_linkFrom hp hlink
    (fun key hkey => absurd hkey (not_owned_nil key))
  exact ⟨hadmitted, hplaced⟩

theorem exists_body_of_link {p : Program} {j : Jumps} (h : link p = .ok j) :
    ∃ b : Body, b.instructions = p := by
  obtain ⟨b, hb⟩ := completes_of_linkFrom (link_eq_ok_iff.mp h) rfl
  exact ⟨b, hb.symm⟩

theorem link_instructions {b : Body} (h : b.Admitted false false) :
    ∃ j, link b.instructions = .ok j := by
  obtain ⟨j, hlink⟩ := b.linkFrom_append .initial 0 [] h
  rw [List.append_nil] at hlink
  exact ⟨j, link_eq_ok_iff.mpr hlink⟩

theorem exists_link_iff_derivable (p : Program) : (∃ j, link p = .ok j) ↔ Derivable p := by
  constructor
  · rintro ⟨j, h⟩
    obtain ⟨b, hb⟩ := exists_body_of_link h
    exact ⟨b, (placed_of_link h hb).1, hb⟩
  · rintro ⟨b, hadmitted, rfl⟩
    exact link_instructions hadmitted

/-- A program fails to be built because of its blocks exactly if it does not link. -/
theorem compile_eq_link_error_iff (template : Text) (number : Nat) (p : Program) :
    (∃ directive e, compile template number p =
        .error (.generation template directive (.link e))) ↔
      ¬ ∃ j, link p = .ok j := by
  unfold compile
  cases link p with
  | error e =>
      refine ⟨fun _ => by simp, fun _ => ⟨e.directive, e.error, rfl⟩⟩
  | ok j =>
      simp only [Except.ok.injEq, exists_eq', not_true_eq_false, iff_false]
      rintro ⟨directive, e, h⟩
      cases hcodes : compileFrom number 0 p <;> simp [hcodes] at h

/-- Exactly the derivable programs link, and all others fail with an error about their blocks. -/
theorem links_exactly_derivable (p : Program) :
    ((∃ j, link p = .ok j) ↔ Derivable p) ∧
      ∀ template number, (∃ directive e, compile template number p =
        .error (.generation template directive (.link e))) ↔ ¬ Derivable p :=
  ⟨exists_link_iff_derivable p, fun template number => by
    rw [compile_eq_link_error_iff, exists_link_iff_derivable]⟩

end Stencil.Template
