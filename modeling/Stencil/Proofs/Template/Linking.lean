import Stencil.Proofs.Template.Block
import Stencil.Template.Compile

/-!
# Linking block trees

What one instruction does to the stack of open blocks, and that the instructions of an admitted tree
leave the stack as it was.
-/

namespace Stencil.Template

/-! ## Single steps -/

namespace LinkState

def wrapped (stack : List Block) : Bool := stack.any (·.kind = .hasContent)

def inContent (stack : List Block) : Bool := stack.head?.any (·.kind = .content)

@[simp] theorem wrapped_cons (block : Block) (stack : List Block) :
    wrapped (block :: stack) = (block.kind = .hasContent || wrapped stack) := by
  simp [wrapped]

@[simp] theorem inContent_cons (block : Block) (stack : List Block) :
    inContent (block :: stack) = decide (block.kind = .content) := by
  simp [inContent]

theorem allowsContent_iff (s : LinkState) :
    s.allowsContent = true ↔ wrapped s.stack = true ∧ inContent s.stack = false := by
  simp [allowsContent, wrapped, inContent]

theorem top_eq_ok_iff {s : LinkState} {kind : BlockKind} {i : Instruction} {block : Block}
    {rest : List Block} :
    s.top kind i = .ok (block, rest) ↔ s.stack = block :: rest ∧ block.kind = kind := by
  cases hs : s.stack with
  | nil => simp [top, hs]
  | cons first others =>
      by_cases hk : first.kind = kind
      · simp only [top, hs, hk, if_true, Except.ok.injEq, Prod.mk.injEq, List.cons.injEq]
        constructor
        · rintro ⟨rfl, rfl⟩
          exact ⟨⟨rfl, rfl⟩, hk⟩
        · rintro ⟨⟨rfl, rfl⟩, -⟩
          exact ⟨rfl, rfl⟩
      · simp only [top, hs, hk, if_false, reduceCtorEq, List.cons.injEq, false_iff]
        rintro ⟨⟨rfl, rfl⟩, hkind⟩
        exact hk hkind

theorem top_bind_eq_ok_iff {α : Type} {s : LinkState} {kind : BlockKind} {i : Instruction}
    {f : Block × List Block → Except LinkError α} {a : α} :
    (s.top kind i >>= f) = .ok a ↔
      ∃ block rest, (s.stack = block :: rest ∧ block.kind = kind) ∧ f (block, rest) = .ok a := by
  cases ht : s.top kind i with
  | error e =>
      simp only [bind, Except.bind, reduceCtorEq, false_iff]
      rintro ⟨block, rest, hs, -⟩
      rw [top_eq_ok_iff.mpr hs] at ht
      cases ht
  | ok found =>
      obtain ⟨first, others⟩ := found
      have hs := top_eq_ok_iff.mp ht
      simp only [bind, Except.bind]
      constructor
      · intro hf
        exact ⟨first, others, hs, hf⟩
      · rintro ⟨block, rest, ⟨hstack, -⟩, hf⟩
        rw [hs.1] at hstack
        cases hstack
        exact hf

theorem close_eq_ok_iff {s s' : LinkState} {kind : BlockKind} {i : Instruction} :
    s.close kind i = .ok s' ↔
      ∃ block rest, (s.stack = block :: rest ∧ block.kind = kind) ∧ s' = ⟨rest, s.jumps⟩ := by
  unfold close
  rw [top_bind_eq_ok_iff]
  simp [pure, Except.pure, eq_comm]

theorem closeLoop_eq_ok_iff {s s' : LinkState} {pc : Nat} {i : Instruction} :
    s.closeLoop pc i = .ok s' ↔
      ∃ block rest, (s.stack = block :: rest ∧ block.kind = .loop) ∧
        s' = ⟨rest, { s.jumps with
          loopClose := (block.pc, pc) :: s.jumps.loopClose
          loopOpen := (pc, block.pc) :: s.jumps.loopOpen }⟩ := by
  unfold closeLoop
  rw [top_bind_eq_ok_iff]
  simp [pure, Except.pure, eq_comm]

theorem closeBranch_eq_ok_iff {s s' : LinkState} {pc : Nat} {i : Instruction} :
    s.closeBranch pc i = .ok s' ↔
      ∃ block rest, (s.stack = block :: rest ∧ block.kind = .branch) ∧
        s' = ⟨rest, { s.jumps with
          nextBranch := branchJumps pc block.branches ++ s.jumps.nextBranch
          branchEnd := block.branches.dropLast.map (·, pc) ++ s.jumps.branchEnd }⟩ := by
  unfold closeBranch
  rw [top_bind_eq_ok_iff]
  simp [pure, Except.pure, eq_comm]

theorem branch_eq_ok_iff {s s' : LinkState} {pc : Nat} {isElse : Bool} {i : Instruction} :
    s.branch pc isElse i = .ok s' ↔
      ∃ block rest, (s.stack = block :: rest ∧ block.kind = .branch) ∧
        block.hasElse = false ∧
          s' = ⟨{ block with branches := pc :: block.branches, hasElse := isElse } :: rest,
            s.jumps⟩ := by
  unfold branch
  rw [top_bind_eq_ok_iff]
  constructor
  · rintro ⟨block, rest, hs, hf⟩
    cases he : block.hasElse with
    | true => simp [he] at hf
    | false =>
        simp only [he, Bool.false_eq_true, if_false, pure, Except.pure, Except.ok.injEq] at hf
        exact ⟨block, rest, hs, he, hf.symm⟩
  · rintro ⟨block, rest, hs, he, rfl⟩
    exact ⟨block, rest, hs, by simp [he, pure, Except.pure]⟩

end LinkState

open LinkState

theorem linkFrom_cons_eq_ok_iff {s f : LinkState} {pc : Nat} {i : Instruction} {more : Program} :
    linkFrom s pc (i :: more) = .ok f ↔
      ∃ s', s.step pc i = .ok s' ∧ linkFrom s' (pc + 1) more = .ok f := by
  simp only [linkFrom]
  cases s.step pc i <;> simp

/-! ## Admitted trees link -/

section

variable (s : LinkState) (jumps : Jumps) (pc start : Nat) (outer : List Block) (more : Program)

theorem linkFrom_leaf (first : Leaf) :
    linkFrom s pc (first.instruction :: more) = linkFrom s (pc + 1) more := by
  cases first <;> rfl

theorem linkFrom_closeLoop :
    linkFrom ⟨⟨⟨.loop, start⟩, [], false⟩ :: outer, jumps⟩ pc (.closeLoop :: more) =
      linkFrom ⟨outer, { jumps with
        loopClose := (start, pc) :: jumps.loopClose
        loopOpen := (pc, start) :: jumps.loopOpen }⟩ (pc + 1) more := rfl

theorem linkFrom_elseIf (before : List Nat) (cond source : Text) :
    linkFrom ⟨⟨⟨.branch, start⟩, before, false⟩ :: outer, jumps⟩ pc
        (.elseIf cond source :: more) =
      linkFrom ⟨⟨⟨.branch, start⟩, pc :: before, false⟩ :: outer, jumps⟩ (pc + 1) more := rfl

theorem linkFrom_otherwise (before : List Nat) :
    linkFrom ⟨⟨⟨.branch, start⟩, before, false⟩ :: outer, jumps⟩ pc (.otherwise :: more) =
      linkFrom ⟨⟨⟨.branch, start⟩, pc :: before, true⟩ :: outer, jumps⟩ (pc + 1) more := rfl

theorem linkFrom_closeIf (before : List Nat) (hasElse : Bool) :
    linkFrom ⟨⟨⟨.branch, start⟩, before, hasElse⟩ :: outer, jumps⟩ pc (.closeIf :: more) =
      linkFrom ⟨outer, { jumps with
        nextBranch := branchJumps pc before ++ jumps.nextBranch
        branchEnd := before.dropLast.map (·, pc) ++ jumps.branchEnd }⟩ (pc + 1) more := rfl

theorem linkFrom_closeHasContent :
    linkFrom ⟨⟨⟨.hasContent, start⟩, [], false⟩ :: outer, jumps⟩ pc (.closeHasContent :: more) =
      linkFrom ⟨outer, jumps⟩ (pc + 1) more := rfl

theorem linkFrom_openContent (h : wrapped s.stack = true ∧ inContent s.stack = false) :
    linkFrom s pc (.openContent :: more) = linkFrom (s.push .content pc []) (pc + 1) more := by
  simp [linkFrom, step, (allowsContent_iff s).mpr h]

theorem of_linkFrom_openContent {s f : LinkState} {pc : Nat} {more : Program}
    (h : linkFrom s pc (.openContent :: more) = .ok f) :
    (wrapped s.stack = true ∧ inContent s.stack = false) ∧
      linkFrom (s.push .content pc []) (pc + 1) more = .ok f := by
  obtain ⟨s', hstep, hmore⟩ := linkFrom_cons_eq_ok_iff.mp h
  simp only [step] at hstep
  split at hstep
  case isTrue hallowed =>
    cases hstep
    exact ⟨(allowsContent_iff s).mp hallowed, hmore⟩
  case isFalse => cases hstep

theorem linkFrom_closeContent :
    linkFrom ⟨⟨⟨.content, start⟩, [], false⟩ :: outer, jumps⟩ pc (.closeContent :: more) =
      linkFrom ⟨outer, jumps⟩ (pc + 1) more := rfl

end

mutual

theorem Body.linkFrom_append (b : Body) (s : LinkState) (pc : Nat) (rest : Program)
    (h : b.Admitted (wrapped s.stack) (inContent s.stack)) :
    ∃ jumps, linkFrom s pc (b.instructions ++ rest) =
      linkFrom ⟨s.stack, jumps⟩ (pc + b.length) rest := by
  match b with
  | .empty => exact ⟨s.jumps, rfl⟩
  | .leaf first more =>
      obtain ⟨jumps, hmore⟩ := more.linkFrom_append s (pc + 1) rest h
      refine ⟨jumps, ?_⟩
      simp only [Body.instructions, List.cons_append]
      rw [linkFrom_leaf, hmore]
      simp [Nat.add_assoc, Nat.add_comm 1]
  | .loop name head source body more =>
      obtain ⟨inner, hbody⟩ := body.linkFrom_append (s.push .loop pc []) (pc + 1)
        (.closeLoop :: (more.instructions ++ rest)) (by simpa [push] using h.1)
      obtain ⟨jumps, hmore⟩ := more.linkFrom_append
        ⟨s.stack, { inner with
          loopClose := (pc, pc + 1 + body.length) :: inner.loopClose
          loopOpen := (pc + 1 + body.length, pc) :: inner.loopOpen }⟩
        (pc + 1 + body.length + 1) rest h.2
      refine ⟨jumps, ?_⟩
      simp only [Body.instructions, List.cons_append, List.append_assoc]
      change linkFrom (s.push .loop pc []) (pc + 1) _ = _
      rw [hbody, push, linkFrom_closeLoop, hmore]
      simp only [Body.length_loop]
      congr 1
      omega
  | .branch cond source body others more =>
      obtain ⟨inner, hbody⟩ := body.linkFrom_append (s.push .branch pc [pc]) (pc + 1)
        (others.instructions ++ (more.instructions ++ rest)) (by simpa [push] using h.1)
      obtain ⟨behind, hothers⟩ := others.linkFrom_append inner (pc + 1 + body.length) pc [pc]
        s.stack (more.instructions ++ rest) h.2.1
      obtain ⟨jumps, hmore⟩ := more.linkFrom_append ⟨s.stack, behind⟩
        (pc + 1 + body.length + others.length) rest h.2.2
      refine ⟨jumps, ?_⟩
      simp only [Body.instructions, List.cons_append, List.append_assoc]
      change linkFrom (s.push .branch pc [pc]) (pc + 1) _ = _
      rw [hbody, push, hothers, hmore]
      simp only [Body.length_branch]
      congr 1
      omega
  | .hasContent body more =>
      obtain ⟨inner, hbody⟩ := body.linkFrom_append (s.push .hasContent pc []) (pc + 1)
        (.closeHasContent :: (more.instructions ++ rest)) (by simpa [push] using h.1)
      obtain ⟨jumps, hmore⟩ := more.linkFrom_append ⟨s.stack, inner⟩
        (pc + 1 + body.length + 1) rest h.2
      refine ⟨jumps, ?_⟩
      simp only [Body.instructions, List.cons_append, List.append_assoc]
      change linkFrom (s.push .hasContent pc []) (pc + 1) _ = _
      rw [hbody, push, linkFrom_closeHasContent, hmore]
      simp only [Body.length_hasContent]
      congr 1
      omega
  | .content body more =>
      obtain ⟨inner, hbody⟩ := body.linkFrom_append (s.push .content pc []) (pc + 1)
        (.closeContent :: (more.instructions ++ rest)) (by simpa [push] using h.2.1)
      obtain ⟨jumps, hmore⟩ := more.linkFrom_append ⟨s.stack, inner⟩
        (pc + 1 + body.length + 1) rest h.2.2
      refine ⟨jumps, ?_⟩
      simp only [Body.instructions, List.cons_append, List.append_assoc]
      rw [linkFrom_openContent _ _ _ h.1, hbody, push, linkFrom_closeContent, hmore]
      simp only [Body.length_content]
      congr 1
      omega

theorem Branches.linkFrom_append (bs : Branches) (jumps : Jumps) (pc start : Nat)
    (before : List Nat) (outer : List Block) (rest : Program)
    (h : bs.Admitted (wrapped outer)) :
    ∃ jumps', linkFrom ⟨⟨⟨.branch, start⟩, before, false⟩ :: outer, jumps⟩ pc
        (bs.instructions ++ rest) =
      linkFrom ⟨outer, jumps'⟩ (pc + bs.length) rest := by
  match bs with
  | .close => exact ⟨_, linkFrom_closeIf _ _ _ _ _ _ _⟩
  | .otherwise body =>
      obtain ⟨inner, hbody⟩ := body.linkFrom_append
        ⟨⟨⟨.branch, start⟩, pc :: before, true⟩ :: outer, jumps⟩ (pc + 1) (.closeIf :: rest)
        (by simpa using (show body.Admitted (wrapped outer) false from h))
      refine ⟨{ inner with
        nextBranch := branchJumps (pc + 1 + body.length) (pc :: before) ++ inner.nextBranch
        branchEnd := (pc :: before).dropLast.map (·, pc + 1 + body.length) ++
          inner.branchEnd }, ?_⟩
      simp only [Branches.instructions, List.cons_append, List.append_assoc, List.nil_append]
      rw [linkFrom_otherwise, hbody, linkFrom_closeIf, Branches.length_otherwise,
        show pc + (body.length + 2) = pc + 1 + body.length + 1 by omega]
  | .elseIf cond source body others =>
      obtain ⟨inner, hbody⟩ := body.linkFrom_append
        ⟨⟨⟨.branch, start⟩, pc :: before, false⟩ :: outer, jumps⟩ (pc + 1)
        (others.instructions ++ rest) (by simpa using h.1)
      obtain ⟨jumps', hothers⟩ := others.linkFrom_append inner (pc + 1 + body.length) start
        (pc :: before) outer rest h.2
      refine ⟨jumps', ?_⟩
      simp only [Branches.instructions, List.cons_append, List.append_assoc]
      rw [linkFrom_elseIf, hbody, hothers]
      simp only [Branches.length_elseIf]
      congr 1
      omega

end

end Stencil.Template
