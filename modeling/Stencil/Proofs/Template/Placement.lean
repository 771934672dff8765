import Stencil.Proofs.Template.Linking

/-!
# Placed trees

A tree is placed in a program when its instructions stand there from a number on and the jumps of
its blocks lead where the tree says. Linking places every tree of its program. What it writes down
for an instruction stays, because later entries are about later instructions or about blocks that
are still open.
-/

namespace Stencil.Template

open LinkState

mutual

/-- The tree stands in a program with jumps from a number on. -/
def Body.Placed (p : Program) (j : Jumps) : (pc : Nat) → Body → Prop
  | _, .empty => True
  | pc, .leaf first rest => p[pc]? = some first.instruction ∧ rest.Placed p j (pc + 1)
  | pc, .loop name head source body rest =>
    (p[pc]? = some (.openLoop name head source) ∧
      j.loopClose.lookup pc = some (pc + 1 + body.length)) ∧
    body.Placed p j (pc + 1) ∧
    (p[pc + 1 + body.length]? = some .closeLoop ∧
      j.loopOpen.lookup (pc + 1 + body.length) = some pc) ∧
    rest.Placed p j (pc + 1 + body.length + 1)
  | pc, .branch cond source body others rest =>
    (p[pc]? = some (.openIf cond source) ∧
      j.nextBranch.lookup pc = some (pc + 1 + body.length)) ∧
    body.Placed p j (pc + 1) ∧
    others.Placed p j (pc + 1 + body.length) ∧
    rest.Placed p j (pc + 1 + body.length + others.length)
  | pc, .hasContent body rest =>
    p[pc]? = some .openHasContent ∧
    body.Placed p j (pc + 1) ∧
    p[pc + 1 + body.length]? = some .closeHasContent ∧
    rest.Placed p j (pc + 1 + body.length + 1)
  | pc, .content body rest =>
    p[pc]? = some .openContent ∧
    body.Placed p j (pc + 1) ∧
    p[pc + 1 + body.length]? = some .closeContent ∧
    rest.Placed p j (pc + 1 + body.length + 1)

def Branches.Placed (p : Program) (j : Jumps) : (pc : Nat) → Branches → Prop
  | pc, .close => p[pc]? = some .closeIf
  | pc, .otherwise body =>
    (p[pc]? = some .otherwise ∧
      j.branchEnd.lookup pc = some (pc + 1 + body.length)) ∧
    body.Placed p j (pc + 1) ∧
    p[pc + 1 + body.length]? = some .closeIf
  | pc, .elseIf cond source body others =>
    (p[pc]? = some (.elseIf cond source) ∧
      j.nextBranch.lookup pc = some (pc + 1 + body.length) ∧
      j.branchEnd.lookup pc = some (pc + body.length + others.length)) ∧
    body.Placed p j (pc + 1) ∧
    others.Placed p j (pc + 1 + body.length)

end

theorem Branches.Placed.length_le {bs : Branches} {p : Program} {j : Jumps} {pc : Nat}
    (h : bs.Placed p j pc) : pc + bs.length ≤ p.length := by
  match bs with
  | .close => exact (List.getElem?_eq_some_iff.mp h).1
  | .otherwise body =>
      have := (List.getElem?_eq_some_iff.mp h.2.2).1
      simp
      omega
  | .elseIf cond source body others =>
      have := length_le h.2.2
      simp
      omega

/-! ## Entries that stay -/

def Jumps.row (j : Jumps) (key : Nat) : Option Nat × Option Nat × Option Nat × Option Nat :=
  (j.loopClose.lookup key, j.loopOpen.lookup key, j.nextBranch.lookup key,
    j.branchEnd.lookup key)

def Owned (stack : List Block) (key : Nat) : Prop :=
  ∃ block ∈ stack, key = block.pc ∨ key ∈ block.branches

@[simp] theorem not_owned_nil (key : Nat) : ¬ Owned [] key := by
  simp [Owned]

@[simp] theorem owned_cons (block : Block) (stack : List Block) (key : Nat) :
    Owned (block :: stack) key ↔
      (key = block.pc ∨ key ∈ block.branches) ∨ Owned stack key := by
  simp [Owned]

theorem lookup_cons_of_ne {key k target : Nat} {table : List (Nat × Nat)} (h : key ≠ k) :
    ((k, target) :: table).lookup key = table.lookup key := by
  simp [List.lookup_cons, beq_eq_false_iff_ne.mpr h]

theorem lookup_branchJumps_of_notMem {key target : Nat} {branches : List Nat}
    (h : key ∉ branches) : (branchJumps target branches).lookup key = none := by
  induction branches generalizing target with
  | nil => rfl
  | cons pc more ih =>
      simp only [List.mem_cons, not_or] at h
      rw [branchJumps, lookup_cons_of_ne h.1]
      exact ih h.2

theorem mem_of_lookup_branchJumps {key target next : Nat} {branches : List Nat}
    (h : (branchJumps target branches).lookup key = some next) : key ∈ branches := by
  refine Decidable.byContradiction fun hnot => ?_
  rw [lookup_branchJumps_of_notMem hnot] at h
  cases h

theorem lookup_map_of_notMem {key target : Nat} {keys : List Nat} (h : key ∉ keys) :
    (keys.map (·, target)).lookup key = none := by
  simp only [List.lookup_eq_none_iff, List.mem_map, bne_iff_ne]
  rintro _ ⟨other, hother, rfl⟩ rfl
  exact h hother

theorem lookup_map_of_mem {key target : Nat} {keys : List Nat} (h : key ∈ keys) :
    (keys.map (·, target)).lookup key = some target := by
  induction keys with
  | nil => cases h
  | cons first more ih =>
      by_cases hfirst : key = first
      · simp [hfirst]
      · rw [List.map_cons, lookup_cons_of_ne hfirst]
        exact ih ((List.mem_cons.mp h).resolve_left hfirst)

/-- One step neither changes what is written down for an earlier instruction that starts no open
block, nor makes it start one. -/
theorem row_step {s s' : LinkState} {pc key : Nat} {i : Instruction} (h : s.step pc i = .ok s')
    (hkey : key < pc) (howned : ¬ Owned s.stack key) :
    ¬ Owned s'.stack key ∧ s'.jumps.row key = s.jumps.row key := by
  have hpc : key ≠ pc := by omega
  cases i with
  | literal | output | assign | capture =>
      cases h
      exact ⟨howned, rfl⟩
  | openLoop | openHasContent =>
      cases h
      exact ⟨by simp [push, hpc, howned], rfl⟩
  | openIf =>
      cases h
      exact ⟨by simp [push, hpc, howned], rfl⟩
  | openContent =>
      simp only [step] at h
      split at h
      · cases h
        exact ⟨by simp [push, hpc, howned], rfl⟩
      · cases h
  | closeLoop =>
      obtain ⟨block, outer, ⟨hs, -⟩, rfl⟩ := closeLoop_eq_ok_iff.mp h
      simp only [hs, owned_cons, not_or] at howned
      exact ⟨howned.2, by
        simp only [Jumps.row, lookup_cons_of_ne hpc, lookup_cons_of_ne howned.1.1]⟩
  | elseIf | otherwise =>
      obtain ⟨block, outer, ⟨hs, -⟩, -, rfl⟩ := branch_eq_ok_iff.mp h
      simp only [hs, owned_cons, not_or] at howned
      exact ⟨by simp [hpc, howned], rfl⟩
  | closeIf =>
      obtain ⟨block, outer, ⟨hs, -⟩, rfl⟩ := closeBranch_eq_ok_iff.mp h
      simp only [hs, owned_cons, not_or] at howned
      have hinit : key ∉ block.branches.dropLast :=
        fun hmem => howned.1.2 (List.dropLast_subset _ hmem)
      exact ⟨howned.2, by
        simp only [Jumps.row, List.lookup_append, lookup_branchJumps_of_notMem howned.1.2,
          lookup_map_of_notMem hinit, Option.none_or]⟩
  | closeContent | closeHasContent =>
      obtain ⟨block, outer, ⟨hs, -⟩, rfl⟩ := close_eq_ok_iff.mp h
      simp only [hs, owned_cons, not_or] at howned
      exact ⟨howned.2, rfl⟩

theorem row_linkFrom {p : Program} {s f : LinkState} {pc key : Nat}
    (h : linkFrom s pc p = .ok f) (hkey : key < pc) (howned : ¬ Owned s.stack key) :
    f.jumps.row key = s.jumps.row key := by
  induction p generalizing s pc with
  | nil =>
      cases h
      rfl
  | cons i more ih =>
      obtain ⟨s', hstep, hmore⟩ := linkFrom_cons_eq_ok_iff.mp h
      obtain ⟨howned', hrow⟩ := row_step hstep hkey howned
      rw [ih hmore (by omega) howned', hrow]

/-! ## Linking places trees -/

def OwnedBelow (stack : List Block) (pc : Nat) : Prop := ∀ key, Owned stack key → key < pc

theorem OwnedBelow.mono {stack : List Block} {pc pc' : Nat} (h : OwnedBelow stack pc)
    (hle : pc ≤ pc') : OwnedBelow stack pc' :=
  fun key hkey => Nat.lt_of_lt_of_le (h key hkey) hle

theorem OwnedBelow.not_owned {stack : List Block} {pc key : Nat} (h : OwnedBelow stack pc)
    (hle : pc ≤ key) : ¬ Owned stack key :=
  fun hkey => absurd (h key hkey) (Nat.not_lt.mpr hle)

theorem OwnedBelow.cons {block : Block} {stack : List Block} {pc : Nat}
    (h : OwnedBelow stack pc) (hpc : block.pc < pc) (hbranches : ∀ key ∈ block.branches, key < pc) :
    OwnedBelow (block :: stack) pc := by
  intro key hkey
  rcases (owned_cons _ _ _).mp hkey with (rfl | hmem) | houter
  · exact hpc
  · exact hbranches key hmem
  · exact h key houter

theorem OwnedBelow.tail {block : Block} {stack : List Block} {pc : Nat}
    (h : OwnedBelow (block :: stack) pc) : OwnedBelow stack pc :=
  fun key hkey => h key ((owned_cons _ _ _).mpr (.inr hkey))

/-- The branches `before`, the last one first, lead on to `next` and have their end at `last`. -/
def LeadsOn (j : Jumps) (next last : Nat) (before : List Nat) : Prop :=
  (∀ key target, (branchJumps next before).lookup key = some target →
    j.nextBranch.lookup key = some target) ∧
  ∀ key ∈ before.dropLast, j.branchEnd.lookup key = some last

theorem LeadsOn.tail {j : Jumps} {next last pc : Nat} {before : List Nat}
    (h : LeadsOn j next last (pc :: before)) (hne : before ≠ [])
    (hbefore : ∀ key ∈ before, key < pc) :
    (j.nextBranch.lookup pc = some next ∧ j.branchEnd.lookup pc = some last) ∧
      LeadsOn j pc last before := by
  have hlast : ∀ key ∈ pc :: before.dropLast, j.branchEnd.lookup key = some last := by
    rw [← List.dropLast_cons_of_ne_nil hne]
    exact h.2
  refine ⟨⟨h.1 pc next (by simp [branchJumps]), hlast pc (by simp)⟩, ?_,
    fun key hkey => hlast key (List.mem_cons_of_mem _ hkey)⟩
  intro key target hkey
  have hmem := mem_of_lookup_branchJumps hkey
  refine h.1 key target ?_
  rw [branchJumps, lookup_cons_of_ne (Nat.ne_of_lt (hbefore key hmem))]
  exact hkey

theorem leadsOn_of_linkFrom {rest : Program} {f : LinkState} {j : Jumps} {pc start : Nat}
    {before : List Nat} {hasElse : Bool} {outer : List Block} (howned : OwnedBelow outer start)
    (hbefore : ∀ key ∈ before, start ≤ key ∧ key < pc)
    (h : linkFrom ⟨⟨⟨.branch, start⟩, before, hasElse⟩ :: outer, j⟩ pc (.closeIf :: rest) =
      .ok f) :
    LeadsOn f.jumps pc pc before ∧ ∃ jumps, linkFrom ⟨outer, jumps⟩ (pc + 1) rest = .ok f := by
  rw [linkFrom_closeIf] at h
  have hrow (key : Nat) (hkey : key ∈ before) := row_linkFrom h
    (Nat.lt_succ_of_lt (hbefore key hkey).2) (howned.not_owned (hbefore key hkey).1)
  simp only [Jumps.row, Prod.mk.injEq, List.lookup_append] at hrow
  refine ⟨⟨?_, ?_⟩, _, h⟩
  · intro key target hkey
    rw [(hrow key (mem_of_lookup_branchJumps hkey)).2.2.1, hkey, Option.some_or]
  · intro key hkey
    rw [(hrow key (List.dropLast_subset _ hkey)).2.2.2, lookup_map_of_mem hkey, Option.some_or]

/-! ## Linking places trees -/

theorem drop_succ_of_drop_eq_cons {p rest : Program} {pc : Nat} {i : Instruction}
    (h : p.drop pc = i :: rest) : p[pc]? = some i ∧ p.drop (pc + 1) = rest := by
  have hget : p[pc]? = some i := by
    simpa [List.head?_drop] using congrArg List.head? h
  exact ⟨hget, by simpa [List.tail_drop] using congrArg List.tail h⟩

theorem Body.drop_length {b : Body} {p rest : Program} {pc : Nat}
    (h : p.drop pc = b.instructions ++ rest) : p.drop (pc + b.length) = rest := by
  rw [← List.drop_drop, h, length, List.drop_left]

theorem Branches.drop_length {bs : Branches} {p rest : Program} {pc : Nat}
    (h : p.drop pc = bs.instructions ++ rest) : p.drop (pc + bs.length) = rest := by
  rw [← List.drop_drop, h, length, List.drop_left]

mutual

theorem Body.placed_of_linkFrom (b : Body) {p rest : Program} {s f : LinkState} {pc : Nat}
    (hp : p.drop pc = b.instructions ++ rest)
    (h : linkFrom s pc (b.instructions ++ rest) = .ok f) (howned : OwnedBelow s.stack pc) :
    b.Admitted (wrapped s.stack) (inContent s.stack) ∧ b.Placed p f.jumps pc ∧
      ∃ jumps, linkFrom ⟨s.stack, jumps⟩ (pc + b.length) rest = .ok f := by
  match b with
  | .empty => exact ⟨trivial, trivial, s.jumps, h⟩
  | .leaf first more =>
      simp only [Body.instructions, List.cons_append] at hp h
      rw [linkFrom_leaf] at h
      obtain ⟨hget, hdrop⟩ := drop_succ_of_drop_eq_cons hp
      obtain ⟨hadmitted, hplaced, jumps, hrest⟩ := more.placed_of_linkFrom hdrop h
        (howned.mono (by omega))
      refine ⟨hadmitted, ⟨hget, hplaced⟩, jumps, ?_⟩
      rw [Body.length_leaf, show pc + (more.length + 1) = pc + 1 + more.length by omega]
      exact hrest
  | .loop name head source body more =>
      simp only [Body.instructions, List.cons_append, List.append_assoc] at hp h
      change linkFrom (s.push .loop pc []) (pc + 1) _ = _ at h
      obtain ⟨hopen, hdrop⟩ := drop_succ_of_drop_eq_cons hp
      obtain ⟨hbody, hinside, inner, hclosing⟩ := body.placed_of_linkFrom hdrop h
        ((howned.mono (by omega)).cons (by simp) (by simp))
      rw [push, linkFrom_closeLoop] at hclosing
      obtain ⟨hclose, hbehind⟩ := drop_succ_of_drop_eq_cons (Body.drop_length hdrop)
      obtain ⟨hmore, hafter, jumps, hrest⟩ := more.placed_of_linkFrom hbehind
        hclosing (howned.mono (by omega))
      -- The entries of the loop are written at its end, and nothing that links behind it owns them.
      have hfirst := row_linkFrom hclosing (show pc < _ by omega) (howned.not_owned (by omega))
      have hlast := row_linkFrom hclosing (Nat.lt_succ_self _) (howned.not_owned (by omega))
      simp only [Jumps.row, List.lookup_cons_self, Prod.mk.injEq] at hfirst hlast
      refine ⟨⟨by simpa [push] using hbody, hmore⟩,
        ⟨⟨hopen, hfirst.1⟩, hinside, ⟨hclose, hlast.2.1⟩, hafter⟩, jumps, ?_⟩
      rw [Body.length_loop, show pc + (body.length + more.length + 2) =
        pc + 1 + body.length + 1 + more.length by omega]
      exact hrest
  | .branch cond source body others more =>
      simp only [Body.instructions, List.cons_append, List.append_assoc] at hp h
      change linkFrom (s.push .branch pc [pc]) (pc + 1) _ = _ at h
      obtain ⟨hopen, hdrop⟩ := drop_succ_of_drop_eq_cons hp
      obtain ⟨hbody, hinside, inner, hothers⟩ := body.placed_of_linkFrom hdrop h
        ((howned.mono (by omega)).cons (by simp) (by simp))
      have hdrop' := Body.drop_length hdrop
      obtain ⟨hbranches, hbeside, hleads, behind, hmore⟩ := others.placed_of_linkFrom hdrop'
        howned (by simp; omega) (by simp) hothers
      obtain ⟨hmore, hafter, jumps, hrest⟩ := more.placed_of_linkFrom
        (Branches.drop_length hdrop') hmore (howned.mono (by omega))
      refine ⟨⟨by simpa [push] using hbody, hbranches, hmore⟩,
        ⟨⟨hopen, hleads.1 _ _ (by simp [branchJumps])⟩, hinside, hbeside, hafter⟩, jumps, ?_⟩
      rw [Body.length_branch, show pc + (body.length + others.length + more.length + 1) =
        pc + 1 + body.length + others.length + more.length by omega]
      exact hrest
  | .hasContent body more =>
      simp only [Body.instructions, List.cons_append, List.append_assoc] at hp h
      change linkFrom (s.push .hasContent pc []) (pc + 1) _ = _ at h
      obtain ⟨hopen, hdrop⟩ := drop_succ_of_drop_eq_cons hp
      obtain ⟨hbody, hinside, inner, hclosing⟩ := body.placed_of_linkFrom hdrop h
        ((howned.mono (by omega)).cons (by simp) (by simp))
      rw [push, linkFrom_closeHasContent] at hclosing
      obtain ⟨hclose, hbehind⟩ := drop_succ_of_drop_eq_cons (Body.drop_length hdrop)
      obtain ⟨hmore, hafter, jumps, hrest⟩ := more.placed_of_linkFrom hbehind
        hclosing (howned.mono (by omega))
      refine ⟨⟨by simpa [push] using hbody, hmore⟩, ⟨hopen, hinside, hclose, hafter⟩, jumps, ?_⟩
      rw [Body.length_hasContent, show pc + (body.length + more.length + 2) =
        pc + 1 + body.length + 1 + more.length by omega]
      exact hrest
  | .content body more =>
      simp only [Body.instructions, List.cons_append, List.append_assoc] at hp h
      obtain ⟨hallowed, h⟩ := of_linkFrom_openContent h
      obtain ⟨hopen, hdrop⟩ := drop_succ_of_drop_eq_cons hp
      obtain ⟨hbody, hinside, inner, hclosing⟩ := body.placed_of_linkFrom hdrop h
        ((howned.mono (by omega)).cons (by simp) (by simp))
      rw [push, linkFrom_closeContent] at hclosing
      obtain ⟨hclose, hbehind⟩ := drop_succ_of_drop_eq_cons (Body.drop_length hdrop)
      obtain ⟨hmore, hafter, jumps, hrest⟩ := more.placed_of_linkFrom hbehind
        hclosing (howned.mono (by omega))
      refine ⟨⟨hallowed, by simpa [push] using hbody, hmore⟩,
        ⟨hopen, hinside, hclose, hafter⟩, jumps, ?_⟩
      rw [Body.length_content, show pc + (body.length + more.length + 2) =
        pc + 1 + body.length + 1 + more.length by omega]
      exact hrest

theorem Branches.placed_of_linkFrom (bs : Branches) {p rest : Program} {f : LinkState}
    {j : Jumps} {pc start : Nat} {before : List Nat} {outer : List Block}
    (hp : p.drop pc = bs.instructions ++ rest) (howned : OwnedBelow outer start)
    (hbefore : ∀ key ∈ before, start ≤ key ∧ key < pc) (hne : before ≠ [])
    (h : linkFrom ⟨⟨⟨.branch, start⟩, before, false⟩ :: outer, j⟩ pc
      (bs.instructions ++ rest) = .ok f) :
    bs.Admitted (wrapped outer) ∧ bs.Placed p f.jumps pc ∧
      LeadsOn f.jumps pc (pc + bs.length - 1) before ∧
      ∃ jumps, linkFrom ⟨outer, jumps⟩ (pc + bs.length) rest = .ok f := by
  have hstart : start < pc := by
    obtain ⟨key, hkey⟩ := List.exists_mem_of_ne_nil before hne
    have := hbefore key hkey
    omega
  match bs with
  | .close =>
      simp only [Branches.instructions, List.cons_append, List.nil_append] at hp h
      obtain ⟨hclose, -⟩ := drop_succ_of_drop_eq_cons hp
      obtain ⟨hleads, jumps, hrest⟩ := leadsOn_of_linkFrom howned hbefore h
      exact ⟨trivial, hclose, hleads, jumps, hrest⟩
  | .otherwise body =>
      simp only [Branches.instructions, List.cons_append, List.append_assoc,
        List.nil_append] at hp h
      rw [linkFrom_otherwise] at h
      obtain ⟨hopen, hdrop⟩ := drop_succ_of_drop_eq_cons hp
      obtain ⟨hbody, hinside, inner, hclosing⟩ := body.placed_of_linkFrom hdrop h
        ((howned.mono (by omega)).cons (by simp; omega) (by simp; grind))
      obtain ⟨hclose, -⟩ := drop_succ_of_drop_eq_cons (Body.drop_length hdrop)
      obtain ⟨hleads, jumps, hrest⟩ := leadsOn_of_linkFrom howned (by simp; grind) hclosing
      obtain ⟨⟨-, hend⟩, hleads⟩ := hleads.tail hne (fun key hkey => (hbefore key hkey).2)
      have hlength : pc + (body.length + 2) = pc + 1 + body.length + 1 := by omega
      refine ⟨by simpa [Branches.Admitted] using hbody, ⟨⟨hopen, hend⟩, hinside, hclose⟩, ?_,
        jumps, ?_⟩
      · simpa [hlength] using hleads
      · simpa [hlength] using hrest
  | .elseIf cond source body others =>
      simp only [Branches.instructions, List.cons_append, List.append_assoc] at hp h
      rw [linkFrom_elseIf] at h
      obtain ⟨hopen, hdrop⟩ := drop_succ_of_drop_eq_cons hp
      obtain ⟨hbody, hinside, inner, hothers⟩ := body.placed_of_linkFrom hdrop h
        ((howned.mono (by omega)).cons (by simp; omega) (by simp; grind))
      obtain ⟨hbranches, hbeside, hleads, jumps, hrest⟩ := others.placed_of_linkFrom
        (Body.drop_length hdrop) howned (by simp; grind) (by simp) hothers
      obtain ⟨⟨hnext, hend⟩, hleads⟩ := hleads.tail hne (fun key hkey => (hbefore key hkey).2)
      have hlength : pc + (body.length + others.length + 1) =
        pc + 1 + body.length + others.length := by omega
      have hend' : pc + 1 + body.length + others.length - 1 =
        pc + body.length + others.length := by omega
      refine ⟨⟨by simpa using hbody, hbranches⟩,
        ⟨⟨hopen, hnext, hend' ▸ hend⟩, hinside, hbeside⟩, ?_, jumps, ?_⟩
      · simpa [hlength] using hleads
      · simpa [hlength] using hrest

end

end Stencil.Template
