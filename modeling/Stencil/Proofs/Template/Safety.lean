import Stencil.Proofs.Fallible
import Stencil.Proofs.Template.Control

/-!
# Nothing is missing

What a step of a compiled program looks up is there: the code of its instruction, the places that
it jumps to, and the loop or the wrapper that it belongs to. The stacks of a run that is over are
empty.
-/

namespace Stencil.Template

open LinkState

/-! ## Codes -/

def HasValueCode (codes : List (Nat × InstructionCode)) (pc : Nat) : Prop :=
  ∃ code, codes.lookup pc = some (.value code)

def HasRangeCode (codes : List (Nat × InstructionCode)) (pc : Nat) : Prop :=
  ∃ init cond step, codes.lookup pc = some (.range init cond step)

def Coded (codes : List (Nat × InstructionCode)) (pc : Nat) : Instruction → Prop
  | .openLoop _ (.range ..) _ => HasRangeCode codes pc
  | .openLoop _ (.each ..) _ | .output .. | .assign .. | .capture .. | .openIf .. | .elseIf .. =>
    HasValueCode codes pc
  | _ => True

theorem Coded.congr {codes codes' : List (Nat × InstructionCode)} {pc : Nat} {i : Instruction}
    (h : Coded codes pc i) (hlookup : codes'.lookup pc = codes.lookup pc) : Coded codes' pc i := by
  unfold Coded HasValueCode HasRangeCode at h ⊢
  rwa [hlookup]

theorem coded_of_compile {number number' pc : Nat} {i : Instruction}
    {code : Option InstructionCode} (codes : List (Nat × InstructionCode))
    (h : i.compile number = .ok (code, number')) :
    Coded ((code.map (pc, ·)).toList ++ codes) pc i := by
  have hvalue {directive source : Text} {number : Nat} {code : Option InstructionCode}
      (h : (do return (some (.value (← compileValue directive number source)), number + 1) :
        Except BadExpression (Option InstructionCode × Nat)) = .ok (code, number')) :
      HasValueCode ((code.map (pc, ·)).toList ++ codes) pc := by
    obtain ⟨value, -, hcode⟩ := bind_eq_ok_iff.mp h
    cases hcode
    exact ⟨value, List.lookup_cons_self⟩
  cases i with
  | output expr escape source => exact hvalue h
  | assign name expr source => exact hvalue h
  | capture expr source => exact hvalue h
  | openIf cond source => exact hvalue h
  | elseIf cond source => exact hvalue h
  | openLoop name head source =>
      cases head with
      | each mode iterable => exact hvalue h
      | range init cond step =>
          obtain ⟨init, -, h⟩ := bind_eq_ok_iff.mp h
          obtain ⟨cond, -, h⟩ := bind_eq_ok_iff.mp h
          obtain ⟨step, -, hcode⟩ := bind_eq_ok_iff.mp h
          cases hcode
          exact ⟨init, cond, step, List.lookup_cons_self⟩
  | _ => trivial

theorem lookup_append_of_ne {pc key : Nat} (hkey : key ≠ pc) (code : Option InstructionCode)
    (codes : List (Nat × InstructionCode)) :
    ((code.map (pc, ·)).toList ++ codes).lookup key = codes.lookup key := by
  cases code with
  | none => rfl
  | some code => simp [List.lookup_cons, beq_eq_false_iff_ne.mpr hkey]

theorem coded_of_compileFrom {p : Program} {number number' first : Nat}
    {codes : List (Nat × InstructionCode)} (h : compileFrom number first p = .ok (codes, number'))
    {k : Nat} {i : Instruction} (hi : p[k]? = some i) : Coded codes (first + k) i := by
  induction p generalizing number first codes k with
  | nil => simp at hi
  | cons head more ih =>
      obtain ⟨⟨code, number₁⟩, hhead, h⟩ := bind_eq_ok_iff.mp h
      obtain ⟨⟨rest, number₂⟩, hmore, hcodes⟩ := bind_eq_ok_iff.mp h
      cases hcodes
      cases k with
      | zero =>
          cases hi
          exact coded_of_compile rest hhead
      | succ k =>
          rw [show first + (k + 1) = first + 1 + k by omega]
          exact (ih hmore hi).congr (lookup_append_of_ne (by omega) code rest)

theorem compile_eq_ok {template : Text} {number number' : Nat} {program : Program} {p : Compiled}
    (h : compile template number program = .ok (p, number')) :
    p.program = program ∧ link p.program = .ok p.jumps ∧
      compileFrom number 0 p.program = .ok (p.codes, number') := by
  simp only [compile] at h
  split at h
  · cases h
  · split at h
    · cases h
    · cases h
      exact ⟨rfl, ‹_›, ‹_›⟩

theorem template_of_compile {template : Text} {number number' : Nat} {program : Program}
    {p : Compiled} (h : compile template number program = .ok (p, number')) :
    p.template = template := by
  unfold compile at h
  split at h
  · cases h
  · split at h
    · cases h
    · cases h
      rfl

theorem compile_eq_error {template : Text} {number : Nat} {program : Program} {e : Failure}
    (h : compile template number program = .error e) :
    ∃ directive cause, e = .generation template directive cause := by
  unfold compile at h
  split at h
  · cases h
    exact ⟨_, _, rfl⟩
  · split at h
    · cases h
      exact ⟨_, _, rfl⟩
    · cases h

/-! ## Tables -/

def Jumps.entries (j : Jumps) : List (Nat × Nat) :=
  j.loopClose ++ j.loopOpen ++ j.nextBranch ++ j.branchEnd

theorem mem_branchJumps {target : Nat} {branches : List Nat} {entry : Nat × Nat}
    (h : entry ∈ branchJumps target branches) :
    entry.2 = target ∨ entry.2 ∈ branches := by
  induction branches generalizing target with
  | nil => cases h
  | cons pc more ih =>
      rcases List.mem_cons.mp h with rfl | hmore
      · exact .inl rfl
      · rcases ih hmore with htarget | hmem
        · exact .inr (htarget ▸ List.mem_cons_self ..)
        · exact .inr (List.mem_cons_of_mem _ hmem)

theorem entries_step {st st' : LinkState} {pc : Nat} {i : Instruction} (h : st.step pc i = .ok st')
    (howned : OwnedBelow st.stack pc) (hentries : ∀ entry ∈ st.jumps.entries, entry.2 < pc) :
    OwnedBelow st'.stack (pc + 1) ∧ ∀ entry ∈ st'.jumps.entries, entry.2 < pc + 1 := by
  have hkept : ∀ entry ∈ st.jumps.entries, entry.2 < pc + 1 := fun entry hentry =>
    Nat.lt_succ_of_lt (hentries entry hentry)
  have hstack := howned.mono (Nat.le_succ pc)
  cases i with
  | literal | output | assign | capture =>
      cases h
      exact ⟨hstack, hkept⟩
  | openLoop | openHasContent | openIf =>
      cases h
      exact ⟨hstack.cons (by simp) (by simp), hkept⟩
  | openContent =>
      simp only [LinkState.step] at h
      split at h
      · cases h
        exact ⟨hstack.cons (by simp) (by simp), hkept⟩
      · cases h
  | closeLoop =>
      obtain ⟨block, outer, ⟨hs, -⟩, rfl⟩ := closeLoop_eq_ok_iff.mp h
      rw [hs] at howned hstack
      have hstart : block.pc < pc := howned block.pc (by simp)
      refine ⟨hstack.tail, fun entry hentry => ?_⟩
      simp only [Jumps.entries, List.mem_append, List.mem_cons] at hentry hkept
      grind
  | elseIf | otherwise =>
      obtain ⟨block, outer, ⟨hs, -⟩, -, rfl⟩ := branch_eq_ok_iff.mp h
      rw [hs] at hstack
      have hblock : block.pc < pc + 1 := hstack block.pc (by simp)
      have hbranches (key : Nat) (hkey : key ∈ block.branches) : key < pc + 1 :=
        hstack key (by simp [hkey])
      refine ⟨hstack.tail.cons hblock fun key hkey => ?_, hkept⟩
      rcases List.mem_cons.mp hkey with rfl | hmem
      · exact Nat.lt_succ_self _
      · exact hbranches key hmem
  | closeIf =>
      obtain ⟨block, outer, ⟨hs, -⟩, rfl⟩ := closeBranch_eq_ok_iff.mp h
      rw [hs] at howned hstack
      have hbranches (key : Nat) (hkey : key ∈ block.branches) : key < pc :=
        howned key (by simp [hkey])
      refine ⟨hstack.tail, fun entry hentry => ?_⟩
      simp only [Jumps.entries, List.mem_append, List.mem_map] at hentry hkept
      have := @mem_branchJumps pc block.branches entry
      grind
  | closeContent | closeHasContent =>
      obtain ⟨block, outer, ⟨hs, -⟩, rfl⟩ := close_eq_ok_iff.mp h
      rw [hs] at hstack
      exact ⟨hstack.tail, hkept⟩

theorem entries_linkFrom {p : Program} {st final : LinkState} {pc : Nat}
    (h : linkFrom st pc p = .ok final) (howned : OwnedBelow st.stack pc)
    (hentries : ∀ entry ∈ st.jumps.entries, entry.2 < pc) :
    ∀ entry ∈ final.jumps.entries, entry.2 < pc + p.length := by
  induction p generalizing st pc with
  | nil =>
      cases h
      exact hentries
  | cons i more ih =>
      obtain ⟨st', hstep, hmore⟩ := linkFrom_cons_eq_ok_iff.mp h
      obtain ⟨howned', hentries'⟩ := entries_step hstep howned hentries
      intro entry hentry
      have := ih hmore howned' hentries' entry hentry
      rw [List.length_cons]
      omega

theorem entries_of_link {p : Program} {j : Jumps} (h : link p = .ok j) :
    ∀ entry ∈ j.entries, entry.2 < p.length := by
  have := entries_linkFrom (link_eq_ok_iff.mp h) (fun key hkey => absurd hkey (not_owned_nil key))
    nofun
  simpa using this

/-! ## What a step looks up -/

/-- The search for a branch finds the codes of all conditions, each next branch, and an end. -/
def BranchesSupplied (p : Compiled) : (fuel pc : Nat) → Prop
  | 0, _ => False
  | fuel + 1, pc =>
    match p.program[pc]? with
    | some (.openIf ..) | some (.elseIf ..) => HasValueCode p.codes pc ∧
        ∃ next, p.jumps.nextBranch.lookup pc = some next ∧ BranchesSupplied p fuel next
    | some _ => True
    | none => False

/-- All that the step from a configuration looks up is there: in the tables of jumps, among the
codes and on the stacks. -/
def Supplied (p : Compiled) (c : Config) : Prop :=
  match p.program[c.pc]? with
  | some (.output ..) | some (.assign ..) | some (.capture ..) => HasValueCode p.codes c.pc
  | some (.openLoop _ (.each ..) _) =>
    HasValueCode p.codes c.pc ∧ ∃ last, p.jumps.loopClose.lookup c.pc = some last
  | some (.openLoop _ (.range ..) _) =>
    HasRangeCode p.codes c.pc ∧ ∃ last, p.jumps.loopClose.lookup c.pc = some last
  | some .closeLoop => ∃ frame outer start, c.loops = frame :: outer ∧
      p.jumps.loopOpen.lookup c.pc = some start ∧
      (frame.iterator = none → HasRangeCode p.codes start)
  | some (.openIf ..) => BranchesSupplied p p.program.length c.pc
  | some (.elseIf ..) | some .otherwise => ∃ last, p.jumps.branchEnd.lookup c.pc = some last
  | some .openContent | some .closeContent | some .closeHasContent => c.blocks ≠ []
  | some (.literal _) | some .closeIf | some .openHasContent => True
  | none => False

variable {p : Compiled}

theorem branchesSupplied_of_enters {around : List Instruction} {fuel pc : Nat}
    (hcoded : ∀ {pc i}, p.program[pc]? = some i → Coded p.codes pc i)
    (h : Enters p around fuel pc) : BranchesSupplied p fuel pc := by
  induction h with
  | @unconditional fuel pc i hi hcond =>
      cases i <;> simp_all [BranchesSupplied, Instruction.hasCondition]
  | @conditional fuel pc next i hi hcond _ hnext _ ih =>
      have := hcoded hi
      cases i <;> simp_all [BranchesSupplied, Instruction.hasCondition, Coded]

theorem Config.Agrees.supplied {c : Config} {i : Instruction} (hc : c.Agrees p)
    (hcoded : ∀ {pc i}, p.program[pc]? = some i → Coded p.codes pc i)
    (hi : p.program[c.pc]? = some i) (hcoherent : Coherent p c.pc i) : Supplied p c := by
  have hcode := hcoded hi
  have hblocks (hpos : 0 < wrappers (enclosing p.program c.pc)) : c.blocks ≠ [] := by
    refine List.ne_nil_of_length_pos ?_
    rw [hc.blocks]
    exact hpos
  unfold Supplied
  rw [hi]
  cases i with
  | literal | closeIf | openHasContent => trivial
  | output | assign | capture => exact hcode
  | openLoop name head source =>
      obtain ⟨last, hlast, -⟩ := hcoherent
      cases head with
      | range => exact ⟨hcode, last, hlast⟩
      | each => exact ⟨hcode, last, hlast⟩
  | closeLoop =>
      obtain ⟨start, name, head, source, outer, hstart, -, hopen, -, haround⟩ := hcoherent
      have hkeys := hc.loops
      rw [haround, loopKeys_openLoop] at hkeys
      obtain ⟨frame, loops, hloops, hkey, -⟩ := List.map_eq_cons_iff.mp hkeys
      refine ⟨frame, loops, start, hloops, hstart, fun hnone => ?_⟩
      cases head with
      | range init cond step => exact hcoded hopen
      | each mode iterable => simp [LoopFrame.key, LoopHead.isEach, hnone] at hkey
  | openIf => exact branchesSupplied_of_enters hcoded hcoherent
  | elseIf | otherwise =>
      obtain ⟨last, hlast, -⟩ := hcoherent
      exact ⟨last, hlast⟩
  | openContent => exact hblocks hcoherent
  | closeContent => exact hblocks hcoherent.1
  | closeHasContent =>
      obtain ⟨outer, haround⟩ := hcoherent
      exact hblocks (by simp [haround])

def loopNames (around : List Instruction) : List Text :=
  (around.filterMap fun
    | .openLoop name _ _ => some name
    | _ => none).reverse

theorem loopNames_eq (around : List Instruction) :
    loopNames around = ((loopKeys around).map (·.1)).reverse := by
  rw [loopNames, loopKeys, List.map_filterMap]
  congr 2
  funext i
  cases i <;> rfl

/-- Of a compiled program all jumps lead into it. However expressions and requests are answered, a
configuration that its run reaches has a frame for each loop and each wrapper around its instruction
and no others, its step finds all that it looks up, and at the end its stacks are empty. -/
theorem reachable_safe {template : Text} {number number' : Nat} {program : Program}
    (hcompile : compile template number program = .ok (p, number')) :
    (∀ entry ∈ p.jumps.entries, entry.2 < p.program.length) ∧
      ∀ (W : Answers) (ev : Evaluator) (s : Setting) (start : Memory) (c : Config) (m : Memory),
        Reachable W ev s p start c m →
          c.pc ≤ p.program.length ∧
          (c.loops.map (·.name)).reverse = loopNames (enclosing p.program c.pc) ∧
          c.blocks.length = (enclosing p.program c.pc).count .openHasContent ∧
          (c.pc < p.program.length → Supplied p c) ∧
          (c.pc = p.program.length → c.loops = [] ∧ c.blocks = []) := by
  obtain ⟨-, hlink, hcodes⟩ := compile_eq_ok hcompile
  obtain ⟨hend, hcoherent⟩ := coherent_of_link hlink
  refine ⟨entries_of_link hlink, fun W ev s start c m hreach => ?_⟩
  have hc := hreach.agrees hlink
  refine ⟨hc.pc_le, ?_, hc.blocks, fun hlt => ?_, fun heq => ?_⟩
  · rw [loopNames_eq, ← hc.loops, List.map_map]
    rfl
  · have hi := List.getElem?_eq_getElem hlt
    refine hc.supplied (fun hi => ?_) hi (hcoherent hi)
    simpa using coded_of_compileFrom hcodes hi
  · exact hc.stacks_nil (heq ▸ hend)

def countedContent : Program := [
  .openHasContent,
  .openLoop "i".toList (.range "0".toList "i<3".toList "i=i+1".toList) [],
  .openIf "i".toList [], .openContent, .output "i".toList false [], .closeContent, .otherwise,
  .assign "zero".toList "i".toList [], .closeIf, .closeLoop, .closeHasContent]

theorem reachable_safe_countedContent :
    ∃ p number, compile "count".toList 0 countedContent = .ok (p, number) ∧
      (∀ entry ∈ p.jumps.entries, entry.2 < p.program.length) ∧ Supplied p .initial := by
  have hsome : (compile "count".toList 0 countedContent).toOption.isSome := by decide +kernel
  cases hcompile : compile "count".toList 0 countedContent with
  | error e =>
      rw [hcompile] at hsome
      cases hsome
  | ok compiled =>
      obtain ⟨p, number⟩ := compiled
      obtain ⟨hentries, hreachable⟩ := reachable_safe hcompile
      have hlength : 0 < p.program.length := by
        rw [(compile_eq_ok hcompile).1]
        decide
      obtain ⟨-, -, -, hsupplied, -⟩ := hreachable (fun _ _ _ _ => True) (.standard 9) ⟨.none, 0⟩
        default .initial default .initial
      exact ⟨p, number, rfl, hentries, hsupplied hlength⟩

end Stencil.Template
