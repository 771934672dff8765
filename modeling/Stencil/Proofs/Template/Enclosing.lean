import Stencil.Proofs.Template.Grammar
import Stencil.Template.Compile

/-!
# Enclosing blocks

The blocks around an instruction are found by a pass over the instructions before it. In a placed
tree each jump leads to a place with the same loops and wrappers around it as the place that it
leaves, or to the start of a branch inside them.
-/

namespace Stencil.Template

/-! ## Blocks around an instruction -/

def LoopHead.isEach : LoopHead → Bool
  | .range .. => false
  | .each .. => true

/-- The starts of the open blocks behind an instruction, the innermost first. -/
def enclose (around : List Instruction) (i : Instruction) : List Instruction :=
  match i with
  | .openLoop .. | .openIf .. | .openHasContent | .openContent => i :: around
  | .closeLoop | .closeIf | .closeHasContent | .closeContent => around.tail
  | _ => around

def enclosing (p : Program) (pc : Nat) : List Instruction := (p.take pc).foldl enclose []

theorem enclosing_succ {p : Program} {pc : Nat} {i : Instruction} (h : p[pc]? = some i) :
    enclosing p (pc + 1) = enclose (enclosing p pc) i := by
  rw [enclosing, List.take_add_one, h, List.foldl_append]
  rfl

def loopKeys (around : List Instruction) : List (Text × Bool) :=
  around.filterMap fun
    | .openLoop name head _ => some (name, head.isEach)
    | _ => none

def wrappers (around : List Instruction) : Nat := around.count .openHasContent

def SameContext (around around' : List Instruction) : Prop :=
  around.filter (!·.hasCondition) = around'.filter (!·.hasCondition)

theorem SameContext.refl (around : List Instruction) : SameContext around around := rfl

theorem loopKeys_filter (around : List Instruction) :
    loopKeys (around.filter (!·.hasCondition)) = loopKeys around := by
  rw [loopKeys, List.filterMap_filter, loopKeys]
  congr 1
  funext i
  cases i <;> rfl

theorem wrappers_filter (around : List Instruction) :
    wrappers (around.filter (!·.hasCondition)) = wrappers around :=
  List.count_filter rfl

section

variable {around around' : List Instruction}

theorem SameContext.symm (h : SameContext around around') : SameContext around' around :=
  Eq.symm h

theorem SameContext.loopKeys_eq (h : SameContext around around') :
    loopKeys around = loopKeys around' := by
  rw [← loopKeys_filter, h, loopKeys_filter]

theorem SameContext.wrappers_eq (h : SameContext around around') :
    wrappers around = wrappers around' := by
  rw [← wrappers_filter, h, wrappers_filter]

theorem SameContext.openIf (cond source : Text) :
    SameContext (.openIf cond source :: around) around :=
  rfl

@[simp] theorem wrappers_openLoop (name source : Text) (head : LoopHead) :
    wrappers (.openLoop name head source :: around) = wrappers around := rfl

@[simp] theorem wrappers_openContent : wrappers (.openContent :: around) = wrappers around := rfl

@[simp] theorem wrappers_openHasContent :
    wrappers (.openHasContent :: around) = wrappers around + 1 :=
  List.count_cons_self

@[simp] theorem loopKeys_openLoop (name source : Text) (head : LoopHead) :
    loopKeys (.openLoop name head source :: around) = (name, head.isEach) :: loopKeys around := rfl

end

/-! ## Coherent jumps -/

/-- Each branch that can be entered from a branch on has a context around its body, and with so much
fuel the search for it ends. -/
inductive Enters (p : Compiled) (around : List Instruction) : (fuel pc : Nat) → Prop
  | unconditional {fuel pc : Nat} {i : Instruction} (hi : p.program[pc]? = some i)
      (hcond : ¬ i.hasCondition) (hcontext : SameContext (enclosing p.program (pc + 1)) around) :
      Enters p around (fuel + 1) pc
  | conditional {fuel pc next : Nat} {i : Instruction} (hi : p.program[pc]? = some i)
      (hcond : i.hasCondition) (hcontext : SameContext (enclosing p.program (pc + 1)) around)
      (hnext : p.jumps.nextBranch.lookup pc = some next) (hmore : Enters p around fuel next) :
      Enters p around (fuel + 1) pc

/-- What an instruction needs of its jumps and of the blocks around it. -/
def Coherent (p : Compiled) (pc : Nat) (i : Instruction) : Prop :=
  match i with
  | .openLoop .. => ∃ last, p.jumps.loopClose.lookup pc = some last ∧ last < p.program.length ∧
      enclosing p.program (last + 1) = enclosing p.program pc
  | .closeLoop => ∃ start name head source outer,
      p.jumps.loopOpen.lookup pc = some start ∧ start < p.program.length ∧
      p.program[start]? = some (.openLoop name head source) ∧
      enclosing p.program (start + 1) = .openLoop name head source :: outer ∧
      enclosing p.program pc = .openLoop name head source :: outer
  | .openIf .. => Enters p (enclosing p.program pc) p.program.length pc
  | .elseIf .. | .otherwise => ∃ last, p.jumps.branchEnd.lookup pc = some last ∧
      last < p.program.length ∧
      SameContext (enclosing p.program (last + 1)) (enclosing p.program pc)
  | .closeIf => SameContext (enclosing p.program (pc + 1)) (enclosing p.program pc)
  | .openContent => 0 < wrappers (enclosing p.program pc)
  | .closeContent => 0 < wrappers (enclosing p.program pc) ∧
      ∃ outer, enclosing p.program pc = .openContent :: outer
  | .closeHasContent => ∃ outer, enclosing p.program pc = .openHasContent :: outer
  | .literal _ | .output .. | .assign .. | .capture .. | .openHasContent => True

def CoherentIn (p : Compiled) (first last : Nat) : Prop :=
  ∀ pc i, first ≤ pc → pc < last → p.program[pc]? = some i → Coherent p pc i

theorem CoherentIn.append {p : Compiled} {first middle last : Nat}
    (h : CoherentIn p first middle) (h' : CoherentIn p middle last) : CoherentIn p first last := by
  intro pc i hfirst hlast hi
  by_cases hmiddle : pc < middle
  · exact h pc i hfirst hmiddle hi
  · exact h' pc i (Nat.le_of_not_lt hmiddle) hlast hi

theorem Coherent.single {p : Compiled} {pc : Nat} {i : Instruction}
    (hi : p.program[pc]? = some i) (h : Coherent p pc i) : CoherentIn p pc (pc + 1) := by
  intro pc' i' hfirst hlast hi'
  obtain rfl : pc' = pc := by omega
  rw [hi] at hi'
  cases hi'
  exact h

/-! ## Placed trees are coherent -/

variable {p : Compiled}

theorem Enters.mono {around : List Instruction} {fuel fuel' pc : Nat}
    (h : Enters p around fuel pc) (hle : fuel ≤ fuel') : Enters p around fuel' pc := by
  induction h generalizing fuel' with
  | unconditional hi hcond hcontext =>
      obtain ⟨k, rfl⟩ := Nat.exists_eq_add_of_lt hle
      exact .unconditional hi hcond hcontext
  | conditional hi hcond hcontext hnext _ ih =>
      obtain ⟨k, rfl⟩ := Nat.exists_eq_add_of_lt hle
      exact .conditional hi hcond hcontext hnext (ih (by omega))

mutual

theorem Body.coherentIn (b : Body) {pc : Nat} {wrapped inContent : Bool}
    (hplaced : b.Placed p.program p.jumps pc) (hadmitted : b.Admitted wrapped inContent)
    (hwrapped : wrapped = true → 0 < wrappers (enclosing p.program pc)) :
    enclosing p.program (pc + b.length) = enclosing p.program pc ∧
      CoherentIn p pc (pc + b.length) := by
  match b with
  | .empty => exact ⟨rfl, fun _ _ hfirst hlast => by simp at hlast; omega⟩
  | .leaf first rest =>
      have haround : enclosing p.program (pc + 1) = enclosing p.program pc := by
        rw [enclosing_succ hplaced.1]
        cases first <;> rfl
      have hcoherent : Coherent p pc first.instruction := by cases first <;> trivial
      obtain ⟨hsame, hrest⟩ := rest.coherentIn hplaced.2 hadmitted (by rwa [haround])
      rw [Body.length_leaf, show pc + (rest.length + 1) = pc + 1 + rest.length by omega]
      exact ⟨hsame.trans haround, (hcoherent.single hplaced.1).append hrest⟩
  | .loop name head source body rest =>
      obtain ⟨⟨hopen, hlast⟩, hinside, ⟨hclose, hfirst⟩, hbehind⟩ := hplaced
      have haround := enclosing_succ hopen
      obtain ⟨hsame, hbody⟩ := body.coherentIn hinside hadmitted.1 (by rw [haround]; exact hwrapped)
      have hend : enclosing p.program (pc + 1 + body.length + 1) = enclosing p.program pc := by
        rw [enclosing_succ hclose, hsame, haround]
        rfl
      obtain ⟨hsame', hrest⟩ := rest.coherentIn hbehind hadmitted.2 (by rwa [hend])
      have hopening : Coherent p pc (.openLoop name head source) :=
        ⟨_, hlast, (List.getElem?_eq_some_iff.mp hclose).1, hend⟩
      have hclosing : Coherent p (pc + 1 + body.length) .closeLoop :=
        ⟨pc, name, head, source, _, hfirst, (List.getElem?_eq_some_iff.mp hopen).1, hopen, haround,
          hsame.trans haround⟩
      rw [Body.length_loop, show pc + (body.length + rest.length + 2) =
        pc + 1 + body.length + 1 + rest.length by omega]
      exact ⟨hsame'.trans hend, (((hopening.single hopen).append hbody).append
        (hclosing.single hclose)).append hrest⟩
  | .branch cond source body others rest =>
      obtain ⟨⟨hopen, hnext⟩, hinside, hothers, hbehind⟩ := hplaced
      have hbound := hothers.length_le
      have haround := enclosing_succ hopen
      obtain ⟨hsame, hbody⟩ := body.coherentIn hinside hadmitted.1 (by rw [haround]; exact hwrapped)
      obtain ⟨hend, hbranches, henters⟩ := others.coherentIn hothers hadmitted.2.1 hwrapped
        (hsame.trans haround)
      obtain ⟨hsame', hrest⟩ := rest.coherentIn hbehind hadmitted.2.2 (by rwa [hend])
      have hentering : Enters p (enclosing p.program pc) (others.length + 1) pc :=
        .conditional hopen rfl (haround ▸ .openIf cond source) hnext henters
      have hopening : Coherent p pc (.openIf cond source) := hentering.mono (by omega)
      rw [Body.length_branch, show pc + (body.length + others.length + rest.length + 1) =
        pc + 1 + body.length + others.length + rest.length by omega]
      exact ⟨hsame'.trans hend, (((hopening.single hopen).append hbody).append hbranches).append
        hrest⟩
  | .hasContent body rest =>
      obtain ⟨hopen, hinside, hclose, hbehind⟩ := hplaced
      have haround := enclosing_succ hopen
      obtain ⟨hsame, hbody⟩ := body.coherentIn hinside hadmitted.1
        (fun _ => by rw [haround]; exact List.count_pos_iff.mpr (List.mem_cons_self ..))
      have hend : enclosing p.program (pc + 1 + body.length + 1) = enclosing p.program pc := by
        rw [enclosing_succ hclose, hsame, haround]
        rfl
      obtain ⟨hsame', hrest⟩ := rest.coherentIn hbehind hadmitted.2 (by rwa [hend])
      have hopening : Coherent p pc .openHasContent := trivial
      have hclosing : Coherent p (pc + 1 + body.length) .closeHasContent :=
        ⟨_, hsame.trans haround⟩
      rw [Body.length_hasContent, show pc + (body.length + rest.length + 2) =
        pc + 1 + body.length + 1 + rest.length by omega]
      exact ⟨hsame'.trans hend, (((hopening.single hopen).append hbody).append
        (hclosing.single hclose)).append hrest⟩
  | .content body rest =>
      obtain ⟨hopen, hinside, hclose, hbehind⟩ := hplaced
      obtain ⟨⟨rfl, -⟩, hallowed, hadmitted⟩ := hadmitted
      have hpos := hwrapped rfl
      have haround := enclosing_succ hopen
      obtain ⟨hsame, hbody⟩ := body.coherentIn hinside hallowed fun _ => by
        rw [haround]
        exact hpos
      have hend : enclosing p.program (pc + 1 + body.length + 1) = enclosing p.program pc := by
        rw [enclosing_succ hclose, hsame, haround]
        rfl
      obtain ⟨hsame', hrest⟩ := rest.coherentIn hbehind hadmitted (by rwa [hend])
      have hopening : Coherent p pc .openContent := hpos
      have hclosing : Coherent p (pc + 1 + body.length) .closeContent := by
        refine ⟨?_, _, hsame.trans haround⟩
        rw [hsame, haround]
        exact hpos
      rw [Body.length_content, show pc + (body.length + rest.length + 2) =
        pc + 1 + body.length + 1 + rest.length by omega]
      exact ⟨hsame'.trans hend, (((hopening.single hopen).append hbody).append
        (hclosing.single hclose)).append hrest⟩

theorem Branches.coherentIn (bs : Branches) {pc : Nat} {wrapped : Bool} {cond source : Text}
    {around : List Instruction} (hplaced : bs.Placed p.program p.jumps pc)
    (hadmitted : bs.Admitted wrapped) (hwrapped : wrapped = true → 0 < wrappers around)
    (haround : enclosing p.program pc = .openIf cond source :: around) :
    enclosing p.program (pc + bs.length) = around ∧ CoherentIn p pc (pc + bs.length) ∧
      Enters p around bs.length pc := by
  match bs with
  | .close =>
      have hi : p.program[pc]? = some .closeIf := hplaced
      have hend : enclosing p.program (pc + 1) = around := by
        rw [enclosing_succ hi, haround]
        rfl
      have hclosing : Coherent p pc .closeIf := by
        change SameContext _ _
        rw [hend, haround]
        exact (SameContext.openIf cond source).symm
      exact ⟨hend, hclosing.single hi,
        .unconditional hi (by simp [Instruction.hasCondition]) (hend ▸ .refl _)⟩
  | .otherwise body =>
      obtain ⟨⟨hopen, hlast⟩, hinside, hclose⟩ := hplaced
      have hsucc : enclosing p.program (pc + 1) = .openIf cond source :: around := by
        rw [enclosing_succ hopen, haround]
        rfl
      obtain ⟨hsame, hbody⟩ := body.coherentIn hinside hadmitted (by rw [hsucc]; exact hwrapped)
      have hend : enclosing p.program (pc + 1 + body.length + 1) = around := by
        rw [enclosing_succ hclose, hsame, hsucc]
        rfl
      have hleaving : Coherent p pc .otherwise := by
        refine ⟨_, hlast, (List.getElem?_eq_some_iff.mp hclose).1, ?_⟩
        rw [hend, haround]
        exact (SameContext.openIf cond source).symm
      have hclosing : Coherent p (pc + 1 + body.length) .closeIf := by
        change SameContext _ _
        rw [hend, hsame, hsucc]
        exact (SameContext.openIf cond source).symm
      rw [Branches.length_otherwise,
        show pc + (body.length + 2) = pc + 1 + body.length + 1 by omega]
      exact ⟨hend, ((hleaving.single hopen).append hbody).append (hclosing.single hclose),
        .unconditional hopen (by simp [Instruction.hasCondition]) (hsucc ▸ .openIf cond source)⟩
  | .elseIf cond' source' body others =>
      obtain ⟨⟨hopen, hnext, hlast⟩, hinside, hothers⟩ := hplaced
      have hbound := hothers.length_le
      have hpos := others.length_pos
      have hsucc : enclosing p.program (pc + 1) = .openIf cond source :: around := by
        rw [enclosing_succ hopen, haround]
        rfl
      obtain ⟨hsame, hbody⟩ := body.coherentIn hinside hadmitted.1 (by rw [hsucc]; exact hwrapped)
      obtain ⟨hend, hbranches, henters⟩ := others.coherentIn hothers hadmitted.2 hwrapped
        (hsame.trans hsucc)
      have hlength :
          pc + body.length + others.length + 1 = pc + 1 + body.length + others.length := by
        omega
      have hleaving : Coherent p pc (.elseIf cond' source') := by
        refine ⟨_, hlast, by omega, ?_⟩
        rw [hlength, hend, haround]
        exact (SameContext.openIf cond source).symm
      have hentering : Enters p around (others.length + 1) pc :=
        .conditional hopen rfl (hsucc ▸ .openIf cond source) hnext henters
      rw [Branches.length_elseIf, show pc + (body.length + others.length + 1) =
        pc + 1 + body.length + others.length by omega]
      exact ⟨hend, ((hleaving.single hopen).append hbody).append hbranches,
        hentering.mono (by omega)⟩

end

/-! ## Linked programs -/

theorem coherent_of_link (hlink : link p.program = .ok p.jumps) :
    enclosing p.program p.program.length = [] ∧
      ∀ {pc i}, p.program[pc]? = some i → Coherent p pc i := by
  obtain ⟨b, hb⟩ := exists_body_of_link hlink
  obtain ⟨hadmitted, hplaced⟩ := placed_of_link hlink hb
  obtain ⟨hend, hcoherent⟩ := b.coherentIn hplaced hadmitted nofun
  have hlength : 0 + b.length = p.program.length := by rw [Nat.zero_add, Body.length, hb]
  rw [hlength] at hend hcoherent
  exact ⟨hend, fun {pc i} hi =>
    hcoherent pc i (Nat.zero_le pc) (List.getElem?_eq_some_iff.mp hi).1 hi⟩

end Stencil.Template
