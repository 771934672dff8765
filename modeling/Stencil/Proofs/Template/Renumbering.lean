import Stencil.Proofs.Template.Generating
import Stencil.Proofs.Template.Mirroring
import Stencil.Proofs.Template.Safety

/-!
# Numbers of expressions as a matter of choice

What a program compiles to does not depend on the number that its first expression gets, but for the
numbers themselves. So a program that leaves out the name of the host runs alike whenever it was
compiled.
-/

namespace Stencil.Template

variable {μ : Matching}

/-! ## Templates that leave out the host -/

def omitsHost (source : Text) : Bool := (Expr.ofText? source).all (·.omits hostName)

def stepOmitsHost (source : Text) : Bool :=
  (Statement.ofText? source).all fun statements => statements.all (·.omits hostName)

/-- Whether an instruction captures nothing and mentions the host nowhere. -/
def Instruction.isPlain : Instruction → Bool
  | .capture .. => false
  | .output expr .. | .assign _ expr _ | .openIf expr _ | .elseIf expr _ => omitsHost expr
  | .openLoop name (.each _ iterable) _ => name ≠ hostName && omitsHost iterable
  | .openLoop name (.range init cond step) _ =>
    name ≠ hostName && omitsHost init && omitsHost cond && stepOmitsHost step
  | _ => true

def Segment.isPlain : Segment → Bool
  | .chunk .. => true
  | .span s => (s.classify.instruction? s.source).toList.all Instruction.isPlain

/-! ## Other numbers -/

def Code.shift (k : Nat) (c : Code) : Code := { c with number := k + c.number }

def StepCode.shift (k : Nat) (c : StepCode) : StepCode := { c with number := k + c.number }

def InstructionCode.shift (k : Nat) : InstructionCode → InstructionCode
  | .value c => .value (c.shift k)
  | .range init cond step => .range (init.shift k) (cond.shift k) (step.shift k)

/-- The same program with other numbers of its expressions. -/
def Compiled.shift (k : Nat) (p : Compiled) : Compiled :=
  { p with codes := p.codes.map fun (pc, code) => (pc, code.shift k) }

def InstructionCode.numbers : InstructionCode → List Nat
  | .value c => [c.number]
  | .range init cond step => [init.number, cond.number, step.number]

def Compiled.numbers (p : Compiled) : List Nat := p.codes.flatMap fun (_, code) => code.numbers

variable {template : Text} {number next pc k l : Nat}

theorem numbers_shift (k : Nat) (p : Compiled) :
    (p.shift k).numbers = p.numbers.map (k + ·) := by
  have hcode (code : InstructionCode) : (code.shift k).numbers = code.numbers.map (k + ·) := by
    cases code <;> rfl
  simp only [Compiled.numbers, Compiled.shift, List.flatMap_map, hcode, List.map_flatMap]

theorem compileValue_add (directive source : Text) (k number : Nat) :
    compileValue directive (k + number) source =
      (compileValue directive number source).map (·.shift k) := by
  unfold compileValue
  cases Expr.ofText? source <;> rfl

theorem compileStep_add (directive source : Text) (k number : Nat) :
    compileStep directive (k + number) source =
      (compileStep directive number source).map (·.shift k) := by
  unfold compileStep
  cases Statement.ofText? source <;> rfl

theorem Instruction.compile_add (k number : Nat) (i : Instruction) :
    i.compile (k + number) =
      (i.compile number).map fun (code, next) => (code.map (·.shift k), k + next) := by
  have hone (source : Text) :
      (do return (some (.value (← compileValue i.source (k + number) source)), k + number + 1) :
        Except BadExpression (Option InstructionCode × Nat)) =
      (do return (some (.value (← compileValue i.source number source)), number + 1) :
        Except BadExpression (Option InstructionCode × Nat)).map
          fun (code, next) => (code.map (·.shift k), k + next) := by
    rw [compileValue_add]
    cases compileValue i.source number source <;> rfl
  cases i with
  | output | assign | capture | openIf | elseIf => exact hone _
  | openLoop name head source =>
    cases head with
    | each mode iterable => exact hone _
    | range init cond step =>
      simp only [compile, Instruction.source, Nat.add_assoc,
        compileValue_add source init k number, compileValue_add source cond k (number + 1),
        compileStep_add source step k (number + 2)]
      cases compileValue source number init with
      | error e => rfl
      | ok init' =>
        cases compileValue source (number + 1) cond with
        | error e => rfl
        | ok cond' => cases compileStep source (number + 2) step <;> rfl
  | _ => rfl

theorem compileFrom_add (k number pc : Nat) (p : Program) :
    compileFrom (k + number) pc p = (compileFrom number pc p).map fun (codes, next) =>
      (codes.map fun (pc, code) => (pc, code.shift k), k + next) := by
  induction p generalizing number pc with
  | nil => rfl
  | cons i more ih =>
    simp only [compileFrom, Instruction.compile_add]
    cases i.compile number with
    | error e => rfl
    | ok first =>
      obtain ⟨code, number'⟩ := first
      simp only [Except.map, bind, Except.bind, ih]
      cases compileFrom number' (pc + 1) more with
      | error e => rfl
      | ok rest => cases code <;> simp [pure, Except.pure]

theorem compile_add (template : Text) (k number : Nat) (p : Program) :
    compile template (k + number) p =
      (compile template number p).map fun (compiled, next) => (compiled.shift k, k + next) := by
  simp only [compile, compileFrom_add]
  cases link p with
  | error e => rfl
  | ok jumps => cases compileFrom number 0 p <;> rfl

/-! ## Plain programs -/

theorem Segment.all_isPlain_of_generate {ε : Type} {texts : Text → Except ε Text}
    {segment : Segment} (hs : segment.isPlain = true) {p : Program}
    (h : segment.generate (m := Except ε) (some texts) = .ok p) :
    p.all Instruction.isPlain = true := by
  cases segment with
  | chunk text position =>
    cases h
    rfl
  | span s =>
    cases hclassify : s.classify with
    | «include» name =>
      rw [generate_span_include hclassify] at h
      obtain ⟨text, -, hp⟩ := bind_eq_ok_iff.mp h
      cases hp
      rfl
    | _ =>
      rw [generate_span (by rw [hclassify]; rfl)] at h
      cases h
      exact hs

theorem all_isPlain_of_generate {ε : Type} {texts : Text → Except ε Text}
    {segments : List Segment} (hs : segments.all Segment.isPlain = true) {p : Program}
    (h : generate (m := Except ε) (some texts) segments = .ok p) :
    p.all Instruction.isPlain = true := by
  induction segments generalizing p with
  | nil =>
    cases h
    rfl
  | cons segment more ih =>
    rw [List.all_cons, Bool.and_eq_true] at hs
    obtain ⟨first, hfirst, h⟩ := bind_eq_ok_iff.mp h
    obtain ⟨rest, hrest, hp⟩ := bind_eq_ok_iff.mp h
    cases hp
    rw [List.all_append, Segment.all_isPlain_of_generate hs.1 hfirst, ih hs.2 hrest, Bool.true_and]

def InstructionCode.omitsHost : InstructionCode → Bool
  | .value c => c.expr.omits hostName
  | .range init cond step =>
    init.expr.omits hostName && cond.expr.omits hostName &&
      step.statements.all (·.omits hostName)

theorem omits_of_compileValue {directive source : Text} (hsource : omitsHost source = true)
    {c : Code} (h : compileValue directive number source = .ok c) :
    c.expr.omits hostName = true := by
  unfold compileValue at h
  unfold omitsHost at hsource
  cases he : Expr.ofText? source with
  | none =>
    rw [he] at h
    cases h
  | some e =>
    rw [he] at h hsource
    cases h
    exact hsource

theorem omits_of_compileStep {directive source : Text} (hsource : stepOmitsHost source = true)
    {c : StepCode} (h : compileStep directive number source = .ok c) :
    c.statements.all (·.omits hostName) = true := by
  unfold compileStep at h
  unfold stepOmitsHost at hsource
  cases hs : Statement.ofText? source with
  | none =>
    rw [hs] at h
    cases h
  | some statements =>
    rw [hs] at h hsource
    cases h
    exact hsource

theorem Instruction.omitsHost_of_compile {i : Instruction} (hi : i.isPlain = true)
    {code : InstructionCode} (h : i.compile number = .ok (some code, next)) :
    code.omitsHost = true := by
  have hone {source : Text} (hsource : omitsHost source = true)
      (h : (do return (some (.value (← compileValue i.source number source)), number + 1) :
        Except BadExpression (Option InstructionCode × Nat)) = .ok (some code, next)) :
      code.omitsHost = true := by
    obtain ⟨c, hc, hcode⟩ := bind_eq_ok_iff.mp h
    cases hcode
    exact omits_of_compileValue hsource hc
  cases i with
  | output | assign | openIf | elseIf => exact hone hi h
  | capture => cases hi
  | openLoop name head source =>
    cases head with
    | each mode iterable => exact hone (Bool.and_eq_true_iff.mp hi).2 h
    | range init cond step =>
      simp only [isPlain, Bool.and_eq_true] at hi
      obtain ⟨init', hinit, h⟩ := bind_eq_ok_iff.mp h
      obtain ⟨cond', hcond, h⟩ := bind_eq_ok_iff.mp h
      obtain ⟨step', hstep, hcode⟩ := bind_eq_ok_iff.mp h
      cases hcode
      simp only [InstructionCode.omitsHost, Bool.and_eq_true]
      exact ⟨⟨omits_of_compileValue hi.1.1.2 hinit, omits_of_compileValue hi.1.2 hcond⟩,
        omits_of_compileStep hi.2 hstep⟩
  | _ => cases h

theorem omitsHost_of_compileFrom {p : Program} (hp : p.all Instruction.isPlain = true)
    {codes : List (Nat × InstructionCode)} (h : compileFrom number pc p = .ok (codes, next)) :
    ∀ c ∈ codes, c.2.omitsHost = true := by
  induction p generalizing number pc codes with
  | nil =>
    cases h
    nofun
  | cons i more ih =>
    rw [List.all_cons, Bool.and_eq_true] at hp
    obtain ⟨⟨code, number'⟩, hfirst, h⟩ := bind_eq_ok_iff.mp h
    obtain ⟨⟨rest, next'⟩, hrest, hcodes⟩ := bind_eq_ok_iff.mp h
    cases hcodes
    intro c hc
    rcases List.mem_append.mp hc with hc | hc
    · obtain ⟨code', hcode, rfl⟩ := Option.map_eq_some_iff.mp (Option.mem_toList.mp hc)
      exact Instruction.omitsHost_of_compile hp.1 (hcode ▸ hfirst)
    · exact ih hp.2 hrest c hc

theorem Instruction.leavesHost_of_isPlain {i : Instruction} (h : i.isPlain = true) :
    i.leavesHost = true := by
  cases i with
  | capture => cases h
  | openLoop name head =>
    cases head <;> simp_all [isPlain, leavesHost]
  | _ => rfl

theorem InstructionCode.shift_matches {code : InstructionCode} (h : code.omitsHost = true)
    (hnumbers : ∀ c ∈ code.numbers, μ.code (k + c) (l + c)) :
    (code.shift k).Matches μ (code.shift l) := by
  cases code with
  | value c => exact .value ⟨rfl, hnumbers _ (.head _), h⟩
  | range init cond step =>
    simp only [omitsHost, Bool.and_eq_true] at h
    exact .range ⟨rfl, hnumbers _ (.head _), h.1.1⟩ ⟨rfl, hnumbers _ (.tail _ (.head _)), h.1.2⟩
      ⟨rfl, hnumbers _ (.tail _ (.tail _ (.head _))), h.2⟩

theorem shift_matches {p : Program} (hp : p.all Instruction.isPlain = true) {compiled : Compiled}
    (h : compile template number p = .ok (compiled, next))
    (hnumbers : ∀ c ∈ compiled.numbers, μ.code (k + c) (l + c)) :
    (compiled.shift k).Matches μ (compiled.shift l) := by
  obtain ⟨hprogram, -, hcodes⟩ := compile_eq_ok h
  rw [← hprogram] at hp
  refine ⟨rfl, rfl, rfl, ?_, ?_⟩
  · refine List.forall₂_map_left_iff.mpr (List.forall₂_map_right_iff.mpr ?_)
    refine List.forall₂_same.mpr fun c hc => ⟨rfl, ?_⟩
    exact InstructionCode.shift_matches (omitsHost_of_compileFrom hp hcodes c hc) fun number hn =>
      hnumbers number (List.mem_flatMap.mpr ⟨c, hc, hn⟩)
  · exact List.all_eq_true.mpr fun i hi =>
      Instruction.leavesHost_of_isPlain (List.all_eq_true.mp hp i hi)

end Stencil.Template
