import Stencil.Proofs.Template.Lowering

/-!
# What a lowering reads

A lowering goes through an expression step by step: it copies a character, or reads a string or a
reference as a whole. Only references are written in another way, so that what is lowered stays as
it is if and only if no reference is read.
-/

namespace Stencil.Template

/-! ## Steps of a lowering -/

inductive LoweringStep where
  | copy (c : Char)
  | read (lexeme : Lexeme)
deriving DecidableEq, Repr

def Lexeme.source : Lexeme → Text
  | literal t => t
  | reference name => '$' :: name

namespace LoweringStep

def source : LoweringStep → Text
  | copy c => [c]
  | read lexeme => lexeme.source

def lowered (scopeVar : Text) : LoweringStep → Text
  | copy c => [c]
  | read lexeme => lexeme.lowered scopeVar

/-- The step reads no reference, and so writes what it reads. -/
def Verbatim (step : LoweringStep) : Prop := ∀ name, step ≠ .read (.reference name)

theorem Verbatim.lowered {step : LoweringStep} (h : step.Verbatim) (scopeVar : Text) :
    step.lowered scopeVar = step.source := by
  rcases step with c | t | name
  · rfl
  · rfl
  · exact absurd rfl (h name)

theorem verbatim_copy (c : Char) : (copy c).Verbatim := by
  simp [Verbatim]

theorem verbatim_literal (t : Text) : (read (.literal t)).Verbatim := by
  simp [Verbatim]

theorem verbatim_of_mem_map_copy {t : Text} : ∀ step ∈ t.map copy, step.Verbatim := by
  simp [verbatim_copy]

theorem flatMap_source_map_copy {t : Text} : (t.map copy).flatMap source = t := by
  simp [List.flatMap_map, source]

end LoweringStep

def loweringSteps : Text → List LoweringStep
  | [] => []
  | c :: rest =>
    match _h : lexeme? (c :: rest) with
    | some (lexeme, behind) => .read lexeme :: loweringSteps behind
    | none => .copy c :: loweringSteps rest
termination_by t => t.length
decreasing_by
  · exact length_lt_of_lexeme? _h
  · simp

section

variable {s t behind : Text} {lexeme : Lexeme} {c : Char}

@[simp] theorem loweringSteps_nil : loweringSteps [] = [] := by
  rw [loweringSteps]

theorem loweringSteps_of_lexeme? (h : lexeme? t = some (lexeme, behind)) :
    loweringSteps t = .read lexeme :: loweringSteps behind := by
  cases t with
  | nil => cases h
  | cons c rest =>
      rw [loweringSteps]
      split <;> simp_all

theorem loweringSteps_cons (h : lexeme? (c :: t) = none) :
    loweringSteps (c :: t) = .copy c :: loweringSteps t := by
  rw [loweringSteps]
  split <;> simp_all

theorem loweringSteps_append (h : ∀ c ∈ s, isQuote c = false ∧ c ≠ '$') :
    loweringSteps (s ++ t) = s.map LoweringStep.copy ++ loweringSteps t := by
  induction s with
  | nil => rfl
  | cons c s ih =>
      obtain ⟨⟨hquote, hdollar⟩, hs⟩ := List.forall_mem_cons.1 h
      rw [List.cons_append, loweringSteps_cons (lexeme?_eq_none hquote hdollar), ih hs]
      rfl

theorem of_lexeme?_eq_some (h : lexeme? t = some (lexeme, behind)) :
    t = lexeme.source ++ behind ∧ ∀ name, lexeme = .reference name → Directive.IsName name := by
  unfold lexeme? at h
  split at h
  · cases h
  · split at h
    · obtain ⟨⟨read, rest⟩, hread, hpair⟩ := Option.map_eq_some_iff.1 h
      obtain ⟨rfl, rfl⟩ := by simpa using hpair
      simp [Lexeme.source, eq_append_of_literalTail? hread]
    · split at h
      · next hdollar =>
          obtain ⟨⟨name, rest⟩, hname, hpair⟩ := Option.map_eq_some_iff.1 h
          obtain ⟨rfl, rfl⟩ := by simpa using hpair
          simp [Lexeme.source, hdollar, of_ident?_eq_some hname]
      · cases h

theorem lexeme?_append_of_literal {read : Text} (h : lexeme? t = some (.literal read, behind))
    (more : Text) : lexeme? (read ++ more) = some (.literal read, more) := by
  cases t with
  | nil => cases h
  | cons c rest =>
      by_cases hc : isQuote c = true
      · rw [lexeme?_of_isQuote hc] at h
        obtain ⟨⟨tail, rest⟩, htail, hpair⟩ := Option.map_eq_some_iff.1 h
        obtain ⟨rfl, rfl⟩ := by simpa using hpair
        rw [List.cons_append, lexeme?_of_isQuote hc, literalTail?_append htail]
        rfl
      · rw [lexeme?_of_not_isQuote (by simpa using hc)] at h
        obtain ⟨found, -, hpair⟩ := Option.map_eq_some_iff.1 h
        cases hpair

/-! ## The first step -/

/-- The lowering of a text starts with the step and goes on behind it. -/
structure FirstStep (t : Text) (step : LoweringStep) (behind : Text) : Prop where
  source : t = step.source ++ behind
  shorter : behind.length < t.length
  named : ∀ name, step = .read (.reference name) → Directive.IsName name
  steps : loweringSteps t = step :: loweringSteps behind
  lowered : lower t = step.lowered scopeVariable ++ lower behind

theorem firstStep_of_lexeme? (h : lexeme? t = some (lexeme, behind)) :
    FirstStep t (.read lexeme) behind where
  source := (of_lexeme?_eq_some h).1
  shorter := length_lt_of_lexeme? h
  named := by simpa using (of_lexeme?_eq_some h).2
  steps := loweringSteps_of_lexeme? h
  lowered := lowerWith_of_lexeme? h

theorem firstStep_copy (h : lexeme? (c :: t) = none) : FirstStep (c :: t) (.copy c) t where
  source := rfl
  shorter := by simp
  named := by simp
  steps := loweringSteps_cons h
  lowered := lowerWith_cons h

theorem exists_firstStep (t : Text) : t = [] ∨ ∃ step behind, FirstStep t step behind := by
  match t with
  | [] => exact .inl rfl
  | c :: rest =>
    cases h : lexeme? (c :: rest) with
    | none => exact .inr ⟨_, _, firstStep_copy h⟩
    | some found => exact .inr ⟨_, _, firstStep_of_lexeme? h⟩

theorem exists_firstStep_of_eq_cons {step : LoweringStep} {steps : List LoweringStep}
    (h : loweringSteps t = step :: steps) : ∃ behind, FirstStep t step behind := by
  rcases exists_firstStep t with rfl | ⟨first, behind, hfirst⟩
  · simp at h
  · obtain ⟨rfl, -⟩ := List.cons.inj (hfirst.steps.symm.trans h)
    exact ⟨behind, hfirst⟩

theorem firstStep_induction {motive : Text → Prop} (nil : motive [])
    (cons : ∀ t step behind, FirstStep t step behind → motive behind → motive t) (t : Text) :
    motive t := by
  fun_induction loweringSteps t with
  | case1 => exact nil
  | case2 c rest lexeme behind h ih => exact cons _ _ _ (firstStep_of_lexeme? h) ih
  | case3 c rest h ih => exact cons _ _ _ (firstStep_copy h) ih

theorem lower_nil : lower [] = [] := by
  rw [lower, lowerWith]

theorem flatMap_source_loweringSteps (t : Text) :
    (loweringSteps t).flatMap LoweringStep.source = t := by
  induction t using firstStep_induction with
  | nil => simp
  | cons t step behind h ih => rw [h.steps, List.flatMap_cons, ih, ← h.source]

theorem flatMap_lowered_loweringSteps (t : Text) :
    (loweringSteps t).flatMap (LoweringStep.lowered scopeVariable) = lower t := by
  induction t using firstStep_induction with
  | nil => simp [lower_nil]
  | cons t step behind h ih => rw [h.steps, List.flatMap_cons, ih, h.lowered]

end

/-! ## References -/

/-- The steps read a reference to the name right behind the front of the text. -/
def ReferenceAt (steps : List LoweringStep) (front name : Text) : Prop :=
  ∃ before behind, steps = before ++ .read (.reference name) :: behind ∧
    before.flatMap LoweringStep.source = front

variable {step : LoweringStep} {steps before : List LoweringStep} {t front name : Text}

theorem not_referenceAt_nil : ¬ ReferenceAt [] front name := by
  rintro ⟨before, behind, h, -⟩
  simp at h

theorem referenceAt_cons_iff : ReferenceAt (step :: steps) front name ↔
    (step = .read (.reference name) ∧ front = []) ∨
      ∃ rest, front = step.source ++ rest ∧ ReferenceAt steps rest name := by
  constructor
  · rintro ⟨before, behind, h, rfl⟩
    cases before with
    | nil => simp_all
    | cons first before =>
        obtain ⟨rfl, rfl⟩ := List.cons.inj h
        exact .inr ⟨_, List.flatMap_cons, before, behind, rfl, rfl⟩
  · rintro (⟨rfl, rfl⟩ | ⟨rest, rfl, before, behind, rfl, rfl⟩)
    · exact ⟨[], steps, rfl, rfl⟩
    · exact ⟨step :: before, behind, rfl, List.flatMap_cons⟩

theorem referenceAt_append_iff (h : ∀ step ∈ before, step.Verbatim) :
    ReferenceAt (before ++ steps) front name ↔
      ∃ rest, front = before.flatMap LoweringStep.source ++ rest ∧ ReferenceAt steps rest name := by
  induction before generalizing front with
  | nil => simp
  | cons step before ih =>
      obtain ⟨hstep, hbefore⟩ := List.forall_mem_cons.1 h
      rw [List.cons_append, referenceAt_cons_iff]
      simp only [hstep name, false_and, false_or, ih hbefore]
      constructor
      · rintro ⟨_, rfl, rest, rfl, hrest⟩
        exact ⟨rest, by simp, hrest⟩
      · rintro ⟨rest, rfl, hrest⟩
        exact ⟨_, by simp, rest, rfl, hrest⟩

theorem flatMap_lowered_eq_flatMap_source_iff :
    steps.flatMap (LoweringStep.lowered scopeVariable) = steps.flatMap LoweringStep.source ↔
      ∀ front name, ¬ ReferenceAt steps front name := by
  induction steps with
  | nil => simp [not_referenceAt_nil]
  | cons step steps ih =>
      rw [List.flatMap_cons, List.flatMap_cons]
      by_cases hstep : step.Verbatim
      · rw [hstep.lowered, List.append_right_inj, ih]
        simp only [referenceAt_cons_iff, hstep _, false_and, false_or]
        constructor
        · rintro h front name ⟨rest, -, hrest⟩
          exact h rest name hrest
        · intro h front name hfront
          exact h _ name ⟨front, rfl, hfront⟩
      · obtain ⟨name, rfl⟩ := not_forall_not.1 hstep
        have hfound : ReferenceAt (.read (.reference name) :: steps) [] name :=
          referenceAt_cons_iff.2 (.inl ⟨rfl, rfl⟩)
        constructor
        · -- A look-up starts with the name of the scope, and a reference with a dollar sign.
          intro h
          cases (List.cons.inj h).1
        · intro h
          exact absurd hfound (h [] name)

theorem lower_eq_self_iff : lower t = t ↔
    ∀ front name, ¬ ReferenceAt (loweringSteps t) front name := by
  rw [← flatMap_lowered_eq_flatMap_source_iff, flatMap_lowered_loweringSteps,
    flatMap_source_loweringSteps]

end Stencil.Template
