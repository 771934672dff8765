import Stencil.Proofs.Template.Shading

/-!
# Lowering twice

A lowering leaves no reference behind that a second one could read, with one exception. A dollar
sign right before a reference is copied, and the look-up that is written behind it starts with the
name of the scope: together they are a reference. The quotes of look-ups add nothing to this. They
may make a string of such a dollar sign, but never bring one out of a string.
-/

namespace Stencil.Template

open Quoting

variable {c : Char} {s t front name read behind : Text} {steps before : List LoweringStep}

/-- A second lowering reads the name of the scope behind each dollar sign that is doubled, and no
other references. -/
def Relowers (t : Text) : Prop :=
  ∀ front name, ReferenceAt (loweringSteps (lower t)) front name ↔
    name = scopeVariable ∧ DoubledDollar outside (loweringSteps t) front

theorem relowers_nil : Relowers [] := by
  intro front name
  rw [lower_nil, loweringSteps_nil]
  simp [not_referenceAt_nil, not_doubledDollar_nil]

theorem Relowers.of_tail (h : Relowers s) (hverbatim : ∀ step ∈ before, step.Verbatim)
    (hsteps : loweringSteps (lower t) = before ++ loweringSteps (lower s))
    (hdollars : ∀ front, DoubledDollar outside (loweringSteps t) front ↔
      ∃ rest, front = before.flatMap LoweringStep.source ++ rest ∧
        DoubledDollar outside (loweringSteps s) rest) : Relowers t := by
  intro front name
  rw [hsteps, referenceAt_append_iff hverbatim, hdollars]
  simp only [h _ name]
  tauto

theorem Relowers.of_copy (ht : Relowers t) (h : lexeme? (c :: t) = none)
    (hagain : lexeme? (c :: lower t) = none)
    (hdollars : ∀ front, DoubledDollar outside (.copy c :: loweringSteps t) front ↔
      ∃ rest, front = c :: rest ∧ DoubledDollar outside (loweringSteps t) rest) :
    Relowers (c :: t) := by
  have hfirst := firstStep_copy h
  have hcopied : ∀ step ∈ [LoweringStep.copy c], step.Verbatim := by
    simp [LoweringStep.verbatim_copy]
  refine ht.of_tail hcopied ?_ ?_
  · rw [hfirst.lowered]
    exact loweringSteps_cons hagain
  · intro front
    rw [hfirst.steps, hdollars]
    simp [LoweringStep.source]

/-! ## Strings and references -/

theorem relowers_literal (h : lexeme? t = some (.literal read, behind))
    (hbehind : Relowers behind) : Relowers t := by
  have hfirst := firstStep_of_lexeme? h
  have hread : ∀ step ∈ [LoweringStep.read (.literal read)], step.Verbatim := by
    simp [LoweringStep.verbatim_literal]
  refine hbehind.of_tail hread ?_ ?_
  · rw [hfirst.lowered]
    exact loweringSteps_of_lexeme? (lexeme?_append_of_literal h (lower behind))
  · intro front
    rw [hfirst.steps, doubledDollar_outside_cons (by simp) (by simp)]
    simp [LoweringStep.lowered, LoweringStep.source, Lexeme.lowered, Lexeme.source]

def lookupSteps (name : Text) : List LoweringStep :=
  (scopeVariable ++ ['[']).map .copy ++ [.read (.literal ('\x22' :: name ++ ['\x22'])), .copy ']']

theorem verbatim_of_mem_lookupSteps : ∀ step ∈ lookupSteps name, step.Verbatim := by
  simp only [lookupSteps, List.forall_mem_append, List.forall_mem_cons]
  exact ⟨LoweringStep.verbatim_of_mem_map_copy, LoweringStep.verbatim_literal _,
    LoweringStep.verbatim_copy _, by simp⟩

theorem flatMap_source_lookupSteps :
    (lookupSteps name).flatMap LoweringStep.source = scopeLookup scopeVariable name := by
  rw [lookupSteps, List.flatMap_append, LoweringStep.flatMap_source_map_copy]
  simp [LoweringStep.source, Lexeme.source, scopeLookup]

theorem loweringSteps_literal (hc : isQuote c = true)
    (h : (inside c).closing? t = some (read, behind)) :
    loweringSteps (c :: t) = .read (.literal (c :: read)) :: loweringSteps behind := by
  apply loweringSteps_of_lexeme?
  rw [lexeme?_of_isQuote hc, literalTail?_eq_closing?, h]
  rfl

theorem loweringSteps_lookup (hname : Directive.IsName name) :
    loweringSteps (scopeLookup scopeVariable name ++ t) = lookupSteps name ++ loweringSteps t := by
  have hhead : ∀ c ∈ scopeVariable ++ ['['], isQuote c = false ∧ c ≠ '$' := by decide
  have hlookup : scopeLookup scopeVariable name ++ t =
      (scopeVariable ++ ['[']) ++ '\x22' :: (name ++ '\x22' :: ']' :: t) := by
    simp [scopeLookup]
  have hclosing : (inside '\x22').closing? (name ++ '\x22' :: ']' :: t) =
      some (name ++ ['\x22'], ']' :: t) := by
    have hne : name ≠ [] := by
      rintro rfl
      cases hname
    rw [closing?_word rfl hne (passesOver_of_isName rfl hname)]
    simp [closing?, next, isEscaped]
  rw [hlookup, loweringSteps_append hhead, loweringSteps_literal rfl hclosing,
    loweringSteps_cons (lexeme?_eq_none rfl (by decide))]
  simp [lookupSteps]

theorem relowers_reference (h : lexeme? t = some (.reference name, behind))
    (hbehind : Relowers behind) : Relowers t := by
  have hfirst := firstStep_of_lexeme? h
  have hlookup : ∀ step ∈ lookupSteps name, step.Verbatim := verbatim_of_mem_lookupSteps
  refine hbehind.of_tail hlookup ?_ ?_
  · rw [hfirst.lowered]
    exact loweringSteps_lookup (hfirst.named name rfl)
  · intro front
    rw [hfirst.steps, doubledDollar_outside_cons (by simp) (by simp), flatMap_source_lookupSteps]
    rfl

theorem relowers_copy (h : lexeme? (c :: t) = none) (hquote : c ≠ '\x22') (hdollar : c ≠ '$')
    (ht : Relowers t) : Relowers (c :: t) := by
  have hagain : lexeme? (c :: lower t) = none := by
    by_cases hc : c = '\x27'
    · subst hc
      rw [lexeme?_eq_none_iff rfl] at h ⊢
      exact closing?_lower rfl h
    · exact lexeme?_eq_none (by simp [isQuote, hc, hquote]) hdollar
  apply ht.of_copy h hagain
  intro front
  exact doubledDollar_outside_cons (by simpa) (by simpa)

/-! ## Dollar signs -/

theorem ident?_eq_none_iff :
    Directive.ident? t = none ↔ ∀ c ∈ t.head?, Directive.isIdentStart c = false := by
  cases t <;> simp [Directive.ident?]

theorem lexeme?_dollar : lexeme? ('$' :: t) =
    (Directive.ident? t).map fun (name, behind) => (.reference name, behind) :=
  lexeme?_of_not_isQuote rfl

theorem doubledDollar_dollar_iff : DoubledDollar outside (.copy '$' :: steps) front ↔
    (front = [] ∧ ∃ name behind, steps = .read (.reference name) :: behind) ∨
      ∃ rest, front = '$' :: rest ∧ DoubledDollar outside steps rest := by
  rw [doubledDollar_cons_iff, shade_outside (by simp)]
  simp [LoweringStep.lowered]

theorem head?_lower (h : ∀ name behind, ¬ FirstStep t (.read (.reference name)) behind) :
    (lower t).head? = t.head? := by
  rcases exists_firstStep t with rfl | ⟨step, behind, hfirst⟩
  · rw [lower_nil]
  · have hstep : step.Verbatim := by
      rintro name rfl
      exact h name behind hfirst
    have hne : step.source ≠ [] := by
      intro hnil
      have hshorter := hfirst.shorter
      rw [hfirst.source, hnil] at hshorter
      simp at hshorter
    rw [hfirst.lowered, hstep.lowered, hfirst.source, List.head?_append_of_ne_nil _ hne,
      List.head?_append_of_ne_nil _ hne]

theorem relowers_dollar_single (h : lexeme? ('$' :: t) = none)
    (hsingle : ∀ name behind, ¬ FirstStep t (.read (.reference name)) behind)
    (ht : Relowers t) : Relowers ('$' :: t) := by
  have hagain : lexeme? ('$' :: lower t) = none := by
    rw [lexeme?_dollar, Option.map_eq_none_iff, ident?_eq_none_iff] at h ⊢
    rwa [head?_lower hsingle]
  have hno : ∀ name more, loweringSteps t ≠ .read (.reference name) :: more := by
    intro name more hsteps
    obtain ⟨behind, hfirst⟩ := exists_firstStep_of_eq_cons hsteps
    exact hsingle name behind hfirst
  apply ht.of_copy h hagain
  intro front
  rw [doubledDollar_dollar_iff]
  simp [hno]

theorem relowers_dollar_doubled (h : lexeme? ('$' :: t) = none)
    (hdoubled : FirstStep t (.read (.reference name)) behind)
    (ht : Relowers t) : Relowers ('$' :: t) := by
  intro front found
  have hfirst := firstStep_copy h
  have hlower : lower ('$' :: t) = '$' :: lower t := hfirst.lowered
  obtain ⟨rest, hrest⟩ : ∃ rest, lower t = scopeVariable ++ '[' :: rest := by
    refine ⟨'\x22' :: name ++ '\x22' :: ']' :: lower behind, ?_⟩
    rw [hdoubled.lowered]
    simp [LoweringStep.lowered, Lexeme.lowered, scopeLookup]
  have hread : lexeme? ('$' :: lower t) = some (.reference scopeVariable, '[' :: rest) := by
    rw [lexeme?_dollar, hrest, Directive.ident?_append isName_scopeVariable (by simp; decide)]
    rfl
  have hcopied (more : Text) : ReferenceAt (loweringSteps (lower t)) more found ↔
      ∃ later, more = scopeVariable ++ later ∧
        ReferenceAt (loweringSteps ('[' :: rest)) later found := by
    rw [hrest, loweringSteps_append (by decide),
      referenceAt_append_iff LoweringStep.verbatim_of_mem_map_copy,
      LoweringStep.flatMap_source_map_copy]
  rw [hlower, loweringSteps_of_lexeme? hread, referenceAt_cons_iff, hfirst.steps,
    doubledDollar_dollar_iff]
  constructor
  · rintro (⟨hfound, rfl⟩ | ⟨later, rfl, hlater⟩)
    · obtain rfl : scopeVariable = found := by simpa using hfound
      exact ⟨rfl, .inl ⟨rfl, name, _, hdoubled.steps⟩⟩
    · obtain ⟨hname, hdollar⟩ := (ht _ found).1 ((hcopied _).2 ⟨later, rfl, hlater⟩)
      exact ⟨hname, .inr ⟨_, rfl, hdollar⟩⟩
  · rintro ⟨rfl, ⟨rfl, -⟩ | ⟨more, rfl, hdollar⟩⟩
    · exact .inl ⟨rfl, rfl⟩
    · obtain ⟨later, rfl, hlater⟩ := (hcopied more).1 ((ht more _).2 ⟨rfl, hdollar⟩)
      exact .inr ⟨later, rfl, hlater⟩

/-! ## Double quotes -/

theorem doubledDollar_quote_iff : DoubledDollar outside (.copy '\x22' :: steps) front ↔
    ∃ rest, front = '\x22' :: rest ∧ DoubledDollar (inside '\x22') steps rest := by
  rw [doubledDollar_cons_iff]
  simp [shade, LoweringStep.lowered]

theorem firstStep_reopened (h : (inside '\x22').closing? t = none) :
    FirstStep ('\x22' :: ']' :: t) (.copy '\x22') (']' :: t) := by
  apply firstStep_copy
  rw [lexeme?_eq_none_iff rfl, closing?_cons (by simp)]
  simp [next, isEscaped, h]

theorem firstStep_bracket : FirstStep (']' :: t) (.copy ']') t :=
  firstStep_copy (lexeme?_eq_none rfl (by decide))

theorem doubledDollar_reopened_iff (h : (inside '\x22').closing? t = none) :
    DoubledDollar outside (loweringSteps ('\x22' :: ']' :: t)) front ↔
      ∃ rest, front = '\x22' :: ']' :: rest ∧
        DoubledDollar (inside '\x22') (loweringSteps t) rest := by
  rw [(firstStep_reopened h).steps, firstStep_bracket.steps, doubledDollar_quote_iff]
  simp [doubledDollar_cons_of_ne, shade, LoweringStep.lowered, LoweringStep.source,
    escapesLineFeed, isEscaped, next]

/-- The second lowering reads a string up to the look-up, copies the name behind it, and goes on
with the rest of the look-up. -/
theorem relowers_quote_closed (h : lexeme? ('\x22' :: t) = none)
    (hclosed : ClosedByLookup (inside '\x22') t front name behind)
    (hbehind : Relowers ('\x22' :: ']' :: behind)) : Relowers ('\x22' :: t) := by
  have hfirst := firstStep_copy h
  have hname : ∀ c ∈ name, isQuote c = false ∧ c ≠ '$' := by
    intro c hc
    have hident := isIdentChar_of_isName hclosed.named c hc
    exact ⟨isQuote_of_isIdentChar hident, ne_of_isIdentChar hident (by decide)⟩
  have hverbatim : ∀ step ∈
      .read (.literal ('\x22' :: (front ++ scopeVariable ++ ['[', '\x22']))) :: name.map .copy,
      LoweringStep.Verbatim step :=
    List.forall_mem_cons.2
      ⟨LoweringStep.verbatim_literal _, LoweringStep.verbatim_of_mem_map_copy⟩
  refine hbehind.of_tail hverbatim ?_ ?_
  · rw [hfirst.lowered, (firstStep_reopened hclosed.reopened).lowered, firstStep_bracket.lowered]
    refine (loweringSteps_literal rfl hclosed.closing).trans ?_
    rw [loweringSteps_append hname]
    rfl
  · intro more
    rw [hfirst.steps, doubledDollar_quote_iff, List.flatMap_cons,
      LoweringStep.flatMap_source_map_copy]
    simp only [hclosed.dollars, doubledDollar_reopened_iff hclosed.reopened]
    simp [LoweringStep.source, Lexeme.source, scopeLookup]

theorem relowers_quote (h : lexeme? ('\x22' :: t) = none)
    (ht : ∀ s, s.length ≤ t.length → Relowers s) : Relowers ('\x22' :: t) := by
  have hopen := (lexeme?_eq_none_iff rfl).1 h
  rcases staysOpen_or_closedByLookup rfl hopen with hstays | ⟨front, name, behind, hclosed⟩
  · apply (ht t le_rfl).of_copy h ((lexeme?_eq_none_iff rfl).2 hstays.closing)
    intro front
    rw [doubledDollar_quote_iff]
    simp only [hstays.dollars]
  · exact relowers_quote_closed h hclosed (ht _ hclosed.shorter)

/-! ## All texts -/

theorem relowers (t : Text) : Relowers t := by
  match t with
  | [] => exact relowers_nil
  | c :: rest =>
    cases h : lexeme? (c :: rest) with
    | some found =>
        obtain ⟨lexeme, behind⟩ := found
        have hshorter := length_lt_of_lexeme? h
        cases lexeme with
        | literal read => exact relowers_literal h (relowers behind)
        | reference name => exact relowers_reference h (relowers behind)
    | none =>
        by_cases hquote : c = '\x22'
        · subst hquote
          exact relowers_quote h fun s hs => relowers s
        · by_cases hdollar : c = '$'
          · subst hdollar
            by_cases hdoubled : ∃ name behind, FirstStep rest (.read (.reference name)) behind
            · obtain ⟨name, behind, hfirst⟩ := hdoubled
              exact relowers_dollar_doubled h hfirst (relowers rest)
            · exact relowers_dollar_single h (by simpa using hdoubled) (relowers rest)
          · exact relowers_copy h hquote hdollar (relowers rest)
termination_by t.length
decreasing_by all_goals simp only [List.length_cons] at *; omega

theorem lower_lower_eq_iff : lower (lower t) = lower t ↔
    ∀ front, ¬ DoubledDollar outside (loweringSteps t) front := by
  have hread := relowers t
  rw [lower_eq_self_iff]
  constructor
  · intro h front hdollar
    exact h front scopeVariable ((hread front scopeVariable).2 ⟨rfl, hdollar⟩)
  · intro h front name hfound
    exact h front ((hread front name).1 hfound).2

/-- A second lowering changes nothing if and only if no dollar sign stands right before a reference,
outside of strings and of the shade of double quotes. In general it reads a reference just where
there is such a dollar sign, and what it reads is the name of the scope that was written behind. -/
theorem lowered_references (t : Text) :
    (lower (lower t) = lower t ↔ ∀ front, ¬ DoubledDollar outside (loweringSteps t) front) ∧
    ∀ front name, ReferenceAt (loweringSteps (lower t)) front name ↔
      name = scopeVariable ∧ DoubledDollar outside (loweringSteps t) front :=
  ⟨lower_lower_eq_iff, relowers t⟩

/-- In the shade of a double quote the dollar sign comes to stand in a string. -/
example : lower (lower "\x22 + $$x".toList) = lower "\x22 + $$x".toList := by decide +kernel

/-- Outside of strings the dollar sign is read together with the name of the scope. -/
theorem not_lower_lower_doubledDollar : ¬ ∀ t, lower (lower t) = lower t := by
  intro h
  have honce : lower "$$x".toList = "$__scope__[\x22x\x22]".toList := by decide +kernel
  have htwice : lower "$__scope__[\x22x\x22]".toList =
      "__scope__[\x22__scope__\x22][\x22x\x22]".toList := by decide +kernel
  have heq := h "$$x".toList
  rw [honce, htwice] at heq
  revert heq
  decide

end Stencil.Template
