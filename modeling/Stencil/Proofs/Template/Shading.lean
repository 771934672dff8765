import Stencil.Proofs.Template.Reading

/-!
# The shade of a double quote

A string in double quotes that nothing closes in an expression may be closed in its lowering, by
the first quote of a look-up. The second quote of the look-up then opens another string, which the
next look-up closes. What is copied in between stands in strings, up to a backslash before a line
feed. Strings in single quotes stay as they are.
-/

namespace Stencil.Template

/-! ## Open strings -/

namespace Quoting

def closing? (q : Quoting) : Text → Option (Text × Text)
  | [] => if q = outside then some ([], []) else none
  | c :: t =>
    if q = outside then some ([], c :: t)
    else if q.isEscaped && c == '\n' then none
    else ((q.next c).closing? t).map fun (read, behind) => (c :: read, behind)

def PassesOver (quote : Char) (word : Text) : Prop :=
  ∀ c ∈ word, c ≠ quote ∧ c ≠ '\\' ∧ c ≠ '\n'

variable {q : Quoting} {quote c : Char} {s t : Text}

theorem closing?_outside : outside.closing? t = some ([], t) := by
  cases t <;> rfl

theorem closing?_cons (hq : q ≠ outside) : q.closing? (c :: t) =
    if q.isEscaped && c == '\n' then none
    else ((q.next c).closing? t).map fun (read, behind) => (c :: read, behind) := by
  rw [closing?, if_neg hq]

theorem literalTail?_eq_closing? : literalTail? quote t = (inside quote).closing? t := by
  fun_induction literalTail? quote t with
  | case1 => rfl
  | case2 => rfl
  | case3 => simp [closing?, next, isEscaped]
  | case4 c rest hc ih =>
      simp only [closing?, next, isEscaped, ih]
      simp [hc, Function.comp_def]
  | case5 rest hslash => simp [closing?_cons, next_inside_self hslash, closing?_outside, isEscaped]
  | case6 c rest hslash hc ih => simp [closing?, next_inside_of_ne hslash hc, isEscaped, ih]

theorem lexeme?_eq_none_iff (hc : isQuote c = true) :
    lexeme? (c :: t) = none ↔ (inside c).closing? t = none := by
  rw [lexeme?_of_isQuote hc, literalTail?_eq_closing?, Option.map_eq_none_iff]

theorem ne_outside_of_closing? (h : q.closing? t = none) : q ≠ outside := by
  rintro rfl
  rw [closing?_outside] at h
  cases h

/-! ### Strings that are not closed -/

theorem closing?_append_of_none (h : q.closing? (s ++ t) = none) (more : Text) :
    q.closing? (s ++ more) = if q.escapesLineFeed s then none
      else ((q.after s).closing? more).map fun (read, behind) => (s ++ read, behind) := by
  induction s generalizing q with
  | nil => simp [escapesLineFeed]
  | cons c s ih =>
      have hq := ne_outside_of_closing? h
      rw [List.cons_append, closing?_cons hq] at h
      rw [List.cons_append, closing?_cons hq, escapesLineFeed]
      cases hescaped : q.isEscaped && c == '\n' with
      | true => simp
      | false =>
          rw [hescaped] at h
          rw [ih (by simpa using h), Bool.false_or, after_cons]
          cases (q.next c).escapesLineFeed s <;> simp [Function.comp_def]

theorem closing?_after (h : q.closing? (s ++ t) = none) (hfound : q.escapesLineFeed s = false) :
    (q.after s).closing? t = none := by
  have hagain := closing?_append_of_none h t
  rw [h, hfound] at hagain
  simpa using hagain.symm

theorem quote?_after (h : q.closing? (s ++ t) = none) (hfound : q.escapesLineFeed s = false) :
    (q.after s).quote? = q.quote? := by
  induction s generalizing q with
  | nil => rfl
  | cons c s ih =>
      have hq := ne_outside_of_closing? h
      have hc : q.escapesLineFeed [c] = false := by
        rw [escapesLineFeed, Bool.or_eq_false_iff] at hfound
        simp [escapesLineFeed, hfound.1]
      have htail : (q.next c).closing? (s ++ t) = none := closing?_after (s := [c]) h hc
      have hnext := ne_outside_of_closing? htail
      rw [after_cons, ih htail (by simp_all [escapesLineFeed])]
      cases q with
      | outside => exact absurd rfl hq
      | inside quote =>
          by_cases hslash : c = '\\' <;> by_cases hc : c = quote <;> simp_all [next, quote?]
      | escaped quote => rfl

/-! ### Words in strings -/

section

variable (hq : q.quote? = some quote)
include hq

theorem ne_outside_of_quote? : q ≠ outside := by
  rintro rfl
  cases hq

theorem next_of_quote? (hc : c ≠ quote) (hslash : c ≠ '\\') : q.next c = inside quote := by
  cases q with
  | outside => cases hq
  | inside other =>
      obtain rfl := by simpa [quote?] using hq
      exact next_inside_of_ne hslash hc
  | escaped other =>
      obtain rfl := by simpa [quote?] using hq
      rfl

variable {word : Text} (hword : word ≠ []) (h : PassesOver quote word)
include hword h

theorem after_word : q.after word = inside quote ∧ q.escapesLineFeed word = false := by
  induction word generalizing q with
  | nil => exact absurd rfl hword
  | cons c word ih =>
      obtain ⟨⟨hc, hslash, hfeed⟩, htail⟩ := List.forall_mem_cons.1 h
      rw [after_cons, escapesLineFeed, next_of_quote? hq hc hslash]
      cases word with
      | nil => simp [escapesLineFeed, hfeed]
      | cons d word => simpa [hfeed] using ih rfl (List.cons_ne_nil d word) htail

theorem closing?_word : q.closing? (word ++ t) =
    ((inside quote).closing? t).map fun (read, behind) => (word ++ read, behind) := by
  induction word generalizing q with
  | nil => exact absurd rfl hword
  | cons c word ih =>
      obtain ⟨⟨hc, hslash, hfeed⟩, htail⟩ := List.forall_mem_cons.1 h
      rw [List.cons_append, closing?_cons (ne_outside_of_quote? hq), next_of_quote? hq hc hslash]
      simp only [hfeed, beq_iff_eq, Bool.and_eq_true, and_false, if_false]
      cases word with
      | nil => rfl
      | cons d word =>
          rw [ih rfl (List.cons_ne_nil d word) htail]
          simp [Function.comp_def]

end

/-! ### References and look-ups in strings -/

section

variable {d : Char} {name : Text}

theorem ne_of_isIdentChar (h : Directive.isIdentChar c = true)
    (hd : Directive.isIdentChar d = false) : c ≠ d := by
  rintro rfl
  rw [h] at hd
  cases hd

theorem isName_scopeVariable : Directive.IsName scopeVariable := by decide

variable (hquote : isQuote quote = true) (h : Directive.IsName name)
include hquote h

theorem passesOver_of_isName : PassesOver quote name := by
  intro c hc
  have hident := isIdentChar_of_isName h c hc
  exact ⟨ne_of_isIdentChar hident (isIdentChar_of_isQuote hquote),
    ne_of_isIdentChar hident (by decide), ne_of_isIdentChar hident (by decide)⟩

theorem passesOver_reference : PassesOver quote ('$' :: name) := by
  refine List.forall_mem_cons.2 ⟨⟨?_, by decide, by decide⟩, passesOver_of_isName hquote h⟩
  rintro rfl
  cases hquote

omit hquote in
theorem passesOver_lookup : PassesOver '\x27' (scopeLookup scopeVariable name) := by
  have hscope : PassesOver '\x27' scopeVariable := passesOver_of_isName rfl isName_scopeVariable
  have hname : PassesOver '\x27' name := passesOver_of_isName rfl h
  unfold scopeLookup PassesOver
  simp only [List.forall_mem_append, List.forall_mem_cons]
  exact ⟨⟨hscope, by decide, by decide, hname⟩, by decide, by decide, by simp⟩

end

theorem closing?_lookup {name : Text} (hq : q.quote? = some '\x22') :
    q.closing? (scopeLookup scopeVariable name ++ t) =
      some (scopeVariable ++ ['[', '\x22'], name ++ '\x22' :: ']' :: t) := by
  have hword : PassesOver '\x22' (scopeVariable ++ ['[']) := by
    unfold PassesOver
    decide
  have hlookup : scopeLookup scopeVariable name ++ t =
      (scopeVariable ++ ['[']) ++ '\x22' :: (name ++ '\x22' :: ']' :: t) := by
    simp [scopeLookup]
  have hclosed : (inside '\x22').closing? ('\x22' :: (name ++ '\x22' :: ']' :: t)) =
      some (['\x22'], name ++ '\x22' :: ']' :: t) := by
    simp [closing?, next, isEscaped, closing?_outside]
  rw [hlookup, closing?_word hq (by simp) hword, hclosed]
  simp

end Quoting

open Quoting

/-! ## The shade -/

/-- The shade of a double quote that is copied: a string that look-ups close and open again, until
a backslash stands before a line feed. -/
def Quoting.shade (q : Quoting) (step : LoweringStep) : Quoting :=
  if q = outside then if step = .copy '\x22' then inside '\x22' else outside
  else if q.escapesLineFeed step.source then outside
  else q.after step.source

/-- The steps copy a dollar sign right before a reference and not in the shade of a double quote.
What they write before it is the front. -/
def DoubledDollar (q : Quoting) (steps : List LoweringStep) (front : Text) : Prop :=
  ∃ before name behind, steps = before ++ .copy '$' :: .read (.reference name) :: behind ∧
    before.foldl shade q = outside ∧ before.flatMap (LoweringStep.lowered scopeVariable) = front

variable {q : Quoting} {c : Char} {step : LoweringStep} {steps : List LoweringStep}
variable {t front name behind : Text}

theorem shade_outside (hstep : step ≠ .copy '\x22') : outside.shade step = outside := by
  simp [shade, hstep]

theorem shade_of_ne (hq : q ≠ outside) : q.shade step =
    if q.escapesLineFeed step.source then outside else q.after step.source := by
  rw [shade, if_neg hq]

theorem not_doubledDollar_nil : ¬ DoubledDollar q [] front := by
  rintro ⟨before, name, behind, h, -⟩
  simp at h

theorem doubledDollar_cons_iff : DoubledDollar q (step :: steps) front ↔
    (step = .copy '$' ∧ q = outside ∧ front = [] ∧
      ∃ name behind, steps = .read (.reference name) :: behind) ∨
      ∃ rest, front = step.lowered scopeVariable ++ rest ∧
        DoubledDollar (q.shade step) steps rest := by
  constructor
  · rintro ⟨before, name, behind, h, hq, rfl⟩
    cases before with
    | nil => simp_all
    | cons first before =>
        obtain ⟨rfl, rfl⟩ := List.cons.inj h
        exact .inr ⟨_, List.flatMap_cons, before, name, behind, rfl, hq, rfl⟩
  · rintro (⟨rfl, rfl, rfl, name, behind, rfl⟩ | ⟨rest, rfl, before, name, behind, rfl, hq, rfl⟩)
    · exact ⟨[], name, behind, rfl, rfl, rfl⟩
    · exact ⟨step :: before, name, behind, rfl, hq, List.flatMap_cons⟩

theorem doubledDollar_cons_of_ne (hq : q ≠ outside) : DoubledDollar q (step :: steps) front ↔
    ∃ rest, front = step.lowered scopeVariable ++ rest ∧
      DoubledDollar (q.shade step) steps rest := by
  rw [doubledDollar_cons_iff]
  simp [hq]

theorem doubledDollar_outside_cons (hquote : step ≠ .copy '\x22') (hdollar : step ≠ .copy '$') :
    DoubledDollar outside (step :: steps) front ↔
      ∃ rest, front = step.lowered scopeVariable ++ rest ∧ DoubledDollar outside steps rest := by
  rw [doubledDollar_cons_iff, shade_outside hquote]
  simp [hdollar]

/-! ## Strings that stay open -/

/-- A string in double quotes that is open where the lowering of a text starts is open up to its
end, or to a line feed that makes it no string at all. It puts no dollar sign in the shade. -/
structure StaysOpen (q : Quoting) (t : Text) : Prop where
  closing : q.closing? (lower t) = none
  dollars : ∀ front, DoubledDollar q (loweringSteps t) front ↔
    DoubledDollar outside (loweringSteps t) front

theorem ne_copy_of_escapesLineFeed (h : q.escapesLineFeed step.source = true) (hc : c ≠ '\n') :
    step ≠ .copy c := by
  rintro rfl
  simp [LoweringStep.source, escapesLineFeed, hc] at h

theorem staysOpen_of_escapesLineFeed (h : FirstStep t step behind) (hstep : step.Verbatim)
    (hopen : q.closing? (step.source ++ behind) = none)
    (hfeed : q.escapesLineFeed step.source = true) : StaysOpen q t where
  closing := by
    rw [h.lowered, hstep.lowered, closing?_append_of_none hopen, if_pos hfeed]
  dollars := by
    intro front
    have hdollar : step ≠ .copy '$' := ne_copy_of_escapesLineFeed hfeed (by decide)
    have hquote : step ≠ .copy '\x22' := ne_copy_of_escapesLineFeed hfeed (by decide)
    have hne := ne_outside_of_closing? hopen
    rw [h.steps, doubledDollar_cons_of_ne hne, doubledDollar_outside_cons hquote hdollar,
      shade_of_ne hne, if_pos hfeed]

theorem StaysOpen.not_reference (h : StaysOpen q t) (hq : q.quote? = some '\x22') :
    ∀ name more, loweringSteps t ≠ .read (.reference name) :: more := by
  intro name more hsteps
  obtain ⟨behind, hfirst⟩ := exists_firstStep_of_eq_cons hsteps
  have hclosing := h.closing
  rw [hfirst.lowered] at hclosing
  cases (closing?_lookup hq).symm.trans hclosing

theorem after_quote (hq : q.quote? = some '\x22') (h : (q.after ['\x22']).quote? = some '\x22') :
    q.after ['\x22'] = inside '\x22' := by
  cases q with
  | outside => cases hq
  | inside quote =>
      obtain rfl := by simpa [quote?] using hq
      cases h
  | escaped quote =>
      obtain rfl := by simpa [quote?] using hq
      rfl

theorem StaysOpen.of_firstStep (h : FirstStep t step behind) (hstep : step.Verbatim)
    (hq : q.quote? = some '\x22') (hopen : q.closing? (step.source ++ behind) = none)
    (hfound : q.escapesLineFeed step.source = false)
    (hstays : StaysOpen (q.after step.source) behind) : StaysOpen q t where
  closing := by
    rw [h.lowered, hstep.lowered, closing?_append_of_none hopen, hstays.closing]
    simp
  dollars := by
    intro front
    have hne := ne_outside_of_closing? hopen
    have hquote := (quote?_after hopen hfound).trans hq
    have hno := hstays.not_reference hquote
    -- Where a double quote is copied, its own shade is that of the string.
    have hshade : ∀ rest, DoubledDollar (outside.shade step) (loweringSteps behind) rest ↔
        DoubledDollar outside (loweringSteps behind) rest := by
      intro rest
      by_cases hcopy : step = .copy '\x22'
      · subst hcopy
        have hdollars := hstays.dollars rest
        rw [LoweringStep.source, after_quote hq hquote] at hdollars
        exact hdollars
      · rw [shade_outside hcopy]
    rw [h.steps, doubledDollar_cons_of_ne hne, doubledDollar_cons_iff, shade_of_ne hne]
    simp [hfound, hstays.dollars, hshade, hno]

/-! ## Strings that look-ups close -/

/-- The look-up of the name closes a string in double quotes that is open where the lowering of a
text starts, and opens another one. -/
structure ClosedByLookup (q : Quoting) (t front name behind : Text) : Prop where
  closing : q.closing? (lower t) =
    some (front ++ scopeVariable ++ ['[', '\x22'], name ++ '\x22' :: ']' :: lower behind)
  named : Directive.IsName name
  shorter : behind.length + 2 ≤ t.length
  reopened : (inside '\x22').closing? behind = none
  dollars : ∀ more, DoubledDollar q (loweringSteps t) more ↔
    ∃ rest, more = front ++ scopeLookup scopeVariable name ++ rest ∧
      DoubledDollar (inside '\x22') (loweringSteps behind) rest

theorem closedByLookup_of_reference (h : FirstStep t (.read (.reference name)) behind)
    (hq : q.quote? = some '\x22') (hopen : q.closing? t = none) :
    ClosedByLookup q t [] name behind := by
  have hname := h.named name rfl
  have ht : t = '$' :: name ++ behind := h.source
  have hword : PassesOver '\x22' ('$' :: name) := passesOver_reference rfl hname
  obtain ⟨hafter, hfound⟩ := after_word hq (List.cons_ne_nil _ _) hword
  have hshade : q.shade (.read (.reference name)) = inside '\x22' := by
    rw [shade_of_ne (ne_outside_of_quote? hq)]
    simp [LoweringStep.source, Lexeme.source, hafter, hfound]
  refine ⟨?_, hname, ?_, ?_, ?_⟩
  · rw [h.lowered]
    exact closing?_lookup hq
  · rw [ht]
    cases name with
    | nil => cases hname
    | cons c name =>
        simp only [List.length_cons, List.length_append]
        omega
  · rw [ht] at hopen
    have hbehind := closing?_after hopen hfound
    rwa [hafter] at hbehind
  · intro more
    rw [h.steps, doubledDollar_cons_iff, hshade]
    simp [LoweringStep.lowered, Lexeme.lowered]

theorem ClosedByLookup.of_firstStep (h : FirstStep t step behind) (hstep : step.Verbatim)
    (hopen : q.closing? (step.source ++ behind) = none)
    (hfound : q.escapesLineFeed step.source = false) {more : Text}
    (hclosed : ClosedByLookup (q.after step.source) behind front name more) :
    ClosedByLookup q t (step.source ++ front) name more where
  closing := by
    rw [h.lowered, hstep.lowered, closing?_append_of_none hopen, hclosed.closing]
    simp [hfound]
  named := hclosed.named
  shorter := hclosed.shorter.trans h.shorter.le
  reopened := hclosed.reopened
  dollars := by
    intro text
    have hne := ne_outside_of_closing? hopen
    rw [h.steps, doubledDollar_cons_of_ne hne, shade_of_ne hne, if_neg (by simp [hfound]),
      hstep.lowered]
    simp only [hclosed.dollars]
    constructor
    · rintro ⟨_, rfl, rest, rfl, hrest⟩
      exact ⟨rest, by simp, hrest⟩
    · rintro ⟨rest, rfl, hrest⟩
      exact ⟨front ++ scopeLookup scopeVariable name ++ rest, by simp, rest, rfl, hrest⟩

theorem staysOpen_or_closedByLookup (hq : q.quote? = some '\x22') (hopen : q.closing? t = none) :
    StaysOpen q t ∨ ∃ front name behind, ClosedByLookup q t front name behind := by
  induction t using firstStep_induction generalizing q with
  | nil =>
      rw [← lower_nil] at hopen
      exact .inl ⟨hopen, by simp [not_doubledDollar_nil]⟩
  | cons t step behind h ih =>
      by_cases hstep : step.Verbatim
      · rw [h.source] at hopen
        cases hfound : q.escapesLineFeed step.source with
        | true => exact .inl (staysOpen_of_escapesLineFeed h hstep hopen hfound)
        | false =>
            have hquote := (quote?_after hopen hfound).trans hq
            rcases ih hquote (closing?_after hopen hfound) with
              hstays | ⟨front, name, more, hclosed⟩
            · exact .inl (.of_firstStep h hstep hq hopen hfound hstays)
            · exact .inr ⟨_, name, more, .of_firstStep h hstep hopen hfound hclosed⟩
      · obtain ⟨name, rfl⟩ := not_forall_not.1 hstep
        exact .inr ⟨[], name, behind, closedByLookup_of_reference h hq hopen⟩

theorem closing?_lower (hq : q.quote? = some '\x27') (hopen : q.closing? t = none) :
    q.closing? (lower t) = none := by
  induction t using firstStep_induction generalizing q with
  | nil => rwa [lower_nil]
  | cons t step behind h ih =>
      by_cases hstep : step.Verbatim
      · rw [h.source] at hopen
        rw [h.lowered, hstep.lowered, closing?_append_of_none hopen]
        cases hfound : q.escapesLineFeed step.source with
        | true => rfl
        | false =>
            have hquote := (quote?_after hopen hfound).trans hq
            simp [ih hquote (closing?_after hopen hfound)]
      · obtain ⟨name, rfl⟩ := not_forall_not.1 hstep
        have hname := h.named name rfl
        have hsource : PassesOver '\x27' ('$' :: name) := passesOver_reference rfl hname
        have hlookup := passesOver_lookup hname
        have ht : t = '$' :: name ++ behind := h.source
        have hlower : lower t = scopeLookup scopeVariable name ++ lower behind := h.lowered
        rw [ht, closing?_word hq (List.cons_ne_nil _ _) hsource] at hopen
        rw [hlower, closing?_word hq (by simp [scopeLookup]) hlookup, ih rfl (by simpa using hopen)]
        rfl

end Stencil.Template
