import Stencil.Proofs.Template.Nesting
import Stencil.Proofs.Template.Phrasing
import Stencil.Template.ScopeRef

/-!
# Lowering and strings

The brace scan and the lowering of references each find the strings of an expression in a way of
their own. They agree as long as no string has a backslash before a line feed: the scan skips both
characters, but the lowering takes the opening quote of such a string for plain text and goes on
behind it as if it were outside of strings.
-/

namespace Stencil.Template

/-! ## Names -/

theorem isIdentChar_of_isName {name : Text} (h : Directive.IsName name) :
    ∀ c ∈ name, Directive.isIdentChar c = true := by
  cases name with
  | nil => cases h
  | cons c rest =>
      exact List.forall_mem_cons.2 ⟨Directive.isIdentChar_of_isIdentStart h.1, h.2⟩

theorem of_ident?_eq_some {t name behind : Text} (h : Directive.ident? t = some (name, behind)) :
    t = name ++ behind ∧ Directive.IsName name := by
  unfold Directive.ident? at h
  split at h
  · cases h
  · split at h
    · next hstart =>
        cases h
        exact ⟨by simp, hstart, List.all_eq_true.1 List.all_takeWhile⟩
    · cases h

theorem run_append_of_head {p : Char → Bool} (t : Text) {behind : Text}
    (hbehind : ∀ c ∈ behind.head?, p c = false) :
    (t ++ behind).takeWhile p = t.takeWhile p ∧
      (t ++ behind).dropWhile p = t.dropWhile p ++ behind := by
  induction t with
  | nil => cases behind <;> simp_all
  | cons c t ih => by_cases hc : p c = true <;> simp [hc, ih]

theorem ident?_append_of_head {t behind : Text}
    (hbehind : ∀ c ∈ behind.head?, Directive.isIdentChar c = false) :
    Directive.ident? (t ++ behind) =
      (Directive.ident? t).map fun (name, rest) => (name, rest ++ behind) := by
  cases t with
  | nil =>
      cases behind with
      | nil => rfl
      | cons c behind =>
          have hc : Directive.isIdentStart c = false := by
            by_contra hstart
            have hchar := Directive.isIdentChar_of_isIdentStart (by simpa using hstart)
            rw [hbehind c rfl] at hchar
            cases hchar
          simp [Directive.ident?, hc]
  | cons c t =>
      obtain ⟨htake, hdrop⟩ := run_append_of_head t hbehind
      simp only [List.cons_append, Directive.ident?, htake, hdrop]
      split <;> rfl

theorem isIdentChar_of_isQuote {c : Char} (h : isQuote c = true) :
    Directive.isIdentChar c = false := by
  rcases isQuote_iff.1 h with rfl | rfl <;> decide

theorem isQuote_of_isIdentChar {c : Char} (h : Directive.isIdentChar c = true) :
    isQuote c = false := by
  by_contra hc
  rw [isIdentChar_of_isQuote (by simpa using hc)] at h
  cases h

def OpensString (t : Text) : Prop := ∀ c ∈ t.head?, isQuote c = true

namespace Quoting

theorem next_outside_of_not_isQuote {c : Char} (h : isQuote c = false) :
    outside.next c = outside := by
  simp [next, h]

theorem after_outside_of_not_isQuote {t : Text} (h : ∀ c ∈ t, isQuote c = false) :
    outside.after t = outside := by
  induction t with
  | nil => rfl
  | cons c t ih =>
      rw [after_cons, next_outside_of_not_isQuote (h c List.mem_cons_self)]
      exact ih fun d hd => h d (List.mem_cons_of_mem c hd)

/-! ## Lowering by the scan -/

def reference? (q : Quoting) : Text → Option (Text × Text)
  | '$' :: rest => if q = outside then Directive.ident? rest else none
  | _ => none

theorem length_lt_of_reference? {q : Quoting} {t name behind : Text}
    (h : q.reference? t = some (name, behind)) : behind.length < t.length := by
  unfold reference? at h
  split at h
  · split at h
    · have := congrArg List.length (of_ident?_eq_some h).1
      simp only [List.length_append, List.length_cons] at this ⊢
      omega
    · cases h
  · cases h

/-- The text with each reference outside of strings written as a look-up, and all else as it is. -/
def lowered (scopeVar : Text) (q : Quoting) : Text → Text
  | [] => []
  | c :: rest =>
    match _h : q.reference? (c :: rest) with
    | some (name, behind) => scopeLookup scopeVar name ++ outside.lowered scopeVar behind
    | none => c :: (q.next c).lowered scopeVar rest
termination_by t => t.length
decreasing_by
  · exact length_lt_of_reference? _h
  · simp

section

variable {scopeVar : Text} {q : Quoting} {c : Char} {rest name behind : Text}

@[simp] theorem lowered_nil : q.lowered scopeVar [] = [] := by
  rw [lowered]

theorem lowered_of_reference? (h : q.reference? (c :: rest) = some (name, behind)) :
    q.lowered scopeVar (c :: rest) =
      scopeLookup scopeVar name ++ outside.lowered scopeVar behind := by
  rw [lowered]
  split <;> simp_all

theorem lowered_cons (h : q.reference? (c :: rest) = none) :
    q.lowered scopeVar (c :: rest) = c :: (q.next c).lowered scopeVar rest := by
  rw [lowered]
  split <;> simp_all

end

def isEscaped : Quoting → Bool
  | escaped _ => true
  | _ => false

/-- Some string has a backslash before a line feed. -/
def escapesLineFeed (q : Quoting) : Text → Bool
  | [] => false
  | c :: t => q.isEscaped && c == '\n' || (q.next c).escapesLineFeed t

theorem escapesLineFeed_append (q : Quoting) (s t : Text) :
    q.escapesLineFeed (s ++ t) = (q.escapesLineFeed s || (q.after s).escapesLineFeed t) := by
  induction s generalizing q with
  | nil => rfl
  | cons c s ih => simp [escapesLineFeed, ih, Bool.or_assoc]

end Quoting

open Quoting

variable {scopeVar : Text} {q : Quoting} {quote c : Char} {t read behind : Text}

/-! ## String literals -/

section

variable (h : c ≠ '\\')
include h

theorem next_inside_of_ne (hc : c ≠ quote) : (inside quote).next c = inside quote := by
  simp [next, h, hc]

theorem next_inside_self : (inside c).next c = outside := by
  simp [next, h]

theorem literalTail?_cons : literalTail? quote (c :: t) =
    if c = quote then some ([c], t)
    else (literalTail? quote t).map fun (read, behind) => (c :: read, behind) := by
  rw [literalTail?]
  exact h

end

@[simp] theorem lowered_inside : (inside quote).lowered scopeVar (c :: t) =
    c :: ((inside quote).next c).lowered scopeVar t := by
  refine Quoting.lowered_cons ?_
  unfold reference?
  split <;> rfl

@[simp] theorem lowered_escaped : (escaped quote).lowered scopeVar (c :: t) =
    c :: (inside quote).lowered scopeVar t := by
  refine Quoting.lowered_cons ?_
  unfold reference?
  split <;> rfl

/-- A literal that the lowering finds is a string of the scan, and is left alone by both. -/
theorem of_literalTail? (h : literalTail? quote t = some (read, behind)) :
    t = read ++ behind ∧ (inside quote).after read = outside ∧
      (inside quote).escapesLineFeed read = false ∧
      ∀ scopeVar, (inside quote).lowered scopeVar t = read ++ outside.lowered scopeVar behind := by
  fun_induction literalTail? quote t generalizing read behind with
  | case1 | case2 | case3 => cases h
  | case4 c rest hc ih =>
      obtain ⟨⟨read', behind'⟩, htail, hpair⟩ := Option.map_eq_some_iff.1 h
      obtain ⟨rfl, rfl⟩ := by simpa using hpair
      obtain ⟨rfl, hafter, hescapes, hlowered⟩ := ih htail
      exact ⟨rfl, hafter, by simpa [escapesLineFeed, isEscaped, next, hc] using hescapes,
        by simpa [next] using hlowered⟩
  | case5 rest hslash =>
      obtain ⟨rfl, rfl⟩ := by simpa using h
      simp [escapesLineFeed, isEscaped, next_inside_self hslash]
  | case6 c rest hslash hc ih =>
      obtain ⟨⟨read', behind'⟩, htail, hpair⟩ := Option.map_eq_some_iff.1 h
      obtain ⟨rfl, rfl⟩ := by simpa using hpair
      obtain ⟨rfl, hafter, hescapes, hlowered⟩ := ih htail
      simp [escapesLineFeed, isEscaped, next_inside_of_ne hslash hc, hafter, hescapes, hlowered]

theorem literalTail?_isSome (hclosed : (inside quote).after t = outside)
    (hescapes : (inside quote).escapesLineFeed t = false) :
    (literalTail? quote t).isSome := by
  fun_induction literalTail? quote t with
  | case1 => cases hclosed
  | case2 => simp [next] at hclosed
  | case3 => simp [escapesLineFeed, isEscaped, next] at hescapes
  | case4 c rest hc ih =>
      rw [Option.isSome_map]
      exact ih (by simpa [next] using hclosed)
        (by simpa [escapesLineFeed, isEscaped, next, hc] using hescapes)
  | case5 => rfl
  | case6 c rest hslash hc ih =>
      have hgo := next_inside_of_ne hslash hc
      rw [Option.isSome_map]
      exact ih (by simpa [hgo] using hclosed)
        (by simpa [escapesLineFeed, isEscaped, hgo] using hescapes)

theorem literalTail?_append (h : literalTail? quote t = some (read, behind)) (more : Text) :
    literalTail? quote (read ++ more) = some (read, more) := by
  fun_induction literalTail? quote t generalizing read behind with
  | case1 | case2 | case3 => cases h
  | case4 c rest hc ih =>
      obtain ⟨⟨read', behind'⟩, htail, hpair⟩ := Option.map_eq_some_iff.1 h
      obtain ⟨rfl, rfl⟩ := by simpa using hpair
      simp [literalTail?, hc, ih htail]
  | case5 rest hslash =>
      obtain ⟨rfl, rfl⟩ := by simpa using h
      rw [List.cons_append, literalTail?_cons hslash, if_pos rfl]
      rfl
  | case6 c rest hslash hc ih =>
      obtain ⟨⟨read', behind'⟩, htail, hpair⟩ := Option.map_eq_some_iff.1 h
      obtain ⟨rfl, rfl⟩ := by simpa using hpair
      rw [List.cons_append, literalTail?_cons hslash, if_neg hc, ih htail]
      rfl

/-! ## Lowering step by step -/

def Lexeme.lowered (scopeVar : Text) : Lexeme → Text
  | literal t => t
  | reference name => scopeLookup scopeVar name

theorem lowerWith_of_lexeme? {lexeme : Lexeme} (h : lexeme? t = some (lexeme, behind)) :
    lowerWith scopeVar t = lexeme.lowered scopeVar ++ lowerWith scopeVar behind := by
  cases t with
  | nil => cases h
  | cons c rest =>
      rw [lowerWith]
      cases lexeme <;> split <;> simp_all [Lexeme.lowered]

theorem lowerWith_cons (h : lexeme? (c :: t) = none) :
    lowerWith scopeVar (c :: t) = c :: lowerWith scopeVar t := by
  rw [lowerWith]
  split <;> simp_all

theorem isQuote_eq (c : Char) : isQuote c = decide (c = '\x22' ∨ c = '\x27') := by
  rw [Bool.eq_iff_iff, isQuote_iff, decide_eq_true_iff, or_comm]

theorem lexeme?_of_isQuote (hc : isQuote c = true) : lexeme? (c :: t) =
    (literalTail? c t).map fun (read, behind) => (.literal (c :: read), behind) := by
  rw [isQuote_eq, decide_eq_true_iff] at hc
  rw [lexeme?, if_pos hc]

theorem lexeme?_of_not_isQuote (hc : isQuote c = false) : lexeme? (c :: t) =
    (outside.reference? (c :: t)).map fun (name, behind) => (.reference name, behind) := by
  rw [isQuote_eq, decide_eq_false_iff_not] at hc
  rw [lexeme?, if_neg hc]
  split
  · next h =>
      subst h
      rfl
  · next h =>
      unfold reference?
      split
      · simp_all
      · rfl

theorem reference?_of_isQuote (hc : isQuote c = true) : q.reference? (c :: t) = none := by
  rcases isQuote_iff.1 hc with rfl | rfl <;> rfl

theorem reference?_of_ne (hc : c ≠ '$') : q.reference? (c :: t) = none := by
  unfold reference?
  split <;> simp_all

theorem lexeme?_eq_none (hquote : isQuote c = false) (hdollar : c ≠ '$') :
    lexeme? (c :: t) = none := by
  rw [lexeme?_of_not_isQuote hquote, reference?_of_ne hdollar]
  rfl

theorem reference?_append (hbehind : OpensString behind) :
    q.reference? (c :: (t ++ behind)) =
      (q.reference? (c :: t)).map fun (name, rest) => (name, rest ++ behind) := by
  by_cases hc : c = '$'
  · subst hc
    simp only [reference?]
    split
    · exact ident?_append_of_head fun d hd => isIdentChar_of_isQuote (hbehind d hd)
    · rfl
  · rw [reference?_of_ne hc, reference?_of_ne hc]
    rfl

theorem escapesLineFeed_outside_cons :
    outside.escapesLineFeed (c :: t) = (outside.next c).escapesLineFeed t := rfl

theorem escapesLineFeed_outside_of_not_isQuote {t : Text} (h : ∀ c ∈ t, isQuote c = false) :
    outside.escapesLineFeed t = false := by
  induction t with
  | nil => rfl
  | cons c t ih =>
      rw [escapesLineFeed_outside_cons, next_outside_of_not_isQuote (h c List.mem_cons_self)]
      exact ih fun d hd => h d (List.mem_cons_of_mem c hd)

theorem of_reference? {name : Text} (h : q.reference? t = some (name, behind)) :
    q = outside ∧ outside.after t = outside.after behind ∧
      outside.escapesLineFeed t = outside.escapesLineFeed behind := by
  unfold reference? at h
  split at h
  · split at h
    · next hq =>
        obtain ⟨rfl, hname⟩ := of_ident?_eq_some h
        have hread : ∀ c ∈ '$' :: name, isQuote c = false :=
          List.forall_mem_cons.2
            ⟨rfl, fun c hc => isQuote_of_isIdentChar (isIdentChar_of_isName hname c hc)⟩
        rw [← List.cons_append, after_append, escapesLineFeed_append,
          after_outside_of_not_isQuote hread, escapesLineFeed_outside_of_not_isQuote hread]
        exact ⟨hq, rfl, Bool.false_or _⟩
    · cases h
  · cases h

theorem lowerWith_append {t : Text} (hclosed : outside.after t = outside)
    (hescapes : outside.escapesLineFeed t = false) (hbehind : OpensString behind) :
    lowerWith scopeVar (t ++ behind) = outside.lowered scopeVar t ++ lowerWith scopeVar behind := by
  match t with
  | [] => simp
  | c :: rest =>
    by_cases hc : isQuote c = true
    · have hnext : outside.next c = inside c := by simp [next, hc]
      rw [escapesLineFeed_outside_cons, hnext] at hescapes
      rw [after_cons, hnext] at hclosed
      obtain ⟨⟨read, more⟩, hliteral⟩ :=
        Option.isSome_iff_exists.1 (literalTail?_isSome hclosed hescapes)
      obtain ⟨hrest, hread, -, hlowered⟩ := of_literalTail? hliteral
      have hshorter : more.length < (c :: rest).length := by
        rw [hrest, List.length_cons, List.length_append]
        omega
      rw [hrest, after_append, hread] at hclosed
      rw [hrest, escapesLineFeed_append, hread, Bool.or_eq_false_iff] at hescapes
      have htail : literalTail? c (rest ++ behind) = some (read, more ++ behind) := by
        rw [hrest, List.append_assoc]
        exact literalTail?_append hliteral (more ++ behind)
      have hlexeme := lexeme?_of_isQuote (t := rest ++ behind) hc
      rw [htail] at hlexeme
      rw [List.cons_append, lowerWith_of_lexeme? hlexeme,
        lowerWith_append hclosed hescapes.2 hbehind,
        Quoting.lowered_cons (reference?_of_isQuote hc), hnext, hlowered]
      simp [Lexeme.lowered]
    · rw [Bool.not_eq_true] at hc
      have hlexeme := lexeme?_of_not_isQuote (t := rest ++ behind) hc
      have happend := reference?_append (q := outside) (c := c) (t := rest) hbehind
      rw [happend] at hlexeme
      cases hreference : outside.reference? (c :: rest) with
      | none =>
          have hnext := next_outside_of_not_isQuote hc
          rw [hreference] at hlexeme
          rw [escapesLineFeed_outside_cons, hnext] at hescapes
          rw [after_cons, hnext] at hclosed
          rw [List.cons_append, lowerWith_cons hlexeme, lowerWith_append hclosed hescapes hbehind,
            Quoting.lowered_cons hreference, hnext]
          rfl
      | some found =>
          obtain ⟨name, more⟩ := found
          obtain ⟨-, hafter, hmore⟩ := of_reference? hreference
          have hshorter := length_lt_of_reference? hreference
          rw [hreference] at hlexeme
          rw [List.cons_append, lowerWith_of_lexeme? hlexeme,
            lowerWith_append (hafter ▸ hclosed) (hmore ▸ hescapes) hbehind,
            lowered_of_reference? hreference]
          simp [Lexeme.lowered]
termination_by t.length
decreasing_by
  · exact hshorter
  · simp
  · exact hshorter

theorem lowered_append {q : Quoting} {t : Text} (hbehind : OpensString behind) :
    q.lowered scopeVar (t ++ behind) =
      q.lowered scopeVar t ++ (q.after t).lowered scopeVar behind := by
  match t with
  | [] => simp
  | c :: rest =>
    have happend := reference?_append (q := q) (c := c) (t := rest) hbehind
    cases hreference : q.reference? (c :: rest) with
    | none =>
        rw [hreference] at happend
        rw [List.cons_append, Quoting.lowered_cons happend, Quoting.lowered_cons hreference,
          lowered_append hbehind]
        rfl
    | some found =>
        obtain ⟨name, more⟩ := found
        obtain ⟨rfl, hafter, -⟩ := of_reference? hreference
        have hshorter := length_lt_of_reference? hreference
        rw [hreference] at happend
        rw [List.cons_append, lowered_of_reference? happend, lowered_of_reference? hreference,
          lowered_append hbehind, hafter, List.append_assoc]
termination_by t.length
decreasing_by
  · simp
  · exact hshorter

/-! ## Where the two part -/

/-- A string starts at `quote`, before `w`, that the lowering does not find, and none before it. -/
structure FirstMissed (u : Text) (quote : Char) (w : Text) : Prop where
  closed : outside.after u = outside
  found : outside.escapesLineFeed u = false
  opens : isQuote quote = true
  missed : literalTail? quote w = none

theorem FirstMissed.cons {u w : Text} (h : FirstMissed u quote w) (hc : isQuote c = false) :
    FirstMissed (c :: u) quote w where
  closed := by rw [after_cons, next_outside_of_not_isQuote hc, h.closed]
  found := by rw [escapesLineFeed_outside_cons, next_outside_of_not_isQuote hc, h.found]
  opens := h.opens
  missed := h.missed

theorem FirstMissed.append {u w string : Text} (h : FirstMissed u quote w)
    (hclosed : outside.after string = outside) (hfound : outside.escapesLineFeed string = false) :
    FirstMissed (string ++ u) quote w where
  closed := by rw [after_append, hclosed, h.closed]
  found := by rw [escapesLineFeed_append, hfound, hclosed, h.found, Bool.or_false]
  opens := h.opens
  missed := h.missed

theorem exists_firstMissed {t : Text} (h : outside.escapesLineFeed t = true) :
    ∃ u quote w, t = u ++ quote :: w ∧ FirstMissed u quote w := by
  match t with
  | [] => cases h
  | c :: rest =>
    rw [escapesLineFeed_outside_cons] at h
    by_cases hc : isQuote c = true
    · have hnext : outside.next c = inside c := by simp [next, hc]
      rw [hnext] at h
      cases hliteral : literalTail? c rest with
      | none => exact ⟨[], c, rest, rfl, rfl, rfl, hc, hliteral⟩
      | some found =>
          obtain ⟨read, more⟩ := found
          obtain ⟨rfl, hread, hescapes, -⟩ := of_literalTail? hliteral
          rw [escapesLineFeed_append, hescapes, hread, Bool.false_or] at h
          obtain ⟨u, quote, w, rfl, hfirst⟩ := exists_firstMissed h
          refine ⟨c :: read ++ u, quote, w, by simp, hfirst.append ?_ ?_⟩
          · rw [after_cons, hnext, hread]
          · rw [escapesLineFeed_outside_cons, hnext, hescapes]
    · rw [Bool.not_eq_true] at hc
      rw [next_outside_of_not_isQuote hc] at h
      obtain ⟨u, quote, w, rfl, hfirst⟩ := exists_firstMissed h
      exact ⟨c :: u, quote, w, rfl, hfirst.cons hc⟩
termination_by t.length

theorem lowerWith_of_firstMissed {u w : Text} (h : FirstMissed u quote w) :
    lowerWith scopeVar (u ++ quote :: w) =
      outside.lowered scopeVar u ++ quote :: lowerWith scopeVar w := by
  have hopens : OpensString (quote :: w) := by simpa [OpensString] using h.opens
  have hlexeme : lexeme? (quote :: w) = none := by rw [lexeme?_of_isQuote h.opens, h.missed]; rfl
  rw [lowerWith_append h.closed h.found hopens, lowerWith_cons hlexeme]

theorem lowered_of_firstMissed {u w : Text} (h : FirstMissed u quote w) :
    outside.lowered scopeVar (u ++ quote :: w) =
      outside.lowered scopeVar u ++ quote :: (inside quote).lowered scopeVar w := by
  have hopens : OpensString (quote :: w) := by simpa [OpensString] using h.opens
  have hnext : outside.next quote = inside quote := by simp [next, h.opens]
  rw [lowered_append hopens, h.closed, Quoting.lowered_cons (reference?_of_isQuote h.opens), hnext]

/-- In a text whose strings are all closed, the lowering changes the references outside of strings
and nothing else if no string has a backslash before a line feed. In general it does so up to the
first string that it misses, and to the end if and only if behind the quote that opens this string
it writes, as if outside of strings, what belongs there in the string. -/
theorem lowerWith_eq_lowered (hclosed : outside.after t = outside) :
    (outside.escapesLineFeed t = false → lowerWith scopeVar t = outside.lowered scopeVar t) ∧
    (lowerWith scopeVar t = outside.lowered scopeVar t ↔
      ∀ u quote w, t = u ++ quote :: w → FirstMissed u quote w →
        lowerWith scopeVar w = (inside quote).lowered scopeVar w) := by
  have hfound : outside.escapesLineFeed t = false →
      lowerWith scopeVar t = outside.lowered scopeVar t := by
    intro hescapes
    have hnil : OpensString [] := by simp [OpensString]
    have happend : lowerWith scopeVar (t ++ []) =
        outside.lowered scopeVar t ++ lowerWith scopeVar [] :=
      lowerWith_append hclosed hescapes hnil
    rwa [List.append_nil, lowerWith, List.append_nil] at happend
  refine ⟨hfound, fun heq u quote w ht hfirst => ?_, fun hmissed => ?_⟩
  · subst ht
    rw [lowerWith_of_firstMissed hfirst, lowered_of_firstMissed hfirst] at heq
    exact (List.cons.inj (List.append_cancel_left heq)).2
  · cases hescapes : outside.escapesLineFeed t with
    | false => exact hfound hescapes
    | true =>
        obtain ⟨u, quote, w, rfl, hfirst⟩ := exists_firstMissed hescapes
        rw [lowerWith_of_firstMissed hfirst, lowered_of_firstMissed hfirst,
          hmissed u quote w rfl hfirst]

def quotedNames : Text := "'$a' + \x22\x5c\x22$b\x22 + $c".toList

def continuedString : Text := "\x22\x5c\na\x22 + '$b' + $c".toList

/-- In `continuedString` the lowering misses the first string, finds the second one and writes what
it should. -/
theorem lowerWith_eq_lowered_quotedNames :
    (outside.after quotedNames = outside ∧
      lowerWith scopeVariable quotedNames = outside.lowered scopeVariable quotedNames ∧
      lowerWith scopeVariable quotedNames =
        "'$a' + \x22\x5c\x22$b\x22 + __scope__[\x22c\x22]".toList) ∧
    (outside.after continuedString = outside ∧ outside.escapesLineFeed continuedString = true ∧
      ∀ u quote w, continuedString = u ++ quote :: w → FirstMissed u quote w →
        lowerWith scopeVariable w = (inside quote).lowered scopeVariable w) := by
  refine ⟨⟨by decide, (lowerWith_eq_lowered (by decide)).1 (by decide), by decide +kernel⟩,
    by decide, by decide, ?_⟩
  exact (lowerWith_eq_lowered (by decide)).2.1 (by decide +kernel)

/-- Behind a backslash at the end of a line the lowering writes a look-up into the string. -/
theorem not_lowered_continuedString :
    ¬ ∀ t, outside.after t = outside → lower t = outside.lowered scopeVariable t := by
  intro h
  have hclosed : outside.after "\x22\x5c\n$x\x22".toList = outside := by decide
  have hlower : lower "\x22\x5c\n$x\x22".toList =
      "\x22\x5c\n__scope__[\x22x\x22]\x22".toList := by decide +kernel
  have hlowered : outside.lowered scopeVariable "\x22\x5c\n$x\x22".toList =
      "\x22\x5c\n$x\x22".toList := by decide +kernel
  have heq := h _ hclosed
  rw [hlower, hlowered] at heq
  revert heq
  decide

end Stencil.Template
