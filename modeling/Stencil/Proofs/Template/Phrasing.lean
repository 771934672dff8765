import Stencil.Proofs.Template.Rules
import Stencil.Proofs.Template.Settled

/-!
# Directives as they are written

A directive is written with its keyword, its name and its expressions, with blanks of any kind and
number behind the keyword, and each of the ways to write it is read as the directive.
-/

namespace Stencil.Template.Directive

/-! ## Writing -/

structure Style where
  /-- Whether loops have the longer keyword. -/
  long : Bool
  /-- Whether names have the sigil of variables. -/
  sigil : Bool
  /-- What stands behind the first keyword. -/
  gap : {t : Text // IsGap t}
  /-- What stands behind the name of a loop, and behind the second keyword. -/
  middle : {t : Text // IsGap t}
  /-- What stands before what a loop goes through. -/
  last : {t : Text // IsGap t}
  /-- Blanks around signs, which may be missing. -/
  pad : {t : Text // ∀ c ∈ t, Text.isBlank c = true}

namespace Style

def loopWord (s : Style) : Text := if s.long then "foreach".toList else "for".toList

def named (s : Style) (name : Text) : Text := if s.sigil then '$' :: name else name

def padded (s : Style) (t : Text) : Text := s.pad ++ t ++ s.pad

end Style

def phrase (s : Style) : Directive → Text
  | output expr true => expr
  | output expr false => rawSigil :: (s.pad ++ expr)
  | assign name expr =>
      "assign".toList ++ (s.gap ++ (s.named name ++ (s.pad ++ '=' :: (s.pad ++ expr))))
  | forRange name init cond step =>
      s.loopWord ++ (s.gap ++ (s.named name ++ (s.pad ++
        '=' :: (s.padded init ++ ';' :: (s.padded cond ++ ';' :: (s.pad ++ step))))))
  | forEach name mode expr =>
      s.loopWord ++ (s.gap ++ (s.named name ++ (s.middle ++ (mode.word ++ (s.last ++ expr)))))
  | endFor => '/' :: s.loopWord
  | ifThen cond => "if".toList ++ (s.gap ++ cond)
  | elseIf cond => "else".toList ++ (s.gap ++ ("if".toList ++ (s.middle ++ cond)))
  | otherwise => "else".toList
  | endIf => "/if".toList
  | serialize expr => "serialize".toList ++ (s.gap ++ expr)
  | hasContent => "hascontent".toList
  | content => "content".toList
  | endContent => "/content".toList
  | endHasContent => "/hascontent".toList
  | «include» name => "include".toList ++ (s.gap ++ name)

/-! ## Directives that can be written -/

def IsName : Text → Prop
  | [] => False
  | c :: rest => isIdentStart c = true ∧ ∀ d ∈ rest, isIdentChar d = true

instance : DecidablePred IsName
  | [] => inferInstanceAs (Decidable False)
  | c :: rest =>
    inferInstanceAs (Decidable (isIdentStart c = true ∧ ∀ d ∈ rest, isIdentChar d = true))

/-- An expression without blanks at its ends. -/
def IsExpr (t : Text) : Prop := t ≠ [] ∧ Text.strip t = t

instance : DecidablePred IsExpr := fun t => inferInstanceAs (Decidable (t ≠ [] ∧ Text.strip t = t))

def isQuote (c : Char) : Bool := c == '\x27' || c == '\x22'

/-- A directive whose parts do not run into what stands around them. -/
def Normal : Directive → Prop
  | output expr true => Text.strip expr = expr ∧ ∀ rule ∈ rules, rule expr = none
  | output expr false => IsExpr expr
  | assign name expr => IsName name ∧ IsExpr expr ∧ expr.head? ≠ some '='
  | forRange name init cond step =>
      IsName name ∧ (IsExpr init ∧ ';' ∉ init) ∧ (IsExpr cond ∧ ';' ∉ cond) ∧ IsExpr step
  | forEach name _ expr => IsName name ∧ IsExpr expr
  | ifThen expr | elseIf expr | serialize expr => IsExpr expr
  | «include» name => IsExpr name ∧ '\n' ∉ name ∧
      (∀ c ∈ name.head?, isQuote c = false) ∧ ∀ c ∈ name.getLast?, isQuote c = false
  | _ => True

/-! ## Characters -/

theorem toNat_of_isIdentChar {c : Char} (h : isIdentChar c = true) :
    48 ≤ c.toNat ∧ c.toNat ≤ 122 := by
  have hrange : (((65 ≤ c.toNat ∧ c.toNat ≤ 90) ∨ (97 ≤ c.toNat ∧ c.toNat ≤ 122)) ∨
      (48 ≤ c.toNat ∧ c.toNat ≤ 57)) ∨ c = '_' := by
    refine (Bool.or_eq_true_iff.1 h).imp (fun h => ?_) beq_iff_eq.1
    refine (Bool.or_eq_true_iff.1 h).imp (fun h => ?_) Char.isDigit_iff_toNat.1
    refine (Bool.or_eq_true_iff.1 h).imp (fun h => ?_) fun h => ?_
    · exact of_decide_eq_true h
    · exact (Bool.and_eq_true_iff.1 h).imp of_decide_eq_true of_decide_eq_true
  rcases hrange with h | rfl
  · omega
  · decide

theorem isBlank_of_isIdentChar {c : Char} (h : isIdentChar c = true) : Text.isBlank c = false := by
  obtain ⟨hlow, hhigh⟩ := toNat_of_isIdentChar h
  exact Text.isBlank_eq_false (by omega) (by omega)

theorem isIdentChar_of_isIdentStart {c : Char} (h : isIdentStart c = true) :
    isIdentChar c = true := by
  simp only [isIdentStart, isIdentChar, Char.isAlphanum, Bool.or_eq_true] at h ⊢
  exact h.imp_left .inl

theorem isIdentChar_of_isBlank {c : Char} (h : Text.isBlank c = true) : isIdentChar c = false := by
  by_contra hident
  rw [isBlank_of_isIdentChar (by simpa using hident)] at h
  cases h

/-! ## Reading what has been written -/

section

variable {word name expr rest gap pad : Text}

theorem IsExpr.head? (h : IsExpr expr) : ∀ c ∈ expr.head?, Text.isBlank c = false :=
  (Text.strip_eq_self_iff.1 h.2).1

theorem IsExpr.getLast? (h : IsExpr expr) : ∀ c ∈ expr.getLast?, Text.isBlank c = false :=
  (Text.strip_eq_self_iff.1 h.2).2

theorem strip_pad_append (hpad : ∀ c ∈ pad, Text.isBlank c = true) (h : IsExpr expr) :
    Text.strip (pad ++ expr) = expr := by
  have hstrip : Text.strip (pad ++ expr ++ []) = Text.strip expr :=
    Text.strip_append_blanks expr hpad (by simp)
  rwa [List.append_nil, h.2] at hstrip

theorem Style.strip_padded (s : Style) (h : IsExpr expr) : Text.strip (s.padded expr) = expr :=
  (Text.strip_append_blanks expr s.pad.2 s.pad.2).trans h.2

theorem keyword?_append (word : Text) (hgap : IsGap gap)
    (hrest : ∀ c ∈ rest.head?, Text.isBlank c = false) :
    keyword? word (word ++ (gap ++ rest)) = some rest :=
  keyword?_eq_some_iff.2 ⟨gap, hgap, rfl, hrest⟩

theorem blanks?_append (hgap : IsGap gap) (hrest : ∀ c ∈ rest.head?, Text.isBlank c = false) :
    blanks? (gap ++ rest) = some rest :=
  blanks?_eq_some_iff.2 ⟨gap, hgap, rfl, hrest⟩

theorem head?_append_blanks {p : Char → Bool} (hpad : ∀ c ∈ pad, Text.isBlank c = true)
    (hp : ∀ c, Text.isBlank c = true → p c = false) (hrest : ∀ c ∈ rest.head?, p c = false) :
    ∀ c ∈ (pad ++ rest).head?, p c = false := by
  cases pad with
  | nil => exact hrest
  | cons d pad =>
      rintro c ⟨⟩
      exact hp _ (hpad _ (.head _))

theorem ident?_append (hname : IsName name) (hrest : ∀ c ∈ rest.head?, isIdentChar c = false) :
    ident? (name ++ rest) = some (name, rest) := by
  cases name with
  | nil => cases hname
  | cons c more =>
      obtain ⟨hc, hmore⟩ := hname
      rw [List.cons_append, ident?, if_pos hc, Text.takeWhile_run hmore hrest,
        Text.dropWhile_run hmore hrest]

namespace Style

variable (s : Style)

theorem name?_named (hname : IsName name) (hrest : ∀ c ∈ rest.head?, isIdentChar c = false) :
    name? (s.named name ++ rest) = some (name, rest) := by
  unfold named
  split
  · exact ident?_append hname hrest
  · cases name with
    | nil => cases hname
    | cons c more =>
        have hc : c ≠ '$' := by
          rintro rfl
          exact absurd hname.1 (by decide)
        have hplain : name? (c :: more ++ rest) = ident? (c :: more ++ rest) := by
          rw [name?]
          rintro tail ⟨⟩
          exact hc rfl
        rw [hplain, ident?_append hname hrest]

theorem head?_named (hname : IsName name) (rest : Text) :
    ∀ c ∈ (s.named name ++ rest).head?, Text.isBlank c = false := by
  unfold named
  split
  · rintro c ⟨⟩
    decide
  · cases name with
    | nil => cases hname
    | cons c more =>
        rintro d ⟨⟩
        exact isBlank_of_isIdentChar (isIdentChar_of_isIdentStart hname.1)

theorem loopKeyword?_append (hrest : ∀ c ∈ rest.head?, Text.isBlank c = false) :
    loopKeyword? (s.loopWord ++ (s.gap ++ rest)) = some rest := by
  have hkeyword := keyword?_append s.loopWord s.gap.2 hrest
  unfold loopKeyword?
  cases hlong : s.long with
  | true =>
      simp only [loopWord, hlong, if_true] at hkeyword ⊢
      rw [hkeyword, Option.some_or]
  | false =>
      simp only [loopWord, hlong, Bool.false_eq_true, if_false] at hkeyword ⊢
      have hnone : keyword? "foreach".toList ("for".toList ++ (s.gap ++ rest)) = none := by
        by_contra hsome
        obtain ⟨behind, hbehind⟩ := Option.ne_none_iff_exists'.1 hsome
        have hword := firstWord_of_keyword? (by decide +kernel) hbehind
        rw [firstWord_of_keyword? (by decide +kernel) hkeyword] at hword
        exact absurd hword (by decide +kernel)
      rw [hnone, hkeyword, Option.none_or]

theorem head?_sign (t : Text) : ∀ c ∈ (s.pad ++ '=' :: t).head?, isIdentChar c = false :=
  head?_append_blanks s.pad.2 (fun _ => isIdentChar_of_isBlank) (by rintro c ⟨⟩; decide)

theorem dropWhile_sign (t : Text) : (s.pad ++ '=' :: t).dropWhile Text.isBlank = '=' :: t :=
  Text.dropWhile_run s.pad.2 (by rintro c ⟨⟩; decide)

theorem cut?_padded (ht : ';' ∉ expr) :
    Text.cut? [';'] (s.padded expr ++ ';' :: rest) = some (s.padded expr, rest) := by
  have hpad : ';' ∉ s.pad.1 := fun h => absurd (s.pad.2 _ h) (by decide)
  refine Text.cut?_append (List.not_mem_nil) (fun h => ?_) rest
  have hmem : ';' ∈ s.padded expr := h.subset (.head _)
  simp [padded, hpad, ht] at hmem

end Style

end

section

variable (s : Style) {name expr init cond step : Text} {mode : IterMode}

theorem assign?_written (h : Normal (assign name expr)) :
    assign? ("assign".toList ++ (s.gap ++ (s.named name ++ (s.pad ++ '=' :: (s.pad ++ expr))))) =
      some (assign name expr) := by
  obtain ⟨hname, hexpr, hsign⟩ := h
  have hkeyword := keyword?_append "assign".toList s.gap.2
    (s.head?_named hname (s.pad ++ '=' :: (s.pad ++ expr)))
  have hsingle : ∀ c ∈ (s.pad ++ expr).head?, (c == '=') = false := by
    refine head?_append_blanks s.pad.2 (fun c hc => ?_) fun c hc => ?_
    · refine beq_eq_false_iff_ne.2 fun heq => ?_
      rw [heq] at hc
      cases hc
    · exact beq_eq_false_iff_ne.2 fun heq => hsign (heq ▸ hc)
  simp only [assign?, hkeyword, s.name?_named hname (s.head?_sign _), s.dropWhile_sign,
    Option.bind_eq_bind, Option.bind_some]
  split
  · next heq =>
      obtain ⟨-, heq⟩ := List.cons.inj heq
      cases hsingle '=' (by rw [heq]; rfl)
  · next heq =>
      obtain ⟨-, rfl⟩ := List.cons.inj heq
      rw [strip_pad_append s.pad.2 hexpr]
  · next hno => exact absurd rfl (hno _)

theorem forRange?_written (h : Normal (forRange name init cond step)) :
    forRange? (s.loopWord ++ (s.gap ++ (s.named name ++ (s.pad ++
      '=' :: (s.padded init ++ ';' :: (s.padded cond ++ ';' :: (s.pad ++ step))))))) =
      some (forRange name init cond step) := by
  obtain ⟨hname, ⟨hinit, hinitMark⟩, ⟨hcond, hcondMark⟩, hstep⟩ := h
  simp only [forRange?, s.loopKeyword?_append (s.head?_named hname _),
    s.name?_named hname (s.head?_sign _), s.dropWhile_sign, s.cut?_padded hinitMark,
    s.cut?_padded hcondMark, Option.bind_eq_bind, Option.bind_some, s.strip_padded hinit,
    s.strip_padded hcond, strip_pad_append s.pad.2 hstep]

theorem forEach?_written (h : Normal (forEach name mode expr)) :
    forEach? (s.loopWord ++ (s.gap ++ (s.named name ++ (s.middle ++ (mode.word ++
      (s.last ++ expr)))))) = some (forEach name mode expr) := by
  obtain ⟨hname, hexpr⟩ := h
  have hword : ∀ c ∈ (mode.word ++ (s.last ++ expr)).head?, Text.isBlank c = false := by
    cases mode <;> rintro c ⟨⟩ <;> decide
  have hmiddle : ∀ c ∈ (s.middle ++ (mode.word ++ (s.last ++ expr))).head?,
      isIdentChar c = false := fun c hc =>
    isIdentChar_of_isBlank <| s.middle.2.2 c <| List.mem_of_mem_head? <| by
      rwa [List.head?_append_of_ne_nil _ s.middle.2.1] at hc
  have hmode := keyword?_append mode.word s.last.2 hexpr.head?
  simp only [forEach?, s.loopKeyword?_append (s.head?_named hname _),
    s.name?_named hname hmiddle, blanks?_append s.middle.2 hword, Option.bind_eq_bind,
    Option.bind_some]
  cases mode with
  | values => simp only [hmode, hexpr.2]
  | keys =>
      have hnone : keyword? IterMode.values.word (IterMode.keys.word ++ (s.last ++ expr)) = none :=
        rfl
      simp only [hnone, hmode, hexpr.2]

theorem ifThen?_written (h : IsExpr cond) :
    ifThen? ("if".toList ++ (s.gap ++ cond)) = some (ifThen cond) := by
  rw [ifThen?, keyword?_append _ s.gap.2 h.head?, Option.map_some, h.2]

theorem elseIf?_written (h : IsExpr cond) :
    elseIf? ("else".toList ++ (s.gap ++ ("if".toList ++ (s.middle ++ cond)))) =
      some (elseIf cond) := by
  have hsecond : ∀ c ∈ ("if".toList ++ (s.middle ++ cond)).head?, Text.isBlank c = false := by
    rintro c ⟨⟩
    decide
  rw [elseIf?, keyword?_append _ s.gap.2 hsecond, Option.bind_eq_bind, Option.bind_some,
    keyword?_append _ s.middle.2 h.head?, Option.map_some, h.2]

theorem serialize?_written (h : IsExpr expr) :
    serialize? ("serialize".toList ++ (s.gap ++ expr)) = some (serialize expr) := by
  rw [serialize?, keyword?_append _ s.gap.2 h.head?, Option.map_some, h.2]

theorem raw?_written (h : IsExpr expr) :
    raw? (rawSigil :: (s.pad ++ expr)) = some (output expr false) := by
  rw [raw?, if_pos rfl, strip_pad_append s.pad.2 h]

theorem include?_written (h : Normal («include» name)) :
    include? ("include".toList ++ (s.gap ++ name)) = some («include» name) := by
  obtain ⟨hname, hline, hhead, hlast⟩ := h
  have hone : (name.isEmpty || name.contains '\n') = false := by
    simp [hname.1, hline]
  have hquotes : Text.stripBoth (fun c => c == '\x27' || c == '\x22') name = name :=
    Text.stripBoth_eq_self hhead hlast
  simp only [include?, keyword?_append _ s.gap.2 hname.head?, Option.bind_eq_bind, Option.bind_some,
    hone, hname.2, hquotes]
  rfl

theorem endFor?_written : endFor? ('/' :: s.loopWord) = some endFor := by
  unfold Style.loopWord
  cases s.long <;> rfl

/-! ## Trimmed texts -/

theorem IsExpr.strip_append (h : IsExpr expr) (front middle : Text) (hne : front ≠ [])
    (hhead : ∀ c ∈ front.head?, Text.isBlank c = false) :
    Text.strip (front ++ (middle ++ expr)) = front ++ (middle ++ expr) :=
  Text.strip_enclosed middle hne h.1 hhead h.getLast?

theorem Style.loopWord_ne_nil : s.loopWord ≠ [] := by
  unfold Style.loopWord
  split <;> decide +kernel

theorem Style.head?_loopWord : ∀ c ∈ s.loopWord.head?, Text.isBlank c = false := by
  unfold Style.loopWord
  split <;> decide +kernel

theorem Style.strip_slash_loopWord : Text.strip ('/' :: s.loopWord) = '/' :: s.loopWord := by
  unfold Style.loopWord
  split <;> decide +kernel

theorem strip_phrase {d : Directive} (h : Normal d) : Text.strip (phrase s d) = phrase s d := by
  cases d with
  | output expr escape =>
      cases escape with
      | true => exact h.1
      | false => exact IsExpr.strip_append h ['@'] s.pad.1 (by decide) (by decide)
  | assign name expr =>
      have hstrip := h.2.1.strip_append "assign".toList
        (s.gap ++ (s.named name ++ (s.pad ++ '=' :: s.pad))) (by decide +kernel) (by decide +kernel)
      simp only [List.append_assoc, List.cons_append] at hstrip
      exact hstrip
  | forRange name init cond step =>
      have hstrip := h.2.2.2.strip_append s.loopWord
        (s.gap ++ (s.named name ++ (s.pad ++
          '=' :: (s.padded init ++ ';' :: (s.padded cond ++ ';' :: s.pad)))))
        s.loopWord_ne_nil s.head?_loopWord
      simp only [List.append_assoc, List.cons_append] at hstrip
      exact hstrip
  | forEach name mode expr =>
      have hstrip := h.2.strip_append s.loopWord
        (s.gap ++ (s.named name ++ (s.middle ++ (mode.word ++ s.last))))
        s.loopWord_ne_nil s.head?_loopWord
      simp only [List.append_assoc] at hstrip
      exact hstrip
  | ifThen cond => exact IsExpr.strip_append h _ s.gap.1 (by decide +kernel) (by decide +kernel)
  | elseIf cond =>
      have hstrip := IsExpr.strip_append h "else".toList
        (s.gap ++ ("if".toList ++ s.middle)) (by decide +kernel) (by decide +kernel)
      simp only [List.append_assoc] at hstrip
      exact hstrip
  | serialize expr => exact IsExpr.strip_append h _ s.gap.1 (by decide +kernel) (by decide +kernel)
  | «include» name =>
      exact IsExpr.strip_append h.1 _ s.gap.1 (by decide +kernel) (by decide +kernel)
  | endFor => exact s.strip_slash_loopWord
  | otherwise | endIf | hasContent | content | endContent | endHasContent => rfl

/-! ## Reading back -/

theorem parse_phrase {d : Directive} (h : Normal d) : parse (phrase s d) = d := by
  have hreads (rule : Text → Option Directive) (hrule : rule ∈ rules)
      (hread : rule (phrase s d) = some d) : parse (phrase s d) = d :=
    parse_of_mem hrule ((congrArg rule (strip_phrase s h)).trans hread)
  cases d with
  | output expr escape =>
      cases escape with
      | true =>
          have hnone : (rules.findSome? fun rule => rule (Text.strip expr)) = none := by
            rw [h.1]
            exact List.findSome?_eq_none_iff.2 h.2
          change (rules.findSome? fun rule => rule (Text.strip expr)).getD
            (output (Text.strip expr) true) = _
          rw [hnone, h.1, Option.getD_none]
      | false => exact hreads raw? (by simp [rules]) (raw?_written s h)
  | assign name expr => exact hreads assign? (by simp [rules]) (assign?_written s h)
  | forRange name init cond step => exact hreads forRange? (by simp [rules]) (forRange?_written s h)
  | forEach name mode expr => exact hreads forEach? (by simp [rules]) (forEach?_written s h)
  | endFor => exact hreads endFor? (by simp [rules]) (endFor?_written s)
  | ifThen cond => exact hreads ifThen? (by simp [rules]) (ifThen?_written s h)
  | elseIf cond => exact hreads elseIf? (by simp [rules]) (elseIf?_written s h)
  | serialize expr => exact hreads serialize? (by simp [rules]) (serialize?_written s h)
  | «include» name => exact hreads include? (by simp [rules]) (include?_written s h)
  | otherwise => exact hreads (word? "else".toList otherwise) (by simp [rules]) rfl
  | endIf => exact hreads (word? "/if".toList endIf) (by simp [rules]) rfl
  | hasContent => exact hreads (word? "hascontent".toList hasContent) (by simp [rules]) rfl
  | content => exact hreads (word? "content".toList content) (by simp [rules]) rfl
  | endContent => exact hreads (word? "/content".toList endContent) (by simp [rules]) rfl
  | endHasContent => exact hreads (word? "/hascontent".toList endHasContent) (by simp [rules]) rfl

end

/-- No text is read by two rules, so that their order does not matter, and a directive is read from
every way to write it. -/
theorem unambiguous_and_complete :
    (∀ t, rules.Pairwise fun r r' => r (Text.strip t) = none ∨ r' (Text.strip t) = none) ∧
      (∀ t others, others.Perm rules → parseBy others t = parse t) ∧
        ∀ (s : Style) (d : Directive), Normal d → parse (phrase s d) = d :=
  ⟨fun t => pairwise_rules (Text.strip t), fun t _ hothers => parseBy_eq_parse hothers t,
    fun s _ h => parse_phrase s h⟩

def looseStyle : Style where
  long := true
  sigil := true
  gap := ⟨"\n\t".toList, by decide +kernel, by decide +kernel⟩
  middle := ⟨[' '], by decide, by decide⟩
  last := ⟨['\n'], by decide, by decide⟩
  pad := ⟨[' '], by decide⟩

def signsInLoop : Directive :=
  forRange "of".toList "1 if $x == 2 else 3".toList "of in $of".toList "of = f(';', of)".toList

theorem unambiguous_and_complete_signsInLoop :
    rules.reverse.Perm rules ∧ Normal signsInLoop ∧
      parse "foreach\n\t$of = 1 if $x == 2 else 3 ; of in $of ; of = f(';', of)".toList =
        signsInLoop ∧
      parseBy rules.reverse (phrase looseStyle signsInLoop) = signsInLoop := by
  have hperm : rules.reverse.Perm rules := List.reverse_perm rules
  have hnormal : Normal signsInLoop :=
    ⟨by decide +kernel, ⟨by decide +kernel, by decide +kernel⟩,
      ⟨by decide +kernel, by decide +kernel⟩, by decide +kernel⟩
  have hread := unambiguous_and_complete.2.2 looseStyle signsInLoop hnormal
  exact ⟨hperm, hnormal, hread, (unambiguous_and_complete.2.1 _ _ hperm).trans hread⟩

end Stencil.Template.Directive
