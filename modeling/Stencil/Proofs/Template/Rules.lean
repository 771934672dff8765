import Mathlib.Data.List.Basic
import Stencil.Template.Directive
import Stencil.Proofs.Text.Trimming

/-!
# The rules of directives exclude each other

A text starts with the keyword of at most one rule. The two kinds of loops share their keywords and
differ in what stands behind the name. So no text is read by two rules, and a directive does not
depend on the order in which the rules are tried.
-/

namespace Stencil.Template.Directive

/-! ## Keywords -/

def IsGap (t : Text) : Prop := t ≠ [] ∧ ∀ c ∈ t, Text.isBlank c = true

section

variable {word t rest : Text}

theorem blanks?_eq_some_iff :
    blanks? t = some rest ↔
      ∃ gap, IsGap gap ∧ t = gap ++ rest ∧ ∀ c ∈ rest.head?, Text.isBlank c = false := by
  constructor
  · intro h
    cases t with
    | nil => cases h
    | cons c t =>
        obtain ⟨hc, heq⟩ := Option.ite_none_right_eq_some.1 h
        obtain rfl := Option.some.inj heq
        refine ⟨c :: t.takeWhile Text.isBlank, ⟨List.cons_ne_nil _ _, ?_⟩, ?_, ?_⟩
        · exact List.forall_mem_cons.2 ⟨hc, List.all_eq_true.1 List.all_takeWhile⟩
        · rw [List.cons_append, List.takeWhile_append_dropWhile]
        · intro d hd
          have hhead := List.head?_dropWhile_not Text.isBlank t
          rw [Option.mem_def.1 hd] at hhead
          simpa using hhead
  · rintro ⟨gap, ⟨hne, hblank⟩, rfl, hrest⟩
    cases gap with
    | nil => exact absurd rfl hne
    | cons c gap =>
        obtain ⟨hc, hblank⟩ := List.forall_mem_cons.1 hblank
        rw [List.cons_append, blanks?, if_pos hc, Text.dropWhile_run hblank hrest]

theorem keyword?_eq_some_iff :
    keyword? word t = some rest ↔
      ∃ gap, IsGap gap ∧ t = word ++ (gap ++ rest) ∧ ∀ c ∈ rest.head?, Text.isBlank c = false := by
  simp only [keyword?, Option.bind_eq_bind, Option.bind_eq_some_iff, Text.after?_eq_some_iff,
    blanks?_eq_some_iff]
  constructor
  · rintro ⟨behind, rfl, gap, hgap, rfl, hrest⟩
    exact ⟨gap, hgap, rfl, hrest⟩
  · rintro ⟨gap, hgap, rfl, hrest⟩
    exact ⟨_, rfl, gap, hgap, rfl, hrest⟩

def firstWord (t : Text) : Text := t.takeWhile (!Text.isBlank ·)

theorem firstWord_of_keyword? (hword : ∀ c ∈ word, Text.isBlank c = false)
    (h : keyword? word t = some rest) : firstWord t = word := by
  obtain ⟨gap, ⟨hne, hblank⟩, rfl, -⟩ := keyword?_eq_some_iff.1 h
  refine Text.takeWhile_run (by simpa using hword) fun c hc => ?_
  rw [List.head?_append_of_ne_nil _ hne] at hc
  simp [hblank c (List.mem_of_mem_head? hc)]

theorem firstWord_of_loopKeyword? (h : loopKeyword? t = some rest) :
    firstWord t = "for".toList ∨ firstWord t = "foreach".toList := by
  rcases Option.or_eq_some_iff.1 h with h | ⟨-, h⟩
  · exact .inr (firstWord_of_keyword? (by decide +kernel) h)
  · exact .inl (firstWord_of_keyword? (by decide +kernel) h)

end

/-! ## The rule of a text -/

def keywords : List (Text × Nat) := [("assign", 0), ("/for", 3), ("/foreach", 3), ("if", 4),
  ("/if", 7), ("serialize", 8), ("hascontent", 9), ("content", 10), ("/content", 11),
  ("/hascontent", 12), ("include", 13)].map fun (word, place) => (word.toList, place)

def isRange (t : Text) : Bool :=
  match loopKeyword? t >>= name? with
  | some (_, rest) => (rest.dropWhile Text.isBlank).head? == some '='
  | none => false

/-- The place of the only rule that can read a text. -/
def place (t : Text) : Nat :=
  match keywords.lookup (firstWord t) with
  | some n => n
  | none =>
    if firstWord t = "else".toList then
      if t = "else".toList then 6 else 5
    else if firstWord t = "for".toList ∨ firstWord t = "foreach".toList then
      if isRange t then 1 else 2
    else 14

section

variable {word t rest : Text} {d : Directive} {n : Nat}

theorem lookup_of_mem_keywords : ∀ e ∈ keywords,
    keywords.lookup e.1 = some e.2 ∧ ∀ c ∈ e.1, Text.isBlank c = false := by
  decide +kernel

theorem place_of_keyword? (hword : (word, n) ∈ keywords) (h : keyword? word t = some rest) :
    place t = n := by
  obtain ⟨hlookup, hblank⟩ := lookup_of_mem_keywords _ hword
  rw [place, firstWord_of_keyword? hblank h, hlookup]

theorem place_of_mem_keywords (hword : (word, n) ∈ keywords) : place word = n := by
  obtain ⟨hlookup, hblank⟩ := lookup_of_mem_keywords _ hword
  have hfirst : firstWord word = word :=
    List.takeWhile_eq_self_iff.2 fun c hc => by rw [hblank c hc]; rfl
  rw [place, hfirst, hlookup]

theorem place_of_word? {d' : Directive} (hword : (word, n) ∈ keywords)
    (h : word? word d' t = some d) : place t = n := by
  obtain ⟨rfl, -⟩ := Option.ite_none_right_eq_some.1 h
  exact place_of_mem_keywords hword

theorem place_of_loop (h : loopKeyword? t = some rest) : place t = if isRange t then 1 else 2 := by
  rcases firstWord_of_loopKeyword? h with hword | hword <;> rw [place, hword] <;> rfl

theorem place_of_assign? (h : assign? t = some d) : place t = 0 := by
  obtain ⟨⟨name, rest⟩, hname, -⟩ := Option.bind_eq_some_iff.1 h
  obtain ⟨behind, hkeyword, -⟩ := Option.bind_eq_some_iff.1 hname
  exact place_of_keyword? (List.mem_of_getElem? (i := 0) rfl) hkeyword

theorem place_of_forRange? (h : forRange? t = some d) : place t = 1 := by
  obtain ⟨⟨name, rest⟩, hname, hrest⟩ := Option.bind_eq_some_iff.1 h
  obtain ⟨behind, hkeyword, -⟩ := Option.bind_eq_some_iff.1 hname
  have hstart : isRange t = true := by
    simp only [isRange, hname]
    split at hrest
    next heq =>
    cases heq
    split at hrest
    · next hdrop => rw [hdrop]; rfl
    · cases hrest
  rw [place_of_loop hkeyword, if_pos hstart]

theorem head?_of_keyword? {c : Char} (hc : word.head? = some c) (h : keyword? word t = some rest) :
    t.head? = some c := by
  obtain ⟨gap, -, rfl, -⟩ := keyword?_eq_some_iff.1 h
  rw [List.head?_append, hc]
  rfl

theorem place_of_forEach? (h : forEach? t = some d) : place t = 2 := by
  obtain ⟨⟨name, rest⟩, hname, hrest⟩ := Option.bind_eq_some_iff.1 h
  obtain ⟨behind, hkeyword, -⟩ := Option.bind_eq_some_iff.1 hname
  obtain ⟨tail, htail, hmode⟩ := Option.bind_eq_some_iff.1 hrest
  obtain ⟨gap, ⟨-, hblank⟩, rfl, hhead⟩ := blanks?_eq_some_iff.1 htail
  -- Behind the name stands a word and no sign.
  have hword : tail.head? = some 'o' ∨ tail.head? = some 'i' := by
    split at hmode
    · next hof => exact .inl (head?_of_keyword? rfl hof)
    · next hin => exact .inr (head?_of_keyword? rfl hin)
    · cases hmode
  have hdrop : (gap ++ tail).dropWhile Text.isBlank = tail := Text.dropWhile_run hblank hhead
  have hstart : isRange t = false := by
    simp only [isRange, hname, hdrop]
    rcases hword with hword | hword <;> rw [hword] <;> rfl
  rw [place_of_loop hkeyword, hstart]
  rfl

theorem place_of_endFor? (h : endFor? t = some d) : place t = 3 := by
  obtain ⟨rfl | rfl, -⟩ := Option.ite_none_right_eq_some.1 h
  · exact place_of_mem_keywords (List.mem_of_getElem? (i := 1) rfl)
  · exact place_of_mem_keywords (List.mem_of_getElem? (i := 2) rfl)

theorem place_of_ifThen? (h : ifThen? t = some d) : place t = 4 := by
  obtain ⟨cond, hkeyword, -⟩ := Option.map_eq_some_iff.1 h
  exact place_of_keyword? (List.mem_of_getElem? (i := 3) rfl) hkeyword

theorem place_of_elseIf? (h : elseIf? t = some d) : place t = 5 := by
  obtain ⟨cond, hkeywords, -⟩ := Option.map_eq_some_iff.1 h
  obtain ⟨behind, hkeyword, -⟩ := Option.bind_eq_some_iff.1 hkeywords
  have hword := firstWord_of_keyword? (by decide +kernel) hkeyword
  -- A gap follows the word, so the text is not the word alone.
  have hne : t ≠ "else".toList := by
    rintro rfl
    cases hkeyword
  rw [place, hword, if_neg hne]
  rfl

theorem place_of_otherwise? {d' : Directive} (h : word? "else".toList d' t = some d) :
    place t = 6 := by
  obtain ⟨rfl, -⟩ := Option.ite_none_right_eq_some.1 h
  rfl

theorem place_of_serialize? (h : serialize? t = some d) : place t = 8 := by
  obtain ⟨expr, hkeyword, -⟩ := Option.map_eq_some_iff.1 h
  exact place_of_keyword? (List.mem_of_getElem? (i := 5) rfl) hkeyword

theorem place_of_include? (h : include? t = some d) : place t = 13 := by
  obtain ⟨name, hkeyword, -⟩ := Option.bind_eq_some_iff.1 h
  exact place_of_keyword? (List.mem_of_getElem? (i := 10) rfl) hkeyword

theorem place_of_raw? (h : raw? t = some d) : place t = 14 := by
  cases t with
  | nil => cases h
  | cons c expr =>
      obtain ⟨rfl, -⟩ := Option.ite_none_right_eq_some.1 h
      rfl

end

theorem place_of_mem_rules : ∀ p ∈ rules.zipIdx, ∀ t d, p.1 t = some d → place t = p.2 := by
  simp only [rules, List.zipIdx_cons, List.zipIdx_nil, List.forall_mem_cons]
  refine ⟨fun _ _ => place_of_assign?, fun _ _ => place_of_forRange?, fun _ _ => place_of_forEach?,
    fun _ _ => place_of_endFor?, fun _ _ => place_of_ifThen?, fun _ _ => place_of_elseIf?,
    fun _ _ => place_of_otherwise?, fun _ _ => place_of_word? (List.mem_of_getElem? (i := 4) rfl),
    fun _ _ => place_of_serialize?, fun _ _ => place_of_word? (List.mem_of_getElem? (i := 6) rfl),
    fun _ _ => place_of_word? (List.mem_of_getElem? (i := 7) rfl),
    fun _ _ => place_of_word? (List.mem_of_getElem? (i := 8) rfl),
    fun _ _ => place_of_word? (List.mem_of_getElem? (i := 9) rfl), fun _ _ => place_of_include?,
    fun _ _ => place_of_raw?, ?_⟩
  rintro p ⟨⟩

theorem pairwise_rules (t : Text) : rules.Pairwise fun r s => r t = none ∨ s t = none := by
  rw [List.pairwise_iff_getElem]
  intro i j hi hj hlt
  by_contra hboth
  obtain ⟨hr, hs⟩ := not_or.1 hboth
  obtain ⟨d, hd⟩ := Option.ne_none_iff_exists'.1 hr
  obtain ⟨d', hd'⟩ := Option.ne_none_iff_exists'.1 hs
  have hplace (k : Nat) (hk : k < rules.length) (d : Directive) (h : rules[k] t = some d) :
      place t = k :=
    place_of_mem_rules (rules[k], k)
      (List.mk_mem_zipIdx_iff_getElem?.2 (List.getElem?_eq_getElem hk)) t d h
  have := (hplace i hi d hd).symm.trans (hplace j hj d' hd')
  omega

/-! ## The order of the rules -/

/-- The directive of a text by other rules. -/
def parseBy (others : List (Text → Option Directive)) (t : Text) : Directive :=
  (others.findSome? fun rule => rule (Text.strip t)).getD (.output (Text.strip t) true)

theorem findSome?_eq_some_iff_of_pairwise {α β : Type} {f : α → Option β} {l : List α} {b : β}
    (h : l.Pairwise fun x y => f x = none ∨ f y = none) :
    l.findSome? f = some b ↔ ∃ x ∈ l, f x = some b := by
  induction l with
  | nil => simp
  | cons x l ih =>
      obtain ⟨hx, hl⟩ := List.pairwise_cons.1 h
      simp only [List.findSome?_cons, List.mem_cons, exists_eq_or_imp]
      cases hfx : f x with
      | none => simp [ih hl]
      | some c =>
          have hnone : ∀ y ∈ l, f y = none := fun y hy => (hx y hy).resolve_left (by simp [hfx])
          simp +contextual [hnone]

theorem parseBy_of_mem {others : List (Text → Option Directive)} {rule : Text → Option Directive}
    (hothers : others.Perm rules) (hrule : rule ∈ rules) {t : Text} {d : Directive}
    (h : rule (Text.strip t) = some d) : parseBy others t = d := by
  have hpair : others.Pairwise fun r s => r (Text.strip t) = none ∨ s (Text.strip t) = none :=
    (hothers.pairwise_iff fun h => h.symm).2 (pairwise_rules _)
  have hfind : (others.findSome? fun rule => rule (Text.strip t)) = some d :=
    (findSome?_eq_some_iff_of_pairwise hpair).2 ⟨rule, hothers.mem_iff.2 hrule, h⟩
  rw [parseBy, hfind, Option.getD_some]

theorem parseBy_eq_parse {others : List (Text → Option Directive)} (hothers : others.Perm rules)
    (t : Text) : parseBy others t = parse t := by
  cases hfind : rules.findSome? fun rule => rule (Text.strip t) with
  | some d =>
      obtain ⟨rule, hrule, hread⟩ := List.exists_of_findSome?_eq_some hfind
      rw [parseBy_of_mem hothers hrule hread]
      exact (parseBy_of_mem (.refl _) hrule hread).symm
  | none =>
      have hnone : (others.findSome? fun rule => rule (Text.strip t)) = none :=
        List.findSome?_eq_none_iff.2 fun rule hrule =>
          List.findSome?_eq_none_iff.1 hfind rule (hothers.mem_iff.1 hrule)
      rw [parseBy, hnone, parse, hfind]

theorem parse_of_mem {rule : Text → Option Directive} (hrule : rule ∈ rules) {t : Text}
    {d : Directive} (h : rule (Text.strip t) = some d) : parse t = d :=
  parseBy_of_mem (.refl _) hrule h

end Stencil.Template.Directive
