import Stencil.Proofs.Eval.Numerals
import Stencil.Proofs.Template.Generating
import Stencil.Proofs.Template.Lowering
import Stencil.Proofs.Template.Printing
import Stencil.Proofs.Template.Repeating
import Stencil.Proofs.Template.Restoring
import Stencil.Proofs.Template.Tokens

/-!
# Loops that count

A loop goes from a number in steps of one size to a bound and writes out every number on its way.
Its template is read, compiled and run for all numbers that can be written in an expression.
-/

namespace Stencil.Template

open Stencil.Token (Writable)

structure Counting where
  direction : Direction
  first : Int
  bound : Int
  size : Nat
deriving DecidableEq, Repr

namespace Counting

variable (c : Counting) {step : Text}

/-! ## Templates -/

def condition : Text := 'i' :: c.direction.relation :: Text.ofInt c.bound

/-- The ways to write the step. A step by one can be an increment in front of the name or behind
it. -/
def steps : List Text :=
  ('i' :: c.direction.sign :: '=' :: Text.ofNat c.size) ::
    if c.size = 1 then
      [['i', c.direction.sign, c.direction.sign], [c.direction.sign, c.direction.sign, 'i']]
    else []

def head (step : Text) : Text :=
  "for i=".toList ++ (Text.ofInt c.first ++ ';' :: (c.condition ++ ';' :: step))

def source (step : Text) : Text :=
  '{' :: c.head step ++ "\x7d\x7b$i\x7d\x7b/for\x7d".toList

/-- The numbers of the loop can be written in expressions. -/
structure Written : Prop where
  first : Writable c.first
  bound : Writable c.bound
  size : Writable c.size

/-! ## Characters -/

def spells (ch : Char) : Bool := ch.isDigit || "i=<>+-".toList.contains ch

theorem ne_of_spells {ch d : Char} (hd : spells d = false) (h : spells ch = true) : ch ≠ d := by
  rintro rfl
  rw [hd] at h
  cases h

def Spelled (t : Text) : Prop := ∀ ch ∈ t, spells ch = true

theorem spelled_cons {ch : Char} {t : Text} :
    Spelled (ch :: t) ↔ spells ch = true ∧ Spelled t := List.forall_mem_cons

theorem spelled_nil : Spelled [] := List.forall_mem_nil _

theorem spelled_ofNat (n : Nat) : Spelled (Text.ofNat n) := fun ch hch => by
  rw [spells, Text.isDigit_of_mem_ofNat hch, Bool.true_or]

theorem spelled_ofInt (n : Int) : Spelled (Text.ofInt n) := by
  cases n with
  | ofNat n => exact spelled_ofNat n
  | negSucc n => exact spelled_cons.2 ⟨rfl, spelled_ofNat (n + 1)⟩

theorem spells_sign : spells c.direction.sign = true := by cases c.direction <;> rfl

theorem spelled_condition : Spelled c.condition := by
  have hrelation : spells c.direction.relation = true := by cases c.direction <;> rfl
  exact spelled_cons.2 ⟨rfl, spelled_cons.2 ⟨hrelation, spelled_ofInt c.bound⟩⟩

variable {c}

theorem spelled_step (hstep : step ∈ c.steps) : Spelled step := by
  have hsign := c.spells_sign
  rw [steps, List.mem_cons] at hstep
  rcases hstep with rfl | hstep
  · simp only [spelled_cons]
    exact ⟨rfl, hsign, rfl, spelled_ofNat c.size⟩
  · split at hstep
    · simp only [List.mem_cons, List.not_mem_nil, or_false] at hstep
      rcases hstep with rfl | rfl <;> simp only [spelled_cons]
      · exact ⟨rfl, hsign, hsign, spelled_nil⟩
      · exact ⟨hsign, hsign, rfl, spelled_nil⟩
    · cases hstep

theorem Spelled.notMem {t : Text} (h : Spelled t) {ch : Char} (hch : spells ch = false) :
    ch ∉ t := fun hmem => ne_of_spells hch (h ch hmem) rfl

theorem toNat_of_spells {ch : Char} (h : spells ch = true) : 32 < ch.toNat ∧ ch.toNat < 128 := by
  rcases Bool.or_eq_true_iff.1 h with hdigit | hmark
  · obtain ⟨hlow, hhigh⟩ : 48 ≤ ch.toNat ∧ ch.toNat ≤ 57 := Char.isDigit_iff_toNat.1 hdigit
    omega
  · have hmarks : ∀ ch ∈ "i=<>+-".toList, 32 < ch.toNat ∧ ch.toNat < 128 := by decide
    exact hmarks ch (List.contains_iff_mem.1 hmark)

section

variable {P : Char → Prop}

theorem forall_mem_head (hstep : step ∈ c.steps) (hspelled : ∀ ch, spells ch = true → P ch)
    (hmarks : ∀ ch ∈ "for ;".toList, P ch) : ∀ ch ∈ c.head step, P ch := by
  have hword : ∀ ch ∈ "for i=".toList, spells ch = true ∨ ch ∈ "for ;".toList := by decide
  refine List.forall_mem_append.2 ⟨fun ch hch => (hword ch hch).elim (hspelled ch) (hmarks ch),
    List.forall_mem_append.2 ⟨fun ch hch => hspelled ch (spelled_ofInt _ ch hch), ?_⟩⟩
  simp only [List.forall_mem_append, List.forall_mem_cons]
  exact ⟨hmarks ';' (by decide), fun ch hch => hspelled ch (c.spelled_condition ch hch),
    hmarks ';' (by decide), fun ch hch => hspelled ch (spelled_step hstep ch hch)⟩

theorem forall_mem_source (hstep : step ∈ c.steps) (hspelled : ∀ ch, spells ch = true → P ch)
    (hmarks : ∀ ch ∈ "\x7b\x7d$/for ;".toList, P ch) : ∀ ch ∈ c.source step, P ch := by
  have hbetween : ∀ ch ∈ "for ;".toList, ch ∈ "\x7b\x7d$/for ;".toList := by decide
  have htail : ∀ ch ∈ "\x7d\x7b$i\x7d\x7b/for\x7d".toList,
      spells ch = true ∨ ch ∈ "\x7b\x7d$/for ;".toList := by decide
  simp only [source, List.cons_append, List.forall_mem_append, List.forall_mem_cons]
  exact ⟨hmarks '{' (by decide),
    forall_mem_head hstep hspelled fun ch hch => hmarks ch (hbetween ch hch),
    fun ch hch => (htail ch hch).elim (hspelled ch) (hmarks ch)⟩

end

theorem notMem_head (hstep : step ∈ c.steps) {ch : Char} (hch : spells ch = false)
    (hmark : ch ∉ "for ;".toList) : ch ∉ c.head step := fun hmem =>
  forall_mem_head hstep (fun _ => ne_of_spells hch) (fun _ hd heq => hmark (heq ▸ hd)) ch hmem rfl

theorem notMem_source (hstep : step ∈ c.steps) {ch : Char} (hch : spells ch = false)
    (hmark : ch ∉ "\x7b\x7d$/for ;".toList) : ch ∉ c.source step := fun hmem =>
  forall_mem_source hstep (fun _ => ne_of_spells hch) (fun _ hd heq => hmark (heq ▸ hd)) ch hmem rfl

/-! ## Reading the template -/

def placeholders (c : Counting) (step : Text) : List Placeholder :=
  [c.head step, "$i".toList, "/for".toList].map (⟨.single, false, ·⟩)

theorem balanced_of_forall {depth : Nat} {t : Text}
    (h : ∀ ch ∈ t, (ch ≠ '{' ∧ ch ≠ '}') ∧ isQuote ch = false) : Balanced depth t := by
  induction t with
  | nil => exact .nil
  | cons ch t ih =>
      obtain ⟨hch, ht⟩ := List.forall_mem_cons.1 h
      exact .char hch.1 hch.2 (ih ht)

theorem wellFormed_placeholders (hstep : step ∈ c.steps) :
    WellFormed ((c.placeholders step).map .placeholder) := by
  have hplain {ch : Char} (h : spells ch = true) : (ch ≠ '{' ∧ ch ≠ '}') ∧ isQuote ch = false := by
    have hne (d : Char) (hd : spells d = false) : ch ≠ d := ne_of_spells hd h
    simp [isQuote, hne '{' rfl, hne '}' rfl, hne '\x27' rfl, hne '\x22' rfl]
  refine ⟨by simp [placeholders], fun p hp => ?_, by simp [placeholders, Piece.MayPrecede]⟩
  simp only [placeholders, List.map_cons, List.map_nil, List.mem_cons, List.not_mem_nil, or_false,
    Piece.placeholder.injEq] at hp
  rcases hp with rfl | rfl | rfl
  · refine ⟨List.cons_ne_nil _ _, ?_, balanced_of_forall <| forall_mem_head hstep
      (fun _ => hplain) (by decide)⟩
    rintro ⟨⟩
  · exact ⟨by decide, by decide, balanced_of_forall (by decide)⟩
  · exact ⟨by decide, by decide, balanced_of_forall (by decide)⟩

theorem preprocess_source (hstep : step ∈ c.steps) (trim : Bool) :
    preprocess trim (c.source step) = c.source step := by
  have hstar : '*' ∉ c.source step := notMem_source hstep rfl (by decide)
  have hletter : 'l' ∉ c.source step := notMem_source hstep rfl (by decide)
  refine preprocess_eq_self_iff.2 ⟨fun _ => ?_, settled_of_marks_absent
    (fun h => hstar (h.subset (by decide))) (fun h => hletter (h.subset (by decide))) ?_⟩
  · rw [joinTrimmed_eq_strip]
    · have hstrip :
          Text.strip (['{'] ++ (c.head step ++ "\x7d\x7b$i\x7d\x7b/for".toList ++ ['}'])) =
            ['{'] ++ (c.head step ++ "\x7d\x7b$i\x7d\x7b/for".toList ++ ['}']) :=
        Text.strip_enclosed _ (by decide) (by decide) (by decide) (by decide)
      rw [List.append_assoc] at hstrip
      exact hstrip
    · refine forall_mem_source hstep (fun ch hch => ?_) (by decide)
      obtain ⟨hlow, hhigh⟩ := toNat_of_spells hch
      simp [Text.isLineEnd, Text.inRanges, Text.lineEndRanges]
      omega
  · refine List.Pairwise.isChain (List.pairwise_of_forall_mem_list fun ch hch _ _ heq => ?_)
    exact absurd (heq ▸ hch) (notMem_source hstep rfl (by decide))

theorem extract_source (hstep : step ∈ c.steps) (trim : Bool) :
    (extract trim (c.source step)).segments =
      number 0 0 ((c.placeholders step).map .placeholder) := by
  have hsplit := split_printed (wellFormed_placeholders hstep).legible.canonical
  have hprinted : printed ((c.placeholders step).map .placeholder) = c.source step := by
    simp [printed, placeholders, Piece.source, Placeholder.source, source]
  rw [hprinted] at hsplit
  rw [extract, preprocess_source hstep, hsplit]

/-! ## Directives -/

section

open Directive (IsExpr Normal)

theorem Spelled.isExpr {t : Text} (h : Spelled t) (hne : t ≠ []) : IsExpr t := by
  have hblank {ch : Char} (hch : ch ∈ t) : Text.isBlank ch = false :=
    Text.isBlank_eq_false (toNat_of_spells (h ch hch)).1 (toNat_of_spells (h ch hch)).2
  exact ⟨hne, Text.strip_eq_self_iff.2 ⟨fun ch hch => hblank (List.mem_of_mem_head? hch),
    fun ch hch => hblank (List.mem_of_mem_getLast? hch)⟩⟩

theorem isGap_space : Directive.IsGap [' '] :=
  ⟨List.cons_ne_nil _ _, List.forall_mem_singleton.2 rfl⟩

theorem isBlank_of_mem_nil : ∀ ch ∈ ([] : Text), Text.isBlank ch = true :=
  List.forall_mem_nil _

def style : Directive.Style where
  long := false
  sigil := false
  gap := ⟨[' '], isGap_space⟩
  middle := ⟨[' '], isGap_space⟩
  last := ⟨[' '], isGap_space⟩
  pad := ⟨[], isBlank_of_mem_nil⟩

theorem ofInt_ne_nil (n : Int) : Text.ofInt n ≠ [] := by
  cases n with
  | ofNat n => exact Text.ofNat_ne_nil n
  | negSucc n => exact List.cons_ne_nil _ _

theorem step_ne_nil (hstep : step ∈ c.steps) : step ≠ [] := by
  rintro rfl
  rw [steps] at hstep
  split at hstep <;> simp at hstep

theorem parse_head (hstep : step ∈ c.steps) : Directive.parse (c.head step) =
    .forRange "i".toList (Text.ofInt c.first) c.condition step := by
  have hfirst := spelled_ofInt c.first
  have hnormal : Normal (.forRange "i".toList (Text.ofInt c.first) c.condition step) :=
    ⟨by decide, ⟨hfirst.isExpr (ofInt_ne_nil _), hfirst.notMem rfl⟩,
      ⟨c.spelled_condition.isExpr (List.cons_ne_nil _ _), c.spelled_condition.notMem rfl⟩,
      (spelled_step hstep).isExpr (step_ne_nil hstep)⟩
  have hphrase : Directive.phrase style
      (.forRange "i".toList (Text.ofInt c.first) c.condition step) = c.head step := by
    have hpadded (t : Text) : style.padded t = t := List.append_nil _
    change style.loopWord ++ (style.gap.1 ++ (style.named "i".toList ++ (style.pad.1 ++ '=' ::
      (style.padded _ ++ ';' :: (style.padded _ ++ ';' :: (style.pad.1 ++ step)))))) = _
    rw [hpadded, hpadded]
    rfl
  rw [← hphrase, Directive.parse_phrase style hnormal]

theorem classify_head (hstep : step ∈ c.steps) :
    (Placeholder.mk .single false (c.head step)).classify =
      .forRange "i".toList (Text.ofInt c.first) c.condition step := by
  have hrestore : restoreBraces (c.head step) = c.head step :=
    restoreBraces_eq_self ⟨notMem_head hstep rfl (by decide), notMem_head hstep rfl (by decide)⟩
  rw [Placeholder.classify, Placeholder.directive]
  simp only
  rw [hrestore, Directive.parse, Text.strip_strip]
  exact parse_head hstep

theorem lower_eq_self {t : Text} (h : ∀ ch ∈ t, ch ≠ '$' ∧ isQuote ch = false) : lower t = t := by
  induction t with
  | nil => rw [lower, lowerWith]
  | cons ch t ih =>
      obtain ⟨⟨hdollar, hquote⟩, ht⟩ := List.forall_mem_cons.1 h
      rw [lower, lowerWith_cons (lexeme?_eq_none hquote hdollar)]
      exact congrArg (ch :: ·) (ih ht)

theorem Spelled.lower {t : Text} (h : Spelled t) : lower t = t := by
  refine lower_eq_self fun ch hch => ?_
  have hne (d : Char) (hd : spells d = false) : ch ≠ d := ne_of_spells hd (h ch hch)
  simp [isQuote, hne '$' rfl, hne '\x27' rfl, hne '\x22' rfl]

end

/-! ## Steps -/

theorem increment?_eq_none {t : Text} (hhead : ∀ ch ∈ t.head?, ch ≠ '+' ∧ ch ≠ '-')
    (hlast : ∀ ch ∈ t.reverse.head?, ch ≠ '+' ∧ ch ≠ '-') : increment? t = none := by
  unfold increment?
  split
  · exact absurd rfl (hhead _ rfl).1
  · exact absurd rfl (hhead _ rfl).2
  · next h => exact absurd rfl (hlast '+' (by rw [h]; rfl)).1
  · next h => exact absurd rfl (hlast '-' (by rw [h]; rfl)).2
  · rfl

theorem normalizeStep_update (h : 'i' :: c.direction.sign :: '=' :: Text.ofNat c.size ∈ c.steps) :
    normalizeStep ('i' :: c.direction.sign :: '=' :: Text.ofNat c.size) =
      'i' :: c.direction.sign :: '=' :: Text.ofNat c.size := by
  have hnone : increment? ('i' :: c.direction.sign :: '=' :: Text.ofNat c.size) = none := by
    refine increment?_eq_none (by rintro ch ⟨⟩; decide) fun ch hch => ?_
    have hlast : ch ∈ (['i', c.direction.sign, '='] ++ Text.ofNat c.size).getLast? := by
      rwa [List.head?_reverse] at hch
    rw [List.getLast?_append_of_ne_nil _ (Text.ofNat_ne_nil _)] at hlast
    have hdigit := Text.isDigit_of_mem_ofNat (List.mem_of_mem_getLast? hlast)
    constructor <;> rintro rfl <;> cases hdigit
  rw [normalizeStep, ((spelled_step h).isExpr (List.cons_ne_nil _ _)).2]
  simp only [hnone]

theorem normalizeStep_increment (d : Direction) {step : Text}
    (hstep : step ∈ [['i', d.sign, d.sign], [d.sign, d.sign, 'i']]) :
    normalizeStep step = 'i' :: ' ' :: d.sign :: '=' :: ' ' :: Text.ofNat 1 := by
  have hforms : ∀ step ∈ [['i', d.sign, d.sign], [d.sign, d.sign, 'i']],
      normalizeStep step = 'i' :: ' ' :: d.sign :: '=' :: ' ' :: Text.ofNat 1 := by
    cases d <;> decide +kernel
  exact hforms step hstep

theorem ofText?_step (hsize : Writable c.size) (hstep : step ∈ c.steps) :
    Statement.ofText? (lower (normalizeStep step)) =
      some [.update (.name "i".toList) c.direction.binaryOp (.constant (.int c.size))] := by
  have hspelled := spelled_step hstep
  rw [steps, List.mem_cons] at hstep
  rcases hstep with rfl | hstep
  · rw [normalizeStep_update (.head _), hspelled.lower]
    exact Statement.ofText?_update c.direction hsize
  · split at hstep
    · next hone =>
        rw [normalizeStep_increment c.direction hstep, lower_eq_self, hone]
        · exact Statement.ofText?_increment c.direction
        · cases c.direction <;> decide
    · cases hstep

/-! ## The program -/

def program (c : Counting) (step : Text) : Program :=
  [.openLoop "i".toList (.range (Text.ofInt c.first) c.condition (lower (normalizeStep step)))
      ('{' :: c.head step ++ ['}']),
    .output (scopeLookup scopeVariable "i".toList) true "\x7b$i\x7d".toList, .closeLoop]

theorem generate_source (hstep : step ∈ c.steps) (trim : Bool) {m : Type → Type} [Monad m]
    [LawfulMonad m] (handler : IncludeHandler m) :
    generate handler (extract trim (c.source step)).segments = pure (c.program step) := by
  have hopen (position : Nat) : (Segment.span ⟨⟨.single, false, c.head step⟩, 0, position⟩).generate
      handler = pure (c.program step).head?.toList := by
    have hclassify := classify_head hstep
    rw [Segment.generate_span (by rw [hclassify]; rfl), hclassify, Directive.instruction?,
      (spelled_ofInt c.first).lower, c.spelled_condition.lower]
    rfl
  have hvalue (position : Nat) :
      (Segment.span ⟨⟨.single, false, "$i".toList⟩, 1, position⟩).generate handler =
        pure (c.program step).tail.head?.toList := by
    have hclassify : (Placeholder.mk .single false "$i".toList).classify =
        .output "$i".toList true := by decide +kernel
    have hlower : lower "$i".toList = scopeLookup scopeVariable "i".toList := by decide +kernel
    rw [Segment.generate_span (by rw [hclassify]; rfl), hclassify, Directive.instruction?, hlower]
    rfl
  have hclose (position : Nat) :
      (Segment.span ⟨⟨.single, false, "/for".toList⟩, 2, position⟩).generate handler =
        pure [.closeLoop] := by
    have hclassify : (Placeholder.mk .single false "/for".toList).classify = .endFor := by
      decide +kernel
    rw [Segment.generate_span (by rw [hclassify]; rfl), hclassify, Directive.instruction?]
    rfl
  rw [extract_source hstep]
  simp only [placeholders, List.map_cons, List.map_nil, number, generate, hopen, hvalue, hclose,
    pure_bind]
  rfl

def lookup : Expr := .subscript (.name scopeVariable) (.constant (.str "i".toList))

def compiled (c : Counting) (template : Text) (number : Nat) (step : Text) : Compiled where
  template
  program := c.program step
  jumps := ⟨[(0, 2)], [(2, 0)], [], []⟩
  codes := [
    (0, .range ⟨number, .integer c.first⟩
      ⟨number + 1, .compare (.name "i".toList) [(c.direction.compareOp, .integer c.bound)]⟩
      ⟨number + 2, [.update (.name "i".toList) c.direction.binaryOp (.constant (.int c.size))]⟩),
    (1, .value ⟨number + 3, lookup⟩)]

theorem ofText?_lookup : Expr.ofText? (scopeLookup scopeVariable "i".toList) = some lookup := by
  have hname : Token.first? (scopeLookup scopeVariable "i".toList) =
      some (.name scopeVariable, "[\x22i\x22]".toList) := rfl
  have hopen : Token.first? "[\x22i\x22]".toList = some (.mark ['['], "\x22i\x22]".toList) := rfl
  have hkey : Token.first? "\x22i\x22]".toList = some (.str ['i'], [']']) := by cbv
  have hclose : Token.first? [']'] = some (.mark [']'], []) := rfl
  have htokens : Token.sequence? 0 (scopeLookup scopeVariable "i".toList) =
      some [.name scopeVariable, .mark ['['], .str ['i'], .mark [']']] := by
    refine (Token.sequence?_cons rfl hname (by decide) rfl).trans ?_
    refine (congrArg _ (Token.sequence?_cons rfl hopen (by decide) rfl)).trans ?_
    refine (congrArg _ (congrArg _ (Token.sequence?_cons rfl hkey (by decide) rfl))).trans ?_
    rw [Token.sequence?_cons rfl hclose (by decide) rfl, Token.sequence?]
    rfl
  obtain ⟨f, hf⟩ := Expr.exists_fuelFor (scopeLookup scopeVariable "i".toList)
  rw [Expr.ofText?, Token.ofText?_eq_sequence? (by decide), htokens, hf]
  cbv

theorem compile_program (h : c.Written) (hstep : step ∈ c.steps) (template : Text)
    (number : Nat) : compile template number (c.program step) =
      .ok (c.compiled template number step, number + 4) := by
  have hlink : link (c.program step) = .ok ⟨[(0, 2)], [(2, 0)], [], []⟩ := rfl
  have hcodes : compileFrom number 0 (c.program step) =
      .ok ((c.compiled template number step).codes, number + 4) := by
    have hcondition : Expr.ofText? c.condition = _ := Expr.ofText?_comparison c.direction h.bound
    simp only [compileFrom, program, Instruction.compile, compileValue, compileStep,
      Expr.ofText?_ofInt h.first, hcondition, ofText?_step h.size hstep, ofText?_lookup]
    rfl
  rw [compile, hlink]
  simp only [hcodes]
  rfl

end Counting

end Stencil.Template
