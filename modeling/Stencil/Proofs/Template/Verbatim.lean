import Stencil.Proofs.Template.Guarding

/-!
# Literal blocks

The text of a literal block is emitted as it is. Once the tags are gone, though, its last character
stands before what followed the block: a backslash escapes a brace there and a dollar sign becomes
the sigil of a placeholder. Unless this happens, the block only puts its text in front of the
program of what follows.
-/

namespace Stencil

namespace Template

theorem StartsBlock.opening_prefix {opening closing t : Text} (h : StartsBlock opening closing t) :
    opening <+: t := by
  obtain ⟨body, hbody, -⟩ := h
  exact ⟨body, (Text.after?_eq_some_iff.1 hbody).symm⟩

theorem ReplacesBlocks.append {opening closing : Text} {replacement f : Text → Text}
    (h : ReplacesBlocks opening closing replacement f) {t behind : Text}
    (ht : ∀ front rest, t = front ++ rest → rest ≠ [] → ¬ opening <+: rest ++ behind) :
    f (t ++ behind) = t ++ f behind := by
  induction t with
  | nil => rfl
  | cons c t ih =>
      have hstart : ¬ StartsBlock opening closing (c :: (t ++ behind)) := fun hblock =>
        ht [] (c :: t) rfl (List.cons_ne_nil _ _) hblock.opening_prefix
      rw [List.cons_append, h.char hstart, List.cons_append,
        ih fun front rest heq => ht (c :: front) rest (by rw [heq, List.cons_append])]

theorem removeComments_append {t behind : Text} (ht : ¬ commentStart <:+: t)
    (hend : t.getLast? = some '{' → behind.head? ≠ some '*') :
    removeComments (t ++ behind) = t ++ removeComments behind := by
  refine replacesBlocks_removeComments.append ?_
  rintro front rest rfl hne ⟨tail, hstart⟩
  match rest, hne with
  | [c], _ =>
      obtain ⟨rfl, rfl⟩ : '{' = c ∧ '*' :: tail = behind := by simpa [commentStart] using hstart
      exact hend (by simp) rfl
  | c :: d :: rest, _ =>
      obtain ⟨rfl, rfl, -⟩ : '{' = c ∧ '*' = d ∧ tail = rest ++ behind := by
        simpa [commentStart] using hstart
      exact ht ⟨front, rest, by simp [commentStart]⟩

theorem protectEscaped_append {t behind : Text} (ht : Unescaped t)
    (hend : t.getLast? = some '\\' → ∀ d ∈ behind.head?, d ≠ '{' ∧ d ≠ '}') :
    protectEscaped (t ++ behind) = t ++ protectEscaped behind := by
  induction t with
  | nil => rfl
  | cons c t ih =>
      rw [List.cons_append, protectEscaped_cons]
      · cases t with
        | nil => rfl
        | cons d t => rw [ih ht.tail (by simpa using hend)]; rfl
      · cases t with
        | nil => exact fun hc => hend (by simp [hc])
        | cons d t =>
            rintro hc e ⟨⟩
            exact (List.isChain_cons_cons.1 ht).1 hc

/-! ## Text before a template -/

def prependText (t : Text) : List Piece → List Piece
  | .text u :: more => .text (t ++ u) :: more
  | pieces => if t = [] then pieces else .text t :: pieces

theorem prependText_nil (pieces : List Piece) : prependText [] pieces = pieces := by
  unfold prependText
  split <;> simp

theorem prependText_eq_cons {t : Text} {pieces : List Piece} (ht : t ≠ [])
    (h : ∀ piece ∈ pieces.head?, piece.isText = false) :
    prependText t pieces = .text t :: pieces := by
  unfold prependText
  split
  · next u more => cases h (.text u) rfl
  · rw [if_neg ht]

theorem consText_prependText (c : Char) (t : Text) (pieces : List Piece) :
    consText c (prependText t pieces) = prependText (c :: t) pieces := by
  cases pieces with
  | nil => cases t <;> rfl
  | cons piece more => cases piece <;> cases t <;> rfl

theorem split_append {t behind : Text} (h : Unmarked t behind) :
    split (t ++ behind) = prependText t (split behind) := by
  induction t with
  | nil => rw [prependText_nil, List.nil_append]
  | cons c t ih =>
      obtain ⟨hnone, htail⟩ := unmarked_cons_iff.1 h
      rw [List.cons_append, split_of_placeholder?_eq_none hnone, ih htail, consText_prependText]

/-- The program that writes a text before what the program of the segments does. Plain text at
their start runs on from it. -/
def putBefore (t : Text) (segments : List Segment) (program : Program) : Program :=
  match segments, program with
  | .chunk .. :: _, .literal u :: more => .literal (t ++ u) :: more
  | _, program => if t = [] then program else .literal t :: program

theorem putBefore_nil (segments : List Segment) (program : Program) :
    putBefore [] segments program = program := by
  unfold putBefore
  split <;> simp

theorem putBefore_eq_cons {t : Text} {segments : List Segment} (ht : t ≠ [])
    (h : ∀ s ∈ segments.head?, s.isChunk = false) (program : Program) :
    putBefore t segments program = .literal t :: program := by
  unfold putBefore
  split
  · next u position more _ _ => cases h (.chunk u position) rfl
  · rw [if_neg ht]

theorem generate_prependText {m : Type → Type} [Monad m] [LawfulMonad m]
    (handler : IncludeHandler m) {t : Text} {as bs : List Segment}
    (h : as.map Segment.piece = prependText t (bs.map Segment.piece)) :
    generate handler as = putBefore (restoreBraces t) bs <$> generate handler bs := by
  have hpieces (cs : List Segment)
      (hcs : cs.map Segment.piece = prependText t (bs.map Segment.piece)) :
      generate handler as = generate handler cs :=
    generate_eq_of_map_piece handler (h.trans hcs.symm)
  by_cases ht : t = []
  · obtain rfl := ht
    rw [hpieces bs (prependText_nil _).symm, show restoreBraces [] = [] from rfl,
      funext (putBefore_nil bs), id_map']
  by_cases hchunk : ∀ s ∈ bs.head?, s.isChunk = false
  · have hmap : (Segment.chunk t 0 :: bs).map Segment.piece =
        prependText t (bs.map Segment.piece) := by
      rw [prependText_eq_cons ht (by simpa using hchunk)]
      rfl
    have hne : restoreBraces t ≠ [] := by simpa [restoreBraces] using ht
    rw [hpieces _ hmap, funext (putBefore_eq_cons hne hchunk)]
    simp [generate, Segment.generate]
  · cases bs with
    | nil => simp at hchunk
    | cons b more =>
        cases b with
        | span s => simp at hchunk
        | chunk u position =>
            rw [hpieces (.chunk (t ++ u) position :: more) rfl]
            simp [generate, Segment.generate, putBefore, restoreBraces]

/-! ## Literal blocks -/

def literalBlock (t : Text) : Text := literalStart ++ (t ++ literalEnd)

/-- The last character of a text makes a brace behind it plain text, or becomes the sigil of a
placeholder behind it. -/
def Attaches (t behind : Text) : Prop :=
  (t.getLast? = some '\\' ∧ (behind.head? = some '{' ∨ behind.head? = some '}')) ∨
    (t.getLast? = some '$' ∧ behind.head? = some '{' ∧ (placeholder? behind).isSome)

instance (t behind : Text) : Decidable (Attaches t behind) :=
  inferInstanceAs (Decidable (_ ∨ _))

theorem preprocess_literalBlock {t : Text} (hcomment : ¬ commentStart <:+: t)
    (hend : ¬ literalEnd <:+: t) (behind : Text) :
    preprocess false (literalBlock t ++ behind) =
      protectEscaped (protectBraces t ++ protectLiterals (removeComments behind)) := by
  have hremoved : removeComments (literalBlock t ++ behind) =
      literalStart ++ (t ++ (literalEnd ++ removeComments behind)) := by
    rw [literalBlock, List.append_assoc, List.append_assoc, removeComments_append (by decide),
      removeComments_append hcomment, removeComments_append (by decide)]
    · exact fun h => absurd h (by decide)
    · exact fun _ => by simp [literalEnd]
    · exact fun h => absurd h (by decide)
  have hcut : Text.cut? literalEnd (t ++ (literalEnd ++ removeComments behind)) =
      some (t, removeComments behind) := Text.cut?_append (by decide) hend _
  rw [preprocess, if_neg Bool.false_ne_true, hremoved,
    replacesBlocks_protectLiterals.block (Text.after?_eq_some_iff.2 rfl) hcut]

theorem preprocess_false (t : Text) :
    preprocess false t = protectEscaped (protectLiterals (removeComments t)) := rfl

theorem unescaped_protectBraces (t : Text) : Unescaped (protectBraces t) :=
  unescaped_of_notMem (notMem_protectBraces t)

theorem protectEscaped_protectBraces_append {t behind : Text}
    (hend : t.getLast? = some '\\' → ∀ d ∈ behind.head?, d ≠ '{' ∧ d ≠ '}') :
    protectEscaped (protectBraces t ++ behind) = protectBraces t ++ protectEscaped behind := by
  refine protectEscaped_append (unescaped_protectBraces t) fun hlast => hend ?_
  rwa [getLast?_protectBraces (by decide) (by decide)] at hlast

theorem head?_protectEscaped_brace {t : Text} {c : Char} (hc : c = '{' ∨ c = '}') :
    (protectEscaped t).head? = some c ↔ t.head? = some c := by
  constructor
  · intro h
    rcases head?_protectEscaped h with h | rfl | rfl
    · exact h
    · rcases hc with hc | hc <;> cases hc
    · rcases hc with hc | hc <;> cases hc
  · intro h
    obtain ⟨rest, rfl⟩ := List.head?_eq_some_iff.1 h
    rw [protectEscaped_cons (by rcases hc with rfl | rfl <;> simp)]
    rfl

section

variable {source t rest : Text}

/-- Protected text at the start of a preprocessed template goes before the program of what is behind
it. -/
theorem generate_of_preprocess_eq {m : Type → Type} [Monad m] [LawfulMonad m]
    (handler : IncludeHandler m) (hopen : openSentinel ∉ t) (hclose : closeSentinel ∉ t)
    (h : preprocess false source = protectBraces t ++ rest)
    (hunmarked : Unmarked (protectBraces t) rest) :
    generate handler (extract false source).segments =
      putBefore t (number 0 0 (split rest)) <$> generate handler (number 0 0 (split rest)) := by
  have hpieces : (extract false source).segments.map Segment.piece =
      prependText (protectBraces t) ((number 0 0 (split rest)).map Segment.piece) := by
    rw [map_piece_extract, h, split_append hunmarked, map_piece_number]
  rw [generate_prependText handler hpieces, restoreBraces_protectBraces,
    restoreBraces_eq_self ⟨hopen, hclose⟩]

theorem exists_head?_putBefore (ht : t ≠ []) (segments : List Segment) (program : Program) :
    ∃ u, (putBefore t segments program).head? = some (.literal (t ++ u)) := by
  unfold putBefore
  split
  · exact ⟨_, rfl⟩
  · exact ⟨[], by rw [if_neg ht, List.append_nil]; rfl⟩

theorem unmarked_protectBraces {behind : Text} (h : ¬ Attaches t behind) :
    Unmarked (protectBraces t) behind := by
  refine unmarked_of_sigil (notMem_protectBraces t).1 fun hlast p rest hp => ?_
  rw [getLast?_protectBraces (by decide) (by decide)] at hlast
  by_contra hsigil
  obtain ⟨-, rfl⟩ := placeholder?_eq_some_iff.1 hp
  refine h (.inr ⟨hlast, ?_, by rw [hp]; rfl⟩)
  rw [List.head?_append, p.head?_source, if_neg hsigil]
  rfl

theorem placeholder?_dollar_cons {p : Placeholder} (hhead : source.head? = some '{')
    (hp : placeholder? source = some (p, rest)) :
    placeholder? ('$' :: source) = some ({ p with valueSigil := true }, rest) := by
  obtain ⟨hdelimited, rfl⟩ := placeholder?_eq_some_iff.1 hp
  have hbare : p.valueSigil = false := by
    rw [List.head?_append, p.head?_source] at hhead
    cases hsigil : p.valueSigil with
    | false => rfl
    | true => simp [hsigil] at hhead
  refine placeholder?_eq_some_iff.2 ⟨hdelimited, ?_⟩
  rw [Placeholder.source_eq, Placeholder.source_eq, hbare]
  rfl

theorem exists_output_of_valueSigil {p : Placeholder} (h : p.valueSigil = true) :
    ∃ expr escape, p.classify = .output expr escape := by
  obtain ⟨form, valueSigil, inner⟩ := p
  obtain rfl : valueSigil = true := h
  have hraw (u : Text) (d : Directive) (hd : Directive.raw? u = some d) :
      ∃ expr, d = .output expr false := by
    unfold Directive.raw? at hd
    split at hd
    · split at hd
      · exact ⟨_, (Option.some.inj hd).symm⟩
      · cases hd
    · cases hd
  unfold Placeholder.classify
  generalize Placeholder.directive _ = u
  cases hfound : Directive.raw? u with
  | some d =>
      obtain ⟨expr, rfl⟩ := hraw u d hfound
      cases form <;> exact ⟨expr, false, by simp [hfound]⟩
  | none => cases form <;> exact ⟨u, _, by simp [hfound]; rfl⟩

theorem head?_generate_of_valueSigil {s : Span} (h : s.valueSigil = true) (more : List Segment) :
    ∃ expr escape, (generate (m := Id) none (.span s :: more)).head? =
      some (.output expr escape s.source) := by
  obtain ⟨expr, escape, hclassify⟩ := exists_output_of_valueSigil h
  refine ⟨lower expr, escape, ?_⟩
  have hfirst : (Segment.span s).generate (m := Id) none =
      [Instruction.output (lower expr) escape s.source] := by
    unfold Segment.generate
    simp only [hclassify]
    rfl
  rw [generate, hfirst]
  rfl

end

/-! ## Programs behind literal blocks -/

/-- The program of a template in which includes give nothing. -/
def programOf (source : Text) : Program :=
  generate (m := Id) none (extract false source).segments

theorem programOf_of_preprocess_eq {source t rest : Text} (hopen : openSentinel ∉ t)
    (hclose : closeSentinel ∉ t) (h : preprocess false source = protectBraces t ++ rest)
    (hunmarked : Unmarked (protectBraces t) rest) :
    programOf source = putBefore t (number 0 0 (split rest))
      (generate (m := Id) none (number 0 0 (split rest))) :=
  generate_of_preprocess_eq none hopen hclose h hunmarked

section

variable {t : Text} (hopen : openSentinel ∉ t) (hclose : closeSentinel ∉ t)
  (hcomment : ¬ commentStart <:+: t) (hend : ¬ literalEnd <:+: t) {behind : Text}

include hopen hclose hcomment hend

theorem generate_literalBlock {m : Type → Type} [Monad m] [LawfulMonad m]
    (handler : IncludeHandler m) (h : ¬ Attaches t (preprocess false behind)) :
    generate handler (extract false (literalBlock t ++ behind)).segments =
      putBefore t (extract false behind).segments <$>
        generate handler (extract false behind).segments := by
  refine generate_of_preprocess_eq handler hopen hclose ?_ (unmarked_protectBraces h)
  rw [preprocess_literalBlock hcomment hend]
  refine protectEscaped_protectBraces_append fun hlast d hd => ?_
  constructor
  · rintro rfl
    exact h (.inl ⟨hlast, .inl ((head?_protectEscaped_brace (.inl rfl)).2 hd)⟩)
  · rintro rfl
    exact h (.inl ⟨hlast, .inr ((head?_protectEscaped_brace (.inr rfl)).2 hd)⟩)

/-- A brace that is escaped by the last character of a block takes the place of that character. -/
theorem generate_literalBlock_ne_of_backslash (hlast : t.getLast? = some '\\') {c : Char}
    (hc : c = '{' ∨ c = '}') (hhead : (preprocess false behind).head? = some c) :
    programOf (literalBlock t ++ behind) ≠
      putBefore t (extract false behind).segments (programOf behind) := by
  intro heq
  have hbrace : c ≠ '$' ∧ openSentinel ≠ c ∧ closeSentinel ≠ c ∧ c ≠ '\\' := by
    rcases hc with rfl | rfl <;> decide
  obtain ⟨front, rfl⟩ := List.getLast?_eq_some_iff.1 hlast
  rw [preprocess_false, head?_protectEscaped_brace hc] at hhead
  obtain ⟨rest, hrest⟩ := List.head?_eq_some_iff.1 hhead
  have hescaped :
      protectEscaped ('\\' :: c :: rest) = protectBraces [c] ++ protectEscaped rest := by
    rcases hc with rfl | rfl <;> rfl
  have hpre : preprocess false (literalBlock (front ++ ['\\']) ++ behind) =
      protectBraces (front ++ [c]) ++ protectEscaped rest := by
    rw [preprocess_literalBlock hcomment hend, hrest, protectBraces_append, List.append_assoc,
      show protectBraces ['\\'] ++ c :: rest = '\\' :: c :: rest from rfl,
      protectEscaped_protectBraces_append (by simp), hescaped,
      protectBraces_append, List.append_assoc]
  have hunmarked : Unmarked (protectBraces (front ++ [c])) (protectEscaped rest) := by
    refine unmarked_of_notMem (notMem_protectBraces _).1 fun hdollar => ?_
    rw [getLast?_protectBraces (by decide) (by decide), List.getLast?_concat] at hdollar
    exact absurd (Option.some.inj hdollar) hbrace.1
  have hsentinel (d : Char) (hd : d ∉ front ++ ['\\']) (hne : d ≠ c) : d ∉ front ++ [c] := by
    simp_all
  rw [programOf_of_preprocess_eq (hsentinel _ hopen hbrace.2.1) (hsentinel _ hclose hbrace.2.2.1)
    hpre hunmarked] at heq
  obtain ⟨u, hu⟩ := exists_head?_putBefore (t := front ++ [c]) (by simp) _ _
  obtain ⟨v, hv⟩ := exists_head?_putBefore (t := front ++ ['\\']) (by simp) _ _
  have hheads := hu.symm.trans ((congrArg List.head? heq).trans hv)
  rw [Option.some.injEq, Instruction.literal.injEq] at hheads
  obtain ⟨hsame, -⟩ : c = '\\' ∧ u = v := by simpa using hheads
  exact hbrace.2.2.2 hsame

theorem generate_literalBlock_ne_of_dollar (hlast : t.getLast? = some '$')
    (hhead : (preprocess false behind).head? = some '{')
    (hread : (placeholder? (preprocess false behind)).isSome) :
    programOf (literalBlock t ++ behind) ≠
      putBefore t (extract false behind).segments (programOf behind) := by
  intro heq
  obtain ⟨front, rfl⟩ := List.getLast?_eq_some_iff.1 hlast
  obtain ⟨⟨p, rest⟩, hp⟩ := Option.isSome_iff_exists.1 hread
  -- The placeholder that is read has the dollar sign as its sigil.
  let q : Placeholder := { p with valueSigil := true }
  have hsplit : split ('$' :: preprocess false behind) = .placeholder q :: split rest :=
    split_of_placeholder? (placeholder?_dollar_cons hhead hp)
  have hpre : preprocess false (literalBlock (front ++ ['$']) ++ behind) =
      protectBraces front ++ '$' :: preprocess false behind := by
    rw [preprocess_literalBlock hcomment hend, protectEscaped_protectBraces_append (by simp),
      ← preprocess_false, protectBraces_append, List.append_assoc]
    rfl
  have hunmarked : Unmarked (protectBraces front) ('$' :: preprocess false behind) :=
    unmarked_of_notMem (notMem_protectBraces _).1 (by simp)
  rw [programOf_of_preprocess_eq (by simp_all) (by simp_all) hpre hunmarked, hsplit] at heq
  have hbehind : ∀ s ∈ (extract false behind).segments.head?, s.isChunk = false := by
    rw [extract, split_of_placeholder? hp]
    rintro s ⟨⟩
    rfl
  have hhead := congrArg List.head? (heq.trans (putBefore_eq_cons (by simp) hbehind _))
  rw [number] at hhead
  cases front with
  | nil =>
      obtain ⟨expr, escape, hvalue⟩ :=
        head?_generate_of_valueSigil (s := { q with index := 0, position := 0 }) rfl
          (number 1 (0 + q.source.length) (split rest))
      rw [putBefore_nil, hvalue] at hhead
      cases hhead
  | cons c front =>
      rw [putBefore_eq_cons (List.cons_ne_nil c front) (by rintro s ⟨⟩; rfl)] at hhead
      have hsame : c :: front = c :: front ++ ['$'] :=
        Instruction.literal.inj (Option.some.inj hhead)
      simp at hsame

end

/-- A literal block puts its text before the program of what is behind it exactly if its last
character does not attach to that. -/
theorem generate_literalBlock_iff {t : Text} (hopen : openSentinel ∉ t) (hclose : closeSentinel ∉ t)
    (hcomment : ¬ commentStart <:+: t) (hend : ¬ literalEnd <:+: t) (behind : Text) :
    (∀ (m : Type → Type) [Monad m] [LawfulMonad m] (handler : IncludeHandler m),
      generate handler (extract false (literalBlock t ++ behind)).segments =
        putBefore t (extract false behind).segments <$>
          generate handler (extract false behind).segments) ↔
      ¬ Attaches t (preprocess false behind) := by
  constructor
  · rintro h (⟨hlast, hhead | hhead⟩ | ⟨hlast, hhead, hread⟩)
    · exact generate_literalBlock_ne_of_backslash hopen hclose hcomment hend hlast (.inl rfl) hhead
        (h Id none)
    · exact generate_literalBlock_ne_of_backslash hopen hclose hcomment hend hlast (.inr rfl) hhead
        (h Id none)
    · exact generate_literalBlock_ne_of_dollar hopen hclose hcomment hend hlast hhead hread
        (h Id none)
  · intro h m _ _ handler
    exact generate_literalBlock hopen hclose hcomment hend handler h

def quotedPlaceholder : Text := "\x7b$x\x7d\\$".toList

def spacedPlaceholder : Text := " \x7b$y\x7d".toList

theorem generate_literalBlock_iff_quotedPlaceholder :
    openSentinel ∉ quotedPlaceholder ∧ closeSentinel ∉ quotedPlaceholder ∧
      ¬ commentStart <:+: quotedPlaceholder ∧ ¬ literalEnd <:+: quotedPlaceholder ∧
      programOf (literalBlock quotedPlaceholder ++ spacedPlaceholder) =
        [.literal (quotedPlaceholder ++ [' ']),
          .output (lower "$y".toList) true "\x7b$y\x7d".toList] := by
  have hopen : openSentinel ∉ quotedPlaceholder := by decide +kernel
  have hclose : closeSentinel ∉ quotedPlaceholder := by decide +kernel
  have hcomment : ¬ commentStart <:+: quotedPlaceholder := by decide +kernel
  have hend : ¬ literalEnd <:+: quotedPlaceholder := by decide +kernel
  have hfree : ¬ Attaches quotedPlaceholder (preprocess false spacedPlaceholder) := by
    decide +kernel
  refine ⟨hopen, hclose, hcomment, hend, ?_⟩
  have hprogram : programOf (literalBlock quotedPlaceholder ++ spacedPlaceholder) =
      putBefore quotedPlaceholder (extract false spacedPlaceholder).segments
        (programOf spacedPlaceholder) :=
    (generate_literalBlock_iff hopen hclose hcomment hend spacedPlaceholder).2 hfree Id none
  rw [hprogram]
  decide +kernel

def barePlaceholder : Text := "\x7bx\x7d".toList

/-- The dollar sign is not written out and the placeholder has become a value. -/
theorem not_verbatim_dollar :
    programOf (literalBlock ['$'] ++ barePlaceholder) =
        [.output ['x'] true ('$' :: barePlaceholder)] ∧
      putBefore ['$'] (extract false barePlaceholder).segments (programOf barePlaceholder) =
        [.literal ['$'], .output ['x'] true barePlaceholder] := by
  constructor <;> decide +kernel

end Template

end Stencil
