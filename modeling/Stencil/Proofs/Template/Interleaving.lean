import Stencil.Proofs.Template.Guarding

/-!
# Text between tokens

In a part of a snapshot any text may stand between the tokens of spans, also text that the template
did not have there. The spans and the text come back from such a part exactly if no text lends its
last character to the span behind it and the sources of the spans make up no comment and no literal
block.
-/

namespace Stencil.Template

/-! ## Parts of a snapshot as text and spans in turn -/

section

variable (first : Text) (rest : List (Span × Text))

def wovenMarkup : Text := first ++ rest.flatMap fun e => e.1.token ++ e.2

def wovenSource : Text :=
  protectBraces first ++ rest.flatMap fun e => e.1.source ++ protectBraces e.2

def junctions : List (Text × Span) := (first :: rest.map Prod.snd).zip (rest.map Prod.fst)

end

/-- The text as it is shown in front of the first placeholder, and the source of each placeholder
with the text behind it. -/
def alternation : List Piece → Text × List (Text × Text)
  | [] => ([], [])
  | .text t :: more => (restoreBraces t ++ (alternation more).1, (alternation more).2)
  | .placeholder p :: more => ([], (p.source, (alternation more).1) :: (alternation more).2)

/-- From the markup come the same spans again, with the same text between them. -/
def ReadsBack (spans : List Span) (first : Text) (rest : List (Span × Text)) : Prop :=
  ∃ text, restoreSpans spans (protectBraces (wovenMarkup first rest)) = .ok text ∧
    alternation ((extract false text).segments.map Segment.piece) =
      (first, rest.map fun e => (e.1.source, e.2))

/-- The last character of a text is not read together with braces behind it. -/
def Undisturbed (first : Text) (rest : List (Span × Text)) : Prop :=
  ∀ e ∈ junctions first rest, e.2.valueSigil = false →
    e.1.getLast? ≠ some '$' ∧ e.1.getLast? ≠ some '\\'

/-- Text without the marks that a snapshot uses itself. -/
def Foreign (t : Text) : Prop := ¬ tokenStart <:+: t ∧ openSentinel ∉ t ∧ closeSentinel ∉ t

instance : DecidablePred Foreign := fun t =>
  inferInstanceAs (Decidable (¬ tokenStart <:+: t ∧ openSentinel ∉ t ∧ closeSentinel ∉ t))

instance (first : Text) (rest : List (Span × Text)) : Decidable (Undisturbed first rest) :=
  inferInstanceAs (Decidable (∀ e ∈ junctions first rest, e.2.valueSigil = false →
    e.1.getLast? ≠ some '$' ∧ e.1.getLast? ≠ some '\\'))

def wovenSegments : (first : Text) → (rest : List (Span × Text)) → List Segment
  | first, [] => Segment.ofText first 0
  | first, (s, t) :: rest => Segment.ofText first 0 ++ .span s :: wovenSegments t rest

@[simp] theorem junctions_nil (first : Text) : junctions first [] = [] := rfl

@[simp] theorem junctions_cons (first : Text) (s : Span) (t : Text) (rest : List (Span × Text)) :
    junctions first ((s, t) :: rest) = (first, s) :: junctions t rest := rfl

section

variable {first : Text} {rest : List (Span × Text)}

theorem flatMap_snapshot_wovenSegments :
    (wovenSegments first rest).flatMap Segment.snapshot = wovenMarkup first rest := by
  induction rest generalizing first with
  | nil => simp [wovenSegments, wovenMarkup, Segment.flatMap_snapshot_ofText]
  | cons e rest ih =>
      simp [wovenSegments, ih, wovenMarkup, Segment.flatMap_snapshot_ofText, Segment.snapshot]

theorem printed_guarded_ofText (t : Text) (position : Nat) :
    printed ((Segment.ofText t position).map Segment.guarded) = protectBraces t := by
  unfold Segment.ofText
  split
  · next h =>
      rw [h]
      rfl
  · exact List.append_nil _

theorem printed_guarded_wovenSegments :
    printed ((wovenSegments first rest).map Segment.guarded) = wovenSource first rest := by
  induction rest generalizing first with
  | nil => simp [wovenSegments, wovenSource, printed_guarded_ofText]
  | cons e rest ih =>
      simp [wovenSegments, wovenSource, printed_guarded_ofText, ih, Segment.guarded, Piece.source]

theorem alternation_guarded_ofText (t : Text) (position : Nat) (more : List Piece) :
    alternation ((Segment.ofText t position).map Segment.guarded ++ more) =
      (restoreBraces t ++ (alternation more).1, (alternation more).2) := by
  unfold Segment.ofText
  split
  · next h =>
      rw [h]
      rfl
  · rw [← restoreBraces_protectBraces]
    rfl

theorem alternation_guarded_wovenSegments (h : ∀ t ∈ first :: rest.map Prod.snd, Foreign t) :
    alternation ((wovenSegments first rest).map Segment.guarded) =
      (first, rest.map fun e => (e.1.source, e.2)) := by
  induction rest generalizing first with
  | nil =>
      have hfirst := restoreBraces_eq_self (h first (.head _)).2
      have halternation := alternation_guarded_ofText first 0 []
      rw [List.append_nil, hfirst] at halternation
      rw [wovenSegments, halternation]
      simp [alternation]
  | cons e rest ih =>
      have hfirst := restoreBraces_eq_self (h first (.head _)).2
      have hrest := ih fun t ht => h t (.tail _ ht)
      rw [wovenSegments, List.map_append, alternation_guarded_ofText, hfirst, List.map_cons,
        Segment.guarded, alternation, hrest]
      simp [Placeholder.source]

theorem span_mem_wovenSegments {s : Span} (h : .span s ∈ wovenSegments first rest) :
    ∃ e ∈ rest, e.1 = s := by
  induction rest generalizing first with
  | nil => cases (Segment.mem_ofText.1 h).2
  | cons e rest ih =>
      rw [wovenSegments, List.mem_append, List.mem_cons] at h
      rcases h with h | h | h
      · cases (Segment.mem_ofText.1 h).2
      · cases h
        exact ⟨e, .head _, rfl⟩
      · obtain ⟨e', he', heq⟩ := ih h
        exact ⟨e', .tail _ he', heq⟩

theorem chunk_mem_wovenSegments {t : Text} {position : Nat}
    (h : .chunk t position ∈ wovenSegments first rest) :
    t ≠ [] ∧ t ∈ first :: rest.map Prod.snd := by
  induction rest generalizing first with
  | nil =>
      obtain ⟨hne, heq⟩ := Segment.mem_ofText.1 h
      cases heq
      exact ⟨hne, .head _⟩
  | cons e rest ih =>
      rw [wovenSegments, List.mem_append, List.mem_cons] at h
      rcases h with h | h | h
      · obtain ⟨hne, heq⟩ := Segment.mem_ofText.1 h
        cases heq
        exact ⟨hne, .head _⟩
      · cases h
      · exact ⟨(ih h).1, .tail _ (ih h).2⟩

/-! ## Where text meets a placeholder -/

theorem Undisturbed.tail {s : Span} {t : Text} (h : Undisturbed first ((s, t) :: rest)) :
    Undisturbed t rest := fun e he => h e (.tail _ he)

theorem isChain_ofText_append {R : Segment → Segment → Prop} {t : Text} {position : Nat}
    {more : List Segment} (hmore : more.IsChain R)
    (hnext : ∀ s ∈ more.head?, R (.chunk t position) s) :
    (Segment.ofText t position ++ more).IsChain R := by
  unfold Segment.ofText
  split
  · exact hmore
  · exact List.isChain_cons.2 ⟨hnext, hmore⟩

theorem isChain_wovenSegments {R : Segment → Segment → Prop}
    (hspan : ∀ (s : Span) next, R (.span s) next)
    (hjunction : ∀ e ∈ junctions first rest, R (.chunk e.1 0) (.span e.2)) :
    (wovenSegments first rest).IsChain R := by
  induction rest generalizing first with
  | nil =>
      rw [wovenSegments, ← List.append_nil (Segment.ofText first 0)]
      exact isChain_ofText_append .nil (by simp)
  | cons e rest ih =>
      refine isChain_ofText_append (List.isChain_cons.2 ⟨fun next _ => hspan e.1 next,
        ih fun e he => hjunction e (.tail _ he)⟩) ?_
      intro s hs
      cases hs
      exact hjunction _ (.head _)

theorem Undisturbed.separable (h : Undisturbed first rest)
    (hdelimited : ∀ e ∈ rest, e.1.Delimited) : Separable (wovenSegments first rest) where
  delimited s hs := by
    obtain ⟨e, he, rfl⟩ := span_mem_wovenSegments hs
    exact hdelimited e he
  nonempty t position ht := (chunk_mem_wovenSegments ht).1
  apart := by
    refine isChain_wovenSegments (fun _ _ => trivial) fun e he => ?_
    intro hsigil
    by_contra hbare
    exact (h e he (by simpa using hbare)).1 hsigil

/-! ## Restored text -/

theorem wovenSource_cons (first : Text) (s : Span) (t : Text) (rest : List (Span × Text)) :
    wovenSource first ((s, t) :: rest) =
      protectBraces first ++ (s.source ++ wovenSource t rest) := by
  simp [wovenSource]

theorem restoreSpans_wovenMarkup {spans : List Span}
    (hknown : ∀ e ∈ rest, spans[e.1.index]? = some e.1)
    (htexts : ∀ t ∈ first :: rest.map Prod.snd, Foreign t) :
    restoreSpans spans (protectBraces (wovenMarkup first rest)) = .ok (wovenSource first rest) := by
  have hrestorable : Restorable spans (wovenSegments first rest) := by
    refine ⟨fun s hs => ?_, fun t position ht => ?_, ?_⟩
    · obtain ⟨e, he, rfl⟩ := span_mem_wovenSegments hs
      exact hknown e he
    · exact (htexts t (chunk_mem_wovenSegments ht).2).1
    · exact isChain_wovenSegments (by simp) (by simp)
  rw [← flatMap_snapshot_wovenSegments, restoreSpans_snapshot hrestorable,
    printed_guarded_wovenSegments]

theorem getLast?_protectBraces_backslash {t : Text} :
    (protectBraces t).getLast? = some '\\' ↔ t.getLast? = some '\\' :=
  getLast?_protectBraces (by decide) (by decide)

theorem unescaped_source_of_mem_spans {trim : Bool} {source : Text} {s : Span}
    (h : s ∈ (extract trim source).spans) : Unescaped s.source := by
  obtain ⟨before, after, hsegments⟩ := List.append_of_mem (mem_spans_iff.1 h)
  have htext := flatMap_source_extract trim source
  rw [hsegments, List.flatMap_append, List.flatMap_cons, ← List.append_assoc] at htext
  exact List.IsChain.infix (unescaped_protectEscaped _) ⟨_, _, htext⟩

theorem unescaped_wovenSource (hspans : ∀ e ∈ rest, Unescaped e.1.source)
    (h : Undisturbed first rest) : Unescaped (wovenSource first rest) := by
  induction rest generalizing first with
  | nil => simpa [wovenSource] using unescaped_of_notMem (notMem_protectBraces first)
  | cons e rest ih =>
      obtain ⟨s, t⟩ := e
      have hbehind : Unescaped (s.source ++ wovenSource t rest) := by
        refine List.isChain_append.2 ⟨hspans _ (.head _),
          ih (fun e he => hspans e (.tail _ he)) h.tail, fun c hc d _ hbackslash => ?_⟩
        rw [s.getLast?_source] at hc
        cases hc
        cases hbackslash
      rw [wovenSource_cons]
      refine List.isChain_append.2 ⟨unescaped_of_notMem (notMem_protectBraces first), hbehind,
        fun c hc d hd hbackslash => ?_⟩
      subst hbackslash
      rw [List.head?_append, s.head?_source] at hd
      cases hsigil : s.valueSigil with
      | true =>
          rw [hsigil] at hd
          cases hd
          decide
      | false =>
          exact absurd (getLast?_protectBraces_backslash.1 hc) (h (first, s) (.head _) hsigil).2

theorem ne_backslash_of_unescaped (h : Unescaped (wovenSource first rest)) :
    ∀ e ∈ junctions first rest, e.2.valueSigil = false → e.1.getLast? ≠ some '\\' := by
  induction rest generalizing first with
  | nil => simp
  | cons e rest ih =>
      obtain ⟨s, t⟩ := e
      rw [wovenSource_cons] at h
      obtain ⟨-, hbehind, hjunction⟩ := List.isChain_append.1 h
      rw [junctions_cons, List.forall_mem_cons]
      refine ⟨fun hsigil hbackslash => ?_, ih (List.isChain_append.1 hbehind).2.1⟩
      have hopen : (s.source ++ wovenSource t rest).head? = some '{' := by
        rw [List.head?_append, s.head?_source, hsigil]
        rfl
      exact (hjunction _ (getLast?_protectBraces_backslash.2 hbackslash) _ hopen rfl).1 rfl

/-! ## Reading the restored text -/

theorem length_printed_alternation (pieces : List Piece) :
    (printed pieces).length =
      ((alternation pieces).1 ++ (alternation pieces).2.flatMap fun e => e.1 ++ e.2).length := by
  induction pieces with
  | nil => rfl
  | cons piece more ih =>
      rw [List.length_append] at ih
      cases piece with
      | text t => simp [alternation, ih, Piece.source, restoreBraces]
      | placeholder p => simp [alternation, ih, Piece.source]

theorem length_wovenSource (first : Text) (rest : List (Span × Text)) :
    (wovenSource first rest).length =
      (first ++ rest.flatMap fun e => e.1.source ++ e.2).length := by
  simp [wovenSource, List.length_flatMap]

theorem getLast?_restoreBraces_dollar {t : Text} :
    (restoreBraces t).getLast? = some '$' ↔ t.getLast? = some '$' := by
  simp [restoreBraces, restoreBrace_eq_dollar]

theorem ne_dollar_of_alternation {pieces : List Piece} (h : pieces.IsChain Piece.MayPrecede)
    (heq : alternation pieces = (first, rest.map fun e => (e.1.source, e.2))) :
    ∀ e ∈ junctions first rest, e.2.valueSigil = false → e.1.getLast? ≠ some '$' := by
  induction pieces generalizing first rest with
  | nil =>
      obtain ⟨-, hrest⟩ := Prod.mk.inj heq
      obtain rfl := List.map_eq_nil_iff.1 hrest.symm
      simp
  | cons piece more ih =>
      obtain ⟨hhead, hmore⟩ := List.isChain_cons.1 h
      cases piece with
      | placeholder p =>
          obtain ⟨rfl, hrest⟩ := Prod.mk.inj heq
          cases rest with
          | nil => cases hrest
          | cons e rest =>
              obtain ⟨hentry, hrest⟩ := List.cons.inj hrest
              rw [junctions_cons, List.forall_mem_cons]
              exact ⟨by simp, ih hmore (Prod.ext (Prod.mk.inj hentry).2 hrest)⟩
      | text t =>
          -- Behind text stands a placeholder or nothing, and no other text adds to it.
          obtain ⟨rfl, hrest⟩ := Prod.mk.inj heq
          cases rest with
          | nil => simp
          | cons e rest =>
              cases more with
              | nil => cases hrest
              | cons next more =>
                  cases next with
                  | text => exact (hhead _ rfl).elim
                  | placeholder p =>
                      have htail := @ih [] (e :: rest) hmore (Prod.ext rfl hrest)
                      rw [junctions_cons, List.forall_mem_cons] at htail ⊢
                      refine ⟨fun hsigil hdollar => ?_, htail.2⟩
                      rw [alternation, List.append_nil, getLast?_restoreBraces_dollar] at hdollar
                      have hsource : p.source = e.1.source :=
                        (Prod.mk.inj (List.cons.inj hrest).1).1
                      rw [← Placeholder.valueSigil_eq hsource, hhead _ rfl hdollar] at hsigil
                      cases hsigil

/-- Text and placeholders come back exactly if no text ends in a dollar sign or a backslash in front
of a placeholder without a sigil and the restored text has no comment and no literal block. -/
theorem readsBack_iff (trim : Bool) (source first : Text) (rest : List (Span × Text))
    (hspans : ∀ e ∈ rest, e.1 ∈ (extract trim source).spans)
    (htexts : ∀ t ∈ first :: rest.map Prod.snd, Foreign t) :
    ReadsBack (extract trim source).spans first rest ↔
      Undisturbed first rest ∧ ¬ Encloses commentStart commentEnd (wovenSource first rest) ∧
        ¬ Encloses literalStart literalEnd (wovenSource first rest) := by
  have hrestored := restoreSpans_wovenMarkup
    (fun e he => getElem?_index_of_mem_spans (hspans e he)) htexts
  have hunescaped : ∀ e ∈ rest, Unescaped e.1.source := fun e he =>
    unescaped_source_of_mem_spans (hspans e he)
  have hdelimited : ∀ e ∈ rest, e.1.Delimited := fun e he =>
    (separable_extract trim source).delimited _ (mem_spans_iff.1 (hspans e he))
  constructor
  · rintro ⟨text, htext, hpieces⟩
    rw [hrestored] at htext
    cases htext
    -- All of the text came back, so preprocessing has taken nothing away.
    have hlength := length_printed_alternation
      ((extract false (wovenSource first rest)).segments.map Segment.piece)
    rw [hpieces, printed_map_piece, flatMap_source_extract, List.flatMap_map] at hlength
    have hsettled : Settled (wovenSource first rest) :=
      settled_of_length_le (hlength.trans (length_wovenSource first rest).symm).ge
    have hdollar := ne_dollar_of_alternation (canonical_extract _ _).mayPrecede hpieces
    have hbackslash := ne_backslash_of_unescaped hsettled.escapes
    exact ⟨fun e he hsigil => ⟨hdollar e he hsigil, hbackslash e he hsigil⟩,
      hsettled.comments, hsettled.literals⟩
  · rintro ⟨hundisturbed, hcomments, hliterals⟩
    refine ⟨_, hrestored, ?_⟩
    have hsettled : Settled (wovenSource first rest) :=
      ⟨hcomments, hliterals, unescaped_wovenSource hunescaped hundisturbed⟩
    have hcanonical := (hundisturbed.separable hdelimited).legible.canonical
    rw [map_piece_extract, preprocess_of_settled hsettled, ← printed_guarded_wovenSegments,
      split_printed hcanonical, alternation_guarded_wovenSegments htexts]

end

/-- A reference that is a dollar sign in the markup, directly before a placeholder. -/
def decodedDollar : Text :=
  ['<', 'p', '>', '&', '#', '3', '6', ';', '{', '$', 'x', '}', '<', '/', 'p', '>']

def decodedDollarSpan : Span := ⟨⟨.single, false, ['$', 'x']⟩, 0, 8⟩

theorem readsBack_iff_dollarAndBlank :
    decodedDollarSpan ∈ (extract false decodedDollar).spans ∧
      ReadsBack (extract false decodedDollar).spans ['<', 'p', '>', '$', ' ']
        [(decodedDollarSpan, ['<', '/', 'p', '>'])] := by
  have hspan : decodedDollarSpan ∈ (extract false decodedDollar).spans := by decide +kernel
  refine ⟨hspan, (readsBack_iff false decodedDollar _ _ (by simpa using hspan) (by decide)).2
    ⟨by decide, fun hcomment => ?_, fun hliteral => ?_⟩⟩
  · exact absurd hcomment.opening_infix (by decide)
  · exact absurd hliteral.opening_infix (by decide)

theorem not_readsBack_decodedDollar :
    ¬ ∀ (trim : Bool) (source first : Text) (rest : List (Span × Text)),
      (∀ e ∈ rest, e.1 ∈ (extract trim source).spans) →
      (∀ t ∈ first :: rest.map Prod.snd, Foreign t) →
      ReadsBack (extract trim source).spans first rest := by
  intro h
  have hspan : decodedDollarSpan ∈ (extract false decodedDollar).spans := by decide +kernel
  obtain ⟨text, htext, hpieces⟩ := h false decodedDollar ['<', 'p', '>', '$']
    [(decodedDollarSpan, ['<', '/', 'p', '>'])] (by simpa using hspan) (by decide)
  -- The dollar sign has become the sigil of the placeholder.
  rw [restoreSpans_wovenMarkup (by decide +kernel) (by decide)] at htext
  cases htext
  revert hpieces
  decide +kernel

end Stencil.Template
