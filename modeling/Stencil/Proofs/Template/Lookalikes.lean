import Stencil.Proofs.Fallible
import Stencil.Proofs.Template.Stretch

/-!
# Text that looks like a token

Tokens are text in the text of a snapshot, and nothing keeps a template from writing such text
itself. The tokens that are read in a snapshot are those of its spans exactly when no plain text
looks like a token; then every part that cuts no token gives back its source. Plain text without the
mark of a token never looks like one.
-/

namespace Stencil.Template

/-! ## Reading tokens from left to right -/

/-- The tokens that restoring reads in a text, each with its place. -/
def tokensFrom : (place : Nat) → Text → List (Nat × Token)
  | _, [] => []
  | place, c :: rest =>
    match _h : token? (c :: rest) with
    | some (token, behind) =>
      (place, token) :: tokensFrom (place + ((c :: rest).length - behind.length)) behind
    | none => tokensFrom (place + 1) rest
termination_by _ t => t.length
decreasing_by
  · exact length_lt_of_token? _h
  · simp

theorem tokensFrom_of_token? {t behind : Text} {token : Token} (place : Nat)
    (h : token? t = some (token, behind)) :
    tokensFrom place t =
      (place, token) :: tokensFrom (place + (t.length - behind.length)) behind := by
  obtain ⟨name, -, rfl, -⟩ := exists_name_of_token? h
  rw [tokensFrom]
  split
  · next heq =>
      rw [h] at heq
      cases heq
      rfl
  · next heq =>
      rw [h] at heq
      cases heq

theorem tokensFrom_cons {c : Char} {rest : Text} (place : Nat) (h : token? (c :: rest) = none) :
    tokensFrom place (c :: rest) = tokensFrom (place + 1) rest := by
  rw [tokensFrom]
  split
  · next heq =>
      rw [h] at heq
      cases heq
  · rfl

/-! ## Tokens of segments -/

/-- What is read in the token of a span. -/
def Span.toToken (s : Span) : Token := ⟨s.form, s.index⟩

theorem tokensFrom_token_append (place : Nat) (s : Span) (behind : Text) :
    tokensFrom place (s.token ++ behind) =
      (place, s.toToken) :: tokensFrom (place + s.token.length) behind := by
  rw [tokensFrom_of_token? place (token?_token_append s behind), List.length_append,
    Nat.add_sub_cancel]
  rfl

theorem tokensFrom_plain_append {t behind : Text} (place : Nat) (h : Plain t behind) :
    tokensFrom place (t ++ behind) = tokensFrom (place + t.length) behind := by
  induction t generalizing place with
  | nil => rfl
  | cons c t ih =>
      obtain ⟨hhead, htail⟩ := plain_cons_iff.1 h
      rw [List.cons_append, tokensFrom_cons place hhead, ih _ htail, List.length_cons]
      congr 1
      omega

theorem exists_tokensFrom_eq_cons {t behind : Text} (place : Nat) (h : ¬ Plain t behind) :
    ∃ found more, tokensFrom place (t ++ behind) = found :: more ∧
      found.1 < place + t.length := by
  induction t generalizing place with
  | nil => exact absurd (fun _ hk => absurd hk (Nat.not_lt_zero _)) h
  | cons c t ih =>
      cases hread : token? (c :: (t ++ behind)) with
      | some read =>
          exact ⟨_, _, tokensFrom_of_token? place hread, by simp⟩
      | none =>
          obtain ⟨found, more, htokens, hplace⟩ :=
            ih (place + 1) fun htail => h (plain_cons_iff.2 ⟨hread, htail⟩)
          refine ⟨found, more, ?_, ?_⟩
          · rw [List.cons_append, tokensFrom_cons place hread, htokens]
          · rw [List.length_cons]
            omega

/-- The tokens that stand for spans, each with its place. -/
def tokenPlaces : (place : Nat) → List Segment → List (Nat × Token)
  | _, [] => []
  | place, .chunk t _ :: more => tokenPlaces (place + t.length) more
  | place, .span s :: more => (place, s.toToken) :: tokenPlaces (place + s.token.length) more

theorem map_tokenPlaces (place : Nat) (segments : List Segment) :
    (tokenPlaces place segments).map Prod.snd =
      (segments.filterMap Segment.span?).map Span.toToken := by
  induction segments generalizing place with
  | nil => rfl
  | cons s more ih => cases s <;> simp [tokenPlaces, ih, List.filterMap_cons]

theorem le_of_mem_tokenPlaces {place : Nat} {segments : List Segment} {found : Nat × Token}
    (h : found ∈ tokenPlaces place segments) : place ≤ found.1 := by
  induction segments generalizing place with
  | nil => cases h
  | cons s more ih =>
      cases s with
      | chunk t position => exact (Nat.le_add_right ..).trans (ih h)
      | span s =>
          rcases List.mem_cons.1 h with rfl | h
          · exact Nat.le_refl _
          · exact (Nat.le_add_right ..).trans (ih h)

theorem tokensFrom_snapshot_iff {segments : List Segment}
    (hapart : segments.IsChain fun a b => ¬ (a.isChunk ∧ b.isChunk)) (place : Nat) :
    tokensFrom place (segments.flatMap Segment.snapshot) = tokenPlaces place segments ↔
      Unforged segments := by
  induction segments generalizing place with
  | nil => simp [tokensFrom, tokenPlaces, Unforged]
  | cons s more ih =>
      have hmore := ih hapart.tail
      rw [List.flatMap_cons]
      cases s with
      | span s =>
          rw [Segment.snapshot, tokensFrom_token_append, tokenPlaces, List.cons.injEq,
            and_iff_right rfl, hmore, Unforged]
      | chunk t position =>
          rw [Segment.snapshot, tokenPlaces, unforged_chunk_iff hapart]
          by_cases hplain : Plain t (more.flatMap Segment.snapshot)
          · rw [tokensFrom_plain_append place hplain, hmore, and_iff_right hplain]
          · -- The token that is read first starts in the chunk, where no span stands.
            obtain ⟨found, rest, hfound, hplace⟩ := exists_tokensFrom_eq_cons place hplain
            refine iff_of_false (fun h => ?_) fun h => hplain h.1
            rw [hfound] at h
            have hle := le_of_mem_tokenPlaces (h ▸ List.mem_cons_self)
            omega

theorem restoreSpans_ne_of_not_plain {spans : List Span} {t behind : Text}
    (hbehind : ∀ c ∈ behind.head?, c = '$') (h : ¬ Plain t behind) (more : Text) :
    restoreSpans spans (t ++ behind) ≠ .ok (t ++ more) := by
  induction t with
  | nil => exact absurd (fun _ hk => absurd hk (Nat.not_lt_zero _)) h
  | cons c t ih =>
      intro hrestored
      rw [List.cons_append] at hrestored
      cases hread : token? (c :: (t ++ behind)) with
      | none =>
          rw [restoreSpans_cons hread, List.cons_append, map_eq_ok_iff] at hrestored
          obtain ⟨text, hrestored, heq⟩ := hrestored
          obtain ⟨-, rfl⟩ := List.cons.inj heq
          exact ih (fun htail => h (plain_cons_iff.2 ⟨hread, htail⟩)) hrestored
      | some read =>
          cases hs : spans[read.1.index]? with
          | none =>
              rw [restoreSpans_unknown hread hs] at hrestored
              cases hrestored
          | some s =>
              -- The source of a span has a brace where the mark of the token goes on.
              obtain ⟨digits, hname, -⟩ := token?_eq_some_iff.1 hread
              obtain ⟨rfl, hrest⟩ := List.cons.inj hname
              cases t with
              | nil =>
                  rw [List.nil_append] at hrest
                  exact absurd (hbehind 'f' (by simp [hrest])) (by decide)
              | cons d t =>
                  obtain ⟨rfl, -⟩ := List.cons.inj hrest
                  rw [restoreSpans_known hread hs, map_eq_ok_iff] at hrestored
                  obtain ⟨text, -, heq⟩ := hrestored
                  rw [Placeholder.source_eq] at heq
                  cases hform : s.form <;> cases hsigil : s.valueSigil <;>
                    simp [hform, hsigil, Placeholder.braced] at heq

theorem restoreSpans_flatMap_snapshot_iff {spans : List Span} {segments : List Segment}
    (hknown : ∀ s, .span s ∈ segments → spans[s.index]? = some s)
    (hapart : segments.IsChain fun a b => ¬ (a.isChunk ∧ b.isChunk)) :
    restoreSpans spans (segments.flatMap Segment.snapshot) =
      .ok (segments.flatMap Segment.source) ↔ Unforged segments := by
  refine ⟨fun h => ?_, restoreSpans_flatMap_snapshot hknown hapart⟩
  induction segments with
  | nil => trivial
  | cons s more ih =>
      have hmore := ih (fun s hs => hknown s (.tail _ hs)) hapart.tail
      rw [List.flatMap_cons, List.flatMap_cons] at h
      cases s with
      | span s =>
          rw [Segment.snapshot, restoreSpans_token_append (hknown s (.head _)), map_eq_ok_iff] at h
          obtain ⟨text, h, heq⟩ := h
          obtain rfl := List.append_cancel_left heq
          exact hmore h
      | chunk t position =>
          rw [Segment.snapshot] at h
          have hplain : Plain t (more.flatMap Segment.snapshot) := by
            by_contra hplain
            exact restoreSpans_ne_of_not_plain (head?_snapshot_of_apart hapart) hplain _ h
          rw [restoreSpans_plain_append hplain, map_eq_ok_iff] at h
          obtain ⟨text, h, heq⟩ := h
          obtain rfl := List.append_cancel_left heq
          exact (unforged_chunk_iff hapart).2 ⟨hplain, hmore h⟩

theorem Unforged.stretch {segments : List Segment} {start length : Nat}
    (hapart : segments.IsChain fun a b => ¬ (a.isChunk ∧ b.isChunk)) (h : Unforged segments)
    (hstart : OutsideTokens start segments) (hend : OutsideTokens (start + length) segments) :
    Unforged (stretch start length segments) := by
  induction segments generalizing start length with
  | nil => trivial
  | cons s more ih =>
      have hplace : start - s.snapshot.length + (length - (s.snapshot.length - start)) =
          start + length - s.snapshot.length := by omega
      have hrest := flatMap_snapshot_stretch hstart.tail (hplace ▸ hend.tail)
      have hmore (h : Unforged more) := ih hapart.tail h hstart.tail (hplace ▸ hend.tail)
      rw [Template.stretch]
      cases s with
      | span s =>
          rw [Segment.part]
          split <;> exact hmore h
      | chunk t position =>
          obtain ⟨hplain, h⟩ := (unforged_chunk_iff hapart).1 h
          rw [Segment.part, Segment.ofText]
          split
          · exact hmore h
          · refine ⟨?_, hmore h⟩
            rw [List.append_eq, List.nil_append, hrest]
            exact (hplain.part start length).take 1

/-! ## Tokens of a snapshot -/

section

variable {trim : Bool} {source : Text}

theorem Unforged.part (h : Unforged (extract trim source).segments) {left part right : Text}
    (hsnapshot : (extract trim source).snapshot = left ++ part ++ right)
    (hstart : OutsideTokens left.length (extract trim source).segments)
    (hend : OutsideTokens (left ++ part).length (extract trim source).segments) :
    tokensFrom left.length part = tokenPlaces left.length
        (Template.stretch left.length part.length (extract trim source).segments) ∧
      restoreSpans (extract trim source).spans part =
        .ok ((Template.stretch left.length part.length (extract trim source).segments).flatMap
          Segment.source) := by
  have hpart := flatMap_snapshot_stretch_of_eq_append hsnapshot hstart hend
  have hunforged := h.stretch (divides_extract trim source).apart hstart
    (List.length_append ▸ hend)
  have hapart :=
    ((separable_extract trim source).stretch left.length part.length).isChunk_apart
  have hknown (s : Span) (hs : .span s ∈
      Template.stretch left.length part.length (extract trim source).segments) :
      (extract trim source).spans[s.index]? = some s :=
    getElem?_index_of_span_mem (span_mem_of_mem_stretch hs)
  have htokens := (tokensFrom_snapshot_iff hapart left.length).2 hunforged
  have hrestored := restoreSpans_flatMap_snapshot hknown hapart hunforged
  rw [hpart] at htokens hrestored
  exact ⟨htokens, hrestored⟩

end

/-- The tokens that are read in a snapshot are those of its spans, each once and in their order,
exactly when no plain text looks like a token, and exactly then restoring the snapshot gives the
preprocessed text. Every part that cuts no token is then restored as well. -/
theorem tokens_genuine_iff (trim : Bool) (source : Text) :
    (tokensFrom 0 (extract trim source).snapshot = tokenPlaces 0 (extract trim source).segments ↔
      Unforged (extract trim source).segments) ∧
    (restoreSpans (extract trim source).spans (extract trim source).snapshot =
        .ok (preprocess trim source) ↔
      Unforged (extract trim source).segments) ∧
    (Unforged (extract trim source).segments →
      ∀ left part right, (extract trim source).snapshot = left ++ part ++ right →
        OutsideTokens left.length (extract trim source).segments →
        OutsideTokens (left ++ part).length (extract trim source).segments →
        tokensFrom left.length part = tokenPlaces left.length
            (stretch left.length part.length (extract trim source).segments) ∧
          restoreSpans (extract trim source).spans part =
            .ok ((stretch left.length part.length (extract trim source).segments).flatMap
              Segment.source)) ∧
    (tokenPlaces 0 (extract trim source).segments).map Prod.snd =
      (extract trim source).spans.map Span.toToken ∧
    (extract trim source).spans.map (·.index) = List.range (extract trim source).spans.length := by
  have hapart := (divides_extract trim source).apart
  have hnumbered (s : Span) (hs : .span s ∈ (extract trim source).segments) :
      (extract trim source).spans[s.index]? = some s := getElem?_index_of_span_mem hs
  have hrestored := restoreSpans_flatMap_snapshot_iff hnumbered hapart
  rw [flatMap_source_extract] at hrestored
  exact ⟨tokensFrom_snapshot_iff hapart 0, hrestored,
    fun h _ _ _ hsnapshot hstart hend => h.part hsnapshot hstart hend,
    map_tokenPlaces 0 _, map_index_spans trim source⟩

/-- Plain text that goes as far as a token without being one, on both sides of a placeholder. -/
def nearlyToken : Text := "$ftpl-s-{x}0$".toList

theorem tokens_genuine_iff_nearlyToken :
    tokensFrom 0 (extract true nearlyToken).snapshot = [(8, ⟨.single, 0⟩)] ∧
      restoreSpans (extract true nearlyToken).spans "-$ftpl-s-0$0".toList = .ok "-{x}0".toList := by
  have hsegments : (extract true nearlyToken).segments =
      [.chunk "$ftpl-s-".toList 0, .span ⟨⟨.single, false, ['x']⟩, 0, 8⟩,
        .chunk "0$".toList 11] := by
    decide +kernel
  have hunforged : Unforged (extract true nearlyToken).segments := by
    rw [hsegments]
    refine ⟨?_, ?_, trivial⟩ <;> unfold Plain <;> decide +kernel
  have houtside {place : Nat} (h : place ≤ 8 ∨ 18 ≤ place) :
      OutsideTokens place (extract true nearlyToken).segments := by
    rw [hsegments]
    refine .cons (by simp) (.cons ?_ (.cons (by simp) (outsideTokens_nil _)))
    rintro r ⟨⟩
    have htoken : (Span.token ⟨⟨.single, false, ['x']⟩, 0, 8⟩).length = 10 := by
      decide +kernel
    have hchunk : (Segment.chunk "$ftpl-s-".toList 0).snapshot.length = 8 := by
      decide +kernel
    omega
  obtain ⟨htokens, -, hparts, -⟩ := tokens_genuine_iff true nearlyToken
  refine ⟨?_, ?_⟩
  · rw [htokens.2 hunforged, hsegments]
    rfl
  · obtain ⟨-, hrestored⟩ := hparts hunforged "$ftpl-s".toList "-$ftpl-s-0$0".toList ['$']
      (by rw [Extraction.snapshot, hsegments]; decide +kernel) (houtside (by decide))
      (houtside (by decide))
    rw [hrestored, hsegments]
    decide +kernel

def bareToken : Text := "$ftpl-s-0$".toList

theorem tokens_forged_bareToken :
    tokensFrom 0 (extract true bareToken).snapshot = [(0, ⟨.single, 0⟩)] ∧
      tokenPlaces 0 (extract true bareToken).segments = [] ∧
      restoreSpans (extract true bareToken).spans (extract true bareToken).snapshot =
        .error ⟨0⟩ := by
  decide +kernel

/-! ## Runs of segments -/

def Segment.stop (s : Segment) : Nat := s.position + s.source.length

def covered (text : Text) (run : List Segment) : Text :=
  (text.take (run.getLast?.elim 0 Segment.stop)).drop (run.head?.elim 0 Segment.position)

theorem Extraction.Divides.covered_eq {e : Extraction} {text : Text} (h : e.Divides text)
    {before run after : List Segment} (hsplit : e.segments = before ++ run ++ after) :
    covered text run = run.flatMap Segment.source := by
  have htext : text = before.flatMap Segment.source ++ run.flatMap Segment.source ++
      after.flatMap Segment.source := by
    rw [← h.sources, hsplit, List.flatMap_append, List.flatMap_append]
  rcases List.eq_nil_or_concat' run with rfl | ⟨init, last, rfl⟩
  · simp [covered]
  · have hstart : (init ++ [last]).head?.elim 0 Segment.position =
        (before.flatMap Segment.source).length := by
      cases init with
      | nil => exact h.positions before last after (by simpa using hsplit)
      | cons first init =>
          exact h.positions before first (init ++ [last] ++ after) (by simpa using hsplit)
    have hstop : last.stop = (before.flatMap Segment.source ++
        (init ++ [last]).flatMap Segment.source).length := by
      rw [Segment.stop, h.positions (before ++ init) last after (by simpa using hsplit)]
      simp [Nat.add_assoc]
    rw [covered, hstart, List.getLast?_concat, Option.elim_some, hstop, htext,
      List.take_left, List.drop_left]

/-- Where no plain text holds the mark of a token, every run of segments is restored to the part of
the preprocessed text that it covers, and the whole snapshot to the preprocessed text. -/
theorem restoreSpans_run (trim : Bool) (source : Text)
    (hunmarked : ∀ t position, .chunk t position ∈ (extract trim source).segments →
      ¬ tokenStart <:+: t) :
    (∀ before run after, (extract trim source).segments = before ++ run ++ after →
      restoreSpans (extract trim source).spans (run.flatMap Segment.snapshot) =
        .ok (covered (preprocess trim source) run)) ∧
    restoreSpans (extract trim source).spans (extract trim source).snapshot =
      .ok (preprocess trim source) := by
  have hdivides := divides_extract trim source
  have hruns (before run after : List Segment)
      (hsplit : (extract trim source).segments = before ++ run ++ after) :
      restoreSpans (extract trim source).spans (run.flatMap Segment.snapshot) =
        .ok (run.flatMap Segment.source) := by
    have hmem {s : Segment} (hs : s ∈ run) : s ∈ (extract trim source).segments := by
      simp [hsplit, hs]
    have hapart := hdivides.apart
    rw [hsplit, List.append_assoc] at hapart
    have hapart := (hapart.right_of_append).left_of_append
    exact restoreSpans_flatMap_snapshot (fun s hs => getElem?_index_of_span_mem (hmem hs)) hapart
      (unforged_of_unmarked (fun t position ht => hunmarked t position (hmem ht)) hapart)
  constructor
  · intro before run after hsplit
    rw [hdivides.covered_eq hsplit]
    exact hruns before run after hsplit
  · have hall := hruns [] (extract trim source).segments [] (by simp)
    rwa [hdivides.sources] at hall

/-- Two placeholders that touch, between the halves of a token. -/
def halvedToken : Text := ("$ftpl".toList ++ ['{', 'x', '}']) ++
  (['{', '{', 'y', '}', '}'] ++ "-s-0$".toList)

theorem restoreSpans_run_halvedToken :
    restoreSpans (extract true halvedToken).spans "$ftpl-d-1$-s-0$".toList =
        .ok (['{', '{', 'y', '}', '}'] ++ "-s-0$".toList) ∧
      restoreSpans (extract true halvedToken).spans "$ftpl$ftpl-s-0$$ftpl-d-1$-s-0$".toList =
        .ok halvedToken := by
  have hsegments : (extract true halvedToken).segments =
      [.chunk "$ftpl".toList 0, .span ⟨⟨.single, false, ['x']⟩, 0, 5⟩] ++
        [.span ⟨⟨.double, false, ['y']⟩, 1, 8⟩, .chunk "-s-0$".toList 13] := by
    decide +kernel
  have hpreprocessed : preprocess true halvedToken = halvedToken := by
    decide +kernel
  have hunmarked : ∀ t position, .chunk t position ∈ (extract true halvedToken).segments →
      ¬ tokenStart <:+: t := by
    intro t position ht
    rw [hsegments] at ht
    rcases (by simpa using ht : _ ∨ _) with ⟨rfl, -⟩ | ⟨rfl, -⟩ <;> decide +kernel
  obtain ⟨hruns, hall⟩ := restoreSpans_run true halvedToken hunmarked
  have hrun := hruns _ _ [] (by rw [hsegments, List.append_nil])
  constructor
  · have hcovered : covered (preprocess true halvedToken)
        [.span ⟨⟨.double, false, ['y']⟩, 1, 8⟩, .chunk "-s-0$".toList 13] =
          ['{', '{', 'y', '}', '}'] ++ "-s-0$".toList := by
      decide +kernel
    rw [hcovered] at hrun
    exact hrun
  · rw [Extraction.snapshot, hsegments, hpreprocessed] at hall
    exact hall

end Stencil.Template
