import Stencil.Proofs.Template.Guarding

/-!
# Stretches of a template

A part of a snapshot that cuts no token in two stands for a stretch of the segments. Restoring,
extracting and compiling the part gives the instructions of that stretch, for the whole snapshot
those of the template.
-/

namespace Stencil.Template

/-! ## Stretches -/

/-- What a segment gives to a stretch that starts so many characters behind the start of its
snapshot: a part of a chunk, or a span if its whole token is covered. -/
def Segment.part (start length : Nat) : Segment → List Segment
  | chunk text position => ofText ((text.drop start).take length) (position + start)
  | span s => if start = 0 ∧ s.token.length ≤ length then [.span s] else []

/-- The segments that a part of the snapshot stands for. -/
def stretch : (start length : Nat) → List Segment → List Segment
  | _, _, [] => []
  | start, length, s :: more =>
    s.part start length ++
      stretch (start - s.snapshot.length) (length - (s.snapshot.length - start)) more

/-- A place in the snapshot is not inside of a token. -/
def OutsideTokens (place : Nat) (segments : List Segment) : Prop :=
  ∀ before s after, segments = before ++ .span s :: after →
    place ≤ (before.flatMap Segment.snapshot).length ∨
      (before.flatMap Segment.snapshot).length + s.token.length ≤ place

theorem OutsideTokens.tail {place : Nat} {s : Segment} {more : List Segment}
    (h : OutsideTokens place (s :: more)) : OutsideTokens (place - s.snapshot.length) more := by
  intro before r after heq
  have hplace := h (s :: before) r after (by rw [heq, List.cons_append])
  rw [List.flatMap_cons, List.length_append] at hplace
  omega

theorem OutsideTokens.head {place : Nat} {s : Span} {more : List Segment}
    (h : OutsideTokens place (.span s :: more)) : place = 0 ∨ s.token.length ≤ place := by
  simpa using h [] s more rfl

theorem outsideTokens_nil (place : Nat) : OutsideTokens place [] := by
  intro before s after h
  simp at h

theorem OutsideTokens.cons {place : Nat} {s : Segment} {more : List Segment}
    (hhead : ∀ r, s = .span r → place = 0 ∨ r.token.length ≤ place)
    (hmore : OutsideTokens (place - s.snapshot.length) more) : OutsideTokens place (s :: more) := by
  rintro before r after heq
  cases before with
  | nil =>
      obtain ⟨rfl, -⟩ := List.cons.inj heq
      simpa using hhead r rfl
  | cons t before =>
      obtain ⟨rfl, hsplit⟩ := List.cons.inj heq
      have hplace := hmore before r after hsplit
      rw [List.flatMap_cons, List.length_append]
      omega

theorem stretch_zero_length (start : Nat) (segments : List Segment) :
    stretch start 0 segments = [] := by
  induction segments generalizing start with
  | nil => rfl
  | cons s more ih =>
      have hpart : s.part start 0 = [] := by
        cases s with
        | chunk => simp [Segment.part, Segment.ofText]
        | span s => simp [Segment.part, s.token_ne_nil]
      rw [stretch, hpart, Nat.zero_sub, ih, List.nil_append]

/-! ## Texts of a stretch -/

theorem Segment.flatMap_snapshot_part {start length : Nat} {s : Segment}
    (hstart : OutsideTokens start [s]) (hend : OutsideTokens (start + length) [s]) :
    (s.part start length).flatMap Segment.snapshot = (s.snapshot.drop start).take length := by
  cases s with
  | chunk text position => exact flatMap_snapshot_ofText ..
  | span s =>
      simp only [part, snapshot]
      split
      · next h =>
          rw [h.1, List.drop_zero, List.take_of_length_le h.2]
          exact List.append_nil _
      · next h =>
          rcases hstart.head with rfl | hstart
          · obtain rfl : length = 0 := by
              have := hend.head
              omega
            simp
          · rw [List.drop_of_length_le hstart]
            simp

theorem OutsideTokens.single {place : Nat} {s : Segment} {more : List Segment}
    (h : OutsideTokens place (s :: more)) : OutsideTokens place [s] := by
  intro before r after heq
  cases before with
  | nil =>
      cases heq
      exact h [] r more rfl
  | cons t before => simp at heq

theorem flatMap_snapshot_stretch {start length : Nat} {segments : List Segment}
    (hstart : OutsideTokens start segments) (hend : OutsideTokens (start + length) segments) :
    (stretch start length segments).flatMap Segment.snapshot =
      ((segments.flatMap Segment.snapshot).drop start).take length := by
  induction segments generalizing start length with
  | nil => simp [stretch]
  | cons s more ih =>
      have hplace : start - s.snapshot.length + (length - (s.snapshot.length - start)) =
          start + length - s.snapshot.length := by omega
      rw [stretch, List.flatMap_append, Segment.flatMap_snapshot_part hstart.single hend.single,
        ih hstart.tail (hplace ▸ hend.tail), List.flatMap_cons, List.drop_append,
        List.take_append, List.length_drop]

theorem flatMap_snapshot_stretch_of_eq_append {left part right : Text} {segments : List Segment}
    (hsnapshot : segments.flatMap Segment.snapshot = left ++ part ++ right)
    (hstart : OutsideTokens left.length segments)
    (hend : OutsideTokens (left ++ part).length segments) :
    (stretch left.length part.length segments).flatMap Segment.snapshot = part := by
  rw [List.length_append] at hend
  rw [flatMap_snapshot_stretch hstart hend, hsnapshot]
  simp

theorem take_append_stretch_isPrefix (t : Text) (length : Nat) {more : List Segment}
    (h : ∀ n, (stretch 0 n more).flatMap Segment.source <+: more.flatMap Segment.source) :
    t.take length ++ (stretch 0 (length - t.length) more).flatMap Segment.source <+:
      t ++ more.flatMap Segment.source := by
  rcases Nat.le_total t.length length with hle | hle
  · rw [List.take_of_length_le hle]
    exact (List.prefix_append_right_inj _).2 (h _)
  · rw [Nat.sub_eq_zero_of_le hle, stretch_zero_length, List.flatMap_nil, List.append_nil]
    exact (List.take_prefix ..).trans (List.prefix_append ..)

theorem flatMap_source_stretch_zero (length : Nat) (segments : List Segment) :
    (stretch 0 length segments).flatMap Segment.source <+: segments.flatMap Segment.source := by
  induction segments generalizing length with
  | nil => exact List.prefix_rfl
  | cons s more ih =>
      rw [stretch, List.flatMap_append, List.flatMap_cons, Nat.zero_sub, Nat.sub_zero]
      cases s with
      | chunk text position =>
          rw [Segment.part, List.drop_zero, Segment.flatMap_source_ofText]
          exact take_append_stretch_isPrefix text length ih
      | span s =>
          rw [Segment.part, Segment.snapshot]
          split
          · simpa using ih _
          · next h =>
              rw [Nat.sub_eq_zero_of_le (by omega), stretch_zero_length]
              exact List.nil_prefix

theorem flatMap_source_stretch (start length : Nat) (segments : List Segment) :
    (stretch start length segments).flatMap Segment.source <:+:
      segments.flatMap Segment.source := by
  induction segments generalizing start length with
  | nil => exact List.infix_rfl
  | cons s more ih =>
      -- Once the stretch has started, what follows is taken from its start on.
      rcases Nat.eq_zero_or_pos start with rfl | hpos
      · exact (flatMap_source_stretch_zero length (s :: more)).isInfix
      · rw [stretch, List.flatMap_append, List.flatMap_cons]
        cases s with
        | chunk text position =>
            rw [Segment.part, Segment.flatMap_source_ofText, Segment.source, Segment.snapshot]
            rcases Nat.le_total text.length start with hle | hle
            · rw [List.drop_of_length_le hle, List.take_nil, List.nil_append]
              exact (ih _ _).trans (List.suffix_append ..).isInfix
            · rw [Nat.sub_eq_zero_of_le hle, ← List.length_drop]
              refine (take_append_stretch_isPrefix (text.drop start) length
                fun n => flatMap_source_stretch_zero n more).isInfix.trans ?_
              rw [← List.drop_append_of_le_length hle]
              exact (List.drop_suffix start _).isInfix
        | span s =>
            rw [Segment.part, if_neg (by omega), List.flatMap_nil, List.nil_append]
            exact (ih _ _).trans (List.suffix_append ..).isInfix

/-! ## Segments of a stretch -/

theorem mem_stretch {start length : Nat} {segments : List Segment} {s : Segment}
    (h : s ∈ stretch start length segments) :
    ∃ r ∈ segments, ∃ start length, s ∈ r.part start length := by
  induction segments generalizing start length with
  | nil => cases h
  | cons r more ih =>
      rw [stretch, List.mem_append] at h
      rcases h with h | h
      · exact ⟨r, .head _, start, length, h⟩
      · obtain ⟨r, hr, hpart⟩ := ih h
        exact ⟨r, .tail _ hr, hpart⟩

theorem span_mem_of_mem_stretch {start length : Nat} {segments : List Segment} {s : Span}
    (h : .span s ∈ stretch start length segments) : .span s ∈ segments := by
  obtain ⟨r, hr, start, length, hpart⟩ := mem_stretch h
  cases r with
  | chunk => cases (Segment.mem_ofText.1 hpart).2
  | span r =>
      rw [Segment.part] at hpart
      split at hpart
      · rwa [List.mem_singleton.1 hpart]
      · cases hpart

theorem chunk_infix_of_mem_stretch {start length : Nat} {segments : List Segment} {t : Text}
    {position : Nat} (h : .chunk t position ∈ stretch start length segments) :
    t ≠ [] ∧ ∃ u place, .chunk u place ∈ segments ∧ t <:+: u := by
  obtain ⟨r, hr, start, length, hpart⟩ := mem_stretch h
  cases r with
  | chunk u place =>
      obtain ⟨hne, heq⟩ := Segment.mem_ofText.1 hpart
      cases heq
      exact ⟨hne, u, place, hr,
        (List.take_prefix ..).isInfix.trans (List.drop_suffix ..).isInfix⟩
  | span r =>
      rw [Segment.part] at hpart
      split at hpart
      · cases List.mem_singleton.1 hpart
      · cases hpart

theorem Segment.start_le_of_mem_part {start length : Nat} {s x : Segment}
    (h : x ∈ s.part start length) : start ≤ s.snapshot.length := by
  cases s with
  | chunk t position =>
      have hne := (Segment.mem_ofText.1 h).1
      simp only [ne_eq, List.take_eq_nil_iff, List.drop_eq_nil_iff, not_or, not_le] at hne
      exact hne.2.le
  | span s =>
      rw [part] at h
      split at h
      · next hstart => exact hstart.1 ▸ Nat.zero_le _
      · cases h

theorem Segment.length_le_of_part_eq_nil {length : Nat} {s : Segment}
    (hne : ∀ t position, s = .chunk t position → t ≠ []) (h : s.part 0 length = []) :
    length ≤ s.snapshot.length := by
  cases s with
  | chunk t position =>
      rw [part, List.drop_zero, ofText_eq_nil_iff, List.take_eq_nil_iff] at h
      rcases h with rfl | rfl
      · exact Nat.zero_le _
      · exact absurd rfl (hne _ _ rfl)
  | span s =>
      rw [part] at h
      split at h
      · cases h
      · next hlength =>
          rw [snapshot]
          omega

theorem head?_stretch_zero {length : Nat} {segments : List Segment} {y : Segment}
    (hne : ∀ t position, .chunk t position ∈ segments → t ≠ [])
    (hy : (stretch 0 length segments).head? = some y) :
    ∃ s ∈ segments.head?, y ∈ s.part 0 length := by
  cases segments with
  | nil => cases hy
  | cons s more =>
      refine ⟨s, rfl, ?_⟩
      cases hpart : s.part 0 length with
      | cons z part =>
          rw [stretch, hpart] at hy
          cases hy
          exact .head _
      | nil =>
          have hlength := Segment.length_le_of_part_eq_nil
            (fun t position heq => hne t position (heq ▸ .head _)) hpart
          rw [stretch, hpart, List.nil_append, Nat.sub_zero, Nat.sub_eq_zero_of_le hlength,
            stretch_zero_length] at hy
          cases hy

theorem Segment.mayPrecede_part {start length : Nat} {s next x y : Segment}
    (h : s.piece.MayPrecede next.piece) (hx : x ∈ s.part start length)
    (hy : y ∈ next.part 0 (length - (s.snapshot.length - start))) :
    x.piece.MayPrecede y.piece := by
  cases s with
  | span s =>
      rw [part] at hx
      split at hx
      · rw [List.mem_singleton.1 hx]
        trivial
      · cases hx
  | chunk t position =>
      obtain ⟨hne, rfl⟩ := mem_ofText.1 hx
      cases next with
      | chunk => exact h.elim
      | span r =>
          rw [part, snapshot] at hy
          split at hy
          · next hcovered =>
              obtain rfl := List.mem_singleton.1 hy
              have hpos := List.length_pos_iff.2 r.token_ne_nil
              -- The stretch goes on behind the chunk, so it has the end of the chunk.
              have hcut : (t.drop start).take length = t.drop start := by
                refine List.take_of_length_le ?_
                rw [List.length_drop]
                omega
              rw [hcut] at hne ⊢
              intro hsigil
              refine h ?_
              rw [List.getLast?_drop, if_neg (by simpa using hne)] at hsigil
              exact hsigil
          · cases hy

theorem Segment.isChain_part (R : Segment → Segment → Prop) (start length : Nat) (s : Segment) :
    (s.part start length).IsChain R := by
  cases s with
  | chunk =>
      simp only [part, ofText]
      split
      · exact .nil
      · exact .singleton _
  | span =>
      rw [part]
      split
      · exact .singleton _
      · exact .nil

theorem isChain_stretch {segments : List Segment}
    (hne : ∀ t position, .chunk t position ∈ segments → t ≠ [])
    (hapart : segments.IsChain fun a b => a.piece.MayPrecede b.piece) (start length : Nat) :
    (stretch start length segments).IsChain fun a b => a.piece.MayPrecede b.piece := by
  induction segments generalizing start length with
  | nil => exact .nil
  | cons s more ih =>
      obtain ⟨hhead, hmore⟩ := List.isChain_cons.1 hapart
      have hnext : ∀ t position, .chunk t position ∈ more → t ≠ [] :=
        fun t position ht => hne t position (.tail _ ht)
      refine List.isChain_append.2 ⟨Segment.isChain_part .., ih hnext hmore _ _, ?_⟩
      intro x hx y hy
      have hx := List.mem_of_getLast? hx
      -- The stretch goes on behind this segment, so the next one is cut at its end only.
      rw [Nat.sub_eq_zero_of_le (Segment.start_le_of_mem_part hx)] at hy
      obtain ⟨next, hmem, hy⟩ := head?_stretch_zero hnext hy
      exact Segment.mayPrecede_part (hhead next hmem) hx hy

theorem Separable.stretch {segments : List Segment} (h : Separable segments) (start length : Nat) :
    Separable (stretch start length segments) where
  delimited s hs := h.delimited s (span_mem_of_mem_stretch hs)
  nonempty _ _ ht := (chunk_infix_of_mem_stretch ht).1
  apart := isChain_stretch h.nonempty h.apart start length

theorem stretch_all {segments : List Segment}
    (hne : ∀ t position, .chunk t position ∈ segments → t ≠ []) :
    stretch 0 (segments.flatMap Segment.snapshot).length segments = segments := by
  induction segments with
  | nil => rfl
  | cons s more ih =>
      have hpart : s.part 0 (s.snapshot.length + (more.flatMap Segment.snapshot).length) = [s] := by
        cases s with
        | chunk t position =>
            have hne := hne t position (.head _)
            rw [Segment.part, Segment.snapshot, List.drop_zero,
              List.take_of_length_le (Nat.le_add_right ..), Segment.ofText, if_neg hne,
              Nat.add_zero]
        | span s => simp [Segment.part, Segment.snapshot]
      rw [stretch, List.flatMap_cons, List.length_append, hpart, Nat.zero_sub, Nat.sub_zero,
        Nat.add_sub_cancel_left, ih fun t position ht => hne t position (.tail _ ht)]
      rfl

/-! ## Compiling a part of a snapshot -/

section

variable {trim : Bool} {source : Text}

theorem exists_restored_stretch (hmark : ¬ tokenStart <:+: preprocess trim source)
    (hsettled : Settled (preprocess trim source)) (start length : Nat) :
    ∃ text, restoreSpans (extract trim source).spans (protectBraces
        ((stretch start length (extract trim source).segments).flatMap Segment.snapshot)) =
          .ok text ∧
      (extract false text).segments.map Segment.piece =
        (stretch start length (extract trim source).segments).map Segment.guarded := by
  have hsources := flatMap_source_stretch start length (extract trim source).segments
  rw [flatMap_source_extract] at hsources
  refine exists_restored (fun s hs => ?_) (fun t position ht => ?_)
    ((separable_extract trim source).stretch start length) ?_
  · exact getElem?_index_of_span_mem (span_mem_of_mem_stretch hs)
  · intro h
    refine hmark (h.trans (List.IsInfix.trans ?_ hsources))
    obtain ⟨before, after, heq⟩ := List.append_of_mem ht
    exact ⟨before.flatMap Segment.source, after.flatMap Segment.source, by
      simp [heq, Segment.source]⟩
  · exact (guards_flatMap_source _).settled (hsettled.of_infix hsources)

/-- Restoring, extracting and compiling the markup gives the instructions of the segments, whatever
includes are handled by. -/
def RecompilesAs (spans : List Span) (markup : Text) (segments : List Segment) : Prop :=
  ∃ text, restoreSpans spans (protectBraces markup) = .ok text ∧
    ∀ (m : Type → Type) [Monad m] (handler : IncludeHandler m),
      generate handler (extract false text).segments = generate handler segments

theorem recompilesAs_stretch (hmark : ¬ tokenStart <:+: preprocess trim source)
    (hsettled : Settled (preprocess trim source)) (start length : Nat) :
    RecompilesAs (extract trim source).spans
      ((stretch start length (extract trim source).segments).flatMap Segment.snapshot)
      (stretch start length (extract trim source).segments) := by
  obtain ⟨text, hrestored, hpieces⟩ := exists_restored_stretch hmark hsettled start length
  exact ⟨text, hrestored, fun m _ handler => generate_congr handler hpieces⟩

/-- Compiling a part of a snapshot anew gives the instructions that the template has for it. -/
theorem generate_restored_part (trim : Bool) (source : Text)
    (hmark : ¬ tokenStart <:+: preprocess trim source)
    (hfixed : preprocess false (preprocess trim source) = preprocess trim source) :
    (∀ left part right, (extract trim source).snapshot = left ++ part ++ right →
      OutsideTokens left.length (extract trim source).segments →
      OutsideTokens (left ++ part).length (extract trim source).segments →
      (stretch left.length part.length (extract trim source).segments).flatMap Segment.snapshot =
          part ∧
        RecompilesAs (extract trim source).spans part
          (stretch left.length part.length (extract trim source).segments)) ∧
    RecompilesAs (extract trim source).spans (extract trim source).snapshot
      (extract trim source).segments := by
  have hsettled : Settled (preprocess trim source) := settled_of_length_le (by rw [hfixed])
  constructor
  · intro left part right hsnapshot hleft hright
    have hpart := flatMap_snapshot_stretch_of_eq_append hsnapshot hleft hright
    refine ⟨hpart, ?_⟩
    have hstretch := recompilesAs_stretch hmark hsettled left.length part.length
    rwa [hpart] at hstretch
  · have hall := recompilesAs_stretch hmark hsettled 0 (extract trim source).snapshot.length
    rwa [Extraction.snapshot, stretch_all (separable_extract trim source).nonempty] at hall

end

def loneBrace : Text := [' ', 'a', '{', ' ', '\n', ' ', '{', 'x', '}', '$', ' ']

theorem generate_restored_part_loneBrace :
    (extract true loneBrace).snapshot = "a\x7b$ftpl-s-0$$".toList ∧
      ∃ text, restoreSpans (extract true loneBrace).spans
          (protectBraces "\x7b$ftpl-s-0$".toList) = .ok text ∧
        Id.run (generate none (extract false text).segments) =
          [.literal ['{'], .output ['x'] true ['{', 'x', '}']] := by
  have hpreprocessed : preprocess true loneBrace = ['a', '{', '{', 'x', '}', '$'] := by
    decide +kernel
  have hsegments : (extract true loneBrace).segments =
      [.chunk ['a', '{'] 0, .span ⟨⟨.single, false, ['x']⟩, 0, 2⟩, .chunk ['$'] 5] := by
    decide +kernel
  have hsnapshot : (extract true loneBrace).snapshot = "a\x7b$ftpl-s-0$$".toList := by
    rw [Extraction.snapshot, hsegments]
    decide +kernel
  have houtside {place : Nat} (h : place ≤ 2 ∨ 12 ≤ place) :
      OutsideTokens place (extract true loneBrace).segments := by
    rintro before s after heq
    rw [hsegments] at heq
    match before, heq with
    | [_], heq =>
        obtain ⟨rfl, rfl, -⟩ := by simpa using heq
        exact h
    | [_, _], heq => simp at heq
    | _ :: _ :: _ :: _, heq => simp at heq
  obtain ⟨hparts, -⟩ := generate_restored_part true loneBrace
    (by rw [hpreprocessed]; decide) (by rw [hpreprocessed]; decide +kernel)
  obtain ⟨-, text, hrestored, hgenerate⟩ := hparts ['a'] "\x7b$ftpl-s-0$".toList ['$']
    (by rw [hsnapshot]; decide +kernel) (houtside (by decide)) (houtside (by decide))
  refine ⟨hsnapshot, text, hrestored, ?_⟩
  rw [hgenerate, hsegments]
  decide +kernel

end Stencil.Template
