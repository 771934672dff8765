import Stencil.Proofs.Template.Splitting

/-!
# Segments of a template

The segments of a template divide its preprocessed text: put together they give it back, each one
knows where it starts, and plain text holds no place where a placeholder could be read.
-/

namespace Stencil.Template

namespace Segment

def piece : Segment → Piece
  | chunk text _ => .text text
  | span s => .placeholder s.toPlaceholder

def position : Segment → Nat
  | chunk _ position => position
  | span s => s.position

def isChunk : Segment → Bool
  | chunk .. => true
  | span _ => false

@[simp] theorem span?_chunk (text : Text) (position : Nat) : (chunk text position).span? = none :=
  rfl

@[simp] theorem span?_span (s : Span) : (span s).span? = some s := rfl

@[simp] theorem isChunk_chunk (text : Text) (position : Nat) :
    (chunk text position).isChunk = true := rfl

@[simp] theorem isChunk_span (s : Span) : (span s).isChunk = false := rfl

@[simp] theorem source_piece (s : Segment) : s.piece.source = s.source := by
  cases s <;> rfl

@[simp] theorem isText_piece (s : Segment) : s.piece.isText = s.isChunk := by
  cases s <;> rfl

end Segment

theorem printed_map_piece (segments : List Segment) :
    printed (segments.map Segment.piece) = segments.flatMap Segment.source := by
  simp [printed, List.flatMap_map]

/-! ## Numbers and positions -/

@[simp] theorem map_piece_number (index position : Nat) (pieces : List Piece) :
    (number index position pieces).map Segment.piece = pieces := by
  fun_induction number index position pieces with
  | case1 => rfl
  | case2 index position t more ih => rw [List.map_cons, ih, Segment.piece]
  | case3 index position p more ih => rw [List.map_cons, ih, Segment.piece]

theorem position_of_number_eq {index position : Nat} {pieces : List Piece}
    {before after : List Segment} {s : Segment}
    (h : number index position pieces = before ++ s :: after) :
    s.position = position + (before.flatMap Segment.source).length := by
  induction before generalizing index position pieces with
  | nil =>
      cases pieces with
      | nil => cases h
      | cons piece more => 
          cases piece <;> (cases h; rfl)
  | cons first before ih =>
      cases pieces with
      | nil => cases h
      | cons piece more =>
          cases piece with
          | text t =>
              simp only [number, List.cons_append, List.cons.injEq] at h
              obtain ⟨rfl, h⟩ := h
              rw [ih h]
              simp [Segment.source, Nat.add_assoc]
          | placeholder p =>
              simp only [number, List.cons_append, List.cons.injEq] at h
              obtain ⟨rfl, h⟩ := h
              rw [ih h]
              simp [Segment.source, Nat.add_assoc]

theorem map_index_number (index position : Nat) (pieces : List Piece) :
    ((number index position pieces).filterMap Segment.span?).map (·.index) =
      List.range' index ((number index position pieces).filterMap Segment.span?).length := by
  fun_induction number index position pieces with
  | case1 => rfl
  | case2 index position t more ih => simpa [List.filterMap_cons] using ih
  | case3 index position p more ih => simpa [List.filterMap_cons, List.range'_succ] using ih

/-! ## Extraction -/

section

variable (trim : Bool) (source : Text)

theorem map_piece_extract :
    (extract trim source).segments.map Segment.piece = split (preprocess trim source) :=
  map_piece_number ..

theorem canonical_extract : Canonical ((extract trim source).segments.map Segment.piece) := by
  rw [map_piece_extract]
  exact canonical_split _

theorem flatMap_source_extract :
    (extract trim source).segments.flatMap Segment.source = preprocess trim source := by
  rw [← printed_map_piece, map_piece_extract, printed_split]

theorem map_index_spans :
    (extract trim source).spans.map (·.index) = List.range (extract trim source).spans.length := by
  rw [List.range_eq_range']
  exact map_index_number ..

variable {trim source}

theorem mem_spans_iff {s : Span} :
    s ∈ (extract trim source).spans ↔ .span s ∈ (extract trim source).segments := by
  simp only [Extraction.spans, List.mem_filterMap]
  constructor
  · rintro ⟨segment, hmem, hspan⟩
    cases segment with
    | chunk => cases hspan
    | span r =>
        cases hspan
        exact hmem
  · intro h
    exact ⟨_, h, rfl⟩

theorem getElem?_index_of_mem_spans {s : Span} (h : s ∈ (extract trim source).spans) :
    (extract trim source).spans[s.index]? = some s := by
  obtain ⟨i, hi, rfl⟩ := List.mem_iff_getElem.1 h
  have hindex : ((extract trim source).spans.map (·.index))[i]? = some i := by
    rw [map_index_spans, List.getElem?_range hi]
  rw [List.getElem?_map, List.getElem?_eq_getElem hi, Option.map_some, Option.some.injEq] at hindex
  rw [hindex, List.getElem?_eq_getElem hi]

theorem getElem?_index_of_span_mem {s : Span} (h : .span s ∈ (extract trim source).segments) :
    (extract trim source).spans[s.index]? = some s :=
  getElem?_index_of_mem_spans (mem_spans_iff.2 h)

end

/-- The segments of a template divide a text: put together in their order they are the text, and
each starts at its position. The spans are numbered from zero on. -/
structure Extraction.Divides (e : Extraction) (text : Text) : Prop where
  sources : e.segments.flatMap Segment.source = text
  positions : ∀ before s after, e.segments = before ++ s :: after →
    s.position = (before.flatMap Segment.source).length
  nonempty : ∀ t position, .chunk t position ∈ e.segments → t ≠ []
  apart : e.segments.IsChain fun a b => ¬ (a.isChunk ∧ b.isChunk)
  spans : e.spans.map Segment.span = e.segments.filter (!·.isChunk)
  indices : e.spans.map (·.index) = List.range e.spans.length
  /-- Where a chunk reaches, no placeholder could be read. -/
  unmarked : ∀ t position, .chunk t position ∈ e.segments →
    ∀ k < t.length, placeholder? (text.drop (position + k)) = none

theorem map_span_filterMap (segments : List Segment) :
    (segments.filterMap Segment.span?).map Segment.span = segments.filter (!·.isChunk) := by
  induction segments with
  | nil => rfl
  | cons s more ih =>
      cases s with
      | chunk => simpa [List.filterMap_cons] using ih
      | span => simpa [List.filterMap_cons] using ih

theorem divides_extract (trim : Bool) (source : Text) :
    (extract trim source).Divides (preprocess trim source) := by
  have hcanonical := canonical_extract trim source
  have hsources := flatMap_source_extract trim source
  refine ⟨hsources, fun before s after h => ?_, fun t position ht => ?_, ?_,
    map_span_filterMap _, map_index_spans trim source, fun t position ht k hk => ?_⟩
  · rw [position_of_number_eq h, Nat.zero_add]
  · exact hcanonical.ne_nil_of_mem (List.mem_map.2 ⟨_, ht, rfl⟩)
  · simpa [List.isChain_map] using hcanonical.isChain
  · obtain ⟨before, after, h⟩ := List.append_of_mem ht
    have hposition : position = (before.flatMap Segment.source).length :=
      (position_of_number_eq h).trans (Nat.zero_add _)
    rw [h, List.map_append, List.map_cons] at hcanonical
    have hunmarked := hcanonical.unmarked_of_append
    rw [printed_map_piece] at hunmarked
    rw [h, List.flatMap_append, List.flatMap_cons, Segment.source] at hsources
    have hdrop : (preprocess trim source).drop (position + k) =
        t.drop k ++ after.flatMap Segment.source := by
      rw [← hsources, hposition, List.drop_length_add_append,
        List.drop_append_of_le_length hk.le]
    rw [hdrop]
    exact hunmarked (t.take k) (t.drop k) (List.take_append_drop k t).symm
      (by simpa using hk)

end Stencil.Template
