import Mathlib.Data.List.Forall2
import Stencil.Template.Generate
import Stencil.Proofs.Template.Tokens

/-!
# Compiling a part of a template anew

In a part of a template whose plain text is protected nothing is read that was not there before:
preprocessing leaves it alone, its placeholders are found again, and its segments give the
instructions that they gave in the template.
-/

namespace Stencil.Template

namespace Segment

def ofText (text : Text) (position : Nat) : List Segment :=
  if text = [] then [] else [.chunk text position]

theorem mem_ofText {text : Text} {position : Nat} {s : Segment} :
    s ∈ ofText text position ↔ text ≠ [] ∧ s = .chunk text position := by
  unfold ofText
  split <;> simp [*]

theorem ofText_eq_nil_iff {text : Text} {position : Nat} :
    ofText text position = [] ↔ text = [] := by
  simp [ofText]

theorem flatMap_snapshot_ofText (text : Text) (position : Nat) :
    (ofText text position).flatMap snapshot = text := by
  unfold ofText
  split <;> simp [snapshot, *]

theorem flatMap_source_ofText (text : Text) (position : Nat) :
    (ofText text position).flatMap source = text := by
  unfold ofText
  split <;> simp [source, *]

end Segment

/-! ## Texts with protected braces -/

/-- The second text is the first with some of its braces protected. -/
def Guards : Text → Text → Prop := List.Forall₂ fun c d => d = c ∨ d = protectBrace c

theorem guards_refl (t : Text) : Guards t t := List.forall₂_same.2 fun _ _ => .inl rfl

theorem guards_protectBraces (t : Text) : Guards t (protectBraces t) := by
  rw [Guards, protectBraces, List.forall₂_map_right_iff]
  exact List.forall₂_same.2 fun _ _ => .inr rfl

theorem Guards.append {t u t' u' : Text} (h : Guards t u) (h' : Guards t' u') :
    Guards (t ++ t') (u ++ u') := List.rel_append h h'

theorem guards_flatMap_source (segments : List Segment) :
    Guards (segments.flatMap Segment.source) (printed (segments.map Segment.guarded)) := by
  induction segments with
  | nil => exact .nil
  | cons s more ih =>
      cases s with
      | chunk t position => exact (guards_protectBraces t).append ih
      | span s => exact (guards_refl s.source).append ih

theorem Guards.exists_append {t u v : Text} (h : Guards t (u ++ v)) :
    ∃ t₁ t₂, t = t₁ ++ t₂ ∧ Guards t₁ u ∧ Guards t₂ v :=
  ⟨t.take u.length, t.drop u.length, (List.take_append_drop ..).symm,
    List.forall₂_take_append _ _ _ h, List.forall₂_drop_append _ _ _ h⟩

theorem Guards.eq {t u : Text} (h : Guards t u) (hopen : openSentinel ∉ u)
    (hclose : closeSentinel ∉ u) : t = u := by
  induction h with
  | nil => rfl
  | @cons c d t u hcd _ ih =>
      rw [List.mem_cons, not_or] at hopen hclose
      have hc : c = d := by
        rcases hcd with rfl | hd
        · rfl
        · exact eq_of_protectBrace_eq hd.symm ⟨Ne.symm hopen.1, Ne.symm hclose.1⟩
      rw [hc, ih hopen.2 hclose.2]

theorem Guards.encloses {t u opening closing : Text} (h : Guards t u)
    (hopening : openSentinel ∉ opening ∧ closeSentinel ∉ opening)
    (hclosing : openSentinel ∉ closing ∧ closeSentinel ∉ closing)
    (hu : Encloses opening closing u) : Encloses opening closing t := by
  obtain ⟨before, inside, behind, rfl⟩ := hu
  obtain ⟨front, behind', rfl, hfront, -⟩ := h.exists_append
  obtain ⟨front, closing', rfl, hfront, hclosing'⟩ := hfront.exists_append
  obtain ⟨front, inside', rfl, hfront, -⟩ := hfront.exists_append
  obtain ⟨before', opening', rfl, -, hopening'⟩ := hfront.exists_append
  rw [hopening'.eq hopening.1 hopening.2, hclosing'.eq hclosing.1 hclosing.2]
  exact ⟨before', inside', behind', rfl⟩

theorem Guards.unescaped {t u : Text} (h : Guards t u) (ht : Unescaped t) : Unescaped u := by
  induction h with
  | nil => exact .nil
  | @cons c d t u hcd htu ih =>
      refine List.isChain_cons.2 ⟨fun d' hd' hbackslash => ?_, ih ht.tail⟩
      cases htu with
      | nil => cases hd'
      | @cons c' d' t u hcd' _ =>
          have hc : c = '\\' := by
            rcases hcd with rfl | hd
            · exact hbackslash
            · exact eq_of_protectBrace_eq (hd ▸ hbackslash) (by decide)
          have hc' := (List.isChain_cons_cons.1 ht).1 hc
          cases hd'
          rcases hcd' with rfl | rfl
          · exact hc'
          · exact protectBrace_ne c'

theorem Guards.settled {t u : Text} (h : Guards t u) (ht : Settled t) : Settled u where
  comments hu := ht.comments (h.encloses (by decide) (by decide) hu)
  literals hu := ht.literals (h.encloses (by decide) (by decide) hu)
  escapes := h.unescaped ht.escapes

theorem Encloses.of_infix {opening closing t u : Text} (h : Encloses opening closing t)
    (ht : t <:+: u) : Encloses opening closing u := by
  obtain ⟨before, inside, behind, rfl⟩ := h
  obtain ⟨front, rest, rfl⟩ := ht
  exact ⟨front ++ before, inside, behind ++ rest, by simp⟩

theorem Settled.of_infix {t u : Text} (h : Settled u) (ht : t <:+: u) : Settled t where
  comments hblock := h.comments (hblock.of_infix ht)
  literals hblock := h.literals (hblock.of_infix ht)
  escapes := List.IsChain.infix h.escapes ht

/-! ## Reading and compiling -/

theorem getLast?_protectBraces {t : Text} {c : Char} (hc : c ≠ openSentinel ∧ c ≠ closeSentinel)
    (hbrace : c ≠ '{' ∧ c ≠ '}') : (protectBraces t).getLast? = some c ↔ t.getLast? = some c := by
  rw [protectBraces, List.getLast?_map, Option.map_eq_some_iff]
  constructor
  · rintro ⟨d, hd, rfl⟩
    rwa [← eq_of_protectBrace_eq rfl hc]
  · intro h
    exact ⟨c, h, protectBrace_eq_self hbrace⟩

theorem Segment.mayPrecede_guarded {a b : Segment} :
    a.guarded.MayPrecede b.guarded ↔ a.piece.MayPrecede b.piece := by
  cases a <;> cases b <;>
    simp [guarded, piece, Piece.MayPrecede, getLast?_protectBraces, openSentinel, closeSentinel]

/-- Segments that do not run together when they are written in a new text. -/
structure Separable (segments : List Segment) : Prop where
  delimited : ∀ s, .span s ∈ segments → s.Delimited
  nonempty : ∀ t position, .chunk t position ∈ segments → t ≠ []
  apart : segments.IsChain fun a b => a.piece.MayPrecede b.piece

theorem Separable.legible {segments : List Segment} (h : Separable segments) :
    Legible (segments.map Segment.guarded) where
  placeholders p hp := by
    obtain ⟨s, hs, heq⟩ := List.mem_map.1 hp
    cases s with
    | chunk => cases heq
    | span s =>
        cases heq
        exact h.delimited s hs
  texts t ht := by
    obtain ⟨s, hs, heq⟩ := List.mem_map.1 ht
    cases s with
    | chunk u position =>
        cases heq
        exact ⟨by simpa [protectBraces] using h.nonempty u position hs, (notMem_protectBraces u).1⟩
    | span s => cases heq
  apart := by
    rw [List.isChain_map]
    exact h.apart.imp fun _ _ => Segment.mayPrecede_guarded.2

theorem separable_extract (trim : Bool) (source : Text) :
    Separable (extract trim source).segments where
  delimited s hs :=
    (canonical_extract trim source).delimited_of_mem (List.mem_map.2 ⟨_, hs, rfl⟩)
  nonempty t position ht :=
    (canonical_extract trim source).ne_nil_of_mem (List.mem_map.2 ⟨_, ht, rfl⟩)
  apart := by
    rw [← List.isChain_map]
    exact (canonical_extract trim source).mayPrecede

theorem Separable.isChunk_apart {segments : List Segment} (h : Separable segments) :
    segments.IsChain fun a b => ¬ (a.isChunk ∧ b.isChunk) := by
  refine h.apart.imp fun a b hab => ?_
  cases a <;> cases b <;> simp_all [Segment.piece, Piece.MayPrecede]

theorem exists_restored {spans : List Span} {segments : List Segment}
    (hknown : ∀ s, .span s ∈ segments → spans[s.index]? = some s)
    (hmark : ∀ t position, .chunk t position ∈ segments → ¬ tokenStart <:+: t)
    (hseparable : Separable segments)
    (hsettled : Settled (printed (segments.map Segment.guarded))) :
    ∃ text, restoreSpans spans (protectBraces (segments.flatMap Segment.snapshot)) = .ok text ∧
      (extract false text).segments.map Segment.piece = segments.map Segment.guarded := by
  refine ⟨_, restoreSpans_snapshot ⟨hknown, hmark, hseparable.isChunk_apart⟩, ?_⟩
  rw [map_piece_extract, preprocess_of_settled hsettled,
    split_printed hseparable.legible.canonical]

section

variable {m : Type → Type} [Monad m] (handler : IncludeHandler m)

theorem Segment.generate_congr {a b : Segment} (h : a.piece = b.guarded) :
    a.generate handler = b.generate handler := by
  cases b with
  | chunk t position =>
      cases a with
      | chunk u =>
          obtain rfl : u = protectBraces t := Piece.text.inj h
          rw [Segment.generate, Segment.generate, restoreBraces_protectBraces]
      | span => cases h
  | span s =>
      cases a with
      | chunk => cases h
      | span r =>
          obtain ⟨p, _, _⟩ := r
          obtain ⟨q, _, _⟩ := s
          obtain rfl : p = q := Piece.placeholder.inj h
          rfl

theorem generate_eq_of_map_eq {f g : Segment → Piece} {as bs : List Segment}
    (hsegment : ∀ a b, f a = g b → a.generate handler = b.generate handler)
    (h : as.map f = bs.map g) : generate handler as = generate handler bs := by
  induction bs generalizing as with
  | nil =>
      obtain rfl := List.map_eq_nil_iff.1 h
      rfl
  | cons b bs ih =>
      cases as with
      | nil => cases h
      | cons a as =>
          obtain ⟨hhead, htail⟩ := List.cons.inj h
          rw [generate, generate, hsegment a b hhead, ih htail]

/-- Code is generated from what is written, not from numbers and positions, and protected braces
are shown as braces. -/
theorem generate_congr {as bs : List Segment}
    (h : as.map Segment.piece = bs.map Segment.guarded) :
    generate handler as = generate handler bs :=
  generate_eq_of_map_eq handler (fun _ _ => Segment.generate_congr handler) h

theorem Segment.generate_eq_of_piece {a b : Segment} (h : a.piece = b.piece) :
    a.generate handler = b.generate handler := by
  cases b with
  | chunk t position =>
      cases a with
      | chunk u =>
          obtain rfl : u = t := Piece.text.inj h
          rfl
      | span => cases h
  | span s =>
      cases a with
      | chunk => cases h
      | span r => exact Segment.generate_congr handler (b := .span s) h

theorem generate_eq_of_map_piece {as bs : List Segment}
    (h : as.map Segment.piece = bs.map Segment.piece) : generate handler as = generate handler bs :=
  generate_eq_of_map_eq handler (fun _ _ => Segment.generate_eq_of_piece handler) h

end

end Stencil.Template
