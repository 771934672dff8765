import Stencil.Template.Preprocess
import Stencil.Template.Scan

/-!
# Extraction of placeholders

The preprocessed text is split into plain text and placeholders, as early as possible from the
left: a brace is text only where no placeholder starts. Pieces that carry no position are numbered
afterwards.
-/

namespace Stencil.Template

inductive Piece where
  | text (t : Text)
  | placeholder (p : Placeholder)
deriving DecidableEq, Repr

def Piece.source : Piece → Text
  | .text t => t
  | .placeholder p => p.source

def consText (c : Char) : List Piece → List Piece
  | .text t :: more => .text (c :: t) :: more
  | pieces => .text [c] :: pieces

def split : Text → List Piece
  | [] => []
  | c :: rest =>
    match _h : placeholder? (c :: rest) with
    | some (p, behind) => .placeholder p :: split behind
    | none => consText c (split rest)
termination_by t => t.length
decreasing_by
  · exact length_lt_of_placeholder? _h
  · simp

def number : (index position : Nat) → List Piece → List Segment
  | _, _, [] => []
  | index, position, .text t :: more =>
    .chunk t position :: number index (position + t.length) more
  | index, position, .placeholder p :: more =>
    .span { p with index, position } :: number (index + 1) (position + p.source.length) more

/-- The segments of a template, its spans, and the snapshot in which a token stands for each
span. -/
structure Extraction where
  segments : List Segment

def Extraction.spans (e : Extraction) : List Span := e.segments.filterMap Segment.span?

def Extraction.snapshot (e : Extraction) : Text := e.segments.flatMap Segment.snapshot

def extract (trim : Bool) (source : Text) : Extraction :=
  ⟨number 0 0 (split (preprocess trim source))⟩

end Stencil.Template
