import Mathlib.Data.List.Chain
import Stencil.Template.Extract
import Stencil.Proofs.Template.Delimiting

/-!
# Splitting a text

Extraction cuts a text into pieces that give the text back. Of all the ways to cut it there is
exactly one in which plain text is never empty, never stands beside other plain text and holds no
place where a placeholder could be read. The segments are these pieces with their numbers and
positions.
-/

namespace Stencil.Template

/-! ## Canonical pieces -/

def Piece.isText : Piece → Bool
  | .text _ => true
  | .placeholder _ => false

def printed (pieces : List Piece) : Text := pieces.flatMap Piece.source

@[simp] theorem printed_nil : printed [] = [] := rfl

@[simp] theorem printed_cons (piece : Piece) (more : List Piece) :
    printed (piece :: more) = piece.source ++ printed more := rfl

@[simp] theorem printed_append (pieces more : List Piece) :
    printed (pieces ++ more) = printed pieces ++ printed more := List.flatMap_append

def Unmarked (t behind : Text) : Prop :=
  ∀ front rest, t = front ++ rest → rest ≠ [] → placeholder? (rest ++ behind) = none

/-- Pieces as extraction gives them. -/
inductive Canonical : List Piece → Prop
  | nil : Canonical []
  | placeholder {p : Placeholder} {more : List Piece} (delimited : p.Delimited)
      (rest : Canonical more) : Canonical (.placeholder p :: more)
  | text {t : Text} {more : List Piece} (nonempty : t ≠ []) (unmarked : Unmarked t (printed more))
      (apart : ∀ piece ∈ more.head?, piece.isText = false) (rest : Canonical more) :
      Canonical (.text t :: more)

theorem unmarked_nil (behind : Text) : Unmarked [] behind := by
  intro front rest h hne
  exact absurd (List.append_eq_nil_iff.1 h.symm).2 hne

theorem unmarked_cons_iff {c : Char} {t behind : Text} :
    Unmarked (c :: t) behind ↔
      placeholder? (c :: (t ++ behind)) = none ∧ Unmarked t behind := by
  constructor
  · intro h
    exact ⟨h [] (c :: t) rfl (List.cons_ne_nil _ _),
      fun front rest heq => h (c :: front) rest (by rw [heq, List.cons_append])⟩
  · rintro ⟨hnone, h⟩ front rest heq hne
    cases front with
    | nil =>
        obtain rfl : c :: t = rest := heq
        exact hnone
    | cons d front =>
        obtain ⟨-, rfl⟩ := List.cons.inj heq
        exact h front rest rfl hne

theorem Canonical.unmarked_of_append {before after : List Piece} {t : Text}
    (h : Canonical (before ++ .text t :: after)) : Unmarked t (printed after) := by
  induction before with
  | nil =>
      cases h with
      | text _ unmarked => exact unmarked
  | cons piece before ih =>
      cases h with
      | placeholder _ rest => exact ih rest
      | text _ _ _ rest => exact ih rest

theorem Canonical.ne_nil_of_mem {pieces : List Piece} (h : Canonical pieces) {t : Text}
    (ht : .text t ∈ pieces) : t ≠ [] := by
  induction h with
  | nil => cases ht
  | placeholder _ _ ih => exact ih (by simpa using ht)
  | text nonempty _ _ _ ih =>
      rcases List.mem_cons.1 ht with heq | ht
      · cases heq
        exact nonempty
      · exact ih ht

theorem Canonical.delimited_of_mem {pieces : List Piece} (h : Canonical pieces) {p : Placeholder}
    (hp : .placeholder p ∈ pieces) : p.Delimited := by
  induction h with
  | nil => cases hp
  | placeholder delimited _ ih =>
      rcases List.mem_cons.1 hp with heq | hp
      · cases heq
        exact delimited
      · exact ih hp
  | text _ _ _ _ ih => exact ih (by simpa using hp)

theorem Canonical.isChain {pieces : List Piece} (h : Canonical pieces) :
    pieces.IsChain fun a b => ¬ (a.isText ∧ b.isText) := by
  induction h with
  | nil => exact .nil
  | placeholder _ _ ih => exact List.isChain_cons.2 ⟨by simp [Piece.isText], ih⟩
  | text _ _ apart _ ih =>
      refine List.isChain_cons.2 ⟨fun piece hpiece => ?_, ih⟩
      simp [apart piece hpiece]

/-! ## The split -/

theorem printed_consText (c : Char) (pieces : List Piece) :
    printed (consText c pieces) = c :: printed pieces := by
  unfold consText
  split <;> rfl

theorem Canonical.consText {c : Char} {pieces : List Piece} (h : Canonical pieces)
    (hnone : placeholder? (c :: printed pieces) = none) : Canonical (consText c pieces) := by
  cases h with
  | nil =>
      exact .text (List.cons_ne_nil _ _) (unmarked_cons_iff.2 ⟨hnone, unmarked_nil _⟩)
        (by simp) .nil
  | placeholder delimited rest =>
      exact .text (List.cons_ne_nil _ _) (unmarked_cons_iff.2 ⟨hnone, unmarked_nil _⟩)
        (by simp [Piece.isText]) (.placeholder delimited rest)
  | text _ unmarked apart rest =>
      exact .text (List.cons_ne_nil _ _) (unmarked_cons_iff.2 ⟨hnone, unmarked⟩) apart rest

theorem split_of_placeholder? {t behind : Text} {p : Placeholder}
    (h : placeholder? t = some (p, behind)) : split t = .placeholder p :: split behind := by
  cases t with
  | nil => cases h
  | cons c rest =>
      rw [split]
      split
      · next found => 
          rw [h] at found
          cases found
          rfl
      · next found =>
          rw [h] at found
          cases found

theorem split_of_placeholder?_eq_none {c : Char} {rest : Text}
    (h : placeholder? (c :: rest) = none) : split (c :: rest) = consText c (split rest) := by
  rw [split]
  split
  · next found =>
      rw [h] at found
      cases found
  · rfl

theorem printed_split (t : Text) : printed (split t) = t := by
  fun_induction split t with
  | case1 => rfl
  | case2 c rest p behind h ih =>
      rw [printed_cons, ih]
      exact (placeholder?_eq_some_iff.1 h).2.symm
  | case3 c rest h ih => rw [printed_consText, ih]

theorem canonical_split (t : Text) : Canonical (split t) := by
  fun_induction split t with
  | case1 => exact .nil
  | case2 c rest p behind h ih => exact .placeholder (placeholder?_eq_some_iff.1 h).1 ih
  | case3 c rest h ih => exact ih.consText (by rwa [printed_split])

theorem split_append_of_unmarked {t : Text} {more : List Piece} (hne : t ≠ [])
    (hunmarked : Unmarked t (printed more))
    (hapart : ∀ piece ∈ more.head?, piece.isText = false) (hmore : split (printed more) = more) :
    split (t ++ printed more) = .text t :: more := by
  induction t with
  | nil => exact absurd rfl hne
  | cons c t ih =>
      obtain ⟨hnone, htail⟩ := unmarked_cons_iff.1 hunmarked
      rw [List.cons_append, split_of_placeholder?_eq_none hnone]
      cases t with
      | nil =>
          rw [List.nil_append, hmore]
          cases more with
          | nil => rfl
          | cons piece more =>
              cases piece with
              | text => exact absurd (hapart _ rfl) (by simp [Piece.isText])
              | placeholder => rfl
      | cons d t => rw [ih (List.cons_ne_nil _ _) htail, consText]

theorem split_printed {pieces : List Piece} (h : Canonical pieces) :
    split (printed pieces) = pieces := by
  induction h with
  | nil => rw [printed_nil, split]
  | @placeholder p more delimited _ ih =>
      have hread : placeholder? (p.source ++ printed more) = some (p, printed more) :=
        placeholder?_eq_some_iff.2 ⟨delimited, rfl⟩
      rw [printed_cons, Piece.source, split_of_placeholder? hread, ih]
  | text nonempty unmarked apart _ ih => exact split_append_of_unmarked nonempty unmarked apart ih

/-! ## Text without opening braces -/

/-- A piece may stand directly before another one if it does not run together with it: with plain
text, or with braces to which it would add a sigil. -/
def Piece.MayPrecede : Piece → Piece → Prop
  | .text _, .text _ => False
  | .text t, .placeholder p => t.getLast? = some '$' → p.valueSigil = true
  | .placeholder _, _ => True

/-- Pieces that can be told apart by their braces alone. -/
structure Legible (pieces : List Piece) : Prop where
  placeholders : ∀ p, .placeholder p ∈ pieces → p.Delimited
  texts : ∀ t, .text t ∈ pieces → t ≠ [] ∧ '{' ∉ t
  apart : pieces.IsChain Piece.MayPrecede

theorem placeholder?_eq_none {c : Char} {rest : Text} (hc : c ≠ '{')
    (hrest : c = '$' → rest.head? ≠ some '{') : placeholder? (c :: rest) = none := by
  unfold placeholder?
  split
  · next heq =>
      cases heq
      exact absurd rfl hc
  · next heq =>
      cases heq
      exact absurd rfl (hrest rfl)
  · rfl

theorem unmarked_of_sigil {t behind : Text} (ht : '{' ∉ t)
    (hend : t.getLast? = some '$' →
      ∀ p rest, placeholder? behind = some (p, rest) → p.valueSigil = true) :
    Unmarked t behind := by
  induction t with
  | nil => exact unmarked_nil behind
  | cons c t ih =>
      rw [List.mem_cons, not_or] at ht
      cases t with
      | cons d t =>
          rw [List.mem_cons, not_or] at ht
          refine unmarked_cons_iff.2 ⟨placeholder?_eq_none (Ne.symm ht.1) fun _ => ?_, ?_⟩
          · simpa using Ne.symm ht.2.1
          · exact ih (by simpa using ht.2) (by simpa using hend)
      | nil =>
          refine unmarked_cons_iff.2 ⟨?_, unmarked_nil behind⟩
          rw [List.nil_append, Option.eq_none_iff_forall_ne_some]
          rintro ⟨p, rest⟩ hp
          obtain ⟨hdelimited, heq⟩ := placeholder?_eq_some_iff.1 hp
          rw [Placeholder.source_eq] at heq
          cases hsigil : p.valueSigil with
          | false =>
              obtain ⟨tail, hbraced⟩ := p.exists_braced_eq_cons
              simp [hsigil, hbraced, Ne.symm ht.1] at heq
          | true =>
              -- Without the sigil the same placeholder is read behind the text.
              obtain ⟨rfl, rfl⟩ : c = '$' ∧ behind = p.braced ++ rest := by simpa [hsigil] using heq
              have hbare := hend rfl { p with valueSigil := false } rest
                (placeholder?_eq_some_iff.2 ⟨hdelimited, rfl⟩)
              cases hbare

theorem unmarked_of_notMem {t behind : Text} (ht : '{' ∉ t)
    (hend : t.getLast? = some '$' → behind.head? ≠ some '{') : Unmarked t behind := by
  refine unmarked_of_sigil ht fun hlast p rest hp => ?_
  obtain ⟨-, rfl⟩ := placeholder?_eq_some_iff.1 hp
  have hhead := hend hlast
  rw [List.head?_append, p.head?_source] at hhead
  cases hsigil : p.valueSigil with
  | true => rfl
  | false => simp [hsigil] at hhead

theorem Legible.canonical {pieces : List Piece} (h : Legible pieces) : Canonical pieces := by
  obtain ⟨hplaceholders, htexts, hapart⟩ := h
  induction pieces with
  | nil => exact .nil
  | cons piece more ih =>
      obtain ⟨hhead, hmore⟩ := List.isChain_cons.1 hapart
      have rest := ih (fun p hp => hplaceholders p (.tail _ hp))
        (fun t ht => htexts t (.tail _ ht)) hmore
      cases piece with
      | placeholder p => exact .placeholder (hplaceholders p (.head _)) rest
      | text t =>
          obtain ⟨hne, hbrace⟩ := htexts t (.head _)
          refine .text hne (unmarked_of_notMem hbrace fun hsigil => ?_) (fun next hnext => ?_) rest
          · cases more with
            | nil => simp
            | cons next more =>
                have hnext := hhead next rfl
                cases next with
                | text => exact hnext.elim
                | placeholder p =>
                    simp [Piece.source, p.source_eq, hnext hsigil]
          · have hnext := hhead next hnext
            cases next with
            | text => exact hnext.elim
            | placeholder => rfl

theorem Canonical.mayPrecede {pieces : List Piece} (h : Canonical pieces) :
    pieces.IsChain Piece.MayPrecede := by
  induction h with
  | nil => exact .nil
  | placeholder _ _ ih => exact List.isChain_cons.2 ⟨fun _ _ => trivial, ih⟩
  | @text t more _ unmarked apart rest ih =>
      refine List.isChain_cons.2 ⟨fun next hnext => ?_, ih⟩
      cases next with
      | text => exact absurd (apart _ hnext) (by simp [Piece.isText])
      | placeholder p =>
          intro hsigil
          by_contra hbare
          obtain ⟨after, rfl⟩ := List.head?_eq_some_iff.1 hnext
          obtain ⟨front, rfl⟩ := List.getLast?_eq_some_iff.1 hsigil
          have hp : p.Delimited := by
            cases rest with
            | placeholder delimited _ => exact delimited
          -- The dollar sign would be read as the sigil of the placeholder behind it.
          have hread : placeholder? ('$' :: (p.source ++ printed after)) =
              some ({ p with valueSigil := true }, printed after) := by
            refine placeholder?_eq_some_iff.2 ⟨hp, ?_⟩
            simp [Placeholder.source_eq, hbare, Placeholder.braced]
          have hnone := unmarked front ['$'] rfl (List.cons_ne_nil _ _)
          rw [printed_cons, Piece.source, List.singleton_append, hread] at hnone
          cases hnone

end Stencil.Template
