import Stencil.Format.Field
import Stencil.Proofs.Fallible

/-!
# Filling a format piece by piece

Every piece of a format takes some of its text, so a format is filled by filling its pieces one
after the other.
-/

namespace Stencil.Format

/-! ## What is left of a format -/

section

variable {t rest name spec : Text} {mark : Option Char} {field : Field} {piece : Piece}

theorem suffix_of_takeName {inBrackets : Bool}
    (h : takeName inBrackets t = .ok (name, mark, rest)) : rest <:+ t := by
  induction t generalizing inBrackets name with
  | nil => cases inBrackets <;> cases h <;> exact List.suffix_refl _
  | cons c t ih =>
      cases inBrackets with
      | true =>
          obtain ⟨⟨name', mark', rest'⟩, hname, heq⟩ := bind_eq_ok_iff.1 h
          cases heq
          exact (ih hname).trans (List.suffix_cons c t)
      | false =>
          rw [takeName] at h
          split at h
          · cases h
          · split at h
            · cases h
              exact List.suffix_cons c _
            · obtain ⟨⟨name', mark', rest'⟩, hname, heq⟩ := bind_eq_ok_iff.1 h
              cases heq
              exact (ih hname).trans (List.suffix_cons c t)

theorem suffix_of_takeSpec {openBraces : Nat} (h : takeSpec openBraces t = .ok (spec, rest)) :
    rest <:+ t := by
  induction t generalizing openBraces spec with
  | nil => cases openBraces <;> cases h
  | cons c t ih =>
      unfold takeSpec at h
      split at h
      · split at h
        · cases h
          exact List.suffix_cons c _
        · obtain ⟨⟨spec', rest'⟩, hspec, heq⟩ := bind_eq_ok_iff.1 h
          cases heq
          exact (ih hspec).trans (List.suffix_cons c t)
      · obtain ⟨⟨spec', rest'⟩, hspec, heq⟩ := bind_eq_ok_iff.1 h
        cases heq
        exact (ih hspec).trans (List.suffix_cons c t)

theorem suffix_of_takeField (h : takeField t = .ok (field, rest)) : rest <:+ t := by
  obtain ⟨⟨name, mark, behind⟩, hname, h⟩ := bind_eq_ok_iff.1 h
  refine List.IsSuffix.trans ?_ (suffix_of_takeName hname)
  -- The cases are those of the mark behind the name, and of what stands behind a conversion.
  split at h
  · next heq =>
      cases heq
      cases h
      exact List.suffix_refl _
  · next heq =>
      cases heq
      obtain ⟨⟨spec, rest'⟩, hspec, heq⟩ := bind_eq_ok_iff.1 h
      cases heq
      exact suffix_of_takeSpec hspec
  · next heq =>
      cases heq
      split at h
      · cases h
      · next c rest' =>
          cases h
          exact List.suffix_append [c, '}'] rest
      · next c behind =>
          obtain ⟨⟨spec, rest'⟩, hspec, heq⟩ := bind_eq_ok_iff.1 h
          cases heq
          exact (suffix_of_takeSpec hspec).trans (List.suffix_append [c, ':'] behind)
      · cases h
      · cases h
  · cases h

theorem length_lt_of_nextPiece? (h : nextPiece? t = .ok (some (piece, rest))) :
    rest.length < t.length := by
  have hlength {mark : Char} {behind : Text} {n : Nat} (h : t.drop n = mark :: behind) :
      behind.length < t.length := by
    have := congrArg List.length h
    rw [List.length_drop, List.length_cons] at this
    omega
  simp only [nextPiece?] at h
  split at h
  · next hempty =>
      cases ht : t.isEmpty with
      | true =>
          rw [ht] at h
          cases h
      | false =>
          rw [ht] at h
          cases h
          exact List.length_pos_iff.2 fun hnil => by simp [hnil] at ht
  · next heq =>
      cases h
      exact Nat.lt_of_succ_lt (hlength heq)
  · next heq =>
      cases h
      exact Nat.lt_of_succ_lt (hlength heq)
  · cases h
  · next heq =>
      obtain ⟨⟨field, rest'⟩, hfield, heq'⟩ := bind_eq_ok_iff.1 h
      cases heq'
      exact Nat.lt_of_le_of_lt (suffix_of_takeField hfield).length_le (hlength heq)
  · cases h

end

/-! ## Piece by piece -/

section

variable {t rest : Text} {piece : Piece} {ps : List Piece}

theorem pieces_eq_ok_nil_iff : pieces t = .ok [] ↔ nextPiece? t = .ok none := by
  rw [pieces]
  constructor
  · intro h
    obtain ⟨next, hnext, h⟩ := bind_eq_ok_iff.1 h
    split at h
    · exact hnext
    · split at h
      · obtain ⟨more, -, heq⟩ := bind_eq_ok_iff.1 h
        cases heq
      · cases h
  · intro h
    rw [h]
    rfl

theorem pieces_eq_ok_cons_iff :
    pieces t = .ok (piece :: ps) ↔
      ∃ rest, nextPiece? t = .ok (some (piece, rest)) ∧ pieces rest = .ok ps := by
  rw [pieces]
  constructor
  · intro h
    obtain ⟨next, hnext, h⟩ := bind_eq_ok_iff.1 h
    split at h
    · cases h
    · next piece' rest =>
        rw [dif_pos (length_lt_of_nextPiece? hnext)] at h
        obtain ⟨more, hmore, heq⟩ := bind_eq_ok_iff.1 h
        cases heq
        exact ⟨rest, hnext, hmore⟩
  · rintro ⟨rest, hnext, hmore⟩
    rw [hnext]
    change (if _h : rest.length < t.length then do return piece :: (← pieces rest)
      else return [piece]) = _
    rw [dif_pos (length_lt_of_nextPiece? hnext), hmore]
    rfl

end

/-! ## Filling -/

section

variable {present : Datum → Text → Except Fault Text} {fetch : Path → Except Fault Datum}
  {numbering : Numbering} {t : Text} {ps : List Piece} {shown : Field → Text}

def Piece.filled (shown : Field → Text) (piece : Piece) : Text :=
  piece.literal ++ (piece.field.map shown).getD []

theorem fillPieces_eq_ok_of_pieces {fillSpec : Numbering → Text → Except Fault (Text × Numbering)}
    (hpieces : pieces t = .ok ps)
    (hshown : ∀ piece ∈ ps, ∀ field ∈ piece.field,
      fillField (m := Except Fault) .error present fetch fillSpec numbering field =
        .ok (shown field, numbering)) :
    fillPieces (m := Except Fault) .error present fetch fillSpec numbering t =
      .ok (ps.flatMap (Piece.filled shown), numbering) := by
  induction ps generalizing t with
  | nil =>
      rw [fillPieces, pieces_eq_ok_nil_iff.1 hpieces]
      rfl
  | cons piece ps ih =>
      obtain ⟨rest, hnext, hmore⟩ := pieces_eq_ok_cons_iff.1 hpieces
      have hall := ih hmore fun p hp => hshown p (.tail _ hp)
      have hrest (front : Text) :
          (fillPieces (m := Except Fault) .error present fetch fillSpec numbering rest >>=
            fun r => .ok (front ++ r.1, r.2)) =
          .ok (front ++ ps.flatMap (Piece.filled shown), numbering) := by
        rw [hall]
        rfl
      rw [fillPieces, hnext]
      simp only [length_lt_of_nextPiece? hnext, dite_true]
      obtain ⟨literal, field⟩ := piece
      cases field with
      | none => exact hrest (literal ++ [])
      | some field =>
          simp only [hshown _ (.head _) field rfl]
          exact hrest (literal ++ shown field)

end

end Stencil.Format
