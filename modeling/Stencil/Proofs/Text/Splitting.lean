import Mathlib.Data.List.Infix
import Stencil.Text.Basic

/-!
# Cutting, splitting and joining

A mark is found where it first occurs. Parts without a separator that are joined by it are the parts
of the result, and the parts of a text give the text back when they are joined.
-/

namespace Stencil.Text

/-! ## Marks -/

theorem after?_eq_none_iff {head t : Text} : after? head t = none ↔ ¬ head <+: t := by
  rw [← Option.not_isSome_iff_eq_none, Option.isSome_iff_exists]
  simp only [after?_eq_some_iff]
  exact not_congr (exists_congr fun _ => eq_comm)

theorem cut?_eq_none_iff {needle t : Text} : cut? needle t = none ↔ ¬ needle <:+: t := by
  induction t with
  | nil => cases needle <;> simp [cut?, after?]
  | cons c t ih =>
      rw [List.infix_cons_iff, not_or, ← after?_eq_none_iff, ← ih, cut?]
      cases after? needle (c :: t) <;> simp

theorem infix_of_cut? {needle t before behind : Text} (h : cut? needle t = some (before, behind)) :
    needle <:+: t := ⟨before, behind, (eq_append_of_cut? h).symm⟩

theorem cut?_append {d : Char} {more t : Text} (hd : d ∉ more) (ht : ¬ d :: more <:+: t)
    (behind : Text) : cut? (d :: more) (t ++ (d :: more ++ behind)) = some (t, behind) := by
  induction t with
  | nil =>
      have hafter : after? (d :: more) (d :: more ++ behind) = some behind :=
        after?_eq_some_iff.2 rfl
      rw [List.nil_append, List.cons_append, cut?, ← List.cons_append, hafter]
  | cons c t ih =>
      have hnone : after? (d :: more) (c :: (t ++ (d :: more ++ behind))) = none := by
        rw [after?_eq_none_iff]
        intro hmark
        have hself : c :: t <+: c :: (t ++ (d :: more ++ behind)) := ⟨_, rfl⟩
        rcases List.prefix_or_prefix_of_prefix hmark hself with h | ⟨rest, hrest⟩
        · exact ht h.isInfix
        · -- The first character of the mark behind the text would come again in the mark.
          obtain ⟨tail, htail⟩ := hmark
          cases rest with
          | nil => exact ht ⟨[], [], by rw [← hrest]; simp⟩
          | cons e rest =>
              obtain ⟨rfl, rfl⟩ := List.cons.inj hrest
              obtain ⟨rfl, -⟩ : e = c ∧ _ := by simpa using htail
              exact hd (by simp)
      rw [List.cons_append, cut?, hnone, ih fun h => ht (h.trans (List.suffix_cons c t).isInfix)]
      rfl

theorem notMem_of_cut? {c : Char} {t before behind : Text}
    (h : cut? [c] t = some (before, behind)) : c ∉ before := by
  induction t generalizing before with
  | nil => cases h
  | cons d t ih =>
      by_cases hd : c = d
      · rw [cut?, after?, if_pos hd, after?_nil] at h
        cases h
        exact List.not_mem_nil
      · rw [cut?, after?, if_neg hd] at h
        obtain ⟨⟨rest, _⟩, hcut, hpair⟩ := Option.map_eq_some_iff.1 h
        cases hpair
        exact by simp [hd, ih hcut]

/-! ## Splitting at a character -/

theorem join_eq_intercalate (separator : Text) (parts : List Text) :
    join separator parts = separator.intercalate parts := rfl

theorem splitOn_eq (c : Char) (t : Text) :
    splitOn [c] (List.cons_ne_nil c []) t = List.splitOn c t := by
  unfold splitOn
  split
  · next hcut =>
      rw [cut?_eq_none_iff, List.singleton_infix_iff] at hcut
      exact (List.splitOn_eq_singleton hcut).symm
  · next before behind hcut =>
      rw [splitOn_eq c behind, eq_append_of_cut? hcut, List.append_assoc, List.singleton_append,
        List.splitOn_append_cons_self_of_not_mem (notMem_of_cut? hcut)]
termination_by t.length
decreasing_by exact length_lt_of_cut? (List.cons_ne_nil c []) ‹_›

theorem notMem_of_mem_splitOn {c : Char} {t part : Text} (h : part ∈ List.splitOn c t) :
    c ∉ part := by
  induction t generalizing part with
  | nil => simp_all
  | cons d t ih =>
      rw [List.splitOn_cons_eq_if_modifyHead] at h
      split at h
      · rcases List.mem_cons.1 h with rfl | h
        · exact List.not_mem_nil
        · exact ih h
      · next hd =>
          cases hsplit : List.splitOn c t with
          | nil => exact absurd hsplit (List.splitOn_ne_nil c t)
          | cons first more =>
              rw [hsplit, List.modifyHead_cons] at h
              rcases List.mem_cons.1 h with rfl | h
              have hne : c ≠ d := fun heq => hd (by rw [heq, beq_self_eq_true])
              exact List.not_mem_cons_of_ne_of_not_mem hne (ih (hsplit ▸ .head _))
              · exact ih (hsplit ▸ .tail _ h)

theorem join_append_join {separator last first : Text} (front back : List Text) :
    join separator (front ++ [last]) ++ join separator (first :: back) =
      join separator (front ++ (last ++ first) :: back) := by
  simp only [join_eq_intercalate]
  induction front with
  | nil =>
      cases back with
      | nil => simp
      | cons second back => simp [List.intercalate_cons_cons]
  | cons part front ih =>
      have hcons (more : List Text) (hne : more ≠ []) : separator.intercalate (part :: more) =
          part ++ separator ++ separator.intercalate more := List.intercalate_cons_of_ne_nil hne
      rw [List.cons_append, List.cons_append, hcons _ (by simp), hcons _ (by simp),
        List.append_assoc, ih]

end Stencil.Text
