import Mathlib.Tactic.SplitIfs
import Stencil.Text.Blank
import Stencil.Text.Quoted
import Stencil.Proofs.Text.Splitting

/-!
# Quoted texts are lines

No line end is printable, so that every one of them is escaped in a quoted text.
-/

namespace Stencil.Text

def IsLine (t : Text) : Prop := ∀ c ∈ t, isLineEnd c = false

instance (t : Text) : Decidable (IsLine t) :=
  inferInstanceAs (Decidable (∀ c ∈ t, isLineEnd c = false))

section

variable {c : Char} {s t : Text}

@[simp] theorem isLine_nil : IsLine [] := List.forall_mem_nil _

@[simp] theorem isLine_cons : IsLine (c :: t) ↔ isLineEnd c = false ∧ IsLine t :=
  List.forall_mem_cons

@[simp] theorem isLine_append : IsLine (s ++ t) ↔ IsLine s ∧ IsLine t := List.forall_mem_append

theorem isLine_replicate (n : Nat) (hc : isLineEnd c = false) : IsLine (List.replicate n c) :=
  fun _ hd => List.eq_of_mem_replicate hd ▸ hc

theorem IsLine.padLeft {width : Nat} (ht : IsLine t) (hc : isLineEnd c = false) :
    IsLine (padLeft c width t) :=
  isLine_append.2 ⟨isLine_replicate _ hc, ht⟩

theorem IsLine.join {separator : Text} {parts : List Text} (hseparator : IsLine separator)
    (h : ∀ part ∈ parts, IsLine part) : IsLine (join separator parts) := by
  rw [join_eq_intercalate]
  induction parts with
  | nil => exact isLine_nil
  | cons first more ih =>
      obtain ⟨hfirst, hmore⟩ := List.forall_mem_cons.1 h
      cases more with
      | nil => simpa using hfirst
      | cons second more =>
          rw [List.intercalate_cons_cons]
          exact isLine_append.2 ⟨isLine_append.2 ⟨hfirst, hseparator⟩, ih hmore⟩

end

/-! ## Numbers -/

theorem isLineEnd_digitChar (n : Nat) : isLineEnd n.digitChar = false := by
  have hdigit : ∀ n < 16, isLineEnd (Nat.digitChar n) = false := by decide
  by_cases hn : n < 16
  · exact hdigit n hn
  · rw [Nat.digitChar_eq_star.2 (by omega)]
    rfl

theorem isLine_toDigits {base : Nat} (hbase : 1 < base) (n : Nat) :
    IsLine (Nat.toDigits base n) := by
  induction n using Nat.strongRecOn with
  | ind n ih =>
      rw [Nat.toDigits_eq_if hbase]
      split
      · exact isLine_cons.2 ⟨isLineEnd_digitChar n, isLine_nil⟩
      · have hquotient := ih (n / base) (Nat.div_lt_self (by omega) hbase)
        exact isLine_append.2 ⟨hquotient, isLine_cons.2 ⟨isLineEnd_digitChar _, isLine_nil⟩⟩

/-! ## Quoted texts -/

theorem isLineEnd_iff {c : Char} :
    isLineEnd c = true ↔
      (10 ≤ c.toNat ∧ c.toNat ≤ 13) ∨ (28 ≤ c.toNat ∧ c.toNat ≤ 30) ∨ c.toNat = 133 ∨
        (8232 ≤ c.toNat ∧ c.toNat ≤ 8233) := by
  simp [isLineEnd, inRanges, lineEndRanges]
  omega

theorem isPrintable_eq_false_of_isLineEnd {c : Char} (h : isLineEnd c = true) :
    isPrintable c = false := by
  rw [isPrintable, Bool.not_eq_false', inRanges, List.any_eq_true]
  rcases isLineEnd_iff.1 h with h | h | h | h
  · exact ⟨(0, 31), by decide +kernel, by simp; omega⟩
  · exact ⟨(0, 31), by decide +kernel, by simp; omega⟩
  · exact ⟨(127, 160), by decide +kernel, by simp; omega⟩
  · exact ⟨(8232, 8239), by decide +kernel, by simp; omega⟩

theorem isLine_hexDigits (width n : Nat) : IsLine (hexDigits width n) :=
  (isLine_toDigits (by decide) n).padLeft rfl

theorem isLine_escapeChar {quote : Char} (hquote : isLineEnd quote = false) (c : Char) :
    IsLine (escapeChar quote c) := by
  unfold escapeChar
  split_ifs with hc hfeed hreturn htab hprintable hshort hlong
  · rcases hc with rfl | rfl
    · simpa using ⟨rfl, hquote⟩
    · simp [isLineEnd, inRanges, lineEndRanges]
  · simp [isLineEnd, inRanges, lineEndRanges]
  · simp [isLineEnd, inRanges, lineEndRanges]
  · simp [isLineEnd, inRanges, lineEndRanges]
  · simpa using fun h => Bool.false_ne_true (isPrintable_eq_false_of_isLineEnd h ▸ hprintable)
  all_goals exact isLine_cons.2 ⟨rfl, isLine_cons.2 ⟨rfl, isLine_hexDigits _ _⟩⟩

theorem isLine_quoted (t : Text) : IsLine (quoted t) := by
  have hquote : isLineEnd (quoteFor t) = false := by
    unfold quoteFor
    split <;> rfl
  have hescaped : IsLine (t.flatMap (escapeChar (quoteFor t))) := fun c hc => by
    obtain ⟨d, -, hc⟩ := List.mem_flatMap.1 hc
    exact isLine_escapeChar hquote d c hc
  have hend : IsLine [quoteFor t] := isLine_cons.2 ⟨hquote, isLine_nil⟩
  exact isLine_append.2 ⟨isLine_cons.2 ⟨hquote, hescaped⟩, hend⟩

end Stencil.Text
