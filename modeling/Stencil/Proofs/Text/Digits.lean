import Mathlib.Data.List.Basic
import Stencil.Text.Digit
import Stencil.Proofs.Text.Trimming

/-!
# Decimal digits

A number is written with digits of ASCII, which are decimal digits and not blank, and it is read
back. Every text of decimal digits is a number.
-/

namespace Stencil.Text

theorem digitValue?_of_isDigit {c : Char} (h : c.isDigit = true) :
    digitValue? c = some (c.toNat - '0'.toNat) := by
  rw [Char.isDigit, Bool.and_eq_true, decide_eq_true_iff, decide_eq_true_iff] at h
  exact if_pos h

theorem isDigit_of_mem_ofNat {n : Nat} {c : Char} (h : c ∈ ofNat n) : c.isDigit = true :=
  Nat.isDigit_of_mem_toDigits (by decide) (by decide) h

theorem ofNat_ne_nil (n : Nat) : ofNat n ≠ [] := Nat.toDigits_ne_nil

theorem length_ofNat_mono {m n : Nat} (h : m ≤ n) : (ofNat m).length ≤ (ofNat n).length := by
  induction n using Nat.strongRecOn generalizing m with
  | ind n ih =>
      by_cases hm : m < 10
      · rw [ofNat, Nat.toDigits_of_lt_base hm]
        exact List.length_pos_iff.mpr (ofNat_ne_nil n)
      · have hn : 10 ≤ n := by omega
        rw [ofNat, ofNat, Nat.toDigits_of_base_le (by decide) (Nat.le_of_not_lt hm),
          Nat.toDigits_of_base_le (by decide) hn, List.length_append, List.length_append]
        exact Nat.add_le_add_right (ih (n / 10) (by omega) (Nat.div_le_div_right h)) 1

theorem isDecimalDigit_of_mem_ofNat {n : Nat} {c : Char} (h : c ∈ ofNat n) :
    isDecimalDigit c = true := by
  rw [isDecimalDigit, digitValue?_of_isDigit (isDigit_of_mem_ofNat h)]
  rfl

theorem isBlank_of_mem_ofNat {n : Nat} {c : Char} (h : c ∈ ofNat n) : isBlank c = false := by
  obtain ⟨hlow, hhigh⟩ := Char.isDigit_iff_toNat.1 (isDigit_of_mem_ofNat h)
  exact isBlank_eq_false (Nat.lt_of_lt_of_le (by decide) hlow)
    (Nat.lt_of_le_of_lt hhigh (by decide))

theorem foldl_digitValue? {digits : Text} (h : ∀ c ∈ digits, c.isDigit = true) (n : Nat) :
    digits.foldl (fun acc c => acc.bind fun n => (digitValue? c).map (10 * n + ·)) (some n) =
      some (Nat.ofDigitChars 10 digits n) := by
  induction digits generalizing n with
  | nil => rfl
  | cons c digits ih =>
      rw [List.foldl_cons, Option.bind_some, digitValue?_of_isDigit (h c (.head _)),
        Option.map_some, ih fun d hd => h d (.tail _ hd)]
      rfl

theorem digitsToNat?_ofNat (n : Nat) : digitsToNat? (ofNat n) = some n := by
  rw [digitsToNat?, foldl_digitValue? fun c hc => isDigit_of_mem_ofNat hc, ofNat,
    Nat.ofDigitChars_ten_toDigits]

theorem digitsToNat?_isSome {digits : Text} (h : ∀ c ∈ digits, isDecimalDigit c = true) :
    (digitsToNat? digits).isSome = true := by
  have hfold (n : Nat) :
      (digits.foldl (fun acc c => acc.bind fun n => (digitValue? c).map (10 * n + ·))
        (some n)).isSome = true := by
    induction digits generalizing n with
    | nil => rfl
    | cons c digits ih =>
        obtain ⟨value, hvalue⟩ := Option.isSome_iff_exists.1 (h c (.head _))
        rw [List.foldl_cons, hvalue]
        exact ih (fun d hd => h d (.tail _ hd)) _
  exact hfold 0

end Stencil.Text
