import Mathlib.Data.List.Basic
import Mathlib.Data.List.TakeWhile
import Stencil.Text.Blank

/-!
# Trimmed texts

A trimmed text has no blank at either end. Trimming takes no other characters away, and trimmed
texts that are put together are trimmed. A line holds no line end.
-/

namespace Stencil.Text

/-! ## Deciding what holds of all characters -/

section

-- There are finitely many characters, so that a quantifier over those of a text could be decided
-- by trying every character there is. It is decided by going through the text.
variable {P : Char → Prop} [DecidablePred P]

instance decidableForallMem (t : Text) : Decidable (∀ c ∈ t, P c) := List.decidableBAll P t

instance decidableExistsMem (t : Text) : Decidable (∃ c ∈ t, P c) := List.decidableBEx P t

instance decidableForallMemOption (o : Option Char) : Decidable (∀ c ∈ o, P c) :=
  Option.decidableForallMem o

end

/-! ## Blanks at the ends -/

theorem isBlank_eq_false {c : Char} (h : 32 < c.toNat) (h' : c.toNat < 128) :
    isBlank c = false := by
  simp [isBlank, inRanges, blankRanges]
  omega

theorem strip_isPrefix (t : Text) : strip t <+: stripLeft isBlank t := by
  rw [← List.reverse_suffix, strip, stripBoth, stripRight, List.reverse_reverse]
  exact List.dropWhile_suffix _

theorem strip_isInfix (t : Text) : strip t <:+: t :=
  (strip_isPrefix t).isInfix.trans (List.dropWhile_suffix _).isInfix

theorem isBlank_head?_strip (t : Text) : ∀ c ∈ (strip t).head?, isBlank c = false := by
  intro c hc
  obtain ⟨more, hmore⟩ := List.head?_eq_some_iff.1 hc
  obtain ⟨rest, hrest⟩ := strip_isPrefix t
  have hhead := List.head?_dropWhile_not isBlank t
  rw [hmore, stripLeft] at hrest
  rw [← hrest] at hhead
  simpa using hhead

theorem isBlank_getLast?_strip (t : Text) : ∀ c ∈ (strip t).getLast?, isBlank c = false := by
  intro c hc
  have hhead := List.head?_dropWhile_not isBlank (stripLeft isBlank t).reverse
  rw [strip, stripBoth, stripRight, List.getLast?_reverse] at hc
  rw [hc] at hhead
  simpa using hhead

/-! ## Runs of characters at the start -/

theorem dropWhile_eq_self {p : Char → Bool} {t : Text} (h : ∀ c ∈ t.head?, p c = false) :
    t.dropWhile p = t := by
  cases t with
  | nil => rfl
  | cons c rest => exact List.dropWhile_cons_of_neg (by simpa using h c rfl)

theorem dropWhile_run {p : Char → Bool} {run rest : Text} (hrun : ∀ c ∈ run, p c = true)
    (hrest : ∀ c ∈ rest.head?, p c = false) : (run ++ rest).dropWhile p = rest := by
  rw [List.dropWhile_append_of_pos hrun, dropWhile_eq_self hrest]

theorem takeWhile_run {p : Char → Bool} {run rest : Text} (hrun : ∀ c ∈ run, p c = true)
    (hrest : ∀ c ∈ rest.head?, p c = false) : (run ++ rest).takeWhile p = run := by
  rw [List.takeWhile_append_of_pos hrun]
  cases rest with
  | nil => rw [List.takeWhile_nil, List.append_nil]
  | cons c rest =>
      rw [List.takeWhile_cons_of_neg (by simp [hrest c rfl]), List.append_nil]

/-! ## Trimmed texts -/

theorem stripBoth_eq_self {p : Char → Bool} {t : Text} (hhead : ∀ c ∈ t.head?, p c = false)
    (hlast : ∀ c ∈ t.getLast?, p c = false) : stripBoth p t = t := by
  rw [stripBoth, stripLeft, stripRight, dropWhile_eq_self hhead,
    dropWhile_eq_self (by simpa using hlast), List.reverse_reverse]

theorem strip_eq_self_iff {t : Text} :
    strip t = t ↔ (∀ c ∈ t.head?, isBlank c = false) ∧ ∀ c ∈ t.getLast?, isBlank c = false := by
  constructor
  · intro h
    have hhead := isBlank_head?_strip t
    have hlast := isBlank_getLast?_strip t
    rw [h] at hhead hlast
    exact ⟨hhead, hlast⟩
  · rintro ⟨hhead, hlast⟩
    exact stripBoth_eq_self hhead hlast

theorem strip_strip (t : Text) : strip (strip t) = strip t :=
  strip_eq_self_iff.2 ⟨isBlank_head?_strip t, isBlank_getLast?_strip t⟩

theorem strip_append {s t : Text} (hs : strip s = s) (ht : strip t = t) :
    strip (s ++ t) = s ++ t := by
  rw [strip_eq_self_iff] at hs ht ⊢
  constructor
  · intro c hc
    rcases Option.or_eq_some_iff.1 (List.head?_append.symm.trans hc) with hc | ⟨-, hc⟩
    · exact hs.1 c hc
    · exact ht.1 c hc
  · intro c hc
    rcases Option.or_eq_some_iff.1 (List.getLast?_append.symm.trans hc) with hc | ⟨-, hc⟩
    · exact ht.2 c hc
    · exact hs.2 c hc

theorem strip_enclosed {front back : Text} (middle : Text) (hfront : front ≠ [])
    (hback : back ≠ []) (hhead : ∀ c ∈ front.head?, isBlank c = false)
    (hlast : ∀ c ∈ back.getLast?, isBlank c = false) :
    strip (front ++ (middle ++ back)) = front ++ (middle ++ back) := by
  refine strip_eq_self_iff.2 ⟨fun c hc => hhead c ?_, fun c hc => hlast c ?_⟩
  · rwa [List.head?_append_of_ne_nil _ hfront] at hc
  · rwa [← List.append_assoc, List.getLast?_append_of_ne_nil _ hback] at hc

theorem strip_append_blanks {before behind : Text} (t : Text)
    (hbefore : ∀ c ∈ before, isBlank c = true) (hbehind : ∀ c ∈ behind, isBlank c = true) :
    strip (before ++ t ++ behind) = strip t := by
  have hright (u : Text) : stripRight isBlank (u ++ behind) = stripRight isBlank u := by
    rw [stripRight, stripRight, List.reverse_append,
      List.dropWhile_append_of_pos fun c hc => hbehind c (List.mem_reverse.1 hc)]
  rw [strip, strip, stripBoth, stripBoth, stripLeft, stripLeft, List.append_assoc,
    List.dropWhile_append_of_pos hbefore, List.dropWhile_append]
  split
  · next hempty =>
      rw [List.isEmpty_iff.1 hempty, List.dropWhile_eq_nil_iff.2 hbehind]
  · exact hright _

/-! ## Lines -/

theorem flatten_lines_sublist (t : Text) : (lines t).flatten.Sublist t := by
  fun_induction lines t with
  | case1 => exact List.nil_sublist _
  | case2 rest ih => exact (ih.cons _).cons _
  | case3 c rest _ _ ih => exact ih.cons _
  | case4 c rest _ _ _ _ => exact (List.nil_sublist rest).cons_cons c
  | case5 c rest _ _ line more hlines ih =>
      rw [hlines] at ih
      exact ih.cons_cons c

theorem isLineEnd_of_mem_lines {t line : Text} (hline : line ∈ lines t) {c : Char} (hc : c ∈ line) :
    isLineEnd c = false := by
  fun_induction lines t generalizing line with
  | case1 => cases hline
  | case2 rest ih | case3 d rest _ _ ih =>
      rcases List.mem_cons.1 hline with rfl | hline
      · cases hc
      · exact ih hline hc
  | case4 d rest _ hd _ _ =>
      obtain rfl := List.mem_singleton.1 hline
      obtain rfl := List.mem_singleton.1 hc
      simpa using hd
  | case5 d rest _ hd first more hlines ih =>
      rw [hlines] at ih
      rcases List.mem_cons.1 hline with rfl | hline
      · rcases List.mem_cons.1 hc with rfl | hc
        · simpa using hd
        · exact ih (.head _) hc
      · exact ih (.tail _ hline) hc

theorem lines_eq_singleton {t : Text} (hne : t ≠ []) (h : ∀ c ∈ t, isLineEnd c = false) :
    lines t = [t] := by
  induction t with
  | nil => exact absurd rfl hne
  | cons c rest ih =>
      have hc : isLineEnd c = false := h c (.head _)
      rw [lines.eq_def]
      split
      · next heq => cases heq
      · next heq =>
          cases heq
          cases hc
      · next heq =>
          cases heq
          rw [hc, if_neg Bool.false_ne_true]
          cases rest with
          | nil => rw [lines]
          | cons d rest => rw [ih (List.cons_ne_nil _ _) fun e he => h e (.tail _ he)]

end Stencil.Text
