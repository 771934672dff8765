import Mathlib.Data.List.Basic
import Stencil.Settings.Reference
import Stencil.Proofs.Text.Trimming

/-!
# Readings of a text

A reading puts digits in the place of the fields of a format so that the format spells a text. If a
text has readings, matching it finds one in which the first field is longest; and for formats of two
fields there is only one such reading.
-/

namespace Stencil.Reference

/-! ## Spelling -/

/-- What parts spell with values in the place of fields. -/
def spell (parts : List Part) (value : Text → Text) : Text :=
  parts.flatMap fun
    | .literal l => l
    | .field name => value name

@[simp] theorem fieldNames_field (name : Text) (parts : List Part) :
    fieldNames (.field name :: parts) = name :: fieldNames parts := rfl

section

variable {parts more : List Part} {value other : Text → Text} {name l t : Text}

@[simp] theorem spell_nil : spell [] value = [] := rfl

@[simp] theorem spell_literal : spell (.literal l :: parts) value = l ++ spell parts value := rfl

@[simp] theorem spell_field :
    spell (.field name :: parts) value = value name ++ spell parts value := rfl

theorem length_spell_le (h : ∀ name ∈ fieldNames parts, (value name).length ≤ (other name).length) :
    (spell parts value).length ≤ (spell parts other).length := by
  induction parts with
  | nil => exact Nat.le_refl _
  | cons p parts ih =>
      cases p with
      | literal l =>
          have := ih h
          simp only [spell_literal, List.length_append]
          omega
      | field name =>
          have hhead := h name (.head _)
          have htail := ih fun n hn => h n (.tail _ hn)
          simp only [spell_field, List.length_append]
          omega

theorem length_spell_lt (h : ∀ name ∈ fieldNames parts, (value name).length ≤ (other name).length)
    (hname : name ∈ fieldNames parts) (hlt : (value name).length < (other name).length) :
    (spell parts value).length < (spell parts other).length := by
  induction parts with
  | nil => cases hname
  | cons p parts ih =>
      cases p with
      | literal l =>
          have := ih h hname
          simp only [spell_literal, List.length_append]
          omega
      | field first =>
          have hhead := h first (.head _)
          have htail := length_spell_le fun n hn => h n (.tail first hn)
          simp only [spell_field, List.length_append]
          rcases List.mem_cons.1 hname with rfl | hname
          · omega
          · have := ih (fun n hn => h n (.tail first hn)) hname
            omega

theorem eq_of_spell_eq (h : ∀ name ∈ fieldNames parts, (value name).length = (other name).length)
    (hspell : spell parts value = spell parts other) :
    ∀ name ∈ fieldNames parts, value name = other name := by
  induction parts with
  | nil => rintro name ⟨⟩
  | cons p parts ih =>
      cases p with
      | literal l => exact ih h (List.append_cancel_left hspell)
      | field first =>
          obtain ⟨hhead, htail⟩ := List.append_inj hspell (h first (.head _))
          have hrest := ih (fun n hn => h n (.tail first hn)) htail
          exact List.forall_mem_cons.2 ⟨hhead, hrest⟩

end

/-! ## Readings -/

def IsRun (t : Text) : Prop := t ≠ [] ∧ ∀ c ∈ t, Text.isDecimalDigit c = true

/-- Digits for the fields with which the parts spell a text. -/
structure Reading (parts : List Part) (t : Text) (value : Text → Text) : Prop where
  spells : spell parts value = t
  digits : ∀ name ∈ fieldNames parts, IsRun (value name)

/-- A reading that gives the first field as many digits as any other one does. -/
structure LongestReading (parts : List Part) (t : Text) (value : Text → Text) : Prop
    extends Reading parts t value where
  longest : ∀ other, Reading parts t other →
    ∀ name ∈ (fieldNames parts).head?, (other name).length ≤ (value name).length

section

variable {parts more : List Part} {value other : Text → Text} {name l t : Text}

theorem reading_literal_iff {behind : Text} :
    Reading (.literal l :: parts) (l ++ behind) value ↔ Reading parts behind value :=
  ⟨fun h => ⟨List.append_cancel_left h.spells, h.digits⟩,
    fun h => ⟨congrArg (l ++ ·) h.spells, h.digits⟩⟩

theorem Reading.field {digits behind : Text} (h : Reading parts behind value)
    (hvalue : value name = digits) (hdigits : IsRun digits) :
    Reading (.field name :: parts) (digits ++ behind) value where
  spells := by rw [spell_field, hvalue, h.spells]
  digits := List.forall_mem_cons.2 ⟨hvalue ▸ hdigits, h.digits⟩

theorem LongestReading.eq {first second : Text}
    (hnames : ∀ name ∈ fieldNames parts, name = first ∨ name = second)
    (hfirst : (fieldNames parts).head? = some first) (h : LongestReading parts t value)
    (h' : LongestReading parts t other) : ∀ name ∈ fieldNames parts, value name = other name := by
  have hlength : (value first).length = (other first).length :=
    Nat.le_antisymm (h'.longest _ h.toReading _ hfirst) (h.longest _ h'.toReading _ hfirst)
  have hspell : spell parts value = spell parts other := h.spells.trans h'.spells.symm
  refine eq_of_spell_eq (fun name hname => ?_) hspell
  rcases hnames name hname with rfl | rfl
  · exact hlength
  · -- If one of the values were longer, so would be the whole text.
    have hnot (v w : Text → Text) (heq : (v first).length = (w first).length)
        (hsame : spell parts v = spell parts w) : ¬ (v name).length < (w name).length := by
      intro hlt
      have hle : ∀ n ∈ fieldNames parts, (v n).length ≤ (w n).length := fun n hn =>
        (hnames n hn).elim (fun h => h ▸ heq.le) fun h => h ▸ hlt.le
      exact (length_spell_lt hle hname hlt).ne (congrArg List.length hsame)
    exact Nat.le_antisymm (Nat.not_lt.1 (hnot other value hlength.symm hspell.symm))
      (Nat.not_lt.1 (hnot value other hlength hspell))

/-! ## Matching -/

def valueOf (found : Found) (name : Text) : Text := (found.lookup name).getD []

theorem valueOf_eq {found : Found} {digits : Text} (h : found.lookup name = some digits) :
    valueOf found name = digits := by
  rw [valueOf, h, Option.getD_some]

theorem findSome?_descending_eq_some_iff {α : Type} {f : Nat → Option α} {n : Nat} {a : α} :
    ((List.range n).reverse.map (· + 1)).findSome? f = some a ↔
      ∃ k, 0 < k ∧ k ≤ n ∧ f k = some a ∧ ∀ j, k < j → j ≤ n → f j = none := by
  induction n with
  | zero =>
      simp only [List.range_zero, List.reverse_nil, List.map_nil, List.findSome?_nil]
      refine iff_of_false (by simp) ?_
      rintro ⟨k, hpos, hle, -⟩
      omega
  | succ n ih =>
      rw [List.range_succ, List.reverse_append, List.reverse_singleton, List.singleton_append,
        List.map_cons, List.findSome?_cons]
      cases hf : f (n + 1) with
      | some b =>
          constructor
          · rintro ⟨⟩
            exact ⟨n + 1, Nat.succ_pos n, Nat.le_refl _, hf, fun j hj hle => absurd hle (by omega)⟩
          · rintro ⟨k, -, hle, hk, hnone⟩
            rcases Nat.lt_or_eq_of_le hle with hlt | rfl
            · rw [hnone (n + 1) hlt (Nat.le_refl _)] at hf
              cases hf
            · exact hf.symm.trans hk
      | none =>
          rw [ih]
          refine exists_congr fun k => ⟨?_, ?_⟩
          · rintro ⟨hpos, hle, hk, hnone⟩
            refine ⟨hpos, by omega, hk, fun j hj hle => ?_⟩
            rcases Nat.lt_or_eq_of_le hle with hlt | rfl
            · exact hnone j hj (by omega)
            · exact hf
          · rintro ⟨hpos, hle, hk, hnone⟩
            refine ⟨hpos, ?_, hk, fun j hj hle => hnone j hj (by omega)⟩
            rcases Nat.lt_or_eq_of_le hle with hlt | rfl
            · omega
            · rw [hf] at hk
              cases hk

theorem length_le_takeWhile {digits : Text} (behind : Text) (h : IsRun digits) :
    digits.length ≤ ((digits ++ behind).takeWhile Text.isDecimalDigit).length := by
  rw [List.takeWhile_append_of_pos h.2, List.length_append]
  exact Nat.le_add_right _ _

theorem isRun_take {n : Nat} (hpos : 0 < n)
    (hle : n ≤ (t.takeWhile Text.isDecimalDigit).length) : IsRun (t.take n) := by
  have htake : t.take n = (t.takeWhile Text.isDecimalDigit).take n := by
    conv_lhs => rw [← List.takeWhile_append_dropWhile (p := Text.isDecimalDigit) (l := t)]
    rw [List.take_append_of_le_length hle]
  rw [htake]
  refine ⟨fun hnil => ?_, fun c hc =>
    List.all_eq_true.1 List.all_takeWhile c (List.mem_of_mem_take hc)⟩
  have hlength := congrArg List.length hnil
  rw [List.length_take, List.length_nil] at hlength
  omega

/-- A field that is new takes the longest run of digits that lets the rest match. -/
theorem matchParts_field_eq_some_iff {found found' : Found} (hnew : found.lookup name = none) :
    matchParts (.field name :: parts) found t = some found' ↔
      ∃ digits behind, t = digits ++ behind ∧ IsRun digits ∧
        matchParts parts ((name, digits) :: found) behind = some found' ∧
        ∀ longer behind', t = longer ++ behind' → IsRun longer → digits.length < longer.length →
          matchParts parts ((name, longer) :: found) behind' = none := by
  rw [matchParts, hnew]
  simp only [findSome?_descending_eq_some_iff]
  constructor
  · rintro ⟨n, hpos, hle, hmatch, hnone⟩
    refine ⟨t.take n, t.drop n, (List.take_append_drop n t).symm, isRun_take hpos hle, hmatch, ?_⟩
    rintro longer behind' rfl hrun hlt
    have hlonger := hnone longer.length
      (by
        rw [List.length_take] at hlt
        have := (List.takeWhile_prefix Text.isDecimalDigit (l := longer ++ behind')).length_le
        omega)
      (length_le_takeWhile _ hrun)
    rwa [List.take_left, List.drop_left] at hlonger
  · rintro ⟨digits, behind, rfl, hrun, hmatch, hnone⟩
    refine ⟨digits.length, List.length_pos_iff.2 hrun.1, length_le_takeWhile _ hrun, ?_, ?_⟩
    · rwa [List.take_left, List.drop_left]
    · intro n hlt hle
      refine hnone _ _ (List.take_append_drop n _).symm (isRun_take (by omega) hle) ?_
      have := (List.takeWhile_prefix Text.isDecimalDigit (l := digits ++ behind)).length_le
      rw [List.length_take]
      omega

theorem matchParts_literal_eq_some_iff {found found' : Found} :
    matchParts (.literal l :: parts) found t = some found' ↔
      ∃ behind, t = l ++ behind ∧ matchParts parts found behind = some found' := by
  simp only [matchParts, Option.bind_eq_some_iff, Text.after?_eq_some_iff]

theorem matchParts_known_eq_some_iff {found found' : Found} {digits : Text}
    (hknown : found.lookup name = some digits) :
    matchParts (.field name :: parts) found t = some found' ↔
      ∃ behind, t = digits ++ behind ∧ matchParts parts found behind = some found' := by
  rw [matchParts, hknown]
  simp only [Option.bind_eq_some_iff, Text.after?_eq_some_iff]

theorem forall_lookup_cons {found : Found} {P : Text → Text → Prop} {digits : Text}
    (hhead : P name digits) (htail : ∀ n d, found.lookup n = some d → P n d) :
    ∀ n d, List.lookup n ((name, digits) :: found) = some d → P n d := by
  intro n d hlookup
  rw [List.lookup_cons] at hlookup
  split at hlookup
  · next heq =>
      cases hlookup
      rwa [beq_iff_eq.1 heq]
  · exact htail n d hlookup

theorem lookup_of_matchParts {found found' : Found} (h : matchParts parts found t = some found') :
    ∀ name digits, found.lookup name = some digits → found'.lookup name = some digits := by
  induction parts generalizing found t with
  | nil =>
      obtain ⟨-, heq⟩ := Option.ite_none_right_eq_some.1 h
      cases heq
      exact fun _ _ => id
  | cons p parts ih =>
      cases p with
      | literal l =>
          obtain ⟨behind, -, hmatch⟩ := matchParts_literal_eq_some_iff.1 h
          exact ih hmatch
      | field first =>
          cases hlookup : found.lookup first with
          | some digits =>
              obtain ⟨behind, -, hmatch⟩ := (matchParts_known_eq_some_iff hlookup).1 h
              exact ih hmatch
          | none =>
              obtain ⟨digits, behind, -, -, hmatch, -⟩ := (matchParts_field_eq_some_iff hlookup).1 h
              intro name digits' hname
              refine ih hmatch name digits' ?_
              have hne : name ≠ first := by
                rintro rfl
                rw [hlookup] at hname
                cases hname
              rwa [List.lookup_cons, beq_eq_false_iff_ne.2 hne]

theorem reading_of_matchParts {found found' : Found}
    (hfound : ∀ name digits, found.lookup name = some digits → IsRun digits)
    (h : matchParts parts found t = some found') : Reading parts t (valueOf found') := by
  induction parts generalizing found t with
  | nil =>
      obtain ⟨hempty, -⟩ := Option.ite_none_right_eq_some.1 h
      exact ⟨(List.isEmpty_iff.1 hempty).symm, by rintro name ⟨⟩⟩
  | cons p parts ih =>
      cases p with
      | literal l =>
          obtain ⟨behind, rfl, hmatch⟩ := matchParts_literal_eq_some_iff.1 h
          exact reading_literal_iff.2 (ih hfound hmatch)
      | field first =>
          cases hlookup : found.lookup first with
          | some digits =>
              obtain ⟨behind, rfl, hmatch⟩ := (matchParts_known_eq_some_iff hlookup).1 h
              have hvalue := valueOf_eq (lookup_of_matchParts hmatch _ _ hlookup)
              exact (ih hfound hmatch).field hvalue (hfound _ _ hlookup)
          | none =>
              obtain ⟨digits, behind, rfl, hrun, hmatch, -⟩ :=
                (matchParts_field_eq_some_iff hlookup).1 h
              have hvalue := valueOf_eq (lookup_of_matchParts hmatch first digits (by simp))
              exact (ih (forall_lookup_cons (P := fun _ => IsRun) hrun hfound) hmatch).field
                hvalue hrun

theorem matchParts_ne_none {found : Found} (h : Reading parts t value)
    (hfound : ∀ name digits, found.lookup name = some digits → value name = digits) :
    matchParts parts found t ≠ none := by
  induction parts generalizing found t with
  | nil =>
      obtain rfl : [] = t := h.spells
      simp [matchParts]
  | cons p parts ih =>
      cases p with
      | literal l =>
          obtain rfl : l ++ spell parts value = t := h.spells
          obtain ⟨found', hmatch⟩ :=
            Option.ne_none_iff_exists'.1 (ih (reading_literal_iff.1 h) hfound)
          rw [matchParts_literal_eq_some_iff.2 ⟨_, rfl, hmatch⟩]
          exact Option.some_ne_none _
      | field first =>
          obtain rfl : value first ++ spell parts value = t := h.spells
          have hrest : Reading parts (spell parts value) value :=
            ⟨rfl, fun name hname => h.digits name (.tail _ hname)⟩
          cases hlookup : found.lookup first with
          | some digits =>
              obtain ⟨found', hmatch⟩ := Option.ne_none_iff_exists'.1 (ih hrest hfound)
              rw [(matchParts_known_eq_some_iff hlookup).2
                ⟨_, by rw [hfound _ _ hlookup], hmatch⟩]
              exact Option.some_ne_none _
          | none =>
              have hrun := h.digits first (.head _)
              intro hnone
              rw [matchParts, hlookup] at hnone
              -- Among the numbers of digits that are tried is that of the reading.
              have hthis := List.findSome?_eq_none_iff.1 hnone (value first).length (by
                have hpos := List.length_pos_iff.2 hrun.1
                have hle := length_le_takeWhile (spell parts value) hrun
                simp only [List.mem_map, List.mem_reverse, List.mem_range]
                exact ⟨(value first).length - 1, by omega, by omega⟩)
              rw [List.take_left, List.drop_left] at hthis
              exact ih hrest (forall_lookup_cons rfl hfound) hthis

theorem longestReading_of_matchParts {found : Found} (h : matchParts parts [] t = some found) :
    LongestReading parts t (valueOf found) where
  toReading := reading_of_matchParts (by rintro name digits ⟨⟩) h
  longest := by
    induction parts generalizing t with
    | nil => rintro other - name ⟨⟩
    | cons p parts ih =>
        cases p with
        | literal l =>
            obtain ⟨behind, rfl, hmatch⟩ := matchParts_literal_eq_some_iff.1 h
            exact fun other hother => ih hmatch other (reading_literal_iff.1 hother)
        | field first =>
            obtain ⟨digits, behind, rfl, -, hmatch, hnone⟩ :=
              (matchParts_field_eq_some_iff rfl).1 h
            rintro other hother name ⟨⟩
            rw [valueOf_eq (lookup_of_matchParts hmatch first digits (by simp))]
            by_contra hlt
            have hrest : Reading parts (spell parts other) other :=
              ⟨rfl, fun n hn => hother.digits n (.tail _ hn)⟩
            exact matchParts_ne_none hrest (forall_lookup_cons rfl (by rintro n d ⟨⟩))
              (hnone (other first) (spell parts other) hother.spells.symm
                (hother.digits _ (.head _)) (Nat.not_le.1 hlt))

end

/-! ## References -/

def idField : Text := "id".toList

def indexField : Text := "index".toList

structure TwoFields (parts : List Part) : Prop where
  id : idField ∈ fieldNames parts
  index : indexField ∈ fieldNames parts
  only : ∀ name ∈ fieldNames parts, name = idField ∨ name = indexField

/-- Digits that write the numbers of a target. -/
structure Writes (value : Text → Text) (target : Target) : Prop where
  id : (Text.digitsToNat? (value idField)).map Int.ofNat = some target.instanceId
  index : (Text.digitsToNat? (value indexField)).map Int.ofNat = some target.index

theorem twoFields_iff {parts : List Part} :
    TwoFields parts ↔ ((fieldNames parts).contains "id".toList &&
      (fieldNames parts).contains "index".toList &&
      (fieldNames parts).all fun n => n = "id".toList ∨ n = "index".toList) = true := by
  simp only [Bool.and_eq_true, List.contains_iff_mem, List.all_eq_true, decide_eq_true_eq]
  exact ⟨fun h => ⟨⟨h.id, h.index⟩, h.only⟩, fun h => ⟨h.1.1, h.1.2, h.2⟩⟩

instance (parts : List Part) : Decidable (TwoFields parts) := decidable_of_iff' _ twoFields_iff

theorem TwoFields.eq_of_longest {parts : List Part} {t : Text} {value other : Text → Text}
    (h : TwoFields parts) (hvalue : LongestReading parts t value)
    (hother : LongestReading parts t other) :
    ∀ name ∈ fieldNames parts, value name = other name := by
  obtain ⟨first, hfirst⟩ := Option.ne_none_iff_exists'.1
    (fun hnone => List.ne_nil_of_mem h.id (List.head?_eq_none_iff.1 hnone) :
      (fieldNames parts).head? ≠ none)
  rcases h.only first (List.mem_of_mem_head? hfirst) with rfl | rfl
  · exact hvalue.eq h.only hfirst hother
  · exact hvalue.eq (fun name hname => (h.only name hname).symm) hfirst hother

theorem number?_eq {found : Found} {name : String} (h : valueOf found name.toList ≠ []) :
    number? found name = (Text.digitsToNat? (valueOf found name.toList)).map Int.ofNat := by
  unfold valueOf at h ⊢
  cases hlookup : found.lookup name.toList with
  | none =>
      rw [hlookup] at h
      exact absurd rfl h
  | some digits => rw [number?, hlookup, Option.bind_some, Option.getD_some]

theorem read?_eq_some_iff {format t : Text} {target : Target} :
    read? format t = some target ↔ TwoFields (parts format) ∧
      ∃ value, LongestReading (parts format) (Text.strip t) value ∧ Writes value target := by
  unfold read?
  by_cases hfields : TwoFields (parts format)
  · rw [if_pos (twoFields_iff.1 hfields), and_iff_right hfields]
    simp only [Option.bind_eq_bind, Option.bind_eq_some_iff]
    constructor
    · rintro ⟨found, hmatch, id, hid, index, hindex, ⟨⟩⟩
      have hlongest := longestReading_of_matchParts hmatch
      have hne (name : Text) (hname : name ∈ fieldNames (parts format)) :
          valueOf found name ≠ [] := (hlongest.digits name hname).1
      rw [number?_eq (hne _ hfields.id)] at hid
      rw [number?_eq (hne _ hfields.index)] at hindex
      exact ⟨_, hlongest, hid, hindex⟩
    · rintro ⟨value, hlongest, hwrites⟩
      have hsome : matchParts (parts format) [] (Text.strip t) ≠ none :=
        matchParts_ne_none hlongest.toReading (by rintro name digits ⟨⟩)
      obtain ⟨found, hmatch⟩ := Option.ne_none_iff_exists'.1 hsome
      have hfound := longestReading_of_matchParts hmatch
      have hsame := hfields.eq_of_longest hfound hlongest
      refine ⟨found, hmatch, target.instanceId, ?_, target.index, ?_, rfl⟩
      · rw [number?_eq (hfound.digits _ hfields.id).1, ← hwrites.id, ← hsame _ hfields.id]
        rfl
      · rw [number?_eq (hfound.digits _ hfields.index).1, ← hwrites.index,
          ← hsame _ hfields.index]
        rfl
  · rw [if_neg fun h => hfields (twoFields_iff.2 h)]
    exact iff_of_false (by simp) fun h => hfields h.1

end Stencil.Reference
