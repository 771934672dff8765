import Stencil.Settings.Check
import Stencil.Proofs.Format.Filling
import Stencil.Proofs.Settings.Matching
import Stencil.Proofs.Text.Digits

/-!
# Formats with separated fields

What a format of plain fields writes is one of its readings. If the text between the fields is
never digits alone, it is the only one, so that it is read back.
-/

namespace Stencil.Reference

/-! ## Fields and the text between them -/

/-- The text before the first field, and each field with the text behind it. -/
structure Layout where
  front : Text
  fields : List (Text × Text)

def layout : List Part → Layout
  | [] => ⟨[], []⟩
  | .literal l :: parts => ⟨l ++ (layout parts).front, (layout parts).fields⟩
  | .field name :: parts => ⟨[], (name, (layout parts).front) :: (layout parts).fields⟩

def spellFields (fields : List (Text × Text)) (value : Text → Text) : Text :=
  fields.flatMap fun field => value field.1 ++ field.2

theorem spell_eq_layout (parts : List Part) (value : Text → Text) :
    spell parts value = (layout parts).front ++ spellFields (layout parts).fields value := by
  induction parts with
  | nil => rfl
  | cons p parts ih =>
      cases p with
      | literal l => rw [spell_literal, ih, layout, List.append_assoc]
      | field name =>
          rw [spell_field, ih, ← List.append_assoc]
          rfl

theorem fieldNames_eq_layout (parts : List Part) :
    fieldNames parts = (layout parts).fields.map Prod.fst := by
  induction parts with
  | nil => rfl
  | cons p parts ih =>
      cases p with
      | literal l => exact ih
      | field name => rw [fieldNames_field, ih, layout, List.map_cons]

/-- Behind every field but the last there is a character that is no digit. -/
def Separated (fields : List (Text × Text)) : Prop :=
  ∀ field ∈ fields.dropLast, ∃ c ∈ field.2, Text.isDecimalDigit c = false

instance (fields : List (Text × Text)) : Decidable (Separated fields) :=
  inferInstanceAs
    (Decidable (∀ field ∈ fields.dropLast, ∃ c ∈ field.2, Text.isDecimalDigit c = false))

section

variable {fields : List (Text × Text)} {value other : Text → Text}

theorem takeWhile_of_separator {p : Char → Bool} {run behind : Text} (rest : Text)
    (hrun : ∀ c ∈ run, p c = true) (hbehind : ∃ c ∈ behind, p c = false) :
    (run ++ behind ++ rest).takeWhile p = run ++ behind.takeWhile p := by
  rw [List.append_assoc, List.takeWhile_append_of_pos hrun, List.takeWhile_append, if_neg]
  intro hlength
  obtain ⟨c, hc, hp⟩ := hbehind
  have hall := List.takeWhile_eq_self_iff.1 ((List.takeWhile_prefix p).eq_of_length hlength) c hc
  rw [hp] at hall
  cases hall

theorem eq_of_spellFields_eq (hseparated : Separated fields)
    (hvalue : ∀ field ∈ fields, IsRun (value field.1))
    (hother : ∀ field ∈ fields, IsRun (other field.1))
    (h : spellFields fields value = spellFields fields other) :
    ∀ field ∈ fields, value field.1 = other field.1 := by
  induction fields with
  | nil => rintro field ⟨⟩
  | cons field more ih =>
      rw [spellFields, spellFields, List.flatMap_cons, List.flatMap_cons] at h
      have hfirst : value field.1 = other field.1 := by
        cases more with
        | nil =>
            rw [List.flatMap_nil, List.flatMap_nil, List.append_nil, List.append_nil] at h
            exact List.append_cancel_right h
        | cons next more =>
            -- Both sides start with the digits of the field and those that stand behind it.
            have hbehind := hseparated field (.head _)
            have hdigits := congrArg (List.takeWhile Text.isDecimalDigit) h
            rw [takeWhile_of_separator _ (hvalue field (.head _)).2 hbehind,
              takeWhile_of_separator _ (hother field (.head _)).2 hbehind] at hdigits
            exact List.append_cancel_right hdigits
      rw [hfirst] at h
      have hmore : Separated more := fun f hf => hseparated f <| by
        cases more with
        | nil => cases hf
        | cons next more => exact .tail _ hf
      exact List.forall_mem_cons.2 ⟨hfirst, ih hmore (fun f hf => hvalue f (.tail _ hf))
        (fun f hf => hother f (.tail _ hf)) (List.append_cancel_left h)⟩

end

section

variable {parts : List Part} {t : Text} {value other : Text → Text}

theorem Reading.eq_of_separated (h : Separated (layout parts).fields)
    (hvalue : Reading parts t value) (hother : Reading parts t other) :
    ∀ name ∈ fieldNames parts, value name = other name := by
  have hspell : spell parts value = spell parts other := hvalue.spells.trans hother.spells.symm
  rw [spell_eq_layout, spell_eq_layout] at hspell
  have hrun {v : Text → Text} (hv : Reading parts t v) :
      ∀ field ∈ (layout parts).fields, IsRun (v field.1) := fun field hfield =>
    hv.digits field.1 (fieldNames_eq_layout parts ▸ List.mem_map_of_mem hfield)
  rw [fieldNames_eq_layout]
  exact List.forall_mem_map.2 (eq_of_spellFields_eq h (hrun hvalue) (hrun hother)
    (List.append_cancel_left hspell))

theorem Reading.longest (h : Separated (layout parts).fields) (hvalue : Reading parts t value) :
    LongestReading parts t value where
  toReading := hvalue
  longest _ hother name hname :=
    (congrArg List.length
      (hother.eq_of_separated h hvalue name (List.mem_of_mem_head? hname))).le

end

/-! ## Blanks at the ends -/

structure TrimmedEnds (layout : Layout) : Prop where
  front : ∀ c ∈ layout.front.head?, Text.isBlank c = false
  back : ∀ field ∈ layout.fields.getLast?, ∀ c ∈ field.2.getLast?, Text.isBlank c = false

instance (layout : Layout) : Decidable (TrimmedEnds layout) :=
  decidable_of_iff ((∀ c ∈ layout.front.head?, Text.isBlank c = false) ∧
      ∀ field ∈ layout.fields.getLast?, ∀ c ∈ field.2.getLast?, Text.isBlank c = false)
    ⟨fun h => ⟨h.1, h.2⟩, fun h => ⟨h.front, h.back⟩⟩

section

variable {parts : List Part} {fields : List (Text × Text)} {value : Text → Text} {c : Char}

theorem spellFields_ne_nil (hfields : fields ≠ [])
    (hvalue : ∀ field ∈ fields, value field.1 ≠ []) : spellFields fields value ≠ [] := by
  obtain ⟨field, more, rfl⟩ := List.exists_cons_of_ne_nil hfields
  have hfield := hvalue field (.head _)
  exact List.append_ne_nil_of_left_ne_nil (List.append_ne_nil_of_left_ne_nil hfield _) _

theorem head?_spellFields (hvalue : ∀ field ∈ fields, value field.1 ≠ [])
    (hc : c ∈ (spellFields fields value).head?) : ∃ field ∈ fields, c ∈ value field.1 := by
  cases fields with
  | nil => cases hc
  | cons field more =>
      refine ⟨field, .head _, ?_⟩
      rw [spellFields, List.flatMap_cons, List.append_assoc,
        List.head?_append_of_ne_nil _ (hvalue field (.head _))] at hc
      exact List.mem_of_mem_head? hc

theorem getLast?_spellFields (hvalue : ∀ field ∈ fields, value field.1 ≠ [])
    (hc : c ∈ (spellFields fields value).getLast?) :
    (∃ field ∈ fields.getLast?, c ∈ field.2.getLast?) ∨ ∃ field ∈ fields, c ∈ value field.1 := by
  obtain rfl | ⟨more, field, rfl⟩ := fields.eq_nil_or_concat'
  · cases hc
  · have hfield := List.mem_append_right more (List.mem_singleton_self field)
    rw [spellFields, List.flatMap_append, List.flatMap_singleton,
      List.getLast?_append_of_ne_nil _ (List.append_ne_nil_of_left_ne_nil (hvalue field hfield) _)]
      at hc
    rcases Option.or_eq_some_iff.1 (List.getLast?_append.symm.trans hc) with hc | ⟨-, hc⟩
    · exact .inl ⟨field, List.getLast?_concat, hc⟩
    · exact .inr ⟨field, hfield, List.mem_of_getLast? hc⟩

theorem strip_spell (hends : TrimmedEnds (layout parts)) (hfields : fieldNames parts ≠ [])
    (hvalue : ∀ name ∈ fieldNames parts, value name ≠ [] ∧
      ∀ c ∈ value name, Text.isBlank c = false) :
    Text.strip (spell parts value) = spell parts value := by
  rw [fieldNames_eq_layout] at hfields hvalue
  rw [List.forall_mem_map] at hvalue
  have hne (field : Text × Text) (hfield : field ∈ (layout parts).fields) :
      value field.1 ≠ [] := (hvalue field hfield).1
  rw [spell_eq_layout]
  refine Text.strip_eq_self_iff.2 ⟨fun c hc => ?_, fun c hc => ?_⟩
  · rcases Option.or_eq_some_iff.1 (List.head?_append.symm.trans hc) with hc | ⟨-, hc⟩
    · exact hends.front c hc
    · obtain ⟨field, hfield, hc⟩ := head?_spellFields hne hc
      exact (hvalue field hfield).2 c hc
  · have hspell := spellFields_ne_nil (fun hnil => hfields (List.map_eq_nil_iff.2 hnil)) hne
    rw [List.getLast?_append_of_ne_nil _ hspell] at hc
    rcases getLast?_spellFields hne hc with ⟨field, hfield, hc⟩ | ⟨field, hfield, hc⟩
    · exact hends.back field hfield c hc
    · exact (hvalue field hfield).2 c hc

end

/-! ## Plain formats -/

def plainDigits (id index : Nat) (name : Text) : Text :=
  Text.ofNat (if name = idField then id else index)

@[simp] theorem plainDigits_idField (id index : Nat) :
    plainDigits id index idField = Text.ofNat id := rfl

@[simp] theorem plainDigits_indexField (id index : Nat) :
    plainDigits id index indexField = Text.ofNat index := rfl

/-- A format whose fields ask for neither a conversion nor a form. -/
def Plain (format : Text) : Prop :=
  ∃ pieces, Format.pieces format = .ok pieces ∧
    ∀ piece ∈ pieces, ∀ field ∈ piece.field, field.conversion = none ∧ field.spec = []

instance (format : Text) : Decidable (Plain format) :=
  match h : Format.pieces format with
  | .error _ => .isFalse fun ⟨_, hpieces, _⟩ => nomatch h.symm.trans hpieces
  | .ok pieces =>
    decidable_of_iff (∀ piece ∈ pieces, ∀ field ∈ piece.field,
        field.conversion = none ∧ field.spec = [])
      ⟨fun hplain => ⟨pieces, h, hplain⟩, fun ⟨_, hpieces, hplain⟩ =>
        Except.ok.inj (hpieces.symm.trans h) ▸ hplain⟩

section

variable {format : Text} {pieces : List Format.Piece} {value : Text → Text} {name : Text}

theorem mem_fieldNames_ofPiece {piece : Format.Piece} {field : Format.Field}
    (hpiece : piece ∈ pieces) (hfield : field ∈ piece.field) :
    field.name ∈ fieldNames (pieces.flatMap Part.ofPiece) := by
  refine List.mem_filterMap.2 ⟨.field field.name, List.mem_flatMap.2 ⟨piece, hpiece, ?_⟩, rfl⟩
  rw [Part.ofPiece, Option.mem_def.1 hfield]
  exact .tail _ (.head _)

theorem spell_ofPiece (pieces : List Format.Piece) (value : Text → Text) :
    spell (pieces.flatMap Part.ofPiece) value =
      pieces.flatMap (Format.Piece.filled fun field => value field.name) := by
  rw [spell, List.flatMap_assoc]
  refine congrArg (List.flatMap · pieces) (funext fun piece => ?_)
  obtain ⟨literal, field⟩ := piece
  cases field with
  | none => rfl
  | some field => exact congrArg (literal ++ ·) (List.append_nil _)

theorem fillField_plain (access : Access) (id index : Nat)
    (hname : name = idField ∨ name = indexField)
    {fillSpec : Format.Numbering → Text → Except Fault (Text × Format.Numbering)} :
    Format.fillField .error Format.datum (fetch access ⟨id, index⟩) fillSpec .undecided
      ⟨name, none, []⟩ = .ok (plainDigits id index name, .undecided) := by
  rcases hname with rfl | rfl <;> rfl

theorem writeWith_plain (access : Access) (hplain : Plain format)
    (hnames : ∀ name ∈ fieldNames (parts format), name = idField ∨ name = indexField)
    (id index : Nat) :
    writeWith access format ⟨id, index⟩ = .ok (spell (parts format) (plainDigits id index)) := by
  obtain ⟨pieces, hpieces, hplain⟩ := hplain
  have hparts : parts format = pieces.flatMap Part.ofPiece := by rw [parts, hpieces]
  rw [hparts] at hnames ⊢
  let shown (field : Format.Field) : Text := plainDigits id index field.name
  have hfill : Format.fill (m := Except Fault) .error Format.datum (fetch access ⟨id, index⟩) 2
      .undecided format = .ok (pieces.flatMap (Format.Piece.filled shown), .undecided) := by
    refine Format.fillPieces_eq_ok_of_pieces hpieces fun piece hpiece field hfield => ?_
    obtain ⟨hconversion, hspec⟩ := hplain piece hpiece field hfield
    obtain ⟨name, conversion, spec⟩ := field
    cases hconversion
    cases hspec
    exact fillField_plain access id index (hnames _ (mem_fieldNames_ofPiece hpiece hfield))
  rw [spell_ofPiece]
  unfold writeWith Format.maxDepth
  rw [hfill]
  rfl

theorem write_plain (hplain : Plain format)
    (hnames : ∀ name ∈ fieldNames (parts format), name = idField ∨ name = indexField)
    (id index : Nat) :
    write format ⟨id, index⟩ = .ok (spell (parts format) (plainDigits id index)) :=
  writeWith_plain access hplain hnames id index

theorem accepted_of_plain (hplain : Plain format)
    (hnames : ∀ name ∈ fieldNames (parts format), name = idField ∨ name = indexField) :
    Settings.asReference .standard (.str format) = .ok (.ok format) := by
  have hwrite : writeWith access format ⟨0, 0⟩ = .ok _ := writeWith_plain access hplain hnames 0 0
  simp only [Settings.asReference, Settings.Checker.standard, Settings.asText, hwrite]

end

/-! ## Reading what was written -/

/-- A format of plain fields for the two numbers, with text that is not only digits between any
two fields that follow each other, and no blank at its ends. -/
structure WellSeparated (format : Text) : Prop where
  plain : Plain format
  fields : TwoFields (parts format)
  separated : Separated (layout (parts format)).fields
  ends : TrimmedEnds (layout (parts format))

instance (format : Text) : Decidable (WellSeparated format) :=
  decidable_of_iff (Plain format ∧ TwoFields (parts format) ∧
      Separated (layout (parts format)).fields ∧ TrimmedEnds (layout (parts format)))
    ⟨fun h => ⟨h.1, h.2.1, h.2.2.1, h.2.2.2⟩, fun h => ⟨h.plain, h.fields, h.separated, h.ends⟩⟩

section

variable {format : Text}

theorem isRun_ofNat (n : Nat) : IsRun (Text.ofNat n) :=
  ⟨Text.ofNat_ne_nil n, fun _ => Text.isDecimalDigit_of_mem_ofNat⟩

theorem WellSeparated.strip_spell (h : WellSeparated format) (id index : Nat) :
    Text.strip (spell (parts format) (plainDigits id index)) =
      spell (parts format) (plainDigits id index) :=
  Reference.strip_spell h.ends (List.ne_nil_of_mem h.fields.id) fun _ _ =>
    ⟨Text.ofNat_ne_nil _, fun _ => Text.isBlank_of_mem_ofNat⟩

theorem WellSeparated.read?_eq_some (h : WellSeparated format) {id index : Nat} {t : Text}
    (ht : Text.strip t = spell (parts format) (plainDigits id index)) :
    read? format t = some ⟨id, index⟩ := by
  have hreading : Reading (parts format) (Text.strip t) (plainDigits id index) :=
    ⟨ht.symm, fun _ _ => isRun_ofNat _⟩
  refine read?_eq_some_iff.2 ⟨h.fields, _, hreading.longest h.separated, ?_, ?_⟩
  · rw [plainDigits_idField, Text.digitsToNat?_ofNat, Option.map_some]
    rfl
  · rw [plainDigits_indexField, Text.digitsToNat?_ofNat, Option.map_some]
    rfl

end

/-- A format with digits in its text, a doubled brace and a field that occurs twice. -/
def repeatingFormat : Text := "v2\x7b\x7b\x7bid\x7d5-\x7bindex\x7d/\x7bid\x7d.7".toList

end Stencil.Reference
