import Stencil.Settings.Load
import Stencil.Proofs.Fallible
import Stencil.Proofs.Settings.Reference

/-!
# What a settings file leads to

A text either gives the settings that it says, where what it does not say is left at its default, or
it is reported as a settings error. Whoever reads documents and makes values of data, there are only
three ways out of this: a version that cannot be shown, a key that is no text, and a format of
references that raises a fault that is not looked for.
-/

namespace Stencil.Settings

/-! ## What a text says -/

/-- The document of a text has these entries. A value that counts as false has none. -/
def Collaborators.Holds (c : Collaborators) (t : Text) (entries : List (Datum × Datum)) : Prop :=
  c.read t = .ok (.mapping entries) ∨ c.read t = .ok .nothing ∧ entries = []

/-- The reader of documents reads a text or tells what is wrong with it. -/
def Collaborators.Reads (c : Collaborators) (t : Text) : Prop :=
  ∀ trouble, c.read t = .error trouble → ∃ m, trouble = .mistake m

/-- A field has what is said for it, as it takes it, or else its default. -/
def Takes {α : Type} (said : Option Datum) (read : Datum → Except Problem α) (fallback value : α) :
    Prop :=
  match said with
  | none => value = fallback
  | some d => read d = .ok value

/-- Settings in which every field has what is said for it, or else its default. -/
structure Follows (c : Coercion) (said : Text → Option Datum) (s : Settings) : Prop where
  schemaVersion :
    Takes (said "schema_version".toList) c.int ({} : Settings).schemaVersion s.schemaVersion
  trimLines : Takes (said "trim_lines".toList) c.bool ({} : Settings).trimLines s.trimLines
  captureReference :
    Takes (said "capture_reference".toList) c.text ({} : Settings).captureReference
      s.captureReference
  markupParser :
    Takes (said "markup_parser".toList) c.text ({} : Settings).markupParser s.markupParser
  templateSuffix :
    Takes (said "template_suffix".toList) c.text ({} : Settings).templateSuffix s.templateSuffix
  templatesDir :
    Takes (said "templates_dir".toList) c.text ({} : Settings).templatesDir s.templatesDir

def HasTextKeys (entries : List (Datum × Datum)) : Prop := ∀ e ∈ entries, ∃ n, e.1 = .str n

def HasKnownKeys (entries : List (Datum × Datum)) : Prop :=
  ∀ e ∈ entries, ∃ n ∈ names, e.1 = .str n

def IsUnderstood (entries : List (Datum × Datum)) : Prop :=
  ∀ d, said? entries "schema_version".toList = some d → isSupported d = true

/-- Zeros can be written in a format. -/
def Checker.IsFillable (c : Checker) (format : Text) : Prop :=
  ∃ t, Reference.writeWith c.access format ⟨0, 0⟩ = .ok t

/-- Writing zeros in a format raises a fault that is not looked for. -/
def Checker.Surprises (c : Checker) (format : Text) (f : Fault) : Prop :=
  Reference.writeWith c.access format ⟨0, 0⟩ = .error f ∧ isFormatMistake f = false

/-! ## Checking data -/

section

variable {c : Checker} {data : List (Text × Datum)} {s : Settings} {d : Datum} {f : Fault}
  {format : Text}

theorem isFillable_default : c.IsFillable ({} : Settings).captureReference :=
  ⟨_, Reference.writeWith_default c.access 0 0⟩

theorem asReference_of_text (h : c.coercion.text d = .ok format) : asReference c d =
    match Reference.writeWith c.access format ⟨0, 0⟩ with
    | .ok _ => .ok (.ok format)
    | .error f => if isFormatMistake f then .ok (.error .badReference) else .error f := by
  unfold asReference
  generalize c.coercion.text d = read at h
  subst h
  rfl

theorem asReference_eq_ok_iff :
    asReference c d = .ok (.ok format) ↔ c.coercion.text d = .ok format ∧ c.IsFillable format := by
  constructor
  · intro h
    cases htext : c.coercion.text d with
    | error p =>
        rw [asReference, htext] at h
        cases h
    | ok format' =>
        rw [asReference_of_text htext] at h
        split at h
        · next shown hwrite =>
            cases h
            exact ⟨rfl, shown, hwrite⟩
        · split at h <;> cases h
  · rintro ⟨htext, shown, hshown⟩
    rw [asReference_of_text htext, hshown]

theorem asReference_eq_error_iff : asReference c d = .error f ↔
    ∃ format, c.coercion.text d = .ok format ∧ c.Surprises format f := by
  constructor
  · intro h
    cases htext : c.coercion.text d with
    | error p =>
        rw [asReference, htext] at h
        cases h
    | ok format =>
        rw [asReference_of_text htext] at h
        split at h
        · cases h
        · next f' hwrite =>
            split at h
            · cases h
            · next hnot =>
                cases h
                exact ⟨format, rfl, hwrite, Bool.eq_false_iff.2 hnot⟩
  · rintro ⟨format, htext, hwrite, hnot⟩
    rw [asReference_of_text htext, hwrite]
    exact if_neg (Bool.eq_false_iff.1 hnot)

theorem fieldOr_eq_ok_iff {α : Type} {name : String} {fallback value : α}
    {read : Datum → Except Problem α} :
    fieldOr data name fallback read = .ok value ↔
      Takes (data.lookup name.toList) read fallback value := by
  unfold fieldOr Takes
  cases data.lookup name.toList with
  | none => exact ⟨fun h => (Except.ok.inj h).symm, fun h => congrArg Except.ok h.symm⟩
  | some d => exact mapError_eq_ok_iff

theorem unknownNames_eq_nil_iff : unknownNames data = [] ↔ ∀ e ∈ data, e.1 ∈ names := by
  simp [unknownNames]

theorem collect_eq_ok_iff {k : Coercion} {reference : Except Problem Text} :
    collect k data reference = .ok s ↔
      reference = .ok s.captureReference ∧
      Takes (data.lookup "schema_version".toList) k.int ({} : Settings).schemaVersion
        s.schemaVersion ∧
      Takes (data.lookup "trim_lines".toList) k.bool ({} : Settings).trimLines s.trimLines ∧
      Takes (data.lookup "markup_parser".toList) k.text ({} : Settings).markupParser
        s.markupParser ∧
      Takes (data.lookup "template_suffix".toList) k.text ({} : Settings).templateSuffix
        s.templateSuffix ∧
      Takes (data.lookup "templates_dir".toList) k.text ({} : Settings).templatesDir
        s.templatesDir ∧
      ∀ e ∈ data, e.1 ∈ names := by
  simp only [← fieldOr_eq_ok_iff, ← unknownNames_eq_nil_iff]
  unfold collect
  dsimp only
  constructor
  · intro h
    split at h
    · next hversion htrim hreference hparser hsuffix hfolder hunknown =>
        cases h
        exact ⟨mapError_eq_ok_iff.1 hreference, hversion, htrim, hparser, hsuffix, hfolder,
          hunknown⟩
    · cases h
  · rintro ⟨rfl, hversion, htrim, hparser, hsuffix, hfolder, hunknown⟩
    rw [hversion, htrim, hparser, hsuffix, hfolder, hunknown]
    rfl

theorem collect_ne_fault {k : Coercion} {reference : Except Problem Text} :
    collect k data reference ≠ .error (.fault f) := by
  unfold collect
  dsimp only
  split <;> rintro ⟨⟩

theorem referenceOr_eq_ok_iff : referenceOr c data = .ok (.ok format) ↔
    Takes (data.lookup "capture_reference".toList) c.coercion.text
      ({} : Settings).captureReference format ∧ c.IsFillable format := by
  unfold referenceOr Takes
  cases data.lookup "capture_reference".toList with
  | none =>
      constructor
      · rintro ⟨⟩
        exact ⟨rfl, isFillable_default⟩
      · rintro ⟨rfl, -⟩
        rfl
  | some d => exact asReference_eq_ok_iff

theorem referenceOr_eq_error_iff : referenceOr c data = .error f ↔
    ∃ d format, data.lookup "capture_reference".toList = some d ∧
      c.coercion.text d = .ok format ∧ c.Surprises format f := by
  unfold referenceOr
  cases data.lookup "capture_reference".toList with
  | none => simp
  | some d => simp [asReference_eq_error_iff]

theorem ofDataWith_eq_ok_iff : ofDataWith c data = .ok s ↔
    Follows c.coercion (data.lookup ·) s ∧ c.IsFillable s.captureReference ∧
      ∀ e ∈ data, e.1 ∈ names := by
  simp only [ofDataWith, bind_eq_ok_iff, mapError_eq_ok_iff, collect_eq_ok_iff]
  constructor
  · rintro ⟨reference, hreference, rfl, hversion, htrim, hparser, hsuffix, hfolder, hknown⟩
    obtain ⟨htakes, hfillable⟩ := referenceOr_eq_ok_iff.1 hreference
    exact ⟨⟨hversion, htrim, htakes, hparser, hsuffix, hfolder⟩, hfillable, hknown⟩
  · rintro ⟨⟨hversion, htrim, htakes, hparser, hsuffix, hfolder⟩, hfillable, hknown⟩
    exact ⟨_, referenceOr_eq_ok_iff.2 ⟨htakes, hfillable⟩, rfl, hversion, htrim, hparser, hsuffix,
      hfolder, hknown⟩

theorem ofDataWith_eq_fault_iff : ofDataWith c data = .error (.fault f) ↔
    ∃ d format, data.lookup "capture_reference".toList = some d ∧
      c.coercion.text d = .ok format ∧ c.Surprises format f := by
  simp only [← referenceOr_eq_error_iff, ofDataWith, bind_eq_error_iff, mapError_eq_error_iff,
    collect_ne_fault, and_false, exists_false, or_false, Rejection.fault.injEq, exists_eq_right]

end

/-! ## Defaults and entries -/

section

variable {entries : List (Datum × Datum)} {data more : List (Text × Datum)} {d : Datum}
  {name : Text}

theorem isKey_iff : isKey name d = true ↔ d = .str name := by
  cases d <;> simp [isKey]

theorem lookup_map_entries {l : List (Text × Datum)} {g : Text → Datum → Datum} :
    (l.map fun (n, d) => (n, g n d)).lookup name = (l.lookup name).map (g name) := by
  induction l with
  | nil => rfl
  | cons e l ih =>
      obtain ⟨n, d⟩ := e
      rw [List.map_cons, List.lookup_cons, List.lookup_cons, ih]
      by_cases hname : name = n
      · rw [hname, beq_self_eq_true]
        rfl
      · rw [beq_eq_false_iff_ne.2 hname]

theorem keywords_eq_ok_iff :
    keywords entries = .ok data ↔ entries = data.map fun (name, d) => (.str name, d) := by
  induction entries generalizing data with
  | nil =>
      rw [keywords, List.mapM_nil]
      exact ⟨fun h => Except.ok.inj h ▸ rfl, fun h => by rw [List.map_eq_nil_iff.1 h.symm]; rfl⟩
  | cons e entries ih =>
      obtain ⟨k, d⟩ := e
      rw [keywords, List.mapM_cons]
      by_cases hk : ∃ n, k = .str n
      · obtain ⟨n, rfl⟩ := hk
        refine bind_eq_ok_iff.trans ?_
        constructor
        · rintro ⟨_, ⟨⟩, h⟩
          obtain ⟨more, hmore, h⟩ := bind_eq_ok_iff.1 h
          cases h
          rw [List.map_cons, ← ih.1 hmore]
        · intro h
          cases data with
          | nil => cases h
          | cons e' data =>
              obtain ⟨hfirst, hrest⟩ := List.cons.inj h
              cases hfirst
              exact ⟨_, rfl, bind_eq_ok_iff.2 ⟨data, ih.2 hrest, rfl⟩⟩
      · constructor
        · intro h
          cases k with
          | str n => exact absurd ⟨n, rfl⟩ hk
          | _ => cases h
        · intro h
          cases data with
          | nil => cases h
          | cons e' data => exact absurd ⟨e'.1, congrArg Prod.fst (List.cons.inj h).1⟩ hk

theorem keywords_eq_error (h : ¬ HasTextKeys entries) :
    keywords entries = .error .keywordNotText := by
  induction entries with
  | nil => exact absurd nofun h
  | cons e entries ih =>
      obtain ⟨k, d⟩ := e
      rw [keywords, List.mapM_cons]
      cases k with
      | str n =>
          have hrest : ¬ HasTextKeys entries := fun hall =>
            h (List.forall_mem_cons.2 ⟨⟨n, rfl⟩, hall⟩)
          exact bind_eq_error_iff.2 (.inr ⟨_, rfl, bind_eq_error_iff.2 (.inl (ih hrest))⟩)
      | _ => rfl

theorem exists_keywords (h : HasTextKeys entries) : ∃ data, keywords entries = .ok data := by
  induction entries with
  | nil => exact ⟨[], rfl⟩
  | cons e entries ih =>
      obtain ⟨⟨n, hn⟩, hrest⟩ := List.forall_mem_cons.1 h
      obtain ⟨data, hdata⟩ := ih hrest
      obtain ⟨k, d⟩ := e
      cases hn
      refine ⟨(n, d) :: data, keywords_eq_ok_iff.2 ?_⟩
      rw [List.map_cons, ← keywords_eq_ok_iff.1 hdata]

theorem hasTextKeys_of_keywords (h : keywords entries = .ok data) : HasTextKeys entries :=
  not_not.1 fun hnot => by cases h.symm.trans (keywords_eq_error hnot)

theorem keywords_eq_error_iff :
    keywords entries = .error f ↔ f = .keywordNotText ∧ ¬ HasTextKeys entries := by
  constructor
  · intro h
    have hnot : ¬ HasTextKeys entries := by
      intro htexts
      obtain ⟨data, hdata⟩ := exists_keywords htexts
      cases h.symm.trans hdata
    exact ⟨Except.error.inj (h.symm.trans (keywords_eq_error hnot)), hnot⟩
  · rintro ⟨rfl, hnot⟩
    exact keywords_eq_error hnot

theorem any_isKey_iff : names.any (isKey · d) = true ↔ ∃ n ∈ names, d = .str n := by
  simp only [List.any_eq_true, isKey_iff]

theorem strange_eq_nil_iff : strange entries = [] ↔ HasKnownKeys entries := by
  simp only [strange, List.filter_eq_nil_iff, Bool.not_eq_true', Bool.not_eq_false, any_isKey_iff]
  rfl

theorem hasTextKeys_mergeDefaults_iff :
    HasTextKeys (mergeDefaults entries) ↔ HasTextKeys entries := by
  have hdefaults : HasTextKeys ((overridden entries).map fun (n, d) => (.str n, d)) := by
    intro e he
    obtain ⟨e', -, rfl⟩ := List.mem_map.1 he
    exact ⟨e'.1, rfl⟩
  constructor
  · intro h e he
    by_cases hknown : names.any (isKey · e.1) = true
    · obtain ⟨n, -, hn⟩ := any_isKey_iff.1 hknown
      exact ⟨n, hn⟩
    · exact h e (List.mem_append_right _ (List.mem_filter.2 ⟨he, by simpa using hknown⟩))
  · intro h e he
    rcases List.mem_append.1 he with he | he
    · exact hdefaults e he
    · exact h e (List.mem_filter.1 he).1

theorem keywords_mergeDefaults_eq_ok_iff : keywords (mergeDefaults entries) = .ok data ↔
    ∃ more, data = overridden entries ++ more ∧ keywords (strange entries) = .ok more := by
  simp only [keywords_eq_ok_iff, mergeDefaults]
  constructor
  · intro h
    obtain ⟨front, more, rfl, hfront, hmore⟩ := List.append_eq_map_iff.1 h
    have hinj : Function.Injective fun e : Text × Datum => (Datum.str e.1, e.2) := by
      rintro ⟨n, d⟩ ⟨n', d'⟩ heq
      cases heq
      rfl
    exact ⟨more, by rw [List.map_injective_iff.2 hinj hfront], hmore.symm⟩
  · rintro ⟨more, rfl, hmore⟩
    rw [List.map_append, ← hmore]

theorem lookup_overridden (hdefault : ({} : Settings).data.lookup name = some d) :
    (overridden entries ++ more).lookup name = some ((said? entries name).getD d) := by
  have hmap : List.lookup name (({} : Settings).data.map fun (name, d) =>
      (name, (said? entries name).getD d)) = _ :=
    lookup_map_entries (g := fun name d => (said? entries name).getD d)
  rw [hdefault] at hmap
  rw [List.lookup_append, overridden]
  exact congrArg (Option.or · _) hmap

theorem takes_getD {α : Type} {said : Option Datum} {read : Datum → Except Problem α}
    {fallback value : α} (hdefault : read d = .ok fallback) :
    Takes (some (said.getD d)) read fallback value ↔ Takes said read fallback value := by
  cases said with
  | none => exact ⟨fun h => Except.ok.inj (h.symm.trans hdefault), fun h => h ▸ hdefault⟩
  | some d' => exact Iff.rfl

theorem follows_overridden_iff {k : Coercion} {s : Settings} :
    Follows k ((overridden entries ++ more).lookup ·) s ↔ Follows k (said? entries) s := by
  have hversion : (overridden entries ++ more).lookup "schema_version".toList = some _ :=
    lookup_overridden rfl
  have htrim : (overridden entries ++ more).lookup "trim_lines".toList = some _ :=
    lookup_overridden rfl
  have hreference : (overridden entries ++ more).lookup "capture_reference".toList = some _ :=
    lookup_overridden rfl
  have hparser : (overridden entries ++ more).lookup "markup_parser".toList = some _ :=
    lookup_overridden rfl
  have hsuffix : (overridden entries ++ more).lookup "template_suffix".toList = some _ :=
    lookup_overridden rfl
  have hfolder : (overridden entries ++ more).lookup "templates_dir".toList = some _ :=
    lookup_overridden rfl
  constructor
  · rintro ⟨h₁, h₂, h₃, h₄, h₅, h₆⟩
    rw [hversion, takes_getD (k.int_int _)] at h₁
    rw [htrim, takes_getD (k.bool_bool _)] at h₂
    rw [hreference, takes_getD (k.text_str _)] at h₃
    rw [hparser, takes_getD (k.text_str _)] at h₄
    rw [hsuffix, takes_getD (k.text_str _)] at h₅
    rw [hfolder, takes_getD (k.text_str _)] at h₆
    exact ⟨h₁, h₂, h₃, h₄, h₅, h₆⟩
  · rintro ⟨h₁, h₂, h₃, h₄, h₅, h₆⟩
    rw [← takes_getD (k.int_int _), ← hversion] at h₁
    rw [← takes_getD (k.bool_bool _), ← htrim] at h₂
    rw [← takes_getD (k.text_str _), ← hreference] at h₃
    rw [← takes_getD (k.text_str _), ← hparser] at h₄
    rw [← takes_getD (k.text_str _), ← hsuffix] at h₅
    rw [← takes_getD (k.text_str _), ← hfolder] at h₆
    exact ⟨h₁, h₂, h₃, h₄, h₅, h₆⟩

theorem mem_names_overridden {e : Text × Datum} (he : e ∈ overridden entries) : e.1 ∈ names := by
  obtain ⟨e', he', rfl⟩ := List.mem_map.1 he
  exact (List.of_mem_zip he').1

theorem forall_mem_names_iff (hmore : keywords (strange entries) = .ok more) :
    (∀ e ∈ overridden entries ++ more, e.1 ∈ names) ↔ HasKnownKeys entries := by
  have hstrange := keywords_eq_ok_iff.1 hmore
  rw [← strange_eq_nil_iff]
  constructor
  · intro h
    refine List.eq_nil_iff_forall_not_mem.2 fun e he => ?_
    have hnot := (List.mem_filter.1 he).2
    rw [hstrange] at he
    obtain ⟨⟨n, d⟩, he', rfl⟩ := List.mem_map.1 he
    have hknown : names.any (isKey · (.str n)) = true :=
      any_isKey_iff.2 ⟨n, h (n, d) (List.mem_append_right _ he'), rfl⟩
    simp only [hknown] at hnot
    cases hnot
  · intro h e he
    rw [h] at hstrange
    rw [List.map_eq_nil_iff.1 hstrange.symm, List.append_nil] at he
    exact mem_names_overridden he

end

/-! ## Loading entries -/

section

variable {c : Checker} {entries : List (Datum × Datum)} {data : List (Text × Datum)} {s : Settings}
  {f : Fault} {path : Text}

theorem checkVersion_eq_ok_iff {u : Unit} :
    checkVersion entries = .ok u ↔ IsUnderstood entries := by
  unfold checkVersion IsUnderstood
  cases said? entries "schema_version".toList with
  | none => simp
  | some d =>
      cases hsupported : isSupported d with
      | true => simp [hsupported]
      | false => cases hshown : d.write Datum.display <;> simp [hsupported, hshown]

/-- A fault that the loading of entries does not report. -/
inductive Escapes (c : Checker) (entries : List (Datum × Datum)) : Fault → Prop
  /-- The version is another one, and it cannot be shown. -/
  | version {d : Datum} {f : Fault} (hsaid : said? entries "schema_version".toList = some d)
      (hother : isSupported d = false) (hshown : d.write Datum.display = .error f) :
      Escapes c entries f
  /-- A key is no text. -/
  | keyword (hversion : IsUnderstood entries) (hkeys : ¬ HasTextKeys entries) :
      Escapes c entries .keywordNotText
  /-- A format of references raises a fault that is not looked for. -/
  | reference {d : Datum} {f : Fault} {format : Text} (hversion : IsUnderstood entries)
      (hkeys : HasTextKeys entries) (hsaid : said? entries "capture_reference".toList = some d)
      (htext : c.coercion.text d = .ok format) (hsurprises : c.Surprises format f) :
      Escapes c entries f

theorem checkVersion_eq_fault_iff : checkVersion entries = .error (.fault f) ↔
    ∃ d, said? entries "schema_version".toList = some d ∧ isSupported d = false ∧
      d.write Datum.display = .error f := by
  unfold checkVersion
  cases said? entries "schema_version".toList with
  | none => simp
  | some d =>
      cases hsupported : isSupported d with
      | true => simp [hsupported]
      | false => cases hshown : d.write Datum.display <;> simp [hsupported, hshown]

theorem checkVersion_eq_error {e : SettingsError} (h : checkVersion entries = .error e) :
    e.isReport = true ∨ ∃ f, e = .fault f := by
  unfold checkVersion at h
  split at h
  · cases h
  · split at h
    · cases h
    · split at h <;> cases h
      · exact .inl rfl
      · exact .inr ⟨_, rfl⟩

theorem ofEntries_eq_ok_iff : ofEntries c path entries = .ok s ↔ IsUnderstood entries ∧
    HasKnownKeys entries ∧ Follows c.coercion (said? entries) s ∧
      c.IsFillable s.captureReference := by
  simp only [ofEntries, bind_eq_ok_iff, mapError_eq_ok_iff, checkVersion_eq_ok_iff,
    keywords_mergeDefaults_eq_ok_iff, ofDataWith_eq_ok_iff]
  constructor
  · rintro ⟨-, hversion, _, ⟨more, rfl, hmore⟩, hfollows, hfillable, hknown⟩
    exact ⟨hversion, (forall_mem_names_iff hmore).1 hknown, follows_overridden_iff.1 hfollows,
      hfillable⟩
  · rintro ⟨hversion, hknown, hfollows, hfillable⟩
    have hmore : keywords (strange entries) = .ok [] := by rw [strange_eq_nil_iff.2 hknown]; rfl
    exact ⟨(), hversion, _, ⟨[], rfl, hmore⟩, follows_overridden_iff.2 hfollows, hfillable,
      (forall_mem_names_iff hmore).2 hknown⟩

theorem ofEntries_eq_error {e : SettingsError} (h : ofEntries c path entries = .error e) :
    e.isReport = true ∨ ∃ f, e = .fault f := by
  rcases bind_eq_error_iff.1 h with hversion | ⟨-, -, h⟩
  · exact checkVersion_eq_error hversion
  · rcases bind_eq_error_iff.1 h with hkeys | ⟨data, -, h⟩
    · obtain ⟨f, -, rfl⟩ := mapError_eq_error_iff.1 hkeys
      exact .inr ⟨f, rfl⟩
    · obtain ⟨r, -, rfl⟩ := mapError_eq_error_iff.1 h
      cases r with
      | problems fields => exact .inl rfl
      | fault f => exact .inr ⟨f, rfl⟩

/-- Data that are made of entries have what these say for the format of references, or else the
default format. -/
theorem lookup_captureReference (h : keywords (mergeDefaults entries) = .ok data) :
    ∃ d, data.lookup "capture_reference".toList =
        some ((said? entries "capture_reference".toList).getD d) ∧
      c.coercion.text d = .ok ({} : Settings).captureReference := by
  obtain ⟨more, rfl, -⟩ := keywords_mergeDefaults_eq_ok_iff.1 h
  exact ⟨_, lookup_overridden rfl, c.coercion.text_str _⟩

theorem ofEntries_eq_fault_iff :
    ofEntries c path entries = .error (.fault f) ↔ Escapes c entries f := by
  have hrejection (r : Rejection) :
      SettingsError.ofRejection path r = .fault f ↔ r = .fault f := by
    cases r <;> simp [SettingsError.ofRejection]
  simp only [ofEntries, bind_eq_error_iff, mapError_eq_ok_iff, mapError_eq_error_iff, hrejection,
    checkVersion_eq_ok_iff, checkVersion_eq_fault_iff, SettingsError.fault.injEq, exists_eq_right,
    keywords_eq_error_iff, hasTextKeys_mergeDefaults_iff, ofDataWith_eq_fault_iff]
  constructor
  · rintro (⟨d, hsaid, hother, hshown⟩ | ⟨-, hversion, ⟨rfl, hkeys⟩ | ⟨data, hdata, d, format, hd,
      htext, hsurprises⟩⟩)
    · exact .version hsaid hother hshown
    · exact .keyword hversion hkeys
    · have htexts := hasTextKeys_mergeDefaults_iff.1 (hasTextKeys_of_keywords hdata)
      obtain ⟨d₀, hd₀, htext₀⟩ := lookup_captureReference (c := c) hdata
      cases hd₀.symm.trans hd
      cases hsaid : said? entries "capture_reference".toList with
      | some d =>
          rw [hsaid, Option.getD_some] at htext
          exact .reference hversion htexts hsaid htext hsurprises
      | none =>
          -- The default format can be filled.
          rw [hsaid, Option.getD_none, htext₀] at htext
          cases htext
          obtain ⟨t, ht⟩ := isFillable_default (c := c)
          cases ht.symm.trans hsurprises.1
  · rintro (⟨hsaid, hother, hshown⟩ | ⟨hversion, hkeys⟩ |
      ⟨hversion, htexts, hsaid, htext, hsurprises⟩)
    · exact .inl ⟨_, hsaid, hother, hshown⟩
    · exact .inr ⟨(), hversion, .inl ⟨rfl, hkeys⟩⟩
    · obtain ⟨data, hdata⟩ := exists_keywords (hasTextKeys_mergeDefaults_iff.2 htexts)
      obtain ⟨d₀, hd₀, -⟩ := lookup_captureReference (c := c) hdata
      rw [hsaid] at hd₀
      exact .inr ⟨(), hversion, .inr ⟨data, hdata, _, _, hd₀, htext, hsurprises⟩⟩

end

/-! ## Loading files -/

section

variable {c : Collaborators} {files : Files.Tree} {folder t : Text} {path : Files.Path}
  {entries : List (Datum × Datum)}

theorem loadWith_eq_ofText (hread : files.read path = .ok t) :
    loadWith c files folder path = ofText c (path.text folder) t := by
  have hexists : files.exists? path = true := by
    unfold Files.Tree.read at hread
    unfold Files.Tree.exists?
    cases hat : files.at? path with
    | none =>
        rw [hat] at hread
        cases hread
    | some found => rfl
  unfold loadWith
  rw [hexists, hread]
  rfl

/-- Loading leads to the settings that a text says, or to a report of what is wrong with it. -/
def Reports (c : Collaborators) (t : Text) (loaded : Except SettingsError Settings) : Prop :=
  (∃ s entries, loaded = .ok s ∧ c.Holds t entries ∧ HasKnownKeys entries ∧
    Follows c.coercion (said? entries) s) ∨
  ∃ e, loaded = .error e ∧ e.isReport = true

theorem reports_ofEntries_iff {shown : Text} (hholds : c.Holds t entries) :
    Reports c t (ofEntries c.toChecker shown entries) ↔ ∀ f, ¬ Escapes c.toChecker entries f := by
  have hescapes (f : Fault) :
      Escapes c.toChecker entries f ↔ ofEntries c.toChecker shown entries = .error (.fault f) :=
    ofEntries_eq_fault_iff.symm
  simp only [hescapes]
  constructor
  · rintro (⟨s, -, hs, -⟩ | ⟨e, he, hreport⟩) f hfault
    · rw [hs] at hfault
      cases hfault
    · rw [he] at hfault
      cases hfault
      cases hreport
  · intro hnot
    cases hloaded : ofEntries c.toChecker shown entries with
    | ok s =>
        obtain ⟨-, hknown, hfollows, -⟩ := ofEntries_eq_ok_iff.1 hloaded
        exact .inl ⟨s, entries, rfl, hholds, hknown, hfollows⟩
    | error e =>
        rcases ofEntries_eq_error hloaded with hreport | ⟨f, rfl⟩
        · exact .inr ⟨e, rfl, hreport⟩
        · exact absurd hloaded (hnot f)

/-- Whoever reads documents and makes values of data: if the reader gives a document or tells what
is wrong with a text, then either the text is followed or what is wrong with it is reported, except
where another version cannot be shown, a key is no text, or a format of references raises a fault
that is not looked for. -/
theorem load_reports_iff (hread : files.read path = .ok t) (hreads : c.Reads t) :
    Reports c t (loadWith c files folder path) ↔
      ∀ entries, c.Holds t entries → ∀ f, ¬ Escapes c.toChecker entries f := by
  rw [loadWith_eq_ofText hread, ofText]
  cases hdocument : c.read t with
  | error trouble =>
      obtain ⟨m, rfl⟩ := hreads trouble hdocument
      refine iff_of_true (.inr ⟨_, rfl, rfl⟩) ?_
      rintro entries (h | ⟨h, -⟩) <;> cases hdocument.symm.trans h
  | ok document =>
      cases document with
      | mapping entries =>
          refine (reports_ofEntries_iff (.inl hdocument)).trans
            ⟨?_, fun hall => hall entries (.inl hdocument)⟩
          rintro hnot entries' (h | ⟨h, -⟩) <;> cases hdocument.symm.trans h
          exact hnot
      | nothing =>
          refine (reports_ofEntries_iff (.inr ⟨hdocument, rfl⟩)).trans
            ⟨?_, fun hall => hall [] (.inr ⟨hdocument, rfl⟩)⟩
          rintro hnot entries' (h | ⟨-, rfl⟩)
          · cases hdocument.symm.trans h
          · exact hnot
      | other type =>
          refine iff_of_true (.inr ⟨_, rfl, rfl⟩) ?_
          rintro entries (h | ⟨h, -⟩) <;> cases hdocument.symm.trans h

end

def folderWith (t : Text) : Files.Tree :=
  .folder [(fileName, .file (String.ofList t).toUTF8.toList)]

def overridingText : Text := "trim_lines: no\ntemplates_dir: tpl\n".toList

theorem load_reports_iff_overridingText :
    (folderWith overridingText).read (.ofText fileName) = .ok overridingText ∧
      Collaborators.standard.Reads overridingText ∧
      (Reports .standard overridingText (load (folderWith overridingText) [] (.ofText fileName)) ↔
        ∀ entries, Collaborators.standard.Holds overridingText entries →
          ∀ f, ¬ Escapes .standard entries f) := by
  have hread : (folderWith overridingText).read (.ofText fileName) = .ok overridingText := by
    decide +kernel
  have hreads : Collaborators.standard.Reads overridingText := by
    have hok : (readDocument overridingText).isOk = true := by decide +kernel
    intro trouble htrouble
    change readDocument overridingText = _ at htrouble
    rw [htrouble] at hok
    cases hok
  exact ⟨hread, hreads, load_reports_iff hread hreads⟩

/-! ## A member of a number -/

def memberText : Text := "capture_reference: '\x7bid.foo\x7d'\n".toList

theorem load_memberText : load (folderWith memberText) [] (.ofText fileName) =
    .error (.fault (.noMember "int".toList "foo".toList)) := by
  decide +kernel

theorem not_reports_memberText :
    ¬ Reports .standard memberText (load (folderWith memberText) [] (.ofText fileName)) := by
  rw [load_memberText]
  rintro (⟨s, entries, hs, -⟩ | ⟨e, he, hreport⟩)
  · cases hs
  · cases he
    cases hreport

end Stencil.Settings
