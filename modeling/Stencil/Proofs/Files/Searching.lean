import Stencil.Files.Glob
import Stencil.Proofs.Text.Splitting
import Stencil.Proofs.Files.Following

/-!
# Searching for patterns

A pattern that is a star before a literal text finds what stands below a folder and has a path that
ends in that text.
-/

namespace Stencil.Files

/-! ## Literal texts -/

namespace Glob

/-- A text in which no character has another meaning in a pattern. -/
def IsLiteral (t : Text) : Prop := ofText t.length t = t.map .char

instance (t : Text) : Decidable (IsLiteral t) :=
  inferInstanceAs (Decidable (ofText t.length t = t.map .char))

theorem isLiteral_cons {c : Char} {t : Text} (h : IsLiteral (c :: t)) : c ≠ '*' ∧ IsLiteral t := by
  unfold IsLiteral at h
  rw [List.length_cons, ofText, List.map_cons] at h
  split at h
  · cases h
  · next hstar =>
      refine ⟨hstar, ?_⟩
      split at h
      · cases h
      · split at h
        · split at h
          · cases h
          · exact (List.cons.inj h).2
        · exact (List.cons.inj h).2

theorem IsLiteral.star_notMem {t : Text} (h : IsLiteral t) : '*' ∉ t := by
  induction t with
  | nil => exact List.not_mem_nil
  | cons c t ih =>
      obtain ⟨hc, ht⟩ := isLiteral_cons h
      exact List.not_mem_cons_of_ne_of_not_mem hc.symm (ih ht)

section

variable {t n : Text} {more : List Glob}

theorem fits_chars_iff : fits (t.map .char) n = true ↔ n = t := by
  induction t generalizing n with
  | nil => exact List.isEmpty_iff
  | cons c t ih =>
      cases n with
      | nil => simp [fits]
      | cons d n => simp [fits, ih]

theorem go_eq_true_iff {f : Text → Bool} :
    fits.go f t = true ↔ ∃ stem rest, t = stem ++ rest ∧ f rest = true := by
  induction t with
  | nil =>
      constructor
      · exact fun h => ⟨[], [], rfl, h⟩
      · rintro ⟨stem, rest, heq, h⟩
        rw [(List.append_eq_nil_iff.1 heq.symm).2] at h
        exact h
  | cons c t ih =>
      rw [fits.go, Bool.or_eq_true, ih]
      constructor
      · rintro (h | ⟨stem, rest, rfl, h⟩)
        · exact ⟨[], c :: t, rfl, h⟩
        · exact ⟨c :: stem, rest, rfl, h⟩
      · rintro ⟨stem, rest, heq, h⟩
        cases stem with
        | nil => exact .inl (heq ▸ h)
        | cons d stem => exact .inr ⟨stem, rest, (List.cons.inj heq).2, h⟩

theorem fits_star_chars_iff : fits (.star :: t.map .char) n = true ↔ ∃ stem, n = stem ++ t := by
  rw [fits, go_eq_true_iff]
  simp only [fits_chars_iff]
  refine exists_congr fun stem => ⟨?_, fun h => ⟨t, h, rfl⟩⟩
  rintro ⟨_, h, rfl⟩
  exact h

end

end Glob

/-! ## Parts of patterns -/

def Part.literal (p : Text) : Part := if p = ['.', '.'] then .up else .entry (p.map .char)

def Pattern.ending (first : Text) (parts : List Text) : Pattern :=
  ⟨.entry (.star :: first.map .char) :: parts.map .literal, false⟩

section

variable {p : Text}

theorem stars_not_within (h : '*' ∉ p) : ¬ ['*', '*'] <:+: '*' :: p := by
  rw [List.infix_cons_iff]
  rintro (⟨rest, heq⟩ | hstars)
  · exact h (by simp [← (List.cons.inj heq).2])
  · exact h (hstars.subset (by simp))

theorem Part.ofText_of_not_stars (h : ¬ ['*', '*'] <:+: p) : Part.ofText p =
    if p = ['.', '.'] then .ok .up else .ok (.entry (Glob.ofText p.length p)) := by
  have hne : p ≠ ['*', '*'] := by
    rintro rfl
    exact h (List.infix_refl _)
  rw [Part.ofText, if_neg hne, Text.find?, Text.cut?_eq_none_iff.2 h]
  rfl

theorem Part.ofText_of_isLiteral (h : Glob.IsLiteral p) : Part.ofText p = .ok (.literal p) := by
  rw [Part.ofText_of_not_stars fun hstars => h.star_notMem (hstars.subset (by simp)), Part.literal,
    h]
  split <;> rfl

theorem Part.ofText_star (h : Glob.IsLiteral p) :
    Part.ofText ('*' :: p) = .ok (.entry (.star :: p.map .char)) := by
  rw [Part.ofText_of_not_stars (stars_not_within h.star_notMem), if_neg (by simp),
    List.length_cons, Glob.ofText, if_pos rfl, h]

end

/-! ## Matching -/

namespace Tree

section

variable {t : Tree} {around : List Tree} {entries : List (Text × Tree)} {g : List Glob}
  {more : List Part} {q parts : List Text} {b : Bool}

theorem mem_matching_entry_iff (h : t.WellFormed) :
    q ∈ t.matching b (.entry g :: more) around ↔ ∃ name inner rest, q = name :: rest ∧
      Glob.fits g name = true ∧ t.child? name = some inner ∧
        rest ∈ inner.matching b more (t :: around) := by
  cases h with
  | file => simp [matching, child?]
  | folder hnames hnodup hinner =>
      simp only [matching, List.mem_flatMap, List.mem_filter, List.mem_map, child?,
        lookup_eq_some_iff hnodup]
      constructor
      · rintro ⟨⟨name, inner⟩, ⟨hmem, hfits⟩, rest, hrest, rfl⟩
        exact ⟨name, inner, rest, rfl, hfits, hmem, hrest⟩
      · rintro ⟨name, inner, rest, rfl, hfits, hmem, hrest⟩
        exact ⟨(name, inner), ⟨hmem, hfits⟩, rest, hrest, rfl⟩

theorem mem_matching_literal_iff {part : Text} (h : t.WellFormed) :
    q ∈ t.matching b (.literal part :: more) around ↔ ∃ around' t' rest, q = part :: rest ∧
      step? around t part = some (around', t') ∧ rest ∈ t'.matching b more around' := by
  by_cases hpart : part = ['.', '.']
  · subst hpart
    cases t with
    | file bytes => simp [Part.literal, matching, step?]
    | folder entries =>
        cases around with
        | nil => simp [Part.literal, matching, step?]
        | cons outer around =>
            simp only [Part.literal, matching, step?, if_true, List.mem_map, Option.some.injEq,
              Prod.mk.injEq]
            constructor
            · rintro ⟨rest, hrest, rfl⟩
              exact ⟨around, outer, rest, rfl, ⟨rfl, rfl⟩, hrest⟩
            · rintro ⟨_, _, rest, rfl, ⟨rfl, rfl⟩, hrest⟩
              exact ⟨rest, hrest, rfl⟩
  · rw [Part.literal, if_neg hpart, mem_matching_entry_iff h, step?_of_ne_dots hpart]
    simp only [Glob.fits_chars_iff, Option.map_eq_some_iff, Prod.mk.injEq]
    constructor
    · rintro ⟨_, inner, rest, rfl, rfl, hchild, hrest⟩
      exact ⟨_, inner, rest, rfl, ⟨inner, hchild, rfl, rfl⟩, hrest⟩
    · rintro ⟨_, _, rest, rfl, ⟨inner, hchild, rfl, rfl⟩, hrest⟩
      exact ⟨part, inner, rest, rfl, rfl, hchild, hrest⟩

theorem mem_matching_literals_iff (h : ∀ o ∈ t :: around, o.WellFormed) :
    q ∈ t.matching false (parts.map .literal) around ↔
      q = parts ∧ (follow? around t parts).isSome = true := by
  induction parts generalizing around t q with
  | nil => simp [matching]
  | cons part parts ih =>
      rw [List.map_cons, mem_matching_literal_iff (h t (.head _)), follow?_cons]
      constructor
      · rintro ⟨around', t', rest, rfl, hstep, hrest⟩
        obtain ⟨rfl, hfollow⟩ := (ih (wellFormed_of_step? h hstep)).1 hrest
        exact ⟨rfl, by rw [hstep]; exact hfollow⟩
      · rintro ⟨rfl, hfollow⟩
        obtain ⟨found, hfound⟩ := Option.isSome_iff_exists.1 hfollow
        obtain ⟨⟨around', t'⟩, hstep, hrest⟩ := Option.bind_eq_some_iff.1 hfound
        exact ⟨around', t', parts, rfl, hstep,
          (ih (wellFormed_of_step? h hstep)).2 ⟨rfl, by rw [hrest]; rfl⟩⟩

/-! ## Folders -/

theorem mem_foldersIn_iff {path : List Text} {x : List Text × List Tree × Tree} :
    x ∈ foldersIn around path entries ↔
      ∃ e ∈ entries, x ∈ e.2.folders around (path ++ [e.1]) := by
  induction entries with
  | nil => simp [foldersIn]
  | cons e entries ih =>
      obtain ⟨name, t⟩ := e
      rw [foldersIn, List.mem_append, ih]
      simp

theorem mem_folders_iff (h : t.WellFormed) {path full : List Text} {around' : List Tree}
    {t' : Tree} : (full, around', t') ∈ t.folders around path ↔ ∃ p, full = path ++ p ∧
      (∀ part ∈ p, IsEntryName part) ∧ follow? around t p = some (around', t') ∧
        t'.isFolder = true := by
  induction h generalizing around path full with
  | @file bytes =>
      rw [folders]
      refine iff_of_false List.not_mem_nil ?_
      rintro ⟨p, -, hnames, hfollow, hfolder⟩
      cases p with
      | nil =>
          cases hfollow
          cases hfolder
      | cons part p =>
          rw [follow?_entry (hnames part (.head _))] at hfollow
          cases hfollow
  | @folder entries hnames hnodup hinner ih =>
      rw [folders, List.mem_cons, mem_foldersIn_iff]
      constructor
      · rintro (heq | ⟨⟨name, inner⟩, hmem, hfound⟩)
        · cases heq
          exact ⟨[], (List.append_nil _).symm, by rintro _ ⟨⟩, rfl, rfl⟩
        · obtain ⟨p, rfl, hall, hfollow, hfolder⟩ := (ih _ hmem).1 hfound
          have hchild : child? (.folder entries) name = some inner :=
            (lookup_eq_some_iff hnodup).2 hmem
          refine ⟨name :: p, by simp, List.forall_mem_cons.2 ⟨hnames _ hmem, hall⟩, ?_, hfolder⟩
          rw [follow?_entry (hnames _ hmem), hchild]
          exact hfollow
      · rintro ⟨p, rfl, hall, hfollow, hfolder⟩
        cases p with
        | nil =>
            cases hfollow
            exact .inl (by rw [List.append_nil])
        | cons name p =>
            obtain ⟨hname, hall⟩ := List.forall_mem_cons.1 hall
            rw [follow?_entry hname] at hfollow
            obtain ⟨inner, hchild, hfollow⟩ := Option.bind_eq_some_iff.1 hfollow
            have hmem := (lookup_eq_some_iff hnodup).1 hchild
            exact .inr ⟨(name, inner), hmem, (ih _ hmem).2 ⟨p, by simp, hall, hfollow, hfolder⟩⟩

/-! ## What is found -/

theorem nodup_eraseDups {α : Type} [BEq α] [LawfulBEq α] (l : List α) : l.eraseDups.Nodup := by
  induction hlength : l.length using Nat.strongRecOn generalizing l with
  | ind n ih =>
      cases l with
      | nil => exact .nil
      | cons a l =>
          rw [List.eraseDups_cons, List.nodup_cons, List.mem_eraseDups]
          refine ⟨by simp, ih _ ?_ _ rfl⟩
          have := List.length_filter_le (fun b => !b == a) l
          rw [← hlength, List.length_cons]
          omega

theorem mem_matching_below_iff {pattern : List Part} : q ∈ t.matching b (.below :: pattern) around ↔
    ∃ path around' t', (path, around', t') ∈ t.folders around [] ∧
      ∃ rest ∈ t'.matching b pattern around', q = path ++ rest := by
  simp only [matching, List.mem_flatMap, List.mem_map, Prod.exists, @eq_comm _ q]

theorem mem_search_iff {first : Text} (h : ∀ o ∈ t :: around, o.WellFormed) :
    q ∈ t.search (.ending first parts) around ↔
      ∃ path stem, q = path ++ (stem ++ first) :: parts ∧ (∀ part ∈ path, IsEntryName part) ∧
        IsEntryName (stem ++ first) ∧ (follow? around t q).isSome = true := by
  rw [search, List.mem_eraseDups, Pattern.ending, mem_matching_below_iff]
  constructor
  · rintro ⟨path, around', t', hfolder, rest, hrest, rfl⟩
    obtain ⟨p, rfl, hnames, hfollow, -⟩ := (mem_folders_iff (h t (.head _))).1 hfolder
    have hplaced := wellFormed_of_follow? h hfollow
    obtain ⟨name, inner, below, rfl, hfits, hchild, hbelow⟩ :=
      (mem_matching_entry_iff (hplaced _ (.head _))).1 hrest
    obtain ⟨stem, rfl⟩ := Glob.fits_star_chars_iff.1 hfits
    obtain ⟨hinner, hname⟩ := (hplaced _ (.head _)).child? hchild
    obtain ⟨rfl, hisSome⟩ :=
      (mem_matching_literals_iff (List.forall_mem_cons.2 ⟨hinner, hplaced⟩)).1 hbelow
    refine ⟨path, stem, rfl, hnames, hname, ?_⟩
    rw [follow?_append, hfollow, Option.bind_some, follow?_entry hname, hchild]
    exact hisSome
  · rintro ⟨path, stem, rfl, hnames, hname, hisSome⟩
    obtain ⟨⟨around₂, t₂⟩, hfollow⟩ := Option.isSome_iff_exists.1 hisSome
    rw [follow?_append] at hfollow
    obtain ⟨⟨around', t'⟩, hpath, hrest⟩ := Option.bind_eq_some_iff.1 hfollow
    have hplaced := wellFormed_of_follow? h hpath
    rw [follow?_entry hname] at hrest
    obtain ⟨inner, hchild, hrest⟩ := Option.bind_eq_some_iff.1 hrest
    have hinner := ((hplaced t' (.head _)).child? hchild).1
    refine ⟨path, around', t', (mem_folders_iff (h t (.head _))).2 ⟨path, rfl, hnames, hpath, ?_⟩,
      (stem ++ first) :: parts, (mem_matching_entry_iff (hplaced t' (.head _))).2
        ⟨stem ++ first, inner, parts, rfl, Glob.fits_star_chars_iff.2 ⟨stem, rfl⟩, hchild,
          (mem_matching_literals_iff (List.forall_mem_cons.2 ⟨hinner, hplaced⟩)).2
            ⟨rfl, by rw [hrest]; rfl⟩⟩, rfl⟩
    cases t' with
    | file bytes => cases hchild
    | folder entries => rfl

end

end Tree

end Stencil.Files
