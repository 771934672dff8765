import Stencil.Template.Scan

/-!
# Placeholders in a text

A placeholder is read at the start of a text exactly if the text goes on with its source and the
scan of its braces ends where the source ends. What comes behind the source does not matter.
-/

namespace Stencil

/-! ## Ends of a text -/

theorem Text.startsWith_iff {head t : Text} :
    startsWith head t = true ↔ ∃ rest, t = head ++ rest := by
  simp [startsWith, Option.isSome_iff_exists, after?_eq_some_iff]

theorem Text.endsWith_iff {tail t : Text} :
    endsWith tail t = true ↔ ∃ front, t = front ++ tail := by
  rw [endsWith, startsWith_iff]
  constructor
  · rintro ⟨rest, h⟩
    exact ⟨rest.reverse, by simpa using congrArg List.reverse h⟩
  · rintro ⟨front, rfl⟩
    exact ⟨front.reverse, by simp⟩

namespace Template

/-! ## Scans -/

section

variable {limit : Option Nat} {depth : Nat} {quote : Option Char} {t read behind : Text}

theorem scanFrom_open (limit : Option Nat) (depth : Nat) (rest : Text) :
    scanFrom limit depth none ('{' :: rest) =
      if limit.any (· < depth + 1) then none
      else readBefore ['{'] (scanFrom limit (depth + 1) none rest) := by
  simp [scanFrom, isQuote]

theorem scanFrom_append (h : scanFrom limit depth quote t = some (read, behind)) (more : Text) :
    scanFrom limit depth quote (read ++ more) = some (read, more) := by
  fun_induction scanFrom limit depth quote t generalizing read behind with
  | case1 | case2 | case6 => cases h
  | case8 =>
      cases h
      simp [scanFrom, isQuote]
  | case3 depth q c rest ih =>
      obtain ⟨tail, htail, rfl⟩ := readBefore_eq_some_iff.1 h
      simp [scanFrom, ih htail, readBefore]
  | case4 depth q c rest hc ih =>
      obtain ⟨tail, htail, rfl⟩ := readBefore_eq_some_iff.1 h
      simp [scanFrom, ih htail, readBefore]
  | case5 depth c rest hq ih =>
      obtain ⟨tail, htail, rfl⟩ := readBefore_eq_some_iff.1 h
      simp [scanFrom, hq, ih htail, readBefore]
  | case7 depth rest hl hq ih =>
      obtain ⟨tail, htail, rfl⟩ := readBefore_eq_some_iff.1 h
      rw [List.singleton_append, List.cons_append, scanFrom_open, if_neg hl, ih htail]
      rfl
  | case9 depth rest hd hq ho ih =>
      obtain ⟨tail, htail, rfl⟩ := readBefore_eq_some_iff.1 h
      simp [scanFrom, isQuote, hd, ih htail, readBefore]
  | case10 depth c rest hq ho hc ih =>
      obtain ⟨tail, htail, rfl⟩ := readBefore_eq_some_iff.1 h
      simp [scanFrom, hq, ho, hc, ih htail, readBefore]

theorem scanFrom_unlimited (h : scanFrom limit depth quote t = some (read, behind)) :
    scanFrom none depth quote t = some (read, behind) := by
  fun_induction scanFrom limit depth quote t generalizing read behind <;>
    grind [scanFrom, readBefore_eq_some_iff]

theorem eq_concat_of_scanFrom (h : scanFrom limit depth quote t = some (read, behind)) :
    ∃ body, read = body ++ ['}'] := by
  fun_induction scanFrom limit depth quote t generalizing read behind with
  | case1 | case2 | case6 => cases h
  | case8 =>
      cases h
      exact ⟨[], rfl⟩
  | case3 _ _ _ _ ih | case4 _ _ _ _ _ ih | case5 _ _ _ _ ih | case7 _ _ _ _ ih
  | case9 _ _ _ _ _ ih | case10 _ _ _ _ _ _ ih =>
      obtain ⟨tail, htail, rfl⟩ := readBefore_eq_some_iff.1 h
      obtain ⟨body, rfl⟩ := ih htail
      exact ⟨_, (List.append_assoc ..).symm⟩

end

theorem balanced?_append {limit : Option Nat} {t read behind : Text}
    (h : balanced? limit t = some (read, behind)) (more : Text) :
    balanced? limit (read ++ more) = some (read, more) := scanFrom_append h more

theorem balanced?_unlimited {limit : Option Nat} {t read behind : Text}
    (h : balanced? limit t = some (read, behind)) : balanced? none t = some (read, behind) :=
  scanFrom_unlimited h

theorem exists_inner_of_balanced? {limit : Option Nat} {rest read behind : Text}
    (h : balanced? limit ('{' :: rest) = some (read, behind)) :
    ∃ inner, read = '{' :: inner ++ ['}'] := by
  obtain ⟨body, rfl⟩ := eq_concat_of_scanFrom h
  obtain ⟨heq, -⟩ := eq_append_of_scanFrom h
  cases body with
  | nil => cases heq
  | cons c inner =>
      obtain ⟨rfl, -⟩ := List.cons.inj heq
      exact ⟨inner, rfl⟩

/-! ## Reading a placeholder -/

def Placeholder.braced (p : Placeholder) : Text :=
  match p.form with
  | .single => '{' :: p.inner ++ ['}']
  | .double => '{' :: '{' :: p.inner ++ ['}', '}']

theorem Placeholder.source_eq (p : Placeholder) :
    p.source = if p.valueSigil then '$' :: p.braced else p.braced := rfl

/-- The scan of the braces ends with the last of them. In the single form the content is not
empty, and not of the shape that makes the braces double. -/
def Placeholder.Delimited (p : Placeholder) : Prop :=
  match p.form with
  | .single =>
    p.inner ≠ [] ∧ balanced? (some singleLimit) p.braced = some (p.braced, []) ∧
      ∀ inner, p.inner ≠ '{' :: inner ++ ['}']
  | .double => balanced? none p.braced = some (p.braced, [])

theorem doubleInner?_eq_some_iff {tail inner : Text} :
    doubleInner? ('{' :: '{' :: tail) = some inner ↔ tail = inner ++ ['}', '}'] := by
  unfold doubleInner?
  constructor
  · intro h
    split at h
    · next hends =>
        obtain ⟨front, hfront⟩ := Text.endsWith_iff.1 hends.2
        cases h
        match front, hfront with
        | [], hfront => simp at hfront
        | [_], hfront => simp at hfront
        | _ :: _ :: front, hfront =>
            obtain ⟨-, -, rfl⟩ := by simpa using hfront
            simp
    · cases h
  · rintro rfl
    have hends : Text.endsWith ['}', '}'] ('{' :: '{' :: (inner ++ ['}', '}'])) = true :=
      Text.endsWith_iff.2 ⟨'{' :: '{' :: inner, rfl⟩
    simp [hends]

def doubleBraced? (sigil : Bool) (t : Text) : Option (Placeholder × Text) :=
  if Text.startsWith ['{', '{'] t then do
    let (read, behind) ← balanced? none t
    let inner ← doubleInner? read
    some (⟨.double, sigil, inner⟩, behind)
  else none

def singleBraced? (sigil : Bool) (t : Text) : Option (Placeholder × Text) := do
  let (read, behind) ← balanced? (some singleLimit) t
  let inner := (read.drop 1).take (read.length - 2)
  if inner.isEmpty then none else some (⟨.single, sigil, inner⟩, behind)

theorem bracedPlaceholder?_eq_or (sigil : Bool) (t : Text) :
    bracedPlaceholder? sigil t = (doubleBraced? sigil t).or (singleBraced? sigil t) :=
  Option.orElse_eq_or

section

variable {sigil : Bool} {t behind : Text} {p : Placeholder}

theorem doubleBraced?_eq_some_iff :
    doubleBraced? sigil t = some (p, behind) ↔
      p.form = .double ∧ p.valueSigil = sigil ∧ t = p.braced ++ behind ∧
        balanced? none p.braced = some (p.braced, []) := by
  unfold doubleBraced?
  constructor
  · intro h
    split at h
    · next hstarts =>
        obtain ⟨tail, rfl⟩ := Text.startsWith_iff.1 hstarts
        simp only [Option.bind_eq_bind, Option.bind_eq_some_iff] at h
        obtain ⟨⟨read, rest⟩, hread, inner, hinner, hpair⟩ := h
        cases hpair
        obtain ⟨heq, -⟩ := eq_append_of_scanFrom hread
        match read, hread, hinner, heq with
        | [], _, hinner, _ => cases hinner
        | [_], _, hinner, _ => cases hinner
        | _ :: _ :: more, hread, hinner, heq =>
            obtain ⟨rfl, rfl, -⟩ := by simpa using heq
            obtain rfl := doubleInner?_eq_some_iff.1 hinner
            have hscan := balanced?_append hread []
            rw [List.append_nil] at hscan
            exact ⟨rfl, rfl, heq, hscan⟩
    · cases h
  · rintro ⟨hform, hsigil, rfl, hscan⟩
    obtain ⟨form, valueSigil, inner⟩ := p
    obtain rfl : form = .double := hform
    obtain rfl : valueSigil = sigil := hsigil
    have hstarts : Text.startsWith ['{', '{']
        (Placeholder.braced ⟨.double, valueSigil, inner⟩ ++ behind) = true :=
      Text.startsWith_iff.2 ⟨inner ++ ['}', '}'] ++ behind, rfl⟩
    have hinner : doubleInner? (Placeholder.braced ⟨.double, valueSigil, inner⟩) = some inner :=
      doubleInner?_eq_some_iff.2 rfl
    simp [hstarts, balanced?_append hscan behind, hinner]

theorem singleBraced?_eq_some_iff :
    singleBraced? sigil ('{' :: t) = some (p, behind) ↔
      p.form = .single ∧ p.valueSigil = sigil ∧ '{' :: t = p.braced ++ behind ∧
        p.inner ≠ [] ∧ balanced? (some singleLimit) p.braced = some (p.braced, []) := by
  simp only [singleBraced?, Option.bind_eq_bind, Option.bind_eq_some_iff]
  constructor
  · rintro ⟨⟨read, rest⟩, hread, h⟩
    obtain ⟨inner, rfl⟩ := exists_inner_of_balanced? hread
    obtain ⟨heq, -⟩ := eq_append_of_scanFrom hread
    have hscan := balanced?_append hread []
    rw [List.append_nil] at hscan
    have hinner : (('{' :: inner ++ ['}']).drop 1).take (('{' :: inner ++ ['}']).length - 2) =
        inner := by simp
    simp only [hinner] at h
    split at h
    · cases h
    · next hne =>
        cases h
        exact ⟨rfl, rfl, heq, by simpa using hne, hscan⟩
  · rintro ⟨hform, hsigil, heq, hne, hscan⟩
    obtain ⟨form, valueSigil, inner⟩ := p
    obtain rfl : form = .single := hform
    obtain rfl : valueSigil = sigil := hsigil
    refine ⟨_, heq ▸ balanced?_append hscan behind, ?_⟩
    simpa [Placeholder.braced] using hne

theorem bracedPlaceholder?_eq_some_iff :
    bracedPlaceholder? sigil ('{' :: t) = some (p, behind) ↔
      p.valueSigil = sigil ∧ '{' :: t = p.braced ++ behind ∧ p.Delimited := by
  rw [bracedPlaceholder?_eq_or, Option.or_eq_some_iff, doubleBraced?_eq_some_iff,
    singleBraced?_eq_some_iff]
  constructor
  · rintro (⟨hform, hsigil, heq, hscan⟩ | ⟨hdouble, hform, hsigil, heq, hne, hscan⟩)
    · exact ⟨hsigil, heq, by simpa [Placeholder.Delimited, hform] using hscan⟩
    · refine ⟨hsigil, heq, ?_⟩
      simp only [Placeholder.Delimited, hform]
      refine ⟨hne, hscan, fun inner hinner => ?_⟩
      have hbraced : p.braced = Placeholder.braced ⟨.double, sigil, inner⟩ := by
        simp [Placeholder.braced, hform, hinner]
      have hfound : doubleBraced? sigil ('{' :: t) = some (⟨.double, sigil, inner⟩, behind) :=
        doubleBraced?_eq_some_iff.2
          ⟨rfl, rfl, hbraced ▸ heq, hbraced ▸ balanced?_unlimited hscan⟩
      rw [hdouble] at hfound
      cases hfound
  · rintro ⟨hsigil, heq, hp⟩
    cases hform : p.form with
    | double =>
        simp only [Placeholder.Delimited, hform] at hp
        exact .inl ⟨rfl, hsigil, heq, hp⟩
    | single =>
        simp only [Placeholder.Delimited, hform] at hp
        obtain ⟨hne, hscan, hshape⟩ := hp
        refine .inr ⟨Option.eq_none_iff_forall_ne_some.2 ?_, rfl, hsigil, heq, hne, hscan⟩
        rintro ⟨q, rest⟩ hq
        obtain ⟨hq, -, heq', hscan'⟩ := doubleBraced?_eq_some_iff.1 hq
        -- Both scans read the same text, so the content would have the shape of a double form.
        have hread := balanced?_append (balanced?_unlimited hscan) behind
        rw [← heq, heq', balanced?_append hscan' rest] at hread
        obtain ⟨hbraced, -⟩ := by simpa using hread
        have hinner : p.inner ++ ['}'] = '{' :: q.inner ++ ['}'] ++ ['}'] := by
          simpa [Placeholder.braced, hq, hform] using hbraced.symm
        exact hshape q.inner (List.append_cancel_right hinner)

theorem Placeholder.exists_braced_eq_cons (p : Placeholder) : ∃ rest, p.braced = '{' :: rest := by
  obtain ⟨form, valueSigil, inner⟩ := p
  cases form with
  | single => exact ⟨_, rfl⟩
  | double => exact ⟨_, rfl⟩

theorem Placeholder.head?_source (p : Placeholder) :
    p.source.head? = some (if p.valueSigil then '$' else '{') := by
  obtain ⟨tail, hbraced⟩ := p.exists_braced_eq_cons
  rw [source_eq, hbraced]
  cases p.valueSigil <;> rfl

theorem Placeholder.valueSigil_eq {p q : Placeholder} (h : p.source = q.source) :
    p.valueSigil = q.valueSigil := by
  have hhead := congrArg List.head? h
  rw [p.head?_source, q.head?_source] at hhead
  cases hp : p.valueSigil <;> cases hq : q.valueSigil <;> simp [hp, hq] at hhead ⊢

theorem Placeholder.getLast?_source (p : Placeholder) : p.source.getLast? = some '}' := by
  obtain ⟨form, valueSigil, inner⟩ := p
  cases form <;> cases valueSigil <;> simp [source, List.getLast?_cons]

/-- A placeholder is read exactly where a text goes on with the source of a delimited one. -/
theorem placeholder?_eq_some_iff :
    placeholder? t = some (p, behind) ↔ p.Delimited ∧ t = p.source ++ behind := by
  unfold placeholder?
  constructor
  · intro h
    split at h
    · obtain ⟨hsigil, heq, hp⟩ := bracedPlaceholder?_eq_some_iff.1 h
      exact ⟨hp, by simp [p.source_eq, hsigil, heq]⟩
    · obtain ⟨hsigil, heq, hp⟩ := bracedPlaceholder?_eq_some_iff.1 h
      exact ⟨hp, by simp [p.source_eq, hsigil, heq]⟩
    · cases h
  · rintro ⟨hp, rfl⟩
    obtain ⟨rest, hbraced⟩ := p.exists_braced_eq_cons
    cases hsigil : p.valueSigil with
    | true =>
        have hsource : p.source ++ behind = '$' :: '{' :: (rest ++ behind) := by
          simp [p.source_eq, hsigil, hbraced]
        rw [hsource]
        exact bracedPlaceholder?_eq_some_iff.2 ⟨hsigil, by simp [hbraced], hp⟩
    | false =>
        have hsource : p.source ++ behind = '{' :: (rest ++ behind) := by
          simp [p.source_eq, hsigil, hbraced]
        rw [hsource]
        exact bracedPlaceholder?_eq_some_iff.2 ⟨hsigil, by simp [hbraced], hp⟩

end

end Template

end Stencil
