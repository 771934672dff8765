import Stencil.Proofs.Template.Nesting

/-!
# Limits of a scan

A scan without a limit ends where the depth of braces outside of strings returns to zero for the
first time. A limit does not move that end: it only refuses the texts in which more braces are open
at some place before it.
-/

namespace Stencil.Template

/-- A text ends where its depth returns to zero for the first time. -/
structure Returns (read : Text) : Prop where
  nonempty : read ≠ []
  level : Quoting.outside.depth read = 0
  first : ∀ front, front <+: read → front ≠ [] → front ≠ read → Quoting.outside.depth front ≠ 0

theorem Quoting.neg_one_le_rise (q : Quoting) (c : Char) : -1 ≤ q.rise c := by
  unfold rise
  split <;> (try split_ifs) <;> decide

theorem Quoting.rise_eq_neg_one_iff {q : Quoting} {c : Char} :
    q.rise c = -1 ↔ q = .outside ∧ c = '}' := by
  cases q with
  | inside quote | escaped quote => simp [rise]
  | outside =>
      by_cases hopen : c = '{'
      · simp [rise, hopen]
      · by_cases hclose : c = '}' <;> simp [rise, hopen, hclose]

theorem Quoting.one_le_add_depth {q : Quoting} {depth : Int} {t : Text} (hdepth : 1 ≤ depth)
    (h : ∀ front, front <+: t → depth + q.depth front ≠ 0) :
    ∀ front, front <+: t → 1 ≤ depth + q.depth front := by
  induction t generalizing q depth with
  | nil =>
      intro front hfront
      obtain rfl := List.prefix_nil.1 hfront
      simpa using hdepth
  | cons c t ih =>
      have hrest := (forall_prefix_cons_iff.1 h).2
      have hhead := hrest [] List.nil_prefix
      have hrise := q.neg_one_le_rise c
      simp only [depth_cons, depth_nil, Int.add_zero] at hhead hrest
      refine forall_prefix_cons_iff.2 ⟨by simpa using hdepth, fun front hfront => ?_⟩
      rw [depth_cons, ← Int.add_assoc]
      exact ih (by omega) (fun front hfront => by rw [Int.add_assoc]; exact hrest front hfront)
        front hfront

theorem Quoting.depth_open (t : Text) : outside.depth ('{' :: t) = 1 + outside.depth t := rfl

theorem returns_cons_iff {tail : Text} :
    Returns ('{' :: tail) ↔ ∃ body, tail = body ++ ['}'] ∧ Closes none 1 .outside body := by
  have hclose : Quoting.outside.depth ['}'] = -1 := rfl
  constructor
  · rintro ⟨-, hlevel, hfirst⟩
    rw [Quoting.depth_open] at hlevel
    obtain rfl | ⟨body, c, rfl⟩ := tail.eq_nil_or_concat
    · cases hlevel
    rw [List.concat_eq_append] at hlevel hfirst ⊢
    have hnonzero : ∀ front, front <+: body → 1 + Quoting.outside.depth front ≠ 0 := by
      intro front hfront
      refine hfirst ('{' :: front) ?_ (by simp) ?_
      · exact List.cons_prefix_cons.2 ⟨rfl, hfront.trans (List.prefix_append ..)⟩
      · rintro heq
        obtain rfl := (List.cons.inj heq).2
        exact absurd hfront.length_le (by simp)
    have hinside := Quoting.one_le_add_depth (Int.le_refl 1) hnonzero
    have hbody := hinside body List.prefix_rfl
    rw [Quoting.depth_append, Quoting.depth_cons, Quoting.depth_nil, Int.add_zero] at hlevel
    -- The last character has to close a brace, since the depth before it is positive.
    have hrise := (Quoting.outside.after body).neg_one_le_rise c
    obtain ⟨houtside, rfl⟩ := Quoting.rise_eq_neg_one_iff.1
      (show (Quoting.outside.after body).rise c = -1 by omega)
    rw [houtside] at hlevel
    exact ⟨body, rfl, houtside, by rw [Quoting.depth_cons, Quoting.depth_nil] at hclose; omega,
      hinside, by simp⟩
  · rintro ⟨body, rfl, houtside, hlast, hinside, -⟩
    refine ⟨by simp, ?_, fun front hfront hne hproper => ?_⟩
    · rw [Quoting.depth_open, Quoting.depth_append, houtside]
      omega
    · rcases List.prefix_cons_iff.1 hfront with rfl | ⟨tail, rfl, htail⟩
      · exact absurd rfl hne
      rcases List.prefix_concat_iff.1 htail with rfl | hbody
      · exact absurd rfl hproper
      · have := hinside tail hbody
        rw [Quoting.depth_open]
        omega

theorem closes_limit_iff {limit : Nat} {body : Text} (hlimit : 1 ≤ limit)
    (h : Closes none 1 .outside body) :
    Closes (some limit) 1 .outside body ↔
      ∀ front, front <+: '{' :: (body ++ ['}']) → Quoting.outside.depth front ≤ limit := by
  rw [forall_prefix_cons_iff]
  constructor
  · rintro ⟨houtside, hlast, -, hlimited⟩
    refine ⟨by simp, fun front hfront => ?_⟩
    rw [Quoting.depth_open]
    rcases List.prefix_concat_iff.1 hfront with rfl | hbody
    · have hclose : Quoting.outside.depth ['}'] = -1 := rfl
      rw [Quoting.depth_append, houtside]
      omega
    · exact hlimited front hbody limit rfl
  · rintro ⟨-, hlimited⟩
    refine ⟨h.outside, h.last, h.inside, ?_⟩
    rintro front hfront _ ⟨⟩
    exact hlimited front (hfront.trans (List.prefix_append ..))

theorem balanced?_cons_eq_some_iff_closes {limit : Option Nat} {rest read behind : Text}
    (hlimit : ∀ l ∈ limit, 1 ≤ l) :
    balanced? limit ('{' :: rest) = some (read, behind) ↔
      ∃ body, read = '{' :: (body ++ ['}']) ∧ rest = body ++ '}' :: behind ∧
        Closes limit 1 .outside body := by
  rw [balanced?_cons_eq_some_iff hlimit]
  constructor
  · rintro ⟨_, ⟨body, rfl, hrest, hbody⟩, rfl⟩
    exact ⟨body, rfl, hrest, hbody⟩
  · rintro ⟨body, rfl, hrest, hbody⟩
    exact ⟨_, ⟨body, rfl, hrest, hbody⟩, rfl⟩

/-- Without a limit a scan reads up to the place where the depth first returns to zero. -/
theorem balanced?_none_eq_some_iff {rest read behind : Text} :
    balanced? none ('{' :: rest) = some (read, behind) ↔
      '{' :: rest = read ++ behind ∧ Returns read := by
  rw [balanced?_cons_eq_some_iff_closes (by simp)]
  constructor
  · rintro ⟨body, rfl, rfl, hbody⟩
    exact ⟨by simp, returns_cons_iff.2 ⟨body, rfl, hbody⟩⟩
  · rintro ⟨heq, hread⟩
    cases read with
    | nil => exact absurd rfl hread.nonempty
    | cons c tail =>
        obtain ⟨rfl, rfl⟩ := List.cons.inj heq
        obtain ⟨body, rfl, hbody⟩ := returns_cons_iff.1 hread
        exact ⟨body, rfl, by simp, hbody⟩

theorem balanced?_some_eq_some_iff {limit : Nat} {rest read behind : Text} (hlimit : 1 ≤ limit) :
    balanced? (some limit) ('{' :: rest) = some (read, behind) ↔
      balanced? none ('{' :: rest) = some (read, behind) ∧
        ∀ front, front <+: read → Quoting.outside.depth front ≤ limit := by
  constructor
  · intro h
    have hunlimited := balanced?_unlimited h
    obtain ⟨body, rfl, hrest, hbody⟩ :=
      (balanced?_cons_eq_some_iff_closes (by simpa using hlimit)).1 h
    have hcloses : Closes none 1 .outside body :=
      ⟨hbody.outside, hbody.last, hbody.inside, by simp⟩
    exact ⟨hunlimited, (closes_limit_iff hlimit hcloses).1 hbody⟩
  · rintro ⟨h, hlimited⟩
    obtain ⟨body, rfl, hrest, hbody⟩ := (balanced?_cons_eq_some_iff_closes (by simp)).1 h
    exact (balanced?_cons_eq_some_iff_closes (by simpa using hlimit)).2
      ⟨body, rfl, hrest, (closes_limit_iff hlimit hbody).2 hlimited⟩

/-- At a brace the scan without a limit reads up to the place where the depth returns to zero for
the first time. The scan with a limit reads the same if the depth never exceeds it on the way, and
nothing otherwise. -/
theorem balanced?_filtered {t : Text} {pos : Nat} (hopen : t[pos]? = some '{') :
    (∀ read behind, balanced? none (t.drop pos) = some (read, behind) ↔
      t.drop pos = read ++ behind ∧ Returns read) ∧
    ∀ limit, 1 ≤ limit → ∀ read behind,
      (balanced? (some limit) (t.drop pos) = some (read, behind) ↔
        balanced? none (t.drop pos) = some (read, behind) ∧
          ∀ front, front <+: read → Quoting.outside.depth front ≤ limit) := by
  obtain ⟨hpos, hbrace⟩ := List.getElem?_eq_some_iff.1 hopen
  rw [List.drop_eq_getElem_cons hpos, hbrace]
  exact ⟨fun _ _ => balanced?_none_eq_some_iff,
    fun _ hlimit _ _ => balanced?_some_eq_some_iff hlimit⟩

/-- Braces inside of braces around a string that closes one more. -/
def braceInString : Text := "a\x7b\x7b\x22\\\x22\x7d\x22\x7db\x7d\x7d".toList

theorem balanced?_filtered_braceInString :
    braceInString[1]? = some '{' ∧ Returns "\x7b\x7b\x22\\\x22\x7d\x22\x7db\x7d".toList ∧
      balanced? (some 2) (braceInString.drop 1) =
        some ("\x7b\x7b\x22\\\x22\x7d\x22\x7db\x7d".toList, ['}']) ∧
      balanced? (some 1) (braceInString.drop 1) = none := by
  have hopen : braceInString[1]? = some '{' := by decide
  obtain ⟨hunlimited, hlimited⟩ := balanced?_filtered hopen
  have hread := (hlimited 2 (by decide) "\x7b\x7b\x22\\\x22\x7d\x22\x7db\x7d".toList ['}']).1
    (by decide +kernel)
  exact ⟨hopen, ((hunlimited _ _).1 hread.1).2, (hlimited 2 (by decide) _ _).2 hread,
    by decide +kernel⟩

end Stencil.Template
