import Stencil.Proofs.Template.Printing

/-!
# Nesting of braces

Braces count outside of strings. A scan inside of braces ends at the first brace that closes the
outermost of them, so the content of double braces closes as many braces as it opens. The last two
braces need not close the first two, though: the content nests exactly if the last brace but one
closes the second one.
-/

namespace Stencil.Template

/-! ## Strings -/

/-- Where the next character of a text stands. -/
inductive Quoting where
  | outside
  | inside (quote : Char)
  /-- Behind a backslash in a string. -/
  | escaped (quote : Char)
deriving DecidableEq, Repr

namespace Quoting

def next : Quoting → Char → Quoting
  | outside, c => if isQuote c then inside c else outside
  | inside quote, c =>
    if c = '\\' then escaped quote else if c = quote then outside else inside quote
  | escaped quote, _ => inside quote

def after (q : Quoting) (t : Text) : Quoting := t.foldl next q

@[simp] theorem after_nil (q : Quoting) : q.after [] = q := rfl

@[simp] theorem after_cons (q : Quoting) (c : Char) (t : Text) :
    q.after (c :: t) = (q.next c).after t := rfl

theorem after_append (q : Quoting) (s t : Text) : q.after (s ++ t) = (q.after s).after t :=
  List.foldl_append

/-! ## Depth -/

def rise : Quoting → Char → Int
  | outside, c => if c = '{' then 1 else if c = '}' then -1 else 0
  | _, _ => 0

/-- The braces that a text opens, less those that it closes. -/
def depth (q : Quoting) : Text → Int
  | [] => 0
  | c :: t => q.rise c + (q.next c).depth t

@[simp] theorem depth_nil (q : Quoting) : q.depth [] = 0 := rfl

@[simp] theorem depth_cons (q : Quoting) (c : Char) (t : Text) :
    q.depth (c :: t) = q.rise c + (q.next c).depth t := rfl

theorem depth_append (q : Quoting) (s t : Text) :
    q.depth (s ++ t) = q.depth s + (q.after s).depth t := by
  induction s generalizing q with
  | nil => simp
  | cons c s ih => simp [ih, Int.add_assoc]

def quote? : Quoting → Option Char
  | outside => none
  | inside quote | escaped quote => some quote

theorem isQuote_quote?_next {q : Quoting} (h : ∀ quote ∈ q.quote?, isQuote quote = true)
    (c : Char) : ∀ quote ∈ (q.next c).quote?, isQuote quote = true := by
  cases q with
  | outside =>
      by_cases hc : isQuote c = true <;> simp [next, quote?, hc]
  | inside quote =>
      by_cases hbackslash : c = '\\' <;> by_cases hquote : c = quote <;>
        simp_all [next, quote?]
  | escaped quote => exact h

theorem isQuote_quote?_after {q : Quoting} (h : ∀ quote ∈ q.quote?, isQuote quote = true)
    (t : Text) : ∀ quote ∈ (q.after t).quote?, isQuote quote = true := by
  induction t generalizing q with
  | nil => exact h
  | cons c t ih => exact ih (isQuote_quote?_next h c)

theorem after_eq_outside_of_concat {t : Text} (h : outside.after (t ++ ['}']) = outside) :
    outside.after t = outside := by
  have hquote := isQuote_quote?_after (q := outside) (by rintro quote ⟨⟩) t
  rw [after_append] at h
  cases hafter : outside.after t with
  | outside => rfl
  | inside quote =>
      rw [hafter] at h hquote
      obtain rfl : '}' = quote := by simpa [next] using h
      cases hquote _ rfl
  | escaped quote => simp [hafter, next] at h

end Quoting

/-! ## The end of a scan -/

/-- A text leads from so many open braces to the last of them, which a brace behind the text closes.
No more than the limit are ever open. -/
structure Closes (limit : Option Nat) (depth : Int) (q : Quoting) (t : Text) : Prop where
  outside : q.after t = .outside
  last : depth + q.depth t = 1
  inside : ∀ front, front <+: t → 1 ≤ depth + q.depth front
  limited : ∀ front, front <+: t → ∀ l ∈ limit, depth + q.depth front ≤ l

theorem forall_prefix_cons_iff {P : Text → Prop} {c : Char} {t : Text} :
    (∀ front, front <+: c :: t → P front) ↔ P [] ∧ ∀ front, front <+: t → P (c :: front) := by
  constructor
  · intro h
    exact ⟨h [] List.nil_prefix, fun front hfront => h _ (List.cons_prefix_cons.2 ⟨rfl, hfront⟩)⟩
  · rintro ⟨hnil, hcons⟩ front hfront
    rcases List.prefix_cons_iff.1 hfront with rfl | ⟨tail, rfl, htail⟩
    · exact hnil
    · exact hcons tail htail

section

variable {limit : Option Nat} {depth : Int} {q : Quoting} {c : Char} {t read behind : Text}

theorem closes_nil_iff (hlimit : ∀ l ∈ limit, depth ≤ l) :
    Closes limit depth q [] ↔ q = .outside ∧ depth = 1 := by
  constructor
  · exact fun h => ⟨h.outside, by simpa using h.last⟩
  · rintro ⟨rfl, rfl⟩
    exact ⟨rfl, rfl, by simp, by simpa using hlimit⟩

theorem closes_cons_iff (hdepth : 1 ≤ depth) (hlimit : ∀ l ∈ limit, depth ≤ l) :
    Closes limit depth q (c :: t) ↔ Closes limit (depth + q.rise c) (q.next c) t := by
  constructor
  · rintro ⟨houtside, hlast, hinside, hlimited⟩
    exact ⟨houtside, by simpa [Int.add_assoc] using hlast,
      by simpa [Int.add_assoc] using (forall_prefix_cons_iff.1 hinside).2,
      by simpa [Int.add_assoc] using (forall_prefix_cons_iff.1 hlimited).2⟩
  · rintro ⟨houtside, hlast, hinside, hlimited⟩
    exact ⟨houtside, by simpa [Int.add_assoc] using hlast,
      forall_prefix_cons_iff.2 ⟨by simpa using hdepth, by simpa [Int.add_assoc] using hinside⟩,
      forall_prefix_cons_iff.2 ⟨by simpa using hlimit, by simpa [Int.add_assoc] using hlimited⟩⟩

def ReadTo (limit : Option Nat) (depth : Int) (q : Quoting) (t read behind : Text) : Prop :=
  ∃ body, read = body ++ ['}'] ∧ t = body ++ '}' :: behind ∧ Closes limit depth q body

theorem not_readTo_nil : ¬ ReadTo limit depth q [] read behind := by
  rintro ⟨body, -, h, -⟩
  simp at h

theorem readTo_close_iff (hlimit : ∀ l ∈ limit, 1 ≤ l) :
    ReadTo limit 1 .outside ('}' :: t) read behind ↔ read = ['}'] ∧ behind = t := by
  have hlimit : ∀ l ∈ limit, (1 : Int) ≤ l := fun l hl => by exact_mod_cast hlimit l hl
  constructor
  · rintro ⟨body, rfl, heq, hbody⟩
    cases body with
    | nil => simp_all
    | cons d body =>
        obtain ⟨rfl, -⟩ := List.cons.inj heq
        -- Behind the brace none would be open.
        have := hbody.inside ['}'] (List.cons_prefix_cons.2 ⟨rfl, List.nil_prefix⟩)
        simp [Quoting.rise] at this
  · rintro ⟨rfl, rfl⟩
    exact ⟨[], rfl, rfl, (closes_nil_iff hlimit).2 ⟨rfl, rfl⟩⟩

theorem not_readTo_open {l : Nat} (hl : (l : Int) < depth + 1) :
    ¬ ReadTo (some l) depth .outside ('{' :: t) read behind := by
  rintro ⟨body, -, heq, hbody⟩
  cases body with
  | nil => simp at heq
  | cons d body =>
      obtain ⟨rfl, -⟩ := List.cons.inj heq
      have hopen := hbody.limited ['{'] (List.cons_prefix_cons.2 ⟨rfl, List.nil_prefix⟩) l rfl
      have hrise : Quoting.outside.depth ['{'] = 1 := rfl
      omega

theorem readTo_cons_iff (hdepth : 1 ≤ depth) (hlimit : ∀ l ∈ limit, depth ≤ l)
    (hc : c = '}' → q = .outside → depth ≠ 1) :
    ReadTo limit depth q (c :: t) read behind ↔
      ∃ tail, ReadTo limit (depth + q.rise c) (q.next c) t tail behind ∧ read = [c] ++ tail := by
  constructor
  · rintro ⟨body, rfl, heq, hbody⟩
    cases body with
    | nil =>
        obtain ⟨rfl, rfl⟩ := List.cons.inj heq
        obtain ⟨hq, hone⟩ := (closes_nil_iff hlimit).1 hbody
        exact absurd hone (hc rfl hq)
    | cons d body =>
        obtain ⟨rfl, rfl⟩ := List.cons.inj heq
        exact ⟨_, ⟨body, rfl, rfl, (closes_cons_iff hdepth hlimit).1 hbody⟩, rfl⟩
  · rintro ⟨tail, ⟨body, rfl, rfl, hbody⟩, rfl⟩
    exact ⟨c :: body, rfl, rfl, (closes_cons_iff hdepth hlimit).2 hbody⟩

end

def Quoting.ofQuote : Option Char → Quoting
  | none => outside
  | some quote => inside quote

theorem readBefore_eq_some_iff_readTo {limit : Option Nat} {depth n : Nat} {q q' : Quoting}
    {c : Char} {t read behind : Text} {r : Option (Text × Text)} (hdepth : 0 < depth)
    (hlimit : ∀ l ∈ limit, depth ≤ l) (hc : c = '}' → q = .outside → depth ≠ 1)
    (hrise : depth + q.rise c = n) (hnext : q.next c = q')
    (h : ∀ tail, r = some (tail, behind) ↔ ReadTo limit n q' t tail behind) :
    readBefore [c] r = some (read, behind) ↔ ReadTo limit depth q (c :: t) read behind := by
  rw [readTo_cons_iff (by exact_mod_cast hdepth) (fun l hl => by exact_mod_cast hlimit l hl)
    (fun h h' => by exact_mod_cast hc h h'), hrise, hnext, readBefore_eq_some_iff]
  simp only [h]

/-- A scan inside of braces reads up to the brace that closes the outermost one. -/
theorem scanFrom_eq_some_iff {limit : Option Nat} {depth : Nat} {quote : Option Char}
    {t read behind : Text} (hdepth : 0 < depth) (hlimit : ∀ l ∈ limit, depth ≤ l) :
    scanFrom limit depth quote t = some (read, behind) ↔
      ReadTo limit depth (.ofQuote quote) t read behind := by
  fun_induction scanFrom limit depth quote t generalizing read behind with
  | case1 => simp [not_readTo_nil]
  | case2 depth quote =>
      rw [← readBefore_eq_some_iff_readTo (r := none) (n := depth) hdepth hlimit (by simp)
        (by simp [Quoting.ofQuote, Quoting.rise]) rfl (by simp [not_readTo_nil])]
      simp [readBefore]
  | case3 depth quote c rest ih =>
      rw [← List.singleton_append, ← readBefore_append]
      refine readBefore_eq_some_iff_readTo (n := depth) hdepth hlimit (by simp)
        (by simp [Quoting.ofQuote, Quoting.rise]) rfl fun _ => ?_
      exact readBefore_eq_some_iff_readTo hdepth hlimit (by simp [Quoting.ofQuote, Quoting.next])
        (by simp [Quoting.ofQuote, Quoting.rise, Quoting.next]) rfl fun _ => ih hdepth hlimit
  | case4 depth quote c rest hc ih =>
      refine readBefore_eq_some_iff_readTo hdepth hlimit (by simp [Quoting.ofQuote])
        (by simp [Quoting.ofQuote, Quoting.rise]) ?_ fun _ => ih hdepth hlimit
      by_cases hquote : c = quote <;> simp_all [Quoting.ofQuote, Quoting.next]
  | case5 depth c rest hq ih =>
      have hc : isQuote c = true := by simp_all
      refine readBefore_eq_some_iff_readTo hdepth hlimit ?_ ?_ ?_ fun _ => ih hdepth hlimit
      · rintro rfl
        cases hc
      · rcases isQuote_iff.1 hc with rfl | rfl <;> simp [Quoting.ofQuote, Quoting.rise]
      · simp [Quoting.ofQuote, Quoting.next, hc]
  | case6 depth rest hl hq =>
      obtain ⟨l, rfl, hexceeded⟩ : ∃ l, limit = some l ∧ l < depth + 1 := by
        simpa [Option.any_eq_true] using hl
      exact iff_of_false (by simp) (not_readTo_open (by exact_mod_cast hexceeded))
  | case7 depth rest hl hq ih =>
      refine readBefore_eq_some_iff_readTo hdepth hlimit (by simp)
        (by simp [Quoting.ofQuote, Quoting.rise]) (by simp [Quoting.ofQuote, Quoting.next, isQuote])
        fun _ => ih (Nat.succ_pos _) ?_
      simpa [Option.any_eq_true] using hl
  | case8 rest hq ho =>
      rw [Int.natCast_one, Quoting.ofQuote, readTo_close_iff hlimit]
      simp [eq_comm]
  | case9 depth rest hd hq ho ih =>
      refine readBefore_eq_some_iff_readTo hdepth hlimit (fun _ _ => hd) ?_
        (by simp [Quoting.ofQuote, Quoting.next, isQuote]) fun _ => ih (by omega) ?_
      · simp only [Quoting.ofQuote, Quoting.rise]
        simp
        omega
      · exact fun l hl => (Nat.sub_le ..).trans (hlimit l hl)
  | case10 depth c rest hq ho hc ih =>
      have hc' : isQuote c = false := by simp_all
      exact readBefore_eq_some_iff_readTo hdepth hlimit (fun h => absurd h hc)
        (by simp [Quoting.ofQuote, Quoting.rise, ho, hc])
        (by simp [Quoting.ofQuote, Quoting.next, hc']) fun _ => ih hdepth hlimit

theorem balanced?_cons_eq_some_iff {limit : Option Nat} {rest read behind : Text}
    (hlimit : ∀ l ∈ limit, 1 ≤ l) :
    balanced? limit ('{' :: rest) = some (read, behind) ↔
      ∃ tail, ReadTo limit 1 .outside rest tail behind ∧ read = '{' :: tail := by
  have hopen : limit.any (· < 0 + 1) = false := by
    simpa [Option.any_eq_false] using fun l hl => Nat.pos_iff_ne_zero.1 (hlimit l hl)
  rw [balanced?, scanFrom_open, hopen, if_neg Bool.false_ne_true, readBefore_eq_some_iff]
  simp only [scanFrom_eq_some_iff Nat.one_pos hlimit]
  rfl

/-! ## Double braces -/

/-- Outside of strings no brace is closed that has not been opened, and all that are opened are
closed. -/
structure WellNested (t : Text) : Prop where
  nonneg : ∀ front, front <+: t → 0 ≤ Quoting.outside.depth front
  level : Quoting.outside.depth t = 0

theorem readTo_append_close_iff {t behind : Text} :
    ReadTo none 1 .outside (t ++ '}' :: behind) (t ++ ['}']) behind ↔
      Quoting.outside.after t = .outside ∧ WellNested t := by
  constructor
  · rintro ⟨body, heq, -, hbody⟩
    obtain rfl := List.append_cancel_right heq
    exact ⟨hbody.outside, fun front hfront => by have := hbody.inside front hfront; omega,
      by have := hbody.last; omega⟩
  · rintro ⟨houtside, hwell⟩
    exact ⟨t, rfl, rfl, houtside, by rw [hwell.level, Int.add_zero],
      fun front hfront => by have := hwell.nonneg front hfront; omega, by simp⟩

theorem Placeholder.Delimited.closes_double {p : Placeholder} (h : p.Delimited)
    (hform : p.form = .double) : Closes none 2 .outside (p.inner ++ ['}']) := by
  simp only [Delimited, braced, hform, List.cons_append] at h
  obtain ⟨tail, ⟨body, rfl, heq, hbody⟩, -⟩ := (balanced?_cons_eq_some_iff (by simp)).1 h
  obtain rfl : '{' :: (p.inner ++ ['}']) = body :=
    List.append_cancel_right (by simpa using heq)
  exact (closes_cons_iff (Int.le_refl 1) (by simp)).1 hbody

/-- What stands between double braces leaves no string open and closes as many braces as it opens,
and never closes more than one of those before it. It is nested exactly if the last brace but one
closes the second. -/
theorem wellNested_double_inner_iff {trim : Bool} {source : Text} {s : Span}
    (hs : s ∈ (extract trim source).spans) (hform : s.form = .double) :
    Quoting.outside.after s.inner = .outside ∧ Quoting.outside.depth s.inner = 0 ∧
      (∀ front, front <+: s.inner → -1 ≤ Quoting.outside.depth front) ∧
      (WellNested s.inner ↔
        balanced? none ('{' :: (s.inner ++ ['}', '}'])) =
          some ('{' :: (s.inner ++ ['}']), ['}'])) := by
  have hdelimited : s.Delimited := (canonical_extract trim source).delimited_of_mem
    (List.mem_map.2 ⟨_, mem_spans_iff.1 hs, rfl⟩)
  have hcloses := hdelimited.closes_double hform
  have houtside := Quoting.after_eq_outside_of_concat hcloses.outside
  have hlast := hcloses.last
  rw [Quoting.depth_append, houtside] at hlast
  have hclose : Quoting.outside.depth ['}'] = -1 := rfl
  refine ⟨houtside, by omega, fun front hfront => ?_, ?_⟩
  · have := hcloses.inside front (hfront.trans (List.prefix_append ..))
    omega
  · rw [balanced?_cons_eq_some_iff (by simp)]
    simp only [List.cons.injEq, true_and, exists_eq_right']
    rw [readTo_append_close_iff, and_iff_right houtside]

def nestedMappings : Text := "$\x7b\x7b \x7b1: \x7b\x22\x7d\x22: 2\x7d\x7d \x7d\x7d".toList

def nestedMappingsSpan : Span :=
  ⟨⟨.double, true, " \x7b1: \x7b\x22\x7d\x22: 2\x7d\x7d ".toList⟩, 0, 0⟩

theorem wellNested_double_inner_iff_nestedMappings :
    nestedMappingsSpan ∈ (extract true nestedMappings).spans ∧
      WellNested nestedMappingsSpan.inner := by
  have hspan : nestedMappingsSpan ∈ (extract true nestedMappings).spans := by decide +kernel
  exact ⟨hspan, (wellNested_double_inner_iff hspan rfl).2.2.2.2 (by decide +kernel)⟩

/-- An expression in single braces that starts and ends with braces of its own. -/
def mappingOrMapping : Text := "\x7b\x7b1: 2\x7d or \x7b3: 4\x7d\x7d".toList

def mappingOrMappingSpan : Span := ⟨⟨.double, false, "1: 2\x7d or \x7b3: 4".toList⟩, 0, 0⟩

theorem not_wellNested_mappingOrMapping :
    (extract false mappingOrMapping).spans = [mappingOrMappingSpan] ∧
      ¬ WellNested mappingOrMappingSpan.inner := by
  refine ⟨by decide +kernel, fun h => ?_⟩
  have hclosed := h.nonneg "1: 2\x7d".toList ⟨" or \x7b3: 4".toList, by decide +kernel⟩
  revert hclosed
  decide +kernel

end Stencil.Template
