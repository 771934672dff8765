import Mathlib.Data.List.Basic
import Stencil.Template.Snapshot
import Stencil.Proofs.Template.Partition
import Stencil.Proofs.Template.Settled
import Stencil.Proofs.Text.Digits

/-!
# Tokens of a snapshot

A token of a span is read as its number wherever it stands. In a part of a snapshot every token
becomes the source of its span again, and the text between is kept.
-/

namespace Stencil

namespace Template

/-! ## Reading a token -/

theorem Form.ofLetter?_letter (form : Form) : Form.ofLetter? form.letter = some form := by
  cases form <;> rfl

theorem Form.letter_of_ofLetter? {c : Char} {form : Form} (h : ofLetter? c = some form) :
    form.letter = c := by
  unfold ofLetter? at h
  split at h <;> cases h <;> rfl

theorem token?_eq_some_iff {t behind : Text} {token : Token} :
    token? t = some (token, behind) ↔
      ∃ digits, t = tokenStart ++ token.form.letter :: '-' :: (digits ++ '$' :: behind) ∧
        digits ≠ [] ∧ (∀ c ∈ digits, Text.isDecimalDigit c) ∧
        Text.digitsToNat? digits = some token.index := by
  constructor
  · intro h
    simp only [token?, Option.bind_eq_bind, Option.bind_eq_some_iff] at h
    obtain ⟨rest, hrest, h⟩ := h
    obtain rfl := Text.after?_eq_some_iff.1 hrest
    split at h
    · next letter tail =>
        obtain ⟨form, hform, h⟩ := Option.bind_eq_some_iff.1 h
        split at h
        · next more heq =>
            split at h
            · cases h
            · next hne =>
                obtain ⟨index, hindex, h⟩ := Option.bind_eq_some_iff.1 h
                cases h
                refine ⟨tail.takeWhile Text.isDecimalDigit, ?_, by simpa using hne,
                  List.all_eq_true.1 List.all_takeWhile, hindex⟩
                rw [Form.letter_of_ofLetter? hform, ← heq, List.takeWhile_append_dropWhile]
        · cases h
    · cases h
  · rintro ⟨digits, rfl, hne, hdigits, hindex⟩
    have hafter : Text.after? tokenStart
        (tokenStart ++ token.form.letter :: '-' :: (digits ++ '$' :: behind)) =
          some (token.form.letter :: '-' :: (digits ++ '$' :: behind)) :=
      Text.after?_eq_some_iff.2 rfl
    have htake : (digits ++ '$' :: behind).takeWhile Text.isDecimalDigit = digits := by
      rw [List.takeWhile_append_of_pos hdigits, List.takeWhile_cons_of_neg (by decide),
        List.append_nil]
    have hdrop : (digits ++ '$' :: behind).dropWhile Text.isDecimalDigit = '$' :: behind := by
      rw [List.dropWhile_append_of_pos hdigits, List.dropWhile_cons_of_neg (by decide)]
    simp only [token?, hafter, htake, hdrop, Form.ofLetter?_letter, Option.bind_eq_bind,
      Option.bind_some]
    simp [hne, hindex]

theorem token?_token_append (s : Span) (behind : Text) :
    token? (s.token ++ behind) = some (⟨s.form, s.index⟩, behind) :=
  token?_eq_some_iff.2 ⟨Text.ofNat s.index, by simp [Span.token], Nat.toDigits_ne_nil,
    fun _ hc => Text.isDecimalDigit_of_mem_ofNat hc, Text.digitsToNat?_ofNat s.index⟩

theorem exists_name_of_token? {t behind : Text} {token : Token}
    (h : token? t = some (token, behind)) :
    ∃ name, '$' ∉ name ∧ t = '$' :: (name ++ '$' :: behind) ∧
      ∀ more, token? ('$' :: (name ++ '$' :: more)) = some (token, more) := by
  obtain ⟨digits, rfl, hdigits⟩ := token?_eq_some_iff.1 h
  refine ⟨['f', 't', 'p', 'l', '-'] ++ token.form.letter :: '-' :: digits, ?_, by simp [tokenStart],
    fun more => token?_eq_some_iff.2 ⟨digits, by simp [tokenStart], hdigits⟩⟩
  have hletter : '$' ≠ token.form.letter := by
    cases token.form <;> decide
  have hdollar : '$' ∉ digits := fun hmem => absurd (hdigits.2.1 '$' hmem) (by decide)
  simp [hletter, hdollar]

theorem token?_append_ne_none {t : Text} (h : token? t ≠ none) (more : Text) :
    token? (t ++ more) ≠ none := by
  obtain ⟨⟨token, behind⟩, h⟩ := Option.ne_none_iff_exists'.1 h
  obtain ⟨name, -, rfl, hread⟩ := exists_name_of_token? h
  have hmore := hread (behind ++ more)
  simp only [List.cons_append, List.append_assoc] at hmore ⊢
  simp [hmore]

/-- A token that starts in a text ends at the first dollar sign behind the text at the latest. -/
theorem token?_append_dollar_ne_none {t more : Text} (hne : t ≠ [])
    (h : token? (t ++ '$' :: more) ≠ none) : token? (t ++ ['$']) ≠ none := by
  obtain ⟨⟨token, behind⟩, h⟩ := Option.ne_none_iff_exists'.1 h
  obtain ⟨name, hname, hsplit, hread⟩ := exists_name_of_token? h
  cases t with
  | nil => exact absurd rfl hne
  | cons c t =>
      obtain ⟨rfl, hbody⟩ := List.cons.inj hsplit
      rcases List.append_eq_append_iff.1 hbody with ⟨tail, rfl, hmore⟩ | ⟨tail, rfl, hmore⟩
      · cases tail with
        | nil =>
            have hself := hread []
            rw [List.append_nil] at hself
            simp [hself]
        | cons d tail =>
            -- The name would hold the dollar sign behind the text.
            obtain ⟨rfl, -⟩ := List.cons.inj hmore
            simp at hname
      · cases tail with
        | nil => simp [hread]
        | cons d tail =>
            obtain ⟨rfl, -⟩ := List.cons.inj hmore
            simp [hread]

theorem Span.token_ne_nil (s : Span) : s.token ≠ [] := List.cons_ne_nil _ _

theorem token?_eq_none {t : Text} (h : ¬ tokenStart <+: t) : token? t = none := by
  have hafter : Text.after? tokenStart t = none := Text.after?_eq_none_iff.2 h
  simp [token?, hafter]

/-! ## Plain text -/

/-- No token starts in the text when the other text stands behind it. -/
def Plain (t behind : Text) : Prop := ∀ k < t.length, token? (t.drop k ++ behind) = none

theorem plain_cons_iff {c : Char} {t behind : Text} :
    Plain (c :: t) behind ↔ token? (c :: (t ++ behind)) = none ∧ Plain t behind := by
  constructor
  · intro h
    exact ⟨h 0 (Nat.zero_lt_succ _), fun k hk => h (k + 1) (Nat.succ_lt_succ hk)⟩
  · rintro ⟨hhead, htail⟩ k hk
    cases k with
    | zero => exact hhead
    | succ k => exact htail k (Nat.lt_of_succ_lt_succ hk)

theorem Plain.take {t behind : Text} (h : Plain t behind) (n : Nat) : Plain t (behind.take n) := by
  intro k hk
  by_contra hread
  have hmore := token?_append_ne_none hread (behind.drop n)
  rw [List.append_assoc, List.take_append_drop] at hmore
  exact hmore (h k hk)

theorem plain_take_one_iff {t behind : Text} (hbehind : ∀ c ∈ behind.head?, c = '$') :
    Plain t (behind.take 1) ↔ Plain t behind := by
  refine ⟨fun h k hk => ?_, fun h => h.take 1⟩
  cases behind with
  | nil => exact h k hk
  | cons c behind =>
      obtain rfl := hbehind c rfl
      by_contra hread
      exact token?_append_dollar_ne_none (by simpa using hk) hread (h k hk)

theorem Plain.part {t behind : Text} (h : Plain t behind) (start length : Nat) :
    Plain ((t.drop start).take length)
      ((behind.drop (start - t.length)).take (length - (t.length - start))) := by
  intro k hk
  have hshort : start + k < t.length := by
    simp only [List.length_take, List.length_drop] at hk
    omega
  have hpart : ((t.drop start).take length).drop k ++
      (behind.drop (start - t.length)).take (length - (t.length - start)) =
        (t.drop (start + k) ++ behind).take (length - k) := by
    rw [List.take_append, List.drop_take, List.drop_drop, List.length_drop,
      Nat.sub_eq_zero_of_le (by omega : start ≤ t.length), List.drop_zero]
    congr 2
    omega
  by_contra hread
  rw [hpart] at hread
  have hmore := token?_append_ne_none hread ((t.drop (start + k) ++ behind).drop (length - k))
  rw [List.take_append_drop] at hmore
  exact hmore (h _ hshort)

theorem not_isPrefix_tokenStart {t behind : Text} (hne : t ≠ []) (ht : ¬ tokenStart <:+: t)
    (hbehind : ∀ c ∈ behind.head?, c = '$') : ¬ tokenStart <+: t ++ behind := by
  rintro ⟨rest, h⟩
  rcases List.append_eq_append_iff.1 h with ⟨tail, rfl, -⟩ | ⟨tail, hmark, hrest⟩
  · exact ht (List.prefix_append ..).isInfix
  · cases tail with
    | nil =>
        rw [List.append_nil] at hmark
        exact ht (hmark ▸ List.infix_rfl)
    | cons d tail =>
        obtain rfl := hbehind d (by simp [hrest])
        cases t with
        | nil => exact hne rfl
        | cons c t =>
            have hdollar : '$' ∈ ['f', 't', 'p', 'l', '-'] := by
              rw [(List.cons.inj hmark).2]
              simp
            revert hdollar
            decide

theorem plain_of_unmarked {t behind : Text} (ht : ¬ tokenStart <:+: t)
    (hbehind : ∀ c ∈ behind.head?, c = '$') : Plain t behind := fun k hk =>
  token?_eq_none (not_isPrefix_tokenStart (by simpa using hk)
    (fun h => ht (h.trans (List.drop_suffix k t).isInfix)) hbehind)

/-! ## Restoring -/

section

variable {spans : List Span}

theorem restoreSpans_known {t behind : Text} {token : Token} {s : Span}
    (h : token? t = some (token, behind)) (hs : spans[token.index]? = some s) :
    restoreSpans spans t = (restoreSpans spans behind).map (s.source ++ ·) := by
  obtain ⟨name, -, rfl, -⟩ := exists_name_of_token? h
  rw [restoreSpans]
  split
  · next heq =>
      rw [h] at heq
      cases heq
      simp only [hs]
  · next heq =>
      rw [h] at heq
      cases heq

theorem restoreSpans_unknown {t behind : Text} {token : Token}
    (h : token? t = some (token, behind)) (hs : spans[token.index]? = none) :
    restoreSpans spans t = .error ⟨token.index⟩ := by
  obtain ⟨name, -, rfl, -⟩ := exists_name_of_token? h
  rw [restoreSpans]
  split
  · next heq =>
      rw [h] at heq
      cases heq
      simp only [hs]
  · next heq =>
      rw [h] at heq
      cases heq

theorem restoreSpans_token_append {s : Span} (hs : spans[s.index]? = some s) (behind : Text) :
    restoreSpans spans (s.token ++ behind) = (restoreSpans spans behind).map (s.source ++ ·) :=
  restoreSpans_known (token?_token_append s behind) hs

theorem restoreSpans_cons {c : Char} {rest : Text} (h : token? (c :: rest) = none) :
    restoreSpans spans (c :: rest) = (restoreSpans spans rest).map (c :: ·) := by
  rw [restoreSpans]
  split
  · next heq =>
      rw [h] at heq
      cases heq
  · rfl

theorem restoreSpans_plain_append {t behind : Text} (h : Plain t behind) :
    restoreSpans spans (t ++ behind) = (restoreSpans spans behind).map (t ++ ·) := by
  induction t with
  | nil => cases h : restoreSpans spans behind <;> simp [h, Except.map]
  | cons c t ih =>
      obtain ⟨hhead, htail⟩ := plain_cons_iff.1 h
      rw [List.cons_append, restoreSpans_cons hhead, ih htail]
      cases restoreSpans spans behind <;> rfl

end

/-! ## Protected text -/

theorem protectBraces_append (t u : Text) :
    protectBraces (t ++ u) = protectBraces t ++ protectBraces u := List.map_append

@[simp] theorem length_protectBraces (t : Text) : (protectBraces t).length = t.length :=
  List.length_map _

theorem protectBrace_ne (c : Char) : protectBrace c ≠ '{' ∧ protectBrace c ≠ '}' := by
  unfold protectBrace openSentinel closeSentinel
  split
  · decide
  · split
    · decide
    · exact ⟨‹_›, ‹_›⟩

theorem protectBrace_eq_self {c : Char} (h : c ≠ '{' ∧ c ≠ '}') : protectBrace c = c := by
  rw [protectBrace, if_neg h.1, if_neg h.2]

theorem eq_of_protectBrace_eq {c d : Char} (h : protectBrace c = d)
    (hd : d ≠ openSentinel ∧ d ≠ closeSentinel) : c = d := by
  unfold protectBrace at h
  split at h
  · exact absurd h.symm hd.1
  · split at h
    · exact absurd h.symm hd.2
    · exact h

theorem restoreBrace_protectBrace (c : Char) : restoreBrace (protectBrace c) = restoreBrace c := by
  by_cases hopen : c = '{'
  · subst hopen
    decide
  · by_cases hclose : c = '}'
    · subst hclose
      decide
    · rw [protectBrace_eq_self ⟨hopen, hclose⟩]

theorem protectBraces_eq_self {t : Text} (h : '{' ∉ t ∧ '}' ∉ t) : protectBraces t = t := by
  have hchar : ∀ c ∈ t, protectBrace c = id c := fun c hc =>
    protectBrace_eq_self ⟨fun heq => h.1 (heq ▸ hc), fun heq => h.2 (heq ▸ hc)⟩
  rw [protectBraces, List.map_congr_left hchar, List.map_id]

theorem notMem_protectBraces (t : Text) : '{' ∉ protectBraces t ∧ '}' ∉ protectBraces t := by
  simp only [protectBraces, List.mem_map, not_exists, not_and]
  exact ⟨fun c _ => (protectBrace_ne c).1, fun c _ => (protectBrace_ne c).2⟩

theorem restoreBraces_protectBraces (t : Text) :
    restoreBraces (protectBraces t) = restoreBraces t := by
  simp [restoreBraces, protectBraces, restoreBrace_protectBrace]

theorem restoreBraces_eq_self {t : Text} (h : openSentinel ∉ t ∧ closeSentinel ∉ t) :
    restoreBraces t = t := by
  have hchar : ∀ c ∈ t, restoreBrace c = id c := fun c hc => by
    rw [restoreBrace, if_neg fun heq : c = openSentinel => h.1 (heq ▸ hc),
      if_neg fun heq : c = closeSentinel => h.2 (heq ▸ hc), id]
  rw [restoreBraces, List.map_congr_left hchar, List.map_id]

theorem restoreBrace_eq_dollar {c : Char} : restoreBrace c = '$' ↔ c = '$' := by
  unfold restoreBrace
  split
  · next h => simp [h, openSentinel]
  · split
    · next h => simp [h, closeSentinel]
    · rfl

theorem tokenStart_infix_protectBraces {t : Text} (h : tokenStart <:+: protectBraces t) :
    tokenStart <:+: t := by
  obtain ⟨u, hu, heq⟩ := List.infix_map_iff.1 h
  have hmark : openSentinel ∉ tokenStart ∧ closeSentinel ∉ tokenStart := by decide
  have hsentinel : ∀ c ∈ u, protectBrace c ≠ openSentinel ∧ protectBrace c ≠ closeSentinel := by
    intro c hc
    have hmem : protectBrace c ∈ tokenStart := heq ▸ List.mem_map_of_mem hc
    exact ⟨fun h => hmark.1 (h ▸ hmem), fun h => hmark.2 (h ▸ hmem)⟩
  have hself : u.map protectBrace = u.map id :=
    List.map_congr_left fun c hc => (eq_of_protectBrace_eq rfl (hsentinel c hc)).symm
  rw [heq, hself, List.map_id]
  exact hu

theorem notMem_token (s : Span) : '{' ∉ s.token ∧ '}' ∉ s.token := by
  have hdigits (c : Char) (hc : c.isDigit = false) : c ∉ Text.ofNat s.index := fun hmem => by
    rw [Nat.isDigit_of_mem_toDigits (by decide) (by decide) hmem] at hc
    cases hc
  have hletter : '{' ≠ s.form.letter ∧ '}' ≠ s.form.letter := by
    cases s.form <;> decide
  simp [Span.token, tokenStart, hdigits, hletter]

theorem protectBraces_token (s : Span) : protectBraces s.token = s.token :=
  protectBraces_eq_self (notMem_token s)

/-! ## Parts of a snapshot -/

/-- What a segment is in the text of a part of the template: braces in plain text are protected. -/
def Segment.guarded : Segment → Piece
  | chunk text _ => .text (protectBraces text)
  | span s => .placeholder s.toPlaceholder

/-- No plain text looks like a token, alone or with the dollar sign of the token behind it. -/
def Unforged : List Segment → Prop
  | [] => True
  | .chunk t _ :: more => Plain t ((more.flatMap Segment.snapshot).take 1) ∧ Unforged more
  | .span _ :: more => Unforged more

theorem head?_snapshot_of_apart {t : Text} {position : Nat} {more : List Segment}
    (h : (Segment.chunk t position :: more).IsChain fun a b => ¬ (a.isChunk ∧ b.isChunk)) :
    ∀ c ∈ (more.flatMap Segment.snapshot).head?, c = '$' := by
  cases more with
  | nil => simp
  | cons next more =>
      cases next with
      | chunk => exact absurd ⟨rfl, rfl⟩ ((List.isChain_cons.1 h).1 _ rfl)
      | span s => simp [Segment.snapshot, Span.token, tokenStart]

theorem unforged_chunk_iff {t : Text} {position : Nat} {more : List Segment}
    (hapart : (Segment.chunk t position :: more).IsChain fun a b => ¬ (a.isChunk ∧ b.isChunk)) :
    Unforged (.chunk t position :: more) ↔
      Plain t (more.flatMap Segment.snapshot) ∧ Unforged more := by
  rw [Unforged, plain_take_one_iff (head?_snapshot_of_apart hapart)]

theorem unforged_of_unmarked {segments : List Segment}
    (hunmarked : ∀ t position, .chunk t position ∈ segments → ¬ tokenStart <:+: t)
    (hapart : segments.IsChain fun a b => ¬ (a.isChunk ∧ b.isChunk)) : Unforged segments := by
  induction segments with
  | nil => trivial
  | cons s more ih =>
      have hmore := ih (fun t position ht => hunmarked t position (.tail _ ht)) hapart.tail
      cases s with
      | span s => exact hmore
      | chunk t position =>
          exact (unforged_chunk_iff hapart).2 ⟨plain_of_unmarked (hunmarked t position (.head _))
            (head?_snapshot_of_apart hapart), hmore⟩

theorem restoreSpans_flatMap_snapshot {spans : List Span} {segments : List Segment}
    (hknown : ∀ s, .span s ∈ segments → spans[s.index]? = some s)
    (hapart : segments.IsChain fun a b => ¬ (a.isChunk ∧ b.isChunk)) (h : Unforged segments) :
    restoreSpans spans (segments.flatMap Segment.snapshot) =
      .ok (segments.flatMap Segment.source) := by
  induction segments with
  | nil => rw [List.flatMap_nil, restoreSpans, List.flatMap_nil]
  | cons s more ih =>
      have hrest := ih (fun s hs => hknown s (.tail _ hs)) hapart.tail
      rw [List.flatMap_cons, List.flatMap_cons]
      cases s with
      | span s =>
          rw [Segment.snapshot, restoreSpans_token_append (hknown s (.head _)), hrest h]
          rfl
      | chunk t position =>
          obtain ⟨hplain, hmore⟩ := (unforged_chunk_iff hapart).1 h
          rw [Segment.snapshot, restoreSpans_plain_append hplain, hrest hmore]
          rfl

/-- Segments whose tokens are known and cannot be mistaken. -/
structure Restorable (spans : List Span) (segments : List Segment) : Prop where
  known : ∀ s, .span s ∈ segments → spans[s.index]? = some s
  unmarked : ∀ t position, .chunk t position ∈ segments → ¬ tokenStart <:+: t
  apart : segments.IsChain fun a b => ¬ (a.isChunk ∧ b.isChunk)

def Segment.shielded : Segment → Segment
  | chunk text position => .chunk (protectBraces text) position
  | span s => .span s

theorem protectBraces_flatMap_snapshot (segments : List Segment) :
    protectBraces (segments.flatMap Segment.snapshot) =
      (segments.map Segment.shielded).flatMap Segment.snapshot := by
  induction segments with
  | nil => rfl
  | cons s more ih =>
      rw [List.flatMap_cons, protectBraces_append, ih]
      cases s with
      | chunk => rfl
      | span s =>
          rw [Segment.snapshot, protectBraces_token]
          rfl

theorem printed_map_guarded (segments : List Segment) :
    printed (segments.map Segment.guarded) =
      (segments.map Segment.shielded).flatMap Segment.source := by
  rw [← printed_map_piece, List.map_map]
  refine congrArg printed (List.map_congr_left fun s _ => ?_)
  cases s <;> rfl

theorem Restorable.shielded {spans : List Span} {segments : List Segment}
    (h : Restorable spans segments) : Restorable spans (segments.map Segment.shielded) where
  known s hs := by
    obtain ⟨r, hr, heq⟩ := List.mem_map.1 hs
    cases r with
    | chunk => cases heq
    | span r =>
        cases heq
        exact h.known _ hr
  unmarked t position ht hmark := by
    obtain ⟨r, hr, heq⟩ := List.mem_map.1 ht
    cases r with
    | chunk u =>
        cases heq
        exact h.unmarked u position hr (tokenStart_infix_protectBraces hmark)
    | span => cases heq
  apart := by
    refine (List.isChain_map _).2 (h.apart.imp fun a b hapart => ?_)
    cases a <;> cases b <;> exact hapart

theorem restoreSpans_snapshot {spans : List Span} {segments : List Segment}
    (h : Restorable spans segments) :
    restoreSpans spans (protectBraces (segments.flatMap Segment.snapshot)) =
      .ok (printed (segments.map Segment.guarded)) := by
  have hshielded := h.shielded
  rw [protectBraces_flatMap_snapshot, printed_map_guarded]
  exact restoreSpans_flatMap_snapshot hshielded.known hshielded.apart
    (unforged_of_unmarked hshielded.unmarked hshielded.apart)

end Template

end Stencil
