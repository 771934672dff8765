import Stencil.Proofs.Template.Partition
import Stencil.Proofs.Template.Settled

/-!
# Reading back printed segments

Segments are written one after the other. If strings and braces in the placeholders are closed, if
plain text has no braces and does not lend a placeholder its sigil, and if nothing in the result
asks for preprocessing, then extraction gives the same segments again.
-/

namespace Stencil.Template

/-! ## Closed strings and balanced braces -/

/-- The rest of a string behind its opening quote. A backslash takes the next character along. -/
inductive StringTail (quote : Char) : Text → Prop
  | close : StringTail quote [quote]
  | escape (c : Char) {t : Text} (rest : StringTail quote t) : StringTail quote ('\\' :: c :: t)
  | char {c : Char} {t : Text} (backslash : c ≠ '\\') (inside : c ≠ quote)
      (rest : StringTail quote t) : StringTail quote (c :: t)

/-- Every string is closed, and the braces outside of strings are balanced and at most so deep. -/
inductive Balanced : Nat → Text → Prop
  | nil {depth : Nat} : Balanced depth []
  | char {depth : Nat} {c : Char} {t : Text} (brace : c ≠ '{' ∧ c ≠ '}') (quote : isQuote c = false)
      (rest : Balanced depth t) : Balanced depth (c :: t)
  | string {depth : Nat} {quote : Char} {s t : Text} (opens : isQuote quote = true)
      (tail : StringTail quote s) (rest : Balanced depth t) : Balanced depth (quote :: (s ++ t))
  | braces {depth : Nat} {s t : Text} (inside : Balanced depth s) (rest : Balanced (depth + 1) t) :
      Balanced (depth + 1) ('{' :: (s ++ '}' :: t))

theorem readBefore_nil (r : Option (Text × Text)) : readBefore [] r = r := by
  cases r <;> rfl

theorem readBefore_append (first second : Text) (r : Option (Text × Text)) :
    readBefore first (readBefore second r) = readBefore (first ++ second) r := by
  cases r <;> simp [readBefore]

theorem isQuote_iff {c : Char} : isQuote c = true ↔ c = '\x27' ∨ c = '\x22' := by
  simp [isQuote]

section

variable {limit : Option Nat} {depth : Nat}

theorem StringTail.scanFrom_append {quote : Char} {s : Text} (h : StringTail quote s)
    (hquote : isQuote quote = true) (rest : Text) :
    scanFrom limit depth (some quote) (s ++ rest) =
      readBefore s (scanFrom limit depth none rest) := by
  induction h with
  | close =>
      have hbackslash : quote ≠ '\\' := by
        rcases isQuote_iff.1 hquote with rfl | rfl <;> decide
      simp [scanFrom]
  | escape c _ ih => simp [scanFrom, ih, readBefore_append]
  | char backslash inside _ ih => simp [scanFrom, inside, ih, readBefore_append]

theorem Balanced.scanFrom_append {n : Nat} {t : Text} (h : Balanced n t) (hdepth : 0 < depth)
    (hlimit : ∀ l ∈ limit, depth + n ≤ l) (rest : Text) :
    scanFrom limit depth none (t ++ rest) = readBefore t (scanFrom limit depth none rest) := by
  induction h generalizing depth rest with
  | nil => rw [List.nil_append, readBefore_nil]
  | char brace quote _ ih =>
      simp [scanFrom, brace, quote, ih hdepth hlimit, readBefore_append]
  | string opens tail _ ih =>
      simp [scanFrom, opens, hdepth, tail.scanFrom_append opens, ih hdepth hlimit,
        readBefore_append]
  | @braces n s t _ _ ihs iht =>
      have hbelow : limit.any (· < depth + 1) = false := by
        cases limit with
        | none => rfl
        | some l =>
            have hl := hlimit l rfl
            simpa using show depth + 1 ≤ l by omega
      have hopen : scanFrom limit depth none ('{' :: (s ++ '}' :: t) ++ rest) =
          readBefore ['{'] (scanFrom limit (depth + 1) none (s ++ '}' :: (t ++ rest))) := by
        rw [List.cons_append, List.append_assoc, List.cons_append, scanFrom_open, hbelow]
        rfl
      have hclose : scanFrom limit (depth + 1) none ('}' :: (t ++ rest)) =
          readBefore ['}'] (scanFrom limit depth none (t ++ rest)) := by
        simp [scanFrom, isQuote, hdepth.ne']
      rw [hopen, ihs (Nat.succ_pos _) (fun l hl => by have := hlimit l hl; omega), hclose,
        iht hdepth hlimit]
      simp [readBefore_append]

end

/-! ## Well-formed placeholders -/

def Placeholder.WellFormed (p : Placeholder) : Prop :=
  match p.form with
  | .single => p.inner ≠ [] ∧ p.inner.head? ≠ some '{' ∧ Balanced 1 p.inner
  | .double => ∃ depth, Balanced depth p.inner

theorem Placeholder.WellFormed.delimited {p : Placeholder} (h : p.WellFormed) : p.Delimited := by
  obtain ⟨form, valueSigil, inner⟩ := p
  cases form with
  | single =>
      obtain ⟨hne, hhead, hinner⟩ := h
      have hscan : scanFrom (some singleLimit) 1 none (inner ++ ['}']) =
          readBefore inner (some (['}'], [])) :=
        hinner.scanFrom_append Nat.one_pos (by simp [singleLimit]) ['}']
      refine ⟨hne, ?_, ?_⟩
      · have hopen : balanced? (some singleLimit) ('{' :: inner ++ ['}']) =
            readBefore ['{'] (scanFrom (some singleLimit) 1 none (inner ++ ['}'])) := by
          simp [balanced?, scanFrom, isQuote, singleLimit]
        rw [Placeholder.braced, hopen, hscan]
        rfl
      · rintro rest heq
        obtain rfl : inner = '{' :: rest ++ ['}'] := heq
        exact hhead rfl
  | double =>
      obtain ⟨depth, hinner⟩ := h
      have hscan : scanFrom none 2 none (inner ++ ['}', '}']) =
          readBefore inner (some (['}', '}'], [])) :=
        hinner.scanFrom_append Nat.two_pos (by simp) ['}', '}']
      have hopen : balanced? none ('{' :: '{' :: inner ++ ['}', '}']) =
          readBefore ['{', '{'] (scanFrom none 2 none (inner ++ ['}', '}'])) := by
        simp [balanced?, scanFrom, isQuote, readBefore_append]
      rw [Placeholder.Delimited, Placeholder.braced, hopen, hscan]
      rfl

/-! ## Well-formed streams -/

/-- A stream of segments that can be written. -/
structure WellFormed (pieces : List Piece) : Prop where
  texts : ∀ t, .text t ∈ pieces → t ≠ [] ∧ '{' ∉ t ∧ '}' ∉ t
  placeholders : ∀ p, .placeholder p ∈ pieces → p.WellFormed
  apart : pieces.IsChain Piece.MayPrecede

theorem WellFormed.legible {pieces : List Piece} (h : WellFormed pieces) : Legible pieces where
  placeholders p hp := (h.placeholders p hp).delimited
  texts t ht := ⟨(h.texts t ht).1, (h.texts t ht).2.1⟩
  apart := h.apart

theorem settled_of_marks_absent {t : Text} (hcomment : ¬ commentStart <:+: t)
    (hliteral : ¬ literalStart <:+: t) (hescape : Unescaped t) : Settled t where
  comments h := hcomment h.opening_infix
  literals h := hliteral h.opening_infix
  escapes := hescape

/-- Segments with the numbers and positions that they have as the segments of one text. -/
def renumber (segments : List Segment) : List Segment := number 0 0 (segments.map Segment.piece)

theorem extract_printed {segments : List Segment}
    (h : WellFormed (segments.map Segment.piece))
    (hcomment : ¬ commentStart <:+: segments.flatMap Segment.source)
    (hliteral : ¬ literalStart <:+: segments.flatMap Segment.source)
    (hescape : Unescaped (segments.flatMap Segment.source)) :
    (extract false (segments.flatMap Segment.source)).segments = renumber segments := by
  have hsettled := settled_of_marks_absent hcomment hliteral hescape
  have hsplit := split_printed h.legible.canonical
  rw [printed_map_piece] at hsplit
  rw [extract, preprocess_of_settled hsettled, hsplit, renumber]

def mixedForms : List Segment := [
  .chunk ['a', '$'] 7,
  .span ⟨⟨.double, true, ['{', '\x22', '}', '\x22', '}']⟩, 3, 0⟩,
  .span ⟨⟨.single, false, ['x', '{', '\x27', '\\', '\x27', '}', '\x27', '}']⟩, 3, 5⟩,
  .chunk ['$'] 0]

theorem extract_printed_mixedForms :
    WellFormed (mixedForms.map Segment.piece) ∧
      (extract false (mixedForms.flatMap Segment.source)).segments = renumber mixedForms := by
  have hdouble : Balanced 1 ['{', '\x22', '}', '\x22', '}'] :=
    .braces (.string rfl (.char (by decide) (by decide) .close) .nil) .nil
  have hsingle : Balanced 1 ['x', '{', '\x27', '\\', '\x27', '}', '\x27', '}'] :=
    .char (by decide) rfl
      (.braces (.string rfl (.escape _ (.char (by decide) (by decide) .close)) .nil) .nil)
  have hwell : WellFormed (mixedForms.map Segment.piece) := by
    refine ⟨by simp [mixedForms, Segment.piece], fun p hp => ?_,
      by simp [mixedForms, Segment.piece, Piece.MayPrecede]⟩
    obtain rfl | rfl := by simpa [mixedForms, Segment.piece] using hp
    · exact ⟨1, hdouble⟩
    · exact ⟨by decide, by decide, hsingle⟩
  exact ⟨hwell, extract_printed hwell (by decide) (by decide) (by decide)⟩

end Stencil.Template
