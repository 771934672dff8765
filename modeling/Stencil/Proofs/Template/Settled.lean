import Mathlib.Data.List.Chain
import Stencil.Template.Preprocess
import Stencil.Proofs.Text.Splitting

/-!
# Texts that preprocessing leaves alone

Every stage of preprocessing makes a text shorter or leaves it as it is, and it leaves alone exactly
the texts without a comment, a literal block or an escaped brace.
-/

namespace Stencil

namespace Template

/-! ## Blocks -/

def Encloses (opening closing t : Text) : Prop :=
  ∃ before inside behind, t = before ++ opening ++ inside ++ closing ++ behind

theorem Encloses.opening_infix {opening closing t : Text} (h : Encloses opening closing t) :
    opening <:+: t := by
  obtain ⟨before, inside, behind, rfl⟩ := h
  exact ⟨before, inside ++ closing ++ behind, by simp⟩

theorem Encloses.closing_infix {opening closing t : Text} (h : Encloses opening closing t) :
    closing <:+: t := by
  obtain ⟨before, inside, behind, rfl⟩ := h
  exact ⟨before ++ opening ++ inside, behind, rfl⟩

def StartsBlock (opening closing t : Text) : Prop :=
  ∃ body, Text.after? opening t = some body ∧ closing <:+: body

theorem encloses_cons_iff {opening closing t : Text} {c : Char} :
    Encloses opening closing (c :: t) ↔
      StartsBlock opening closing (c :: t) ∨ Encloses opening closing t := by
  constructor
  · rintro ⟨before, inside, behind, h⟩
    cases before with
    | nil =>
        refine .inl ⟨inside ++ closing ++ behind, ?_, inside, behind, rfl⟩
        rw [Text.after?_eq_some_iff, h]
        simp
    | cons d before =>
        obtain ⟨-, rfl⟩ := List.cons.inj h
        exact .inr ⟨before, inside, behind, rfl⟩
  · rintro (⟨body, hbody, inside, behind, rfl⟩ | ⟨before, inside, behind, rfl⟩)
    · exact ⟨[], inside, behind, by simpa using Text.after?_eq_some_iff.1 hbody⟩
    · exact ⟨c :: before, inside, behind, rfl⟩

/-- A function that looks for blocks from the left, replaces each up to the first closing mark and
keeps all other text. -/
structure ReplacesBlocks (opening closing : Text) (replacement : Text → Text)
    (f : Text → Text) : Prop where
  nil : f [] = []
  block : ∀ {t body inside behind}, Text.after? opening t = some body →
    Text.cut? closing body = some (inside, behind) → f t = replacement inside ++ f behind
  char : ∀ {c rest}, ¬ StartsBlock opening closing (c :: rest) → f (c :: rest) = c :: f rest

namespace ReplacesBlocks

variable {opening closing t : Text} {replacement f : Text → Text}

theorem eq_self (h : ReplacesBlocks opening closing replacement f)
    (ht : ¬ Encloses opening closing t) : f t = t := by
  induction t with
  | nil => exact h.nil
  | cons c t ih =>
      rw [encloses_cons_iff, not_or] at ht
      rw [h.char ht.1, ih ht.2]

theorem exists_block (h : ReplacesBlocks opening closing replacement f)
    (ht : StartsBlock opening closing t) :
    ∃ inside behind, t = opening ++ inside ++ closing ++ behind ∧
      f t = replacement inside ++ f behind := by
  obtain ⟨body, hbody, hclosing⟩ := ht
  cases hcut : Text.cut? closing body with
  | none => exact absurd hclosing (Text.cut?_eq_none_iff.1 hcut)
  | some found =>
      obtain ⟨inside, behind⟩ := found
      refine ⟨inside, behind, ?_, h.block hbody hcut⟩
      rw [Text.after?_eq_some_iff.1 hbody, Text.eq_append_of_cut? hcut]
      simp

theorem length_le (h : ReplacesBlocks opening closing replacement f) (hne : opening ≠ [])
    (hreplacement : ∀ t, (replacement t).length ≤ t.length) (t : Text) :
    (f t).length ≤ t.length := by
  induction hn : t.length using Nat.strong_induction_on generalizing t with
  | h n ih =>
      subst hn
      cases t with
      | nil => rw [h.nil]
      | cons c t =>
          by_cases ht : StartsBlock opening closing (c :: t)
          · obtain ⟨inside, behind, heq, hf⟩ := h.exists_block ht
            have hlength := congrArg List.length heq
            have hopening : 0 < opening.length := List.length_pos_iff.2 hne
            simp only [List.length_append] at hlength
            have hbehind := ih behind.length (by omega) behind rfl
            have hinside := hreplacement inside
            rw [hf, List.length_append]
            omega
          · rw [h.char ht, List.length_cons, List.length_cons]
            exact Nat.succ_le_succ (ih t.length (Nat.lt_succ_self _) t rfl)

theorem length_lt (h : ReplacesBlocks opening closing replacement f) (hne : opening ≠ [])
    (hreplacement : ∀ t, (replacement t).length ≤ t.length) (ht : Encloses opening closing t) :
    (f t).length < t.length := by
  induction t with
  | nil =>
      obtain ⟨before, inside, behind, h⟩ := ht
      simp [hne] at h
  | cons c t ih =>
      by_cases hstart : StartsBlock opening closing (c :: t)
      · obtain ⟨inside, behind, heq, hf⟩ := h.exists_block hstart
        have hlength := congrArg List.length heq
        have hopening : 0 < opening.length := List.length_pos_iff.2 hne
        have hinside := hreplacement inside
        have hbehind := h.length_le hne hreplacement behind
        simp only [List.length_append] at hlength
        rw [hf, List.length_append]
        omega
      · rw [h.char hstart, List.length_cons, List.length_cons]
        exact Nat.succ_lt_succ (ih ((encloses_cons_iff.1 ht).resolve_left hstart))

end ReplacesBlocks

/-! ## Comments and literal blocks -/

def commentStart : Text := ['{', '*']

theorem replacesBlocks_removeComments :
    ReplacesBlocks commentStart commentEnd (fun _ => []) removeComments where
  nil := by rw [removeComments]
  block := by
    intro t body inside behind hbody hcut
    obtain rfl := Text.after?_eq_some_iff.1 hbody
    simp only [commentStart, List.cons_append, List.nil_append, removeComments]
    split <;> simp_all
  char := by
    intro c rest hstart
    rw [removeComments.eq_def]
    split
    · next heq => cases heq
    · next body heq =>
        cases heq
        split
        · next hcut => exact absurd ⟨body, rfl, Text.infix_of_cut? hcut⟩ hstart
        · rfl
    · next heq =>
        cases heq
        rfl

theorem replacesBlocks_protectLiterals :
    ReplacesBlocks literalStart literalEnd protectBraces protectLiterals where
  nil := by rw [protectLiterals]
  block := by
    intro t body inside behind hbody hcut
    rw [protectLiterals.eq_def]
    split
    · cases hbody
    · split
      · split <;> simp_all
      · simp_all
  char := by
    intro c rest hstart
    rw [protectLiterals]
    split
    · next body hbody =>
        split
        · next hcut => exact absurd ⟨body, hbody, Text.infix_of_cut? hcut⟩ hstart
        · rfl
    · rfl

/-! ## Escaped braces -/

def Unescaped (t : Text) : Prop := t.IsChain fun c d => c = '\\' → d ≠ '{' ∧ d ≠ '}'

instance : DecidablePred Unescaped := fun t =>
  inferInstanceAs (Decidable (t.IsChain fun c d => c = '\\' → d ≠ '{' ∧ d ≠ '}'))

theorem unescaped_of_notMem {t : Text} (h : '{' ∉ t ∧ '}' ∉ t) : Unescaped t := by
  refine List.Pairwise.isChain (List.pairwise_of_forall_mem_list fun c _ d hd _ => ?_)
  exact ⟨fun heq => h.1 (heq ▸ hd), fun heq => h.2 (heq ▸ hd)⟩

theorem protectEscaped_cons {c : Char} {t : Text}
    (h : c = '\\' → ∀ d ∈ t.head?, d ≠ '{' ∧ d ≠ '}') :
    protectEscaped (c :: t) = c :: protectEscaped t := by
  rw [protectEscaped]
  · rintro rest hc rfl
    exact (h hc _ rfl).1 rfl
  · rintro rest hc rfl
    exact (h hc _ rfl).2 rfl

theorem protectEscaped_eq_self {t : Text} (h : Unescaped t) : protectEscaped t = t := by
  fun_induction protectEscaped t with
  | case1 => rfl
  | case2 rest ih => exact absurd (List.isChain_cons_cons.1 h).1 (by simp)
  | case3 rest ih => exact absurd (List.isChain_cons_cons.1 h).1 (by simp)
  | case4 c rest _ _ ih => rw [ih h.tail]

theorem length_protectEscaped_le (t : Text) : (protectEscaped t).length ≤ t.length := by
  fun_induction protectEscaped t <;> grind

theorem length_protectEscaped_lt {t : Text} (h : ¬ Unescaped t) :
    (protectEscaped t).length < t.length := by
  fun_induction protectEscaped t with
  | case1 => exact absurd .nil h
  | case2 rest ih =>
      have := length_protectEscaped_le rest
      simp only [List.length_cons]
      omega
  | case3 rest ih =>
      have := length_protectEscaped_le rest
      simp only [List.length_cons]
      omega
  | case4 c rest hopen hclose ih =>
      have hrest : ¬ Unescaped rest := by
        intro hrest
        refine h (List.isChain_cons.2 ⟨fun d hd hc => ?_, hrest⟩)
        obtain ⟨more, rfl⟩ := List.head?_eq_some_iff.1 hd
        exact ⟨fun hd => hopen more hc (hd ▸ rfl), fun hd => hclose more hc (hd ▸ rfl)⟩
      exact Nat.succ_lt_succ (ih hrest)

theorem head?_protectEscaped {t : Text} {d : Char} (h : (protectEscaped t).head? = some d) :
    t.head? = some d ∨ d = openSentinel ∨ d = closeSentinel := by
  fun_induction protectEscaped t <;> simp_all [eq_comm]

theorem unescaped_protectEscaped (t : Text) : Unescaped (protectEscaped t) := by
  fun_induction protectEscaped t with
  | case1 => exact .nil
  | case2 rest ih => exact List.isChain_cons.2 ⟨fun d hd hc => absurd hc (by decide), ih⟩
  | case3 rest ih => exact List.isChain_cons.2 ⟨fun d hd hc => absurd hc (by decide), ih⟩
  | case4 c rest hopen hclose ih =>
      refine List.isChain_cons.2 ⟨fun d hd hc => ?_, ih⟩
      rcases head?_protectEscaped hd with hd | rfl | rfl
      · obtain ⟨more, rfl⟩ := List.head?_eq_some_iff.1 hd
        exact ⟨fun hd => hopen more hc (hd ▸ rfl), fun hd => hclose more hc (hd ▸ rfl)⟩
      · decide
      · decide

/-! ## Settled texts -/

/-- Preprocessing finds nothing to do in the text, lines apart. -/
structure Settled (t : Text) : Prop where
  comments : ¬ Encloses commentStart commentEnd t
  literals : ¬ Encloses literalStart literalEnd t
  escapes : Unescaped t

theorem preprocess_of_settled {t : Text} (h : Settled t) : preprocess false t = t := by
  simp only [preprocess, Bool.false_eq_true, if_false]
  rw [replacesBlocks_removeComments.eq_self h.comments,
    replacesBlocks_protectLiterals.eq_self h.literals, protectEscaped_eq_self h.escapes]

theorem settled_of_length_le {t : Text} (h : t.length ≤ (preprocess false t).length) :
    Settled t := by
  simp only [preprocess, Bool.false_eq_true, if_false] at h
  have hcomment : commentStart ≠ [] := by simp [commentStart]
  have hliteral : literalStart ≠ [] := by simp [literalStart]
  have hremoved : ∀ u : Text, ([] : Text).length ≤ u.length := fun _ => Nat.zero_le _
  have hprotected : ∀ u : Text, (protectBraces u).length ≤ u.length := by simp [protectBraces]
  have hescapes := length_protectEscaped_le (protectLiterals (removeComments t))
  have hliterals :=
    replacesBlocks_protectLiterals.length_le hliteral hprotected (removeComments t)
  have hcomments := replacesBlocks_removeComments.length_le hcomment hremoved t
  -- Once a stage has nothing to do, what comes behind it works on the text itself.
  have noComments : ¬ Encloses commentStart commentEnd t := by
    intro hblock
    have := replacesBlocks_removeComments.length_lt hcomment hremoved hblock
    omega
  rw [replacesBlocks_removeComments.eq_self noComments] at h hescapes hliterals
  have noLiterals : ¬ Encloses literalStart literalEnd t := by
    intro hblock
    have := replacesBlocks_protectLiterals.length_lt hliteral hprotected hblock
    omega
  rw [replacesBlocks_protectLiterals.eq_self noLiterals] at h
  refine ⟨noComments, noLiterals, ?_⟩
  by_contra hescaped
  have := length_protectEscaped_lt hescaped
  omega

end Template

end Stencil
