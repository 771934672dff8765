import Stencil.Proofs.Text.Trimming
import Stencil.Proofs.Template.Settled

/-!
# Preprocessing twice

A second pass finds something to do only if the first one has brought it about: where a comment or
the tags of a literal block are taken out, their neighbours can form a new comment or a new block,
and a blank can come to an end of the text. Trimmed lines and escaped braces alone are settled by
one pass.
-/

namespace Stencil.Template

/-! ## Joined lines -/

theorem joinTrimmed_sublist (t : Text) : (joinTrimmed t).Sublist t := by
  refine .trans ?_ (Text.flatten_lines_sublist t)
  rw [joinTrimmed, ← List.flatMap_id]
  induction Text.lines t with
  | nil => exact .slnil
  | cons line more ih => exact (Text.strip_isInfix line).sublist.append ih

theorem isLineEnd_of_mem_joinTrimmed {t : Text} {c : Char} (hc : c ∈ joinTrimmed t) :
    Text.isLineEnd c = false := by
  obtain ⟨line, hline, hc⟩ := List.mem_flatMap.1 hc
  exact Text.isLineEnd_of_mem_lines hline ((Text.strip_isInfix line).subset hc)

theorem strip_joinTrimmed (t : Text) : Text.strip (joinTrimmed t) = joinTrimmed t := by
  unfold joinTrimmed
  induction Text.lines t with
  | nil => rfl
  | cons line more ih => exact Text.strip_append (Text.strip_strip line) ih

theorem joinTrimmed_eq_strip {t : Text} (h : ∀ c ∈ t, Text.isLineEnd c = false) :
    joinTrimmed t = Text.strip t := by
  cases t with
  | nil => rfl
  | cons c t => simp [joinTrimmed, Text.lines_eq_singleton (List.cons_ne_nil _ _) h]

/-! ## Characters that are kept -/

theorem ReplacesBlocks.forall_mem {opening closing : Text} {replacement f : Text → Text}
    {P : Char → Prop} (h : ReplacesBlocks opening closing replacement f) (hne : opening ≠ [])
    (hreplacement : ∀ u, (∀ c ∈ u, P c) → ∀ c ∈ replacement u, P c) {t : Text}
    (ht : ∀ c ∈ t, P c) : ∀ c ∈ f t, P c := by
  induction hn : t.length using Nat.strong_induction_on generalizing t with
  | h n ih =>
      subst hn
      cases t with
      | nil => simp [h.nil]
      | cons c t =>
          by_cases hstart : StartsBlock opening closing (c :: t)
          · obtain ⟨inside, behind, heq, hf⟩ := h.exists_block hstart
            have hlength := congrArg List.length heq
            have hopening : 0 < opening.length := List.length_pos_iff.2 hne
            simp only [List.length_append] at hlength
            rw [heq] at ht
            rw [hf]
            refine List.forall_mem_append.2
              ⟨hreplacement inside fun d hd => ht d (by simp [hd]), ?_⟩
            exact ih behind.length (by omega) (fun d hd => ht d (by simp [hd])) rfl
          · rw [h.char hstart]
            refine List.forall_mem_cons.2 ⟨ht c (.head _), ?_⟩
            exact ih t.length (Nat.lt_succ_self _) (fun d hd => ht d (.tail _ hd)) rfl

theorem forall_mem_protectEscaped {P : Char → Prop} (hopen : P openSentinel)
    (hclose : P closeSentinel) {t : Text} (ht : ∀ c ∈ t, P c) : ∀ c ∈ protectEscaped t, P c := by
  fun_induction protectEscaped t <;> simp_all

theorem forall_mem_preprocess {P : Char → Prop} (hopen : P openSentinel) (hclose : P closeSentinel)
    {t : Text} (ht : ∀ c ∈ t, P c) : ∀ c ∈ preprocess false t, P c := by
  have hprotect (u : Text) (hu : ∀ c ∈ u, P c) : ∀ c ∈ protectBraces u, P c := by
    intro c hc
    obtain ⟨d, hd, rfl⟩ := List.mem_map.1 hc
    unfold protectBrace
    split_ifs
    exacts [hopen, hclose, hu d hd]
  refine forall_mem_protectEscaped hopen hclose ?_
  refine replacesBlocks_protectLiterals.forall_mem (by decide) hprotect ?_
  exact replacesBlocks_removeComments.forall_mem (by decide) (by simp) ht

/-! ## Texts that a pass leaves alone -/

theorem length_preprocess_le (t : Text) : (preprocess false t).length ≤ t.length := by
  by_contra h
  have hsettled := settled_of_length_le (Nat.le_of_not_le h)
  rw [preprocess_of_settled hsettled] at h
  exact h (Nat.le_refl _)

theorem preprocess_true (t : Text) : preprocess true t = preprocess false (joinTrimmed t) := rfl

theorem preprocess_eq_self_iff {trim : Bool} {t : Text} :
    preprocess trim t = t ↔ (trim = true → joinTrimmed t = t) ∧ Settled t := by
  cases trim with
  | false =>
      simp only [Bool.false_eq_true, false_implies, true_and]
      exact ⟨fun h => settled_of_length_le (congrArg List.length h).ge, preprocess_of_settled⟩
  | true =>
      simp only [preprocess_true, true_implies]
      constructor
      · intro h
        -- Neither joining the lines nor what comes behind it has made the text shorter.
        have hlength := length_preprocess_le (joinTrimmed t)
        rw [h] at hlength
        have hjoined := (joinTrimmed_sublist t).eq_of_length_le hlength
        rw [hjoined] at h
        exact ⟨hjoined, settled_of_length_le (congrArg List.length h).ge⟩
      · rintro ⟨hjoined, hsettled⟩
        rw [hjoined, preprocess_of_settled hsettled]

/-! ## Escaped braces -/

theorem exists_append_of_protectEscaped {t a b : Text} (h : protectEscaped t = a ++ b) :
    ∃ s u, t = s ++ u ∧ protectEscaped s = a ∧ protectEscaped u = b := by
  fun_induction protectEscaped t generalizing a with
  | case1 =>
      obtain ⟨rfl, rfl⟩ := List.append_eq_nil_iff.1 h.symm
      exact ⟨[], [], rfl, rfl, rfl⟩
  | case2 rest ih =>
      rcases List.cons_eq_append_iff.1 h with ⟨rfl, rfl⟩ | ⟨a, rfl, hrest⟩
      · exact ⟨[], _, rfl, rfl, rfl⟩
      · obtain ⟨s, u, rfl, rfl, rfl⟩ := ih hrest
        exact ⟨'\\' :: '{' :: s, u, rfl, rfl, rfl⟩
  | case3 rest ih =>
      rcases List.cons_eq_append_iff.1 h with ⟨rfl, rfl⟩ | ⟨a, rfl, hrest⟩
      · exact ⟨[], _, rfl, rfl, rfl⟩
      · obtain ⟨s, u, rfl, rfl, rfl⟩ := ih hrest
        exact ⟨'\\' :: '}' :: s, u, rfl, rfl, rfl⟩
  | case4 c rest hopen hclose ih =>
      rcases List.cons_eq_append_iff.1 h with ⟨rfl, rfl⟩ | ⟨a, rfl, hrest⟩
      · exact ⟨[], _, rfl, rfl, protectEscaped.eq_4 c rest hopen hclose⟩
      · obtain ⟨s, u, rfl, rfl, rfl⟩ := ih hrest
        refine ⟨c :: s, u, rfl, protectEscaped_cons fun hc d hd => ?_, rfl⟩
        obtain ⟨more, rfl⟩ := List.head?_eq_some_iff.1 hd
        exact ⟨fun hd => hopen (more ++ u) hc (by rw [hd]; rfl),
          fun hd => hclose (more ++ u) hc (by rw [hd]; rfl)⟩

theorem protectEscaped_eq_self_of_notMem {t : Text} (hopen : openSentinel ∉ protectEscaped t)
    (hclose : closeSentinel ∉ protectEscaped t) : protectEscaped t = t := by
  fun_induction protectEscaped t <;> simp_all

theorem Encloses.of_protectEscaped {opening closing t : Text}
    (hopening : openSentinel ∉ opening ∧ closeSentinel ∉ opening)
    (hclosing : openSentinel ∉ closing ∧ closeSentinel ∉ closing)
    (h : Encloses opening closing (protectEscaped t)) : Encloses opening closing t := by
  obtain ⟨before, inside, behind, heq⟩ := h
  obtain ⟨front, behind', rfl, hfront, -⟩ := exists_append_of_protectEscaped heq
  obtain ⟨front, closing', rfl, hfront, hclosing'⟩ := exists_append_of_protectEscaped hfront
  obtain ⟨front, inside', rfl, hfront, -⟩ := exists_append_of_protectEscaped hfront
  obtain ⟨before', opening', rfl, -, hopening'⟩ := exists_append_of_protectEscaped hfront
  rw [← hclosing'] at hclosing
  rw [← hopening'] at hopening
  rw [protectEscaped_eq_self_of_notMem hclosing.1 hclosing.2] at hclosing'
  rw [protectEscaped_eq_self_of_notMem hopening.1 hopening.2] at hopening'
  exact ⟨before', inside', behind', by rw [hopening', hclosing']⟩

theorem settled_protectEscaped {t : Text} (hcomments : ¬ Encloses commentStart commentEnd t)
    (hliterals : ¬ Encloses literalStart literalEnd t) : Settled (protectEscaped t) where
  comments h := hcomments (h.of_protectEscaped (by decide) (by decide))
  literals h := hliterals (h.of_protectEscaped (by decide) (by decide))
  escapes := unescaped_protectEscaped t

theorem getLast?_protectEscaped {t : Text} {d : Char} (h : (protectEscaped t).getLast? = some d) :
    t.getLast? = some d ∨ d = openSentinel ∨ d = closeSentinel := by
  obtain ⟨front, hfront⟩ := List.getLast?_eq_some_iff.1 h
  obtain ⟨s, u, rfl, -, hu⟩ := exists_append_of_protectEscaped hfront
  by_cases hd : d = openSentinel ∨ d = closeSentinel
  · exact .inr hd
  · obtain ⟨hopen, hclose⟩ := not_or.1 hd
    have hself : protectEscaped u = u := protectEscaped_eq_self_of_notMem
      (by simpa [hu] using Ne.symm hopen) (by simpa [hu] using Ne.symm hclose)
    rw [← hself, hu, List.getLast?_concat]
    exact .inl rfl

theorem strip_protectEscaped {t : Text} (h : Text.strip t = t) :
    Text.strip (protectEscaped t) = protectEscaped t := by
  rw [Text.strip_eq_self_iff] at h ⊢
  constructor
  · intro d hd
    rcases head?_protectEscaped hd with hd | rfl | rfl
    exacts [h.1 d hd, by decide, by decide]
  · intro d hd
    rcases getLast?_protectEscaped hd with hd | rfl | rfl
    exacts [h.2 d hd, by decide, by decide]

/-! ## Two passes -/

theorem joinTrimmed_preprocess (source : Text) :
    joinTrimmed (preprocess true source) = Text.strip (preprocess true source) :=
  joinTrimmed_eq_strip (forall_mem_preprocess (by decide) (by decide) fun _ hc =>
    isLineEnd_of_mem_joinTrimmed hc)

theorem unescaped_preprocess (trim : Bool) (source : Text) : Unescaped (preprocess trim source) :=
  unescaped_protectEscaped _

theorem preprocess_preprocess_eq_iff {trim : Bool} {source : Text} :
    preprocess trim (preprocess trim source) = preprocess trim source ↔
      ¬ Encloses commentStart commentEnd (preprocess trim source) ∧
        ¬ Encloses literalStart literalEnd (preprocess trim source) ∧
        (trim = true → Text.strip (preprocess trim source) = preprocess trim source) := by
  have hjoined : (trim = true → joinTrimmed (preprocess trim source) = preprocess trim source) ↔
      (trim = true → Text.strip (preprocess trim source) = preprocess trim source) :=
    forall_congr' fun htrim => by rw [htrim, joinTrimmed_preprocess]
  rw [preprocess_eq_self_iff, hjoined]
  constructor
  · rintro ⟨htrimmed, hcomments, hliterals, -⟩
    exact ⟨hcomments, hliterals, htrimmed⟩
  · rintro ⟨hcomments, hliterals, htrimmed⟩
    exact ⟨htrimmed, hcomments, hliterals, unescaped_preprocess trim source⟩

/-- A second pass changes nothing exactly if the first one leaves no comment, no literal block and,
where lines are trimmed, no blank at an end. This is so if there is no comment and no literal
block to begin with. -/
theorem preprocess_preprocess_iff (trim : Bool) (source : Text) :
    (preprocess trim (preprocess trim source) = preprocess trim source ↔
      ¬ Encloses commentStart commentEnd (preprocess trim source) ∧
        ¬ Encloses literalStart literalEnd (preprocess trim source) ∧
        (trim = true → Text.strip (preprocess trim source) = preprocess trim source)) ∧
    (¬ Encloses commentStart commentEnd (if trim then joinTrimmed source else source) →
      ¬ Encloses literalStart literalEnd (if trim then joinTrimmed source else source) →
        preprocess trim (preprocess trim source) = preprocess trim source) := by
  refine ⟨preprocess_preprocess_eq_iff, fun hcomments hliterals => ?_⟩
  have hfirst : preprocess trim source =
      protectEscaped (if trim then joinTrimmed source else source) := by
    rw [preprocess, replacesBlocks_removeComments.eq_self hcomments,
      replacesBlocks_protectLiterals.eq_self hliterals]
  have hsettled := settled_protectEscaped hcomments hliterals
  rw [preprocess_preprocess_eq_iff, hfirst]
  refine ⟨hsettled.comments, hsettled.literals, ?_⟩
  rintro rfl
  exact strip_protectEscaped (strip_joinTrimmed source)

def escapedComment : Text := " \\\x7b*\n *\\\x7d ".toList

theorem preprocess_preprocess_iff_escapedComment :
    ¬ Encloses commentStart commentEnd (joinTrimmed escapedComment) ∧
      ¬ Encloses literalStart literalEnd (joinTrimmed escapedComment) ∧
      preprocess true (preprocess true escapedComment) = preprocess true escapedComment := by
  have hcomments : ¬ Encloses commentStart commentEnd (joinTrimmed escapedComment) :=
    fun h => absurd h.closing_infix (by decide +kernel)
  have hliterals : ¬ Encloses literalStart literalEnd (joinTrimmed escapedComment) :=
    fun h => absurd h.opening_infix (by decide +kernel)
  exact ⟨hcomments, hliterals,
    (preprocess_preprocess_iff true escapedComment).2 hcomments hliterals⟩

def dividedMark : Text := "\x7b\x7b**\x7d*x*\x7d".toList

theorem not_preprocess_preprocess_dividedMark :
    preprocess false dividedMark = "\x7b*x*\x7d".toList ∧
      preprocess false (preprocess false dividedMark) = [] := by
  decide +kernel

end Stencil.Template
