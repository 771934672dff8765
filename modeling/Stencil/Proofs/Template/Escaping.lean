import Stencil.Template.Run
import Stencil.Proofs.Template.Verbatim

/-!
# Escaped text

Text with a backslash before every brace is written out as the text itself. What looks like a
comment, a literal block or a placeholder in it is none, since each of these ends in a brace that is
not escaped.
-/

namespace Stencil.Template

/-! ## Escaping every brace -/

def escapeBraces (t : Text) : Text :=
  t.flatMap fun c => if c = '{' ∨ c = '}' then ['\\', c] else [c]

theorem escapeBraces_cons_brace {c : Char} (hc : c = '{' ∨ c = '}') (t : Text) :
    escapeBraces (c :: t) = '\\' :: c :: escapeBraces t := by
  rw [escapeBraces, List.flatMap_cons, if_pos hc]
  rfl

theorem escapeBraces_cons {c : Char} (hc : ¬ (c = '{' ∨ c = '}')) (t : Text) :
    escapeBraces (c :: t) = c :: escapeBraces t := by
  rw [escapeBraces, List.flatMap_cons, if_neg hc]
  rfl

theorem head?_escapeBraces (t : Text) : ∀ d ∈ (escapeBraces t).head?, d ≠ '{' ∧ d ≠ '}' := by
  cases t with
  | nil => simp [escapeBraces]
  | cons c t =>
      by_cases hc : c = '{' ∨ c = '}'
      · rw [escapeBraces_cons_brace hc]
        rintro d ⟨⟩
        decide
      · rw [escapeBraces_cons hc]
        rintro d ⟨⟩
        exact not_or.1 hc

theorem isChain_escapeBraces (t : Text) :
    (escapeBraces t).IsChain fun c d => d = '}' → c = '\\' := by
  induction t with
  | nil => exact .nil
  | cons c t ih =>
      have hnext (e : Char) : ∀ d ∈ (escapeBraces t).head?, d = '}' → e = '\\' := fun d hd h =>
        absurd h (head?_escapeBraces t d hd).2
      by_cases hc : c = '{' ∨ c = '}'
      · rw [escapeBraces_cons_brace hc]
        exact List.isChain_cons_cons.2 ⟨fun _ => rfl, List.isChain_cons.2 ⟨hnext c, ih⟩⟩
      · rw [escapeBraces_cons hc]
        exact List.isChain_cons.2 ⟨hnext c, ih⟩

theorem not_isInfix_escapeBraces {mark t : Text}
    (hmark : ¬ mark.IsChain fun c d => d = '}' → c = '\\') : ¬ mark <:+: escapeBraces t := fun h =>
  hmark <| List.IsChain.infix (isChain_escapeBraces t) h

theorem protectEscaped_escapeBraces (t : Text) :
    protectEscaped (escapeBraces t) = protectBraces t := by
  induction t with
  | nil => rfl
  | cons c t ih =>
      by_cases hc : c = '{' ∨ c = '}'
      · rw [escapeBraces_cons_brace hc]
        rcases hc with rfl | rfl <;> rw [protectEscaped, ih] <;> rfl
      · rw [escapeBraces_cons hc, protectEscaped_cons fun _ => head?_escapeBraces t, ih,
          protectBraces, protectBraces, List.map_cons, protectBrace_eq_self (not_or.1 hc)]

theorem preprocess_escapeBraces (t : Text) :
    preprocess false (escapeBraces t) = protectBraces t := by
  -- Comments and the start of a literal block end in a closing brace without a backslash.
  have hcomments : ¬ Encloses commentStart commentEnd (escapeBraces t) := fun h =>
    not_isInfix_escapeBraces (by decide) h.closing_infix
  have hliterals : ¬ Encloses literalStart literalEnd (escapeBraces t) := fun h =>
    not_isInfix_escapeBraces (by decide) h.opening_infix
  rw [preprocess_false, replacesBlocks_removeComments.eq_self hcomments,
    replacesBlocks_protectLiterals.eq_self hliterals, protectEscaped_escapeBraces]

/-! ## Writing a text out -/

def Program.ofText (t : Text) : Program := if t = [] then [] else [.literal t]

theorem generate_escapeBraces {m : Type → Type} [Monad m] [LawfulMonad m]
    (handler : IncludeHandler m) {t : Text} (hopen : openSentinel ∉ t)
    (hclose : closeSentinel ∉ t) :
    generate handler (extract false (escapeBraces t)).segments = pure (Program.ofText t) := by
  have hpre : preprocess false (escapeBraces t) = protectBraces t ++ [] := by
    rw [preprocess_escapeBraces, List.append_nil]
  have hunmarked : Unmarked (protectBraces t) [] :=
    unmarked_of_notMem (notMem_protectBraces t).1 (by simp)
  rw [generate_of_preprocess_eq handler hopen hclose hpre hunmarked, split, number, generate,
    map_pure]
  rfl

theorem compile_ofText (template : Text) (number : Nat) (t : Text) :
    compile template number (Program.ofText t) =
      .ok (⟨template, Program.ofText t, .empty, []⟩, number) := by
  unfold Program.ofText
  split <;> rfl

theorem run_ofText (ev : Evaluator) {steps : Nat} (hsteps : 1 < steps) (globals : Names)
    (s : Setting) (template t : Text) (h : Heap) :
    run ev steps globals s ⟨template, Program.ofText t, .empty, []⟩ h =
      .done (.ok t) ⟨h, startNames globals s⟩ := by
  obtain ⟨n, rfl⟩ : ∃ n, steps = n + 2 := ⟨steps - 2, by omega⟩
  unfold Program.ofText
  split
  · next ht =>
      subst ht
      rfl
  · -- One step writes the text, and the next one finds the end of the program.
    have hrun : run ev (n + 2) globals s ⟨template, [.literal t], .empty, []⟩ h =
        .done (.ok (t ++ [])) ⟨h, startNames globals s⟩ := rfl
    rwa [List.append_nil] at hrun

/-- Text whose braces are all escaped is rendered as it is, whatever it looks like, and nothing else
happens. -/
theorem escapeBraces_rendered {t : Text} (hopen : openSentinel ∉ t) (hclose : closeSentinel ∉ t) :
    (∀ (m : Type → Type) [Monad m] [LawfulMonad m] (handler : IncludeHandler m),
      generate handler (extract false (escapeBraces t)).segments = pure (Program.ofText t)) ∧
    ∀ (template : Text) (number : Nat), ∃ compiled,
      compile template number (Program.ofText t) = .ok (compiled, number) ∧
      ∀ (ev : Evaluator) (steps : Nat) (globals : Names) (s : Setting) (h : Heap), 1 < steps →
        run ev steps globals s compiled h = .done (.ok t) ⟨h, startNames globals s⟩ :=
  ⟨fun _ _ _ handler => generate_escapeBraces handler hopen hclose, fun template number =>
    ⟨_, compile_ofText template number t, fun ev _ globals s h hsteps =>
      run_ofText ev hsteps globals s template t h⟩⟩

/-- A comment, the start of a literal block, a backslash before a placeholder, a quote and a dollar
sign before a brace. -/
def lookalikes : Text :=
  "\x7b* a *\x7d\x7bliteral\x7d\\\x7b$x\x7d".toList ++ ['\x27', '$', '{']

theorem escapeBraces_rendered_lookalikes :
    openSentinel ∉ lookalikes ∧ closeSentinel ∉ lookalikes ∧
      ∃ compiled, compile [] 0 (programOf (escapeBraces lookalikes)) = .ok (compiled, 0) ∧
        run (.standard 1) 2 [] ⟨.none, 0⟩ compiled {} =
          .done (.ok lookalikes) ⟨{}, startNames [] ⟨.none, 0⟩⟩ := by
  have hopen : openSentinel ∉ lookalikes := by decide +kernel
  have hclose : closeSentinel ∉ lookalikes := by decide +kernel
  obtain ⟨hprogram, hcompile⟩ := escapeBraces_rendered hopen hclose
  obtain ⟨compiled, hcompiled, hrun⟩ := hcompile [] 0
  have hsource : programOf (escapeBraces lookalikes) = Program.ofText lookalikes :=
    hprogram Id none
  exact ⟨hopen, hclose, compiled, by rw [hsource, hcompiled], hrun _ 2 _ _ _ Nat.one_lt_two⟩

end Stencil.Template
