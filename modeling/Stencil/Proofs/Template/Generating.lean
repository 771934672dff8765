import Stencil.Template.Generate

/-!
# Generation segment by segment

What single segments become, if includes are rendered.
-/

namespace Stencil.Template

variable {m : Type → Type} [Monad m] {markup : Text → m Text} {s : Span}

def Directive.isInclude : Directive → Bool
  | .include _ => true
  | _ => false

theorem Segment.generate_span_include {name : Text} (h : s.classify = .include name) :
    (Segment.span s).generate (some markup) = do return [.literal (← markup name)] := by
  unfold Segment.generate
  simp only [h]

theorem Segment.generate_span {handler : IncludeHandler m} (h : s.classify.isInclude = false) :
    (Segment.span s).generate handler = pure (s.classify.instruction? s.source).toList := by
  unfold Segment.generate
  cases hclassify : s.classify <;> simp_all [Directive.isInclude]

/-- What holds of everything that does nothing, goes on from one part to the next and can be done
for includes holds of generating a program. -/
theorem generate_closed {P : {α : Type} → m α → Prop}
    (hpure : ∀ {α : Type} (a : α), P (pure a))
    (hbind : ∀ {α β : Type} {x : m α} {f : α → m β}, P x → (∀ a, P (f a)) → P (x >>= f))
    {handler : Text → m Text} (hhandler : ∀ name, P (handler name)) (segments : List Segment) :
    P (generate (some handler) segments) := by
  have hsegment (segment : Segment) : P (segment.generate (some handler)) := by
    cases segment with
    | chunk text position => exact hpure _
    | span s =>
        cases hclassify : s.classify with
        | «include» name =>
            rw [Segment.generate_span_include hclassify]
            exact hbind (hhandler name) fun _ => hpure _
        | _ =>
            rw [Segment.generate_span (by rw [hclassify]; rfl)]
            exact hpure _
  induction segments with
  | nil => exact hpure _
  | cons segment more ih => exact hbind (hsegment segment) fun _ => hbind ih fun _ => hpure _

/-! ## No includes -/

def Segment.isInclude : Segment → Bool
  | .chunk .. => false
  | .span s => s.classify.isInclude

def Directive.included? : Directive → Option Text
  | .include name => some name
  | _ => none

def Segment.included? : Segment → Option Text
  | .chunk .. => none
  | .span s => s.classify.included?

theorem Segment.generate_of_isInclude_eq_false {segment : Segment}
    (h : segment.isInclude = false) :
    segment.generate (some markup) = pure (segment.generate (m := Id) none) := by
  cases segment with
  | chunk text position => rfl
  | span s =>
    rw [generate_span h, generate_span h]
    rfl

theorem generate_of_all_isInclude_eq_false [LawfulMonad m] {segments : List Segment}
    (h : ∀ segment ∈ segments, segment.isInclude = false) :
    generate (some markup) segments = pure (generate (m := Id) none segments) := by
  induction segments with
  | nil => rfl
  | cons segment more ih =>
    rw [generate, Segment.generate_of_isInclude_eq_false (h segment (.head _)), pure_bind,
      ih fun segment hmem => h segment (.tail _ hmem), pure_bind]
    rfl

/-! ## Includes that give no text -/

section

variable {ε : Type} {texts : Text → Except ε Text} {pre post : List Segment}

def IncludesGiven (texts : Text → Except ε Text) (segments : List Segment) : Prop :=
  ∀ s name, .span s ∈ segments → s.classify = .include name → ∃ text, texts name = .ok text

theorem Segment.exists_generate {segment : Segment} (h : IncludesGiven texts [segment]) :
    ∃ program, segment.generate (m := Except ε) (some texts) = .ok program := by
  cases segment with
  | chunk text position => exact ⟨_, rfl⟩
  | span s =>
    cases hclassify : s.classify with
    | «include» name =>
      obtain ⟨text, htext⟩ := h s name (.head _) hclassify
      rw [generate_span_include hclassify, htext]
      exact ⟨_, rfl⟩
    | _ =>
      rw [generate_span (by rw [hclassify]; rfl)]
      exact ⟨_, rfl⟩

theorem generate_eq_error {name : Text} {failure : ε} (hpre : IncludesGiven texts pre)
    (hs : s.classify = .include name) (hfail : texts name = .error failure) :
    generate (m := Except ε) (some texts) (pre ++ .span s :: post) = .error failure := by
  induction pre with
  | nil =>
    rw [List.nil_append, generate, Segment.generate_span_include hs, hfail]
    rfl
  | cons segment pre ih =>
    have hgiven : IncludesGiven texts [segment] :=
      fun s name hmem => hpre s name (List.mem_singleton.mp hmem ▸ .head _)
    obtain ⟨program, hfirst⟩ := Segment.exists_generate hgiven
    have hrest := ih fun s name hmem => hpre s name (.tail _ hmem)
    rw [List.cons_append, generate, hfirst, hrest]
    rfl

end

end Stencil.Template
