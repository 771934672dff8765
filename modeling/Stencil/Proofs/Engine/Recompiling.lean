import Stencil.Proofs.Engine.History

/-!
# Compiling again

Compiling replaces spans and snapshot before it is clear that there will be a new program. An
instance that is compiled once has parts that belong together; one that is compiled again keeps its
old program if that fails, next to the new spans and the new snapshot.
-/

namespace Stencil

open Template (Compiled Failure)

variable {m : Machine}

theorem Effect.parts {e e' : Engine} {o : Operation} {result : Except Failure (Option Nat)}
    {id : Nat} {i' : Instance} (h : Effect m e o result e') (hi' : e'.instance? id = some i') :
    ((∃ i, e.instance? id = some i ∧ i.Renewed m e.settings i') ∧ o ≠ .compile id) ∨
      i'.Coupled m e.settings ∨
        ∃ i outcome, o = .compile id ∧ result = outcome.map (fun _ => none) ∧
          e.instance? id = some i ∧ i.Compiles m e i' outcome := by
  cases h with
  | @created name hook i _ hopens =>
      obtain ⟨hpos, hget⟩ := Engine.instance?_eq_some_iff.mp hi'
      rw [hopens.instances, List.getElem?_append] at hget
      split at hget
      · exact .inl ⟨⟨i', Engine.instance?_eq_some_iff.mpr ⟨hpos, hget⟩, .inl (.refl i')⟩, nofun⟩
      · obtain ⟨hlt, rfl⟩ := List.getElem?_eq_some_iff.mp hget
        refine .inr (.inl (.of_renderer_none ?_))
        rw [List.getElem_singleton, hopens.renderer]
  | @compiled id₀ outcome _ hwork hcompiles =>
      by_cases hid : id₀ = id
      · subst hid
        obtain ⟨i, hi, hcompiled⟩ := hcompiles i' hi'
        exact .inr (.inr ⟨i, outcome, rfl, rfl, hi, hcompiled⟩)
      · rcases hwork.instance?_cases hi' (by simpa using hid) with ⟨i, hi, hsame⟩ | ⟨-, hcoupled⟩
        · exact .inl ⟨⟨i, hi, .inl hsame⟩, by simpa using hid⟩
        · exact .inr (.inl hcoupled)
  | rendered ho _ _ hrenewed =>
      refine (hrenewed id i' hi').imp (fun hold => ⟨hold, ?_⟩) .inl
      rintro rfl
      cases ho
  | disposed => exact .inl ⟨⟨i', hi', .inl (.refl i')⟩, nofun⟩
  | outside => exact .inl ⟨⟨i', hi', .inl (.refl i')⟩, nofun⟩

/-- The program of an instance has outlived an attempt to compile the instance anew, which was not
made good since: the instance had it before, and has the spans and the snapshot of the text that
could not be compiled. -/
def Outlives (m : Machine) (start : Engine) (log : List Entry) (id : Nat) (i : Instance)
    (compiled : Compiled) : Prop :=
  ∃ later failure earlier e source i₀,
    log = later ++ ⟨.compile id, .error failure⟩ :: earlier ∧
    (∀ entry ∈ later, entry.operation = .compile id → ∃ failure, entry.result = .error failure) ∧
    History m start earlier e ∧ e.instance? id = some i₀ ∧ i₀.renderer = some compiled ∧
    e.sources.find? i₀.name = .ok (some source) ∧
    i.spans = (Template.extract e.settings.trimLines source).spans ∧
    i.snapshot = (Template.extract e.settings.trimLines source).snapshot

theorem Outlives.cons {start : Engine} {log : List Entry} {id : Nat} {i i' : Instance}
    {compiled : Compiled} {entry : Entry} (h : Outlives m start log id i compiled)
    (hsame : i.SameParts i')
    (hentry : entry.operation = .compile id → ∃ failure, entry.result = .error failure) :
    Outlives m start (entry :: log) id i' compiled := by
  obtain ⟨later, failure, earlier, e, source, i₀, rfl, hlater, h, hi₀, hrenderer, hsource, hspans,
    hsnapshot⟩ := h
  exact ⟨entry :: later, failure, earlier, e, source, i₀, rfl,
    List.forall_mem_cons.mpr ⟨hentry, hlater⟩, h, hi₀, hrenderer, hsource,
    hsame.spans.trans hspans, hsame.snapshot.trans hsnapshot⟩

/-- In all that an engine can come to, the spans, the snapshot and the program of an instance belong
together, unless the program has outlived an attempt to compile the instance anew. -/
theorem together_or_outlives {start e : Engine} {log : List Entry} (hstart : start.Fresh)
    (h : History m start log e) {id : Nat} {i : Instance} {compiled : Compiled}
    (hi : e.instance? id = some i) (hrenderer : i.renderer = some compiled) :
    i.Together m e.settings compiled ∨ Outlives m start log id i compiled := by
  induction h generalizing i with
  | start =>
      have hget := (Engine.instance?_eq_some_iff.mp hi).2
      simp [hstart.instances] at hget
  | @next log e h depth o ih =>
      have heffect := o.effect (m := m) depth (h.sound hstart.sound)
      rw [heffect.follows.settings]
      rcases heffect.parts hi with ⟨⟨i₀, hi₀, hsame | ⟨-, hcoupled⟩⟩, ho⟩ | hcoupled |
        ⟨i₀, outcome, rfl, hresult, hi₀, hcompiles⟩
      · refine (ih hi₀ (hsame.renderer ▸ hrenderer)).imp hsame.together fun houtlives => ?_
        exact houtlives.cons hsame fun hcompile => absurd hcompile ho
      · exact .inl (hcoupled compiled hrenderer)
      · exact .inl (hcoupled compiled hrenderer)
      · cases hcompiles with
        | unchanged failure hsame =>
            refine (ih hi₀ (hsame.renderer ▸ hrenderer)).imp hsame.together fun houtlives => ?_
            exact houtlives.cons hsame fun _ => ⟨failure, hresult⟩
        | @broken source failure hsource hspans hsnapshot hsame =>
            exact .inr ⟨[], failure, log, e, source, i₀, by rw [hresult]; rfl, nofun, h, hi₀,
              hsame ▸ hrenderer, hsource, hspans, hsnapshot⟩
        | done hcompiled htogether =>
            cases hrenderer.symm.trans hcompiled
            exact .inl htogether

/-! ## What a program has of its spans -/

theorem mem_of_on_generate {markup : Text → Action Text} {segments : List Template.Segment}
    {program : Template.Program} {s : Template.Span} {instruction : Template.Instruction}
    {e e' : Engine}
    (h : (Template.generate (m := Action) (some markup) segments).on e = (.ok program, e'))
    (hs : .span s ∈ segments)
    (hinstruction : s.classify.instruction? s.source = some instruction) :
    instruction ∈ program := by
  induction segments generalizing program e with
  | nil => cases hs
  | cons segment more ih =>
      obtain ⟨first, e₁, hfirst, h⟩ := Action.on_bind_ok_iff.mp h
      obtain ⟨rest, e₂, hrest, h⟩ := Action.on_bind_ok_iff.mp h
      cases h
      rcases List.mem_cons.mp hs with rfl | hs
      · have hother : s.classify.isInclude = false := by
          cases hclassify : s.classify <;> simp_all [Template.Directive.instruction?,
            Template.Directive.isInclude]
        rw [Template.Segment.generate_span hother, hinstruction] at hfirst
        cases hfirst
        exact List.mem_append_left _ (List.mem_singleton_self _)
      · exact List.mem_append_right _ (ih hrest hs)

theorem program_of_compile {name : Text} {number next : Nat} {program : Template.Program}
    {compiled : Compiled} (h : Template.compile name number program = .ok (compiled, next)) :
    compiled.program = program := by
  unfold Template.compile at h
  split at h
  · cases h
  · split at h
    · cases h
    · cases h
      rfl

theorem Instance.Together.instruction_mem {settings : Settings} {i : Instance}
    {compiled : Compiled} (h : i.Together m settings compiled) {s : Template.Span}
    (hs : s ∈ i.spans) {instruction : Template.Instruction}
    (hinstruction : s.classify.instruction? s.source = some instruction) :
    instruction ∈ compiled.program := by
  obtain ⟨source, htaken, depth, scope, program, number, next, e, hgenerate, hcompile⟩ := h
  rw [htaken.spans] at hs
  obtain ⟨segment, hsegment, hspan⟩ := List.mem_filterMap.mp hs
  rw [program_of_compile hcompile]
  cases segment with
  | chunk text position => cases hspan
  | span s' =>
      cases hspan
      exact mem_of_on_generate (Prod.ext hgenerate rfl) hsegment hinstruction

/-! ## A template that becomes worse -/

def wellFormed : Engine := { sources := .table [("page".toList, "a".toList)] }

def illFormed : Sources := .table [("page".toList, "\x7b/if\x7d".toList)]

/-- The instance has an end of a condition among its spans, but not in its program. -/
def Instance.lacksCloseIf (i : Instance) : Bool :=
  match i.renderer with
  | some compiled =>
    (i.spans.any fun s => s.classify.instruction? s.source = some .closeIf) &&
      !compiled.program.contains .closeIf
  | none => false

theorem Instance.not_together_of_lacksCloseIf {settings : Settings} {i : Instance}
    (h : i.lacksCloseIf = true) :
    ∃ compiled, i.renderer = some compiled ∧ ¬ i.Together m settings compiled := by
  unfold lacksCloseIf at h
  split at h
  · rename_i compiled hrenderer
    rw [Bool.and_eq_true, List.any_eq_true, Bool.not_eq_true', List.contains_eq_mem] at h
    obtain ⟨⟨s, hs, hinstruction⟩, hlacks⟩ := h
    refine ⟨compiled, hrenderer, fun htogether => of_decide_eq_false hlacks ?_⟩
    exact htogether.instruction_mem hs (of_decide_eq_true hinstruction)
  · cases h

/-- An instance is compiled, then its template gets a mistake and it is compiled again; the last
operation first. -/
def mistakenly : List Operation :=
  [.compile 1, .outside {} illFormed, .compile 1, .create "page".toList none]

theorem history_mistakenly :
    ∃ log e i, History fewSteps wellFormed log e ∧ log.map Entry.operation = mistakenly ∧
      e.instance? 1 = some i ∧ i.lacksCloseIf = true := by
  have hstart : History fewSteps wellFormed [] wellFormed := .start
  obtain ⟨log, e, h, hlog, hlacks⟩ : ∃ log e, History fewSteps wellFormed log e ∧
      log.map Entry.operation = mistakenly ∧
        (e.instance? 1).map Instance.lacksCloseIf = some true :=
    ⟨_, _, (((hstart.next 3 (.create "page".toList none)).next 3 (.compile 1)).next 3
      (.outside {} illFormed)).next 3 (.compile 1), rfl, by decide +kernel⟩
  obtain ⟨i, hi, hlacks⟩ := Option.map_eq_some_iff.mp hlacks
  exact ⟨log, e, i, h, hlog, hi, hlacks⟩

/-- The program of the instance is the one from before the mistake. -/
theorem together_or_outlives_mistakenly :
    wellFormed.Fresh ∧ ∃ log e i compiled, History fewSteps wellFormed log e ∧
      e.instance? 1 = some i ∧ i.renderer = some compiled ∧
        Outlives fewSteps wellFormed log 1 i compiled := by
  obtain ⟨log, e, i, h, -, hi, hlacks⟩ := history_mistakenly
  obtain ⟨compiled, hrenderer, hnot⟩ := Instance.not_together_of_lacksCloseIf hlacks
  exact ⟨⟨rfl, rfl⟩, log, e, i, compiled, h, hi, hrenderer,
    (together_or_outlives ⟨rfl, rfl⟩ h hi hrenderer).resolve_left hnot⟩

theorem not_together_mistakenly :
    ∃ log e i compiled, History fewSteps wellFormed log e ∧
      log.map Entry.operation = mistakenly ∧ e.instance? 1 = some i ∧
        i.renderer = some compiled ∧ ¬ i.Together fewSteps e.settings compiled := by
  obtain ⟨log, e, i, h, hlog, hi, hlacks⟩ := history_mistakenly
  obtain ⟨compiled, hrenderer, hnot⟩ := Instance.not_together_of_lacksCloseIf hlacks
  exact ⟨log, e, i, compiled, h, hlog, hi, hrenderer, hnot⟩

end Stencil
