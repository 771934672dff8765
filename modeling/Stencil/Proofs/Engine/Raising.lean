import Stencil.Proofs.Engine.Activity
import Stencil.Proofs.Eval.Composed.Evaluate
import Stencil.Proofs.Template.Attributing

/-!
# Where failures arise

A failure of an evaluation is its own or that of an answer. Rendering an instance for the first time
fails while the template is compiled, in a template that it includes, or while its program runs; and
a run fails in one of its steps.
-/

namespace Stencil

open Template (Compiled Config Failure Segment)

variable {m : Machine} {α : Type} {answer : Request → Action Value}

/-! ## Failures of evaluations -/

/-- In a dialog on an engine this is asked for with a memory, on the engine that there is then. -/
inductive Dialog.Asks (answer : Request → Action Value) :
    Dialog α → Engine → Request → Memory → Engine → Prop
  | now {request : Request} {memory : Memory} {resume : Except Failure Value → Heap → Dialog α}
      {e : Engine} : Asks answer (.ask request memory resume) e request memory e
  | later {request request' : Request} {memory memory' : Memory}
      {resume : Except Failure Value → Heap → Dialog α} {result : Except Failure Value}
      {e e₁ e' : Engine}
      (hanswer : (answer request).on { e with heap := memory.heap } = (result, e₁))
      (h : Asks answer (resume result e₁.heap) e₁ request' memory' e') :
      Asks answer (.ask request memory resume) e request' memory' e'

namespace Dialog.Asks

variable {d : Dialog α} {e e' : Engine} {request : Request} {memory : Memory}

theorem work (hanswer : ∀ request, (answer request).Works m none)
    (h : d.Asks answer e request memory e') (he : e.Sound) : e.Work m none e' := by
  induction h with
  | now => exact .refl he
  | @later request _ memory _ _ _ e _ _ hrun _ ih =>
    have halike := e.alike_heap memory.heap
    have hfirst := hanswer request _ (he.of_alike halike)
    rw [hrun] at hfirst
    exact (Engine.Work.of_alike he halike).trans (hfirst.trans (ih hfirst.sound))

end Dialog.Asks

/-- Failures that no answer need have come to. -/
inductive Template.Failure.Own : Failure → Prop
  | fault (f : Fault) : Own (.fault f)
  | escape (x : Template.Escape) : Own (.escape x)
  | exhausted : Own .exhausted

/-- A failure is the dialog's own, or it is how something that was asked for failed. -/
theorem Dialog.Goes.fails {d : Dialog α} {h : Heap} (hd : d.Goes (fun _ => False) h) {e : Engine}
    {failure : Failure} {t : Moment} (hplay : d.play answer e = (.error failure, t)) :
    failure.Own ∨ ∃ request memory e', d.Asks answer e request memory e' ∧
      ((answer request).on { e' with heap := memory.heap }).1 = .error failure := by
  induction hd generalizing e with
  | ok => cases hplay
  | fault f =>
    cases hplay
    exact .inl (.fault f)
  | escape x =>
    cases hplay
    exact .inl (.escape x)
  | exhausted =>
    cases hplay
    exact .inl .exhausted
  | @ask _ request m resume _ _ herror ih =>
    rw [play] at hplay
    cases hanswer : (answer request).on { e with heap := m.heap } with
    | mk result e₁ =>
      rw [hanswer] at hplay
      cases result with
      | ok v =>
        have hnone : m.heap.Onward (fun _ => False) e₁.heap := fun _ h => False.elim h
        refine (ih v e₁.heap hnone hplay).imp_right ?_
        rintro ⟨request', memory, e', hasks, hfails⟩
        exact ⟨request', memory, e', .later hanswer hasks, hfails⟩
      | error f =>
        obtain ⟨m', hfails, -⟩ := herror f e₁.heap
        simp only [hfails] at hplay
        cases hplay
        exact .inr ⟨request, m, e, .now, congrArg Prod.fst hanswer⟩

/-! ## Causes -/

structure Engine.Serves (sources : Sources) (settings : Settings) (e : Engine) : Prop where
  sound : e.Sound
  sources : e.sources = sources
  settings : e.settings = settings

/-- A template has an include directive for another one. -/
def Sources.Includes (sources : Sources) (settings : Settings) (template included : Text) : Prop :=
  ∃ source s, sources.find? template = .ok (some source) ∧
    .span s ∈ (Template.extract settings.trimLines source).segments ∧
      s.classify = .include included

theorem Sources.exists_of_includes {entries : List (Text × Text)} {settings : Settings}
    {template included : Text} (h : (table entries).Includes settings template included) :
    ∃ entry ∈ entries, entry.1 = template ∧
      ∃ segment ∈ (Template.extract settings.trimLines entry.2).segments,
        segment.included? = some included := by
  obtain ⟨source, s, hfound, hs, hclassify⟩ := h
  refine ⟨(template, source), mem_of_find? hfound, rfl, .span s, hs, ?_⟩
  rw [Segment.included?, hclassify]
  rfl

/-- Every source can be looked up, and the trees of all snapshots can be read. -/
structure Sources.Readable (sources : Sources) (settings : Settings) : Prop where
  found : ∀ name f, sources.find? name ≠ .error f
  read : ∀ name source, sources.find? name = .ok (some source) →
    ∃ tree, Markup.Reader.read { parser := settings.markupParser }
      (Template.extract settings.trimLines source).snapshot = .ok tree

theorem Sources.readable_table {entries : List (Text × Text)} {settings : Settings}
    (h : entries.all (fun (_, source) =>
      (Markup.Reader.read { parser := settings.markupParser }
        (Template.extract settings.trimLines source).snapshot).isOk) = true) :
    (Sources.table entries).Readable settings where
  found := nofun
  read := by
    intro name source hsource
    have hread := List.all_eq_true.mp h (name, source) (mem_of_find? hsource)
    cases htree : Markup.Reader.read { parser := settings.markupParser }
        (Template.extract settings.trimLines source).snapshot with
    | ok tree => exact ⟨tree, rfl⟩
    | error f =>
      simp only [htree] at hread
      cases hread

/-- The program was made of the source of the template that it is named for. -/
def Template.Compiled.Made (m : Machine) (sources : Sources) (settings : Settings)
    (p : Compiled) : Prop :=
  ∃ source, sources.find? p.template = .ok (some source) ∧ ∃ i : Instance, i.name = p.template ∧
    i.Runs m (Template.extract settings.trimLines source).segments p

/-- A failure arises in an activity itself, and this is the template that fails. -/
inductive Activity.Raises (m : Machine) (sources : Sources) (settings : Settings) :
    Activity → Engine → Text → Failure → Prop
  /-- The template of an instance is not there. -/
  | absent {depth id : Nat} {i : Instance} {e : Engine} (hi : e.instance? id = some i)
      (habsent : sources.find? i.name = .ok none) :
      Raises m sources settings (.compile depth id) e i.name (.sourceNotFound i.name)
  /-- An expression asks for the source of a template that is not there. -/
  | unknown {j : Job} {name : Text} {memory : Memory}
      {resume : Except Failure Value → Heap → Dialog Config} {e : Engine}
      (habsent : sources.find? name = .ok none) :
      Raises m sources settings (.dialog j (.ask (.source name) memory resume)) e name
        (.sourceNotFound name)
  /-- The program of the template cannot be linked, or an expression in it cannot be compiled. -/
  | broken {depth id : Nat} {i : Instance} {source directive : Text} {program : Template.Program}
      {cause : Template.GenerationCause} {e e₁ e₂ : Engine}
      (hsource : sources.find? i.name = .ok (some source))
      (htake : (Action.takeApart id).on e =
        (.ok (i, Template.extract settings.trimLines source), e₁))
      (hgenerate : (Template.generate (m := Action)
        (some (Action.includeMarkup (Action.render m depth) id i.scope))
          (Template.extract settings.trimLines source).segments).on e₁ = (.ok program, e₂))
      (hcompile : Template.compile i.name e₂.codes program =
        .error (.generation i.name directive cause)) :
      Raises m sources settings (.compile depth id) e i.name (.generation i.name directive cause)
  /-- A step of the program of the template fails. -/
  | failed {j : Job} {fuel : Nat} {c : Config} {memory : Memory} {f : Fault} {e : Engine}
      {t : Moment} (hmade : j.program.Made m sources settings)
      (hlt : c.pc < j.program.program.length)
      (hstep : (j.step m c).play (j.answer m) ⟨memory, e⟩ = (.error (.fault f), t)) :
      Raises m sources settings (.job j (fuel + 1) c memory) e j.program.template
        (.render j.program.template (j.program.directive c.pc) f)
  /-- A step of the program of the template ends all, as an expression asks for. -/
  | left {j : Job} {fuel : Nat} {c : Config} {memory : Memory} {x : Template.Escape} {e : Engine}
      {t : Moment} (hmade : j.program.Made m sources settings)
      (hlt : c.pc < j.program.program.length)
      (hstep : (j.step m c).play (j.answer m) ⟨memory, e⟩ = (.error (.escape x), t)) :
      Raises m sources settings (.job j (fuel + 1) c memory) e j.program.template (.escape x)

structure Engine.CannotRender (m : Machine) (sources : Sources) (settings : Settings)
    (depth id : Nat) (args : Entries) (name : Text) (owner : Nat) (failure : Failure)
    (e : Engine) : Prop where
  serves : e.Serves sources settings
  «instance» : ∃ i, e.instance? id = some i ∧ i.name = name ∧ i.owner = owner ∧ i.renderer = none
  fails : ((Action.render m depth id args).on e).1 = .error failure

inductive RenderCause (m : Machine) (sources : Sources) (settings : Settings) (depth id : Nat)
    (args : Entries) (name : Text) (owner : Nat) (e : Engine) : Failure → Prop
  | compiling {failure : Failure} {e' : Engine}
      (hleads : Activity.Leads m false (.render (depth + 1) id args) e (.compile depth id) e')
      (hraises : (Activity.compile depth id).Raises m sources settings e' name failure) :
      RenderCause m sources settings depth id args name owner e failure
  | including {included : Text} {temporary : Nat} {args' : Entries} {failure : Failure}
      {e' : Engine} (hincludes : sources.Includes settings name included)
      (hleads : Activity.Leads m false (.render (depth + 1) id args) e
        (.render depth temporary args') e')
      (hfails : e'.CannotRender m sources settings depth temporary args' included owner failure) :
      RenderCause m sources settings depth id args name owner e failure
  | hostless (hnone : e.instance? owner = none) :
      RenderCause m sources settings depth id args name owner e (.fault (.unknownInstance owner))
  | running {j : Job} {memory : Memory} {failure : Failure} {e' : Engine}
      (hdepth : j.depth = depth) (hname : j.program.template = name)
      (hmade : j.program.Made m sources settings) (hserves : e'.Serves sources settings)
      (hleads : Activity.Leads m false (.render (depth + 1) id args) e
        (.job j m.steps .initial memory) e')
      (hfails : ((j.runFrom m m.steps .initial).play (j.answer m) ⟨memory, e'⟩).1 =
        .error failure) :
      RenderCause m sources settings depth id args name owner e failure

/-- A run stops with a failure: there are no steps left, or its step fails. -/
inductive Job.Stops (m : Machine) (j : Job) (memory : Memory) (e : Engine) :
    Nat → Config → Failure → Prop
  | spent {c : Config} : Stops m j memory e 0 c .exhausted
  | failed {fuel : Nat} {c : Config} {cause : Failure} {t : Moment}
      (hlt : c.pc < j.program.program.length)
      (hstep : (j.step m c).play (j.answer m) ⟨memory, e⟩ = (.error cause, t)) :
      Stops m j memory e (fuel + 1) c (Template.locate j.program c.pc cause)

def Request.template? : Request → Option Text
  | .render name _ | .renderInclude name _ _ | .source name => some name
  | .capture .. | .reference .. | .scope _ | .dispose _ | .clear => none

/-! ## Rendering fails -/

variable {sources : Sources} {settings : Settings}

namespace Engine

variable {e e' : Engine} {own : Option Nat}

theorem Serves.of_work (h : e.Serves sources settings) (hwork : e.Work m own e') :
    e'.Serves sources settings :=
  ⟨hwork.sound, hwork.sources.trans h.sources, hwork.settings.trans h.settings⟩

theorem Serves.of_opens (h : e.Serves sources settings) {i : Instance} (hopens : e.Opens i e') :
    e'.Serves sources settings :=
  ⟨hopens.sound h.sound, hopens.sources.trans h.sources, hopens.settings.trans h.settings⟩

theorem Serves.heap (h : e.Serves sources settings) (heap : Heap) :
    Serves sources settings { e with heap } :=
  ⟨h.sound.of_alike (e.alike_heap heap), h.sources, h.settings⟩

theorem Serves.cannotRender (h : e.Serves sources settings) {i : Instance} (hopens : e.Opens i e')
    {depth : Nat} {args : Entries} {failure : Failure}
    (hfails : ((Action.render m depth i.id args).on e').1 = .error failure) :
    e'.CannotRender m sources settings depth i.id args i.name i.owner failure :=
  ⟨h.of_opens hopens, ⟨i, hopens.instance?, rfl, rfl, hopens.renderer⟩, hfails⟩

end Engine

namespace Action

open Activity Engine

variable {e : Engine} {depth id : Nat} {i : Instance} {failure : Failure}

theorem on_loadSource_error {name : Text} (h : ((loadSource name).on e).1 = .error failure) :
    e.sources.find? name = .ok none ∧ failure = .sourceNotFound name ∨
      ∃ f, e.sources.find? name = .error f := by
  rw [loadSource, on_bind_of_ok (on_get e)] at h
  cases hfound : e.sources.find? name with
  | error f => exact .inr ⟨f, rfl⟩
  | ok found =>
    rw [hfound, on_bind_of_ok (on_ofExcept_ok _ e)] at h
    cases found with
    | some source => cases h
    | none =>
      refine .inl ⟨rfl, ?_⟩
      rw [on_bind_of_ok (on_get e)] at h
      cases hsources : e.sources <;> rw [hsources] at h <;> cases h <;> rfl

/-! ### Compiling fails -/

theorem on_takeApart_error (he : e.Serves sources settings) (hreadable : sources.Readable settings)
    (hi : e.instance? id = some i) (h : ((takeApart id).on e).1 = .error failure) :
    sources.find? i.name = .ok none ∧ failure = .sourceNotFound i.name := by
  rw [takeApart, on_bind_of_ok (on_instance_of_some hi)] at h
  rcases on_bind_error_iff.mp h with hload | ⟨source, e₁, hload, hrest⟩
  · rcases on_loadSource_error hload with habsent | ⟨f, hf⟩
    · exact he.sources ▸ habsent
    · exact absurd (he.sources ▸ hf) (hreadable.found i.name f)
  · rcases on_loadSource i.name e with ⟨source', hsource, hload'⟩ | ⟨_, _, -, hload'⟩
    · cases hload.symm.trans hload'
      obtain ⟨tree, htree⟩ := hreadable.read i.name source (he.sources ▸ hsource)
      rw [on_bind_of_ok (on_get _), on_bind_of_ok (on_update _ _ _), on_bind_of_ok (on_reader _),
        update_settings, he.settings, htree] at hrest
      cases hrest
    · cases hload.symm.trans hload'

theorem on_equip_error {name : Text} {spans : Nat} {program : Template.Program}
    (h : ((equip id name spans program).on e).1 = .error failure) :
    Template.compile name e.codes program = .error failure := by
  rw [equip, build] at h
  rcases on_bind_error_iff.mp h with hbuild | ⟨compiled, e₁, -, hrest⟩
  · rw [on_bind_of_ok (on_get e)] at hbuild
    cases hcompile : Template.compile name e.codes program with
    | error failure => rw [hcompile] at hbuild; cases hbuild; rfl
    | ok compiled => rw [hcompile] at hbuild; cases hbuild
  · cases hrest

theorem on_renderInclude_error {nested : Nested} {name : Text} {args : Entries}
    {owner : Option Nat} (he : e.Sound)
    (h : ((renderInclude nested name args owner).on e).1 = .error failure) :
    ∃ i e₁, (openInclude name owner).on e = (.ok i.id, e₁) ∧ e.Opens i e₁ ∧ i.name = name ∧
      i.owner = owner.getD i.id ∧ ((nested i.id args).on e₁).1 = .error failure := by
  obtain ⟨i, e₁, hopen, hopens, hname, howner⟩ := on_openInclude name owner he
  rw [renderInclude, on_bind_of_ok hopen, on_andFinally] at h
  exact ⟨i, e₁, hopen, hopens, hname, howner, h⟩

theorem on_renderOnce_error {nested : Nested} {name : Text} {args : Entries}
    (h : ((renderOnce nested name args).on e).1 = .error failure) :
    ∃ i e₁, (create name none).on e = (.ok i.id, e₁) ∧ e.Opens i e₁ ∧ i.name = name ∧
      i.owner = i.id ∧ ((nested i.id args).on e₁).1 = .error failure := by
  obtain ⟨i, e₁, hcreate, hopens, hname, howner⟩ := on_create name none e
  rw [renderOnce, on_bind_of_ok hcreate, on_andFinally] at h
  exact ⟨i, e₁, hcreate, hopens, hname, howner, h⟩

/-- Generating a program fails in the first template that it includes and that cannot be
rendered. -/
theorem on_generate_error {scope : Nat} {segments : List Segment} (he : e.Serves sources settings)
    (hi : e.instance? id = some i)
    (h : ((Template.generate (m := Action) (some (includeMarkup (render m depth) id scope))
      segments).on e).1 = .error failure) :
    ∃ s included temporary args e', .span s ∈ segments ∧ s.classify = .include included ∧
      Leads m false (.generate depth id scope segments) e (.render depth temporary args) e' ∧
      e'.CannotRender m sources settings depth temporary args included i.owner failure := by
  have hmarkup := (proper_render m depth).includeMarkup id scope
  induction segments generalizing e i with
  | nil => cases h
  | cons segment more ih =>
    rw [Template.generate] at h
    rcases on_bind_error_iff.mp h with hfirst | ⟨program, e₁, hfirst, hrest⟩
    · cases segment with
      | chunk text position => cases hfirst
      | span s =>
        cases hclassify : s.classify with
        | «include» name =>
          rw [Template.Segment.generate_span_include hclassify] at hfirst
          rcases on_bind_error_iff.mp hfirst with hinclude | ⟨_, _, -, hpure⟩
          · rw [on_includeMarkup hi] at hinclude
            have hnote : e.Work m none _ := Works.note ["Inlining include '", name, "'"] e he.sound
            obtain ⟨j, e', hopen, hopens, rfl, howner, hfails⟩ :=
              on_renderInclude_error hnote.sound hinclude
            refine ⟨s, j.name, j.id, _, e', .head _, hclassify,
              .head (.included hclassify hi hopen) .refl, ?_⟩
            exact (show j.owner = i.owner from howner) ▸
              (he.of_work hnote).cannotRender hopens hfails
          · cases hpure
        | _ =>
          rw [Template.Segment.generate_span (by rw [hclassify]; rfl)] at hfirst
          cases hfirst
    · rcases on_bind_error_iff.mp hrest with hmore | ⟨_, _, -, hpure⟩
      · have hwork := Works.generateSegment hmarkup segment e he.sound
        rw [hfirst] at hwork
        obtain ⟨i₁, hi₁, hlater⟩ := hwork.follows.instance? hi
        obtain ⟨s, included, temporary, args, e', hs, hclassify, hleads, hfails⟩ :=
          ih (he.of_work hwork) hi₁ hmore
        exact ⟨s, included, temporary, args, e', .tail _ hs, hclassify,
          .head (.moreSegments hfirst) hleads, hlater.owner ▸ hfails⟩
      · cases hpure

theorem on_compile_error (he : e.Serves sources settings) (hreadable : sources.Readable settings)
    (hi : e.instance? id = some i)
    (h : ((Action.compile (render m depth) id).on e).1 = .error failure) :
    (Activity.compile depth id).Raises m sources settings e i.name failure ∨
      ∃ included temporary args e', sources.Includes settings i.name included ∧
        Leads m false (.compile depth id) e (.render depth temporary args) e' ∧
        e'.CannotRender m sources settings depth temporary args included i.owner failure := by
  rw [Action.compile] at h
  rcases on_bind_error_iff.mp h with htake | ⟨⟨i₀, extraction⟩, e₁, htake, hrest⟩
  · obtain ⟨habsent, rfl⟩ := on_takeApart_error he hreadable hi htake
    exact .inl (.absent hi habsent)
  · have hwork := Works.takeApart (m := m) id e he.sound
    rw [htake] at hwork
    obtain ⟨source, i₁, hi₀, hsource, rfl, hi₁, -, -, -, -⟩ :=
      (takesApart_of_on htake).instance? he.sound
    cases hi.symm.trans hi₀
    obtain ⟨i₁', hi₁', hlater⟩ := hwork.follows.instance? hi
    cases hi₁.symm.trans hi₁'
    rw [he.sources] at hsource
    rw [he.settings] at htake hrest
    rcases on_bind_error_iff.mp hrest with hgenerate | ⟨program, e₂, hgenerate, hequip⟩
    · obtain ⟨s, included, temporary, args, e', hs, hclassify, hleads, hfails⟩ :=
        on_generate_error (he.of_work hwork) hi₁ hgenerate
      exact .inr ⟨included, temporary, args, e', ⟨source, s, hsource, hs, hclassify⟩,
        .head (.generated htake) hleads, hlater.owner ▸ hfails⟩
    · have hcompile := on_equip_error hequip
      obtain ⟨directive, cause, rfl⟩ := Template.compile_eq_error hcompile
      exact .inl (.broken hsource htake hgenerate hcompile)

theorem made_of_compile {compiled : Compiled} {e' : Engine} (he : e.Serves sources settings)
    (hi : e.instance? id = some i)
    (h : (Action.compile (render m depth) id).on e = (.ok compiled, e')) :
    compiled.Made m sources settings ∧ compiled.template = i.name := by
  rw [Action.compile] at h
  obtain ⟨⟨i₀, extraction⟩, e₁, htake, hrest⟩ := on_bind_ok_iff.mp h
  have hwork := Works.takeApart (m := m) id e he.sound
  rw [htake] at hwork
  obtain ⟨source, i₁, hi₀, hsource, rfl, hi₁, -, -, hname, -⟩ :=
    (takesApart_of_on htake).instance? he.sound
  cases hi.symm.trans hi₀
  simp only [← hname] at hrest
  obtain ⟨i', -, ⟨_, hok, -⟩ | ⟨compiled', hok, hruns, hsame, -⟩⟩ :=
    (proper_render m depth).equips hwork.sound hi₁ hrest
  · cases hok
  · cases hok
    have hname' : i'.name = i.name := hsame.name.trans hname
    have htemplate : compiled.template = i.name := by
      obtain ⟨_, _, _, _, _, _, -, hcompile⟩ := hruns
      exact (Template.template_of_compile hcompile).trans hname'
    rw [he.sources, ← htemplate] at hsource
    rw [he.settings] at hruns
    exact ⟨⟨source, hsource, i', hname'.trans htemplate.symm, hruns⟩, htemplate⟩

end Action

theorem Job.on_runProgram_error {depth owner scope : Nat} {compiled : Compiled} {host : Instance}
    {j : Job} {failure : Failure} {e : Engine} (hhost : e.instance? owner = some host)
    (hj : j = ⟨depth, owner, host.name, scope, compiled⟩)
    (h : ((Action.runProgram m (Action.render m depth) owner scope compiled).on e).1 =
      .error failure) :
    ((j.runFrom m m.steps .initial).play (j.answer m) ⟨j.memory e, e⟩).1 = .error failure := by
  rw [Job.on_runProgram_eq hhost hj] at h
  cases hplay : (j.runFrom m m.steps .initial).play (j.answer m) ⟨j.memory e, e⟩ with
  | mk result t =>
    rw [hplay] at h
    cases result <;> cases h
    rfl

/-! ## Rendering fails -/

open Stencil.Action Activity in
theorem Engine.CannotRender.cause {depth id : Nat} {args : Entries} {name : Text} {owner : Nat}
    {failure : Failure} {e : Engine}
    (h : e.CannotRender m sources settings (depth + 1) id args name owner failure)
    (hreadable : sources.Readable settings) :
    RenderCause m sources settings depth id args name owner e failure := by
  obtain ⟨he, ⟨i, hi, rfl, rfl, hnone⟩, hfails⟩ := h
  have hbind := on_bindScope_eq id args e
  have hi₁ : (e.bound id args).instance? id = some _ := he.sound.instance?_bound hi
  have hbound : e.Work m (some id) (e.bound id args) := Works.bindScope id args e he.sound
  have he₁ := he.of_work hbound
  rw [Action.render, renderWith, on_bind_of_ok hbind] at hfails
  rcases on_bind_error_iff.mp hfails with hready | ⟨compiled, e₂, hready, hrest⟩
  · rw [on_ready_of_none hi₁ hnone] at hready
    rcases on_compile_error he₁ hreadable hi₁ hready with hraises |
      ⟨included, temporary, args', e', hincludes, hleads, hfails⟩
    · exact .compiling (.head (.compiled hbind hi₁ hnone) .refl) hraises
    · exact .including hincludes (.head (.compiled hbind hi₁ hnone) hleads) hfails
  · have hwork := ((proper_render m depth).ready id).works _ he₁.sound
    rw [hready] at hwork
    obtain ⟨i₂, hi₂, hlater⟩ := hwork.follows.instance? hi₁
    obtain ⟨hmade, htemplate⟩ := made_of_compile he₁ hi₁ (on_ready_of_none hi₁ hnone ▸ hready)
    rw [on_bind_of_ok (on_instance_of_some hi₂), hlater.owner] at hrest
    cases hhost : e₂.instance? i.owner with
    | none =>
      rw [runProgram, on_bind, on_instance, hhost] at hrest
      cases hrest
      refine .hostless (Option.eq_none_iff_forall_ne_some.mpr fun host hsome => ?_)
      obtain ⟨host', hhost', -⟩ := (hbound.follows.trans hwork.follows).instance? hsome
      cases hhost.symm.trans hhost'
    | some host =>
      obtain ⟨j, hj⟩ : ∃ j : Job, j = ⟨depth, i.owner, host.name, e.heap.mappings.size, compiled⟩ :=
        ⟨_, rfl⟩
      have hprogram : j.program = compiled := congrArg Job.program hj
      have howner : i₂.owner = i.owner := hlater.owner
      have hhost' : e₂.instance? i₂.owner = some host := howner ▸ hhost
      have hj' : j = ⟨depth, i₂.owner, host.name, e.heap.mappings.size, compiled⟩ := howner ▸ hj
      exact .running (congrArg Job.depth hj) (hprogram ▸ htemplate) (hprogram ▸ hmade)
        (he₁.of_work hwork) (.head (.rendered hbind hready hi₂ hhost' hj') .refl)
        (Job.on_runProgram_error hhost hj hrest)

/-! ## Runs fail -/

theorem Template.play_unwind (s : Setting) (loops : List LoopFrame) (failure : Failure)
    (t : Moment) : ((unwind s loops failure : Eval α).play answer t).1 = .error failure := by
  rw [Eval.play, unwind_apply]
  rfl

open Activity in
theorem Job.stops_of_error {j : Job} {fuel : Nat} {c : Config} {memory : Memory} {e : Engine}
    {failure : Failure} (he : e.Serves sources settings)
    (h : ((j.runFrom m fuel c).play (j.answer m) ⟨memory, e⟩).1 = .error failure) :
    ∃ fuel' c' memory' e',
      Leads m false (.job j fuel c memory) e (.job j fuel' c' memory') e' ∧
        e'.Serves sources settings ∧ j.Stops m memory' e' fuel' c' failure := by
  induction fuel generalizing c memory e with
  | zero =>
    cases (Template.play_unwind j.setting c.loops .exhausted ⟨memory, e⟩).symm.trans h
    exact ⟨0, c, memory, e, .refl, he, .spent⟩
  | succ fuel ih =>
    by_cases hlt : c.pc < j.program.program.length
    · rw [play_runFrom_succ hlt] at h
      cases hstep : (j.step m c).play (j.answer m) ⟨memory, e⟩ with
      | mk result t =>
        rw [hstep] at h
        cases result with
        | error cause =>
          cases (Template.play_unwind j.setting c.loops _ t).symm.trans h
          refine ⟨fuel + 1, c, memory, e, .refl, he, ?_⟩
          rw [← Template.locate_eq_inDirective (List.getElem?_eq_getElem hlt)]
          exact .failed hlt hstep
        | ok c' =>
          have hwork := j.work_play m (j.step m c) (t := ⟨memory, e⟩) he.sound
          rw [hstep] at hwork
          obtain ⟨fuel', c'', memory', e', hleads, hserves, hstops⟩ := ih (he.of_work hwork) h
          exact ⟨fuel', c'', memory', e', .head (.moreSteps hlt hstep) hleads, hserves, hstops⟩
    · rw [runFrom, Template.runFrom_end _ _ _ _ (Nat.le_of_not_lt hlt)] at h
      cases h

open Activity in
theorem Dialog.Asks.leads {j : Job} {d : Dialog Config} {request : Request} {memory : Memory}
    {e e' : Engine} (h : d.Asks (j.answer m) e request memory e') :
    ∃ resume, Leads m false (.dialog j d) e (.dialog j (.ask request memory resume)) e' := by
  induction h with
  | @now _ _ resume _ => exact ⟨resume, .refl⟩
  | later hanswer _ ih =>
    obtain ⟨resume, hleads⟩ := ih
    exact ⟨resume, .head (.moreAsked hanswer) hleads⟩

open Activity in
theorem Job.step_error {j : Job} {c : Config} {memory : Memory} {e : Engine} {failure : Failure}
    {t : Moment} (hcomposed : m.evaluator.Composed fun _ => False) (he : e.Serves sources settings)
    (h : (j.step m c).play (j.answer m) ⟨memory, e⟩ = (.error failure, t)) :
    failure.Own ∨ ∃ request memory' resume e',
      Leads m false (.dialog j (j.step m c memory)) e (.dialog j (.ask request memory' resume)) e' ∧
        e'.Serves sources settings ∧
        ((j.answer m request).on { e' with heap := memory'.heap }).1 = .error failure := by
  have hgoes := (Template.composed_step hcomposed j.setting j.program c).goes memory nofun
  refine (hgoes.fails h).imp_right ?_
  rintro ⟨request, memory', e', hasks, hfails⟩
  obtain ⟨resume, hleads⟩ := hasks.leads
  exact ⟨request, memory', resume, e', hleads,
    he.of_work (hasks.work j.answer_works he.sound), hfails⟩

namespace Action

variable {e : Engine} {failure : Failure}

theorem on_instance_error {id : Nat} (h : ((«instance» id).on e).1 = .error failure) :
    ∃ f, failure = .fault f := by
  rw [on_instance] at h
  cases hi : e.instance? id <;> rw [hi] at h <;> cases h
  exact ⟨_, rfl⟩

theorem on_ofExcept_error {r : Except Fault α} (h : ((ofExcept r).on e).1 = .error failure) :
    ∃ f, failure = .fault f := by
  cases r with
  | ok a => cases h
  | error f =>
    cases h
    exact ⟨f, rfl⟩

theorem on_capture_error {id : Nat} {v : Value} (h : ((capture id v).on e).1 = .error failure) :
    ∃ f, failure = .fault f := by
  rcases on_bind_error_iff.mp h with hinstance | ⟨i, e₁, -, hrest⟩
  · exact on_instance_error hinstance
  · cases hfound : i.captured.findIdx? (·.same v) <;> rw [hfound] at hrest <;> cases hrest

end Action

open Stencil.Action Activity Engine in
theorem Job.answer_error {j : Job} {request : Request} {memory : Memory}
    (resume : Except Failure Value → Heap → Dialog Config) {e : Engine} {failure : Failure}
    (he : e.Serves sources settings) (hreadable : sources.Readable settings)
    (h : ((j.answer m request).on { e with heap := memory.heap }).1 = .error failure) :
    (∃ f, failure = .fault f) ∨ ∃ name, request.template? = some name ∧
      ((Activity.dialog j (.ask request memory resume)).Raises m sources settings e name failure ∨
        ∃ temporary args owner e',
          Leads m false (.dialog j (.ask request memory resume)) e
            (.render j.depth temporary args) e' ∧
          e'.CannotRender m sources settings j.depth temporary args name owner failure) := by
  have hserves := he.heap memory.heap
  cases request with
  | capture id v =>
    rcases on_bind_error_iff.mp h with hcapture | ⟨_, _, -, hnew⟩
    · exact .inl (on_capture_error hcapture)
    · cases hnew
  | reference id index =>
    rcases on_bind_error_iff.mp h with htext | ⟨_, _, -, hnew⟩
    · rw [referenceText, on_bind_of_ok (on_get _)] at htext
      exact .inl (on_ofExcept_error htext)
    · cases hnew
  | scope id =>
    rcases on_bind_error_iff.mp h with hinstance | ⟨_, _, -, hpure⟩
    · exact .inl (on_instance_error hinstance)
    · cases hpure
  | render name args =>
    rcases on_bind_error_iff.mp h with honce | ⟨_, _, -, hnew⟩
    · obtain ⟨i, e', hcreate, hopens, rfl, -, hfails⟩ := on_renderOnce_error honce
      exact .inr ⟨i.name, rfl, .inr ⟨i.id, args, i.owner, e',
        .head (.askedOnce hcreate rfl) .refl, hserves.cannotRender hopens hfails⟩⟩
    · cases hnew
  | renderInclude name args owner =>
    rcases on_bind_error_iff.mp h with hinclude | ⟨_, _, -, hnew⟩
    · obtain ⟨i, e', hopen, hopens, rfl, -, hfails⟩ :=
        on_renderInclude_error hserves.sound hinclude
      exact .inr ⟨i.name, rfl, .inr ⟨i.id, args, i.owner, e',
        .head (.asked hopen (by rintro ⟨⟩)) .refl, hserves.cannotRender hopens hfails⟩⟩
    · cases hnew
  | source name =>
    rcases on_bind_error_iff.mp h with hload | ⟨_, _, -, hnew⟩
    · rcases on_loadSource_error hload with ⟨habsent, rfl⟩ | ⟨f, hf⟩
      · exact .inr ⟨name, rfl, .inl (.unknown (hserves.sources ▸ habsent))⟩
      · exact absurd (hserves.sources ▸ hf) (hreadable.found name f)
    · cases hnew
  | dispose id => cases h
  | clear => cases h

end Stencil
