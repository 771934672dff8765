import Stencil.Proofs.Engine.Mirroring
import Stencil.Proofs.Engine.Quiet
import Stencil.Proofs.Engine.Sparing

/-!
# Includes are inlined

When a template is compiled, each include becomes a literal with the text that the other template
gives on its own for the same arguments. What templates that are included assign to stays with them,
and they see nothing of what the template that includes them assigns to.
-/

namespace Stencil

open Template (Compiled Failure Segment)

variable {m : Machine}

namespace Action

/-- What a template gives if it is rendered once, on an engine where nothing else is going on. -/
def ownText (nested : Nested) (args : Entries) (e : Engine) (name : Text) : Except Failure Text :=
  ((renderOnce nested name args).on e).1

/-- Renders an instance whose includes are replaced with texts that are known. -/
def renderInlined (m : Machine) (nested : Nested) (texts : Text → Except Failure Text) (id : Nat)
    (args : Entries) : Action Text := do
  let scope ← bindScope id args
  let (i, extraction) ← takeApart id
  let program ← MonadExcept.ofExcept <|
    Template.generate (m := Except Failure) (some texts) extraction.segments
  let compiled ← equip id i.name extraction.spans.length program
  runProgram m nested (← «instance» id).owner scope compiled

end Action

open Engine Stencil.Action

/-! ## While includes are expanded -/

/-- The engine when the includes of an instance begin to be expanded: it has gone on from an engine
whose objects in a region are still the same, and the instance has its arguments in its scope. -/
structure Region.Begun (r : Region) (args : Entries) (e : Engine) (template : Text)
    (id scope : Nat) (start : Engine) : Prop where
  sound : start.Sound
  settings : start.settings = e.settings
  sources : start.sources = e.sources
  globals : start.globals = e.globals
  codes : start.codes = e.codes
  unchanged : r.Unchanged e.heap start.heap
  closed : r.Closed start.heap
  «instance» : ∃ i, start.instance? id = some i ∧ i.name = template ∧ i.owner = id ∧
    i.scope = scope ∧ i.renderer = none
  bound : start.heap.mappings[scope]? = some ⟨true, args⟩
  apart : ¬ r.has .mapping scope

variable (m) in
/-- The engine after some includes. The objects of the region are what they were at first, and the
scope of the instance is what it was in the beginning. -/
structure Region.Expanded (r : Region) (e : Engine) (scope : Nat) (start f : Engine) : Prop where
  work : start.Work m none f
  quiet : start.Quiet none f
  agree : f.heap.ContentsMatch r.diagonal e.heap
  lt : ∀ kind a, r.has kind a → a < f.heap.next kind
  bound : f.heap.mappings[scope]? = start.heap.mappings[scope]?

section

variable {r : Region} {args : Entries} {e start f : Engine}
  {template : Text} {id scope : Nat}

theorem Region.begun_bound (he : e.Sound) (hr : r.Covers e args) {i : Instance}
    (hopens : e.Opens i start) (howner : i.owner = i.id) :
    r.Begun args e i.name i.id start.heap.mappings.size (start.bound i.id args) := by
  have hclosed : r.Closed start.heap := hopens.heap ▸ hr.closed.newMapping _
  have hsize : start.heap.mappings.size = e.heap.mappings.size + 1 := by
    rw [hopens.heap]
    exact Array.size_push _
  exact {
    sound := (hopens.sound he).bound
    settings := hopens.settings
    sources := hopens.sources
    globals := hopens.globals
    codes := hopens.codes
    unchanged := by
      have hfirst : r.Unchanged e.heap start.heap :=
        hopens.heap ▸ unchanged_newMapping (hr.closed.lt .mapping) _
      exact hfirst.trans (unchanged_newMapping (hclosed.lt .mapping) _)
    closed := hclosed.newMapping _
    «instance» := ⟨_, (hopens.sound he).instance?_bound hopens.instance?, rfl, howner, rfl,
      hopens.renderer⟩
    bound := Array.getElem?_push_size
    apart := fun hscope => by
      have hlt := hr.closed.lt .mapping _ hscope
      simp only [Heap.next] at hlt
      omega }

theorem Region.Begun.takeApart (hb : r.Begun args e template id scope start) {i : Instance}
    {extraction : Template.Extraction}
    (h : (takeApart id).on start = (.ok (i, extraction), f)) :
    r.Begun args e template id scope f ∧ i.name = template ∧ i.scope = scope ∧
      ∃ source, e.sources.find? template = .ok (some source) ∧
        extraction = Template.extract e.settings.trimLines source := by
  obtain ⟨j, hj, hname, howner, hscope, hrenderer⟩ := hb.instance
  cases takesApart_of_on h with
  | @taken _ source _ tree hi hsource hextraction htree =>
    cases hi.symm.trans hj
    have hsound : (start.update id (·.withExtraction extraction)).Sound :=
      hb.sound.update_sameTable fun i => ⟨rfl, rfl, rfl, rfl⟩
    refine ⟨{ hb with
      sound := hsound.update_sameTable fun i => ⟨rfl, rfl, rfl, rfl⟩
      «instance» := ⟨_, hsound.instance?_update (hb.sound.instance?_update hj), hname, howner,
        hscope, hrenderer⟩ }, hname, hscope, source, ?_, ?_⟩
    · rw [← hname, ← hb.sources, hsource]
    · rw [← hextraction, hb.settings]

theorem Region.Begun.expanded (hb : r.Begun args e template id scope start) (hr : r.Closed e.heap) :
    r.Expanded m e scope start start where
  work := .refl hb.sound
  quiet := .refl start
  agree := hb.unchanged.contentsMatch (.refl r e.heap) hr.contents
  lt := hb.closed.lt
  bound := rfl

namespace Region.Expanded

theorem hosts (hf : r.Expanded m e scope start f) {i : Instance}
    (hi : start.instance? id = some i) (howner : i.owner = id) :
    ∃ j, f.Hosts id j ∧ j.owner = id ∧ j.name = i.name ∧ j.scope = i.scope ∧
      j.renderer = i.renderer := by
  obtain ⟨j, hj, hlater, hsame⟩ := hf.work.instance? hi
  obtain ⟨j', hj', -, -, hkept⟩ := hf.quiet.instance? hi
  cases hj.symm.trans hj'
  have howner' : j.owner = id := hlater.owner.trans howner
  refine ⟨j, ⟨hj, ?_⟩, howner', hlater.name, hkept nofun, hsame.renderer⟩
  rw [howner', hj]
  rfl

theorem next {f' : Engine} (hf : r.Expanded m e scope start f) (hwork : f.Work m none f')
    (hquiet : f.Quiet none f') {own : Nat → Nat → Prop} (b : r.Beside f.heap e.heap own)
    {e' : Engine} (hheap : f'.heap.Matches b.matching e'.heap)
    (hkept : r.Unchanged e.heap e'.heap) (hb : r.Begun args e template id scope start) :
    r.Expanded m e scope start f' where
  work := hf.work.trans hwork
  quiet := hf.quiet.trans hquiet hf.work.follows
  agree := b.agree_after hheap hkept
  lt := b.lt_after hheap
  bound := by
    have hlt := (Array.getElem?_eq_some_iff.mp (hf.bound.trans hb.bound)).1
    exact (b.mapping_after hheap hb.apart hlt).trans hf.bound

end Region.Expanded

namespace Action

variable {nested : Nested}

theorem on_includeMarkup_of_bound {i : Instance} (hi : f.instance? id = some i)
    (hscope : f.heap.mappings[scope]? = some ⟨true, args⟩) {name : Text} :
    (includeMarkup nested id scope name).on f =
      (renderInclude nested name args (some i.owner)).on
        ((note ["Inlining include '", name, "'"]).on f).2 := by
  rw [on_includeMarkup hi, Heap.mapping, Array.getD_eq_getD_getElem?, hscope]
  rfl

theorem InStep.renderInclude_renderOnce (hn : InStep nested nested) {π : Pairing}
    (h : f.Matches π e) (name : Text) {owner : Nat} (howner : (f.instance? owner).isSome = true)
    (hargs : List.Forall₂ (EntryMatches π.toMatching) args args) :
    ((renderInclude nested name args (some owner)).on f).1 =
        ((renderOnce nested name args).on e).1 ∧
      ((renderInclude nested name args (some owner)).on f).2.Matches π
        ((renderOnce nested name args).on e).2 := by
  obtain ⟨i, f', hopen, hopens, hname, hi⟩ := on_openInclude name (some owner) h.sound
  obtain ⟨j, e', hcreate, hopens', hname', hj⟩ := on_create name none e
  rw [renderInclude, renderOnce, on_bind_of_ok hopen, on_bind_of_ok hcreate]
  obtain ⟨host, hhost⟩ := Option.isSome_iff_exists.mp howner
  have howned : (f'.instance? i.owner).isSome = true := by
    rw [hi, Option.getD_some, hopens.instance?_of_some hhost]
    rfl
  have howned' : (e'.instance? j.owner).isSome = true := by
    rw [hj, hopens'.instance?]
    rfl
  exact (hn.opened h hopens hopens' (hname.trans hname'.symm) howned howned' hargs).imp_left
    ResultsMatch.eq

section

variable (hn : InStep nested nested) (hs : Secluded m nested) (hp : Proper m nested)
  (he : e.Sound) (hplain : e.sources.Plain e.settings) (hr : r.Covers e args)
  (hb : r.Begun args e template id scope start)
include hn hs hp he hplain hr hb

theorem includeMarkup_eq (hf : r.Expanded m e scope start f) {name : Text}
    (hkept : r.Unchanged e.heap ((renderOnce nested name args).on e).2.heap) :
    ((includeMarkup nested id scope name).on f).1 = ownText nested args e name ∧
      r.Expanded m e scope start ((includeMarkup nested id scope name).on f).2 := by
  have hcalm := hs.includeMarkup hp id scope name
  have hwork := hcalm.works f hf.work.sound
  have hquiet := hcalm.quiet f hf.work.sound
  obtain ⟨i₀, hi₀, -, howner, -⟩ := hb.instance
  obtain ⟨i, hi, -⟩ := hf.hosts hi₀ howner
  have b := hr.beside hf.agree hf.lt (hb.codes ▸ hf.quiet.codes)
  have hmatches : f.Matches (b.pairing hplain none) e :=
    hr.matches_engine b hplain none hf.work.sound he (hf.work.settings.trans hb.settings)
      (hf.work.sources.trans hb.sources) (hf.quiet.globals.trans hb.globals) nofun
  have hhost := hi.2
  rw [on_includeMarkup_of_bound hi.1 (hf.bound.trans hb.bound)] at hwork hquiet ⊢
  -- That the include is noted changes nothing that matters.
  have hnoted :
      ((note ["Inlining include '", name, "'"]).on f).2.Matches (b.pairing hplain none) e :=
    hmatches.transfer (hmatches.sound.of_alike ⟨rfl, rfl, rfl, rfl⟩) he rfl rfl rfl rfl rfl rfl rfl
      rfl hmatches.codes hmatches.heap
  obtain ⟨hresult, hengines⟩ :=
    hn.renderInclude_renderOnce hnoted name hhost (hr.matches_args b)
  exact ⟨hresult, hf.next hwork hquiet b hengines.heap hkept hb⟩

theorem generateSegment_eq (hf : r.Expanded m e scope start f) (segment : Segment)
    (hkept : ∀ s name, segment = .span s → s.classify = .include name →
      r.Unchanged e.heap ((renderOnce nested name args).on e).2.heap) :
    ((segment.generate (m := Action) (some (includeMarkup nested id scope))).on f).1 =
        segment.generate (m := Except Failure) (some (ownText nested args e)) ∧
      r.Expanded m e scope start
        ((segment.generate (m := Action) (some (includeMarkup nested id scope))).on f).2 := by
  cases segment with
  | chunk text position => exact ⟨rfl, hf⟩
  | span s =>
    cases hclassify : s.classify with
    | «include» name =>
      rw [Template.Segment.generate_span_include hclassify,
        Template.Segment.generate_span_include hclassify, on_bind]
      obtain ⟨hresult, hexpanded⟩ :=
        includeMarkup_eq hn hs hp he hplain hr hb hf (hkept s name rfl hclassify)
      rw [← hresult]
      cases hrun : (includeMarkup nested id scope name).on f with
      | mk result f' =>
        rw [hrun] at hexpanded
        cases result with
        | ok markup => exact ⟨rfl, hexpanded⟩
        | error failure => exact ⟨rfl, hexpanded⟩
    | _ =>
      have hinclude : s.classify.isInclude = false := by rw [hclassify]; rfl
      rw [Template.Segment.generate_span hinclude, Template.Segment.generate_span hinclude]
      exact ⟨rfl, hf⟩

/-- The program is the one with the texts that the templates give on their own, or there is none
because one of them gives none. -/
theorem generate_eq (hf : r.Expanded m e scope start f) (segments : List Segment)
    (hkept : ∀ s name, .span s ∈ segments → s.classify = .include name →
      r.Unchanged e.heap ((renderOnce nested name args).on e).2.heap) :
    ((Template.generate (m := Action) (some (includeMarkup nested id scope)) segments).on f).1 =
        Template.generate (m := Except Failure) (some (ownText nested args e)) segments ∧
      r.Expanded m e scope start
        ((Template.generate (m := Action) (some (includeMarkup nested id scope))
          segments).on f).2 := by
  induction segments generalizing f with
  | nil => exact ⟨rfl, hf⟩
  | cons segment more ih =>
    obtain ⟨hfirst, hexpanded⟩ := generateSegment_eq hn hs hp he hplain hr hb hf segment
      fun s name hs => hkept s name (hs ▸ .head _)
    rw [Template.generate, Template.generate, ← hfirst, on_bind]
    cases hrun : (segment.generate (m := Action) (some (includeMarkup nested id scope))).on f with
    | mk result f' =>
      rw [hrun] at hexpanded
      cases result with
      | error failure => exact ⟨rfl, hexpanded⟩
      | ok first =>
        obtain ⟨hrest, hexpanded'⟩ := ih hexpanded fun s name hs => hkept s name (.tail _ hs)
        change _ = (Template.generate (m := Except Failure) (some (ownText nested args e)) more >>=
          fun rest => pure (first ++ rest)) ∧ _
        rw [← hrest]
        simp only [on_bind]
        cases hrun' : (Template.generate (m := Action) (some (includeMarkup nested id scope))
            more).on f' with
        | mk result f'' =>
          rw [hrun'] at hexpanded'
          cases result <;> exact ⟨rfl, hexpanded'⟩

end

end Action

theorem Region.Expanded.matches_start (hf : r.Expanded m e scope start f)
    (hplain : e.sources.Plain e.settings) (hr : r.Covers e args)
    (hb : r.Begun args e template id scope start) :
    ∃ π : Pairing, π.ids id id ∧ π.rel .mapping scope scope ∧ f.Matches π start := by
  have hbound : Mapping.Matches r.diagonal ⟨true, args⟩ ⟨true, args⟩ := ⟨rfl, hr.args⟩
  have hagree : f.heap.ContentsMatch r.diagonal start.heap :=
    (Unchanged.refl r f.heap).contentsMatch hb.unchanged hf.agree
  have hlt : ∀ kind a, (r.add scope).has kind a → a < f.heap.next kind := by
    rintro kind a (ha | ⟨rfl, rfl⟩)
    · exact hf.lt kind a ha
    · exact (Array.getElem?_eq_some_iff.mp (hf.bound.trans hb.bound)).1
  have hcovers := (hr.of_unchanged hb.closed (Nat.le_of_eq hb.codes.symm) hb.globals).add hb.bound
  have b := hcovers.beside
    (contentsMatch_add hagree hb.closed.contents hbound (hf.bound.trans hb.bound) hb.bound) hlt
    hf.quiet.codes
  have hscope : b.matching.rel .mapping scope scope := .inl ⟨.inr ⟨rfl, rfl⟩, rfl⟩
  refine ⟨b.pairing (hb.sources ▸ hb.settings ▸ hplain) (some id), ⟨rfl, rfl⟩, hscope,
    hcovers.matches_engine b _ _ hf.work.sound hb.sound hf.work.settings hf.work.sources
      hf.quiet.globals fun k hk => ?_⟩
  cases hk
  obtain ⟨i, hi, -, howner, hiscope, hrenderer⟩ := hb.instance
  obtain ⟨j, hj, -, hname, hjscope, hjrenderer⟩ := hf.hosts hi howner
  refine ⟨j, i, hj, ⟨hi, by rw [howner, hi]; rfl⟩, hname, ?_, ?_⟩
  · rw [hjrenderer, hrenderer]
    exact .none
  · rw [hjscope, hiscope]
    exact hscope

/-! ## Rendering for the first time -/

/-- What a template includes changes no object of the region if it is rendered on its own. -/
def Action.IncludesSpare (r : Region) (nested : Nested) (args : Entries) (e : Engine)
    (template : Text) : Prop :=
  ∀ source, e.sources.find? template = .ok (some source) →
    ∀ s name, .span s ∈ (Template.extract e.settings.trimLines source).segments →
      s.classify = .include name →
        r.Unchanged e.heap ((renderOnce nested name args).on e).2.heap

namespace Action

variable {nested : Nested} {fuel steps : Nat}

section

variable (hn : InStep nested nested) (hs : Secluded ⟨.standard fuel, steps⟩ nested)
  (hp : Proper ⟨.standard fuel, steps⟩ nested)
  (he : e.Sound) (hplain : e.sources.Plain e.settings) (hr : r.Covers e args)
  (hkept : IncludesSpare r nested args e template)
include hn hs hp he hplain hr hkept

theorem on_compile_eq (hb : r.Begun args e template id scope start) :
    ((do
        let compiled ← compile nested id
        runProgram ⟨.standard fuel, steps⟩ nested (← «instance» id).owner scope compiled).on
          start).1 =
      ((do
        let (i, extraction) ← takeApart id
        let program ← MonadExcept.ofExcept <| Template.generate (m := Except Failure)
          (some (ownText nested args e)) extraction.segments
        let compiled ← equip id i.name extraction.spans.length program
        runProgram ⟨.standard fuel, steps⟩ nested (← «instance» id).owner scope compiled).on
          start).1 := by
  simp only [compile, bind_assoc]
  rw [on_bind, on_bind]
  cases htake : (takeApart id).on start with
  | mk taken f =>
    cases taken with
    | error failure => rfl
    | ok taken =>
      obtain ⟨i, extraction⟩ := taken
      obtain ⟨hb', hname, hscope, source, hsource, rfl⟩ := hb.takeApart htake
      obtain ⟨hprogram, hexpanded⟩ := generate_eq hn hs hp he hplain hr hb'
        (hb'.expanded hr.closed) _ (hkept source hsource)
      simp only [hscope, ← hprogram]
      rw [on_bind]
      cases hrun : (Template.generate (m := Action) (some (includeMarkup nested id scope))
          (Template.extract e.settings.trimLines source).segments).on f with
      | mk result f' =>
        rw [hrun] at hprogram hexpanded
        cases result with
        | error failure => rfl
        | ok program =>
          -- From here on both sides do the same, on engines that match.
          obtain ⟨π, hid, hbound, hmatches⟩ := hexpanded.matches_start hplain hr hb'
          have hequip := Mirrors.equip hid i.name
            (Template.extract e.settings.trimLines source).spans.length
            (Template.all_isPlain_of_generate (hplain _ _ hsource) hprogram.symm)
          exact ((hequip.bind fun _ _ hcompiled =>
            .runProgram nested nested hid hbound hcompiled) f' f hmatches).1.eq

theorem mapping_of_on_compile (hb : r.Begun args e template id scope start) {compiled : Compiled}
    (h : (compile nested id).on start = (.ok compiled, f)) :
    f.heap.mapping scope = ⟨true, args⟩ := by
  obtain ⟨⟨i, extraction⟩, f₀, htake, hrest⟩ := on_bind_ok_iff.mp h
  obtain ⟨program, f₁, hrun, hequip⟩ := on_bind_ok_iff.mp hrest
  obtain ⟨hb', hname, hscope, source, hsource, rfl⟩ := hb.takeApart htake
  obtain ⟨-, hexpanded⟩ := generate_eq hn hs hp he hplain hr hb' (hb'.expanded hr.closed) _
    (hkept source hsource)
  rw [← hscope, hrun] at hexpanded
  have hbound : f₁.heap.mappings[i.scope]? = some ⟨true, args⟩ := by
    rw [hexpanded.bound, hscope, hb'.bound]
  have hspared := Moves.equip (R := Heap.Spares i.scope) id i.name
    (Template.extract e.settings.trimLines source).spans.length program f₁
    (Array.getElem?_eq_some_iff.mp hbound).1
  rw [hequip, hbound, hscope] at hspared
  rw [Heap.mapping, Array.getD_eq_getD_getElem?, hspared]
  rfl

end

theorem on_takeApart {i : Instance} {source : Text} {tree : Markup.Element}
    (hi : e.instance? id = some i) (hsource : e.sources.find? i.name = .ok (some source))
    (htree : Markup.Reader.read { parser := e.settings.markupParser }
      (Template.extract e.settings.trimLines source).snapshot = .ok tree) :
    ∃ e', (takeApart id).on e = (.ok (i, Template.extract e.settings.trimLines source), e') := by
  have hload : (loadSource i.name).on e = (.ok source, e) := by
    rw [loadSource, on_bind_of_ok (on_get e), hsource]
    rfl
  rw [takeApart, on_bind_of_ok (on_instance_of_some hi), on_bind_of_ok hload,
    on_bind_of_ok (on_get e), on_bind_of_ok (on_update _ _ e), on_bind_of_ok (on_reader _),
    update_settings, htree]
  exact ⟨_, rfl⟩

section

variable {depth : Nat} {hook : Option Text} (he : e.Sound) (hplain : e.sources.Plain e.settings)
  (hr : r.Covers e args)
  (hkept : IncludesSpare r (render ⟨.standard fuel, steps⟩ depth) args e template)
include he hplain hr hkept

theorem on_render_first :
    ((do
        let id ← create template hook
        render ⟨.standard fuel, steps⟩ (depth + 1) id args).on e).1 =
      ((do
        let id ← create template hook
        renderInlined ⟨.standard fuel, steps⟩ (render ⟨.standard fuel, steps⟩ depth)
          (ownText (render ⟨.standard fuel, steps⟩ depth) args e) id args).on e).1 := by
  obtain ⟨i, start, hcreate, hopens, rfl, howner⟩ := on_create template hook e
  have hb := Region.begun_bound he hr hopens howner
  obtain ⟨j, hj, -, -, -, hnone⟩ := hb.instance
  have hbind := on_bindScope_eq i.id args start
  rw [on_bind_of_ok hcreate, on_bind_of_ok hcreate, render, renderWith, renderInlined,
    on_bind_of_ok hbind, on_bind_of_ok hbind, on_bind, on_ready_of_none hj hnone, ← on_bind]
  exact on_compile_eq (inStep_render fuel steps depth) (secluded_render _ depth)
    (proper_render _ depth) he hplain hr hkept hb

theorem on_render_first_error {source : Text} {tree : Markup.Element}
    (hsource : e.sources.find? template = .ok (some source))
    (htree : Markup.Reader.read { parser := e.settings.markupParser }
      (Template.extract e.settings.trimLines source).snapshot = .ok tree)
    {pre post : List Segment} {s : Template.Span} {name : Text} {failure : Failure}
    (hsegments : (Template.extract e.settings.trimLines source).segments = pre ++ .span s :: post)
    (hpre : Template.IncludesGiven (ownText (render ⟨.standard fuel, steps⟩ depth) args e) pre)
    (hs : s.classify = .include name)
    (hfail : ownText (render ⟨.standard fuel, steps⟩ depth) args e name = .error failure) :
    ((do
        let id ← create template hook
        render ⟨.standard fuel, steps⟩ (depth + 1) id args).on e).1 = .error failure := by
  rw [on_render_first he hplain hr hkept]
  obtain ⟨i, start, hcreate, hopens, rfl, howner⟩ := on_create template hook e
  have hb := Region.begun_bound he hr hopens howner
  obtain ⟨j, hj, hname, -⟩ := hb.instance
  rw [on_bind_of_ok hcreate, renderInlined, on_bind_of_ok (on_bindScope_eq _ _ _)]
  rw [← hb.settings] at htree hsegments
  rw [← hb.sources, ← hname] at hsource
  obtain ⟨f, htake⟩ := on_takeApart hj hsource htree
  rw [on_bind_of_ok htake]
  simp only [hsegments]
  rw [Template.generate_eq_error hpre hs hfail]
  rfl

theorem on_scope_first {entries : Entries}
    (h : ((do
        let id ← create template hook
        let scope ← bindScope id args
        let _ ← ready (render ⟨.standard fuel, steps⟩ depth) id
        mapping scope).on e).1 = .ok entries) : entries = args := by
  obtain ⟨i, start, hcreate, hopens, rfl, howner⟩ := on_create template hook e
  have hb := Region.begun_bound he hr hopens howner
  obtain ⟨j, hj, -, -, -, hnone⟩ := hb.instance
  rw [on_bind_of_ok hcreate, on_bind_of_ok (on_bindScope_eq _ _ _), on_bind,
    on_ready_of_none hj hnone] at h
  cases hrun : (compile (render ⟨.standard fuel, steps⟩ depth) i.id).on (start.bound i.id args) with
  | mk result f =>
    rw [hrun] at h
    cases result with
    | error failure => cases h
    | ok compiled =>
      have hscope := mapping_of_on_compile (inStep_render fuel steps depth)
        (secluded_render _ depth) (proper_render _ depth) he hplain hr hkept hb hrun
      change Except.ok (f.heap.mapping start.heap.mappings.size).entries = .ok entries at h
      rw [hscope] at h
      cases h
      rfl

end

end Action

end

/-! ## An include that assigns -/

/-- The main template shows its argument behind an include, which assigns to the name of it. -/
def titles : Engine :=
  { sources := .table [("main".toList, "\x7binclude part\x7d\x7b$title\x7d".toList),
      ("part".toList, "\x7bassign title = 'changed'\x7d[\x7b$title\x7d]".toList)] }

def title : Entries := [named "title" (.str "orig".toList .shared)]

theorem Region.covers_titles : empty.Covers titles title where
  closed := closed_empty _
  codes := nofun
  globals := nofun
  args := .cons ⟨.str _ .shared, .str _ .shared⟩ .nil

end Stencil
