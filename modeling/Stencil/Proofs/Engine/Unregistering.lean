import Stencil.Proofs.Engine.Activity

/-!
# Unregistering

Whatever is rendered leaves all instances in the registry that were in it, unless an expression asks
for something else: that the instance be disposed of that it runs for, or that the registry be
cleared. What has been asked for once stays so until the end.
-/

namespace Stencil

open Template (Compiled Config Failure Segment)

variable {m : Machine} {k : Nat}

/-! ## What leaves the registry as it is -/

namespace Action

open Engine

variable {α β : Type}

def Steady (x : Action α) : Prop := ∀ e : Engine, (x.on e).2.registry = e.registry

namespace Steady

theorem mem {x : Action α} (h : x.Steady) {e : Engine} (hk : k ∈ e.registry) :
    k ∈ (x.on e).2.registry :=
  (h e).symm ▸ hk

protected theorem pure (a : α) : (pure a : Action α).Steady := fun _ => rfl

protected theorem throw (failure : Failure) : (throw failure : Action α).Steady := fun _ => rfl

protected theorem bind {x : Action α} {f : α → Action β} (hx : x.Steady)
    (hf : ∀ a, (f a).Steady) : (x >>= f).Steady := by
  intro e
  have hfirst := hx e
  rw [on_bind]
  cases hrun : x.on e with
  | mk result e₁ =>
      rw [hrun] at hfirst
      cases result with
      | ok a => exact (hf a e₁).trans hfirst
      | error failure => exact hfirst

protected theorem get : (get : Action Engine).Steady := fun _ => rfl

protected theorem note (parts : List Text) : (note parts).Steady := fun _ => rfl

protected theorem newText (t : Text) : (newText t).Steady := fun _ => rfl

protected theorem newInt (n : Int) : (newInt n).Steady := fun _ => rfl

protected theorem newScope (entries : Entries) : (newScope entries).Steady := fun _ => rfl

protected theorem update (id : Nat) (f : Instance → Instance) : (update id f).Steady := fun _ => rfl

protected theorem ofExcept (r : Except Fault α) : (ofExcept r).Steady := by
  cases r with
  | ok a => exact .pure a
  | error f => exact .throw _

protected theorem mapping (address : Nat) : (mapping address).Steady :=
  .bind .get fun _ => .pure _

protected theorem reader : reader.Steady := .bind .get fun _ => .pure _

protected theorem «instance» (id : Nat) : («instance» id).Steady := by
  refine .bind .get fun e => ?_
  cases e.instance? id with
  | some i => exact .pure i
  | none => exact .throw _

protected theorem loadSource (name : Text) : (loadSource name).Steady := by
  refine .bind .get fun e => .bind (.ofExcept _) fun found => ?_
  cases found with
  | some text => exact .pure text
  | none =>
      refine .bind .get fun e => ?_
      cases e.sources with
      | library l => exact .bind (.note _) fun _ => .throw _
      | table entries => exact .throw _

protected theorem capture (id : Nat) (v : Value) : (capture id v).Steady := by
  refine .bind (.instance id) fun i => ?_
  cases i.captured.findIdx? (·.same v) with
  | some index => exact .pure index
  | none => exact .bind (.update id _) fun _ => .pure _

protected theorem referenceText (id : Nat) (index : Int) : (referenceText id index).Steady :=
  .bind .get fun _ => .ofExcept _

protected theorem build (name : Text) (program : Template.Program) :
    (build name program).Steady := by
  refine .bind .get fun e => ?_
  cases Template.compile name e.codes program with
  | ok compiled => exact fun _ => rfl
  | error failure => exact .throw failure

protected theorem takeApart (id : Nat) : (takeApart id).Steady :=
  .bind (.instance id) fun i => .bind (.loadSource i.name) fun _ => .bind .get fun _ =>
    .bind (.update id _) fun _ => .bind .reader fun _ => .bind (.ofExcept _) fun _ =>
      .bind (.update id _) fun _ => .pure _

protected theorem equip (id : Nat) (name : Text) (spans : Nat) (program : Template.Program) :
    (equip id name spans program).Steady :=
  .bind (.build name program) fun _ => .bind (.update id _) fun _ => .bind (.note _) fun _ =>
    .pure _

protected theorem bindScope (id : Nat) (args : Entries) : (bindScope id args).Steady := fun _ => rfl

protected theorem callHook (hook : Option Text) (rootOf : Option Nat) (node : Markup.Element) :
    (callHook hook rootOf node).Steady := by
  cases hook with
  | some hook => exact fun _ => rfl
  | none => exact .pure ()

protected theorem findElement (tree : Markup.Element) (selector : Text) :
    (findElement tree selector).Steady :=
  .bind (.ofExcept _) fun _ => .pure _

protected theorem missed (i : Instance) (why : List Text) :
    (missed i why : Action (Option α)).Steady :=
  .bind (.note _) fun _ => .pure _

protected theorem findBoth (i : Instance) (selector : Text) : (findBoth i selector).Steady := by
  rw [findBoth]
  split
  · refine .bind (.findElement _ _) fun found => ?_
    cases found with
    | none => exact .missed _ _
    | some found =>
        refine .bind (.findElement _ _) fun found => ?_
        cases found with
        | none => exact .missed _ _
        | some found => exact .pure _
  · exact .missed _ _

protected theorem overlaidScope (id : Nat) (args : Entries) : (overlaidScope id args).Steady :=
  .bind (.instance id) fun _ => .bind (.mapping _) fun _ => .newScope _

protected theorem replace (i : Instance) (selector : Text) (found : Found) (markup : Text) :
    (replace i selector found markup).Steady := by
  refine .bind .reader fun _ => .bind (.ofExcept _) fun replaced => .bind (.update _ _) fun _ =>
    .bind (.note _) fun _ => ?_
  cases replaced.2 with
  | none => exact .pure ()
  | some new => exact .callHook _ _ _

end Steady

/-! ## What keeps an instance registered -/

theorem mem_registry_bind {x : Action α} {f : α → Action β} {e : Engine}
    (hx : k ∈ (x.on e).2.registry)
    (hf : ∀ a e₁, x.on e = (.ok a, e₁) → k ∈ e₁.registry → k ∈ ((f a).on e₁).2.registry) :
    k ∈ ((x >>= f).on e).2.registry := by
  rw [on_bind]
  cases hrun : x.on e with
  | mk result e₁ =>
      rw [hrun] at hx
      cases result with
      | ok a => exact hf a e₁ hrun hx
      | error failure => exact hx

end Action

namespace Engine.Opens

variable {e e₁ : Engine} {i : Instance}

theorem mem_registry (h : e.Opens i e₁) (hk : k ∈ e.registry) : k ∈ e₁.registry := by
  rw [h.registry]
  exact List.mem_append_left _ hk

theorem mem_dispose (h : e.Opens i e₁) (he : e.Sound) (hk : k ∈ e.registry) {e' : Engine}
    (hk' : k ∈ e'.registry) : k ∈ (e'.dispose i.id).registry := by
  have hne : k ≠ i.id := fun heq => he.registry_le (h.id ▸ heq ▸ hk)
  exact (List.mem_erase_of_ne hne).mpr hk'

end Engine.Opens

namespace Action

open Engine

variable {nested : Nested} {e : Engine}

theorem mem_registry_renderOnce (he : e.Sound) (hk : k ∈ e.registry) {name : Text} {args : Entries}
    (hrender : ∀ id e₁, (create name none).on e = (.ok id, e₁) → k ∈ e₁.registry →
      k ∈ ((nested id args).on e₁).2.registry) :
    k ∈ ((renderOnce nested name args).on e).2.registry := by
  obtain ⟨i, e₁, hcreate, hopens, -⟩ := on_create name none e
  rw [renderOnce, on_bind_of_ok hcreate, on_andFinally]
  exact hopens.mem_dispose he hk (hrender i.id e₁ hcreate (hopens.mem_registry hk))

theorem mem_registry_renderInclude (he : e.Sound) (hk : k ∈ e.registry) {name : Text}
    {args : Entries} {owner : Option Nat}
    (hrender : ∀ id e₁, (openInclude name owner).on e = (.ok id, e₁) → k ∈ e₁.registry →
      k ∈ ((nested id args).on e₁).2.registry) :
    k ∈ ((renderInclude nested name args owner).on e).2.registry := by
  obtain ⟨i, e₁, hopen, hopens, -⟩ := on_openInclude name owner he
  rw [renderInclude, on_bind_of_ok hopen, on_andFinally]
  exact hopens.mem_dispose he hk (hrender i.id e₁ hopen (hopens.mem_registry hk))

theorem mem_registry_ready {id : Nat} (hk : k ∈ e.registry)
    (hcompile : ∀ i, e.instance? id = some i → i.renderer = none →
      k ∈ ((compile nested id).on e).2.registry) :
    k ∈ ((ready nested id).on e).2.registry := by
  cases hi : e.instance? id with
  | none =>
      rw [ready, on_bind, on_instance, hi]
      exact hk
  | some i =>
      cases hrenderer : i.renderer with
      | none =>
          rw [on_ready_of_none hi hrenderer]
          exact hcompile i hi hrenderer
      | some compiled =>
          rw [ready, on_bind_of_ok (on_instance_of_some hi), hrenderer]
          exact hk

theorem mem_registry_generateSegment {id scope : Nat} {segment : Segment} (he : e.Sound)
    (hk : k ∈ e.registry)
    (hincluded : ∀ s name i temporary e₁, segment = .span s → s.classify = .include name →
      e.instance? id = some i →
      (openInclude name (some i.owner)).on ((note ["Inlining include '", name, "'"]).on e).2 =
        (.ok temporary, e₁) →
      k ∈ e₁.registry → k ∈ ((nested temporary (e.heap.mapping scope).entries).on e₁).2.registry) :
    k ∈ ((segment.generate (some (includeMarkup nested id scope))).on e).2.registry := by
  cases segment with
  | chunk text position => exact hk
  | span s =>
      cases hclassify : s.classify with
      | «include» name =>
          rw [Template.Segment.generate_span_include hclassify]
          refine mem_registry_bind ?_ fun _ _ _ hk => hk
          cases hi : e.instance? id with
          | none =>
              have hmapping (e : Engine) :
                (mapping scope).on e = (.ok (e.heap.mapping scope).entries, e) := rfl
              have hnoted : ((note ["Inlining include '", name, "'"]).on e).2.instance? id = none :=
                hi
              rw [includeMarkup, on_bind_of_ok (on_note _ e), on_bind_of_ok (hmapping _), on_bind,
                on_instance]
              rw [on_note] at hnoted
              rw [hnoted]
              exact hk
          | some i =>
              have hnote : e.Alike ((note ["Inlining include '", name, "'"]).on e).2 :=
                ⟨rfl, rfl, rfl, rfl⟩
              rw [on_includeMarkup hi]
              exact mem_registry_renderInclude (he.of_alike hnote) hk fun temporary e₁ =>
                hincluded s name i temporary e₁ rfl hclassify hi
      | _ =>
          rw [Template.Segment.generate_span (by rw [hclassify]; rfl)]
          exact hk

end Action

/-- A request that the instance be no longer registered. -/
def Request.Unregisters (k : Nat) : Request → Prop
  | .dispose id => id = k
  | .clear => True
  | _ => False

namespace Activity

open Stencil.Action Engine

/-- Somewhere in the activity an expression asks that the instance be no longer registered. -/
def Unregisters (m : Machine) (A : Activity) (e : Engine) (k : Nat) : Prop :=
  ∃ j request memory resume e',
    A.Leads m false e (.dialog j (.ask request memory resume)) e' ∧ request.Unregisters k

variable {A A' : Activity} {e e' : Engine} {sameOwner : Bool} {n : Nat}

theorem Part.forget (h : Part m sameOwner A e n A' e') : Part m false A e n A' e' := by
  cases h with
  | renderOnce hcreate => exact .renderOnce hcreate rfl
  | asked hopen => exact .asked hopen nofun
  | askedOnce hcreate => exact .askedOnce hcreate rfl
  | compile => exact .compile
  | render => exact .render
  | run => exact .run
  | reload hi hfound hscope => exact .reload hi hfound hscope
  | compiled hbind hi hrenderer => exact .compiled hbind hi hrenderer
  | rendered hbind hready hi hhost hj => exact .rendered hbind hready hi hhost hj
  | generated htake => exact .generated htake
  | included hclassify hi hopen => exact .included hclassify hi hopen
  | moreSegments hfirst => exact .moreSegments hfirst
  | fragmentGenerated hsegments => exact .fragmentGenerated hsegments
  | fragmentRendered hsegments hgenerate hbuild hhost hj =>
      exact .fragmentRendered hsegments hgenerate hbuild hhost hj
  | step hlt => exact .step hlt
  | moreSteps hlt hstep => exact .moreSteps hlt hstep
  | moreAsked hanswer => exact .moreAsked hanswer

theorem Leads.forget (h : Leads m sameOwner A e A' e') : Leads m false A e A' e' := by
  induction h with
  | refl => exact .refl
  | head h _ ih => exact .head h.forget ih

/-! ## Induction on parts -/

/-- What holds of an activity whenever it holds of all its parts holds of all activities. -/
theorem Part.induction {motive : Activity → Engine → Prop}
    (h : ∀ A e, (∀ n A' e', Part m false A e n A' e' → motive A' e') → motive A e)
    (A : Activity) (e : Engine) : motive A e := by
  -- The parts of rendering go one level down; on one level the segments of a template, the steps of
  -- a run and what is asked for in a step get fewer.
  have hgenerate {depth : Nat} (hrender : ∀ id args e, motive (.render depth id args) e)
      (id scope : Nat) (segments : List Segment) (e : Engine) :
      motive (.generate depth id scope segments) e := by
    induction segments generalizing e with
    | nil => exact h _ _ fun _ _ _ hpart => nomatch hpart
    | cons segment more ih =>
        refine h _ _ fun _ _ _ hpart => ?_
        cases hpart with
        | included => exact hrender _ _ _
        | moreSegments => exact ih _
  have hdialog {j : Job} (hrender : ∀ id args e, motive (.render j.depth id args) e)
      (d : Dialog Config) (e : Engine) : motive (.dialog j d) e := by
    induction d generalizing e with
    | done => exact h _ _ fun _ _ _ hpart => nomatch hpart
    | ask request memory resume ih =>
        refine h _ _ fun _ _ _ hpart => ?_
        cases hpart with
        | asked => exact hrender _ _ _
        | askedOnce => exact hrender _ _ _
        | moreAsked => exact ih _ _ _
  have hjob {j : Job} (hrender : ∀ id args e, motive (.render j.depth id args) e)
      (fuel : Nat) (c : Config) (memory : Memory) (e : Engine) :
      motive (.job j fuel c memory) e := by
    induction fuel generalizing c memory e with
    | zero => exact h _ _ fun _ _ _ hpart => nomatch hpart
    | succ fuel ih =>
        refine h _ _ fun _ _ _ hpart => ?_
        cases hpart with
        | step => exact hdialog hrender _ _
        | moreSteps => exact ih _ _ _
  have hcompile {depth : Nat} (hrender : ∀ id args e, motive (.render depth id args) e)
      (id : Nat) (e : Engine) : motive (.compile depth id) e := by
    refine h _ _ fun _ _ _ hpart => ?_
    cases hpart with
    | generated => exact hgenerate hrender _ _ _ _
  have hrender (depth id : Nat) (args : Entries) (e : Engine) :
      motive (.render depth id args) e := by
    induction depth generalizing id args e with
    | zero => exact h _ _ fun _ _ _ hpart => nomatch hpart
    | succ depth ih =>
        refine h _ _ fun _ _ _ hpart => ?_
        cases hpart with
        | compiled => exact hcompile ih _ _
        | rendered _ _ _ _ hj =>
            cases hj
            exact hjob ih _ _ _ _
  have hfragment (depth : Nat) (i : Instance) (scope : Nat) (element : Markup.Element)
      (e : Engine) : motive (.fragment depth i scope element) e := by
    refine h _ _ fun _ _ _ hpart => ?_
    cases hpart with
    | fragmentGenerated => exact hgenerate (hrender depth) _ _ _ _
    | fragmentRendered _ _ _ _ hj =>
        cases hj
        exact hjob (hrender depth) _ _ _ _
  cases A with
  | perform depth o =>
      refine h _ _ fun _ _ _ hpart => ?_
      cases hpart with
      | compile => exact hcompile (hrender depth) _ _
      | render => exact hrender _ _ _ _
      | run => exact hrender _ _ _ _
      | reload => exact hfragment _ _ _ _ _
      | renderOnce => exact hrender _ _ _ _
  | render depth id args => exact hrender depth id args e
  | compile depth id => exact hcompile (hrender depth) id e
  | generate depth id scope segments => exact hgenerate (hrender depth) id scope segments e
  | fragment depth i scope element => exact hfragment depth i scope element e
  | job j fuel c memory => exact hjob (hrender j.depth) fuel c memory e
  | dialog j d => exact hdialog (hrender j.depth) d e

/-! ## Who stays registered -/

theorem not_unregisters_of_part (h : Part m false A e n A' e') (hquiet : ¬ A.Unregisters m e k) :
    ¬ A'.Unregisters m e' k := by
  rintro ⟨j, request, memory, resume, e'', hleads, hrequest⟩
  exact hquiet ⟨j, request, memory, resume, e'', .head h hleads, hrequest⟩

theorem mem_registry_answer {j : Job} {request : Request} (he : e.Sound) (hk : k ∈ e.registry)
    (hrequest : ¬ request.Unregisters k)
    (honce : ∀ name args temporary e₁, request = .render name args →
      (create name none).on e = (.ok temporary, e₁) → k ∈ e₁.registry →
      k ∈ ((Action.render m j.depth temporary args).on e₁).2.registry)
    (hinclude : ∀ name args owner temporary e₁, request = .renderInclude name args owner →
      (openInclude name owner).on e = (.ok temporary, e₁) → k ∈ e₁.registry →
      k ∈ ((Action.render m j.depth temporary args).on e₁).2.registry) :
    k ∈ ((j.answer m request).on e).2.registry := by
  cases request with
  | capture id v => exact Steady.mem (.bind (.capture id v) fun _ => .newInt _) hk
  | reference id index => exact Steady.mem (.bind (.referenceText id index) fun _ => .newText _) hk
  | scope id => exact Steady.mem (.bind (.instance id) fun _ => .pure _) hk
  | render name args =>
      exact mem_registry_bind (mem_registry_renderOnce he hk fun id e₁ => honce name args id e₁ rfl)
        fun _ _ _ hk => (Steady.newText _).mem hk
  | renderInclude name args owner =>
      exact mem_registry_bind
        (mem_registry_renderInclude he hk fun id e₁ => hinclude name args owner id e₁ rfl)
        fun _ _ _ hk => (Steady.newText _).mem hk
  | source name => exact Steady.mem (.bind (.loadSource name) fun _ => .newText _) hk
  | dispose id => exact (List.mem_erase_of_ne fun heq => hrequest heq.symm).mpr hk
  | clear => exact absurd trivial hrequest

theorem mem_registry_runProgram {depth owner scope : Nat} {compiled : Compiled}
    (hk : k ∈ e.registry)
    (hjob : ∀ host j, e.instance? owner = some host →
      j = ⟨depth, owner, host.name, scope, compiled⟩ →
        k ∈ ((Activity.job j m.steps .initial (j.memory e)).ending m e).registry) :
    k ∈ ((runProgram m (Action.render m depth) owner scope compiled).on e).2.registry := by
  cases hhost : e.instance? owner with
  | none =>
      rw [runProgram, on_bind, on_instance, hhost]
      exact hk
  | some host =>
      rw [Job.on_runProgram hhost rfl]
      exact hjob host _ hhost rfl

/-! ## Activities whose parts keep an instance registered -/

variable (m) in
/-- The parts that start with the instance registered leave it so. -/
def PartsKeep (k : Nat) (A : Activity) (e : Engine) : Prop :=
  ∀ {n A' e'}, Part m false A e n A' e' → k ∈ e'.registry → k ∈ (A'.ending m e').registry

section

variable (he : e.Sound) (hk : k ∈ e.registry)
include hk

include he in
theorem mem_registry_ending_perform {depth : Nat} {o : Operation}
    (hparts : PartsKeep m k (.perform depth o) e) (ho : o ≠ .dispose k) :
    k ∈ ((perform depth o).ending m e).registry := by
  cases o with
  | create name hook =>
      obtain ⟨i, e₁, hcreate, hopens, -⟩ := on_create name hook e
      rw [ending, Operation.perform, map_eq_pure_bind, on_bind_of_ok hcreate]
      exact hopens.mem_registry hk
  | compile id =>
      rw [ending, Operation.perform, ending_perform]
      exact hparts .compile hk
  | render id args =>
      rw [ending, Operation.perform, ending_perform]
      exact hparts .render hk
  | run id args =>
      rw [ending, Operation.perform, ending_perform]
      refine mem_registry_bind (hparts .run hk) fun _ _ _ hk => Steady.mem ?_ hk
      exact .bind .reader fun _ => .bind (.ofExcept _) fun _ => .bind (.update _ _) fun _ =>
        .bind (.instance id) fun _ => .bind (.callHook _ _ _) fun _ => .pure _
  | reload id selector args =>
      rw [ending, Operation.perform, ending_perform, Action.reload]
      cases hi : e.instance? id with
      | none =>
          rw [on_bind, on_instance, hi]
          exact hk
      | some i =>
          rw [on_bind_of_ok (on_instance_of_some hi)]
          refine mem_registry_bind ((Steady.findBoth i selector).mem hk)
            fun found e₁ hfound hk => ?_
          cases found with
          | none => exact hk
          | some found =>
              refine mem_registry_bind ((Steady.overlaidScope id args).mem hk)
                fun scope e₂ hscope hk => ?_
              exact mem_registry_bind (hparts (.reload hi hfound hscope) hk) fun _ _ _ hk =>
                Steady.mem (.bind (.replace _ _ _ _) fun _ => .pure _) hk
  | renderOnce name args =>
      rw [ending, Operation.perform, ending_perform]
      exact mem_registry_renderOnce he hk fun id e₁ hcreate hk =>
        hparts (.renderOnce hcreate rfl) hk
  | dispose id =>
      have hne : k ≠ id := fun heq => ho (heq ▸ rfl)
      exact (List.mem_erase_of_ne hne).mpr hk
  | outside heap sources => exact hk

theorem mem_registry_ending_render {depth id : Nat} {args : Entries}
    (hparts : PartsKeep m k (.render depth id args) e) :
    k ∈ ((Activity.render depth id args).ending m e).registry := by
  cases depth with
  | zero => exact hk
  | succ depth =>
      rw [ending, Action.render, renderWith]
      refine mem_registry_bind ((Steady.bindScope id args).mem hk) fun scope e₁ hbind hk => ?_
      refine mem_registry_bind (mem_registry_ready hk fun i hi hrenderer =>
        hparts (.compiled hbind hi hrenderer) hk) fun compiled e₂ hready hk => ?_
      cases hi : e₂.instance? id with
      | none =>
          rw [on_bind, on_instance, hi]
          exact hk
      | some i =>
          rw [on_bind_of_ok (on_instance_of_some hi)]
          exact mem_registry_runProgram hk fun host j hhost hj =>
            hparts (.rendered hbind hready hi hhost hj) hk

include he in
theorem mem_registry_ending_generate {depth id scope : Nat} {segments : List Segment}
    (hparts : PartsKeep m k (.generate depth id scope segments) e) :
    k ∈ ((Activity.generate depth id scope segments).ending m e).registry := by
  cases segments with
  | nil => exact hk
  | cons segment more =>
      rw [ending, Template.generate]
      refine mem_registry_bind (mem_registry_generateSegment he hk ?_)
        fun program e₁ hfirst hk => mem_registry_bind (hparts (.moreSegments hfirst) hk)
          fun _ _ _ hk => hk
      rintro s name i temporary e₁ rfl hclassify hi hopen hk
      exact hparts (.included hclassify hi hopen) hk

theorem mem_registry_ending_fragment {depth scope : Nat} {i : Instance} {element : Markup.Element}
    (hparts : PartsKeep m k (.fragment depth i scope element) e) :
    k ∈ ((Activity.fragment depth i scope element).ending m e).registry := by
  rw [ending, renderFragment]
  cases hsegments : fragmentSegments i element with
  | error f => exact hk
  | ok segments =>
      rw [on_bind_of_ok (on_ofExcept_ok segments e)]
      refine mem_registry_bind (hparts (.fragmentGenerated hsegments) hk)
        fun program e₁ hgenerate hk => ?_
      refine mem_registry_bind ((Steady.build _ program).mem hk) fun compiled e₂ hbuild hk => ?_
      exact mem_registry_runProgram hk fun host j hhost hj =>
        hparts (.fragmentRendered hsegments hgenerate hbuild hhost hj) hk

theorem mem_registry_ending_job {j : Job} {fuel : Nat} {c : Config} {memory : Memory}
    (hparts : PartsKeep m k (.job j fuel c memory) e) :
    k ∈ ((Activity.job j fuel c memory).ending m e).registry := by
  have hunwind (failure : Failure) (t : Moment) : ((Template.unwind j.setting c.loops failure :
      Eval (Array Text)).play (j.answer m) t).2.engine = t.engine := by
    rw [Eval.play, Template.unwind_apply]
    rfl
  change k ∈ ((j.runFrom m fuel c).play (j.answer m) ⟨memory, e⟩).2.engine.registry
  cases fuel with
  | zero => exact (hunwind .exhausted ⟨memory, e⟩).symm ▸ hk
  | succ fuel =>
      by_cases hlt : c.pc < j.program.program.length
      · rw [Job.play_runFrom_succ hlt]
        have hstep : k ∈ ((j.step m c).play (j.answer m) ⟨memory, e⟩).2.engine.registry :=
          hparts (.step hlt) hk
        cases hplay : (j.step m c).play (j.answer m) ⟨memory, e⟩ with
        | mk result t =>
            rw [hplay] at hstep
            cases result with
            | ok c' => exact hparts (.moreSteps hlt hplay) hstep
            | error failure => exact (hunwind _ t).symm ▸ hstep
      · rw [Job.runFrom, Template.runFrom_end _ _ _ _ (Nat.le_of_not_lt hlt)]
        exact hk

include he in
theorem mem_registry_ending_dialog {j : Job} {d : Dialog Config}
    (hparts : PartsKeep m k (.dialog j d) e) (hquiet : ¬ (dialog j d).Unregisters m e k) :
    k ∈ ((dialog j d).ending m e).registry := by
  cases d with
  | done result memory => exact hk
  | ask request memory resume =>
      have hanswer : k ∈ ((j.answer m request).on { e with heap := memory.heap }).2.registry := by
        refine mem_registry_answer (he.of_alike (e.alike_heap memory.heap)) hk
          (fun hrequest => hquiet ⟨j, request, memory, resume, e, .refl, hrequest⟩) ?_ ?_
        · rintro name args temporary e₁ rfl hcreate hk
          exact hparts (.askedOnce hcreate rfl) hk
        · rintro name args owner temporary e₁ rfl hopen hk
          exact hparts (.asked hopen fun h => absurd h Bool.false_ne_true) hk
      rw [ending, Dialog.play]
      cases hrun : (j.answer m request).on { e with heap := memory.heap } with
      | mk result e₁ =>
          rw [hrun] at hanswer
          exact hparts (.moreAsked hrun) hanswer

end

/-- Unless an expression asks for something else, or disposing is what is done, whoever is
registered at the start is so at the end. -/
theorem mem_registry_ending (A : Activity) (he : e.Sound) (hk : k ∈ e.registry)
    (hquiet : ¬ A.Unregisters m e k) (hdispose : ∀ depth, A ≠ .perform depth (.dispose k)) :
    k ∈ (A.ending m e).registry := by
  refine Part.induction (m := m) (motive := fun A e => e.Sound → k ∈ e.registry →
    ¬ A.Unregisters m e k → (∀ depth, A ≠ .perform depth (.dispose k)) →
      k ∈ (A.ending m e).registry)
    (fun A e ih he hk hquiet hdispose => ?_) A e he hk hquiet hdispose
  have hparts : PartsKeep m k A e := by
    intro n A' e' h hk
    refine ih n A' e' h (h.inside he).sound hk (not_unregisters_of_part h hquiet)
      fun depth hA' => ?_
    subst hA'
    cases h
  cases A with
  | perform depth o =>
      exact mem_registry_ending_perform he hk hparts fun ho => hdispose depth (ho ▸ rfl)
  | render depth id args => exact mem_registry_ending_render hk hparts
  | compile depth id =>
      rw [ending, Action.compile]
      refine mem_registry_bind ((Steady.takeApart id).mem hk) fun taken e₁ htake hk => ?_
      exact mem_registry_bind (hparts (.generated htake) hk) fun _ _ _ hk =>
        (Steady.equip _ _ _ _).mem hk
  | generate depth id scope segments => exact mem_registry_ending_generate he hk hparts
  | fragment depth i scope element => exact mem_registry_ending_fragment hk hparts
  | job j fuel c memory => exact mem_registry_ending_job hk hparts
  | dialog j d => exact mem_registry_ending_dialog he hk hparts hquiet

theorem not_mem_registry_of_unregisters (he : e.Sound) (hk : k ∈ e.registry)
    (h : A.Unregisters m e k) : k ∉ (A.ending m e).registry := by
  obtain ⟨j, request, memory, resume, e', hleads, hrequest⟩ := h
  have hinside := hleads.inside he
  have hle := Nat.le_trans (he.registered k hk).2 hinside.follows.length_le
  cases hanswer : (j.answer m request).on { e' with heap := memory.heap } with
  | mk result e₁ =>
      have hpart : Part m false (.dialog j (.ask request memory resume)) e' 1
        (.dialog j (resume result e₁.heap)) e₁ := .moreAsked hanswer
      have hrest := hpart.inside hinside.sound
      have hends := (follows_ending _ hrest.sound).trans (hrest.ends.trans hinside.ends)
      have hgone : k ∉ e₁.registry := by
        cases request with
        | dispose id =>
            cases hrequest
            cases hanswer
            have hnodup : e'.registry.Nodup := hinside.sound.sorted.imp Nat.ne_of_lt
            exact hnodup.not_mem_erase
        | clear =>
            cases hanswer
            exact List.not_mem_nil
        | _ => exact hrequest.elim
      exact fun hk' => hgone (hends.registry k (Nat.le_trans hle hrest.follows.length_le) hk')

/-- Whoever is registered is so at the end if and only if no expression asks for something else. -/
theorem mem_registry_ending_iff (A : Activity) (he : e.Sound) (hk : k ∈ e.registry)
    (hdispose : ∀ depth, A ≠ .perform depth (.dispose k)) :
    k ∈ (A.ending m e).registry ↔ ¬ A.Unregisters m e k :=
  ⟨fun hk' h => not_mem_registry_of_unregisters he hk h hk',
    fun hquiet => mem_registry_ending A he hk hquiet hdispose⟩

theorem mem_registry_perform_iff {o : Operation} {depth : Nat}
    {result : Except Failure (Option Nat)} (he : e.Sound) (hk : k ∈ e.registry)
    (ho : o ≠ .dispose k) (hperform : (o.perform m depth).on e = (result, e')) :
    k ∈ e'.registry ↔ ¬ (perform depth o).Unregisters m e k := by
  have hiff := mem_registry_ending_iff (m := m) (perform depth o) he hk
    fun _ h => ho (Activity.perform.inj h).2
  rwa [ending, hperform] at hiff

theorem Leads.mem_registry (h : Leads m sameOwner A e A' e') (he : e.Sound) (hk : k ∈ e.registry)
    (hquiet : ¬ A.Unregisters m e k) : k ∈ e'.registry := by
  cases h with
  | refl => exact hk
  | head hpart hleads =>
      -- What is registered at the end has been so all the time.
      have hinside := (Leads.head hpart hleads).inside he
      have hlater := (A'.follows_ending hinside.sound).trans hinside.ends
      have hle := Nat.le_trans (he.registered k hk).2 hinside.follows.length_le
      refine hlater.registry k hle (mem_registry_ending A he hk hquiet ?_)
      rintro depth rfl
      cases hpart

theorem Since.mem_registry {e'' : Engine} (h : Since m A e A' e' e'') (he : e.Sound)
    (hk : k ∈ e.registry) (hleads : Leads m sameOwner A e A' e') (hquiet : ¬ A.Unregisters m e k) :
    k ∈ e''.registry := by
  obtain ⟨A'', hrest | hprecedes⟩ := h
  · exact (hleads.forget.trans hrest).mem_registry he hk hquiet
  · exact hprecedes.second.mem_registry he hk hquiet

end Activity

end Stencil
