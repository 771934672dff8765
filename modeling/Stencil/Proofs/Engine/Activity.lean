import Stencil.Proofs.Engine.History
import Stencil.Proofs.Template.Machine

/-!
# What operations consist of

An operation on an instance renders it or an element of it. That compiles templates, renders what
they include and runs programs, whose expressions may include more. These are all activities. The
parts of an activity are done one after the other, each on the engine that those before it left.
-/

namespace Stencil

open Template (Compiled Config Failure Segment)

variable {m : Machine}

/-! ## Programs -/

/-- A program that runs for a host, which can render others so many levels deep. -/
structure Job where
  depth : Nat
  host : Nat
  name : Text
  scope : Nat
  program : Compiled

namespace Job

def setting (j : Job) : Template.Setting := ⟨.template j.host j.name, j.scope⟩

def answer (m : Machine) (j : Job) : Request → Action Value :=
  Action.answer (Action.render m j.depth)

def step (m : Machine) (j : Job) (c : Config) : Eval Config :=
  Template.step m.evaluator j.setting j.program c

def runFrom (m : Machine) (j : Job) (fuel : Nat) (c : Config) : Eval (Array Text) :=
  Template.runFrom m.evaluator j.setting j.program fuel c

def memory (j : Job) (e : Engine) : Memory := ⟨e.heap, Template.startNames e.globals j.setting⟩

end Job

/-! ## Activities and their parts -/

inductive Activity where
  | perform (depth : Nat) (o : Operation)
  | render (depth id : Nat) (args : Entries)
  | compile (depth id : Nat)
  /-- Makes a program of segments, whose includes are those of the instance. -/
  | generate (depth id scope : Nat) (segments : List Segment)
  /-- Renders an element of the snapshot. -/
  | fragment (depth : Nat) (i : Instance) (scope : Nat) (element : Markup.Element)
  /-- Runs a program from a configuration on, with so many steps left. -/
  | job (j : Job) (fuel : Nat) (c : Config) (memory : Memory)
  /-- Answers what a step of a program asks for. -/
  | dialog (j : Job) (d : Dialog Config)

namespace Activity

open Stencil.Action

def ending (m : Machine) (e : Engine) : Activity → Engine
  | perform depth o => ((o.perform m depth).on e).2
  | render depth id args => ((Action.render m depth id args).on e).2
  | compile depth id => ((Action.compile (Action.render m depth) id).on e).2
  | generate depth id scope segments =>
    ((Template.generate (m := Action) (some (includeMarkup (Action.render m depth) id scope))
      segments).on e).2
  | fragment depth i scope element =>
    ((renderFragment m (Action.render m depth) i scope element).on e).2
  | job j fuel c memory => ((j.runFrom m fuel c).play (j.answer m) ⟨memory, e⟩).2.full
  | dialog j d => (d.play (j.answer m) e).2.engine

/-- The parts of an activity on an engine, by the order in which they are done; all of them, or only
those whose captured values go to the same owner. -/
inductive Part (m : Machine) (sameOwner : Bool) :
    Activity → Engine → Nat → Activity → Engine → Prop
  | compile {depth id : Nat} {e : Engine} :
      Part m sameOwner (.perform depth (.compile id)) e 0 (.compile depth id) e
  | render {depth id : Nat} {args : Entries} {e : Engine} :
      Part m sameOwner (.perform depth (.render id args)) e 0 (.render depth id args) e
  | run {depth id : Nat} {args : Entries} {e : Engine} :
      Part m sameOwner (.perform depth (.run id args)) e 0 (.render depth id args) e
  | reload {depth id scope : Nat} {selector : Text} {args : Entries} {i : Instance} {found : Found}
      {e e₁ e₂ : Engine} (hi : e.instance? id = some i)
      (hfound : (findBoth i selector).on e = (.ok (some found), e₁))
      (hscope : (overlaidScope id args).on e₁ = (.ok scope, e₂)) :
      Part m sameOwner (.perform depth (.reload id selector args)) e 0
        (.fragment depth i scope found.element) e₂
  | renderOnce {depth id : Nat} {name : Text} {args : Entries} {e e₁ : Engine}
      (hcreate : (create name none).on e = (.ok id, e₁)) (hsame : sameOwner = false) :
      Part m sameOwner (.perform depth (.renderOnce name args)) e 0 (.render depth id args) e₁
  /-- Rendering compiles an instance that has no renderer. -/
  | compiled {depth id scope : Nat} {args : Entries} {i : Instance} {e e₁ : Engine}
      (hbind : (bindScope id args).on e = (.ok scope, e₁)) (hi : e₁.instance? id = some i)
      (hrenderer : i.renderer = none) :
      Part m sameOwner (.render (depth + 1) id args) e 0 (.compile depth id) e₁
  /-- Rendering runs the program of the instance. -/
  | rendered {depth id scope : Nat} {args : Entries} {compiled : Compiled} {i host : Instance}
      {j : Job} {e e₁ e₂ : Engine} (hbind : (bindScope id args).on e = (.ok scope, e₁))
      (hready : (ready (Action.render m depth) id).on e₁ = (.ok compiled, e₂))
      (hi : e₂.instance? id = some i) (hhost : e₂.instance? i.owner = some host)
      (hj : j = ⟨depth, i.owner, host.name, scope, compiled⟩) :
      Part m sameOwner (.render (depth + 1) id args) e 1 (.job j m.steps .initial (j.memory e₂)) e₂
  | generated {depth id : Nat} {i : Instance} {extraction : Template.Extraction} {e e₁ : Engine}
      (htake : (takeApart id).on e = (.ok (i, extraction), e₁)) :
      Part m sameOwner (.compile depth id) e 0 (.generate depth id i.scope extraction.segments) e₁
  /-- An include directive renders a template whose captured values go to the owner. -/
  | included {depth id scope temporary : Nat} {s : Template.Span} {name : Text}
      {more : List Segment} {i : Instance} {e e₁ : Engine} (hclassify : s.classify = .include name)
      (hi : e.instance? id = some i)
      (hopen : (openInclude name (some i.owner)).on
        ((note ["Inlining include '", name, "'"]).on e).2 = (.ok temporary, e₁)) :
      Part m sameOwner (.generate depth id scope (.span s :: more)) e 0
        (.render depth temporary (e.heap.mapping scope).entries) e₁
  | moreSegments {depth id scope : Nat} {segment : Segment} {more : List Segment}
      {program : Template.Program} {e e₁ : Engine}
      (hfirst : (segment.generate (some (includeMarkup (Action.render m depth) id scope))).on e =
        (.ok program, e₁)) :
      Part m sameOwner (.generate depth id scope (segment :: more)) e 1
        (.generate depth id scope more) e₁
  | fragmentGenerated {depth scope : Nat} {i : Instance} {element : Markup.Element}
      {segments : List Segment} {e : Engine}
      (hsegments : fragmentSegments i element = .ok segments) :
      Part m sameOwner (.fragment depth i scope element) e 0 (.generate depth i.id scope segments) e
  | fragmentRendered {depth scope : Nat} {i host : Instance} {element : Markup.Element}
      {segments : List Segment} {program : Template.Program} {compiled : Compiled} {j : Job}
      {e e₁ e₂ : Engine} (hsegments : fragmentSegments i element = .ok segments)
      (hgenerate : (Template.generate (m := Action)
        (some (includeMarkup (Action.render m depth) i.id scope)) segments).on e =
          (.ok program, e₁))
      (hbuild : (build (i.name ++ "#fragment".toList) program).on e₁ = (.ok compiled, e₂))
      (hhost : e₂.instance? i.owner = some host)
      (hj : j = ⟨depth, i.owner, host.name, scope, compiled⟩) :
      Part m sameOwner (.fragment depth i scope element) e 1
        (.job j m.steps .initial (j.memory e₂)) e₂
  | step {j : Job} {fuel : Nat} {c : Config} {memory : Memory} {e : Engine}
      (hlt : c.pc < j.program.program.length) :
      Part m sameOwner (.job j (fuel + 1) c memory) e 0 (.dialog j (j.step m c memory)) e
  | moreSteps {j : Job} {fuel : Nat} {c c' : Config} {memory : Memory} {e : Engine} {t : Moment}
      (hlt : c.pc < j.program.program.length)
      (hstep : (j.step m c).play (j.answer m) ⟨memory, e⟩ = (.ok c', t)) :
      Part m sameOwner (.job j (fuel + 1) c memory) e 1 (.job j fuel c' t.memory) t.engine
  /-- An expression renders a template whose captured values go to an owner. -/
  | asked {j : Job} {name : Text} {args : Entries} {owner : Option Nat} {memory : Memory}
      {temporary : Nat} {resume : Except Failure Value → Heap → Dialog Config} {e e₁ : Engine}
      (hopen : (openInclude name owner).on { e with heap := memory.heap } = (.ok temporary, e₁))
      (hsame : sameOwner = true → owner = some j.host) :
      Part m sameOwner (.dialog j (.ask (.renderInclude name args owner) memory resume)) e 0
        (.render j.depth temporary args) e₁
  /-- An expression renders a template that has a table of its own. -/
  | askedOnce {j : Job} {name : Text} {args : Entries} {memory : Memory} {temporary : Nat}
      {resume : Except Failure Value → Heap → Dialog Config} {e e₁ : Engine}
      (hcreate : (create name none).on { e with heap := memory.heap } = (.ok temporary, e₁))
      (hsame : sameOwner = false) :
      Part m sameOwner (.dialog j (.ask (.render name args) memory resume)) e 0
        (.render j.depth temporary args) e₁
  | moreAsked {j : Job} {request : Request} {memory : Memory}
      {resume : Except Failure Value → Heap → Dialog Config} {result : Except Failure Value}
      {e e₁ : Engine} (hanswer : (j.answer m request).on { e with heap := memory.heap } =
        (result, e₁)) :
      Part m sameOwner (.dialog j (.ask request memory resume)) e 1
        (.dialog j (resume result e₁.heap)) e₁

inductive Leads (m : Machine) (sameOwner : Bool) :
    Activity → Engine → Activity → Engine → Prop
  | refl {A : Activity} {e : Engine} : Leads m sameOwner A e A e
  | head {A B A' : Activity} {e f e' : Engine} {k : Nat} (h : Part m sameOwner A e k B f)
      (h' : Leads m sameOwner B f A' e') : Leads m sameOwner A e A' e'

/-- In an activity something is over before something else starts. -/
inductive Precedes (m : Machine) (sameOwner : Bool) :
    Activity → Engine → Activity → Engine → Activity → Engine → Prop
  | here {A B B' A' A'' : Activity} {e f f' e' e'' : Engine} {k k' : Nat}
      (h : Part m sameOwner A e k B f) (h' : Part m sameOwner A e k' B' f') (hlt : k < k')
      (hfirst : Leads m sameOwner B f A' e') (hsecond : Leads m sameOwner B' f' A'' e'') :
      Precedes m sameOwner A e A' e' A'' e''
  | deeper {A B A' A'' : Activity} {e f e' e'' : Engine} {k : Nat}
      (h : Part m sameOwner A e k B f) (h' : Precedes m sameOwner B f A' e' A'' e'') :
      Precedes m sameOwner A e A' e' A'' e''

end Activity

def Operation.target? : Operation → Option Nat
  | compile id | render id _ | run id _ | reload id .. => some id
  | create .. | renderOnce .. | dispose _ | outside .. => none

namespace Engine

def Owned (e : Engine) (id owner : Nat) : Prop := ∃ i, e.instance? id = some i ∧ i.owner = owner

theorem Owned.of_follows {e e' : Engine} {id owner : Nat} (h : e.Owned id owner)
    (hfollows : e.Follows e') : e'.Owned id owner := by
  obtain ⟨i, hi, howner⟩ := h
  obtain ⟨i', hi', hlater⟩ := hfollows.instance? hi
  exact ⟨i', hi', hlater.owner.trans howner⟩

end Engine

/-! ## What comes later -/

namespace Action

variable {α β : Type} {own : Option Nat}

theorem Works.follows {x : Action α} (h : x.Works m own) {e : Engine} (he : e.Sound) :
    e.Follows (x.on e).2 :=
  (h e he).follows

theorem Works.follows_bind {x : Action α} {f : α → Action β} (hx : x.Works m own) {e : Engine}
    (he : e.Sound) (hf : ∀ a, (f a).Works m own) :
    (x.on e).2.Follows ((x >>= f).on e).2 := by
  have hwork := hx e he
  rw [on_bind]
  cases hrun : x.on e with
  | mk result e₁ =>
      rw [hrun] at hwork
      cases result with
      | ok a => exact (hf a e₁ hwork.sound).follows
      | error failure => exact .refl e₁

theorem follows_renderOnce {nested : Nested} {name : Text} {id : Nat} {e e' : Engine}
    (hcreate : (create name none).on e = (.ok id, e')) (args : Entries) :
    ((nested id args).on e').2.Follows ((renderOnce nested name args).on e).2 := by
  rw [renderOnce, on_bind_of_ok hcreate, on_andFinally]
  exact Engine.follows_dispose id _

theorem follows_renderInclude {nested : Nested} {name : Text} {owner : Option Nat} {id : Nat}
    {e e' : Engine} (hopen : (openInclude name owner).on e = (.ok id, e')) (args : Entries) :
    ((nested id args).on e').2.Follows ((renderInclude nested name args owner).on e).2 := by
  rw [renderInclude, on_bind_of_ok hopen, on_andFinally]
  exact Engine.follows_dispose id _

end Action

theorem Moment.follows_full (t : Moment) : t.engine.Follows t.full :=
  (t.engine.alike_heap t.memory.heap).follows

namespace Job

variable {e : Engine}

theorem answer_works (j : Job) (request : Request) : (j.answer m request).Works m none :=
  (Action.proper_render m j.depth).answer request

variable (m) in
theorem work_play {α : Type} (j : Job) (x : Eval α) {t : Moment} (ht : t.engine.Sound) :
    t.engine.Work m none (x.play (j.answer m) t).2.engine :=
  (x t.memory).work_play j.answer_works ht

theorem play_runFrom_succ {j : Job} {fuel : Nat} {c : Config} {t : Moment}
    (hlt : c.pc < j.program.program.length) :
    (j.runFrom m (fuel + 1) c).play (j.answer m) t =
      match (j.step m c).play (j.answer m) t with
      | (.ok c', t') => (j.runFrom m fuel c').play (j.answer m) t'
      | (.error failure, t') =>
        (Template.unwind j.setting c.loops (failure.inDirective j.program.template
          j.program.program[c.pc].source)).play (j.answer m) t' := by
  rw [runFrom, Template.runFrom_succ _ _ _ fuel (List.getElem?_eq_getElem hlt),
    Template.located_handle, Eval.play_handle, step]
  cases (Template.step m.evaluator j.setting j.program c).play (j.answer m) t with
  | mk result t' => cases result <;> rfl

theorem on_runProgram_eq {depth owner scope : Nat} {compiled : Compiled} {host : Instance} {j : Job}
    (hhost : e.instance? owner = some host) (hj : j = ⟨depth, owner, host.name, scope, compiled⟩) :
    (Action.runProgram m (Action.render m depth) owner scope compiled).on e =
      let (result, t) := (j.runFrom m m.steps .initial).play (j.answer m) ⟨j.memory e, e⟩
      (result.map fun out => out.toList.flatten, t.full) := by
  rw [Action.runProgram, Action.on_bind_of_ok (Action.on_instance_of_some hhost),
    Action.on_bind_of_ok (Action.on_get e), Action.on_converse]
  have hplay : (Template.run m.evaluator m.steps e.globals ⟨.template owner host.name, scope⟩
      compiled e.heap).play (Action.answer (Action.render m depth)) e =
        (j.runFrom m m.steps .initial >>= fun out =>
          pure out.toList.flatten).play (j.answer m) ⟨j.memory e, e⟩ := by
    subst hj
    rfl
  rw [hplay, Eval.play_bind]
  cases (j.runFrom m m.steps .initial).play (j.answer m) ⟨j.memory e, e⟩ with
  | mk result t => cases result <;> rfl

theorem on_runProgram {depth owner scope : Nat} {compiled : Compiled} {host : Instance} {j : Job}
    (hhost : e.instance? owner = some host) (hj : j = ⟨depth, owner, host.name, scope, compiled⟩) :
    ((Action.runProgram m (Action.render m depth) owner scope compiled).on e).2 =
      (Activity.job j m.steps .initial (j.memory e)).ending m e := by
  rw [on_runProgram_eq hhost hj]
  rfl

end Job

/-! ## Parts are inside -/

namespace Activity

open Stencil.Action Engine

structure Inside (m : Machine) (A : Activity) (e : Engine) (A' : Activity) (e' : Engine) :
    Prop where
  sound : e'.Sound
  follows : e.Follows e'
  ends : (A'.ending m e').Follows (A.ending m e)

variable {A A' A'' : Activity} {e e₁ e₂ e' e'' : Engine} {own : Option Nat} {sameOwner : Bool}
  {k k' : Nat}

namespace Inside

theorem refl (he : e.Sound) (A : Activity) : Inside m A e A e :=
  ⟨he, .refl e, .refl _⟩

theorem trans (h : Inside m A e A' e') (h' : Inside m A' e' A'' e'') : Inside m A e A'' e'' where
  sound := h'.sound
  follows := h.follows.trans h'.follows
  ends := h'.ends.trans h.ends

theorem of_work (hwork : e.Work m own e') (hends : (A'.ending m e').Follows (A.ending m e)) :
    Inside m A e A' e' :=
  ⟨hwork.sound, hwork.follows, hends⟩

theorem of_opens {i : Instance} (hwork : e.Work m own e₁) (hopens : e₁.Opens i e')
    (hends : (A'.ending m e').Follows (A.ending m e)) : Inside m A e A' e' where
  sound := hopens.sound hwork.sound
  follows := hwork.follows.trans hopens.follows
  ends := hends

end Inside

theorem ending_perform {α : Type} (x : Action α) (e : Engine) :
    ((do let _ ← x; return none : Action (Option Nat)).on e).2 = (x.on e).2 := by
  rw [on_bind_none]

theorem Part.inside_perform {depth : Nat} {o : Operation}
    (h : Part m sameOwner (.perform depth o) e k A' e') (he : e.Sound) :
    Inside m (.perform depth o) e A' e' := by
  have hn := proper_render m depth
  cases h with
  | compile | render =>
      refine ⟨he, .refl e, ?_⟩
      rw [ending, ending, Operation.perform, ending_perform]
      exact .refl _
  | @run _ id args =>
      refine ⟨he, .refl e, ?_⟩
      rw [ending, ending, Operation.perform, ending_perform]
      exact (hn id args).works.follows_bind he fun _ => .bind .reader fun _ =>
        .bind (.ofExcept _) fun tree => .bind (.setRoot id tree) fun _ =>
          .bind (.instance id) fun _ => .bind (.callHook _ _ _) fun _ => .pure _
  | @reload _ id scope selector args i found _ e₁ _ hi hfound hscope =>
      have hfirst := Works.findBoth (m := m) i selector e he
      rw [hfound] at hfirst
      have hsecond := Works.overlaidScope (m := m) id args e₁ hfirst.sound
      rw [hscope] at hsecond
      have hwork := hfirst.trans hsecond
      refine .of_work hwork ?_
      rw [ending, ending, Operation.perform, ending_perform, Action.reload,
        on_bind_of_ok (on_instance_of_some hi), on_bind_of_ok hfound]
      simp only [on_bind_of_ok hscope]
      exact (hn.renderFragment _ _ _).follows_bind hwork.sound fun _ =>
        .bind (.replace _ _ _ _) fun _ => .pure _
  | @renderOnce _ id name args _ _ hcreate hsame =>
      obtain ⟨i, _, hcreate', hopens, -⟩ := on_create name none e
      cases hcreate.symm.trans hcreate'
      have hstart : e.Work m none e := .refl he
      refine .of_opens hstart hopens ?_
      rw [ending, ending, Operation.perform, ending_perform]
      exact follows_renderOnce hcreate args

theorem Part.inside_render {depth id : Nat} {args : Entries}
    (h : Part m sameOwner (.render depth id args) e k A' e') (he : e.Sound) :
    Inside m (.render depth id args) e A' e' := by
  cases h with
  | @compiled depth _ scope _ i _ _ hbind hi hrenderer =>
      have hn := proper_render m depth
      have hwork : e.Work m none _ := Works.bindScope id args e he
      rw [hbind] at hwork
      refine .of_work hwork ?_
      rw [ending, ending, Action.render, renderWith, on_bind_of_ok hbind,
        ← on_ready_of_none hi hrenderer]
      exact (hn.ready id).works.follows_bind hwork.sound fun _ =>
        .bind (.instance id) fun _ => (hn.runProgram _ _ _).weaken _
  | @rendered depth _ scope _ compiled i host j _ e₁ _ hbind hready hi hhost hj =>
      have hbound : e.Work m (some id) _ := Works.bindScope id args e he
      rw [hbind] at hbound
      have hwork := (proper_render m depth).ready id |>.works e₁ hbound.sound
      rw [hready] at hwork
      refine .of_work (hbound.trans hwork) ?_
      rw [ending, Action.render, renderWith, on_bind_of_ok hbind, on_bind_of_ok hready,
        on_bind_of_ok (on_instance_of_some hi), Job.on_runProgram hhost hj]
      exact .refl _

theorem Part.inside_compile {depth id : Nat} (h : Part m sameOwner (.compile depth id) e k A' e')
    (he : e.Sound) : Inside m (.compile depth id) e A' e' := by
  cases h with
  | generated htake =>
      have hwork := Works.takeApart (m := m) id e he
      rw [htake] at hwork
      refine .of_work hwork ?_
      rw [ending, ending, Action.compile, on_bind_of_ok htake]
      exact ((Works.generate ((proper_render m depth).includeMarkup _ _) _).weaken _).follows_bind
        hwork.sound fun _ => .equip _ _ _ _

theorem follows_included {depth id scope temporary : Nat} {s : Template.Span} {name : Text}
    {i : Instance} (he : e.Sound) (hclassify : s.classify = .include name)
    (hi : e.instance? id = some i)
    (hopen : (openInclude name (some i.owner)).on
      ((note ["Inlining include '", name, "'"]).on e).2 = (.ok temporary, e₁)) :
    ((Action.render m depth temporary (e.heap.mapping scope).entries).on e₁).2.Follows
      (((Segment.span s).generate (some (includeMarkup (Action.render m depth) id scope))).on
        e).2 := by
  rw [Template.Segment.generate_span_include hclassify]
  refine (follows_renderInclude hopen _).trans ?_
  rw [← on_includeMarkup hi]
  exact ((proper_render m depth).includeMarkup id scope name).follows_bind he fun _ => .pure _

theorem Part.inside_generate {depth id scope : Nat} {segments : List Segment}
    (h : Part m sameOwner (.generate depth id scope segments) e k A' e') (he : e.Sound) :
    Inside m (.generate depth id scope segments) e A' e' := by
  have hmarkup := (proper_render m depth).includeMarkup id scope
  cases h with
  | @included _ _ _ temporary s name more i _ _ hclassify hi hopen =>
      have hnote : e.Work m none _ := Works.note ["Inlining include '", name, "'"] e he
      obtain ⟨i', _, hopen', hopens, -⟩ := on_openInclude name (some i.owner) hnote.sound
      cases hopen.symm.trans hopen'
      refine .of_opens hnote hopens ?_
      rw [ending, ending]
      exact (follows_included he hclassify hi hopen).trans <|
        (Works.generateSegment hmarkup _).follows_bind he fun _ =>
          .bind (.generate hmarkup more) fun _ => .pure _
  | @moreSegments _ _ _ segment more program _ _ hfirst =>
      have hwork := Works.generateSegment hmarkup segment e he
      rw [hfirst] at hwork
      refine .of_work hwork ?_
      rw [ending, ending, Template.generate, on_bind_of_ok hfirst]
      exact (Works.generate hmarkup more).follows_bind hwork.sound fun _ => .pure _

theorem Part.inside_fragment {depth scope : Nat} {i : Instance} {element : Markup.Element}
    (h : Part m sameOwner (.fragment depth i scope element) e k A' e') (he : e.Sound) :
    Inside m (.fragment depth i scope element) e A' e' := by
  have hn := proper_render m depth
  cases h with
  | @fragmentGenerated _ _ _ _ segments _ hsegments =>
      refine ⟨he, .refl e, ?_⟩
      rw [ending, ending, renderFragment, hsegments, on_bind_of_ok (on_ofExcept_ok segments e)]
      exact (Works.generate (hn.includeMarkup _ _) _).follows_bind he fun _ =>
        .bind (.build _ _) fun _ => hn.runProgram _ _ _
  | @fragmentRendered _ _ _ host _ segments program compiled j _ e₁ _ hsegments hgenerate hbuild
      hhost hj =>
      have hfirst := Works.generate (hn.includeMarkup i.id scope) segments e he
      rw [hgenerate] at hfirst
      have hsecond : e₁.Work m none _ :=
        Works.build (i.name ++ "#fragment".toList) program e₁ hfirst.sound
      rw [hbuild] at hsecond
      refine .of_work (hfirst.trans hsecond) ?_
      rw [ending, renderFragment, hsegments, on_bind_of_ok (on_ofExcept_ok segments e),
        on_bind_of_ok hgenerate, on_bind_of_ok hbuild, Job.on_runProgram hhost hj]
      exact .refl _

theorem Part.inside_job {j : Job} {fuel : Nat} {c : Config} {memory : Memory}
    (h : Part m sameOwner (.job j fuel c memory) e k A' e') (he : e.Sound) :
    Inside m (.job j fuel c memory) e A' e' := by
  cases h with
  | @step _ fuel _ _ _ hlt =>
      refine ⟨he, .refl e, ?_⟩
      have hstep := j.work_play m (j.step m c) (t := ⟨memory, e⟩) he
      rw [ending, ending, Job.play_runFrom_succ hlt]
      change ((j.step m c).play (j.answer m) ⟨memory, e⟩).2.engine.Follows _
      cases hplay : (j.step m c).play (j.answer m) ⟨memory, e⟩ with
      | mk result t' =>
          rw [hplay] at hstep
          cases result with
          | ok c' => exact (j.work_play m _ hstep.sound).follows.trans (Moment.follows_full _)
          | error failure =>
              exact (j.work_play m _ hstep.sound).follows.trans (Moment.follows_full _)
  | @moreSteps _ fuel _ c' _ _ t hlt hstep =>
      have hwork := j.work_play m (j.step m c) (t := ⟨memory, e⟩) he
      rw [hstep] at hwork
      refine .of_work hwork ?_
      rw [ending, ending, Job.play_runFrom_succ hlt, hstep]
      exact .refl _

theorem follows_asked {j : Job} {name : Text} {args : Entries} {owner : Option Nat}
    {temporary : Nat} (he : e.Sound) (hopen : (openInclude name owner).on e = (.ok temporary, e₁)) :
    ((Action.render m j.depth temporary args).on e₁).2.Follows
      ((j.answer m (.renderInclude name args owner)).on e).2 :=
  (follows_renderInclude hopen args).trans <|
    ((proper_render m j.depth).renderInclude name args _).follows_bind he fun _ => .newText _

theorem follows_askedOnce {j : Job} {name : Text} {args : Entries} {temporary : Nat} (he : e.Sound)
    (hcreate : (create name none).on e = (.ok temporary, e₁)) :
    ((Action.render m j.depth temporary args).on e₁).2.Follows
      ((j.answer m (.render name args)).on e).2 :=
  (follows_renderOnce hcreate args).trans <|
    ((proper_render m j.depth).renderOnce name args).follows_bind he fun _ => .newText _

theorem Part.inside_dialog {j : Job} {d : Dialog Config}
    (h : Part m sameOwner (.dialog j d) e k A' e') (he : e.Sound) :
    Inside m (.dialog j d) e A' e' := by
  have hresume {request : Request} {memory : Memory}
      (resume : Except Failure Value → Heap → Dialog Config) :
      let answered := (j.answer m request).on { e with heap := memory.heap }
      answered.2.Follows ((Activity.dialog j (.ask request memory resume)).ending m e) :=
    have hwork := j.answer_works (m := m) request { e with heap := memory.heap }
      (he.of_alike (e.alike_heap _))
    ((resume _ _).work_play j.answer_works hwork.sound).follows
  cases h with
  | @asked _ name args owner memory temporary resume _ _ hopen hsame =>
      have hwork : e.Work m none { e with heap := memory.heap } :=
        .of_alike he (e.alike_heap _)
      obtain ⟨i, _, hopen', hopens, -⟩ := on_openInclude name owner hwork.sound
      cases hopen.symm.trans hopen'
      exact .of_opens hwork hopens ((follows_asked hwork.sound hopen).trans (hresume resume))
  | @askedOnce _ name args memory temporary resume _ _ hcreate hsame =>
      have hwork : e.Work m none { e with heap := memory.heap } :=
        .of_alike he (e.alike_heap _)
      obtain ⟨i, _, hcreate', hopens, -⟩ := on_create name none { e with heap := memory.heap }
      cases hcreate.symm.trans hcreate'
      exact .of_opens hwork hopens ((follows_askedOnce hwork.sound hcreate).trans (hresume resume))
  | @moreAsked _ request memory resume result _ _ hanswer =>
      have hfirst : e.Work m none { e with heap := memory.heap } :=
        .of_alike he (e.alike_heap _)
      have hsecond := j.answer_works (m := m) request _ hfirst.sound
      rw [hanswer] at hsecond
      refine .of_work (hfirst.trans hsecond) ?_
      rw [ending, ending, Dialog.play, hanswer]
      exact .refl _

theorem Part.inside (h : Part m sameOwner A e k A' e') (he : e.Sound) : Inside m A e A' e' := by
  cases A with
  | perform depth o => exact h.inside_perform he
  | render depth id args => exact h.inside_render he
  | compile depth id => exact h.inside_compile he
  | generate depth id scope segments => exact h.inside_generate he
  | fragment depth i scope element => exact h.inside_fragment he
  | job j fuel c memory => exact h.inside_job he
  | dialog j d => exact h.inside_dialog he

theorem Leads.inside (h : Leads m sameOwner A e A' e') (he : e.Sound) : Inside m A e A' e' := by
  induction h with
  | refl => exact .refl he _
  | head h h' ih =>
      have hpart := h.inside he
      exact hpart.trans (ih hpart.sound)

theorem follows_ending (A : Activity) (he : e.Sound) : e.Follows (A.ending m e) := by
  have hn (depth : Nat) := proper_render m depth
  cases A with
  | perform depth o => exact (o.effect depth he).follows
  | render depth id args => exact (hn depth id args).works.follows he
  | compile depth id => exact ((hn depth).compile id).follows he
  | generate depth id scope segments =>
      exact (Works.generate ((hn depth).includeMarkup id scope) segments).follows he
  | fragment depth i scope element => exact ((hn depth).renderFragment i scope element).follows he
  | job j fuel c memory =>
      have hwork := j.work_play m (j.runFrom m fuel c) (t := ⟨memory, e⟩) he
      exact hwork.follows.trans (Moment.follows_full _)
  | dialog j d => exact (d.work_play j.answer_works he).follows

/-! ## Parts one after the other -/

theorem Part.follows_of_lt (h : Part m sameOwner A e k A' e')
    (h' : Part m sameOwner A e k' A'' e'') (hlt : k < k') (he : e.Sound) :
    (A'.ending m e').Follows e'' := by
  cases h' with
  | rendered hbind hready hi hhost hj =>
      cases h with
      | rendered => omega
      | compiled hbind' hi' hrenderer =>
          cases hbind.symm.trans hbind'
          rw [ending, ← on_ready_of_none hi' hrenderer, hready]
          exact .refl _
  | @moreSegments depth id scope segment more program _ _ hfirst =>
      cases h with
      | moreSegments => omega
      | included hclassify hi hopen =>
          rw [ending]
          refine (follows_included he hclassify hi hopen).trans ?_
          rw [hfirst]
          exact .refl _
  | @fragmentRendered depth scope i _ _ segments program compiled j _ e₁ _ hsegments hgenerate
      hbuild hhost hj =>
      cases h with
      | fragmentRendered => omega
      | fragmentGenerated hsegments' =>
          cases hsegments.symm.trans hsegments'
          have hfirst := Works.generate ((proper_render m depth).includeMarkup i.id scope)
            segments e he
          rw [hgenerate] at hfirst
          have hbuilt : e₁.Work m none _ :=
            Works.build (i.name ++ "#fragment".toList) program e₁ hfirst.sound
          rw [hbuild] at hbuilt
          rw [ending, hgenerate]
          exact hbuilt.follows
  | @moreSteps j fuel c c' memory _ t hlt' hstep =>
      cases h with
      | moreSteps => omega
      | step =>
          have hdialog : (j.step m c memory).play (j.answer m) e = (.ok c', t) := hstep
          rw [ending, hdialog]
          exact .refl _
  | @moreAsked j request memory resume result _ _ hanswer =>
      have hstart := he.of_alike (e.alike_heap memory.heap)
      cases h with
      | moreAsked => omega
      | asked hopen hsame =>
          rw [ending]
          refine (follows_asked hstart hopen).trans ?_
          rw [hanswer]
          exact .refl _
      | askedOnce hcreate hsame =>
          rw [ending]
          refine (follows_askedOnce hstart hcreate).trans ?_
          rw [hanswer]
          exact .refl _
  | _ => omega

theorem Leads.trans (h : Leads m sameOwner A e A' e') (h' : Leads m sameOwner A' e' A'' e'') :
    Leads m sameOwner A e A'' e'' := by
  induction h with
  | refl => exact h'
  | head h _ ih => exact .head h (ih h')

namespace Precedes

theorem second (h : Precedes m sameOwner A e A' e' A'' e'') : Leads m sameOwner A e A'' e'' := by
  induction h with
  | here _ h' _ _ hsecond => exact .head h' hsecond
  | deeper h _ ih => exact .head h ih

theorem follows (h : Precedes m sameOwner A e A' e' A'' e'') (he : e.Sound) :
    (A'.ending m e').Follows e'' := by
  induction h with
  | here h h' hlt hfirst hsecond =>
      have hends := (hfirst.inside (h.inside he).sound).ends
      have hstarts := (hsecond.inside (h'.inside he).sound).follows
      exact hends.trans ((h.follows_of_lt h' hlt he).trans hstarts)
  | deeper h _ ih => exact ih (h.inside he).sound

end Precedes

/-- In the activity there is this engine when something that it leads to starts, or later. -/
def Since (m : Machine) (A : Activity) (e : Engine) (A' : Activity) (e' e'' : Engine) : Prop :=
  ∃ A'', Leads m false A' e' A'' e'' ∨ Precedes m false A e A' e' A'' e''

theorem Since.follows (h : Since m A e A' e' e'') (he : e.Sound)
    (hleads : Leads m sameOwner A e A' e') :
    e'.Follows e'' := by
  have hinside := hleads.inside he
  obtain ⟨A'', hrest | hprecedes⟩ := h
  · exact (hrest.inside hinside.sound).follows
  · exact (A'.follows_ending hinside.sound).trans (hprecedes.follows he)

/-! ## Hosts and owners -/

def Hosted (e : Engine) : Activity → Prop
  | job j .. | dialog j _ => ∃ host, e.instance? j.host = some host
  | _ => True

theorem Part.hosted (h : Part m sameOwner A e k A' e') (he : e.Sound) (hA : A.Hosted e) :
    A'.Hosted e' := by
  have hfollows := (h.inside he).follows
  cases h with
  | rendered _ _ _ hhost hj | fragmentRendered _ _ _ hhost hj => exact hj ▸ ⟨_, hhost⟩
  | step => exact hA
  | moreSteps | moreAsked =>
      obtain ⟨host, hhost⟩ := hA
      exact (hfollows.instance? hhost).imp fun _ => And.left
  | _ => exact trivial

theorem Leads.hosted (h : Leads m sameOwner A e A' e') (he : e.Sound) (hA : A.Hosted e) :
    A'.Hosted e' := by
  induction h with
  | refl => exact hA
  | head h _ ih => exact ih (h.inside he).sound (h.hosted he hA)

def For (owner : Nat) (e : Engine) : Activity → Prop
  | perform _ o => ∃ id, o.target? = some id ∧ e.Owned id owner
  | render _ id _ | compile _ id | generate _ id _ _ => e.Owned id owner
  | fragment _ i _ _ => i.owner = owner ∧ e.Owned i.id owner
  | job j .. | dialog j _ => j.host = owner

variable {owner : Nat}

theorem Part.for_owner (h : Part m true A e k A' e') (he : e.Sound) (hA : A.For owner e) :
    A'.For owner e' := by
  have hfollows := (h.inside he).follows
  cases h with
  | compile | render | run =>
      obtain ⟨id, hid, howned⟩ := hA
      cases hid
      exact howned
  | reload hi hfound hscope =>
      obtain ⟨id, hid, howned⟩ := hA
      cases hid
      refine ⟨?_, ?_⟩
      · obtain ⟨i', hi', howner⟩ := howned
        cases hi.symm.trans hi'
        exact howner
      · rw [he.id_of_instance? hi]
        exact howned.of_follows hfollows
  | renderOnce hcreate hsame | askedOnce hcreate hsame => cases hsame
  | compiled | generated | moreSegments => exact Owned.of_follows hA hfollows
  | rendered hbind hready hi hhost hj =>
      obtain ⟨i', hi', rfl⟩ := Owned.of_follows hA hfollows
      cases hi.symm.trans hi'
      exact congrArg Job.host hj
  | @included _ _ _ temporary s name more i _ _ hclassify hi hopen =>
      obtain ⟨_, hi', rfl⟩ := hA
      cases hi.symm.trans hi'
      have hnote : e.Work m none _ := Works.note ["Inlining include '", name, "'"] e he
      obtain ⟨i', _, hopen', hopens, -, howner⟩ := on_openInclude name (some i.owner) hnote.sound
      cases hopen.symm.trans hopen'
      exact ⟨i', hopens.instance?, howner⟩
  | fragmentGenerated => exact hA.2
  | fragmentRendered hsegments hgenerate hbuild hhost hj =>
      obtain ⟨rfl, -⟩ := hA
      exact congrArg Job.host hj
  | step | moreSteps | moreAsked => exact hA
  | @asked j name args _ memory temporary resume _ _ hopen hsame =>
      cases hsame rfl
      obtain ⟨i, _, hopen', hopens, -, howner⟩ :=
        on_openInclude name (some j.host) (he.of_alike (e.alike_heap memory.heap))
      cases hopen.symm.trans hopen'
      exact ⟨i, hopens.instance?, howner.trans hA⟩

theorem Leads.for_owner (h : Leads m true A e A' e') (he : e.Sound) (hA : A.For owner e) :
    A'.For owner e' := by
  induction h with
  | refl => exact hA
  | head h _ ih => exact ih (h.inside he).sound (h.for_owner he hA)

end Activity

end Stencil
