import Stencil.Proofs.Engine.Reloading

/-!
# What a failed rendering leaves

Rendering binds its arguments first. If it fails, the instance has the new scope, and if it was not
compiled before it may have new spans and a new snapshot. The tree of the last run stays, and so
does all that an instance with a renderer is compiled to.
-/

namespace Stencil

open Template (Compiled Failure)

variable {m : Machine}

theorem Instance.Compiles.congr {e e₁ : Engine} {i i₁ i₂ i' : Instance}
    {result : Except Failure Compiled} (h : i₁.Compiles m e₁ i₂ result) (hfrom : i.SameParts i₁)
    (hto : i₂.SameParts i') (hsources : e₁.sources = e.sources)
    (hsettings : e₁.settings = e.settings) : i.Compiles m e i' result := by
  cases h with
  | unchanged failure hsame => exact .unchanged failure (hfrom.trans (hsame.trans hto))
  | broken failure hsource hspans hsnapshot hrenderer =>
      rw [hsources, hfrom.name] at hsource
      rw [hsettings] at hspans hsnapshot
      exact .broken failure hsource (hto.spans.trans hspans) (hto.snapshot.trans hsnapshot)
        (hto.renderer.trans (hrenderer.trans hfrom.renderer))
  | done hrenderer htogether =>
      exact .done (hto.renderer.trans hrenderer) (hsettings ▸ hto.together htogether)

/-- What is left of the parts of an instance that has been rendered, whether or not that went well:
they are the same if there was a renderer, and otherwise the template has been compiled. -/
def Instance.Rendered (m : Machine) (e : Engine) (i i' : Instance) : Prop :=
  i.renderer ≠ none ∧ i.SameParts i' ∨ i.renderer = none ∧ ∃ outcome, i.Compiles m e i' outcome

namespace Action

open Engine

variable {depth id : Nat} {args : Entries} {e e' : Engine} {i : Instance}

theorem on_ready (he : e.Sound) (hi : e.instance? id = some i) {result : Except Failure Compiled}
    (h : (ready (render m depth) id).on e = (result, e')) :
    ∃ i', e'.instance? id = some i' ∧ i.Rendered m e i' ∧
      ∀ compiled, result = .ok compiled → i'.renderer = some compiled := by
  rw [ready, on_bind_of_ok (on_instance_of_some hi)] at h
  cases hrenderer : i.renderer with
  | some compiled =>
      rw [hrenderer] at h
      cases h
      exact ⟨i, hi, .inl ⟨by simp [hrenderer], .refl i⟩,
        fun _ hok => hrenderer.trans (by cases hok; rfl)⟩
  | none =>
      rw [hrenderer] at h
      obtain ⟨i', hi', hcompiles⟩ := (proper_render m depth).compiles he hi h
      refine ⟨i', hi', .inr ⟨hrenderer, result, hcompiles⟩, fun compiled hok => ?_⟩
      subst hok
      cases hcompiles with
      | done hcompiled => exact hcompiled

theorem on_render_succ (he : e.Sound) (hi : e.instance? id = some i) {result : Except Failure Text}
    (h : (render m (depth + 1) id args).on e = (result, e')) :
    ∃ i', e'.instance? id = some i' ∧ i'.scope = e.heap.mappings.size ∧ i.Rendered m e i' ∧
      ∀ t, result = .ok t → i'.renderer ≠ none := by
  have hn := proper_render m depth
  have hs := secluded_render m depth
  have he₁ : (e.bound id args).Sound := he.bound
  have hi₁ : (e.bound id args).instance? id = some _ := he.instance?_bound hi
  rw [render, renderWith, on_bind_of_ok (on_bindScope_eq id args e), on_bind] at h
  have hbound : i.SameParts { i with scope := e.heap.mappings.size } :=
    ⟨rfl, rfl, rfl, rfl, rfl, rfl⟩
  have hcalm := hs.ready hn id
  have hquiet := hcalm.quiet _ he₁
  have hwork := hcalm.works _ he₁
  cases hrun : (ready (render m depth) id).on (e.bound id args) with
  | mk prepared e₂ =>
      rw [hrun] at h hquiet hwork
      obtain ⟨i₂, hi₂, hrendered, hcompiled⟩ := on_ready he₁ hi₁ hrun
      obtain ⟨j, hj, -, -, hscope⟩ := hquiet.instance? hi₁
      cases hi₂.symm.trans hj
      have hnotOwn (k : Nat) : none ≠ some k := (Option.some_ne_none k).symm
      have hlater {i' : Instance} (hsame : i₂.SameParts i') : i.Rendered m e i' := by
        rcases hrendered with ⟨hsome, hparts⟩ | ⟨hnone, outcome, hcompiles⟩
        · exact .inl ⟨hsome, hbound.trans (hparts.trans hsame)⟩
        · exact .inr ⟨hnone, outcome, hcompiles.congr hbound hsame rfl rfl⟩
      cases prepared with
      | error failure =>
          cases h
          exact ⟨i₂, hi₂, hscope (hnotOwn _), hlater (.refl i₂), by rintro _ ⟨⟩⟩
      | ok compiled =>
          have hcalm' : (do
              runProgram m (render m depth) (← «instance» id).owner e.heap.mappings.size compiled :
              Action Text).Calm m none none :=
            .bind (.instance id) fun i => hs.runProgram hn _ _ _
          have hquiet' := hcalm'.quiet e₂ hwork.sound
          have hwork' := hcalm'.works e₂ hwork.sound
          simp only at h
          rw [h] at hquiet' hwork'
          obtain ⟨i', hi', -, -, hscope'⟩ := hquiet'.instance? hi₂
          obtain ⟨j', hj', -, hsame⟩ := hwork'.instance? hi₂
          cases hi'.symm.trans hj'
          refine ⟨i', hi', (hscope' (hnotOwn _)).trans (hscope (hnotOwn _)), hlater hsame,
            fun t _ => ?_⟩
          rw [hsame.renderer, hcompiled compiled rfl]
          exact Option.some_ne_none _

theorem exists_instance_of_render {t : Text} (h : (render m depth id args).on e = (.ok t, e')) :
    ∃ i, e.instance? id = some i := by
  cases depth with
  | zero => cases h
  | succ depth =>
      refine Option.isSome_iff_exists.mp (Option.isSome_iff_ne_none.mpr fun hnone => ?_)
      obtain ⟨scope, e₁, hbind, hrest⟩ := on_bind_ok_iff.mp h
      obtain ⟨compiled, e₂, hready, -⟩ := on_bind_ok_iff.mp hrest
      cases hbind
      have hnone₁ : (e.bound id args).instance? id = none := by
        rw [Engine.bound, Engine.instance?_update, (e.alike_withScope args).instance?, hnone]
        rfl
      change (ready (render m depth) id).on (e.bound id args) = _ at hready
      rw [ready, on_bind, on_instance, hnone₁] at hready
      cases hready

theorem renderer_of_render {t : Text} (he : e.Sound)
    (h : (render m depth id args).on e = (.ok t, e')) (i : Instance)
    (hi' : e'.instance? id = some i) : i.renderer ≠ none := by
  obtain ⟨i₀, hi⟩ := exists_instance_of_render h
  cases depth with
  | zero => cases h
  | succ depth =>
      obtain ⟨i', hi'', -, -, hrenderer⟩ := on_render_succ he hi h
      cases hi'.symm.trans hi''
      exact hrenderer t rfl

/-- What a run can come to: it fails and leaves what rendering leaves, or the tree is set. -/
theorem on_run (he : e.Sound) {result : Except Failure Markup.Element}
    (h : (run m depth id args).on e = (result, e')) :
    (∃ failure rendered, result = .error failure ∧
      (render m depth id args).on e = (rendered, e')) ∨
    ∃ t e₁ tree, result = .ok tree ∧ (render m depth id args).on e = (.ok t, e₁) ∧
      e'.instances = (e₁.update id (Instance.withRoot tree)).instances := by
  have hwork := (proper_render m depth id args).works e he
  rw [run, on_bind] at h
  cases hrender : (render m depth id args).on e with
  | mk rendered e₁ =>
      rw [hrender] at h hwork
      cases rendered with
      | error failure =>
          cases h
          exact .inl ⟨failure, _, rfl, rfl⟩
      | ok t =>
          obtain ⟨i, hi⟩ := exists_instance_of_render hrender
          obtain ⟨i₁, hi₁, -⟩ := hwork.follows.instance? hi
          simp only [on_bind_of_ok (on_reader e₁)] at h
          cases hread : Markup.Reader.read { parser := e₁.settings.markupParser } t with
          | error f =>
              rw [hread] at h
              cases h
              exact .inl ⟨_, _, rfl, rfl⟩
          | ok tree =>
              have hset : (e₁.update id (Instance.withRoot tree)).instance? id = some _ :=
                hwork.sound.instance?_update hi₁
              rw [hread, on_bind_of_ok (on_ofExcept_ok _ e₁), on_bind_of_ok (on_update _ _ _)] at h
              change («instance» id >>= _).on (e₁.update id (Instance.withRoot tree)) = _ at h
              rw [on_bind_of_ok (on_instance_of_some hset)] at h
              unfold callHook at h
              split at h <;> cases h <;> exact .inr ⟨t, e₁, tree, rfl, rfl, rfl⟩

end Action

/-! ## Trees of instances that are not compiled -/

def Engine.Grounded (e : Engine) : Prop :=
  ∀ (k : Nat) (i : Instance), e.instance? k = some i → i.renderer = none → i.root = none

namespace Engine.Grounded

variable {e e' : Engine} {own : Option Nat}

theorem of_quiet (hg : e.Grounded) (h : e.Quiet own e')
    (hrenderer : ∀ k i i', e.instance? k = some i → e'.instance? k = some i' →
      i'.renderer = none → i.renderer = none) : e'.Grounded := by
  intro k i' hi' hnone
  cases hi : e.instance? k with
  | some i =>
      obtain ⟨j, hj, -, hroot, -⟩ := h.instance? hi
      cases hi'.symm.trans hj
      exact hroot.trans (hg k i hi (hrenderer k i i' hi hi' hnone))
  | none =>
      obtain ⟨hpos, hget⟩ := instance?_eq_some_iff.mp hi'
      refine h.new (k - 1) i' (Nat.le_of_not_lt fun hlt => ?_) hget
      have hsome := instance?_eq_some_iff.mpr ⟨hpos, List.getElem?_eq_getElem hlt⟩
      rw [hi] at hsome
      cases hsome

theorem of_instances (hg : e.Grounded) (h : e'.instances = e.instances) : e'.Grounded :=
  fun k i hi => hg k i ((instance?_congr h).symm.trans hi)

theorem withRoot (hg : e.Grounded) (he : e.Sound) {id : Nat} {root : Markup.Element}
    (hid : ∀ i, e.instance? id = some i → i.renderer ≠ none)
    (h : e'.instances = (e.update id (Instance.withRoot root)).instances) : e'.Grounded := by
  intro k j hj hnone
  rw [instance?_congr h, Engine.instance?_update] at hj
  obtain ⟨i, hi, rfl⟩ := Option.map_eq_some_iff.mp hj
  split at hnone
  · next hsame =>
      rw [he.id_of_instance? hi] at hsame
      exact absurd hnone (hid i (hsame ▸ hi))
  · next hother =>
      rw [if_neg hother]
      exact hg k i hi hnone

end Engine.Grounded

theorem Engine.Work.renderer_eq {e e' : Engine} {id k : Nat} {i i' : Instance}
    (h : e.Work m (some id) e') (hk : k ≠ id) (hi : e.instance? k = some i)
    (hi' : e'.instance? k = some i') : i'.renderer = i.renderer := by
  have hown : some id ≠ some k := fun hid => hk (Option.some.inj hid).symm
  rcases h.instance?_cases hi' hown with ⟨j, hj, hsame⟩ | ⟨habsent, -⟩
  · cases hi.symm.trans hj
    exact hsame.renderer
  · rw [hi] at habsent
    cases habsent

namespace Action

open Engine

variable {depth id : Nat} {args : Entries} {e e' : Engine} {i : Instance} {α : Type}

theorem Renders.renderer_none {x : Action α} (h : x.Renders m id) (he : e.Sound) {k : Nat}
    {i i' : Instance} (hi : e.instance? k = some i) (hi' : (x.on e).2.instance? k = some i')
    (hnone : i'.renderer = none) : i.renderer = none := by
  by_cases hk : k = id
  · subst hk
    rcases (h.renews e he i' hi').1 i hi with hsame | ⟨hnone', -⟩
    · exact hsame.renderer ▸ hnone
    · exact hnone'
  · exact (h.works e he).renderer_eq hk hi hi' ▸ hnone

def Grounds (x : Action α) : Prop :=
  ∀ e : Engine, e.Sound → e.Grounded → (x.on e).2.Grounded

theorem Renders.grounds {x : Action α} {own : Option Nat} (hx : x.Renders m id)
    (hcalm : x.Calm m (some id) own) : x.Grounds :=
  fun e he hg => hg.of_quiet (hcalm.quiet e he) fun _ _ _ hi hi' => hx.renderer_none he hi hi'

variable (m) in
theorem grounds_render (depth id : Nat) (args : Entries) : (render m depth id args).Grounds :=
  (proper_render m depth id args).grounds (secluded_render m depth id args)

variable (m) in
theorem grounds_run (depth id : Nat) (args : Entries) : (run m depth id args).Grounds := by
  intro e he hg
  have hgrounded := grounds_render m depth id args e he hg
  have hwork := (proper_render m depth id args).works e he
  cases hrun : (run m depth id args).on e with
  | mk result e' =>
      rcases on_run he hrun with ⟨failure, rendered, -, hrender⟩ | ⟨t, e₁, tree, -, hrender, hset⟩
      · rwa [hrender] at hgrounded
      · rw [hrender] at hgrounded hwork
        exact hgrounded.withRoot hwork.sound (renderer_of_render he hrender) hset

variable (m) in
theorem grounds_compile (depth id : Nat) : (compile (render m depth) id).Grounds := by
  intro e he hg
  have hn := proper_render m depth
  refine hg.of_quiet (((secluded_render m depth).compile hn id).quiet e he) ?_
  intro k i i' hi hi' hnone
  by_cases hk : k = id
  · subst hk
    cases hrun : (compile (render m depth) k).on e with
    | mk result e' =>
        rw [hrun] at hi'
        obtain ⟨i'', hi'', hcompiles⟩ := hn.compiles he hi hrun
        cases hi'.symm.trans hi''
        cases hcompiles with
        | unchanged failure hsame => exact hsame.renderer ▸ hnone
        | broken failure _ _ _ hrenderer => exact hrenderer ▸ hnone
        | done hrenderer => simp [hrenderer] at hnone
  · exact (hn.compile id e he).renderer_eq hk hi hi' ▸ hnone

variable (m) in
theorem grounds_reload (depth id : Nat) (selector : Text) (args : Entries) :
    (reload m depth id selector args).Grounds := by
  intro e he hg
  have hkept {e₁ : Engine} (hwork : e.Work m none e₁) (hquiet : e.Quiet none e₁) : e₁.Grounded := by
    refine hg.of_quiet hquiet fun k i i' hi hi' hnone => ?_
    obtain ⟨i'', hi'', -, hsame⟩ := hwork.instance? hi
    cases hi'.symm.trans hi''
    exact hsame.renderer ▸ hnone
  have hwork := works_reload (m := m) depth id selector args e he
  cases hrun : (reload m depth id selector args).on e with
  | mk result e' =>
      rw [hrun] at hwork
      cases hi : e.instance? id with
      | none =>
          rw [reload, on_bind, on_instance, hi] at hrun
          cases hrun
          exact hg
      | some i =>
          rcases on_reload m depth id selector args he hi hrun with ⟨-, hquiet⟩ |
            ⟨-, ⟨_, _, _, root, _, _, _, _, _, _, _, -, -, hroot, -⟩, e₁, root', hwork₁, hquiet,
              hinstances⟩
          · exact hkept hwork hquiet
          · refine (hkept hwork₁ hquiet).withRoot hwork₁.sound (fun i₁ hi₁ hnone => ?_) hinstances
            obtain ⟨i', hi', -, hsame⟩ := hwork₁.instance? hi
            cases hi₁.symm.trans hi'
            rw [hg id i hi (hsame.renderer ▸ hnone)] at hroot
            cases hroot

end Action

theorem Operation.grounded {e : Engine} (he : e.Sound) (hg : e.Grounded) (depth : Nat)
    (o : Operation) : ((o.perform m depth).on e).2.Grounded := by
  have hdiscarding {α : Type} {x : Action α} (hx : x.Grounds) :
      ((do let _ ← x; return none : Action (Option Nat)).on e).2.Grounded := by
    rw [Action.on_bind_none]
    exact hx e he hg
  have hn := Action.proper_render m depth
  cases o with
  | create name hook =>
      obtain ⟨i, e', hcreate, hopens, -⟩ := Action.on_create name hook e
      have hquiet := Action.quiet_create name hook e
      rw [hcreate] at hquiet
      rw [perform, map_eq_pure_bind, Action.on_bind_of_ok hcreate]
      refine hg.of_quiet hquiet fun k j j' hj hj' hnone => ?_
      obtain ⟨hpos, hget⟩ := Engine.instance?_eq_some_iff.mp hj
      have hlt := (List.getElem?_eq_some_iff.mp hget).1
      have hget' : e'.instances[k - 1]? = some j' := (Engine.instance?_eq_some_iff.mp hj').2
      rw [hopens.instances, List.getElem?_append_left hlt, hget] at hget'
      cases hget'
      exact hnone
  | compile id => exact hdiscarding (Action.grounds_compile m depth id)
  | render id args => exact hdiscarding (Action.grounds_render m depth id args)
  | run id args => exact hdiscarding (Action.grounds_run m depth id args)
  | reload id selector args => exact hdiscarding (Action.grounds_reload m depth id selector args)
  | renderOnce name args =>
      have hrenders : (Action.renderOnce (Action.render m depth) name args).Renders m 0 :=
        .of_works (hn.renderOnce name args)
      exact hdiscarding (hrenders.grounds
        (((Action.secluded_render m depth).renderOnce hn name args).weaken _))
  | dispose id => exact hg.of_instances rfl
  | outside heap sources => exact hg.of_instances rfl

theorem History.grounded {start e : Engine} {log : List Entry} (hstart : start.Fresh)
    (h : History m start log e) : e.Grounded := by
  induction h with
  | start =>
      intro k i hi
      have hget := (Engine.instance?_eq_some_iff.mp hi).2
      simp [hstart.instances] at hget
  | next h depth o ih => exact o.grounded (h.sound hstart.sound) ih depth

/-! ## Failures -/

def Operation.RendersWith (id : Nat) (args : Entries) (o : Operation) : Prop :=
  o = .render id args ∨ o = .run id args

theorem Operation.RendersWith.on_error {e e' : Engine} {o : Operation} {depth id : Nat}
    {args : Entries} {failure : Failure} (ho : o.RendersWith id args) (he : e.Sound)
    (h : (o.perform m depth).on e = (.error failure, e')) :
    ∃ rendered, (Action.render m depth id args).on e = (rendered, e') := by
  rcases ho with rfl | rfl
  · rw [perform, Action.on_bind_none] at h
    exact ⟨_, Prod.ext rfl (Prod.ext_iff.mp h).2⟩
  · rw [perform, Action.on_bind_none] at h
    cases hrun : (Action.run m depth id args).on e with
    | mk result e₁ =>
        rw [hrun] at h
        obtain ⟨hresult, rfl⟩ := Prod.ext_iff.mp h
        rcases Action.on_run he hrun with ⟨_, rendered, -, hrender⟩ | ⟨t, e₂, tree, rfl, -⟩
        · exact ⟨rendered, hrender⟩
        · cases hresult

/-- If rendering or running an instance fails, its tree, the calls of hooks and the other instances
are as before, its table has at most grown, and those are registered that were, unless an expression
has asked for something else. The instance has a new scope, that of the failed
call. If it has a renderer, all that it is compiled to stays; otherwise it has never been run, and
the template has been compiled. -/
theorem failed_rendering {start e e' : Engine} {log : List Entry} (hstart : start.Fresh)
    (h : History m start log e) {depth id : Nat} {args : Entries} {o : Operation} {i : Instance}
    {failure : Failure} (ho : o.RendersWith id args) (hi : e.instance? id = some i)
    (hfail : (o.perform m (depth + 1)).on e = (.error failure, e')) :
    e'.registry.Sublist e.registry ∧
    (∀ k ∈ e.registry, k ∈ e'.registry ↔
      ¬ (Activity.perform (depth + 1) o).Unregisters m e k) ∧
    e'.hookCalls = e.hookCalls ∧
    (∀ k j, k ≠ id → e.instance? k = some j → ∃ j', e'.instance? k = some j' ∧
      j.Retained j' ∧ j'.root = j.root) ∧
    ∃ i', e'.instance? id = some i' ∧ i'.root = i.root ∧ i.captured <+: i'.captured ∧
      i'.scope = e.heap.mappings.size ∧
      (i.renderer ≠ none → i.SameParts i') ∧
      (i.renderer = none → i.root = none ∧ ∃ outcome, i.Compiles m e i' outcome) := by
  have he := h.sound hstart.sound
  obtain ⟨rendered, hrender⟩ := ho.on_error he hfail
  have hcalm := Action.secluded_render m (depth + 1) id args
  have hwork := hcalm.works e he
  have hquiet := hcalm.quiet e he
  rw [hrender] at hwork hquiet
  obtain ⟨i', hi', hscope, hparts, -⟩ := Action.on_render_succ he hi hrender
  obtain ⟨i₁, hi₁, -, hroot, -⟩ := hquiet.instance? hi
  obtain ⟨i₂, hi₂, hlater⟩ := hwork.follows.instance? hi
  cases hi'.symm.trans hi₁
  cases hi'.symm.trans hi₂
  refine ⟨hwork.registry, fun k hk => Activity.mem_registry_perform_iff he hk ?_ hfail,
    hquiet.hookCalls, fun k j hk hj => ?_, i', hi', hroot, hlater.captured, hscope,
    fun hsome => ?_, fun hnone => ?_⟩
  · rcases ho with rfl | rfl <;> exact Operation.noConfusion
  · obtain ⟨j', hj', hhook, hjroot, hjscope⟩ := hquiet.instance? hj
    have hown : some id ≠ some j.id := fun hid =>
      hk ((he.id_of_instance? hj).symm.trans (Option.some.inj hid).symm)
    obtain ⟨hpos, hget⟩ := Engine.instance?_eq_some_iff.mp hj
    obtain ⟨j₁, hj₁, hjlater, hsame⟩ := hwork.kept _ j hget
    cases hj'.symm.trans (Engine.instance?_eq_some_iff.mpr ⟨hpos, hj₁⟩)
    exact ⟨j', hj', ⟨hsame hown, hjscope hown, hhook, hjlater.owner, hjlater.captured⟩, hjroot⟩
  · rcases hparts with ⟨-, hsame⟩ | ⟨hnone, -⟩
    · exact hsame
    · exact absurd hnone hsome
  · rcases hparts with ⟨hsome, -⟩ | ⟨-, hcompiles⟩
    · exact absurd hnone hsome
    · exact ⟨h.grounded hstart id i hi hnone, hcompiles⟩

/-! ## Dividing by zero -/

def dividing : Engine :=
  { sources := .table [("page".toList, "<p>\x7b$x\x7d</p>\x7b1//$y\x7d".toList)] }

def amount (n : String) (k : Int) : Value × Value := named n (.int k .shared)

def Engine.amount? (e : Engine) (id : Nat) (n : String) : Option Int := do
  let i ← e.instance? id
  ((e.heap.mapping i.scope).get? (.str n.toList .shared)).bind Value.int?

def Engine.markup? (e : Engine) (id : Nat) : Option Text := do
  return (← (← e.instance? id).root).outer

def zeroRun : Action (Option Nat) :=
  (Operation.run 1 [amount "x" 6, amount "y" 0]).perform fewSteps 3

theorem history_dividing :
    ∃ log e e' failure, History fewSteps dividing log e ∧
      (e.instance? 1).map (·.renderer.isSome) = some true ∧ zeroRun.on e = (.error failure, e') ∧
      (e.amount? 1 "x", e'.amount? 1 "x") = (some 5, some 6) ∧
      (e'.markup? 1, ((Action.reload fewSteps 3 1 "p".toList []).on e').2.markup? 1) =
        (some "<div><p>5</p>1</div>".toList, some "<div><p>6</p>1</div>".toList) := by
  have hstart : History fewSteps dividing [] dividing := .start
  obtain ⟨log, e, h, hrenderer, hfails, hafter⟩ : ∃ log e, History fewSteps dividing log e ∧
      (e.instance? 1).map (·.renderer.isSome) = some true ∧
        (zeroRun.on e).1.toOption.isNone = true ∧
        (e.amount? 1 "x", (zeroRun.on e).2.amount? 1 "x", (zeroRun.on e).2.markup? 1,
          ((Action.reload fewSteps 3 1 "p".toList []).on (zeroRun.on e).2).2.markup? 1) =
          (some 5, some 6, some "<div><p>5</p>1</div>".toList,
            some "<div><p>6</p>1</div>".toList) :=
    ⟨_, _, (hstart.next 3 (.create "page".toList none)).next 3
      (.run 1 [amount "x" 5, amount "y" 1]), by decide +kernel, by decide +kernel,
        by decide +kernel⟩
  simp only [Prod.mk.injEq] at hafter ⊢
  obtain ⟨hbefore, hscope, hmarkup, hreloaded⟩ := hafter
  cases hrun : zeroRun.on e with
  | mk result e' =>
      rw [hrun] at hfails hscope hmarkup hreloaded
      cases result with
      | ok n => cases hfails
      | error failure =>
          exact ⟨log, e, e', failure, h, hrenderer, hrun, ⟨hbefore, hscope⟩, hmarkup, hreloaded⟩

/-- What the instance is compiled to stays, and it has a new scope. -/
theorem failed_rendering_dividing :
    dividing.Fresh ∧ ∃ log e e' i i' failure, History fewSteps dividing log e ∧
      zeroRun.on e = (.error failure, e') ∧ e.instance? 1 = some i ∧ e'.instance? 1 = some i' ∧
      i.SameParts i' ∧ i'.root = i.root ∧ i'.scope = e.heap.mappings.size := by
  obtain ⟨log, e, e', failure, h, hrenderer, hrun, -⟩ := history_dividing
  obtain ⟨i, hi, hsome⟩ := Option.map_eq_some_iff.mp hrenderer
  obtain ⟨-, -, -, -, i', hi', hroot, -, hscope, hsame, -⟩ :=
    failed_rendering ⟨rfl, rfl⟩ h (.inr rfl) hi hrun
  refine ⟨⟨rfl, rfl⟩, log, e, e', i, i', failure, h, hrun, hi, hi', hsame fun hnone => ?_, hroot,
    hscope⟩
  rw [hnone] at hsome
  cases hsome

/-- The scope of the run that went well is gone, and a reload shows the argument of the one that
failed. -/
theorem failed_rendering_rebinds :
    ∃ log e e' failure, History fewSteps dividing log e ∧ zeroRun.on e = (.error failure, e') ∧
      e.amount? 1 "x" = some 5 ∧ e'.amount? 1 "x" = some 6 ∧
      e'.markup? 1 = some "<div><p>5</p>1</div>".toList ∧
      ((Action.reload fewSteps 3 1 "p".toList []).on e').2.markup? 1 =
        some "<div><p>6</p>1</div>".toList := by
  obtain ⟨log, e, e', failure, h, -, hrun, hscopes, hmarkups⟩ := history_dividing
  obtain ⟨hbefore, hafter⟩ := Prod.mk.inj hscopes
  obtain ⟨hmarkup, hreloaded⟩ := Prod.mk.inj hmarkups
  exact ⟨log, e, e', failure, h, hrun, hbefore, hafter, hmarkup, hreloaded⟩

end Stencil
