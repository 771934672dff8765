import Stencil.Proofs.Engine.Playing
import Stencil.Proofs.Template.Generating

/-!
# Rendering is work

All that rendering is made of is work for the instance that is rendered. Templates that are rendered
once come and go meanwhile: their instances are registered only as long as they are rendered.
-/

namespace Stencil

open Template (Compiled Failure Segment)

variable {m : Machine}

theorem Sources.mem_of_find? {entries : List (Text × Text)} {name source : Text}
    (h : (table entries).find? name = .ok (some source)) : (name, source) ∈ entries := by
  obtain ⟨before, after, hentries, -⟩ := List.lookup_eq_some_iff.mp (Except.ok.inj h)
  simp [hentries]

namespace Engine

/-! ## Temporary instances -/

/-- One instance has been made and registered, with an empty scope, and has not been compiled. -/
structure Opens (e : Engine) (i : Instance) (e' : Engine) : Prop where
  settings : e'.settings = e.settings
  sources : e'.sources = e.sources
  globals : e'.globals = e.globals
  codes : e'.codes = e.codes
  heap : e'.heap = (e.withScope []).heap
  registry : e'.registry = e.registry ++ [i.id]
  instances : e'.instances = e.instances ++ [i]
  id : i.id = e.instances.length + 1
  scope : i.scope = e.heap.mappings.size
  captured : i.captured = []
  renderer : i.renderer = none

namespace Opens

variable {e e₁ e' : Engine} {i : Instance}

theorem instance? (h : e.Opens i e₁) : e₁.instance? i.id = some i := by
  rw [h.id, instance?_succ, h.instances, List.getElem?_concat_length]

theorem follows (h : e.Opens i e₁) : e.Follows e₁ where
  settings := h.settings
  instances := fun k i' hi' =>
    ⟨i', by rw [h.instances, List.getElem?_append_left (List.getElem?_eq_some_iff.mp hi').1, hi'],
      .refl i'⟩
  registry := by
    intro id hle hid
    rw [h.registry, List.mem_append, List.mem_singleton, h.id] at hid
    exact hid.resolve_right (by omega)

theorem sound (h : e.Opens i e₁) (he : e.Sound) : e₁.Sound where
  numbered := by
    intro k i' hi'
    rw [h.instances, List.getElem?_append] at hi'
    split at hi'
    · exact he.numbered k i' hi'
    · obtain ⟨hlt, rfl⟩ := List.getElem?_eq_some_iff.mp hi'
      rw [List.length_singleton] at hlt
      rw [List.getElem_singleton, h.id]
      omega
  distinct := by
    intro i' hi'
    rw [h.instances, List.mem_append, List.mem_singleton] at hi'
    rcases hi' with hi' | rfl
    · exact he.distinct i' hi'
    · rw [h.captured]
      exact .nil
  registered := by
    intro id hid
    rw [h.registry, List.mem_append, List.mem_singleton, h.id] at hid
    rw [h.instances, List.length_append, List.length_singleton]
    rcases hid with hid | rfl
    · have := he.registered id hid
      omega
    · omega
  sorted := by
    rw [h.registry, List.pairwise_append]
    refine ⟨he.sorted, List.pairwise_singleton _ _, fun id hid id' hid' => ?_⟩
    have hle := (he.registered id hid).2
    rw [List.mem_singleton, h.id] at hid'
    omega

theorem work_dispose (h : e.Opens i e₁) (he : e.Sound) (hwork : e₁.Work m (some i.id) e')
    (hcoupled : ∀ i', e'.instance? i.id = some i' → i'.Coupled m e.settings) :
    e.Work m none (e'.dispose i.id) := by
  have hregistry : (e'.dispose i.id).registry.Sublist e.registry := by
    have hfresh : i.id ∉ e.registry := h.id ▸ he.registry_le
    have herase : (e'.dispose i.id).registry.Sublist ((e.registry ++ [i.id]).erase i.id) :=
      (h.registry ▸ hwork.registry).erase i.id
    rwa [List.erase_append_right _ hfresh, List.erase_cons_head, List.append_nil] at herase
  have hkept : ∀ (k : Nat) (i₀ : Instance), e.instances[k]? = some i₀ →
      ∃ i', e'.instances[k]? = some i' ∧ i₀.Later i' ∧ i₀.SameParts i' := by
    intro k i₀ hi₀
    have hlt := (List.getElem?_eq_some_iff.mp hi₀).1
    obtain ⟨i', hi', hlater, hsame⟩ := hwork.kept k i₀
      (by rw [h.instances, List.getElem?_append_left hlt, hi₀])
    refine ⟨i', hi', hlater, hsame fun hid => ?_⟩
    have hnumber := he.numbered k i₀ hi₀
    have hown := h.id
    rw [Option.some.inj hid] at hown
    omega
  refine ⟨⟨hwork.sound.numbered, hwork.sound.distinct, ?_, he.sorted.sublist hregistry⟩, ?_, ?_,
    hregistry, fun k i₀ hi₀ => ?_, fun k i' hle hi' _ => ?_⟩
  · have hle : e.instances.length ≤ e'.instances.length :=
      (h.follows.trans hwork.follows).length_le
    intro id hid
    have hold := he.registered id (hregistry.subset hid)
    exact ⟨hold.1, Nat.le_trans hold.2 hle⟩
  · exact hwork.settings.trans h.settings
  · exact hwork.sources.trans h.sources
  · obtain ⟨i', hi', hlater, hsame⟩ := hkept k i₀ hi₀
    exact ⟨i', hi', hlater, fun _ => hsame⟩
  · have hnumber := hwork.sound.numbered k i' hi'
    by_cases hown : i.id = i'.id
    · refine hcoupled i' ?_
      rw [hown, hnumber]
      exact hi'
    · rw [← h.settings]
      refine hwork.new k i' ?_ hi' fun hid => hown (Option.some.inj hid)
      have hid := h.id
      rw [h.instances, List.length_append, List.length_singleton]
      omega

end Opens

end Engine

/-- The engine with arguments bound to a new scope of an instance. -/
def Engine.bound (id : Nat) (args : Entries) (e : Engine) : Engine :=
  (e.withScope args).update id fun i => { i with scope := e.heap.mappings.size }

section

variable {e : Engine} {id : Nat} {args : Entries} {i : Instance}

theorem Engine.Sound.bound (he : e.Sound) : (e.bound id args).Sound :=
  (he.of_alike (e.alike_withScope args)).update_sameTable fun _ => ⟨rfl, rfl, rfl, rfl⟩

theorem Engine.Sound.instance?_bound (he : e.Sound) (hi : e.instance? id = some i) :
    (e.bound id args).instance? id = some { i with scope := e.heap.mappings.size } :=
  have halike := e.alike_withScope args
  (he.of_alike halike).instance?_update (halike.instance?.trans hi)

end

namespace Action

open Engine

/-! ## Parts of rendering -/

theorem on_bindScope_eq (id : Nat) (args : Entries) (e : Engine) :
    (bindScope id args).on e = (.ok e.heap.mappings.size, e.bound id args) := rfl

namespace Works

variable {own : Option Nat} {α : Type}

protected theorem get : (get : Action Engine).Works m own := .of_aside fun _ => ⟨rfl, rfl, rfl, rfl⟩

protected theorem fault (f : Fault) : (fault f : Action α).Works m own :=
  .of_aside fun _ => ⟨rfl, rfl, rfl, rfl⟩

protected theorem throw (failure : Failure) : (throw failure : Action α).Works m own :=
  .of_aside fun _ => ⟨rfl, rfl, rfl, rfl⟩

protected theorem note (parts : List Text) : (note parts).Works m own :=
  .of_aside fun _ => ⟨rfl, rfl, rfl, rfl⟩

protected theorem newText (t : Text) : (newText t).Works m own :=
  .of_aside fun _ => ⟨rfl, rfl, rfl, rfl⟩

protected theorem newInt (n : Int) : (newInt n).Works m own :=
  .of_aside fun _ => ⟨rfl, rfl, rfl, rfl⟩

protected theorem newScope (entries : Entries) : (newScope entries).Works m own :=
  .of_aside fun _ => ⟨rfl, rfl, rfl, rfl⟩

protected theorem ofExcept (r : Except Fault α) : (ofExcept r).Works m own := by
  cases r with
  | ok a => exact .pure a
  | error f => exact .fault f

protected theorem mapping (address : Nat) : (mapping address).Works m own :=
  .bind .get fun _ => .pure _

protected theorem reader : reader.Works m own := .bind .get fun _ => .pure _

protected theorem «instance» (id : Nat) : («instance» id).Works m own := by
  refine .bind .get fun e => ?_
  cases e.instance? id with
  | some i => exact .pure i
  | none => exact .fault _

protected theorem loadSource (name : Text) : (loadSource name).Works m own := by
  refine .bind .get fun e => .bind (.ofExcept _) fun found => ?_
  cases found with
  | some text => exact .pure text
  | none =>
      refine .bind .get fun e => ?_
      cases e.sources with
      | library l => exact .bind (.note _) fun _ => .throw _
      | table entries => exact .throw _

protected theorem build (name : Text) (program : Template.Program) :
    (build name program).Works m own := by
  refine .bind .get fun e => ?_
  cases Template.compile name e.codes program with
  | ok compiled => exact .of_aside fun _ => ⟨rfl, rfl, rfl, rfl⟩
  | error failure => exact .throw failure

protected theorem update {id : Nat} {f : Instance → Instance}
    (hf : ∀ i : Instance, i.SameTable (f i))
    (hparts : own = some id ∨ ∀ i : Instance, i.SameParts (f i)) : (update id f).Works m own :=
  fun _ he => .update_sameTable he hf hparts

protected theorem unregister {f : Engine → Engine} (hf : ∀ e, (f e).registry.Sublist e.registry)
    (hsame : ∀ e, f e = { e with registry := (f e).registry }) :
    (modify f : Action Unit).Works m own := by
  intro e he
  change e.Work m own (f e)
  have hregistry := hf e
  rw [hsame e]
  generalize (f e).registry = registry at hregistry
  refine ⟨⟨he.numbered, he.distinct, fun id hid => he.registered id (hregistry.subset hid),
    he.sorted.sublist hregistry⟩, rfl, rfl, hregistry,
    fun _ i hi => ⟨i, hi, .refl i, fun _ => .refl i⟩, fun k i' hle hi' _ => ?_⟩
  exact absurd (List.getElem?_eq_some_iff.mp hi').1 (Nat.not_lt_of_le hle)

protected theorem dispose (id : Nat) : (modify (Engine.dispose id) : Action Unit).Works m own :=
  .unregister (fun _ => List.erase_sublist) fun _ => rfl

protected theorem clear : (modify Engine.clear : Action Unit).Works m own :=
  .unregister (fun _ => List.nil_sublist _) fun _ => rfl

protected theorem capture (id : Nat) (v : Value) : (capture id v).Works m own := by
  intro e he
  rw [capture, on_bind, on_instance]
  cases hi : e.instance? id with
  | none => exact .refl he
  | some i =>
      cases hfound : i.captured.findIdx? (·.same v) with
      | some index =>
          simp only [hfound]
          exact .refl he
      | none =>
          simp only [hfound, on_bind, on_update, on_pure]
          refine Work.update he (fun i _ _ => ⟨rfl, rfl, rfl, List.prefix_append _ _⟩)
            (fun i' hi' hid => ?_) (.inr fun i => ⟨rfl, rfl, rfl, rfl, rfl, rfl⟩)
          have hsame := he.instance?_of_mem hi'
          rw [hid, hi] at hsame
          cases hsame
          have hnew := List.findIdx?_eq_none_iff.mp hfound
          refine List.pairwise_append.mpr ⟨he.distinct i hi', List.pairwise_singleton _ _, ?_⟩
          intro w hw w' hw'
          rw [List.mem_singleton.mp hw']
          simpa using hnew w hw

protected theorem referenceText (id : Nat) (index : Int) :
    (referenceText id index).Works m own :=
  .bind .get fun _ => .ofExcept _

end Works

theorem on_create (name : Text) (hook : Option Text) (e : Engine) :
    ∃ i e', (create name hook).on e = (.ok i.id, e') ∧ e.Opens i e' ∧ i.name = name ∧
      i.owner = i.id :=
  ⟨⟨e.instances.length + 1, name, hook.or e.hook, [], [], none, none, e.heap.mappings.size, [],
    none, e.instances.length + 1⟩, _, rfl, ⟨rfl, rfl, rfl, rfl, rfl, rfl, rfl, rfl, rfl, rfl, rfl⟩,
    rfl, rfl⟩

theorem on_openInclude (name : Text) (owner : Option Nat) {e : Engine} (he : e.Sound) :
    ∃ i e', (openInclude name owner).on e = (.ok i.id, e') ∧ e.Opens i e' ∧ i.name = name ∧
      i.owner = owner.getD i.id := by
  rw [openInclude, on_bind_of_ok (on_note _ e)]
  obtain ⟨i, e', hcreate, hopens, hname, howner⟩ :=
    on_create name none { e with log := e.log ++ [Text.say ["Including '", name, "'"]] }
  rw [on_bind_of_ok hcreate]
  cases owner with
  | none =>
      exact ⟨i, e', rfl, { hopens with }, hname, howner⟩
  | some owner =>
      refine ⟨{ i with owner }, e'.update i.id fun i => { i with owner }, rfl,
        { hopens with instances := ?_ }, hname, rfl⟩
      -- The new number is the number of no other instance.
      have hothers : ∀ j ∈ e.instances, (if j.id = i.id then { j with owner } else j) = j := by
        intro j hj
        obtain ⟨k, hk⟩ := List.getElem?_of_mem hj
        have hlt := (List.getElem?_eq_some_iff.mp hk).1
        have hid := hopens.id
        refine if_neg fun heq => ?_
        rw [he.numbered k j hk] at heq
        simp only at hid
        omega
      simp only [Engine.update, hopens.instances, List.map_append, List.map_cons, List.map_nil,
        if_true]
      rw [List.map_congr_left hothers, List.map_id']

theorem on_includeMarkup {nested : Nested} {id scope : Nat} {i : Instance} {e : Engine}
    (hi : e.instance? id = some i) (name : Text) :
    (includeMarkup nested id scope name).on e =
      (renderInclude nested name (e.heap.mapping scope).entries (some i.owner)).on
        ((note ["Inlining include '", name, "'"]).on e).2 := by
  have hmapping (e : Engine) : (mapping scope).on e = (.ok (e.heap.mapping scope).entries, e) := rfl
  rw [includeMarkup, on_bind_of_ok (on_note _ e), on_bind_of_ok (hmapping _)]
  exact on_bind_of_ok (on_instance_of_some hi)

theorem on_ready_of_none {nested : Nested} {id : Nat} {i : Instance} {e : Engine}
    (hi : e.instance? id = some i) (hrenderer : i.renderer = none) :
    (ready nested id).on e = (Action.compile nested id).on e := by
  rw [ready, on_bind_of_ok (on_instance_of_some hi)]
  simp only [hrenderer]

/-! ## Taking apart and putting together -/

inductive TakesApart (id : Nat) (e : Engine) :
    Except Failure (Instance × Template.Extraction) → Engine → Prop
  | missing {e' : Engine} (failure : Failure) (halike : e.Alike e') :
      TakesApart id e (.error failure) e'
  | unread {i : Instance} {source : Text} {extraction : Template.Extraction} (failure : Failure)
      (hi : e.instance? id = some i) (hsource : e.sources.find? i.name = .ok (some source))
      (hextraction : Template.extract e.settings.trimLines source = extraction) :
      TakesApart id e (.error failure) (e.update id (·.withExtraction extraction))
  | taken {i : Instance} {source : Text} {extraction : Template.Extraction}
      {tree : Markup.Element} (hi : e.instance? id = some i)
      (hsource : e.sources.find? i.name = .ok (some source))
      (hextraction : Template.extract e.settings.trimLines source = extraction)
      (htree : Markup.Reader.read { parser := e.settings.markupParser } extraction.snapshot =
        .ok tree) :
      TakesApart id e (.ok (i, extraction))
        ((e.update id (·.withExtraction extraction)).update id fun i =>
          { i with snapshotTree := some tree })

theorem on_loadSource (name : Text) (e : Engine) :
    (∃ source, e.sources.find? name = .ok (some source) ∧
      (loadSource name).on e = (.ok source, e)) ∨
    ∃ failure e', e.Alike e' ∧ (loadSource name).on e = (.error failure, e') := by
  rw [loadSource, on_bind_of_ok (on_get e)]
  cases hfound : e.sources.find? name with
  | error f => exact .inr ⟨_, e, ⟨rfl, rfl, rfl, rfl⟩, rfl⟩
  | ok found =>
      cases found with
      | some source => exact .inl ⟨source, rfl, rfl⟩
      | none =>
          refine .inr ⟨.sourceNotFound name, ?_⟩
          rw [on_bind_of_ok (on_ofExcept_ok _ e), on_bind_of_ok (on_get e)]
          cases e.sources <;> exact ⟨_, by constructor <;> rfl, rfl⟩

theorem takesApart_of_on {id : Nat} {e e' : Engine}
    {result : Except Failure (Instance × Template.Extraction)}
    (h : (takeApart id).on e = (result, e')) : TakesApart id e result e' := by
  rw [takeApart, on_bind, on_instance] at h
  cases hi : e.instance? id with
  | none =>
      rw [hi] at h
      cases h
      exact .missing _ ⟨rfl, rfl, rfl, rfl⟩
  | some i =>
      simp only [hi, on_bind] at h
      rcases on_loadSource i.name e with ⟨source, hsource, hload⟩ | ⟨failure, e₁, halike, hload⟩
      · simp only [hload, on_get, on_update, on_reader, update_settings] at h
        cases hread : Markup.Reader.read { parser := e.settings.markupParser }
            (Template.extract e.settings.trimLines source).snapshot with
        | error f =>
            rw [hread] at h
            cases h
            exact .unread _ hi hsource rfl
        | ok tree =>
            rw [hread] at h
            cases h
            exact .taken hi hsource rfl hread
      · rw [hload] at h
        cases h
        exact .missing _ halike

inductive Equips (id : Nat) (name : Text) (program : Template.Program) (e : Engine) :
    Except Failure Compiled → Engine → Prop
  | refused (failure : Failure) : Equips id name program e (.error failure) e
  | equipped {compiled : Compiled} {next : Nat} {e' : Engine}
      (hcompile : Template.compile name e.codes program = .ok (compiled, next))
      (halike : (e.update id fun i => { i with renderer := some compiled }).Alike e') :
      Equips id name program e (.ok compiled) e'

theorem equips_of_on {id spans : Nat} {name : Text} {program : Template.Program} {e e' : Engine}
    {result : Except Failure Compiled} (h : (equip id name spans program).on e = (result, e')) :
    Equips id name program e result e' := by
  rw [equip, on_bind, build, on_bind_of_ok (on_get e)] at h
  cases hcompile : Template.compile name e.codes program with
  | error failure =>
      rw [hcompile] at h
      cases h
      exact .refused failure
  | ok compiled =>
      rw [hcompile] at h
      cases h
      exact .equipped hcompile ⟨rfl, rfl, rfl, rfl⟩

namespace Works

protected theorem takeApart (id : Nat) : (takeApart id).Works m (some id) := by
  intro e he
  cases hrun : (takeApart id).on e with
  | mk result e' =>
      cases takesApart_of_on hrun with
      | missing failure halike => exact .of_alike he halike
      | unread failure hi hsource hextraction =>
          exact .update_sameTable he (fun i => ⟨rfl, rfl, rfl, rfl⟩) (.inl rfl)
      | @taken i source extraction tree hi hsource hextraction htree =>
          have hfirst : e.Work m (some id) (e.update id (·.withExtraction extraction)) :=
            .update_sameTable he (fun i => ⟨rfl, rfl, rfl, rfl⟩) (.inl rfl)
          refine hfirst.trans (.update_sameTable hfirst.sound ?_ (.inl rfl))
          exact fun i => ⟨rfl, rfl, rfl, rfl⟩

protected theorem equip (id : Nat) (name : Text) (spans : Nat) (program : Template.Program) :
    (equip id name spans program).Works m (some id) := by
  intro e he
  cases hrun : (equip id name spans program).on e with
  | mk result e' =>
      cases equips_of_on hrun with
      | refused failure => exact .refl he
      | @equipped compiled next _ hcompile halike =>
          have hfirst : e.Work m (some id) (e.update id fun i =>
              { i with renderer := some compiled }) :=
            .update_sameTable he (fun i => ⟨rfl, rfl, rfl, rfl⟩) (.inl rfl)
          exact hfirst.trans (.of_alike hfirst.sound halike)

section

variable {handler : Text → Action Text}

protected theorem generateSegment (hmarkup : ∀ name, (handler name).Works m none)
    (segment : Segment) : (segment.generate (m := Action) (some handler)).Works m none := by
  cases segment with
  | chunk text position => exact .pure _
  | span s =>
      cases hclassify : s.classify with
      | «include» name =>
          rw [Template.Segment.generate_span_include hclassify]
          exact .bind (hmarkup name) fun _ => .pure _
      | _ =>
          rw [Template.Segment.generate_span (by rw [hclassify]; rfl)]
          exact .pure _

protected theorem generate (hmarkup : ∀ name, (handler name).Works m none)
    (segments : List Segment) :
    (Template.generate (m := Action) (some handler) segments).Works m none := by
  induction segments with
  | nil => exact .pure _
  | cons segment more ih =>
      exact .bind (.generateSegment hmarkup segment) fun first => .bind ih fun rest => .pure _

end

end Works

/-! ## Rendering others -/

variable (m) in
/-- The action is work for an instance whose parts are afterwards what they were or, if it had no
renderer, belong together. -/
structure Renders (id : Nat) {α : Type} (x : Action α) : Prop where
  works : x.Works m (some id)
  renews : ∀ e : Engine, e.Sound → ∀ i', (x.on e).2.instance? id = some i' →
    (∀ i, e.instance? id = some i → i.Renewed m e.settings i') ∧
      (e.instance? id = none → i'.Coupled m e.settings)

namespace Renders

variable {id : Nat} {α β : Type}

theorem of_works {x : Action α} (h : x.Works m none) : x.Renders m id where
  works := h.weaken _
  renews := by
    intro e he i' hi'
    rcases (h e he).instance?_cases hi' nofun with ⟨i, hi, hsame⟩ | ⟨hnone, hcoupled⟩
    · rw [hi]
      refine ⟨?_, nofun⟩
      rintro _ ⟨⟩
      exact .inl hsame
    · rw [hnone]
      exact ⟨nofun, fun _ => hcoupled⟩

protected theorem bind {x : Action α} {f : α → Action β} (hx : x.Renders m id)
    (hf : ∀ a, (f a).Renders m id) : (x >>= f).Renders m id where
  works := hx.works.bind fun a => (hf a).works
  renews := by
    intro e he i' hi'
    have hwork := hx.works e he
    have hfirst := hx.renews e he
    rw [on_bind] at hi'
    cases hrun : x.on e with
    | mk result e₁ =>
        rw [hrun] at hi' hwork hfirst
        cases result with
        | error failure => exact hfirst i' hi'
        | ok a =>
            have hrest := (hf a).renews e₁ hwork.sound i' hi'
            rw [hwork.settings] at hrest
            refine ⟨fun i hi => ?_, fun hnone => ?_⟩
            · obtain ⟨i₁, hi₁, -⟩ := hwork.follows.instance? hi
              exact ((hfirst i₁ hi₁).1 i hi).trans (hrest.1 i₁ hi₁)
            · cases hi₁ : e₁.instance? id with
              | none => exact hrest.2 hi₁
              | some i₁ => exact (hrest.1 i₁ hi₁).coupled ((hfirst i₁ hi₁).2 hnone)

theorem renewed {x : Action α} (h : x.Renders m id) {e : Engine} (he : e.Sound) {k : Nat}
    {i' : Instance} (hi' : (x.on e).2.instance? k = some i') :
    (∃ i, e.instance? k = some i ∧ i.Renewed m e.settings i') ∨ i'.Coupled m e.settings := by
  by_cases hk : k = id
  · subst hk
    cases hi : e.instance? k with
    | none => exact .inr ((h.renews e he i' hi').2 hi)
    | some i => exact .inl ⟨i, rfl, (h.renews e he i' hi').1 i hi⟩
  · have hown : some id ≠ some k := fun hid => hk (Option.some.inj hid).symm
    refine ((h.works e he).instance?_cases hi' hown).imp ?_ And.right
    exact fun ⟨i, hi, hsame⟩ => ⟨i, hi, .inl hsame⟩

end Renders

variable (m) in
/-- How instances are rendered one level deeper. -/
def Proper (nested : Nested) : Prop := ∀ id args, (nested id args).Renders m id

section

variable {nested : Nested}

theorem Proper.work_dispose (hn : Proper m nested) {e e' : Engine} (he : e.Sound) {i : Instance}
    (hopens : e.Opens i e') (args : Entries) :
    e.Work m none (((nested i.id args).on e').2.dispose i.id) := by
  have he' := hopens.sound he
  refine hopens.work_dispose he ((hn i.id args).works e' he') fun i' hi' => ?_
  have hrenewed := ((hn i.id args).renews e' he' i' hi').1 i hopens.instance?
  exact hopens.settings ▸ hrenewed.coupled (.of_renderer_none hopens.renderer)

theorem Proper.renderOnce (hn : Proper m nested) (name : Text) (args : Entries) :
    (renderOnce nested name args).Works m none := by
  intro e he
  obtain ⟨i, e', hcreate, hopens, -⟩ := on_create name none e
  rw [Action.renderOnce, on_bind_of_ok hcreate]
  exact hn.work_dispose he hopens args

theorem Proper.renderInclude (hn : Proper m nested) (name : Text) (args : Entries)
    (owner : Option Nat) : (renderInclude nested name args owner).Works m none := by
  intro e he
  obtain ⟨i, e', hopen, hopens, -⟩ := on_openInclude name owner he
  rw [Action.renderInclude, on_bind_of_ok hopen]
  exact hn.work_dispose he hopens args

theorem Proper.answer (hn : Proper m nested) (request : Request) :
    (answer nested request).Works m none := by
  cases request with
  | capture id v => exact .bind (.capture id v) fun _ => .newInt _
  | reference id index => exact .bind (.referenceText id index) fun _ => .newText _
  | scope id => exact .bind (.instance id) fun _ => .pure _
  | render name args => exact .bind (hn.renderOnce name args) fun _ => .newText _
  | renderInclude name args owner =>
      exact .bind (hn.renderInclude name args owner) fun _ => .newText _
  | source name => exact .bind (.loadSource name) fun _ => .newText _
  | dispose id => exact .bind (.dispose id) fun _ => .pure _
  | clear => exact .bind .clear fun _ => .pure _

theorem Proper.includeMarkup (hn : Proper m nested) (id scope : Nat) (name : Text) :
    (includeMarkup nested id scope name).Works m none :=
  .bind (.note _) fun _ => .bind (.mapping scope) fun _ => .bind (.instance id) fun _ =>
    hn.renderInclude _ _ _

theorem Proper.converse (hn : Proper m nested) {α : Type} (d : Dialog α) :
    (converse (Action.answer nested) d).Works m none := by
  intro e he
  rw [on_converse]
  have hplay := d.work_play hn.answer he
  exact hplay.trans (.of_alike hplay.sound (Engine.alike_heap _ _))

theorem Proper.runProgram (hn : Proper m nested) (owner scope : Nat) (compiled : Compiled) :
    (runProgram m nested owner scope compiled).Works m none :=
  .bind (.instance owner) fun _ => .bind .get fun _ => hn.converse _

theorem Proper.compile (hn : Proper m nested) (id : Nat) :
    (compile nested id).Works m (some id) :=
  .bind (.takeApart id) fun _ => .bind (.weaken (.generate (hn.includeMarkup _ _) _) _) fun _ =>
    .equip _ _ _ _

end

/-! ## Compiling and rendering -/

theorem TakesApart.instance? {id : Nat} {e e' : Engine} {i : Instance}
    {extraction : Template.Extraction} (h : TakesApart id e (.ok (i, extraction)) e')
    (he : e.Sound) :
    ∃ source i', e.instance? id = some i ∧ e.sources.find? i.name = .ok (some source) ∧
      extraction = Template.extract e.settings.trimLines source ∧ e'.instance? id = some i' ∧
      i'.TakenFrom e.settings source ∧ i'.id = i.id ∧ i'.name = i.name ∧
      i'.renderer = i.renderer := by
  cases h with
  | @taken _ source _ tree hi hsource hextraction htree =>
      cases hextraction
      have hfirst : (e.update id
          (·.withExtraction (Template.extract e.settings.trimLines source))).Sound :=
        he.update_sameTable fun i => ⟨rfl, rfl, rfl, rfl⟩
      have hi' := hfirst.instance?_update (f := fun i => { i with snapshotTree := some tree })
        (he.instance?_update hi)
      exact ⟨source, _, hi, hsource, rfl, hi', ⟨rfl, rfl, tree, rfl, htree⟩, rfl, rfl, rfl⟩

variable {depth : Nat}

theorem Proper.equips (hn : Proper m (render m depth)) {id scope spans : Nat} {i : Instance}
    {segments : List Segment} {e e' : Engine} {result : Except Failure Compiled} (he : e.Sound)
    (hi : e.instance? id = some i)
    (h : (Template.generate (m := Action) (some (Action.includeMarkup (render m depth) id scope))
      segments >>= equip id i.name spans).on e = (result, e')) :
    ∃ i', e'.instance? id = some i' ∧
      ((∃ failure, result = .error failure ∧ i.SameParts i') ∨
        ∃ compiled, result = .ok compiled ∧ i'.Runs m segments compiled ∧
          i.SameParts { i' with renderer := i.renderer } ∧ i'.renderer = some compiled) := by
  have hid := he.id_of_instance? hi
  rw [on_bind] at h
  cases hrun : (Template.generate (m := Action)
      (some (Action.includeMarkup (render m depth) id scope)) segments).on e with
  | mk program e₁ =>
      have hwork := Works.generate (hn.includeMarkup id scope) segments e he
      rw [hrun] at h hwork
      obtain ⟨i₁, hi₁, -, hsame⟩ := hwork.instance? hi
      cases program with
      | error failure =>
          cases h
          exact ⟨i₁, hi₁, .inl ⟨failure, rfl, hsame⟩⟩
      | ok program =>
          cases equips_of_on h with
          | refused failure => exact ⟨i₁, hi₁, .inl ⟨failure, rfl, hsame⟩⟩
          | @equipped compiled next _ hcompile halike =>
              have hi' := hwork.sound.instance?_update hi₁
                (f := fun i => { i with renderer := some compiled })
              refine ⟨_, halike.instance?.trans hi', .inr ⟨compiled, rfl, ?_, ?_, rfl⟩⟩
              · refine ⟨depth, scope, program, e₁.codes, next, e, ?_, hsame.name ▸ hcompile⟩
                simp only [hsame.id, hid, hrun]
              · exact ⟨hsame.id, hsame.name, hsame.spans, hsame.snapshot, hsame.tree, rfl⟩

theorem Proper.compiles (hn : Proper m (render m depth)) {id : Nat} {i : Instance} {e e' : Engine}
    {result : Except Failure Compiled} (he : e.Sound) (hi : e.instance? id = some i)
    (h : (Action.compile (render m depth) id).on e = (result, e')) :
    ∃ i', e'.instance? id = some i' ∧ i.Compiles m e i' result := by
  rw [Action.compile, on_bind] at h
  cases htake : (takeApart id).on e with
  | mk taken e₁ =>
      have hwork := Works.takeApart (m := m) id e he
      have htakes := takesApart_of_on htake
      rw [htake] at h hwork
      cases taken with
      | error failure =>
          cases h
          cases htakes with
          | missing failure halike => exact ⟨i, halike.instance?.trans hi, .unchanged _ (.refl i)⟩
          | unread failure hi' hsource hextraction =>
              cases hextraction
              cases hi.symm.trans hi'
              exact ⟨_, he.instance?_update hi, .broken failure hsource rfl rfl rfl⟩
      | ok taken =>
          obtain ⟨i₀, extraction⟩ := taken
          obtain ⟨source, i₁, hi₀, hsource, rfl, hi₁, htaken, hid, hname, hrenderer⟩ :=
            htakes.instance? he
          cases hi.symm.trans hi₀
          simp only [← hname] at h
          obtain ⟨i', hi', hend⟩ := hn.equips hwork.sound hi₁ h
          refine ⟨i', hi', ?_⟩
          rcases hend with ⟨failure, rfl, hsame⟩ | ⟨compiled, rfl, hruns, hsame, hcompiled⟩
          · have htaken' := hsame.takenFrom htaken
            exact .broken failure hsource htaken'.spans htaken'.snapshot
              (hsame.renderer.trans hrenderer)
          · have htaken' := hsame.takenFrom htaken
            exact .done hcompiled
              ⟨source, ⟨htaken'.spans, htaken'.snapshot, htaken'.tree⟩, hruns⟩

theorem on_compile_of_none {nested : Nested} {id : Nat} {e : Engine}
    (h : e.instance? id = none) :
    (Action.compile nested id).on e = (.error (.fault (.unknownInstance id)), e) := by
  rw [Action.compile, on_bind, takeApart, on_bind, on_instance, h]

theorem Proper.ready (hn : Proper m (render m depth)) (id : Nat) :
    (ready (render m depth) id).Renders m id where
  works := by
    refine .bind (.instance id) fun i => ?_
    cases i.renderer with
    | some compiled => exact .pure compiled
    | none => exact hn.compile id
  renews := by
    intro e he i' hi'
    rw [Action.ready, on_bind, on_instance] at hi'
    cases hi : e.instance? id with
    | none =>
        rw [hi] at hi'
        cases hi.symm.trans hi'
    | some i =>
        refine ⟨fun j hj => Option.some.inj hj ▸ ?_, by rintro ⟨⟩⟩
        simp only [hi] at hi'
        cases hrenderer : i.renderer with
        | some compiled =>
            rw [hrenderer] at hi'
            cases hi.symm.trans hi'
            exact .inl (.refl _)
        | none =>
            rw [hrenderer] at hi'
            obtain ⟨i'', hi'', hcompiles⟩ := hn.compiles he hi (Prod.eta _).symm
            cases hi'.symm.trans hi''
            exact hcompiles.renewed hrenderer

protected theorem Works.bindScope {own : Option Nat} (id : Nat) (args : Entries) :
    (bindScope id args).Works m own :=
  .bind (.newScope args) fun _ => .bind
    (.update (fun _ => ⟨rfl, rfl, rfl, rfl⟩) (.inr fun _ => ⟨rfl, rfl, rfl, rfl, rfl, rfl⟩))
    fun _ => .pure _

variable (m) in
theorem proper_render (depth : Nat) : Proper m (render m depth) := by
  induction depth with
  | zero => exact fun id args => .of_works (.throw _)
  | succ depth ih =>
      exact fun id args => .bind (.of_works (.bindScope id args)) fun scope =>
        .bind (ih.ready id) fun compiled => .of_works <| .bind (.instance id) fun i =>
          ih.runProgram i.owner scope compiled

end Action

end Stencil
