import Stencil.Engine.Render

/-!
# Parts that belong together

What an instance is compiled to has four parts: spans, a snapshot, the tree of the snapshot and a
renderer. They belong together if one extraction gave them all.
-/

namespace Stencil

open Template (Compiled Segment)

variable {m : Machine} {settings : Settings}

namespace Instance

/-- The program was made of the segments, with the includes of the instance rendered by an
engine. -/
def Runs (m : Machine) (i : Instance) (segments : List Segment) (compiled : Compiled) : Prop :=
  ∃ depth scope program number next, ∃ e : Engine,
    ((Template.generate (m := Action)
      (some (Action.includeMarkup (Action.render m depth) i.id scope)) segments).on e).1 =
        .ok program ∧
    Template.compile i.name number program = .ok (compiled, next)

structure TakenFrom (settings : Settings) (source : Text) (i : Instance) : Prop where
  spans : i.spans = (Template.extract settings.trimLines source).spans
  snapshot : i.snapshot = (Template.extract settings.trimLines source).snapshot
  tree : ∃ tree, i.snapshotTree = some tree ∧
    Markup.Reader.read { parser := settings.markupParser } i.snapshot = .ok tree

/-- The program was made of the very extraction that the spans and the snapshot come from. -/
def Together (m : Machine) (settings : Settings) (i : Instance) (compiled : Compiled) : Prop :=
  ∃ source, i.TakenFrom settings source ∧
    i.Runs m (Template.extract settings.trimLines source).segments compiled

/-- If the instance has a renderer, its parts belong together. -/
def Coupled (m : Machine) (settings : Settings) (i : Instance) : Prop :=
  ∀ compiled, i.renderer = some compiled → i.Together m settings compiled

/-- The instances are the same one, with the same parts. -/
structure SameParts (i i' : Instance) : Prop where
  id : i'.id = i.id
  name : i'.name = i.name
  spans : i'.spans = i.spans
  snapshot : i'.snapshot = i.snapshot
  tree : i'.snapshotTree = i.snapshotTree
  renderer : i'.renderer = i.renderer

namespace SameParts

variable {i i' i'' : Instance}

theorem refl (i : Instance) : i.SameParts i := ⟨rfl, rfl, rfl, rfl, rfl, rfl⟩

theorem trans (h : i.SameParts i') (h' : i'.SameParts i'') : i.SameParts i'' where
  id := h'.id.trans h.id
  name := h'.name.trans h.name
  spans := h'.spans.trans h.spans
  snapshot := h'.snapshot.trans h.snapshot
  tree := h'.tree.trans h.tree
  renderer := h'.renderer.trans h.renderer

theorem runs {segments : List Segment} {compiled : Compiled} (h : i.SameParts i')
    (hruns : i.Runs m segments compiled) : i'.Runs m segments compiled := by
  unfold Runs
  rw [h.id, h.name]
  exact hruns

theorem takenFrom {source : Text} (h : i.SameParts i') (htaken : i.TakenFrom settings source) :
    i'.TakenFrom settings source where
  spans := h.spans.trans htaken.spans
  snapshot := h.snapshot.trans htaken.snapshot
  tree := by
    rw [h.tree, h.snapshot]
    exact htaken.tree

theorem together {compiled : Compiled} (h : i.SameParts i')
    (htogether : i.Together m settings compiled) : i'.Together m settings compiled :=
  let ⟨source, htaken, hruns⟩ := htogether
  ⟨source, h.takenFrom htaken, h.runs hruns⟩

theorem coupled (h : i.SameParts i') (hcoupled : i.Coupled m settings) : i'.Coupled m settings :=
  fun compiled hcompiled => h.together (hcoupled compiled (h.renderer ▸ hcompiled))

end SameParts

theorem Coupled.of_renderer_none {i : Instance} (h : i.renderer = none) :
    i.Coupled m settings := by
  intro compiled hcompiled
  rw [h] at hcompiled
  cases hcompiled

/-- The parts are the same, or the instance had no renderer and has parts that belong together if
it has one now. -/
def Renewed (m : Machine) (settings : Settings) (i i' : Instance) : Prop :=
  i.SameParts i' ∨ i.renderer = none ∧ i'.Coupled m settings

theorem Renewed.coupled {i i' : Instance} (h : i.Renewed m settings i')
    (hcoupled : i.Coupled m settings) : i'.Coupled m settings :=
  h.elim (fun hsame => hsame.coupled hcoupled) And.right

theorem Renewed.trans {i i' i'' : Instance} (h : i.Renewed m settings i')
    (h' : i'.Renewed m settings i'') : i.Renewed m settings i'' := by
  rcases h with hsame | ⟨hnone, hcoupled⟩
  · rcases h' with hsame' | ⟨hnone', hcoupled'⟩
    · exact .inl (hsame.trans hsame')
    · exact .inr ⟨hsame.renderer ▸ hnone', hcoupled'⟩
  · exact .inr ⟨hnone, h'.coupled hcoupled⟩

/-- What an engine makes of an instance by compiling it. If that fails behind the extraction, the
instance has new spans and a new snapshot, but the renderer that it had. -/
inductive Compiles (m : Machine) (e : Engine) (i i' : Instance) :
    Except Template.Failure Compiled → Prop
  | unchanged (failure : Template.Failure) (hsame : i.SameParts i') :
      Compiles m e i i' (.error failure)
  | broken {source : Text} (failure : Template.Failure)
      (hsource : e.sources.find? i.name = .ok (some source))
      (hspans : i'.spans = (Template.extract e.settings.trimLines source).spans)
      (hsnapshot : i'.snapshot = (Template.extract e.settings.trimLines source).snapshot)
      (hrenderer : i'.renderer = i.renderer) : Compiles m e i i' (.error failure)
  | done {compiled : Compiled} (hrenderer : i'.renderer = some compiled)
      (htogether : i'.Together m e.settings compiled) : Compiles m e i i' (.ok compiled)

theorem Compiles.renewed {e : Engine} {i i' : Instance}
    {result : Except Template.Failure Compiled} (h : i.Compiles m e i' result)
    (hnone : i.renderer = none) : i.Renewed m e.settings i' := by
  cases h with
  | unchanged failure hsame => exact .inl hsame
  | broken failure hsource hspans hsnapshot hrenderer =>
      exact .inr ⟨hnone, .of_renderer_none (hrenderer.trans hnone)⟩
  | done hrenderer htogether =>
      refine .inr ⟨hnone, fun compiled hcompiled => ?_⟩
      cases hrenderer.symm.trans hcompiled
      exact htogether

end Instance

end Stencil
