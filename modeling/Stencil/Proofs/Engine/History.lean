import Stencil.Proofs.Engine.Rendering

/-!
# Histories of engines

What can be done with an engine from outside, and all that can have been done with one.
-/

namespace Stencil

open Template (Compiled Failure)

variable {m : Machine}

/-! ## Runs and reloads are work -/

namespace Action

protected theorem Works.callHook {own : Option Nat} (hook : Option Text) (rootOf : Option Nat)
    (node : Markup.Element) : (callHook hook rootOf node).Works m own := by
  cases hook with
  | some hook => exact .of_aside fun _ => ⟨rfl, rfl, rfl, rfl⟩
  | none => exact .pure ()

protected theorem Works.setRoot {own : Option Nat} (id : Nat) (root : Markup.Element) :
    (update id fun i => { i with root := some root }).Works m own :=
  .update (fun _ => ⟨rfl, rfl, rfl, rfl⟩) (.inr fun _ => ⟨rfl, rfl, rfl, rfl, rfl, rfl⟩)

theorem renders_run (depth id : Nat) (args : Entries) : (run m depth id args).Renders m id :=
  .bind (proper_render m depth id args) fun _ => .of_works <| .bind .reader fun _ =>
    .bind (.ofExcept _) fun tree => .bind (.setRoot id tree) fun _ => .bind (.instance id) fun _ =>
      .bind (.callHook _ _ _) fun _ => .pure _

protected theorem Works.findElement (tree : Markup.Element) (selector : Text) :
    (findElement tree selector).Works m none :=
  .bind (.ofExcept _) fun _ => .pure _

protected theorem Works.missed {α : Type} (i : Instance) (why : List Text) :
    (missed i why : Action (Option α)).Works m none :=
  .bind (.note _) fun _ => .pure _

protected theorem Works.findBoth (i : Instance) (selector : Text) :
    (findBoth i selector).Works m none := by
  rw [findBoth]
  split
  · refine .bind (.findElement _ _) fun found => ?_
    cases found with
    | none => exact .missed _ _
    | some found =>
        refine .bind (.findElement _ _) fun found => ?_
        cases found with
        | none => exact .missed _ _
        | some found => exact .pure _
  · exact .missed _ _

protected theorem Works.overlaidScope (id : Nat) (args : Entries) :
    (overlaidScope id args).Works m none :=
  .bind (.instance id) fun _ => .bind (.mapping _) fun _ => .newScope _

protected theorem Works.replace (i : Instance) (selector : Text) (found : Found) (markup : Text) :
    (replace i selector found markup).Works m none := by
  refine .bind .reader fun _ => .bind (.ofExcept _) fun replaced => .bind (.setRoot _ _) fun _ =>
    .bind (.note _) fun _ => ?_
  cases replaced.2 with
  | none => exact .pure ()
  | some new => exact .callHook _ _ _

theorem Proper.renderFragment {nested : Nested} (hn : Proper m nested) (i : Instance) (scope : Nat)
    (element : Markup.Element) : (renderFragment m nested i scope element).Works m none :=
  .bind (.ofExcept _) fun _ => .bind (.generate (hn.includeMarkup _ _) _) fun _ =>
    .bind (.build _ _) fun _ => hn.runProgram _ _ _

theorem works_reload (depth id : Nat) (selector : Text) (args : Entries) :
    (reload m depth id selector args).Works m none := by
  refine .bind (.instance id) fun i => .bind (.findBoth i selector) fun found => ?_
  cases found with
  | none => exact .pure false
  | some found =>
      exact .bind (.overlaidScope id args) fun _ =>
        .bind ((proper_render m depth).renderFragment _ _ _) fun _ =>
          .bind (.replace _ _ _ _) fun _ => .pure _

end Action

/-! ## Operations -/

inductive Operation where
  | create (name : Text) (hook : Option Text)
  | compile (id : Nat)
  | render (id : Nat) (args : Entries)
  | run (id : Nat) (args : Entries)
  | reload (id : Nat) (selector : Text) (args : Entries)
  | renderOnce (name : Text) (args : Entries)
  | dispose (id : Nat)
  /-- Objects and templates become others while the engine rests. -/
  | outside (heap : Heap) (sources : Sources)

namespace Operation

/-- Does the operation, which may go so many levels deep. Gives the number of an instance that is
made. -/
def perform (m : Machine) (depth : Nat) : Operation → Action (Option Nat)
  | create name hook => some <$> Action.create name hook
  | compile id => do
    let _ ← Action.compile (Action.render m depth) id
    return none
  | render id args => do
    let _ ← Action.render m depth id args
    return none
  | run id args => do
    let _ ← Action.run m depth id args
    return none
  | reload id selector args => do
    let _ ← Action.reload m depth id selector args
    return none
  | renderOnce name args => do
    let _ ← Action.renderOnce (Action.render m depth) name args
    return none
  | dispose id => do
    modify (Engine.dispose id)
    return none
  | outside heap sources => do
    modify fun e => { e with heap, sources }
    return none

/-- Operations that render something, and neither make nor dispose of instances. -/
def isRendering : Operation → Bool
  | render .. | run .. | reload .. | renderOnce .. => true
  | _ => false

end Operation

variable (m) in
/-- What an operation can give on an engine, and what it can make of the engine. -/
inductive Effect (e : Engine) : Operation → Except Failure (Option Nat) → Engine → Prop
  | created {name : Text} {hook : Option Text} {i : Instance} {e' : Engine}
      (hopens : e.Opens i e') (hname : i.name = name) (howner : i.owner = i.id) :
      Effect e (.create name hook) (.ok (some i.id)) e'
  | compiled {id : Nat} {result : Except Failure Compiled} {e' : Engine}
      (hwork : e.Work m (some id) e')
      (hcompiles : ∀ i', e'.instance? id = some i' →
        ∃ i, e.instance? id = some i ∧ i.Compiles m e i' result) :
      Effect e (.compile id) (result.map fun _ => none) e'
  | rendered {o : Operation} {own : Option Nat} {result : Except Failure (Option Nat)}
      {e' : Engine} (ho : o.isRendering = true) (hresult : ∀ id, result ≠ .ok (some id))
      (hwork : e.Work m own e')
      (hrenewed : ∀ id i', e'.instance? id = some i' →
        (∃ i, e.instance? id = some i ∧ i.Renewed m e.settings i') ∨ i'.Coupled m e.settings) :
      Effect e o result e'
  | disposed {id : Nat} : Effect e (.dispose id) (.ok none) (e.dispose id)
  | outside {heap : Heap} {sources : Sources} :
      Effect e (.outside heap sources) (.ok none) { e with heap, sources }

namespace Effect

variable {e e' : Engine} {o : Operation} {result : Except Failure (Option Nat)}

theorem sound (h : Effect m e o result e') (he : e.Sound) : e'.Sound := by
  cases h with
  | created hopens => exact hopens.sound he
  | compiled hwork => exact hwork.sound
  | rendered _ _ hwork => exact hwork.sound
  | @disposed id =>
      exact ⟨he.numbered, he.distinct, fun id' hid => he.registered id' (List.mem_of_mem_erase hid),
        he.sorted.sublist List.erase_sublist⟩
  | outside => exact ⟨he.numbered, he.distinct, he.registered, he.sorted⟩

theorem follows (h : Effect m e o result e') : e.Follows e' := by
  cases h with
  | created hopens => exact hopens.follows
  | compiled hwork => exact hwork.follows
  | rendered _ _ hwork => exact hwork.follows
  | disposed => exact e.follows_dispose _
  | outside => exact ⟨rfl, fun k i hi => ⟨i, hi, .refl i⟩, fun _ _ hid => hid⟩

theorem of_renders {α : Type} (id : Nat) {x : Action α} (hx : x.Renders m id)
    (ho : o.isRendering = true) (he : e.Sound) :
    Effect m e o ((do let _ ← x; return none : Action (Option Nat)).on e).1
      ((do let _ ← x; return none : Action (Option Nat)).on e).2 := by
  rw [Action.on_bind_none]
  refine .rendered ho (fun id => ?_) (hx.works e he) fun id i' hi' => hx.renewed he hi'
  cases (x.on e).1 <;> nofun

end Effect

theorem Operation.effect (o : Operation) (depth : Nat) {e : Engine} (he : e.Sound) :
    Effect m e o ((o.perform m depth).on e).1 ((o.perform m depth).on e).2 := by
  have hn := Action.proper_render m depth
  cases o with
  | create name hook =>
      obtain ⟨i, e', hcreate, hopens, hname, howner⟩ := Action.on_create name hook e
      have hperform : ((Operation.create name hook).perform m depth).on e =
          (.ok (some i.id), e') := by
        rw [perform, map_eq_pure_bind, Action.on_bind_of_ok hcreate]
        rfl
      rw [hperform]
      exact .created hopens hname howner
  | compile id =>
      rw [perform, Action.on_bind_none]
      refine .compiled (hn.compile id e he) fun i' hi' => ?_
      cases hi : e.instance? id with
      | none =>
          rw [Action.on_compile_of_none hi] at hi'
          cases hi.symm.trans hi'
      | some i =>
          obtain ⟨i'', hi'', hcompiles⟩ := hn.compiles he hi (Prod.eta _).symm
          cases hi'.symm.trans hi''
          exact ⟨_, rfl, hcompiles⟩
  | render id args => exact .of_renders id (hn id args) rfl he
  | run id args => exact .of_renders id (Action.renders_run depth id args) rfl he
  | reload id selector args =>
      exact .of_renders id (.of_works (Action.works_reload depth id selector args)) rfl he
  | renderOnce name args =>
      exact .of_renders 0 (.of_works (hn.renderOnce name args)) rfl he
  | dispose id => exact .disposed
  | outside heap sources => exact .outside

structure Entry where
  operation : Operation
  result : Except Failure (Option Nat)

/-- An engine before anything is done with it. -/
structure Engine.Fresh (e : Engine) : Prop where
  instances : e.instances = []
  registry : e.registry = []

/-- All that can have been done with an engine, the last operation first, and the engine then. -/
inductive History (m : Machine) (start : Engine) : List Entry → Engine → Prop
  | start : History m start [] start
  | next {log : List Entry} {e : Engine} (h : History m start log e) (depth : Nat) (o : Operation) :
      History m start (⟨o, ((o.perform m depth).on e).1⟩ :: log) ((o.perform m depth).on e).2

def fewSteps : Machine := ⟨.standard 9, 9⟩

def named (n : String) (v : Value) : Value × Value := (.str n.toList .shared, v)

namespace History

variable {start e : Engine} {log : List Entry}

theorem sound (h : History m start log e) (hstart : start.Sound) : e.Sound := by
  induction h with
  | start => exact hstart
  | next h depth o ih => exact (o.effect depth ih).sound ih

theorem follows (h : History m start log e) (hstart : start.Sound) : start.Follows e := by
  induction h with
  | start => exact .refl _
  | next h depth o ih => exact ih.trans (o.effect depth (h.sound hstart)).follows

end History

theorem Engine.Fresh.sound {e : Engine} (h : e.Fresh) : e.Sound := by
  obtain ⟨hinstances, hregistry⟩ := h
  constructor <;> simp [hinstances, hregistry]

end Stencil
