import Stencil.Proofs.Engine.Rendering

/-!
# What rendering does to the heap

Engines themselves change a heap only by new scopes and new objects without a state. A relation of
heaps that allows this holds of all that an engine does, if it holds of how others are rendered.
-/

namespace Stencil

open Template (Compiled Failure Segment)

/-- A preorder of heaps that allows new mappings and new objects without a state. -/
class Heap.Lenient (R : Heap → Heap → Prop) : Prop where
  refl : ∀ h, R h h
  trans : ∀ {h h' h''}, R h h' → R h' h'' → R h h''
  newSerial : ∀ h, R h h.newSerial.2
  newMapping : ∀ h m, R h (h.newMapping m).2

namespace Action

variable {α β : Type} {R : Heap → Heap → Prop}

/-- The action takes the heap of an engine to a related one, also when it fails. -/
def Moves (R : Heap → Heap → Prop) (x : Action α) : Prop := ∀ e : Engine, R e.heap (x.on e).2.heap

namespace Moves

theorem bind_of {x : Action α} {f : α → Action β} (hx : x.Moves R)
    (hf : ∀ e a e', x.on e = (.ok a, e') → R e.heap e'.heap →
      R e.heap ((f a).on e').2.heap) : (x >>= f).Moves R := by
  intro e
  have hfirst := hx e
  rw [on_bind]
  cases hrun : x.on e with
  | mk result e' =>
      rw [hrun] at hfirst
      cases result with
      | ok a => exact hf e a e' hrun hfirst
      | error failure => exact hfirst

protected theorem andFinally {x : Action α} (hx : x.Moves R) (id : Nat) :
    (x.andFinally (Engine.dispose id)).Moves R := hx

variable [Heap.Lenient R]

theorem of_heap {x : Action α} (h : ∀ e : Engine, (x.on e).2.heap = e.heap) : x.Moves R :=
  fun e => by rw [h e]; exact Heap.Lenient.refl _

protected theorem bind {x : Action α} {f : α → Action β} (hx : x.Moves R)
    (hf : ∀ a, (f a).Moves R) : (x >>= f).Moves R :=
  hx.bind_of fun _ a e' _ hfirst => Heap.Lenient.trans hfirst (hf a e')

protected theorem pure (a : α) : (pure a : Action α).Moves R := of_heap fun _ => rfl

protected theorem throw (failure : Failure) : (throw failure : Action α).Moves R :=
  of_heap fun _ => rfl

protected theorem get : (get : Action Engine).Moves R := of_heap fun _ => rfl

protected theorem note (parts : List Text) : (note parts).Moves R := of_heap fun _ => rfl

protected theorem update (id : Nat) (f : Instance → Instance) : (update id f).Moves R :=
  of_heap fun _ => rfl

protected theorem newText (t : Text) : (newText t).Moves R := fun e => Heap.Lenient.newSerial e.heap

protected theorem newInt (n : Int) : (newInt n).Moves R := fun e => Heap.Lenient.newSerial e.heap

protected theorem newScope (entries : Entries) : (newScope entries).Moves R :=
  fun e => Heap.Lenient.newMapping e.heap _

protected theorem ofExcept (r : Except Fault α) : (ofExcept r).Moves R := by
  cases r with
  | ok a => exact .pure a
  | error f => exact .throw _

protected theorem «instance» (id : Nat) : («instance» id).Moves R := by
  refine .bind .get fun e => ?_
  cases e.instance? id with
  | some i => exact .pure i
  | none => exact .throw _

protected theorem mapping (a : Nat) : (mapping a).Moves R := .bind .get fun _ => .pure _

protected theorem reader : reader.Moves R := .bind .get fun _ => .pure _

protected theorem capture (id : Nat) (v : Value) : (capture id v).Moves R := by
  refine .bind (.instance id) fun i => ?_
  cases i.captured.findIdx? (·.same v) with
  | some index => exact .pure index
  | none => exact .bind (.update id _) fun _ => .pure _

protected theorem referenceText (id : Nat) (index : Int) : (referenceText id index).Moves R :=
  .bind .get fun _ => .ofExcept _

protected theorem loadSource (name : Text) : (loadSource name).Moves R := by
  refine .bind .get fun e => .bind (.ofExcept _) fun found => ?_
  cases found with
  | some text => exact .pure text
  | none =>
      refine .bind .get fun e => ?_
      cases e.sources with
      | library l => exact .bind (.note _) fun _ => .throw _
      | table entries => exact .throw _

protected theorem create (name : Text) (hook : Option Text) : (create name hook).Moves R :=
  .bind (.newScope []) fun _ => of_heap fun _ => rfl

protected theorem openInclude (name : Text) (owner : Option Nat) :
    (openInclude name owner).Moves R := by
  refine .bind (.note _) fun _ => .bind (.create name none) fun id => ?_
  cases owner with
  | none => exact .pure id
  | some owner => exact .bind (.update id _) fun _ => .pure id

protected theorem build (name : Text) (program : Template.Program) :
    (build name program).Moves R := by
  refine .bind .get fun e => ?_
  cases Template.compile name e.codes program with
  | ok compiled => exact of_heap fun _ => rfl
  | error failure => exact .throw failure

protected theorem takeApart (id : Nat) : (takeApart id).Moves R :=
  .bind (.instance id) fun i => .bind (.loadSource i.name) fun _ => .bind .get fun _ =>
    .bind (.update id _) fun _ => .bind .reader fun _ => .bind (.ofExcept _) fun _ =>
      .bind (.update id _) fun _ => .pure _

protected theorem equip (id : Nat) (name : Text) (spans : Nat) (program : Template.Program) :
    (equip id name spans program).Moves R :=
  .bind (.build name program) fun _ => .bind (.update id _) fun _ => .bind (.note _) fun _ =>
    .pure _

protected theorem bindScope (id : Nat) (args : Entries) : (bindScope id args).Moves R :=
  .bind (.newScope args) fun _ => .bind (.update id _) fun _ => .pure _

protected theorem generate {handler : Text → Action Text}
    (hmarkup : ∀ name, (handler name).Moves R) (segments : List Segment) :
    (Template.generate (m := Action) (some handler) segments).Moves R :=
  Template.generate_closed (P := Moves R) .pure .bind hmarkup segments

end Moves

/-! ## Rendering others -/

section

variable [Heap.Lenient R] {nested : Nested} (hn : ∀ id args, (nested id args).Moves R)

include hn

theorem moves_renderInclude (name : Text) (args : Entries) (owner : Option Nat) :
    (renderInclude nested name args owner).Moves R :=
  .bind (.openInclude name owner) fun id => (hn id args).andFinally id

theorem moves_includeMarkup (id scope : Nat) (name : Text) :
    (includeMarkup nested id scope name).Moves R :=
  .bind (.note _) fun _ => .bind (.mapping scope) fun _ => .bind (.instance id) fun _ =>
    moves_renderInclude hn _ _ _

theorem moves_compile (id : Nat) : (compile nested id).Moves R :=
  .bind (.takeApart id) fun _ => .bind (.generate (moves_includeMarkup hn _ _) _) fun _ =>
    .equip _ _ _ _

theorem moves_ready (id : Nat) : (ready nested id).Moves R := by
  refine .bind (.instance id) fun i => ?_
  cases i.renderer with
  | some compiled => exact .pure compiled
  | none => exact moves_compile hn id

theorem moves_answer (request : Request) : (answer nested request).Moves R := by
  cases request with
  | capture id v => exact .bind (.capture id v) fun _ => .newInt _
  | reference id index => exact .bind (.referenceText id index) fun _ => .newText _
  | scope id => exact .bind (.instance id) fun _ => .pure _
  | render name args =>
      have honce : (renderOnce nested name args).Moves R :=
        .bind (.create name none) fun id => (hn id args).andFinally id
      exact .bind honce fun _ => .newText _
  | renderInclude name args owner => exact .bind (moves_renderInclude hn _ _ _) fun _ => .newText _
  | source name => exact .bind (.loadSource name) fun _ => .newText _
  | dispose id => exact .bind (.of_heap fun _ => rfl) fun _ => .pure _
  | clear => exact .bind (.of_heap fun _ => rfl) fun _ => .pure _

end

end Action

end Stencil
