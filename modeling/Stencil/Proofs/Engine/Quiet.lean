import Stencil.Proofs.Engine.History
import Stencil.Proofs.Template.Numbering

/-!
# What rendering leaves as it is

Rendering gives the instance that is rendered a new scope. The trees of all instances and the scopes
of the others stay what they are, and no hook is called.
-/

namespace Stencil

open Template (Compiled Failure Segment)

variable {m : Machine}

namespace Engine

/-- No hook has been called, and of what instances run with only the scope of one may be another.
Instances that have been made since have no tree. -/
structure Quiet (own : Option Nat) (e e' : Engine) : Prop where
  hookCalls : e'.hookCalls = e.hookCalls
  globals : e'.globals = e.globals
  codes : e.codes ≤ e'.codes
  kept : ∀ (k : Nat) (i : Instance), e.instances[k]? = some i →
    ∃ i', e'.instances[k]? = some i' ∧ i'.hook = i.hook ∧ i'.root = i.root ∧
      (own ≠ some i.id → i'.scope = i.scope)
  new : ∀ (k : Nat) (i' : Instance), e.instances.length ≤ k → e'.instances[k]? = some i' →
    i'.root = none

namespace Quiet

variable {own : Option Nat} {e e₁ e' : Engine} {id : Nat} {i : Instance}

theorem of_instances (hinstances : e'.instances = e.instances)
    (hhookCalls : e'.hookCalls = e.hookCalls) (hglobals : e'.globals = e.globals)
    (hcodes : e.codes ≤ e'.codes) : Quiet own e e' where
  hookCalls := hhookCalls
  globals := hglobals
  codes := hcodes
  kept := fun _ i hi => ⟨i, hinstances ▸ hi, rfl, rfl, fun _ => rfl⟩
  new := by
    intro k i' hle hi'
    rw [hinstances, List.getElem?_eq_none hle] at hi'
    cases hi'

theorem refl (e : Engine) : Quiet own e e := of_instances rfl rfl rfl (Nat.le_refl _)

theorem update (f : Instance → Instance)
    (hf : ∀ i : Instance, (f i).hook = i.hook ∧ (f i).root = i.root ∧
      (own ≠ some id → (f i).scope = i.scope)) :
    Quiet own e (e.update id f) where
  hookCalls := rfl
  globals := rfl
  codes := Nat.le_refl _
  kept := by
    intro k i hi
    refine ⟨if i.id = id then f i else i, by rw [getElem?_update, hi]; rfl, ?_⟩
    split
    · rename_i hid
      obtain ⟨hhook, hroot, hscope⟩ := hf i
      exact ⟨hhook, hroot, fun hown => hscope (hid ▸ hown)⟩
    · exact ⟨rfl, rfl, fun _ => rfl⟩
  new := by
    intro k i' hle hi'
    rw [getElem?_update, List.getElem?_eq_none hle] at hi'
    cases hi'

theorem trans (h : Quiet own e e₁) (h' : Quiet own e₁ e') (hfollows : e.Follows e₁) :
    Quiet own e e' where
  hookCalls := h'.hookCalls.trans h.hookCalls
  globals := h'.globals.trans h.globals
  codes := Nat.le_trans h.codes h'.codes
  kept := by
    intro k i hi
    obtain ⟨i₁, hi₁, hhook₁, hroot₁, hscope₁⟩ := h.kept k i hi
    obtain ⟨i', hi', hhook', hroot', hscope'⟩ := h'.kept k i₁ hi₁
    obtain ⟨j, hj, hlater⟩ := hfollows.instances k i hi
    cases hi₁.symm.trans hj
    exact ⟨i', hi', hhook'.trans hhook₁, hroot'.trans hroot₁, fun hown =>
      (hscope' (hlater.id ▸ hown)).trans (hscope₁ hown)⟩
  new := by
    intro k i' hle hi'
    by_cases hlt : k < e₁.instances.length
    · have hi₁ := List.getElem?_eq_getElem hlt
      obtain ⟨i'', hi'', -, hroot, -⟩ := h'.kept k _ hi₁
      cases hi'.symm.trans hi''
      exact hroot.trans (h.new k _ hle hi₁)
    · exact h'.new k i' (Nat.le_of_not_lt hlt) hi'

theorem weaken (h : Quiet none e e') (own : Option Nat) : Quiet own e e' where
  hookCalls := h.hookCalls
  globals := h.globals
  codes := h.codes
  kept := fun k i hi =>
    let ⟨i', hi', hhook, hroot, hscope⟩ := h.kept k i hi
    ⟨i', hi', hhook, hroot, fun _ => hscope nofun⟩
  new := h.new

theorem instance? (h : Quiet own e e') (hi : e.instance? id = some i) :
    ∃ i', e'.instance? id = some i' ∧ i'.hook = i.hook ∧ i'.root = i.root ∧
      (own ≠ some i.id → i'.scope = i.scope) := by
  obtain ⟨hpos, hi⟩ := instance?_eq_some_iff.mp hi
  obtain ⟨i', hi', hkept⟩ := h.kept _ i hi
  exact ⟨i', instance?_eq_some_iff.mpr ⟨hpos, hi'⟩, hkept⟩

end Quiet

theorem Opens.quiet_dispose {e e₁ e' : Engine} {i : Instance} (h : e.Opens i e₁) (he : e.Sound)
    (hopened : Quiet none e e₁) (hquiet : Quiet (some i.id) e₁ e') :
    Quiet none e (e'.dispose i.id) where
  hookCalls := hquiet.hookCalls.trans hopened.hookCalls
  globals := hquiet.globals.trans hopened.globals
  codes := Nat.le_trans hopened.codes hquiet.codes
  new := ((hopened.weaken (some i.id)).trans hquiet h.follows).new
  kept := by
    intro k i₀ hi₀
    have hlt := (List.getElem?_eq_some_iff.mp hi₀).1
    obtain ⟨i', hi', hhook, hroot, hscope⟩ := hquiet.kept k i₀
      (by rw [h.instances, List.getElem?_append_left hlt, hi₀])
    refine ⟨i', hi', hhook, hroot, fun _ => hscope fun hid => ?_⟩
    have hnumber := he.numbered k i₀ hi₀
    have hown := h.id
    rw [Option.some.inj hid] at hown
    omega

end Engine

namespace Action

open Engine

variable {α β : Type} {own rebound : Option Nat}

variable (m) in
/-- The action is work for one instance at most, and gives at most one instance another scope. -/
structure Calm (own rebound : Option Nat) (x : Action α) : Prop where
  works : x.Works m own
  quiet : ∀ e : Engine, e.Sound → e.Quiet rebound (x.on e).2

namespace Calm

theorem of_works {x : Action α} (hx : x.Works m own)
    (h : ∀ e : Engine, e.Quiet rebound (x.on e).2) : x.Calm m own rebound :=
  ⟨hx, fun e _ => h e⟩

theorem weaken {x : Action α} (h : x.Calm m none rebound) (own : Option Nat) :
    x.Calm m own rebound :=
  ⟨h.works.weaken own, h.quiet⟩

theorem rebinding {x : Action α} (h : x.Calm m own none) (rebound : Option Nat) :
    x.Calm m own rebound :=
  ⟨h.works, fun e he => (h.quiet e he).weaken rebound⟩

protected theorem pure (a : α) : (pure a : Action α).Calm m own rebound :=
  .of_works (.pure a) .refl

protected theorem bind {x : Action α} {f : α → Action β} (hx : x.Calm m own rebound)
    (hf : ∀ a, (f a).Calm m own rebound) : (x >>= f).Calm m own rebound where
  works := hx.works.bind fun a => (hf a).works
  quiet := by
    intro e he
    have hwork := hx.works e he
    have hfirst := hx.quiet e he
    rw [on_bind]
    cases hrun : x.on e with
    | mk result e' =>
        rw [hrun] at hwork hfirst
        cases result with
        | ok a => exact hfirst.trans ((hf a).quiet e' hwork.sound) hwork.follows
        | error failure => exact hfirst

protected theorem get : (get : Action Engine).Calm m own rebound := .of_works .get .refl

protected theorem fault (f : Fault) : (fault f : Action α).Calm m own rebound :=
  .of_works (.fault f) .refl

protected theorem throw (failure : Failure) : (throw failure : Action α).Calm m own rebound :=
  .of_works (.throw failure) .refl

protected theorem ofExcept (r : Except Fault α) : (ofExcept r).Calm m own rebound := by
  cases r with
  | ok a => exact .pure a
  | error f => exact .fault f

protected theorem note (parts : List Text) : (note parts).Calm m own rebound :=
  .of_works (.note parts) fun _ => .of_instances rfl rfl rfl (Nat.le_refl _)

protected theorem newText (t : Text) : (newText t).Calm m own rebound :=
  .of_works (.newText t) fun _ => .of_instances rfl rfl rfl (Nat.le_refl _)

protected theorem newInt (n : Int) : (newInt n).Calm m own rebound :=
  .of_works (.newInt n) fun _ => .of_instances rfl rfl rfl (Nat.le_refl _)

protected theorem newScope (entries : Entries) : (newScope entries).Calm m own rebound :=
  .of_works (.newScope entries) fun _ => .of_instances rfl rfl rfl (Nat.le_refl _)

protected theorem mapping (address : Nat) : (mapping address).Calm m own rebound :=
  .bind .get fun _ => .pure _

protected theorem reader : reader.Calm m own rebound := .bind .get fun _ => .pure _

protected theorem «instance» (id : Nat) : («instance» id).Calm m own rebound := by
  refine .bind .get fun e => ?_
  cases e.instance? id with
  | some i => exact .pure i
  | none => exact .fault _

protected theorem loadSource (name : Text) : (loadSource name).Calm m own rebound := by
  refine .bind .get fun e => .bind (.ofExcept _) fun found => ?_
  cases found with
  | some text => exact .pure text
  | none =>
      refine .bind .get fun e => ?_
      cases e.sources with
      | library l => exact .bind (.note _) fun _ => .throw _
      | table entries => exact .throw _

protected theorem referenceText (id : Nat) (index : Int) :
    (referenceText id index).Calm m own rebound :=
  .bind .get fun _ => .ofExcept _

protected theorem update {id : Nat} {f : Instance → Instance}
    (hf : ∀ i : Instance, i.SameTable (f i))
    (hparts : own = some id ∨ ∀ i : Instance, i.SameParts (f i))
    (hquiet : ∀ i : Instance, (f i).hook = i.hook ∧ (f i).root = i.root ∧
      (rebound ≠ some id → (f i).scope = i.scope)) :
    (update id f).Calm m own rebound :=
  .of_works (.update hf hparts) fun _ => .update f hquiet

protected theorem capture (id : Nat) (v : Value) : (capture id v).Calm m own rebound := by
  refine .of_works (.capture id v) fun e => ?_
  rw [capture, on_bind, on_instance]
  cases e.instance? id with
  | none => exact .refl e
  | some i =>
      simp only
      cases i.captured.findIdx? (·.same v) with
      | some index => exact .refl e
      | none => exact .update _ fun i => ⟨rfl, rfl, fun _ => rfl⟩

protected theorem build (name : Text) (program : Template.Program) :
    (build name program).Calm m own rebound := by
  refine .of_works (.build name program) fun e => ?_
  rw [build, on_bind_of_ok (on_get e)]
  cases hcompile : Template.compile name e.codes program with
  | error failure => exact .refl e
  | ok compiled => exact .of_instances rfl rfl rfl (Template.le_of_compile hcompile)

protected theorem takeApart (id : Nat) : (takeApart id).Calm m (some id) none := by
  refine .bind (.instance id) fun i => .bind (.loadSource i.name) fun source => .bind .get fun e =>
    .bind (.update (fun _ => ⟨rfl, rfl, rfl, rfl⟩) (.inl rfl) fun _ => ⟨rfl, rfl, fun _ => rfl⟩)
      fun _ => .bind .reader fun r => .bind (.ofExcept _) fun tree => .bind
        (.update (fun _ => ⟨rfl, rfl, rfl, rfl⟩) (.inl rfl) fun _ => ⟨rfl, rfl, fun _ => rfl⟩)
          fun _ => .pure _

protected theorem equip (id : Nat) (name : Text) (spans : Nat) (program : Template.Program) :
    (equip id name spans program).Calm m (some id) none :=
  .bind (.build name program) fun _ => .bind
    (.update (fun _ => ⟨rfl, rfl, rfl, rfl⟩) (.inl rfl) fun _ => ⟨rfl, rfl, fun _ => rfl⟩)
      fun _ => .bind (.note _) fun _ => .pure _

protected theorem generate {handler : Text → Action Text}
    (hmarkup : ∀ name, (handler name).Calm m own rebound) (segments : List Segment) :
    (Template.generate (m := Action) (some handler) segments).Calm m own rebound :=
  Template.generate_closed (P := Calm m own rebound) .pure .bind hmarkup segments

end Calm

/-! ## Rendering others -/

theorem quiet_create (name : Text) (hook : Option Text) (e : Engine) :
    e.Quiet none ((create name hook).on e).2 where
  hookCalls := rfl
  globals := rfl
  codes := Nat.le_refl _
  kept := fun _ i hi =>
    ⟨i, (List.getElem?_append_left (List.getElem?_eq_some_iff.mp hi).1).trans hi, rfl, rfl,
      fun _ => rfl⟩
  new := by
    intro k i' hle hi'
    have hmem := List.mem_of_getElem? ((List.getElem?_append_right hle).symm.trans hi')
    rw [List.mem_singleton.mp hmem]

theorem quiet_openInclude (name : Text) (owner : Option Nat) (e : Engine) :
    e.Quiet none ((openInclude name owner).on e).2 := by
  rw [openInclude, on_bind_of_ok (on_note _ e)]
  generalize hnote : { e with log := e.log ++ [Text.say ["Including '", name, "'"]] } = noted
  have hnoted : e.Quiet none noted := hnote ▸ .of_instances rfl rfl rfl (Nat.le_refl _)
  have hfollows : e.Follows noted := hnote ▸ Alike.follows ⟨rfl, rfl, rfl, rfl⟩
  obtain ⟨i, e₁, hcreate, hopens, -⟩ := on_create name none noted
  have hcreated := quiet_create name none noted
  rw [hcreate] at hcreated
  have hopened := hnoted.trans hcreated hfollows
  rw [on_bind_of_ok hcreate]
  cases owner with
  | none => exact hopened
  | some owner =>
      exact hopened.trans (.update _ fun i => ⟨rfl, rfl, fun _ => rfl⟩)
        (hfollows.trans hopens.follows)

variable (m) in
/-- Instances are rendered one level deeper in work that gives another scope to none but them. -/
def Secluded (nested : Nested) : Prop := ∀ id args, (nested id args).Calm m (some id) (some id)

section

variable {nested : Nested}

theorem Secluded.renderOnce (hs : Secluded m nested) (hn : Proper m nested) (name : Text)
    (args : Entries) : (renderOnce nested name args).Calm m none none where
  works := hn.renderOnce name args
  quiet := by
    intro e he
    obtain ⟨i, e₁, hcreate, hopens, -⟩ := on_create name none e
    have hcreated := quiet_create name none e
    rw [hcreate] at hcreated
    rw [Action.renderOnce, on_bind_of_ok hcreate]
    exact hopens.quiet_dispose he hcreated ((hs i.id args).quiet e₁ (hopens.sound he))

theorem Secluded.renderInclude (hs : Secluded m nested) (hn : Proper m nested) (name : Text)
    (args : Entries) (owner : Option Nat) :
    (renderInclude nested name args owner).Calm m none none where
  works := hn.renderInclude name args owner
  quiet := by
    intro e he
    obtain ⟨i, e₁, hopen, hopens, -⟩ := on_openInclude name owner he
    have hopened := quiet_openInclude name owner e
    rw [hopen] at hopened
    rw [Action.renderInclude, on_bind_of_ok hopen]
    exact hopens.quiet_dispose he hopened ((hs i.id args).quiet e₁ (hopens.sound he))

theorem Secluded.answer (hs : Secluded m nested) (hn : Proper m nested) (request : Request) :
    (answer nested request).Calm m none none := by
  cases request with
  | capture id v => exact .bind (.capture id v) fun _ => .newInt _
  | reference id index => exact .bind (.referenceText id index) fun _ => .newText _
  | scope id => exact .bind (.instance id) fun _ => .pure _
  | render name args => exact .bind (hs.renderOnce hn name args) fun _ => .newText _
  | renderInclude name args owner =>
      exact .bind (hs.renderInclude hn name args owner) fun _ => .newText _
  | source name => exact .bind (.loadSource name) fun _ => .newText _
  | dispose id =>
      exact .bind (.of_works (.dispose id) fun _ => .of_instances rfl rfl rfl (Nat.le_refl _))
        fun _ => .pure _
  | clear =>
      exact .bind (.of_works .clear fun _ => .of_instances rfl rfl rfl (Nat.le_refl _))
        fun _ => .pure _

theorem Secluded.includeMarkup (hs : Secluded m nested) (hn : Proper m nested) (id scope : Nat)
    (name : Text) : (includeMarkup nested id scope name).Calm m none none :=
  .bind (.note _) fun _ => .bind (.mapping scope) fun _ => .bind (.instance id) fun _ =>
    hs.renderInclude hn _ _ _

end

end Action

theorem Dialog.quiet_play {answer : Request → Action Value} {α : Type}
    (hanswer : ∀ request, (answer request).Calm m none none) (d : Dialog α) {e : Engine}
    (he : e.Sound) : e.Quiet none (d.play answer e).2.engine := by
  induction d generalizing e with
  | done result memory => exact .refl e
  | ask request memory resume ih =>
      have halike := e.alike_heap memory.heap
      have hwork := (hanswer request).works _ (he.of_alike halike)
      have hheap : e.Quiet none { e with heap := memory.heap } :=
        .of_instances rfl rfl rfl (Nat.le_refl _)
      have hfirst := hheap.trans ((hanswer request).quiet _ (he.of_alike halike)) halike.follows
      exact hfirst.trans (ih _ _ hwork.sound) (halike.follows.trans hwork.follows)

namespace Action

variable {own rebound : Option Nat} {nested : Nested}

theorem Secluded.converse (hs : Secluded m nested) (hn : Proper m nested) {α : Type}
    (d : Dialog α) : (converse (Action.answer nested) d).Calm m none none where
  works := hn.converse d
  quiet := by
    intro e he
    rw [on_converse]
    exact (d.quiet_play (hs.answer hn) he).trans (.of_instances rfl rfl rfl (Nat.le_refl _))
      (d.work_play (m := m) hn.answer he).follows

theorem Secluded.runProgram (hs : Secluded m nested) (hn : Proper m nested) (owner scope : Nat)
    (compiled : Compiled) : (runProgram m nested owner scope compiled).Calm m none none :=
  .bind (.instance owner) fun _ => .bind .get fun _ => hs.converse hn _

theorem Secluded.compile (hs : Secluded m nested) (hn : Proper m nested) (id : Nat) :
    (compile nested id).Calm m (some id) none :=
  .bind (.takeApart id) fun _ => .bind (.weaken (.generate (hs.includeMarkup hn _ _) _) _) fun _ =>
    .equip _ _ _ _

theorem Secluded.ready (hs : Secluded m nested) (hn : Proper m nested) (id : Nat) :
    (ready nested id).Calm m (some id) none := by
  refine .bind (.instance id) fun i => ?_
  cases i.renderer with
  | some compiled => exact .pure compiled
  | none => exact hs.compile hn id

theorem Calm.bindScope (id : Nat) (args : Entries) : (bindScope id args).Calm m own (some id) :=
  .bind (.newScope args) fun _ => .bind
    (.update (fun _ => ⟨rfl, rfl, rfl, rfl⟩) (.inr fun _ => ⟨rfl, rfl, rfl, rfl, rfl, rfl⟩)
      fun _ => ⟨rfl, rfl, fun hid => absurd rfl hid⟩)
    fun _ => .pure _

variable (m) in
theorem secluded_render (depth : Nat) : Secluded m (render m depth) := by
  induction depth with
  | zero => exact fun id args => .throw _
  | succ depth ih =>
      have hn := proper_render m depth
      exact fun id args => .bind (.bindScope id args) fun scope =>
        .bind ((ih.ready hn id).rebinding _) fun compiled => .bind (.instance id) fun i =>
          ((ih.runProgram hn i.owner scope compiled).weaken _).rebinding _

/-! ## Parts of reloading -/

namespace Calm

protected theorem findElement (tree : Markup.Element) (selector : Text) :
    (findElement tree selector).Calm m own rebound :=
  .bind (.ofExcept _) fun _ => .pure _

protected theorem missed {α : Type} (i : Instance) (why : List Text) :
    (missed i why : Action (Option α)).Calm m own rebound :=
  .bind (.note _) fun _ => .pure _

protected theorem findBoth (i : Instance) (selector : Text) :
    (findBoth i selector).Calm m own rebound := by
  rw [findBoth]
  split
  · refine .bind (.findElement _ _) fun found => ?_
    cases found with
    | none => exact .missed _ _
    | some found =>
        refine .bind (.findElement _ _) fun found => ?_
        cases found with
        | none => exact .missed _ _
        | some found => exact .pure _
  · exact .missed _ _

protected theorem overlaidScope (id : Nat) (args : Entries) :
    (overlaidScope id args).Calm m own rebound :=
  .bind (.instance id) fun _ => .bind (.mapping _) fun _ => .newScope _

end Calm

theorem Secluded.renderFragment (hs : Secluded m nested) (hn : Proper m nested) (i : Instance)
    (scope : Nat) (element : Markup.Element) :
    (renderFragment m nested i scope element).Calm m none none :=
  .bind (.ofExcept _) fun _ => .bind (.generate (hs.includeMarkup hn _ _) _) fun _ =>
    .bind (.build _ _) fun _ => hs.runProgram hn _ _ _

end Action

end Stencil
