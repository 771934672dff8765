import Stencil.Proofs.Engine.Mirroring
import Stencil.Proofs.Engine.Quiet

/-!
# Rendering has no memory

What a template without includes is compiled to depends on nothing but its text, apart from the
numbers of its expressions, and a program tells nothing of them. So whatever has been done with an
engine, an instance of such a template gives what a new one gives on a new engine.
-/

namespace Stencil

open Template (Compiled Failure Segment)

/-! ## Templates that stand alone -/

/-- Whether a template includes nothing, serializes nothing and does not mention the host. -/
def standsAlone (settings : Settings) (source : Text) : Bool :=
  (Template.extract settings.trimLines source).segments.all fun segment =>
    segment.isPlain && !segment.isInclude

def takenApart (settings : Settings) (found : Except Fault (Option Text)) (name : Text) :
    Except Failure Template.Extraction :=
  match found with
  | .error f => .error (.fault f)
  | .ok none => .error (.sourceNotFound name)
  | .ok (some source) =>
    let extraction := Template.extract settings.trimLines source
    match Markup.Reader.read { parser := settings.markupParser } extraction.snapshot with
    | .error f => .error (.fault f)
    | .ok _ => .ok extraction

def compiledAlone (settings : Settings) (found : Except Fault (Option Text)) (name : Text)
    (number : Nat) : Except Failure Compiled := do
  let extraction ← takenApart settings found name
  let result ← Template.compile name number
    (Template.generate (m := Id) none extraction.segments)
  return result.1

section

variable {settings : Settings} {found : Except Fault (Option Text)} {name : Text} {source : Text}

theorem isPlain_of_standsAlone (h : standsAlone settings source = true) :
    (Template.extract settings.trimLines source).segments.all Segment.isPlain = true :=
  List.all_eq_true.mpr fun segment hmem =>
    (Bool.and_eq_true_iff.mp (List.all_eq_true.mp h segment hmem)).1

theorem isInclude_of_standsAlone (h : standsAlone settings source = true) :
    ∀ segment ∈ (Template.extract settings.trimLines source).segments,
      segment.isInclude = false := fun segment hmem =>
  Bool.not_eq_true' _ ▸ (Bool.and_eq_true_iff.mp (List.all_eq_true.mp h segment hmem)).2

theorem compiledAlone_add (k number : Nat) :
    compiledAlone settings found name (k + number) =
      (compiledAlone settings found name number).map (·.shift k) := by
  unfold compiledAlone
  cases takenApart settings found name with
  | error failure => rfl
  | ok extraction =>
    simp only [Template.compile_add, bind, Except.bind]
    cases Template.compile name number (Template.generate (m := Id) none extraction.segments) <;>
      rfl

theorem source_of_takenApart {extraction : Template.Extraction}
    (h : takenApart settings found name = .ok extraction) :
    ∃ source, found = .ok (some source) ∧
      extraction = Template.extract settings.trimLines source := by
  unfold takenApart at h
  split at h
  · cases h
  · cases h
  · rename_i source
    simp only at h
    split at h <;> cases h
    exact ⟨source, rfl, rfl⟩

theorem compiledAlone_matches {μ : Matching} {compiled : Compiled} {k l : Nat}
    (halone : ∀ source, found = .ok (some source) → standsAlone settings source = true)
    (h : compiledAlone settings found name 0 = .ok compiled)
    (hnumbers : ∀ c ∈ compiled.numbers, μ.code (k + c) (l + c)) :
    (compiled.shift k).Matches μ (compiled.shift l) := by
  obtain ⟨extraction, htaken, h⟩ := bind_eq_ok_iff.mp h
  obtain ⟨⟨_, next⟩, hcompile, hresult⟩ := bind_eq_ok_iff.mp h
  cases hresult
  obtain ⟨source, hsource, rfl⟩ := source_of_takenApart htaken
  have hgenerate : Template.generate (m := Except Fault) (some pure)
      (Template.extract settings.trimLines source).segments =
        pure (Template.generate (m := Id) none
          (Template.extract settings.trimLines source).segments) :=
    Template.generate_of_all_isInclude_eq_false
      (isInclude_of_standsAlone (halone source hsource))
  have hplain : (Template.generate (m := Id) none
      (Template.extract settings.trimLines source).segments).all
        Template.Instruction.isPlain = true :=
    Template.all_isPlain_of_generate (isPlain_of_standsAlone (halone source hsource)) hgenerate
  exact Template.shift_matches hplain hcompile hnumbers

end

namespace Action

open Engine

variable {m : Machine} {nested : Nested} {e : Engine} {id : Nat} {i : Instance}

theorem on_loadSource_eq (name : Text) (e : Engine) :
    ∃ log, (loadSource name).on e =
      (match e.sources.find? name with
        | .error f => .error (.fault f)
        | .ok none => .error (.sourceNotFound name)
        | .ok (some source) => .ok source, { e with log }) := by
  rw [loadSource, on_bind_of_ok (on_get e)]
  cases e.sources.find? name with
  | error f => exact ⟨e.log, rfl⟩
  | ok found =>
    cases found with
    | some source => exact ⟨e.log, rfl⟩
    | none =>
      rw [on_bind_of_ok (on_ofExcept_ok _ e), on_bind_of_ok (on_get e)]
      obtain ⟨settings, sources, _⟩ := e
      cases sources <;> exact ⟨_, rfl⟩

theorem on_takeApart_eq (he : e.Sound) (hi : e.instance? id = some i) :
    ∃ e' i', (takeApart id).on e =
        ((takenApart e.settings (e.sources.find? i.name) i.name).map (i, ·), e') ∧
      e'.Sound ∧ e'.heap = e.heap ∧ e'.globals = e.globals ∧ e'.codes = e.codes ∧
      e'.instance? id = some i' ∧ i'.owner = i.owner ∧ i'.name = i.name ∧
      i'.renderer = i.renderer := by
  obtain ⟨log, hload⟩ := on_loadSource_eq i.name e
  have hloaded : Engine.Sound { e with log } := he.of_alike ⟨rfl, rfl, rfl, rfl⟩
  have hi₁ : Engine.instance? { e with log } id = some i := hi
  rw [takeApart, on_bind_of_ok (on_instance_of_some hi), on_bind, hload]
  unfold takenApart
  cases e.sources.find? i.name with
  | error f => exact ⟨_, i, rfl, hloaded, rfl, rfl, rfl, hi₁, rfl, rfl, rfl⟩
  | ok found =>
    cases found with
    | none => exact ⟨_, i, rfl, hloaded, rfl, rfl, rfl, hi₁, rfl, rfl, rfl⟩
    | some source =>
      simp only [on_bind, on_get, on_update, on_reader, update_settings]
      generalize Template.extract e.settings.trimLines source = extraction
      have hspans := hloaded.instance?_update (f := (·.withExtraction extraction)) hi₁
      have hsound : (Engine.update id (·.withExtraction extraction) { e with log }).Sound :=
        hloaded.update_sameTable fun _ => ⟨rfl, rfl, rfl, rfl⟩
      cases Markup.Reader.read { parser := e.settings.markupParser } extraction.snapshot with
      | error f => exact ⟨_, _, rfl, hsound, rfl, rfl, rfl, hspans, rfl, rfl, rfl⟩
      | ok tree =>
        exact ⟨_, _, rfl, hsound.update_sameTable fun _ => ⟨rfl, rfl, rfl, rfl⟩, rfl, rfl, rfl,
          hsound.instance?_update (f := fun i => { i with snapshotTree := some tree }) hspans,
          rfl, rfl, rfl⟩

theorem on_equip_eq (he : e.Sound) (hi : e.instance? id = some i) (name : Text) (spans : Nat)
    (program : Template.Program) :
    ∃ e' i' result, (equip id name spans program).on e = (result, e') ∧
      result = (do return (← Template.compile name e.codes program).1) ∧
      e'.heap = e.heap ∧ e'.globals = e.globals ∧ e'.instance? id = some i' ∧
      i'.owner = i.owner ∧ i'.name = i.name ∧
      (i'.renderer = i.renderer ∨ ∃ compiled, i'.renderer = some compiled ∧
        result = .ok compiled) := by
  rw [equip, build, bind_assoc, on_bind_of_ok (on_get e)]
  cases Template.compile name e.codes program with
  | error failure => exact ⟨e, i, _, rfl, rfl, rfl, rfl, hi, rfl, rfl, .inl rfl⟩
  | ok result =>
    obtain ⟨compiled, codes⟩ := result
    have hcoded : Engine.Sound { e with codes } := he.of_alike ⟨rfl, rfl, rfl, rfl⟩
    have hi₁ : Engine.instance? { e with codes } id = some i := hi
    exact ⟨_, _, _, rfl, rfl, rfl, rfl, hcoded.instance?_update
      (f := fun i => { i with renderer := some compiled }) hi₁, rfl, rfl, .inr ⟨compiled, rfl, rfl⟩⟩

theorem on_compile_alone (nested : Nested) (he : e.Sound) (hi : e.instance? id = some i)
    (halone : ∀ source, e.sources.find? i.name = .ok (some source) →
      standsAlone e.settings source = true) :
    ∃ e' i' result, (compile nested id).on e = (result, e') ∧
      result = compiledAlone e.settings (e.sources.find? i.name) i.name e.codes ∧
      e'.heap = e.heap ∧ e'.globals = e.globals ∧ e'.instance? id = some i' ∧
      i'.owner = i.owner ∧ i'.name = i.name ∧
      (i'.renderer = i.renderer ∨ ∃ compiled, i'.renderer = some compiled ∧
        result = .ok compiled) := by
  obtain ⟨e₁, i₁, htake, he₁, hheap₁, hglobals₁, hcodes₁, hi₁, howner₁, hname₁, hrenderer₁⟩ :=
    on_takeApart_eq he hi
  rw [compile, on_bind, htake, compiledAlone]
  cases htaken : takenApart e.settings (e.sources.find? i.name) i.name with
  | error failure =>
    exact ⟨e₁, i₁, _, rfl, rfl, hheap₁, hglobals₁, hi₁, howner₁, hname₁, .inl hrenderer₁⟩
  | ok extraction =>
    obtain ⟨source, hsource, rfl⟩ := source_of_takenApart htaken
    obtain ⟨e', i', result, hequip, hresult, hheap, hglobals, hi', howner, hname, hrenderer⟩ :=
      on_equip_eq he₁ hi₁ i.name (Template.extract e.settings.trimLines source).spans.length
        (Template.generate (m := Id) none (Template.extract e.settings.trimLines source).segments)
    refine ⟨e', i', result, ?_, hresult.trans (hcodes₁ ▸ rfl), hheap.trans hheap₁,
      hglobals.trans hglobals₁, hi', howner.trans howner₁, hname.trans hname₁,
      hrenderer₁ ▸ hrenderer⟩
    rw [← hequip]
    simp only [Except.map]
    rw [Template.generate_of_all_isInclude_eq_false
      (isInclude_of_standsAlone (halone source hsource)), pure_bind]

end Action

/-! ## What an engine keeps -/

/-- An engine that has gone on from a start where it was set up in the same way and had the same
template under a name. One instance of it may be of interest; if it has been compiled, it was from
that template. -/
structure Engine.Tracks (start : Engine) (name : Text) (own : Option Nat) (e : Engine) : Prop where
  sound : e.Sound
  settings : e.settings = start.settings
  globals : e.globals = start.globals
  source : e.sources.find? name = start.sources.find? name
  «instance» : ∀ id, own = some id → ∃ i, e.instance? id = some i ∧ i.name = name ∧ i.owner = id ∧
    ∀ compiled, i.renderer = some compiled →
      ∃ number, compiledAlone start.settings (start.sources.find? name) name number = .ok compiled

section

variable {m : Machine} {start e e' : Engine} {name : Text} {own worked rebound : Option Nat}
  {α β : Type}

theorem Engine.Tracks.of_work (h : start.Tracks name own e) (hwork : e.Work m worked e')
    (hglobals : e'.globals = e.globals) (hown : ∀ id, own = some id → worked ≠ some id) :
    start.Tracks name own e' where
  sound := hwork.sound
  settings := hwork.settings.trans h.settings
  globals := hglobals.trans h.globals
  source := hwork.sources ▸ h.source
  «instance» id hid := by
    obtain ⟨i, hi, hname, howner, hmade⟩ := h.instance id hid
    have hself := h.sound.id_of_instance? hi
    obtain ⟨hpos, hget⟩ := Engine.instance?_eq_some_iff.mp hi
    obtain ⟨i', hi', hlater, hsame⟩ := hwork.kept _ i hget
    refine ⟨i', Engine.instance?_eq_some_iff.mpr ⟨hpos, hi'⟩, hlater.name.trans hname,
      hlater.owner.trans howner, ?_⟩
    rw [(hsame (hself ▸ hown id hid)).renderer]
    exact hmade

theorem Engine.Tracks.opens {i : Instance} (h : start.Tracks name own e) (hopens : e.Opens i e') :
    start.Tracks name own e' where
  sound := hopens.sound h.sound
  settings := hopens.settings.trans h.settings
  globals := hopens.globals.trans h.globals
  source := hopens.sources ▸ h.source
  «instance» id hid :=
    let ⟨j, hj, hother⟩ := h.instance id hid
    ⟨j, hopens.instance?_of_some hj, hother⟩

theorem Engine.Tracks.begin {i : Instance} (h : start.Tracks name none e) (hopens : e.Opens i e')
    (hname : i.name = name) (howner : i.owner = i.id) : start.Tracks name (some i.id) e' :=
  { h.opens hopens with
    «instance» := by
      rintro _ ⟨⟩
      refine ⟨i, hopens.instance?, hname, howner, fun compiled hcompiled => ?_⟩
      rw [hopens.renderer] at hcompiled
      cases hcompiled }

namespace Action

open Engine

variable (start name own) in
def Tracking (x : Action α) : Prop :=
  ∀ e : Engine, start.Tracks name own e → start.Tracks name own (x.on e).2

namespace Tracking

protected theorem bind {x : Action α} {f : α → Action β} (hx : x.Tracking start name own)
    (hf : ∀ a, (f a).Tracking start name own) : (x >>= f).Tracking start name own := by
  intro e he
  have hfirst := hx e he
  rw [on_bind]
  cases hrun : x.on e with
  | mk result e' =>
    rw [hrun] at hfirst
    cases result with
    | ok a => exact hf a e' hfirst
    | error failure => exact hfirst

theorem of_calm {x : Action α} (hx : x.Calm m worked rebound)
    (hown : ∀ id, own = some id → worked ≠ some id) : x.Tracking start name own :=
  fun e he => he.of_work (hx.works e he.sound) (hx.quiet e he.sound).globals hown

variable (m) in
theorem of_calm_none {x : Action α} (hx : x.Calm m none none) : x.Tracking start name own :=
  of_calm hx fun _ _ => nofun

theorem of_works {x : Action α} (hx : x.Works m none)
    (hglobals : ∀ e : Engine, (x.on e).2.globals = e.globals) : x.Tracking start name own :=
  fun e he => he.of_work (hx e he.sound) (hglobals e) nofun

section

variable {nested : Nested} (hn : Proper m nested) (hs : Secluded m nested)
  (halone : ∀ source, start.sources.find? name = .ok (some source) →
    standsAlone start.settings source = true)
include hn hs halone

protected theorem compile (id : Nat) : (compile nested id).Tracking start name own := by
  intro e he
  have hcalm := hs.compile hn id
  by_cases hid : own = some id
  · subst hid
    have hwork := hcalm.works e he.sound
    have hquiet := hcalm.quiet e he.sound
    obtain ⟨i, hi, rfl, howner, hmade⟩ := he.instance id rfl
    rw [← he.source, ← he.settings] at halone
    obtain ⟨e', i', result, hrun, hresult, -, -, hi', howner', hname', hrenderer⟩ :=
      on_compile_alone nested he.sound hi halone
    rw [hrun] at hwork hquiet ⊢
    refine ⟨hwork.sound, hwork.settings.trans he.settings, hquiet.globals.trans he.globals,
      hwork.sources ▸ he.source, fun k hk => ?_⟩
    cases hk
    refine ⟨i', hi', hname', howner'.trans howner, fun compiled hcompiled => ?_⟩
    rcases hrenderer with hkept | ⟨compiled', hnew, hok⟩
    · exact hmade compiled (hkept ▸ hcompiled)
    · cases hnew.symm.trans hcompiled
      rw [← he.source, ← he.settings]
      exact ⟨_, hresult.symm.trans hok⟩
  · exact of_calm hcalm (fun k hk hid' => hid (hk.trans hid'.symm)) e he

protected theorem ready (id : Nat) : (ready nested id).Tracking start name own := by
  refine .bind (of_calm_none m (.instance id)) fun i => ?_
  cases i.renderer with
  | some compiled => exact of_calm_none m (.pure compiled)
  | none => exact .compile hn hs halone id

end

variable (hsteady : ∀ source, start.sources.find? name = .ok (some source) →
  standsAlone start.settings source = true)
include hsteady

protected theorem render (depth id : Nat) (args : Entries) :
    (render m depth id args).Tracking start name own := by
  cases depth with
  | zero => exact of_calm_none m (.throw .exhausted)
  | succ depth =>
    have hn := proper_render m depth
    have hs := secluded_render m depth
    have hbind : (bindScope id args).Calm m none (some id) := .bindScope id args
    exact .bind (of_calm hbind fun _ _ => nofun) fun scope =>
      .bind (.ready hn hs hsteady id) fun compiled =>
        of_calm_none m (.bind (.instance id) fun i => hs.runProgram hn i.owner scope compiled)

omit hsteady in
protected theorem setRoot (m : Machine) (id : Nat) (root : Markup.Element) :
    (update id fun i => { i with root := some root }).Tracking start name own :=
  of_works (.setRoot (m := m) id root) fun _ => rfl

omit hsteady in
protected theorem callHook (m : Machine) (hook : Option Text) (rootOf : Option Nat)
    (node : Markup.Element) : (callHook hook rootOf node).Tracking start name own := by
  refine of_works (.callHook (m := m) hook rootOf node) fun e => ?_
  cases hook <;> rfl

protected theorem run (depth id : Nat) (args : Entries) :
    (run m depth id args).Tracking start name own :=
  .bind (.render hsteady depth id args) fun _ => .bind (of_calm_none m .reader) fun _ =>
    .bind (of_calm_none m (.ofExcept _)) fun tree => .bind (.setRoot m id tree) fun _ =>
      .bind (of_calm_none m (.instance id)) fun _ => .bind (.callHook m _ _ _) fun _ =>
        of_calm_none m (.pure _)

omit hsteady in
protected theorem replace (m : Machine) (i : Instance) (selector : Text) (found : Found)
    (markup : Text) : (replace i selector found markup).Tracking start name own := by
  refine .bind (of_calm_none m .reader) fun _ =>
    .bind (of_calm_none m (.ofExcept _)) fun replaced =>
      .bind (.setRoot m _ _) fun _ => .bind (of_calm_none m (.note _)) fun _ => ?_
  cases replaced.2 with
  | none => exact of_calm_none m (.pure ())
  | some new => exact .callHook m _ _ _

omit hsteady in
protected theorem reload (depth id : Nat) (selector : Text) (args : Entries) :
    (reload m depth id selector args).Tracking start name own := by
  refine .bind (of_calm_none m (.instance id)) fun i =>
    .bind (of_calm_none m (.findBoth i selector)) fun found => ?_
  cases found with
  | none => exact of_calm_none m (.pure false)
  | some found =>
    exact .bind (of_calm_none m (.overlaidScope id args)) fun scope =>
      .bind (of_calm_none m ((secluded_render m depth).renderFragment (proper_render m depth) i
        scope found.element)) fun markup => .bind (.replace m i selector found markup) fun _ =>
          of_calm_none m (.pure true)

end Tracking

end Action

/-! ## Histories -/

/-- The operation leaves alone what the sources have under a name. -/
def Operation.Steady (start : Engine) (name : Text) : Operation → Prop
  | outside _ sources => sources.find? name = start.sources.find? name
  | _ => True

theorem Operation.tracking_perform (hsteady : ∀ source,
    start.sources.find? name = .ok (some source) →
      standsAlone start.settings source = true) {o : Operation} (ho : o.Steady start name)
    (depth : Nat) : (o.perform m depth).Tracking start name own := by
  have hn := Action.proper_render m depth
  have hs := Action.secluded_render m depth
  have hreturn {α : Type} {x : Action α} (hx : x.Tracking start name own) :
      (do let _ ← x; return none : Action (Option Nat)).Tracking start name own :=
    .bind hx fun _ => .of_calm_none m (.pure none)
  cases o with
  | create n hook =>
    intro e he
    obtain ⟨i, e', hcreate, hopens, -⟩ := Action.on_create n hook e
    rw [perform, map_eq_pure_bind, Action.on_bind_of_ok hcreate]
    exact he.opens hopens
  | compile id => exact hreturn (.compile hn hs hsteady id)
  | render id args => exact hreturn (.render hsteady depth id args)
  | run id args => exact hreturn (.run hsteady depth id args)
  | reload id selector args => exact hreturn (.reload depth id selector args)
  | renderOnce n args => exact hreturn (.of_calm_none m (hs.renderOnce hn n args))
  | dispose id =>
    exact fun e he => ⟨he.sound.dispose id, he.settings, he.globals, he.source, he.instance⟩
  | outside heap sources =>
    exact fun e he => ⟨⟨he.sound.numbered, he.sound.distinct, he.sound.registered, he.sound.sorted⟩,
      he.settings, he.globals, ho, he.instance⟩

theorem History.tracks {log : List Entry} (h : History m start log e) (hstart : start.Sound)
    (hsteady : ∀ source, start.sources.find? name = .ok (some source) →
      standsAlone start.settings source = true)
    (hlog : ∀ entry ∈ log, entry.operation.Steady start name)
    (hmade : ∀ id, own = some id → ∃ hook, ⟨.create name hook, .ok (some id)⟩ ∈ log) :
    start.Tracks name own e := by
  induction h generalizing own with
  | start =>
    refine ⟨hstart, rfl, rfl, rfl, fun id hid => ?_⟩
    obtain ⟨hook, hmem⟩ := hmade id hid
    cases hmem
  | @next log e h depth o ih =>
    have hlog' : ∀ entry ∈ log, entry.operation.Steady start name :=
      fun entry hmem => hlog entry (.tail _ hmem)
    by_cases hold : ∀ id, own = some id → ∃ hook, ⟨.create name hook, .ok (some id)⟩ ∈ log
    · exact o.tracking_perform hsteady (hlog _ (.head _)) depth e (ih hlog' hold)
    · -- The instance was made just now.
      obtain ⟨id, hid⟩ := not_forall.mp hold
      obtain ⟨rfl, hnew⟩ := Classical.not_imp.mp hid
      obtain ⟨hook, hmem⟩ := hmade id rfl
      rcases List.mem_cons.mp hmem with hhead | hmem
      · obtain ⟨rfl, hresult⟩ := Entry.mk.inj hhead
        obtain ⟨i, e', hcreate, hopens, hname, howner⟩ := Action.on_create name hook e
        rw [Operation.perform, map_eq_pure_bind, Action.on_bind_of_ok hcreate] at hresult ⊢
        cases hresult
        have hbefore : start.Tracks name none e := ih hlog' (by simp)
        exact hbefore.begin hopens hname howner
      · exact absurd ⟨hook, hmem⟩ hnew

end

/-! ## Rendering an instance whose template stands alone -/

namespace Action

open Engine

variable {m : Machine} {nested : Nested} {e : Engine} {id : Nat} {args : Entries} {i : Instance}

theorem on_ready_alone (he : e.Sound) (hi : e.instance? id = some i)
    (halone : ∀ source, e.sources.find? i.name = .ok (some source) →
      standsAlone e.settings source = true)
    (hmade : ∀ compiled, i.renderer = some compiled → ∃ number,
      compiledAlone e.settings (e.sources.find? i.name) i.name number = .ok compiled) :
    ∃ e' i' number, (ready nested id).on e =
        (compiledAlone e.settings (e.sources.find? i.name) i.name number, e') ∧
      (number = e.codes ∨ ∃ compiled, i.renderer = some compiled ∧
        compiledAlone e.settings (e.sources.find? i.name) i.name number = .ok compiled) ∧
      e'.heap = e.heap ∧ e'.globals = e.globals ∧ e'.instance? id = some i' ∧
      i'.owner = i.owner := by
  rw [ready, on_bind_of_ok (on_instance_of_some hi)]
  cases hrenderer : i.renderer with
  | some compiled =>
    obtain ⟨number, hnumber⟩ := hmade compiled hrenderer
    exact ⟨e, i, number, by rw [hnumber]; rfl, .inr ⟨compiled, rfl, hnumber⟩, rfl, rfl, hi, rfl⟩
  | none =>
    obtain ⟨e', i', result, hrun, rfl, hheap, hglobals, hi', howner, -⟩ :=
      on_compile_alone nested he hi halone
    exact ⟨e', i', e.codes, hrun, .inl rfl, hheap, hglobals, hi', howner⟩

/-- What rendering comes to if the template has been compiled from a number on: there is no program,
or it is run with the arguments in a new scope. -/
inductive RendersAlone (m : Machine) (nested : Nested) (e : Engine) (id : Nat) (args : Entries) :
    Except Failure Compiled → Except Failure Text → Prop
  | failed (failure : Failure) : RendersAlone m nested e id args (.error failure) (.error failure)
  | ran (compiled : Compiled) {e' : Engine} (hheap : e'.heap = (e.withScope args).heap)
      (hglobals : e'.globals = e.globals) (hhost : (e'.instance? id).isSome = true) :
      RendersAlone m nested e id args (.ok compiled)
        ((runProgram m nested id e.heap.mappings.size compiled).on e').1

theorem on_render_alone (m : Machine) (depth : Nat) (args : Entries) (he : e.Sound)
    (hi : e.instance? id = some i) (howner : i.owner = id)
    (halone : ∀ source, e.sources.find? i.name = .ok (some source) →
      standsAlone e.settings source = true)
    (hmade : ∀ compiled, i.renderer = some compiled → ∃ number,
      compiledAlone e.settings (e.sources.find? i.name) i.name number = .ok compiled) :
    ∃ number, (number = e.codes ∨ ∃ compiled, i.renderer = some compiled ∧
        compiledAlone e.settings (e.sources.find? i.name) i.name number = .ok compiled) ∧
      RendersAlone m (render m depth) e id args
        (compiledAlone e.settings (e.sources.find? i.name) i.name number)
        ((render m (depth + 1) id args).on e).1 := by
  obtain ⟨e', i', number, hready, hnumber, hheap, hglobals, hi', howner'⟩ :=
    on_ready_alone (he.bound : (e.bound id args).Sound) (he.instance?_bound hi) halone hmade
  refine ⟨number, hnumber, ?_⟩
  replace hready : (ready (render m depth) id).on (e.bound id args) =
      (compiledAlone e.settings (e.sources.find? i.name) i.name number, e') := hready
  rw [render, renderWith, on_bind_of_ok (on_bindScope_eq id args e), on_bind, hready]
  cases compiledAlone e.settings (e.sources.find? i.name) i.name number with
  | error failure => exact .failed failure
  | ok compiled =>
    simp only [on_bind_of_ok (on_instance_of_some hi'), howner'.trans howner]
    exact .ran compiled hheap hglobals (Option.isSome_iff_exists.mpr ⟨i', hi'⟩)

/-- Rendering comes to the same from two numbers on, if the engines have the same in a region that
the arguments and the globals lie in, and that holds none of the numbers that the expressions of the
program get. -/
theorem RendersAlone.eq {fuel steps : Nat} {nested' : Nested} {e' : Engine} {id' : Nat}
    {r : Region} {zero : Except Failure Compiled} {k l : Nat}
    {result result' : Except Failure Text} (hr : r.Covers e args)
    (h : RendersAlone ⟨.standard fuel, steps⟩ nested e id args (zero.map (·.shift k)) result)
    (h' : RendersAlone ⟨.standard fuel, steps⟩ nested' e' id' args (zero.map (·.shift l)) result')
    (hglobals : e'.globals = e.globals) (hclosed : r.Closed e'.heap)
    (hkept : r.Unchanged e.heap e'.heap)
    (hmatches : ∀ (μ : Matching) compiled, zero = .ok compiled →
      (∀ c ∈ compiled.numbers, μ.code (k + c) (l + c)) →
        (compiled.shift k).Matches μ (compiled.shift l))
    (happart : ∀ compiled, zero = .ok compiled → ∀ c ∈ compiled.numbers,
      ¬ r.code (k + c) ∧ ¬ r.code (l + c)) : result = result' := by
  cases zero with
  | error failure =>
    cases h
    cases h'
    rfl
  | ok compiled =>
    cases h with
    | ran _ hf hfglobals hfhost =>
      cases h' with
      | ran _ hf' hfglobals' hfhost' =>
        have b : r.Beside e.heap e'.heap (Shifted (· ∈ compiled.numbers) k l) := {
          agree := (Region.Unchanged.refl r e.heap).contentsMatch hkept hr.closed.contents
          lt := hr.closed.lt
          closed := hclosed
          own_biUnique := biUnique_shifted _ _ _
          own_apart := by
            rintro _ _ ⟨c, hc, rfl, rfl⟩
            exact happart compiled rfl c hc }
        have hscope : Mapping.Matches b.matching ⟨true, args⟩ ⟨true, args⟩ :=
          ⟨rfl, hr.matches_args b⟩
        have hnew := (b.heap_matches.newMapping hscope).2
        obtain ⟨result, _, _, hrun, hrun', -⟩ := Mirrors.runProgram_eq nested nested' hfhost hfhost'
          (b.heap_matches.new .mapping) (hmatches b.matching compiled rfl fun c hc =>
            .inr ⟨c, hc, rfl, rfl⟩)
          (by rw [hfglobals, hfglobals', hglobals]; exact hr.matches_globals b)
          (by rw [hf, hf']; exact hnew)
        exact (congrArg Prod.fst hrun).trans (congrArg Prod.fst hrun').symm

end Action

/-! ## Without memory -/

section

variable {fuel steps : Nat} {start e fresh : Engine} {log : List Entry} {name : Text} {id : Nat}
  {args : Entries} {r : Region}

open Stencil.Action

theorem Engine.Tracks.render_eq (h : start.Tracks name (some id) e) (depth : Nat)
    (hook : Option Text)
    (halone : ∀ source, start.sources.find? name = .ok (some source) →
      standsAlone start.settings source = true)
    (hfresh : fresh.Sound) (hsettings : fresh.settings = start.settings)
    (hglobals : fresh.globals = start.globals)
    (hsource : fresh.sources.find? name = start.sources.find? name)
    (hr : r.Covers e args) (hr' : r.Covers fresh args) (hkept : r.Unchanged fresh.heap e.heap)
    (hforeign : ∀ i compiled, e.instance? id = some i → i.renderer = some compiled →
      ∀ c ∈ compiled.numbers, ¬ r.code c) :
    ((Action.render ⟨.standard fuel, steps⟩ (depth + 1) id args).on e).1 =
      ((do
        let id ← Action.create name hook
        Action.render ⟨.standard fuel, steps⟩ (depth + 1) id args).on fresh).1 := by
  obtain ⟨i, hi, rfl, howner, hmade⟩ := h.instance id rfl
  rw [← h.source, ← h.settings] at halone hmade
  obtain ⟨k, hk, hold⟩ := on_render_alone ⟨.standard fuel, steps⟩ depth args h.sound hi
    howner halone hmade
  obtain ⟨j, f, hcreate, hopens, hjname, hjowner⟩ := on_create i.name hook fresh
  have hfound : f.sources.find? j.name = e.sources.find? i.name := by
    rw [hjname, hopens.sources, hsource, h.source]
  have hequipped : f.settings = e.settings := by
    rw [hopens.settings, hsettings, h.settings]
  have halone' := halone
  rw [← hfound, ← hequipped] at halone'
  obtain ⟨l, hl, hnew⟩ := on_render_alone ⟨.standard fuel, steps⟩ depth args
    (hopens.sound hfresh) hopens.instance? hjowner halone' fun compiled hcompiled => by
      rw [hopens.renderer] at hcompiled
      cases hcompiled
  have hl : l = fresh.codes := by
    rcases hl with hl | ⟨compiled, hcompiled, -⟩
    · rw [hl, hopens.codes]
    · rw [hopens.renderer] at hcompiled
      cases hcompiled
  subst hl
  rw [on_bind_of_ok hcreate]
  rw [hfound, hequipped, hjname, ← Nat.add_zero fresh.codes, compiledAlone_add] at hnew
  rw [← Nat.add_zero k, compiledAlone_add] at hold
  have hnewScope : r.Unchanged fresh.heap f.heap :=
    hopens.heap ▸ Region.unchanged_newMapping (hr'.closed.lt .mapping) _
  have hclosed : r.Closed f.heap := hopens.heap ▸ hr'.closed.newMapping _
  refine hold.eq hr hnew ((hopens.globals.trans hglobals).trans h.globals.symm) hclosed
    (hkept.symm.trans hnewScope)
    (fun μ compiled hcompiled hnumbers => compiledAlone_matches halone hcompiled hnumbers)
    fun compiled hcompiled c hc => ⟨fun hcode => ?_, fun hcode => ?_⟩
  · rcases hk with rfl | ⟨compiled', hrenderer, hcompiled'⟩
    · exact absurd (hr.codes _ hcode) (by omega)
    · rw [← Nat.add_zero k, compiledAlone_add, hcompiled] at hcompiled'
      cases hcompiled'
      refine hforeign i _ hi hrenderer (k + c) ?_ hcode
      rw [Template.numbers_shift]
      exact List.mem_map_of_mem hc
  · exact absurd (hr'.codes _ hcode) (by omega)

end

/-! ## Counting -/

def counting : Engine :=
  { sources := .table [("page".toList, "<p>\x7bassign n = $n + 1\x7d\x7b$n\x7d</p>".toList)] }

def numbered (n : Int) : Entries := [named "n" (.int n .shared)]

theorem Region.covers_numbered {e : Engine} (hglobals : e.globals = []) (n : Int) :
    empty.Covers e (numbered n) where
  closed := closed_empty _
  codes := nofun
  globals := by
    rw [hglobals]
    nofun
  args := .cons ⟨.str _ .shared, .int _ .shared⟩ .nil

end Stencil
