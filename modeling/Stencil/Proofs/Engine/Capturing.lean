import Stencil.Engine.Lookup
import Stencil.Proofs.Engine.Unregistering
import Stencil.Proofs.Settings.Reference
import Stencil.Value.Basic

/-!
# Captured values

A value that a template captures goes into the table of an owner, where it has one place for good.
What is written is a reference to that place, which leads to the value as long as the owner is
registered.
-/

namespace Stencil

open Template (Config)

variable {m : Machine}

/-! ## Identity of values -/

namespace Value

theorem sameFloat_self (x : Float) : sameFloat x x = true := beq_self_eq_true x.toBits

mutual

theorem same_self : ∀ v : Value, v.same v = true
  | .tuple items id => by simp [same, sameAll_self items]
  | .float x id => by simp [same, sameFloat_self]
  | .none | .bool _ | .int .. | .str .. | .range .. | .date .. | .ellipsis | .list _ | .mapping _
  | .set _ | .iterator _ | .view .. | .builtin _ | .typeObject _ | .closure _ | .method ..
  | .template .. | .engine | .registry => by simp [same]

theorem sameAll_self : ∀ items : List Value, sameAll items items = true
  | [] => by simp [sameAll]
  | v :: more => by simp [sameAll, same_self v, sameAll_self more]

end

end Value

/-! ## Places in tables -/

namespace Instance

def place (i : Instance) (v : Value) : Nat := i.captured.findIdx (·.same v)

def tableWith (i : Instance) (v : Value) : List Value :=
  if i.captured.any (·.same v) then i.captured else i.captured ++ [v]

theorem getElem?_place (i : Instance) (v : Value) :
    ∃ w, (i.tableWith v)[i.place v]? = some w ∧ w.same v = true := by
  unfold tableWith place
  split
  · rename_i hany
    have hlt : i.captured.findIdx (·.same v) < i.captured.length :=
      List.findIdx_lt_length.mpr (List.any_eq_true.mp hany)
    exact ⟨_, List.getElem?_eq_getElem hlt, List.findIdx_getElem (w := hlt)⟩
  · rename_i hany
    rw [List.findIdx_eq_length.mpr fun w hw => ?_, List.getElem?_concat_length]
    · exact ⟨v, rfl, v.same_self⟩
    · exact Bool.eq_false_iff.mpr fun hsame => hany (List.any_eq_true.mpr ⟨w, hw, hsame⟩)

end Instance

/-! ## What is answered -/

namespace Action

open Engine

variable {e : Engine} {id : Nat} {i : Instance}

theorem on_capture (he : e.Sound) (hi : e.instance? id = some i) (v : Value) :
    ∃ i' e', (capture id v).on e = (.ok (i.place v), e') ∧ e'.instance? id = some i' ∧
      i'.captured = i.tableWith v := by
  rw [capture, on_bind_of_ok (on_instance_of_some hi), Instance.tableWith, Instance.place]
  cases hfound : i.captured.findIdx? (·.same v) with
  | some index =>
      rw [List.findIdx?_eq_some_iff_findIdx_eq] at hfound
      have hany : i.captured.any (·.same v) = true :=
        List.any_eq_true.mpr (List.findIdx_lt_length.mp (hfound.2 ▸ hfound.1))
      rw [hany, hfound.2]
      exact ⟨i, e, rfl, hi, rfl⟩
  | none =>
      have hnew := List.findIdx?_eq_none_iff.mp hfound
      have hany : i.captured.any (·.same v) = false :=
        List.any_eq_false.mpr fun w hw => Bool.not_eq_true _ |>.mpr (hnew w hw)
      rw [hany, List.findIdx_eq_length.mpr hnew]
      exact ⟨_, _, rfl, he.instance?_update hi, rfl⟩

theorem on_answer_capture (nested : Nested) (he : e.Sound) (hi : e.instance? id = some i)
    (v : Value) :
    ∃ index i' e', (answer nested (.capture id v)).on e = (.ok index, e') ∧
      index.int? = some (i.place v : Int) ∧ e'.instance? id = some i' ∧
        i'.captured = i.tableWith v := by
  obtain ⟨i', e', hcapture, hi', htable⟩ := on_capture he hi v
  rw [answer, on_bind_of_ok hcapture]
  exact ⟨_, i', _, rfl, rfl, hi', htable⟩

theorem on_answer_reference (nested : Nested)
    (hformat : e.settings.captureReference = Reference.defaultFormat) (id index : Nat) :
    ∃ label e', (answer nested (.reference id index)).on e =
        (.ok (.str (Reference.defaultText id index) label), e') ∧ e.Alike e' := by
  have hwrite : (referenceText id index).on e = (.ok (Reference.defaultText id index), e) := by
    rw [referenceText, on_bind_of_ok (on_get e), hformat, Reference.write_default,
      on_ofExcept_ok]
  rw [answer, on_bind_of_ok hwrite]
  exact ⟨_, _, rfl, rfl, rfl, rfl, rfl⟩

end Action

/-! ## What is resolved -/

namespace Action

variable {e e' : Engine} {id index : Nat} {i : Instance} {v w : Value}

theorem itemAt_of_getElem? {items : List Value} (h : items[index]? = some w) :
    itemAt items index = .ok w := by
  have hnonneg : ¬ (index : Int) < 0 := by omega
  simp only [itemAt, hnonneg, if_false, Int.toNat_natCast, h]

theorem on_resolve_default (hformat : e.settings.captureReference = Reference.defaultFormat)
    (hid : id ∈ e.registry) (hi : e.instance? id = some i) (hw : i.captured[index]? = some w) :
    (resolve (Reference.defaultText id index)).on e = (.ok w, e) := by
  have hregistered : e.registered? id = some i := by rw [Engine.registered?, if_pos hid, hi]
  have hnonneg : ¬ (id : Int) < 0 := by omega
  rw [resolve, on_bind_of_ok (on_get e), hformat]
  simp only [Reference.read?_default, lookup]
  rw [on_bind_of_ok (on_get e)]
  simp only [hnonneg, if_false, Int.toNat_natCast, hregistered, itemAt_of_getElem? hw,
    on_ofExcept_ok]

end Action

/-- A text leads to the very same object. -/
def Engine.Resolves (e : Engine) (text : Text) (v : Value) : Prop :=
  ∃ w, ((Action.resolve text).on e).1 = .ok w ∧ w.same v = true

/-- A reference to the place that a value got leads to it whenever the instance is registered. -/
theorem Engine.Follows.resolves {e e' : Engine} {id : Nat} {i i' : Instance} {v : Value}
    (h : e.Follows e') (hformat : e.settings.captureReference = Reference.defaultFormat)
    (hi' : e.instance? id = some i') (htable : i'.captured = i.tableWith v)
    (hid : id ∈ e'.registry) : e'.Resolves (Reference.defaultText id (i.place v)) v := by
  obtain ⟨w, hw, hsame⟩ := i.getElem?_place v
  obtain ⟨i'', hi'', hlater⟩ := h.instance? hi'
  have hplace : i''.captured[i.place v]? = some w := by
    obtain ⟨more, hmore⟩ := hlater.captured
    rw [← hmore, htable, List.getElem?_append_left (List.getElem?_eq_some_iff.mp hw).1, hw]
  refine ⟨w, ?_, hsame⟩
  rw [Action.on_resolve_default (h.settings ▸ hformat) hid hi'' hplace]

/-! ## Steps that capture -/

namespace Template

variable {ev : Evaluator} {s : Setting} {p : Compiled} {c : Config} {expr source : Text}

theorem step_capture (h : p.program[c.pc]? = some (.capture expr source)) :
    step ev s p c = (do
      let text ← captureText ev s (← valueCode p c.pc)
      return { c with pc := c.pc + 1, out := c.out.push text }) := by
  unfold step
  simp only [h]

theorem captureText_template (id : Nat) (name : Text) (scope : Nat) (code : Code) :
    captureText ev ⟨.template id name, scope⟩ code = (do
      let index ← Eval.ask (.capture id (← ev.value code))
      let reference ← Eval.ask (.reference id (index.int?.getD 0))
      Eval.write Datum.display reference) := rfl

end Template

variable (m) in
/-- A program is about to capture a value: this is the value, and what its run has come to when the
value is there. -/
structure Job.Captures (j : Job) (c : Config) (memory : Memory) (e : Engine) (v : Value)
    (t : Moment) : Prop where
  instruction : ∃ expr source, j.program.program[c.pc]? = some (.capture expr source)
  value : (Template.valueCode j.program c.pc >>= m.evaluator.value).play (j.answer m) ⟨memory, e⟩ =
    (.ok v, t)

theorem Job.Captures.step {j : Job} {c : Config} {memory : Memory} {e : Engine} {v : Value}
    {t : Moment} {i : Instance} (h : j.Captures m c memory e v t) (ht : t.engine.Sound)
    (hformat : t.engine.settings.captureReference = Reference.defaultFormat)
    (hi : t.engine.instance? j.host = some i) :
    ∃ i' t', (j.step m c).play (j.answer m) ⟨memory, e⟩ =
        (.ok { c with
          pc := c.pc + 1, out := c.out.push (Reference.defaultText j.host (i.place v)) }, t') ∧
      t'.engine.instance? j.host = some i' ∧ i'.captured = i.tableWith v := by
  obtain ⟨⟨expr, source, hinstruction⟩, hvalue⟩ := h
  obtain ⟨code, t₀, hcode, hvalue⟩ := Eval.play_bind_ok_iff.mp hvalue
  have halike : t.engine.Alike t.full := t.engine.alike_heap _
  obtain ⟨index, i₁, e₁, hcapture, hindex, hi₁, htable⟩ :=
    Action.on_answer_capture (Action.render m j.depth) (ht.of_alike halike)
      (halike.instance?.trans hi) v
  have hsettings : e₁.settings = t.engine.settings := by
    have hwork := j.answer_works (m := m) (.capture j.host v) t.full (ht.of_alike halike)
    rw [Job.answer, hcapture] at hwork
    exact hwork.settings
  obtain ⟨label, e₂, hreference, halike₂⟩ :=
    Action.on_answer_reference (Action.render m j.depth) (hsettings ▸ hformat) j.host (i.place v)
  let t₁ : Moment := ⟨{ t.memory with heap := e₁.heap }, e₁⟩
  let t₂ : Moment := ⟨{ t.memory with heap := e₂.heap }, e₂⟩
  have hindexed : (Eval.ask (.capture j.host v)).play (j.answer m) t = (.ok index, t₁) :=
    Eval.play_ask_of_on hcapture
  let reference : Value := .str (Reference.defaultText j.host (i.place v)) label
  have hreferred : (Eval.ask (.reference j.host (index.int?.getD 0))).play (j.answer m) t₁ =
      (.ok reference, t₂) := by
    rw [hindex]
    exact Eval.play_ask_of_on hreference
  have hshown : (Eval.write Datum.display reference).play (j.answer m) t₂ =
      (.ok (Reference.defaultText j.host (i.place v)), t₂) := rfl
  have hplay : (Template.captureText m.evaluator j.setting code).play (j.answer m) t₀ =
      (.ok (Reference.defaultText j.host (i.place v)), t₂) := by
    rw [Job.setting, Template.captureText_template]
    exact Eval.play_bind_ok_iff.mpr ⟨v, t, hvalue, Eval.play_bind_ok_iff.mpr ⟨index, t₁, hindexed,
      Eval.play_bind_ok_iff.mpr ⟨reference, t₂, hreferred, hshown⟩⟩⟩
  refine ⟨i₁, t₂, ?_, halike₂.instance?.trans hi₁, htable⟩
  rw [Job.step, Template.step_capture hinstruction]
  exact Eval.play_bind_ok_iff.mpr ⟨code, t₀, hcode, Eval.play_bind_ok_iff.mpr ⟨_, _, hplay, rfl⟩⟩

/-! ## Whole histories -/

theorem History.owned {start e : Engine} {log : List Entry} {id : Nat} (h : History m start log e)
    (hstart : start.Fresh) (hid : id ∈ e.registry) : e.Owned id id := by
  induction h with
  | start => exact absurd hid (hstart.registry ▸ List.not_mem_nil)
  | @next log e h depth o ih =>
      have heffect := o.effect (m := m) depth (h.sound hstart.sound)
      have hfollows := heffect.follows
      generalize ((o.perform m depth).on e).1 = result at heffect
      generalize ((o.perform m depth).on e).2 = e' at heffect hfollows hid ⊢
      cases heffect with
      | created hopens hname howner =>
          rw [hopens.registry, List.mem_append, List.mem_singleton] at hid
          rcases hid with hid | rfl
          · exact (ih hid).of_follows hfollows
          · exact ⟨_, hopens.instance?, howner⟩
      | compiled hwork | rendered _ _ hwork =>
          exact (ih (hwork.registry.subset hid)).of_follows hfollows
      | disposed => exact (ih (List.mem_of_mem_erase hid)).of_follows hfollows
      | outside => exact (ih hid).of_follows hfollows

/-- No table of the engine has a value twice. -/
def Engine.Distinct (e : Engine) : Prop :=
  ∀ i ∈ e.instances, i.captured.Pairwise fun v w => v.same w = false

/-- The tables of the engine are still there, and values have only been added at their ends. -/
def Engine.Grows (e e' : Engine) : Prop :=
  ∀ id i, e.instance? id = some i → ∃ i', e'.instance? id = some i' ∧ i.captured <+: i'.captured

theorem Engine.Follows.grows {e e' : Engine} (h : e.Follows e') : e.Grows e' := fun _ _ hi =>
  let ⟨i', hi', hlater⟩ := h.instance? hi
  ⟨i', hi', hlater.captured⟩

/-- Wherever an operation is, behind whatever has been done with the engine before, no table has a
value twice, and values are only added at the ends of tables. When a program captures a value, it
writes the reference to the first place of the value in the table of the host, which is the end of
the table if the value is new. From then on, in the rest of the operation and in all that is done
afterwards, the text leads to the very same object whenever the host is registered. The host is the
instance that the operation is about, unless an expression asked for a template that has another
owner. If that instance is registered when the operation starts, it is so in all of the operation,
provided that no expression asks for something else. -/
theorem captured_resolves {start e : Engine} {log : List Entry} (hstart : start.Fresh)
    (hformat : start.settings.captureReference = Reference.defaultFormat)
    (h : History m start log e) (depth : Nat) (o : Operation) :
    (∀ A e₁, (Activity.perform depth o).Leads m false e A e₁ →
      e₁.Distinct ∧ e.Grows e₁ ∧ e₁.Grows ((o.perform m depth).on e).2) ∧
    (∀ A e₁ e₂, (Activity.perform depth o).Leads m false e A e₁ →
      (Activity.perform depth o).Since m e A e₁ e₂ → e₁.Grows e₂) ∧
    ∀ sameOwner j fuel c memory e₁ v t,
      (Activity.perform depth o).Leads m sameOwner e (.job j (fuel + 1) c memory) e₁ →
      j.Captures m c memory e₁ v t →
      ∃ i text c' t', t.engine.instance? j.host = some i ∧
        text = Reference.defaultText j.host (i.place v) ∧
        c' = { c with pc := c.pc + 1, out := c.out.push text } ∧
        (j.step m c).play (j.answer m) ⟨memory, e₁⟩ = (.ok c', t') ∧
        (∀ e₂, (Activity.perform depth o).Since m e (.job j fuel c' t'.memory) t'.engine e₂ →
          j.host ∈ e₂.registry → e₂.Resolves text v) ∧
        (∀ log' e' depth' o' A e₂, History m ((o.perform m depth).on e).2 log' e' →
          (Activity.perform depth' o').Leads m false e' A e₂ →
            j.host ∈ e₂.registry → e₂.Resolves text v) ∧
        ∀ id, sameOwner = true → o.target? = some id → id ∈ e.registry →
          j.host = id ∧ (¬ (Activity.perform depth o).Unregisters m e id → ∀ e₂,
            (Activity.perform depth o).Since m e (.job j fuel c' t'.memory) t'.engine e₂ →
              id ∈ e₂.registry) := by
  have he := h.sound hstart.sound
  refine ⟨fun A e₁ hleads => ?_, fun A e₁ e₂ hleads hsince => (hsince.follows he hleads).grows, ?_⟩
  · have hinside := hleads.inside he
    have hlater := A.follows_ending (m := m) hinside.sound
    exact ⟨hinside.sound.distinct, hinside.follows.grows, (hlater.trans hinside.ends).grows⟩
  · intro sameOwner j fuel c memory e₁ v t hleads hcaptures
    have hinside := hleads.inside he
    obtain ⟨host, hhost⟩ := hleads.hosted he trivial
    have hvalue := j.work_play m (Template.valueCode j.program c.pc >>= m.evaluator.value)
      (t := ⟨memory, e₁⟩) hinside.sound
    rw [hcaptures.value] at hvalue
    have hfollows := (h.follows hstart.sound).trans hinside.follows
    obtain ⟨i, hi, -⟩ := hvalue.follows.instance? hhost
    obtain ⟨i', t', hstep, hi', htable⟩ :=
      hcaptures.step hvalue.sound ((hfollows.trans hvalue.follows).settings ▸ hformat) hi
    obtain ⟨expr, source, hinstruction⟩ := hcaptures.instruction
    have hrest : Activity.Part m sameOwner (.job j (fuel + 1) c memory) e₁ 1 _ _ :=
      .moreSteps (List.getElem?_eq_some_iff.mp hinstruction).1 hstep
    have hleads' := hleads.trans (.head hrest .refl)
    have hinside' := hleads'.inside he
    have hresolves {e₂ : Engine} (hlater : t'.engine.Follows e₂) (hid : j.host ∈ e₂.registry) :
        e₂.Resolves (Reference.defaultText j.host (i.place v)) v :=
      hlater.resolves (((h.follows hstart.sound).trans hinside'.follows).settings ▸ hformat) hi'
        htable hid
    refine ⟨i, _, _, t', hi, rfl, rfl, hstep, fun e₂ hsince => ?_,
      fun log' e' depth' o' A e₂ h' hlater => ?_, fun id hsame htarget hid => ?_⟩
    · exact hresolves (hsince.follows he hleads')
    · have hend := (o.effect (m := m) depth he).sound he
      have hfollows' := (h'.follows hend).trans (hlater.inside (h'.sound hend)).follows
      have hends := (Activity.follows_ending _ hinside'.sound).trans hinside'.ends
      exact hresolves (hends.trans hfollows')
    · subst hsame
      exact ⟨hleads.for_owner he ⟨id, htarget, h.owned hstart hid⟩,
        fun hquiet e₂ hsince => hsince.mem_registry he hid hleads' hquiet⟩

/-! ## A capture in an include -/

namespace Action

def succeeds {α : Type} (x : Action α) (e : Engine) (p : α → Engine → Bool) : Bool :=
  match x.on e with
  | (.ok a, e') => p a e'
  | (.error _, _) => false

theorem exists_of_succeeds {α : Type} {x : Action α} {e : Engine} {p : α → Engine → Bool}
    (h : x.succeeds e p = true) : ∃ a e', x.on e = (.ok a, e') ∧ p a e' = true := by
  unfold succeeds at h
  split at h
  · exact ⟨_, _, ‹_›, h⟩
  · cases h

end Action

def Job.aboutToCapture (m : Machine) (j : Job) (e : Engine) : Bool :=
  match j.program.program[0]? with
  | some (Template.Instruction.capture ..) =>
    ((Template.valueCode j.program 0 >>= m.evaluator.value).play (j.answer m)
      ⟨j.memory e, e⟩).1.toBool
  | _ => false

theorem Job.captures_of_aboutToCapture {j : Job} {e : Engine} (h : j.aboutToCapture m e = true) :
    ∃ v t, j.Captures m .initial (j.memory e) e v t := by
  unfold aboutToCapture at h
  split at h
  · rename_i _ expr source hinstruction
    cases hplay : (Template.valueCode j.program 0 >>= m.evaluator.value).play (j.answer m)
        ⟨j.memory e, e⟩ with
    | mk result t =>
        rw [hplay] at h
        cases result with
        | ok v => exact ⟨v, t, ⟨expr, source, hinstruction⟩, hplay⟩
        | error failure => cases h
  · cases h

def capturesInInclude (m : Machine) (depth id : Nat) (e : Engine) : Bool :=
  (Action.takeApart id).succeeds e fun (i, extraction) e₁ =>
    match extraction.segments, e₁.instance? id with
    | .span s :: _, some host =>
      match s.classify with
      | .include name =>
        (Action.openInclude name (some host.owner)).succeeds
          ((Action.note ["Inlining include '", name, "'"]).on e₁).2 fun temporary e₂ =>
        (Action.bindScope temporary (e₁.heap.mapping i.scope).entries).succeeds e₂ fun scope e₃ =>
        (Action.ready (Action.render m depth) temporary).succeeds e₃ fun compiled e₄ =>
          match e₄.instance? temporary with
          | some included =>
            match e₄.instance? included.owner with
            | some owner =>
              Job.aboutToCapture m ⟨depth, included.owner, owner.name, scope, compiled⟩ e₄
            | none => false
          | none => false
      | _ => false
    | _, _ => false

theorem exists_captures_of_capturesInInclude {depth id : Nat} {e : Engine}
    (h : capturesInInclude m depth id e = true) :
    ∃ j e₁ v t, (Activity.compile (depth + 1) id).Leads m true e
      (.job j m.steps .initial (j.memory e₁)) e₁ ∧ j.Captures m .initial (j.memory e₁) e₁ v t := by
  obtain ⟨⟨i, extraction⟩, e₁, htake, h⟩ := Action.exists_of_succeeds h
  simp only at h
  split at h
  · rename_i s more host hsegments hhost
    split at h
    · rename_i name hclassify
      obtain ⟨temporary, e₂, hopen, h⟩ := Action.exists_of_succeeds h
      obtain ⟨scope, e₃, hbind, h⟩ := Action.exists_of_succeeds h
      obtain ⟨compiled, e₄, hready, h⟩ := Action.exists_of_succeeds h
      split at h
      · rename_i included hincluded
        split at h
        · rename_i owner howner
          obtain ⟨v, t, hcaptures⟩ := Job.captures_of_aboutToCapture h
          refine ⟨_, e₄, v, t, ?_, hcaptures⟩
          refine .head (.generated htake) ?_
          rw [hsegments]
          exact .head (.included hclassify hhost hopen)
            (.head (.rendered hbind hready hincluded howner rfl) .refl)
        · cases h
      · cases h
    · cases h
  · cases h

def capturingInclude : Engine :=
  { sources := .table [("page".toList, "\x7binclude part\x7d".toList),
      ("part".toList, "\x7bserialize 300\x7d".toList)] }

/-- A template that captures a value is included when an instance is compiled. What is written
leads to the value when the operation is over. -/
theorem captured_resolves_include :
    capturingInclude.Fresh ∧
      capturingInclude.settings.captureReference = Reference.defaultFormat ∧
      ∃ log e, History fewSteps capturingInclude log e ∧ ∃ j fuel c memory e₁ v t index,
        (Activity.perform 2 (.compile 1)).Leads fewSteps true e (.job j (fuel + 1) c memory) e₁ ∧
        j.Captures fewSteps c memory e₁ v t ∧
        (((Operation.compile 1).perform fewSteps 2).on e).2.Resolves
          (Reference.defaultText 1 index) v := by
  have hfresh : capturingInclude.Fresh := ⟨rfl, rfl⟩
  have hstart : History fewSteps capturingInclude [] capturingInclude := .start
  obtain ⟨log, e, h, hcaptures, hid, hid'⟩ : ∃ log e, History fewSteps capturingInclude log e ∧
      capturesInInclude fewSteps 1 1 e = true ∧ 1 ∈ e.registry ∧
        1 ∈ (((Operation.compile 1).perform fewSteps 2).on e).2.registry :=
    ⟨_, _, hstart.next 2 (.create "page".toList none), by decide +kernel, by decide +kernel,
      by decide +kernel⟩
  obtain ⟨j, e₁, v, t, hleads, hcaptures⟩ := exists_captures_of_capturesInInclude hcaptures
  obtain ⟨i, text, c', t', -, rfl, -, -, -, hafterwards, hhost⟩ :=
    (captured_resolves hfresh rfl h 2 (.compile 1)).2.2 true j 8 .initial _ e₁ v t
      (.head .compile hleads) hcaptures
  obtain ⟨hj, -⟩ := hhost 1 rfl rfl hid
  rw [hj] at hafterwards
  exact ⟨hfresh, rfl, log, e, h, j, 8, .initial, _, e₁, v, t, i.place v, .head .compile hleads,
    hcaptures, hafterwards [] _ 2 (.compile 1) _ _ .start .refl hid'⟩

/-- An engine with two templates, of which one includes the other, which captures a value, and
clears the registry when it is rendered. -/
def clearingInclude : Engine :=
  { sources := .table [
      ("page".toList, "\x7binclude part\x7d\x7btpl.engine.instances.clear()\x7d".toList),
      ("part".toList, "\x7bserialize 300\x7d".toList)] }

theorem Engine.not_resolves_of_registry {e : Engine} (h : e.registry = []) (text : Text)
    (v : Value) : ¬ e.Resolves text v := by
  rintro ⟨w, hw, -⟩
  have hnone (id : Nat) : e.registered? id = none := by
    rw [registered?, h]
    exact if_neg List.not_mem_nil
  rw [Action.resolve, Action.on_bind_of_ok (Action.on_get e)] at hw
  cases hread : Reference.read? e.settings.captureReference text with
  | none =>
      simp only [hread] at hw
      cases hw
  | some target =>
      simp only [hread, Action.lookup, Action.on_bind_of_ok (Action.on_get e), hnone,
        ite_self] at hw
      cases hw

/-- The value that was captured when the instance was compiled is lost when the instance has been
rendered, although nobody has disposed of the instance. -/
theorem not_resolves_clearingInclude :
    clearingInclude.Fresh ∧ clearingInclude.settings.captureReference = Reference.defaultFormat ∧
      ∃ log e, History fewSteps clearingInclude log e ∧ ∃ j fuel c memory e₁ v t,
        (Activity.perform 2 (.compile 1)).Leads fewSteps true e (.job j (fuel + 1) c memory) e₁ ∧
        j.Captures fewSteps c memory e₁ v t ∧
        ∃ log' e', History fewSteps (((Operation.compile 1).perform fewSteps 2).on e).2 log' e' ∧
          (∀ entry ∈ log', ∀ id, entry.operation ≠ .dispose id) ∧
            ∀ text, ¬ e'.Resolves text v := by
  have hstart : History fewSteps clearingInclude [] clearingInclude := .start
  obtain ⟨log, e, h, hcaptures, hcleared⟩ : ∃ log e, History fewSteps clearingInclude log e ∧
      capturesInInclude fewSteps 1 1 e = true ∧ (((Operation.render 1 []).perform fewSteps 2).on
        (((Operation.compile 1).perform fewSteps 2).on e).2).2.registry = [] :=
    ⟨_, _, hstart.next 2 (.create "page".toList none), by decide +kernel, by decide +kernel⟩
  obtain ⟨j, e₁, v, t, hleads, hcaptures⟩ := exists_captures_of_capturesInInclude hcaptures
  refine ⟨⟨rfl, rfl⟩, rfl, log, e, h, j, 8, .initial, _, e₁, v, t, .head .compile hleads, hcaptures,
    _, _, History.start.next 2 (.render 1 []), ?_,
    fun text => Engine.not_resolves_of_registry hcleared text v⟩
  simp only [List.forall_mem_singleton]
  nofun

end Stencil
