import Stencil.Proofs.Engine.Unregistering

/-!
# Who is registered

At any time those instances are registered that were made on their own and have not been disposed
of, neither from outside nor by an expression, each under its number. Numbers grow, and those of
instances that are only made to render something are free of instances again when that is over,
however it ends.
-/

namespace Stencil

open Template (Failure)

variable {m : Machine}

/-- In the history an instance with this number and this name was made. It has not been disposed of
since, and no expression has asked that it be no longer registered. -/
inductive Standing (m : Machine) (start : Engine) (id : Nat) (name : Text) :
    List Entry → Engine → Prop
  | made {log : List Entry} {e e' : Engine} (h : History m start log e) (depth : Nat)
      (hook : Option Text)
      (hmade : ((Operation.create name hook).perform m depth).on e = (.ok (some id), e')) :
      Standing m start id name (⟨.create name hook, .ok (some id)⟩ :: log) e'
  | kept {log : List Entry} {e : Engine} (h : Standing m start id name log e) (depth : Nat)
      (o : Operation) (hdispose : o ≠ .dispose id)
      (hquiet : ¬ (Activity.perform depth o).Unregisters m e id) :
      Standing m start id name (⟨o, ((o.perform m depth).on e).1⟩ :: log)
        ((o.perform m depth).on e).2

/-- A number leads to the instance that has it, which is for this template. -/
def Engine.Registers (e : Engine) (id : Nat) (name : Text) : Prop :=
  ∃ i, e.registered? id = some i ∧ i.id = id ∧ i.name = name

namespace Engine

variable {e e' : Engine} {id : Nat} {name : Text}

theorem Sound.registers_iff (he : e.Sound) :
    e.Registers id name ↔ id ∈ e.registry ∧ ∃ i, e.instance? id = some i ∧ i.name = name := by
  unfold Registers registered?
  constructor
  · rintro ⟨i, hi, -, hname⟩
    split at hi
    · exact ⟨‹_›, i, hi, hname⟩
    · cases hi
  · rintro ⟨hid, i, hi, hname⟩
    exact ⟨i, by rw [if_pos hid, hi], he.id_of_instance? hi, hname⟩

theorem Sound.exists_of_mem_registry (he : e.Sound) (hid : id ∈ e.registry) :
    ∃ i, e.instance? id = some i := by
  obtain ⟨hpos, hle⟩ := he.registered id hid
  exact ⟨_, instance?_eq_some_iff.mpr ⟨hpos, List.getElem?_eq_getElem (by omega)⟩⟩

theorem Follows.exists_name_iff (h : e.Follows e') (he : e.Sound) (hid : id ∈ e.registry) :
    (∃ i, e'.instance? id = some i ∧ i.name = name) ↔
      ∃ i, e.instance? id = some i ∧ i.name = name := by
  obtain ⟨i, hi⟩ := he.exists_of_mem_registry hid
  obtain ⟨i', hi', hlater⟩ := h.instance? hi
  simp only [hi, hi', Option.some.injEq, exists_eq_left', hlater.name]

theorem Follows.ids_prefix (h : e.Follows e') :
    e.instances.map Instance.id <+: e'.instances.map Instance.id := by
  rw [List.prefix_iff_getElem?]
  intro k hk
  rw [List.length_map] at hk
  obtain ⟨i', hi', hlater⟩ := h.instances k _ (List.getElem?_eq_getElem hk)
  simp [hi', hlater.id]

theorem Sound.ids_pairwise (he : e.Sound) : (e.instances.map Instance.id).Pairwise (· < ·) := by
  rw [List.pairwise_map, List.pairwise_iff_getElem]
  intro k l hk hl hlt
  rw [he.numbered k _ (List.getElem?_eq_getElem hk), he.numbered l _ (List.getElem?_eq_getElem hl)]
  omega

end Engine

/-! ## One more operation -/

theorem Effect.made {e e' : Engine} {o : Operation} {result : Except Failure (Option Nat)}
    {i : Instance} (h : Effect m e o result e') (he : e.Sound)
    (hi : i ∈ e'.instances.drop e.instances.length) (hregistered : i.id ∈ e'.registry) :
    ∃ name hook, o = .create name hook ∧ result = .ok (some i.id) := by
  obtain ⟨k, hk⟩ := List.getElem?_of_mem hi
  rw [List.getElem?_drop] at hk
  have hid := (h.sound he).numbered _ i hk
  have hnew : i.id ∉ e.registry := fun hmem => by
    have := (he.registered _ hmem).2
    omega
  cases h with
  | @created name hook i' _ hopens =>
      rw [hopens.registry, List.mem_append, List.mem_singleton] at hregistered
      exact ⟨name, hook, rfl, by rw [hregistered.resolve_left hnew]⟩
  | compiled hwork => exact absurd (hwork.registry.subset hregistered) hnew
  | rendered _ _ hwork => exact absurd (hwork.registry.subset hregistered) hnew
  | disposed => exact absurd (List.mem_of_mem_erase hregistered) hnew
  | outside => exact absurd hregistered hnew

theorem Operation.registers_create {e e' : Engine} {depth id : Nat} {name : Text}
    {hook : Option Text} (he : e.Sound)
    (hmade : ((Operation.create name hook).perform m depth).on e = (.ok (some id), e')) :
    e'.Registers id name := by
  obtain ⟨i, e₁, hcreate, hopens, hname, -⟩ := Action.on_create name hook e
  rw [perform, map_eq_pure_bind, Action.on_bind_of_ok hcreate] at hmade
  cases hmade
  rw [(hopens.sound he).registers_iff, hopens.registry]
  exact ⟨List.mem_append_right _ (List.mem_singleton.mpr rfl), i, hopens.instance?, hname⟩

/-- Whoever is registered stays so in an operation unless it is disposed of or an expression asks
for that. -/
theorem Operation.registers_iff {e e' : Engine} {o : Operation} {depth id : Nat} {name : Text}
    {result : Except Failure (Option Nat)} (he : e.Sound) (hid : id ∈ e.registry)
    (hperform : (o.perform m depth).on e = (result, e')) :
    e'.Registers id name ↔
      o ≠ .dispose id ∧ ¬ (Activity.perform depth o).Unregisters m e id ∧ e.Registers id name := by
  have heffect := o.effect (m := m) depth he
  rw [hperform] at heffect
  rw [(heffect.sound he).registers_iff, he.registers_iff, heffect.follows.exists_name_iff he hid]
  by_cases hdispose : o = .dispose id
  · subst hdispose
    cases hperform
    have hnodup : e.registry.Nodup := he.sorted.imp Nat.ne_of_lt
    exact ⟨fun h => absurd h.1 hnodup.not_mem_erase, fun h => absurd rfl h.1⟩
  · have hkept := Activity.mem_registry_perform_iff he hid hdispose hperform
    simp [hkept, hdispose, hid]

/-! ## Whole histories -/

namespace Standing

variable {start e : Engine} {log : List Entry} {id : Nat} {name : Text}

theorem history (h : Standing m start id name log e) : History m start log e := by
  induction h with
  | made h depth hook hmade =>
      have hnext := h.next depth (.create name hook)
      rw [hmade] at hnext
      exact hnext
  | kept h depth o _ _ ih => exact ih.next depth o

theorem registers (hstart : start.Fresh) (h : Standing m start id name log e) :
    e.Registers id name := by
  induction h with
  | made h depth hook hmade => exact Operation.registers_create (h.sound hstart.sound) hmade
  | kept h depth o hdispose hquiet ih =>
      have he := h.history.sound hstart.sound
      exact (Operation.registers_iff he (he.registers_iff.mp ih).1 (Prod.eta _).symm).mpr
        ⟨hdispose, hquiet, ih⟩

end Standing

theorem History.standing_iff {start e : Engine} {log : List Entry} {id : Nat} {name : Text}
    (h : History m start log e) (hstart : start.Fresh) :
    Standing m start id name log e ↔ e.Registers id name := by
  refine ⟨Standing.registers hstart, fun hregisters => ?_⟩
  induction h with
  | start =>
      have hid := (hstart.sound.registers_iff.mp hregisters).1
      rw [hstart.registry] at hid
      cases hid
  | @next log e h depth o ih =>
      have he := h.sound hstart.sound
      have heffect := o.effect (m := m) depth he
      have he' := heffect.sound he
      obtain ⟨hid, i, hi, hname⟩ := he'.registers_iff.mp hregisters
      by_cases hold : id ≤ e.instances.length
      · obtain ⟨hdispose, hquiet, hregistered⟩ :=
          (Operation.registers_iff he (heffect.follows.registry id hold hid)
            (Prod.eta _).symm).mp hregisters
        exact .kept (ih hregistered) depth o hdispose hquiet
      · have hiid := he'.id_of_instance? hi
        have hnew : i ∈ ((o.perform m depth).on e).2.instances.drop e.instances.length := by
          have hget := (Engine.instance?_eq_some_iff.mp hi).2
          refine List.mem_of_getElem? (i := id - 1 - e.instances.length) ?_
          rw [List.getElem?_drop, Nat.add_sub_cancel' (by omega)]
          exact hget
        obtain ⟨name', hook, rfl, hresult⟩ := heffect.made he hnew (hiid ▸ hid)
        have hmade := (Prod.eta (((Operation.create name' hook).perform m depth).on e)).symm
        rw [hresult, hiid] at hmade
        rw [hresult, hiid]
        have hname' := (he'.registers_iff.mp (Operation.registers_create he hmade)).2
        obtain ⟨i', hi', rfl⟩ := hname'
        cases hi.symm.trans hi'
        exact hname ▸ .made h depth hook hmade

/-- The registry leads from exactly the numbers of the instances that were made and not disposed of,
neither from outside nor by an expression, to these instances. Numbers are given out in increasing
order and never again, and whatever an operation does, none of those that it gives out is registered
afterwards but that of the instance that it was to make. -/
theorem registry_standing {start e : Engine} {log : List Entry} (hstart : start.Fresh)
    (h : History m start log e) :
    (∀ id name, Standing m start id name log e ↔ e.Registers id name) ∧
    (∀ id ∈ e.registry, ∃ name, Standing m start id name log e) ∧
    (e.instances.map Instance.id).Pairwise (· < ·) ∧
    ∀ depth (o : Operation), ∀ result e', (o.perform m depth).on e = (result, e') →
      e.instances.map Instance.id <+: e'.instances.map Instance.id ∧
      ∀ i ∈ e'.instances.drop e.instances.length, i.id ∈ e'.registry →
        ∃ name hook, o = .create name hook ∧ result = .ok (some i.id) := by
  have he := h.sound hstart.sound
  refine ⟨fun id name => h.standing_iff hstart, fun id hid => ?_, he.ids_pairwise,
    fun depth o result e' hperform => ?_⟩
  · obtain ⟨i, hi⟩ := he.exists_of_mem_registry hid
    exact ⟨i.name, (h.standing_iff hstart).mpr (he.registers_iff.mpr ⟨hid, i, hi, rfl⟩)⟩
  · have heffect := o.effect (m := m) depth he
    rw [hperform] at heffect
    exact ⟨heffect.follows.ids_prefix, fun i hi hregistered => heffect.made he hi hregistered⟩

def inclusion : Engine :=
  { sources := .table [("page".toList, "{include part}".toList), ("part".toList, "x".toList)] }

/-- Two instances are made, one of which renders the other template once and is disposed of; another
rendering fails because there is no template. -/
theorem registry_standing_inclusion :
    inclusion.Fresh ∧ ∃ log e, History fewSteps inclusion log e ∧ e.instances.length = 4 ∧
      Standing fewSteps inclusion 2 "part".toList log e ∧
        ∀ id, id ≠ 2 → ∀ name, ¬ Standing fewSteps inclusion id name log e := by
  have hfresh : inclusion.Fresh := ⟨rfl, rfl⟩
  have hstart : History fewSteps inclusion [] inclusion := .start
  obtain ⟨log, e, h, hlength, hregistry, hpart⟩ : ∃ log e, History fewSteps inclusion log e ∧
      e.instances.length = 4 ∧ e.registry = [2] ∧
        (e.registered? 2).map (fun i => (i.id, i.name)) = some (2, "part".toList) :=
    ⟨_, _, ((((hstart.next 3 (.create "page".toList none)).next 3
      (.create "part".toList none)).next 3 (.render 1 [])).next 3
        (.renderOnce "none".toList [])).next 3 (.dispose 1),
      by decide +kernel, by decide +kernel, by decide +kernel⟩
  obtain ⟨hstanding, -⟩ := registry_standing hfresh h
  refine ⟨hfresh, log, e, h, hlength, (hstanding 2 _).mpr ?_, fun id hid name hlog => ?_⟩
  · obtain ⟨i, hi, hvalues⟩ := Option.map_eq_some_iff.mp hpart
    exact ⟨i, hi, congrArg Prod.fst hvalues, congrArg Prod.snd hvalues⟩
  · have hmem := ((h.sound hfresh.sound).registers_iff.mp ((hstanding id name).mp hlog)).1
    rw [hregistry] at hmem
    exact hid (List.mem_singleton.mp hmem)

/-- An instance with this number and this name was made, and no operation has disposed of it
since. -/
def Undisposed (log : List Entry) (id : Nat) (name : Text) : Prop :=
  ∃ later hook earlier, log = later ++ ⟨.create name hook, .ok (some id)⟩ :: earlier ∧
    ∀ entry ∈ later, entry.operation ≠ .dispose id

/-- An engine with a template that clears the registry. -/
def clearing : Engine :=
  { sources := .table [("page".toList, "\x7btpl.engine.instances.clear()\x7d".toList)] }

/-- Nothing has disposed of the instance from outside, but when it has been rendered it is no longer
registered. -/
theorem undisposed_clearing :
    clearing.Fresh ∧ ∃ log e, History fewSteps clearing log e ∧
      ¬ ∀ id name, Undisposed log id name ↔ e.Registers id name := by
  have hfresh : clearing.Fresh := ⟨rfl, rfl⟩
  have hstart : History fewSteps clearing [] clearing := .start
  refine ⟨hfresh, _, _, (hstart.next 2 (.create "page".toList none)).next 2 (.render 1 []), ?_⟩
  intro hall
  have hundisposed := (hall 1 "page".toList).mp
    ⟨[_], none, [], rfl, by simp only [List.forall_mem_singleton]; nofun⟩
  obtain ⟨i, hi, -⟩ := hundisposed
  have hcleared : ((((Operation.render 1 []).perform fewSteps 2).on
      (((Operation.create "page".toList none).perform fewSteps 2).on clearing).2).2.registered? 1) =
        none := by decide +kernel
  cases hcleared.symm.trans hi

end Stencil
