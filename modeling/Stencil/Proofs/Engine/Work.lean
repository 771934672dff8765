import Stencil.Engine.Reload
import Stencil.Proofs.Engine.Coupling

/-!
# What work leaves of an engine

Whatever an engine does only adds to it: instances stay with their numbers and names, and their
tables grow at the end. What is done for one instance leaves the parts of the others alone. All
that an engine does is put together from such work.
-/

namespace Stencil

open Template (Compiled Failure Segment)

variable {m : Machine}

/-! ## Later engines -/

/-- The same instance at a later time. -/
structure Instance.Later (i i' : Instance) : Prop where
  id : i'.id = i.id
  name : i'.name = i.name
  owner : i'.owner = i.owner
  captured : i.captured <+: i'.captured

theorem Instance.Later.refl (i : Instance) : i.Later i := ⟨rfl, rfl, rfl, List.prefix_refl _⟩

theorem Instance.Later.trans {i i' i'' : Instance} (h : i.Later i') (h' : i'.Later i'') :
    i.Later i'' :=
  ⟨h'.id.trans h.id, h'.name.trans h.name, h'.owner.trans h.owner,
    h.captured.trans h'.captured⟩

structure Instance.SameTable (i i' : Instance) : Prop where
  id : i'.id = i.id
  name : i'.name = i.name
  owner : i'.owner = i.owner
  captured : i'.captured = i.captured

theorem Instance.SameTable.later {i i' : Instance} (h : i.SameTable i') : i.Later i' :=
  ⟨h.id, h.name, h.owner, h.captured ▸ List.prefix_refl _⟩

namespace Engine

/-- Every instance has its place as its number and no value twice in its table, and the numbers
that are registered are in order. -/
structure Sound (e : Engine) : Prop where
  numbered : ∀ (k : Nat) (i : Instance), e.instances[k]? = some i → i.id = k + 1
  distinct : ∀ i ∈ e.instances, i.captured.Pairwise fun v w => v.same w = false
  registered : ∀ id ∈ e.registry, 0 < id ∧ id ≤ e.instances.length
  sorted : e.registry.Pairwise (· < ·)

/-- The same engine at a later time. Instances that are no longer registered are never registered
again. -/
structure Follows (e e' : Engine) : Prop where
  settings : e'.settings = e.settings
  instances : ∀ (k : Nat) (i : Instance), e.instances[k]? = some i →
    ∃ i', e'.instances[k]? = some i' ∧ i.Later i'
  registry : ∀ id ≤ e.instances.length, id ∈ e'.registry → id ∈ e.registry

variable (m) in
/-- What work leaves of an engine. Only of the instance that is worked on the parts may change, and
the parts of all instances that are new belong together. -/
structure Work (own : Option Nat) (e e' : Engine) : Prop where
  sound : e'.Sound
  settings : e'.settings = e.settings
  sources : e'.sources = e.sources
  registry : e'.registry.Sublist e.registry
  kept : ∀ (k : Nat) (i : Instance), e.instances[k]? = some i →
    ∃ i', e'.instances[k]? = some i' ∧ i.Later i' ∧ (own ≠ some i.id → i.SameParts i')
  new : ∀ (k : Nat) (i' : Instance), e.instances.length ≤ k → e'.instances[k]? = some i' →
    own ≠ some i'.id → i'.Coupled m e.settings

/-- Nothing is different that instances have to do with. -/
structure Alike (e e' : Engine) : Prop where
  settings : e'.settings = e.settings
  sources : e'.sources = e.sources
  registry : e'.registry = e.registry
  instances : e'.instances = e.instances

variable {e e₁ e₂ e' : Engine} {own : Option Nat} {id k : Nat} {i i' : Instance}

theorem instance?_eq_some_iff :
    e.instance? id = some i ↔ 0 < id ∧ e.instances[id - 1]? = some i := by
  unfold instance?
  split
  · simp_all
  · simp [Nat.pos_of_ne_zero, *]

@[simp] theorem update_settings (id : Nat) (f : Instance → Instance) (e : Engine) :
    (e.update id f).settings = e.settings := rfl

theorem getElem?_update (id k : Nat) (f : Instance → Instance) (e : Engine) :
    (e.update id f).instances[k]? = e.instances[k]?.map fun i => if i.id = id then f i else i :=
  List.getElem?_map

theorem instance?_succ : e.instance? (k + 1) = e.instances[k]? := rfl

theorem instance?_congr (h : e'.instances = e.instances) : e'.instance? id = e.instance? id := by
  unfold Engine.instance?
  rw [h]

theorem instance?_update (id k : Nat) (f : Instance → Instance) (e : Engine) :
    (e.update id f).instance? k = (e.instance? k).map fun i => if i.id = id then f i else i := by
  unfold Engine.instance?
  split
  · rfl
  · exact getElem?_update id (k - 1) f e

namespace Sound

theorem id_of_instance? (he : e.Sound) (h : e.instance? id = some i) : i.id = id := by
  obtain ⟨hpos, hi⟩ := instance?_eq_some_iff.mp h
  rw [he.numbered _ _ hi, Nat.sub_add_cancel hpos]

theorem instance?_of_mem (he : e.Sound) (h : i ∈ e.instances) : e.instance? i.id = some i := by
  obtain ⟨k, hk⟩ := List.getElem?_of_mem h
  rw [he.numbered k i hk, instance?_succ, hk]

theorem of_alike (he : e.Sound) (h : e.Alike e') : e'.Sound where
  numbered := h.instances ▸ he.numbered
  distinct := h.instances ▸ he.distinct
  registered := h.registry ▸ h.instances ▸ he.registered
  sorted := h.registry ▸ he.sorted

theorem instance?_update {f : Instance → Instance} (he : e.Sound) (h : e.instance? id = some i) :
    (e.update id f).instance? id = some (f i) := by
  obtain ⟨hpos, hi⟩ := instance?_eq_some_iff.mp h
  refine instance?_eq_some_iff.mpr ⟨hpos, ?_⟩
  simp [Engine.update, hi, he.id_of_instance? h]

theorem update {f : Instance → Instance} (he : e.Sound)
    (hid : ∀ i ∈ e.instances, i.id = id → (f i).id = i.id)
    (hdistinct : ∀ i ∈ e.instances, i.id = id →
      (f i).captured.Pairwise fun v w => v.same w = false) : (e.update id f).Sound where
  numbered := by
    intro k i' hi'
    rw [getElem?_update] at hi'
    obtain ⟨i, hi, rfl⟩ := Option.map_eq_some_iff.mp hi'
    split
    · rw [hid i (List.mem_of_getElem? hi) ‹_›, he.numbered k i hi]
    · exact he.numbered k i hi
  distinct := by
    intro i' hi'
    obtain ⟨i, hi, rfl⟩ := List.mem_map.mp hi'
    split
    · exact hdistinct i hi ‹_›
    · exact he.distinct i hi
  registered := by simpa [Engine.update] using he.registered
  sorted := he.sorted

theorem update_sameTable {f : Instance → Instance} (he : e.Sound)
    (hf : ∀ i : Instance, i.SameTable (f i)) : (e.update id f).Sound :=
  he.update (fun i _ _ => (hf i).id) fun i hi _ => (hf i).captured ▸ he.distinct i hi

theorem registry_le (he : e.Sound) : e.instances.length + 1 ∉ e.registry :=
  fun hmem => absurd (he.registered _ hmem).2 (Nat.not_succ_le_self _)

end Sound

theorem Follows.refl (e : Engine) : e.Follows e :=
  ⟨rfl, fun _ i hi => ⟨i, hi, .refl i⟩, fun _ _ hid => hid⟩

theorem Follows.length_le (h : e.Follows e') : e.instances.length ≤ e'.instances.length := by
  refine Nat.le_of_not_lt fun hlt => ?_
  obtain ⟨i', hi', -⟩ := h.instances _ _ (List.getElem?_eq_getElem hlt)
  exact absurd (List.getElem?_eq_some_iff.mp hi').1 (Nat.lt_irrefl _)

theorem Follows.trans (h : e.Follows e₁) (h' : e₁.Follows e') : e.Follows e' where
  settings := h'.settings.trans h.settings
  instances := fun k i hi =>
    let ⟨_, hi₁, hlater₁⟩ := h.instances k i hi
    let ⟨i', hi', hlater'⟩ := h'.instances k _ hi₁
    ⟨i', hi', hlater₁.trans hlater'⟩
  registry := fun id hle hid =>
    h.registry id hle (h'.registry id (Nat.le_trans hle h.length_le) hid)

theorem follows_dispose (id : Nat) (e : Engine) : e.Follows (e.dispose id) :=
  ⟨rfl, fun _ i hi => ⟨i, hi, .refl i⟩, fun _ _ hid => List.mem_of_mem_erase hid⟩

theorem Follows.instance? (h : e.Follows e') (hi : e.instance? id = some i) :
    ∃ i', e'.instance? id = some i' ∧ i.Later i' := by
  obtain ⟨hpos, hi⟩ := instance?_eq_some_iff.mp hi
  obtain ⟨i', hi', hlater⟩ := h.instances _ i hi
  exact ⟨i', instance?_eq_some_iff.mpr ⟨hpos, hi'⟩, hlater⟩

theorem alike_heap (e : Engine) (heap : Heap) : e.Alike { e with heap } := ⟨rfl, rfl, rfl, rfl⟩

def withScope (e : Engine) (entries : Entries) : Engine :=
  { e with heap := (e.heap.newMapping ⟨true, entries⟩).2 }

theorem alike_withScope (e : Engine) (entries : Entries) : e.Alike (e.withScope entries) :=
  ⟨rfl, rfl, rfl, rfl⟩

theorem Alike.instance? (h : e.Alike e') : e'.instance? id = e.instance? id :=
  instance?_congr h.instances

theorem Alike.follows (h : e.Alike e') : e.Follows e' :=
  ⟨h.settings, fun _ i hi => ⟨i, h.instances ▸ hi, .refl i⟩, fun _ _ hid => h.registry ▸ hid⟩

namespace Work

theorem follows (h : Work m own e e') : e.Follows e' :=
  ⟨h.settings, fun k i hi =>
    let ⟨i', hi', hlater, _⟩ := h.kept k i hi
    ⟨i', hi', hlater⟩, fun _ _ hid => h.registry.subset hid⟩

theorem of_alike (he : e.Sound) (h : e.Alike e') : Work m own e e' where
  sound := he.of_alike h
  settings := h.settings
  sources := h.sources
  registry := h.registry ▸ List.Sublist.refl _
  kept := fun _ i hi => ⟨i, h.instances ▸ hi, .refl i, fun _ => .refl i⟩
  new := by
    intro k i' hle hi' _
    rw [h.instances] at hi'
    exact absurd (List.getElem?_eq_some_iff.mp hi').1 (Nat.not_lt_of_le hle)

theorem refl (he : e.Sound) : Work m own e e := .of_alike he ⟨rfl, rfl, rfl, rfl⟩

theorem trans (h : Work m own e e₁) (h' : Work m own e₁ e') : Work m own e e' where
  sound := h'.sound
  settings := h'.settings.trans h.settings
  sources := h'.sources.trans h.sources
  registry := h'.registry.trans h.registry
  kept := by
    intro k i hi
    obtain ⟨i₁, hi₁, hlater₁, hsame₁⟩ := h.kept k i hi
    obtain ⟨i', hi', hlater', hsame'⟩ := h'.kept k i₁ hi₁
    exact ⟨i', hi', hlater₁.trans hlater', fun hown =>
      (hsame₁ hown).trans (hsame' (hlater₁.id ▸ hown))⟩
  new := by
    intro k i' hle hi' hown
    rw [← h.settings]
    by_cases hlt : k < e₁.instances.length
    · have hi₁ := List.getElem?_eq_getElem hlt
      obtain ⟨i'', hi'', hlater, hsame⟩ := h'.kept k _ hi₁
      cases hi'.symm.trans hi''
      rw [hlater.id] at hown
      exact (hsame hown).coupled (h.settings ▸ h.new k _ hle hi₁ hown)
    · exact h'.new k i' (Nat.le_of_not_lt hlt) hi' hown

theorem weaken (h : Work m none e e') (own : Option Nat) : Work m own e e' where
  sound := h.sound
  settings := h.settings
  sources := h.sources
  registry := h.registry
  kept := fun k i hi =>
    let ⟨i', hi', hlater, hsame⟩ := h.kept k i hi
    ⟨i', hi', hlater, fun _ => hsame nofun⟩
  new := fun k i' hle hi' _ => h.new k i' hle hi' nofun

theorem instance? (h : Work m none e e') (hi : e.instance? id = some i) :
    ∃ i', e'.instance? id = some i' ∧ i.Later i' ∧ i.SameParts i' := by
  obtain ⟨hpos, hi⟩ := instance?_eq_some_iff.mp hi
  obtain ⟨i', hi', hlater, hsame⟩ := h.kept _ i hi
  exact ⟨i', instance?_eq_some_iff.mpr ⟨hpos, hi'⟩, hlater, hsame nofun⟩

theorem instance?_cases (h : Work m own e e') (hi' : e'.instance? id = some i')
    (hown : own ≠ some id) :
    (∃ i, e.instance? id = some i ∧ i.SameParts i') ∨
      e.instance? id = none ∧ i'.Coupled m e.settings := by
  have hid := h.sound.id_of_instance? hi'
  obtain ⟨hpos, hget⟩ := instance?_eq_some_iff.mp hi'
  by_cases hlt : id - 1 < e.instances.length
  · have hi := List.getElem?_eq_getElem hlt
    obtain ⟨i'', hi'', hlater, hsame⟩ := h.kept _ _ hi
    cases hget.symm.trans hi''
    refine .inl ⟨_, instance?_eq_some_iff.mpr ⟨hpos, hi⟩, hsame ?_⟩
    rwa [← hlater.id, hid]
  · refine .inr ⟨?_, h.new _ i' (Nat.le_of_not_lt hlt) hget (hid ▸ hown)⟩
    refine Option.eq_none_iff_forall_not_mem.mpr fun i hi => ?_
    exact hlt (List.getElem?_eq_some_iff.mp (instance?_eq_some_iff.mp hi).2).1

theorem update {f : Instance → Instance} (he : e.Sound)
    (hlater : ∀ i ∈ e.instances, i.id = id → i.Later (f i))
    (hdistinct : ∀ i ∈ e.instances, i.id = id →
      (f i).captured.Pairwise fun v w => v.same w = false)
    (hparts : own = some id ∨ ∀ i : Instance, i.SameParts (f i)) :
    Work m own e (e.update id f) where
  sound := he.update (fun i hi hid => (hlater i hi hid).id) hdistinct
  settings := rfl
  sources := rfl
  registry := List.Sublist.refl _
  kept := by
    intro k i hi
    refine ⟨if i.id = id then f i else i, by rw [getElem?_update, hi]; rfl, ?_⟩
    split
    · rename_i hid
      refine ⟨hlater i (List.mem_of_getElem? hi) hid, fun hown => ?_⟩
      exact hparts.elim (fun h => absurd (hid ▸ h) hown) fun h => h i
    · exact ⟨.refl i, fun _ => .refl i⟩
  new := by
    intro k i' hle hi' _
    rw [getElem?_update, List.getElem?_eq_none hle] at hi'
    cases hi'

theorem update_sameTable {f : Instance → Instance} (he : e.Sound)
    (hf : ∀ i : Instance, i.SameTable (f i))
    (hparts : own = some id ∨ ∀ i : Instance, i.SameParts (f i)) :
    Work m own e (e.update id f) :=
  .update he (fun i _ _ => (hf i).later)
    (fun i hi _ => (hf i).captured ▸ he.distinct i hi) hparts

end Work

end Engine

/-! ## Actions -/

namespace Action

variable {α β : Type} {e e' : Engine}

@[simp] theorem on_pure (a : α) (e : Engine) : (pure a : Action α).on e = (.ok a, e) := rfl

@[simp] theorem on_get (e : Engine) : (get : Action Engine).on e = (.ok e, e) := rfl

@[simp] theorem on_update (id : Nat) (f : Instance → Instance) (e : Engine) :
    (update id f).on e = (.ok (), e.update id f) := rfl

@[simp] theorem on_note (parts : List Text) (e : Engine) :
    (note parts).on e = (.ok (), { e with log := e.log ++ [Text.say parts] }) := rfl

@[simp] theorem on_ofExcept_ok (a : α) (e : Engine) :
    (ofExcept (.ok a) : Action α).on e = (.ok a, e) := rfl

@[simp] theorem on_reader (e : Engine) :
    reader.on e = (.ok { parser := e.settings.markupParser }, e) := rfl

@[simp] theorem on_andFinally (x : Action α) (last : Engine → Engine) (e : Engine) :
    (x.andFinally last).on e = ((x.on e).1, last (x.on e).2) := rfl

theorem on_bind (x : Action α) (f : α → Action β) (e : Engine) :
    (x >>= f).on e =
      match x.on e with
      | (.ok a, e') => (f a).on e'
      | (.error failure, e') => (.error failure, e') := by
  change StateT.run (ExceptT.run x >>= ExceptT.bindCont f) e = _
  rw [StateT.run_bind]
  unfold on
  cases (ExceptT.run x).run e with
  | mk result e' => cases result <;> rfl

theorem on_bind_of_ok {x : Action α} {f : α → Action β} {a : α} (h : x.on e = (.ok a, e')) :
    (x >>= f).on e = (f a).on e' := by
  rw [on_bind, h]

theorem on_bind_ok_iff {x : Action α} {f : α → Action β} {b : β} :
    (x >>= f).on e = (.ok b, e') ↔ ∃ a e₁, x.on e = (.ok a, e₁) ∧ (f a).on e₁ = (.ok b, e') := by
  rw [on_bind]
  cases hx : x.on e with
  | mk result e₁ =>
      cases result with
      | error failure => simp
      | ok a =>
          refine ⟨fun h => ⟨a, e₁, rfl, h⟩, ?_⟩
          rintro ⟨_, _, hfirst, h⟩
          cases hfirst
          exact h

theorem on_bind_error_iff {x : Action α} {f : α → Action β} {failure : Failure} :
    ((x >>= f).on e).1 = .error failure ↔
      (x.on e).1 = .error failure ∨
        ∃ a e₁, x.on e = (.ok a, e₁) ∧ ((f a).on e₁).1 = .error failure := by
  rw [on_bind]
  cases hx : x.on e with
  | mk result e₁ =>
      cases result with
      | error failure => simp
      | ok a =>
          refine ⟨fun h => .inr ⟨a, e₁, rfl, h⟩, ?_⟩
          rintro (h | ⟨_, _, hfirst, h⟩)
          · cases h
          · cases hfirst
            exact h

theorem on_bind_none (x : Action α) (e : Engine) :
    (do let _ ← x; return none : Action (Option β)).on e =
      ((x.on e).1.map fun _ => none, (x.on e).2) := by
  rw [on_bind]
  cases x.on e with
  | mk result e' => cases result <;> rfl

theorem on_instance (id : Nat) (e : Engine) :
    («instance» id).on e =
      match e.instance? id with
      | some i => (.ok i, e)
      | none => (.error (.fault (.unknownInstance id)), e) := by
  rw [«instance», on_bind_of_ok (on_get e)]
  cases e.instance? id <;> rfl

theorem on_instance_of_some {id : Nat} {i : Instance} (h : e.instance? id = some i) :
    («instance» id).on e = (.ok i, e) := by
  rw [on_instance, h]

variable (m) in
def Works (own : Option Nat) (x : Action α) : Prop :=
  ∀ e : Engine, e.Sound → e.Work m own (x.on e).2

variable (m) in
/-- Whatever the action does is of no interest to instances. -/
def Aside (x : Action α) : Prop := ∀ e : Engine, e.Alike (x.on e).2

namespace Works

variable {own : Option Nat}

theorem of_aside {x : Action α} (h : x.Aside) : x.Works m own := fun e he => .of_alike he (h e)

protected theorem pure (a : α) : (pure a : Action α).Works m own :=
  of_aside fun _ => ⟨rfl, rfl, rfl, rfl⟩

protected theorem bind {x : Action α} {f : α → Action β} (hx : x.Works m own)
    (hf : ∀ a, (f a).Works m own) : (x >>= f).Works m own := by
  intro e he
  have hfirst := hx e he
  rw [on_bind]
  cases hrun : x.on e with
  | mk result e' =>
      rw [hrun] at hfirst
      cases result with
      | ok a => exact hfirst.trans (hf a e' hfirst.sound)
      | error failure => exact hfirst

theorem weaken {x : Action α} (h : x.Works m none) (own : Option Nat) : x.Works m own :=
  fun e he => (h e he).weaken own

end Works

end Action

end Stencil
