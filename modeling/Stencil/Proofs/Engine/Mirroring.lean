import Stencil.Proofs.Engine.Rendering
import Stencil.Proofs.Template.Renumbering
import Stencil.Proofs.Value.Region

/-!
# Engines in step

Two engines with the same templates, none of which mentions the host, render alike if what they have
matches. Instances stand for each other by their numbers; what an instance has captured, who owns it
and what the logs say does not matter.
-/

namespace Stencil

open Template (Compiled Failure Segment)

def Sources.Plain (sources : Sources) (settings : Settings) : Prop :=
  ∀ name source, sources.find? name = .ok (some source) →
    (Template.extract settings.trimLines source).segments.all Segment.isPlain = true

theorem Sources.plain_table {entries : List (Text × Text)} {settings : Settings}
    (h : entries.all (fun (_, source) =>
      (Template.extract settings.trimLines source).segments.all Segment.isPlain) = true) :
    (Sources.table entries).Plain settings := by
  intro name source hsource
  exact List.all_eq_true.mp h (name, source) (mem_of_find? hsource)

/-- What two engines have in common, which instances of one stand for which instances of the other,
and which objects and expressions do. -/
structure Pairing extends Matching where
  settings : Settings
  sources : Sources
  plain : sources.Plain settings
  ids : Nat → Nat → Prop
  ids_biUnique : Relator.BiUnique ids

def Pairing.add (π : Pairing) (id id' : Nat)
    (hnew : ∀ k k', π.ids k k' → k ≠ id ∧ k' ≠ id') : Pairing :=
  { π with
    ids := fun k k' => π.ids k k' ∨ k = id ∧ k' = id'
    ids_biUnique := by
      constructor
      · rintro a b c (ha | ⟨rfl, rfl⟩) (hb | ⟨rfl, hc⟩)
        · exact π.ids_biUnique.1 ha hb
        · exact absurd hc (hnew _ _ ha).2
        · exact absurd rfl (hnew _ _ hb).2
        · rfl
      · rintro a b c (ha | ⟨rfl, rfl⟩) (hb | ⟨hc, rfl⟩)
        · exact π.ids_biUnique.2 ha hb
        · exact absurd hc (hnew _ _ ha).1
        · exact absurd rfl (hnew _ _ hb).1
        · rfl }

structure Instance.Matches (μ : Matching) (i i' : Instance) : Prop where
  name : i.name = i'.name
  renderer : Option.Rel (Compiled.Matches μ) i.renderer i'.renderer
  scope : μ.rel .mapping i.scope i'.scope

namespace Engine

def Hosts (e : Engine) (id : Nat) (i : Instance) : Prop :=
  e.instance? id = some i ∧ (e.instance? i.owner).isSome = true

structure Matches (π : Pairing) (e e' : Engine) : Prop where
  sound : e.Sound
  sound' : e'.Sound
  settings : e.settings = π.settings
  settings' : e'.settings = π.settings
  sources : e.sources = π.sources
  sources' : e'.sources = π.sources
  globals : ∀ n, n ≠ hostName →
    Option.Rel (Value.Matches π.toMatching) (e.globals.get? n) (e'.globals.get? n)
  codes : ∀ k, π.code (e.codes + k) (e'.codes + k)
  heap : e.heap.Matches π.toMatching e'.heap
  instances : ∀ id id', π.ids id id' → ∃ i i', e.Hosts id i ∧ e'.Hosts id' i' ∧
    i.Matches π.toMatching i'

variable {π : Pairing} {e e' : Engine} {id id' : Nat}

/-! ## Changes -/

section

variable {i : Instance}

theorem Hosts.congr (h : e.Hosts id i) (hinstances : e'.instances = e.instances) :
    e'.Hosts id i := by
  unfold Hosts
  rw [instance?_congr hinstances, instance?_congr hinstances]
  exact h

theorem Hosts.update {k : Nat} (h : e.Hosts id i) (he : e.Sound) {f : Instance → Instance}
    (howner : ∀ i, e.instance? k = some i → (e.instance? (f i).owner).isSome = true) :
    (e.update k f).Hosts id (if id = k then f i else i) := by
  obtain ⟨hi, hhost⟩ := h
  unfold Hosts
  simp only [instance?_update, hi, Option.map_some, he.id_of_instance? hi, Option.isSome_map,
    true_and]
  split_ifs with hid
  · exact howner i (hid ▸ hi)
  · exact hhost

theorem Hosts.le (h : e.Hosts id i) : id ≤ e.instances.length := by
  obtain ⟨hpos, hget⟩ := instance?_eq_some_iff.mp h.1
  have hlt := (List.getElem?_eq_some_iff.mp hget).1
  omega

theorem Opens.instance?_of_some {j : Instance} (h : e.Opens i e') (hj : e.instance? id = some j) :
    e'.instance? id = some j := by
  obtain ⟨hpos, hget⟩ := instance?_eq_some_iff.mp hj
  refine instance?_eq_some_iff.mpr ⟨hpos, ?_⟩
  rw [h.instances, List.getElem?_append_left (List.getElem?_eq_some_iff.mp hget).1, hget]

theorem Hosts.opens {j : Instance} (h : e.Hosts id j) (hopens : e.Opens i e') : e'.Hosts id j := by
  obtain ⟨host, hhost⟩ := Option.isSome_iff_exists.mp h.2
  exact ⟨hopens.instance?_of_some h.1, by rw [hopens.instance?_of_some hhost]; rfl⟩

end

theorem Matches.transfer (h : e.Matches π e') {f f' : Engine} (hsound : f.Sound)
    (hsound' : f'.Sound) (hinstances : f.instances = e.instances)
    (hinstances' : f'.instances = e'.instances) (hsettings : f.settings = e.settings)
    (hsettings' : f'.settings = e'.settings) (hsources : f.sources = e.sources)
    (hsources' : f'.sources = e'.sources) (hglobals : f.globals = e.globals)
    (hglobals' : f'.globals = e'.globals) (hcodes : ∀ k, π.code (f.codes + k) (f'.codes + k))
    (hheap : f.heap.Matches π.toMatching f'.heap) : f.Matches π f' where
  sound := hsound
  sound' := hsound'
  settings := hsettings.trans h.settings
  settings' := hsettings'.trans h.settings'
  sources := hsources.trans h.sources
  sources' := hsources'.trans h.sources'
  globals := by
    rw [hglobals, hglobals']
    exact h.globals
  codes := hcodes
  heap := hheap
  instances id id' hid :=
    let ⟨i, i', hi, hi', hmatches⟩ := h.instances id id' hid
    ⟨i, i', hi.congr hinstances, hi'.congr hinstances', hmatches⟩

theorem Matches.withHeap (h : e.Matches π e') {g g' : Heap} (hg : g.Matches π.toMatching g') :
    { e with heap := g }.Matches π { e' with heap := g' } :=
  h.transfer (h.sound.of_alike (e.alike_heap g)) (h.sound'.of_alike (e'.alike_heap g')) rfl rfl rfl
    rfl rfl rfl rfl rfl h.codes hg

theorem Matches.withScope (h : e.Matches π e') {args args' : Entries}
    (hargs : List.Forall₂ (EntryMatches π.toMatching) args args') :
    (e.withScope args).Matches π (e'.withScope args') :=
  have hscope : Mapping.Matches π.toMatching ⟨true, args⟩ ⟨true, args'⟩ := ⟨rfl, hargs⟩
  h.withHeap (h.heap.newMapping hscope).2

theorem Sound.dispose (he : e.Sound) (id : Nat) : (e.dispose id).Sound :=
  ⟨he.numbered, he.distinct, fun k hk => he.registered k (List.mem_of_mem_erase hk),
    he.sorted.sublist List.erase_sublist⟩

theorem Matches.dispose (h : e.Matches π e') (id id' : Nat) :
    (e.dispose id).Matches π (e'.dispose id') :=
  h.transfer (h.sound.dispose id) (h.sound'.dispose id') rfl rfl rfl rfl rfl rfl rfl rfl h.codes
    h.heap

theorem Matches.update (h : e.Matches π e') (hid : π.ids id id') {f f' : Instance → Instance}
    (hf : ∀ i : Instance, i.SameTable (f i)) (hf' : ∀ i : Instance, i.SameTable (f' i))
    (hmatches : ∀ i i', i.Matches π.toMatching i' → (f i).Matches π.toMatching (f' i')) :
    (e.update id f).Matches π (e'.update id' f') where
  sound := h.sound.update_sameTable hf
  sound' := h.sound'.update_sameTable hf'
  settings := h.settings
  settings' := h.settings'
  sources := h.sources
  sources' := h.sources'
  globals := h.globals
  codes := h.codes
  heap := h.heap
  instances k k' hk := by
    obtain ⟨j, j', hj, hj', hold⟩ := h.instances k k' hk
    obtain ⟨i, i', hi, hi', -⟩ := h.instances id id' hid
    have howner {e : Engine} {id : Nat} {i : Instance} {f : Instance → Instance}
        (hi : e.Hosts id i) (hf : ∀ i : Instance, i.SameTable (f i)) :
        ∀ i, e.instance? id = some i → (e.instance? (f i).owner).isSome = true := by
      rintro _ hsome
      cases hi.1.symm.trans hsome
      rw [(hf i).owner]
      exact hi.2
    refine ⟨_, _, hj.update h.sound (howner hi hf), hj'.update h.sound' (howner hi' hf'), ?_⟩
    have hiff : k = id ↔ k' = id' := Relator.rel_eq π.ids_biUnique hk hid
    by_cases heq : k = id
    · rw [if_pos heq, if_pos (hiff.mp heq)]
      exact hmatches j j' hold
    · rw [if_neg heq, if_neg (mt hiff.mpr heq)]
      exact hold

theorem Matches.ids_ne (h : e.Matches π e') {f f' : Engine} {i i' : Instance}
    (hopens : e.Opens i f) (hopens' : e'.Opens i' f') (k k' : Nat) (hk : π.ids k k') :
    k ≠ i.id ∧ k' ≠ i'.id := by
  obtain ⟨j, j', hj, hj', -⟩ := h.instances k k' hk
  have hle := hj.le
  have hle' := hj'.le
  have hid := hopens.id
  have hid' := hopens'.id
  omega

theorem Matches.opens (h : e.Matches π e') {f f' : Engine} {i i' : Instance}
    (hopens : e.Opens i f) (hopens' : e'.Opens i' f') (hname : i.name = i'.name)
    (howner : (f.instance? i.owner).isSome = true)
    (howner' : (f'.instance? i'.owner).isSome = true) :
    f.Matches (π.add i.id i'.id (h.ids_ne hopens hopens')) f' where
  sound := hopens.sound h.sound
  sound' := hopens'.sound h.sound'
  settings := hopens.settings.trans h.settings
  settings' := hopens'.settings.trans h.settings'
  sources := hopens.sources.trans h.sources
  sources' := hopens'.sources.trans h.sources'
  globals := by
    rw [hopens.globals, hopens'.globals]
    exact h.globals
  codes := by
    rw [hopens.codes, hopens'.codes]
    exact h.codes
  heap := by
    rw [hopens.heap, hopens'.heap]
    exact (h.withScope .nil).heap
  instances k k' hk := by
    rcases hk with hk | ⟨rfl, rfl⟩
    · obtain ⟨j, j', hj, hj', hmatches⟩ := h.instances k k' hk
      exact ⟨j, j', hj.opens hopens, hj'.opens hopens', hmatches⟩
    · refine ⟨i, i', ⟨hopens.instance?, howner⟩, ⟨hopens'.instance?, howner'⟩, hname, ?_, ?_⟩
      · rw [hopens.renderer, hopens'.renderer]
        exact .none
      · rw [hopens.scope, hopens'.scope]
        exact h.heap.new .mapping

theorem Matches.forget {hnew : ∀ k k', π.ids k k' → k ≠ id ∧ k' ≠ id'}
    (h : e.Matches (π.add id id' hnew) e') : e.Matches π e' where
  sound := h.sound
  sound' := h.sound'
  settings := h.settings
  settings' := h.settings'
  sources := h.sources
  sources' := h.sources'
  globals := h.globals
  codes := h.codes
  heap := h.heap
  instances k k' hk := h.instances k k' (.inl hk)

end Engine

/-! ## Regions of what templates can get at -/

/-- The arguments lie in the region, and so does what is global, apart from the host. -/
structure Region.Covers (r : Region) (e : Engine) (args : Entries) : Prop where
  closed : r.Closed e.heap
  codes : ∀ k, r.code k → k < e.codes
  globals : ∀ n v, n ≠ hostName → e.globals.get? n = some v → r.Holds v
  args : List.Forall₂ (EntryMatches r.diagonal) args args

def Region.Beside.pairing {r : Region} {h h' : Heap} {own : Nat → Nat → Prop}
    (b : r.Beside h h' own) {e : Engine} (hplain : e.sources.Plain e.settings)
    (self : Option Nat) : Pairing where
  toMatching := b.matching
  settings := e.settings
  sources := e.sources
  plain := hplain
  ids k k' := self = some k ∧ self = some k'
  ids_biUnique :=
    ⟨fun _ _ _ hk hk' => Option.some.inj (hk.1.symm.trans hk'.1),
      fun _ _ _ hk hk' => Option.some.inj (hk.2.symm.trans hk'.2)⟩

namespace Region.Covers

variable {r : Region} {e f : Engine} {args : Entries}

theorem of_unchanged (hr : r.Covers e args) (hclosed : r.Closed f.heap)
    (hcodes : e.codes ≤ f.codes) (hglobals : f.globals = e.globals) : r.Covers f args where
  closed := hclosed
  codes k hk := Nat.lt_of_lt_of_le (hr.codes k hk) hcodes
  globals := hglobals ▸ hr.globals
  args := hr.args

theorem add (hr : r.Covers e args) {scope : Nat}
    (hscope : e.heap.mappings[scope]? = some ⟨true, args⟩) : (r.add scope).Covers e args where
  closed := hr.closed.add ⟨rfl, hr.args⟩ hscope
  codes := hr.codes
  globals n v hn hv := (hr.globals n v hn hv).chain (r.chain_add scope) (hr.globals n v hn hv)
  args := hr.args.chain (fun _ _ _ hp hq => hp.chain (r.chain_add scope) hq) hr.args

theorem beside (hr : r.Covers e args) (hagree : f.heap.ContentsMatch r.diagonal e.heap)
    (hlt : ∀ kind a, r.has kind a → a < f.heap.next kind) (hcodes : e.codes ≤ f.codes) :
    r.Beside f.heap e.heap (Shifted (fun _ => True) f.codes e.codes) where
  agree := hagree
  lt := hlt
  closed := hr.closed
  own_biUnique := biUnique_shifted _ _ _
  own_apart := by
    rintro _ _ ⟨j, -, rfl, rfl⟩
    exact ⟨fun hc => absurd (hr.codes _ hc) (by omega), fun hc => absurd (hr.codes _ hc) (by omega)⟩

section

variable {own : Nat → Nat → Prop} {h h' : Heap} (hr : r.Covers e args) (b : r.Beside h h' own)
include hr

theorem matches_args : List.Forall₂ (EntryMatches b.matching) args args :=
  hr.args.chain (fun _ _ _ hp hq => hp.chain b.chain_diagonal hq) hr.args

theorem matches_globals (n : Text) (hn : n ≠ hostName) :
    Option.Rel (Value.Matches b.matching) (e.globals.get? n) (e.globals.get? n) := by
  cases hv : e.globals.get? n with
  | none => exact .none
  | some v => exact .some (b.value_matches (hr.globals n v hn hv))

end

theorem matches_engine (hr : r.Covers e args)
    (b : r.Beside f.heap e.heap (Shifted (fun _ => True) f.codes e.codes))
    (hplain : e.sources.Plain e.settings) (self : Option Nat) (hf : f.Sound) (he : e.Sound)
    (hsettings : f.settings = e.settings) (hsources : f.sources = e.sources)
    (hglobals : f.globals = e.globals)
    (hself : ∀ id, self = some id → ∃ i i', f.Hosts id i ∧ e.Hosts id i' ∧
      i.Matches b.matching i') :
    f.Matches (b.pairing hplain self) e where
  sound := hf
  sound' := he
  settings := hsettings
  settings' := rfl
  sources := hsources
  sources' := rfl
  globals := hglobals ▸ hr.matches_globals b
  codes k := .inr ⟨k, trivial, rfl, rfl⟩
  heap := b.heap_matches
  instances := by
    rintro id id' ⟨hid, hid'⟩
    cases hid.symm.trans hid'
    exact hself id hid

end Region.Covers

/-! ## Actions -/

namespace Action

variable {α β γ δ : Type} {π : Pairing} {R : α → β → Prop} {S : γ → δ → Prop}

/-- On engines that match, the actions give results that match and leave engines that match. -/
def Mirrors (π : Pairing) (R : α → β → Prop) (x : Action α) (y : Action β) : Prop :=
  ∀ e e' : Engine, e.Matches π e' →
    ResultsMatch R (x.on e).1 (y.on e').1 ∧ (x.on e).2.Matches π (y.on e').2

namespace Mirrors

variable {x : Action α} {y : Action β}

protected theorem pure {a : α} {b : β} (h : R a b) :
    Mirrors π R (pure a : Action α) (pure b : Action β) :=
  fun _ _ he => ⟨.ok h, he⟩

protected theorem throw (failure : Failure) :
    Mirrors π R (throw failure : Action α) (throw failure : Action β) :=
  fun _ _ he => ⟨.error failure, he⟩

protected theorem bind {f : α → Action γ} {g : β → Action δ} (h : Mirrors π R x y)
    (hfg : ∀ a b, R a b → Mirrors π S (f a) (g b)) : Mirrors π S (x >>= f) (y >>= g) := by
  intro e e' he
  obtain ⟨hr, hm⟩ := h e e' he
  rw [on_bind, on_bind]
  cases hx : x.on e with
  | mk r e₁ =>
    cases hy : y.on e' with
    | mk r' e₁' =>
      rw [hx, hy] at hr hm
      cases hr with
      | ok hab => exact hfg _ _ hab _ _ hm
      | error failure => exact ⟨.error failure, hm⟩

protected theorem bind_eq {x y : Action α} {f : α → Action γ} {g : α → Action δ}
    (h : Mirrors π Eq x y) (hfg : ∀ a, Mirrors π S (f a) (g a)) :
    Mirrors π S (x >>= f) (y >>= g) :=
  h.bind fun a _ hab => hab ▸ hfg a

protected theorem ofExcept (r : Except Fault α) :
    Mirrors π Eq (ofExcept r) (ofExcept r) := by
  cases r with
  | ok a => exact .pure rfl
  | error f => exact .throw _

protected theorem get : Mirrors π (Engine.Matches π) get get := fun _ _ he => ⟨.ok he, he⟩

protected theorem note (parts parts' : List Text) : Mirrors π Eq (note parts) (note parts') :=
  fun _ _ he => ⟨.ok rfl, he.transfer (he.sound.of_alike ⟨rfl, rfl, rfl, rfl⟩)
    (he.sound'.of_alike ⟨rfl, rfl, rfl, rfl⟩) rfl rfl rfl rfl rfl rfl rfl rfl he.codes he.heap⟩

protected theorem mapping {a b : Nat} (hab : π.rel .mapping a b) :
    Mirrors π (List.Forall₂ (EntryMatches π.toMatching)) (mapping a) (mapping b) :=
  Mirrors.get.bind fun _ _ he => .pure (he.heap.mapping hab).entries

protected theorem newScope {args args' : Entries}
    (hargs : List.Forall₂ (EntryMatches π.toMatching) args args') :
    Mirrors π (π.rel .mapping) (newScope args) (newScope args') :=
  fun _ _ he => ⟨.ok (he.heap.new .mapping), he.withScope hargs⟩

protected theorem reader : Mirrors π Eq reader reader :=
  Mirrors.get.bind fun _ _ he => .pure (by rw [he.settings, he.settings'])

protected theorem loadSource (name : Text) :
    Mirrors π (fun s t => s = t ∧ π.sources.find? name = .ok (some t))
      (loadSource name) (loadSource name) := by
  refine Mirrors.get.bind fun _ _ he => ?_
  rw [he.sources, he.sources']
  cases π.sources.find? name with
  | error f => exact .throw _
  | ok found =>
    cases found with
    | some text => exact .pure ⟨rfl, rfl⟩
    | none =>
      simp only [ofExcept, pure_bind]
      refine Mirrors.get.bind fun _ _ he => ?_
      rw [he.sources, he.sources']
      cases π.sources with
      | library l => exact (Mirrors.note _ _).bind_eq fun _ => .throw _
      | table entries => exact .throw _

section

variable {id id' : Nat} (hid : π.ids id id')
include hid

protected theorem «instance» :
    Mirrors π (Instance.Matches π.toMatching) («instance» id) («instance» id') := by
  intro e e' he
  obtain ⟨i, i', hi, hi', hmatches⟩ := he.instances id id' hid
  rw [on_instance_of_some hi.1, on_instance_of_some hi'.1]
  exact ⟨.ok hmatches, he⟩

protected theorem update {f f' : Instance → Instance} (hf : ∀ i : Instance, i.SameTable (f i))
    (hf' : ∀ i : Instance, i.SameTable (f' i))
    (hmatches : ∀ i i', i.Matches π.toMatching i' → (f i).Matches π.toMatching (f' i')) :
    Mirrors π Eq (update id f) (update id' f') :=
  fun _ _ he => ⟨.ok rfl, he.update hid hf hf' hmatches⟩

end

/-! ## Compiling -/

protected theorem build (name : Text) {program : Template.Program}
    (hplain : program.all Template.Instruction.isPlain = true) :
    Mirrors π (Compiled.Matches π.toMatching) (build name program) (build name program) := by
  intro e e' he
  have hcompile (k : Nat) := Template.compile_add name k 0 program
  simp only [Nat.add_zero] at hcompile
  rw [build, on_bind_of_ok (on_get e), on_bind_of_ok (on_get e'), hcompile e.codes,
    hcompile e'.codes]
  cases hzero : Template.compile name 0 program with
  | error failure => exact ⟨.error failure, he⟩
  | ok result =>
    obtain ⟨compiled, next⟩ := result
    refine ⟨.ok (Template.shift_matches hplain hzero fun c _ => he.codes c), ?_⟩
    refine he.transfer (he.sound.of_alike ⟨rfl, rfl, rfl, rfl⟩)
      (he.sound'.of_alike ⟨rfl, rfl, rfl, rfl⟩) rfl rfl rfl rfl rfl rfl rfl rfl (fun k => ?_)
      he.heap
    have hk := he.codes (next + k)
    rwa [← Nat.add_assoc, ← Nat.add_assoc] at hk

section

variable {id id' : Nat} (hid : π.ids id id')
include hid

protected theorem bindScope {args args' : Entries}
    (hargs : List.Forall₂ (EntryMatches π.toMatching) args args') :
    Mirrors π (π.rel .mapping) (bindScope id args) (bindScope id' args') :=
  .bind (.newScope hargs) fun _ _ hscope =>
    .bind_eq (.update hid (fun _ => ⟨rfl, rfl, rfl, rfl⟩) (fun _ => ⟨rfl, rfl, rfl, rfl⟩)
      fun _ _ hi => ⟨hi.name, hi.renderer, hscope⟩) fun _ => .pure hscope

protected theorem takeApart :
    Mirrors π (fun p q => p.1.Matches π.toMatching q.1 ∧ p.2 = q.2 ∧
        q.2.segments.all Segment.isPlain = true)
      (takeApart id) (takeApart id') := by
  refine (Mirrors.instance hid).bind fun i i' hi => ?_
  rw [hi.name]
  refine (Mirrors.loadSource i'.name).bind fun source _ hsource => ?_
  obtain ⟨rfl, hfound⟩ := hsource
  refine Mirrors.get.bind fun e e' he => ?_
  rw [he.settings, he.settings']
  exact .bind_eq (.update hid (fun _ => ⟨rfl, rfl, rfl, rfl⟩) (fun _ => ⟨rfl, rfl, rfl, rfl⟩)
    fun _ _ hi => ⟨hi.name, hi.renderer, hi.scope⟩) fun _ =>
      .bind_eq .reader fun _ => .bind_eq (.ofExcept _) fun _ =>
        .bind_eq (.update hid (fun _ => ⟨rfl, rfl, rfl, rfl⟩) (fun _ => ⟨rfl, rfl, rfl, rfl⟩)
          fun _ _ hi => ⟨hi.name, hi.renderer, hi.scope⟩) fun _ =>
            .pure ⟨hi, rfl, π.plain _ _ hfound⟩

protected theorem equip (name : Text) (spans : Nat) {program : Template.Program}
    (hplain : program.all Template.Instruction.isPlain = true) :
    Mirrors π (Compiled.Matches π.toMatching) (equip id name spans program)
      (equip id' name spans program) :=
  .bind (.build name hplain) fun _ _ hcompiled =>
    .bind_eq (.update hid (fun _ => ⟨rfl, rfl, rfl, rfl⟩) (fun _ => ⟨rfl, rfl, rfl, rfl⟩)
      fun _ _ hi => ⟨hi.name, .some hcompiled, hi.scope⟩) fun _ =>
        .bind_eq (.note _ _) fun _ => .pure hcompiled

end

protected theorem generate {handler handler' : Text → Action Text}
    (hmarkup : ∀ name, Mirrors π Eq (handler name) (handler' name)) {segments : List Segment}
    (hplain : segments.all Segment.isPlain = true) :
    Mirrors π (fun p q => p = q ∧ q.all Template.Instruction.isPlain = true)
      (Template.generate (m := Action) (some handler) segments)
      (Template.generate (m := Action) (some handler') segments) := by
  induction segments with
  | nil => exact .pure ⟨rfl, rfl⟩
  | cons segment more ih =>
    rw [List.all_cons, Bool.and_eq_true] at hplain
    have hfirst : Mirrors π (fun p q => p = q ∧ q.all Template.Instruction.isPlain = true)
        (segment.generate (m := Action) (some handler))
        (segment.generate (m := Action) (some handler')) := by
      cases segment with
      | chunk text position => exact .pure ⟨rfl, rfl⟩
      | span s =>
        cases hclassify : s.classify with
        | «include» name =>
          rw [Template.Segment.generate_span_include hclassify,
            Template.Segment.generate_span_include hclassify]
          exact (hmarkup name).bind_eq fun _ => .pure ⟨rfl, rfl⟩
        | _ =>
          have hinclude : s.classify.isInclude = false := by rw [hclassify]; rfl
          rw [Template.Segment.generate_span hinclude, Template.Segment.generate_span hinclude]
          exact .pure ⟨rfl, hplain.1⟩
    refine hfirst.bind fun p q hpq => (ih hplain.2).bind fun p' q' hpq' => .pure ?_
    obtain ⟨rfl, hp⟩ := hpq
    obtain ⟨rfl, hp'⟩ := hpq'
    exact ⟨rfl, by rw [List.all_append, hp, hp', Bool.and_true]⟩

/-! ## Running -/

variable {fuel steps : Nat}

theorem runProgram_eq {μ : Matching} (nested nested' : Nested) {e e' : Engine}
    {owner owner' scope scope' : Nat} (howner : (e.instance? owner).isSome = true)
    (howner' : (e'.instance? owner').isSome = true) (hscope : μ.rel .mapping scope scope')
    {compiled compiled' : Compiled} (hcompiled : compiled.Matches μ compiled')
    (hglobals : ∀ n, n ≠ hostName →
      Option.Rel (Value.Matches μ) (e.globals.get? n) (e'.globals.get? n))
    (hheap : e.heap.Matches μ e'.heap) :
    ∃ result g g', (runProgram ⟨.standard fuel, steps⟩ nested owner scope compiled).on e =
        (result, { e with heap := g }) ∧
      (runProgram ⟨.standard fuel, steps⟩ nested' owner' scope' compiled').on e' =
        (result, { e' with heap := g' }) ∧ g.Matches μ g' := by
  obtain ⟨host, hhost⟩ := Option.isSome_iff_exists.mp howner
  obtain ⟨host', hhost'⟩ := Option.isSome_iff_exists.mp howner'
  have hsettings : μ.rel .mapping (Template.Setting.mk (.template owner host.name) scope).scope
      (Template.Setting.mk (.template owner' host'.name) scope').scope := hscope
  obtain ⟨result, memory, memory', hrun, hrun', hmemory⟩ :=
    Template.run_done hcompiled hsettings fuel steps hglobals hheap
  refine ⟨result, memory.heap, memory'.heap, ?_, ?_, hmemory⟩
  · rw [runProgram, on_bind_of_ok (on_instance_of_some hhost), on_bind_of_ok (on_get e), hrun,
      on_converse]
    rfl
  · rw [runProgram, on_bind_of_ok (on_instance_of_some hhost'), on_bind_of_ok (on_get e'), hrun',
      on_converse]
    rfl

protected theorem runProgram (nested nested' : Nested) {id id' : Nat} (hid : π.ids id id')
    {scope scope' : Nat} (hscope : π.rel .mapping scope scope') {compiled compiled' : Compiled}
    (hcompiled : compiled.Matches π.toMatching compiled') :
    Mirrors π Eq
      (do runProgram ⟨.standard fuel, steps⟩ nested (← «instance» id).owner scope compiled)
      (do
        let i ← «instance» id'
        runProgram ⟨.standard fuel, steps⟩ nested' i.owner scope' compiled') := by
  intro e e' he
  obtain ⟨i, i', ⟨hi, howner⟩, ⟨hi', howner'⟩, -⟩ := he.instances id id' hid
  rw [on_bind_of_ok (on_instance_of_some hi), on_bind_of_ok (on_instance_of_some hi')]
  obtain ⟨result, g, g', hrun, hrun', hg⟩ :=
    runProgram_eq nested nested' howner howner' hscope hcompiled he.globals he.heap
  rw [hrun, hrun']
  refine ⟨?_, he.withHeap hg⟩
  cases result with
  | ok t => exact .ok rfl
  | error failure => exact .error failure

end Mirrors

/-! ## Rendering -/

/-- Instances that stand for each other are rendered alike one level deeper. -/
def InStep (nested nested' : Nested) : Prop :=
  ∀ (π : Pairing) (id id' : Nat) (args args' : Entries), π.ids id id' →
    List.Forall₂ (EntryMatches π.toMatching) args args' →
    Mirrors π Eq (nested id args) (nested' id' args')

namespace InStep

variable {nested nested' : Nested} (hn : InStep nested nested')
include hn

theorem opened {e e' f f' : Engine} (he : e.Matches π e') {i i' : Instance}
    (hopens : e.Opens i f) (hopens' : e'.Opens i' f') (hname : i.name = i'.name)
    (howner : (f.instance? i.owner).isSome = true)
    (howner' : (f'.instance? i'.owner).isSome = true) {args args' : Entries}
    (hargs : List.Forall₂ (EntryMatches π.toMatching) args args') :
    ResultsMatch Eq (((nested i.id args).andFinally (Engine.dispose i.id)).on f).1
        (((nested' i'.id args').andFinally (Engine.dispose i'.id)).on f').1 ∧
      (((nested i.id args).andFinally (Engine.dispose i.id)).on f).2.Matches π
        (((nested' i'.id args').andFinally (Engine.dispose i'.id)).on f').2 := by
  have hf := he.opens hopens hopens' hname howner howner'
  obtain ⟨hresults, hengines⟩ := hn (π.add i.id i'.id (he.ids_ne hopens hopens')) i.id i'.id
    args args' (.inr ⟨rfl, rfl⟩) hargs f f' hf
  exact ⟨hresults, hengines.forget.dispose _ _⟩

theorem includeMarkup {id id' : Nat} (hid : π.ids id id') {scope scope' : Nat}
    (hscope : π.rel .mapping scope scope') (name : Text) :
    Mirrors π Eq (includeMarkup nested id scope name) (includeMarkup nested' id' scope' name) := by
  refine .bind_eq (.note _ _) fun _ => .bind (.mapping hscope) fun args args' hargs => ?_
  intro e e' he
  obtain ⟨i, i', ⟨hi, howner⟩, ⟨hi', howner'⟩, -⟩ := he.instances id id' hid
  rw [on_bind_of_ok (on_instance_of_some hi), on_bind_of_ok (on_instance_of_some hi')]
  obtain ⟨j, f, hopen, hopens, hname, hj⟩ := on_openInclude name (some i.owner) he.sound
  obtain ⟨j', f', hopen', hopens', hname', hj'⟩ := on_openInclude name (some i'.owner) he.sound'
  rw [renderInclude, renderInclude, on_bind_of_ok hopen, on_bind_of_ok hopen']
  have hkept {e f : Engine} {i j : Instance} (howner : (e.instance? i.owner).isSome = true)
      (hopens : e.Opens j f) (hj : j.owner = i.owner) : (f.instance? j.owner).isSome = true := by
    obtain ⟨host, hhost⟩ := Option.isSome_iff_exists.mp howner
    rw [hj, hopens.instance?_of_some hhost]
    rfl
  exact hn.opened he hopens hopens' (hname.trans hname'.symm) (hkept howner hopens hj)
    (hkept howner' hopens' hj') hargs

theorem compile {id id' : Nat} (hid : π.ids id id') :
    Mirrors π (Compiled.Matches π.toMatching) (compile nested id) (compile nested' id') := by
  refine .bind (.takeApart hid) fun p q hpq => ?_
  obtain ⟨i, extraction⟩ := p
  obtain ⟨i', extraction'⟩ := q
  obtain ⟨hi, rfl, hplain⟩ := hpq
  refine .bind (.generate (hn.includeMarkup hid hi.scope) hplain) fun program _ hprogram => ?_
  obtain ⟨rfl, hplain⟩ := hprogram
  rw [hi.name]
  exact .equip hid _ _ hplain

theorem ready {id id' : Nat} (hid : π.ids id id') :
    Mirrors π (Compiled.Matches π.toMatching) (ready nested id) (ready nested' id') := by
  refine .bind (.instance hid) fun i i' hi => ?_
  have hrenderer := hi.renderer
  generalize i.renderer = x at hrenderer ⊢
  generalize i'.renderer = y at hrenderer ⊢
  cases hrenderer with
  | some hcompiled => exact .pure hcompiled
  | none => exact hn.compile hid

end InStep

theorem inStep_render (fuel steps depth : Nat) :
    InStep (render ⟨.standard fuel, steps⟩ depth) (render ⟨.standard fuel, steps⟩ depth) := by
  induction depth with
  | zero => exact fun _ _ _ _ _ _ _ => .throw _
  | succ depth ih =>
    exact fun π id id' args args' hid hargs => .bind (.bindScope hid hargs) fun _ _ hscope =>
      .bind (ih.ready hid) fun _ _ hcompiled => .runProgram _ _ hid hscope hcompiled

end Action

end Stencil
