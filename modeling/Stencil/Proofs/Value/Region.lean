import Stencil.Proofs.Value.MatchingHeap

/-!
# Regions

A region is a part of a heap with nothing in it that leads out of it or to a host. What is in a
region stands for itself, and whatever else two heaps have that agree on it, they match.
-/

namespace Stencil

variable {μ ν ρ : Matching}

/-! ## One matching behind another -/

/-- What stands for something by one matching, which stands for something else by another, stands
for that by a third. -/
structure Matching.Chain (μ ν ρ : Matching) : Prop where
  rel : ∀ kind a b c, μ.rel kind a b → ν.rel kind b c → ρ.rel kind a c
  code : ∀ c d e, μ.code c d → ν.code d e → ρ.code c e

theorem Identity.Matches.chain (h : Matching.Chain μ ν ρ) {i j k : Identity}
    (hij : i.Matches μ j) (hjk : j.Matches ν k) : i.Matches ρ k := by
  cases hij with
  | shared =>
    cases hjk
    exact .shared
  | constant hcd =>
    cases hjk with
    | constant hde => exact .constant (h.code _ _ _ hcd hde)
  | made hst =>
    cases hjk with
    | made htu => exact .made (h.rel _ _ _ _ hst htu)

mutual

theorem Value.Matches.chain (h : Matching.Chain μ ν ρ) : {u v w : Value} → u.Matches μ v →
    v.Matches ν w → u.Matches ρ w
  | _, _, _, huv, hvw => by
    have hrel {kind : Kind} {a b c : Nat} := h.rel kind a b c
    cases huv with
    | tuple hvs hi =>
      cases hvw with
      | tuple hws hj => exact .tuple (Value.matches_chain h hvs hws) (hi.chain h hj)
    | method name hr hs =>
      cases hvw with
      | method _ hr' hs' => exact .method name (hr.chain h hr') (hrel hs hs')
    | int _ hi | float _ hi | str _ hi | range _ _ _ hi | date _ _ _ hi =>
      cases hvw
      constructor
      exact hi.chain h ‹_›
    | list hab | mapping hab | set hab | iterator hab | closure hab =>
      cases hvw
      constructor
      exact hrel hab ‹_›
    | view kind hab hs =>
      cases hvw with
      | view _ hbc hs' => exact .view kind (hrel hab hbc) (hrel hs hs')
    | _ =>
      cases hvw
      constructor

theorem Value.matches_chain (h : Matching.Chain μ ν ρ) : {us vs ws : List Value} →
    List.Forall₂ (Value.Matches μ) us vs → List.Forall₂ (Value.Matches ν) vs ws →
    List.Forall₂ (Value.Matches ρ) us ws
  | _, _, _, .nil, .nil => .nil
  | _, _, _, .cons huv hus, .cons hvw hvs => .cons (huv.chain h hvw) (matches_chain h hus hvs)

end

section

variable (h : Matching.Chain μ ν ρ)
include h

theorem EntryMatches.chain {p q r : Value × Value} (hpq : EntryMatches μ p q)
    (hqr : EntryMatches ν q r) : EntryMatches ρ p r :=
  ⟨hpq.1.chain h hqr.1, hpq.2.chain h hqr.2⟩

theorem NamedMatches.chain {p q r : Text × Value} (hpq : NamedMatches μ p q)
    (hqr : NamedMatches ν q r) : NamedMatches ρ p r :=
  ⟨hpq.1.trans hqr.1, hpq.2.chain h hqr.2⟩

theorem Mapping.Matches.chain {m n o : Mapping} (hmn : m.Matches μ n) (hno : n.Matches ν o) :
    m.Matches ρ o where
  isScope := hmn.isScope.trans hno.isScope
  entries := hmn.entries.chain (fun _ _ _ hpq hqr => hpq.chain h hqr) hno.entries

theorem Running.Matches.chain {r s t : Running} (hrs : r.Matches μ s) (hst : s.Matches ν t) :
    r.Matches ρ t where
  iterator := h.rel _ _ _ _ hrs.iterator hst.iterator
  locals := hrs.locals.chain (fun _ _ _ hpq hqr => hpq.chain h hqr) hst.locals

theorem Comprehension.Matches.chain {c d e : Comprehension} (hcd : c.Matches μ d)
    (hde : d.Matches ν e) : c.Matches ρ e where
  element := hcd.element.trans hde.element
  clauses := hcd.clauses.trans hde.clauses
  code := h.code _ _ _ hcd.code hde.code
  element_omits := hde.element_omits
  clauses_omit := hde.clauses_omit

theorem Iteration.Matches.chain {i j k : Iteration} (hij : i.Matches μ j) (hjk : j.Matches ν k) :
    i.Matches ρ k := by
  have hrel {kind : Kind} (a b c : Nat) := h.rel kind a b c
  cases hij with
  | items type hvs =>
    cases hjk with
    | items _ hws => exact .items type (Value.matches_chain h hvs hws)
  | zip hs =>
    cases hjk with
    | zip hs' => exact .zip (hs.chain hrel hs')
  | map hf hs =>
    cases hjk with
    | map hf' hs' => exact .map (hf.chain h hf') (hs.chain hrel hs')
  | filter hf hs =>
    cases hjk with
    | filter hf' hs' => exact .filter (hf.chain h hf') (hrel _ _ _ hs hs')
  | comprehension hc hs =>
    cases hjk with
    | comprehension hc' hs' =>
      exact .comprehension (hc.chain h hc') (hs.chain (fun _ _ _ hrs hst => hrs.chain h hst) hs')
  | done | range =>
    cases hjk
    constructor
  | list _ hab | listBackwards _ hab | mapping _ _ _ hab | mappingBackwards _ _ _ hab
    | set _ _ hab | enumerate _ hab =>
    cases hjk
    constructor
    exact hrel _ _ _ hab ‹_›

theorem Closure.Matches.chain {c d e : Closure} (hcd : c.Matches μ d) (hde : d.Matches ν e) :
    c.Matches ρ e where
  params := hcd.params.chain (fun _ _ _ hpq hqr => ⟨hpq.1.trans hqr.1,
    hpq.2.chain (fun _ _ _ hv hw => hv.chain h hw) hqr.2⟩) hde.params
  body := hcd.body.trans hde.body
  locals := hcd.locals.chain (fun _ _ _ hpq hqr => hpq.chain h hqr) hde.locals
  code := h.code _ _ _ hcd.code hde.code
  omits := hde.omits

end

theorem matches_chain_array (h : Matching.Chain μ ν ρ) {xs ys zs : Array Value}
    (hxy : ArraysRelated (Value.Matches μ) xs ys) (hyz : ArraysRelated (Value.Matches ν) ys zs) :
    ArraysRelated (Value.Matches ρ) xs zs :=
  Value.matches_chain h hxy hyz

/-! ## Numbers from two starts -/

def Shifted (has : Nat → Prop) (k l c d : Nat) : Prop := ∃ j, has j ∧ c = k + j ∧ d = l + j

theorem biUnique_shifted (has : Nat → Prop) (k l : Nat) : Relator.BiUnique (Shifted has k l) := by
  constructor
  · rintro c c' d ⟨j, -, rfl, rfl⟩ ⟨j', -, rfl, hd⟩
    omega
  · rintro c d d' ⟨j, -, rfl, rfl⟩ ⟨j', -, hc, rfl⟩
    omega

/-! ## Regions -/

/-- Some objects, by their kinds and numbers, and some expressions, by the numbers that their
constants carry. -/
structure Region where
  has : Kind → Nat → Prop
  code : Nat → Prop

namespace Region

/-- What is in the region stands for itself, and nothing else for anything. -/
def diagonal (r : Region) : Matching where
  rel kind a b := r.has kind a ∧ a = b
  code c d := r.code c ∧ c = d
  first _ := 0
  first' _ := 0
  aside _ := none
  biUnique _ := ⟨fun _ _ _ h h' => h.2.trans h'.2.symm, fun _ _ _ h h' => h.2.symm.trans h'.2⟩
  code_biUnique := ⟨fun _ _ _ h h' => h.2.trans h'.2.symm, fun _ _ _ h h' => h.2.symm.trans h'.2⟩

def Holds (r : Region) (v : Value) : Prop := v.Matches r.diagonal v

/-- The objects of the region are there, and so is in the region all that they hold. -/
structure Closed (r : Region) (h : Heap) : Prop where
  lt : ∀ kind a, r.has kind a → a < h.next kind
  contents : h.ContentsMatch r.diagonal h

/-- The objects of the region are what they were. -/
structure Unchanged (r : Region) (h g : Heap) : Prop where
  lists : ∀ a, r.has .list a → g.lists[a]? = h.lists[a]?
  mappings : ∀ a, r.has .mapping a → g.mappings[a]? = h.mappings[a]?
  sets : ∀ a, r.has .set a → g.sets[a]? = h.sets[a]?
  iterations : ∀ a, r.has .iterator a → g.iterations[a]? = h.iterations[a]?
  closures : ∀ a, r.has .closure a → g.closures[a]? = h.closures[a]?

section

variable {r : Region} {h h' g g' : Heap}

theorem Unchanged.refl (r : Region) (h : Heap) : r.Unchanged h h :=
  ⟨fun _ _ => rfl, fun _ _ => rfl, fun _ _ => rfl, fun _ _ => rfl, fun _ _ => rfl⟩

theorem Unchanged.trans (hg : r.Unchanged h g) (hg' : r.Unchanged g g') : r.Unchanged h g' where
  lists a ha := (hg'.lists a ha).trans (hg.lists a ha)
  mappings a ha := (hg'.mappings a ha).trans (hg.mappings a ha)
  sets a ha := (hg'.sets a ha).trans (hg.sets a ha)
  iterations a ha := (hg'.iterations a ha).trans (hg.iterations a ha)
  closures a ha := (hg'.closures a ha).trans (hg.closures a ha)

theorem Unchanged.symm (hg : r.Unchanged h g) : r.Unchanged g h where
  lists a ha := (hg.lists a ha).symm
  mappings a ha := (hg.mappings a ha).symm
  sets a ha := (hg.sets a ha).symm
  iterations a ha := (hg.iterations a ha).symm
  closures a ha := (hg.closures a ha).symm

theorem unchanged_newMapping (hlt : ∀ a, r.has .mapping a → a < h.mappings.size) (m : Mapping) :
    r.Unchanged h (h.newMapping m).2 where
  lists _ _ := rfl
  mappings a ha :=
    (Array.getElem?_push_lt (hlt a ha)).trans (Array.getElem?_eq_getElem (hlt a ha)).symm
  sets _ _ := rfl
  iterations _ _ := rfl
  closures _ _ := rfl

theorem stores_congr {α : Type} {R : α → α → Prop} {kind : Kind} {xs ys xs' ys' : Array α}
    (hxs : ∀ a, r.has kind a → xs'[a]? = xs[a]?) (hys : ∀ a, r.has kind a → ys'[a]? = ys[a]?)
    (h : StoresRelated (r.diagonal.rel kind) R xs ys) :
    StoresRelated (r.diagonal.rel kind) R xs' ys' := by
  rintro a _ ⟨ha, rfl⟩
  rw [hxs a ha, hys a ha]
  exact h a a ⟨ha, rfl⟩

theorem Unchanged.contentsMatch (hg : r.Unchanged h g) (hg' : r.Unchanged h' g')
    (hh : h.ContentsMatch r.diagonal h') : g.ContentsMatch r.diagonal g' where
  lists := stores_congr hg.lists hg'.lists hh.lists
  mappings := stores_congr hg.mappings hg'.mappings hh.mappings
  sets := stores_congr hg.sets hg'.sets hh.sets
  iterations := stores_congr hg.iterations hg'.iterations hh.iterations
  closures := stores_congr hg.closures hg'.closures hh.closures

theorem Closed.newMapping (hr : r.Closed h) (m : Mapping) : r.Closed (h.newMapping m).2 where
  lt kind a ha := by
    have hlt := hr.lt kind a ha
    cases kind <;> simp only [Heap.next, Heap.newMapping, Array.size_push] at hlt ⊢ <;> omega
  contents :=
    have hkept := unchanged_newMapping (hr.lt .mapping) m
    hkept.contentsMatch hkept hr.contents

def empty : Region := ⟨fun _ _ => False, fun _ => False⟩

theorem unchanged_empty (h g : Heap) : empty.Unchanged h g := ⟨nofun, nofun, nofun, nofun, nofun⟩

theorem closed_empty (h : Heap) : empty.Closed h := by
  have hnone {α : Type} {R : α → α → Prop} {kind : Kind} {xs : Array α} :
      StoresRelated (empty.diagonal.rel kind) R xs xs := fun _ _ hab => hab.1.elim
  exact ⟨nofun, hnone, hnone, hnone, hnone, hnone⟩

/-! ## One more mapping -/

/-- The region with one more mapping. -/
def add (r : Region) (scope : Nat) : Region :=
  { r with has kind a := r.has kind a ∨ kind = .mapping ∧ a = scope }

variable {scope : Nat}

theorem chain_add (r : Region) (scope : Nat) :
    Matching.Chain r.diagonal r.diagonal (r.add scope).diagonal where
  rel := by
    rintro kind a _ _ ⟨ha, rfl⟩ ⟨-, rfl⟩
    exact ⟨.inl ha, rfl⟩
  code := by
    rintro c _ _ ⟨hc, rfl⟩ ⟨-, rfl⟩
    exact ⟨hc, rfl⟩

theorem stores_add {α : Type} {R : Matching → α → α → Prop}
    (hchain : ∀ {μ ν ρ : Matching}, Matching.Chain μ ν ρ → ∀ x y z, R μ x y → R ν y z → R ρ x z)
    {kind : Kind} {xs ys : Array α}
    (hnew : kind = .mapping → Option.Rel (R (r.add scope).diagonal) xs[scope]? ys[scope]?)
    (hxy : StoresRelated (r.diagonal.rel kind) (R r.diagonal) xs ys)
    (hyy : StoresRelated (r.diagonal.rel kind) (R r.diagonal) ys ys) :
    StoresRelated ((r.add scope).diagonal.rel kind) (R (r.add scope).diagonal) xs ys := by
  rintro a _ ⟨ha | ⟨hkind, rfl⟩, rfl⟩
  · exact (hxy a a ⟨ha, rfl⟩).chain (hchain (r.chain_add scope)) (hyy a a ⟨ha, rfl⟩)
  · exact hnew hkind

theorem contentsMatch_add (hh : h.ContentsMatch r.diagonal h')
    (hh' : h'.ContentsMatch r.diagonal h') {m : Mapping} (hm : m.Matches r.diagonal m)
    (hscope : h.mappings[scope]? = some m) (hscope' : h'.mappings[scope]? = some m) :
    h.ContentsMatch (r.add scope).diagonal h' where
  lists := stores_add (R := fun μ => ArraysRelated (Value.Matches μ))
    (fun hc _ _ _ => matches_chain_array hc) nofun hh.lists hh'.lists
  mappings := stores_add (fun hc _ _ _ hx hy => hx.chain hc hy)
    (fun _ => by
      rw [hscope, hscope']
      exact .some (hm.chain (r.chain_add scope) hm)) hh.mappings hh'.mappings
  sets := stores_add (R := fun μ => ArraysRelated (Value.Matches μ))
    (fun hc _ _ _ => matches_chain_array hc) nofun hh.sets hh'.sets
  iterations := stores_add (fun hc _ _ _ hx hy => hx.chain hc hy) nofun hh.iterations
    hh'.iterations
  closures := stores_add (fun hc _ _ _ hx hy => hx.chain hc hy) nofun hh.closures hh'.closures

theorem Closed.add (hr : r.Closed h) {m : Mapping} (hm : m.Matches r.diagonal m)
    (hscope : h.mappings[scope]? = some m) : (r.add scope).Closed h where
  lt := by
    rintro kind a (ha | ⟨rfl, rfl⟩)
    · exact hr.lt kind a ha
    · exact (Array.getElem?_eq_some_iff.mp hscope).1
  contents := contentsMatch_add hr.contents hr.contents hm hscope hscope

end

/-! ## Heaps that agree on a region -/

/-- Two heaps agree on a region, which is closed in the second one. Besides the expressions of the
region there may be others that stand for each other. -/
structure Beside (r : Region) (h h' : Heap) (own : Nat → Nat → Prop) : Prop where
  agree : h.ContentsMatch r.diagonal h'
  lt : ∀ kind a, r.has kind a → a < h.next kind
  closed : r.Closed h'
  own_biUnique : Relator.BiUnique own
  own_apart : ∀ c d, own c d → ¬ r.code c ∧ ¬ r.code d

variable {r : Region} {h h' g g' : Heap} {own : Nat → Nat → Prop}

namespace Beside

/-- The objects of the region stand for themselves, and those that will be made for each other. -/
def matching (b : r.Beside h h' own) : Matching where
  rel kind a a' := r.has kind a ∧ a = a' ∨ ∃ k, a = h.next kind + k ∧ a' = h'.next kind + k
  code c d := r.code c ∧ c = d ∨ own c d
  first := h.next
  first' := h'.next
  aside a := h.mappings[a]?
  biUnique kind := by
    constructor
    · rintro a a' c (⟨ha, rfl⟩ | ⟨k, rfl, rfl⟩) (⟨ha', hc⟩ | ⟨k', rfl, hc⟩)
      · exact hc.symm
      · have := b.closed.lt kind a ha
        omega
      · have := b.closed.lt kind a' ha'
        omega
      · omega
    · rintro a c c' (⟨ha, rfl⟩ | ⟨k, rfl, rfl⟩) (⟨ha', hc⟩ | ⟨k', hc', rfl⟩)
      · exact hc
      · have := b.lt kind a ha
        omega
      · have := b.lt kind _ ha'
        omega
      · omega
  code_biUnique := by
    constructor
    · rintro c c' d (⟨hc, rfl⟩ | hc) (⟨hc', hd⟩ | hc')
      · exact hd.symm
      · exact absurd hc (b.own_apart _ _ hc').2
      · exact absurd (hd ▸ hc') (b.own_apart _ _ hc).2
      · exact b.own_biUnique.1 hc hc'
    · rintro c d d' (⟨hc, rfl⟩ | hc) (⟨hc', hd⟩ | hc')
      · exact hd
      · exact absurd hc (b.own_apart _ _ hc').1
      · exact absurd hc' (b.own_apart _ _ hc).1
      · exact b.own_biUnique.2 hc hc'

variable (b : r.Beside h h' own)
include b

theorem chain_diagonal : Matching.Chain r.diagonal r.diagonal b.matching where
  rel := by
    rintro kind a _ _ ⟨ha, rfl⟩ ⟨-, rfl⟩
    exact .inl ⟨ha, rfl⟩
  code := by
    rintro c _ _ ⟨hc, rfl⟩ ⟨-, rfl⟩
    exact .inl ⟨hc, rfl⟩

theorem diagonal_chain : Matching.Chain b.matching r.diagonal r.diagonal where
  rel := by
    rintro kind a _ _ (⟨ha, rfl⟩ | ⟨k, rfl, rfl⟩) ⟨hc, rfl⟩
    · exact ⟨ha, rfl⟩
    · exact absurd (b.closed.lt kind _ hc) (Nat.not_lt_of_le (Nat.le_add_right _ _))
  code := by
    rintro c _ _ (⟨hc, rfl⟩ | hc) ⟨hd, rfl⟩
    · exact ⟨hc, rfl⟩
    · exact absurd hd (b.own_apart _ _ hc).2

theorem value_matches {v : Value} (hv : r.Holds v) : v.Matches b.matching v :=
  hv.chain b.chain_diagonal hv

theorem stores_related {α : Type} {R : Matching → α → α → Prop}
    (hchain : ∀ {μ ν ρ : Matching}, Matching.Chain μ ν ρ → ∀ x y z, R μ x y → R ν y z → R ρ x z)
    {kind : Kind} {xs ys : Array α} (hxs : xs.size = h.next kind) (hys : ys.size = h'.next kind)
    (hxy : StoresRelated (r.diagonal.rel kind) (R r.diagonal) xs ys)
    (hyy : StoresRelated (r.diagonal.rel kind) (R r.diagonal) ys ys) :
    StoresRelated (b.matching.rel kind) (R b.matching) xs ys := by
  rintro a _ (⟨ha, rfl⟩ | ⟨k, rfl, rfl⟩)
  · exact (hxy a a ⟨ha, rfl⟩).chain (hchain b.chain_diagonal) (hyy a a ⟨ha, rfl⟩)
  · rw [← hxs, ← hys, Array.getElem?_eq_none (Nat.le_add_right _ _),
      Array.getElem?_eq_none (Nat.le_add_right _ _)]
    exact .none

theorem heap_matches : h.Matches b.matching h' where
  lists := b.stores_related (R := fun μ => ArraysRelated (Value.Matches μ))
    (fun hc _ _ _ => matches_chain_array hc) rfl rfl b.agree.lists b.closed.contents.lists
  mappings := b.stores_related (fun hc _ _ _ hx hy => hx.chain hc hy) rfl rfl b.agree.mappings
    b.closed.contents.mappings
  sets := b.stores_related (R := fun μ => ArraysRelated (Value.Matches μ))
    (fun hc _ _ _ => matches_chain_array hc) rfl rfl b.agree.sets b.closed.contents.sets
  iterations := b.stores_related (fun hc _ _ _ hx hy => hx.chain hc hy) rfl rfl b.agree.iterations
    b.closed.contents.iterations
  closures := b.stores_related (fun hc _ _ _ hx hy => hx.chain hc hy) rfl rfl b.agree.closures
    b.closed.contents.closures
  made _ k := .inr ⟨k, rfl, rfl⟩
  next _ := ⟨0, rfl, rfl⟩
  aside _ _ := rfl

/-! ### Afterwards -/

section

variable (hg : g.Matches b.matching g')
include hg

theorem lt_after (kind : Kind) (a : Nat) (ha : r.has kind a) : a < g.next kind := by
  obtain ⟨k, hk, -⟩ := hg.next kind
  exact hk ▸ Nat.lt_add_right k (b.lt kind a ha)

omit hg in
/-- The objects of one kind that are in the region still agree if they have not changed. -/
theorem stores_agree {α : Type} {R : Matching → α → α → Prop}
    (hchain : ∀ {μ ν ρ : Matching}, Matching.Chain μ ν ρ → ∀ x y z, R μ x y → R ν y z → R ρ x z)
    {kind : Kind} {xs ys zs : Array α} (hkept : ∀ a, r.has kind a → ys[a]? = zs[a]?)
    (hxy : StoresRelated (b.matching.rel kind) (R b.matching) xs ys)
    (hzz : StoresRelated (r.diagonal.rel kind) (R r.diagonal) zs zs) :
    StoresRelated (r.diagonal.rel kind) (R r.diagonal) xs zs := by
  rintro a _ ⟨ha, rfl⟩
  have hzz := hzz a a ⟨ha, rfl⟩
  rw [← hkept a ha] at hzz ⊢
  exact (hxy a a (.inl ⟨ha, rfl⟩)).chain (hchain b.diagonal_chain) hzz

theorem agree_after (hkept : r.Unchanged h' g') : g.ContentsMatch r.diagonal h' where
  lists := b.stores_agree (R := fun μ => ArraysRelated (Value.Matches μ))
    (fun hc _ _ _ => matches_chain_array hc) hkept.lists hg.lists b.closed.contents.lists
  mappings := b.stores_agree (fun hc _ _ _ hx hy => hx.chain hc hy) hkept.mappings hg.mappings
    b.closed.contents.mappings
  sets := b.stores_agree (R := fun μ => ArraysRelated (Value.Matches μ))
    (fun hc _ _ _ => matches_chain_array hc) hkept.sets hg.sets b.closed.contents.sets
  iterations := b.stores_agree (fun hc _ _ _ hx hy => hx.chain hc hy) hkept.iterations
    hg.iterations b.closed.contents.iterations
  closures := b.stores_agree (fun hc _ _ _ hx hy => hx.chain hc hy) hkept.closures hg.closures
    b.closed.contents.closures

theorem mapping_after {a : Nat} (ha : ¬ r.has .mapping a) (hlt : a < h.mappings.size) :
    g.mappings[a]? = h.mappings[a]? := by
  refine hg.aside a fun c hc => ?_
  rcases hc with ⟨hin, -⟩ | ⟨k, hk, -⟩
  · exact ha hin
  · exact absurd hlt (Nat.not_lt_of_le (hk ▸ Nat.le_add_right _ _))

end

end Beside

end Region

end Stencil
