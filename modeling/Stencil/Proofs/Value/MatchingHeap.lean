import Stencil.Eval.Compare
import Stencil.Proofs.Expr.Omitting
import Stencil.Proofs.Value.Matching
import Stencil.Proofs.Value.Related

/-!
# Heaps that match

Heaps match if objects that stand for each other have contents that match, and the objects that
will be made next stand for each other as well. What is read from matching heaps matches, changes
that match keep heaps matching, and no test can tell matching values apart.
-/

namespace Stencil

variable {μ : Matching}

/-! ## Contents -/

structure Mapping.Matches (μ : Matching) (m n : Mapping) : Prop where
  isScope : m.isScope = n.isScope
  entries : List.Forall₂ (EntryMatches μ) m.entries n.entries

structure Running.Matches (μ : Matching) (r s : Running) : Prop where
  iterator : μ.rel .iterator r.iterator s.iterator
  locals : List.Forall₂ (NamedMatches μ) r.locals s.locals

structure Comprehension.Matches (μ : Matching) (c d : Comprehension) : Prop where
  element : c.element = d.element
  clauses : c.clauses = d.clauses
  code : μ.code c.code d.code
  element_omits : d.element.omits hostName = true
  clauses_omit : omitsClauses hostName d.clauses = true

inductive Iteration.Matches (μ : Matching) : Iteration → Iteration → Prop
  | done : Matches μ .done .done
  | list {a b : Nat} (position : Nat) (h : μ.rel .list a b) :
      Matches μ (.list a position) (.list b position)
  | listBackwards {a b : Nat} (remaining : Nat) (h : μ.rel .list a b) :
      Matches μ (.listBackwards a remaining) (.listBackwards b remaining)
  | items (type : Text) {vs ws : List Value} (h : List.Forall₂ (Value.Matches μ) vs ws) :
      Matches μ (.items type vs) (.items type ws)
  | range (next step : Int) (remaining : Nat) :
      Matches μ (.range next step remaining) (.range next step remaining)
  | mapping (kind : ViewKind) (size position : Nat) {a b : Nat} (h : μ.rel .mapping a b) :
      Matches μ (.mapping kind a size position) (.mapping kind b size position)
  | mappingBackwards (kind : ViewKind) (size remaining : Nat) {a b : Nat}
      (h : μ.rel .mapping a b) :
      Matches μ (.mappingBackwards kind a size remaining) (.mappingBackwards kind b size remaining)
  | set (size position : Nat) {a b : Nat} (h : μ.rel .set a b) :
      Matches μ (.set a size position) (.set b size position)
  | enumerate (next : Int) {a b : Nat} (h : μ.rel .iterator a b) :
      Matches μ (.enumerate a next) (.enumerate b next)
  | zip {as bs : List Nat} (h : List.Forall₂ (μ.rel .iterator) as bs) :
      Matches μ (.zip as) (.zip bs)
  | map {f g : Value} {as bs : List Nat} (hf : f.Matches μ g)
      (h : List.Forall₂ (μ.rel .iterator) as bs) : Matches μ (.map f as) (.map g bs)
  | filter {f g : Value} {a b : Nat} (hf : f.Matches μ g) (h : μ.rel .iterator a b) :
      Matches μ (.filter f a) (.filter g b)
  | comprehension {c d : Comprehension} {rs ss : List Running} (hc : c.Matches μ d)
      (h : List.Forall₂ (Running.Matches μ) rs ss) :
      Matches μ (.comprehension c rs) (.comprehension d ss)

theorem Iteration.Matches.type_eq {i j : Iteration} (h : i.Matches μ j) :
    Heap.iterationType i = Heap.iterationType j := by
  cases h with
  | mapping kind | mappingBackwards kind => cases kind <;> rfl
  | _ => rfl

def ParameterMatches (μ : Matching) (p q : Text × Option Value) : Prop :=
  p.1 = q.1 ∧ Option.Rel (Value.Matches μ) p.2 q.2

structure Closure.Matches (μ : Matching) (c d : Closure) : Prop where
  params : List.Forall₂ (ParameterMatches μ) c.params d.params
  body : c.body = d.body
  locals : List.Forall₂ (NamedMatches μ) c.locals d.locals
  code : μ.code c.code d.code
  omits : d.body.omits hostName = true

/-! ## Heaps -/

namespace Heap

def next (h : Heap) : Kind → Nat
  | .list => h.lists.size
  | .mapping => h.mappings.size
  | .set => h.sets.size
  | .iterator => h.iterations.size
  | .closure => h.closures.size
  | .serial => h.serial

section

variable (h : Heap) {kind : Kind}

theorem next_setList (a : Nat) (items : Array Value) :
    (h.setList a items).next kind = h.next kind := by
  cases kind <;> simp [setList, next]

theorem next_setMapping (a : Nat) (m : Mapping) :
    (h.setMapping a m).next kind = h.next kind := by
  cases kind <;> simp [setMapping, next]

theorem next_setSet (a : Nat) (items : Array Value) :
    (h.setSet a items).next kind = h.next kind := by
  cases kind <;> simp [setSet, next]

theorem next_setIteration (a : Nat) (i : Iteration) :
    (h.setIteration a i).next kind = h.next kind := by
  cases kind <;> simp [setIteration, next]

def share (made kind : Kind) : Nat := if kind = made then 1 else 0

theorem next_newList (items : Array Value) :
    (h.newList items).2.next kind = h.next kind + share .list kind := by
  cases kind <;> simp [newList, next, share]

theorem next_newMapping (m : Mapping) :
    (h.newMapping m).2.next kind = h.next kind + share .mapping kind := by
  cases kind <;> simp [newMapping, next, share]

theorem next_newSet (items : Array Value) :
    (h.newSet items).2.next kind = h.next kind + share .set kind := by
  cases kind <;> simp [newSet, next, share]

theorem next_newIterator (i : Iteration) :
    (h.newIterator i).2.next kind = h.next kind + share .iterator kind := by
  cases kind <;> simp [newIterator, next, share]

theorem next_newClosure (c : Closure) :
    (h.newClosure c).2.next kind = h.next kind + share .closure kind := by
  cases kind <;> simp [newClosure, next, share]

theorem next_newSerial : h.newSerial.2.next kind = h.next kind + share .serial kind := by
  cases kind <;> simp [newSerial, next, share]

end

/-- Objects that stand for each other have contents that match. -/
structure ContentsMatch (μ : Matching) (h h' : Heap) : Prop where
  lists : StoresRelated (μ.rel .list) (ArraysRelated (Value.Matches μ)) h.lists h'.lists
  mappings : StoresRelated (μ.rel .mapping) (Mapping.Matches μ) h.mappings h'.mappings
  sets : StoresRelated (μ.rel .set) (ArraysRelated (Value.Matches μ)) h.sets h'.sets
  iterations :
    StoresRelated (μ.rel .iterator) (Iteration.Matches μ) h.iterations h'.iterations
  closures : StoresRelated (μ.rel .closure) (Closure.Matches μ) h.closures h'.closures

def InStep (μ : Matching) (kind : Kind) (h h' : Heap) : Prop :=
  ∃ k, h.next kind = μ.first kind + k ∧ h'.next kind = μ.first' kind + k

structure Matches (μ : Matching) (h h' : Heap) : Prop extends ContentsMatch μ h h' where
  made : ∀ kind k, μ.rel kind (μ.first kind + k) (μ.first' kind + k)
  next : ∀ kind, InStep μ kind h h'
  aside : ∀ a, (∀ b, ¬ μ.rel .mapping a b) → h.mappings[a]? = μ.aside a

end Heap

namespace Heap.InStep

variable {kind : Kind} {h h' g g' : Heap}

theorem of_eq (hstep : InStep μ kind h h') (hg : g.next kind = h.next kind)
    (hg' : g'.next kind = h'.next kind) : InStep μ kind g g' :=
  let ⟨k, hk, hk'⟩ := hstep
  ⟨k, hg.trans hk, hg'.trans hk'⟩

theorem add {n : Nat} (hstep : InStep μ kind h h') (hg : g.next kind = h.next kind + n)
    (hg' : g'.next kind = h'.next kind + n) : InStep μ kind g g' :=
  let ⟨k, hk, hk'⟩ := hstep
  ⟨k + n, by omega, by omega⟩

end Heap.InStep

/-! ## Mappings and sets of items -/

namespace Mapping.Matches

variable {m n : Mapping} {k k' v v' : Value}

theorem empty (isScope : Bool) : Mapping.Matches μ ⟨isScope, []⟩ ⟨isScope, []⟩ := ⟨rfl, .nil⟩

theorem get? (h : m.Matches μ n) (hk : k.Matches μ k') :
    Option.Rel (Value.Matches μ) (m.get? k) (n.get? k') :=
  (h.entries.find? fun _ _ hpq => hpq.1.equalKey_eq hk).map fun _ _ hpq => hpq.2

theorem putEntry {es fs : List (Value × Value)} (h : List.Forall₂ (EntryMatches μ) es fs)
    (hk : k.Matches μ k') (hv : v.Matches μ v') :
    List.Forall₂ (EntryMatches μ) (Mapping.putEntry k v es) (Mapping.putEntry k' v' fs) := by
  induction h with
  | nil => exact .cons ⟨hk, hv⟩ .nil
  | cons h hs ih =>
    simp only [Mapping.putEntry, h.1.equalKey_eq hk]
    split
    · exact .cons ⟨h.1, hv⟩ hs
    · exact .cons h ih

theorem put (h : m.Matches μ n) (hk : k.Matches μ k') (hv : v.Matches μ v') :
    (m.put k v).Matches μ (n.put k' v') :=
  ⟨h.isScope, putEntry h.entries hk hv⟩

theorem remove (h : m.Matches μ n) (hk : k.Matches μ k') :
    (m.remove k).Matches μ (n.remove k') :=
  ⟨h.isScope, h.entries.filter fun _ _ hpq => congrArg not (hpq.1.equalKey_eq hk)⟩

end Mapping.Matches

theorem matches_insertItem {xs ys : Array Value} {v w : Value}
    (h : ArraysRelated (Value.Matches μ) xs ys) (hv : v.Matches μ w) :
    ArraysRelated (Value.Matches μ) (insertItem xs v) (insertItem ys w) := by
  unfold insertItem
  rw [h.any_eq fun _ _ huv => huv.equalKey_eq hv]
  split
  · exact h
  · exact h.push hv

theorem matches_viewItems (kind : ViewKind) {es fs : List (Value × Value)}
    (h : List.Forall₂ (EntryMatches μ) es fs) :
    List.Forall₂ (Value.Matches μ) (Heap.viewItems kind es) (Heap.viewItems kind fs) :=
  h.map fun _ _ hpq => by
    cases kind with
    | keys => exact hpq.1
    | values => exact hpq.2
    | items => exact .tuple (.cons hpq.1 (.cons hpq.2 .nil)) .shared

namespace Heap.Matches

variable {h h' : Heap} (hh : h.Matches μ h')
include hh

/-! ## Reading -/

theorem list {a b : Nat} (hab : μ.rel .list a b) :
    ArraysRelated (Value.Matches μ) (h.list a) (h'.list b) :=
  hh.lists.getD hab .nil

theorem mapping {a b : Nat} (hab : μ.rel .mapping a b) :
    (h.mapping a).Matches μ (h'.mapping b) :=
  hh.mappings.getD hab (.empty false)

theorem set {a b : Nat} (hab : μ.rel .set a b) :
    ArraysRelated (Value.Matches μ) (h.set a) (h'.set b) :=
  hh.sets.getD hab .nil

theorem iteration {a b : Nat} (hab : μ.rel .iterator a b) :
    (h.iteration a).Matches μ (h'.iteration b) :=
  hh.iterations.getD hab .done

theorem closure? {a b : Nat} (hab : μ.rel .closure a b) :
    Option.Rel (Closure.Matches μ) (h.closure? a) (h'.closure? b) :=
  hh.closures a b hab

/-! ## Writing -/

theorem setList {a b : Nat} {xs ys : Array Value} (hab : μ.rel .list a b)
    (hxy : ArraysRelated (Value.Matches μ) xs ys) :
    (h.setList a xs).Matches μ (h'.setList b ys) where
  lists := hh.lists.setIfInBounds (μ.biUnique .list) hab hxy
  mappings := hh.mappings
  sets := hh.sets
  iterations := hh.iterations
  closures := hh.closures
  made := hh.made
  next kind := (hh.next kind).of_eq (h.next_setList ..) (h'.next_setList ..)
  aside := hh.aside

theorem setMapping {a b : Nat} {m n : Mapping} (hab : μ.rel .mapping a b)
    (hmn : m.Matches μ n) : (h.setMapping a m).Matches μ (h'.setMapping b n) where
  lists := hh.lists
  mappings := hh.mappings.setIfInBounds (μ.biUnique .mapping) hab hmn
  sets := hh.sets
  iterations := hh.iterations
  closures := hh.closures
  made := hh.made
  next kind := (hh.next kind).of_eq (h.next_setMapping ..) (h'.next_setMapping ..)
  aside c hc := by
    have hne : a ≠ c := fun hac => hc b (hac ▸ hab)
    simpa [Heap.setMapping, Array.getElem?_setIfInBounds, hne] using hh.aside c hc

theorem setSet {a b : Nat} {xs ys : Array Value} (hab : μ.rel .set a b)
    (hxy : ArraysRelated (Value.Matches μ) xs ys) :
    (h.setSet a xs).Matches μ (h'.setSet b ys) where
  lists := hh.lists
  mappings := hh.mappings
  sets := hh.sets.setIfInBounds (μ.biUnique .set) hab hxy
  iterations := hh.iterations
  closures := hh.closures
  made := hh.made
  next kind := (hh.next kind).of_eq (h.next_setSet ..) (h'.next_setSet ..)
  aside := hh.aside

theorem setIteration {a b : Nat} {i j : Iteration} (hab : μ.rel .iterator a b)
    (hij : i.Matches μ j) : (h.setIteration a i).Matches μ (h'.setIteration b j) where
  lists := hh.lists
  mappings := hh.mappings
  sets := hh.sets
  iterations := hh.iterations.setIfInBounds (μ.biUnique .iterator) hab hij
  closures := hh.closures
  made := hh.made
  next kind := (hh.next kind).of_eq (h.next_setIteration ..) (h'.next_setIteration ..)
  aside := hh.aside

/-! ## New objects -/

theorem new (kind : Kind) : μ.rel kind (h.next kind) (h'.next kind) := by
  obtain ⟨k, hk, hk'⟩ := hh.next kind
  rw [hk, hk']
  exact hh.made kind k

theorem newList {xs ys : Array Value} (hxy : ArraysRelated (Value.Matches μ) xs ys) :
    (h.newList xs).1.Matches μ (h'.newList ys).1 ∧
      (h.newList xs).2.Matches μ (h'.newList ys).2 := by
  refine ⟨.list (hh.new .list), { hh with
    lists := hh.lists.push (μ.biUnique .list) (hh.new .list) hxy
    next := fun kind => (hh.next kind).add (h.next_newList _) (h'.next_newList _) }⟩

theorem newMapping {m n : Mapping} (hmn : m.Matches μ n) :
    (h.newMapping m).1.Matches μ (h'.newMapping n).1 ∧
      (h.newMapping m).2.Matches μ (h'.newMapping n).2 := by
  refine ⟨.mapping (hh.new .mapping), { hh with
    mappings := hh.mappings.push (μ.biUnique .mapping) (hh.new .mapping) hmn
    next := fun kind => (hh.next kind).add (h.next_newMapping _) (h'.next_newMapping _)
    aside := fun c hc => ?_ }⟩
  have hne : c ≠ h.mappings.size := fun hac => hc h'.mappings.size (hac ▸ hh.new .mapping)
  simpa [Heap.newMapping, Array.getElem?_push, hne] using hh.aside c hc

theorem newSet {xs ys : Array Value} (hxy : ArraysRelated (Value.Matches μ) xs ys) :
    (h.newSet xs).1.Matches μ (h'.newSet ys).1 ∧
      (h.newSet xs).2.Matches μ (h'.newSet ys).2 := by
  refine ⟨.set (hh.new .set), { hh with
    sets := hh.sets.push (μ.biUnique .set) (hh.new .set) hxy
    next := fun kind => (hh.next kind).add (h.next_newSet _) (h'.next_newSet _) }⟩

theorem newIterator {i j : Iteration} (hij : i.Matches μ j) :
    μ.rel .iterator (h.newIterator i).1 (h'.newIterator j).1 ∧
      (h.newIterator i).2.Matches μ (h'.newIterator j).2 := by
  refine ⟨hh.new .iterator, { hh with
    iterations := hh.iterations.push (μ.biUnique .iterator) (hh.new .iterator) hij
    next := fun kind => (hh.next kind).add (h.next_newIterator _) (h'.next_newIterator _) }⟩

theorem newClosure {c d : Closure} (hcd : c.Matches μ d) :
    (h.newClosure c).1.Matches μ (h'.newClosure d).1 ∧
      (h.newClosure c).2.Matches μ (h'.newClosure d).2 := by
  refine ⟨.closure (hh.new .closure), { hh with
    closures := hh.closures.push (μ.biUnique .closure) (hh.new .closure) hcd
    next := fun kind => (hh.next kind).add (h.next_newClosure _) (h'.next_newClosure _) }⟩

theorem newSerial : μ.rel .serial h.newSerial.1 h'.newSerial.1 ∧
    h.newSerial.2.Matches μ h'.newSerial.2 := by
  refine ⟨hh.new .serial, { hh with
    next := fun kind => (hh.next kind).add h.next_newSerial h'.next_newSerial }⟩

/-! ## What can be told of values -/

section

variable {v v' w w' : Value}

theorem typeName_eq (hv : v.Matches μ v') : h.typeName v = h'.typeName v' := by
  cases hv with
  | mapping hab =>
    exact congrArg (fun isScope : Bool => if isScope then "Scope".toList else "dict".toList)
      (hh.mapping hab).isScope
  | iterator hab => exact (hh.iteration hab).type_eq
  | method _ hr => cases hr <;> rfl
  | _ => rfl

theorem truth_eq (hv : v.Matches μ v') : h.truth v = h'.truth v' := by
  cases hv with
  | tuple hvs => simp only [Heap.truth, hvs.isEmpty_eq]
  | list hab => simp only [Heap.truth, (hh.list hab).isEmpty_eq]
  | mapping hab | view _ hab => simp only [Heap.truth, (hh.mapping hab).entries.isEmpty_eq]
  | set hab => simp only [Heap.truth, (hh.set hab).isEmpty_eq]
  | _ => rfl

theorem view_eq (fuel : Nat) {inside inside' : List Value}
    (hinside : List.Forall₂ (Value.Matches μ) inside inside') (hv : v.Matches μ v') :
    h.view fuel inside v = h'.view fuel inside' v' := by
  induction fuel generalizing inside inside' v v' with
  | zero => rfl
  | succ fuel ih =>
    have hagain : inside.any (·.same v) = inside'.any (·.same v') :=
      hinside.any_eq fun _ _ hu => hu.same_eq hv
    have hitems {vs ws : List Value} (hvs : List.Forall₂ (Value.Matches μ) vs ws) :
        vs.map (h.view fuel (v :: inside)) = ws.map (h'.view fuel (v' :: inside')) :=
      hvs.map_eq fun _ _ hu => ih (.cons hv hinside) hu
    cases hv with
    | tuple hvs => simp only [Heap.view, hitems hvs]
    | list hab => simp only [Heap.view, hagain, hitems (hh.list hab)]
    | mapping hab =>
      have hm := hh.mapping hab
      have hpairs := hm.entries.map_eq
        (f := fun p => (h.view fuel (.mapping _ :: inside) p.1,
          h.view fuel (.mapping _ :: inside) p.2))
        (g := fun p => (h'.view fuel (.mapping _ :: inside') p.1,
          h'.view fuel (.mapping _ :: inside') p.2))
        fun _ _ hpq => by
          rw [ih (.cons (.mapping hab) hinside) hpq.1, ih (.cons (.mapping hab) hinside) hpq.2]
      simp only [Heap.view, hagain, hm.isScope, hpairs]
    | set hab => simp only [Heap.view, hitems (hh.set hab)]
    | view kind hab =>
      simp only [Heap.view, hitems (matches_viewItems kind (hh.mapping hab).entries)]
    | iterator hab =>
      simp only [Heap.view, hh.typeName_eq (.iterator hab)]
    | closure hab => simp only [Heap.view, hh.typeName_eq (.closure hab)]
    | method name hr hs => simp only [Heap.view, hh.typeName_eq (.method name hr hs)]
    | _ => rfl

theorem datum_eq (hv : v.Matches μ v') : h.datum v = h'.datum v' :=
  hh.view_eq Heap.depth .nil hv

theorem equalWithin_eq (fuel : Nat) (hv : v.Matches μ v') (hw : w.Matches μ w') :
    h.equalWithin fuel v w = h'.equalWithin fuel v' w' := by
  induction fuel generalizing v v' w w' with
  | zero => rfl
  | succ fuel ih =>
    have hsub {u u' t t' : Value} (hu : u.Matches μ u') (ht : t.Matches μ t') :
        (u.same t || h.equalWithin fuel u t) = (u'.same t' || h'.equalWithin fuel u' t') := by
      rw [hu.same_eq ht, ih hu ht]
    have hall {as bs as' bs' : List Value} (has : List.Forall₂ (Value.Matches μ) as as')
        (hbs : List.Forall₂ (Value.Matches μ) bs bs') :
        (as.length == bs.length &&
            (as.zip bs).all fun p => p.1.same p.2 || h.equalWithin fuel p.1 p.2) =
          (as'.length == bs'.length &&
            (as'.zip bs').all fun p => p.1.same p.2 || h'.equalWithin fuel p.1 p.2) := by
      rw [has.length_eq, hbs.length_eq]
      exact congrArg _ ((has.zip hbs).all_eq fun _ _ hpq => hsub hpq.1 hpq.2)
    have hkey := hv.equalKey_eq hw
    cases hv with
    | tuple has =>
      cases hw with
      | tuple hbs => exact hall has hbs
      | _ => exact hkey
    | list ha =>
      cases hw with
      | list hb => exact congrArg₂ or (Matching.beq_eq ha hb) (hall (hh.list ha) (hh.list hb))
      | _ => exact hkey
    | mapping ha =>
      cases hw with
      | mapping hb =>
        have hm := hh.mapping ha
        have hn := hh.mapping hb
        have hlength := congrArg₂ BEq.beq hm.entries.length_eq hn.entries.length_eq
        refine congrArg₂ or (Matching.beq_eq ha hb) (congrArg₂ and hlength ?_)
        exact hm.entries.all_eq fun _ _ hpq =>
          (hn.get? hpq.1).any_eq fun _ _ hu => hsub hpq.2 hu
      | _ => exact hkey
    | set ha =>
      cases hw with
      | set hb =>
        have hsize := congrArg₂ BEq.beq (hh.set ha).size_eq (hh.set hb).size_eq
        refine congrArg₂ or (Matching.beq_eq ha hb) (congrArg₂ and hsize ?_)
        exact (hh.set ha).all_eq fun _ _ hu =>
          (hh.set hb).any_eq fun _ _ ht => ht.equalKey_eq hu
      | _ => exact hkey
    | float =>
      cases hw with
      | float => rfl
      | _ => exact hkey
    | _ => exact hkey

theorem equal_eq (hv : v.Matches μ v') (hw : w.Matches μ w') : h.equal v w = h'.equal v' w' :=
  hh.equalWithin_eq Heap.depth hv hw

theorem equalItem_eq (hv : v.Matches μ v') (hw : w.Matches μ w') :
    h.equalItem v w = h'.equalItem v' w' := by
  rw [Heap.equalItem, Heap.equalItem, hv.same_eq hw, hh.equal_eq hv hw]

theorem orderNumbers_eq (op : OrderOp) (hv : v.Matches μ v') (hw : w.Matches μ w') :
    h.orderNumbers op v w = h'.orderNumbers op v' w' := by
  rw [Heap.orderNumbers, Heap.orderNumbers, hv.compareNumbers?_eq hw, hh.typeName_eq hv,
    hh.typeName_eq hw]

theorem orderItems_eq (op : OrderOp) {order order' : Value → Value → Except Fault Bool}
    (horder : ∀ {v v' w w' : Value}, v.Matches μ v' → w.Matches μ w' → order v w = order' v' w')
    {as bs as' bs' : List Value} (has : List.Forall₂ (Value.Matches μ) as as')
    (hbs : List.Forall₂ (Value.Matches μ) bs bs') :
    h.orderItems op order as bs = h'.orderItems op order' as' bs' := by
  have hfound := (has.zip hbs).find? (p := fun p => !h.equalItem p.1 p.2)
    (q := fun p => !h'.equalItem p.1 p.2)
    fun _ _ hpq => congrArg not (hh.equalItem_eq hpq.1 hpq.2)
  rw [Heap.orderItems, Heap.orderItems, has.length_eq, hbs.length_eq]
  generalize (as.zip bs).find? _ = x at hfound ⊢
  generalize (as'.zip bs').find? _ = y at hfound ⊢
  cases hfound with
  | none => rfl
  | some hpq => exact horder hpq.1 hpq.2

theorem orderWithin_eq (op : OrderOp) (fuel : Nat) (hv : v.Matches μ v') (hw : w.Matches μ w') :
    h.orderWithin op fuel v w = h'.orderWithin op fuel v' w' := by
  induction fuel generalizing v v' w w' with
  | zero => rfl
  | succ fuel ih =>
    have hwithin {xs ys xs' ys' : Array Value} (hx : ArraysRelated (Value.Matches μ) xs xs')
        (hy : ArraysRelated (Value.Matches μ) ys ys') :
        (xs.all fun v => ys.any (·.equalKey v)) = xs'.all fun v => ys'.any (·.equalKey v) :=
      hx.all_eq fun _ _ hu => hy.any_eq fun _ _ ht => ht.equalKey_eq hu
    have hnumbers := hh.orderNumbers_eq op hv hw
    cases hv with
    | str =>
      cases hw with
      | str => rfl
      | _ => exact hnumbers
    | tuple has =>
      cases hw with
      | tuple hbs => exact hh.orderItems_eq op ih has hbs
      | _ => exact hnumbers
    | list ha =>
      cases hw with
      | list hb => exact hh.orderItems_eq op ih (hh.list ha) (hh.list hb)
      | _ => exact hnumbers
    | date =>
      cases hw with
      | date => rfl
      | _ => exact hnumbers
    | set ha =>
      cases hw with
      | set hb =>
        have hx := hh.set ha
        have hy := hh.set hb
        refine congrArg Except.ok ?_
        cases op with
        | less => exact congrArg₂ and (by rw [hx.size_eq, hy.size_eq]) (hwithin hx hy)
        | lessEqual => exact hwithin hx hy
        | greater => exact congrArg₂ and (by rw [hx.size_eq, hy.size_eq]) (hwithin hy hx)
        | greaterEqual => exact hwithin hy hx
      | _ => exact hnumbers
    | _ => exact hnumbers

theorem order_eq (op : OrderOp) (hv : v.Matches μ v') (hw : w.Matches μ w') :
    h.order op v w = h'.order op v' w' :=
  hh.orderWithin_eq op Heap.depth hv hw

end

end Heap.Matches

mutual

theorem Heap.Matches.unhashable?_eq {h h' : Heap} (hh : h.Matches μ h') :
    {v v' : Value} → v.Matches μ v' → h.unhashable? v = h'.unhashable? v'
  | _, _, hv => by
    have htype := hh.typeName_eq hv
    cases hv with
    | tuple hvs => exact hh.unhashableItem?_eq hvs
    | list | mapping | set => exact congrArg some htype
    | view kind =>
      cases kind with
      | keys | items => exact congrArg some htype
      | values => rfl
    | _ => rfl

theorem Heap.Matches.unhashableItem?_eq {h h' : Heap} (hh : h.Matches μ h') :
    {vs ws : List Value} → List.Forall₂ (Value.Matches μ) vs ws →
    h.unhashableItem? vs = h'.unhashableItem? ws
  | _, _, .nil => rfl
  | _, _, .cons hv hvs => by
    simp only [Heap.unhashableItem?, hh.unhashable?_eq hv, hh.unhashableItem?_eq hvs]

end

end Stencil
