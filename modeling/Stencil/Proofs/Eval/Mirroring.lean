import Stencil.Eval.Iterate
import Stencil.Proofs.Eval.Dialog
import Stencil.Proofs.Value.MatchingHeap

/-!
# Evaluations that mirror each other

An evaluation mirrors another if, started in memories that match, both come to their ends without
asking for anything, with the same failure or with results that are related, and leave memories that
match. What an evaluation is put together from decides: it mirrors another if each of its steps
does.
-/

namespace Stencil

open Template (Failure)

variable {α β γ δ : Type} {μ : Matching} {R : α → β → Prop} {S : γ → δ → Prop}

/-- The heaps match, and so do the values of all names but that of the host. -/
structure Memory.Matches (μ : Matching) (s t : Memory) : Prop where
  heap : s.heap.Matches μ t.heap
  names : ∀ n, n ≠ hostName →
    Option.Rel (Value.Matches μ) (s.names.get? n) (t.names.get? n)

inductive ResultsMatch (R : α → β → Prop) : Except Failure α → Except Failure β → Prop
  | ok {a : α} {b : β} (h : R a b) : ResultsMatch R (.ok a) (.ok b)
  | error (e : Failure) : ResultsMatch R (.error e) (.error e)

theorem ResultsMatch.eq {r r' : Except Failure α} (h : ResultsMatch Eq r r') : r = r' := by
  cases h with
  | ok h => rw [h]
  | error e => rfl

/-- From memories that match, the evaluations end alike, and neither asks for anything. -/
structure Eval.Mirrors (μ : Matching) (R : α → β → Prop) (x : Eval α) (y : Eval β) : Prop where
  done : ∀ s t : Memory, s.Matches μ t → ∃ r r' s' t', x s = .done r s' ∧ y t = .done r' t' ∧
    ResultsMatch R r r' ∧ s'.Matches μ t'

namespace Eval

namespace Mirrors

variable {x : Eval α} {y : Eval β}

/-! ## Putting together -/

theorem pure {a : α} {b : β} (h : R a b) :
    Mirrors μ R (Pure.pure a : Eval α) (Pure.pure b : Eval β) :=
  ⟨fun s t hst => ⟨.ok a, .ok b, s, t, rfl, rfl, .ok h, hst⟩⟩

theorem fail (e : Failure) : Mirrors μ R (Eval.fail e : Eval α) (Eval.fail e : Eval β) :=
  ⟨fun s t hst => ⟨.error e, .error e, s, t, rfl, rfl, .error e, hst⟩⟩

theorem fault (f : Fault) : Mirrors μ R (Eval.fault f : Eval α) (Eval.fault f : Eval β) := fail _

theorem beyond (what : Text) :
    Mirrors μ R (Eval.beyond what : Eval α) (Eval.beyond what : Eval β) := fail _

theorem exhausted : Mirrors μ R (Eval.exhausted : Eval α) (Eval.exhausted : Eval β) := fail _

theorem bind {f : α → Eval γ} {g : β → Eval δ} (h : Mirrors μ R x y)
    (hfg : ∀ a b, R a b → Mirrors μ S (f a) (g b)) : Mirrors μ S (x >>= f) (y >>= g) := by
  refine ⟨fun s t hst => ?_⟩
  obtain ⟨r, r', s', t', hx, hy, hr, hst'⟩ := h.done s t hst
  rw [bind_apply, bind_apply, hx, hy]
  cases hr with
  | ok hab => exact (hfg _ _ hab).done s' t' hst'
  | error e => exact ⟨_, _, s', t', rfl, rfl, .error e, hst'⟩

theorem bind_eq {x y : Eval α} {f : α → Eval γ} {g : α → Eval δ} (h : Mirrors μ Eq x y)
    (hfg : ∀ a, Mirrors μ S (f a) (g a)) : Mirrors μ S (x >>= f) (y >>= g) :=
  h.bind fun a _ hab => hab ▸ hfg a

theorem attempt (h : Mirrors μ R x y) : Mirrors μ (ResultsMatch R) x.attempt y.attempt := by
  refine ⟨fun s t hst => ?_⟩
  obtain ⟨r, r', s', t', hx, hy, hr, hst'⟩ := h.done s t hst
  exact ⟨.ok r, .ok r', s', t', by simp only [Eval.attempt, hx, Dialog.andThen],
    by simp only [Eval.attempt, hy, Dialog.andThen], .ok hr, hst'⟩

theorem ofExcept {r r' : Except Fault α} (h : r = r') :
    Mirrors μ Eq (Eval.ofExcept r) (Eval.ofExcept r') := by
  subst h
  cases r with
  | ok a => exact pure rfl
  | error f => exact fault f

/-! ## Lists -/

section

variable {as : List α} {bs : List β} (has : List.Forall₂ R as bs)
include has

theorem mapM {f : α → Eval γ} {g : β → Eval δ} (hfg : ∀ a b, R a b → Mirrors μ S (f a) (g b)) :
    Mirrors μ (List.Forall₂ S) (as.mapM f) (bs.mapM g) := by
  induction has with
  | nil => exact pure .nil
  | cons h _ ih =>
    rw [List.mapM_cons, List.mapM_cons]
    exact (hfg _ _ h).bind fun _ _ hcd => ih.bind fun _ _ hcds => pure (.cons hcd hcds)

theorem foldlM {f : γ → α → Eval γ} {g : δ → β → Eval δ} {c : γ} {d : δ}
    (hfg : ∀ c d a b, S c d → R a b → Mirrors μ S (f c a) (g d b)) (hcd : S c d) :
    Mirrors μ S (as.foldlM f c) (bs.foldlM g d) := by
  induction has generalizing c d with
  | nil => exact pure hcd
  | cons h _ ih => exact (hfg _ _ _ _ hcd h).bind fun _ _ hcd => ih hcd

theorem forM {f : α → Eval Unit} {g : β → Eval Unit}
    (hfg : ∀ a b, R a b → Mirrors μ Eq (f a) (g b)) :
    Mirrors μ Eq (as.forM f) (bs.forM g) := by
  induction has with
  | nil => exact pure rfl
  | cons h _ ih => exact (hfg _ _ h).bind_eq fun _ => ih

end

end Mirrors

/-! ## Memory -/

theorem mirrors_heap : Mirrors μ (Heap.Matches μ) heap heap :=
  ⟨fun s t hst => ⟨.ok s.heap, .ok t.heap, s, t, rfl, rfl, .ok hst.heap, hst⟩⟩

theorem mirrors_change {f : Heap → α × Heap} {g : Heap → β × Heap}
    (h : ∀ heap heap' : Heap, heap.Matches μ heap' →
      R (f heap).1 (g heap').1 ∧ (f heap).2.Matches μ (g heap').2) :
    Mirrors μ R (change f) (change g) :=
  ⟨fun _ _ hst =>
    let ⟨hr, hh⟩ := h _ _ hst.heap
    ⟨_, _, _, _, rfl, rfl, .ok hr, hh, hst.names⟩⟩

theorem mirrors_modifyHeap {f g : Heap → Heap}
    (h : ∀ heap heap' : Heap, heap.Matches μ heap' → (f heap).Matches μ (g heap')) :
    Mirrors μ Eq (modifyHeap f) (modifyHeap g) :=
  mirrors_change fun _ _ hh => ⟨rfl, h _ _ hh⟩

theorem mirrors_names : Mirrors μ
    (fun ns ns' => ∀ n, n ≠ hostName → Option.Rel (Value.Matches μ) (ns.get? n) (ns'.get? n))
    names names :=
  ⟨fun s t hst => ⟨_, _, s, t, rfl, rfl, .ok hst.names, hst⟩⟩

theorem mirrors_putName (n : Text) {v w : Value} (hv : v.Matches μ w) :
    Mirrors μ Eq (putName n v) (putName n w) := by
  refine ⟨fun s t hst => ⟨_, _, _, _, rfl, rfl, .ok rfl, hst.heap, fun m hm => ?_⟩⟩
  by_cases hmn : n = m
  · subst hmn
    simpa using Option.Rel.some hv
  · simpa only [Names.get?_put_of_ne hmn] using hst.names m hm

theorem mirrors_removeName (n : Text) : Mirrors μ Eq (removeName n) (removeName n) := by
  refine ⟨fun s t hst => ⟨_, _, _, _, rfl, rfl, .ok rfl, hst.heap, fun m hm => ?_⟩⟩
  by_cases hmn : n = m
  · subst hmn
    simp
  · simpa only [Names.get?_remove_of_ne hmn] using hst.names m hm

/-! ## New values -/

theorem mirrors_serial : Mirrors μ (μ.rel .serial) serial serial :=
  mirrors_change fun _ _ hh => hh.newSerial

theorem mirrors_newInt (n : Int) : Mirrors μ (Value.Matches μ) (newInt n) (newInt n) := by
  unfold newInt
  split
  · exact .pure (.int n .shared)
  · exact mirrors_serial.bind fun _ _ hs => .pure (.int n (.made hs))

theorem mirrors_newFloat (x : Float) : Mirrors μ (Value.Matches μ) (newFloat x) (newFloat x) :=
  mirrors_serial.bind fun _ _ hs => .pure (.float x (.made hs))

theorem mirrors_newText (t : Text) : Mirrors μ (Value.Matches μ) (newText t) (newText t) := by
  unfold newText
  split
  · exact .pure (.str t .shared)
  · exact mirrors_serial.bind fun _ _ hs => .pure (.str t (.made hs))

theorem mirrors_newTuple {vs ws : List Value} (h : List.Forall₂ (Value.Matches μ) vs ws) :
    Mirrors μ (Value.Matches μ) (newTuple vs) (newTuple ws) := by
  unfold newTuple
  rw [h.isEmpty_eq]
  split
  · exact .pure (.tuple .nil .shared)
  · exact mirrors_serial.bind fun _ _ hs => .pure (.tuple h (.made hs))

theorem mirrors_newList {vs ws : List Value} (h : List.Forall₂ (Value.Matches μ) vs ws) :
    Mirrors μ (Value.Matches μ) (newList vs) (newList ws) :=
  mirrors_change fun _ _ hh => hh.newList (.ofLists h)

theorem mirrors_newSet {xs ys : Array Value} (h : ArraysRelated (Value.Matches μ) xs ys) :
    Mirrors μ (Value.Matches μ) (change fun h => h.newSet xs) (change fun h => h.newSet ys) :=
  mirrors_change fun _ _ hh => hh.newSet h

theorem mirrors_newMapping {m n : Mapping} (h : m.Matches μ n) :
    Mirrors μ (Value.Matches μ) (change fun h => h.newMapping m)
      (change fun h => h.newMapping n) :=
  mirrors_change fun _ _ hh => hh.newMapping h

theorem mirrors_newIterator {i j : Iteration} (h : i.Matches μ j) :
    Mirrors μ (μ.rel .iterator) (newIterator i) (newIterator j) :=
  mirrors_change fun _ _ hh => hh.newIterator h

/-! ## What is told of values -/

section

variable {v v' w w' : Value} (hv : v.Matches μ v')
include hv

theorem mirrors_look {f g : Heap → Value → α}
    (h : ∀ heap heap' : Heap, heap.Matches μ heap' → f heap v = g heap' v') :
    Mirrors μ Eq (look f v) (look g v') := by
  -- The registry matches nothing.
  cases hv <;> exact mirrors_heap.bind fun heap heap' hh => .pure (h heap heap' hh)

theorem mirrors_typeName : Mirrors μ Eq (typeName v) (typeName v') :=
  mirrors_look hv fun _ _ hh => hh.typeName_eq hv

theorem mirrors_datum : Mirrors μ Eq (datum v) (datum v') :=
  mirrors_look hv fun _ _ hh => hh.datum_eq hv

theorem mirrors_write (form : Datum → Text) : Mirrors μ Eq (write form v) (write form v') :=
  (mirrors_datum hv).bind_eq fun _ => .ofExcept rfl

theorem mirrors_truth : Mirrors μ Eq (truth v) (truth v') :=
  mirrors_look hv fun _ _ hh => hh.truth_eq hv

theorem mirrors_checkKey : Mirrors μ Eq (checkKey v) (checkKey v') := by
  refine mirrors_heap.bind fun h h' hh => ?_
  rw [hh.unhashable?_eq hv]
  split
  · exact .fault _
  · exact .pure rfl

theorem mirrors_order (op : OrderOp) (hw : w.Matches μ w') :
    Mirrors μ Eq (order op v w) (order op v' w') :=
  mirrors_heap.bind fun _ _ hh => .ofExcept (hh.order_eq op hv hw)

theorem mirrors_equal (hw : w.Matches μ w') : Mirrors μ Eq (equal v w) (equal v' w') :=
  mirrors_heap.bind fun _ _ hh => .pure (hh.equal_eq hv hw)

theorem mirrors_complaint (f : Text → Fault) :
    Mirrors μ R (do fault (f (← typeName v)) : Eval α) (do fault (f (← typeName v')) : Eval β) :=
  (mirrors_typeName hv).bind_eq fun _ => .fault _

end

end Eval

/-! ## What functions are given -/

theorem lookup_matches {named named' : List (Text × Value)} (n : Text)
    (h : List.Forall₂ (NamedMatches μ) named named') :
    Option.Rel (Value.Matches μ) (named.lookup n) (named'.lookup n) := by
  induction h with
  | nil => exact .none
  | @cons p q _ _ hpq _ ih =>
    obtain ⟨m, v⟩ := p
    obtain ⟨m', w⟩ := q
    obtain ⟨rfl, hv⟩ := hpq
    rw [List.lookup_cons, List.lookup_cons]
    cases n == m with
    | true => exact .some hv
    | false => exact ih

structure Arguments.Matches (μ : Matching) (args args' : Arguments) : Prop where
  positional : List.Forall₂ (Value.Matches μ) args.positional args'.positional
  named : List.Forall₂ (NamedMatches μ) args.named args'.named

structure Reach.Mirrors (μ : Matching) (reach reach' : Reach) : Prop where
  call : ∀ f g args args', f.Matches μ g → args.Matches μ args' →
    Eval.Mirrors μ (Value.Matches μ) (reach.call f args) (reach'.call g args')
  next : ∀ a b, μ.rel .iterator a b →
    Eval.Mirrors μ (Option.Rel (Value.Matches μ)) (reach.next a) (reach'.next b)
  fuel : reach.fuel = reach'.fuel

end Stencil
