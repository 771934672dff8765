import Stencil.Eval.Evaluate
import Stencil.Proofs.Eval.Composed

/-!
# Taking items

The next item of an iterator that goes through a collection is taken without any question to the
engine and without any other evaluation. Then there is one less, or there was none.
-/

namespace Stencil

open Template (Failure)

def Memory.numbered (m : Memory) (n : Nat) : Memory :=
  { m with heap := { m.heap with serial := n } }

namespace Eval

variable {m m' : Memory} {a : Nat} {result : Except Failure (Option Value)}

/-! ## New objects -/

theorem newInt_numbered (k : Int) (m : Memory) :
    ∃ v n, newInt k m = .done (.ok v) (m.numbered n) := by
  unfold newInt
  split
  · exact ⟨_, m.heap.serial, rfl⟩
  · exact ⟨_, m.heap.serial + 1, rfl⟩

theorem pairItems_numbered (entries : List (Value × Value)) (m : Memory) :
    ∃ vs n, pairItems entries m = .done (.ok vs) (m.numbered n) ∧ vs.length = entries.length := by
  induction entries generalizing m with
  | nil => exact ⟨[], m.heap.serial, rfl, rfl⟩
  | cons entry more ih =>
      let pair : Value := .tuple [entry.1, entry.2] (.made m.heap.serial)
      have hpair : newTuple [entry.1, entry.2] m =
          .done (.ok pair) (m.numbered (m.heap.serial + 1)) := rfl
      obtain ⟨vs, n, hmore, hlength⟩ := ih (m.numbered (m.heap.serial + 1))
      refine ⟨pair :: vs, n, ?_, congrArg Nat.succ hlength⟩
      rw [pairItems, bind_of_apply hpair, bind_of_apply hmore]
      rfl

theorem viewed_numbered (kind : ViewKind) (entries : List (Value × Value)) (m : Memory) :
    ∃ vs n, viewed kind entries m = .done (.ok vs) (m.numbered n) ∧ vs.length = entries.length := by
  cases kind with
  | keys => exact ⟨_, m.heap.serial, rfl, List.length_map ..⟩
  | values => exact ⟨_, m.heap.serial, rfl, List.length_map ..⟩
  | items => exact pairItems_numbered entries m

/-! ## Items -/

/-- What comes of taking the next item of an iterator that goes through a collection. -/
structure Takes (m : Memory) (a : Nat) (result : Except Failure (Option Value)) (m' : Memory) :
    Prop where
  lists : m'.heap.lists = m.heap.lists
  onward : ∀ P, m.heap.Onward P m'.heap
  fails : ∀ e, result = .error e → ∃ f, e = .fault f
  /-- With an item that was given, there is less left. -/
  gives : ∀ v, result = .ok (some v) → ∀ n, m.heap.remaining? a = some n →
    ∃ n' < n, m'.heap.remaining? a = some n'

theorem takes_fault (f : Fault) : Takes m a (.error (.fault f)) m where
  lists := rfl
  onward _ := .refl _
  fails _ h := ⟨f, (Except.error.inj h).symm⟩
  gives _ h := nomatch h

section

variable {i : Iteration} (hput : m'.heap.iterations = (m.heap.setIteration a i).iterations)
  (hlists : m'.heap.lists = m.heap.lists)

include hput hlists

theorem takes_some (v : Value)
    (hless : ∀ lengths n, (m.heap.iteration a).left? lengths = some n →
      ∃ n' ≤ n, i.left? lengths = some n' ∧ ((∀ l, lengths l = (m.heap.list l).size) → n' < n)) :
    Takes m a (.ok (some v)) m' where
  lists := hlists
  onward P := by
    refine .trans (Heap.onward_setIteration fun lengths n hn => ?_) (.of_iterations hput)
    obtain ⟨n', hle, hn', -⟩ := hless lengths n (Heap.iteration_of_left? hn).2
    exact ⟨n', hle, hn'⟩
  fails _ h := nomatch h
  gives _ _ n hn := by
    obtain ⟨hget, hleft⟩ := Heap.iteration_of_left? hn
    obtain ⟨n', -, hn', hlt⟩ := hless _ n hleft
    have hlengths (l : Nat) : m'.heap.list l = m.heap.list l := by
      rw [Heap.list, Heap.list, hlists]
    refine ⟨n', hlt fun _ => rfl, ?_⟩
    simp only [Heap.remaining?, hlengths]
    rw [Heap.left?, hput, ← hn']
    exact Heap.left?_setIteration_self (Array.getElem?_eq_some_iff.mp hget).1 i _

theorem takes_one (v : Value) {n : Nat}
    (hbefore : ∀ lengths, (m.heap.iteration a).left? lengths = some (n + 1))
    (hafter : ∀ lengths, i.left? lengths = some n) : Takes m a (.ok (some v)) m' := by
  refine takes_some hput hlists v fun lengths k hk => ?_
  obtain rfl : n + 1 = k := Option.some.inj ((hbefore lengths).symm.trans hk)
  exact ⟨n, Nat.le_succ n, hafter lengths, fun _ => Nat.lt_succ_self n⟩

theorem takes_none (hle : ∀ lengths n, (m.heap.iteration a).left? lengths = some n →
      ∃ n' ≤ n, i.left? lengths = some n') : Takes m a (.ok none) m' where
  lists := hlists
  onward _ := .trans (Heap.onward_setIteration fun lengths n hn =>
    hle lengths n (Heap.iteration_of_left? hn).2) (.of_iterations hput)
  fails _ h := nomatch h
  gives _ h := nomatch h

end

theorem takes_finish : Takes m a (.ok none) { m with heap := m.heap.setIteration a .done } :=
  takes_none rfl rfl fun _ n _ => ⟨0, Nat.zero_le n, rfl⟩

theorem Takes.goes {P : Nat → Prop} (h : Takes m a result m') :
    (Dialog.done result m').Goes P m.heap := by
  cases result with
  | ok item => exact .ok item (h.onward P)
  | error e =>
      obtain ⟨f, rfl⟩ := h.fails e rfl
      exact .fault f (h.onward P)

/-! ## Kinds of iterators -/

theorem heap_bind_apply {α : Type} (k : Heap → Eval α) (m : Memory) :
    (heap >>= k) m = k m.heap m :=
  bind_of_apply rfl

-- The equations of this long definition are made here, once for all kinds.
attribute [local simp] next

def TakesNext (f : Nat) (m : Memory) (a : Nat) : Prop :=
  ∃ result m', next (f + 1) a m = .done result m' ∧ Takes m a result m'

section

variable (f : Nat)

theorem takesNext_list {l i : Nat} (hi : m.heap.iteration a = .list l i) : TakesNext f m a := by
  simp only [TakesNext, next, heap_bind_apply, hi]
  cases hitem : (m.heap.list l)[i]? with
  | none => exact ⟨_, _, rfl, takes_finish⟩
  | some v =>
      have hlt := (Array.getElem?_eq_some_iff.mp hitem).1
      refine ⟨_, _, rfl, takes_some (i := .list l (i + 1)) (by rfl) (by rfl) v ?_⟩
      intro lengths n hn
      obtain rfl : lengths l - i = n := by simpa [hi, Iteration.left?] using hn
      refine ⟨_, Nat.sub_le_sub_left (Nat.le_succ i) _, rfl, fun hlengths => ?_⟩
      rw [hlengths]
      exact Nat.sub_lt_sub_left hlt (Nat.lt_succ_self i)

theorem takesNext_listBackwards {l remaining : Nat}
    (hi : m.heap.iteration a = .listBackwards l remaining) : TakesNext f m a := by
  simp only [TakesNext, next, heap_bind_apply, hi]
  cases remaining with
  | zero => exact ⟨_, _, rfl, takes_finish⟩
  | succ i =>
      dsimp only
      cases hitem : (m.heap.list l)[i]? with
      | none => exact ⟨_, _, rfl, takes_finish⟩
      | some v =>
          exact ⟨_, _, rfl, takes_one (i := .listBackwards l i) (by rfl) (by rfl) v
            (fun _ => by rw [hi]; rfl) fun _ => rfl⟩

theorem takesNext_items {type : Text} {rest : List Value}
    (hi : m.heap.iteration a = .items type rest) : TakesNext f m a := by
  simp only [TakesNext, next, heap_bind_apply, hi]
  cases rest with
  | nil => exact ⟨_, _, rfl, takes_finish⟩
  | cons v rest =>
      exact ⟨_, _, rfl, takes_one (i := .items type rest) (by rfl) (by rfl) v
        (fun _ => by rw [hi]; rfl) fun _ => rfl⟩

theorem takesNext_range {first step : Int} {remaining : Nat}
    (hi : m.heap.iteration a = .range first step remaining) : TakesNext f m a := by
  simp only [TakesNext, next, heap_bind_apply, hi]
  cases remaining with
  | zero => exact ⟨_, _, rfl, takes_finish⟩
  | succ k =>
      obtain ⟨v, serial, hnew⟩ := newInt_numbered first
        { m with heap := m.heap.setIteration a (.range (first + step) step k) }
      exact ⟨.ok (some v), _, bind_of_apply hnew,
        takes_one (i := .range (first + step) step k) (by rfl) (by rfl) v
          (fun _ => by rw [hi]; rfl) fun _ => rfl⟩

theorem takesNext_mapping {kind : ViewKind} {address size i : Nat}
    (hi : m.heap.iteration a = .mapping kind address size i) : TakesNext f m a := by
  simp only [TakesNext, next, heap_bind_apply, hi]
  split
  · exact ⟨_, m, rfl, takes_fault _⟩
  · next hsize =>
      obtain ⟨vs, serial, hviewed, hlength⟩ :=
        viewed_numbered kind (((m.heap.mapping address).entries.drop i).take 1) m
      rw [bind_of_apply hviewed]
      cases vs with
      | nil =>
          exact ⟨_, _, rfl, takes_none (i := .done) (by rfl) (by rfl)
            fun _ n _ => ⟨0, Nat.zero_le n, rfl⟩⟩
      | cons v _ =>
          have hlt : i < size := by
            simp at hlength
            omega
          exact ⟨_, _, rfl, takes_one (i := .mapping kind address size (i + 1)) (by rfl)
            (by rfl) v (fun _ => by rw [hi]; simp [Iteration.left?]; omega) fun _ => rfl⟩

theorem takesNext_mappingBackwards {kind : ViewKind} {address size remaining : Nat}
    (hi : m.heap.iteration a = .mappingBackwards kind address size remaining) :
    TakesNext f m a := by
  simp only [TakesNext, next, heap_bind_apply, hi]
  split
  · exact ⟨_, m, rfl, takes_fault _⟩
  · cases remaining with
    | zero => exact ⟨_, _, rfl, takes_finish⟩
    | succ i =>
        obtain ⟨vs, serial, hviewed, -⟩ :=
          viewed_numbered kind (((m.heap.mapping address).entries.drop i).take 1)
            { m with heap := m.heap.setIteration a (.mappingBackwards kind address size i) }
        refine ⟨.ok vs.head?, _, bind_of_apply hviewed, ?_⟩
        cases vs with
        | nil =>
            refine takes_none (i := .mappingBackwards kind address size i) (by rfl) (by rfl) ?_
            intro _ n hn
            obtain rfl : i + 1 = n := by simpa [hi, Iteration.left?] using hn
            exact ⟨i, Nat.le_succ i, rfl⟩
        | cons v _ =>
            exact takes_one (i := .mappingBackwards kind address size i) (by rfl) (by rfl) v
              (fun _ => by rw [hi]; rfl) fun _ => rfl

theorem takesNext_set {address size i : Nat} (hi : m.heap.iteration a = .set address size i) :
    TakesNext f m a := by
  simp only [TakesNext, next, heap_bind_apply, hi]
  split
  · exact ⟨_, m, rfl, takes_fault _⟩
  · next hsize =>
      cases hitem : (m.heap.set address)[i]? with
      | none => exact ⟨_, _, rfl, takes_finish⟩
      | some v =>
          have hlt := (Array.getElem?_eq_some_iff.mp hitem).1
          exact ⟨_, _, rfl, takes_one (i := .set address size (i + 1)) (by rfl) (by rfl) v
            (fun _ => by rw [hi]; simp [Iteration.left?]; omega) fun _ => rfl⟩

end

/-- The next item of an iterator that goes through a collection is taken at once. -/
theorem takesNext_of_remaining? (f : Nat) {n : Nat} (ha : m.heap.remaining? a = some n) :
    TakesNext f m a := by
  obtain ⟨-, hleft⟩ := Heap.iteration_of_left? ha
  cases hi : m.heap.iteration a with
  | done =>
      have hnext : next (f + 1) a m = .done (.ok none) m := by
        simp only [next, heap_bind_apply, hi]
        rfl
      exact ⟨_, m, hnext, rfl, fun _ => .refl _, nofun, nofun⟩
  | list => exact takesNext_list f hi
  | listBackwards => exact takesNext_listBackwards f hi
  | items => exact takesNext_items f hi
  | range => exact takesNext_range f hi
  | mapping => exact takesNext_mapping f hi
  | mappingBackwards => exact takesNext_mappingBackwards f hi
  | set => exact takesNext_set f hi
  | enumerate | zip | map | filter | comprehension =>
      rw [hi] at hleft
      cases hleft

end Eval

end Stencil
