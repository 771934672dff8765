import Stencil.Value.Heap

/-!
# Iterators that run down

An iterator that goes through a collection has a known number of items left; over a list it depends
on how long the list is by then. The others take what they give from iterators of their own or from
expressions. Changes of a heap go onward if they set no iterator back.
-/

namespace Stencil

/-- How many items are left at most, for given lengths of lists; `none` if the iterator does not go
through a collection. -/
def Iteration.left? (lengths : Nat → Nat) : Iteration → Option Nat
  | .done => some 0
  | .list l i => some (lengths l - i)
  | .listBackwards _ remaining | .range _ _ remaining | .mappingBackwards _ _ _ remaining =>
    some remaining
  | .items _ rest => some rest.length
  | .mapping _ _ size i | .set _ size i => some (size - i)
  | .enumerate .. | .zip .. | .map .. | .filter .. | .comprehension .. => none

theorem Iteration.isSome_left? (lengths lengths' : Nat → Nat) (i : Iteration) :
    (i.left? lengths).isSome = (i.left? lengths').isSome := by
  cases i <;> rfl

namespace Heap

def left? (h : Heap) (lengths : Nat → Nat) (a : Nat) : Option Nat :=
  h.iterations[a]?.bind (·.left? lengths)

/-- How many items an iterator has left at most, if lists stay as long as they are. -/
def remaining? (h : Heap) (a : Nat) : Option Nat := h.left? (fun l => (h.list l).size) a

theorem iteration_of_left? {h : Heap} {lengths : Nat → Nat} {a n : Nat}
    (ha : h.left? lengths a = some n) :
    h.iterations[a]? = some (h.iteration a) ∧ (h.iteration a).left? lengths = some n := by
  obtain ⟨i, hi, hn⟩ := Option.bind_eq_some_iff.mp ha
  have hiteration : h.iteration a = i := by
    rw [iteration, Array.getD_eq_getD_getElem?, hi, Option.getD_some]
  rw [hiteration]
  exact ⟨hi, hn⟩

variable {P : Nat → Prop} {h h' h'' : Heap} {a : Nat}

variable (P) in
def Plain (h : Heap) : Prop := ∀ a, P a → ∀ lengths, ∃ n, h.left? lengths a = some n

variable (P) in
/-- None of these iterators has more left than before. -/
def Onward (h h' : Heap) : Prop :=
  ∀ a, P a → ∀ lengths n, h.left? lengths a = some n → ∃ n' ≤ n, h'.left? lengths a = some n'

theorem plain_singleton {lengths : Nat → Nat} {n : Nat} (ha : h.left? lengths a = some n) :
    h.Plain (· = a) := by
  rintro _ rfl lengths'
  obtain ⟨hget, hleft⟩ := iteration_of_left? ha
  rw [left?, hget]
  refine Option.isSome_iff_exists.mp ?_
  rw [Option.bind_some, Iteration.isSome_left? lengths', hleft, Option.isSome_some]

namespace Onward

theorem of_iterations (hsame : h'.iterations = h.iterations) : h.Onward P h' :=
  fun _ _ _ n hn => ⟨n, Nat.le_refl n, by rwa [left?, hsame]⟩

theorem refl (h : Heap) : h.Onward P h := of_iterations rfl

theorem trans (hfirst : h.Onward P h') (hrest : h'.Onward P h'') : h.Onward P h'' := by
  intro a ha lengths n hn
  obtain ⟨n', hle, hn'⟩ := hfirst a ha lengths n hn
  obtain ⟨n'', hle', hn''⟩ := hrest a ha lengths n' hn'
  exact ⟨n'', Nat.le_trans hle' hle, hn''⟩

theorem of_plain (honward : ∀ a, P a → h.Plain (· = a) → h.Onward (· = a) h') : h.Onward P h' :=
  fun a ha lengths n hn => honward a ha (plain_singleton hn) a rfl lengths n hn

theorem mono {Q : Nat → Prop} (honward : h.Onward P h') (hQ : ∀ a, Q a → P a) : h.Onward Q h' :=
  fun a ha => honward a (hQ a ha)

theorem plain (honward : h.Onward P h') (hplain : h.Plain P) : h'.Plain P := by
  intro a ha lengths
  obtain ⟨n, hn⟩ := hplain a ha lengths
  obtain ⟨n', -, hn'⟩ := honward a ha lengths n hn
  exact ⟨n', hn'⟩

end Onward

/-! ## Changes that go onward -/

@[grind =] theorem iterations_setList (a : Nat) (items : Array Value) :
    (h.setList a items).iterations = h.iterations := rfl

@[grind =] theorem iterations_setMapping (a : Nat) (m : Mapping) :
    (h.setMapping a m).iterations = h.iterations := rfl

@[grind =] theorem iterations_setSet (a : Nat) (items : Array Value) :
    (h.setSet a items).iterations = h.iterations := rfl

@[grind =] theorem iterations_newList (items : Array Value) :
    (h.newList items).2.iterations = h.iterations := rfl

@[grind =] theorem iterations_newMapping (m : Mapping) :
    (h.newMapping m).2.iterations = h.iterations := rfl

@[grind =] theorem iterations_newSet (items : Array Value) :
    (h.newSet items).2.iterations = h.iterations := rfl

@[grind =] theorem iterations_newClosure (c : Closure) :
    (h.newClosure c).2.iterations = h.iterations := rfl

@[grind =] theorem iterations_newSerial : h.newSerial.2.iterations = h.iterations := rfl

theorem onward_newIterator (i : Iteration) : h.Onward P (h.newIterator i).2 := by
  intro a _ lengths n hn
  obtain ⟨hlt, -⟩ := Array.getElem?_eq_some_iff.mp (iteration_of_left? hn).1
  exact ⟨n, Nat.le_refl n, by rwa [left?, newIterator, Array.getElem?_push_lt hlt,
    ← Array.getElem?_eq_getElem hlt]⟩

theorem left?_setIteration_of_ne {a b : Nat} (hne : a ≠ b) (i : Iteration)
    (lengths : Nat → Nat) : (h.setIteration a i).left? lengths b = h.left? lengths b := by
  rw [left?, left?, setIteration, Array.getElem?_setIfInBounds_ne hne]

theorem left?_setIteration_self (ha : a < h.iterations.size) (i : Iteration)
    (lengths : Nat → Nat) : (h.setIteration a i).left? lengths a = i.left? lengths := by
  rw [left?, setIteration, Array.getElem?_setIfInBounds_self_of_lt ha, Option.bind_some]

theorem onward_setIteration_of_not_mem (ha : ¬ P a) (i : Iteration) :
    h.Onward P (h.setIteration a i) := by
  intro b hb lengths n hn
  have hne : a ≠ b := by
    rintro rfl
    exact ha hb
  exact ⟨n, Nat.le_refl n, by rwa [left?_setIteration_of_ne hne]⟩

theorem onward_setIteration {i : Iteration}
    (hle : ∀ lengths n, h.left? lengths a = some n → ∃ n' ≤ n, i.left? lengths = some n') :
    h.Onward P (h.setIteration a i) := by
  intro b _ lengths n hn
  by_cases hab : a = b
  · subst hab
    obtain ⟨hlt, -⟩ := Array.getElem?_eq_some_iff.mp (iteration_of_left? hn).1
    rw [left?_setIteration_self hlt]
    exact hle lengths n hn
  · exact ⟨n, Nat.le_refl n, by rwa [left?_setIteration_of_ne hab]⟩

end Heap

end Stencil
