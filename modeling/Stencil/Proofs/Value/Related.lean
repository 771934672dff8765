import Mathlib.Data.List.Forall2

/-!
# Related lists

What functions on lists and arrays make of two of them whose items are related one by one. An array
is seen as the list of its items; an array of objects, whose addresses are related too, is read at
one address at a time.
-/

/-! ## Optional items -/

namespace Option.Rel

variable {α β γ δ : Type} {R : α → β → Prop} {S : γ → δ → Prop} {x x' : Option α}
  {y y' : Option β}

theorem isSome_eq (h : Option.Rel R x y) : x.isSome = y.isSome := by cases h <;> rfl

theorem isNone_eq (h : Option.Rel R x y) : x.isNone = y.isNone := by cases h <;> rfl

theorem eq_none_iff (h : Option.Rel R x y) : x = Option.none ↔ y = Option.none := by
  cases h <;> simp

theorem map {f : α → γ} {g : β → δ} (h : Option.Rel R x y)
    (hfg : ∀ a b, R a b → S (f a) (g b)) : Option.Rel S (x.map f) (y.map g) := by
  cases h with
  | none => exact .none
  | some h => exact .some (hfg _ _ h)

theorem or (h : Option.Rel R x y) (h' : Option.Rel R x' y') :
    Option.Rel R (x.or x') (y.or y') := by
  cases h with
  | none => exact h'
  | some h => exact .some h

theorem chain {T : α → γ → Prop} {U : β → γ → Prop} {z : Option γ}
    (hchain : ∀ a b c, R a b → U b c → T a c) (h : Option.Rel R x y) (h' : Option.Rel U y z) :
    Option.Rel T x z := by
  cases h with
  | none =>
    cases h'
    exact .none
  | some h =>
    cases h' with
    | some h' => exact .some (hchain _ _ _ h h')

theorem getD {a : α} {b : β} (h : Option.Rel R x y) (h' : R a b) : R (x.getD a) (y.getD b) := by
  cases h with
  | none => exact h'
  | some h => exact h

theorem any_eq {p : α → Bool} {q : β → Bool} (h : Option.Rel R x y)
    (hpq : ∀ a b, R a b → p a = q b) : x.any p = y.any q := by
  cases h with
  | none => rfl
  | some h => exact hpq _ _ h

end Option.Rel

/-! ## Lists -/

namespace List.Forall₂

variable {α β γ δ : Type} {R : α → β → Prop} {S : γ → δ → Prop} {as : List α} {bs : List β}
  {p : α → Bool} {q : β → Bool}

theorem isEmpty_eq (h : Forall₂ R as bs) : as.isEmpty = bs.isEmpty := by cases h <;> rfl

theorem chain {T : α → γ → Prop} {U : β → γ → Prop} {cs : List γ}
    (hchain : ∀ a b c, R a b → U b c → T a c) (h : Forall₂ R as bs) (h' : Forall₂ U bs cs) :
    Forall₂ T as cs := by
  induction h generalizing cs with
  | nil =>
    cases h'
    exact .nil
  | cons hab _ ih =>
    cases h' with
    | cons hbc h' => exact .cons (hchain _ _ _ hab hbc) (ih h')

theorem getElem? (h : Forall₂ R as bs) (i : Nat) : Option.Rel R as[i]? bs[i]? := by
  induction h generalizing i with
  | nil => exact .none
  | cons h _ ih =>
    cases i with
    | zero => exact .some h
    | succ i => simpa using ih i

theorem head? (h : Forall₂ R as bs) : Option.Rel R as.head? bs.head? := by
  cases h with
  | nil => exact .none
  | cons h _ => exact .some h

theorem headD {a : α} {b : β} (h : Forall₂ R as bs) (hab : R a b) :
    R (as.headD a) (bs.headD b) := by
  cases h with
  | nil => exact hab
  | cons h _ => exact h

theorem getLast? (h : Forall₂ R as bs) : Option.Rel R as.getLast? bs.getLast? := by
  rw [← List.head?_reverse, ← List.head?_reverse]
  exact (rel_reverse h).head?

theorem dropLast (h : Forall₂ R as bs) : Forall₂ R as.dropLast bs.dropLast := by
  rw [List.dropLast_eq_take, List.dropLast_eq_take, h.length_eq]
  exact forall₂_take _ h

theorem any_eq (h : Forall₂ R as bs) (hpq : ∀ a b, R a b → p a = q b) :
    as.any p = bs.any q := by
  induction h with
  | nil => rfl
  | cons h _ ih => rw [any_cons, any_cons, hpq _ _ h, ih]

theorem all_eq (h : Forall₂ R as bs) (hpq : ∀ a b, R a b → p a = q b) :
    as.all p = bs.all q := by
  induction h with
  | nil => rfl
  | cons h _ ih => rw [all_cons, all_cons, hpq _ _ h, ih]

theorem find? (h : Forall₂ R as bs) (hpq : ∀ a b, R a b → p a = q b) :
    Option.Rel R (as.find? p) (bs.find? q) := by
  induction h with
  | nil => exact .none
  | @cons a b _ _ h _ ih =>
    rw [find?_cons, find?_cons, hpq a b h]
    cases q b with
    | true => exact .some h
    | false => exact ih

theorem findIdx?_eq (h : Forall₂ R as bs) (hpq : ∀ a b, R a b → p a = q b) :
    as.findIdx? p = bs.findIdx? q := by
  induction h with
  | nil => rfl
  | @cons a b _ _ h _ ih => rw [findIdx?_cons, findIdx?_cons, hpq a b h, ih]

theorem countP_eq (h : Forall₂ R as bs) (hpq : ∀ a b, R a b → p a = q b) :
    as.countP p = bs.countP q := by
  induction h with
  | nil => rfl
  | @cons a b _ _ h _ ih => rw [countP_cons, countP_cons, hpq a b h, ih]

theorem filter (h : Forall₂ R as bs) (hpq : ∀ a b, R a b → p a = q b) :
    Forall₂ R (as.filter p) (bs.filter q) := by
  induction h with
  | nil => exact .nil
  | @cons a b _ _ h _ ih =>
    rw [filter_cons, filter_cons, hpq a b h]
    split
    · exact .cons h ih
    · exact ih

theorem map {f : α → γ} {g : β → δ} (h : Forall₂ R as bs)
    (hfg : ∀ a b, R a b → S (f a) (g b)) : Forall₂ S (as.map f) (bs.map g) :=
  rel_map (fun _ _ hab => hfg _ _ hab) h

theorem map_eq {f : α → γ} {g : β → γ} (h : Forall₂ R as bs) (hfg : ∀ a b, R a b → f a = g b) :
    as.map f = bs.map g := by
  induction h with
  | nil => rfl
  | cons h _ ih => rw [map_cons, map_cons, hfg _ _ h, ih]

theorem filterMap {f : α → Option γ} {g : β → Option δ} (h : Forall₂ R as bs)
    (hfg : ∀ a b, R a b → Option.Rel S (f a) (g b)) :
    Forall₂ S (as.filterMap f) (bs.filterMap g) :=
  rel_filterMap (fun _ _ hab => hfg _ _ hab) h

theorem foldl {f : γ → α → γ} {g : δ → β → δ} {c : γ} {d : δ} (h : Forall₂ R as bs)
    (hfg : ∀ c d a b, S c d → R a b → S (f c a) (g d b)) (hcd : S c d) :
    S (as.foldl f c) (bs.foldl g d) := by
  induction h generalizing c d with
  | nil => exact hcd
  | cons h _ ih => exact ih (hfg _ _ _ _ hcd h)

theorem zip {cs : List γ} {ds : List δ} (h : Forall₂ R as bs) (h' : Forall₂ S cs ds) :
    Forall₂ (fun x y => R x.1 y.1 ∧ S x.2 y.2) (as.zip cs) (bs.zip ds) := by
  induction h generalizing cs ds with
  | nil => exact .nil
  | cons h _ ih =>
    cases h' with
    | nil => exact .nil
    | cons h' hs' => exact .cons ⟨h, h'⟩ (ih hs')

theorem zipIdx (h : Forall₂ R as bs) (k : Nat) :
    Forall₂ (fun x y => R x.1 y.1 ∧ x.2 = y.2) (as.zipIdx k) (bs.zipIdx k) := by
  induction h generalizing k with
  | nil => exact .nil
  | cons h _ ih => exact .cons ⟨h, rfl⟩ (ih (k + 1))

theorem replicate {a : α} {b : β} (h : R a b) (n : Nat) :
    Forall₂ R (List.replicate n a) (List.replicate n b) := by
  induction n with
  | zero => exact .nil
  | succ n ih => exact .cons h ih

theorem set {a : α} {b : β} (h : Forall₂ R as bs) (i : Nat) (hab : R a b) :
    Forall₂ R (as.set i a) (bs.set i b) := by
  induction h generalizing i with
  | nil => exact .nil
  | cons h hs ih =>
    cases i with
    | zero => exact .cons hab hs
    | succ i => exact .cons h (ih i)

theorem eraseIdx (h : Forall₂ R as bs) (i : Nat) :
    Forall₂ R (as.eraseIdx i) (bs.eraseIdx i) := by
  induction h generalizing i with
  | nil => exact .nil
  | cons h hs ih =>
    cases i with
    | zero => exact hs
    | succ i => exact .cons h (ih i)

theorem insertIdx {a : α} {b : β} (h : Forall₂ R as bs) (i : Nat) (hab : R a b) :
    Forall₂ R (as.insertIdx i a) (bs.insertIdx i b) := by
  induction h generalizing i with
  | nil =>
    cases i with
    | zero => exact .cons hab .nil
    | succ i => exact .nil
  | cons h hs ih =>
    cases i with
    | zero => exact .cons hab (.cons h hs)
    | succ i => exact .cons h (ih i)

end List.Forall₂

namespace Stencil

variable {α β γ δ : Type} {R : α → β → Prop} {S : γ → δ → Prop}

/-! ## Arrays -/

def ArraysRelated (R : α → β → Prop) (xs : Array α) (ys : Array β) : Prop :=
  List.Forall₂ R xs.toList ys.toList

namespace ArraysRelated

variable {xs xs' : Array α} {ys ys' : Array β} {a : α} {b : β}

theorem ofLists {as : List α} {bs : List β} (h : List.Forall₂ R as bs) :
    ArraysRelated R as.toArray bs.toArray := h

theorem size_eq (h : ArraysRelated R xs ys) : xs.size = ys.size := by
  simpa using List.Forall₂.length_eq h

theorem isEmpty_eq (h : ArraysRelated R xs ys) : xs.isEmpty = ys.isEmpty := by
  simp only [Array.isEmpty, h.size_eq]

theorem getElem? (h : ArraysRelated R xs ys) (i : Nat) : Option.Rel R xs[i]? ys[i]? := by
  simpa using List.Forall₂.getElem? h i

theorem getD (h : ArraysRelated R xs ys) (i : Nat) (hab : R a b) :
    R (xs.getD i a) (ys.getD i b) := by
  rw [Array.getD_eq_getD_getElem?, Array.getD_eq_getD_getElem?]
  exact Option.Rel.getD (h.getElem? i) hab

theorem push (h : ArraysRelated R xs ys) (hab : R a b) :
    ArraysRelated R (xs.push a) (ys.push b) := by
  simpa [ArraysRelated] using List.rel_append h (.cons hab .nil)

theorem append (h : ArraysRelated R xs ys) (h' : ArraysRelated R xs' ys') :
    ArraysRelated R (xs ++ xs') (ys ++ ys') := by
  simpa [ArraysRelated] using List.rel_append h h'

theorem reverse (h : ArraysRelated R xs ys) : ArraysRelated R xs.reverse ys.reverse := by
  simpa [ArraysRelated] using h

theorem any_eq {p : α → Bool} {q : β → Bool} (h : ArraysRelated R xs ys)
    (hpq : ∀ a b, R a b → p a = q b) : xs.any p = ys.any q := by
  simpa using List.Forall₂.any_eq h hpq

theorem all_eq {p : α → Bool} {q : β → Bool} (h : ArraysRelated R xs ys)
    (hpq : ∀ a b, R a b → p a = q b) : xs.all p = ys.all q := by
  simpa using List.Forall₂.all_eq h hpq

theorem findIdx?_eq {p : α → Bool} {q : β → Bool} (h : ArraysRelated R xs ys)
    (hpq : ∀ a b, R a b → p a = q b) : xs.findIdx? p = ys.findIdx? q := by
  obtain ⟨as⟩ := xs
  obtain ⟨bs⟩ := ys
  simpa using List.Forall₂.findIdx?_eq h hpq

theorem filter {p : α → Bool} {q : β → Bool} (h : ArraysRelated R xs ys)
    (hpq : ∀ a b, R a b → p a = q b) : ArraysRelated R (xs.filter p) (ys.filter q) := by
  simpa [ArraysRelated] using List.Forall₂.filter h hpq

theorem foldl {f : γ → α → γ} {g : δ → β → δ} {c : γ} {d : δ} (h : ArraysRelated R xs ys)
    (hfg : ∀ c d a b, S c d → R a b → S (f c a) (g d b)) (hcd : S c d) :
    S (xs.foldl f c) (ys.foldl g d) := by
  simpa using List.Forall₂.foldl h hfg hcd

theorem setIfInBounds (h : ArraysRelated R xs ys) (i : Nat) (hab : R a b) :
    ArraysRelated R (xs.setIfInBounds i a) (ys.setIfInBounds i b) := by
  simpa [ArraysRelated] using List.Forall₂.set h i hab

theorem eraseIdxIfInBounds (h : ArraysRelated R xs ys) (i : Nat) :
    ArraysRelated R (xs.eraseIdxIfInBounds i) (ys.eraseIdxIfInBounds i) := by
  simpa [ArraysRelated] using List.Forall₂.eraseIdx h i

theorem insertIdxIfInBounds (h : ArraysRelated R xs ys) (i : Nat) (hab : R a b) :
    ArraysRelated R (xs.insertIdxIfInBounds i a) (ys.insertIdxIfInBounds i b) := by
  have htoList {ε : Type} (xs : Array ε) (a : ε) : (xs.insertIdxIfInBounds i a).toList =
      xs.toList.insertIdx i a := by
    unfold Array.insertIdxIfInBounds
    split
    · exact Array.toList_insertIdx _
    · rw [List.insertIdx_of_length_lt (Nat.lt_of_not_le ‹_›)]
  simpa only [ArraysRelated, htoList] using List.Forall₂.insertIdx h i hab

end ArraysRelated

/-! ## Objects -/

/-- Objects at related addresses are related, or both addresses lie behind all objects. -/
def StoresRelated (rel : Nat → Nat → Prop) (R : α → β → Prop) (xs : Array α) (ys : Array β) :
    Prop :=
  ∀ a b, rel a b → Option.Rel R xs[a]? ys[b]?

namespace StoresRelated

variable {rel : Nat → Nat → Prop} {xs : Array α} {ys : Array β} {x : α} {y : β} {a b : Nat}

theorem getD (h : StoresRelated rel R xs ys) (hab : rel a b) (hxy : R x y) :
    R (xs.getD a x) (ys.getD b y) := by
  rw [Array.getD_eq_getD_getElem?, Array.getD_eq_getD_getElem?]
  exact Option.Rel.getD (h a b hab) hxy

theorem push (h : StoresRelated rel R xs ys) (hrel : Relator.BiUnique rel)
    (hnew : rel xs.size ys.size) (hxy : R x y) : StoresRelated rel R (xs.push x) (ys.push y) := by
  intro a b hab
  rw [Array.getElem?_push, Array.getElem?_push]
  by_cases ha : a = xs.size
  · rw [if_pos ha, if_pos ((Relator.rel_eq hrel hab hnew).mp ha)]
    exact .some hxy
  · rw [if_neg ha, if_neg (mt (Relator.rel_eq hrel hab hnew).mpr ha)]
    exact h a b hab

theorem setIfInBounds {c d : Nat} (h : StoresRelated rel R xs ys)
    (hrel : Relator.BiUnique rel) (hcd : rel c d) (hxy : R x y) :
    StoresRelated rel R (xs.setIfInBounds c x) (ys.setIfInBounds d y) := by
  intro a b hab
  rw [Array.getElem?_setIfInBounds, Array.getElem?_setIfInBounds]
  have hold := h a b hab
  by_cases ha : c = a
  · rw [if_pos ha, if_pos ((Relator.rel_eq hrel hcd hab).mp ha)]
    have hbounds : a < xs.size ↔ b < ys.size := by
      rw [← Nat.not_le, ← Nat.not_le, ← Array.getElem?_eq_none_iff, ← Array.getElem?_eq_none_iff,
        hold.eq_none_iff]
    have hd := (Relator.rel_eq hrel hcd hab).mp ha
    subst ha hd
    simp only [hbounds]
    split
    · exact .some hxy
    · exact .none
  · rw [if_neg ha, if_neg (mt (Relator.rel_eq hrel hcd hab).mpr ha)]
    exact hold

end StoresRelated

end Stencil
