import Stencil.Eval.Member
import Stencil.Proofs.Eval.Mirroring

/-!
# Items and members in step

Reading an item, a slice or a member of matching values gives values that match, and changes of
matching containers keep heaps matching.
-/

namespace Stencil

variable {μ : Matching} {α β : Type} {R : α → β → Prop}

theorem SliceBounds.take_related (b : SliceBounds) {xs : Array α} {ys : Array β}
    (h : ArraysRelated R xs ys) : List.Forall₂ R (b.take xs) (b.take ys) := by
  unfold take
  rw [h.size_eq]
  refine List.Forall₂.filterMap (List.forall₂_same.mpr fun _ _ => rfl) ?_
  rintro i _ rfl
  exact h.getElem? i

namespace Eval

/-! ## Slices -/

theorem mirrors_itemAt (k : SequenceKind) (index : Int) {xs : Array α} {ys : Array β}
    (h : ArraysRelated R xs ys) : Mirrors μ R (itemAt k xs index) (itemAt k ys index) := by
  unfold itemAt
  split_ifs
  · exact .fault _
  · rw [h.size_eq]
    cases position? ys.size index with
    | none => exact .fault _
    | some i =>
      have hi := h.getElem? i
      simp only [Option.bind_some]
      generalize xs[i]? = x at hi ⊢
      generalize ys[i]? = y at hi ⊢
      cases hi with
      | some hab => exact .pure hab
      | none => exact .fault _

theorem mirrors_sliceBound {v v' : Value} (hv : v.Matches μ v') :
    Mirrors μ Eq (sliceBound v) (sliceBound v') := by
  cases hv with
  | none | int | bool => exact .pure rfl
  | _ => exact .fault _

theorem mirrors_sliceBounds {start start' stop stop' step step' : Value}
    (hstart : start.Matches μ start') (hstop : stop.Matches μ stop')
    (hstep : step.Matches μ step') :
    Mirrors μ Eq (sliceBounds start stop step) (sliceBounds start' stop' step') := by
  refine (mirrors_sliceBound hstep).bind_eq fun k => ?_
  split_ifs
  · exact .fault _
  · exact (mirrors_sliceBound hstart).bind_eq fun _ => (mirrors_sliceBound hstop).bind_eq fun _ =>
      .pure rfl

/-! ## Reading -/

section

variable {v v' w w' : Value} (hv : v.Matches μ v')
include hv

theorem mirrors_notSubscriptable :
    Mirrors μ (Value.Matches μ) (notSubscriptable v) (notSubscriptable v') := by
  have hcomplaint := mirrors_complaint (R := Value.Matches μ) hv .notSubscriptable
  cases hv with
  | builtin b =>
    dsimp only [notSubscriptable]
    split_ifs
    · exact .fault _
    · exact hcomplaint
  | _ => exact hcomplaint

theorem mirrors_getKey {a b : Nat} (ha : μ.rel .mapping a b) :
    Mirrors μ (Value.Matches μ) (getKey a v) (getKey b v') := by
  refine (mirrors_checkKey hv).bind_eq fun _ => mirrors_heap.bind fun h h' hh => ?_
  have hm := hh.mapping ha
  have hfound := hm.get? hv
  dsimp only
  rw [hm.isScope]
  generalize (h.mapping a).get? v = x at hfound ⊢
  generalize (h'.mapping b).get? v' = y at hfound ⊢
  cases hfound with
  | some hw => exact .pure hw
  | none =>
    cases (h'.mapping b).isScope with
    | true => exact .pure .none
    | false => exact (mirrors_datum hv).bind_eq fun _ => .fault _

theorem mirrors_getItem (hw : w.Matches μ w') :
    Mirrors μ (Value.Matches μ) (getItem v w) (getItem v' w') := by
  have hcomplaint (f : Text → Fault) := mirrors_complaint (R := Value.Matches μ) hw f
  have hnot := mirrors_notSubscriptable hv
  have hindex := hw.int?_eq
  unfold getItem
  cases hv with
  | mapping ha => exact mirrors_getKey hw ha
  | list ha =>
    rw [hindex]
    cases w'.int? with
    | some n => exact mirrors_heap.bind fun _ _ hh => mirrors_itemAt _ _ (hh.list ha)
    | none => exact hcomplaint _
  | tuple hvs =>
    rw [hindex]
    cases w'.int? with
    | some n => exact mirrors_itemAt _ _ (.ofLists hvs)
    | none => exact hcomplaint _
  | str t =>
    rw [hindex]
    cases w'.int? with
    | some n =>
      have hcharacters : ArraysRelated Eq t.toArray t.toArray :=
        .ofLists (List.forall₂_same.mpr fun _ _ => rfl)
      exact (mirrors_itemAt _ _ hcharacters).bind_eq fun c => mirrors_newText [c]
    | none => exact hcomplaint _
  | range start stop step =>
    rw [hindex]
    cases w'.int? with
    | some n =>
      dsimp only
      cases position? (Value.rangeLength start stop step) n with
      | some i => exact mirrors_newInt _
      | none => exact .fault _
    | none => exact hcomplaint _
  | _ => exact hnot

theorem mirrors_getSlice {start start' stop stop' step step' : Value}
    (hstart : start.Matches μ start') (hstop : stop.Matches μ stop')
    (hstep : step.Matches μ step') :
    Mirrors μ (Value.Matches μ) (getSlice v start stop step) (getSlice v' start' stop' step') := by
  have hbounds := mirrors_sliceBounds hstart hstop hstep
  have hnot := mirrors_notSubscriptable hv
  unfold getSlice
  cases hv with
  | list ha =>
    exact hbounds.bind_eq fun b => mirrors_heap.bind fun _ _ hh =>
      mirrors_newList (b.take_related (hh.list ha))
  | tuple hvs hi =>
    refine hbounds.bind_eq fun b => ?_
    rw [hvs.length_eq]
    split_ifs
    · exact .pure (.tuple hvs hi)
    · exact mirrors_newTuple (b.take_related (.ofLists hvs))
  | str t hi =>
    refine hbounds.bind_eq fun b => ?_
    split_ifs
    · exact .pure (.str t hi)
    · exact mirrors_newText _
  | range =>
    exact hbounds.bind_eq fun _ => mirrors_serial.bind fun _ _ hs =>
      .pure (.range _ _ _ (.made hs))
  | mapping => exact .fault _
  | _ => exact hnot

/-! ## Changes -/

theorem mirrors_setItem {u u' : Value} (hw : w.Matches μ w') (hu : u.Matches μ u') :
    Mirrors μ Eq (setItem v w u) (setItem v' w' u') := by
  have hcomplaint := mirrors_complaint (R := Eq (α := Unit)) hv .noItemAssignment
  have hindex := hw.int?_eq
  unfold setItem
  cases hv with
  | mapping ha =>
    exact (mirrors_checkKey hw).bind_eq fun _ => mirrors_modifyHeap fun _ _ hh =>
      hh.setMapping ha ((hh.mapping ha).put hw hu)
  | list ha =>
    rw [hindex]
    cases w'.int? with
    | some n =>
      refine mirrors_heap.bind fun h h' hh => ?_
      have hitems := hh.list ha
      dsimp only
      rw [hitems.size_eq]
      cases position? (h'.list _).size n with
      | some i =>
        exact mirrors_modifyHeap fun _ _ hh => hh.setList ha (hitems.setIfInBounds i hu)
      | none => exact .fault _
    | none => exact mirrors_complaint hw _
  | _ => exact hcomplaint

theorem mirrors_removeItem (hw : w.Matches μ w') :
    Mirrors μ Eq (removeItem v w) (removeItem v' w') := by
  have hcomplaint := mirrors_complaint (R := Eq (α := Unit)) hv .noItemDeletion
  have hindex := hw.int?_eq
  unfold removeItem
  cases hv with
  | mapping ha =>
    refine (mirrors_checkKey hw).bind_eq fun _ => mirrors_heap.bind fun h h' hh => ?_
    have hm := hh.mapping ha
    dsimp only
    rw [(hm.get? hw).isSome_eq]
    split_ifs
    · exact mirrors_modifyHeap fun _ _ hh => hh.setMapping ha (hm.remove hw)
    · exact (mirrors_datum hw).bind_eq fun _ => .fault _
  | list ha =>
    rw [hindex]
    cases w'.int? with
    | some n =>
      refine mirrors_heap.bind fun h h' hh => ?_
      have hitems := hh.list ha
      dsimp only
      rw [hitems.size_eq]
      cases position? (h'.list _).size n with
      | some i =>
        exact mirrors_modifyHeap fun _ _ hh => hh.setList ha (hitems.eraseIdxIfInBounds i)
      | none => exact .fault _
    | none => exact mirrors_complaint hw _
  | _ => exact hcomplaint

section

variable {start start' stop stop' step step' : Value} (hstart : start.Matches μ start')
  (hstop : stop.Matches μ stop') (hstep : step.Matches μ step')
include hstart hstop hstep

theorem mirrors_setSlice {vs ws : List Value} (hvs : List.Forall₂ (Value.Matches μ) vs ws) :
    Mirrors μ Eq (setSlice v start stop step vs) (setSlice v' start' stop' step' ws) := by
  have hcomplaint := mirrors_complaint (R := Eq (α := Unit)) hv .noItemAssignment
  unfold setSlice
  cases hv with
  | list ha =>
    refine (mirrors_sliceBounds hstart hstop hstep).bind_eq fun b =>
      mirrors_heap.bind fun h h' hh => ?_
    have hitems := hh.list ha
    dsimp only
    rw [hitems.size_eq, hvs.length_eq]
    split_ifs
    · exact mirrors_modifyHeap fun _ _ hh => hh.setList ha <| .ofLists <|
        List.rel_append (List.rel_append (List.forall₂_take _ hitems) hvs)
          (List.forall₂_drop _ hitems)
    · exact .fault _
    · refine mirrors_modifyHeap fun _ _ hh => hh.setList ha ?_
      have hpositions {ps : List Nat} : List.Forall₂ Eq ps ps :=
        List.forall₂_same.mpr fun _ _ => rfl
      refine (hpositions.zip hvs).foldl (fun xs ys p q hxy hpq => ?_) hitems
      rw [hpq.1]
      exact hxy.setIfInBounds _ hpq.2
  | _ => exact hcomplaint

theorem mirrors_removeSlice :
    Mirrors μ Eq (removeSlice v start stop step) (removeSlice v' start' stop' step') := by
  have hcomplaint := mirrors_complaint (R := Eq (α := Unit)) hv .noItemDeletion
  unfold removeSlice
  cases hv with
  | list ha =>
    refine (mirrors_sliceBounds hstart hstop hstep).bind_eq fun b =>
      mirrors_heap.bind fun h h' hh => ?_
    have hitems := hh.list ha
    dsimp only
    rw [hitems.size_eq]
    refine mirrors_modifyHeap fun _ _ hh => hh.setList ha <| .ofLists <|
      (List.Forall₂.zipIdx hitems 0).filterMap fun p q hpq => ?_
    simp only [hpq.2]
    split_ifs
    · exact .none
    · exact .some hpq.1
  | _ => exact hcomplaint

end

end

/-! ## Members -/

section

variable {v v' : Value} (hv : v.Matches μ v') (n : Text)
include hv

theorem numberPart?_matches :
    Option.Rel (Mirrors μ (Value.Matches μ)) (numberPart? v n) (numberPart? v' n) := by
  have hself : Mirrors μ (Value.Matches μ) (pure v) (pure v') := .pure hv
  unfold numberPart?
  cases hv with
  | float x =>
    dsimp only
    split_ifs
    · exact .some hself
    · exact .some (mirrors_newFloat _)
    · exact .none
  | int | bool =>
    dsimp only [Value.int?]
    cases Datum.intPart? _ n with
    | some k => exact .some (mirrors_newInt k)
    | none => exact .none
  | _ => exact .none

theorem part?_matches : Option.Rel (Mirrors μ (Value.Matches μ)) (part? v n) (part? v' n) := by
  have hnumber := numberPart?_matches hv n
  unfold part?
  cases hv with
  | range =>
    dsimp only [rangePart?]
    split_ifs <;> first | exact .some (mirrors_newInt _) | exact .none
  | date =>
    dsimp only [datePart?]
    split_ifs <;> first | exact .some (mirrors_newInt _) | exact .none
  | _ => exact hnumber

theorem methods_eq : Heap.methods v = Heap.methods v' := by cases hv <;> rfl

theorem leavesOpen_eq : Heap.leavesOpen v n = Heap.leavesOpen v' n := by cases hv <;> rfl

theorem mirrors_noMember : Mirrors μ (Value.Matches μ) (noMember v n) (noMember v' n) :=
  mirrors_complaint hv fun type => .noMember type n

theorem mirrors_getMember : Mirrors μ (Value.Matches μ) (getMember v n) (getMember v' n) := by
  have hpart := part?_matches hv n
  unfold getMember
  rw [methods_eq hv, leavesOpen_eq hv]
  generalize part? v n = x at hpart ⊢
  generalize part? v' n = y at hpart ⊢
  cases hpart with
  | some hxy => exact hxy
  | none =>
    dsimp only
    split_ifs
    · exact mirrors_serial.bind fun _ _ hs => .pure (.method n hv hs)
    · exact .beyond n
    · exact mirrors_noMember hv n

theorem mirrors_hasMember : Mirrors μ Eq (hasMember v n) (hasMember v' n) := by
  unfold hasMember
  rw [(part?_matches hv n).isSome_eq, methods_eq hv, leavesOpen_eq hv]
  split_ifs
  · exact .pure rfl
  · exact .beyond n
  · exact .pure rfl

theorem mirrors_setMember : Mirrors μ Eq (setMember v n) (setMember v' n) := by
  refine mirrors_heap.bind fun h h' hh => ?_
  have htakes : h.takesMembers v = h'.takesMembers v' := by
    cases hv with
    | mapping hab => exact (hh.mapping hab).isScope
    | _ => rfl
  rw [htakes]
  split_ifs
  · exact .beyond n
  · refine (mirrors_hasMember hv n).bind_eq fun known => ?_
    split_ifs
    · exact mirrors_complaint hv fun type => .readOnlyMember type n
    · exact mirrors_complaint hv fun type => .noMember type n

end

end Eval

end Stencil
