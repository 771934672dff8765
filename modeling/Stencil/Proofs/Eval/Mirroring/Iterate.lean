import Stencil.Eval.Sort
import Stencil.Proofs.Eval.Mirroring

/-!
# Iterating and sorting in step

Iterators that are made of matching values stand for each other, and what they give matches. Items
are sorted by comparisons that come out the same, so they end up in the same order.
-/

namespace Stencil.Eval

variable {μ : Matching} {α β : Type} {R : α → β → Prop}

/-! ## Items -/

theorem mirrors_characters (t : Text) :
    Mirrors μ (List.Forall₂ (Value.Matches μ)) (characters t) (characters t) := by
  induction t with
  | nil => exact .pure .nil
  | cons c rest ih =>
    exact (mirrors_newText [c]).bind fun _ _ hv => ih.bind fun _ _ hvs => .pure (.cons hv hvs)

theorem mirrors_rangeItems (start step : Int) (n : Nat) :
    Mirrors μ (List.Forall₂ (Value.Matches μ)) (rangeItems start step n)
      (rangeItems start step n) := by
  induction n generalizing start with
  | zero => exact .pure .nil
  | succ n ih =>
    exact (mirrors_newInt start).bind fun _ _ hv =>
      (ih _).bind fun _ _ hvs => .pure (.cons hv hvs)

theorem mirrors_pairItems {es fs : List (Value × Value)}
    (h : List.Forall₂ (EntryMatches μ) es fs) :
    Mirrors μ (List.Forall₂ (Value.Matches μ)) (pairItems es) (pairItems fs) := by
  induction h with
  | nil => exact .pure .nil
  | cons h _ ih =>
    exact (mirrors_newTuple (.cons h.1 (.cons h.2 .nil))).bind fun _ _ hv =>
      ih.bind fun _ _ hvs => .pure (.cons hv hvs)

theorem mirrors_viewed (kind : ViewKind) {es fs : List (Value × Value)}
    (h : List.Forall₂ (EntryMatches μ) es fs) :
    Mirrors μ (List.Forall₂ (Value.Matches μ)) (viewed kind es) (viewed kind fs) := by
  cases kind with
  | keys => exact .pure (h.map fun _ _ hpq => hpq.1)
  | values => exact .pure (h.map fun _ _ hpq => hpq.2)
  | items => exact mirrors_pairItems h

/-! ## Iterators -/

section

variable {v v' : Value} (hv : v.Matches μ v')
include hv

theorem mirrors_iterator? :
    Mirrors μ (Option.Rel (μ.rel .iterator)) (iterator? v) (iterator? v') := by
  have started {i j : Iteration} (h : i.Matches μ j) :
      Mirrors μ (Option.Rel (μ.rel .iterator)) (do return some (← newIterator i))
        (do return some (← newIterator j)) :=
    (mirrors_newIterator h).bind fun _ _ ha => .pure (.some ha)
  unfold iterator?
  cases hv with
  | iterator ha => exact .pure (.some ha)
  | list ha => exact started (.list 0 ha)
  | tuple hvs => exact started (.items _ hvs)
  | str t => exact (mirrors_characters t).bind fun _ _ hvs => started (.items _ hvs)
  | range => exact started (.range ..)
  | mapping ha =>
    refine mirrors_heap.bind fun h h' hh => ?_
    rw [(hh.mapping ha).entries.length_eq]
    exact started (.mapping .keys _ 0 ha)
  | view kind ha =>
    refine mirrors_heap.bind fun h h' hh => ?_
    rw [(hh.mapping ha).entries.length_eq]
    exact started (.mapping kind _ 0 ha)
  | set ha =>
    refine mirrors_heap.bind fun h h' hh => ?_
    rw [(hh.set ha).size_eq]
    exact started (.set _ 0 ha)
  | _ => exact .pure .none

theorem mirrors_iterator : Mirrors μ (μ.rel .iterator) (iterator v) (iterator v') := by
  refine (mirrors_iterator? hv).bind fun a b hab => ?_
  cases hab with
  | some hab => exact .pure hab
  | none => exact mirrors_complaint hv _

end

section

variable {reach reach' : Reach} (hreach : reach.Mirrors μ reach')
include hreach

theorem mirrors_drain (fuel : Nat) {a b : Nat} {xs ys : Array Value} (hab : μ.rel .iterator a b)
    (hxy : ArraysRelated (Value.Matches μ) xs ys) :
    Mirrors μ (List.Forall₂ (Value.Matches μ)) (drain reach fuel a xs)
      (drain reach' fuel b ys) := by
  induction fuel generalizing xs ys with
  | zero => exact .exhausted
  | succ fuel ih =>
    refine (hreach.next a b hab).bind fun x y h => ?_
    cases h with
    | some h => exact ih (hxy.push h)
    | none => exact .pure hxy

theorem mirrors_items? {v v' : Value} (hv : v.Matches μ v') :
    Mirrors μ (Option.Rel (List.Forall₂ (Value.Matches μ))) (items? reach v)
      (items? reach' v') := by
  unfold items?
  cases hv with
  | list ha => exact mirrors_heap.bind fun _ _ hh => .pure (.some (hh.list ha))
  | tuple hvs => exact .pure (.some hvs)
  | str t => exact (mirrors_characters t).bind fun _ _ hvs => .pure (.some hvs)
  | range => exact (mirrors_rangeItems ..).bind fun _ _ hvs => .pure (.some hvs)
  | mapping ha =>
    exact mirrors_heap.bind fun _ _ hh =>
      .pure (.some ((hh.mapping ha).entries.map fun _ _ hpq => hpq.1))
  | view kind ha =>
    exact mirrors_heap.bind fun _ _ hh =>
      (mirrors_viewed kind (hh.mapping ha).entries).bind fun _ _ hvs => .pure (.some hvs)
  | set ha => exact mirrors_heap.bind fun _ _ hh => .pure (.some (hh.set ha))
  | iterator ha =>
    rw [hreach.fuel]
    exact (mirrors_drain hreach _ ha .nil).bind fun _ _ hvs => .pure (.some hvs)
  | _ => exact .pure .none

theorem mirrors_items {v v' : Value} (hv : v.Matches μ v') :
    Mirrors μ (List.Forall₂ (Value.Matches μ)) (items reach v) (items reach' v') := by
  refine (mirrors_items? hreach hv).bind fun x y h => ?_
  cases h with
  | some h => exact .pure h
  | none => exact mirrors_complaint hv _

end

/-! ## Arguments -/

section

variable {args args' : Arguments} (hargs : args.Matches μ args') (function : Text)
include hargs

theorem mirrors_noKeywords :
    Mirrors μ Eq (noKeywords function args) (noKeywords function args') := by
  unfold noKeywords
  rw [hargs.named.isEmpty_eq]
  split
  · exact .pure rfl
  · exact .fault _

theorem mirrors_takeNone : Mirrors μ Eq (takeNone function args) (takeNone function args') := by
  refine (mirrors_noKeywords hargs function).bind_eq fun _ => ?_
  rw [hargs.positional.isEmpty_eq, hargs.positional.length_eq]
  split
  · exact .pure rfl
  · exact .fault _

theorem mirrors_takeOne :
    Mirrors μ (Value.Matches μ) (takeOne function args) (takeOne function args') := by
  refine (mirrors_noKeywords hargs function).bind_eq fun _ => ?_
  obtain ⟨vs, ns⟩ := args
  obtain ⟨vs', ns'⟩ := args'
  cases hargs.positional with
  | nil => exact .fault _
  | cons hv hvs =>
    cases hvs with
    | nil => exact .pure hv
    | cons _ hvs =>
      simp only [List.length_cons, hvs.length_eq]
      exact .fault _

theorem mirrors_takeBetween (least most : Nat) :
    Mirrors μ (List.Forall₂ (Value.Matches μ)) (takeBetween function least most args)
      (takeBetween function least most args') := by
  unfold takeBetween
  simp only [hargs.named.isEmpty_eq, hargs.positional.length_eq]
  split_ifs
  · exact .fault _
  · exact .fault _
  · exact .fault _
  · exact .fault _
  · exact .pure hargs.positional

theorem mirrors_takeNamed (params : List Text) :
    Mirrors μ (List.Forall₂ (Option.Rel (Value.Matches μ))) (takeNamed function params args)
      (takeNamed function params args') := by
  have hunknown := hargs.named.find? (p := fun p => !params.contains p.1)
    (q := fun q => !params.contains q.1) fun p q hpq => by rw [hpq.1]
  unfold takeNamed
  generalize args.named.find? _ = x at hunknown ⊢
  generalize args'.named.find? _ = y at hunknown ⊢
  cases hunknown with
  | some h =>
    simp only [h.1]
    exact .fault _
  | none =>
    simp only [hargs.positional.length_eq]
    split_ifs
    · exact .fault _
    · refine .pure ?_
      refine List.Forall₂.map (List.forall₂_same.mpr fun _ _ => rfl) ?_
      rintro ⟨n, i⟩ _ rfl
      exact (hargs.positional.getElem? i).or (lookup_matches n hargs.named)

theorem mirrors_takeParameters (params : List Text) (required : Nat) :
    Mirrors μ (List.Forall₂ (Option.Rel (Value.Matches μ)))
      (takeParameters function params required args)
      (takeParameters function params required args') := by
  have hunknown := hargs.named.find? (p := fun p => !params.contains p.1)
    (q := fun q => !params.contains q.1) fun p q hpq => by rw [hpq.1]
  have hrepeated := hargs.named.find?
    (p := fun p => (params.take args'.positional.length).contains p.1)
    (q := fun q => (params.take args'.positional.length).contains q.1)
    fun p q hpq => by rw [hpq.1]
  have hgiven : List.Forall₂ (Option.Rel (Value.Matches μ))
      (params.zipIdx.map fun p => (args.positional[p.2]?).or (args.named.lookup p.1))
      (params.zipIdx.map fun p => (args'.positional[p.2]?).or (args'.named.lookup p.1)) := by
    refine List.Forall₂.map (List.forall₂_same.mpr fun _ _ => rfl) ?_
    rintro p _ rfl
    exact (hargs.positional.getElem? p.2).or (lookup_matches p.1 hargs.named)
  have hmissing : (params.zipIdx.map fun p =>
        (args.positional[p.2]?).or (args.named.lookup p.1)).map Option.isNone =
      (params.zipIdx.map fun p =>
        (args'.positional[p.2]?).or (args'.named.lookup p.1)).map Option.isNone :=
    hgiven.map_eq fun _ _ h => h.isNone_eq
  unfold takeParameters
  dsimp only
  rw [hmissing, hargs.positional.length_eq]
  generalize args.named.find? _ = x at hunknown ⊢
  generalize args'.named.find? _ = y at hunknown ⊢
  cases hunknown with
  | some h =>
    simp only [h.1]
    exact .fault _
  | none =>
    generalize args.named.find? (fun p => (params.take args'.positional.length).contains p.1) = x
      at hrepeated ⊢
    generalize args'.named.find? (fun p => (params.take args'.positional.length).contains p.1) = y
      at hrepeated ⊢
    cases hrepeated with
    | some h =>
      simp only [h.1]
      exact .fault _
    | none =>
      dsimp only
      split_ifs
      · exact .fault _
      · exact .pure hgiven
      · exact .fault _

end

theorem mirrors_toIndex {v v' : Value} (hv : v.Matches μ v') :
    Mirrors μ Eq (toIndex v) (toIndex v') := by
  unfold toIndex
  rw [hv.int?_eq]
  cases v'.int? with
  | some n => exact .pure rfl
  | none => exact mirrors_complaint hv _

/-! ## Sorting -/

structure Keyed.Matches (μ : Matching) (a b : Keyed) : Prop where
  key : a.key.Matches μ b.key
  item : a.item.Matches μ b.item

theorem Keyed.Matches.mirrors_less {a a' b b' : Keyed} (ha : a.Matches μ a')
    (hb : b.Matches μ b') : Mirrors μ Eq (a.less b) (a'.less b') :=
  mirrors_order ha.key .less hb.key

theorem mirrors_searchPosition (fuel : Nat) {xs ys : Array Keyed} {a b : Keyed} (low high : Nat)
    (hxy : ArraysRelated (Keyed.Matches μ) xs ys) (hab : a.Matches μ b) :
    Mirrors μ Eq (searchPosition xs a fuel low high) (searchPosition ys b fuel low high) := by
  induction fuel generalizing low high with
  | zero => exact .pure rfl
  | succ fuel ih =>
    unfold searchPosition
    split_ifs
    · exact .pure rfl
    · dsimp only
      have hmiddle := hxy.getElem? (low + (high - low) / 2)
      generalize xs[low + (high - low) / 2]? = x at hmiddle ⊢
      generalize ys[low + (high - low) / 2]? = y at hmiddle ⊢
      cases hmiddle with
      | none => exact .pure rfl
      | some h =>
        refine (hab.mirrors_less h).bind_eq fun isLess => ?_
        cases isLess with
        | true => exact ih low _
        | false => exact ih _ high

theorem mirrors_insertAll {xs ys : Array Keyed} {as bs : List Keyed}
    (hxy : ArraysRelated (Keyed.Matches μ) xs ys) (h : List.Forall₂ (Keyed.Matches μ) as bs) :
    Mirrors μ (ArraysRelated (Keyed.Matches μ)) (insertAll xs as) (insertAll ys bs) := by
  induction h generalizing xs ys with
  | nil => exact .pure hxy
  | cons h _ ih =>
    unfold insertAll
    rw [hxy.size_eq]
    exact (mirrors_searchPosition _ _ _ hxy h).bind_eq fun i => ih (hxy.insertIdxIfInBounds i h)

theorem mirrors_extendRun (descending : Bool) {run run' as bs : List Keyed}
    (hrun : List.Forall₂ (Keyed.Matches μ) run run') (h : List.Forall₂ (Keyed.Matches μ) as bs) :
    Mirrors μ (fun x y => List.Forall₂ (Keyed.Matches μ) x.1 y.1 ∧
        List.Forall₂ (Keyed.Matches μ) x.2 y.2)
      (extendRun descending run as) (extendRun descending run' bs) := by
  induction h generalizing run run' with
  | nil => exact .pure ⟨hrun, .nil⟩
  | cons h hs ih =>
    unfold extendRun
    cases hrun with
    | nil => exact .pure ⟨.nil, .cons h hs⟩
    | cons hlast hrun =>
      refine (h.mirrors_less hlast).bind_eq fun isLess => ?_
      split_ifs
      · exact ih (.cons h (.cons hlast hrun))
      · exact .pure ⟨.cons hlast hrun, .cons h hs⟩

theorem mirrors_sortKeyed {as bs : List Keyed} (h : List.Forall₂ (Keyed.Matches μ) as bs) :
    Mirrors μ (List.Forall₂ (Keyed.Matches μ)) (sortKeyed as) (sortKeyed bs) := by
  unfold sortKeyed
  cases h with
  | nil => exact .pure .nil
  | cons hfirst hmore =>
    cases hmore with
    | nil => exact .pure (.cons hfirst .nil)
    | cons hsecond hmore =>
      refine (hsecond.mirrors_less hfirst).bind_eq fun descending => ?_
      refine (mirrors_extendRun descending (.cons hsecond (.cons hfirst .nil)) hmore).bind
        fun x y hxy => ?_
      refine (mirrors_insertAll ?_ hxy.2).bind fun _ _ hsorted => .pure hsorted
      cases descending with
      | true => exact hxy.1
      | false => exact List.rel_reverse hxy.1

theorem mirrors_keyOf {reach reach' : Reach} : reach.Mirrors μ reach' →
    ∀ {key key' : Option Value}, Option.Rel (Value.Matches μ) key key' →
    ∀ {v w : Value}, v.Matches μ w → Mirrors μ (Value.Matches μ)
      (match key with
        | some f => reach.call f ⟨[v], []⟩
        | none => pure v)
      (match key' with
        | some f => reach'.call f ⟨[w], []⟩
        | none => pure w)
  | hreach, _, _, .some hf, _, _, hv => hreach.call _ _ _ _ hf ⟨.cons hv .nil, .nil⟩
  | _, _, _, .none, _, _, hv => .pure hv

section

variable {reach reach' : Reach} (hreach : reach.Mirrors μ reach') {key key' : Option Value}
  (hkey : Option.Rel (Value.Matches μ) key key')
include hreach hkey

theorem mirrors_sortItems (backwards : Bool) {vs ws : List Value}
    (h : List.Forall₂ (Value.Matches μ) vs ws) :
    Mirrors μ (List.Forall₂ (Value.Matches μ)) (sortItems reach key backwards vs)
      (sortItems reach' key' backwards ws) := by
  refine (Mirrors.mapM (S := Keyed.Matches μ) h fun v w hv => ?_).bind fun as bs hab => ?_
  · cases hkey with
    | some hf =>
      exact (hreach.call _ _ _ _ hf ⟨.cons hv .nil, .nil⟩).bind fun _ _ hk => .pure ⟨hk, hv⟩
    | none => exact .pure ⟨hv, hv⟩
  have hordered : List.Forall₂ (Keyed.Matches μ) (if backwards then as.reverse else as)
      (if backwards then bs.reverse else bs) := by
    split_ifs
    · exact List.rel_reverse hab
    · exact hab
  refine (mirrors_sortKeyed hordered).bind fun as bs hab => .pure ?_
  have hitems := hab.map (S := Value.Matches μ) (f := Keyed.item) (g := Keyed.item)
    fun _ _ hab => hab.item
  split_ifs
  · exact List.rel_reverse hitems
  · exact hitems

theorem mirrors_extreme (op : OrderOp) {vs ws : List Value}
    (h : List.Forall₂ (Value.Matches μ) vs ws) :
    Mirrors μ (Option.Rel (Value.Matches μ)) (extreme reach op key vs)
      (extreme reach' op key' ws) := by
  unfold extreme
  dsimp only
  cases h with
  | nil => exact .pure .none
  | cons hfirst hmore =>
    refine (mirrors_keyOf hreach hkey hfirst).bind fun k k' hk => ?_
    refine (Mirrors.foldlM (S := Keyed.Matches μ) hmore (fun best best' v w hbest hv => ?_)
      ⟨hk, hfirst⟩).bind fun best best' hbest => .pure (.some hbest.item)
    refine (mirrors_keyOf hreach hkey hv).bind fun k k' hk => ?_
    refine (mirrors_order hk op hbest.key).bind_eq fun ordered => .pure ?_
    split_ifs
    · exact ⟨hk, hv⟩
    · exact hbest

end

theorem matches_givenKey : ∀ {x y : Option Value}, Option.Rel (Value.Matches μ) x y →
    Option.Rel (Value.Matches μ)
      (match x with
        | some .none => none
        | other => other)
      (match y with
        | some .none => none
        | other => other)
  | _, _, .none => .none
  | _, _, .some hv => by
    cases hv with
    | none => exact .none
    | _ => exact .some (by constructor <;> assumption)

theorem mirrors_sortArguments (function : Text) {named named' : List (Text × Value)}
    (h : List.Forall₂ (NamedMatches μ) named named') :
    Mirrors μ (fun x y => Option.Rel (Value.Matches μ) x.1 y.1 ∧ x.2 = y.2)
      (sortArguments function named) (sortArguments function named') := by
  have hargs : Arguments.Matches μ ⟨[], named⟩ ⟨[], named'⟩ := ⟨.nil, h⟩
  refine (mirrors_takeNamed hargs function ["key", "reverse"]).bind fun given given' hgiven => ?_
  rcases hgiven with _ | ⟨hkey, _ | ⟨hreverse, _ | _⟩⟩
  · exact .pure ⟨.none, rfl⟩
  · exact .pure ⟨.none, rfl⟩
  · have hgiven := matches_givenKey hkey
    cases hreverse with
    | some hv => exact (mirrors_truth hv).bind_eq fun _ => .pure ⟨hgiven, rfl⟩
    | none => exact .pure ⟨hgiven, rfl⟩
  · exact .pure ⟨.none, rfl⟩

end Stencil.Eval
