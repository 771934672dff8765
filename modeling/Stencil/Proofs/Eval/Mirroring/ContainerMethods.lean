import Stencil.Eval.ContainerMethod
import Stencil.Proofs.Eval.Mirroring.Operators
import Stencil.Proofs.Eval.Mirroring.TextMethods

/-!
# Methods of containers and numbers in step
-/

namespace Stencil.Eval

variable {μ : Matching}

/-! ## Sequences -/

section

variable {vs ws : List Value} (h : List.Forall₂ (Value.Matches μ) vs ws)
include h

theorem mirrors_indexIn {args args' : List Value}
    (hargs : List.Forall₂ (Value.Matches μ) args args') :
    Mirrors μ Eq (indexIn vs args) (indexIn ws args') := by
  unfold indexIn
  cases hargs with
  | nil => exact .pure rfl
  | cons hv hrest =>
    refine (mirrors_windowArguments hrest).bind_eq fun (start, stop) => mirrors_heap.bind
      fun heap heap' hh => .pure ?_
    rw [h.length_eq, (List.forall₂_drop _ (List.forall₂_take _ h)).findIdx?_eq fun _ _ hw =>
      hh.equalItem_eq hw hv]

theorem mirrors_countItem {v v' : Value} (hv : v.Matches μ v') :
    Mirrors μ (Value.Matches μ) (countItem vs v) (countItem ws v') := by
  refine mirrors_heap.bind fun heap heap' hh => ?_
  rw [h.countP_eq fun _ _ hw => hh.equalItem_eq hw hv]
  exact mirrors_newInt _

end

theorem mirrors_popItem {a b : Nat} (ha : μ.rel .list a b) (index : Int) :
    Mirrors μ (Value.Matches μ) (popItem a index) (popItem b index) := by
  refine mirrors_heap.bind fun h h' hh => ?_
  have hitems := hh.list ha
  dsimp only
  rw [hitems.isEmpty_eq, hitems.size_eq]
  split_ifs
  · exact .fault _
  · cases position? (h'.list b).size index with
    | some i =>
      exact (mirrors_modifyHeap fun _ _ hh => hh.setList ha (hitems.eraseIdxIfInBounds i)).bind_eq
        fun _ => .pure (hitems.getD i .none)
    | none => exact .fault _

section

variable {reach reach' : Reach} (hreach : reach.Mirrors μ reach') {args args' : Arguments}
  (hargs : args.Matches μ args') (name : Text)
include hreach hargs

theorem mirrors_listMethod {a b : Nat} (ha : μ.rel .list a b) :
    Mirrors μ (Value.Matches μ) (listMethod reach name a args)
      (listMethod reach' name b args') := by
  have hput {xs ys : Array Value} (hxy : ArraysRelated (Value.Matches μ) xs ys) :
      Mirrors μ (Value.Matches μ)
        (do
          modifyHeap fun h => h.setList a xs
          return .none)
        (do
          modifyHeap fun h => h.setList b ys
          return .none) :=
    (mirrors_modifyHeap fun _ _ hh => hh.setList ha hxy).bind_eq fun _ => .pure .none
  have hbetween (least most : Nat) := mirrors_takeBetween hargs name least most
  have hone := mirrors_takeOne hargs (methodName "list" name)
  have hnone := mirrors_takeNone hargs (methodName "list" name)
  unfold listMethod
  refine mirrors_heap.bind fun h h' hh => ?_
  have hitems := hh.list ha
  dsimp only
  split
  · exact hone.bind fun _ _ hv => hput (hitems.push hv)
  · exact hone.bind fun _ _ hv => (mirrors_items hreach hv).bind fun _ _ hmore =>
      mirrors_heap.bind fun _ _ hh => hput ((hh.list ha).append hmore)
  · refine (hbetween 2 2).bind fun given given' hgiven => ?_
    rcases hgiven with _ | ⟨hi, _ | ⟨hv, _ | _⟩⟩
    · exact .pure .none
    · exact .pure .none
    · refine (mirrors_toIndex hi).bind_eq fun i => ?_
      rw [hitems.size_eq]
      exact hput (hitems.insertIdxIfInBounds _ hv)
    · exact .pure .none
  · refine (hbetween 0 1).bind fun given given' hgiven => ?_
    rcases hgiven with _ | ⟨hi, _ | _⟩
    · exact mirrors_popItem ha _
    · exact (mirrors_toIndex hi).bind_eq fun i => mirrors_popItem ha i
    · exact mirrors_popItem ha _
  · refine hone.bind fun v v' hv => mirrors_heap.bind fun heap heap' hh => ?_
    rw [hitems.findIdx?_eq fun _ _ hw => hh.equalItem_eq hw hv]
    cases (h'.list b).findIdx? fun w => heap'.equalItem w v' with
    | some i => exact hput (hitems.eraseIdxIfInBounds i)
    | none => exact .fault _
  · refine (hbetween 1 3).bind fun given given' hgiven =>
      (mirrors_indexIn hitems hgiven).bind_eq fun i => ?_
    cases i with
    | some i => exact mirrors_newInt _
    | none => exact (mirrors_write (hgiven.headD .none) _).bind_eq fun _ => .fault _
  · exact hone.bind fun _ _ hv => mirrors_countItem hitems hv
  · exact hnone.bind_eq fun _ => hput hitems.reverse
  · exact hnone.bind_eq fun _ => mirrors_newList hitems
  · exact hnone.bind_eq fun _ => hput .nil
  · rw [hargs.positional.isEmpty_eq, hargs.positional.length_eq]
    split_ifs
    · exact .fault _
    · exact (mirrors_sortArguments name hargs.named).bind fun _ _ hkey =>
        hkey.2 ▸ (mirrors_sortItems hreach hkey.1 _ hitems).bind fun _ _ hsorted =>
          hput (.ofLists hsorted)
  · exact mirrors_noMember (.list ha) name

end

theorem mirrors_tupleMethod (name : Text) {v v' : Value} (hv : v.Matches μ v') {vs ws : List Value}
    (h : List.Forall₂ (Value.Matches μ) vs ws) {args args' : Arguments}
    (hargs : args.Matches μ args') :
    Mirrors μ (Value.Matches μ) (tupleMethod name v vs args) (tupleMethod name v' ws args') := by
  unfold tupleMethod
  split
  · exact (mirrors_takeOne hargs _).bind fun _ _ hw => mirrors_countItem h hw
  · refine (mirrors_takeBetween hargs _ _ _).bind fun given given' hgiven =>
      (mirrors_indexIn h hgiven).bind_eq fun i => ?_
    cases i with
    | some i => exact mirrors_newInt _
    | none => exact .fault _
  · exact mirrors_noMember hv name

theorem rangePosition?_eq (start stop step : Int) {v v' : Value} (hv : v.Matches μ v') :
    rangePosition? start stop step v = rangePosition? start stop step v' := by
  cases hv <;> rfl

theorem mirrors_rangeMethod (name : Text) (start stop step : Int) {args args' : Arguments}
    (hargs : args.Matches μ args') :
    Mirrors μ (Value.Matches μ) (rangeMethod name start stop step args)
      (rangeMethod name start stop step args') := by
  refine (mirrors_takeOne hargs _).bind fun v v' hv => ?_
  rw [rangePosition?_eq start stop step hv]
  split
  · exact mirrors_newInt _
  · exact (mirrors_write hv _).bind_eq fun _ => .fault _
  · exact mirrors_newInt _

/-! ## Mappings -/

section

variable {reach reach' : Reach} (hreach : reach.Mirrors μ reach')
include hreach

theorem mirrors_entryOf (index : Nat) {v v' : Value} (hv : v.Matches μ v') :
    Mirrors μ (EntryMatches μ) (entryOf reach index v) (entryOf reach' index v') := by
  refine (mirrors_items? hreach hv).bind fun x y hxy => ?_
  rcases hxy with hitems | _
  · have hlength := hitems.length_eq
    rcases hitems with _ | ⟨hk, _ | ⟨hw, _ | _⟩⟩
    · exact .fault _
    · exact .fault _
    · exact .pure ⟨hk, hw⟩
    · dsimp only
      rw [hlength]
      exact .fault _
  · exact .fault _

theorem mirrors_entriesOf {v v' : Value} (hv : v.Matches μ v') :
    Mirrors μ (List.Forall₂ (EntryMatches μ)) (entriesOf reach v) (entriesOf reach' v') := by
  have hpairs : Mirrors μ (List.Forall₂ (EntryMatches μ))
      (do (← items reach v).zipIdx.mapM fun p => entryOf reach p.2 p.1)
      (do (← items reach' v').zipIdx.mapM fun p => entryOf reach' p.2 p.1) :=
    (mirrors_items hreach hv).bind fun _ _ hitems =>
      Mirrors.mapM (hitems.zipIdx 0) fun p q hpq => by
        simp only [hpq.2]
        exact mirrors_entryOf hreach _ hpq.1
  unfold entriesOf
  cases hv with
  | mapping ha => exact mirrors_heap.bind fun _ _ hh => .pure (hh.mapping ha).entries
  | _ => exact hpairs

omit hreach in
theorem entryOfPair?_matches {v w : Value} (hv : v.Matches μ w) :
    Option.Rel (EntryMatches μ) (entryOfPair? v) (entryOfPair? w) := by
  cases hv with
  | tuple hvs =>
    rcases hvs with _ | ⟨hk, _ | ⟨hv, _ | _⟩⟩
    · exact .none
    · exact .none
    · exact .some ⟨hk, hv⟩
    · exact .none
  | _ => exact .none

omit hreach in
theorem namedEntries_matches {named named' : List (Text × Value)}
    (h : List.Forall₂ (NamedMatches μ) named named') :
    List.Forall₂ (EntryMatches μ) (namedEntries named) (namedEntries named') :=
  h.map fun (n, _) (_, _) ⟨hn, hv⟩ => by
    cases hn
    exact ⟨.str n .shared, hv⟩

omit hreach in
theorem mirrors_checkKeys {es fs : List (Value × Value)}
    (h : List.Forall₂ (EntryMatches μ) es fs) : Mirrors μ Eq (checkKeys es) (checkKeys fs) :=
  Mirrors.forM h fun _ _ hpq => mirrors_checkKey hpq.1

theorem mirrors_givenEntries (function : Text) {args args' : Arguments}
    (hargs : args.Matches μ args') :
    Mirrors μ (List.Forall₂ (EntryMatches μ)) (givenEntries reach function args)
      (givenEntries reach' function args') := by
  have hend {es fs : List (Value × Value)} (h : List.Forall₂ (EntryMatches μ) es fs) :
      Mirrors μ (List.Forall₂ (EntryMatches μ))
        (do
          checkKeys es
          return es ++ namedEntries args.named)
        (do
          checkKeys fs
          return fs ++ namedEntries args'.named) :=
    (mirrors_checkKeys h).bind_eq fun _ =>
      .pure (List.rel_append h (namedEntries_matches hargs.named))
  obtain ⟨vs, named⟩ := args
  obtain ⟨vs', named'⟩ := args'
  have hlength := hargs.positional.length_eq
  unfold givenEntries
  rcases hargs.positional with _ | ⟨hv, _ | _⟩
  · exact hend .nil
  · exact (mirrors_entriesOf hreach hv).bind fun _ _ h => hend h
  · dsimp only at hlength ⊢
    rw [hlength]
    exact (Mirrors.fault _).bind fun _ _ h => hend h

theorem mirrors_mappingMethod (name : Text) {a b : Nat} (ha : μ.rel .mapping a b)
    {args args' : Arguments} (hargs : args.Matches μ args') :
    Mirrors μ (Value.Matches μ) (mappingMethod reach name a args)
      (mappingMethod reach' name b args') := by
  have hput {m n : Mapping} (hmn : m.Matches μ n) : Mirrors μ Eq
      (modifyHeap fun h => h.setMapping a m) (modifyHeap fun h => h.setMapping b n) :=
    mirrors_modifyHeap fun _ _ hh => hh.setMapping ha hmn
  have hbetween := mirrors_takeBetween hargs name 1 2
  have hnone := mirrors_takeNone hargs (methodName "dict" name)
  have hview (kind : ViewKind) : Mirrors μ (Value.Matches μ)
      (do
        takeNone (methodName "dict" name) args
        return .view kind a (← serial))
      (do
        takeNone (methodName "dict" name) args'
        return .view kind b (← serial)) :=
    hnone.bind_eq fun _ => mirrors_serial.bind fun _ _ hs => .pure (.view kind ha hs)
  unfold mappingMethod
  refine mirrors_heap.bind fun h h' hh => ?_
  have hm := hh.mapping ha
  have hwith {es fs : List (Value × Value)} (hentries : List.Forall₂ (EntryMatches μ) es fs) :
      Mapping.Matches μ { h.mapping a with entries := es } { h'.mapping b with entries := fs } :=
    ⟨hm.isScope, hentries⟩
  dsimp only
  split
  · exact hview .keys
  · exact hview .values
  · exact hview .items
  · refine hbetween.bind fun given given' hgiven => ?_
    rcases hgiven with _ | ⟨hk, hfallback⟩
    · exact .pure .none
    · exact (mirrors_checkKey hk).bind_eq fun _ =>
        .pure ((hm.get? hk).getD (hfallback.headD .none))
  · refine hbetween.bind fun given given' hgiven => ?_
    rcases hgiven with _ | ⟨hk, hfallback⟩
    · exact .pure .none
    · refine (mirrors_checkKey hk).bind_eq fun _ => ?_
      have hfound := hm.get? hk
      generalize (h.mapping a).get? _ = x at hfound ⊢
      generalize (h'.mapping b).get? _ = y at hfound ⊢
      rcases hfound with hv | _
      · exact (hput (hm.remove hk)).bind_eq fun _ => .pure hv
      · rcases hfallback with _ | ⟨hv, _⟩
        · exact (mirrors_datum hk).bind_eq fun _ => .fault _
        · exact .pure hv
  · refine hbetween.bind fun given given' hgiven => ?_
    rcases hgiven with _ | ⟨hk, hfallback⟩
    · exact .pure .none
    · refine (mirrors_checkKey hk).bind_eq fun _ => ?_
      have hfound := hm.get? hk
      generalize (h.mapping a).get? _ = x at hfound ⊢
      generalize (h'.mapping b).get? _ = y at hfound ⊢
      rcases hfound with hv | _
      · exact .pure hv
      · have hv := hfallback.headD (a := Value.none) (b := Value.none) .none
        exact (hput (hm.put hk hv)).bind_eq fun _ => .pure hv
  · refine hnone.bind_eq fun _ => ?_
    have hlast := hm.entries.getLast?
    generalize (h.mapping a).entries.getLast? = x at hlast ⊢
    generalize (h'.mapping b).entries.getLast? = y at hlast ⊢
    rcases hlast with hkv | _
    · exact (hput (hwith hm.entries.dropLast)).bind_eq fun _ =>
        mirrors_newTuple (.cons hkv.1 (.cons hkv.2 .nil))
    · exact .fault _
  · exact (mirrors_givenEntries hreach name hargs).bind fun _ _ hentries =>
      mirrors_heap.bind fun _ _ hh =>
        (hput (mergeInto_matches (hh.mapping ha) hentries)).bind_eq fun _ => .pure .none
  · exact hnone.bind_eq fun _ => mirrors_newMapping ⟨rfl, hm.entries⟩
  · exact hnone.bind_eq fun _ => (hput (hwith .nil)).bind_eq fun _ => .pure .none
  · exact mirrors_noMember (.mapping ha) name

/-! ## Sets -/

theorem mirrors_setsOf {vs ws : List Value} (h : List.Forall₂ (Value.Matches μ) vs ws) :
    Mirrors μ (List.Forall₂ (ArraysRelated (Value.Matches μ))) (setsOf reach vs)
      (setsOf reach' ws) :=
  Mirrors.mapM h fun _ _ hv => (mirrors_items hreach hv).bind fun _ _ hitems =>
    (Mirrors.forM hitems fun _ _ hw => mirrors_checkKey hw).bind_eq fun _ =>
      .pure (hitems.foldl (fun _ _ _ _ hs hw => matches_insertItem hs hw) .nil)

theorem mirrors_otherSet (function : Text) {args args' : Arguments}
    (hargs : args.Matches μ args') :
    Mirrors μ (ArraysRelated (Value.Matches μ)) (otherSet reach function args)
      (otherSet reach' function args') := by
  refine (mirrors_takeOne hargs function).bind fun _ _ hv =>
    (mirrors_setsOf hreach (.cons hv .nil)).bind fun _ _ hsets => ?_
  cases hsets with
  | nil => exact .pure .nil
  | cons h => exact .pure h

theorem mirrors_setMethod (name : Text) {a b : Nat} (ha : μ.rel .set a b)
    {args args' : Arguments} (hargs : args.Matches μ args') :
    Mirrors μ (Value.Matches μ) (setMethod reach name a args)
      (setMethod reach' name b args') := by
  have hput {xs ys : Array Value} (hxy : ArraysRelated (Value.Matches μ) xs ys) :
      Mirrors μ (Value.Matches μ)
        (do
          modifyHeap fun h => h.setSet a xs
          return .none)
        (do
          modifyHeap fun h => h.setSet b ys
          return .none) :=
    (mirrors_modifyHeap fun _ _ hh => hh.setSet ha hxy).bind_eq fun _ => .pure .none
  have hone := mirrors_takeOne hargs (methodName "set" name)
  have hnone := mirrors_takeNone hargs (methodName "set" name)
  have hholds {xs ys : Array Value} (hxy : ArraysRelated (Value.Matches μ) xs ys) {v w : Value}
      (hv : v.Matches μ w) : xs.any (·.equalKey v) = ys.any (·.equalKey w) :=
    hxy.any_eq fun _ _ hu => hu.equalKey_eq hv
  have hother := mirrors_otherSet hreach (methodName "set" name) hargs
  unfold setMethod
  refine mirrors_heap.bind fun h h' hh => ?_
  have hs := hh.set ha
  have hcombine (op : BinaryOp) : Mirrors μ (ArraysRelated (Value.Matches μ))
      (do
        noKeywords (methodName "set" name) args
        return (← setsOf reach args.positional).foldl (fun s t => (setOp op s t).getD s) (h.set a))
      (do
        noKeywords (methodName "set" name) args'
        return (← setsOf reach' args'.positional).foldl (fun s t => (setOp op s t).getD s)
          (h'.set b)) :=
    (mirrors_noKeywords hargs _).bind_eq fun _ =>
      (mirrors_setsOf hreach hargs.positional).bind fun _ _ hsets =>
        .pure (hsets.foldl (fun _ _ _ _ hxy ht => (setOp_matches op hxy ht).getD hxy) hs)
  dsimp only
  split
  · exact hone.bind fun _ _ hv => (mirrors_checkKey hv).bind_eq fun _ =>
      hput (matches_insertItem hs hv)
  · exact hone.bind fun _ _ hv => (mirrors_checkKey hv).bind_eq fun _ =>
      hput (hs.filter fun _ _ hw => congrArg not (hw.equalKey_eq hv))
  · refine hone.bind fun _ _ hv => (mirrors_checkKey hv).bind_eq fun _ => ?_
    rw [hholds hs hv]
    split_ifs
    · exact hput (hs.filter fun _ _ hw => congrArg not (hw.equalKey_eq hv))
    · exact (mirrors_datum hv).bind_eq fun _ => .fault _
  · refine hnone.bind_eq fun _ => ?_
    have hfirst := hs.getElem? 0
    generalize (h.set a)[0]? = x at hfirst ⊢
    generalize (h'.set b)[0]? = y at hfirst ⊢
    cases hfirst with
    | some hv => exact (hput (hs.eraseIdxIfInBounds 0)).bind fun _ _ _ => .pure hv
    | none => exact .fault _
  · exact hnone.bind_eq fun _ => hput .nil
  · exact hnone.bind_eq fun _ => mirrors_newSet hs
  · exact (hcombine .bitOr).bind fun _ _ hxy => mirrors_newSet hxy
  · exact (hcombine .bitOr).bind fun _ _ hxy => hput hxy
  · exact (hcombine .bitAnd).bind fun _ _ hxy => mirrors_newSet hxy
  · exact (hcombine .subtract).bind fun _ _ hxy => mirrors_newSet hxy
  · exact hother.bind fun _ _ ht => mirrors_newSet ((setOp_matches .bitXor hs ht).getD hs)
  · refine hother.bind fun _ _ ht => .pure ?_
    rw [hs.all_eq fun _ _ hv => hholds ht hv]
    exact .bool _
  · refine hother.bind fun _ _ ht => .pure ?_
    rw [ht.all_eq fun _ _ hv => hholds hs hv]
    exact .bool _
  · refine hother.bind fun _ _ ht => .pure ?_
    rw [ht.any_eq fun _ _ hv => hholds hs hv]
    exact .bool _
  · exact mirrors_noMember (.set ha) name

end

/-! ## Numbers -/

theorem mirrors_intMethod (name : Text) {v v' : Value} (hv : v.Matches μ v') (n : Int)
    {args args' : Arguments} (hargs : args.Matches μ args') :
    Mirrors μ (Value.Matches μ) (intMethod name v n args) (intMethod name v' n args') := by
  refine (mirrors_takeNone hargs _).bind_eq fun _ => ?_
  split
  · exact mirrors_newInt _
  · exact mirrors_newInt _
  · exact mirrors_newInt _
  · exact mirrors_noMember hv name

theorem mirrors_plainMethod (name : Text) {v v' : Value} (hv : v.Matches μ v')
    {args args' : Arguments} (hargs : args.Matches μ args') :
    Mirrors μ (Value.Matches μ) (plainMethod name v args) (plainMethod name v' args') := by
  rw [plainMethod, plainMethod, hv.int?_eq]
  cases v'.int? with
  | some n => exact mirrors_intMethod name hv n hargs
  | none => exact mirrors_noMember hv name

theorem mirrors_floatMethod (name : Text) {v v' : Value} (hv : v.Matches μ v') (x : Float)
    {args args' : Arguments} (hargs : args.Matches μ args') :
    Mirrors μ (Value.Matches μ) (floatMethod name v x args) (floatMethod name v' x args') := by
  refine (mirrors_takeNone hargs _).bind_eq fun _ => ?_
  split
  · exact .pure (.bool _)
  · exact .pure hv
  · cases Number.ratio? x with
    | some ratio =>
      exact (mirrors_newInt _).bind fun _ _ hn => (mirrors_newInt _).bind fun _ _ hd =>
        mirrors_newTuple (.cons hn (.cons hd .nil))
    | none =>
      dsimp only
      split_ifs
      · exact .fault _
      · exact .fault _
  · exact mirrors_noMember hv name

end Stencil.Eval
