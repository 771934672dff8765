import Stencil.Eval.Function
import Stencil.Proofs.Eval.Mirroring.ContainerMethods

/-!
# Builtin functions in step
-/

namespace Stencil.Eval

variable {μ : Matching}

/-! ## Numbers -/

theorem mirrors_wholeOf (f : Float → Option Int) (x : Float) :
    Mirrors μ (Value.Matches μ) (wholeOf f x) (wholeOf f x) := by
  unfold wholeOf
  cases f x with
  | some n => exact mirrors_newInt n
  | none => exact .fault _

theorem mirrors_roundFloat (x : Float) (places : Int) :
    Mirrors μ (Value.Matches μ) (roundFloat x places) (roundFloat x places) := by
  unfold roundFloat
  cases Number.Binary.ofFloat x with
  | finite negative m e =>
    dsimp only
    split_ifs <;> first | exact mirrors_newFloat _ | skip
    all_goals
      dsimp only
      split
      · exact mirrors_newFloat _
      · exact .fault _
  | _ => exact mirrors_newFloat x

theorem mirrors_round {v v' : Value} (hv : v.Matches μ v') {x y : Option Value}
    (hxy : Option.Rel (Value.Matches μ) x y) :
    Mirrors μ (Value.Matches μ) (round v x) (round v' y) := by
  have hcomplaint := mirrors_complaint (R := Value.Matches μ) hv .noRound
  unfold round
  cases hv with
  | float x hi =>
    rcases hxy with hp | _
    · have hindex := mirrors_toIndex hp
      cases hp with
      | none => exact mirrors_wholeOf _ _
      | _ => exact hindex.bind_eq fun _ => mirrors_roundFloat _ _
    · exact mirrors_wholeOf _ _
  | int | bool =>
    rcases hxy with hp | _
    · have hindex := mirrors_toIndex hp
      cases hp with
      | none => exact mirrors_newInt _
      | _ => exact hindex.bind_eq fun _ => mirrors_newInt _
    · exact mirrors_newInt _
  | _ => exact hcomplaint

theorem mirrors_readInt (base : Nat) (t : Text) :
    Mirrors μ (Value.Matches μ) (readInt base t) (readInt base t) := by
  unfold readInt
  cases Number.numeral? base t with
  | none => exact .fault _
  | some n =>
    dsimp only
    split_ifs
    · exact .fault _
    · exact mirrors_newInt n.value

section

variable {vs ws : List Value} (h : List.Forall₂ (Value.Matches μ) vs ws)
include h

theorem mirrors_toInt : Mirrors μ (Value.Matches μ) (toInt vs) (toInt ws) := by
  unfold toInt
  rcases h with _ | ⟨hv, _ | ⟨hbase, _⟩⟩
  · exact mirrors_newInt 0
  · have hcomplaint := mirrors_complaint (R := Value.Matches μ) hv .notNumberForInt
    cases hv with
    | int n hi => exact .pure (.int n hi)
    | bool => exact mirrors_newInt _
    | float => exact mirrors_wholeOf _ _
    | str t =>
      exact mirrors_readInt 10 t
    | _ => exact hcomplaint
  · refine (mirrors_toIndex hbase).bind_eq fun base => ?_
    cases hv with
    | str t =>
      dsimp only
      split_ifs
      · exact .fault _
      · exact mirrors_readInt base.toNat t
    | _ => exact .fault _

theorem mirrors_toFloat : Mirrors μ (Value.Matches μ) (toFloat vs) (toFloat ws) := by
  unfold toFloat
  rcases h with _ | ⟨hv, _⟩
  · exact mirrors_newFloat 0
  · have hcomplaint := mirrors_complaint (R := Value.Matches μ) hv .notNumberForFloat
    cases hv with
    | float x hi => exact .pure (.float x hi)
    | str t =>
      dsimp only
      cases Number.parseFloat? t with
      | some x => exact mirrors_newFloat x
      | none => exact .fault _
    | int | bool => exact (mirrors_intToFloat _).bind_eq fun _ => mirrors_newFloat _
    | _ => exact hcomplaint

end

theorem mirrors_divMod {v v' w w' : Value} (hv : v.Matches μ v') (hw : w.Matches μ w') :
    Mirrors μ (Value.Matches μ) (divMod v w) (divMod v' w') := by
  unfold divMod
  rw [hv.int?_eq, hw.int?_eq, isNumber_eq hv, isNumber_eq hw]
  split
  · split_ifs
    · exact .fault _
    · exact (mirrors_newInt _).bind fun _ _ hq => (mirrors_newInt _).bind fun _ _ hr =>
        mirrors_newTuple (.cons hq (.cons hr .nil))
  · split_ifs
    · refine (mirrors_toFloat? hv).bind_eq fun x => (mirrors_toFloat? hw).bind_eq fun y => ?_
      split
      · split_ifs
        · exact .fault _
        · exact (mirrors_newFloat _).bind fun _ _ hq => (mirrors_newFloat _).bind fun _ _ hr =>
            mirrors_newTuple (.cons hq (.cons hr .nil))
      · exact .pure .none
    · exact (mirrors_typeName hv).bind_eq fun _ => mirrors_complaint hw _

theorem mirrors_powerModulo (a b m : Int) :
    Mirrors μ (Value.Matches μ) (powerModulo a b m) (powerModulo a b m) := by
  unfold powerModulo
  split_ifs
  · exact .fault _
  · exact .fault _
  · exact mirrors_newInt _

theorem mirrors_powerOf {u u' v v' w w' : Value} (hu : u.Matches μ u') (hv : v.Matches μ v')
    (hw : w.Matches μ w') : Mirrors μ (Value.Matches μ)
      (match u.int?, v.int?, w.int? with
        | some a, some b, some m => powerModulo a b m
        | _, _, _ => do fault (.unsupported "** or pow()" (← typeName u) (← typeName v)))
      (match u'.int?, v'.int?, w'.int? with
        | some a, some b, some m => powerModulo a b m
        | _, _, _ => do fault (.unsupported "** or pow()" (← typeName u') (← typeName v'))) := by
  rw [hu.int?_eq, hv.int?_eq, hw.int?_eq]
  split
  · exact mirrors_powerModulo _ _ _
  · exact (mirrors_typeName hu).bind_eq fun _ => mirrors_complaint hv _

/-! ## Containers -/

theorem mirrors_length {v v' : Value} (hv : v.Matches μ v') :
    Mirrors μ Eq (length v) (length v') := by
  have hcomplaint := mirrors_complaint (R := Eq (α := Nat)) hv .noLength
  refine mirrors_heap.bind fun h h' hh => ?_
  cases hv with
  | str | range => exact .pure rfl
  | tuple hvs => exact .pure hvs.length_eq
  | list ha => exact .pure (hh.list ha).size_eq
  | mapping ha | view _ ha => exact .pure (hh.mapping ha).entries.length_eq
  | set ha => exact .pure (hh.set ha).size_eq
  | _ => exact hcomplaint

theorem mirrors_reversed {v v' : Value} (hv : v.Matches μ v') :
    Mirrors μ (Value.Matches μ) (reversed v) (reversed v') := by
  have started {i j : Iteration} (h : i.Matches μ j) :
      Mirrors μ (Value.Matches μ) (do return .iterator (← newIterator i))
        (do return .iterator (← newIterator j)) :=
    (mirrors_newIterator h).bind fun _ _ ha => .pure (.iterator ha)
  have hcomplaint := mirrors_complaint (R := Value.Matches μ) hv .notReversible
  refine mirrors_heap.bind fun h h' hh => ?_
  cases hv with
  | list ha =>
    dsimp only
    rw [(hh.list ha).size_eq]
    exact started (.listBackwards _ ha)
  | tuple hvs => exact started (.items _ (List.rel_reverse hvs))
  | str t => exact (mirrors_characters _).bind fun _ _ hvs => started (.items _ hvs)
  | range => exact started (.range ..)
  | mapping ha =>
    dsimp only
    rw [(hh.mapping ha).entries.length_eq]
    exact started (.mappingBackwards _ _ _ ha)
  | view kind ha =>
    dsimp only
    rw [(hh.mapping ha).entries.length_eq]
    exact started (.mappingBackwards _ _ _ ha)
  | _ => exact hcomplaint

theorem mirrors_makeRange {vs ws : List Value} (h : List.Forall₂ (Value.Matches μ) vs ws) :
    Mirrors μ (Value.Matches μ) (makeRange vs) (makeRange ws) := by
  have hbounds : Mirrors μ Eq (rangeBounds vs) (rangeBounds ws) := by
    unfold rangeBounds
    rcases h with _ | ⟨ha, _ | ⟨hb, _ | ⟨hc, _ | _⟩⟩⟩
    · exact .pure rfl
    · exact (mirrors_toIndex ha).bind_eq fun _ => .pure rfl
    · exact (mirrors_toIndex ha).bind_eq fun _ => (mirrors_toIndex hb).bind_eq fun _ => .pure rfl
    · exact (mirrors_toIndex ha).bind_eq fun _ => (mirrors_toIndex hb).bind_eq fun _ =>
        (mirrors_toIndex hc).bind_eq fun _ => .pure rfl
    · exact .pure rfl
  refine hbounds.bind_eq fun (start, stop, step) => ?_
  dsimp only
  split_ifs
  · exact .fault _
  · exact mirrors_serial.bind fun _ _ hs => .pure (.range start stop step (.made hs))

section

variable {reach reach' : Reach} (hreach : reach.Mirrors μ reach')
include hreach

theorem mirrors_givenItems {vs ws : List Value} (h : List.Forall₂ (Value.Matches μ) vs ws) :
    Mirrors μ (List.Forall₂ (Value.Matches μ)) (givenItems reach vs) (givenItems reach' ws) := by
  cases h with
  | nil => exact .pure .nil
  | cons hv => exact mirrors_items hreach hv

theorem mirrors_search (wanted : Bool) (fuel : Nat) {a b : Nat} (ha : μ.rel .iterator a b) :
    Mirrors μ Eq (search reach wanted fuel a) (search reach' wanted fuel b) := by
  induction fuel with
  | zero => exact .exhausted
  | succ fuel ih =>
    refine (hreach.next a b ha).bind fun x y hxy => ?_
    cases hxy with
    | none => exact .pure rfl
    | some hv =>
      refine (mirrors_truth hv).bind_eq fun found => ?_
      split_ifs
      · exact .pure rfl
      · exact ih

omit hreach in
theorem mirrors_sum {v v' : Value} (hv : v.Matches μ v') {vs ws : List Value}
    (h : List.Forall₂ (Value.Matches μ) vs ws) :
    Mirrors μ (Value.Matches μ) (sum v vs) (sum v' ws) := by
  have hfold := Mirrors.foldlM (μ := μ) (S := Value.Matches μ) (f := fun acc v => binary .add acc v)
    (g := fun acc v => binary .add acc v) h (fun _ _ _ _ hacc hu => mirrors_binary hacc hu .add) hv
  unfold sum
  cases hv with
  | str => exact .fault _
  | _ => exact hfold

theorem mirrors_candidates (function : Text) {vs ws : List Value}
    (h : List.Forall₂ (Value.Matches μ) vs ws) :
    Mirrors μ (List.Forall₂ (Value.Matches μ)) (candidates reach function vs)
      (candidates reach' function ws) := by
  unfold candidates
  rcases h with _ | ⟨hv, _ | ⟨hw, hmore⟩⟩
  · exact .fault _
  · exact mirrors_items hreach hv
  · exact .pure (.cons hv (.cons hw hmore))

theorem mirrors_best (op : OrderOp) (function : Text) {args args' : Arguments}
    (hargs : args.Matches μ args') :
    Mirrors μ (Value.Matches μ) (best reach op function args) (best reach' op function args') := by
  have hunknown := hargs.named.find? (p := fun p => p.1 ≠ "key".toList ∧ p.1 ≠ "default".toList)
    (q := fun q => q.1 ≠ "key".toList ∧ q.1 ≠ "default".toList) fun p q hpq => by rw [hpq.1]
  have hkey := matches_givenKey (lookup_matches "key".toList hargs.named)
  have hdefault := lookup_matches "default".toList hargs.named
  have hcandidates := mirrors_candidates hreach function hargs.positional
  unfold best
  generalize args.named.find? _ = x at hunknown ⊢
  generalize args'.named.find? _ = y at hunknown ⊢
  cases hunknown with
  | some hpq =>
    dsimp only
    rw [hpq.1]
    exact .fault _
  | none =>
    refine hcandidates.bind fun _ _ hitems => (mirrors_extreme hreach hkey op hitems).bind
      fun x y hxy => ?_
    generalize args.named.lookup "default".toList = d at hdefault ⊢
    generalize args'.named.lookup "default".toList = d' at hdefault ⊢
    rcases hxy with hv | _
    · exact .pure hv
    · rcases hdefault with hv | _
      · exact .pure hv
      · exact .fault _

end

/-! ## Types -/

theorem mirrors_typeOf {v v' : Value} (hv : v.Matches μ v') :
    Mirrors μ (Value.Matches μ) (typeOf v) (typeOf v') := by
  refine (mirrors_typeName hv).bind_eq fun name => ?_
  cases Builtin.ofName? name with
  | some b =>
    dsimp only
    split_ifs
    · exact .pure (.builtin b)
    · exact .pure (.typeObject name)
  | none => exact .pure (.typeObject name)

theorem mirrors_isInstance {v v' : Value} (hv : v.Matches μ v') (fuel : Nat) {w w' : Value}
    (hw : w.Matches μ w') : Mirrors μ Eq (isInstance v fuel w) (isInstance v' fuel w') := by
  induction fuel generalizing w w' with
  | zero => exact .exhausted
  | succ fuel ih =>
    refine (mirrors_typeName hv).bind_eq fun name => ?_
    cases hw with
    | builtin b =>
      dsimp only
      split_ifs
      · exact .pure rfl
      · exact .fault _
    | typeObject => exact .pure rfl
    | tuple hvs =>
      refine Mirrors.foldlM hvs (fun found found' t t' hfound ht => ?_) rfl
      subst hfound
      split_ifs
      · exact .pure rfl
      · exact ih ht
    | _ => exact .fault _

theorem isCallable_eq {v v' : Value} (hv : v.Matches μ v') : isCallable v = isCallable v' := by
  cases hv <;> rfl

/-! ## Calls -/

section

variable {reach reach' : Reach} (hreach : reach.Mirrors μ reach') (b : Builtin)
  {args args' : Arguments} (hargs : args.Matches μ args')
include hreach hargs

theorem mirrors_construct :
    Mirrors μ (Value.Matches μ) (construct reach b args) (construct reach' b args') := by
  have hmost := mirrors_takeBetween hargs b.name 0 1
  have hbetween := mirrors_takeBetween hargs b.name
  have hnamed := mirrors_takeNamed hargs b.name
  have hone := mirrors_takeOne hargs b.name
  have started {i j : Iteration} (h : i.Matches μ j) :
      Mirrors μ (Value.Matches μ) (do return .iterator (← newIterator i))
        (do return .iterator (← newIterator j)) :=
    (mirrors_newIterator h).bind fun _ _ ha => .pure (.iterator ha)
  have hiterators {vs ws : List Value} (h : List.Forall₂ (Value.Matches μ) vs ws) :
      Mirrors μ (List.Forall₂ (μ.rel .iterator)) (vs.mapM iterator) (ws.mapM iterator) :=
    Mirrors.mapM h fun _ _ hv => mirrors_iterator hv
  unfold construct
  cases b with
  | bool =>
    refine hmost.bind fun given given' hgiven => ?_
    rcases hgiven with _ | ⟨hv, _ | _⟩
    · exact .pure (.bool _)
    · exact (mirrors_truth hv).bind_eq fun _ => .pure (.bool _)
    · exact .pure (.bool _)
  | int =>
    refine (hnamed _).bind fun given given' hgiven => ?_
    rcases hgiven with _ | ⟨hv | _, _ | ⟨hbase | _, _ | _⟩⟩
    · exact mirrors_toInt .nil
    · exact mirrors_toInt .nil
    · exact mirrors_toInt (.cons hv (.cons hbase .nil))
    · exact mirrors_toInt .nil
    · exact mirrors_toInt (.cons hv .nil)
    · exact mirrors_toInt .nil
    · exact mirrors_toInt .nil
    · exact mirrors_toInt .nil
    · exact mirrors_toInt .nil
    · exact mirrors_toInt .nil
    · exact mirrors_toInt .nil
  | float => exact hmost.bind fun _ _ hgiven => mirrors_toFloat hgiven
  | str =>
    refine (hnamed _).bind fun given given' hgiven => ?_
    rcases hgiven with _ | ⟨hv | _, _⟩
    · exact mirrors_newText []
    · have hwrite := mirrors_write hv Datum.display
      cases hv with
      | str t hi => exact .pure (.str t hi)
      | _ => exact hwrite.bind_eq fun _ => mirrors_newText _
    · exact mirrors_newText []
  | list =>
    exact hmost.bind fun _ _ hgiven => (mirrors_givenItems hreach hgiven).bind fun _ _ hitems =>
      mirrors_newList hitems
  | tuple =>
    refine hmost.bind fun given given' hgiven => ?_
    have hitems := (mirrors_givenItems hreach hgiven).bind fun _ _ hitems =>
      mirrors_newTuple hitems
    rcases hgiven with _ | ⟨hv, hrest⟩
    · exact hitems
    · cases hv with
      | tuple hvs hi =>
        cases hrest with
        | nil => exact .pure (.tuple hvs hi)
        | cons => exact hitems
      | _ => exact hitems
  | set =>
    exact hmost.bind fun _ _ hgiven => (mirrors_givenItems hreach hgiven).bind fun _ _ hitems =>
      (Mirrors.forM hitems fun _ _ hv => mirrors_checkKey hv).bind_eq fun _ =>
        mirrors_newSet (hitems.foldl (fun _ _ _ _ hs hw => matches_insertItem hs hw) .nil)
  | dict =>
    exact (mirrors_givenEntries hreach _ hargs).bind fun _ _ hentries =>
      mirrors_newMapping (mergeInto_matches (.empty false) hentries)
  | range => exact (hbetween 1 3).bind fun _ _ hgiven => mirrors_makeRange hgiven
  | enumerate =>
    have hend {v v' : Value} (hv : v.Matches μ v') (start : Int) :
        Mirrors μ (Value.Matches μ)
          (do return .iterator (← newIterator (.enumerate (← iterator v) start)))
          (do return .iterator (← newIterator (.enumerate (← iterator v') start))) :=
      (mirrors_iterator hv).bind fun _ _ ha => started (.enumerate start ha)
    refine (hnamed _).bind fun given given' hgiven => ?_
    rcases hgiven with _ | ⟨hv | _, _ | ⟨hstart | _, _ | _⟩⟩
    · exact .fault _
    · exact hend hv 0
    · exact (mirrors_toIndex hstart).bind_eq fun start => hend hv start
    · exact hend hv 0
    · exact hend hv 0
    · exact hend hv 0
    · exact .fault _
    · exact .fault _
    · exact .fault _
    · exact .fault _
    · exact .fault _
  | zip =>
    exact (mirrors_noKeywords hargs _).bind_eq fun _ => (hiterators hargs.positional).bind
      fun _ _ has => started (.zip has)
  | map =>
    obtain ⟨vs, named⟩ := args
    obtain ⟨vs', named'⟩ := args'
    rcases hargs.positional with _ | ⟨hf, _ | ⟨hv, hmore⟩⟩
    · exact .fault _
    · exact .fault _
    · exact (hiterators (.cons hv hmore)).bind fun _ _ has => started (.map hf has)
  | filter =>
    refine (hbetween 2 2).bind fun given given' hgiven => ?_
    rcases hgiven with _ | ⟨hf, _ | ⟨hv, _ | _⟩⟩
    · exact .pure .none
    · exact .pure .none
    · exact (mirrors_iterator hv).bind fun _ _ ha => started (.filter hf ha)
    · exact .pure .none
  | reversed => exact hone.bind fun _ _ hv => mirrors_reversed hv
  | type =>
    dsimp only
    rw [hargs.positional.length_eq]
    split_ifs
    · exact .beyond _
    · exact hone.bind fun _ _ hv => mirrors_typeOf hv
  | _ => exact .pure .none

omit hreach in
theorem mirrors_endProgram : Mirrors μ (Value.Matches μ) (endProgram args) (endProgram args') := by
  refine (mirrors_takeParameters hargs _ _ _).bind fun given given' hgiven => ?_
  rcases hgiven with _ | ⟨hv | _, _ | _⟩
  · exact .fail _
  · exact (mirrors_write hv _).bind_eq fun _ => .fail _
  · exact .fail _
  · exact .fail _
  · exact .fail _

theorem mirrors_callBuiltin :
    Mirrors μ (Value.Matches μ) (callBuiltin reach b args) (callBuiltin reach' b args') := by
  have hbetween := mirrors_takeBetween hargs b.name
  have hnamed := mirrors_takeNamed hargs b.name
  have hone := mirrors_takeOne hargs b.name
  have hdigits (mark : Text) (base : Nat) : Mirrors μ (Value.Matches μ)
      (do newText (based mark base (← toIndex (← takeOne b.name args))))
      (do newText (based mark base (← toIndex (← takeOne b.name args')))) :=
    hone.bind fun _ _ hv => (mirrors_toIndex hv).bind_eq fun _ => mirrors_newText _
  have hsearch (wanted : Bool) {a a' : Nat} (ha : μ.rel .iterator a a') : Mirrors μ Eq
      (search reach wanted reach.fuel a) (search reach' wanted reach'.fuel a') := by
    rw [hreach.fuel]
    exact mirrors_search hreach wanted _ ha
  have hconstruct := mirrors_construct hreach b hargs
  unfold callBuiltin
  cases b with
  | abs =>
    refine hone.bind fun v v' hv => ?_
    have hcomplaint := mirrors_complaint (R := Value.Matches μ) hv .badAbs
    cases hv with
    | float => exact mirrors_newFloat _
    | int | bool => exact mirrors_newInt _
    | _ => exact hcomplaint
  | all =>
    exact hone.bind fun _ _ hv => (mirrors_iterator hv).bind fun _ _ ha =>
      (hsearch false ha).bind_eq fun _ => .pure (.bool _)
  | any =>
    exact hone.bind fun _ _ hv => (mirrors_iterator hv).bind fun _ _ ha =>
      (hsearch true ha).bind_eq fun _ => .pure (.bool _)
  | bin | oct | hex => exact hdigits _ _
  | callable =>
    refine hone.bind fun v v' hv => ?_
    rw [isCallable_eq hv]
    exact .pure (.bool _)
  | chr =>
    refine hone.bind fun v v' hv => (mirrors_toIndex hv).bind_eq fun n => ?_
    split_ifs
    · exact mirrors_newText _
    · exact .fault _
  | ord =>
    refine hone.bind fun v v' hv => ?_
    have hcomplaint := mirrors_complaint (R := Value.Matches μ) hv .ordNeedsText
    cases hv with
    | str t =>
      rcases t with _ | ⟨c, _ | _⟩
      · exact .fault _
      · exact mirrors_newInt _
      · exact .fault _
    | _ => exact hcomplaint
  | divmod =>
    refine (hbetween 2 2).bind fun given given' hgiven => ?_
    rcases hgiven with _ | ⟨hv, _ | ⟨hw, _ | _⟩⟩
    · exact .pure .none
    · exact .pure .none
    · exact mirrors_divMod hv hw
    · exact .pure .none
  | pow =>
    refine (hnamed _).bind fun given given' hgiven => ?_
    rcases hgiven with _ | ⟨hv | _, _ | ⟨hw | _, _ | ⟨hm | _, _ | _⟩⟩⟩
    case cons.some.cons.some.cons.some.nil =>
      have hmodulo := mirrors_powerOf hv hw hm
      cases hm with
      | none => exact mirrors_binary hv hw .power
      | _ => exact hmodulo
    case cons.some.cons.some.cons.none.nil => exact mirrors_binary hv hw .power
    case cons.some.cons.some.cons.some.cons hm _ _ _ _ _ _ =>
      cases hm <;> exact .fault _
    all_goals exact .fault _
  | format =>
    refine (hbetween 1 2).bind fun given given' hgiven => ?_
    rcases hgiven with _ | ⟨hv, _ | ⟨hspec, hrest⟩⟩
    · exact .pure .none
    · exact (mirrors_write hv _).bind_eq fun _ => mirrors_newText _
    · have hcomplaint := mirrors_complaint (R := Value.Matches μ) hspec .formatArgument
      cases hspec with
      | str spec =>
        cases hrest with
        | nil =>
          exact (mirrors_datum hv).bind_eq fun _ => (Mirrors.ofExcept rfl).bind_eq fun _ =>
            mirrors_newText _
        | cons => exact .pure .none
      | _ =>
        cases hrest with
        | nil => exact hcomplaint
        | cons => exact .pure .none
  | getattr =>
    refine (hbetween 2 3).bind fun given given' hgiven => ?_
    rcases hgiven with _ | ⟨hv, _ | ⟨hn, hrest⟩⟩
    · exact .fault _
    · exact .fault _
    · cases hn with
      | str n =>
        rcases hrest with _ | ⟨hfallback, _ | _⟩
        · exact mirrors_getMember hv n
        · refine (mirrors_hasMember hv n).bind_eq fun known => ?_
          split_ifs
          · exact mirrors_getMember hv n
          · exact .pure hfallback
        · exact .fault _
      | _ => exact .fault _
  | hasattr =>
    refine (hbetween 2 2).bind fun given given' hgiven => ?_
    rcases hgiven with _ | ⟨hv, _ | ⟨hn, hrest⟩⟩
    · exact .fault _
    · exact .fault _
    · cases hn with
      | str n =>
        cases hrest with
        | nil =>
          dsimp only
          exact (mirrors_hasMember hv n).bind_eq fun _ => .pure (.bool _)
        | cons => exact .fault _
      | _ => exact .fault _
  | isinstance =>
    refine (hbetween 2 2).bind fun given given' hgiven => ?_
    rcases hgiven with _ | ⟨hv, _ | ⟨htype, _ | _⟩⟩
    · exact .pure .none
    · exact .pure .none
    · dsimp only
      rw [hreach.fuel]
      exact (mirrors_isInstance hv _ htype).bind_eq fun _ => .pure (.bool _)
    · exact .pure .none
  | exit | quit => exact mirrors_endProgram hargs
  | iter =>
    exact hone.bind fun _ _ hv => (mirrors_iterator hv).bind fun _ _ ha => .pure (.iterator ha)
  | len => exact hone.bind fun _ _ hv => (mirrors_length hv).bind_eq fun _ => mirrors_newInt _
  | max => exact mirrors_best hreach .greater _ hargs
  | min => exact mirrors_best hreach .less _ hargs
  | next =>
    refine (hbetween 1 2).bind fun given given' hgiven => ?_
    rcases hgiven with _ | ⟨hv, hfallback⟩
    · exact .pure .none
    · have hcomplaint := mirrors_complaint (R := Value.Matches μ) hv .notIterator
      cases hv with
      | iterator ha =>
        refine (hreach.next _ _ ha).bind fun x y hxy => ?_
        rcases hxy with hv | _
        · exact .pure hv
        · rcases hfallback with _ | ⟨hv, _⟩
          · exact .fault _
          · exact .pure hv
      | _ => exact hcomplaint
  | repr => exact hone.bind fun _ _ hv => (mirrors_write hv _).bind_eq fun _ => mirrors_newText _
  | round =>
    refine (hnamed _).bind fun given given' hgiven => ?_
    rcases hgiven with _ | ⟨hv | _, _ | ⟨hplaces, _ | _⟩⟩
    · exact .fault _
    · exact .fault _
    · exact mirrors_round hv hplaces
    · exact .fault _
    · exact .fault _
    · exact .fault _
    · exact .fault _
  | sorted =>
    obtain ⟨vs, named⟩ := args
    obtain ⟨vs', named'⟩ := args'
    have hlength := hargs.positional.length_eq
    rcases hargs.positional with _ | ⟨hv, _ | _⟩
    · exact .fault _
    · refine (mirrors_sortArguments _ hargs.named).bind fun key key' hkey =>
        (mirrors_items hreach hv).bind fun _ _ hitems => ?_
      rw [hkey.2]
      exact (mirrors_sortItems hreach hkey.1 _ hitems).bind fun _ _ hsorted =>
        mirrors_newList hsorted
    · dsimp only at hlength ⊢
      rw [hlength]
      exact .fault _
  | sum =>
    refine (hnamed _).bind fun given given' hgiven => ?_
    rcases hgiven with _ | ⟨hv | _, _ | ⟨hstart | _, _ | _⟩⟩
    · exact .fault _
    · exact .fault _
    · exact (mirrors_items hreach hv).bind fun _ _ hitems => mirrors_sum hstart hitems
    · exact .fault _
    · exact (mirrors_newInt 0).bind fun _ _ hstart => (mirrors_items hreach hv).bind
        fun _ _ hitems => mirrors_sum hstart hitems
    · exact .fault _
    · exact .fault _
    · exact .fault _
    · exact .fault _
    · exact .fault _
    · exact .fault _
  | _ => exact hconstruct

end

end Stencil.Eval
