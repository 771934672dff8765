import Stencil.Eval.Evaluate
import Stencil.Proofs.Eval.Mirroring.Functions

/-!
# Expressions in step

An expression that leaves out the name of the host is evaluated alike from memories that match. All
functions of the evaluator call each other with less fuel, so what is shown of them is shown of all
at once, by induction on the fuel.
-/

namespace Stencil

variable {μ : Matching}

structure Frame.Matches (μ : Matching) (frame frame' : Frame) : Prop where
  code : μ.code frame.code frame'.code
  locals : List.Forall₂ (NamedMatches μ) frame.locals frame'.locals

namespace Eval

variable {frame frame' : Frame} {v v' w w' : Value} {reach reach' : Reach}

/-! ## Names and constants -/

theorem literal_matches {c d : Nat} (h : μ.code c d) (constant : Constant) :
    (literal c constant).Matches μ (literal d constant) := by
  cases constant with
  | int n => exact Value.matches_ofInt n (.constant h)
  | float x => exact .float x (.constant h)
  | str t => exact (Value.Matches.str t .shared).asConstant h
  | _ => constructor

theorem mirrors_lookupName (hframe : frame.Matches μ frame') {n : Text} (hn : n ≠ hostName) :
    Mirrors μ (Value.Matches μ) (lookupName frame n) (lookupName frame' n) := by
  refine mirrors_names.bind fun ns ns' hns => ?_
  have hlocal := lookup_matches n hframe.locals
  have hname := hns n hn
  unfold Names.get? at hname ⊢
  generalize frame.locals.lookup n = x at hlocal ⊢
  generalize frame'.locals.lookup n = x' at hlocal ⊢
  generalize ns.lookup n = y at hname ⊢
  generalize ns'.lookup n = y' at hname ⊢
  rcases hlocal with hv | _
  · exact .pure hv
  · rcases hname with hv | _
    · exact .pure hv
    · cases Builtin.ofName? n with
      | some b => exact .pure (.builtin b)
      | none =>
        dsimp only
        split_ifs
        · exact .beyond n
        · exact .fault _

theorem put_matches (n : Text) {ns ns' : Names} (h : List.Forall₂ (NamedMatches μ) ns ns')
    (hv : v.Matches μ v') : List.Forall₂ (NamedMatches μ) (ns.put n v) (ns'.put n v') := by
  induction h with
  | nil => exact .cons ⟨rfl, hv⟩ .nil
  | @cons p q _ _ hp hps ih =>
    obtain ⟨m, w⟩ := p
    obtain ⟨m', w'⟩ := q
    obtain ⟨rfl, hw⟩ := hp
    simp only [Names.put]
    split_ifs
    · exact .cons ⟨rfl, hv⟩ hps
    · exact .cons ⟨rfl, hw⟩ ih

/-! ## Comparisons -/

section

variable (hreach : reach.Mirrors μ reach')
include hreach

theorem mirrors_findItem (hv : v.Matches μ v') (fuel : Nat) {a b : Nat}
    (ha : μ.rel .iterator a b) :
    Mirrors μ Eq (findItem reach v fuel a) (findItem reach' v' fuel b) := by
  induction fuel with
  | zero => exact .exhausted
  | succ fuel ih =>
    refine (hreach.next a b ha).bind fun x y hxy => ?_
    cases hxy with
    | none => exact .pure rfl
    | some hw =>
      refine mirrors_heap.bind fun h h' hh => ?_
      rw [hh.equalItem_eq hw hv]
      split_ifs
      · exact .pure rfl
      · exact ih

theorem mirrors_contains (hw : w.Matches μ w') (hv : v.Matches μ v') :
    Mirrors μ Eq (contains reach w v) (contains reach' w' v') := by
  have hcomplaint := mirrors_complaint (R := Eq (α := Bool)) hw .notContainer
  refine mirrors_heap.bind fun h h' hh => ?_
  have hany {vs ws : List Value} (h : List.Forall₂ (Value.Matches μ) vs ws) := 
    h.any_eq fun _ _ hu => hh.equalItem_eq hu hv
  cases hw with
  | str t =>
    have hneedle := mirrors_complaint (R := Eq (α := Bool)) hv .inString
    cases hv with
    | str => exact .pure rfl
    | _ => exact hneedle
  | list ha => exact .pure ((hh.list ha).any_eq fun _ _ hu => hh.equalItem_eq hu hv)
  | tuple hvs => exact .pure (hany hvs)
  | mapping ha =>
    exact (mirrors_checkKey hv).bind_eq fun _ => .pure ((hh.mapping ha).get? hv).isSome_eq
  | view kind ha =>
    cases kind with
    | keys =>
      exact (mirrors_checkKey hv).bind_eq fun _ => .pure ((hh.mapping ha).get? hv).isSome_eq
    | values | items =>
      exact (mirrors_viewed _ (hh.mapping ha).entries).bind fun _ _ hvs => .pure (hany hvs)
  | set ha =>
    exact (mirrors_checkKey hv).bind_eq fun _ =>
      .pure ((hh.set ha).any_eq fun _ _ hu => hu.equalKey_eq hv)
  | range => exact .pure (congrArg _ (rangePosition?_eq _ _ _ hv))
  | iterator ha =>
    dsimp only
    rw [hreach.fuel]
    exact mirrors_findItem hreach hv _ ha
  | _ => exact hcomplaint

theorem mirrors_compareWith (op : CompareOp) (hv : v.Matches μ v') (hw : w.Matches μ w') :
    Mirrors μ Eq (compareWith reach op v w) (compareWith reach' op v' w') := by
  cases op with
  | equal => exact mirrors_equal hv hw
  | notEqual => exact (mirrors_equal hv hw).bind_eq fun _ => .pure rfl
  | less => exact mirrors_order hv .less hw
  | lessEqual => exact mirrors_order hv .lessEqual hw
  | greater => exact mirrors_order hv .greater hw
  | greaterEqual => exact mirrors_order hv .greaterEqual hw
  | isIn => exact mirrors_contains hreach hw hv
  | notIn => exact (mirrors_contains hreach hw hv).bind_eq fun _ => .pure rfl
  | same => exact .pure (hv.same_eq hw)
  | notSame => exact .pure (congrArg not (hv.same_eq hw))

/-! ## Unpacking -/

structure TargetMatches (μ : Matching) (p q : Target × Value) : Prop where
  target : p.1 = q.1
  omits : q.1.omits hostName = true
  value : p.2.Matches μ q.2

omit hreach in
theorem mirrors_distribute {targets : List Target} (htargets : omitsTargets hostName targets = true)
    {vs ws : List Value} (h : List.Forall₂ (Value.Matches μ) vs ws) (spare : Nat) :
    Mirrors μ (List.Forall₂ (TargetMatches μ)) (distribute targets vs spare)
      (distribute targets ws spare) := by
  induction targets generalizing vs ws spare with
  | nil => exact .pure .nil
  | cons t more ih =>
    rw [omitsTargets, Bool.and_eq_true] at htargets
    obtain ⟨ht, hmore⟩ := htargets
    cases t with
    | starred t =>
      rw [Target.omits] at ht
      exact (mirrors_newList (List.forall₂_take spare h)).bind fun _ _ htaken =>
        (ih hmore (List.forall₂_drop spare h) 0).bind fun _ _ hrest =>
          .pure (.cons ⟨rfl, ht, htaken⟩ hrest)
    | _ =>
      cases h with
      | nil => exact .pure .nil
      | cons hv hvs =>
        exact (ih hmore hvs spare).bind fun _ _ hrest => .pure (.cons ⟨rfl, ht, hv⟩ hrest)

theorem mirrors_unpack {targets : List Target} (htargets : omitsTargets hostName targets = true)
    (hv : v.Matches μ v') :
    Mirrors μ (List.Forall₂ (TargetMatches μ)) (unpack reach targets v)
      (unpack reach' targets v') := by
  refine (mirrors_items? hreach hv).bind fun x y hxy => ?_
  rcases hxy with hitems | _
  · dsimp only
    rw [hitems.length_eq]
    split_ifs
    · exact .fault _
    · exact .fault _
    · exact mirrors_distribute htargets hitems _
  · exact mirrors_complaint hv _

end

/-! ## Parameters -/

theorem mirrors_bindParameters {params params' : List (Text × Option Value)}
    (hparams : List.Forall₂ (ParameterMatches μ) params params') {args args' : Arguments}
    (hargs : args.Matches μ args') :
    Mirrors μ (List.Forall₂ (NamedMatches μ)) (bindParameters params args)
      (bindParameters params' args') := by
  have hnames : params.map (·.1) = params'.map (·.1) := hparams.map_eq fun _ _ hpq => hpq.1
  have hneeded : params.map (·.2.isNone) = params'.map (·.2.isNone) :=
    hparams.map_eq fun _ _ hpq => hpq.2.isNone_eq
  have hunknown := hargs.named.find? (p := fun p => !(params'.map (·.1)).contains p.1)
    (q := fun q => !(params'.map (·.1)).contains q.1) fun p q hpq => by rw [hpq.1]
  unfold bindParameters
  dsimp only
  rw [hnames]
  generalize args.named.find? _ = x at hunknown ⊢
  generalize args'.named.find? _ = y at hunknown ⊢
  cases hunknown with
  | some hpq =>
    dsimp only
    rw [hpq.1]
    exact .fault _
  | none =>
    dsimp only
    rw [hneeded, hparams.length_eq, hargs.positional.length_eq]
    split_ifs
    · exact .fault _
    · refine Mirrors.mapM (hparams.zipIdx 0) ?_
      rintro ⟨⟨n, fallback⟩, i⟩ ⟨⟨_, fallback'⟩, _⟩ ⟨⟨rfl, hfallback⟩, rfl⟩
      have hpositional := hargs.positional.getElem? i
      have hnamed := lookup_matches n hargs.named
      dsimp only at hfallback ⊢
      generalize args.positional[i]? = x at hpositional ⊢
      generalize args'.positional[i]? = x' at hpositional ⊢
      generalize args.named.lookup n = y at hnamed ⊢
      generalize args'.named.lookup n = y' at hnamed ⊢
      rcases hpositional with hv | _
      · rcases hnamed with hw | _
        · exact .fault _
        · exact .pure ⟨rfl, hv⟩
      · rcases hnamed with hw | _
        · exact .pure ⟨rfl, hw⟩
        · rcases hfallback with hu | _
          · exact .pure ⟨rfl, hu⟩
          · exact .fault _

theorem argumentPlace_eq (hv : v.Matches μ v') : argumentPlace v = argumentPlace v' := by
  cases hv <;> rfl

/-! ## The evaluator -/

structure Mirrored (μ : Matching) (f : Nat) : Prop where
  eval : ∀ {frame frame' : Frame} {e : Expr}, frame.Matches μ frame' → e.omits hostName = true →
    Mirrors μ (Value.Matches μ) (eval f frame e) (eval f frame' e)
  evalBound : ∀ {frame frame' : Frame} {e : Option Expr}, frame.Matches μ frame' →
    omitsBound hostName e = true →
    Mirrors μ (Value.Matches μ) (evalBound f frame e) (evalBound f frame' e)
  evalItems : ∀ {frame frame' : Frame} {items : List Expr}, frame.Matches μ frame' →
    omitsItems hostName items = true →
    Mirrors μ (List.Forall₂ (Value.Matches μ)) (evalItems f frame items) (evalItems f frame' items)
  evalEntries : ∀ {frame frame' : Frame} {entries : List (Option Expr × Expr)},
    frame.Matches μ frame' → omitsEntries hostName entries = true →
    Mirrors μ (List.Forall₂ (EntryMatches μ)) (evalEntries f frame entries)
      (evalEntries f frame' entries)
  evalArguments : ∀ {frame frame' : Frame} {g g' : Value} {args : List (ArgumentForm × Expr)},
    frame.Matches μ frame' → g.Matches μ g' → omitsArguments hostName args = true →
    Mirrors μ (Arguments.Matches μ) (evalArguments f frame g args) (evalArguments f frame' g' args)
  evalComparisons : ∀ {frame frame' : Frame} {v v' : Value} {more : List (CompareOp × Expr)},
    frame.Matches μ frame' → v.Matches μ v' → omitsComparisons hostName more = true →
    Mirrors μ (Value.Matches μ) (evalComparisons f frame v more) (evalComparisons f frame' v' more)
  evalParts : ∀ {frame frame' : Frame} {parts : List Expr}, frame.Matches μ frame' →
    omitsItems hostName parts = true →
    Mirrors μ Eq (evalParts f frame parts) (evalParts f frame' parts)
  evalDefaults : ∀ {frame frame' : Frame} {params : List (Text × Option Expr)},
    frame.Matches μ frame' → omitsParameters hostName params = true →
    Mirrors μ (List.Forall₂ (ParameterMatches μ)) (evalDefaults f frame params)
      (evalDefaults f frame' params)
  startComprehension : ∀ {frame frame' : Frame} {element : Expr} {clauses : List Clause},
    frame.Matches μ frame' → element.omits hostName = true →
    omitsClauses hostName clauses = true →
    Mirrors μ (μ.rel .iterator) (startComprehension f frame element clauses)
      (startComprehension f frame' element clauses)
  assign : ∀ {isLocal : Bool} {frame frame' : Frame} {target : Target} {v v' : Value},
    frame.Matches μ frame' → target.omits hostName = true → v.Matches μ v' →
    Mirrors μ (Frame.Matches μ) (assign f isLocal frame target v)
      (assign f isLocal frame' target v')
  assignAll : ∀ {isLocal : Bool} {frame frame' : Frame} {ps qs : List (Target × Value)},
    frame.Matches μ frame' → List.Forall₂ (TargetMatches μ) ps qs →
    Mirrors μ (Frame.Matches μ) (assignAll f isLocal frame ps) (assignAll f isLocal frame' qs)
  call : ∀ {g g' : Value} {args args' : Arguments}, g.Matches μ g' → args.Matches μ args' →
    Mirrors μ (Value.Matches μ) (call f g args) (call f g' args')
  next : ∀ {a b : Nat}, μ.rel .iterator a b →
    Mirrors μ (Option.Rel (Value.Matches μ)) (next f a) (next f b)
  nextAll : ∀ {as bs : List Nat}, List.Forall₂ (μ.rel .iterator) as bs →
    Mirrors μ (Option.Rel (List.Forall₂ (Value.Matches μ))) (nextAll f as) (nextAll f bs)
  nextMatching : ∀ {g g' : Value} {a b : Nat}, g.Matches μ g' → μ.rel .iterator a b →
    Mirrors μ (Option.Rel (Value.Matches μ)) (nextMatching f g a) (nextMatching f g' b)
  resume : ∀ {c d : Comprehension} {rs ss : List Running}, c.Matches μ d →
    List.Forall₂ (Running.Matches μ) rs ss →
    Mirrors μ (Option.Rel fun p q => p.1.Matches μ q.1 ∧
      List.Forall₂ (Running.Matches μ) p.2 q.2) (resume f c rs) (resume f d ss)
  evalConditions : ∀ {frame frame' : Frame} {conditions : List Expr}, frame.Matches μ frame' →
    omitsItems hostName conditions = true →
    Mirrors μ Eq (evalConditions f frame conditions) (evalConditions f frame' conditions)

namespace Mirrored

variable {f : Nat} (h : Mirrored μ f)
include h

theorem reaches : Reach.Mirrors μ ⟨Eval.call f, Eval.next f, f⟩ ⟨Eval.call f, Eval.next f, f⟩ where
  call _ _ _ _ hg hargs := h.call hg hargs
  next _ _ hab := h.next hab
  fuel := rfl

section

variable (hframe : frame.Matches μ frame')
include hframe

theorem evalBound_succ {e : Option Expr} (he : omitsBound hostName e = true) :
    Mirrors μ (Value.Matches μ) (Eval.evalBound (f + 1) frame e)
      (Eval.evalBound (f + 1) frame' e) := by
  cases e with
  | none => exact .pure .none
  | some e => exact h.eval hframe he

theorem evalItems_succ {items : List Expr} (hitems : omitsItems hostName items = true) :
    Mirrors μ (List.Forall₂ (Value.Matches μ)) (Eval.evalItems (f + 1) frame items)
      (Eval.evalItems (f + 1) frame' items) := by
  cases items with
  | nil => exact .pure .nil
  | cons e more =>
    rw [omitsItems, Bool.and_eq_true] at hitems
    have hmore := h.evalItems hframe hitems.2
    have hplain : Mirrors μ (List.Forall₂ (Value.Matches μ))
        (do return (← Eval.eval f frame e) :: (← Eval.evalItems f frame more))
        (do return (← Eval.eval f frame' e) :: (← Eval.evalItems f frame' more)) :=
      (h.eval hframe hitems.1).bind fun _ _ hv => hmore.bind fun _ _ hvs => .pure (.cons hv hvs)
    cases e with
    | starred e =>
      have he := hitems.1
      rw [Expr.omits] at he
      refine (h.eval hframe he).bind fun v v' hv =>
        (mirrors_items? h.reaches hv).bind fun x y hxy => ?_
      rcases hxy with hfirst | _
      · exact hmore.bind fun _ _ hvs => .pure (List.rel_append hfirst hvs)
      · exact mirrors_complaint hv _
    | _ => exact hplain

theorem evalEntries_succ {entries : List (Option Expr × Expr)}
    (hentries : omitsEntries hostName entries = true) :
    Mirrors μ (List.Forall₂ (EntryMatches μ)) (Eval.evalEntries (f + 1) frame entries)
      (Eval.evalEntries (f + 1) frame' entries) := by
  rcases entries with _ | ⟨⟨k, e⟩, more⟩
  · exact .pure .nil
  · rw [omitsEntries, Bool.and_eq_true, Bool.and_eq_true] at hentries
    obtain ⟨⟨hk, he⟩, hmore⟩ := hentries
    have hmore := h.evalEntries hframe hmore
    cases k with
    | some k =>
      exact (h.eval hframe hk).bind fun _ _ hk => (h.eval hframe he).bind fun _ _ hv =>
        (mirrors_checkKey hk).bind_eq fun _ => hmore.bind fun _ _ hvs => .pure (.cons ⟨hk, hv⟩ hvs)
    | none =>
      refine (h.eval hframe he).bind fun v v' hv => ?_
      have hcomplaint := mirrors_complaint (R := List.Forall₂ (EntryMatches μ)) hv .notMapping
      cases hv with
      | mapping ha =>
        exact mirrors_heap.bind fun _ _ hh => hmore.bind fun _ _ hvs =>
          .pure (List.rel_append (hh.mapping ha).entries hvs)
      | _ => exact hcomplaint

theorem evalArguments_succ {g g' : Value} {args : List (ArgumentForm × Expr)}
    (hg : g.Matches μ g') (hargs : omitsArguments hostName args = true) :
    Mirrors μ (Arguments.Matches μ) (Eval.evalArguments (f + 1) frame g args)
      (Eval.evalArguments (f + 1) frame' g' args) := by
  rcases args with _ | ⟨⟨form, e⟩, more⟩
  · exact .pure ⟨.nil, .nil⟩
  · rw [omitsArguments, Bool.and_eq_true] at hargs
    have hmore := h.evalArguments hframe hg hargs.2
    refine (h.eval hframe hargs.1).bind fun v v' hv => ?_
    cases form with
    | positional =>
      exact hmore.bind fun _ _ hrest => .pure ⟨.cons hv hrest.positional, hrest.named⟩
    | named n =>
      exact hmore.bind fun _ _ hrest => .pure ⟨hrest.positional, .cons ⟨rfl, hv⟩ hrest.named⟩
    | spread =>
      refine (mirrors_items? h.reaches hv).bind fun x y hxy => ?_
      rcases hxy with hitems | _
      · exact hmore.bind fun _ _ hrest =>
          .pure ⟨List.rel_append hitems hrest.positional, hrest.named⟩
      · dsimp only
        rw [argumentPlace_eq hg]
        exact mirrors_complaint hv _
    | spreadNamed =>
      have hcomplaint := mirrors_complaint (R := Arguments.Matches μ) hv
        (.notMappingArgument (argumentPlace g'))
      dsimp only
      rw [argumentPlace_eq hg]
      cases hv with
      | mapping ha =>
        refine mirrors_heap.bind fun _ _ hh =>
          (Mirrors.mapM (S := NamedMatches μ) (hh.mapping ha).entries ?_).bind fun _ _ hnamed =>
            hmore.bind fun _ _ hrest =>
              .pure ⟨hrest.positional, List.rel_append hnamed hrest.named⟩
        rintro ⟨k, w⟩ ⟨k', w'⟩ ⟨hk, hw⟩
        cases hk with
        | str n => exact .pure ⟨rfl, hw⟩
        | _ => exact .fault _
      | _ => exact hcomplaint

theorem evalComparisons_succ {more : List (CompareOp × Expr)} (hv : v.Matches μ v')
    (hmore : omitsComparisons hostName more = true) :
    Mirrors μ (Value.Matches μ) (Eval.evalComparisons (f + 1) frame v more)
      (Eval.evalComparisons (f + 1) frame' v' more) := by
  rcases more with _ | ⟨⟨op, e⟩, more⟩
  · exact .pure (.bool _)
  · rw [omitsComparisons, Bool.and_eq_true] at hmore
    refine (h.eval hframe hmore.1).bind fun w w' hw =>
      (mirrors_compareWith h.reaches op hv hw).bind_eq fun holds => ?_
    split_ifs
    · exact h.evalComparisons hframe hw hmore.2
    · exact .pure (.bool _)

theorem evalParts_succ {parts : List Expr} (hparts : omitsItems hostName parts = true) :
    Mirrors μ Eq (Eval.evalParts (f + 1) frame parts) (Eval.evalParts (f + 1) frame' parts) := by
  cases parts with
  | nil => exact .pure rfl
  | cons e more =>
    rw [omitsItems, Bool.and_eq_true] at hparts
    have hmore := h.evalParts hframe hparts.2
    have hplain : Mirrors μ Eq
        (do
          let v ← Eval.eval f frame e
          return (← write Datum.display v) ++ (← Eval.evalParts f frame more))
        (do
          let v ← Eval.eval f frame' e
          return (← write Datum.display v) ++ (← Eval.evalParts f frame' more)) :=
      (h.eval hframe hparts.1).bind fun _ _ hv => (mirrors_write hv _).bind_eq fun _ =>
        hmore.bind_eq fun _ => .pure rfl
    cases e with
    | field e conversion spec =>
      have he := hparts.1
      rw [Expr.omits, Bool.and_eq_true] at he
      exact (h.eval hframe he.1).bind fun _ _ hv => (h.evalParts hframe he.2).bind_eq fun _ =>
        (mirrors_datum hv).bind_eq fun _ => (Mirrors.ofExcept rfl).bind_eq fun _ =>
          hmore.bind_eq fun _ => .pure rfl
    | joined parts =>
      have hfirst := hparts.1
      rw [Expr.omits] at hfirst
      exact (h.evalParts hframe hfirst).bind_eq fun _ => hmore.bind_eq fun _ => .pure rfl
    | _ => exact hplain

theorem evalDefaults_succ {params : List (Text × Option Expr)}
    (hparams : omitsParameters hostName params = true) :
    Mirrors μ (List.Forall₂ (ParameterMatches μ)) (Eval.evalDefaults (f + 1) frame params)
      (Eval.evalDefaults (f + 1) frame' params) := by
  rcases params with _ | ⟨⟨n, e⟩, more⟩
  · exact .pure .nil
  · rw [omitsParameters, Bool.and_eq_true] at hparams
    have hmore := h.evalDefaults hframe hparams.2
    cases e with
    | none => exact hmore.bind fun _ _ hps => .pure (.cons ⟨rfl, .none⟩ hps)
    | some e =>
      exact (h.eval hframe hparams.1).bind fun _ _ hv => hmore.bind fun _ _ hps =>
        .pure (.cons ⟨rfl, .some hv⟩ hps)

theorem startComprehension_succ {element : Expr} {clauses : List Clause}
    (helement : element.omits hostName = true) (hclauses : omitsClauses hostName clauses = true) :
    Mirrors μ (μ.rel .iterator) (Eval.startComprehension (f + 1) frame element clauses)
      (Eval.startComprehension (f + 1) frame' element clauses) := by
  rcases clauses with _ | ⟨⟨target, iterable, conditions⟩, more⟩
  · exact mirrors_newIterator .done
  · have hiterable : iterable.omits hostName = true := by
      simp only [omitsClauses, Clause.omits, Bool.and_eq_true] at hclauses
      exact hclauses.1.1.2
    exact (h.eval hframe hiterable).bind fun _ _ hv => (mirrors_iterator hv).bind fun _ _ ha =>
      mirrors_newIterator (.comprehension ⟨rfl, rfl, hframe.code, helement, hclauses⟩
        (.cons ⟨ha, hframe.locals⟩ .nil))

theorem evalConditions_succ {conditions : List Expr}
    (hconditions : omitsItems hostName conditions = true) :
    Mirrors μ Eq (Eval.evalConditions (f + 1) frame conditions)
      (Eval.evalConditions (f + 1) frame' conditions) := by
  cases conditions with
  | nil => exact .pure rfl
  | cons e more =>
    rw [omitsItems, Bool.and_eq_true] at hconditions
    refine (h.eval hframe hconditions.1).bind fun _ _ hv =>
      (mirrors_truth hv).bind_eq fun holds => ?_
    split_ifs
    · exact h.evalConditions hframe hconditions.2
    · exact .pure rfl

end

end Mirrored

end Eval

end Stencil
