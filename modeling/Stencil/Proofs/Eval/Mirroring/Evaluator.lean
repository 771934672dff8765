import Stencil.Proofs.Eval.Mirroring.Evaluate

/-!
# The evaluator in step

The functions that evaluate expressions, call functions and run iterators do the same on both sides
with some fuel if they do with one less. What statements do follows from that.
-/

namespace Stencil.Eval

variable {μ : Matching} {frame frame' : Frame}

namespace Mirrored

variable {f : Nat} (h : Mirrored μ f)
include h

/-! ## Expressions -/

section

variable (hframe : frame.Matches μ frame')
include hframe

theorem eval_succ {e : Expr} (he : e.omits hostName = true) :
    Mirrors μ (Value.Matches μ) (Eval.eval (f + 1) frame e) (Eval.eval (f + 1) frame' e) := by
  have heval {e : Expr} (he : e.omits hostName = true) := h.eval hframe he
  have hset {vs ws : List Value} (hvs : List.Forall₂ (Value.Matches μ) vs ws) :
      Mirrors μ (Value.Matches μ)
        (do
          vs.forM checkKey
          change fun h => h.newSet (vs.foldl insertItem #[]))
        (do
          ws.forM checkKey
          change fun h => h.newSet (ws.foldl insertItem #[])) :=
    (Mirrors.forM hvs fun _ _ hv => mirrors_checkKey hv).bind_eq fun _ =>
      mirrors_newSet (hvs.foldl (fun _ _ _ _ hxs hv => matches_insertItem hxs hv) .nil)
  cases e with
  | constant c => exact .pure (literal_matches hframe.code c)
  | folded e =>
    rw [Expr.omits] at he
    exact (heval he).bind fun _ _ hv => .pure (hv.asConstant hframe.code)
  | name n =>
    simp only [Expr.omits, decide_eq_true_eq] at he
    exact mirrors_lookupName hframe he
  | member e n =>
    rw [Expr.omits] at he
    exact (heval he).bind fun _ _ hv => mirrors_getMember hv n
  | subscript e i =>
    rw [Expr.omits, Bool.and_eq_true] at he
    obtain ⟨he, hi⟩ := he
    have hplain : Mirrors μ (Value.Matches μ)
        (do
          let v ← Eval.eval f frame e
          getItem v (← Eval.eval f frame i))
        (do
          let v ← Eval.eval f frame' e
          getItem v (← Eval.eval f frame' i)) :=
      (heval he).bind fun _ _ hv => (heval hi).bind fun _ _ hw => mirrors_getItem hv hw
    cases i with
    | slice start stop step =>
      simp only [Expr.omits, Bool.and_eq_true] at hi
      exact (heval he).bind fun _ _ hv => (h.evalBound hframe hi.1.1).bind fun _ _ hstart =>
        (h.evalBound hframe hi.1.2).bind fun _ _ hstop =>
          (h.evalBound hframe hi.2).bind fun _ _ hstep => mirrors_getSlice hv hstart hstop hstep
    | _ => exact hplain
  | slice => exact .pure .none
  | call g args =>
    rw [Expr.omits, Bool.and_eq_true] at he
    exact (heval he.1).bind fun _ _ hg => (h.evalArguments hframe hg he.2).bind fun _ _ hargs =>
      h.call hg hargs
  | unary op e =>
    rw [Expr.omits] at he
    exact (heval he).bind fun _ _ hv => mirrors_unary op hv
  | binary op a b =>
    rw [Expr.omits, Bool.and_eq_true] at he
    exact (heval he.1).bind fun _ _ hv => (heval he.2).bind fun _ _ hw => mirrors_binary hv hw op
  | both a b =>
    rw [Expr.omits, Bool.and_eq_true] at he
    refine (heval he.1).bind fun _ _ hv => (mirrors_truth hv).bind_eq fun holds => ?_
    split_ifs
    · exact heval he.2
    · exact .pure hv
  | either a b =>
    rw [Expr.omits, Bool.and_eq_true] at he
    refine (heval he.1).bind fun _ _ hv => (mirrors_truth hv).bind_eq fun holds => ?_
    split_ifs
    · exact .pure hv
    · exact heval he.2
  | compare first more =>
    rw [Expr.omits, Bool.and_eq_true] at he
    exact (heval he.1).bind fun _ _ hv => h.evalComparisons hframe hv he.2
  | ifElse cond yes no =>
    simp only [Expr.omits, Bool.and_eq_true] at he
    refine (heval he.1.1).bind fun _ _ hv => (mirrors_truth hv).bind_eq fun holds => ?_
    split_ifs
    · exact heval he.1.2
    · exact heval he.2
  | bind n e =>
    rw [Expr.omits, Bool.and_eq_true] at he
    exact (heval he.2).bind fun _ _ hv => (mirrors_putName n hv).bind_eq fun _ => .pure hv
  | starred e =>
    rw [Expr.omits] at he
    exact heval he
  | tuple items =>
    rw [Expr.omits] at he
    exact (h.evalItems hframe he).bind fun _ _ hvs => mirrors_newTuple hvs
  | list items =>
    rw [Expr.omits] at he
    exact (h.evalItems hframe he).bind fun _ _ hvs => mirrors_newList hvs
  | set items =>
    rw [Expr.omits] at he
    exact (h.evalItems hframe he).bind fun _ _ hvs => hset hvs
  | dict entries =>
    rw [Expr.omits] at he
    exact (h.evalEntries hframe he).bind fun _ _ hes =>
      mirrors_newMapping (mergeInto_matches (.empty false) hes)
  | collect collector element clauses =>
    rw [Expr.omits, Bool.and_eq_true] at he
    have hstart := h.startComprehension hframe he.1 he.2
    cases collector with
    | generator => exact hstart.bind fun _ _ ha => .pure (.iterator ha)
    | list =>
      exact hstart.bind fun _ _ ha => (mirrors_drain h.reaches f ha .nil).bind fun _ _ hvs =>
        mirrors_newList hvs
    | set =>
      exact hstart.bind fun _ _ ha => (mirrors_drain h.reaches f ha .nil).bind fun _ _ hvs =>
        hset hvs
  | collectDict key value clauses =>
    simp only [Expr.omits, Bool.and_eq_true] at he
    have hpair : (Expr.tuple [key, value]).omits hostName = true := by
      simp only [Expr.omits, omitsItems, Bool.and_eq_true, and_true]
      exact he.1
    refine (h.startComprehension hframe hpair he.2).bind fun _ _ ha =>
      (mirrors_drain h.reaches f ha .nil).bind fun vs ws hvs => ?_
    have hes := hvs.filterMap (S := EntryMatches μ) fun _ _ hv => entryOfPair?_matches hv
    exact (mirrors_checkKeys hes).bind_eq fun _ =>
      mirrors_newMapping (mergeInto_matches (.empty false) hes)
  | joined parts =>
    rw [Expr.omits] at he
    exact (h.evalParts hframe he).bind_eq fun _ => mirrors_newText _
  | field e conversion spec =>
    have hparts : omitsItems hostName [.field e conversion spec] = true := by
      rw [omitsItems, he, omitsItems, Bool.and_true]
    exact (h.evalParts hframe hparts).bind_eq fun _ => mirrors_newText _
  | lambda params body =>
    rw [Expr.omits, Bool.and_eq_true] at he
    exact (h.evalDefaults hframe he.1).bind fun _ _ hparams => mirrors_change fun _ _ hh =>
      hh.newClosure ⟨hparams, rfl, hframe.locals, hframe.code, he.2⟩

/-! ## Targets -/

theorem assign_succ {isLocal : Bool} {target : Target} {v v' : Value}
    (htarget : target.omits hostName = true) (hv : v.Matches μ v') :
    Mirrors μ (Frame.Matches μ) (Eval.assign (f + 1) isLocal frame target v)
      (Eval.assign (f + 1) isLocal frame' target v') := by
  have heval {e : Expr} (he : e.omits hostName = true) := h.eval hframe he
  cases target with
  | name n =>
    cases isLocal with
    | true => exact .pure ⟨hframe.code, put_matches n hframe.locals hv⟩
    | false => exact (mirrors_putName n hv).bind_eq fun _ => .pure hframe
  | member e n =>
    rw [Target.omits] at htarget
    exact (heval htarget).bind fun _ _ hw => (mirrors_setMember hw n).bind_eq fun _ => .pure hframe
  | subscript e i =>
    rw [Target.omits, Bool.and_eq_true] at htarget
    obtain ⟨he, hi⟩ := htarget
    have hplain : Mirrors μ (Frame.Matches μ)
        (do
          let c ← Eval.eval f frame e
          setItem c (← Eval.eval f frame i) v
          return frame)
        (do
          let c ← Eval.eval f frame' e
          setItem c (← Eval.eval f frame' i) v'
          return frame') :=
      (heval he).bind fun _ _ hc => (heval hi).bind fun _ _ hw =>
        (mirrors_setItem hc hw hv).bind_eq fun _ => .pure hframe
    cases i with
    | slice start stop step =>
      simp only [Expr.omits, Bool.and_eq_true] at hi
      exact (heval he).bind fun _ _ hc => (h.evalBound hframe hi.1.1).bind fun _ _ hstart =>
        (h.evalBound hframe hi.1.2).bind fun _ _ hstop =>
          (h.evalBound hframe hi.2).bind fun _ _ hstep =>
            (mirrors_items h.reaches hv).bind fun _ _ hvs =>
              (mirrors_setSlice hc hstart hstop hstep hvs).bind_eq fun _ => .pure hframe
    | _ => exact hplain
  | tuple targets =>
    rw [Target.omits] at htarget
    exact (mirrors_unpack h.reaches htarget hv).bind fun _ _ hps => h.assignAll hframe hps
  | starred t =>
    rw [Target.omits] at htarget
    exact h.assign hframe htarget hv

theorem assignAll_succ {isLocal : Bool} {ps qs : List (Target × Value)}
    (hps : List.Forall₂ (TargetMatches μ) ps qs) :
    Mirrors μ (Frame.Matches μ) (Eval.assignAll (f + 1) isLocal frame ps)
      (Eval.assignAll (f + 1) isLocal frame' qs) := by
  cases hps with
  | nil => exact .pure hframe
  | @cons p q _ _ hp hps =>
    obtain ⟨t, v⟩ := p
    obtain ⟨t', v'⟩ := q
    obtain ⟨rfl, ht, hv⟩ := hp
    exact (h.assign hframe ht hv).bind fun _ _ hframe => h.assignAll hframe hps

end

/-! ## Calls -/

theorem call_succ {g g' : Value} {args args' : Arguments} (hg : g.Matches μ g')
    (hargs : args.Matches μ args') :
    Mirrors μ (Value.Matches μ) (Eval.call (f + 1) g args) (Eval.call (f + 1) g' args') := by
  have hcomplaint := mirrors_complaint (R := Value.Matches μ) hg .notCallable
  cases hg with
  | builtin b => exact mirrors_callBuiltin h.reaches b hargs
  | closure ha =>
    refine mirrors_heap.bind fun _ _ hh => ?_
    have hclosure := hh.closure? ha
    generalize Heap.closure? _ _ = x at hclosure ⊢
    generalize Heap.closure? _ _ = y at hclosure ⊢
    cases hclosure with
    | none => exact .pure .none
    | @some c d hc =>
      dsimp only
      rw [hc.body]
      exact (mirrors_bindParameters hc.params hargs).bind fun _ _ hbound =>
        h.eval ⟨hc.code, List.rel_append hbound hc.locals⟩ hc.omits
  | @method r r' n _ _ hr _ =>
    have hother := mirrors_plainMethod n hr hargs
    cases hr with
    | str t hi => exact mirrors_textMethod h.reaches n (.str t hi) t hargs
    | list ha => exact mirrors_listMethod h.reaches hargs n ha
    | mapping ha => exact mirrors_mappingMethod h.reaches n ha hargs
    | set ha => exact mirrors_setMethod h.reaches n ha hargs
    | tuple hvs hi => exact mirrors_tupleMethod n (.tuple hvs hi) hvs hargs
    | range start stop step => exact mirrors_rangeMethod n start stop step hargs
    | float x hi => exact mirrors_floatMethod n (.float x hi) x hargs
    | _ => exact hother
  | typeObject n => exact .beyond n
  | _ => exact hcomplaint

/-! ## Iterators -/

theorem nextAll_succ {as bs : List Nat} (hab : List.Forall₂ (μ.rel .iterator) as bs) :
    Mirrors μ (Option.Rel (List.Forall₂ (Value.Matches μ))) (Eval.nextAll (f + 1) as)
      (Eval.nextAll (f + 1) bs) := by
  cases hab with
  | nil => exact .pure (.some .nil)
  | cons ha hab =>
    refine (h.next ha).bind fun x y hxy => ?_
    cases hxy with
    | none => exact .pure .none
    | some hv =>
      exact (h.nextAll hab).bind fun _ _ hvs => .pure (hvs.map fun _ _ hvs => .cons hv hvs)

theorem nextMatching_succ {g g' : Value} {a b : Nat} (hg : g.Matches μ g')
    (hab : μ.rel .iterator a b) :
    Mirrors μ (Option.Rel (Value.Matches μ)) (Eval.nextMatching (f + 1) g a)
      (Eval.nextMatching (f + 1) g' b) := by
  refine (h.next hab).bind fun x y hxy => ?_
  cases hxy with
  | none => exact .pure .none
  | @some v v' hv =>
    have hverdict {x y : Eval Value} (hxy : Mirrors μ (Value.Matches μ) x y) :
        Mirrors μ (Option.Rel (Value.Matches μ))
          (do
            let verdict ← x
            if ← truth verdict then return some v else Eval.nextMatching f g a)
          (do
            let verdict ← y
            if ← truth verdict then return some v' else Eval.nextMatching f g' b) := by
      refine hxy.bind fun _ _ hw => (mirrors_truth hw).bind_eq fun holds => ?_
      split_ifs
      · exact .pure (.some hv)
      · exact h.nextMatching hg hab
    have hargs : Arguments.Matches μ ⟨[v], []⟩ ⟨[v'], []⟩ := ⟨.cons hv .nil, .nil⟩
    have hcall := h.call hg hargs
    cases hg with
    | none => exact hverdict (.pure hv)
    | _ => exact hverdict hcall

theorem next_succ {a b : Nat} (hab : μ.rel .iterator a b) :
    Mirrors μ (Option.Rel (Value.Matches μ)) (Eval.next (f + 1) a) (Eval.next (f + 1) b) := by
  have hfinish : Mirrors μ (Option.Rel (Value.Matches μ))
      (do
        modifyHeap fun h => h.setIteration a .done
        return none)
      (do
        modifyHeap fun h => h.setIteration b .done
        return none) :=
    (mirrors_modifyHeap fun _ _ hh => hh.setIteration hab .done).bind_eq fun _ => .pure .none
  have hgive {i j : Iteration} (hij : i.Matches μ j) {v w : Value} (hv : v.Matches μ w) :
      Mirrors μ (Option.Rel (Value.Matches μ))
        (do
          modifyHeap fun h => h.setIteration a i
          return some v)
        (do
          modifyHeap fun h => h.setIteration b j
          return some w) :=
    (mirrors_modifyHeap fun _ _ hh => hh.setIteration hab hij).bind_eq fun _ => .pure (.some hv)
  refine mirrors_heap.bind fun h₁ h₂ hh => ?_
  have hiteration := hh.iteration hab
  generalize h₁.iteration a = i at hiteration ⊢
  generalize h₂.iteration b = j at hiteration ⊢
  cases hiteration with
  | done => exact .pure .none
  | list position hl =>
    have hitem := (hh.list hl).getElem? position
    dsimp only
    generalize (h₁.list _)[position]? = x at hitem ⊢
    generalize (h₂.list _)[position]? = y at hitem ⊢
    cases hitem with
    | none => exact hfinish
    | some hv => exact hgive (.list _ hl) hv
  | listBackwards remaining hl =>
    cases remaining with
    | zero => exact hfinish
    | succ i =>
      have hitem := (hh.list hl).getElem? i
      dsimp only
      generalize (h₁.list _)[i]? = x at hitem ⊢
      generalize (h₂.list _)[i]? = y at hitem ⊢
      cases hitem with
      | none => exact hfinish
      | some hv => exact hgive (.listBackwards _ hl) hv
  | items type hvs =>
    cases hvs with
    | nil => exact hfinish
    | cons hv hvs => exact hgive (.items type hvs) hv
  | range n step remaining =>
    cases remaining with
    | zero => exact hfinish
    | succ k =>
      exact (mirrors_modifyHeap fun _ _ hh => hh.setIteration hab (.range _ _ _)).bind_eq fun _ =>
        (mirrors_newInt n).bind fun _ _ hv => .pure (.some hv)
  | mapping kind size position hm =>
    have hentries := (hh.mapping hm).entries
    dsimp only
    rw [hentries.length_eq]
    split_ifs
    · exact .fault _
    · refine (mirrors_viewed kind (List.forall₂_take 1 (List.forall₂_drop position hentries))).bind
        fun vs ws hvs => ?_
      cases hvs with
      | nil => exact hfinish
      | cons hv _ => exact hgive (.mapping kind _ _ hm) hv
  | mappingBackwards kind size remaining hm =>
    have hentries := (hh.mapping hm).entries
    dsimp only
    rw [hentries.length_eq]
    split_ifs
    · exact .fault _
    · cases remaining with
      | zero => exact hfinish
      | succ i =>
        exact (mirrors_modifyHeap fun _ _ hh =>
          hh.setIteration hab (.mappingBackwards kind _ _ hm)).bind_eq fun _ =>
            (mirrors_viewed kind (List.forall₂_take 1 (List.forall₂_drop i hentries))).bind
              fun _ _ hvs => .pure hvs.head?
  | set size position hs =>
    have hitems := hh.set hs
    dsimp only
    rw [hitems.size_eq]
    split_ifs
    · exact .fault _
    · have hitem := hitems.getElem? position
      generalize (h₁.set _)[position]? = x at hitem ⊢
      generalize (h₂.set _)[position]? = y at hitem ⊢
      cases hitem with
      | none => exact hfinish
      | some hv => exact hgive (.set _ _ hs) hv
  | enumerate n hsource =>
    refine (h.next hsource).bind fun x y hxy => ?_
    cases hxy with
    | none => exact hfinish
    | some hv =>
      exact (mirrors_modifyHeap fun _ _ hh =>
        hh.setIteration hab (.enumerate _ hsource)).bind_eq fun _ =>
          (mirrors_newInt n).bind fun _ _ hn =>
            (mirrors_newTuple (.cons hn (.cons hv .nil))).bind fun _ _ hpair => .pure (.some hpair)
  | zip hsources =>
    dsimp only
    rw [hsources.isEmpty_eq]
    split_ifs
    · exact .pure .none
    · refine (h.nextAll hsources).bind fun x y hxy => ?_
      cases hxy with
      | none => exact hfinish
      | some hvs => exact (mirrors_newTuple hvs).bind fun _ _ hv => .pure (.some hv)
  | map hg hsources =>
    refine (h.nextAll hsources).bind fun x y hxy => ?_
    cases hxy with
    | none => exact hfinish
    | @some vs ws hvs =>
      have hargs : Arguments.Matches μ ⟨vs, []⟩ ⟨ws, []⟩ := ⟨hvs, .nil⟩
      exact (h.call hg hargs).bind fun _ _ hv => .pure (.some hv)
  | filter hg hsource => exact h.nextMatching hg hsource
  | comprehension hc hstack =>
    refine (mirrors_modifyHeap fun _ _ hh => hh.setIteration hab .done).bind_eq fun _ =>
      (h.resume hc hstack).bind fun x y hxy => ?_
    cases hxy with
    | none => exact .pure .none
    | some hpq => exact hgive (.comprehension hc hpq.2) hpq.1

theorem resume_succ {c d : Comprehension} {rs ss : List Running} (hc : c.Matches μ d)
    (hstack : List.Forall₂ (Running.Matches μ) rs ss) :
    Mirrors μ (Option.Rel fun p q => p.1.Matches μ q.1 ∧
      List.Forall₂ (Running.Matches μ) p.2 q.2) (Eval.resume (f + 1) c rs)
      (Eval.resume (f + 1) d ss) := by
  have helement : c.element.omits hostName = true := hc.element ▸ hc.element_omits
  have hclauses := omitsClauses_iff.mp hc.clauses_omit
  cases hstack with
  | nil => exact .pure .none
  | @cons r s outer outer' hr houter =>
    refine (h.next hr.iterator).bind fun x y hxy => ?_
    rw [hc.clauses, houter.length_eq]
    cases hxy with
    | none => exact h.resume hc houter
    | some hv =>
      cases hclause : d.clauses[outer'.length]? with
      | none => exact h.resume hc houter
      | some clause =>
        have homits := hclauses _ (List.mem_of_getElem? hclause)
        obtain ⟨target, iterable, conditions⟩ := clause
        simp only [Clause.omits, Bool.and_eq_true] at homits
        obtain ⟨⟨htarget, -⟩, hconditions⟩ := homits
        refine (h.assign ⟨hc.code, hr.locals⟩ htarget hv).bind fun frame frame' hframe =>
          (h.evalConditions hframe hconditions).bind_eq fun holds => ?_
        cases holds with
        | false => exact h.resume hc (.cons hr houter)
        | true =>
          cases hinner : d.clauses[outer'.length + 1]? with
          | none =>
            dsimp only
            rw [hc.element]
            exact (h.eval hframe hc.element_omits).bind fun _ _ hw =>
              .pure (.some ⟨hw, .cons hr houter⟩)
          | some inner =>
            have hiterable := hclauses _ (List.mem_of_getElem? hinner)
            obtain ⟨_, iterable, _⟩ := inner
            simp only [Clause.omits, Bool.and_eq_true] at hiterable
            exact (h.eval hframe hiterable.1.2).bind fun _ _ hw =>
              (mirrors_iterator hw).bind fun _ _ ha =>
                h.resume hc (.cons ⟨ha, hframe.locals⟩ (.cons hr houter))

end Mirrored

theorem mirrored (μ : Matching) (f : Nat) : Mirrored μ f := by
  induction f with
  | zero =>
    constructor
    all_goals
      intros
      exact .exhausted
  | succ f h =>
    exact {
      eval := fun hframe => h.eval_succ hframe
      evalBound := fun hframe => h.evalBound_succ hframe
      evalItems := fun hframe => h.evalItems_succ hframe
      evalEntries := fun hframe => h.evalEntries_succ hframe
      evalArguments := fun hframe => h.evalArguments_succ hframe
      evalComparisons := fun hframe => h.evalComparisons_succ hframe
      evalParts := fun hframe => h.evalParts_succ hframe
      evalDefaults := fun hframe => h.evalDefaults_succ hframe
      startComprehension := fun hframe => h.startComprehension_succ hframe
      assign := fun hframe => h.assign_succ hframe
      assignAll := fun hframe => h.assignAll_succ hframe
      call := h.call_succ
      next := h.next_succ
      nextAll := h.nextAll_succ
      nextMatching := h.nextMatching_succ
      resume := h.resume_succ
      evalConditions := fun hframe => h.evalConditions_succ hframe }

/-! ## Statements -/

theorem mirrors_eval (f : Nat) (hframe : frame.Matches μ frame') {e : Expr}
    (he : e.omits hostName = true) :
    Mirrors μ (Value.Matches μ) (eval f frame e) (eval f frame' e) :=
  (mirrored μ f).eval hframe he

theorem mirrors_update {reach reach' : Reach} (hreach : reach.Mirrors μ reach') (op : BinaryOp)
    {v v' w w' : Value} (hv : v.Matches μ v') (hw : w.Matches μ w') :
    Mirrors μ (Value.Matches μ) (update reach op v w) (update reach' op v' w') := by
  have hplain := mirrors_binaryAs hv hw op.updateMark op
  unfold update
  cases op with
  | add =>
    cases hv with
    | list ha =>
      refine (mirrors_items hreach hw).bind fun vs ws hvs =>
        (mirrors_modifyHeap fun _ _ hh => ?_).bind_eq fun _ => .pure (.list ha)
      exact hh.setList ha ((hh.list ha).append (.ofLists hvs))
    | _ => exact hplain
  | _ => exact hplain

section

variable (f : Nat) (hframe : frame.Matches μ frame')
include hframe

theorem mirrors_targetValue {target : Target} (htarget : target.omits hostName = true) :
    Mirrors μ (Value.Matches μ) (targetValue f frame target) (targetValue f frame' target) := by
  cases target with
  | name n =>
    simp only [Target.omits, decide_eq_true_eq] at htarget
    exact mirrors_lookupName hframe htarget
  | member e n =>
    rw [Target.omits] at htarget
    exact (mirrors_eval f hframe htarget).bind fun _ _ hv => mirrors_getMember hv n
  | subscript e i =>
    rw [Target.omits] at htarget
    exact mirrors_eval f hframe (by rw [Expr.omits, htarget])
  | _ => exact .pure .none

theorem mirrors_delete (depth : Nat) {target : Target} (htarget : target.omits hostName = true) :
    Mirrors μ Eq (delete f frame depth target) (delete f frame' depth target) := by
  induction depth generalizing target with
  | zero => exact .exhausted
  | succ depth ih =>
    cases target with
    | name n =>
      simp only [Target.omits, decide_eq_true_eq] at htarget
      refine mirrors_names.bind fun ns ns' hns => ?_
      have hname := hns n htarget
      generalize ns.get? n = x at hname ⊢
      generalize ns'.get? n = y at hname ⊢
      cases hname with
      | none => exact .fault _
      | some => exact mirrors_removeName n
    | member e n =>
      rw [Target.omits] at htarget
      exact (mirrors_eval f hframe htarget).bind fun _ _ hv => mirrors_setMember hv n
    | subscript e i =>
      rw [Target.omits, Bool.and_eq_true] at htarget
      obtain ⟨he, hi⟩ := htarget
      have hplain : Mirrors μ Eq
          (do
            let c ← eval f frame e
            removeItem c (← eval f frame i))
          (do
            let c ← eval f frame' e
            removeItem c (← eval f frame' i)) :=
        (mirrors_eval f hframe he).bind fun _ _ hc => (mirrors_eval f hframe hi).bind fun _ _ hw =>
          mirrors_removeItem hc hw
      cases i with
      | slice start stop step =>
        simp only [Expr.omits, Bool.and_eq_true] at hi
        have hbound {e : Option Expr} (he : omitsBound hostName e = true) :=
          (mirrored μ f).evalBound hframe he
        exact (mirrors_eval f hframe he).bind fun _ _ hc => (hbound hi.1.1).bind fun _ _ hstart =>
          (hbound hi.1.2).bind fun _ _ hstop => (hbound hi.2).bind fun _ _ hstep =>
            mirrors_removeSlice hc hstart hstop hstep
      | _ => exact hplain
    | tuple targets =>
      rw [Target.omits, omitsTargets_iff] at htarget
      refine Mirrors.forM (R := fun t t' => t = t' ∧ t ∈ targets) ?_ fun t t' ht => ?_
      · exact List.forall₂_same.mpr fun t ht => ⟨rfl, ht⟩
      · obtain ⟨rfl, ht⟩ := ht
        exact ih (htarget t ht)
    | starred t => exact .pure rfl

theorem mirrors_execute {s : Statement} (hs : s.omits hostName = true) :
    Mirrors μ Eq (execute f frame s) (execute f frame' s) := by
  cases s with
  | effect e => exact (mirrors_eval f hframe hs).bind fun _ _ _ => .pure rfl
  | assign targets e =>
    rw [Statement.omits, Bool.and_eq_true, omitsTargets_iff] at hs
    refine (mirrors_eval f hframe hs.2).bind fun v v' hv => Mirrors.forM
      (R := fun t t' => t = t' ∧ t ∈ targets) ?_ fun t t' ht => ?_
    · exact List.forall₂_same.mpr fun t ht => ⟨rfl, ht⟩
    · obtain ⟨rfl, ht⟩ := ht
      exact ((mirrored μ f).assign hframe (hs.1 t ht) hv).bind fun _ _ _ => .pure rfl
  | update target op e =>
    rw [Statement.omits, Bool.and_eq_true] at hs
    exact (mirrors_targetValue f hframe hs.1).bind fun _ _ hv =>
      (mirrors_eval f hframe hs.2).bind fun _ _ hw =>
        (mirrors_update (mirrored μ f).reaches op hv hw).bind fun _ _ hu =>
          ((mirrored μ f).assign hframe hs.1 hu).bind fun _ _ _ => .pure rfl
  | delete targets =>
    rw [Statement.omits, omitsTargets_iff] at hs
    refine Mirrors.forM (R := fun t t' => t = t' ∧ t ∈ targets) ?_ fun t t' ht => ?_
    · exact List.forall₂_same.mpr fun t ht => ⟨rfl, ht⟩
    · obtain ⟨rfl, ht⟩ := ht
      exact mirrors_delete f hframe f (hs t ht)
  | raise what cause =>
    rw [Statement.omits, Bool.and_eq_true] at hs
    cases what with
    | none => exact .fault _
    | some e =>
      exact (mirrors_eval f hframe hs.1).bind fun _ _ _ =>
        ((mirrored μ f).evalBound hframe hs.2).bind fun _ _ _ => .fault _
  | pass => exact .pure rfl

end

end Stencil.Eval
