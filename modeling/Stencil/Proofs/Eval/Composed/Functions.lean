import Mathlib.Tactic.SplitIfs
import Stencil.Eval.Function
import Stencil.Proofs.Eval.Composed

/-!
# Functions are composed

Members, operators, methods and builtin functions do nothing but act on the memory, call back, ask
and fail. A function that chooses what is done next is composed if all that it can choose is.
-/

namespace Stencil.Eval

variable {P : Nat → Prop} {reach : Reach} {x unsupported : Eval Value}

/-! ## Members -/

theorem composed_of_numberPart? {v : Value} {n : Text} (h : numberPart? v n = some x) :
    x.Composed P := by
  unfold numberPart? at h
  split at h
  · split_ifs at h <;> cases h
    · exact composed_pure _
    · exact composed_newFloat _
  · obtain ⟨k, -, rfl⟩ := Option.map_eq_some_iff.mp h
    exact composed_newInt k
  · cases h

theorem composed_of_rangePart? {start stop step : Int} {n : Text}
    (h : rangePart? start stop step n = some x) : x.Composed P := by
  unfold rangePart? at h
  split_ifs at h <;> cases h <;> exact composed_newInt _

theorem composed_of_datePart? {year month day : Nat} {n : Text}
    (h : datePart? year month day n = some x) : x.Composed P := by
  unfold datePart? at h
  split_ifs at h <;> cases h <;> exact composed_newInt _

theorem composed_of_templatePart? {id : Nat} {name n : Text}
    (h : templatePart? id name n = some x) : x.Composed P := by
  unfold templatePart? at h
  split_ifs at h <;> cases h
  · exact composed_newInt _
  · exact composed_pure _
  · exact .ask _
  · exact composed_pure _

theorem composed_of_enginePart? {n : Text} (h : enginePart? n = some x) : x.Composed P := by
  unfold enginePart? at h
  split_ifs at h
  cases h
  exact composed_pure _

theorem composed_of_part? {v : Value} {n : Text} (h : part? v n = some x) : x.Composed P := by
  unfold part? at h
  split at h
  · exact composed_of_rangePart? h
  · exact composed_of_datePart? h
  · exact composed_of_templatePart? h
  · exact composed_of_enginePart? h
  · exact composed_of_numberPart? h

@[grind ←] theorem composed_noMember (v : Value) (n : Text) : (noMember v n).Composed P := by
  unfold noMember
  grind

@[grind ←] theorem composed_getMember (v : Value) (n : Text) : (getMember v n).Composed P := by
  unfold getMember
  split
  · next h => exact composed_of_part? h
  · grind

@[grind ←] theorem composed_hasMember (v : Value) (n : Text) : (hasMember v n).Composed P := by
  unfold hasMember
  grind

@[grind ←] theorem composed_setMember (v : Value) (n : Text) : (setMember v n).Composed P := by
  unfold setMember
  grind

/-! ## Operators -/

@[grind ←] theorem composed_intToFloat (n : Int) : (intToFloat n).Composed P := by
  unfold intToFloat
  grind

@[grind ←] theorem composed_toFloat? (v : Value) : (toFloat? v).Composed P := by
  unfold toFloat?
  grind

@[grind ←] theorem composed_floatPower (a b : Float) : (floatPower a b).Composed P := by
  unfold floatPower
  grind

@[grind ←] theorem composed_intOp (op : BinaryOp) (a b : Int) : (intOp op a b).Composed P := by
  unfold intOp
  cases op <;> grind

theorem composed_of_floatOp? {op : BinaryOp} {a b : Float} (h : floatOp? op a b = some x) :
    x.Composed P := by
  unfold floatOp? at h
  grind

@[grind ←] theorem composed_repeatSequence (v : Value) (n : Int) :
    (repeatSequence v n).Composed P := by
  unfold repeatSequence
  grind

section

variable (hunsupported : unsupported.Composed P) (op : BinaryOp) (v w : Value)
include hunsupported

theorem composed_of_combine? (h : combine? unsupported op v w = some x) : x.Composed P := by
  unfold combine? at h
  grind

@[grind ←] theorem composed_floatOperation : (floatOperation unsupported op v w).Composed P := by
  have hchosen (a b : Float) : ((floatOp? op a b).getD unsupported).Composed P := by
    cases h : floatOp? op a b with
    | none => exact hunsupported
    | some x => exact composed_of_floatOp? h
  unfold floatOperation
  grind

@[grind ←] theorem composed_numberOperation : (numberOperation unsupported op v w).Composed P := by
  unfold numberOperation
  grind

end

@[grind ←] theorem composed_binaryAs (mark : Text) (op : BinaryOp) (v w : Value) :
    (binaryAs mark op v w).Composed P := by
  have hunsupported : (do
      fault (.unsupported mark (← typeName v) (← typeName w)) : Eval Value).Composed P := by
    grind
  unfold binaryAs
  dsimp only
  cases h : combine? _ op v w with
  | none => exact composed_numberOperation hunsupported op v w
  | some x => exact composed_of_combine? hunsupported op v w h

@[grind ←] theorem composed_binary (op : BinaryOp) (v w : Value) : (binary op v w).Composed P :=
  composed_binaryAs ..

@[grind ←] theorem composed_unary (op : UnaryOp) (v : Value) : (unary op v).Composed P := by
  unfold unary
  grind

/-! ## Arguments of text methods -/

@[grind ←] theorem composed_textOr (complain : Text → Fault) (v : Value) :
    (textOr complain v).Composed P := by
  unfold textOr
  grind

section

variable (t : Text) (args : List Value)

@[grind ←] theorem composed_windowArguments : (windowArguments args).Composed P := by
  unfold windowArguments
  grind

@[grind ←] theorem composed_findIn (search : Text → Text → Option Nat) :
    (findIn search t args).Composed P := by
  unfold findIn
  grind

@[grind ←] theorem composed_indexOfText (search : Text → Text → Option Nat) :
    (indexOfText search t args).Composed P := by
  unfold indexOfText
  grind

@[grind ←] theorem composed_countIn : (countIn t args).Composed P := by
  unfold countIn
  grind

@[grind ←] theorem composed_endIn (function : Text) (test : Text → Text → Bool) :
    (endIn function test t args).Composed P := by
  unfold endIn
  cases args with
  | nil => exact composed_pure false
  | cons v rest =>
    refine (composed_windowArguments rest).bind fun window => ?_
    cases v with
    | str => exact composed_pure _
    | tuple items =>
      exact (composed_mapM (composed_textOr _) items).bind fun _ => composed_pure _
    | _ => exact composed_complaint _ _

@[grind ←] theorem composed_stripArgument (function : Text) :
    (stripArgument function args).Composed P := by
  unfold stripArgument
  grind

end

@[grind ←] theorem composed_separator? (given : Option Value) : (separator? given).Composed P := by
  unfold separator?
  grind

@[grind ←] theorem composed_splitArguments (function : Text) (args : Arguments) :
    (splitArguments function args).Composed P := by
  unfold splitArguments
  grind

@[grind ←] theorem composed_newTexts (ts : List Text) : (newTexts ts).Composed P := by
  unfold newTexts
  grind

@[grind ←] theorem composed_fillArguments (function : Text) (args : Arguments) :
    (fillArguments function args).Composed P := by
  unfold fillArguments
  grind

@[grind ←] theorem composed_partition (found : Option (Text × Text)) (separator : Value)
    (missing : Text × Text × Text) : (partition found separator missing).Composed P := by
  unfold partition
  grind

@[grind ←] theorem composed_joinTexts (separator : Text) (items : List Value) :
    (joinTexts separator items).Composed P := by
  unfold joinTexts
  grind

/-! ## Formats -/

section

variable {args : List Value} {named : Text → Eval Value} (hnamed : ∀ n, (named n).Composed P)
include hnamed

theorem composed_fetchField (path : Format.Path) : (fetchField args named path).Composed P := by
  have hsource : (fieldSource args named path.source).Composed P := by
    unfold fieldSource
    grind
  have hstep (v : Value) (s : Format.Step) : (fieldStep v s).Composed P := by
    unfold fieldStep
    grind
  unfold fetchField
  grind

end

section

variable {present : Datum → Text → Except Fault Text} {fetch : Format.Path → Eval Datum}
  (hfetch : ∀ path, (fetch path).Composed P)
include hfetch

theorem composed_fillField {fill : Format.Numbering → Text → Eval (Text × Format.Numbering)}
    (hfill : ∀ numbering t, (fill numbering t).Composed P) (numbering : Format.Numbering)
    (field : Format.Field) :
    (Format.fillField (m := Eval) fault present fetch fill numbering field).Composed P := by
  unfold Format.fillField
  cases Format.pathOf numbering field.name with
  | error f => exact .fault f
  | ok found =>
    refine (hfetch found.1).bind fun d => ?_
    cases Format.convert field.conversion d with
    | error f => exact .fault f
    | ok d => grind

theorem composed_fillPieces {fill : Format.Numbering → Text → Eval (Text × Format.Numbering)}
    (hfill : ∀ numbering t, (fill numbering t).Composed P) (numbering : Format.Numbering)
    (t : Text) :
    (Format.fillPieces (m := Eval) fault present fetch fill numbering t).Composed P := by
  induction numbering, t using Format.fillPieces.induct (m := Eval) fault present fetch fill with
  | case1 numbering t f hpiece =>
    rw [Format.fillPieces, hpiece]
    exact .fault f
  | case2 numbering t hpiece =>
    rw [Format.fillPieces, hpiece]
    exact composed_pure _
  | case3 numbering t piece rest hpiece hlength hfield ih =>
    rw [Format.fillPieces, hpiece]
    simp only [dif_pos hlength, hfield]
    exact (composed_pure _).bind fun _ => (ih _).bind fun _ => composed_pure _
  | case4 numbering t piece rest hpiece hlength field hfield ih =>
    rw [Format.fillPieces, hpiece]
    simp only [dif_pos hlength, hfield]
    exact (composed_fillField hfetch hfill numbering field).bind fun _ =>
      (ih _).bind fun _ => composed_pure _
  | case5 numbering t piece rest hpiece hlength =>
    rw [Format.fillPieces, hpiece]
    simp only [dif_neg hlength]
    exact composed_pure _

theorem composed_fill (depth : Nat) (numbering : Format.Numbering) (t : Text) :
    (Format.fill (m := Eval) fault present fetch depth numbering t).Composed P := by
  induction depth generalizing numbering t with
  | zero => exact .fault _
  | succ deeper ih => exact composed_fillPieces hfetch ih numbering t

end

@[grind ←] theorem composed_formatText (t : Text) (args : List Value) {named : Text → Eval Value}
    (hnamed : ∀ n, (named n).Composed P) : (formatText t args named).Composed P :=
  (composed_fill (composed_fetchField hnamed) _ _ t).bind fun _ => composed_newText _

@[grind ←] theorem composed_namedArgument (named : List (Text × Value)) (n : Text) :
    (namedArgument named n).Composed P := by
  unfold namedArgument
  grind

/-! ## Methods of texts -/

theorem composed_of_plainTextMethod? {n : String} {t : Text}
    (h : plainTextMethod? n t = some x) : x.Composed P := by
  unfold plainTextMethod? at h
  dsimp only at h
  split at h <;> cases h <;> grind

section

variable (h : reach.Composed P)
include h

@[grind ←] theorem composed_textMethod (name : Text) (self : Value) (t : Text)
    (args : Arguments) : (textMethod reach name self t args).Composed P := by
  have hformat (m : Value) : (formatText t [] fun n => do getItem m (← newText n)).Composed P :=
    composed_formatText t [] fun n => (composed_newText n).bind fun _ => composed_getItem ..
  unfold textMethod
  dsimp only
  split
  · next h => exact (composed_takeNone ..).bind fun _ => composed_of_plainTextMethod? h
  · split
    -- The number of replacements is optional.
    case h_16 =>
      refine (composed_takeBetween ..).bind fun given => ?_
      split
      · refine (composed_textOr ..).bind fun _ => (composed_textOr ..).bind fun _ => ?_
        split <;> grind
      · exact composed_pure self
    all_goals grind

/-! ## Methods of containers -/

end

@[grind ←] theorem composed_indexIn (items args : List Value) :
    (indexIn items args).Composed P := by
  unfold indexIn
  grind

@[grind ←] theorem composed_countItem (items : List Value) (v : Value) :
    (countItem items v).Composed P := by
  unfold countItem
  grind

@[grind ←] theorem composed_popItem (a : Nat) (index : Int) : (popItem a index).Composed P := by
  unfold popItem
  grind

@[grind ←] theorem composed_tupleMethod (name : Text) (self : Value) (items : List Value)
    (args : Arguments) : (tupleMethod name self items args).Composed P := by
  unfold tupleMethod
  grind

@[grind ←] theorem composed_rangeMethod (name : Text) (start stop step : Int) (args : Arguments) :
    (rangeMethod name start stop step args).Composed P := by
  unfold rangeMethod
  grind

@[grind ←] theorem composed_checkKeys (entries : List (Value × Value)) :
    (checkKeys entries).Composed P :=
  composed_forM (fun _ => composed_checkKey _) entries

section

variable (h : reach.Composed P)
include h

@[grind ←] theorem composed_listMethod (name : Text) (a : Nat) (args : Arguments) :
    (listMethod reach name a args).Composed P := by
  unfold listMethod
  refine composed_heap.bind fun _ => ?_
  dsimp only
  split <;> grind

@[grind ←] theorem composed_entryOf (index : Nat) (v : Value) :
    (entryOf reach index v).Composed P := by
  unfold entryOf
  grind

@[grind ←] theorem composed_entriesOf (v : Value) : (entriesOf reach v).Composed P := by
  unfold entriesOf
  grind

@[grind ←] theorem composed_givenEntries (function : Text) (args : Arguments) :
    (givenEntries reach function args).Composed P := by
  unfold givenEntries
  grind

@[grind ←] theorem composed_mappingMethod (name : Text) (a : Nat) (args : Arguments) :
    (mappingMethod reach name a args).Composed P := by
  unfold mappingMethod
  refine composed_heap.bind fun _ => ?_
  dsimp only
  split
  -- What is put back depends on a key that may be missing.
  case h_5 | h_6 =>
    refine (composed_takeBetween ..).bind fun given => ?_
    split <;> grind
  all_goals grind

@[grind ←] theorem composed_setsOf (vs : List Value) : (setsOf reach vs).Composed P := by
  unfold setsOf
  grind

@[grind ←] theorem composed_otherSet (function : Text) (args : Arguments) :
    (otherSet reach function args).Composed P := by
  unfold otherSet
  grind

@[grind ←] theorem composed_setMethod (name : Text) (a : Nat) (args : Arguments) :
    (setMethod reach name a args).Composed P := by
  have hput (s : Array Value) : (do
      modifyHeap fun h => h.setSet a s
      return .none : Eval Value).Composed P := by
    grind
  have hcombine (op : BinaryOp) (s : Array Value) : (do
      noKeywords (methodName "set" name) args
      return (← setsOf reach args.positional).foldl (fun s t => (setOp op s t).getD s) s :
      Eval (Array Value)).Composed P := by
    grind
  unfold setMethod
  refine composed_heap.bind fun _ => ?_
  dsimp only
  split
  · grind
  · grind
  · grind
  · refine (composed_takeNone ..).bind fun _ => ?_
    split
    · exact (hput _).bind fun _ => composed_pure _
    · exact .fault _
  · grind
  · grind
  · exact (hcombine ..).bind fun _ => composed_change fun _ => rfl
  · exact (hcombine ..).bind fun _ => hput _
  · exact (hcombine ..).bind fun _ => composed_change fun _ => rfl
  · exact (hcombine ..).bind fun _ => composed_change fun _ => rfl
  · grind
  · grind
  · grind
  · grind
  · exact composed_noMember ..

end

/-! ## Methods of numbers -/

@[grind ←] theorem composed_intMethod (name : Text) (self : Value) (n : Int) (args : Arguments) :
    (intMethod name self n args).Composed P := by
  unfold intMethod
  grind

@[grind ←] theorem composed_plainMethod (name : Text) (self : Value) (args : Arguments) :
    (plainMethod name self args).Composed P := by
  unfold plainMethod
  grind

@[grind ←] theorem composed_floatMethod (name : Text) (self : Value) (a : Float)
    (args : Arguments) : (floatMethod name self a args).Composed P := by
  unfold floatMethod
  refine (composed_takeNone ..).bind fun _ => ?_
  split
  · exact composed_pure _
  · exact composed_pure _
  · split
    · exact (composed_newInt _).bind fun _ => (composed_newInt _).bind fun _ => composed_newTuple _
    · split <;> exact .fault _
  · exact composed_noMember ..

/-! ## Builtin functions -/

@[grind ←] theorem composed_wholeOf (f : Float → Option Int) (a : Float) :
    (wholeOf f a).Composed P := by
  unfold wholeOf
  grind

@[grind ←] theorem composed_roundFloat (a : Float) (places : Int) :
    (roundFloat a places).Composed P := by
  unfold roundFloat
  split
  · split
    split
    · exact composed_newFloat a
    · split
      · exact composed_newFloat _
      · split
        split
        · exact composed_newFloat _
        · exact .fault _
  · exact composed_newFloat a

@[grind ←] theorem composed_round (v : Value) (places : Option Value) :
    (round v places).Composed P := by
  unfold round
  grind

@[grind ←] theorem composed_readInt (base : Nat) (t : Text) : (readInt base t).Composed P := by
  unfold readInt
  grind

@[grind ←] theorem composed_toInt (args : List Value) : (toInt args).Composed P := by
  unfold toInt
  grind

@[grind ←] theorem composed_toFloat (args : List Value) : (toFloat args).Composed P := by
  unfold toFloat
  grind

@[grind ←] theorem composed_divMod (v w : Value) : (divMod v w).Composed P := by
  unfold divMod
  split
  · grind
  · split
    · grind
    · exact (composed_typeName v).bind fun _ => composed_complaint w _

@[grind ←] theorem composed_powerModulo (a b m : Int) : (powerModulo a b m).Composed P := by
  unfold powerModulo
  grind

@[grind ←] theorem composed_length (v : Value) : (length v).Composed P := by
  unfold length
  grind

@[grind ←] theorem composed_sum (start : Value) (items : List Value) :
    (sum start items).Composed P := by
  unfold sum
  grind

@[grind ←] theorem composed_reversed (v : Value) : (reversed v).Composed P := by
  unfold reversed
  grind

@[grind ←] theorem composed_makeRange (args : List Value) : (makeRange args).Composed P := by
  have hbounds : (rangeBounds args).Composed P := by
    unfold rangeBounds
    grind
  unfold makeRange
  grind

@[grind ←] theorem composed_typeOf (v : Value) : (typeOf v).Composed P := by
  unfold typeOf
  grind

@[grind ←] theorem composed_isInstance (v : Value) (fuel : Nat) (type : Value) :
    (isInstance v fuel type).Composed P := by
  induction fuel generalizing type with
  | zero => exact .exhausted
  | succ fuel ih =>
    unfold isInstance
    grind

section

variable (h : reach.Composed P)
include h

@[grind ←] theorem composed_givenItems (args : List Value) :
    (givenItems reach args).Composed P := by
  unfold givenItems
  grind

@[grind ←] theorem composed_search (wanted : Bool) (fuel a : Nat) :
    (search reach wanted fuel a).Composed P := by
  induction fuel with
  | zero => exact .exhausted
  | succ fuel ih =>
    unfold search
    grind

@[grind ←] theorem composed_best (op : OrderOp) (function : Text) (args : Arguments) :
    (best reach op function args).Composed P := by
  have hcandidates (items : List Value) : (candidates reach function items).Composed P := by
    unfold candidates
    grind
  unfold best
  split
  · exact .fault _
  · dsimp only
    refine (hcandidates _).bind fun items => (composed_extreme h _ op items).bind fun found => ?_
    split
    · exact composed_pure _
    · exact composed_pure _
    · exact .fault _

@[grind ←] theorem composed_construct (b : Builtin) (args : Arguments) :
    (construct reach b args).Composed P := by
  unfold construct
  cases b with
  | enumerate =>
    refine (composed_takeNamed ..).bind fun given => ?_
    split
    · dsimp only
      split <;> grind
    · exact .fault _
  | _ => grind

omit h in
theorem composed_endProgram (args : Arguments) : (endProgram args).Composed P := by
  unfold endProgram
  refine (composed_takeParameters ..).bind fun given => ?_
  split
  · exact (composed_write ..).bind fun _ => .escape _
  · exact .escape _

@[grind ←] theorem composed_callBuiltin (b : Builtin) (args : Arguments) :
    (callBuiltin reach b args).Composed P := by
  have hone : (takeOne b.name args).Composed P := composed_takeOne b.name args
  have hbased (mark : Text) (base : Nat) : (do
      newText (based mark base (← toIndex (← takeOne b.name args))) : Eval Value).Composed P :=
    hone.bind fun _ => (composed_toIndex _).bind fun _ => composed_newText _
  unfold callBuiltin
  cases b with
  | bin | oct | hex => exact hbased ..
  | pow =>
    refine (composed_takeNamed ..).bind fun given => ?_
    split
    · exact composed_binary ..
    · exact composed_binary ..
    · split
      · exact composed_powerModulo ..
      · exact (composed_typeName _).bind fun _ => composed_complaint ..
    · exact .fault _
  | getattr =>
    refine (composed_takeBetween ..).bind fun given => ?_
    split
    · exact composed_getMember ..
    · refine (composed_hasMember ..).bind fun known => ?_
      split
      · exact composed_getMember ..
      · exact composed_pure _
    · exact .fault _
  | hasattr =>
    refine (composed_takeBetween ..).bind fun given => ?_
    split
    · exact (composed_hasMember ..).bind fun _ => composed_pure _
    · exact .fault _
  | exit | quit => exact composed_endProgram args
  | round =>
    refine (composed_takeNamed ..).bind fun given => ?_
    split
    · exact composed_round ..
    · exact .fault _
  | sum =>
    refine (composed_takeNamed ..).bind fun given => ?_
    split
    · dsimp only
      split <;> grind
    · exact .fault _
  | sorted =>
    dsimp only
    split
    · exact (composed_sortArguments ..).bind fun _ => (composed_items h _).bind fun _ =>
        (composed_sortItems h _ _ _).bind fun _ => composed_newList _
    · exact .fault _
  | _ => grind

end

end Stencil.Eval
