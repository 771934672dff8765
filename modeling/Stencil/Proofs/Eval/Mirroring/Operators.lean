import Stencil.Eval.Arithmetic
import Stencil.Proofs.Eval.Mirroring

/-!
# Operators in step

An operator gives matching results for matching operands, and complains about operands that do not
fit in the same words.
-/

namespace Stencil.Eval

variable {μ : Matching}

/-! ## Numbers -/

theorem mirrors_intToFloat (n : Int) : Mirrors μ Eq (intToFloat n) (intToFloat n) := by
  unfold intToFloat
  cases Number.ofInt? n with
  | some x => exact .pure rfl
  | none => exact .fault _

theorem mirrors_toFloat? {v v' : Value} (hv : v.Matches μ v') :
    Mirrors μ Eq (toFloat? v) (toFloat? v') := by
  have whole {n : Int} : Mirrors μ Eq (do return some (← intToFloat n))
      (do return some (← intToFloat n)) :=
    (mirrors_intToFloat n).bind_eq fun _ => .pure rfl
  unfold toFloat?
  cases hv with
  | float => exact .pure rfl
  | int | bool => exact whole
  | _ => exact .pure rfl

theorem mirrors_floatPower (x y : Float) :
    Mirrors μ (Value.Matches μ) (floatPower x y) (floatPower x y) := by
  unfold floatPower
  dsimp only
  split_ifs
  · exact .fault _
  · exact .fault _
  · exact mirrors_newFloat _

theorem mirrors_intOp (op : BinaryOp) (a b : Int) :
    Mirrors μ (Value.Matches μ) (intOp op a b) (intOp op a b) := by
  unfold intOp
  cases op with
  | add | subtract | multiply | bitAnd | bitOr | bitXor => exact mirrors_newInt _
  | divide =>
    dsimp only
    split_ifs
    · exact .fault _
    · cases Number.divide? a b with
      | some x => exact mirrors_newFloat x
      | none => exact .fault _
  | floorDivide | modulo =>
    dsimp only
    split_ifs
    · exact .fault _
    · exact mirrors_newInt _
  | power =>
    dsimp only
    split_ifs
    · exact mirrors_newInt _
    · exact (mirrors_intToFloat a).bind_eq fun _ => (mirrors_intToFloat b).bind_eq fun _ =>
        mirrors_floatPower _ _
  | shiftLeft | shiftRight =>
    dsimp only
    split_ifs <;> first | exact .fault _ | exact mirrors_newInt _
  | matMultiply => exact .fault _

theorem mirrors_floatOp? (op : BinaryOp) (x y : Float) :
    Option.Rel (Mirrors μ (Value.Matches μ)) (floatOp? op x y) (floatOp? op x y) := by
  have guarded {f : Fault} {z : Float} : Mirrors μ (Value.Matches μ)
      (if Number.isZero y then fault f else newFloat z)
      (if Number.isZero y then fault f else newFloat z) := by
    split_ifs
    · exact .fault _
    · exact mirrors_newFloat _
  cases op with
  | add | subtract | multiply => exact .some (mirrors_newFloat _)
  | divide | floorDivide | modulo => exact .some guarded
  | power => exact .some (mirrors_floatPower x y)
  | _ => exact .none

/-! ## Sequences -/

theorem repeated_matches (n : Int) {vs ws : List Value}
    (h : List.Forall₂ (Value.Matches μ) vs ws) :
    List.Forall₂ (Value.Matches μ) (repeated n vs) (repeated n ws) :=
  List.rel_flatten (.replicate h n.toNat)

section

variable {v v' : Value} (hv : v.Matches μ v')
include hv

theorem isSequence_eq : isSequence v = isSequence v' := by cases hv <;> rfl

theorem isNumber_eq : isNumber v = isNumber v' := by cases hv <;> rfl

theorem mirrors_repeatSequence (n : Int) :
    Mirrors μ (Value.Matches μ) (repeatSequence v n) (repeatSequence v' n) := by
  unfold repeatSequence
  cases hv with
  | str t hi =>
    dsimp only
    split_ifs
    · exact .pure (.str t hi)
    · exact mirrors_newText _
  | list ha =>
    exact mirrors_heap.bind fun _ _ hh => mirrors_newList (repeated_matches n (hh.list ha))
  | tuple hvs hi =>
    dsimp only
    split_ifs
    · exact .pure (.tuple hvs hi)
    · exact mirrors_newTuple (repeated_matches n hvs)
  | _ => exact .pure (by constructor <;> assumption)

end

/-! ## Sets and mappings -/

theorem setOp_matches (op : BinaryOp) {a b a' b' : Array Value}
    (ha : ArraysRelated (Value.Matches μ) a a') (hb : ArraysRelated (Value.Matches μ) b b') :
    Option.Rel (ArraysRelated (Value.Matches μ)) (setOp op a b) (setOp op a' b') := by
  have holds {s s' : Array Value} (hs : ArraysRelated (Value.Matches μ) s s') (v w : Value)
      (hv : v.Matches μ w) : s.any (·.equalKey v) = s'.any (·.equalKey w) :=
    hs.any_eq fun _ _ hu => hu.equalKey_eq hv
  cases op with
  | bitAnd => exact .some (ha.filter (holds hb))
  | bitOr => exact .some (hb.foldl (fun _ _ _ _ hs hv => matches_insertItem hs hv) ha)
  | subtract => exact .some (ha.filter fun v w hv => congrArg not (holds hb v w hv))
  | bitXor =>
    exact .some ((ha.filter fun v w hv => congrArg not (holds hb v w hv)).append
      (hb.filter fun v w hv => congrArg not (holds ha v w hv)))
  | _ => exact .none

theorem mergeInto_matches {m n : Mapping} {es fs : List (Value × Value)} (hm : m.Matches μ n)
    (h : List.Forall₂ (EntryMatches μ) es fs) : (mergeInto m es).Matches μ (mergeInto n fs) :=
  h.foldl (fun _ _ _ _ hm hpq => hm.put hpq.1 hpq.2) hm

theorem mirrors_combineSets {a a' b b' : Nat} {x y : Eval Value} (ha : μ.rel .set a a')
    (hb : μ.rel .set b b') (hxy : Mirrors μ (Value.Matches μ) x y) (op : BinaryOp) :
    Mirrors μ (Value.Matches μ)
      (do
        let h ← heap
        match setOp op (h.set a) (h.set b) with
        | some items => change fun h => h.newSet items
        | none => x)
      (do
        let h ← heap
        match setOp op (h.set a') (h.set b') with
        | some items => change fun h => h.newSet items
        | none => y) := by
  refine mirrors_heap.bind fun h h' hh => ?_
  have hset := setOp_matches op (hh.set ha) (hh.set hb)
  generalize setOp op (h.set a) (h.set b) = s at hset ⊢
  generalize setOp op (h'.set a') (h'.set b') = s' at hset ⊢
  cases hset with
  | some hs => exact mirrors_newSet hs
  | none => exact hxy

/-! ## All operators -/

section

variable {v v' w w' : Value} (hv : v.Matches μ v') (hw : w.Matches μ w') {x y : Eval Value}
  (hxy : Mirrors μ (Value.Matches μ) x y) (op : BinaryOp)
include hv hw hxy

theorem mirrors_combine? :
    Option.Rel (Mirrors μ (Value.Matches μ)) (combine? x op v w) (combine? y op v' w') := by
  unfold combine?
  split
  · cases hv
    exact .some <| (mirrors_datum hw).bind_eq fun _ => (Mirrors.ofExcept rfl).bind_eq fun _ =>
      mirrors_newText _
  · cases hv with | str s hi =>
    cases hw with | str t hj =>
    refine .some ?_
    split_ifs
    · exact .pure (.str _ hj)
    · exact .pure (.str _ hi)
    · exact mirrors_newText _
  · cases hv with | tuple h hi =>
    cases hw with | tuple h' hj =>
    refine .some ?_
    rw [h.isEmpty_eq, h'.isEmpty_eq]
    split_ifs
    · exact .pure (.tuple h' hj)
    · exact .pure (.tuple h hi)
    · exact mirrors_newTuple (List.rel_append h h')
  · cases hv with | list ha =>
    cases hw with | list hb =>
    exact .some <| mirrors_heap.bind fun _ _ hh =>
      mirrors_newList (List.rel_append (hh.list ha) (hh.list hb))
  · cases hv
    have hcomplaint := mirrors_complaint (R := Value.Matches μ) hw (.onlyConcatenate .str)
    cases hw with
    | str => simp_all
    | _ => exact .some hcomplaint
  · cases hv
    have hcomplaint := mirrors_complaint (R := Value.Matches μ) hw (.onlyConcatenate .list)
    cases hw with
    | list => simp_all
    | _ => exact .some hcomplaint
  · cases hv
    have hcomplaint := mirrors_complaint (R := Value.Matches μ) hw (.onlyConcatenate .tuple)
    cases hw with
    | tuple => simp_all
    | _ => exact .some hcomplaint
  · cases hv with | mapping ha =>
    cases hw with | mapping hb =>
    refine .some <| mirrors_heap.bind fun h h' hh => ?_
    have hm := hh.mapping ha
    dsimp only
    rw [hm.isScope, (hh.mapping hb).isScope]
    split_ifs
    · exact mirrors_change fun _ _ hh => hh.newMapping
        (mergeInto_matches ⟨rfl, hm.entries⟩ (hh.mapping hb).entries)
    · exact mirrors_change fun _ _ hh => hh.newMapping
        (mergeInto_matches hm (hh.mapping hb).entries)
  · cases hv with | set ha =>
    cases hw with | set hb =>
    have hsets := mirrors_combineSets ha hb hxy op
    cases op <;> exact .some hsets
  · cases hv
    cases hw
    exact .some (.pure (.bool _))
  · cases hv
    cases hw
    exact .some (.pure (.bool _))
  · cases hv
    cases hw
    exact .some (.pure (.bool _))
  · split
    · cases hv
      simp_all
    · cases hv
      cases hw
      simp_all
    · cases hv
      cases hw
      simp_all
    · cases hv
      cases hw
      simp_all
    · cases hv
      simp_all
    · cases hv
      simp_all
    · cases hv
      simp_all
    · cases hv
      cases hw
      simp_all
    · cases hv
      cases hw
      simp_all
    · cases hv
      cases hw
      simp_all
    · cases hv
      cases hw
      simp_all
    · cases hv
      cases hw
      simp_all
    · exact .none

theorem mirrors_floatOperation : Mirrors μ (Value.Matches μ) (floatOperation x op v w)
    (floatOperation y op v' w') := by
  unfold floatOperation
  rw [isNumber_eq hv, isNumber_eq hw]
  split_ifs
  · refine (mirrors_toFloat? hv).bind_eq fun a => (mirrors_toFloat? hw).bind_eq fun b => ?_
    cases a with
    | none => exact hxy
    | some a =>
      cases b with
      | none => exact hxy
      | some b => exact (mirrors_floatOp? op a b).getD hxy
  · exact hxy

theorem mirrors_numberOperation : Mirrors μ (Value.Matches μ) (numberOperation x op v w)
    (numberOperation y op v' w') := by
  have hfloat := mirrors_floatOperation hv hw hxy op
  unfold numberOperation
  rw [hv.int?_eq, hw.int?_eq, isSequence_eq hv, isSequence_eq hw]
  generalize v'.int? = m
  generalize w'.int? = n
  cases op with
  | matMultiply => exact hxy
  | multiply =>
    cases m with
    | some a =>
      cases n with
      | some b => exact mirrors_intOp .multiply a b
      | none =>
        dsimp only
        split_ifs
        · exact mirrors_repeatSequence hw a
        · exact hfloat
    | none =>
      cases n with
      | some b =>
        dsimp only
        split_ifs
        · exact mirrors_repeatSequence hv b
        · exact hfloat
      | none =>
        dsimp only
        split_ifs
        · exact mirrors_complaint hw _
        · exact mirrors_complaint hv _
        · exact hfloat
  | _ =>
    rcases m with _ | a
    · exact hfloat
    · rcases n with _ | b
      · exact hfloat
      · exact mirrors_intOp _ a b

end

section

variable {v v' w w' : Value} (hv : v.Matches μ v') (hw : w.Matches μ w')
include hv hw

theorem mirrors_binaryAs (mark : Text) (op : BinaryOp) :
    Mirrors μ (Value.Matches μ) (binaryAs mark op v w) (binaryAs mark op v' w') := by
  have hunsupported : Mirrors μ (Value.Matches μ)
      (do fault (.unsupported mark (← typeName v) (← typeName w)) : Eval Value)
      (do fault (.unsupported mark (← typeName v') (← typeName w'))) :=
    (mirrors_typeName hv).bind_eq fun _ => mirrors_complaint hw _
  exact (mirrors_combine? hv hw hunsupported op).getD
    (mirrors_numberOperation hv hw hunsupported op)

theorem mirrors_binary (op : BinaryOp) :
    Mirrors μ (Value.Matches μ) (binary op v w) (binary op v' w') :=
  mirrors_binaryAs hv hw op.mark op

end

theorem mirrors_unary (op : UnaryOp) {v v' : Value} (hv : v.Matches μ v') :
    Mirrors μ (Value.Matches μ) (unary op v) (unary op v') := by
  have hint := hv.int?_eq
  unfold unary
  cases op with
  | not => exact (mirrors_truth hv).bind_eq fun _ => .pure (.bool _)
  | negate =>
    cases hv with
    | float x => exact mirrors_newFloat _
    | int | bool => exact mirrors_newInt _
    | _ => exact mirrors_complaint (by constructor <;> assumption) _
  | plus =>
    cases hv with
    | float x hi => exact .pure (.float x hi)
    | int n hi => exact .pure (.int n hi)
    | bool => exact mirrors_newInt _
    | _ => exact mirrors_complaint (by constructor <;> assumption) _
  | invert =>
    cases hv with
    | int | bool => exact mirrors_newInt _
    | _ => exact mirrors_complaint (by constructor <;> assumption) _

end Stencil.Eval
