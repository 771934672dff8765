import Mathlib.Data.List.Forall2
import Stencil.Proofs.Value.Entry

/-!
# Values that match

Two evaluations that do the same may still make their objects at different addresses. A matching
says which objects of one heap stand for which of another, and it is the same for as long as both
evaluations run. Values match if they differ only in the objects that stand for each other. A host
stands for nothing, so no value with a host in it matches any other.
-/

namespace Stencil

inductive Kind where
  | list
  | mapping
  | set
  | iterator
  | closure
  | serial
deriving DecidableEq, Repr

/-- Which objects of one heap stand for which objects of another. -/
structure Matching where
  rel : Kind → Nat → Nat → Prop
  /-- Which expressions stand for which, by their numbers. -/
  code : Nat → Nat → Prop
  /-- The numbers of the objects that evaluations make first, in each of the heaps. -/
  first : Kind → Nat
  first' : Kind → Nat
  /-- The mappings of the first heap that stand for none; they stay as they are. -/
  aside : Nat → Option Mapping
  biUnique (kind : Kind) : Relator.BiUnique (rel kind)
  code_biUnique : Relator.BiUnique code

variable {μ : Matching}

namespace Matching

theorem eq_iff {kind : Kind} {a a' b b' : Nat} (h : μ.rel kind a a') (h' : μ.rel kind b b') :
    a = b ↔ a' = b' :=
  Relator.rel_eq (μ.biUnique kind) h h'

theorem beq_eq {kind : Kind} {a a' b b' : Nat} (h : μ.rel kind a a') (h' : μ.rel kind b b') :
    (a == b) = (a' == b') := by
  rw [Bool.eq_iff_iff, beq_iff_eq, beq_iff_eq, eq_iff h h']

end Matching

inductive Identity.Matches (μ : Matching) : Identity → Identity → Prop
  | shared : Matches μ .shared .shared
  | constant {c d : Nat} (h : μ.code c d) : Matches μ (.constant c) (.constant d)
  | made {s t : Nat} (h : μ.rel .serial s t) : Matches μ (.made s) (.made t)

inductive Value.Matches (μ : Matching) : Value → Value → Prop
  | none : Matches μ .none .none
  | bool (b : Bool) : Matches μ (.bool b) (.bool b)
  | int (n : Int) {i j : Identity} (hi : i.Matches μ j) : Matches μ (.int n i) (.int n j)
  | float (x : Float) {i j : Identity} (hi : i.Matches μ j) : Matches μ (.float x i) (.float x j)
  | str (t : Text) {i j : Identity} (hi : i.Matches μ j) : Matches μ (.str t i) (.str t j)
  | tuple {vs ws : List Value} {i j : Identity} (h : List.Forall₂ (Matches μ) vs ws)
      (hi : i.Matches μ j) : Matches μ (.tuple vs i) (.tuple ws j)
  | range (start stop step : Int) {i j : Identity} (hi : i.Matches μ j) :
      Matches μ (.range start stop step i) (.range start stop step j)
  | date (year month day : Nat) {i j : Identity} (hi : i.Matches μ j) :
      Matches μ (.date year month day i) (.date year month day j)
  | ellipsis : Matches μ .ellipsis .ellipsis
  | list {a b : Nat} (h : μ.rel .list a b) : Matches μ (.list a) (.list b)
  | mapping {a b : Nat} (h : μ.rel .mapping a b) : Matches μ (.mapping a) (.mapping b)
  | set {a b : Nat} (h : μ.rel .set a b) : Matches μ (.set a) (.set b)
  | iterator {a b : Nat} (h : μ.rel .iterator a b) : Matches μ (.iterator a) (.iterator b)
  | view (kind : ViewKind) {a b s t : Nat} (h : μ.rel .mapping a b) (hs : μ.rel .serial s t) :
      Matches μ (.view kind a s) (.view kind b t)
  | builtin (b : Builtin) : Matches μ (.builtin b) (.builtin b)
  | typeObject (name : Text) : Matches μ (.typeObject name) (.typeObject name)
  | closure {a b : Nat} (h : μ.rel .closure a b) : Matches μ (.closure a) (.closure b)
  | method {v w : Value} (name : Text) {s t : Nat} (h : Matches μ v w) (hs : μ.rel .serial s t) :
      Matches μ (.method v name s) (.method w name t)

def EntryMatches (μ : Matching) (p q : Value × Value) : Prop :=
  p.1.Matches μ q.1 ∧ p.2.Matches μ q.2

def NamedMatches (μ : Matching) (p q : Text × Value) : Prop := p.1 = q.1 ∧ p.2.Matches μ q.2

/-! ## Identity -/

theorem Identity.Matches.beq_eq {i i' j j' : Identity} (hi : i.Matches μ i')
    (hj : j.Matches μ j') : (i == j) = (i' == j') := by
  rw [Bool.eq_iff_iff, beq_iff_eq, beq_iff_eq]
  cases hi with
  | shared => cases hj <;> simp
  | constant h =>
    cases hj with
    | constant h' => simpa using Relator.rel_eq μ.code_biUnique h h'
    | _ => simp
  | made h =>
    cases hj with
    | made h' => simpa using Matching.eq_iff h h'
    | _ => simp

mutual

theorem Value.Matches.same_eq : {v v' w w' : Value} → v.Matches μ v' → w.Matches μ w' →
    v.same w = v'.same w'
  | _, _, _, _, hv, hw => by
    cases hv with
    | tuple h hi =>
      cases hw with
      | tuple h' hj => simp only [same, hi.beq_eq hj, sameAll_eq h h']
      | _ => rfl
    | int _ hi | float _ hi | str _ hi | range _ _ _ hi | date _ _ _ hi =>
      cases hw with
      | int _ hj | float _ hj | str _ hj | range _ _ _ hj | date _ _ _ hj =>
        first | rfl | simp only [same, hi.beq_eq hj]
      | _ => rfl
    | list h | mapping h | set h | iterator h | closure h | view _ _ h | method _ _ h =>
      cases hw with
      | list h' | mapping h' | set h' | iterator h' | closure h' | view _ _ h' | method _ _ h' =>
        first | rfl | exact Matching.beq_eq h h'
      | _ => rfl
    | _ => cases hw <;> rfl

theorem Value.sameAll_eq : {vs vs' ws ws' : List Value} → List.Forall₂ (Value.Matches μ) vs vs' →
    List.Forall₂ (Value.Matches μ) ws ws' → Value.sameAll vs ws = Value.sameAll vs' ws'
  | _, _, _, _, .nil, .nil => rfl
  | _, _, _, _, .nil, .cons .. => rfl
  | _, _, _, _, .cons .., .nil => rfl
  | _, _, _, _, .cons h hs, .cons h' hs' => by
    simp only [sameAll, h.same_eq h', sameAll_eq hs hs']

end

namespace Value.Matches

variable {v v' w w' : Value}

/-! ## Numbers -/

theorem int?_eq (h : v.Matches μ v') : v.int? = v'.int? := by cases h <;> rfl

theorem compareNumbers?_eq (hv : v.Matches μ v') (hw : w.Matches μ w') :
    v.compareNumbers? w = v'.compareNumbers? w' := by
  cases hv with
  | float x _ => cases hw <;> rfl
  | _ => cases hw <;> rfl

end Value.Matches

/-! ## Keys -/

mutual

theorem Value.Matches.equalKey_eq : {v v' w w' : Value} → v.Matches μ v' → w.Matches μ w' →
    v.equalKey w = v'.equalKey w'
  | v, v', w, w', hv, hw => by
    have hsame := hv.same_eq hw
    have hnumbers := hv.compareNumbers?_eq hw
    unfold equalKey
    rw [hsame]
    congr 1
    cases hv with
    | tuple h =>
      cases hw with
      | tuple h' => exact equalKeys_eq h h'
      | _ => exact congrArg (· == some Comparison.equal) hnumbers
    | str | range | date => cases hw <;> rfl
    | _ => exact congrArg (· == some Comparison.equal) hnumbers

theorem Value.equalKeys_eq : {vs vs' ws ws' : List Value} →
    List.Forall₂ (Value.Matches μ) vs vs' → List.Forall₂ (Value.Matches μ) ws ws' →
    Value.equalKeys vs ws = Value.equalKeys vs' ws'
  | _, _, _, _, .nil, .nil => rfl
  | _, _, _, _, .nil, .cons .. => rfl
  | _, _, _, _, .cons .., .nil => rfl
  | _, _, _, _, .cons h hs, .cons h' hs' => by
    simp only [equalKeys, h.equalKey_eq h', equalKeys_eq hs hs']

end

/-! ## Constants -/

namespace Value

variable {i j : Identity} {c d : Nat}

theorem matches_ofInt (n : Int) (h : i.Matches μ j) : (ofInt n i).Matches μ (ofInt n j) := by
  unfold ofInt
  split
  · exact .int n .shared
  · exact .int n h

theorem matches_ofText (t : Text) (h : i.Matches μ j) : (ofText t i).Matches μ (ofText t j) := by
  unfold ofText
  split
  · exact .str t .shared
  · exact .str t h

theorem matches_ofItems {vs ws : List Value} (hvs : List.Forall₂ (Matches μ) vs ws)
    (h : i.Matches μ j) : (ofItems vs i).Matches μ (ofItems ws j) := by
  unfold ofItems
  cases hvs with
  | nil => exact .tuple .nil .shared
  | cons hv hvs => exact .tuple (.cons hv hvs) h

mutual

theorem Matches.asConstant (hc : μ.code c d) : {v w : Value} → v.Matches μ w →
    (v.asConstant c).Matches μ (w.asConstant d)
  | _, _, h => by
    cases h with
    | int n => exact matches_ofInt n (.constant hc)
    | float x => exact .float x (.constant hc)
    | str t =>
      unfold Value.asConstant
      split
      · exact .str t .shared
      · exact matches_ofText t (.constant hc)
    | tuple hvs => exact matches_ofItems (matches_asConstants hc hvs) (.constant hc)
    | _ => constructor <;> assumption

theorem matches_asConstants (hc : μ.code c d) : {vs ws : List Value} →
    List.Forall₂ (Matches μ) vs ws →
    List.Forall₂ (Matches μ) (asConstants c vs) (asConstants d ws)
  | _, _, .nil => .nil
  | _, _, .cons h hs => .cons (h.asConstant hc) (matches_asConstants hc hs)

end

end Value

end Stencil
