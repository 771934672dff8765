import Stencil.Eval.Evaluate
import Stencil.Proofs.Eval.Dialog
import Stencil.Proofs.Expr.Numerals
import Stencil.Proofs.Value.Entry

/-!
# Evaluating whole numbers

Whole numbers are compared and added up exactly. Only the identity of a result is new in memory.
-/

namespace Stencil

structure Memory.Alike (m m' : Memory) : Prop where
  names : m'.names = m.names
  mappings : m'.heap.mappings = m.heap.mappings

theorem Memory.Alike.refl (m : Memory) : m.Alike m := ⟨rfl, rfl⟩

namespace Direction

def before : Direction → Int → Int → Bool
  | up, n, bound => n < bound
  | down, n, bound => bound < n

def advance : Direction → Int → Int → Int
  | up, n, k => n + k
  | down, n, k => n - k

end Direction

namespace Eval

theorem newInt_apply (n : Int) (m : Memory) :
    ∃ id m', newInt n m = .done (.ok (.int n id)) m' ∧ m.Alike m' := by
  unfold newInt
  split
  · exact ⟨.shared, m, rfl, .refl m⟩
  · exact ⟨_, _, rfl, rfl, rfl⟩

variable (d : Direction) (f code : Nat) (m : Memory)

theorem eval_integer (n : Int) : ∃ id m',
    eval (f + 3) ⟨code, []⟩ (.integer n) m = .done (.ok (.int n id)) m' ∧ m.Alike m' := by
  cases n with
  | ofNat n =>
      have hliteral : eval (f + 3) ⟨code, []⟩ (.integer (.ofNat n)) m =
          .done (.ok (.ofInt (.ofNat n) (.constant code))) m := rfl
      exact ⟨_, m, hliteral, .refl m⟩
  | negSucc n =>
      obtain ⟨id, m', hnew, hsame⟩ := newInt_apply (.negSucc n) m
      have hnegate : eval (f + 2) ⟨code, []⟩ (.unary .negate (.constant (.int (n + 1)))) m =
          .done (.ok (.int (.negSucc n) id)) m' := hnew
      have hfolded : eval (f + 3) ⟨code, []⟩ (.integer (.negSucc n)) m =
          .done (.ok (.ofInt (.negSucc n) (.constant code))) m' := bind_of_apply hnegate
      exact ⟨_, m', hfolded, hsame⟩

variable {m} {v : Int} {id : Identity}

theorem lookupName_apply {n : Text} {v : Value} (hn : m.names.get? n = some v) :
    lookupName ⟨code, []⟩ n m = .done (.ok v) m := by
  have hread : names m = .done (.ok m.names) m := rfl
  rw [lookupName]
  refine (bind_of_apply hread).trans ?_
  rw [hn]
  rfl

theorem compareWith_apply (reach : Reach) (w : Int) (id' : Identity) (m : Memory) :
    compareWith reach d.compareOp (.int v id) (.int w id') m = .done (.ok (d.before v w)) m := by
  cases d with
  | up =>
      have hless : OrderOp.less.holds (Value.compareInts v w) = Direction.up.before v w := by
        unfold Value.compareInts Direction.before
        split
        · next h => simpa [OrderOp.holds] using h
        · next h => split <;> simpa [OrderOp.holds] using h
      rw [← hless]
      rfl
  | down =>
      have hgreater : OrderOp.greater.holds (Value.compareInts v w) =
          Direction.down.before v w := by
        unfold Value.compareInts Direction.before
        split
        · next h => simpa [OrderOp.holds] using Int.le_of_lt h
        · next h =>
            split
            · next heq => simp [OrderOp.holds, heq]
            · next hne => simpa [OrderOp.holds] using by omega
      rw [← hgreater]
      rfl

theorem eval_comparison (n : Int) (hi : m.names.get? "i".toList = some (.int v id)) :
    ∃ m', eval (f + 5) ⟨code, []⟩ (.compare (.name "i".toList) [(d.compareOp, .integer n)]) m =
      .done (.ok (.bool (d.before v n))) m' ∧ m.Alike m' := by
  obtain ⟨id', m', hn, hsame⟩ := eval_integer f code m n
  refine ⟨m', ?_, hsame⟩
  have hname : eval (f + 4) ⟨code, []⟩ (.name "i".toList) m = .done (.ok (.int v id)) m :=
    lookupName_apply code hi
  rw [eval]
  refine (bind_of_apply hname).trans ?_
  rw [evalComparisons]
  refine (bind_of_apply hn).trans ((bind_of_apply (compareWith_apply d _ n id' m')).trans ?_)
  cases d.before v n <;> rfl

theorem execute_update (k : Nat) (hi : m.names.get? "i".toList = some (.int v id)) :
    ∃ id' m', execute (f + 2) ⟨code, []⟩
        (.update (.name "i".toList) d.binaryOp (.constant (.int k))) m = .done (.ok ()) m' ∧
      m'.names = m.names.put "i".toList (.int (d.advance v k) id') ∧
      m'.heap.mappings = m.heap.mappings := by
  obtain ⟨id', m', hnew, hsame⟩ := newInt_apply (d.advance v k) m
  have hupdate : update ⟨call (f + 2), next (f + 2), f + 2⟩ d.binaryOp (.int v id)
      (.ofInt k (.constant code)) m = .done (.ok (.int (d.advance v k) id')) m' := by
    rw [← hnew]
    cases d <;> rfl
  have hassign : assign (f + 2) false ⟨code, []⟩ (.name "i".toList) (.int (d.advance v k) id') m' =
      .done (.ok ⟨code, []⟩)
        { m' with names := m'.names.put "i".toList (.int (d.advance v k) id') } :=
    rfl
  refine ⟨id', { m' with names := m'.names.put "i".toList (.int (d.advance v k) id') }, ?_, ?_,
    hsame.mappings⟩
  · have hconstant : eval (f + 2) ⟨code, []⟩ (.constant (.int k)) m =
        .done (.ok (.ofInt k (.constant code))) m := rfl
    rw [execute]
    refine (bind_of_apply (lookupName_apply code hi)).trans ?_
    exact (bind_of_apply hconstant).trans ((bind_of_apply hupdate).trans (bind_of_apply hassign))
  · rw [← hsame.names]

end Eval

end Stencil
