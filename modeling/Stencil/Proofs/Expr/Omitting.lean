import Stencil.Expr.Basic

/-!
# Names that an expression leaves out

An expression can only reach what stands behind a name by the name itself. One that leaves out the
name of the host, and is given no value with the host in it, has no way to it.
-/

namespace Stencil

/-- The name under which expressions find the instance they are evaluated for. -/
def hostName : Text := "tpl".toList

mutual

/-- Whether a name is neither read nor bound in an expression, except as a parameter. -/
def Expr.omits (x : Text) : Expr → Bool
  | .constant _ => true
  | .folded e | .member e _ | .unary _ e | .starred e => e.omits x
  | .name n => n ≠ x
  | .subscript e i => e.omits x && i.omits x
  | .slice start stop step =>
    omitsBound x start && omitsBound x stop && omitsBound x step
  | .call g args => g.omits x && omitsArguments x args
  | .binary _ a b | .both a b | .either a b => a.omits x && b.omits x
  | .compare first more => first.omits x && omitsComparisons x more
  | .ifElse cond yes no => cond.omits x && yes.omits x && no.omits x
  | .bind n e => n ≠ x && e.omits x
  | .tuple items | .list items | .set items | .joined items => omitsItems x items
  | .dict entries => omitsEntries x entries
  | .collect _ element clauses => element.omits x && omitsClauses x clauses
  | .collectDict key value clauses => key.omits x && value.omits x && omitsClauses x clauses
  | .field e _ spec => e.omits x && omitsItems x spec
  | .lambda params body => omitsParameters x params && body.omits x

def omitsBound (x : Text) : Option Expr → Bool
  | none => true
  | some e => e.omits x

def omitsItems (x : Text) : List Expr → Bool
  | [] => true
  | e :: more => e.omits x && omitsItems x more

def omitsArguments (x : Text) : List (ArgumentForm × Expr) → Bool
  | [] => true
  | (_, e) :: more => e.omits x && omitsArguments x more

def omitsComparisons (x : Text) : List (CompareOp × Expr) → Bool
  | [] => true
  | (_, e) :: more => e.omits x && omitsComparisons x more

def omitsEntries (x : Text) : List (Option Expr × Expr) → Bool
  | [] => true
  | (k, e) :: more => omitsBound x k && e.omits x && omitsEntries x more

def omitsParameters (x : Text) : List (Text × Option Expr) → Bool
  | [] => true
  | (_, e) :: more => omitsBound x e && omitsParameters x more

def omitsClauses (x : Text) : List Clause → Bool
  | [] => true
  | c :: more => c.omits x && omitsClauses x more

def Clause.omits (x : Text) : Clause → Bool
  | .mk target iterable conditions =>
    target.omits x && iterable.omits x && omitsItems x conditions

def Target.omits (x : Text) : Target → Bool
  | .name n => n ≠ x
  | .member e _ => e.omits x
  | .subscript e i => e.omits x && i.omits x
  | .tuple items => omitsTargets x items
  | .starred t => t.omits x

def omitsTargets (x : Text) : List Target → Bool
  | [] => true
  | t :: more => t.omits x && omitsTargets x more

end

def Statement.omits (x : Text) : Statement → Bool
  | .effect e => e.omits x
  | .assign targets e => omitsTargets x targets && e.omits x
  | .update target _ e => target.omits x && e.omits x
  | .delete targets => omitsTargets x targets
  | .raise what cause => omitsBound x what && omitsBound x cause
  | .pass => true

variable {x : Text}

theorem omitsClauses_iff {clauses : List Clause} :
    omitsClauses x clauses = true ↔ ∀ c ∈ clauses, c.omits x = true := by
  induction clauses with
  | nil => simp [omitsClauses]
  | cons c more ih => simp [omitsClauses, ih]

theorem omitsTargets_iff {targets : List Target} :
    omitsTargets x targets = true ↔ ∀ t ∈ targets, t.omits x = true := by
  induction targets with
  | nil => simp [omitsTargets]
  | cons t more ih => simp [omitsTargets, ih]

end Stencil
