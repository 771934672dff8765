import Stencil.Text.Basic

/-!
# Expressions

The abstract form of the expressions and statements that stand in templates. Parentheses and
spelling are gone; an expression that holds constants only is marked, because its value is made
once and not at every evaluation.
-/

namespace Stencil

inductive Constant where
  | none
  | bool (b : Bool)
  | int (n : Nat)
  | float (x : Float)
  | str (t : Text)
  | ellipsis
deriving Repr, Inhabited

inductive UnaryOp where
  | negate
  | plus
  | invert
  | not
deriving DecidableEq, Repr

inductive BinaryOp where
  | add
  | subtract
  | multiply
  | divide
  | floorDivide
  | modulo
  | power
  | shiftLeft
  | shiftRight
  | bitAnd
  | bitOr
  | bitXor
  | matMultiply
deriving DecidableEq, Repr

inductive CompareOp where
  | equal
  | notEqual
  | less
  | lessEqual
  | greater
  | greaterEqual
  | isIn
  | notIn
  | same
  | notSame
deriving DecidableEq, Repr

inductive ArgumentForm where
  | positional
  /-- All items of an iterable. -/
  | spread
  | named (name : Text)
  /-- All entries of a mapping. -/
  | spreadNamed
deriving DecidableEq, Repr

inductive Collector where
  | list
  | set
  | generator
deriving DecidableEq, Repr

inductive Conversion where
  | none
  | display
  | quoted
  | ascii
deriving DecidableEq, Repr

mutual

inductive Expr where
  | constant (c : Constant)
  /-- An expression of constants. -/
  | folded (e : Expr)
  | name (n : Text)
  | member (e : Expr) (n : Text)
  | subscript (e index : Expr)
  /-- Stands only as the index of a subscript. -/
  | slice (start stop step : Option Expr)
  | call (f : Expr) (args : List (ArgumentForm × Expr))
  | unary (op : UnaryOp) (e : Expr)
  | binary (op : BinaryOp) (a b : Expr)
  | both (a b : Expr)
  | either (a b : Expr)
  | compare (first : Expr) (more : List (CompareOp × Expr))
  | ifElse (cond yes no : Expr)
  | bind (n : Text) (e : Expr)
  /-- Stands only among the items of a display, a tuple of targets or a subscript. -/
  | starred (e : Expr)
  | tuple (items : List Expr)
  | list (items : List Expr)
  | set (items : List Expr)
  /-- An item without a key is a mapping whose entries are taken. -/
  | dict (items : List (Option Expr × Expr))
  | collect (collector : Collector) (element : Expr) (clauses : List Clause)
  | collectDict (key value : Expr) (clauses : List Clause)
  | joined (parts : List Expr)
  /-- Stands only among the parts of a joined text. -/
  | field (e : Expr) (conversion : Conversion) (spec : List Expr)
  | lambda (params : List (Text × Option Expr)) (body : Expr)

inductive Clause where
  | mk (target : Target) (iterable : Expr) (conditions : List Expr)

inductive Target where
  | name (n : Text)
  | member (e : Expr) (n : Text)
  | subscript (e index : Expr)
  | tuple (items : List Target)
  /-- Takes what the other targets of its tuple leave. -/
  | starred (t : Target)

end

instance : Inhabited Expr := ⟨.constant .none⟩

inductive Statement where
  | effect (e : Expr)
  | assign (targets : List Target) (value : Expr)
  | update (target : Target) (op : BinaryOp) (value : Expr)
  | delete (targets : List Target)
  /-- What is raised, and what caused it. -/
  | raise (what cause : Option Expr)
  | pass
deriving Inhabited

namespace Expr

def isConstant : Expr → Bool
  | constant _ | folded _ => true
  | _ => false

/-- Marks an expression whose parts are all constant. -/
def foldIf (parts : List Expr) (e : Expr) : Expr :=
  if parts.all isConstant then folded e else e

mutual

def target? : Expr → Option Target
  | name n => some (.name n)
  | member e n => some (.member e n)
  | subscript e i => some (.subscript e i)
  | starred e => e.target?.map .starred
  | tuple items => (targets? items).map .tuple
  | list items => (targets? items).map .tuple
  | folded e => e.target?
  | _ => none

def targets? : List Expr → Option (List Target)
  | [] => some []
  | e :: more => do return (← e.target?) :: (← targets? more)

end

end Expr

end Stencil
