import Stencil.Expr.Parser
import Stencil.Template.Link

/-!
# Compiled programs

A linked program together with the expressions of its instructions. Each expression is compiled on
its own and gets a number, which tells its constants from those of others.
-/

namespace Stencil.Template

structure Code where
  number : Nat
  expr : Expr

structure StepCode where
  number : Nat
  statements : List Statement

inductive InstructionCode where
  | value (c : Code)
  | range (init cond : Code) (step : StepCode)

structure Compiled where
  template : Text
  program : Program
  jumps : Jumps
  codes : List (Nat × InstructionCode)

structure BadExpression where
  source : Text
  directive : Text
deriving DecidableEq, Repr

def compileValue (directive : Text) (number : Nat) (source : Text) :
    Except BadExpression Code :=
  match Expr.ofText? source with
  | some expr => .ok ⟨number, expr⟩
  | none => .error ⟨source, directive⟩

def compileStep (directive : Text) (number : Nat) (source : Text) :
    Except BadExpression StepCode :=
  match Statement.ofText? source with
  | some statements => .ok ⟨number, statements⟩
  | none => .error ⟨source, directive⟩

def Instruction.compile (number : Nat) (i : Instruction) :
    Except BadExpression (Option InstructionCode × Nat) :=
  let one (source : Text) : Except BadExpression (Option InstructionCode × Nat) := do
    return (some (.value (← compileValue i.source number source)), number + 1)
  match i with
  | .output expr _ _ | .assign _ expr _ | .capture expr _ => one expr
  | .openIf cond _ | .elseIf cond _ => one cond
  | .openLoop _ (.each _ iterable) _ => one iterable
  | .openLoop _ (.range init cond step) _ => do
    let init ← compileValue i.source number init
    let cond ← compileValue i.source (number + 1) cond
    let step ← compileStep i.source (number + 2) step
    return (some (.range init cond step), number + 3)
  | _ => .ok (none, number)

def compileFrom (number : Nat) : (pc : Nat) → Program →
    Except BadExpression (List (Nat × InstructionCode) × Nat)
  | _, [] => .ok ([], number)
  | pc, i :: more => do
    let (code, number) ← i.compile number
    let (codes, number) ← compileFrom number (pc + 1) more
    return ((code.map (pc, ·)).toList ++ codes, number)

/-- Links a program and compiles its expressions, in this order. The codes are numbered from
`number` on, and the next free number is given back. -/
def compile (template : Text) (number : Nat) (p : Program) : Except Failure (Compiled × Nat) :=
  match link p with
  | .error e => .error (.generation template e.directive (.link e.error))
  | .ok jumps =>
    match compileFrom number 0 p with
    | .error e => .error (.generation template e.directive (.expression e.source))
    | .ok (codes, number) => .ok (⟨template, p, jumps, codes⟩, number)

end Stencil.Template
