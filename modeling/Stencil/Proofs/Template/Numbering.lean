import Stencil.Proofs.Template.Safety

/-!
# Numbers of expressions

The expressions of a program are numbered from one number on.
-/

namespace Stencil.Template

variable {number next pc : Nat}

theorem Instruction.le_of_compile {i : Instruction} {code : Option InstructionCode}
    (h : i.compile number = .ok (code, next)) : number ≤ next := by
  have hvalue {directive source : Text}
      (h : (do return (some (.value (← compileValue directive number source)), number + 1) :
        Except BadExpression (Option InstructionCode × Nat)) = .ok (code, next)) :
      number ≤ next := by
    obtain ⟨value, -, hcode⟩ := bind_eq_ok_iff.mp h
    cases hcode
    exact Nat.le_succ number
  cases i with
  | output expr escape source => exact hvalue h
  | assign name expr source => exact hvalue h
  | capture expr source => exact hvalue h
  | openIf cond source => exact hvalue h
  | elseIf cond source => exact hvalue h
  | openLoop name head source =>
      cases head with
      | each mode iterable => exact hvalue h
      | range init cond step =>
          obtain ⟨init, -, h⟩ := bind_eq_ok_iff.mp h
          obtain ⟨cond, -, h⟩ := bind_eq_ok_iff.mp h
          obtain ⟨step, -, hcode⟩ := bind_eq_ok_iff.mp h
          cases hcode
          exact Nat.le_add_right number 3
  | _ =>
      cases h
      exact Nat.le_refl number

theorem le_of_compileFrom {p : Program} {codes : List (Nat × InstructionCode)}
    (h : compileFrom number pc p = .ok (codes, next)) : number ≤ next := by
  induction p generalizing number pc codes with
  | nil =>
      cases h
      exact Nat.le_refl _
  | cons head more ih =>
      obtain ⟨⟨code, number₁⟩, hhead, h⟩ := bind_eq_ok_iff.mp h
      obtain ⟨⟨rest, number₂⟩, hmore, hcodes⟩ := bind_eq_ok_iff.mp h
      cases hcodes
      exact Nat.le_trans (Instruction.le_of_compile hhead) (ih hmore)

theorem le_of_compile {template : Text} {p : Program} {compiled : Compiled}
    (h : compile template number p = .ok (compiled, next)) : number ≤ next :=
  le_of_compileFrom (compile_eq_ok h).2.2

end Stencil.Template
