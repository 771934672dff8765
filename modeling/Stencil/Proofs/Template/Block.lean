import Stencil.Template.Instruction

/-!
# Block trees

The blocks of a program as a tree. A body is a sequence of plain instructions and whole blocks, and
the branches behind the first one of a condition run up to its end. The context of a body is known
by two marks: whether some block around it collects content, and whether the innermost one is
content.
-/

namespace Stencil.Template

def Instruction.hasCondition : Instruction → Bool
  | .openIf .. | .elseIf .. => true
  | _ => false

inductive Leaf where
  | literal (text : Text)
  | output (expr : Text) (escape : Bool) (source : Text)
  | assign (name expr source : Text)
  | capture (expr source : Text)
deriving DecidableEq, Repr

def Leaf.instruction : Leaf → Instruction
  | literal text => .literal text
  | output expr escape source => .output expr escape source
  | assign name expr source => .assign name expr source
  | capture expr source => .capture expr source

mutual

inductive Body where
  | empty
  | leaf (first : Leaf) (rest : Body)
  | loop (name : Text) (head : LoopHead) (source : Text) (body rest : Body)
  | branch (cond source : Text) (body : Body) (others : Branches) (rest : Body)
  | hasContent (body rest : Body)
  | content (body rest : Body)

inductive Branches where
  | close
  | otherwise (body : Body)
  | elseIf (cond source : Text) (body : Body) (others : Branches)

end

/-! ## The program of a tree -/

mutual

def Body.instructions : Body → Program
  | .empty => []
  | .leaf first rest => first.instruction :: rest.instructions
  | .loop name head source body rest =>
    .openLoop name head source :: (body.instructions ++ .closeLoop :: rest.instructions)
  | .branch cond source body others rest =>
    .openIf cond source ::
      (body.instructions ++ (others.instructions ++ rest.instructions))
  | .hasContent body rest =>
    .openHasContent :: (body.instructions ++ .closeHasContent :: rest.instructions)
  | .content body rest =>
    .openContent :: (body.instructions ++ .closeContent :: rest.instructions)

def Branches.instructions : Branches → Program
  | .close => [.closeIf]
  | .otherwise body => .otherwise :: (body.instructions ++ [.closeIf])
  | .elseIf cond source body others =>
    .elseIf cond source :: (body.instructions ++ others.instructions)

end

def Body.length (b : Body) : Nat := b.instructions.length

def Branches.length (b : Branches) : Nat := b.instructions.length

section

variable (name cond source : Text) (head : LoopHead) (first : Leaf) (body rest : Body)
  (others : Branches)

@[simp] theorem Body.length_empty : Body.empty.length = 0 := rfl

@[simp] theorem Body.length_leaf : (Body.leaf first rest).length = rest.length + 1 := rfl

@[simp] theorem Body.length_loop :
    (Body.loop name head source body rest).length = body.length + rest.length + 2 := by
  simp [Body.length, Body.instructions]
  omega

@[simp] theorem Body.length_branch :
    (Body.branch cond source body others rest).length =
      body.length + others.length + rest.length + 1 := by
  simp [Body.length, Branches.length, Body.instructions]
  omega

@[simp] theorem Body.length_hasContent :
    (Body.hasContent body rest).length = body.length + rest.length + 2 := by
  simp [Body.length, Body.instructions]
  omega

@[simp] theorem Body.length_content :
    (Body.content body rest).length = body.length + rest.length + 2 := by
  simp [Body.length, Body.instructions]
  omega

@[simp] theorem Branches.length_close : Branches.close.length = 1 := rfl

@[simp] theorem Branches.length_otherwise :
    (Branches.otherwise body).length = body.length + 2 := by
  simp [Body.length, Branches.length, Branches.instructions]

@[simp] theorem Branches.length_elseIf :
    (Branches.elseIf cond source body others).length = body.length + others.length + 1 := by
  simp [Body.length, Branches.length, Branches.instructions]

end

theorem Branches.length_pos (bs : Branches) : 0 < bs.length := by
  cases bs <;> simp

/-! ## The grammar -/

mutual

/-- Content may start where some block around collects it and the innermost one is not content. -/
def Body.Admitted (wrapped inContent : Bool) : Body → Prop
  | .empty => True
  | .leaf _ rest => rest.Admitted wrapped inContent
  | .loop _ _ _ body rest =>
    body.Admitted wrapped false ∧ rest.Admitted wrapped inContent
  | .branch _ _ body others rest =>
    body.Admitted wrapped false ∧ others.Admitted wrapped ∧ rest.Admitted wrapped inContent
  | .hasContent body rest => body.Admitted true false ∧ rest.Admitted wrapped inContent
  | .content body rest =>
    (wrapped = true ∧ inContent = false) ∧
      body.Admitted wrapped true ∧ rest.Admitted wrapped inContent

def Branches.Admitted (wrapped : Bool) : Branches → Prop
  | .close => True
  | .otherwise body => body.Admitted wrapped false
  | .elseIf _ _ body others => body.Admitted wrapped false ∧ others.Admitted wrapped

end

/-- The program is the list of instructions of a tree that the grammar admits. -/
def Derivable (p : Program) : Prop :=
  ∃ b : Body, b.Admitted false false ∧ b.instructions = p

end Stencil.Template
