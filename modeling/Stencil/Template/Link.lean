import Stencil.Template.Failure

/-!
# Linking

The blocks of a program must nest. A pass from the first instruction to the last keeps the stack
of open blocks and writes down where each instruction of a block jumps to.
-/

namespace Stencil.Template

structure Block extends OpenBlock where
  branches : List Nat
  hasElse : Bool
deriving DecidableEq, Repr

/-- Where instructions jump to; each table maps the number of an instruction to that of another. -/
structure Jumps where
  loopClose : List (Nat × Nat)
  loopOpen : List (Nat × Nat)
  /-- From a branch of a condition to the next branch, or to the end. -/
  nextBranch : List (Nat × Nat)
  /-- From a branch other than the first to the end of the condition. -/
  branchEnd : List (Nat × Nat)
deriving DecidableEq, Repr

def Jumps.empty : Jumps := ⟨[], [], [], []⟩

structure LinkState where
  /-- The innermost block first. -/
  stack : List Block
  jumps : Jumps
deriving DecidableEq, Repr

namespace LinkState

def initial : LinkState := ⟨[], .empty⟩

def push (s : LinkState) (kind : BlockKind) (pc : Nat) (branches : List Nat) : LinkState :=
  { s with stack := ⟨⟨kind, pc⟩, branches, false⟩ :: s.stack }

def top (s : LinkState) (kind : BlockKind) (i : Instruction) :
    Except LinkError (Block × List Block) :=
  match s.stack with
  | block :: rest =>
    if block.kind = kind then .ok (block, rest) else .error (.unmatched i.label kind)
  | [] => .error (.unmatched i.label kind)

def close (s : LinkState) (kind : BlockKind) (i : Instruction) : Except LinkError LinkState := do
  let (_, rest) ← s.top kind i
  return { s with stack := rest }

def branch (s : LinkState) (pc : Nat) (isElse : Bool) (i : Instruction) :
    Except LinkError LinkState := do
  let (block, rest) ← s.top .branch i
  if block.hasElse then .error (.afterElse i.label)
  else
    let block := { block with branches := pc :: block.branches, hasElse := isElse }
    return { s with stack := block :: rest }

def closeLoop (s : LinkState) (pc : Nat) (i : Instruction) : Except LinkError LinkState := do
  let (block, rest) ← s.top .loop i
  return ⟨rest, { s.jumps with
    loopClose := (block.pc, pc) :: s.jumps.loopClose
    loopOpen := (pc, block.pc) :: s.jumps.loopOpen }⟩

def branchJumps : (target : Nat) → List Nat → List (Nat × Nat)
  | _, [] => []
  | target, pc :: more => (pc, target) :: branchJumps pc more

def closeBranch (s : LinkState) (pc : Nat) (i : Instruction) : Except LinkError LinkState := do
  let (block, rest) ← s.top .branch i
  return ⟨rest, { s.jumps with
    nextBranch := branchJumps pc block.branches ++ s.jumps.nextBranch
    branchEnd := block.branches.dropLast.map (·, pc) ++ s.jumps.branchEnd }⟩

/-- Whether a content block may start: some block around it collects content, and the innermost
one is not a content block. -/
def allowsContent (s : LinkState) : Bool :=
  s.stack.any (·.kind = .hasContent) && !(s.stack.head?.any (·.kind = .content))

def step (s : LinkState) (pc : Nat) (i : Instruction) : Except LinkError LinkState :=
  match i with
  | .openLoop .. => .ok (s.push .loop pc [])
  | .closeLoop => s.closeLoop pc i
  | .openIf .. => .ok (s.push .branch pc [pc])
  | .elseIf .. => s.branch pc false i
  | .otherwise => s.branch pc true i
  | .closeIf => s.closeBranch pc i
  | .openHasContent => .ok (s.push .hasContent pc [])
  | .openContent => if s.allowsContent then .ok (s.push .content pc []) else .error .contentOutside
  | .closeContent => s.close .content i
  | .closeHasContent => s.close .hasContent i
  | .literal _ | .output .. | .assign .. | .capture .. => .ok s

end LinkState

structure LinkFailure where
  error : LinkError
  directive : Text
deriving DecidableEq, Repr

def linkFrom (s : LinkState) : (pc : Nat) → Program → Except LinkFailure LinkState
  | _, [] => .ok s
  | pc, i :: more =>
    match s.step pc i with
    | .ok s => linkFrom s (pc + 1) more
    | .error e => .error ⟨e, i.source⟩

/-- The jumps of a program whose blocks nest. -/
def link (p : Program) : Except LinkFailure Jumps :=
  match linkFrom .initial 0 p with
  | .error e => .error e
  | .ok s =>
    if s.stack.isEmpty then .ok s.jumps
    else .error ⟨.unclosed (s.stack.reverse.map (·.toOpenBlock)), []⟩

end Stencil.Template
