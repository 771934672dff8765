import Stencil.Proofs.Eval.Dialog
import Stencil.Proofs.Template.Block
import Stencil.Template.Run

/-!
# Running block trees

A block tree runs by recursion, with neither a program counter nor stacks. What it writes is told in
a form that its user chooses; the plain form is a text together with a mark that content was found.
A bound limits the turns of every loop.
-/

namespace Stencil.Template

/-! ## Output -/

/-- A form in which it is told what a part of a program writes. -/
class Output (ω : Type) where
  empty : ω
  text : Text → ω
  append : ω → ω → ω
  /-- What a content block writes, from what is written inside. -/
  content : ω → ω
  /-- What a block writes that is only kept if content is found in it. -/
  hasContent : ω → ω

/-- A text, and whether some content block has written something. -/
structure Written where
  text : Text
  hasContent : Bool
deriving DecidableEq, Repr

instance : Output Written where
  empty := ⟨[], false⟩
  text t := ⟨t, false⟩
  append a b := ⟨a.text ++ b.text, a.hasContent || b.hasContent⟩
  content a := ⟨a.text, a.hasContent || !a.text.isEmpty⟩
  hasContent a := ⟨if a.hasContent then a.text else [], false⟩

/-! ## Parts of a run -/

def Failure.inDirective (template directive : Text) : Failure → Failure
  | .fault f => .render template directive f
  | e => e

variable {α : Type}

def located (p : Compiled) (directive : Text) (x : Eval α) : Eval α :=
  x.handle pure fun e => Eval.fail (e.inDirective p.template directive)

def restoring (s : Setting) (frame : LoopFrame) (x : Eval α) : Eval α :=
  x.handle
    (fun a => do
      restore s frame
      return a)
    (fun e => do
      restore s frame
      Eval.fail e)

section

variable (ev : Evaluator) (s : Setting) (p : Compiled)

def startTurns (pc : Nat) (name : Text) (head : LoopHead) (saved : LoopFrame) :
    Eval (LoopFrame × Bool) := do
  match head with
  | .range .. =>
    let (init, cond, _) ← rangeCode p pc
    Eval.putName name (← ev.value init)
    return (saved, ← holds ev cond)
  | .each mode _ =>
    let a ← iterate mode (← ev.value (← valueCode p pc))
    return ({ saved with iterator := some a }, ← advance ev name a)

def publishIf (name : Text) (proceed : Bool) : Eval Unit :=
  if proceed then publish s name else pure ()

/-- Prepares the first turn of a loop: its frame and whether there is a turn. -/
def enterLoop (pc : Nat) (name : Text) (head : LoopHead) : Eval (LoopFrame × Bool) := do
  let saved ← saveFrame s name
  let (frame, proceed) ← startTurns ev p pc name head saved
  publishIf s name proceed
  return (frame, proceed)

def goOn (pc : Nat) (frame : LoopFrame) : Eval Bool := do
  match frame.iterator with
  | some a => advance ev frame.name a
  | none =>
    let (_, cond, step) ← rangeCode p pc
    ev.effect step
    holds ev cond

def nextTurn (pc : Nat) (frame : LoopFrame) : Eval Bool := do
  let proceed ← goOn ev p pc frame
  publishIf s frame.name proceed
  return proceed

end

section

variable {ω : Type} [Output ω]

def repeatTurns (body : Eval ω) (next : Eval Bool) : (turns : Nat) → Eval ω
  | 0 => Eval.exhausted
  | turns + 1 => do
    let first ← body
    if ← next then return Output.append first (← repeatTurns body next turns)
    else return first

variable (ev : Evaluator) (s : Setting) (p : Compiled)

def execLoop (turns pc : Nat) (name : Text) (head : LoopHead) (source : Text) (body : Eval ω) :
    Eval ω := do
  let (frame, proceed) ← located p source (enterLoop ev s p pc name head)
  if proceed then
    restoring s frame (repeatTurns body (located p [] (nextTurn ev s p pc frame)) turns)
  else
    restore s frame
    return Output.empty

/-! ## Trees -/

def Leaf.exec (pc : Nat) : Leaf → Eval ω
  | .literal t => return Output.text t
  | .output _ escaped _ => do
    return Output.text (← outputText (← ev.value (← valueCode p pc)) escaped)
  | .assign name _ _ => do
    scopePut s.scope name (← ev.value (← valueCode p pc))
    return Output.empty
  | .capture .. => do return Output.text (← captureText ev s (← valueCode p pc))

mutual

/-- The number of its first instruction finds the code of a part. -/
def Body.exec (turns : Nat) : (pc : Nat) → Body → Eval ω
  | _, .empty => return Output.empty
  | pc, .leaf first rest => do
    let written ← located p first.instruction.source (first.exec ev s p pc)
    return Output.append written (← rest.exec turns (pc + 1))
  | pc, .loop name head source body rest => do
    let written ← execLoop ev s p turns pc name head source (body.exec turns (pc + 1))
    return Output.append written (← rest.exec turns (pc + 1 + body.length + 1))
  | pc, .branch _ source body others rest => do
    let first ← located p source (do holds ev (← valueCode p pc))
    let written ← (if first then body.exec turns (pc + 1)
      else others.exec turns source (pc + 1 + body.length))
    return Output.append written (← rest.exec turns (pc + 1 + body.length + others.length))
  | pc, .hasContent body rest => do
    let inside ← body.exec turns (pc + 1)
    return Output.append (Output.hasContent inside)
      (← rest.exec turns (pc + 1 + body.length + 1))
  | pc, .content body rest => do
    let inside ← body.exec turns (pc + 1)
    return Output.append (Output.content inside)
      (← rest.exec turns (pc + 1 + body.length + 1))

/-- Faults in the conditions are reported for the directive that starts the first branch. -/
def Branches.exec (turns : Nat) (source : Text) : (pc : Nat) → Branches → Eval ω
  | _, .close => return Output.empty
  | pc, .otherwise body => body.exec turns (pc + 1)
  | pc, .elseIf _ _ body others => do
    if ← located p source (do holds ev (← valueCode p pc)) then body.exec turns (pc + 1)
    else others.exec turns source (pc + 1 + body.length)

end

/-- The text that a tree writes. -/
def Body.run (turns : Nat) (globals : Names) (b : Body) (h : Heap) : Dialog Text :=
  (do
    let written : Written ← b.exec ev s p turns 0
    return written.text : Eval Text) ⟨h, startNames globals s⟩

end

/-! ## Content inside content -/

mutual

/-- No content block lies inside another one of the same wrapper. -/
def Body.Separate (inContent : Bool) : Body → Prop
  | .empty => True
  | .leaf _ rest => rest.Separate inContent
  | .loop _ _ _ body rest => body.Separate inContent ∧ rest.Separate inContent
  | .branch _ _ body others rest =>
    body.Separate inContent ∧ others.Separate inContent ∧ rest.Separate inContent
  | .hasContent body rest => body.Separate false ∧ rest.Separate inContent
  | .content body rest => inContent = false ∧ body.Separate true ∧ rest.Separate inContent

def Branches.Separate (inContent : Bool) : Branches → Prop
  | .close => True
  | .otherwise body => body.Separate inContent
  | .elseIf _ _ body others => body.Separate inContent ∧ others.Separate inContent

end

end Stencil.Template
