import Stencil.Eval.Evaluate
import Stencil.Template.Compile
import Stencil.Template.Escape
import Stencil.Template.ScopeRef

/-!
# Running

A machine runs a compiled program instruction by instruction. It keeps the pieces of text that
have been written, a frame for each loop that runs, and a frame for each block around it that is
only kept if something in it has content. Loop variables live both among the names of expressions
and in the scope; what they hide is put back when a loop ends, also when it ends by a failure.
-/

namespace Stencil.Template

structure Evaluator where
  value : Code → Eval Value
  effect : StepCode → Eval Unit
  advance : Nat → Eval (Option Value)

/-- The evaluator of the expression language, with a bound on its steps. -/
def Evaluator.standard (fuel : Nat) : Evaluator where
  value c := Eval.eval fuel ⟨c.number, []⟩ c.expr
  effect s := s.statements.forM (Eval.execute fuel ⟨s.number, []⟩)
  advance := Eval.next fuel

structure LoopFrame where
  name : Text
  savedScope : Option Value
  savedName : Option Value
  /-- Gives the items; a loop with a condition has none. -/
  iterator : Option Nat

/-- A block that is dropped unless content is found in it. Marks count pieces of text. -/
structure ContentFrame where
  mark : Nat
  contentMark : Nat
  hasContent : Bool
deriving DecidableEq, Repr

structure Config where
  pc : Nat
  out : Array Text
  /-- The innermost loop first. -/
  loops : List LoopFrame
  blocks : List ContentFrame

def Config.initial : Config := ⟨0, #[], [], []⟩

structure Setting where
  host : Value
  scope : Nat

/-! ## Scope -/

def scopeGet (scope : Nat) (name : Text) : Eval (Option Value) := do
  return ((← Eval.heap).mapping scope).get? (.str name .shared)

def scopePut (scope : Nat) (name : Text) (v : Value) : Eval Unit :=
  Eval.modifyHeap fun h => h.setMapping scope ((h.mapping scope).put (.str name .shared) v)

def scopeRemove (scope : Nat) (name : Text) : Eval Unit :=
  Eval.modifyHeap fun h => h.setMapping scope ((h.mapping scope).remove (.str name .shared))

/-! ## Loops -/

def saveFrame (s : Setting) (name : Text) : Eval LoopFrame := do
  return ⟨name, ← scopeGet s.scope name, (← Eval.names).get? name, none⟩

def restore (s : Setting) (frame : LoopFrame) : Eval Unit := do
  match frame.savedScope with
  | some v => scopePut s.scope frame.name v
  | none => scopeRemove s.scope frame.name
  match frame.savedName with
  | some v => Eval.putName frame.name v
  | none => Eval.removeName frame.name

def publish (s : Setting) (name : Text) : Eval Unit := do
  match (← Eval.names).get? name with
  | some v => scopePut s.scope name v
  | none => Eval.fault (.missingKey (Text.quoted name))

/-- The iterator of a loop over a collection. The values of a mapping and the keys of a collection
are those that it has at the start; an absent collection is empty. -/
def iterate (mode : IterMode) (v : Value) : Eval Nat := do
  let h ← Eval.heap
  let type : Text := "list_iterator"
  let count (n : Nat) : Eval Nat := Eval.newIterator (.range 0 1 n)
  match mode, v with
  | _, .none => Eval.newIterator .done
  | .keys, .mapping a =>
    Eval.newIterator (.items type ((h.mapping a).entries.map (·.1)))
  | .values, .mapping a =>
    Eval.newIterator (.items type ((h.mapping a).entries.map (·.2)))
  | .keys, .list a => count (h.list a).size
  | .keys, .tuple items _ => count items.length
  | .keys, .str t _ => count t.length
  | .keys, .range start stop step _ => count (Value.rangeLength start stop step)
  | _, v => Eval.iterator v

def advance (ev : Evaluator) (name : Text) (a : Nat) : Eval Bool := do
  match ← ev.advance a with
  | some v =>
    Eval.putName name v
    return true
  | none => return false

def holds (ev : Evaluator) (c : Code) : Eval Bool := do Eval.truth (← ev.value c)

/-! ## Steps -/

def stuck {α : Type} (pc : Nat) : Eval α := Eval.fault (.missingKey (Text.ofNat pc))

def jump (table : List (Nat × Nat)) (pc : Nat) : Eval Nat :=
  match table.lookup pc with
  | some target => pure target
  | none => stuck pc

def valueCode (p : Compiled) (pc : Nat) : Eval Code :=
  match p.codes.lookup pc with
  | some (.value c) => pure c
  | _ => stuck pc

def rangeCode (p : Compiled) (pc : Nat) : Eval (Code × Code × StepCode) :=
  match p.codes.lookup pc with
  | some (.range init cond step) => pure (init, cond, step)
  | _ => stuck pc

/-- The instruction behind the head of the first branch whose condition holds, from a branch on;
behind the end if there is none. Branches lie ahead, so fuel for each instruction suffices. -/
def enterBranch (ev : Evaluator) (p : Compiled) : (fuel : Nat) → (pc : Nat) → Eval Nat
  | 0, pc => stuck pc
  | fuel + 1, pc => do
    match p.program[pc]? with
    | some (.openIf ..) | some (.elseIf ..) =>
      if ← holds ev (← valueCode p pc) then return pc + 1
      else enterBranch ev p fuel (← jump p.jumps.nextBranch pc)
    | some _ => return pc + 1
    | none => stuck pc

/-- Starts a loop, or skips it if it has nothing to run for. -/
def openLoop (ev : Evaluator) (s : Setting) (p : Compiled) (c : Config) (name : Text)
    (head : LoopHead) : Eval Config := do
  let frame ← saveFrame s name
  let (frame, proceed) ← match head with
    | .range .. =>
      let (init, cond, _) ← rangeCode p c.pc
      Eval.putName name (← ev.value init)
      pure (frame, ← holds ev cond)
    | .each mode _ =>
      let a ← iterate mode (← ev.value (← valueCode p c.pc))
      pure ({ frame with iterator := some a }, ← advance ev name a)
  if proceed then
    publish s name
    return { c with pc := c.pc + 1, loops := frame :: c.loops }
  else
    restore s frame
    return { c with pc := (← jump p.jumps.loopClose c.pc) + 1 }

def closeLoop (ev : Evaluator) (s : Setting) (p : Compiled) (c : Config) : Eval Config := do
  match c.loops with
  | [] => stuck c.pc
  | frame :: outer =>
    let start ← jump p.jumps.loopOpen c.pc
    let proceed ← match frame.iterator with
      | some a => advance ev frame.name a
      | none =>
        let (_, cond, step) ← rangeCode p start
        ev.effect step
        holds ev cond
    if proceed then
      publish s frame.name
      return { c with pc := start + 1 }
    else
      restore s frame
      return { c with pc := c.pc + 1, loops := outer }

def captureText (ev : Evaluator) (s : Setting) (code : Code) : Eval Text := do
  match s.host with
  | .template id _ =>
    let index ← Eval.ask (.capture id (← ev.value code))
    let reference ← Eval.ask (.reference id (index.int?.getD 0))
    Eval.write Datum.display reference
  | host => Eval.fault (.noMember (← Eval.typeName host) "capture")

def outputText (v : Value) (escaped : Bool) : Eval Text := do
  let t ← Eval.write Datum.written v
  return if escaped then escape t else t

def wroteSince (out : Array Text) (mark : Nat) : Bool :=
  (out.extract mark out.size).any (!·.isEmpty)

def step (ev : Evaluator) (s : Setting) (p : Compiled) (c : Config) : Eval Config := do
  let write (t : Text) : Config := { c with pc := c.pc + 1, out := c.out.push t }
  match p.program[c.pc]? with
  | none => stuck c.pc
  | some i =>
    match i with
    | .literal t => return write t
    | .output _ escaped _ => return write (← outputText (← ev.value (← valueCode p c.pc)) escaped)
    | .assign name _ _ =>
      scopePut s.scope name (← ev.value (← valueCode p c.pc))
      return { c with pc := c.pc + 1 }
    | .openLoop name head _ => openLoop ev s p c name head
    | .closeLoop => closeLoop ev s p c
    | .openIf .. => return { c with pc := ← enterBranch ev p p.program.length c.pc }
    | .elseIf .. | .otherwise => return { c with pc := (← jump p.jumps.branchEnd c.pc) + 1 }
    | .closeIf => return { c with pc := c.pc + 1 }
    | .capture .. => return write (← captureText ev s (← valueCode p c.pc))
    | .openHasContent =>
      return { c with pc := c.pc + 1, blocks := ⟨c.out.size, 0, false⟩ :: c.blocks }
    | .openContent =>
      match c.blocks with
      | [] => stuck c.pc
      | b :: outer =>
        return { c with pc := c.pc + 1, blocks := { b with contentMark := c.out.size } :: outer }
    | .closeContent =>
      match c.blocks with
      | [] => stuck c.pc
      | b :: outer =>
        let b := { b with hasContent := b.hasContent || wroteSince c.out b.contentMark }
        return { c with pc := c.pc + 1, blocks := b :: outer }
    | .closeHasContent =>
      match c.blocks with
      | [] => stuck c.pc
      | b :: outer =>
        let out := if b.hasContent then c.out else c.out.shrink b.mark
        return { c with pc := c.pc + 1, out, blocks := outer }

/-! ## Whole runs -/

/-- A failure as it is reported for an instruction: faults name the template and the directive. -/
def locate (p : Compiled) (pc : Nat) : Failure → Failure
  | .fault f => .render p.template ((p.program[pc]?.map Instruction.source).getD []) f
  | e => e

def restoreAll (s : Setting) : List LoopFrame → Eval Unit
  | [] => pure ()
  | frame :: outer => do
    restore s frame
    restoreAll s outer

def runFrom (ev : Evaluator) (s : Setting) (p : Compiled) :
    (fuel : Nat) → Config → Eval (Array Text)
  | 0, c => do
    restoreAll s c.loops
    Eval.exhausted
  | fuel + 1, c => do
    if p.program.length ≤ c.pc then return c.out
    else match ← Eval.attempt (step ev s p c) with
      | .ok c => runFrom ev s p fuel c
      | .error e =>
        restoreAll s c.loops
        Eval.fail (locate p c.pc e)

/-- The names that expressions start with: the globals, and over them the scope and the host. -/
def startNames (globals : Names) (s : Setting) : Names :=
  (globals.put scopeVariable (.mapping s.scope)).put "tpl".toList s.host

def run (ev : Evaluator) (fuel : Nat) (globals : Names) (s : Setting) (p : Compiled)
    (h : Heap) : Dialog Text :=
  (do return (← runFrom ev s p fuel .initial).toList.flatten : Eval Text) ⟨h, startNames globals s⟩

end Stencil.Template
