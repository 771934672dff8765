import Stencil.Template.Directive

/-!
# Instructions

A template compiles to a flat list of instructions. Those that evaluate an expression carry the
source of their placeholder, which names them in error messages.
-/

namespace Stencil.Template

/-- How often a loop runs: as long as a condition holds, or once per item. -/
inductive LoopHead where
  | range (init cond step : Text)
  | each (mode : IterMode) (iterable : Text)
deriving DecidableEq, Repr

inductive Instruction where
  | literal (text : Text)
  | output (expr : Text) (escape : Bool) (source : Text)
  | assign (name expr source : Text)
  | openLoop (name : Text) (head : LoopHead) (source : Text)
  | closeLoop
  | openIf (cond source : Text)
  | elseIf (cond source : Text)
  | otherwise
  | closeIf
  | capture (expr source : Text)
  | openHasContent
  | openContent
  | closeContent
  | closeHasContent
deriving DecidableEq, Repr

abbrev Program := List Instruction

namespace Instruction

def source : Instruction → Text
  | output _ _ source | assign _ _ source | openLoop _ _ source | openIf _ source
  | elseIf _ source | capture _ source => source
  | _ => []

def label : Instruction → Text
  | elseIf .. => "else if".toList
  | otherwise => "else".toList
  | closeIf => "/if".toList
  | closeLoop => "/for".toList
  | openContent => "content".toList
  | closeContent => "/content".toList
  | closeHasContent => "/hascontent".toList
  | _ => []

end Instruction

end Stencil.Template
