import Stencil.Template.Extract
import Stencil.Template.Instruction
import Stencil.Template.ScopeRef

/-!
# Code generation

Every segment becomes at most one instruction. References to the scope are lowered here, and an
include directive becomes a literal with the text that a handler gives for its name; without a
handler it becomes nothing. The handler may act in any monad.
-/

namespace Stencil.Template

def Directive.instruction? (source : Text) : Directive → Option Instruction
  | .output expr escape => some (.output (lower expr) escape source)
  | .assign name expr => some (.assign name (lower expr) source)
  | .forRange name init cond step =>
    some (.openLoop name (.range (lower init) (lower cond) (lower (normalizeStep step))) source)
  | .forEach name mode expr => some (.openLoop name (.each mode (lower expr)) source)
  | .endFor => some .closeLoop
  | .ifThen cond => some (.openIf (lower cond) source)
  | .elseIf cond => some (.elseIf (lower cond) source)
  | .otherwise => some .otherwise
  | .endIf => some .closeIf
  | .serialize expr => some (.capture (lower expr) source)
  | .hasContent => some .openHasContent
  | .content => some .openContent
  | .endContent => some .closeContent
  | .endHasContent => some .closeHasContent
  | .include _ => none

abbrev IncludeHandler (m : Type → Type) := Option (Text → m Text)

def Segment.generate {m : Type → Type} [Monad m] (handler : IncludeHandler m) :
    Segment → m Program
  | .chunk text _ => pure [.literal (restoreBraces text)]
  | .span s =>
    match s.classify, handler with
    | .include name, some markup => do return [.literal (← markup name)]
    | .include _, none => pure []
    | directive, _ => pure (directive.instruction? s.source).toList

def generate {m : Type → Type} [Monad m] (handler : IncludeHandler m) :
    List Segment → m Program
  | [] => pure []
  | segment :: more => do
    let first ← segment.generate handler
    let rest ← generate handler more
    return first ++ rest

end Stencil.Template
