import Stencil.Template.Instruction
import Stencil.Value.Fault

/-!
# Failures

What can end the work on a template: a source that does not exist, a program that cannot be built,
or a fault while it runs. The latter two name the template and the directive at fault. An expression
can also leave the work altogether, and then nobody reports it.
-/

namespace Stencil.Template

inductive BlockKind where
  | loop
  | branch
  | hasContent
  | content
deriving DecidableEq, Repr

def BlockKind.word : BlockKind → Text
  | loop => "loop"
  | branch => "if"
  | hasContent => "hascontent"
  | content => "content"

structure OpenBlock where
  kind : BlockKind
  pc : Nat
deriving DecidableEq, Repr

/-- How a program breaks the grammar of blocks. -/
inductive LinkError where
  /-- An instruction that belongs to a block of a kind that is not the innermost one. -/
  | unmatched (label : Text) (kind : BlockKind)
  | afterElse (label : Text)
  | contentOutside
  | unclosed (blocks : List OpenBlock)
deriving DecidableEq, Repr

def LinkError.message : LinkError → Text
  | unmatched label kind => Text.say ["'", label, "' without matching '", kind.word, "'"]
  | afterElse label => Text.say ["'", label, "' after 'else'"]
  | contentOutside => "'content' outside of 'hascontent'"
  | unclosed blocks => Text.say ["Unclosed block(s): ", Text.join ", ".toList (blocks.map fun b =>
      Text.say ["'", b.kind.word, "' at #", Text.ofNat b.pc])]

inductive GenerationCause where
  | link (e : LinkError)
  | expression (source : Text)
deriving DecidableEq, Repr

inductive Escape where
  /-- It ends the program, with a status. -/
  | exit (status : Text)
  /-- It reaches for something of its language or of its host that is left open here. -/
  | beyond (what : Text)
deriving DecidableEq, Repr

def Escape.word : Escape → Text
  | exit _ => "SystemExit"
  | beyond _ => "Beyond"

inductive Failure where
  | fault (f : Fault)
  | sourceNotFound (name : Text)
  | generation (template directive : Text) (cause : GenerationCause)
  | render (template directive : Text) (cause : Fault)
  | escape (e : Escape)
  /-- The given number of steps was not enough. -/
  | exhausted
deriving DecidableEq, Repr

namespace Failure

def located (what template reason directive : Text) : Text :=
  Text.say [what, if template.isEmpty then "" else Text.say [" in '", template, "'"], ": ", reason,
    if directive.isEmpty then "" else Text.say [" at ", directive]]

def message (syntaxReason : Text) : Failure → Text
  | fault f => f.message
  | sourceNotFound name => Text.say ["Template source '", name, "' doesn't exist"]
  | generation template directive (.link e) =>
    located "Template generation error" template e.message directive
  | generation template directive (.expression source) =>
    located "Template generation error" template
      (Text.say ["invalid expression ", Text.quoted source, ": ", syntaxReason]) directive
  | render template directive f =>
    located "Template render error" template (Text.say [f.kind.word, ": ", f.message]) directive
  | escape (.exit status) => status
  | escape (.beyond what) => Text.say ["Left open: ", what]
  | exhausted => "Out of steps"

end Failure

end Stencil.Template
