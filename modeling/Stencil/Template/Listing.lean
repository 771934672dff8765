import Stencil.Text.Quoted
import Stencil.Template.Instruction

/-!
# Program listings

One line for each instruction: its number, an indentation that shows the blocks around it, and
its content. Texts are quoted, so no instruction takes more than its line.
-/

namespace Stencil.Template

namespace Instruction

def opensLevel : Instruction → Bool
  | openLoop .. | openIf .. | openHasContent | openContent | elseIf .. | otherwise => true
  | _ => false

def closesLevel : Instruction → Bool
  | closeLoop | closeIf | closeHasContent | closeContent | elseIf .. | otherwise => true
  | _ => false

def previewLength : Nat := 40

def preview (t : Text) : Text :=
  if previewLength < t.length then t.take previewLength ++ "...".toList else t

def call (name : String) (args : List Text) : Text :=
  name.toList ++ '(' :: Text.join ", ".toList args ++ [')']

def flag (b : Bool) : Text := if b then "True".toList else "False".toList

def summary : Instruction → Text
  | literal text => call "AppendLiteral" [Text.quoted (preview text)]
  | output expr escape _ =>
    call "AppendExpr" [Text.quoted expr, "escape=".toList ++ flag escape]
  | assign name expr _ => call "AssignValue" [Text.quoted name, Text.quoted expr]
  | openLoop name (.range init cond step) _ =>
    call "OpenLoop" [Text.quoted name,
      Text.join "; ".toList [Text.quoted init, Text.quoted cond, Text.quoted step]]
  | openLoop name (.each mode iterable) _ =>
    call "OpenLoop" [Text.quoted name, mode.word ++ ' ' :: Text.quoted iterable]
  | closeLoop => "CloseLoop".toList
  | openIf cond _ => call "OpenIf" [Text.quoted cond]
  | elseIf cond _ => call "ElseIf" [Text.quoted cond]
  | otherwise => "Else".toList
  | closeIf => "CloseIf".toList
  | capture expr _ => call "CaptureValue" [Text.quoted expr]
  | openHasContent => "OpenHasContent".toList
  | openContent => "OpenContent".toList
  | closeContent => "CloseContent".toList
  | closeHasContent => "CloseHasContent".toList

/-- The depth of the line of an instruction, if the listing arrives at it with another one; it never
falls below zero. -/
def lineDepth (i : Instruction) (depth : Nat) : Nat := if i.closesLevel then depth - 1 else depth

def depthBehind (i : Instruction) (depth : Nat) : Nat :=
  if i.opensLevel then i.lineDepth depth + 1 else i.lineDepth depth

end Instruction

def listingLine (pc depth : Nat) (i : Instruction) : Text :=
  Text.padLeft ' ' 4 (Text.ofNat pc) ++ ' ' :: List.replicate (2 * depth) ' ' ++ i.summary

def listingFrom : (pc depth : Nat) → Program → List Text
  | _, _, [] => []
  | pc, depth, i :: more =>
    listingLine pc (i.lineDepth depth) i :: listingFrom (pc + 1) (i.depthBehind depth) more

def Program.listing (p : Program) : List Text := listingFrom 0 0 p

def Program.listingText (p : Program) : Text := Text.join ['\n'] p.listing

end Stencil.Template
