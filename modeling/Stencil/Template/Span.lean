import Stencil.Text.Blank
import Stencil.Text.Quoted
import Stencil.Template.Brace

/-!
# Placeholders and segments

A template is a stream of segments: chunks of text and placeholders. A placeholder has single or
double braces, and a dollar sign before them marks its content as a plain value.
-/

namespace Stencil.Template

inductive Form where
  | single
  | double
deriving DecidableEq, Repr

def Form.letter : Form → Char
  | .single => 's'
  | .double => 'd'

def Form.ofLetter? : Char → Option Form
  | 's' => some .single
  | 'd' => some .double
  | _ => none

structure Placeholder where
  form : Form
  /-- A dollar sign stands before the braces. -/
  valueSigil : Bool
  /-- What stands between the braces, protected braces included. -/
  inner : Text
deriving DecidableEq, Repr

def Placeholder.source (p : Placeholder) : Text :=
  let braced := match p.form with
    | .single => '{' :: p.inner ++ ['}']
    | .double => '{' :: '{' :: p.inner ++ ['}', '}']
  if p.valueSigil then '$' :: braced else braced

def Placeholder.directive (p : Placeholder) : Text := Text.strip (restoreBraces p.inner)

structure Span extends Placeholder where
  index : Nat
  position : Nat
deriving DecidableEq, Repr

def tokenStart : Text := ['$', 'f', 't', 'p', 'l', '-']

/-- The text that stands for a span in a snapshot. -/
def Span.token (s : Span) : Text :=
  tokenStart ++ s.form.letter :: '-' :: Text.ofNat s.index ++ ['$']

def Span.summary (s : Span) : Text :=
  "Span(".toList ++ Text.ofNat s.index ++ ", ".toList ++ Text.quoted s.source ++ ", @".toList ++
    Text.ofNat s.position ++ [')']

inductive Segment where
  | chunk (text : Text) (position : Nat)
  | span (s : Span)
deriving DecidableEq, Repr

namespace Segment

/-- The part of the preprocessed text that the segment covers. -/
def source : Segment → Text
  | chunk text _ => text
  | span s => s.source

/-- The part of the snapshot that the segment gives. -/
def snapshot : Segment → Text
  | chunk text _ => text
  | span s => s.token

def span? : Segment → Option Span
  | chunk .. => none
  | span s => some s

end Segment

end Stencil.Template
