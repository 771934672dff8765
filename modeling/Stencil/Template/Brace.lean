import Stencil.Text.Basic

/-!
# Protected braces

A brace that is text and not part of a placeholder is written as a private-use character while a
template is being compiled, and turned back into a brace when text is emitted. Markup readers
leave these characters alone.
-/

namespace Stencil.Template

/-- Stands for an opening brace that is text. -/
def openSentinel : Char := '\ue07b'

def closeSentinel : Char := '\ue07d'

def protectBrace (c : Char) : Char :=
  if c = '{' then openSentinel else if c = '}' then closeSentinel else c

def restoreBrace (c : Char) : Char :=
  if c = openSentinel then '{' else if c = closeSentinel then '}' else c

def protectBraces (t : Text) : Text := t.map protectBrace

def restoreBraces (t : Text) : Text := t.map restoreBrace

end Stencil.Template
