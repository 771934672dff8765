import Stencil.Text.Basic

/-!
# Escaping of values

A value that is written out has its five reserved characters replaced by entities. In a run of
spaces all but the last become entities that do not break, so the run keeps its width.
-/

namespace Stencil.Template

def entity? : Char → Option Text
  | '&' => some "&amp;".toList
  | '<' => some "&lt;".toList
  | '>' => some "&gt;".toList
  | '\x22' => some "&quot;".toList
  | '\x27' => some "&#39;".toList
  | _ => none

def nonBreaking : Text := "&nbsp;".toList

/-- A space becomes an entity when another space follows. -/
def escapeSpaces : Text → Text
  | [] => []
  | c :: rest =>
    if c = ' ' ∧ rest.head? = some ' ' then nonBreaking ++ escapeSpaces rest
    else c :: escapeSpaces rest

def escape (t : Text) : Text :=
  escapeSpaces (t.flatMap fun c => (entity? c).getD [c])

end Stencil.Template
