import Stencil.Text.Basic

/-!
# Settings

What an engine can be told about its templates, with the values that hold if nothing is said.
-/

namespace Stencil

structure Settings where
  schemaVersion : Int := 1
  /-- Whether templates lose blanks at the ends of lines and the ends of lines themselves. -/
  trimLines : Bool := true
  /-- What is written for a captured value. -/
  captureReference : Text := "fragtpl.lookup(\x7bid\x7d, \x7bindex\x7d)".toList
  markupParser : Text := "html.parser".toList
  templateSuffix : Text := ".tpl.html".toList
  templatesDir : Text := "templates".toList
deriving DecidableEq, Repr

def Settings.supportedVersion : Int := 1

end Stencil
