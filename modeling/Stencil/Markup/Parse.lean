import Stencil.Markup.Printer
import Stencil.Markup.Selector.Parser
import Stencil.Markup.Tree
import Stencil.Value.Fault

/-!
# Markup trees in use

A markup text is read into a new container, elements are found in it by selectors, and one element
can be replaced by the first one that another text holds.
-/

namespace Stencil.Markup

structure Reader where
  parser : Text := "html.parser".toList
  container : Text := "div".toList

namespace Reader

def knownParsers : List Text := ["html.parser", "html", "strict"].map String.toList

def nodes (r : Reader) (t : Text) : Except Fault (List Node) :=
  if knownParsers.contains r.parser then
    match Node.ofText? t with
    | some nodes => .ok nodes
    | none => .error .markupRejected
  else .error (.noParser r.parser)

def read (r : Reader) (t : Text) : Except Fault Element :=
  (r.nodes t).map fun nodes => ⟨r.container, [], nodes⟩

def firstElement? (r : Reader) (t : Text) : Except Fault (Option Element) :=
  (r.nodes t).map fun nodes => nodes.findSome? Node.element?

/-- Replaces the element at the end of a path by the first one of a text, or removes it if there is
none. Gives the new tree and the new element. -/
def replace (r : Reader) (e : Element) (path : Path) (t : Text) :
    Except Fault (Element × Option Element) :=
  (r.firstElement? t).map fun new => (e.replaceAt (new.map Element.node).toList path, new)

end Reader

def Element.find? (e : Element) (selector : Text) : Except Fault (Option Path) :=
  match Selector.ofText selector with
  | .ok s => .ok (s.find? e)
  | .error .malformed => .error .badSelector
  | .error .unsupported => .error .unsupportedSelector

end Stencil.Markup
