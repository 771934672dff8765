import Stencil.Markup.Node

/-!
# Printing markup

Attributes are written in the order of their names. Texts and attribute values are escaped as far
as they must be to be read back; the content of scripts and styles is written as it is.
-/

namespace Stencil.Markup

def escapeText (t : Text) : Text :=
  t.flatMap fun c => match c with
    | '&' => "&amp;".toList
    | '<' => "&lt;".toList
    | '>' => "&gt;".toList
    | c => [c]

/-- A value between quotes: single ones if it holds a double one. If it holds both, its double
quotes are written as entities. -/
def quoteValue (t : Text) : Text :=
  if !t.contains '"' then '"' :: t ++ ['"']
  else if !t.contains '\'' then '\'' :: t ++ ['\'']
  else '"' :: t.flatMap (fun c => if c = '"' then "&quot;".toList else [c]) ++ ['"']

def Special.text (kind : Special) (t : Text) : Text :=
  match kind with
  | .comment => Text.say ["<!--", t, "-->"]
  | .doctype => Text.say ["<!DOCTYPE ", t, ">\n"]
  | .instruction => Text.say ["<?", t, ">"]
  | .declaration => Text.say ["<?", t, "?>"]
  | .rawText => Text.say ["<![CDATA[", t, "]]>"]

def attributesText (attributes : List (Text × Text)) : Text :=
  (attributes.mergeSort fun a b => !Text.less b.1 a.1).flatMap fun (name, value) =>
    ' ' :: name ++ '=' :: quoteValue (escapeText value)

def wrap (name : Text) (attributes : List (Text × Text)) (isEmpty : Bool) (content : Text) : Text :=
  let head := '<' :: name ++ attributesText attributes
  if isEmpty && Element.voidNames.contains name then Text.say [head, "/>"]
  else Text.say [head, ">", content, "</", name, ">"]

mutual

def Node.print (raw : Bool) : Node → Text
  | .element name attributes children =>
    wrap name attributes children.isEmpty (Node.printAll (Element.rawNames.contains name) children)
  | .text t => if raw then t else escapeText t
  | .special kind t => kind.text t

def Node.printAll (raw : Bool) : List Node → Text
  | [] => []
  | n :: more => n.print raw ++ Node.printAll raw more

end

def Element.outer (e : Element) : Text := e.node.print false

def Element.inner (e : Element) : Text :=
  Node.printAll (Element.rawNames.contains e.name) e.children

end Stencil.Markup
