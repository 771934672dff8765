import Stencil.Text.Basic

/-!
# Markup trees

A node is an element with its children, a text, or one of the other items that markup can hold.
A path leads from an element down to one of its descendants by the positions of children.
-/

namespace Stencil.Markup

inductive Special where
  | comment
  | doctype
  | instruction
  | declaration
  | rawText
deriving DecidableEq, Repr

inductive Node where
  | element (name : Text) (attributes : List (Text × Text)) (children : List Node)
  | text (t : Text)
  | special (kind : Special) (t : Text)
deriving Repr, Inhabited

structure Element where
  name : Text
  attributes : List (Text × Text)
  children : List Node
deriving Repr, Inhabited

namespace Node

def element? : Node → Option Element
  | element name attributes children => some ⟨name, attributes, children⟩
  | _ => none

def isElement (n : Node) : Bool := n.element?.isSome

end Node

namespace Element

def node (e : Element) : Node := .element e.name e.attributes e.children

def attribute? (e : Element) (name : Text) : Option Text := e.attributes.lookup name

def voidNames : List Text := [
  "area", "base", "basefont", "bgsound", "br", "col", "command", "embed", "frame", "hr", "image",
  "img", "input", "isindex", "keygen", "link", "menuitem", "meta", "nextid", "param", "source",
  "spacer", "track", "wbr"].map String.toList

def rawNames : List Text := ["script", "style"].map String.toList

def preformattedNames : List Text := ["pre", "textarea"].map String.toList

end Element

/-- Positions of children on the way to a descendant. -/
abbrev Path := List Nat

def Element.at? (e : Element) : Path → Option Element
  | [] => some e
  | i :: path =>
    match e.children[i]? with
    | some (.element name attributes children) => Element.at? ⟨name, attributes, children⟩ path
    | _ => none

/-- Puts nodes in the place of the node at the end of a path; the element itself stays. -/
def Element.replaceAt (e : Element) (new : List Node) : Path → Element
  | [] => e
  | [i] => { e with children := e.children.take i ++ new ++ e.children.drop (i + 1) }
  | i :: path =>
    match e.children[i]? with
    | some (.element name attributes children) =>
      let child := Element.replaceAt ⟨name, attributes, children⟩ new path
      { e with children := e.children.set i child.node }
    | _ => e

end Stencil.Markup
