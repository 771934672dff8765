import Stencil.Markup.Event

/-!
# Trees of events

A tree grows by one event after the other. An end tag closes the innermost open element of its
name together with all that is open inside it; one that closes nothing is passed over. Elements
still open at the end of the text are closed there, and no element closes another one before.
-/

namespace Stencil.Markup

structure OpenElement where
  name : Text
  attributes : List (Text × Text)
  children : List Node

structure Growth where
  /-- The finished nodes on top, in reverse. -/
  done : List Node := []
  /-- The innermost element first. -/
  inside : List OpenElement := []
  /-- Text that may go on. -/
  pending : Option Text := none
  /-- Void elements that have been closed without an end tag, whose end tag may still come. -/
  closed : List Text := []

namespace Growth

def add (g : Growth) (n : Node) : Growth :=
  match g.inside with
  | [] => { g with done := n :: g.done }
  | e :: outer => { g with inside := { e with children := n :: e.children } :: outer }

def isSpace (c : Char) : Bool := " \n\t\x0c\r".toList.contains c

/-- Text without anything but blanks is one line feed or one blank, unless blanks count here. -/
def collapse (g : Growth) (t : Text) : Text :=
  if g.inside.any (fun e => Element.preformattedNames.contains e.name) || !t.all isSpace then t
  else if t.contains '\n' then ['\n'] else [' ']

def flush (g : Growth) : Growth :=
  match g.pending with
  | none => g
  | some t => { g with pending := none }.add (.text (g.collapse t))

def close (g : Growth) : Growth :=
  match g.inside with
  | [] => g
  | e :: outer => { g with inside := outer }.add (.element e.name e.attributes e.children.reverse)

def closeMany : Nat → Growth → Growth
  | 0, g => g
  | n + 1, g => closeMany n g.close

def finish (g : Growth) (name : Text) : Growth :=
  let g := g.flush
  match g.inside.findIdx? (·.name = name) with
  | some i => closeMany (i + 1) g
  | none => g

/-- An end tag in the text may belong to a void element that is closed already. -/
def endTag (g : Growth) (name : Text) : Growth :=
  if g.closed.contains name then { g with closed := g.closed.erase name } else g.finish name

def wordAttributes : List Text := ["class", "accesskey", "dropzone"].map String.toList

def elementWordAttributes : List (Text × Text) := [
  ("a", "rel"), ("a", "rev"), ("link", "rel"), ("link", "rev"), ("td", "headers"),
  ("th", "headers"), ("form", "accept-charset"), ("object", "archive"), ("area", "rel"),
  ("icon", "sizes"), ("iframe", "sandbox"), ("output", "for")].map fun (e, a) =>
    (e.toList, a.toList)

/-- A list of words is kept with one blank between them. -/
def attributeValue (element name value : Text) : Text :=
  if wordAttributes.contains name || elementWordAttributes.contains (element, name) then
    Text.join [' '] (Text.words value)
  else value

/-- The last value of an attribute counts, in the place of the first. -/
def putAttribute (attributes : List (Text × Text)) (name value : Text) : List (Text × Text) :=
  if attributes.any (·.1 = name) then
    attributes.map fun (n, v) => if n = name then (n, value) else (n, v)
  else attributes ++ [(name, value)]

def startTag (g : Growth) (name : Text) (attributes : List (Text × Text)) (selfClosing : Bool) :
    Growth :=
  let attributes := attributes.foldl (fun as (n, v) => putAttribute as n v) []
  let attributes := attributes.map fun (n, v) => (n, attributeValue name n v)
  let g := g.flush
  let g := { g with inside := ⟨name, attributes, []⟩ :: g.inside }
  if selfClosing then g.endTag name
  else if Element.voidNames.contains name then
    { g.finish name with closed := name :: g.closed }
  else g

def step (g : Growth) : Event → Growth
  | .start name attributes selfClosing => g.startTag name attributes selfClosing
  | .finish name => g.endTag name
  | .text t => { g with pending := some (g.pending.getD [] ++ t) }
  | .special kind t =>
    let g := g.flush
    g.add (.special kind (g.collapse t))

def nodes (g : Growth) : List Node :=
  let g := g.flush
  (closeMany g.inside.length g).done.reverse

end Growth

def Node.ofEvents (events : List Event) : List Node := (events.foldl Growth.step {}).nodes

def Node.ofText? (t : Text) : Option (List Node) := (events t).map Node.ofEvents

end Stencil.Markup
