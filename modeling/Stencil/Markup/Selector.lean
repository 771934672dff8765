import Stencil.Markup.Node
import Stencil.Text.Blank
import Stencil.Text.Case

/-!
# Selectors

A selector is a test on an element in its place: tests of the element itself, of its position among
its siblings, and of elements that are related to it, combined by conjunction, disjunction and
negation. Finding gives the path to the first descendant, in the order of the markup, that passes.
-/

namespace Stencil.Markup

/-! ## Places -/

/-- An element with what surrounds it. Siblings before it are listed from the nearest on. -/
structure Place where
  element : Element
  before : List Node
  after : List Node
  parent : Option Place

namespace Place

def top (e : Element) : Place :=
  ⟨e, [], [], some ⟨⟨"[document]", [], [e.node]⟩, [], [], none⟩⟩

def ancestors : Place → List Place
  | ⟨_, _, _, none⟩ => []
  | ⟨_, _, _, some p⟩ => p :: ancestors p

def isTop (p : Place) : Bool := (p.parent.map (·.parent.isNone)).getD false

def row (parent : Option Place) (before : List Node) : List Node → List Place
  | [] => []
  | n :: after =>
    (n.element?.map fun e => ⟨e, before, after, parent⟩).toList ++ row parent (n :: before) after

def children (p : Place) : List Place := row (some p) [] p.element.children

def earlier (p : Place) : List Place := back p.after p.element p.before
where
  back (after : List Node) (self : Element) : List Node → List Place
    | [] => []
    | n :: before =>
      match n.element? with
      | some e => ⟨e, before, self.node :: after, p.parent⟩ :: back (self.node :: after) e before
      | none => back after self before

def later (p : Place) : List Place := row p.parent (p.element.node :: p.before) p.after

mutual

/-- A node, if it is an element, and the elements inside it, with their paths, in the order of the
markup. Its siblings and its position among them are given. -/
def withinNode (parent : Place) (path : Path) (i : Nat) (before after : List Node) :
    Node → List (Path × Place)
  | .element name attributes children =>
    let p : Place := ⟨⟨name, attributes, children⟩, before, after, some parent⟩
    (path ++ [i], p) :: within p (path ++ [i]) 0 [] children
  | _ => []

def within (parent : Place) (path : Path) (i : Nat) (before : List Node) :
    List Node → List (Path × Place)
  | [] => []
  | n :: after =>
    withinNode parent path i before after n ++ within parent path (i + 1) (n :: before) after

end

def descendants (p : Place) : List (Path × Place) := within p [] 0 [] p.element.children

end Place

/-! ## Text of elements -/

def Element.isFrame (e : Element) : Bool := e.name = "iframe".toList

mutual

def Node.content : Node → Text
  | .text t => t
  | .special .. => []
  | .element name _ children => if name = "iframe".toList then [] else Node.contentAll children

def Node.contentAll : List Node → Text
  | [] => []
  | n :: more => n.content ++ Node.contentAll more

end

def Element.ownTexts (e : Element) : List Text :=
  if e.isFrame then [] else e.children.filterMap fun
    | .text t => some t
    | _ => none

def isSelectorSpace (c : Char) : Bool := " \t\r\n\x0c".toList.contains c

def Element.isBlank (e : Element) : Bool :=
  e.isFrame || e.children.all fun
    | .text t => t.all isSelectorSpace
    | .special .. => true
    | .element .. => false

/-! ## Tests -/

inductive Relation where
  | ancestor
  | parent
  | earlier
  | previous
  | descendant
  | child
  | later
  | next
deriving DecidableEq, Repr

def Relation.places (r : Relation) (p : Place) : List Place :=
  match r with
  | ancestor => p.ancestors
  | parent => p.parent.toList
  | earlier => p.earlier
  | previous => p.earlier.take 1
  | descendant => p.descendants.map (·.2)
  | child => p.children
  | later => p.later
  | next => p.later.take 1

inductive ValueTest where
  | any
  | equal
  | starts
  | ends
  | contains
  | word
  | dashed
deriving DecidableEq, Repr

/-- The ends of a value: a line feed at its end need not be seen. -/
def endings (value : Text) : List Text :=
  value :: if value.getLast? = some '\n' then [value.dropLast] else []

def ValueTest.holds (test : ValueTest) (expected value : Text) : Bool :=
  match test with
  | any => true
  | equal => (endings value).contains expected
  | starts => Text.startsWith expected value
  | ends => (endings value).any (Text.endsWith expected)
  | contains => (Text.cut? expected value).isSome
  | word =>
    !expected.isEmpty && !expected.any isSelectorSpace &&
      (value.splitBy fun a b => isSelectorSpace a == isSelectorSpace b).contains expected
  | dashed => (endings value).contains expected || Text.startsWith (expected ++ ['-']) value

structure AttributeTest where
  name : Text
  test : ValueTest
  expected : Text
  ignoreCase : Bool
deriving DecidableEq, Repr

def lowerAscii (t : Text) : Text := t.map Char.toLower

def AttributeTest.holds (a : AttributeTest) (e : Element) : Bool :=
  match e.attributes.find? fun (n, _) => lowerAscii n = lowerAscii a.name with
  | some (_, value) =>
    if a.ignoreCase then a.test.holds (Text.lower a.expected) (Text.lower value)
    else a.test.holds a.expected value
  | none => false

/-- Positions that are counted: one, or each step from one on. -/
structure Positions where
  step : Int
  start : Int
deriving DecidableEq, Repr

def Positions.contains (p : Positions) (position : Nat) : Bool :=
  let offset := (position : Int) - p.start
  if p.step = 0 then offset == 0 else offset % p.step == 0 && 0 ≤ offset / p.step

inductive Selector where
  | every
  | never
  | and (a b : Selector)
  | or (a b : Selector)
  | not (a : Selector)
  | named (name : Text)
  | id (id : Text)
  | ofClass (name : Text)
  | ofAttribute (a : AttributeTest)
  | top
  | empty
  | defined
  /-- Whether one of the texts occurs in the element, or in a text directly in it. -/
  | containing (texts : List Text) (own : Bool)
  /-- The position among those siblings that pass a test, from either end. -/
  | position (p : Positions) (fromEnd : Bool) (among : Selector)
  /-- The position among the siblings of the same name. -/
  | positionOfName (p : Positions) (fromEnd : Bool)
  | related (r : Relation) (s : Selector)
deriving DecidableEq, Repr

namespace Selector

def hasAttribute (e : Element) (name value : Text) : Bool := e.attribute? name == some value

def siblings (fromEnd : Bool) (p : Place) : List Place := if fromEnd then p.later else p.earlier

def holds : Selector → Place → Bool
  | every, _ => true
  | never, _ => false
  | and a b, p => a.holds p && b.holds p
  | or a b, p => a.holds p || b.holds p
  | not a, p => !a.holds p
  | named name, p => p.element.name = name
  | id value, p => hasAttribute p.element "id" value
  | ofClass name, p => (Text.words ((p.element.attribute? "class").getD [])).contains name
  | ofAttribute a, p => a.holds p.element
  | top, p => p.isTop
  | empty, p => p.element.isBlank
  | defined, p => !p.element.name.contains '-' || p.element.name.contains ':'
  | containing texts own, p =>
    let inside := if own then p.element.ownTexts else [p.element.node.content]
    texts.any fun t => inside.any fun content => (Text.cut? t content).isSome
  | position positions fromEnd among, p =>
    among.holds p &&
      positions.contains (((siblings fromEnd p).filter among.holds).length + 1)
  | positionOfName positions fromEnd, p =>
    positions.contains
      (((siblings fromEnd p).filter (·.element.name = p.element.name)).length + 1)
  | related r s, p => (r.places p).any s.holds

def find? (s : Selector) (e : Element) : Option Path :=
  ((Place.top e).descendants.find? fun (_, p) => s.holds p).map (·.1)

def anyOf (s : List Selector) : Selector := s.foldr or never

def allOf (s : List Selector) : Selector := s.foldr and every

end Selector

end Stencil.Markup
