import Stencil.Text.Basic

/-!
# Documents of plain data

A document is a tree of scalars, sequences and mappings as it is written, before the scalars are
given a meaning. A node may have a name, under which an alias refers to it, and a tag.
-/

namespace Stencil.Yaml

inductive Mistake where
  | controlCharacter
  | unexpected
  | unfinished
  | misplacedValue
  | misplacedEntry
  | missingValue
  | badIndent
  | badEscape
  | badHeader
  | badName
  | badTag
  | markerInside
  | severalDocuments
  | unknownAlias
  | repeatedKey
  | badKey
  | badMerge
  | tooDeep
deriving DecidableEq, Repr

def Mistake.message : Mistake → Text
  | controlCharacter => "a control character is not allowed"
  | unexpected => "unexpected character"
  | unfinished => "unexpected end of the text"
  | misplacedValue => "a mapping is not allowed here"
  | misplacedEntry => "a sequence is not allowed here"
  | missingValue => "a key has no colon behind it"
  | badIndent => "wrong indentation"
  | badEscape => "unknown escape"
  | badHeader => "wrong header of a block"
  | badName => "wrong name of a node"
  | badTag => "unknown tag"
  | markerInside => "a document ends inside of a node"
  | severalDocuments => "there is more than one document"
  | unknownAlias => "an alias refers to nothing"
  | repeatedKey => "a key occurs twice"
  | badKey => "a mapping cannot be a key"
  | badMerge => "only mappings can be merged"
  | tooDeep => "nested too deeply"

structure Properties where
  /-- The name that aliases refer to. -/
  anchor : Option Text := none
  tag : Option Text := none
deriving DecidableEq, Repr, Inhabited

def Properties.isEmpty (p : Properties) : Bool := p.anchor.isNone && p.tag.isNone

inductive Node where
  | alias (name : Text)
  | scalar (props : Properties) (plain : Bool) (t : Text)
  | sequence (props : Properties) (items : List Node)
  | mapping (props : Properties) (entries : List (Node × Node))
deriving Inhabited

namespace Node

def empty : Node := .scalar {} true []

def withProperties (p : Properties) : Node → Except Mistake Node
  | n =>
    if p.isEmpty then .ok n
    else match n with
      | .alias _ => .error .unexpected
      | .scalar q plain t => if q.isEmpty then .ok (.scalar p plain t) else .error .unexpected
      | .sequence q items => if q.isEmpty then .ok (.sequence p items) else .error .unexpected
      | .mapping q entries => if q.isEmpty then .ok (.mapping p entries) else .error .unexpected

end Node

end Stencil.Yaml
