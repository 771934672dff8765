import Stencil.Markup.Parse

/-!
# Replacing one element of a tree

Nothing of a tree is different but the element that is replaced: all around the path to it stays.
-/

namespace Stencil.Markup

/-- At the end of a path nodes have come in the place of an element, and all else is the same. -/
inductive Element.Replaced (old : Element) (new : List Node) : Path → Element → Element → Prop
  | here (name : Text) (attributes : List (Text × Text)) (before after : List Node) :
      Replaced old new [before.length] ⟨name, attributes, before ++ old.node :: after⟩
        ⟨name, attributes, before ++ (new ++ after)⟩
  | inside (name : Text) (attributes : List (Text × Text)) (before after : List Node)
      {path : Path} {child child' : Element} (h : Replaced old new path child child') :
      Replaced old new (before.length :: path) ⟨name, attributes, before ++ child.node :: after⟩
        ⟨name, attributes, before ++ child'.node :: after⟩

theorem eq_take_append_drop {nodes : List Node} {i : Nat} {n : Node} (h : nodes[i]? = some n) :
    (nodes.take i).length = i ∧ nodes = nodes.take i ++ n :: nodes.drop (i + 1) := by
  obtain ⟨hlt, rfl⟩ := List.getElem?_eq_some_iff.mp h
  refine ⟨List.length_take_of_le (Nat.le_of_lt hlt), ?_⟩
  rw [← List.drop_eq_getElem_cons hlt, List.take_append_drop]

namespace Element

variable {e old : Element} {path : Path} {i : Nat}

theorem at?_cons_eq_some_iff :
    e.at? (i :: path) = some old ↔
      ∃ child : Element, e.children[i]? = some child.node ∧ child.at? path = some old := by
  rw [at?]
  split
  · next name attributes children hchild =>
      constructor
      · exact fun h => ⟨⟨name, attributes, children⟩, hchild, h⟩
      · rintro ⟨child, hnode, h⟩
        cases hchild.symm.trans hnode
        exact h
  · next hnone =>
      simp only [reduceCtorEq, false_iff]
      rintro ⟨child, hnode, -⟩
      exact hnone _ _ _ hnode

theorem replaceAt_cons {new : List Node} {child : Element} (hpath : path ≠ [])
    (hchild : e.children[i]? = some child.node) :
    e.replaceAt new (i :: path) =
      { e with children := e.children.set i (child.replaceAt new path).node } := by
  cases path with
  | nil => exact absurd rfl hpath
  | cons j more =>
      rw [replaceAt, hchild]
      · rfl
      · rintro ⟨⟩

theorem replaced_replaceAt (new : List Node) (hpath : path ≠ []) (h : e.at? path = some old) :
    Replaced old new path e (e.replaceAt new path) := by
  induction path generalizing e with
  | nil => exact absurd rfl hpath
  | cons i more ih =>
      obtain ⟨child, hchild, hmore⟩ := at?_cons_eq_some_iff.mp h
      obtain ⟨name, attributes, children⟩ := e
      obtain ⟨hlength, haround⟩ := eq_take_append_drop hchild
      cases more with
      | nil =>
          cases hmore
          have hhere : Replaced old new _ _ _ := .here name attributes (children.take i)
            (children.drop (i + 1))
          rw [hlength] at hhere
          rw [replaceAt, List.append_assoc]
          simpa only [← haround] using hhere
      | cons j more =>
          have hinside := (ih (List.cons_ne_nil j more) hmore).inside name attributes
            (children.take i) (children.drop (i + 1))
          rw [hlength] at hinside
          have hlt := (List.getElem?_eq_some_iff.mp hchild).1
          rw [replaceAt_cons (List.cons_ne_nil j more) hchild]
          simpa only [← haround, List.set_eq_take_append_cons_drop, hlt, if_true] using hinside

end Element

/-! ## Paths to elements that are found -/

namespace Place

mutual

theorem ne_nil_of_mem_withinNode (parent : Place) (path : Path) (i : Nat)
    (before after : List Node) {found : Path × Place} :
    ∀ n : Node, found ∈ withinNode parent path i before after n → found.1 ≠ []
  | .element name attributes children, h => by
      rcases List.mem_cons.mp h with rfl | h
      · simp
      · exact ne_nil_of_mem_within _ _ 0 [] children h
  | .text _, h => nomatch h
  | .special _ _, h => nomatch h

theorem ne_nil_of_mem_within (parent : Place) (path : Path) (i : Nat) (before : List Node)
    {found : Path × Place} :
    ∀ nodes : List Node, found ∈ within parent path i before nodes → found.1 ≠ []
  | [], h => nomatch h
  | n :: after, h => by
      rcases List.mem_append.mp h with h | h
      · exact ne_nil_of_mem_withinNode parent path i before after n h
      · exact ne_nil_of_mem_within parent path (i + 1) (n :: before) after h

end

end Place

theorem Selector.find?_ne_nil {s : Selector} {e : Element} {path : Path}
    (h : s.find? e = some path) : path ≠ [] := by
  obtain ⟨found, hfound, rfl⟩ := Option.map_eq_some_iff.mp h
  exact Place.ne_nil_of_mem_within _ _ _ _ _ (List.mem_of_find?_eq_some hfound)

theorem Element.find?_ne_nil {e : Element} {selector : Text} {path : Path}
    (h : e.find? selector = .ok (some path)) : path ≠ [] := by
  rw [Element.find?] at h
  split at h
  · exact Selector.find?_ne_nil (Except.ok.inj h)
  all_goals cases h

/-- An element of a tree that a selector finds is replaced by the first element of a text, and
removed if the text has none; nothing else of the tree changes. -/
theorem Reader.replaced_of_replace {r : Reader} {e e' old : Element} {selector t : Text}
    {path : Path} {new : Option Element} (hfind : e.find? selector = .ok (some path))
    (hold : e.at? path = some old) (h : r.replace e path t = .ok (e', new)) :
    r.firstElement? t = .ok new ∧
      Element.Replaced old (new.map Element.node).toList path e e' := by
  rw [replace] at h
  cases hfirst : r.firstElement? t with
  | error f =>
      rw [hfirst] at h
      cases h
  | ok first =>
      rw [hfirst] at h
      cases h
      exact ⟨rfl, Element.replaced_replaceAt _ (Element.find?_ne_nil hfind) hold⟩

end Stencil.Markup
