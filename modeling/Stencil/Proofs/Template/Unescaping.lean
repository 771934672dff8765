import Mathlib.Data.List.Chain
import Mathlib.Data.List.Infix
import Stencil.Template.Escape
import Stencil.Proofs.Text.Trimming

/-!
# Values read back from their escaped form

An escaped value holds no reserved character and no run of spaces, and an ampersand in it starts an
entity. One pass from the left that puts characters for entities gives the value back.
-/

namespace Stencil.Template

/-! ## Reading entities -/

def entities : List (Text × Char) := [("&amp;".toList, '&'), ("&lt;".toList, '<'),
  ("&gt;".toList, '>'), ("&quot;".toList, '\x22'), ("&#39;".toList, '\x27'), (nonBreaking, ' ')]

def reserved : Text := "<>\x22\x27".toList

/-- The character of the entity that a text starts with, and the rest. -/
def entityAt? (t : Text) : Option (Char × Text) :=
  entities.findSome? fun (entity, c) => (Text.after? entity t).map (c, ·)

theorem form_of_mem_entities : ∀ e ∈ entities, e.1.head? = some '&' ∧
    (∀ tail ∈ e.1.tails, tail.head? = some '&' → tail = e.1) ∧ ' ' ∉ e.1 ∧
      ∀ c ∈ e.1, c ∉ reserved := by
  decide +kernel

theorem head?_of_mem_entities {e : Text × Char} (he : e ∈ entities) : e.1.head? = some '&' :=
  (form_of_mem_entities e he).1

theorem entities_ne_nil {e : Text × Char} (he : e ∈ entities) : e.1 ≠ [] := fun hnil => by
  have hhead := head?_of_mem_entities he
  rw [hnil] at hhead
  cases hhead

theorem length_lt_of_entityAt? {t behind : Text} {c : Char} (h : entityAt? t = some (c, behind)) :
    behind.length < t.length := by
  obtain ⟨e, he, hread⟩ := List.exists_of_findSome?_eq_some h
  obtain ⟨rest, hrest, heq⟩ := Option.map_eq_some_iff.1 hread
  obtain ⟨-, rfl⟩ := Prod.mk.inj heq
  have hpos := List.length_pos_iff.2 (entities_ne_nil he)
  rw [Text.after?_eq_some_iff.1 hrest, List.length_append]
  omega

/-- Puts characters for entities, in one pass from the left. -/
def unescape : Text → Text
  | [] => []
  | c :: rest =>
    match _h : entityAt? (c :: rest) with
    | some (d, behind) => d :: unescape behind
    | none => c :: unescape rest
termination_by t => t.length
decreasing_by
  · exact length_lt_of_entityAt? _h
  · exact Nat.lt_succ_self _

theorem unescape_of_entityAt? {t behind : Text} {c : Char} (h : entityAt? t = some (c, behind)) :
    unescape t = c :: unescape behind := by
  cases t with
  | nil => exact absurd (length_lt_of_entityAt? h) (Nat.not_lt_zero _)
  | cons d rest =>
      rw [unescape]
      split
      · next heq =>
          obtain ⟨rfl, rfl⟩ := Prod.mk.inj (Option.some.inj (heq.symm.trans h))
          rfl
      · next heq => cases heq.symm.trans h

theorem unescape_of_entityAt?_eq_none {c : Char} {rest : Text}
    (h : entityAt? (c :: rest) = none) : unescape (c :: rest) = c :: unescape rest := by
  rw [unescape]
  split
  · next heq => cases h.symm.trans heq
  · rfl

theorem entityAt?_append {e : Text × Char} (he : e ∈ entities) (behind : Text) :
    entityAt? (e.1 ++ behind) = some (e.2, behind) := by
  simp only [entities, List.mem_cons, List.not_mem_nil, or_false] at he
  rcases he with rfl | rfl | rfl | rfl | rfl | rfl <;> rfl

theorem entityAt?_eq_none {c : Char} (hc : c ≠ '&') (rest : Text) :
    entityAt? (c :: rest) = none := by
  refine List.findSome?_eq_none_iff.2 fun e he => Option.map_eq_none_iff.2 ?_
  by_contra hsome
  obtain ⟨behind, hbehind⟩ := Option.ne_none_iff_exists'.1 hsome
  have hhead := congrArg List.head? (Text.after?_eq_some_iff.1 hbehind)
  rw [List.head?_append_of_ne_nil _ (entities_ne_nil he), head?_of_mem_entities he] at hhead
  exact hc (Option.some.inj hhead)

/-! ## Escaping character by character -/

theorem mem_entities_of_entity? {c : Char} {entity : Text} (h : entity? c = some entity) :
    (entity, c) ∈ entities := by
  unfold entity? at h
  split at h <;> cases h <;> decide +kernel

theorem notMem_of_mem_entities {e : Text × Char} (he : e ∈ entities) :
    ' ' ∉ e.1 ∧ ∀ c ∈ e.1, c ∉ reserved :=
  (form_of_mem_entities e he).2.2

theorem entity?_ne_none : ∀ c ∈ '&' :: reserved, entity? c ≠ none := by decide +kernel

/-- A character is escaped as itself or as an entity; a space before another one is not plain. -/
inductive Escapes (t : Text) : Char → Text → Prop
  | plain {c : Char} (hspace : c = ' ' → t.head? ≠ some ' ') (hc : entity? c = none) :
      Escapes t c [c]
  | entity {c : Char} {code : Text} (hcode : (code, c) ∈ entities) : Escapes t c code

theorem escapeSpaces_append {front : Text} (hfront : ' ' ∉ front) (t : Text) :
    escapeSpaces (front ++ t) = front ++ escapeSpaces t := by
  induction front with
  | nil => rfl
  | cons c front ih =>
      have hc : ¬ (c = ' ' ∧ (front ++ t).head? = some ' ') := fun h =>
        hfront (h.1 ▸ List.mem_cons_self)
      rw [List.cons_append, escapeSpaces, if_neg hc, ih fun h => hfront (.tail _ h)]
      rfl

theorem head?_flatMap_entity? (t : Text) :
    (t.flatMap fun c => (entity? c).getD [c]).head? = some ' ' ↔ t.head? = some ' ' := by
  cases t with
  | nil => rfl
  | cons c t =>
      rw [List.flatMap_cons]
      cases hc : entity? c with
      | none => rfl
      | some entity =>
          have hmem := mem_entities_of_entity? hc
          have hne : c ≠ ' ' := by
            rintro rfl
            cases hc
          rw [Option.getD_some, List.head?_append_of_ne_nil _ (entities_ne_nil hmem),
            head?_of_mem_entities hmem]
          simp [hne]

theorem exists_escape_cons (c : Char) (t : Text) :
    ∃ code, Escapes t c code ∧ escape (c :: t) = code ++ escape t := by
  rw [escape, List.flatMap_cons]
  cases hc : entity? c with
  | some entity =>
      have hmem := mem_entities_of_entity? hc
      exact ⟨entity, .entity hmem, escapeSpaces_append (notMem_of_mem_entities hmem).1 _⟩
  | none =>
      rw [Option.getD_none, List.singleton_append, escapeSpaces]
      split
      · next hspace =>
          obtain ⟨rfl, -⟩ := hspace
          exact ⟨nonBreaking, .entity (by decide +kernel), rfl⟩
      · next hspace =>
          exact ⟨[c], .plain (fun h h' => hspace ⟨h, (head?_flatMap_entity? t).2 h'⟩) hc, rfl⟩

theorem escape_nil : escape [] = [] := rfl

section

variable {c : Char} {t code : Text}

theorem Escapes.unreserved (h : Escapes t c code) : ∀ d ∈ code, d ∉ reserved := by
  cases h with
  | plain _ hc =>
      intro d hd hmem
      obtain rfl := List.mem_singleton.1 hd
      exact entity?_ne_none d (.tail _ hmem) hc
  | entity hcode => exact (notMem_of_mem_entities hcode).2

theorem Escapes.head? (h : Escapes t c code) (more : Text) :
    (code ++ more).head? = some ' ' → c = ' ' := by
  cases h with
  | plain => exact Option.some.inj
  | entity hcode =>
      rw [List.head?_append_of_ne_nil _ (entities_ne_nil hcode), head?_of_mem_entities hcode]
      rintro ⟨⟩

theorem head?_escape (h : (escape t).head? = some ' ') : t.head? = some ' ' := by
  cases t with
  | nil => cases h
  | cons c t =>
      obtain ⟨code, hcode, heq⟩ := exists_escape_cons c t
      rw [hcode.head? _ (heq ▸ h)]
      rfl

theorem isChain_escape (t : Text) : (escape t).IsChain fun c d => ¬ (c = ' ' ∧ d = ' ') := by
  induction t with
  | nil => exact .nil
  | cons c t ih =>
      obtain ⟨code, hcode, heq⟩ := exists_escape_cons c t
      rw [heq]
      cases hcode with
      | plain hspace =>
          refine List.isChain_cons.2 ⟨fun d hd h => ?_, ih⟩
          obtain ⟨rfl, rfl⟩ := h
          exact hspace rfl (head?_escape hd)
      | entity hcode =>
          have hspace := (notMem_of_mem_entities hcode).1
          refine List.isChain_append.2 ⟨?_, ih, fun d hd _ _ h =>
            hspace (h.1 ▸ List.mem_of_getLast? hd)⟩
          refine List.isChain_iff_forall_rel_of_append_cons_cons.2 fun d _ before behind heq h => ?_
          exact hspace (heq ▸ h.1 ▸ List.mem_append_right before (.head _))

theorem exists_entity_of_ampersand {before behind : Text}
    (h : escape t = before ++ '&' :: behind) : ∃ e ∈ entities, e.1 <+: '&' :: behind := by
  induction t generalizing before with
  | nil => simp [escape_nil] at h
  | cons c t ih =>
      obtain ⟨code, hcode, heq⟩ := exists_escape_cons c t
      rw [heq] at h
      -- The ampersand stands behind what the first character is escaped as, or in it.
      rcases List.append_eq_append_iff.1 h with ⟨more, -, hmore⟩ | ⟨tail, hfront, htail⟩
      · exact ih hmore
      · cases tail with
        | nil =>
            have hstart : escape t = [] ++ '&' :: behind := htail.symm
            exact ih hstart
        | cons d tail =>
            obtain ⟨rfl, hbehind⟩ := List.cons.inj htail
            cases hcode with
            | plain _ hc =>
                cases before with
                | nil =>
                    obtain ⟨rfl, -⟩ := List.cons.inj hfront
                    exact absurd hc (entity?_ne_none _ (.head _))
                | cons b before => simp at hfront
            | entity hcode =>
                have hwhole := (form_of_mem_entities _ hcode).2.1 ('&' :: tail)
                  ((List.mem_tails _ _).2 ⟨before, hfront.symm⟩) rfl
                exact ⟨_, hcode, hwhole ▸ ⟨escape t, htail.symm⟩⟩

theorem unescape_escape (t : Text) : unescape (escape t) = t := by
  induction t with
  | nil =>
      rw [escape_nil, unescape]
  | cons c t ih =>
      obtain ⟨code, hcode, heq⟩ := exists_escape_cons c t
      rw [heq]
      cases hcode with
      | plain _ hc =>
          have hne : c ≠ '&' := by
            rintro rfl
            exact entity?_ne_none _ (.head _) hc
          rw [List.singleton_append, unescape_of_entityAt?_eq_none (entityAt?_eq_none hne _), ih]
      | entity hcode => rw [unescape_of_entityAt? (entityAt?_append hcode _), ih]

end

/-- Text that can stand in markup and means itself: nothing in it opens or closes a tag or a quoted
value, no space is lost, and ampersands start entities only. -/
structure Harmless (t : Text) : Prop where
  unreserved : ∀ c ∈ t, c ∉ reserved
  unrepeated : ¬ [' ', ' '] <:+: t
  entities : ∀ before behind, t = before ++ '&' :: behind →
    ∃ e ∈ Template.entities, e.1 <+: '&' :: behind

theorem harmless_escape (t : Text) : Harmless (escape t) where
  unreserved := by
    induction t with
    | nil =>
        rintro c ⟨⟩
    | cons c t ih =>
        obtain ⟨code, hcode, heq⟩ := exists_escape_cons c t
        rw [heq, List.forall_mem_append]
        exact ⟨hcode.unreserved, ih⟩
  unrepeated h := by
    have hspaces := List.IsChain.infix (isChain_escape t) h
    simp at hspaces
  entities _ _ h := exists_entity_of_ampersand h

/-- Escaping makes every text harmless and loses nothing of it. -/
theorem escape_harmless_lossless :
    (∀ t, Harmless (escape t) ∧ unescape (escape t) = t) ∧ Function.Injective escape :=
  ⟨fun t => ⟨harmless_escape t, unescape_escape t⟩,
    Function.LeftInverse.injective unescape_escape⟩

/-- A value that looks escaped already, with spaces at its ends. -/
example : unescape (escape "  &nbsp;&amp;lt; ".toList) = "  &nbsp;&amp;lt; ".toList := by
  decide +kernel

end Stencil.Template
