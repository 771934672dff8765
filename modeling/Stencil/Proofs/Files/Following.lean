import Mathlib.Data.List.Basic
import Mathlib.Data.List.Nodup
import Stencil.Files.Tree

/-!
# Following paths

The entries of a folder have different names, each of which is one part of a path and leads into the
folder. Such trees are what putting files into an empty folder makes, and following a path from one
of their folders stays among them.
-/

namespace Stencil.Files

/-- The name of an entry: a part of a path that does not lead out of a folder. -/
structure IsEntryName (n : Text) : Prop where
  ne_nil : n ≠ []
  notMem : '/' ∉ n
  ne_dot : n ≠ ['.']
  ne_dots : n ≠ ['.', '.']

instance (n : Text) : Decidable (IsEntryName n) :=
  decidable_of_iff (n ≠ [] ∧ '/' ∉ n ∧ n ≠ ['.'] ∧ n ≠ ['.', '.'])
    ⟨fun h => ⟨h.1, h.2.1, h.2.2.1, h.2.2.2⟩, fun h => ⟨h.ne_nil, h.notMem, h.ne_dot, h.ne_dots⟩⟩

namespace Tree

/-- A tree in which the entries of a folder have different names. -/
inductive WellFormed : Tree → Prop
  | file {bytes : List UInt8} : WellFormed (.file bytes)
  | folder {entries : List (Text × Tree)} (hnames : ∀ e ∈ entries, IsEntryName e.1)
      (hnodup : (entries.map (·.1)).Nodup) (hinner : ∀ e ∈ entries, WellFormed e.2) :
      WellFormed (.folder entries)

/-! ## Entries -/

section

variable {entries : List (Text × Tree)} {t inner new : Tree} {name part : Text}

theorem lookup_eq_some_iff (hnodup : (entries.map (·.1)).Nodup) :
    entries.lookup name = some inner ↔ (name, inner) ∈ entries := by
  induction entries with
  | nil => simp
  | cons e entries ih =>
      obtain ⟨n, t⟩ := e
      obtain ⟨hnot, hnodup⟩ := List.nodup_cons.1 hnodup
      rw [List.lookup_cons, List.mem_cons, Prod.mk.injEq]
      by_cases h : name = n
      · subst h
        have hnone : (name, inner) ∉ entries := fun hmem =>
          hnot (List.mem_map.2 ⟨_, hmem, rfl⟩)
        simp [hnone, eq_comm]
      · simp [h, ih hnodup, beq_eq_false_iff_ne.2 h]

theorem WellFormed.child? (h : t.WellFormed) (hchild : t.child? name = some inner) :
    inner.WellFormed ∧ IsEntryName name := by
  cases h with
  | file => cases hchild
  | folder hnames hnodup hinner =>
      have hmem := (lookup_eq_some_iff hnodup).1 hchild
      exact ⟨hinner _ hmem, hnames _ hmem⟩

theorem WellFormed.empty : WellFormed (.folder []) := .folder nofun .nil nofun

end

/-! ## Paths -/

section

variable {around around' : List Tree} {t t' inner : Tree} {p q : List Text} {part : Text}

@[simp] theorem follow?_nil : follow? around t [] = some (around, t) := rfl

@[simp] theorem follow?_cons : follow? around t (part :: p) =
    (step? around t part).bind fun found => follow? found.1 found.2 p := rfl

theorem follow?_append : follow? around t (p ++ q) =
    (follow? around t p).bind fun found => follow? found.1 found.2 q := by
  induction p generalizing around t with
  | nil => rfl
  | cons part p ih =>
      simp only [List.cons_append, follow?_cons, ih, Option.bind_assoc]

theorem step?_of_ne_dots (hpart : part ≠ ['.', '.']) :
    step? around t part = (t.child? part).map (t :: around, ·) := if_neg hpart

theorem follow?_entry (hpart : IsEntryName part) : follow? around t (part :: p) =
    (t.child? part).bind fun inner => follow? (t :: around) inner p := by
  rw [follow?_cons, step?_of_ne_dots hpart.ne_dots, Option.bind_map]
  rfl

theorem follow?_file {bytes : List UInt8} (hpart : ∀ part ∈ p, IsEntryName part) (hne : p ≠ []) :
    follow? around (.file bytes) (p ++ q) = none := by
  cases p with
  | nil => exact absurd rfl hne
  | cons part p => rw [List.cons_append, follow?_entry (hpart part (.head _))]; rfl

theorem wellFormed_of_step? (h : ∀ o ∈ t :: around, o.WellFormed)
    (hstep : step? around t part = some (around', t')) : ∀ o ∈ t' :: around', o.WellFormed := by
  unfold step? at hstep
  split at hstep
  · split at hstep
    · cases hstep
      exact (List.forall_mem_cons.1 h).2
    · cases hstep
  · obtain ⟨inner, hchild, heq⟩ := Option.map_eq_some_iff.1 hstep
    cases heq
    exact List.forall_mem_cons.2 ⟨((List.forall_mem_cons.1 h).1.child? hchild).1, h⟩

theorem wellFormed_of_follow? (h : ∀ o ∈ t :: around, o.WellFormed)
    (hfollow : follow? around t p = some (around', t')) : ∀ o ∈ t' :: around', o.WellFormed := by
  induction p generalizing around t with
  | nil =>
      cases hfollow
      exact h
  | cons part p ih =>
      obtain ⟨⟨around₁, t₁⟩, hstep, hrest⟩ := Option.bind_eq_some_iff.1 hfollow
      exact ih (wellFormed_of_step? h hstep) hrest

end

end Tree

end Stencil.Files
