import Stencil.Value.Heap

/-!
# Entries

What putting and removing do to the entries of names and of mappings whose keys are texts.
-/

namespace Stencil

/-! ## Text keys -/

theorem Value.equalKey_str_iff {v : Value} {n : Text} {id : Identity} :
    v.equalKey (.str n id) = true ↔ ∃ id', v = .str n id' := by
  constructor
  · intro h
    cases v with
    | str t id' =>
        have ht : t = n := by
          simp only [equalKey, same, Bool.or_eq_true, Bool.and_eq_true, beq_iff_eq] at h
          rcases h with ⟨-, ht⟩ | ht <;> exact ht
        exact ⟨id', by rw [ht]⟩
    | _ => simp [equalKey, same, compareNumbers?, int?] at h
  · rintro ⟨id', rfl⟩
    simp [equalKey]

theorem Value.equalKey_str_of_ne {v : Value} {n x : Text} {id id' : Identity} (hne : n ≠ x)
    (h : v.equalKey (.str n id) = true) : v.equalKey (.str x id') = false := by
  obtain ⟨id₁, rfl⟩ := equalKey_str_iff.mp h
  refine Bool.eq_false_iff.mpr fun hx => hne ?_
  obtain ⟨id₂, heq⟩ := equalKey_str_iff.mp hx
  injection heq

/-! ## Mappings -/

namespace Mapping

variable {mapping : Mapping} {n x : Text} {v : Value}

@[simp] theorem get?_put_self :
    (mapping.put (.str n .shared) v).get? (.str n .shared) = some v := by
  obtain ⟨isScope, entries⟩ := mapping
  simp only [put, get?]
  induction entries with
  | nil => simp [putEntry, Value.equalKey_str_iff.mpr ⟨_, rfl⟩]
  | cons entry more ih =>
      obtain ⟨k, w⟩ := entry
      by_cases hk : k.equalKey (.str n .shared) = true
      · simp [putEntry, hk]
      · simpa [putEntry, hk] using ih

theorem get?_put_of_ne (hne : n ≠ x) :
    (mapping.put (.str n .shared) v).get? (.str x .shared) = mapping.get? (.str x .shared) := by
  obtain ⟨isScope, entries⟩ := mapping
  simp only [put, get?]
  have hkey {k : Value} (hk : k.equalKey (.str n .shared) = true) :
      k.equalKey (.str x .shared) = false := Value.equalKey_str_of_ne hne hk
  induction entries with
  | nil => simp [putEntry, hkey (Value.equalKey_str_iff.mpr ⟨_, rfl⟩)]
  | cons entry more ih =>
      obtain ⟨k, w⟩ := entry
      by_cases hk : k.equalKey (.str n .shared) = true
      · simp [putEntry, hk, hkey hk]
      · by_cases hx : k.equalKey (.str x .shared) = true
        · simp [putEntry, hk, hx]
        · simpa [putEntry, hk, hx] using ih

@[simp] theorem get?_remove_self :
    (mapping.remove (.str n .shared)).get? (.str n .shared) = none := by
  simp [remove, get?]

theorem get?_remove_of_ne (hne : n ≠ x) :
    (mapping.remove (.str n .shared)).get? (.str x .shared) = mapping.get? (.str x .shared) := by
  obtain ⟨isScope, entries⟩ := mapping
  simp only [remove, get?, List.find?_filter]
  congr 2
  funext entry
  by_cases hn : entry.1.equalKey (.str n .shared) = true
  · simp [hn, Value.equalKey_str_of_ne hne hn]
  · simp [hn]

end Mapping

/-! ## Names -/

namespace Names

variable {names : Names} {n x : Text} {v : Value}

@[simp] theorem get?_put_self : (names.put n v).get? n = some v := by
  induction names with
  | nil => simp [put, get?]
  | cons entry more ih =>
      obtain ⟨m, w⟩ := entry
      by_cases hm : m = n
      · simp [put, get?, hm]
      · have hne : (n == m) = false := beq_eq_false_iff_ne.mpr (Ne.symm hm)
        simpa [put, get?, hm, List.lookup_cons, hne] using ih

theorem get?_put_of_ne (hne : n ≠ x) : (names.put n v).get? x = names.get? x := by
  have hxn : (x == n) = false := beq_eq_false_iff_ne.mpr hne.symm
  induction names with
  | nil => simp [put, get?, List.lookup_cons, hxn]
  | cons entry more ih =>
      obtain ⟨m, w⟩ := entry
      simp only [get?] at ih ⊢
      by_cases hm : m = n
      · simp [put, hm, List.lookup_cons, hxn]
      · simp [put, hm, List.lookup_cons, ih]

@[simp] theorem get?_remove_self : (names.remove n).get? n = none := by
  rw [get?, List.lookup_eq_none_iff]
  intro entry hentry
  have hne : entry.1 ≠ n := by simpa using (List.mem_filter.mp hentry).2
  simpa using hne.symm

theorem get?_remove_of_ne (hne : n ≠ x) : (names.remove n).get? x = names.get? x := by
  have hxn : (x == n) = false := beq_eq_false_iff_ne.mpr hne.symm
  unfold get? remove
  induction names with
  | nil => rfl
  | cons entry more ih =>
      obtain ⟨m, w⟩ := entry
      by_cases hm : m = n
      · rw [List.filter_cons_of_neg (by simpa using hm), ih, List.lookup_cons, hm, hxn]
      · rw [List.filter_cons_of_pos (by simpa using hm), List.lookup_cons, List.lookup_cons, ih]

end Names

/-! ## Heaps -/

theorem Heap.mapping_setMapping {h : Heap} {a : Nat} {mapping : Mapping}
    (ha : a < h.mappings.size) : (h.setMapping a mapping).mapping a = mapping := by
  simp [setMapping, Heap.mapping, ha]

end Stencil
