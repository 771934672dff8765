import Stencil.Proofs.Settings.Separating

/-!
# References to something else

A text that a format has written may have several readings, and then the one with the longest
first field counts. So it can refer to other numbers than it was written for.
-/

namespace Stencil.Reference

section

variable {format t : Text} {value : Text → Text} {target other : Target}

theorem Writes.eq (h : Writes value target) (h' : Writes value other) : target = other := by
  obtain ⟨id, index⟩ := target
  obtain ⟨id', index'⟩ := other
  cases h.id.symm.trans h'.id
  cases h.index.symm.trans h'.index
  rfl

theorem TwoFields.exists_writes {parts : List Part} (h : TwoFields parts)
    (hvalue : Reading parts t value) : ∃ target, Writes value target := by
  obtain ⟨id, hid⟩ := Option.isSome_iff_exists.1
    (Text.digitsToNat?_isSome (hvalue.digits _ h.id).2)
  obtain ⟨index, hindex⟩ := Option.isSome_iff_exists.1
    (Text.digitsToNat?_isSome (hvalue.digits _ h.index).2)
  exact ⟨⟨id, index⟩, congrArg (Option.map Int.ofNat) hid, congrArg (Option.map Int.ofNat) hindex⟩

/-- A text refers to something else than a target exactly when it has readings, and the one with
the longest first field does not write the target. -/
theorem refers_elsewhere_iff :
    (∃ other, other ≠ target ∧ read? format t = some other) ↔ TwoFields (parts format) ∧
      ∃ value, LongestReading (parts format) (Text.strip t) value ∧ ¬ Writes value target := by
  constructor
  · rintro ⟨other, hne, hread⟩
    obtain ⟨hfields, value, hvalue, hwrites⟩ := read?_eq_some_iff.1 hread
    exact ⟨hfields, value, hvalue, fun h => hne (hwrites.eq h)⟩
  · rintro ⟨hfields, value, hvalue, hnot⟩
    obtain ⟨other, hwrites⟩ := hfields.exists_writes hvalue.toReading
    refine ⟨other, ?_, read?_eq_some_iff.2 ⟨hfields, value, hvalue, hwrites⟩⟩
    rintro rfl
    exact hnot hwrites

end

def adjacentFormat : Text := "\x7bid\x7d\x7bindex\x7d".toList

theorem refers_elsewhere_adjacentFormat :
    Settings.asReference .standard (.str adjacentFormat) = .ok (.ok adjacentFormat) ∧
      write adjacentFormat ⟨1, 23⟩ = .ok "123".toList ∧
        read? adjacentFormat "123".toList = some ⟨12, 3⟩ := by
  have hplain : Plain adjacentFormat := by decide +kernel
  have hfields : TwoFields (parts adjacentFormat) := by decide +kernel
  have hspell : spell (parts adjacentFormat) (plainDigits 1 23) = "123".toList := by decide +kernel
  refine ⟨accepted_of_plain hplain hfields.only, ?_, by decide +kernel⟩
  exact (write_plain hplain hfields.only 1 23).trans (congrArg Except.ok hspell)

end Stencil.Reference
