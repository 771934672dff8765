import Stencil.Settings.Basic
import Stencil.Proofs.Settings.Separating

/-!
# References in the default format

What is written for a captured value by default is read back as what it was written for.
-/

namespace Stencil.Reference

def defaultFormat : Text := Settings.captureReference {}

def defaultText (id index : Nat) : Text :=
  "fragtpl.lookup(".toList ++ Text.ofNat id ++ (", ".toList ++ Text.ofNat index ++ [')'])

theorem wellSeparated_default : WellSeparated defaultFormat := by decide +kernel

theorem parts_default :
    parts defaultFormat = [.literal "fragtpl.lookup(".toList, .field idField,
      .literal ", ".toList, .field indexField, .literal [')']] := by
  decide +kernel

theorem spell_default (id index : Nat) :
    spell (parts defaultFormat) (plainDigits id index) = defaultText id index := by
  rw [parts_default]
  change _ = "fragtpl.lookup(".toList ++ Text.ofNat id ++ (", ".toList ++ Text.ofNat index ++ [')'])
  simp only [spell_literal, spell_field, spell_nil, plainDigits_idField, plainDigits_indexField,
    List.append_nil, List.append_assoc]

theorem writeWith_default (access : Access) (id index : Nat) :
    writeWith access defaultFormat ⟨id, index⟩ = .ok (defaultText id index) := by
  rw [writeWith_plain access wellSeparated_default.plain wellSeparated_default.fields.only,
    spell_default]

theorem write_default (id index : Nat) :
    write defaultFormat ⟨id, index⟩ = .ok (defaultText id index) :=
  writeWith_default access id index

theorem read?_default (id index : Nat) :
    read? defaultFormat (defaultText id index) = some ⟨id, index⟩ := by
  have hstrip := wellSeparated_default.strip_spell id index
  rw [spell_default] at hstrip
  exact wellSeparated_default.read?_eq_some (hstrip.trans (spell_default id index).symm)

end Stencil.Reference
