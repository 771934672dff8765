import Stencil.Text.Basic

/-!
# UTF-8

Bytes are read as characters in the shortest form only, without surrogates. The first byte that
does not fit decides the error.
-/

namespace Stencil.Text

inductive DecodeReason where
  | badStart
  | badContinuation
  | endOfData
deriving DecidableEq, Repr

structure DecodeError where
  position : Nat
  count : Nat
  byte : Nat
  reason : DecodeReason
deriving DecidableEq, Repr

def DecodeReason.text : DecodeReason → Text
  | badStart => "invalid start byte"
  | badContinuation => "invalid continuation byte"
  | endOfData => "unexpected end of data"

def DecodeError.message (e : DecodeError) : Text :=
  say ["'utf-8' codec can't decode ",
    if e.count = 1 then
      say ["byte 0x", padLeft '0' 2 (Nat.toDigits 16 e.byte), " in position ", ofNat e.position]
    else say ["bytes in position ", ofNat e.position, "-", ofNat (e.position + e.count - 1)],
    ": ", e.reason.text]

def leadingByte? (b : Nat) : Option (Nat × Nat) :=
  if b < 0x80 then some (0, b)
  else if b < 0xC2 then none
  else if b < 0xE0 then some (1, b - 0xC0)
  else if b < 0xF0 then some (2, b - 0xE0)
  else if b < 0xF5 then some (3, b - 0xF0)
  else none

def secondRange (first : Nat) : Nat × Nat :=
  if first = 0xE0 then (0xA0, 0xBF)
  else if first = 0xED then (0x80, 0x9F)
  else if first = 0xF0 then (0x90, 0xBF)
  else if first = 0xF4 then (0x80, 0x8F)
  else (0x80, 0xBF)

/-- Takes the bytes that continue a character. Gives the code point, or how many bytes fitted and
why it ended there. -/
def continuation (range : Nat × Nat) : (missing taken code : Nat) → List UInt8 →
    Except (Nat × DecodeReason) Nat
  | 0, _, code, _ => .ok code
  | _ + 1, taken, _, [] => .error (taken, .endOfData)
  | missing + 1, taken, code, b :: rest =>
    if range.1 ≤ b.toNat ∧ b.toNat ≤ range.2 then
      continuation (0x80, 0xBF) missing (taken + 1) (code * 64 + (b.toNat - 0x80)) rest
    else .error (taken, .badContinuation)

def ofBytesFrom (position : Nat) (bytes : List UInt8) : Except DecodeError Text :=
  match _h : bytes with
  | [] => .ok []
  | b :: rest =>
    match leadingByte? b.toNat with
    | none => .error ⟨position, 1, b.toNat, .badStart⟩
    | some (more, code) =>
      match continuation (secondRange b.toNat) more 1 code rest with
      | .error (taken, reason) => .error ⟨position, taken, b.toNat, reason⟩
      | .ok code =>
        (ofBytesFrom (position + 1 + more) (rest.drop more)).map (Char.ofNat code :: ·)
termination_by bytes.length
decreasing_by subst _h; simp only [List.length_drop, List.length_cons]; omega

def ofBytes (bytes : List UInt8) : Except DecodeError Text := ofBytesFrom 0 bytes

end Stencil.Text
