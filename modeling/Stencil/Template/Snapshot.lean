import Stencil.Text.Digit
import Stencil.Template.Span

/-!
# From snapshots back to source

A token of a snapshot gives back the placeholder of the span with its number. Its number may be
written in any decimal digits; one that no span has is an error.
-/

namespace Stencil.Template

/-- The number in a token, which may be one that no span has. -/
structure Token where
  form : Form
  index : Nat
deriving DecidableEq, Repr

def token? (t : Text) : Option (Token × Text) := do
  let rest ← Text.after? tokenStart t
  match rest with
  | letter :: '-' :: rest =>
    let form ← Form.ofLetter? letter
    let digits := rest.takeWhile Text.isDecimalDigit
    match rest.dropWhile Text.isDecimalDigit with
    | '$' :: behind =>
      if digits.isEmpty then none
      else
        let index ← Text.digitsToNat? digits
        some (⟨form, index⟩, behind)
    | _ => none
  | _ => none

theorem length_lt_of_token? {t behind : Text} {token : Token}
    (h : token? t = some (token, behind)) : behind.length < t.length := by
  simp only [token?, Option.bind_eq_bind, Option.bind_eq_some_iff] at h
  obtain ⟨rest, hrest, h⟩ := h
  have hlen := congrArg List.length (Text.after?_eq_some_iff.1 hrest)
  split at h
  · simp only [Option.bind_eq_some_iff] at h
    obtain ⟨form, -, h⟩ := h
    next letter tail =>
      split at h
      · next more heq =>
          split at h
          · simp at h
          · simp only [Option.bind_eq_some_iff] at h
            obtain ⟨index, -, h⟩ := h
            obtain ⟨-, rfl⟩ := by simpa using h
            have hdrop := (List.dropWhile_sublist Text.isDecimalDigit (l := tail)).length_le
            rw [heq] at hdrop
            simp only [List.length_append, List.length_cons] at hlen hdrop
            omega
      · simp at h
  · simp at h

structure UnknownToken where
  index : Nat
deriving DecidableEq, Repr

def restoreSpans (spans : List Span) : Text → Except UnknownToken Text
  | [] => .ok []
  | c :: rest =>
    match _h : token? (c :: rest) with
    | some (token, behind) =>
      match spans[token.index]? with
      | some span => (restoreSpans spans behind).map (span.source ++ ·)
      | none => .error ⟨token.index⟩
    | none => (restoreSpans spans rest).map (c :: ·)
termination_by t => t.length
decreasing_by
  · exact length_lt_of_token? _h
  · simp

end Stencil.Template
