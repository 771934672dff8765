import Stencil.Text.Blank
import Stencil.Template.Brace

/-!
# Preprocessing

Before placeholders are looked for, lines are trimmed and joined on request, comments are
removed, and the braces of literal blocks and escaped braces are protected, in this order.
-/

namespace Stencil.Template

def joinTrimmed (t : Text) : Text := (Text.lines t).flatMap Text.strip

def commentEnd : Text := ['*', '}']

/-- Removes each comment up to the first end mark behind its start; a start without an end is
text. -/
def removeComments : Text → Text
  | [] => []
  | '{' :: '*' :: rest =>
    match _h : Text.cut? commentEnd rest with
    | some (_, behind) => removeComments behind
    | none => '{' :: removeComments ('*' :: rest)
  | c :: rest => c :: removeComments rest
termination_by t => t.length
decreasing_by
  · have := Text.length_lt_of_cut? (by simp [commentEnd]) _h
    simp only [List.length_cons]
    omega
  · simp
  · simp

def literalStart : Text := ['{', 'l', 'i', 't', 'e', 'r', 'a', 'l', '}']

def literalEnd : Text := ['{', '/', 'l', 'i', 't', 'e', 'r', 'a', 'l', '}']

def protectLiterals : Text → Text
  | [] => []
  | c :: rest =>
    match _ha : Text.after? literalStart (c :: rest) with
    | some body =>
      match _hb : Text.cut? literalEnd body with
      | some (inside, behind) => protectBraces inside ++ protectLiterals behind
      | none => c :: protectLiterals rest
    | none => c :: protectLiterals rest
termination_by t => t.length
decreasing_by
  · have hcut := Text.length_lt_of_cut? (by simp [literalEnd]) _hb
    have hafter := congrArg List.length (Text.after?_eq_some_iff.1 _ha)
    simp only [List.length_append] at hafter
    omega
  · simp
  · simp

/-- A backslash before a brace protects the brace and disappears. -/
def protectEscaped : Text → Text
  | [] => []
  | '\\' :: '{' :: rest => openSentinel :: protectEscaped rest
  | '\\' :: '}' :: rest => closeSentinel :: protectEscaped rest
  | c :: rest => c :: protectEscaped rest

def preprocess (trim : Bool) (source : Text) : Text :=
  protectEscaped (protectLiterals (removeComments (if trim then joinTrimmed source else source)))

end Stencil.Template
