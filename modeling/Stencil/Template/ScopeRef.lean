import Stencil.Template.Directive

/-!
# References to the scope

In an expression `$name` stands for the entry of that name in the scope. Lowering writes it as a
look-up and leaves closed string literals alone. A literal is closed by its own quote on the way
to which a backslash skips one character, but not a line feed.
-/

namespace Stencil.Template

def literalTail? (quote : Char) : Text → Option (Text × Text)
  | [] => none
  | '\\' :: rest =>
    match rest with
    | [] => none
    | c :: more =>
      if c = '\n' then none
      else (literalTail? quote more).map fun (read, behind) => ('\\' :: c :: read, behind)
  | c :: rest =>
    if c = quote then some ([c], rest)
    else (literalTail? quote rest).map fun (read, behind) => (c :: read, behind)

theorem eq_append_of_literalTail? {quote : Char} {t read behind : Text}
    (h : literalTail? quote t = some (read, behind)) : t = read ++ behind := by
  fun_induction literalTail? quote t generalizing read behind <;>
    simp_all only [Option.map_eq_some_iff, Prod.exists, Prod.mk.injEq, reduceCtorEq,
      Option.some.injEq] <;> grind

inductive Lexeme where
  | literal (t : Text)
  | reference (name : Text)
deriving DecidableEq, Repr

def lexeme? : Text → Option (Lexeme × Text)
  | [] => none
  | c :: rest =>
    if c = '\x22' ∨ c = '\x27' then
      (literalTail? c rest).map fun (read, behind) => (.literal (c :: read), behind)
    else if c = '$' then
      (Directive.ident? rest).map fun (name, behind) => (.reference name, behind)
    else none

theorem length_lt_of_lexeme? {t behind : Text} {lexeme : Lexeme}
    (h : lexeme? t = some (lexeme, behind)) : behind.length < t.length := by
  unfold lexeme? at h
  split at h
  · simp at h
  · split at h
    · obtain ⟨⟨read, more⟩, hread, hpair⟩ := Option.map_eq_some_iff.1 h
      obtain ⟨-, rfl⟩ := by simpa using hpair
      rw [eq_append_of_literalTail? hread]
      simp only [List.length_cons, List.length_append]
      omega
    · split at h
      · obtain ⟨⟨name, more⟩, hname, hpair⟩ := Option.map_eq_some_iff.1 h
        obtain ⟨-, rfl⟩ := by simpa using hpair
        unfold Directive.ident? at hname
        split at hname
        · simp at hname
        · next c tail =>
            split at hname
            · obtain ⟨-, rfl⟩ := by simpa using hname
              have := (List.dropWhile_sublist Directive.isIdentChar (l := tail)).length_le
              simp only [List.length_cons]
              omega
            · simp at hname
      · simp at h

def scopeLookup (scopeVar name : Text) : Text :=
  scopeVar ++ '[' :: '\x22' :: name ++ ['\x22', ']']

def lowerWith (scopeVar : Text) : Text → Text
  | [] => []
  | c :: rest =>
    match _h : lexeme? (c :: rest) with
    | some (.literal t, behind) => t ++ lowerWith scopeVar behind
    | some (.reference name, behind) => scopeLookup scopeVar name ++ lowerWith scopeVar behind
    | none => c :: lowerWith scopeVar rest
termination_by t => t.length
decreasing_by
  · exact length_lt_of_lexeme? _h
  · exact length_lt_of_lexeme? _h
  · simp

def scopeVariable : Text := "__scope__".toList

def lower (expr : Text) : Text := lowerWith scopeVariable expr

/-! ## Steps of counting loops -/

def wholeIdent? (t : Text) : Option Text :=
  match Directive.ident? t with
  | some (name, []) => some name
  | _ => none

def increment? (step : Text) : Option (Text × Char) :=
  match step, step.reverse with
  | '+' :: '+' :: rest, _ => (wholeIdent? (rest.dropWhile Text.isBlank)).map (·, '+')
  | '-' :: '-' :: rest, _ => (wholeIdent? (rest.dropWhile Text.isBlank)).map (·, '-')
  | _, '+' :: '+' :: rest =>
    (wholeIdent? (rest.dropWhile Text.isBlank).reverse).map (·, '+')
  | _, '-' :: '-' :: rest =>
    (wholeIdent? (rest.dropWhile Text.isBlank).reverse).map (·, '-')
  | _, _ => none

def normalizeStep (step : Text) : Text :=
  let step := Text.strip step
  match increment? step with
  | some (name, sign) => name ++ ' ' :: sign :: "= 1".toList
  | none => step

end Stencil.Template
