import Stencil.Template.Span

/-!
# Balanced braces

The scan finds the brace that closes the one it starts at. Inside the braces a quoted string is
skipped: either quote opens it, the same quote closes it, and a backslash in it skips the next
character. A limit refuses braces nested deeper than that.
-/

namespace Stencil.Template

def isQuote (c : Char) : Bool := c == '\x27' || c == '\x22'

def readBefore (head : Text) : Option (Text × Text) → Option (Text × Text)
  | some (read, behind) => some (head ++ read, behind)
  | none => none

theorem readBefore_eq_some_iff {head read behind : Text} {r : Option (Text × Text)} :
    readBefore head r = some (read, behind) ↔
      ∃ tail, r = some (tail, behind) ∧ read = head ++ tail := by
  cases r with
  | none => simp [readBefore]
  | some found => grind [readBefore]

/-- Reads on at a depth, inside a string if a quote is given; returns what was read, the closing
brace included, and the rest. -/
def scanFrom (limit : Option Nat) : (depth : Nat) → (quote : Option Char) → Text →
    Option (Text × Text)
  | _, _, [] => none
  | depth, some q, '\\' :: rest =>
    match rest with
    | [] => none
    | c :: more => readBefore ['\\', c] (scanFrom limit depth (some q) more)
  | depth, some q, c :: rest =>
    readBefore [c] (scanFrom limit depth (if c = q then none else some q) rest)
  | depth, none, c :: rest =>
    if isQuote c && 0 < depth then readBefore [c] (scanFrom limit depth (some c) rest)
    else if c = '{' then
      if limit.any (· < depth + 1) then none
      else readBefore [c] (scanFrom limit (depth + 1) none rest)
    else if c = '}' then
      if depth = 1 then some ([c], rest)
      else readBefore [c] (scanFrom limit (depth - 1) none rest)
    else readBefore [c] (scanFrom limit depth none rest)

def balanced? (limit : Option Nat) (t : Text) : Option (Text × Text) := scanFrom limit 0 none t

theorem eq_append_of_scanFrom {limit : Option Nat} {depth : Nat} {quote : Option Char}
    {t read behind : Text} (h : scanFrom limit depth quote t = some (read, behind)) :
    t = read ++ behind ∧ read ≠ [] := by
  fun_induction scanFrom limit depth quote t generalizing read behind <;>
    grind [readBefore_eq_some_iff]

/-- A single placeholder admits one nested pair of braces. -/
def singleLimit : Nat := 2

def doubleInner? (read : Text) : Option Text :=
  if 4 ≤ read.length ∧ Text.endsWith ['}', '}'] read then
    some ((read.drop 2).take (read.length - 4))
  else none

def bracedPlaceholder? (valueSigil : Bool) (t : Text) : Option (Placeholder × Text) :=
  let double? : Option (Placeholder × Text) :=
    if Text.startsWith ['{', '{'] t then do
      let (read, behind) ← balanced? none t
      let inner ← doubleInner? read
      some (⟨.double, valueSigil, inner⟩, behind)
    else none
  double?.orElse fun _ => do
    let (read, behind) ← balanced? (some singleLimit) t
    let inner := (read.drop 1).take (read.length - 2)
    if inner.isEmpty then none else some (⟨.single, valueSigil, inner⟩, behind)

def placeholder? : Text → Option (Placeholder × Text)
  | '{' :: rest => bracedPlaceholder? false ('{' :: rest)
  | '$' :: '{' :: rest => bracedPlaceholder? true ('{' :: rest)
  | _ => none

theorem length_lt_of_balanced? {limit : Option Nat} {t read behind : Text}
    (h : balanced? limit t = some (read, behind)) : behind.length < t.length := by
  obtain ⟨rfl, hne⟩ := eq_append_of_scanFrom h
  have := List.length_pos_iff.2 hne
  simp only [List.length_append]
  omega

theorem length_lt_of_bracedPlaceholder? {sigil : Bool} {t behind : Text} {p : Placeholder}
    (h : bracedPlaceholder? sigil t = some (p, behind)) : behind.length < t.length := by
  simp only [bracedPlaceholder?, Option.orElse_eq_or, Option.or_eq_some_iff] at h
  rcases h with h | ⟨-, h⟩
  · split at h
    · simp only [Option.bind_eq_bind, Option.bind_eq_some_iff] at h
      obtain ⟨⟨read, rest⟩, hread, inner, -, hpair⟩ := h
      obtain ⟨-, rfl⟩ := by simpa using hpair
      exact length_lt_of_balanced? hread
    · simp at h
  · simp only [Option.bind_eq_bind, Option.bind_eq_some_iff] at h
    obtain ⟨⟨read, rest⟩, hread, hpair⟩ := h
    split at hpair
    · simp at hpair
    · obtain ⟨-, rfl⟩ := by simpa using hpair
      exact length_lt_of_balanced? hread

theorem length_lt_of_placeholder? {t behind : Text} {p : Placeholder}
    (h : placeholder? t = some (p, behind)) : behind.length < t.length := by
  unfold placeholder? at h
  split at h
  · exact length_lt_of_bracedPlaceholder? h
  · have := length_lt_of_bracedPlaceholder? h
    simp only [List.length_cons] at this ⊢
    omega
  · simp at h

end Stencil.Template
