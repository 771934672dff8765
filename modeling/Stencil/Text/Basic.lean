/-!
# Texts

A text is the list of its characters, so that positions and lengths count code points and every
function on texts is a recursion on the list.
-/

namespace Stencil

abbrev Text := List Char

instance : Coe String Text := ⟨String.toList⟩

namespace Text

def say (parts : List Text) : Text := parts.flatten

def inRanges (ranges : List (Nat × Nat)) (c : Char) : Bool :=
  ranges.any fun (first, last) => first ≤ c.toNat && c.toNat ≤ last

/-! ## Parts of a text -/

def after? : (head t : Text) → Option Text
  | [], t => some t
  | _ :: _, [] => none
  | h :: head, c :: rest => if h = c then after? head rest else none

@[simp] theorem after?_nil (t : Text) : after? [] t = some t := by cases t <;> rfl

theorem after?_eq_some_iff {head t rest : Text} :
    after? head t = some rest ↔ t = head ++ rest := by
  induction head generalizing t with
  | nil => simp [eq_comm]
  | cons h head ih =>
      cases t with
      | nil => simp [after?]
      | cons c t =>
          by_cases hc : h = c
          · simp [after?, hc, ih]
          · simp [after?, hc, Ne.symm hc]

def startsWith (head t : Text) : Bool := (after? head t).isSome

def endsWith (tail t : Text) : Bool := startsWith tail.reverse t.reverse

def cut? (needle : Text) : Text → Option (Text × Text)
  | [] => (after? needle []).map ([], ·)
  | c :: rest =>
    match after? needle (c :: rest) with
    | some behind => some ([], behind)
    | none => (cut? needle rest).map fun (before, behind) => (c :: before, behind)

theorem eq_append_of_cut? {needle t before behind : Text}
    (h : cut? needle t = some (before, behind)) : t = before ++ needle ++ behind := by
  induction t generalizing before with
  | nil =>
      simp only [cut?, Option.map_eq_some_iff, Prod.mk.injEq] at h
      obtain ⟨rest, hrest, rfl, rfl⟩ := h
      simpa using after?_eq_some_iff.1 hrest
  | cons c t ih =>
      simp only [cut?] at h
      split at h
      · next rest hrest =>
          obtain ⟨rfl, rfl⟩ := by simpa using h
          simpa using after?_eq_some_iff.1 hrest
      · obtain ⟨⟨before', behind'⟩, hcut, hpair⟩ := Option.map_eq_some_iff.1 h
        obtain ⟨rfl, rfl⟩ := by simpa using hpair
        simp [ih hcut]

theorem length_lt_of_cut? {needle t before behind : Text} (hne : needle ≠ [])
    (h : cut? needle t = some (before, behind)) : behind.length < t.length := by
  have hpos : 0 < needle.length := List.length_pos_iff.2 hne
  have := congrArg List.length (eq_append_of_cut? h)
  simp only [List.length_append] at this
  omega

def find? (needle t : Text) : Option Nat := (cut? needle t).map (·.1.length)

def splitOn (separator : Text) (hne : separator ≠ []) (t : Text) : List Text :=
  match _h : cut? separator t with
  | none => [t]
  | some (before, behind) => before :: splitOn separator hne behind
termination_by t.length
decreasing_by exact length_lt_of_cut? hne _h

def join (separator : Text) (parts : List Text) : Text := (parts.intersperse separator).flatten

def replaceAll (old : Text) (hne : old ≠ []) (new t : Text) : Text :=
  join new (splitOn old hne t)

def count (needle : Text) (hne : needle ≠ []) (t : Text) : Nat :=
  (splitOn needle hne t).length - 1

/-! ## Ends of a text -/

def stripLeft (drop : Char → Bool) (t : Text) : Text := t.dropWhile drop

def stripRight (drop : Char → Bool) (t : Text) : Text := (t.reverse.dropWhile drop).reverse

def stripBoth (drop : Char → Bool) (t : Text) : Text := stripRight drop (stripLeft drop t)

/-! ## Numbers as text -/

def ofNat (n : Nat) : Text := Nat.toDigits 10 n

def ofInt : Int → Text
  | .ofNat n => ofNat n
  | .negSucc n => '-' :: ofNat (n + 1)

/-- Expressions, templates and settings neither write nor read whole numbers with more decimal
digits. -/
def maxDigits : Nat := 4300

def padLeft (fill : Char) (width : Nat) (t : Text) : Text :=
  List.replicate (width - t.length) fill ++ t

def padRight (fill : Char) (width : Nat) (t : Text) : Text :=
  t ++ List.replicate (width - t.length) fill

/-- Order of texts by code point, shorter first when one continues the other. -/
def less : Text → Text → Bool
  | _, [] => false
  | [], _ :: _ => true
  | a :: s, b :: t => a < b || (a == b && less s t)

end Text

end Stencil
