import Mathlib
import Stencil.Expr.Parser
import Stencil.Proofs.Text.Digits

/-!
# Whole numbers in expressions

A whole number that is written in decimal digits is read as a constant, and behind a minus sign as
the negation of one. The number of its digits is bounded.
-/

namespace Stencil

/-! ## Digits -/

namespace Text

theorem universalNewlines_eq_self {t : Text} (h : '\r' ∉ t) : universalNewlines t = t := by
  fun_induction universalNewlines t with
  | case1 => rfl
  | case2 | case3 => simp at h
  | case4 c rest _ _ ih => rw [ih fun hmem => h (.tail _ hmem)]

theorem foldl_ofNat (n : Nat) :
    (ofNat n).foldl (fun n c => 10 * n + Number.alphaDigit c) 0 = n := by
  have hfold {digits : Text} (h : ∀ c ∈ digits, c.isDigit = true) (n : Nat) :
      digits.foldl (fun n c => 10 * n + Number.alphaDigit c) n = Nat.ofDigitChars 10 digits n := by
    induction digits generalizing n with
    | nil => rfl
    | cons c digits ih =>
        rw [List.foldl_cons, Number.alphaDigit, if_pos (h c (.head _)),
          ih fun d hd => h d (.tail _ hd)]
        rfl
  rw [hfold fun c hc => isDigit_of_mem_ofNat hc, ofNat, Nat.ofDigitChars_ten_toDigits]

theorem head?_ofNat {n : Nat} (h : n ≠ 0) : (ofNat n).head? ≠ some '0' := by
  induction n using Nat.strongRecOn with
  | ind n ih =>
      by_cases hlt : n < 10
      · have hdigit : ∀ n < 10, n ≠ 0 → [Nat.digitChar n].head? ≠ some '0' := by decide
        rw [ofNat, Nat.toDigits_of_lt_base hlt]
        exact hdigit n hlt h
      · have hne : n / 10 ≠ 0 := by omega
        have hdigits : ofNat n = ofNat (n / 10) ++ [Nat.digitChar (n % 10)] :=
          Nat.toDigits_of_base_le (by decide) (Nat.le_of_not_lt hlt)
        rw [hdigits, List.head?_append_of_ne_nil _ (ofNat_ne_nil _)]
        exact ih (n / 10) (by omega) hne

end Text

/-! ## Tokens -/

namespace Token

theorem digitTail_of_isDigit {t : Text} (h : ∀ c ∈ t, c.isDigit = true) :
    Number.digitTail Char.isDigit t = (t, []) := by
  fun_induction Number.digitTail Char.isDigit t with
  | case1 => rfl
  | case2 c rest _ ds behind hread ih => simpa using h '_' (.head _)
  | case3 => simpa using h '_' (.head _)
  | case4 c rest _ hc ds behind hread ih =>
      have hrest := ih fun d hd => h d (.tail _ hd)
      rw [hread, Prod.mk.injEq] at hrest
      rw [hrest.1, hrest.2]
  | case5 c rest _ hc => exact absurd (h c (.head _)) hc

theorem digitRun?_ofNat (n : Nat) :
    Number.digitRun? Char.isDigit (Text.ofNat n) = some (Text.ofNat n, []) := by
  have hdigits {c : Char} (hc : c ∈ Text.ofNat n) := Text.isDigit_of_mem_ofNat hc
  cases hn : Text.ofNat n with
  | nil => exact absurd hn (Text.ofNat_ne_nil n)
  | cons c rest =>
      rw [hn] at hdigits
      rw [Number.digitRun?, if_pos (hdigits (.head _)),
        digitTail_of_isDigit fun d hd => hdigits (.tail _ hd)]

/-- A number that an expression can hold. -/
def Writable (n : Int) : Prop := (Text.ofNat n.natAbs).length ≤ Text.maxDigits

instance : DecidablePred Writable := fun n =>
  inferInstanceAs (Decidable ((Text.ofNat n.natAbs).length ≤ Text.maxDigits))

theorem wholeNumber?_ofNat {n : Nat} (h : Writable n) :
    wholeNumber? (Text.ofNat n) = some (.int n) := by
  have hzero : ((Text.ofNat n).head? == some '0' && (Text.ofNat n).any (· != '0')) = false := by
    by_cases hn : n = 0
    · subst hn
      decide
    · rw [beq_eq_false_iff_ne.mpr (Text.head?_ofNat hn), Bool.false_and]
  have hlength : ¬ Text.maxDigits < (Text.ofNat n).length := Nat.not_lt_of_le h
  rw [wholeNumber?, hzero, Bool.false_or, if_neg (by simpa using hlength), Number.digitsToNat,
    Text.foldl_ofNat]

theorem baseMark?_ofNat (n : Nat) : Number.baseMark? (Text.ofNat n) = none := by
  unfold Number.baseMark?
  split
  · next mark rest hn =>
      have hmark : mark.isDigit = true := Text.isDigit_of_mem_ofNat (n := n) (by simp [hn])
      have hne (c : Char) (hc : c.isDigit = false) : mark ≠ c := by
        rintro rfl
        rw [hc] at hmark
        cases hmark
      simp [hne 'x' rfl, hne 'X' rfl, hne 'o' rfl, hne 'O' rfl, hne 'b' rfl, hne 'B' rfl]
  · rfl

theorem number?_ofNat {n : Nat} (h : Writable n) :
    number? (Text.ofNat n) = some (.int n, []) := by
  have htail : decimalTail? (Text.ofNat n) [] = some (.int n, []) := by
    simp [decimalTail?, exponent?, wholeNumber?_ofNat h]
  simp [number?, baseMark?_ofNat, digitRun?_ofNat, htail, numberEnds]

def integer : Int → List Token
  | .ofNat n => [.number (.int n)]
  | .negSucc n => [.mark "-".toList, .number (.int (n + 1))]

/-! ## Sequences of tokens -/

section

variable {c : Char} {rest behind : Text} {token : Token} {depth depth' : Nat}

theorem sequence?_space (depth : Nat) (rest : Text) :
    sequence? depth (' ' :: rest) = sequence? depth rest := by
  rw [sequence?.eq_def]
  exact if_pos rfl

def separates (c : Char) : Bool := isSpace c || c == '\n' || c == '#' || c == '\\'

theorem sequence?_cons (hc : separates c = false)
    (hfirst : first? (c :: rest) = some (token, behind))
    (hshorter : behind.length < rest.length + 1) (hdepth : depthAfter? depth token = some depth') :
    sequence? depth (c :: rest) = (sequence? depth' behind).map (token :: ·) := by
  simp only [separates, Bool.or_eq_false_iff, beq_eq_false_iff_ne] at hc
  obtain ⟨⟨⟨hspace, hline⟩, hcomment⟩, hjoin⟩ := hc
  rw [sequence?.eq_def]
  simp only [hspace, Bool.false_eq_true, if_false, if_neg hline, if_neg hcomment, if_neg hjoin,
    hfirst]
  rw [dif_pos hshorter, hdepth]
  rw [Option.bind_eq_bind, Option.bind_some]
  cases sequence? depth' behind <;> rfl

theorem sequence?_ofNat {n : Nat} (h : Writable n) :
    sequence? 0 (Text.ofNat n) = some [.number (.int n)] := by
  have hnumber := number?_ofNat h
  have hdigits {c : Char} (hc : c ∈ Text.ofNat n) := Text.isDigit_of_mem_ofNat hc
  cases hn : Text.ofNat n with
  | nil => exact absurd hn (Text.ofNat_ne_nil n)
  | cons c rest =>
      rw [hn] at hnumber hdigits
      have hc := hdigits (.head _)
      have hplain : separates c = false := by
        obtain ⟨hlow, hhigh⟩ := Char.isDigit_iff_toNat.1 hc
        rw [Bool.eq_false_iff]
        intro hsep
        simp only [separates, isSpace, Bool.or_eq_true, beq_iff_eq] at hsep
        rcases hsep with ((((rfl | rfl) | rfl) | rfl) | rfl) | rfl <;> revert hlow hhigh <;> decide
      have hfirst : first? (c :: rest) = some (.number (.int n), []) := by
        rw [first?, hc, Bool.true_or, if_pos rfl, hnumber]
        rfl
      rw [sequence?_cons hplain hfirst (Nat.succ_pos _) rfl, sequence?]
      rfl

theorem first?_mark {m : Char} (hm : m = '<' ∨ m = '>' ∨ m = '-') {t : Text}
    (ht : ∀ c ∈ t.head?, c = '-' ∨ c.isDigit = true) : first? (m :: t) = some (.mark [m], t) := by
  cases t with
  | nil => rcases hm with rfl | rfl | rfl <;> rfl
  | cons c rest =>
      have hne (d : Char) (hminus : d ≠ '-') (hdigit : d.isDigit = false) : d ≠ c := by
        rintro rfl
        rcases ht d rfl with rfl | hd
        · exact hminus rfl
        · rw [hd] at hdigit
          cases hdigit
      have hequals := hne '=' (by decide) rfl
      have hless := hne '<' (by decide) rfl
      have hgreater := hne '>' (by decide) rfl
      rcases hm with rfl | rfl | rfl <;>
        simp [first?, isQuote, joinsName, markToken?, marks, Text.after?, hequals, hless, hgreater]

theorem sequence?_mark {m : Char} (hm : m = '<' ∨ m = '>' ∨ m = '-') {t : Text}
    (ht : ∀ c ∈ t.head?, c = '-' ∨ c.isDigit = true) :
    sequence? 0 (m :: t) = (sequence? 0 t).map (.mark [m] :: ·) := by
  refine sequence?_cons ?_ (first?_mark hm ht) (Nat.lt_succ_self _) ?_ <;>
    rcases hm with rfl | rfl | rfl <;> rfl

theorem head?_ofNat (n : Nat) : ∀ c ∈ (Text.ofNat n).head?, c = '-' ∨ c.isDigit = true :=
  fun _ hc => .inr (Text.isDigit_of_mem_ofNat (List.mem_of_mem_head? hc))

theorem head?_ofInt (n : Int) : ∀ c ∈ (Text.ofInt n).head?, c = '-' ∨ c.isDigit = true := by
  cases n with
  | ofNat n => exact head?_ofNat n
  | negSucc n =>
      rintro c ⟨⟩
      exact .inl rfl

theorem sequence?_ofInt {n : Int} (h : Writable n) :
    sequence? 0 (Text.ofInt n) = some (integer n) := by
  cases n with
  | ofNat n => exact sequence?_ofNat h
  | negSucc n =>
      have hnumber : sequence? 0 (Text.ofNat (n + 1)) = some [.number (.int (n + 1))] :=
        sequence?_ofNat h
      rw [Text.ofInt, sequence?_mark (.inr (.inr rfl)) (head?_ofNat (n + 1)), hnumber]
      rfl

theorem ofText?_eq_sequence? {t : Text} (h : '\r' ∉ t) : ofText? t = sequence? 0 t := by
  rw [ofText?, Text.universalNewlines_eq_self h]

end

end Token

/-! ## Expressions -/

open Token (Writable)

theorem Text.notMem_ofNat {c : Char} (h : c.isDigit = false) (n : Nat) : c ∉ Text.ofNat n := by
  intro hmem
  rw [Text.isDigit_of_mem_ofNat hmem] at h
  cases h

theorem Text.notMem_ofInt {c : Char} (h : c.isDigit = false) (hminus : c ≠ '-') (n : Int) :
    c ∉ Text.ofInt n := by
  cases n with
  | ofNat n => exact Text.notMem_ofNat h n
  | negSucc n => exact List.not_mem_cons_of_ne_of_not_mem hminus (Text.notMem_ofNat h (n + 1))

namespace Expr

def integer : Int → Expr
  | .ofNat n => .constant (.int n)
  | .negSucc n => .folded (.unary .negate (.constant (.int (n + 1))))

theorem exists_fuelFor (t : Text) : ∃ f, fuelFor t = f + 32 :=
  ⟨32 * (t.length + 1), by rw [fuelFor]; omega⟩

theorem ofText?_ofInt {n : Int} (h : Writable n) :
    ofText? (Text.ofInt n) = some (integer n) := by
  have htokens : Token.ofText? (Text.ofInt n) = some (Token.integer n) := by
    rw [Token.ofText?_eq_sequence? (Text.notMem_ofInt rfl (by decide) n), Token.sequence?_ofInt h]
  obtain ⟨f, hf⟩ := exists_fuelFor (Text.ofInt n)
  rw [ofText?, htokens, hf]
  cases n <;> cbv

end Expr

/-! ## Counting -/

inductive Direction where
  | up
  | down
deriving DecidableEq, Repr

namespace Direction

def sign : Direction → Char
  | up => '+'
  | down => '-'

def relation : Direction → Char
  | up => '<'
  | down => '>'

def compareOp : Direction → CompareOp
  | up => .less
  | down => .greater

def binaryOp : Direction → BinaryOp
  | up => .add
  | down => .subtract

end Direction

section

variable (d : Direction)

theorem Token.sequence?_i {c : Char} (hc : c ∈ ['<', '>', '+', '-', ' ']) (rest : Text) :
    Token.sequence? 0 ('i' :: c :: rest) =
      (Token.sequence? 0 (c :: rest)).map (.name "i".toList :: ·) := by
  refine Token.sequence?_cons rfl ?_ (Nat.lt_succ_self (rest.length + 1)) rfl
  simp only [List.mem_cons, List.not_mem_nil, or_false] at hc
  rcases hc with rfl | rfl | rfl | rfl | rfl <;> rfl

theorem Token.sequence?_update (rest : Text) : Token.sequence? 0 (d.sign :: '=' :: rest) =
    (Token.sequence? 0 rest).map (.mark [d.sign, '='] :: ·) := by
  cases d <;> exact Token.sequence?_cons rfl rfl (Nat.lt_succ_of_lt (Nat.lt_succ_self _)) rfl

theorem Expr.ofText?_comparison {n : Int} (h : Writable n) :
    Expr.ofText? ('i' :: d.relation :: Text.ofInt n) =
      some (.compare (.name "i".toList) [(d.compareOp, integer n)]) := by
  have hreturn : '\r' ∉ 'i' :: d.relation :: Text.ofInt n := by
    have := Text.notMem_ofInt (c := '\r') rfl (by decide) n
    cases d <;> simpa [Direction.relation]
  have htokens : Token.ofText? ('i' :: d.relation :: Text.ofInt n) =
      some (.name "i".toList :: .mark [d.relation] :: Token.integer n) := by
    rw [Token.ofText?_eq_sequence? hreturn, Token.sequence?_i (by cases d <;> decide),
      Token.sequence?_mark (by cases d <;> decide) (Token.head?_ofInt n), Token.sequence?_ofInt h]
    rfl
  obtain ⟨f, hf⟩ := exists_fuelFor ('i' :: d.relation :: Text.ofInt n)
  rw [ofText?, htokens, hf]
  cases d <;> cases n <;> cbv

theorem Statement.ofText?_of_tokens {t : Text} {n : Nat} (hreturn : '\r' ∉ t)
    (htokens : Token.sequence? 0 t =
      some [.name "i".toList, .mark [d.sign, '='], .number (.int n)]) :
    Statement.ofText? t = some [.update (.name "i".toList) d.binaryOp (.constant (.int n))] := by
  obtain ⟨f, hf⟩ := Expr.exists_fuelFor t
  rw [ofText?, Token.ofText?_eq_sequence? hreturn, htokens, hf]
  cases d <;> cbv

theorem Statement.ofText?_update {n : Nat} (h : Writable n) :
    Statement.ofText? ('i' :: d.sign :: '=' :: Text.ofNat n) =
      some [.update (.name "i".toList) d.binaryOp (.constant (.int n))] := by
  refine ofText?_of_tokens d ?_ ?_
  · have := Text.notMem_ofNat (c := '\r') rfl n
    cases d <;> simpa [Direction.sign]
  · rw [Token.sequence?_i (by cases d <;> decide), Token.sequence?_update, Token.sequence?_ofNat h]
    rfl

theorem Statement.ofText?_increment :
    Statement.ofText? ('i' :: ' ' :: d.sign :: '=' :: ' ' :: Text.ofNat 1) =
      some [.update (.name "i".toList) d.binaryOp (.constant (.int 1))] := by
  have hone : Token.sequence? 0 (Text.ofNat 1) = some [.number (.int 1)] :=
    Token.sequence?_ofNat (by decide)
  refine ofText?_of_tokens d (by cases d <;> decide) ?_
  rw [Token.sequence?_i (by decide), Token.sequence?_space, Token.sequence?_update,
    Token.sequence?_space, hone]
  rfl

end

end Stencil
