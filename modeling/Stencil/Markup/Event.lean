import Stencil.Markup.Node
import Stencil.Markup.Reference
import Stencil.Text.Blank
import Stencil.Text.Case

/-!
# Markup as events

A markup text is read from left to right as a sequence of tags, texts and other items. Reading
never fails on loose markup: what is not well formed is text. Only a marked section of an unknown
kind makes the whole text unreadable.

A construct whose end is missing can only be judged when the text is known to be complete, so the
first such place switches to a second way of reading, in which it is text.
-/

namespace Stencil.Markup

inductive Event where
  | start (name : Text) (attributes : List (Text × Text)) (selfClosing : Bool)
  | finish (name : Text)
  | text (t : Text)
  | special (kind : Special) (t : Text)
deriving DecidableEq, Repr

inductive Scanned where
  /-- Events, and how many characters they take. -/
  | found (events : List Event) (used : Nat)
  /-- A construct whose end is missing. -/
  | unfinished
  /-- A reference that only the end of the text can end: a part of it may be known to be text,
  and another part may be dropped at the end. -/
  | undecided (known dropped : Nat)
  | rejected

def run (p : Char → Bool) (t : Text) : Nat := (t.takeWhile p).length

/-! ## Start tags -/

def isLetter (c : Char) : Bool := c.isAlpha

def isTagNameChar (c : Char) : Bool := !"\t\n\r\x0c />\x00".toList.contains c

/-- How many blanks and slashes a text starts with; the slash of a closing bracket stays. -/
def gap : Text → Nat
  | [] => 0
  | c :: rest => if Text.isBlank c || (c = '/' && rest.head? != some '>') then gap rest + 1 else 0

def lastOf (before : Char) (n : Nat) (t : Text) : Char := (t.take n).getLast?.getD before

def quoted? : Text → Option Text
  | q :: rest =>
    if q = '\'' ∨ q = '"' then
      let inside := rest.takeWhile (· != q)
      if inside.length < rest.length then some inside else none
    else none
  | [] => none

def isBareChar (c : Char) : Bool := c != '>' && !Text.isBlank c

/-- The value behind the name of an attribute, and how many characters it takes together with what
leads to it. A quote that is never closed is no value: blanks before it stand for an empty one, and
of several equals signs the last one starts a bare one. -/
def value? (t : Text) : Option (Text × Nat) :=
  let blanks := run Text.isBlank t
  let signs := run (· == '=') (t.drop blanks)
  let more := run Text.isBlank (t.drop (blanks + signs))
  let used := blanks + signs + more
  let behind := t.drop used
  if signs = 0 then none
  else match quoted? behind with
    | some v => some (v, used + v.length + 2)
    | none =>
      if behind.head? == some '\'' || behind.head? == some '"' then
        if 0 < more then some ([], used - 1)
        else if 1 < signs then
          let v := '=' :: behind.takeWhile isBareChar
          some (v, used - 1 + v.length)
        else none
      else
        let v := behind.takeWhile isBareChar
        some (v, used + v.length)

/-- A name can only start behind a quote, a blank or a slash. -/
def opensName (before : Char) : Bool :=
  before == '\'' || before == '"' || before == '/' || Text.isBlank before

def isNameChar (c : Char) : Bool := c != '/' && c != '=' && c != '>' && !Text.isBlank c

def attribute? (before : Char) (t : Text) : Option ((Text × Text) × Nat) :=
  match t with
  | [] => none
  | c :: rest =>
    if opensName before && (isNameChar c || c == '=') then
      let name := c :: rest.takeWhile isNameChar
      let value := value? (t.drop name.length)
      let used := name.length + (value.map (·.2)).getD 0
      some ((Text.lower name, resolve ((value.map (·.1)).getD [])), used + gap (t.drop used))
    else none

def attributes (before : Char) : Text → List (Text × Text) × Text
  | [] => ([], [])
  | c :: rest =>
    match attribute? before (c :: rest) with
    | some (a, used) =>
      let others := attributes (lastOf before used (c :: rest)) (rest.drop (used - 1))
      (a :: others.1, others.2)
    | none => ([], c :: rest)
termination_by t => t.length
decreasing_by simp only [List.length_drop, List.length_cons]; omega

def rawContent? (name : Text) : Text → Option (Text × Nat)
  | [] => none
  | c :: rest =>
    let behind := (rest.drop 1).drop (run Text.isBlank (rest.drop 1))
    let closing := (behind.drop name.length).drop (run Text.isBlank (behind.drop name.length))
    if c = '<' ∧ rest.head? = some '/' ∧ (behind.take name.length).map Char.toLower = name ∧
        closing.head? = some '>' then
      some ([], rest.length + 1 - (closing.length - 1))
    else (rawContent? name rest).map fun (content, used) => (c :: content, used + 1)

def textEvents (t : Text) : List Event := if t.isEmpty then [] else [.text t]

/-- A start tag, with its content and end tag if it is raw. Raw content without an end is lost. -/
def startTag (t : Text) : Scanned :=
  let name := (t.drop 1).takeWhile isTagNameChar
  let behind := t.drop (name.length + 1)
  let skipped := gap behind
  let (attrs, rest) := attributes (lastOf (name.getLast?.getD '<') skipped behind)
    (behind.drop skipped)
  let used := t.length - rest.length
  let tag := Text.lower name
  match rest with
  | [] => .unfinished
  | '>' :: content =>
    if Element.rawNames.contains tag then
      match rawContent? tag content with
      | some (inside, n) =>
        .found (.start tag attrs false :: textEvents inside ++ [.finish tag]) (used + 1 + n)
      | none => .found [.start tag attrs false] t.length
    else .found [.start tag attrs false] (used + 1)
  | '/' :: '>' :: _ => .found [.start tag attrs true] (used + 2)
  | c :: _ =>
    if isLetter c || c == '=' || c == '/' then .unfinished else .found [.text (t.take used)] used

/-! ## Other tags -/

def upToBracket (opening : Nat) (t : Text) (events : Text → List Event) : Scanned :=
  let inside := (t.drop opening).takeWhile (· != '>')
  if opening + inside.length < t.length then .found (events inside) (opening + inside.length + 1)
  else .unfinished

def bogusComment (t : Text) : Scanned := upToBracket 2 t fun inside => [.special .comment inside]

def isEndNameChar (c : Char) : Bool := c.isAlphanum || "-.:_".toList.contains c

/-- An end tag. A name can stand behind blanks if nothing but blanks follows it. -/
def endTag (t : Text) : Scanned :=
  let inside := t.drop 2
  let strict := inside.drop (run Text.isBlank inside)
  let name := strict.takeWhile isEndNameChar
  let closing := (strict.drop name.length).drop (run Text.isBlank (strict.drop name.length))
  if !t.contains '>' then .unfinished
  else if (name.head?.map isLetter).getD false && closing.head? == some '>' then
    .found [.finish (Text.lower name)] (t.length - (closing.length - 1))
  else if (inside.head?.map isLetter).getD false then
    upToBracket 2 t fun _ => [.finish (Text.lower (inside.takeWhile isTagNameChar))]
  else if inside.head? == some '>' then .found [] 3
  else bogusComment t

/-- The text before the first place that ends an item, and how many characters both take. Such a
place is the given text, blanks, and a closing bracket. -/
def upToClosing? (closing : List Char) : Text → Option (Text × Nat)
  | [] => none
  | c :: rest =>
    let rec ends : List Char → Text → Option Text
      | [], t => some t
      | d :: ds, t =>
        match t.drop (run Text.isBlank t) with
        | e :: more => if d = e then ends ds more else none
        | [] => none
    match closing with
    | d :: ds =>
      match if c = d then ends ds rest else none with
      | some behind => some ([], rest.length + 1 - behind.length)
      | none => (upToClosing? closing rest).map fun (inside, used) => (c :: inside, used + 1)
    | [] => none

def commentEnd? : Text → Option (Text × Nat)
  | [] => none
  | c :: rest =>
    let closing := (rest.drop 1).drop (run Text.isBlank (rest.drop 1))
    if c = '-' ∧ rest.head? = some '-' ∧ closing.head? = some '>' then
      some ([], rest.length + 1 - (closing.length - 1))
    else (commentEnd? rest).map fun (inside, used) => (c :: inside, used + 1)

def comment (t : Text) : Scanned :=
  match commentEnd? (t.drop 4) with
  | some (inside, used) => .found [.special .comment inside] (used + 4)
  | none => .unfinished

def isSectionNameChar (c : Char) : Bool := c.isAlphanum || "-_.".toList.contains c

def sectionNames : List Text := ["temp", "cdata", "ignore", "include", "rcdata"].map String.toList

def conditionNames : List Text := ["if", "else", "endif"].map String.toList

def sectionEvent (inside : Text) : Event :=
  let word := "cdata[".toList
  if (inside.take word.length).map Char.toLower = word then
    .special .rawText (inside.drop word.length)
  else .special .declaration inside

def markedSection (t : Text) : Scanned :=
  let inside := t.drop 3
  let word := inside.takeWhile isSectionNameChar
  let behind := (inside.drop word.length).drop (run Text.isBlank (inside.drop word.length))
  let name := Text.lower word
  let found (r : Option (Text × Nat)) : Scanned :=
    match r with
    | some (content, used) => .found [sectionEvent content] (used + 3)
    | none => .unfinished
  if inside.isEmpty then .unfinished
  else if !(word.head?.map isLetter).getD false then .rejected
  else if behind.isEmpty then .unfinished
  else if sectionNames.contains name then found (upToClosing? [']', ']', '>'] inside)
  else if conditionNames.contains name then found (upToClosing? [']', '>'] inside)
  else .rejected

def declaration (t : Text) : Scanned :=
  let word := "<!doctype".toList
  if Text.startsWith "<![".toList t then markedSection t
  else if (t.take word.length).map Char.toLower = word then
    upToBracket word.length t fun inside => [.special .doctype (inside.drop 1)]
  else bogusComment t

def bracket (t : Text) : Scanned :=
  match t.drop 1 with
  | [] => .undecided 0 0
  | c :: rest =>
    if isLetter c then startTag t
    else if c = '/' then endTag t
    else if c = '!' then if Text.startsWith ['-', '-'] rest then comment t else declaration t
    else if c = '?' then upToBracket 2 t fun inside => [.special .instruction inside]
    else .found [.text ['<']] 1

/-! ## References -/

def numberEnd? (isDigit : Char → Bool) (t : Text) : Option Text :=
  let digits := t.takeWhile isDigit
  match t.drop digits.length with
  | c :: _ => if digits.isEmpty || Text.isHexDigit c then none else some digits
  | [] => none

/-- A reference by number. One that is none is text if a semicolon follows anywhere. -/
def numberReference (t : Text) : Scanned :=
  let inside := t.drop 2
  let isHex := inside.head? == some 'x' || inside.head? == some 'X'
  let digits? := if isHex then numberEnd? Text.isHexDigit (inside.drop 1)
    else numberEnd? Char.isDigit inside
  match digits? with
  | some digits =>
    let number := if isHex then Text.hexNumber digits else decimalNumber digits
    let used := 2 + (if isHex then 1 else 0) + digits.length
    .found [.text [numberedCharacter number]] (used + semicolons (t.drop used))
  | none => .undecided (if t.contains ';' then 2 else 0) 0

def isEntityChar (c : Char) : Bool := c.isAlphanum || c == '-' || c == '.'

/-- The name at the start of a text. It needs a character behind it that is no letter and no
digit; if the text ends first, that is the last hyphen or point in it. -/
def entityName? (t : Text) : Option Text :=
  let name := t.takeWhile isEntityChar
  if name.length < t.length then some name
  else
    let shorter := (name.reverse.dropWhile Char.isAlphanum).drop 1
    if shorter.isEmpty then none else some shorter.reverse

/-- A reference by name. An unknown name is text and loses its semicolon. -/
def nameReference (t : Text) : Scanned :=
  match entityName? (t.drop 1) with
  | some name =>
    let used := name.length + 1
    let found := match Entity.ofName? name with
      | some e => e.text
      | none => '&' :: name
    .found [.text found] (used + semicolons (t.drop used))
  | none => .undecided 0 (if t.length = 2 then 1 else 0)

def ampersand (t : Text) : Scanned :=
  match t.drop 1 with
  | [] => .undecided 0 0
  | c :: _ =>
    if c = '#' then numberReference t
    else if isLetter c then nameReference t
    else .found [.text ['&']] 1

/-! ## Whole texts -/

def scan (t : Text) : Scanned :=
  match t.head? with
  | some '<' => bracket t
  | some '&' => ampersand t
  | _ =>
    let plain := t.takeWhile fun c => c != '<' && c != '&'
    .found [.text plain] plain.length

def unfinishedLength (t : Text) : Nat :=
  let rest := t.drop 1
  let upTo (c : Char) := run (· != c) rest
  if rest.contains '>' then upTo '>' + 2
  else if rest.contains '<' then upTo '<' + 1
  else 1

def eventsFrom (complete : Bool) (t : Text) : Option (List Event) :=
  match _h : t with
  | [] => some []
  | _ :: rest =>
    match scan t with
    | .found found used => (eventsFrom complete (rest.drop (used - 1))).map (found ++ ·)
    | .unfinished =>
      if complete then
        let n := unfinishedLength t
        (eventsFrom true (rest.drop (n - 1))).map (.text (t.take n) :: ·)
      else eventsFrom true t
    | .undecided known dropped =>
      let head := textEvents (t.take known)
      if complete then some (head ++ textEvents ((t.drop known).drop dropped))
      else (eventsFrom true (t.drop known)).map (head ++ ·)
    | .rejected => none
termination_by 2 * t.length + (!complete).toNat
decreasing_by all_goals grind

def events (t : Text) : Option (List Event) := eventsFrom false t

end Stencil.Markup
