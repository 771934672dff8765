import Stencil.Expr.Token
import Stencil.Format.Field
import Stencil.Text.Search
import Stencil.Eval.Iterate
import Stencil.Eval.Member

/-!
# Methods of texts
-/

namespace Stencil.Eval

def methodName (type : String) (n : Text) : Text := type.toList ++ '.' :: n

def textOr (complain : Text → Fault) (v : Value) : Eval Text := do
  match v with
  | .str t _ => return t
  | _ => fault (complain (← typeName v))

def windowArguments (rest : List Value) : Eval (Option Int × Option Int) := do
  match rest with
  | [] => return (none, none)
  | [a] => return (← sliceBound a, none)
  | a :: b :: _ => return (← sliceBound a, ← sliceBound b)

/-- Searches for a text in a part of another; positions count from the start of the whole. -/
def findIn (search : Text → Text → Option Nat) (t : Text) (args : List Value) :
    Eval (Option Nat) := do
  match args with
  | [] => return none
  | v :: rest =>
    let needle ← textOr .mustBeText v
    let (start, stop) ← windowArguments rest
    match Text.window t start stop with
    | some (part, first) => return (search needle part).map (first + ·)
    | none => return none

def indexOfText (search : Text → Text → Option Nat) (t : Text) (args : List Value) :
    Eval Value := do
  match ← findIn search t args with
  | some i => newInt i
  | none => fault .substringNotFound

def countIn (t : Text) (args : List Value) : Eval Nat := do
  match args with
  | [] => return 0
  | v :: rest =>
    let needle ← textOr .mustBeText v
    let (start, stop) ← windowArguments rest
    match Text.window t start stop with
    | some (part, _) => return Text.occurrences needle part
    | none => return 0

def endIn (function : Text) (test : Text → Text → Bool) (t : Text) (args : List Value) :
    Eval Bool := do
  match args with
  | [] => return false
  | v :: rest =>
    let (start, stop) ← windowArguments rest
    let holds (needle : Text) : Bool := match Text.window t start stop with
      | some (part, _) => test needle part
      | none => false
    match v with
    | .str needle _ => return holds needle
    | .tuple items _ =>
      let needles ← items.mapM (textOr fun type => ⟨.type,
        Text.say ["tuple for ", function, " must only contain str, not ", type]⟩)
      return needles.any holds
    | _ => fault (.headNeedsText function (← typeName v))

def stripArgument (function : Text) (args : List Value) : Eval (Char → Bool) := do
  match args with
  | [] | [.none] => return Text.isBlank
  | .str t _ :: _ => return fun c => t.contains c
  | _ => fault (.stripNeedsText function)

def separator? (given : Option Value) : Eval (Option Text) := do
  match given with
  | some (.str [] _) => fault .emptySeparator
  | some (.str t _) => return some t
  | none | some .none => return none
  | some v => fault (.separatorNeedsText (← typeName v))

def splitArguments (function : Text) (args : Arguments) :
    Eval (Option Text × Option Nat) := do
  let given ← takeNamed function ["sep", "maxsplit"] args
  let times ← match given with
    | [_, some v] => toIndex v
    | _ => pure (-1)
  return (← separator? (given.headD none), if times < 0 then none else some times.toNat)

def newTexts (ts : List Text) : Eval Value := do
  let items ← ts.mapM newText
  newList items

def fillArguments (function : Text) (args : Arguments) : Eval (Nat × Char) := do
  match ← takeBetween function 1 2 args with
  | [w] => return ((← toIndex w).toNat, ' ')
  | [w, .str [c] _] => return ((← toIndex w).toNat, c)
  | [_, .str _ _] => fault .fillNeedsOne
  | [_, v] => fault (.fillNeedsText (← typeName v))
  | _ => return (0, ' ')

def partition (found : Option (Text × Text)) (separator : Value) (missing : Text × Text × Text) :
    Eval Value := do
  match found with
  | some (before, behind) =>
    newTuple [← newText before, separator, ← newText behind]
  | none =>
    let (a, b, c) := missing
    newTuple [← newText a, ← newText b, ← newText c]

def joinTexts (separator : Text) (items : List Value) : Eval Value := do
  let parts ← items.zipIdx.mapM fun (v, i) => textOr (.notTextItem i) v
  newText (Text.join separator parts)

/-! ## Formats -/

def fieldSource (args : List Value) (named : Text → Eval Value) : Format.Source → Eval Value
  | .named n => named n
  | .position i =>
    match args[i]? with
    | some v => pure v
    | none => fault (.replacementOutOfRange i)

def fieldStep (v : Value) : Format.Step → Eval Value
  | .member n => getMember v n
  | .item i => getItem v (.ofInt i .shared)
  | .key n => getItem v (.ofText n .shared)

def fetchField (args : List Value) (named : Text → Eval Value) (path : Format.Path) :
    Eval Datum := do
  let v ← path.steps.foldlM fieldStep (← fieldSource args named path.source)
  match path.mistake with
  | some f => fault f
  | none => datum v

def formatText (t : Text) (args : List Value) (named : Text → Eval Value) : Eval Value := do
  let (shown, _) ← Format.fill (m := Eval) fault Format.writeDatum (fetchField args named)
    Format.maxDepth .undecided t
  newText shown

def namedArgument (named : List (Text × Value)) (n : Text) : Eval Value :=
  match named.lookup n with
  | some v => pure v
  | none => fault (.missingKey (Text.quoted n))

/-! ## Methods -/

def plainTextMethod? (n : String) (t : Text) : Option (Eval Value) :=
  let flag (b : Bool) : Option (Eval Value) := some (pure (.bool b))
  let all (p : Char → Bool) := flag (!t.isEmpty && t.all p)
  match n with
  | "capitalize" => some (newText (Text.capitalize t))
  | "casefold" | "lower" => some (newText (Text.lower t))
  | "upper" => some (newText (Text.upper t))
  | "title" => some (newText (Text.title t))
  | "swapcase" => some (newText (Text.swapCase t))
  | "isalnum" => all fun c => Text.isLetter c || Text.isDigitLike c
  | "isalpha" => all Text.isLetter
  | "isascii" => flag (t.all (·.toNat < 128))
  | "isdecimal" => all Text.isDecimalDigit
  | "isdigit" | "isnumeric" => all Text.isDigitLike
  | "isidentifier" => flag (Token.isName t)
  | "islower" => flag (t.any Text.isCased && !t.any Text.isUpper)
  | "isupper" => flag (t.any Text.isCased && !t.any Text.isLower)
  | "istitle" => flag (Text.isTitle t)
  | "isprintable" => flag (t.all Text.isPrintable)
  | "isspace" => all Text.isBlank
  | _ => none

def textMethod (reach : Reach) (name : Text) (self : Value) (t : Text) (args : Arguments) :
    Eval Value := do
  let called := methodName "str" name
  let n := String.ofList name
  match plainTextMethod? n t with
  | some result => do
    takeNone called args
    result
  | none =>
    match n with
    | "find" =>
      let i ← findIn Text.find? t (← takeBetween name 1 3 args)
      newInt ((i.map Int.ofNat).getD (-1))
    | "rfind" =>
      let i ← findIn Text.findLast? t (← takeBetween name 1 3 args)
      newInt ((i.map Int.ofNat).getD (-1))
    | "index" => indexOfText Text.find? t (← takeBetween name 1 3 args)
    | "rindex" => indexOfText Text.findLast? t (← takeBetween name 1 3 args)
    | "count" => newInt (← countIn t (← takeBetween name 1 3 args))
    | "startswith" =>
      return .bool (← endIn name Text.startsWith t (← takeBetween name 1 3 args))
    | "endswith" => return .bool (← endIn name Text.endsWith t (← takeBetween name 1 3 args))
    | "strip" =>
      newText (Text.stripBoth (← stripArgument name (← takeBetween name 0 1 args)) t)
    | "lstrip" =>
      newText (Text.stripLeft (← stripArgument name (← takeBetween name 0 1 args)) t)
    | "rstrip" =>
      newText (Text.stripRight (← stripArgument name (← takeBetween name 0 1 args)) t)
    | "split" =>
      match ← splitArguments name args with
      | (none, times) => newTexts (Text.wordsAtMost (times.getD t.length) t)
      | (some s, times) => newTexts (Text.splitAtMost s (times.getD t.length) t)
    | "rsplit" =>
      match ← splitArguments name args with
      | (none, times) => newTexts (Text.wordsAtMostRight (times.getD t.length) t)
      | (some s, times) => newTexts (Text.splitAtMostRight s (times.getD t.length) t)
    | "splitlines" =>
      match ← takeNamed name ["keepends"] args with
      | [some keep] =>
        newTexts (if ← truth keep then Text.linesWithEnds t else Text.lines t)
      | _ => newTexts (Text.lines t)
    | "partition" =>
      let v ← takeOne called args
      match ← textOr .mustBeText v with
      | [] => fault .emptySeparator
      | s => partition (Text.cut? s t) v (t, [], [])
    | "rpartition" =>
      let v ← takeOne called args
      match ← textOr .mustBeText v with
      | [] => fault .emptySeparator
      | s =>
        let found := (Text.cut? s.reverse t.reverse).map fun (a, b) => (b.reverse, a.reverse)
        partition found v ([], [], t)
    | "replace" =>
      match ← takeBetween name 2 3 args with
      | old :: new :: times =>
        let old ← textOr (.argumentNeedsText name 1) old
        let new ← textOr (.argumentNeedsText name 2) new
        let count ← match times with
          | v :: _ => toIndex v
          | [] => pure (-1)
        newText (Text.replaceAtMost old new (if count < 0 then none else some count.toNat) t)
      | _ => return self
    | "join" =>
      let v ← takeOne called args
      match ← items? reach v with
      | some items => joinTexts t items
      | none => fault .joinNeedsIterable
    | "ljust" =>
      let (width, c) ← fillArguments name args
      newText (Text.padRight c width t)
    | "rjust" =>
      let (width, c) ← fillArguments name args
      newText (Text.padLeft c width t)
    | "center" =>
      let (width, c) ← fillArguments name args
      newText (Text.center c width t)
    | "zfill" => do newText (Text.zeroFill (← toIndex (← takeOne called args)).toNat t)
    | "expandtabs" =>
      match ← takeNamed name ["tabsize"] args with
      | [some v] => do newText (Text.expandTabs (← toIndex v).toNat 0 t)
      | _ => newText (Text.expandTabs 8 0 t)
    | "removeprefix" =>
      let head ← textOr (.needsText name) (← takeOne called args)
      newText ((Text.after? head t).getD t)
    | "removesuffix" =>
      let tail ← textOr (.needsText name) (← takeOne called args)
      newText (if Text.endsWith tail t then t.take (t.length - tail.length) else t)
    | "format" => formatText t args.positional (namedArgument args.named)
    | "format_map" =>
      let m ← takeOne called args
      formatText t [] fun n => do getItem m (← newText n)
    | _ => noMember self name

end Stencil.Eval
