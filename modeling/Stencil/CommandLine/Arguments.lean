import Stencil.Text.Digit

/-!
# Arguments of the command line

A command is a word with options around its name. Long options may be shortened as long as one
option remains, and take their value behind an equals sign or as the next argument. Everything
behind a double hyphen is a plain argument. Help and version end the reading where they stand;
arguments that nothing takes are refused at the end.
-/

namespace Stencil.CommandLine

structure Place where
  templates : Option Text := none
  settings : Option Text := none
deriving DecidableEq, Repr

inductive Command where
  | render (name : Text) (place : Place) (arguments : Option Text)
  | inspect (name : Text) (place : Place) (indented : Bool)
  | list (place : Place) (indented : Bool)
  | diagnose (indented : Bool)
deriving DecidableEq, Repr

inductive Misuse where
  | ambiguousOption
  | missingValue
  | unexpectedValue
  | missingCommand
  | unknownCommand
  | missingName
  | unrecognized
deriving DecidableEq, Repr

def Misuse.message : Misuse → Text
  | ambiguousOption => "an option is ambiguous"
  | missingValue => "an option lacks its value"
  | unexpectedValue => "an option takes no value"
  | missingCommand => "a command is required"
  | unknownCommand => "there is no such command"
  | missingName => "the name of a template is required"
  | unrecognized => "unrecognized arguments"

inductive Departure where
  | help
  | version
  | misuse (m : Misuse)
deriving DecidableEq, Repr

def Departure.code : Departure → Nat
  | help | version => 0
  | misuse _ => 2

/-! ## Options -/

inductive Switch where
  | help
  | version
  | templates
  | settings
  | arguments
  | indented
deriving DecidableEq, Repr

namespace Switch

def takesValue : Switch → Bool
  | templates | settings | arguments => true
  | help | version | indented => false

def long : Switch → Text
  | help => "--help"
  | version => "--version"
  | templates => "--templates"
  | settings => "--config"
  | arguments => "--args"
  | indented => "--pretty"

def short? : Switch → Option Char
  | help => some 'h'
  | version => some 'v'
  | _ => none

end Switch

structure Grammar where
  switches : List Switch
  /-- Whether the name of a template is expected. -/
  named : Bool

namespace Grammar

def top : Grammar := ⟨[.help, .version], false⟩

def ofCommand? (word : Text) : Option Grammar :=
  match String.ofList word with
  | "render" => some ⟨[.help, .templates, .settings, .arguments], true⟩
  | "inspect" => some ⟨[.help, .templates, .settings, .indented], true⟩
  | "list" => some ⟨[.help, .templates, .settings, .indented], false⟩
  | "diag" => some ⟨[.help, .indented], false⟩
  | _ => none

def long? (g : Grammar) (name : Text) : Option Switch := g.switches.find? (·.long = name)

def short? (g : Grammar) (c : Char) : Option Switch := g.switches.find? (·.short? = some c)

end Grammar

/-! ## Words -/

inductive Word where
  | plain (t : Text)
  | option (s : Switch) (value : Option Text)
  /-- Short options with something behind them that is none. -/
  | misused
  | unknown
  | separator
deriving DecidableEq, Repr

def isNegativeNumber : Text → Bool
  | '-' :: rest =>
    let whole := rest.takeWhile Text.isDecimalDigit
    match rest.drop whole.length with
    | [] => !whole.isEmpty
    | '.' :: places => !places.isEmpty && places.all Text.isDecimalDigit
    | _ => false
  | _ => false

namespace Word

def ofUnknown (t : Text) : Word :=
  if isNegativeNumber t || t.contains ' ' then plain t else unknown

def ofLong (g : Grammar) (t : Text) : Except Misuse Word :=
  let (name, value) : Text × Option Text := match Text.cut? ['='] t with
    | some (name, value) => (name, some value)
    | none => (t, none)
  match g.long? name, g.switches.filter fun s => Text.startsWith name s.long with
  | some s, _ | none, [s] => .ok (option s value)
  | none, [] => .ok (ofUnknown t)
  | none, _ => .error .ambiguousOption

def ofShort (g : Grammar) (c : Char) (tail : Text) : Word :=
  match g.short? c with
  | some s => if tail.all fun d => (g.short? d).isSome then option s none else misused
  | none => ofUnknown ('-' :: c :: tail)

def ofText (g : Grammar) (t : Text) : Except Misuse Word :=
  match t with
  | '-' :: '-' :: _ => ofLong g t
  | '-' :: c :: tail => .ok (ofShort g c tail)
  | t => .ok (plain t)

end Word

/-- What arguments are; behind the double hyphen all are plain. -/
def words (g : Grammar) : List Text → Except Misuse (List Word)
  | [] => .ok []
  | t :: more =>
    if t = ['-', '-'] then .ok (.separator :: more.map .plain)
    else do return (← Word.ofText g t) :: (← words g more)

/-! ## Commands -/

structure Given where
  name : Option Text := none
  place : Place := {}
  arguments : Option Text := none
  indented : Bool := false
  /-- Something that nothing takes. -/
  extra : Bool := false

namespace Given

def withValue (s : Switch) (v : Text) (given : Given) : Given :=
  match s with
  | .templates => { given with place.templates := some v }
  | .settings => { given with place.settings := some v }
  | .arguments => { given with arguments := some v }
  | .help | .version | .indented => given

def withFlag (s : Switch) (given : Given) : Except Departure Given :=
  match s with
  | .help => .error .help
  | .version => .error .version
  | .indented => .ok { given with indented := true }
  | .templates | .settings | .arguments => .error (.misuse .missingValue)

def lacksName (g : Grammar) (given : Given) : Bool := g.named && given.name.isNone

end Given

/-- Takes the words behind a command one after the other. The double hyphen may stand beside the
name. -/
def take (g : Grammar) : List Word → Given → Except Departure Given
  | [], given => .ok given
  | .option s (some v) :: more, given =>
    if s.takesValue then take g more (given.withValue s v)
    else .error (.misuse .unexpectedValue)
  | .option s none :: .plain v :: more, given =>
    if s.takesValue then take g more (given.withValue s v)
    else do take g (.plain v :: more) (← given.withFlag s)
  | .option s none :: more, given => do take g more (← given.withFlag s)
  | .misused :: _, _ => .error (.misuse .unexpectedValue)
  | .unknown :: more, given => take g more { given with extra := true }
  | .plain t :: .separator :: more, given =>
    if given.lacksName g then take g more { given with name := some t }
    else take g more { given with extra := true }
  | .plain t :: more, given =>
    if given.lacksName g then take g more { given with name := some t }
    else take g more { given with extra := true }
  | .separator :: .plain t :: more, given =>
    if given.lacksName g then take g more { given with name := some t }
    else take g more { given with extra := true }
  | .separator :: more, given => take g more { given with extra := true }
termination_by ws => ws.length

def command (word : Text) (given : Given) : Except Departure Command :=
  let name := given.name.getD []
  match String.ofList word with
  | "render" => .ok (.render name given.place given.arguments)
  | "inspect" => .ok (.inspect name given.place given.indented)
  | "list" => .ok (.list given.place given.indented)
  | "diag" => .ok (.diagnose given.indented)
  | _ => .error (.misuse .unknownCommand)

def commandOf (word : Text) (args : List Text) (extra : Bool) : Except Departure Command := do
  match Grammar.ofCommand? word with
  | none => throw (.misuse .unknownCommand)
  | some g =>
    let given ← take g (← (words g args).mapError .misuse) { extra }
    if given.lacksName g then throw (.misuse .missingName)
    if given.extra then throw (.misuse .unrecognized)
    command word given

def takeTop : List (Word × Text) → (extra : Bool) → Except Departure Command
  | [], _ => .error (.misuse .missingCommand)
  | (.plain t, _) :: more, extra => commandOf t (more.map (·.2)) extra
  | (.separator, _) :: _, _ => .error (.misuse .unknownCommand)
  | (.option .help none, _) :: _, _ => .error .help
  | (.option .version none, _) :: _, _ => .error .version
  | (.option _ _, _) :: _, _ | (.misused, _) :: _, _ => .error (.misuse .unexpectedValue)
  | (.unknown, _) :: more, _ => takeTop more true

def Command.ofArguments (args : List Text) : Except Departure Command := do
  let ws ← (words .top args).mapError .misuse
  takeTop (ws.zip args) false

end Stencil.CommandLine
