import Stencil.CommandLine.Arguments
import Stencil.Engine.Render
import Stencil.Report.Basic
import Stencil.Settings.Load
import Stencil.Template.Listing

/-!
# Running commands

A command renders a template, reports what a template consists of, lists the templates, or reports
on the installation. It writes its result to the output; what a user can mend is told in a message,
and the command fails.
-/

namespace Stencil.CommandLine

open Template (Failure)

structure Surroundings where
  /-- The full name of the working folder. -/
  folder : Text
  /-- The working folder. -/
  files : Files.Tree
  input : Text := []
  /-- Whether the engine tells what it does. -/
  debug : Bool := false
  /-- The versions of what is installed. -/
  versions : List (Text × Text) := []

structure Outcome where
  code : Nat
  output : Text
  /-- The lines of messages. -/
  messages : List Text
deriving DecidableEq, Repr

inductive Complaint where
  | settings (e : SettingsError)
  | noSettings (path : Text)
  | noArguments (path : Text)
  | badArguments (cause : Yaml.Mistake)
  | argumentsNotMapping (type : Text)
  | template (f : Failure)
deriving DecidableEq, Repr

namespace Complaint

def ofFault (f : Fault) : Complaint := template (.fault f)

def fault? : Complaint → Option Fault
  | settings (.fault f) | template (.fault f) => some f
  | _ => none

def unexpected? (c : Complaint) : Option Fault := c.fault?.filter fun f => !f.kind.isValue

def message : Complaint → Text
  | settings e => e.message
  | noSettings path => Text.say ["Config file not found: ", path]
  | noArguments path => Text.say ["Args file not found: ", path]
  | badArguments cause => Text.say ["Failed to parse template args: ", cause.message]
  | argumentsNotMapping type => Text.say ["Template args must be a mapping, got ", type]
  | template f => f.message "invalid syntax"

end Complaint

/-! ## Settings and arguments -/

def given? (t : Option Text) : Option Text := t.filter (!·.isEmpty)

def settingsOf (s : Surroundings) (place : Place) : Except Complaint Settings :=
  match given? place.settings with
  | some t =>
    let path := Files.Path.ofText t
    if s.files.exists? path then (Settings.load s.files s.folder path).mapError .settings
    else .error (.noSettings (path.text s.folder))
  | none =>
    (Settings.load s.files s.folder (Files.Path.working.join (.ofText Settings.fileName))).mapError
      .settings

def templatesOf (place : Place) (settings : Settings) : Files.Path :=
  match given? place.templates with
  | some t => .ofText t
  | none => Files.Path.working.join (.ofText settings.templatesDir)

def libraryOf (s : Surroundings) (place : Place) (settings : Settings) : Library :=
  { files := s.files, root := templatesOf place settings, suffix := settings.templateSuffix
    folder := s.folder }

/-- The document of template arguments: the input, a file behind an at sign, or the text itself. -/
def argumentsText (s : Surroundings) (t : Text) : Except Complaint Text :=
  match t with
  | ['-'] => .ok s.input
  | '@' :: name =>
    let path := Files.Path.ofText name
    if s.files.exists? path then (s.files.read path).mapError .ofFault
    else .error (.noArguments (path.text s.folder))
  | t => .ok t

def argumentsOf (s : Surroundings) (given : Option Text) (h : Heap) :
    Except Complaint (Entries × Heap) := do
  match given? given with
  | none => return ([], h)
  | some t =>
    match Yaml.load (← argumentsText s t) h with
    | .error (.mistake m) => throw (.badArguments m)
    | .error (.fault f) => throw (.ofFault f)
    | .error (.beyond what) => throw (.template (.escape (.beyond what)))
    | .ok (.none, h) => return ([], h)
    | .ok (.mapping a, h) => return ((h.mapping a).entries, h)
    | .ok (v, h) => throw (.argumentsNotMapping (h.typeName v))

/-! ## Commands -/

def engineOf (s : Surroundings) (place : Place) (settings : Settings) : Engine :=
  { settings, sources := .library (libraryOf s place settings) }

abbrev Work := ExceptT Complaint (StateM (List Text))

def withEngine {α : Type} (e : Engine) (x : Action α) : Work α :=
  ExceptT.mk fun log =>
    let (result, e) := ExceptT.run x e
    (result.mapError .template, log ++ e.log)

def render (m : Machine) (depth : Nat) (s : Surroundings) (name : Text) (place : Place)
    (arguments : Option Text) : Work Text := do
  let e := engineOf s place (← settingsOf s place)
  let (entries, heap) ← argumentsOf s arguments e.heap
  withEngine { e with heap } (Action.renderOnce (Action.render m depth) name entries)

def spanReport (span : Template.Span) : Report :=
  .record [("index".toList, .int span.index), ("form".toList, .text [span.form.letter]),
    ("source".toList, .text span.source), ("position".toList, .int span.position),
    ("token".toList, .text span.token)]

def instanceReport (i : Instance) : Report :=
  let listing := (i.renderer.map fun c => Text.lines c.program.listingText).getD []
  .record [("name".toList, .text i.name), ("spans".toList, .list (i.spans.map spanReport)),
    ("program".toList, .list (listing.map .text)), ("snapshot".toList, .text i.snapshot)]

def inspect (m : Machine) (depth : Nat) (s : Surroundings) (name : Text) (place : Place) :
    Work Report := do
  let e := engineOf s place (← settingsOf s place)
  withEngine e do
    let id ← Action.create name none
    Action.andFinally (do
      let _ ← Action.compile (Action.render m depth) id
      return instanceReport (← Action.instance id)) (Engine.dispose id)

def list (s : Surroundings) (place : Place) : Work Report := do
  let l := libraryOf s place (← settingsOf s place)
  let names ← l.names.mapError Complaint.ofFault
  return .record [("templates".toList, .list (names.map .text))]

def components : List Text := ["fragtpl", "python", "platform", "ruamel.yaml", "pydantic",
  "beautifulsoup4", "soupsieve"].map String.toList

def diagnosis (s : Surroundings) : Report :=
  .record (components.map fun name =>
    (name, .text ((s.versions.lookup name).getD "missing".toList)))

def layout (indented : Bool) : Report.Layout := if indented then .indented else .oneLine

def output (m : Machine) (depth : Nat) (s : Surroundings) : Command → Work Text
  | .render name place arguments => render m depth s name place arguments
  | .inspect name place indented => do
    return (← inspect m depth s name place).write (layout indented)
  | .list place indented => do return (← list s place).write (layout indented)
  | .diagnose indented => return (diagnosis s).write (layout indented)

def logLine (t : Text) : Text := "[DEBUG] ".toList ++ t

/-- Runs a command. A fault that no user can mend is passed on. -/
def run (m : Machine) (depth : Nat) (s : Surroundings) (c : Command) : Except Fault Outcome :=
  let (result, log) := ExceptT.run (output m depth s c) []
  let told := if s.debug then log.flatMap fun t => Text.lines (logLine t) else []
  match result with
  | .ok output => .ok ⟨0, output, told⟩
  | .error e =>
    match e.unexpected? with
    | some f => .error f
    | none => .ok ⟨2, [], told ++ Text.lines (Text.stripRight Text.isBlank e.message)⟩

end Stencil.CommandLine
