import Stencil.Files.Tree
import Stencil.Settings.Check
import Stencil.Yaml.Load

/-!
# Settings files

A settings file is a document that holds a mapping. Without a file, and where the document holds
nothing, the defaults stand; a value in the file overrides its default. A file of another version
is refused whatever else it holds. Who reads documents, and how data become values of fields, is
left to others.
-/

namespace Stencil

inductive SettingsError where
  | unreadable (path : Text) (cause : Yaml.Mistake)
  | notAMapping (path type : Text)
  | unsupportedVersion (shown : Text)
  | invalid (path : Text) (problems : List (Text × Problem))
  | fault (f : Fault)
  /-- The document holds something that is left open. -/
  | beyond (what : Text)
deriving DecidableEq, Repr

namespace SettingsError

def counted (n : Nat) : Text :=
  Text.say [Text.ofNat n, if n = 1 then " validation error" else " validation errors"]

def message : SettingsError → Text
  | unreadable path cause => Text.say ["Failed to parse ", path, ": ", cause.message]
  | notAMapping path type => Text.say ["Config ", path, " must be a mapping, got ", type]
  | unsupportedVersion shown =>
    Text.say ["Unsupported config schema ", shown, " (tool expects ",
      Text.ofInt Settings.supportedVersion, ")"]
  | invalid path problems =>
    Text.say ["Invalid config ", path, ": ", counted problems.length, " for EngineConfig"]
  | fault f => f.message
  | beyond what => Text.say ["Left open: ", what]

def isReport : SettingsError → Bool
  | fault _ | beyond _ => false
  | _ => true

def ofRejection (path : Text) : Rejection → SettingsError
  | .problems problems => .invalid path problems
  | .fault f => .fault f

end SettingsError

namespace Settings

inductive Document where
  | mapping (entries : List (Datum × Datum))
  /-- A value that counts as false, such as no value. -/
  | nothing
  | other (type : Text)
deriving Inhabited

/-- What the loading of settings rests on. -/
structure Collaborators extends Checker where
  read : Text → Except Yaml.Trouble Document

/-! ## Entries -/

def isKey (name : Text) : Datum → Bool
  | .str t => t = name
  | _ => false

/-- What the entries of a file say for a name. -/
def said? (entries : List (Datum × Datum)) (name : Text) : Option Datum :=
  (entries.find? fun (k, _) => isKey name k).map (·.2)

/-- The defaults, each overridden by what is said for it. -/
def overridden (entries : List (Datum × Datum)) : List (Text × Datum) :=
  ({} : Settings).data.map fun (name, d) => (name, (said? entries name).getD d)

/-- The entries that no field has. -/
def strange (entries : List (Datum × Datum)) : List (Datum × Datum) :=
  entries.filter fun (k, _) => !names.any (isKey · k)

def mergeDefaults (entries : List (Datum × Datum)) : List (Datum × Datum) :=
  (overridden entries).map (fun (name, d) => (.str name, d)) ++ strange entries

def keywords (entries : List (Datum × Datum)) : Except Fault (List (Text × Datum)) :=
  entries.mapM fun
    | (.str name, d) => .ok (name, d)
    | _ => .error .keywordNotText

def isSupported : Datum → Bool
  | .int n => n = supportedVersion
  | .bool b => (if b then 1 else 0) = supportedVersion
  | .float x => (Number.ofInt? supportedVersion).any (· == x)
  | _ => false

/-- Whether the version in a file is the one that is understood; no version is. -/
def checkVersion (entries : List (Datum × Datum)) : Except SettingsError Unit :=
  match said? entries "schema_version".toList with
  | none => .ok ()
  | some d =>
    if isSupported d then .ok ()
    else match d.write Datum.display with
      | .ok shown => .error (.unsupportedVersion shown)
      | .error f => .error (.fault f)

/-! ## Loading -/

def ofEntries (c : Checker) (path : Text) (entries : List (Datum × Datum)) :
    Except SettingsError Settings := do
  checkVersion entries
  let data ← (keywords (mergeDefaults entries)).mapError .fault
  (ofDataWith c data).mapError (.ofRejection path)

def ofText (c : Collaborators) (path t : Text) : Except SettingsError Settings :=
  match c.read t with
  | .error (.mistake m) => .error (.unreadable path m)
  | .error (.fault f) => .error (.fault f)
  | .error (.beyond what) => .error (.beyond what)
  | .ok (.mapping entries) => ofEntries c.toChecker path entries
  | .ok .nothing => ofEntries c.toChecker path []
  | .ok (.other type) => .error (.notAMapping path type)

def loadWith (c : Collaborators) (files : Files.Tree) (folder : Text) (path : Files.Path) :
    Except SettingsError Settings := do
  if !files.exists? path then return {}
  let t ← (files.read path).mapError .fault
  ofText c (path.text folder) t

def readDocument (t : Text) : Except Yaml.Trouble Document := do
  match ← Yaml.load t {} with
  | (.mapping a, h) =>
    return .mapping ((h.mapping a).entries.map fun (k, v) => (h.datum k, h.datum v))
  | (v, h) => return if h.truth v then .other (h.typeName v) else .nothing

def Collaborators.standard : Collaborators := { Checker.standard with read := readDocument }

def load (files : Files.Tree) (folder : Text) (path : Files.Path) :
    Except SettingsError Settings :=
  loadWith .standard files folder path

def fileName : Text := "fragtpl.yaml".toList

end Settings

end Stencil
