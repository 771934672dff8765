import Stencil.Files.Path
import Stencil.Report.Basic
import Stencil.Settings.Check
import Stencil.Template.Span

/-!
# What can be reported

Reports are made of data and of some things of the engine: paths, forms of placeholders and
settings. Tuples and sets become lists, a set in the order of the printed forms of its items, and
mappings become records if their keys are plain. A placeholder itself cannot be reported.
-/

namespace Stencil

inductive Reportable where
  | none
  | bool (b : Bool)
  | int (n : Int)
  | float (x : Float)
  | text (t : Text)
  | list (items : List Reportable)
  | tuple (items : List Reportable)
  | dict (entries : List (Reportable × Reportable))
  | set (items : List Reportable)
  | path (p : Files.Path)
  | form (f : Template.Form)
  | settings (s : Settings)
  | span (s : Template.Span)
deriving Inhabited

namespace Reportable

/-! ## Printed forms -/

def formName : Template.Form → Text
  | .single => "SpanForm.SINGLE".toList
  | .double => "SpanForm.DOUBLE".toList

def settingsFields (s : Settings) : List Text :=
  s.data.map fun (name, d) => name ++ '=' :: d.quoted

mutual

def datum : Reportable → Datum
  | none => .none
  | bool b => .bool b
  | int n => .int n
  | float x => .float x
  | text t => .str t
  | list items => .list (datumItems items)
  | tuple items => .tuple (datumItems items)
  | dict entries => .dict (datumEntries entries)
  | set items => .set (datumItems items)
  | path p => .other "PurePosixPath".toList
    (Text.say ["PurePosixPath(", Text.quoted (p.text []), ")"])
  | form f => .other "SpanForm".toList
    (Text.say ["<", formName f, ": ", Text.quoted [f.letter], ">"])
  | settings s => .other "EngineConfig".toList
    (Text.say ["EngineConfig(", Text.join ", ".toList (settingsFields s), ")"])
  | span s => .other "Span".toList s.summary

def datumItems : List Reportable → List Datum
  | [] => []
  | r :: more => datum r :: datumItems more

def datumEntries : List (Reportable × Reportable) → List (Datum × Datum)
  | [] => []
  | (k, r) :: more => (datum k, datum r) :: datumEntries more

end

def typeName (r : Reportable) : Text := r.datum.typeName

def display : Reportable → Text
  | path p => p.text []
  | form f => formName f
  | settings s => Text.join [' '] (settingsFields s)
  | r => r.datum.display

/-! ## Reports -/

def fieldName : Reportable → Except Fault Text
  | text t => .ok t
  | float x => .ok (Report.number x)
  | bool b => .ok (Report.boolWord b)
  | none => .ok "null".toList
  | int n => .ok (Text.ofInt n)
  | r => .error (.badFieldName r.typeName)

def ofDatum : Datum → Report
  | .int n => .int n
  | .bool b => .bool b
  | d => .text d.display

def settingsReport (s : Settings) : Report := .record (s.data.map fun (n, d) => (n, ofDatum d))

mutual

def report : Reportable → Except Fault Report
  | none => .ok .null
  | bool b => .ok (.bool b)
  | int n => .ok (.int n)
  | float x => .ok (.float x)
  | text t => .ok (.text t)
  | list items | tuple items => do return .list ((← reports items).map (·.2))
  | dict entries => do return .record (← fields entries)
  | set items => do
    let found ← reports items
    return .list ((found.mergeSort fun a b => !Text.less b.1 a.1).map (·.2))
  | path p => .ok (.text (p.text []))
  | form f => .ok (.text [f.letter])
  | settings s => .ok (settingsReport s)
  | span s => .error (.notReportable (span s).typeName)

def reports : List Reportable → Except Fault (List (Text × Report))
  | [] => .ok []
  | r :: more => do return (r.display, ← report r) :: (← reports more)

def fields : List (Reportable × Reportable) → Except Fault (List (Text × Report))
  | [] => .ok []
  | (k, r) :: more => do
    let name ← fieldName k
    return (name, ← report r) :: (← fields more)

end

end Reportable

end Stencil
