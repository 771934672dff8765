import Stencil.CommandLine.Run

/-!
# The program

Reads what a command finds around it, runs the command, and writes what it answers.
-/

namespace Stencil.CommandLine

partial def readFolder (listed : Array IO.FS.DirEntry) : IO Files.Tree := do
  let mut found := #[]
  for e in listed do
    let inner ← if ← e.path.isDir then readFolder (← e.path.readDir)
      else pure (.file (← IO.FS.readBinFile e.path).toList)
    found := found.push (e.fileName.toList, inner)
  return .folder found.toList

partial def readInput (stdin : IO.FS.Stream) : IO Text := do
  let line ← stdin.getLine
  if line.isEmpty then return []
  return line.toList ++ (← readInput stdin)

def toolVersion : Text := "0.0.0".toList

def usage : String := "usage: fragtpl [-h] [-v] render|inspect|list|diag ..."

def debugVariable : String := "FRAGTPL_DEBUG"

def Command.readsInput : Command → Bool
  | render _ _ arguments => arguments = some ['-']
  | _ => false

def surroundings (c : Command) : IO Surroundings := do
  let here ← IO.currentDir
  return {
    folder := here.toString.toList
    files := ← readFolder (← here.readDir)
    input := ← if c.readsInput then readInput (← IO.getStdin) else pure []
    debug := ((← IO.getEnv debugVariable).map (!·.isEmpty)).getD false
    versions := [("fragtpl".toList, toolVersion)] }

def machine : Machine := ⟨.standard 100000, 10000000⟩

/-- How many levels of templates may include one another. -/
def depth : Nat := 200

def leave : Departure → IO Unit
  | .help => IO.println usage
  | .version => IO.println s!"fragtpl {String.ofList toolVersion}"
  | .misuse m => IO.eprintln s!"{usage}\nfragtpl: error: {String.ofList m.message}"

def execute (c : Command) : IO UInt32 := do
  match run machine depth (← surroundings c) c with
  | .error f => throw (IO.userError (String.ofList (f.kind.word ++ ": ".toList ++ f.message)))
  | .ok outcome =>
    for line in outcome.messages do IO.eprintln (String.ofList line)
    IO.print (String.ofList outcome.output)
    return outcome.code.toUInt32

end Stencil.CommandLine

open Stencil.CommandLine in
def main (args : List String) : IO UInt32 := do
  match Command.ofArguments (args.map String.toList) with
  | .ok c => execute c
  | .error d =>
    leave d
    return d.code.toUInt32
