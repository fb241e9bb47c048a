import LiveSearch.DataDirectory
import LiveSearch.Journal

/-!
# The program

Reads the command line and the journal of the data directory, carries out the command, extends the
journal and prints the report.
-/

namespace LiveSearch

/-- The exit code of a command line that is not acceptable. -/
def usageExitCode : UInt32 := 2

/-- What is printed when help is asked for. -/
def usageText : String :=
  "Usage: [--data-dir DIR] [-v | -q] COMMAND\n\n" ++
    "Commands: import, search, get, mark, delete, status, config, completions, help\n"

/-- The data directory: the one given, or the one of the environment, or the usual one. -/
def chooseDirectory (given : Option String) : IO String := do
  if let some path := given then return path
  match ← IO.getEnv "FEEDSEARCH_DATA_DIR" with
  | some path => if !path.isEmpty then return path
  | none => pure ()
  let home := (← IO.getEnv "HOME").getD "."
  return joinPath home ".local/share/feedsearch"

/-- The text of a file, or of the input. -/
def readSource (file : String) : IO (Option String) := do
  try
    if file = "-" then return some (← (← IO.getStdin).readToEnd)
    else return some (← IO.FS.readFile file)
  catch _ => return none

/-- The text of the file that a command adds the items of. -/
def commandInput : Command → IO (Option String)
  | .importItems file => readSource file
  | _ => return none

/-- Appends the lines of some entries to a file. -/
def appendJournal (path : String) (journal : Journal) : IO Unit := do
  if !journal.isEmpty then
    let handle ← IO.FS.Handle.mk path .append
    for entry in journal do
      handle.putStr (entry.encode ++ "\n")

/-- Carries out a command in a data directory. -/
def runIn (d : DataDirectory) (command : Command) : IO (Except Failure Report) := do
  IO.FS.createDirAll d.path
  IO.FS.createDirAll d.indexPath
  let text := (← readSource d.storePath).getD ""
  match Journal.ofText? text with
  | none => return .error .malformedJson
  | some journal =>
    let input ← commandInput command
    let around := { dataDirectory := d.path, read := fun _ => input }
    let (entries, result) := Journal.run around journal.replay command
    appendJournal d.storePath entries
    return result

end LiveSearch

open LiveSearch in
/-- Runs the program. -/
def main (args : List String) : IO UInt32 := do
  match CommandLine.parse args with
  | .error .help => IO.print usageText; return 0
  | .error _ => IO.eprint usageText; return usageExitCode
  | .ok line =>
    let d : DataDirectory := ⟨← chooseDirectory line.dataDirectory⟩
    match ← runIn d line.command with
    | .ok report => IO.print report.print; return 0
    | .error e => IO.eprintln ("Error: " ++ e.message); return 1
