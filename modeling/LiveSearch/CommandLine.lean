import LiveSearch.CommandLine.Arguments
import LiveSearch.Search

/-!
# The command line

* `Command` – what the program can be asked to do.
* `Level.below` – the arguments on each level, by the commands that lead to it. Verbosity, silence
  and the data directory can be given on every level; the innermost level at which they are given
  counts.
* `CommandLine.parse` – **the reading of a command line**.
-/

namespace LiveSearch

open Text

/-- What the program can be asked to do. -/
inductive Command where
  /-- Add the items of a file. -/
  | importItems (file : String)
  /-- Search for items. -/
  | search (request : SearchRequest) (json : Bool)
  /-- Show an item. -/
  | get (reference : String) (json : Bool)
  /-- Move items to a state. -/
  | mark (state : State) (references : List String)
  /-- Delete items. -/
  | delete (references : List String)
  /-- Show the numbers of items. -/
  | status (json : Bool)
  /-- Show the settings. -/
  | showSettings (json : Bool)
  /-- Store a setting. -/
  | setSetting (key value : String)
  /-- Write the completions for a shell. -/
  | completions (shell : String)
deriving DecidableEq, Inhabited

/-- A command line that has been read. -/
structure CommandLine where
  command : Command
  /-- How talkative the log is. -/
  verbose : Nat
  /-- Is the log to be quiet? -/
  quiet : Bool
  /-- The data directory, if one is given. -/
  dataDirectory : Option String
deriving DecidableEq, Inhabited

/-! ### The levels -/

/-- A flag without a letter. -/
def Argument.flag (name : String) : Argument :=
  { name, arity := .flag }

/-- An option with one value. -/
def Argument.valued (name : String) (rule : ValueRule) : Argument :=
  { name, arity := .single, rule }

/-- A positional argument that has to be given. -/
def Argument.needed (name : String) (rule : ValueRule) : Argument :=
  { name, arity := .single, rule, required := true }

/-- The references that a command is for. -/
def Argument.references : Argument :=
  { name := "references", arity := .repeated, required := true }

namespace Level

/-- The options of every level. -/
def everywhere : List Argument :=
  [{ name := "help", letter := some 'h', arity := .help },
    { name := "verbose", letter := some 'v', arity := .counter },
    { name := "quiet", letter := some 'q', arity := .flag, excludes := ["verbose"] },
    .valued "data-dir" .path]

/-- The options of a search. -/
def searchOptions : List Argument :=
  [.valued "title" .text, .valued "content" .text, .valued "author" .text, .valued "feed" .text,
    .valued "category" .text, .valued "label" .text,
    { name := "state", arity := .repeated, rule := .state },
    .flag "flagged", .valued "after" .time, .valued "before" .time, .flag "any",
    .valued "sort" .sortKey, .flag "asc",
    { name := "count", letter := some 'n', arity := .single, rule := .count },
    { name := "all", arity := .flag, excludes := ["count"] }, .flag "json"]

/-- The shells that there are completions for. -/
def shells : List String :=
  ["bash", "elvish", "fish", "powershell", "zsh"]

/-- A level with the options of every level and some of its own. -/
def having (options positionals : List Argument) : Level :=
  { options := everywhere ++ options, positionals }

/-- A level at which a command follows. -/
def choosing (commands : List String) : Level :=
  { options := everywhere, commands := commands ++ ["help"] }

/-- **The level** that some commands lead to. -/
def below : List String → Level
  | [] =>
    choosing ["import", "search", "get", "mark", "delete", "status", "config", "completions"]
  | ["import"] => having [] [.needed "file" .path]
  | ["search"] => having searchOptions [.valued "query" .text]
  | ["get"] => having [.flag "json"] [.needed "reference" .text]
  | ["mark"] => having [] [.needed "state" .state, .references]
  | ["delete"] => having [] [.references]
  | ["status"] => having [.flag "json"] []
  | ["config"] => choosing ["show", "set"]
  | ["config", "show"] => having [.flag "json"] []
  | ["config", "set"] => having [] [.needed "key" .text, .needed "value" .text]
  | ["completions"] => having [] [.needed "shell" (.oneOf shells)]
  | _ => having [] []

/-- What asking for help with some commands leads to: the help, unless there is no such command. -/
def helpFor (path : List String) : List String → UsageError
  | [] => .help
  | command :: rest =>
    if command ∈ (below path).commands then helpFor (path ++ [command]) rest else .unknownCommand

end Level

namespace CommandLine

/-- The greatest number of commands on a command line, and one level more. -/
def deepest : Nat := 3

/-- Reads the levels below some commands, of which there are at most `depth`. Gives all the commands
and what was read on each level, the outermost first. -/
def readLevels : Nat → List String → List String → Except UsageError (List String × List Reading)
  | 0, path, _ => .ok (path, [])
  | depth + 1, path, args => do
    let level := Level.below path
    let (r, next) ← level.readAll args {}
    let (whole, inner) ←
      match next with
      | none => pure (path, [])
      | some ("help", rest) => throw (Level.helpFor path rest)
      | some (command, rest) => readLevels depth (path ++ [command]) rest
    let r ← r.settlePending
    level.check r next.isSome
    return (whole, r :: inner)

/-! ### What was read -/

/-- The time that an argument gives. -/
def time? (r : Reading) (name : String) : Option UInt64 :=
  (r.value? name).bind fun s => (parseTime s).toOption

/-- How many hits are wanted: twenty, unless something else is said. -/
def limit? (r : Reading) : Option Nat :=
  if r.isGiven "all" then none else some (((r.value? "count").bind parseCount?).getD 20)

/-- The request of a search. -/
def request (r : Reading) : SearchRequest :=
  { text := r.value? "query"
    title := r.value? "title"
    content := r.value? "content"
    author := r.value? "author"
    feed := r.value? "feed"
    category := r.value? "category"
    label := r.value? "label"
    chosen := (r.values "state").filterMap State.parse?
    flagged := if r.isGiven "flagged" then some true else none
    after := time? r "after"
    before := time? r "before"
    any := r.isGiven "any"
    sort := (r.value? "sort").bind SortKey.parse?
    ascending := r.isGiven "asc"
    limit := limit? r }

/-- The value of an argument that was required. -/
def needed (r : Reading) (name : String) : String :=
  (r.value? name).getD ""

/-- The command that some words with the arguments of the last level stand for. -/
def command? (path : List String) (r : Reading) : Option Command :=
  match path with
  | ["import"] => some (.importItems (needed r "file"))
  | ["search"] => some (.search (request r) (r.isGiven "json"))
  | ["get"] => some (.get (needed r "reference") (r.isGiven "json"))
  | ["mark"] =>
    (State.parse? (needed r "state")).map fun state => .mark state (r.values "references")
  | ["delete"] => some (.delete (r.values "references"))
  | ["status"] => some (.status (r.isGiven "json"))
  | ["config", "show"] => some (.showSettings (r.isGiven "json"))
  | ["config", "set"] => some (.setSetting (needed r "key") (needed r "value"))
  | ["completions"] => some (.completions (needed r "shell"))
  | _ => none

/-- The innermost reading in which an argument is given. -/
def innermost (readings : List Reading) (name : String) : Reading :=
  (readings.reverse.find? (·.isGiven name)).getD {}

/-- The largest number that verbosity is counted to. -/
def mostVerbose : Nat := 255

/-- **Reads a command line**, without the name of the program. -/
def parse (args : List String) : Except UsageError CommandLine := do
  let (path, readings) ← readLevels deepest [] args
  match command? path (readings.getLastD {}) with
  | none => throw .missingCommand
  | some command =>
    return {
      command
      verbose := min mostVerbose ((innermost readings "verbose").times "verbose")
      quiet := (innermost readings "quiet").isGiven "quiet"
      dataDirectory := (innermost readings "data-dir").value? "data-dir" }

end CommandLine

end LiveSearch
