import LiveSearch.CommandLine
import LiveSearch.Corpus
import LiveSearch.Search.Report

/-!
# Carrying out commands

* `Command.run` – **what a command does** to the corpus and what it reports. References may be
  abbreviated; a command for several items looks all of them up before it changes any.
* `Report.print` – the text of a report.
-/

namespace LiveSearch

open Text

/-- What a command finds around the corpus. -/
structure Surroundings where
  /-- Where the corpus is kept. -/
  dataDirectory : String
  /-- The text of a file; a hyphen stands for the input of the program. -/
  read : String → Option String

/-- What a command reports. -/
inductive Report where
  /-- Some lines. -/
  | lines (s : String)
  /-- What a search has found, for a reader or as JSON. -/
  | findings (f : SearchFindings) (json : Bool)
deriving DecidableEq, Inhabited

namespace Report

/-- A report of one JSON value. -/
def ofJson (value : Json) : Report :=
  .lines (String.ofList value.compact ++ "\n")

/-- The text of a report. -/
def print : Report → String
  | .lines s => s
  | .findings f json => if json then String.ofList f.toJson.compact ++ "\n" else f.report

end Report

/-! ### Showing an item -/

namespace Item

/-- A line with a name, unless there is nothing behind it. -/
def line (name value : String) : String :=
  if value.isEmpty then "" else name ++ ": " ++ value ++ "\n"

/-- A line with a name and a list, unless the list is empty. -/
def listLine (name : String) (values : List String) : String :=
  if values.isEmpty then "" else name ++ ": " ++ String.intercalate ", " values ++ "\n"

/-- An item for a reader. -/
def describe (item : Item) : String :=
  item.ref.display ++ " " ++ item.title ++ "\n" ++
    "feed: " ++ item.feed ++ "\n" ++
    line "link" item.link ++
    line "author" item.author ++
    "state: " ++ item.state.name ++ (if item.flagged then ", flagged" else "") ++ "\n" ++
    listLine "categories" item.categories ++
    listLine "labels" item.labels ++
    (if item.content.isEmpty then "" else "\n" ++ item.content ++ "\n")

end Item

namespace Command

/-! ### The commands -/

/-- The references that some texts stand for, unless one of them stands for none or for several. -/
def resolveAll (c : Corpus) (texts : List String) : Except Failure (List Reference) :=
  texts.mapM c.store.findReference

/-- A report on the outcome of a change. -/
def reporting (describe : Nat → String) (change : Corpus × Except Failure Nat) :
    Corpus × Except Failure Report :=
  (change.1, change.2.map fun count => .lines (describe count))

/-- Adds the items of a text. -/
def importText (c : Corpus) (text : String) : Corpus × Except Failure Report :=
  match (Json.ofText? text).bind Item.ofImport? with
  | none => (c, .error .malformedJson)
  | some items =>
    reporting (fun n => "Imported " ++ Decimal.render n ++ " item(s)\n") (c.addItems items)

/-- Searches for items. -/
def searchItems (c : Corpus) (request : SearchRequest) (json : Bool) : Except Failure Report := do
  let settings ← (Settings.ofStore c.store).mapError SettingError.toFailure
  let findings ← request.execute c.sources settings
  return .findings findings json

/-- Shows an item. -/
def showItem (c : Corpus) (text : String) (json : Bool) : Except Failure Report := do
  let ref ← c.store.findReference text
  let item ← c.store.resolve ref
  return .lines (if json then String.ofList item.toJson.pretty ++ "\n" else item.describe)

/-- Moves items to a state. -/
def markItems (c : Corpus) (state : State) (texts : List String) :
    Corpus × Except Failure Report :=
  match resolveAll c texts with
  | .error e => (c, .error e)
  | .ok refs =>
    reporting (fun n => "Marked " ++ Decimal.render n ++ " item(s) " ++ state.name ++ "\n")
      (c.setState refs state)

/-- Deletes items. -/
def deleteItems (c : Corpus) (texts : List String) : Corpus × Except Failure Report :=
  match resolveAll c texts with
  | .error e => (c, .error e)
  | .ok refs =>
    reporting (fun n => "Deleted " ++ Decimal.render n ++ " item(s)\n") (c.delete refs)

/-- Shows the numbers of items. -/
def statusReport (dataDirectory : String) (c : Corpus) (json : Bool) : Report :=
  if json then
    .ofJson
      (.record
        [("data_dir", .ofString dataDirectory),
          ("items", .natural c.store.count),
          ("indexed", .natural c.index.count)])
  else
    .lines
      ("Data directory: " ++ dataDirectory ++ "\n" ++
        "Items: " ++ Decimal.render c.store.count ++ "\n" ++
        "Indexed: " ++ Decimal.render c.index.count ++ "\n")

/-- The line of a setting, which says if the setting has not been stored. -/
def settingLine (store : Store) (entry : String × String) : String :=
  entry.1 ++ " = " ++ entry.2 ++ (if (store.setting? entry.1).isSome then "" else " (default)") ++
    "\n"

/-- Shows the settings. -/
def settingsReport (c : Corpus) (json : Bool) : Except Failure Report := do
  let settings ← (Settings.ofStore c.store).mapError SettingError.toFailure
  if json then return .ofJson settings.toJson
  else return .lines (String.join (settings.entries.map (settingLine c.store)))

/-- Stores a setting. -/
def storeSetting (c : Corpus) (key value : String) : Corpus × Except Failure Report :=
  match Settings.storeValue c.store key value with
  | .error e => (c, .error e.toFailure)
  | .ok store => ({ c with store }, .ok (.lines (key ++ " = " ++ trim value ++ "\n")))

/-- **What a command does.** Completions have nothing to do with the corpus and are not written
here. -/
def run (around : Surroundings) (c : Corpus) : Command → Corpus × Except Failure Report
  | .importItems file =>
    match around.read file with
    | none => (c, .error (.io ("cannot read " ++ file)))
    | some text => importText c text
  | .search request json => (c, searchItems c request json)
  | .get text json => (c, showItem c text json)
  | .mark state texts => markItems c state texts
  | .delete texts => deleteItems c texts
  | .status json => (c, .ok (statusReport around.dataDirectory c json))
  | .showSettings json => (c, settingsReport c json)
  | .setSetting key value => storeSetting c key value
  | .completions _ => (c, .ok (.lines ""))

end Command

end LiveSearch
