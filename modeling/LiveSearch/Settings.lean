import LiveSearch.Store

/-!
# Settings

Four settings tune a session. They are typed, stored and shown as texts.

* `Settings.set` – **one setting from its text**: numbers with blanks around them, truth values in
  four spellings each and in any case.
* `Settings.entries` – the settings as texts; setting them all gives the settings back.
* `Settings.ofStore`, `Settings.storeValue` – stored settings are checked when they are written, and
  read over the defaults.
-/

namespace LiveSearch

open Text

/-- The **settings** of a session. -/
structure Settings where
  /-- How many hits are looked up in the background as soon as a query has completed. -/
  eagerResolveCount : Nat := 20
  /-- Are hits dropped whose items cannot be looked up? -/
  verifyExistence : Bool := false
  /-- How many events a batch needs to be planned in the background; zero stands for never. -/
  backgroundScanThreshold : Nat := 512
  /-- How many references are held back while a query runs. -/
  replayCapacity : Nat := 4096
deriving DecidableEq, Inhabited

/-- Why a setting cannot be set. -/
inductive SettingError where
  /-- The text is not a number, or the number is too large. -/
  | invalidNumber (key value : String)
  /-- The text is not a truth value. -/
  | invalidBool (key value : String)
  /-- There is no such setting. -/
  | unknownKey (key : String)
deriving DecidableEq

namespace Settings

/-- The keys of the settings. -/
def keys : List String :=
  ["eager_resolve_count", "verify_existence", "background_scan_threshold", "replay_capacity"]

end Settings

/-- The sentence that describes why a setting cannot be set. -/
def SettingError.message : SettingError → String
  | .invalidNumber key value => "invalid value '" ++ value ++ "' for " ++ key
  | .invalidBool key value =>
    "invalid value '" ++ value ++ "' for " ++ key ++ " (expected true or false)"
  | .unknownKey key =>
    "unknown setting '" ++ key ++ "' (expected one of: " ++
      String.intercalate ", " Settings.keys ++ ")"

namespace Settings

/-- Reads a number of at most sixty-four bits with blanks around it. -/
def parseNumber (key value : String) : Except SettingError Nat :=
  match Decimal.parseWord? (trimChars value.toList) with
  | some n => .ok n
  | none => .error (.invalidNumber key value)

/-- Reads a truth value with blanks around it, in any case. -/
def parseBool (key value : String) : Except SettingError Bool :=
  let word := (trim value).toLower
  if word ∈ ["true", "yes", "on", "1"] then .ok true
  else if word ∈ ["false", "no", "off", "0"] then .ok false
  else .error (.invalidBool key value)

/-- The text of a truth value. -/
def boolText (b : Bool) : String :=
  if b then "true" else "false"

/-- Sets one setting from its text. -/
def set (s : Settings) (key value : String) : Except SettingError Settings :=
  if key = "eager_resolve_count" then do
    return { s with eagerResolveCount := ← parseNumber key value }
  else if key = "verify_existence" then do
    return { s with verifyExistence := ← parseBool key value }
  else if key = "background_scan_threshold" then do
    return { s with backgroundScanThreshold := ← parseNumber key value }
  else if key = "replay_capacity" then do
    return { s with replayCapacity := ← parseNumber key value }
  else .error (.unknownKey key)

/-- The settings as texts. -/
def entries (s : Settings) : List (String × String) :=
  [("eager_resolve_count", Decimal.render s.eagerResolveCount),
    ("verify_existence", boolText s.verifyExistence),
    ("background_scan_threshold", Decimal.render s.backgroundScanThreshold),
    ("replay_capacity", Decimal.render s.replayCapacity)]

/-- The settings as JSON. -/
def toJson (s : Settings) : Json :=
  .record
    [("eager_resolve_count", .natural s.eagerResolveCount),
      ("verify_existence", .bool s.verifyExistence),
      ("background_scan_threshold", .natural s.backgroundScanThreshold),
      ("replay_capacity", .natural s.replayCapacity)]

/-- Reads the settings with the given keys from the store over the ones there are. -/
def readKeys (store : Store) : List String → Settings → Except SettingError Settings
  | [], s => .ok s
  | key :: rest, s =>
    match store.setting? key with
    | none => readKeys store rest s
    | some value =>
      match s.set key value with
      | .ok s => readKeys store rest s
      | .error e => .error e

/-- The stored settings, over the defaults. -/
def ofStore (store : Store) : Except SettingError Settings :=
  readKeys store keys {}

/-- Checks and stores one setting. -/
def storeValue (store : Store) (key value : String) : Except SettingError Store :=
  match set {} key value with
  | .ok _ => .ok (store.putSetting key (trim value))
  | .error e => .error e

end Settings

/-- A setting that cannot be set, as the failure of an operation. -/
def SettingError.toFailure (e : SettingError) : Failure :=
  .configuration e.message

end LiveSearch
