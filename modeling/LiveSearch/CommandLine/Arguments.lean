import LiveSearch.Calendar
import LiveSearch.Sorting
import LiveSearch.State

/-!
# Reading arguments

Arguments are read **level** by level. A level knows options, with or without a value, and then has
either positional arguments or commands, each of which begins a level of its own.

An argument that takes values collects them first and is **settled** when the next argument begins
or the level ends; only then are the values checked. So a fault in the name of a later argument is
reported before a fault in the value of an earlier one.

* `Level.readAll` – the arguments of one level, up to a command.
* `Level.check` – what can only be seen at the end of a level: arguments that exclude each other, or
  that are missing.
-/

namespace LiveSearch

open Text

/-- Why a command line is not acceptable, or what is shown instead of carrying it out. -/
inductive UsageError where
  /-- Help was asked for. -/
  | help
  /-- Nothing was given where a command is needed. -/
  | nothingGiven
  /-- Something was given, but no command. -/
  | missingCommand
  /-- There is no such command. -/
  | unknownCommand
  /-- There is no such argument. -/
  | unknownArgument
  /-- A value is missing, or is none of those that can be chosen from. -/
  | invalidValue
  /-- A value is not of the form that it should have. -/
  | malformedValue
  /-- A value is given where none is taken. -/
  | unexpectedValue
  /-- Two arguments exclude each other, or one is given twice. -/
  | conflict
  /-- An argument is missing. -/
  | missingArgument
deriving DecidableEq, Inhabited

/-! ### Arguments -/

/-- Which values an argument takes. -/
inductive ValueRule where
  /-- Any text. -/
  | text
  /-- A path, which is not empty. -/
  | path
  | state
  | sortKey
  | time
  /-- A number of at most sixty-four bits. -/
  | count
  /-- One of several words. -/
  | oneOf (words : List String)
deriving DecidableEq, Inhabited

/-- How an argument is given. -/
inductive Arity where
  /-- Without a value, to ask for help. -/
  | help
  /-- Without a value, at most once. -/
  | flag
  /-- Without a value, any number of times. -/
  | counter
  /-- With one value, at most once. -/
  | single
  /-- With one value, any number of times. -/
  | repeated
deriving DecidableEq, Inhabited

/-- An argument, with or without a name on the command line. -/
structure Argument where
  /-- The name of the argument; an option is given by it behind two hyphens. -/
  name : String
  /-- The letter by which an option is given behind one hyphen. -/
  letter : Option Char := none
  arity : Arity
  rule : ValueRule := .text
  /-- The names of arguments that are not given together with this one. -/
  excludes : List String := []
  /-- Is the argument always given? -/
  required : Bool := false
deriving DecidableEq, Inhabited

/-- Does an argument take values? -/
def Argument.takesValue (a : Argument) : Bool :=
  a.arity = .single || a.arity = .repeated

/-- What may be given on one level. -/
structure Level where
  options : List Argument := []
  positionals : List Argument := []
  commands : List String := []
deriving DecidableEq, Inhabited

/-- The number that a count is. -/
def parseCount? (s : String) : Option Nat :=
  Decimal.parseWord? s.toList

/-- Is a text a value of this kind? -/
def ValueRule.accepts (rule : ValueRule) (s : String) : Bool :=
  match rule with
  | .text => true
  | .path => !s.isEmpty
  | .state => (State.parse? s).isSome
  | .sortKey => (SortKey.parse? s).isSome
  | .time => (parseTime s).isOk
  | .count => (parseCount? s).isSome
  | .oneOf words => s ∈ words

/-- The fault of a text that is not a value of this kind. -/
def ValueRule.fault : ValueRule → UsageError
  | .path | .oneOf _ => .invalidValue
  | _ => .malformedValue

/-! ### Settling arguments -/

/-- What has been read on a level. -/
structure Reading where
  /-- The settled arguments, by name, with their values, in order. -/
  given : List (String × List String) := []
  /-- The argument that is still to be settled, with its values so far. -/
  pending : Option (Argument × List String) := none
  /-- Is the pending argument an option that waits for its value? -/
  waits : Bool := false
  /-- How many positional arguments have been passed. -/
  position : Nat := 0
  /-- Has the mark been passed behind which everything is positional? -/
  marked : Bool := false
deriving DecidableEq, Inhabited

namespace Reading

/-- Has an argument been given? -/
def isGiven (r : Reading) (name : String) : Bool :=
  r.given.any (·.1 = name)

/-- The values of an argument. -/
def values (r : Reading) (name : String) : List String :=
  (r.given.filter (·.1 = name)).flatMap (·.2)

/-- The value of an argument that is given at most once. -/
def value? (r : Reading) (name : String) : Option String :=
  (r.values name).head?

/-- How often an argument has been given. -/
def times (r : Reading) (name : String) : Nat :=
  r.given.countP (·.1 = name)

/-- The reading with an argument settled without further ado. -/
def record (r : Reading) (a : Argument) (values : List String) : Reading :=
  { r with given := r.given ++ [(a.name, values)] }

/-- Settles an argument. -/
def settle (r : Reading) (a : Argument) (values : List String) : Except UsageError Reading :=
  if a.arity = .help then .error .help
  else if a.takesValue ∧ values = [] then .error .invalidValue
  else if (a.arity = .flag ∨ a.arity = .single) ∧ r.isGiven a.name then .error .conflict
  else if values.all a.rule.accepts then .ok (r.record a values)
  else .error a.rule.fault

/-- Settles the pending argument. -/
def settlePending (r : Reading) : Except UsageError Reading :=
  match r.pending with
  | none => .ok r
  | some (a, values) => { r with pending := none }.settle a values

/-- Settles the pending argument and then another one. -/
def give (r : Reading) (a : Argument) (values : List String) : Except UsageError Reading := do
  let r ← r.settlePending
  let r ← r.settle a values
  return { r with waits := false }

/-- Begins an option that takes a value. -/
def await (r : Reading) (a : Argument) : Except UsageError Reading := do
  let r ← r.settlePending
  return { r with pending := some (a, []), waits := true }

/-- Gives the pending option its value. -/
def supply (r : Reading) (value : String) : Reading :=
  { r with
    pending := r.pending.map fun (a, values) => (a, values ++ [value])
    waits := false }

/-- Reads an option that takes a value, attached or not. -/
def readOption (r : Reading) (a : Argument) : Option String → Except UsageError Reading
  | some value => r.give a [value]
  | none => r.await a

/-- Adds a positional argument. -/
def addPositional (r : Reading) (a : Argument) (value : String) : Except UsageError Reading :=
  match r.pending with
  | some (b, values) =>
    if a.arity = .repeated ∧ b = a then .ok { r with pending := some (a, values ++ [value]) }
    else do
      let r ← r.settlePending
      return { r with pending := some (a, [value]) }
  | none => .ok { r with pending := some (a, [value]) }

end Reading

/-! ### Reading a level -/

namespace Level

/-- The option with a name. -/
def option? (level : Level) (name : List Char) : Option Argument :=
  level.options.find? (·.name.toList = name)

/-- The option with a letter. -/
def letter? (level : Level) (c : Char) : Option Argument :=
  level.options.find? (·.letter = some c)

/-- The name of an option behind its two hyphens, and the value attached to it behind an equality
sign. -/
def splitName (cs : List Char) : List Char × Option String :=
  match cs.dropWhile (· ≠ '=') with
  | [] => (cs, none)
  | _ :: value => (cs.takeWhile (· ≠ '='), some (String.ofList value))

/-- Reads an option by its name. -/
def readName (level : Level) (r : Reading) (cs : List Char) : Except UsageError Reading :=
  let (name, attached) := splitName cs
  match level.option? name with
  | none => .error .unknownArgument
  | some a =>
    if a.takesValue then r.readOption a attached
    else if attached.isSome then .error .unexpectedValue
    else r.give a []

/-- The value attached to a letter, behind an equality sign or not. -/
def attachedTo : List Char → Option String
  | [] => none
  | '=' :: value => some (String.ofList value)
  | value => some (String.ofList value)

/-- Reads options by their letters, the last of which may have a value attached to it. -/
def readLetters (level : Level) : List Char → Reading → Except UsageError Reading
  | [], r => .ok r
  | c :: rest, r =>
    match level.letter? c with
    | none => .error .unknownArgument
    | some a =>
      if a.takesValue then r.readOption a (attachedTo rest)
      else do
        let r ← r.give a []
        readLetters level rest r

/-- The fault of an argument for which there is no place. -/
def strayFault (level : Level) (r : Reading) (arg : String) : UsageError :=
  if level.commands.isEmpty || (r.marked && arg ∈ level.commands) then .unknownArgument
  else .unknownCommand

/-- Reads a positional argument. -/
def readPositional (level : Level) (r : Reading) (arg : String) : Except UsageError Reading :=
  match level.positionals[r.position]? with
  | none => .error (level.strayFault r arg)
  | some a => do
    let r ← r.addPositional a arg
    return { r with
      position := if a.arity = .repeated then r.position else r.position + 1
      waits := false }

/-- Reads an argument that is no command. -/
def readOne (level : Level) (r : Reading) (arg : String) : Except UsageError Reading :=
  if r.marked then level.readPositional r arg
  else
    match arg.toList with
    | ['-', '-'] => .ok { r with marked := true }
    | '-' :: '-' :: cs => level.readName r cs
    | '-' :: c :: cs => level.readLetters (c :: cs) r
    | _ => if r.waits then .ok (r.supply arg) else level.readPositional r arg

/-- Is an argument taken for a command? -/
def isCommand (level : Level) (r : Reading) (arg : String) : Bool :=
  !r.marked && !r.waits && arg ∈ level.commands

/-- **Reads the arguments of a level** up to a command, and gives the command with what follows
it. -/
def readAll (level : Level) :
    List String → Reading → Except UsageError (Reading × Option (String × List String))
  | [], r => .ok (r, none)
  | arg :: rest, r =>
    if level.isCommand r arg then .ok (r, some (arg, rest))
    else do
      let r ← level.readOne r arg
      readAll level rest r

/-- Has an argument been given together with one that it excludes? -/
def hasConflict (level : Level) (r : Reading) : Bool :=
  level.options.any fun a => r.isGiven a.name && a.excludes.any r.isGiven

/-- Is a positional argument missing? -/
def hasGap (level : Level) (r : Reading) : Bool :=
  level.positionals.any fun a => a.required && !r.isGiven a.name

/-- **The check at the end of a level.** -/
def check (level : Level) (r : Reading) (hasCommand : Bool) : Except UsageError Unit :=
  if !hasCommand && !level.commands.isEmpty then
    .error (if r.given.isEmpty then .nothingGiven else .missingCommand)
  else if level.hasConflict r then .error .conflict
  else if level.hasGap r then .error .missingArgument
  else .ok ()

end Level

end LiveSearch
