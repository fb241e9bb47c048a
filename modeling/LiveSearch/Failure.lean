import LiveSearch.Text.Decimal

/-!
# What can go wrong

The operations of the library fail with a **cause**, and the sentence shown to the user is made from
the cause in one place.

* `Failure` – the causes.
* `Failure.message` – their sentences.
* `Failure.isNotFound` – the one cause that says that a thing does not exist, as opposed to a lookup
  that could not be carried out.
-/

namespace LiveSearch

open Text

/-- What a database was doing when it failed. -/
inductive DatabaseStage where
  | general
  | storage
  | transaction
  | table
  | commit
  | opening
deriving DecidableEq, Inhabited

/-- The words for a stage. -/
def DatabaseStage.description : DatabaseStage → String
  | .general => "database"
  | .storage => "database storage"
  | .transaction => "database transaction"
  | .table => "database table"
  | .commit => "database commit"
  | .opening => "database open"

/-- The cause of a failed operation. -/
inductive Failure where
  /-- Reading or writing failed. -/
  | io (detail : String)
  /-- The database refused an operation. -/
  | database (stage : DatabaseStage) (detail : String)
  /-- The index engine refused an operation. -/
  | index (detail : String)
  /-- A value could not be written as JSON, or not be read from it. -/
  | json (detail : String)
  /-- A setting is unknown or its value is not acceptable. -/
  | configuration (detail : String)
  /-- There is no thing of this kind and name. -/
  | notFound (kind name : String)
  /-- An abbreviated reference stands for more than one item. -/
  | ambiguous (text : String) (count : Nat)
  /-- The data directory is not there and cannot be made. -/
  | dataDirectory (path : String)
  /-- The conditions of a query are not acceptable. -/
  | invalidQuery (detail : String)
  /-- The index did not answer a query. -/
  | searchFailed (detail : String)
  /-- The session has been closed. -/
  | sessionClosed
  /-- The operation needs a task runner, or a task stopped. -/
  | runtime (detail : String)
deriving DecidableEq, Inhabited

namespace Failure

/-- The failure of the index engine on an argument that it does not accept. -/
def invalidArgument (detail : String) : Failure :=
  .index ("An invalid argument was passed: '" ++ detail ++ "'")

/-- The failure of reading a text that is not the JSON form of the expected value. -/
def malformedJson : Failure :=
  .json "the text is not the JSON form of the expected value"

/-- The failure of opening a session where there is nothing that could do its work. -/
def noTaskRunner : Failure :=
  .runtime "there is no reactor running, must be called from the context of a Tokio 1.x runtime"

/-- Does the failure say that a thing does not exist? -/
def isNotFound : Failure → Bool
  | .notFound _ _ => true
  | _ => false

/-- The sentence that describes a failure. -/
def message : Failure → String
  | .io detail => "I/O error: " ++ detail
  | .database stage detail => stage.description ++ " error: " ++ detail
  | .index detail => "index error: " ++ detail
  | .json detail => "serialization error: " ++ detail
  | .configuration detail => "configuration error: " ++ detail
  | .notFound kind name => kind ++ " not found: " ++ name
  | .ambiguous text count =>
    "reference '" ++ text ++ "' is ambiguous (" ++ Decimal.render count ++ " matches)"
  | .dataDirectory path => "data directory does not exist and could not be created: " ++ path
  | .invalidQuery detail => "invalid query: " ++ detail
  | .searchFailed detail => "search failed: " ++ detail
  | .sessionClosed => "search session is closed"
  | .runtime detail => "runtime error: " ++ detail

end Failure

end LiveSearch
