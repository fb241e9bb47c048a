import LiveSearch.Failure

/-!
# The data directory

The corpus is kept in a **data directory**, which is made if it is not there: the store in a file,
the index in a directory below.

* `FileTree` – the directories and files that are there, by the names that lead to them.
* `FileTree.makeDirectory?` – **makes a directory** with all that lead to it. This fails if a file
  is in the way.
* `DataDirectory.storePath`, `DataDirectory.indexPath` – the places below.
-/

namespace LiveSearch

/-- A place in a file tree, by the names that lead to it. -/
abbrev Place := List String

/-- The directories and files that are there. The root is always a directory. -/
structure FileTree where
  directories : List Place := []
  files : List Place := []
deriving DecidableEq, Inhabited

/-- The parts of a text between separators. -/
def splitAtSlashes : List Char → List (List Char)
  | [] => [[]]
  | '/' :: rest => [] :: splitAtSlashes rest
  | c :: rest =>
    match splitAtSlashes rest with
    | part :: parts => (c :: part) :: parts
    | [] => [[c]]

/-- The parts of a path; an empty part does not count. -/
def partsOfPath (path : String) : List String :=
  ((splitAtSlashes path.toList).filter (· ≠ [])).map String.ofList

/-- A path with a name below it. -/
def joinPath (path name : String) : String :=
  if path.isEmpty || path.toList.getLast? = some '/' then path ++ name else path ++ "/" ++ name

namespace FileTree

/-- The longest name, in bytes, that an entry may have. -/
def longestName : Nat := 255

/-- Can an entry have this name? -/
def isName (name : String) : Bool :=
  name.utf8ByteSize ≤ longestName && name.toList.all (· ≠ '\x00')

/-- Is there a directory at a place? -/
def isDirectory (t : FileTree) (place : Place) : Bool :=
  place = [] || place ∈ t.directories

/-- Makes one directory in a directory, unless it is there. -/
def makeOne? (t : FileTree) (place : Place) : Option FileTree :=
  if place ∈ t.files then none
  else if t.isDirectory place then some t
  else some { t with directories := t.directories ++ [place] }

/-- Goes from a place along the parts of a path, making directories on the way. -/
def makeAlong? (t : FileTree) (place : Place) : List String → Option (FileTree × Place)
  | [] => some (t, place)
  | part :: rest =>
    if part = "." then t.makeAlong? place rest
    else if part = ".." then t.makeAlong? place.dropLast rest
    else if isName part then
      match t.makeOne? (place ++ [part]) with
      | some t => t.makeAlong? (place ++ [part]) rest
      | none => none
    else none

/-- **Makes a directory.** -/
def makeDirectory? (t : FileTree) (path : String) : Option FileTree :=
  (t.makeAlong? [] (partsOfPath path)).map (·.1)

/-- The tree with a file at a path, whose directory is made. -/
def addFile? (t : FileTree) (path : String) : Option FileTree :=
  match t.makeAlong? [] (partsOfPath path).dropLast with
  | some (t, place) =>
    (partsOfPath path).getLast?.map fun name => { t with files := t.files ++ [place ++ [name]] }
  | none => none

end FileTree

/-- The place of the corpus. -/
structure DataDirectory where
  /-- The path, as it was given. -/
  path : String
deriving DecidableEq, Inhabited

namespace DataDirectory

/-- The path of the store. -/
def storePath (d : DataDirectory) : String :=
  joinPath d.path "news.redb"

/-- The path of the index. -/
def indexPath (d : DataDirectory) : String :=
  joinPath d.path "tantivy"

/-- Makes sure that the directory is there. -/
def create (t : FileTree) (path : String) : Except Failure (FileTree × DataDirectory) :=
  match t.makeDirectory? path with
  | some t => .ok (t, ⟨path⟩)
  | none => .error (.dataDirectory path)

/-- Makes sure that the directory of the index is there. -/
def createIndex (t : FileTree) (d : DataDirectory) : Except Failure FileTree :=
  match t.makeDirectory? d.indexPath with
  | some t => .ok t
  | none => .error (.dataDirectory d.indexPath)

end DataDirectory

end LiveSearch
