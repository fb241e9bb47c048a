import LiveSearch.CommandLine.Execution

/-!
# The journal

Between two runs of the program the corpus is kept as a **journal**: what was added, deleted and
set, in order. Carrying it out again on an empty corpus gives the corpus back, with the segments of
its index.

* `JournalEntry.ofCommand` – what a command that succeeds leaves in the journal.
* `Journal.replay` – the corpus that a journal leads to.
* `JournalEntry.encode`, `JournalEntry.decode?` – an entry as a line of JSON.
-/

namespace LiveSearch

/-- Something that was done to the corpus. -/
inductive JournalEntry where
  /-- Items were added. -/
  | added (items : List Item)
  /-- Items were deleted. -/
  | deleted (refs : List Reference)
  /-- A setting was stored. -/
  | stored (key value : String)
deriving DecidableEq, Inhabited

/-- What was done to a corpus, in order. -/
abbrev Journal := List JournalEntry

namespace JournalEntry

/-- Carries out an entry again. -/
def perform (c : Corpus) : JournalEntry → Corpus
  | .added items => (c.addItems items).1
  | .deleted refs => (c.delete refs).1
  | .stored key value => { c with store := c.store.putSetting key value }

/-- The entry for a batch that the bus has announced. -/
def ofBatch (batch : List Event) : JournalEntry :=
  if batch.all (·.kind = .deleted) then .deleted (batch.map (·.ref))
  else .added (batch.filterMap (·.snapshot))

/-- An entry as JSON. -/
def toJson : JournalEntry → Json
  | .added items => .record [("added", .array (items.map Item.toJson))]
  | .deleted refs => .record [("deleted", .array (refs.map fun r => .natural r.value.toNat))]
  | .stored key value => .record [("stored", .array [.ofString key, .ofString value])]

/-- Reads an entry. -/
def ofJson? (value : Json) : Option JournalEntry := do
  match ← value.tagged? with
  | ("added", items) => return .added (← items.list? Item.ofJson?)
  | ("deleted", refs) => return .deleted ((← refs.list? Json.word?).map Reference.mk)
  | ("stored", entry) =>
    match ← entry.list? Json.string? with
    | [key, value] => return .stored key value
    | _ => none
  | _ => none

/-- The line of an entry. -/
def encode (entry : JournalEntry) : String :=
  String.ofList entry.toJson.compact

/-- The entry that a line stands for. -/
def decode? (line : String) : Option JournalEntry :=
  (Json.ofText? line).bind ofJson?

end JournalEntry

namespace Journal

/-- The corpus that a journal leads to. -/
def replay (journal : Journal) : Corpus :=
  (journal.foldl JournalEntry.perform {}).reopen

/-- The journal in the lines of a text. -/
def ofText? (text : String) : Option Journal :=
  ((text.splitOn "\n").filter (!·.isEmpty)).mapM JournalEntry.decode?

/-- The entries for what a command has done to a corpus: what the bus has announced to a
subscription, and the settings that are new. -/
def ofChange (before after : Corpus) (subscription : Nat) : Journal :=
  (after.bus.queue subscription).map JournalEntry.ofBatch ++
    (after.store.settings.entries.filter (· ∉ before.store.settings.entries)).map
      fun (key, value) => .stored key value

/-- Carries out a command, and gives the entries for what it has done. -/
def run (around : Surroundings) (c : Corpus) (command : Command) :
    Journal × Except Failure Report :=
  let (bus, subscription) := c.bus.subscribe .news
  let before := { c with bus }
  let (after, result) := command.run around before
  (ofChange before after subscription, result)

end Journal

end LiveSearch
