import LiveSearch.Corpus
import LiveSearch.Service

/-!
# The newsroom

A **newsroom** is a corpus together with the sessions that show it. There is one bus, kept by the
service: the changes of the corpus are announced on it, and the sessions listen to it. Queries are
answered by the index and items are looked up in the store, both as they are at that moment.

* `Newsroom.corpus`, `Newsroom.withCorpus` – the corpus of a newsroom, with the bus of its sessions.
* `Newsroom.change` – **something is done to the corpus**, and what it announces waits for the
  sessions.
* `Newsroom.settle` – the work of the sessions ends.
* `Newsroom.reopen` – the corpus is closed and opened again, without sessions.
-/

namespace LiveSearch

/-- A corpus with the sessions that show it. -/
structure Newsroom where
  store : Store := {}
  index : Index := {}
  service : Service := {}
deriving Inhabited

namespace Newsroom

/-- The corpus, with the bus that the sessions listen to. -/
def corpus (room : Newsroom) : Corpus :=
  { store := room.store, index := room.index, bus := room.service.bus }

/-- The newsroom with its corpus in a new condition. -/
def withCorpus (room : Newsroom) (c : Corpus) : Newsroom :=
  { store := c.store, index := c.index, service := { room.service with bus := c.bus } }

/-- What sessions get from the corpus as it is. -/
def sources (room : Newsroom) : Sources :=
  room.corpus.sources

/-- **Does something to the corpus**, and gives what comes of it. -/
def change {α : Type} (room : Newsroom) (f : Corpus → Corpus × α) : Newsroom × α :=
  let (c, result) := f room.corpus
  (room.withCorpus c, result)

/-- Ends all work of the sessions that is not held back. -/
def settle (room : Newsroom) : Newsroom :=
  { room with service := room.service.settle room.sources }

/-- The newsroom after its corpus has been closed and opened again; its sessions are gone. -/
def reopen (room : Newsroom) : Newsroom :=
  let empty : Newsroom := { service := { settings := room.service.settings } }
  empty.withCorpus room.corpus.reopen

end Newsroom

end LiveSearch
