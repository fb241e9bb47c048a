import LiveSearch.Proofs.Corpus.LastWrite
import LiveSearch.Proofs.Index.Holdings

/-!
# Transactions of the index

What is written to an index waits for a **commit**. Nobody sees it before, and a **rollback** drops
it, as does closing the index and opening it again. So it is decided by what comes next whether a
write counts (`Index.isKept`): it is **durable** if a commit comes before anything that drops it
(`Index.durable`).

The one thing to arrange is the order within a transaction. A new version of an item is two
operations, the deletion of the old one and the addition of the new one, and both wait in the same
transaction with the versions that came before and after. Carried out one by one they leave one
document for a reference at most, whatever the transactions are cut from: the searchable documents
are those that the durable writes leave when they are carried out in order from nothing, as if no
other write had ever been made (`Index.documents_used`).

Seen from outside, then, **an index is the map that its durable writes amount to**
(`Index.shows_durable`).
-/

namespace LiveSearch

namespace Write

/-! ### Writes on a map -/

/-- **A map after a write**: an item stands under its reference, in the place of what was there, or
nothing stands under a reference any more. -/
def record (contents : Reference → Option Item) : Write → Reference → Option Item
  | .put item => fun ref => if item.ref = ref then some item else contents ref
  | .remove removed => fun ref => if removed = ref then none else contents ref

/-- **The map that some writes amount to**, carried out one after the other from nothing. -/
def recordAll (writes : List Write) : Reference → Option Item :=
  writes.foldl record fun _ => none

/-- Under a reference there is what the last write about it has left. -/
theorem recordAll_eq_leave (writes : List Write) (ref : Reference) :
    recordAll writes ref = leave writes ref := by
  have hlast := foldl_of_last (f := record) (· ref) (·.ref = ref) left (l := writes)
    (fun contents w _ => by cases w <;> rfl) fun _ => none
  rw [recordAll, leave, last?]
  refine hlast.trans ?_
  cases writes.reverse.find? (·.ref = ref) <;> rfl

/-- The map that some writes amount to is in step with the documents that they leave. -/
theorem exists_inStep (writes : List Write) :
    ∃ s, InStep (recordAll writes) s ((writes.flatMap operations).foldl Index.carryOut []) := by
  have hinStep := InStep.empty.writes writes
  refine ⟨allToStore {} writes, ?_⟩
  have hcontents : (allNews {} writes).foldl Event.record (fun _ => none) = recordAll writes := by
    funext ref
    have hget := hinStep.get ref
    rw [get_allToStore] at hget
    rw [recordAll_eq_leave, leave]
    cases hlast : last? writes ref with
    | none =>
      rw [hlast] at hget
      exact (Except.ok.inj hget).symm
    | some w =>
      rw [hlast] at hget
      exact (Except.ok.inj hget).symm
  rw [← hcontents]
  exact hinStep

end Write

namespace Index

/-! ### An index on a disk -/

/-- **What is done to an index on a disk.** -/
inductive Use where
  /-- An item is added, or takes the place of the version that is there, or a reference is
  deleted. -/
  | write (w : Write)
  /-- What has been written becomes visible, and is on the disk. -/
  | commit
  /-- What has been written since the last commit is dropped. -/
  | rollback
  /-- The index is closed and opened again. -/
  | reopen

/-- The index with one more write pending. -/
def enter (ix : Index) : Write → Index
  | .put item => ix.add item
  | .remove ref => ix.delete ref

/-- The index that is opened where this one has been closed: the committed segments are on the
disk. -/
def reopened (ix : Index) : Index :=
  { segments := ix.segments }

/-- The index after a use. -/
def use (ix : Index) : Use → Index
  | .write w => ix.enter w
  | .commit => ix.commit
  | .rollback => ix.rollback
  | .reopen => ix.reopened

/-- A new index after some uses. -/
def used (uses : List Use) : Index :=
  uses.foldl use {}

/-! ### Durable writes -/

/-- **Is what waits for a commit kept** by what is done next? -/
def isKept : List Use → Bool
  | [] => false
  | .write _ :: rest => isKept rest
  | .commit :: _ => true
  | .rollback :: _ => false
  | .reopen :: _ => false

/-- **The durable writes**, in order: those that a commit has come for. -/
def durable : List Use → List Write
  | [] => []
  | .write w :: rest => if isKept rest then w :: durable rest else durable rest
  | .commit :: rest => durable rest
  | .rollback :: rest => durable rest
  | .reopen :: rest => durable rest

/-! ### The documents of an index -/

variable {ix : Index}

/-- The documents that a commit would make searchable. -/
def upcoming (ix : Index) : List Document :=
  ix.pending.foldl carryOut ix.documents

theorem enter_eq_enqueueAll (ix : Index) (w : Write) : ix.enter w = ix.enqueueAll w.operations := by
  cases w <;> rfl

theorem upcoming_enter (ix : Index) (w : Write) :
    (ix.enter w).upcoming = w.operations.foldl carryOut ix.upcoming := by
  rw [enter_eq_enqueueAll]
  exact List.foldl_append

theorem documents_enter (ix : Index) (w : Write) : (ix.enter w).documents = ix.documents := by
  rw [enter_eq_enqueueAll]
  rfl

theorem upcoming_commit (ix : Index) : ix.commit.upcoming = ix.upcoming :=
  ix.documents_commit

theorem upcoming_rollback (ix : Index) : ix.rollback.upcoming = ix.documents := rfl

theorem documents_rollback (ix : Index) : ix.rollback.documents = ix.documents := rfl

/-- To close an index and open it again is to roll back. -/
theorem reopened_eq_rollback (ix : Index) : ix.reopened = ix.rollback := rfl

/-- **What some uses make of the documents**: the durable writes are carried out, in order, on those
that were searchable, or were about to become so if that has been kept. -/
theorem documents_foldl_use (uses : List Use) (ix : Index) :
    (uses.foldl use ix).documents =
      ((durable uses).flatMap Write.operations).foldl carryOut
        (if isKept uses then ix.upcoming else ix.documents) := by
  induction uses generalizing ix with
  | nil => rfl
  | cons u rest ih =>
    rw [List.foldl_cons, ih]
    cases u with
    | write w =>
      rw [use, upcoming_enter, documents_enter, durable, isKept]
      cases isKept rest with
      | true => rw [if_pos rfl, if_pos rfl, if_pos rfl, List.flatMap_cons, List.foldl_append]
      | false => rfl
    | commit =>
      -- nothing is pending after a commit, and what was pending can be searched
      rw [use, upcoming_commit, documents_commit, ← upcoming, ite_self]
      rfl
    | rollback =>
      rw [use, upcoming_rollback, documents_rollback, ite_self]
      rfl
    | reopen =>
      rw [use, reopened_eq_rollback, upcoming_rollback, documents_rollback, ite_self]
      rfl

/-- **The documents of an index are those of its durable writes.** -/
theorem documents_used (uses : List Use) :
    (used uses).documents = ((durable uses).flatMap Write.operations).foldl carryOut [] := by
  rw [used, documents_foldl_use]
  have hempty : (if isKept uses then ({} : Index).upcoming else ({} : Index).documents) = [] :=
    ite_self _
  rw [hempty]

/-! ### Writes that are not committed -/

theorem used_append (uses later : List Use) :
    used (uses ++ later) = later.foldl use (used uses) :=
  List.foldl_append

theorem used_concat (uses : List Use) (u : Use) : used (uses ++ [u]) = (used uses).use u :=
  used_append uses [u]

/-- Pending writes leave the segments alone. -/
theorem segments_foldl_write (ix : Index) (writes : List Write) :
    ((writes.map Use.write).foldl use ix).segments = ix.segments := by
  induction writes generalizing ix with
  | nil => rfl
  | cons w rest ih =>
    rw [List.map_cons, List.foldl_cons, ih, use, enter_eq_enqueueAll]
    rfl

/-- An index is searched, and its documents counted, in its segments alone. -/
theorem search_eq_of_segments_eq {ix ix' : Index} (h : ix.segments = ix'.segments) :
    ix.search = ix'.search ∧ ix.count = ix'.count := by
  obtain ⟨segments, pending⟩ := ix
  obtain ⟨segments', pending'⟩ := ix'
  obtain rfl : segments = segments' := h
  exact ⟨rfl, rfl⟩

/-- Pending writes are dropped without a trace. -/
theorem rollback_foldl_write (ix : Index) (writes : List Write) :
    ((writes.map Use.write).foldl use ix).rollback = ix.rollback := by
  rw [rollback, segments_foldl_write, rollback]

/-! ### What is seen of an index -/

/-- **An index shows the items**: each of them has its document and no reference has two, so many of
them are counted, and an answer to a query lists those that the query finds, or there is no answer
because the query has none for any index. -/
structure ShowsItems (ix : Index) (items : List Item) : Prop where
  /-- The searchable documents are those of the items. -/
  documents : ix.documents.Perm (items.map Document.ofItem)
  /-- No reference has two documents. -/
  distinct : (ix.documents.map (·.ref)).Nodup
  /-- All of the items are counted. -/
  count : ix.count = items.length
  /-- An answer lists the items that the query finds. -/
  search : ∀ conditions matchAll,
    match Query.ofConditions conditions matchAll with
    | .error e => ix.search conditions matchAll = .error e
    | .ok q => ∃ hits, ix.search conditions matchAll = .ok hits ∧
        ListsItems hits items fun item => q.finds (Document.ofItem item) = true

/-- An index with documents in step with a map shows the items of the map. -/
theorem showsItems_of_inStep {contents : Reference → Option Item} {s : Store}
    (h : InStep contents s ix.documents) : ix.ShowsItems s.stored := by
  refine ⟨h.perm_documents, h.distinct, ?_, fun conditions matchAll => ?_⟩
  · rw [count, h.perm_documents.length_eq, List.length_map]
  · cases hq : Query.ofConditions conditions matchAll with
    | error e =>
      rw [search, hq]
      rfl
    | ok q =>
      obtain ⟨hits, hsearch, hlists⟩ := ix.answers_of_query hq
      refine ⟨hits, hsearch, ?_⟩
      exact hlists.items_of_perm h.perm_documents (.of_map _ h.nodup_refs_stored) fun _ _ => .rfl

/-- **An index shows the map that its durable writes amount to**, however writes, commits, rollbacks
and reopenings follow each other. There is a list of the items of the map, each under its own
reference, and these are the items that the index shows: with one document for each reference at
most, in the count, and in the answers. Writes that have not been committed are not seen, neither in
an answer nor in the count. And where they are rolled back, or the index is closed and opened again,
it is just what the last commit has made of it. -/
theorem shows_durable (uses : List Use) :
    (∃ items : List Item,
      (∀ ref item, Write.recordAll (durable uses) ref = some item ↔ item ∈ items ∧ item.ref = ref) ∧
        (used uses).ShowsItems items) ∧
      (∀ writes : List Write,
        (used (uses ++ writes.map .write)).search = (used uses).search ∧
          (used (uses ++ writes.map .write)).count = (used uses).count) ∧
      ∀ writes : List Write,
        used (uses ++ .commit :: writes.map .write ++ [.rollback]) = used (uses ++ [.commit]) ∧
          used (uses ++ .commit :: writes.map .write ++ [.reopen]) = used (uses ++ [.commit]) := by
  refine ⟨?_, fun writes => ?_, fun writes => ?_⟩
  · obtain ⟨s, hinStep⟩ := Write.exists_inStep (durable uses)
    refine ⟨s.stored, fun ref item => ?_, showsItems_of_inStep (documents_used uses ▸ hinStep)⟩
    rw [hinStep.mem_stored]
    constructor
    · intro hitem
      have href := hinStep.keyed ref item hitem
      exact ⟨href ▸ hitem, href⟩
    · rintro ⟨hitem, rfl⟩
      exact hitem
  · rw [used_append]
    exact search_eq_of_segments_eq (segments_foldl_write _ writes)
  · have hcommitted : (used (uses ++ [.commit])).rollback = used (uses ++ [.commit]) := by
      rw [used_concat]
      rfl
    have hdropped : (used (uses ++ .commit :: writes.map .write)).rollback =
        used (uses ++ [.commit]) := by
      rw [List.append_cons, used_append, rollback_foldl_write, hcommitted]
    exact ⟨(used_concat _ _).trans hdropped, (used_concat _ _).trans hdropped⟩

/-- A second version that is rolled back, a deletion that is undone in its own transaction, and an
item that is lost because the index is closed too early. -/
example (old new other : Item) :
    durable [.write (.put old), .commit, .write (.put new), .rollback, .write (.remove old.ref),
      .write (.put old), .commit, .write (.put other), .reopen, .commit] =
        [.put old, .remove old.ref, .put old] := rfl

end Index

end LiveSearch
