import LiveSearch.CommandLine.Execution
import LiveSearch.Proofs.Corpus.Adding
import LiveSearch.Proofs.Reference.Abbreviations

/-!
# Commands are carried out as a whole

A command goes through several things, and any of them can be wrong: the texts that references are
given in, and the records of an import. All of them are gone through before anything is done. So a
command that fails does nothing (`Command.fst_run_of_error`), and it fails for the first text that
stands for no stored item or for several (`Command.resolveAll_cases`), or for any record that stands
for no item (`Command.importText_of_broken`).

An import that does not fail adds its items, and made once more it changes nothing
(`Command.run_as_a_whole`). This is said of an index in which nothing is pending, and every command
leaves it so (`Command.pending_run`).
-/

namespace LiveSearch

/-! ### Readers that go through a list -/

section Lists

variable {ε α β : Type}

/-- **A reader that goes through a list** succeeds for every entry, or fails for the first for which
it fails. -/
theorem mapM_cases (f : α → Except ε β) (xs : List α) :
    (∃ ys, xs.mapM f = .ok ys ∧ ∀ x ∈ xs, ∃ y, f x = .ok y) ∨
      ∃ before x behind e, xs = before ++ x :: behind ∧ (∀ x' ∈ before, ∃ y, f x' = .ok y) ∧
        f x = .error e ∧ xs.mapM f = .error e := by
  induction xs with
  | nil => exact Or.inl ⟨[], rfl, fun x hx => absurd hx List.not_mem_nil⟩
  | cons first rest ih =>
    rw [List.mapM_cons]
    rcases hfirst : f first with e | y
    · exact Or.inr ⟨[], first, rest, e, rfl, fun x hx => absurd hx List.not_mem_nil, hfirst, rfl⟩
    rcases ih with ⟨ys, hys, hall⟩ | ⟨before, x, behind, e, rfl, hbefore, hx, he⟩
    · rw [hys]
      exact Or.inl ⟨y :: ys, rfl, List.forall_mem_cons.mpr ⟨⟨y, hfirst⟩, hall⟩⟩
    · rw [he]
      exact Or.inr ⟨first :: before, x, behind, e, rfl,
        List.forall_mem_cons.mpr ⟨⟨y, hfirst⟩, hbefore⟩, hx, rfl⟩

/-- Values are read for a list if one is read for each entry. -/
theorem mapM_eq_some_iff {f : α → Option β} {xs : List α} {ys : List β} :
    xs.mapM f = some ys ↔ xs.map f = ys.map some := by
  induction xs generalizing ys with
  | nil => cases ys <;> simp
  | cons x xs ih =>
    rw [List.mapM_cons, List.map_cons]
    rcases f x with _ | y
    · cases ys <;> simp
    cases ys with
    | nil => cases xs.mapM f <;> simp
    | cons y' ys =>
      rw [List.map_cons, List.cons.injEq, ← ih]
      cases xs.mapM f <;> simp

/-- A list with an entry that stands for nothing stands for nothing. -/
theorem mapM_eq_none {f : α → Option β} {xs : List α} (h : ∃ x ∈ xs, f x = none) :
    xs.mapM f = none := by
  obtain ⟨x, hmem, hx⟩ := h
  cases hxs : xs.mapM f with
  | none => rfl
  | some ys =>
    have hin : f x ∈ ys.map some := mapM_eq_some_iff.mp hxs ▸ List.mem_map_of_mem hmem
    rw [hx] at hin
    simp at hin

end Lists

namespace Store

variable {s : Store} {text : String} {e : Failure}

/-- **A text misses**, with a failure that says so: it abbreviates no stored reference, or it
abbreviates several. -/
inductive Misses (s : Store) (text : String) : Failure → Prop where
  | none (h : s.findByAbbreviation text = []) : Misses s text (.notFound "news item" text)
  | several (h : 2 ≤ (s.findByAbbreviation text).length) :
    Misses s text (.ambiguous text (s.findByAbbreviation text).length)

theorem misses_of_findReference (h : s.findReference text = .error e) : s.Misses text e := by
  match hfound : s.findByAbbreviation text with
  | [] =>
    rw [findReference_eq_notFound_iff.mpr hfound] at h
    cases h
    exact .none hfound
  | [ref] =>
    rw [findReference_eq_ok_iff.mpr hfound] at h
    cases h
  | _ :: _ :: _ =>
    have hseveral : 2 ≤ (s.findByAbbreviation text).length := by simp [hfound]
    rw [findReference_eq_ambiguous_iff.mpr ⟨hseveral, rfl⟩] at h
    cases h
    exact .several hseveral

theorem length_of_findReference {ref : Reference} (h : s.findReference text = .ok ref) :
    (s.findByAbbreviation text).length = 1 := by
  rw [findReference_eq_ok_iff.mp h]
  rfl

end Store

namespace Corpus

variable {c : Corpus} {e : Failure}

/-! ### Changes that fail -/

/-- Adding items does not fail. -/
theorem snd_addItems (c : Corpus) (items : List Item) :
    (c.addItems items).2 = .ok items.length := by
  cases items <;> rfl

/-- **Moving items to a state** that fails does nothing. -/
theorem fst_setState_of_error {refs : List Reference} {state : State}
    (h : (c.setState refs state).2 = .error e) : (c.setState refs state).1 = c := by
  rw [setState, perform_setState] at h ⊢
  cases hmoved : moved c.store state refs with
  | error failure => rfl
  | ok items =>
    rw [hmoved] at h
    have hok := snd_addItems c items
    exact absurd (hok.symm.trans h) (by simp)

/-- Deleting does not fail. -/
theorem isOk_delete (c : Corpus) (refs : List Reference) : ∃ n, (c.delete refs).2 = .ok n := by
  cases refs with
  | nil => exact ⟨0, rfl⟩
  | cons ref refs =>
    show ∃ n, (c.perform (.remove (ref :: refs) (ref :: refs) [])).2 = .ok n
    rw [perform_remove]
    exact ⟨_, rfl⟩

end Corpus

namespace Command

variable {around : Surroundings} {c : Corpus} {e : Failure} {texts : List String}

/-! ### References -/

/-- **The texts are looked up one after the other**: all of them stand for one stored item each, or
the first that does not is the failure of the whole. -/
theorem resolveAll_cases (c : Corpus) (texts : List String) :
    (∃ refs, resolveAll c texts = .ok refs ∧
        ∀ text ∈ texts, (c.store.findByAbbreviation text).length = 1) ∨
      ∃ before text behind e, texts = before ++ text :: behind ∧
        (∀ earlier ∈ before, (c.store.findByAbbreviation earlier).length = 1) ∧
        c.store.Misses text e ∧ resolveAll c texts = .error e := by
  have hone : ∀ {text}, (∃ ref, c.store.findReference text = .ok ref) →
      (c.store.findByAbbreviation text).length = 1 := by
    rintro text ⟨ref, href⟩
    exact Store.length_of_findReference href
  rcases mapM_cases c.store.findReference texts with ⟨refs, hrefs, hall⟩ |
    ⟨before, text, behind, e, rfl, hbefore, htext, hfails⟩
  · exact Or.inl ⟨refs, hrefs, fun text hmem => hone (hall text hmem)⟩
  · exact Or.inr ⟨before, text, behind, e, rfl, fun earlier hmem => hone (hbefore earlier hmem),
      Store.misses_of_findReference htext, hfails⟩

theorem markItems_of_error {state : State} (h : resolveAll c texts = .error e) :
    markItems c state texts = (c, .error e) := by
  rw [markItems, h]

theorem deleteItems_of_error (h : resolveAll c texts = .error e) :
    deleteItems c texts = (c, .error e) := by
  rw [deleteItems, h]

/-! ### Imports -/

section Imports

variable {text : String} {records : List Json} {items : List Item}

/-- An import of a text that is no list of records fails. -/
theorem importText_of_broken (h : ∀ records, Json.ofText? text = some (.array records) →
    ∃ record ∈ records, Item.ofRecord? record = none) :
    importText c text = (c, .error .malformedJson) := by
  have hnone : (Json.ofText? text).bind Item.ofImport? = none := by
    rcases htext : Json.ofText? text with _ | value
    · rfl
    cases value with
    | array records => exact mapM_eq_none (h records htext)
    | _ => rfl
  rw [importText, hnone]

/-- An import of a list of records adds their items. -/
theorem importText_of_records (htext : Json.ofText? text = some (.array records))
    (hitems : records.map Item.ofRecord? = items.map some) :
    importText c text = ((c.addItems items).1,
      .ok (.lines ("Imported " ++ Text.Decimal.render items.length ++ " item(s)\n"))) := by
  have hsome : (Json.ofText? text).bind Item.ofImport? = some items := by
    rw [htext]
    exact mapM_eq_some_iff.mpr hitems
  rw [importText, hsome]
  dsimp only [reporting]
  rw [Corpus.snd_addItems]
  rfl

theorem run_importItems {file : String} (hread : around.read file = some text) (c : Corpus) :
    run around c (.importItems file) = importText c text := by
  rw [run, hread]

end Imports

/-! ### Failing commands -/

theorem snd_reporting_eq_error {describe : Nat → String} {change : Corpus × Except Failure Nat}
    (h : (reporting describe change).2 = .error e) : change.2 = .error e := by
  obtain ⟨after, failure | count⟩ := change
  · exact congrArg Except.error (Except.error.inj h)
  · cases h

theorem fst_importText_of_error {text : String} (h : (importText c text).2 = .error e) :
    (importText c text).1 = c := by
  rw [importText] at h ⊢
  split at h
  · rfl
  · next items hitems =>
    have hok := c.snd_addItems items
    exact absurd (hok.symm.trans (snd_reporting_eq_error h)) (by simp)

theorem fst_markItems_of_error {state : State} (h : (markItems c state texts).2 = .error e) :
    (markItems c state texts).1 = c := by
  rw [markItems] at h ⊢
  split at h
  · rfl
  · exact Corpus.fst_setState_of_error (snd_reporting_eq_error h)

theorem fst_deleteItems_of_error (h : (deleteItems c texts).2 = .error e) :
    (deleteItems c texts).1 = c := by
  rw [deleteItems] at h ⊢
  split at h
  · rfl
  · next refs hrefs =>
    obtain ⟨n, hok⟩ := c.isOk_delete refs
    exact absurd (hok.symm.trans (snd_reporting_eq_error h)) (by simp)

theorem fst_storeSetting_of_error {key value : String}
    (h : (storeSetting c key value).2 = .error e) : (storeSetting c key value).1 = c := by
  rw [storeSetting] at h ⊢
  split at h
  · rfl
  · cases h

/-- **A command that fails does nothing.** -/
theorem fst_run_of_error {command : Command} (h : (run around c command).2 = .error e) :
    (run around c command).1 = c := by
  cases command with
  | importItems file =>
    rw [run] at h ⊢
    split at h
    · rfl
    · exact fst_importText_of_error h
  | mark state texts => exact fst_markItems_of_error h
  | delete texts => exact fst_deleteItems_of_error h
  | setSetting key value => exact fst_storeSetting_of_error h
  | search | get | status | showSettings | completions => rfl

/-- **A command leaves nothing pending** in the index, so nothing is between any two commands. -/
theorem pending_run (h : c.index.pending = []) (around : Surroundings) (command : Command) :
    (run around c command).1.index.pending = [] := by
  have hadded : ∀ items, (c.addItems items).1.index.pending = [] := fun items =>
    (Corpus.carried_addItems h items).1.pending
  cases command with
  | importItems file =>
    rw [run]
    split
    · exact h
    · rw [importText]
      split
      · exact h
      · exact hadded _
  | mark state texts =>
    rw [run, markItems]
    split
    · exact h
    · next refs hrefs =>
      show (c.setState refs state).1.index.pending = []
      rw [Corpus.setState, Corpus.perform_setState]
      split
      · exact hadded _
      · exact h
  | delete texts =>
    rw [run, deleteItems]
    split
    · exact h
    · next refs hrefs => exact (Corpus.carried_delete h refs).1.pending
  | setSetting key value =>
    rw [run, storeSetting]
    split
    · exact h
    · exact h
  | search | get | status | showSettings | completions => exact h

/-- **Commands are carried out as a whole.**

* A command that fails leaves the corpus as it was.
* Let some texts be given to be marked or deleted, of which one does not abbreviate exactly one
  stored reference. Then the command fails for the first text that does not, and this text is the
  one that the failure is about.
* An import of a text fails if the text is no list, or if any of its records stands for no item.
* Otherwise the import adds the items of the records, if nothing is pending in the index: the last
  one with its reference is stored and found, and everything else is left alone. Being made once
  more, it changes neither an item nor a document. -/
theorem run_as_a_whole (around : Surroundings) (c : Corpus) :
    (∀ command e, (run around c command).2 = .error e → (run around c command).1 = c) ∧
      (∀ texts, (∃ text ∈ texts, (c.store.findByAbbreviation text).length ≠ 1) →
        ∃ before text behind e, texts = before ++ text :: behind ∧
          (∀ earlier ∈ before, (c.store.findByAbbreviation earlier).length = 1) ∧
          c.store.Misses text e ∧ (∀ state, run around c (.mark state texts) = (c, .error e)) ∧
          run around c (.delete texts) = (c, .error e)) ∧
      ∀ file text, around.read file = some text →
        ((∀ records, Json.ofText? text = some (.array records) →
            ∃ record ∈ records, Item.ofRecord? record = none) →
          run around c (.importItems file) = (c, .error .malformedJson)) ∧
        ∀ records items, Json.ofText? text = some (.array records) →
          records.map Item.ofRecord? = items.map some → c.index.pending = [] →
            ∃ after later report, run around c (.importItems file) = (after, .ok report) ∧
              c.Adds after items ∧ run around after (.importItems file) = (later, .ok report) ∧
              (∀ ref, later.store.get ref = after.store.get ref) ∧
              later.index.documents.Perm after.index.documents := by
  refine ⟨fun command e => fst_run_of_error, fun texts hmiss => ?references,
    fun file text hread =>
      ⟨fun hbroken => ?broken, fun records items htext hitems hpending => ?adding⟩⟩
  case references =>
    rcases resolveAll_cases c texts with ⟨refs, -, hall⟩ | ⟨before, text, behind, e, htexts,
      hbefore, hmisses, hfails⟩
    · obtain ⟨text, hmem, hnot⟩ := hmiss
      exact absurd (hall text hmem) hnot
    · exact ⟨before, text, behind, e, htexts, hbefore, hmisses,
        fun state => markItems_of_error hfails, deleteItems_of_error hfails⟩
  case broken => rw [run_importItems hread, importText_of_broken hbroken]
  case adding =>
    have hrun := fun c => (run_importItems hread c).trans (importText_of_records htext hitems)
    obtain ⟨hadds, -⟩ := Corpus.adds_addItems hpending items
    obtain ⟨hagain, -⟩ := Corpus.adds_addItems hadds.pending items
    obtain ⟨hstored, hindexed⟩ := hadds.again hagain
    exact ⟨_, _, _, hrun c, hadds, hrun _, hstored, hindexed⟩

/-- The second of three texts abbreviates both items, and the third none. Of two records with one
reference the second is stored; and a list whose second record is none is not imported. -/
theorem run_as_a_whole_of_second :
    let first : Item :=
      { ref := ⟨1⟩, feed := "f", guid := "a", title := "A", state := .unread, received := 5 }
    let second : Item := { first with ref := ⟨2⟩, guid := "b" }
    let c := (Corpus.addItems {} [first, second]).1
    let record (title : String) : Json :=
      .record [("feed", .ofString "f"), ("guid", .ofString "c"), ("title", .ofString title)]
    let listing (last : Json) : String := String.ofList (Json.array [record "Old", last]).compact
    let around : Surroundings :=
      { dataDirectory := "data"
        read := fun file => some (listing (if file = "good" then record "New" else .null)) }
    run around c (.delete ["0000000000000001", "00", "77"]) = (c, .error (.ambiguous "00" 2)) ∧
      run around c (.importItems "bad") = (c, .error .malformedJson) ∧
      ∃ after report, run around c (.importItems "good") = (after, .ok report) ∧
        after.store.get (Reference.derive "f" "c") = .ok (some (Item.fresh "f" "c" "New" 0)) := by
  intro first second c record listing around
  obtain ⟨-, htexts, himports⟩ := run_as_a_whole around c
  have hlisting : ∀ last : Json, last.isIntegral = true →
      Json.ofText? (listing last) = some (.array [record "Old", last]) := by
    intro last hlast
    rw [Json.ofText?, String.toList_ofList]
    exact Json.parse?_compact (by simp [Json.isIntegral, Json.areIntegral, hlast]; decide)
  refine ⟨?references, ?bad, ?good⟩
  case references =>
    obtain ⟨before, text, behind, e, -, -, -, -, hdelete⟩ :=
      htexts ["0000000000000001", "00", "77"] ⟨"77", by simp, by decide +kernel⟩
    have hresult : (run around c (.delete ["0000000000000001", "00", "77"])).2 =
        .error (.ambiguous "00" 2) := by decide +kernel
    rw [hdelete] at hresult ⊢
    exact Prod.ext rfl hresult
  case bad =>
    obtain ⟨hbroken, -⟩ := himports "bad" _ rfl
    refine hbroken fun records hrecords => ⟨.null, ?_, rfl⟩
    rw [← Json.array.inj (Option.some.inj ((hlisting .null rfl).symm.trans hrecords))]
    simp
  case good =>
    obtain ⟨-, hadds⟩ := himports "good" _ rfl
    have hpending : c.index.pending = [] := by decide +kernel
    obtain ⟨after, -, report, hrun, ⟨hlast, -, -, -⟩, -⟩ :=
      hadds _ [Item.fresh "f" "c" "Old" 0, Item.fresh "f" "c" "New" 0]
        (hlisting (record "New") rfl) rfl hpending
    have hstored := hlast [Item.fresh "f" "c" "Old" 0] (Item.fresh "f" "c" "New" 0) [] rfl (by simp)
    exact ⟨after, report, hrun, hstored.1⟩

end Command

end LiveSearch
