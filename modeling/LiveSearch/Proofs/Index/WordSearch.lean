import LiveSearch.Proofs.Index.Holdings
import LiveSearch.Proofs.Text.Words

/-!
# Searching by words

The title, the content and the author of an item are searched by their words, each of them alone or
all three at once (`WordScope`). To be found by *contains*, a text has to share a word with one of
them; to be found by *contains all* it has to share all its words with a single one; and *contains
not* is the complement of *contains*, over all the fields that are looked at
(`Index.returns_by_words`). Nothing but the set of words matters, not even to the scores.

The one exception comes from outside. A blank text is no value, and a condition without a value is
passed over: alone, it returns nothing, even where it looks for the opposite
(`Index.blank_returns_nothing`). A text without words that is not blank is a value like any other.
-/

namespace LiveSearch

open Text

/-- **Where words are looked for.** -/
inductive WordScope where
  /-- In one field. -/
  | only (field : WordField)
  /-- In all fields of words. -/
  | everywhere

namespace WordScope

/-- The field of a condition with this scope. -/
def field : WordScope → Field
  | .only .title => .title
  | .only .content => .content
  | .only .author => .author
  | .everywhere => .allFields

/-- The fields that are looked at. -/
def fields : WordScope → List WordField
  | .only field => [field]
  | .everywhere => [.title, .content, .author]

/-- The queries of the fields put together. -/
def query (part : WordField → Query) : WordScope → Query
  | .only field => part field
  | .everywhere => .anyOf [.boosted 2 (part .title), part .content, part .author]

end WordScope

/-- The text of an item in a field of words. -/
def Item.textOf (item : Item) : WordField → String
  | .title => item.title
  | .content => item.content
  | .author => item.author

namespace Query

variable {field : WordField} {s t : String} {d : Document}

/-! ### Queries for words -/

theorem finds_word {w : Token} : (term (.word field w)).finds d = true ↔ w ∈ d.wordsOf field := by
  rw [finds, Term.occursIn, Term.frequency, decide_eq_true_iff, List.countP_pos_iff]
  simp

/-- **Some word is found** where there is a common one. -/
theorem finds_someWord :
    (someWord field s).finds d = true ↔ ∃ w ∈ words s, w ∈ d.wordsOf field := by
  rw [someWord, finds_anyOf, List.any_map, List.any_eq_true]
  simp only [Function.comp_apply, finds_word, mem_distinctWords]

/-- **All words are found** where there are no others, if there are any. -/
theorem finds_everyWord :
    (everyWord field s).finds d = true ↔ words s ≠ [] ∧ ∀ w ∈ words s, w ∈ d.wordsOf field := by
  rw [everyWord]
  by_cases hnil : distinctWords s = []
  · have hwords := distinctWords_eq_nil_iff.mp hnil
    simp [hnil, hwords, finds]
  · have hwords : words s ≠ [] := fun h => hnil (distinctWords_eq_nil_iff.mpr h)
    rw [finds_allOf (by rwa [Ne, List.map_eq_nil_iff]), List.all_map, List.all_eq_true]
    simp only [Function.comp_apply, finds_word, mem_distinctWords, hwords, ne_eq, not_false_eq_true,
      true_and]

theorem finds_scope (scope : WordScope) (part : WordField → Query) :
    (scope.query part).finds d = true ↔ ∃ field ∈ scope.fields, (part field).finds d = true := by
  cases scope with
  | only field => simp [WordScope.query, WordScope.fields]
  | everywhere =>
    rw [WordScope.query, finds_anyOf]
    simp [WordScope.fields, finds]

end Query

namespace Index

open Query

variable {scope : WordScope} {specifier : Specifier} {s t : String}

/-! ### The queries of conditions on words -/

theorem ofCondition_contains (scope : WordScope) (s : String) :
    ofCondition (.onText scope.field .contains s) = .ok (scope.query (someWord · s)) := by
  rcases scope with field | _
  · cases field <;> rfl
  · rfl

theorem ofCondition_containsAll (scope : WordScope) (s : String) :
    ofCondition (.onText scope.field .containsAll s) = .ok (scope.query (everyWord · s)) := by
  rcases scope with field | _
  · cases field <;> rfl
  · rfl

theorem ofCondition_containsNot (scope : WordScope) (s : String) :
    ofCondition (.onText scope.field .containsNot s) =
      .ok (.except (scope.query (someWord · s))) := by
  rcases scope with field | _
  · cases field <;> rfl
  · rfl

/-! ### Sharing words -/

/-- The item and the text have a word in common, in one of the fields. -/
def SharesWord (scope : WordScope) (s : String) (item : Item) : Prop :=
  ∃ field ∈ scope.fields, ∃ w ∈ words s, w ∈ words (item.textOf field)

/-- The text has words, and one of the fields of the item has all of them. -/
def SharesAllWords (scope : WordScope) (s : String) (item : Item) : Prop :=
  words s ≠ [] ∧ ∃ field ∈ scope.fields, ∀ w ∈ words s, w ∈ words (item.textOf field)

theorem wordsOf_ofItem (item : Item) (field : WordField) :
    (Document.ofItem item).wordsOf field = words (item.textOf field) := by
  cases field <;> rfl

theorem finds_some_iff (item : Item) :
    (scope.query (someWord · s)).finds (Document.ofItem item) = true ↔
      SharesWord scope s item := by
  rw [finds_scope, SharesWord]
  simp only [finds_someWord, wordsOf_ofItem]

theorem finds_every_iff (item : Item) :
    (scope.query (everyWord · s)).finds (Document.ofItem item) = true ↔
      SharesAllWords scope s item := by
  rw [finds_scope, SharesAllWords]
  simp only [finds_everyWord, wordsOf_ofItem]
  exact ⟨fun ⟨field, hfield, hne, hall⟩ => ⟨hne, field, hfield, hall⟩,
    fun ⟨hne, field, hfield, hall⟩ => ⟨field, hfield, hne, hall⟩⟩

theorem not_sharesWord (h : words s = []) (item : Item) : ¬SharesWord scope s item := by
  rintro ⟨field, -, w, hw, -⟩
  rw [h] at hw
  cases hw

/-! ### What conditions on words return -/

theorem returns_contains (acts : List Act) (scope : WordScope) (s : String) :
    Returns acts (.onText scope.field .contains s) (SharesWord scope s) := by
  refine returns_onText acts (ofCondition_contains scope s) finds_some_iff fun hblank => ?_
  exact not_sharesWord (words_of_isBlankText hblank)

theorem returns_containsAll (acts : List Act) (scope : WordScope) (s : String) :
    Returns acts (.onText scope.field .containsAll s) (SharesAllWords scope s) := by
  refine returns_onText acts (ofCondition_containsAll scope s) finds_every_iff ?_
  exact fun hblank item hshares => hshares.1 (words_of_isBlankText hblank)

theorem returns_containsNot (acts : List Act) (scope : WordScope) (hblank : isBlankText s = false) :
    Returns acts (.onText scope.field .containsNot s) fun item => ¬SharesWord scope s item := by
  refine returns_of_query (by rw [isUsable_onText, hblank, Bool.not_false])
    (ofCondition_containsNot scope s) fun item => ?_
  rw [finds, Bool.not_eq_true', ← finds_some_iff, Bool.not_eq_true]

/-! ### Texts with the same words -/

/-- Conditions with the same query are answered in the same way. -/
theorem search_congr (ix : Index) {c c' : Condition} (husable : c.isUsable = c'.isUsable)
    (hquery : ofCondition c = ofCondition c') (matchAll : Bool) :
    ix.search [c] matchAll = ix.search [c'] matchAll := by
  have hcompiled : ofConditions [c] matchAll = ofConditions [c'] matchAll := by
    rw [ofConditions, ofConditions, List.filter_cons, List.filter_cons, husable]
    cases c'.isUsable with
    | true => simp only [if_true, List.filter_nil, List.mapM_cons, hquery]
    | false => rfl
  rw [search, search, hcompiled]

/-- The comparisons of words. -/
def wordSpecifiers : List Specifier :=
  [.contains, .containsAll, .containsNot]

theorem ofCondition_congr (hwords : ∀ w, w ∈ words s ↔ w ∈ words t)
    (hspecifier : specifier ∈ wordSpecifiers) (scope : WordScope) :
    ofCondition (.onText scope.field specifier s) =
      ofCondition (.onText scope.field specifier t) := by
  have hsome (field : WordField) : someWord field s = someWord field t := by
    rw [someWord, someWord, distinctWords_congr hwords]
  have hevery (field : WordField) : everyWord field s = everyWord field t := by
    rw [everyWord, everyWord, distinctWords_congr hwords]
  simp only [wordSpecifiers, List.mem_cons, List.not_mem_nil, or_false] at hspecifier
  rcases hspecifier with rfl | rfl | rfl
  · simp only [ofCondition_contains, hsome]
  · simp only [ofCondition_containsAll, hevery]
  · simp only [ofCondition_containsNot, hsome]

/-- Where only one of two texts with the same words is blank, there are none. -/
theorem words_eq_nil_of_ne (hwords : ∀ w, w ∈ words s ↔ w ∈ words t)
    (hne : isBlankText s ≠ isBlankText t) : words s = [] := by
  cases hs : isBlankText s with
  | true => exact words_of_isBlankText hs
  | false =>
    have ht : isBlankText t = true := by
      rw [hs, ne_comm, Ne, Bool.not_eq_false] at hne
      exact hne
    rw [List.eq_nil_iff_forall_not_mem]
    intro w hw
    have hwt := (hwords w).mp hw
    rw [words_of_isBlankText ht] at hwt
    cases hwt

/-- A text without words contains nothing and is contained in nothing. -/
theorem search_of_words_eq_nil (acts : List Act) (scope : WordScope) (h : words s = [])
    (hspecifier : specifier ∈ wordSpecifiers) (hne : specifier ≠ .containsNot) (matchAll : Bool) :
    (acted acts).search [.onText scope.field specifier s] matchAll = .ok [] := by
  simp only [wordSpecifiers, List.mem_cons, List.not_mem_nil, or_false] at hspecifier
  rcases hspecifier with rfl | rfl | rfl
  · obtain ⟨hits, hsearch, hlists⟩ := returns_contains acts scope s matchAll
    rw [hsearch, hlists.eq_nil fun item _ => not_sharesWord h item]
  · obtain ⟨hits, hsearch, hlists⟩ := returns_containsAll acts scope s matchAll
    rw [hsearch, hlists.eq_nil fun item _ hall => hall.1 h]
  · exact absurd rfl hne

/-- **Conditions on words depend on the set of words only.** A text is contained in the items with
which it shares a word in one of the fields; all of it is contained in those that have all its words
in a single field, if it has any; and where it is not blank, it is not contained in all the others. A
blank text is not looked for, and nothing is returned. Two texts with the same words are answered with
the same hits, in the same order and with the same scores, except that a blank text is passed over
where another one without words, which no item contains, returns everything. -/
theorem returns_by_words (acts : List Act) (scope : WordScope) (s : String) :
    Returns acts (.onText scope.field .contains s)
        (fun item => ∃ field ∈ scope.fields, ∃ w ∈ words s, w ∈ words (item.textOf field)) ∧
      Returns acts (.onText scope.field .containsAll s)
        (fun item => words s ≠ [] ∧
          ∃ field ∈ scope.fields, ∀ w ∈ words s, w ∈ words (item.textOf field)) ∧
      Returns acts (.onText scope.field .containsNot s)
        (fun item => isBlankText s = false ∧
          ¬∃ field ∈ scope.fields, ∃ w ∈ words s, w ∈ words (item.textOf field)) ∧
      ∀ t, (∀ w, w ∈ words s ↔ w ∈ words t) → ∀ specifier ∈ wordSpecifiers,
        (specifier = .containsNot → isBlankText s = isBlankText t) → ∀ matchAll,
          (acted acts).search [.onText scope.field specifier s] matchAll =
            (acted acts).search [.onText scope.field specifier t] matchAll := by
  refine ⟨returns_contains acts scope s, returns_containsAll acts scope s, ?_, ?_⟩
  · cases hblank : isBlankText s with
    | true =>
      have hunusable : (Condition.onText scope.field .containsNot s).isUsable = false := by
        rw [isUsable_onText, hblank, Bool.not_true]
      exact returns_of_not_isUsable acts hunusable fun item h => Bool.noConfusion h.1
    | false =>
      simp only [true_and]
      exact returns_containsNot acts scope hblank
  · intro t hwords specifier hspecifier hblanks matchAll
    by_cases hsame : isBlankText s = isBlankText t
    · have husable : (Condition.onText scope.field specifier s).isUsable =
          (Condition.onText scope.field specifier t).isUsable := by
        rw [isUsable_onText, isUsable_onText, hsame]
      exact search_congr _ husable (ofCondition_congr hwords hspecifier scope) matchAll
    · -- one of the texts is blank, so neither of them has a word
      have hne : specifier ≠ .containsNot := fun h => hsame (hblanks h)
      have hs : words s = [] := words_eq_nil_of_ne hwords hsame
      have ht : words t = [] := words_eq_nil_of_ne (fun w => (hwords w).symm) (Ne.symm hsame)
      rw [search_of_words_eq_nil acts scope hs hspecifier hne matchAll,
        search_of_words_eq_nil acts scope ht hspecifier hne matchAll]

/-- An item on water. Both texts have the words *salt* and *water*, the one in another order and twice;
the item shares one of them, and is the only hit. -/
theorem returns_by_words_of_permuted :
    let item : Item :=
      { ref := ⟨1⟩, feed := "f", guid := "a", title := "Boil water", state := .unread, received := 5 }
    let acts : List Act := [.add item, .commit]
    ((∀ w, w ∈ words "salt, waters, salt" ↔ w ∈ words "Water salt") ∧
        .contains ∈ wordSpecifiers) ∧
      ∃ hit, (acted acts).search [.onText .allFields .contains "salt, waters, salt"] true =
          .ok [hit] ∧
        (acted acts).search [.onText .allFields .contains "Water salt"] true = .ok [hit] ∧
        hit.ref = ⟨1⟩ := by
  intro item acts
  have hs : words "salt, waters, salt" = ["salt".toList, "water".toList, "salt".toList] := by
    decide +kernel
  have ht : words "Water salt" = ["water".toList, "salt".toList] := by decide +kernel
  have hitem : words item.title = ["boil".toList, "water".toList] := by decide +kernel
  have hwords : ∀ w, w ∈ words "salt, waters, salt" ↔ w ∈ words "Water salt" := by
    intro w
    rw [hs, ht]
    simp [or_comm]
  have hspecifier : Specifier.contains ∈ wordSpecifiers := by decide
  obtain ⟨hcontains, -, -, hsame⟩ :=
    returns_by_words acts .everywhere "salt, waters, salt"
  obtain ⟨hits, hsearch, hlists⟩ := hcontains true
  have hheld : held acts = [item] := rfl
  obtain ⟨hit, rfl, hshows⟩ := hlists.eq_singleton (by rw [hheld]; exact List.mem_singleton_self item)
    ⟨.title, by decide, "water".toList, by rw [hs]; simp, by
      show _ ∈ words item.title
      rw [hitem]
      simp⟩
    (by rw [hheld]; exact fun other hother _ => List.mem_singleton.mp hother)
  refine ⟨⟨hwords, hspecifier⟩, hit, hsearch, ?_, hshows.1⟩
  exact (hsame _ hwords .contains hspecifier (fun h => by cases h) true).symm.trans hsearch

/-- **A blank text is passed over** where its complement is asked for. A blank and an exclamation mark
have the same words, none; the item shares none with either, but the blank does not return it. -/
theorem blank_returns_nothing :
    let item : Item :=
      { ref := ⟨1⟩, feed := "f", guid := "a", title := "A", state := .unread, received := 5 }
    let acts : List Act := [.add item, .commit]
    (∀ w, w ∈ words " " ↔ w ∈ words "!") ∧
      ¬Returns acts (.onText .title .containsNot " ")
        (fun item => ¬∃ w ∈ words " ", w ∈ words item.title) ∧
      (acted acts).search [.onText .title .containsNot " "] true ≠
        (acted acts).search [.onText .title .containsNot "!"] true := by
  intro item acts
  have hmark : words "!" = [] := by decide +kernel
  have hblank : words " " = [] := words_of_isBlankText (by decide)
  have hsearch : (acted acts).search [.onText .title .containsNot " "] true = .ok [] :=
    search_of_not_isUsable _ (by decide) true
  have hitem : item ∈ held acts := mem_held_of_added [] item
  refine ⟨by rw [hmark, hblank]; simp, fun hreturns => ?_, fun hsame => ?_⟩
  · obtain ⟨hits, hanswer, hlists⟩ := hreturns true
    obtain rfl : [] = hits := Except.ok.inj (hsearch.symm.trans hanswer)
    exact hlists.ne_nil hitem (by rw [hblank]; simp) rfl
  · obtain ⟨hits, hanswer, hlists⟩ :=
      returns_containsNot acts (.only .title) (show isBlankText "!" = false by decide) true
    obtain rfl : [] = hits := Except.ok.inj (hsearch.symm.trans (hsame.trans hanswer))
    exact hlists.ne_nil hitem (not_sharesWord hmark item) rfl

end Index

end LiveSearch
