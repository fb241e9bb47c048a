import LiveSearch.Proofs.Index.Answers
import LiveSearch.Proofs.Index.Compiling

/-!
# Lists of conditions denote combinations of sets

A condition selects a set of documents (`Condition.selects`), those that it finds when it is asked
alone. A list of conditions denotes the intersection of these sets, or their union, taken over the
conditions that carry a value (`Condition.selectedBy`); and **the answer to a list of conditions lists
the set that it denotes** (`Index.answers_combined`).

That the answer is there is part of the statement. A valid query fails only if it looks for an affix
that the matcher refuses.
-/

namespace LiveSearch

namespace Condition

variable {c : Condition} {d : Document}

/-- The query of a condition; one that has none finds nothing. -/
def query (c : Condition) : Query :=
  match Query.ofCondition c with
  | .ok q => q
  | .error _ => .nothing

/-- **Does the condition select the document?** -/
def selects (c : Condition) (d : Document) : Bool :=
  c.query.finds d

/-- **Do the conditions that carry a value select the document**, all of them or some of them? -/
def selectedBy (conditions : List Condition) (matchAll : Bool) (d : Document) : Bool :=
  let usable := conditions.filter isUsable
  if matchAll then usable.all (·.selects d) else usable.any (·.selects d)

theorem ofCondition_eq_ok (h : accepts c.value c.field c.specifier = true)
    (hfits : c.isMatchable = true) : Query.ofCondition c = .ok c.query := by
  obtain ⟨q, hq⟩ := compiles h hfits
  rw [query, hq]

/-- **The opposite selects the complement.** -/
theorem selects_of_isNegation (h : accepts c.value c.field c.specifier = true)
    (hneg : c.specifier.isNegation = true) : c.selects d = !c.affirmed.selects d := by
  have hquery : Query.ofCondition c = .ok (.except c.affirmed.query) := by
    rw [ofCondition_negated h hneg,
      ofCondition_eq_ok (accepts_affirmed h hneg) (isMatchable_affirmed hneg)]
    rfl
  rw [selects, query, hquery]
  exact Query.finds.eq_def _ _

end Condition

namespace Index

variable {conditions : List Condition}

/-- **A query whose conditions compile is answered** with the set that its conditions denote. -/
theorem answers_combined (ix : Index)
    (hquery : ∀ c ∈ conditions, c.isUsable = true → Query.ofCondition c = .ok c.query)
    (hsome : ∃ c ∈ conditions, c.isUsable = true) (matchAll : Bool) :
    ix.Answers conditions matchAll (Condition.selectedBy conditions matchAll) := by
  let usable := conditions.filter Condition.isUsable
  have hparts : usable.mapM Query.ofCondition = .ok (usable.map Condition.query) :=
    mapM_eq_ok fun c hc => hquery c (List.mem_filter.mp hc).1 (List.mem_filter.mp hc).2
  have hcompiled : Query.ofConditions conditions matchAll =
      .ok (if matchAll then .allOf (usable.map Condition.query)
        else .anyOf (usable.map Condition.query)) := by
    rw [Query.ofConditions]
    show (usable.mapM Query.ofCondition >>= _) = _
    rw [hparts]
    rfl
  -- an intersection of nothing would find nothing, but some condition carries a value
  have hne : usable.map Condition.query ≠ [] := by
    obtain ⟨c, hc, husable⟩ := hsome
    rw [Ne, List.map_eq_nil_iff]
    exact List.ne_nil_of_mem (List.mem_filter.mpr ⟨hc, husable⟩)
  have hfinds : (if matchAll then Query.allOf (usable.map Condition.query)
      else .anyOf (usable.map Condition.query)).finds =
        Condition.selectedBy conditions matchAll := by
    funext d
    cases matchAll with
    | true => exact (Query.finds_allOf hne d).trans (List.all_map ..)
    | false => exact (Query.finds_anyOf _ d).trans (List.any_map ..)
  rw [← hfinds]
  exact answers_of_query hcompiled

/-- A condition that is asked alone is answered with the set that it selects. -/
theorem answers_alone (ix : Index) {c : Condition} (husable : c.isUsable = true)
    (hquery : Query.ofCondition c = .ok c.query) (matchAll : Bool) :
    ix.Answers [c] matchAll c.selects := by
  have hall : ∀ c' ∈ [c], c'.isUsable = true → Query.ofCondition c' = .ok c'.query := by
    intro c' hc' _
    rw [List.mem_singleton.mp hc']
    exact hquery
  have hanswer := ix.answers_combined hall ⟨c, List.mem_singleton_self c, husable⟩ matchAll
  have hset : Condition.selectedBy [c] matchAll = c.selects := by
    funext d
    rw [Condition.selectedBy, List.filter_cons_of_pos husable]
    cases matchAll <;> simp
  rwa [hset] at hanswer

/-- **Lists of conditions denote combinations of sets.** Let a list of conditions be valid, and let
the matcher accept the affixes that it looks for. Then each condition that carries a value, asked
alone, is answered with a set; the whole list is answered with the intersection of these sets, or
their union; the conditions that carry no value make no difference; and a comparison that looks for
the opposite is answered with the complement. To be answered with a set is to have one hit for each
searchable document of the set whose state is known, and no other. -/
theorem search_combines (ix : Index) (matchAll : Bool)
    (hvalid : validateConditions conditions = .ok ())
    (hmatchable : ∀ c ∈ conditions, c.isUsable = true → c.isMatchable = true) :
    (∀ c ∈ conditions, c.isUsable = true → ∀ all, ix.Answers [c] all c.selects) ∧
      ix.Answers conditions matchAll (Condition.selectedBy conditions matchAll) ∧
      ix.search conditions matchAll =
        ix.search (conditions.filter Condition.isUsable) matchAll ∧
      ∀ c ∈ conditions, c.isUsable = true → c.specifier.isNegation = true →
        ∀ all, ix.Answers [c.affirmed] all fun d => !c.selects d := by
  obtain ⟨hsome, hall⟩ := validateConditions_eq_ok_iff.mp hvalid
  have haccepts : ∀ c ∈ conditions, Condition.accepts c.value c.field c.specifier = true :=
    fun c hc => (Condition.validate_eq_ok_iff.mp (hall c hc)).2
  have hquery : ∀ c ∈ conditions, c.isUsable = true → Query.ofCondition c = .ok c.query :=
    fun c hc husable => Condition.ofCondition_eq_ok (haccepts c hc) (hmatchable c hc husable)
  refine ⟨?_, ix.answers_combined hquery hsome matchAll, ?_, ?_⟩
  · intro c hc husable all
    exact ix.answers_alone husable (hquery c hc husable) all
  · rw [search, search, Query.ofConditions, Query.ofConditions, List.filter_filter]
    simp only [Bool.and_self]
  · intro c hc husable hneg all
    have hcomplement : c.affirmed.selects = fun d => !c.selects d := by
      funext d
      rw [Condition.selects_of_isNegation (haccepts c hc) hneg, Bool.not_not]
    rw [← hcomplement]
    have hcompiled : Query.ofCondition c.affirmed = .ok c.affirmed.query :=
      Condition.ofCondition_eq_ok (Condition.accepts_affirmed (haccepts c hc) hneg)
        (Condition.isMatchable_affirmed hneg)
    have hcarries : c.affirmed.isUsable = true := husable
    exact ix.answers_alone hcarries hcompiled all

/-- An unread item, a read one, and a document in a state that this version does not know. Of the two
that are not read only the item is listed; the blank condition makes no difference. -/
theorem search_combines_of_foreign :
    let unread : Item :=
      { ref := ⟨1⟩, feed := "f", guid := "a", title := "A", state := .unread, received := 5 }
    let read : Item := { unread with ref := ⟨2⟩, guid := "b", state := .read, received := 2 }
    let ix := (((({} : Index).add unread).add read).addDocument (.bare ⟨3⟩ "C" 9)).commit
    let conditions : List Condition :=
      [.onText .title .contains " ",
        { field := .state, specifier := .isNot, value := .states [.read] },
        { field := .received, specifier := .isAfter, value := .date 3 }]
    (validateConditions conditions = .ok () ∧
        ∀ c ∈ conditions, c.isUsable = true → c.isMatchable = true) ∧
      (ix.documents.filter (Condition.selectedBy conditions false)).map (·.ref) = [⟨1⟩, ⟨3⟩] ∧
      ∃ hit, ix.search conditions false = .ok [hit] ∧ hit.ref = ⟨1⟩ := by
  intro unread read ix conditions
  have hvalid : validateConditions conditions = .ok () := rfl
  have hmatchable : ∀ c ∈ conditions, c.isUsable = true → c.isMatchable = true := by
    decide
  obtain ⟨-, ⟨hits, hsearch, listed, hshows, hperm⟩, -⟩ :=
    ix.search_combines false hvalid hmatchable
  have hlisted : (ix.documents.filter fun d =>
      d.state?.isSome && Condition.selectedBy conditions false d) = [Document.ofItem unread] := rfl
  rw [hlisted, List.perm_singleton] at hperm
  subst hperm
  obtain ⟨hit, rest, hhit, hrest, rfl⟩ := List.forall₂_cons_right_iff.mp hshows
  obtain rfl := List.forall₂_nil_right_iff.mp hrest
  exact ⟨⟨hvalid, hmatchable⟩, rfl, hit, hsearch, hhit.1⟩

end Index

end LiveSearch
