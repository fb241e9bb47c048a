import LiveSearch.Index

/-!
# What a query finds has a score

A query is evaluated in two ways: `Query.finds` says which documents it finds, and `Query.score`
what they score. The answer to a query is made of the documents with a score, so the two have to
agree: **a document has a score exactly if it is found** (`Query.isSome_score`).

The sets that a query finds are then combined as in a Boolean algebra, with one exception: an
intersection of no parts finds nothing (`Query.finds_allOf`), as a union of no parts does
(`Query.finds_anyOf`).
-/

namespace LiveSearch

namespace Query

variable {qs : List Query} {d : Document}

/-! ### Intersections and unions -/

theorem findsAll_eq (qs : List Query) (d : Document) : findsAll qs d = qs.all (·.finds d) := by
  induction qs with
  | nil => rfl
  | cons q qs ih => rw [findsAll, ih, List.all_cons]

theorem findsAny_eq (qs : List Query) (d : Document) : findsAny qs d = qs.any (·.finds d) := by
  induction qs with
  | nil => rfl
  | cons q qs ih => rw [findsAny, ih, List.any_cons]

/-- **An intersection** finds what all its parts find, if it has any. -/
theorem finds_allOf (hqs : qs ≠ []) (d : Document) :
    (allOf qs).finds d = qs.all (·.finds d) := by
  cases qs with
  | nil => exact absurd rfl hqs
  | cons q qs => rw [finds, findsAll_eq, List.all_cons]

/-- **A union** finds what some part finds. -/
theorem finds_anyOf (qs : List Query) (d : Document) :
    (anyOf qs).finds d = qs.any (·.finds d) := by
  rw [finds, findsAny_eq]

/-! ### Scores -/

/-- There is a sum as soon as there is something to add. -/
theorem isSome_total (scores : List (Option Single)) :
    (total scores).isSome = scores.any Option.isSome := by
  induction scores with
  | nil => rfl
  | cons score scores ih =>
    cases score with
    | none =>
      rw [List.any_cons, Option.isSome_none, Bool.false_or, ← ih, total, total,
        List.filterMap_cons_none rfl]
    | some s => rfl

theorem all_of_map_eq {scores : List (Option Single)}
    (h : scores.map Option.isSome = qs.map (·.finds d)) :
    scores.all Option.isSome = qs.all (·.finds d) := by
  have hid := congrArg (List.all · id) h
  simpa only [List.all_map, Function.id_comp] using hid

theorem any_of_map_eq {scores : List (Option Single)}
    (h : scores.map Option.isSome = qs.map (·.finds d)) :
    scores.any Option.isSome = qs.any (·.finds d) := by
  have hid := congrArg (List.any · id) h
  simpa only [List.any_map, Function.id_comp] using hid

/-- What scores on a condition has a score if the condition is met. -/
theorem isSome_on (met : Bool) (s : Single) : (if met then some s else none).isSome = met := by
  cases met <;> rfl

mutual

/-- **A document has a score exactly if it is found.** -/
theorem isSome_score (ws : Weights) (boost : Single) (q : Query) (d : Document) :
    (score ws boost q d).isSome = q.finds d := by
  match q with
  | .everything => rfl
  | .nothing => rfl
  | .term t => exact isSome_on _ _
  | .pattern field p => exact isSome_on _ _
  | .between field lower upper => exact isSome_on _ _
  | .allOf [] => rfl
  | .allOf (q :: qs) =>
    have hall := all_of_map_eq (map_isSome_scoreEach ws boost (q :: qs) d)
    rw [score, finds_allOf (List.cons_ne_nil q qs), ← hall]
    -- where all parts have a score there is one to begin the sum with
    cases h : (scoreEach ws boost (q :: qs) d).all Option.isSome with
    | false => rw [if_neg Bool.false_ne_true, Option.isSome_none]
    | true =>
      rw [if_pos rfl, isSome_total, scoreEach, List.any_cons]
      rw [scoreEach, List.all_cons, Bool.and_eq_true] at h
      rw [h.1, Bool.true_or]
  | .anyOf qs =>
    rw [score, isSome_total, finds_anyOf]
    exact any_of_map_eq (map_isSome_scoreEach ws boost qs d)
  | .except q =>
    have hq := isSome_score ws boost q d
    rw [score, finds, ← hq]
    cases (score ws boost q d).isSome <;> rfl
  | .boosted factor q =>
    rw [score, finds]
    exact isSome_score ws (boost.mul (Single.ofNat factor)) q d

/-- The parts of a query that have a score are those that find the document. -/
theorem map_isSome_scoreEach (ws : Weights) (boost : Single) (qs : List Query) (d : Document) :
    (scoreEach ws boost qs d).map Option.isSome = qs.map (·.finds d) := by
  match qs with
  | [] => rfl
  | q :: qs =>
    rw [scoreEach, List.map_cons, List.map_cons, isSome_score ws boost q d,
      map_isSome_scoreEach ws boost qs d]

end

end Query

end LiveSearch
