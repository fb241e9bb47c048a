import LiveSearch.Proofs.Session.Acts
import LiveSearch.Search

/-!
# A request whose query fails

What a provider says of a query that it cannot answer passes through three hands before it comes
back from a request. The checked query makes a failed search of it, which a failed search already is
(`Failure.asSearchFailed`); there is one cause, however the provider puts it (`Failure.cause`). The
session that waits for the answer keeps the **sentence** of this failure. The request makes a failure
of the sentence, and it does so as if the sentence were the cause. So **the failure of a request is
not that of its query**: it is a failed search whose cause is that a search has failed
(`SearchRequest.execute_of_failing_query`).
-/

namespace LiveSearch

namespace Failure

/-- **The cause of a failed search** that a failure becomes. -/
def cause : Failure → String
  | .searchFailed detail => detail
  | other => other.message

theorem asSearchFailed_eq (e : Failure) : e.asSearchFailed = .searchFailed e.cause := by
  cases e <;> rfl

theorem message_searchFailed (detail : String) :
    (searchFailed detail).message = "search failed: " ++ detail := rfl

end Failure

variable {provider : Provider} {conditions : List Condition} {matchAll : Bool} {e : Failure}

/-- **A checked query fails once**, for whatever reason the provider gives. -/
theorem Provider.execute_of_error (hvalid : validateConditions conditions = .ok ())
    (hfails : provider conditions matchAll = .error e) :
    provider.execute conditions matchAll = .error (.searchFailed e.cause) := by
  rw [execute, hvalid, ← e.asSearchFailed_eq]
  show provider.ask conditions matchAll = _
  rw [ask, hfails]

namespace Session

variable {s : Session}

/-- **A session whose query fails** shows no hits and keeps the sentence of the failure. -/
theorem fail_of_running (hrun : s.phase = .running) (hvalid : validateConditions conditions = .ok ())
    (hfails : provider conditions matchAll = .error e) (verify : Bool)
    (resolver later : Resolver) :
    (s.handleMessage later ((Work.query s.sequence (provider.execute conditions matchAll)
      verify).finish resolver)).session =
      { s.resetResults with
        phase := .failed
        error := some (Failure.searchFailed e.cause).message } := by
  rw [Provider.execute_of_error hvalid hfails]
  show (s.complete later s.sequence (.error _)).session = _
  rw [complete_error hrun]
  rfl

end Session

namespace SearchRequest

variable {sources : Sources} {settings : Settings} {r : SearchRequest}

/-- **What comes of a request whose query fails.** Let a provider fail on the valid conditions of a
request, for any reason. The checked query is a failed search with this reason as its cause, which
is not wrapped again where the provider speaks of a failed search itself. The session of the request
has failed, with the sentence of this failure and without hits. The request, too, is a failed
search; but its cause is the sentence, so that it is not the failure of the query, and its own
sentence begins twice in the same way. -/
theorem execute_of_failing_query (hvalid : validateConditions r.conditions = .ok ())
    (hfails : sources.provider r.conditions (!r.any) = .error e) :
    ∃ failed s, sources.provider.execute r.conditions (!r.any) = .error failed ∧
      failed = .searchFailed e.cause ∧
      r.answered sources settings = .ok s ∧
      s.phase = .failed ∧ s.error = some failed.message ∧ s.results.hits = [] ∧
      r.execute sources settings = .error (.searchFailed failed.message) ∧
      Failure.searchFailed failed.message ≠ failed ∧
      (Failure.searchFailed failed.message).message =
        "search failed: " ++ ("search failed: " ++ e.cause) := by
  let running := (Session.fresh settings 0).begin
  let s : Session :=
    { running.resetResults with
      phase := .failed
      error := some (Failure.searchFailed e.cause).message }
  have hanswered : r.answered sources settings = .ok s := by
    rw [answered, Session.issue_of_valid rfl hvalid]
    exact congrArg Except.ok (Session.fail_of_running rfl hvalid hfails _ _ _)
  refine ⟨.searchFailed e.cause, s, Provider.execute_of_error hvalid hfails, rfl, hanswered, rfl,
    rfl, rfl, ?failure, fun hsame => ?different, rfl⟩
  case failure =>
    rw [execute, hanswered]
    rfl
  case different =>
    -- the sentence is longer than the cause
    have htext := congrArg String.length (Failure.searchFailed.inj hsame)
    rw [Failure.message_searchFailed, String.length_append] at htext
    exact absurd htext (by simp)

/-- Two requests whose queries fail, one with a failed search and the other with a bad setting. -/
theorem execute_of_failing_query_of_outage :
    let sources : Sources :=
      { provider := fun conditions _ =>
          if conditions = [.onText .title .contains "abc"] then .error (.searchFailed "down")
          else .error (.configuration "down")
        resolver := fun _ => .error (.notFound "news item" "a") }
    let first : SearchRequest := { title := some "abc" }
    let second : SearchRequest := { title := some "xyz" }
    (validateConditions first.conditions = .ok () ∧ validateConditions second.conditions = .ok ()) ∧
      sources.provider.execute first.conditions true = .error (.searchFailed "down") ∧
      first.execute sources {} = .error (.searchFailed "search failed: down") ∧
      sources.provider.execute second.conditions true =
        .error (.searchFailed "configuration error: down") ∧
      second.execute sources {} =
        .error (.searchFailed "search failed: configuration error: down") := by
  intro sources first second
  have hvalid : validateConditions first.conditions = .ok () ∧
      validateConditions second.conditions = .ok () := ⟨rfl, rfl⟩
  obtain ⟨_, _, hquery, rfl, -, -, -, -, hrequest, -⟩ :=
    @execute_of_failing_query (.searchFailed "down") sources {} first hvalid.1 (by decide +kernel)
  obtain ⟨_, _, hquery', rfl, -, -, -, -, hrequest', -⟩ :=
    @execute_of_failing_query (.configuration "down") sources {} second hvalid.2
      (by decide +kernel)
  exact ⟨hvalid, hquery, hrequest, hquery', hrequest'⟩

end SearchRequest

end LiveSearch
