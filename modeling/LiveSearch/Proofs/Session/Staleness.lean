import LiveSearch.Proofs.Session.Acts
import Mathlib.Data.List.Induction

/-!
# Which answers count

Any number of queries can be under way, and their answers arrive in any order and at any time. An
answer counts exactly if its query is **awaited** (`Awaited`): it has been issued, and since then no
other query has been issued, the session has been neither cleared nor closed, and its answer has not
counted before. Then its hits are installed, or its failure is reported (`accept`). Every other
answer leaves the session exactly as it was (`answer_counts_iff_awaited`).

The session knows nothing of its past but one number and whether a query runs. That this is enough
is the invariant of this file (`Accounts`): while a query runs the number is that of the awaited
query, otherwise none is awaited; and the number bounds all that have been given.
-/

namespace LiveSearch

/-- Does the update say that the answer to a query has counted, as hits or as a failure? -/
def Update.isAnswer : Update → Bool
  | .completed .. | .failed .. => true
  | _ => false

namespace Session

/-! ### The log of a session -/

/-- What an act amounts to for the queries of a session. -/
inductive Entry where
  /-- A query was issued and was given a number. -/
  | issued (sequence : Nat)
  /-- The session was cleared. -/
  | cleared
  /-- The session was closed. -/
  | closed
  /-- The answer to a query counted. -/
  | applied (sequence : Nat)
  /-- Nothing of this kind. -/
  | other
deriving DecidableEq

namespace Entry

/-- The number that was given to a query. -/
def issued? : Entry → Option Nat
  | .issued n => some n
  | _ => none

/-- Is a query no longer awaited after this? -/
def ends (n : Nat) : Entry → Bool
  | .issued _ | .cleared | .closed => true
  | .applied m => m = n
  | .other => false

end Entry

/-- What an act amounts to. An issue that fails, and clearing or closing a closed session, amount to
nothing. -/
def entry (resolver : Resolver) (s : Session) : Act → Entry
  | .issue conditions =>
    match s.issue conditions with
    | .ok running => .issued running.sequence
    | .error _ => .other
  | .clear => if s.isClosed then .other else .cleared
  | .close => if s.isClosed then .other else .closed
  | .answer sequence answer =>
    if (s.complete resolver sequence answer).update.isAnswer then .applied sequence else .other
  | _ => .other

/-- The session after some acts, each with the resolver of its moment. -/
def runs (s : Session) (steps : List (Resolver × Act)) : Session :=
  steps.foldl (fun s step => s.act step.1 step.2) s

/-- **The log** of some acts. -/
def log (s : Session) : List (Resolver × Act) → List Entry
  | [] => []
  | step :: rest => s.entry step.1 step.2 :: (s.act step.1 step.2).log rest

theorem runs_snoc (s : Session) (steps : List (Resolver × Act)) (step : Resolver × Act) :
    s.runs (steps ++ [step]) = (s.runs steps).act step.1 step.2 := by
  rw [runs, List.foldl_append]
  rfl

theorem log_snoc (s : Session) (steps : List (Resolver × Act)) (step : Resolver × Act) :
    s.log (steps ++ [step]) = s.log steps ++ [(s.runs steps).entry step.1 step.2] := by
  induction steps generalizing s with
  | nil => rfl
  | cons first rest ih =>
    rw [List.cons_append, log, log, ih]
    rfl

theorem issued_snoc {log : List Entry} {e : Entry} (h : e.issued? = none) :
    (log ++ [e]).filterMap Entry.issued? = log.filterMap Entry.issued? := by
  rw [List.filterMap_append, List.filterMap_cons_none h, List.filterMap_nil, List.append_nil]

/-! ### The awaited query -/

/-- **The query is awaited**: it was issued, and nothing has ended the wait for it since. -/
def Awaited (log : List Entry) (n : Nat) : Prop :=
  ∃ earlier later, log = earlier ++ .issued n :: later ∧ ∀ e ∈ later, e.ends n = false

/-- What one more entry does to a wait. -/
theorem awaited_snoc {log : List Entry} {e : Entry} {n : Nat} :
    Awaited (log ++ [e]) n ↔ e = .issued n ∨ Awaited log n ∧ e.ends n = false := by
  constructor
  · rintro ⟨earlier, later, hsplit, hquiet⟩
    rcases List.eq_nil_or_concat later with rfl | ⟨front, last, rfl⟩
    · obtain ⟨-, he⟩ := List.append_inj' hsplit rfl
      exact Or.inl (List.singleton_inj.mp he)
    · rw [List.concat_eq_append, ← List.cons_append, ← List.append_assoc] at hsplit
      obtain ⟨hlog, he⟩ := List.append_inj' hsplit rfl
      obtain rfl : e = last := List.singleton_inj.mp he
      exact Or.inr ⟨⟨earlier, front, hlog, fun x hx => hquiet x (by simp [hx])⟩,
        hquiet e (by simp)⟩
  · rintro (rfl | ⟨⟨earlier, later, rfl, hquiet⟩, he⟩)
    · exact ⟨log, [], rfl, by simp⟩
    · refine ⟨earlier, later ++ [e], by simp, fun x hx => ?_⟩
      rcases List.mem_append.mp hx with hx | hx
      · exact hquiet x hx
      · rw [List.mem_singleton.mp hx]
        exact he

/-- **What the number of a session says about its log.** -/
structure Accounts (log : List Entry) (s : Session) : Prop where
  /-- No query was given a larger number. -/
  issued_le : ∀ n, .issued n ∈ log → n ≤ s.sequence
  /-- Every query was given a larger number than those before it. -/
  increasing : (log.filterMap Entry.issued?).Pairwise (· < ·)
  /-- The awaited query is the one that runs. -/
  awaited : ∀ n, Awaited log n ↔ n = s.sequence ∧ s.phase = .running
  /-- No answer counts for a query that was never issued. -/
  applied_le : ∀ n, .applied n ∈ log → n ≤ s.sequence
  /-- The answer to the query that runs has not counted. -/
  applied_ne : s.phase = .running → .applied s.sequence ∉ log
  /-- The answer to a query counts at most once. -/
  once : ∀ n, log.count (.applied n) ≤ 1

namespace Accounts

variable {log : List Entry} {s t : Session}

theorem fresh (settings : Settings) (subscription : Nat) :
    Accounts [] (fresh settings subscription) := by
  refine ⟨by simp, by simp, fun n => ?_, by simp, by simp, by simp⟩
  constructor
  · rintro ⟨earlier, later, h, -⟩
    simp at h
  · rintro ⟨-, hrun⟩
    simp [Session.fresh] at hrun

/-- An act that is none of the queries' business. -/
theorem other (h : Accounts log s) (hs : t.sequence = s.sequence) (hp : t.phase = s.phase) :
    Accounts (log ++ [.other]) t := by
  refine ⟨fun n hn => ?_, ?_, fun n => ?_, fun n hn => ?_, fun hrun => ?_, fun n => ?_⟩
  · rw [hs]
    exact h.issued_le n (by simpa using hn)
  · rw [issued_snoc rfl]
    exact h.increasing
  · rw [awaited_snoc, h.awaited, hs, hp]
    simp [Entry.ends]
  · rw [hs]
    exact h.applied_le n (by simpa using hn)
  · rw [hs]
    simpa using h.applied_ne (hp ▸ hrun)
  · rw [List.count_append]
    simpa using h.once n

/-- A query that is issued gets the next number and is awaited from now on. -/
theorem issued (h : Accounts log s) (hs : t.sequence = s.sequence + 1) (hp : t.phase = .running) :
    Accounts (log ++ [.issued t.sequence]) t := by
  have hle : ∀ n, .issued n ∈ log → n < t.sequence := fun n hn => by
    have := h.issued_le n hn
    omega
  refine ⟨fun n hn => ?_, ?_, fun n => ?_, fun n hn => ?_, fun _ hmem => ?_, fun n => ?_⟩
  · rcases List.mem_append.mp hn with hn | hn
    · exact Nat.le_of_lt (hle n hn)
    · exact Nat.le_of_eq (Entry.issued.inj (List.mem_singleton.mp hn))
  · rw [List.filterMap_append, List.pairwise_append]
    refine ⟨h.increasing, by simp [Entry.issued?], fun a ha b hb => ?_⟩
    obtain ⟨e, he, hea⟩ := List.mem_filterMap.mp ha
    obtain rfl : b = t.sequence := by simpa [Entry.issued?] using hb
    cases e with
    | issued m =>
      obtain rfl : m = a := by simpa [Entry.issued?] using hea
      exact hle m he
    | _ => simp [Entry.issued?] at hea
  · rw [awaited_snoc]
    simp only [Entry.ends, Entry.issued.injEq, Bool.true_eq_false, and_false, or_false, hp,
      and_true]
    exact eq_comm
  · have := h.applied_le n (by simpa using hn)
    omega
  · have := h.applied_le t.sequence (by simpa using hmem)
    omega
  · rw [List.count_append]
    simpa using h.once n

/-- Clearing and closing take a number and end every wait. -/
theorem ended (h : Accounts log s) {e : Entry} (he : e = .cleared ∨ e = .closed)
    (hs : t.sequence = s.sequence + 1) (hp : t.phase ≠ .running) : Accounts (log ++ [e]) t := by
  have hends : ∀ n, e.ends n = true := by
    rcases he with rfl | rfl <;> intro n <;> rfl
  have hissued : ∀ n, e ≠ .issued n := by rcases he with rfl | rfl <;> intro n hn <;> cases hn
  have happlied : ∀ n, e ≠ .applied n := by rcases he with rfl | rfl <;> intro n hn <;> cases hn
  refine ⟨fun n hn => ?_, ?_, fun n => ?_, fun n hn => ?_, fun hrun => absurd hrun hp, fun n => ?_⟩
  · rcases List.mem_append.mp hn with hn | hn
    · have := h.issued_le n hn
      omega
    · exact absurd (List.mem_singleton.mp hn).symm (hissued n)
  · rw [issued_snoc (by rcases he with rfl | rfl <;> rfl)]
    exact h.increasing
  · rw [awaited_snoc, hends n]
    simp [hissued n, hp]
  · rcases List.mem_append.mp hn with hn | hn
    · have := h.applied_le n hn
      omega
    · exact absurd (List.mem_singleton.mp hn).symm (happlied n)
  · rw [List.count_append, List.count_singleton, if_neg (by simpa using happlied n)]
    exact h.once n

/-- The answer to the query that runs ends the wait for it. -/
theorem applied (h : Accounts log s) (hrun : s.phase = .running) (hs : t.sequence = s.sequence)
    (hp : t.phase ≠ .running) : Accounts (log ++ [.applied s.sequence]) t := by
  refine ⟨fun n hn => ?_, ?_, fun n => ?_, fun n hn => ?_, fun hr => absurd hr hp, fun n => ?_⟩
  · rw [hs]
    exact h.issued_le n (by simpa using hn)
  · rw [issued_snoc rfl]
    exact h.increasing
  · rw [awaited_snoc, h.awaited]
    simp only [reduceCtorEq, Entry.ends, decide_eq_false_iff_not, false_or, hp, and_false,
      iff_false]
    -- the only number that could be awaited has been answered just now
    rintro ⟨⟨rfl, -⟩, hne⟩
    exact hne rfl
  · rw [hs]
    rcases List.mem_append.mp hn with hn | hn
    · exact h.applied_le n hn
    · exact Nat.le_of_eq (Entry.applied.inj (List.mem_singleton.mp hn))
  · rw [List.count_append, List.count_singleton]
    by_cases hn : n = s.sequence
    -- this is the first time: the query still ran
    · have hzero : log.count (.applied n) = 0 :=
        List.count_eq_zero.mpr (hn ▸ h.applied_ne hrun)
      rw [hzero]
      split <;> omega
    · rw [if_neg (by simpa using Ne.symm hn)]
      exact h.once n

/-- **Every act keeps the accounts.** -/
theorem act (h : Accounts log s) (resolver : Resolver) (a : Act) :
    Accounts (log ++ [s.entry resolver a]) (s.act resolver a) := by
  cases a with
  | issue conditions =>
    rw [Session.entry, Session.act]
    cases hi : s.issue conditions with
    | ok running =>
      obtain rfl := (issue_ok hi).2.2
      exact h.issued rfl rfl
    | error e => exact h.other rfl rfl
  | clear =>
    rw [Session.entry, Session.act, Session.clear]
    split
    · exact h.other rfl rfl
    · exact h.ended (Or.inl rfl) rfl (by simp)
  | close =>
    rw [Session.entry, Session.act, Session.close]
    split
    · exact h.other rfl rfl
    · exact h.ended (Or.inr rfl) rfl (by simp)
  | setOrder order => exact h.other rfl rfl
  | resort => exact h.other rfl rfl
  | materialize start stop =>
    rw [Session.act]
    cases hm : s.materialize resolver start stop with
    | ok result =>
      obtain ⟨after, shown⟩ := result
      rw [session_materialize hm]
      exact h.other rfl rfl
    | error e => exact h.other rfl rfl
  | answer sequence answer =>
    rw [Session.entry, Session.act]
    by_cases hnow : sequence = s.sequence ∧ s.phase = .running
    · obtain ⟨rfl, hrun⟩ := hnow
      cases answer with
      | ok hits =>
        rw [complete_ok hrun]
        exact h.applied hrun rfl (by simp [install])
      | error e =>
        rw [complete_error hrun]
        exact h.applied hrun rfl (by simp [fail])
    · rw [complete_of_not hnow]
      exact h.other rfl rfl
  | lookups generation items missing =>
    rw [Session.act, attachResolved]
    split <;> exact h.other rfl rfl
  | plan generation batch isMember =>
    obtain ⟨-, hs, hp, -⟩ := goesOn_applyPlan s generation (.ok (Plan.ofEvents batch isMember))
    exact h.other hs hp
  | unplanned generation batch =>
    obtain ⟨-, hs, hp, -⟩ := goesOn_applyPlan s generation (.error batch)
    exact h.other hs hp
  | batch events =>
    obtain ⟨-, hs, hp, -⟩ := sequence_handleBatch s events
    exact h.other hs hp
  | silence => exact h.other rfl rfl

end Accounts

/-- The accounts of a whole run. -/
theorem accounts_runs (settings : Settings) (subscription : Nat)
    (steps : List (Resolver × Act)) :
    Accounts ((fresh settings subscription).log steps)
      ((fresh settings subscription).runs steps) := by
  induction steps using List.reverseRecOn with
  | nil => exact Accounts.fresh settings subscription
  | append_singleton steps step ih =>
    rw [log_snoc, runs_snoc]
    exact ih.act step.1 step.2

/-! ### The answers that count -/

/-- **What an answer that counts leads to**: its hits are installed, or its failure is reported. -/
def accept (resolver : Resolver) (s : Session) : Except Failure (List RankedHit) → Reaction
  | .ok hits => s.install resolver hits
  | .error e => s.fail e

/-- The answer waited for is accepted, and says so. -/
theorem complete_awaited {s : Session} {n : Nat} (hnow : n = s.sequence ∧ s.phase = .running)
    (resolver : Resolver) (answer : Except Failure (List RankedHit)) :
    s.complete resolver n answer = s.accept resolver answer ∧
      (s.accept resolver answer).update.isAnswer = true := by
  cases answer with
  | ok hits => exact ⟨if_pos hnow, rfl⟩
  | error e => exact ⟨if_pos hnow, rfl⟩

/-- **Only awaited answers count.** In every run, whatever else happens to the session in between:
queries are given ever larger numbers; the answer to a query counts exactly if the query is awaited,
and then its hits are installed or its failure is reported; otherwise the session is afterwards
exactly what it was and begins no work; and the answer to a query counts at most once. -/
theorem answer_counts_iff_awaited (settings : Settings) (subscription : Nat)
    (steps : List (Resolver × Act)) :
    (((fresh settings subscription).log steps).filterMap Entry.issued?).Pairwise (· < ·) ∧
      (∀ n, ((fresh settings subscription).log steps).count (.applied n) ≤ 1) ∧
      ∀ (resolver : Resolver) (n : Nat) (answer : Except Failure (List RankedHit)),
        let s := (fresh settings subscription).runs steps
        let reaction := s.complete resolver n answer
        (reaction.update.isAnswer = true ↔
          Awaited ((fresh settings subscription).log steps) n) ∧
        (reaction.update.isAnswer = true ∧ reaction = s.accept resolver answer ∨
          reaction = { session := s, update := .stale n }) := by
  have h := accounts_runs settings subscription steps
  refine ⟨h.increasing, h.once, fun resolver n answer => ?_⟩
  intro s reaction
  have hiff : Awaited _ n ↔ n = s.sequence ∧ s.phase = .running := h.awaited n
  by_cases hnow : n = s.sequence ∧ s.phase = .running
  · obtain ⟨heq, hsays⟩ := complete_awaited hnow resolver answer
    have hcounts : reaction.update.isAnswer = true := by
      rw [← heq] at hsays
      exact hsays
    exact ⟨iff_of_true hcounts (hiff.mpr hnow), Or.inl ⟨hcounts, heq⟩⟩
  · have heq : reaction = { session := s, update := .stale n } := complete_of_not hnow _ _
    refine ⟨iff_of_false ?_ (fun hw => hnow (hiff.mp hw)), Or.inr heq⟩
    rw [heq]
    exact Bool.false_ne_true

end Session

end LiveSearch
