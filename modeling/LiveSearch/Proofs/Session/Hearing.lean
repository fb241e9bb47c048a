import LiveSearch.Proofs.Session.Capacity
import LiveSearch.Proofs.Session.Coherence

/-!
# What a query has heard

A query that runs has begun at some time, and has been left running by everything that has happened
to the session since. The events that were delivered in this time are what it **has heard**
(`Session.HasHeard`). Every session whose query runs has heard something in this sense, if only the
empty list (`Session.Reachable.exists_hasHeard`), and its replay buffer is a buffer that was empty
and has heard just that (`Session.HasHeard.exists_clear`). So the buffer holds what was heard, and it
has given nothing up if it had room for it.
-/

namespace LiveSearch

namespace Session

/-- **What the query of a session has heard** since it began. -/
inductive HasHeard : Session → List Event → Prop where
  /-- A query that begins has heard nothing. -/
  | issue {s running : Session} {conditions : List Condition} (hs : s.Reachable)
      (hissue : s.issue conditions = .ok running) : HasHeard running []
  /-- As long as the query runs it hears what is delivered. -/
  | act {s : Session} {events : List Event} (hheard : HasHeard s events) (resolver : Resolver)
      {a : Act} (hwait : (s.entry resolver a).ends s.sequence = false) :
      HasHeard (s.act resolver a) (events ++ a.events)

/-! ### Every query has heard something -/

/-- **A query that runs** has begun just now, or it ran before and has been left running. -/
theorem running_act {s : Session} {resolver : Resolver} {a : Act}
    (hrun : (s.act resolver a).phase = .running) :
    (∃ conditions, s.issue conditions = .ok (s.act resolver a)) ∨
      (s.phase = .running ∧ (s.entry resolver a).ends s.sequence = false) := by
  cases a with
  | issue conditions =>
    rw [act] at hrun ⊢
    cases hissue : s.issue conditions with
    | ok running => exact Or.inl ⟨conditions, hissue⟩
    | error e =>
      rw [hissue] at hrun
      refine Or.inr ⟨hrun, ?_⟩
      rw [entry, hissue]
      rfl
  | clear =>
    rw [act, clear] at hrun
    split at hrun
    · next hclosed =>
      rw [isClosed, hrun] at hclosed
      cases hclosed
    · cases hrun
  | close =>
    rw [act, phase_close] at hrun
    cases hrun
  | setOrder order => exact Or.inr ⟨hrun, rfl⟩
  | resort => exact Or.inr ⟨hrun, rfl⟩
  | materialize start stop =>
    refine Or.inr ⟨?_, rfl⟩
    rw [act] at hrun
    cases hm : s.materialize resolver start stop with
    | ok result =>
      obtain ⟨after, shown⟩ := result
      rw [hm, session_materialize hm] at hrun
      exact hrun
    | error e =>
      rw [hm] at hrun
      exact hrun
  | answer sequence answer =>
    by_cases hnow : sequence = s.sequence ∧ s.phase = .running
    -- the query is over when its answer counts
    · rw [act, (complete_awaited hnow resolver answer).1] at hrun
      cases answer <;> cases hrun
    · rw [act, complete_of_not hnow] at hrun
      refine Or.inr ⟨hrun, ?_⟩
      rw [entry, complete_of_not hnow]
      rfl
  | lookups generation items missing =>
    exact Or.inr ⟨(s.goesOn_attachResolved generation items missing).phase.symm.trans hrun, rfl⟩
  | plan generation batch isMember =>
    exact Or.inr ⟨(s.goesOn_applyPlan generation _).phase.symm.trans hrun, rfl⟩
  | unplanned generation batch =>
    exact Or.inr ⟨(s.goesOn_applyPlan generation _).phase.symm.trans hrun, rfl⟩
  | batch events =>
    exact Or.inr ⟨(s.sequence_handleBatch events).2.2.1.symm.trans hrun, rfl⟩
  | silence => exact Or.inr ⟨hrun, rfl⟩

/-- **Every query that runs has heard something**, if only the empty list. -/
theorem Reachable.exists_hasHeard {s : Session} (hs : s.Reachable) (hrun : s.phase = .running) :
    ∃ events, s.HasHeard events := by
  induction hs with
  | fresh settings subscription => cases hrun
  | @act resolver s a hs ih =>
    rcases running_act hrun with ⟨conditions, hissue⟩ | ⟨hbefore, hwait⟩
    · exact ⟨[], .issue hs hissue⟩
    · obtain ⟨events, hheard⟩ := ih hbefore
      exact ⟨_, hheard.act resolver hwait⟩

namespace HasHeard

variable {s : Session} {events : List Event}

theorem reachable (h : s.HasHeard events) : s.Reachable := by
  induction h with
  | @issue s running conditions hs hissue =>
    have hact : running = s.act (fun ref => .error (.notFound "news item" ref.display))
        (.issue conditions) := by rw [Session.act, hissue]
    rw [hact]
    exact hs.act _ _
  | act hheard resolver hwait ih => exact ih.act resolver _

theorem phase (h : s.HasHeard events) : s.phase = .running := by
  induction h with
  | issue hs hissue =>
    obtain rfl := (issue_ok hissue).2.2
    rfl
  | @act s events hheard resolver a hwait ih => exact (act_withBuffer ih s.replay hwait).1.1

/-! ### The replay buffer of a query -/

/-- **The replay buffer has heard what the query has heard.** -/
theorem exists_clear (h : s.HasHeard events) :
    ∃ b : ReplayBuffer, b.IsClear ∧ b.capacity = s.settings.replayCapacity ∧
      s.replay = b.extend events := by
  have hcapacity := h.reachable.coherent.capacity
  suffices ∃ b : ReplayBuffer, b.IsClear ∧ s.replay = b.extend events by
    obtain ⟨b, hclear, hreplay⟩ := this
    refine ⟨b, hclear, ?_, hreplay⟩
    rw [← hcapacity, hreplay, ReplayBuffer.capacity_extend]
  clear hcapacity
  induction h with
  | issue hs hissue =>
    obtain rfl := (issue_ok hissue).2.2
    exact ⟨_, ReplayBuffer.isClear_clear _, rfl⟩
  | @act s events hheard resolver a hwait ih =>
    obtain ⟨b, hclear, hreplay⟩ := ih
    have hsame : s.withBuffer s.replay = s := by
      rw [withBuffer, hheard.reachable.coherent.capacity]
    -- a session beside itself has the buffer that has heard what the act delivers
    have hact := (act_withBuffer hheard.phase s.replay hwait).2
    rw [hsame] at hact
    refine ⟨b, hclear, ?_⟩
    rw [ReplayBuffer.extend_append, ← hreplay]
    exact congrArg Session.replay hact

/-- The replay buffer holds what the query has heard. -/
theorem holds (h : s.HasHeard events) : s.replay.Holds events := by
  obtain ⟨b, hclear, -, hreplay⟩ := h.exists_clear
  rw [hreplay]
  exact (ReplayBuffer.Holds.nil hclear).extend events

/-- A buffer with room for what the query has heard has given nothing up. -/
theorem hasRoom (h : s.HasHeard events) {room : List Reference}
    (henough : room.length ≤ s.settings.replayCapacity) (hroom : ∀ e ∈ events, e.ref ∈ room) :
    s.replay.HasRoom room := by
  obtain ⟨b, ⟨hevents, hevicted⟩, hcapacity, hreplay⟩ := h.exists_clear
  have hempty : b.HasRoom room := by
    refine ⟨by rw [hcapacity]; exact henough, fun e he => ?_, ?_, hevicted⟩
    · rw [hevents] at he
      cases he
    · rw [hevents]
      exact List.nodup_nil
  rw [hreplay]
  exact hempty.extend hroom

end HasHeard

/-- A first query has heard nothing. -/
theorem hasHeard_asking (settings : Settings) : (asking settings).HasHeard [] := by
  have hissue : (fresh settings 0).issue
      [{ field := .received, specifier := .isAfter, value := .date 0 }] =
        .ok (asking settings) := rfl
  exact .issue (.fresh settings 0) hissue

end Session

end LiveSearch
