import LiveSearch.Proofs.Relevance.Best
import LiveSearch.Proofs.Session.Generations
import LiveSearch.Proofs.Session.WellKept
import LiveSearch.Proofs.Sorting.Order
import LiveSearch.Provider

/-!
# What an answer installs

The answer of a provider comes to the hits of a session in four stages: those in a visible state are
kept, of these those whose items exist, if this is asked for, then all that are left are divided
into tiers, and at last the first of each reference is installed and the whole is sorted. The order
of the stages matters. A hit that is hidden does not stand in the way of a later one for the same
reference, and a repeated hit counts for the thresholds although it is not installed.

What comes of it is `Session.Installed`. From then on the hits only dwindle until the generation
ends, so **the scores and the tiers of an answer are final** (`Session.complete_installs`).

The thresholds are those of the larger of zero and the largest score. Where no score is above zero
all hits are of the lowest tier therefore, which is where the thresholds of the largest score would
leave them as well. The one exception is a largest score so far below zero that twice the score is
not finite (`Session.complete_installs_of_lowest`).
-/

namespace LiveSearch

/-- **The hits of an answer that count**: those in a visible state, and if asked for only those
whose items a lookup finds. -/
def Resolver.keeps (resolver : Resolver) (verify : Bool) (answer : List RankedHit) :
    List RankedHit :=
  answer.filter fun h => h.state.isVisible && (!verify || resolver.finds h.ref)

theorem Resolver.visible_of_mem_keeps (resolver : Resolver) (verify : Bool)
    (answer : List RankedHit) : ∀ h ∈ resolver.keeps verify answer, h.state.isVisible = true :=
  fun _ hh => (Bool.and_eq_true_iff.mp (List.mem_filter.mp hh).2).1

/-- The thresholds of the scores of some hits. -/
def Thresholds.ofHits (hits : List RankedHit) : Thresholds :=
  .ofScores (hits.map (·.score))

/-- Hits that are divided into tiers stay visible. -/
theorem Hit.filter_classify {kept : List RankedHit}
    (hvisible : ∀ h ∈ kept, h.state.isVisible = true) :
    (Hit.classify kept).filter Hit.isVisible = Hit.classify kept := by
  refine List.filter_eq_self.mpr fun x hx => ?_
  obtain ⟨h, hh, rfl⟩ := List.mem_map.mp hx
  exact hvisible h hh

namespace ResultSet

variable {rs : ResultSet} {hits : List Hit}

theorem hits_replace_classify (rs : ResultSet) {kept : List RankedHit}
    (hvisible : ∀ h ∈ kept, h.state.isVisible = true) :
    (rs.replace (Hit.classify kept)).hits =
      rs.order.sort (firstOfEach (Hit.classify kept)) := by
  rw [replace, Hit.filter_classify hvisible]
  rfl

/-- The hit for a reference after a new answer is the first of those that are visible. -/
theorem get?_replace (rs : ResultSet) (hits : List Hit) (ref : Reference) :
    (rs.replace hits).get? ref = (hits.filter Hit.isVisible).find? (·.ref = ref) := by
  have hfirsts : WellFormed { hits := firstOfEach (hits.filter Hit.isVisible) } :=
    wellFormed_iff.mpr (nodup_firstOfEach _)
  have hreplaced : (rs.replace hits).WellFormed :=
    wellFormed_iff.mpr (rs.nodup_refs_replace hits)
  rw [← find?_firstOfEach]
  refine Option.ext fun x => hreplaced.get?_eq_some_iff.trans ?_
  rw [replace, resort, SortOrder.sort, List.mem_mergeSort]
  exact hfirsts.get?_eq_some_iff.symm

end ResultSet

namespace Session

variable {s : Session}

/-! ### An answer that is installed -/

/-- **The set holds what is kept of an answer**, under an order. -/
structure Installed (order : SortOrder) (kept : List RankedHit) (rs : ResultSet) : Prop where
  /-- For each reference there is the first of its hits, with the tier of its score and without an
  item, and nothing else. -/
  firsts : ∀ ref, rs.get? ref =
    (kept.find? (·.ref = ref)).map (Hit.ofRanked (.ofHits kept))
  /-- No reference has two hits, and positions are exact. -/
  distinct : rs.WellFormed
  /-- The hits are in order. -/
  sorted : rs.hits.Pairwise fun a b => order.le a b = true
  /-- Of the first hits of the references, those that may stand as they do in the answer stand so. -/
  stable : ∀ a b,
    [a, b].Sublist (ResultSet.firstOfEach (kept.map (Hit.ofRanked (.ofHits kept)))) →
      order.le a b = true → [a, b].Sublist rs.hits
  /-- Under the default order tiers never increase, if all scores are numbers. -/
  tiers : order = {} → (∀ h ∈ kept, h.score.isNaN = false) →
    rs.hits.Pairwise fun a b => b.tier.rank ≤ a.tier.rank
  /-- If no score is above zero, all tiers are the lowest. -/
  low : (∀ h ∈ kept, Single.zero.lt h.score = false) → ∀ x ∈ rs.hits, x.tier = .low

/-- **A new answer is installed**, if all its hits are visible. -/
theorem installed_replace (rs : ResultSet) {kept : List RankedHit}
    (hvisible : ∀ h ∈ kept, h.state.isVisible = true) :
    Installed rs.order kept (rs.replace (Hit.classify kept)) := by
  have hsorted := rs.hits_replace_classify hvisible
  have hmem : ∀ x ∈ (rs.replace (Hit.classify kept)).hits,
      ∃ h ∈ kept, x = Hit.ofRanked (.ofHits kept) h := by
    intro x hx
    obtain ⟨h, hh, heq⟩ := List.mem_map.mp (ResultSet.mem_of_mem_replace hx).1
    exact ⟨h, hh, heq.symm⟩
  refine ⟨fun ref => ?firsts, ?distinct, ?sorted, fun a b hpair hle => ?stable,
    fun horder hnumbers => ?tiers, fun hnone x hx => ?low⟩
  case firsts =>
    rw [ResultSet.get?_replace, Hit.filter_classify hvisible, Hit.classify, List.find?_map]
    rfl
  case distinct => exact ResultSet.wellFormed_iff.mpr (rs.nodup_refs_replace _)
  case sorted =>
    rw [hsorted]
    exact rs.order.pairwise_sort _
  case stable =>
    rw [hsorted]
    exact SortOrder.pair_sublist_sort hle hpair
  case tiers =>
    have hpairs : (rs.replace (Hit.classify kept)).hits.Pairwise fun a b =>
        ({} : SortOrder).le a b = true := by
      rw [hsorted, horder]
      exact SortOrder.pairwise_sort {} _
    refine hpairs.imp_of_mem fun {x y} hx hy hle => ?_
    obtain ⟨a, ha, rfl⟩ := hmem x hx
    obtain ⟨b, -, rfl⟩ := hmem y hy
    exact Thresholds.rank_classify_le _ (hnumbers a ha)
      (Single.position_le_of_rank_le (SortOrder.rank_le_of_le hle))
  case low =>
    obtain ⟨h, hh, rfl⟩ := hmem x hx
    refine Thresholds.classify_eq_low (fun score hscore => ?_) (List.mem_map_of_mem hh)
    obtain ⟨a, ha, rfl⟩ := List.mem_map.mp hscore
    exact hnone a ha

/-- Each installed hit is one of those that are kept, with the tier of its score. -/
theorem Installed.exists_of_mem {order : SortOrder} {kept : List RankedHit} {rs : ResultSet}
    (h : Installed order kept rs) {x : Hit} (hx : x ∈ rs.hits) :
    ∃ a ∈ kept, x = Hit.ofRanked (.ofHits kept) a := by
  have hfirst := (h.firsts x.ref).symm.trans (h.distinct.get?_eq_some_iff.mpr ⟨hx, rfl⟩)
  obtain ⟨a, ha, heq⟩ := Option.map_eq_some_iff.mp hfirst
  exact ⟨a, List.mem_of_find?_eq_some ha, heq.symm⟩

/-- **The tiers of installed hits are those of the largest score** that is kept, unless twice this
score is not finite below zero. -/
theorem Installed.tier_eq {order : SortOrder} {kept : List RankedHit} {rs : ResultSet}
    (h : Installed order kept rs) {largest : Single}
    (hlargest : Thresholds.IsLargest (kept.map (·.score)) largest)
    (hroom : Single.zero.lt largest = true ∨ (Thresholds.two.mul largest).isFinite = true) :
    ∀ x ∈ rs.hits, x.tier = (Thresholds.ofBest largest).classify x.score := by
  intro x hx
  obtain ⟨a, ha, rfl⟩ := h.exists_of_mem hx
  exact hlargest.classify_eq hroom (List.mem_map_of_mem ha)

/-! ### An answer that is delivered -/

/-- What the work of a query delivers is what is kept of the answer. -/
theorem finish_query {provider : Provider} {conditions : List Condition} {matchAll : Bool}
    {answer : List RankedHit} (hvalid : validateConditions conditions = .ok ())
    (hanswer : provider conditions matchAll = .ok answer) (resolver : Resolver) (sequence : Nat)
    (verify : Bool) :
    (Work.query sequence (provider.execute conditions matchAll) verify).finish resolver =
      .answered sequence (.ok (resolver.keeps verify answer)) := by
  have hexecuted : provider.execute conditions matchAll =
      .ok (answer.filter (·.state.isVisible)) := by
    rw [Provider.execute, hvalid]
    show provider.ask conditions matchAll = _
    rw [Provider.ask, hanswer]
  rw [hexecuted]
  refine congrArg (fun kept => Message.answered sequence (.ok kept)) ?_
  cases verify with
  | false =>
    refine List.filter_congr fun h _ => ?_
    simp
  | true =>
    show retainExisting _ resolver = _
    rw [retainExisting, List.filter_filter, Resolver.keeps]
    refine List.filter_congr fun h _ => ?_
    simp [Bool.and_comm]

/-- The session with the hits that are kept of an answer. -/
def withAnswer (s : Session) (kept : List RankedHit) : Session :=
  { s with
    results := s.results.replace (Hit.classify kept)
    phase := .completed
    replay := s.replay.take.2
    deferred := []
    planning := none }

/-- **An answer is delivered** while nothing is kept for replay. -/
theorem session_complete (hrun : s.phase = .running) (hreplay : s.replay.IsClear)
    (later : Resolver) (kept : List RankedHit) :
    (s.complete later s.sequence (.ok kept)).session = s.withAnswer kept := by
  obtain ⟨hevents, hevicted⟩ := hreplay
  have hover : ∀ rs, (replayOver later s.replay.take.1 rs).1 = rs := by
    intro rs
    show (recheck s.replay.evicted later (reconcile s.replay.events rs).1).1 = rs
    rw [hevents, hevicted, reconcile_nil, recheck_nil]
  rw [complete_ok hrun]
  show { s.withAnswer kept with
    results := (replayOver later s.replay.take.1 (s.results.replace (Hit.classify kept))).1 } = _
  rw [hover]
  rfl

/-- **What an answer installs.** Let a provider answer valid conditions, and let what is kept of the
answer be delivered to the session that awaits it, while nothing is kept for replay. Then the query
has been answered, and the session shows the first visible hit of each reference, of those whose
items exist where this is asked for: sorted, and stably so, under the order of the session; each
without an item, and with the tier of its score under the thresholds of the best score of all hits
that are kept, which is a number, namely zero or one of their scores, and no smaller than zero or
any of them. Unless none of these scores is a number, one of them is the largest, and the best score
is the larger of zero and this one; and the tiers are also those under the thresholds of the largest
score itself, if it is above zero or twice the score is finite. Under the default order tiers never
increase, if all these scores are numbers. And whatever happens to the session later, as long as the
generation lasts each of its hits has the score and the tier of an installed one of the same
reference. -/
theorem complete_installs {provider : Provider} {conditions : List Condition} {matchAll : Bool}
    {answer : List RankedHit} (hvalid : validateConditions conditions = .ok ())
    (hanswer : provider conditions matchAll = .ok answer) (hrun : s.phase = .running)
    (hreplay : s.replay.IsClear) (verify : Bool) (resolver later : Resolver) :
    let kept := resolver.keeps verify answer
    let best := (Thresholds.ofHits kept).best
    let after := (s.handleMessage later
      ((Work.query s.sequence (provider.execute conditions matchAll) verify).finish
        resolver)).session
    after.phase = .completed ∧
      after.results.order = s.results.order ∧
      Installed s.results.order kept after.results ∧
      (Thresholds.ofHits kept = .ofBest best ∧ best.isNaN = false ∧
        (best = Single.zero ∨ ∃ h ∈ kept, h.score = best) ∧ best.lt Single.zero = false ∧
        ∀ h ∈ kept, best.lt h.score = false) ∧
      ((∀ h ∈ kept, h.score.isNaN = true) ∨
        ∃ largest, Thresholds.IsLargest (kept.map (·.score)) largest ∧
          best = Single.zero.max largest ∧
          (Single.zero.lt largest = true ∨ (Thresholds.two.mul largest).isFinite = true →
            ∀ x ∈ after.results.hits, x.tier = (Thresholds.ofBest largest).classify x.score)) ∧
      ∀ steps, (after.runs steps).results.generation = after.results.generation →
        ∀ h ∈ (after.runs steps).results.hits, ∃ x ∈ after.results.hits,
          h.ref = x.ref ∧ h.score = x.score ∧ h.tier = x.tier := by
  intro kept best after
  have hafter : after = s.withAnswer kept := by
    show (s.handleMessage later _).session = _
    rw [finish_query hvalid hanswer]
    exact session_complete hrun hreplay later kept
  have hinstalled : Installed s.results.order kept after.results := by
    rw [hafter]
    exact installed_replace s.results (resolver.visible_of_mem_keeps verify answer)
  obtain ⟨hnumber, hone, hzero, hnone⟩ := Thresholds.bestOf_spec (kept.map (·.score))
  refine ⟨?completed, ?order, hinstalled, ⟨rfl, hnumber, ?attained, hzero, fun h hh => ?exceeds⟩,
    ?largest, fun steps hsame h hh => ?later⟩
  case completed =>
    rw [hafter]
    rfl
  case order =>
    rw [hafter]
    rfl
  case attained => exact hone.imp_right List.mem_map.mp
  case exceeds => exact hnone h.score (List.mem_map_of_mem hh)
  case largest =>
    refine or_iff_not_imp_left.mpr fun hsome => ?_
    obtain ⟨h, hh, hscore⟩ : ∃ h ∈ kept, h.score.isNaN = false := by simpa using hsome
    obtain ⟨largest, hlargest⟩ := Thresholds.exists_isLargest (List.mem_map_of_mem hh) hscore
    exact ⟨largest, hlargest, hlargest.bestOf_eq_max, hinstalled.tier_eq hlargest⟩
  case later =>
    obtain ⟨x, hx, hcontinues⟩ := (dwindles_runs hsame).exists_of_mem hh
    exact ⟨x, hx, hcontinues.ref, hcontinues.score, hcontinues.tier⟩

/-- An answer of six hits. The first is hidden, and the second has no item, so the best score of the
others is that of the last, which is not installed. -/
theorem complete_installs_of_mixed :
    let ranked : UInt64 → UInt32 → State → RankedHit := fun n score state =>
      { ref := ⟨n⟩, score := ⟨score⟩, state, attributes := {} }
    let answer := [ranked 1 0x41100000 .hidden, ranked 4 0x41200000 .unread,
      ranked 2 0x40c00000 .read, ranked 1 0x40800000 .unread, ranked 3 0x40400000 .unread,
      ranked 1 0x41100000 .unread]
    let provider : Provider := fun _ _ => .ok answer
    let conditions : List Condition :=
      [{ field := .received, specifier := .isAfter, value := .date 0 }]
    let resolver : Resolver := fun ref =>
      if ref = ⟨4⟩ then .error (.notFound "news item" "d")
      else .ok { ref, feed := "f", guid := "a", title := "A", state := .read, received := 5 }
    let s := (fresh {} 0).begin
    let after := (s.handleMessage resolver
      ((Work.query s.sequence (provider.execute conditions true) true).finish resolver)).session
    let steps := [(resolver, .setOrder { key := .title }), (resolver, .resort),
      (resolver, .batch [Event.deleted ⟨3⟩])]
    (validateConditions conditions = .ok () ∧ provider conditions true = .ok answer ∧
        s.phase = .running ∧ s.replay.IsClear) ∧
      (after.phase = .completed ∧
        Installed {} (resolver.keeps true answer) after.results ∧
        after.results.hits.map (fun h => (h.ref, h.tier)) =
          [(⟨2⟩, .medium), (⟨1⟩, .medium), (⟨3⟩, .low)] ∧
        (Thresholds.ofHits (resolver.keeps true answer)).best = ⟨0x41100000⟩) ∧
      (after.runs steps).results.generation = after.results.generation ∧
        ∀ h ∈ (after.runs steps).results.hits, ∃ x ∈ after.results.hits,
          h.ref = x.ref ∧ h.score = x.score ∧ h.tier = x.tier := by
  intro ranked answer provider conditions resolver s after steps
  have hclear : s.replay.IsClear := ⟨rfl, rfl⟩
  have hvalid : validateConditions conditions = .ok () := rfl
  obtain ⟨hcompleted, -, hinstalled, -, -, hlater⟩ :=
    @complete_installs s provider conditions true answer hvalid rfl rfl hclear true
      resolver resolver
  have hsame : (after.runs steps).results.generation = after.results.generation :=
    ((after.setOrder { key := .title }).resort.sequence_handleBatch [Event.deleted ⟨3⟩]).2.2.2
  have hafter : after = s.withAnswer (resolver.keeps true answer) := by
    show (s.handleMessage resolver _).session = _
    rw [finish_query hvalid rfl]
    exact session_complete rfl hclear resolver _
  have hshown : after.results.hits.map (fun h => (h.ref, h.tier)) =
      [(⟨2⟩, .medium), (⟨1⟩, .medium), (⟨3⟩, .low)] := by
    rw [hafter, withAnswer, ResultSet.replace_of_pairwise (by decide +kernel)]
    decide +kernel
  exact ⟨⟨hvalid, rfl, rfl, hclear⟩, ⟨hcompleted, hinstalled, hshown, by decide +kernel⟩, hsame,
    hlater steps hsame⟩

/-- An answer of one hit, whose score is so far below zero that twice the score is negative
infinity. The hit is of the lowest tier, under the thresholds of zero, while under those of its own
score, which is the largest, it would be of the highest one. -/
theorem complete_installs_of_lowest :
    let score : Single := ⟨0xff61b1e6⟩
    let answer : List RankedHit := [{ ref := ⟨1⟩, score, state := .unread, attributes := {} }]
    let provider : Provider := fun _ _ => .ok answer
    let conditions : List Condition :=
      [{ field := .received, specifier := .isAfter, value := .date 0 }]
    let resolver : Resolver := fun ref =>
      .ok { ref, feed := "f", guid := "a", title := "A", state := .unread, received := 5 }
    let s := (fresh {} 0).begin
    let after := (s.handleMessage resolver
      ((Work.query s.sequence (provider.execute conditions true) false).finish resolver)).session
    (validateConditions conditions = .ok () ∧ provider conditions true = .ok answer ∧
        s.phase = .running ∧ s.replay.IsClear) ∧
      Thresholds.IsLargest ((resolver.keeps false answer).map (·.score)) score ∧
      after.results.hits.map (fun h => (h.score, h.tier)) = [(score, .low)] ∧
      (Thresholds.ofBest score).classify score = .high ∧
      ¬∀ x ∈ after.results.hits, x.tier = (Thresholds.ofBest score).classify x.score := by
  intro score answer provider conditions resolver s after
  have hclear : s.replay.IsClear := ⟨rfl, rfl⟩
  have hvalid : validateConditions conditions = .ok () := rfl
  have hlargest : Thresholds.IsLargest ((resolver.keeps false answer).map (·.score)) score :=
    ⟨by decide, by decide, by decide⟩
  have hafter : after = s.withAnswer (resolver.keeps false answer) := by
    show (s.handleMessage resolver _).session = _
    rw [finish_query hvalid rfl]
    exact session_complete rfl hclear resolver _
  have hshown : after.results.hits.map (fun h => (h.score, h.tier)) = [(score, .low)] := by
    rw [hafter, withAnswer, ResultSet.replace_of_pairwise (by decide +kernel)]
    decide +kernel
  have hhigh : (Thresholds.ofBest score).classify score = .high := by decide +kernel
  refine ⟨⟨hvalid, rfl, rfl, hclear⟩, hlargest, hshown, hhigh, fun htiers => ?_⟩
  -- the one hit would be of both tiers
  rw [List.map_eq_singleton_iff] at hshown
  obtain ⟨x, hhits, hx⟩ := hshown
  obtain ⟨hscore, hlow⟩ := Prod.mk.inj hx
  have htier := htiers x (hhits ▸ List.mem_cons_self)
  rw [hscore, hhigh, hlow] at htier
  cases htier

end Session

end LiveSearch
