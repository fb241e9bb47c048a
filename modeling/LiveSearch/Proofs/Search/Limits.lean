import LiveSearch.Proofs.Session.Installing
import LiveSearch.Proofs.Session.Ranges
import LiveSearch.Proofs.Session.ReplayOver
import LiveSearch.Search

/-!
# The limit of a request

A request may say how many hits it wants. It is answered in three steps: the hits that are found are
sorted, the first so many of them are taken (`SearchRequest.wanted`), and the items of these are
looked up. A hit whose item does not exist goes, and one whose lookup fails stays, but is not
presented. **No later hit moves up** in the place of either.

So the limit bounds the number of hits that are presented, and is not always reached, even if there
are more hits than it asks for. There may be none at all where hits are left, which is the case as
soon as the first hit of two has no item and one is wanted (`SearchRequest.none_of_first_missing`).
The total counts the hits that are left after the lookups, wanted or not. All of this is put
together in `SearchRequest.execute_within_limit`.
-/

namespace LiveSearch

variable {resolver : Resolver}

/-- The hit with its item, if the lookup of the item succeeds. -/
def Hit.withItem? (resolver : Resolver) (h : Hit) : Option Hit :=
  (resolver h.ref).toOption.map fun item => { h with item := some item }

theorem Hit.isSome_withItem? (resolver : Resolver) (h : Hit) :
    (h.withItem? resolver).isSome = resolver.finds h.ref := by
  rw [withItem?, Option.isSome_map, Resolver.finds]
  cases resolver h.ref <;> rfl

/-- No lookup finds an item and says that there is none. -/
theorem Resolver.countP_finds_or_misses (resolver : Resolver) (hits : List Hit) :
    hits.countP (fun h => resolver.finds h.ref || resolver.misses h.ref) =
      hits.countP (fun h => resolver.finds h.ref) +
        hits.countP (fun h => resolver.misses h.ref) := by
  refine countP_eq_add_of_split fun h _ => ?_
  rw [finds, misses]
  rcases resolver h.ref with e | item
  · exact (Nat.zero_add _).symm
  · rfl

namespace ResultSet

/-- **A set of hits that have just been found.** -/
structure Bare (rs : ResultSet) : Prop where
  /-- No reference has two hits. -/
  distinct : rs.WellFormed
  /-- All hits are in visible states. -/
  visible : ∀ h ∈ rs.hits, h.isVisible = true
  /-- None of them carries its item. -/
  bare : ∀ h ∈ rs.hits, h.item = none

/-- All hits of a range are looked up. -/
theorem Bare.pending_eq {rs : ResultSet} (hbare : rs.Bare) {range : List Hit}
    (hrange : ∀ h ∈ range, h ∈ rs.hits) : rs.pending range = range.map (·.ref) := by
  refine List.filter_eq_self.mpr fun ref href => ?_
  obtain ⟨h, hh, rfl⟩ := List.mem_map.mp href
  exact (hbare.distinct.lacksItem_iff (hrange h hh)).mpr (hbare.bare h (hrange h hh))

/-- What is found is bare, in whatever order. -/
theorem bare_of_perm {rs : ResultSet} {kept : List RankedHit}
    (hvisible : ∀ h ∈ kept, h.state.isVisible = true)
    (hperm : rs.hits.Perm (firstOfEach (Hit.classify kept))) : rs.Bare := by
  have hmem : ∀ x ∈ rs.hits, ∃ h ∈ kept, Hit.ofRanked (.ofHits kept) h = x := fun x hx =>
    List.mem_map.mp (mem_firstOfEach (hperm.mem_iff.mp hx))
  refine ⟨wellFormed_iff.mpr ?distinct, fun x hx => ?visible, fun x hx => ?bare⟩
  case distinct => exact (hperm.map Hit.ref).nodup_iff.mpr (nodup_firstOfEach _)
  case visible =>
    obtain ⟨h, hh, rfl⟩ := hmem x hx
    exact hvisible h hh
  case bare =>
    obtain ⟨h, -, rfl⟩ := hmem x hx
    rfl

end ResultSet

namespace SearchRequest

/-- The order that a request asks for. -/
def order (r : SearchRequest) : SortOrder :=
  match r.sort with
  | some key => { key, ascending := r.ascending }
  | none => {}

/-- The hits that are wanted of those that are found. -/
def wanted (r : SearchRequest) (found : List Hit) : List Hit :=
  found.take (r.limit.getD found.length)

/-- What is presented of the hits of a set. -/
def present (r : SearchRequest) (resolver : Resolver) (rs : ResultSet) : SearchFindings :=
  let refs := (r.wanted rs.hits).map (·.ref)
  let after := Session.materializeRefs resolver refs rs
  { total := after.size, hits := Session.shown after refs }

variable {r : SearchRequest} {rs : ResultSet}

theorem mem_of_mem_wanted {found : List Hit} {h : Hit} (hh : h ∈ r.wanted found) : h ∈ found :=
  List.mem_of_mem_take hh

theorem length_wanted (r : SearchRequest) (found : List Hit) :
    (r.wanted found).length = min (r.limit.getD found.length) found.length :=
  List.length_take

/-! ### Presenting the hits of a set -/

/-- What the lookups for the wanted hits do to a hit. -/
def looked (r : SearchRequest) (resolver : Resolver) (rs : ResultSet) : Hit → Option Hit :=
  Hit.lookedUp (resolver.found ((r.wanted rs.hits).map (·.ref)))
    (resolver.missing ((r.wanted rs.hits).map (·.ref)))

/-- The hits are those of the wanted ones that carry their items after the lookups. -/
theorem hits_present (hbare : rs.Bare) : (r.present resolver rs).hits =
    ((r.wanted rs.hits).filterMap (r.looked resolver rs)).filter (·.item.isSome) := by
  have hrange : ∀ h ∈ r.wanted rs.hits, h ∈ rs.hits := fun _ => mem_of_mem_wanted
  refine (ResultSet.shown_lookedUp resolver hbare.distinct hbare.visible hrange).trans ?_
  rw [hbare.pending_eq hrange]
  rfl

/-- **What is presented** is a wanted hit with an item of its own. -/
theorem of_mem_present (hbare : rs.Bare) {x : Hit} (hx : x ∈ (r.present resolver rs).hits) :
    ∃ item, x.item = some item ∧ item.ref = x.ref := by
  rw [hits_present hbare] at hx
  obtain ⟨hmem, hsome⟩ := List.mem_filter.mp hx
  obtain ⟨h, hh, hlooked⟩ := List.mem_filterMap.mp hmem
  obtain ⟨item, hitem⟩ := Option.isSome_iff_exists.mp hsome
  obtain ⟨-, rfl⟩ := Hit.eq_of_lookedUp hlooked
  refine ⟨item, hitem, ?_⟩
  rw [hbare.bare h (mem_of_mem_wanted hh), Option.none_or] at hitem
  exact of_decide_eq_true (List.find?_some (p := fun item : Item => item.ref = h.ref) hitem)

/-- **The order** of the hits is that of the set. -/
theorem pairwise_present (hbare : rs.Bare) {order : SortOrder}
    (hsorted : rs.hits.Pairwise fun a b => order.le a b = true) :
    (r.present resolver rs).hits.Pairwise fun a b => order.le a b = true := by
  rw [hits_present hbare]
  have hwanted : (r.wanted rs.hits).Pairwise fun a b => order.le a b = true :=
    hsorted.sublist (List.take_sublist _ _)
  refine (hwanted.filterMap _ fun a b hle a' ha b' hb => ?_).filter _
  -- two hits are compared without regard to their items
  obtain ⟨-, rfl⟩ := Hit.eq_of_lookedUp ha
  obtain ⟨-, rfl⟩ := Hit.eq_of_lookedUp hb
  exact hle

/-- What the lookups leave of the set. -/
theorem results_present (hbare : rs.Bare) :
    Session.materializeRefs resolver ((r.wanted rs.hits).map (·.ref)) rs =
      { rs with hits := rs.hits.filterMap (r.looked resolver rs) } := by
  rw [Session.materializeRefs, ← ResultSet.pending, hbare.pending_eq fun _ => mem_of_mem_wanted,
    Session.removeAll_attachAll]
  rfl

theorem total_eq (hbare : rs.Bare) :
    (r.present resolver rs).total = (rs.hits.filterMap (r.looked resolver rs)).length := by
  rw [present, results_present hbare]
  rfl

/-- Of all hits the lookups drop the wanted ones whose items do not exist. -/
theorem countP_looked (hbare : rs.Bare) :
    rs.hits.countP (fun h => ¬(r.looked resolver rs h).isSome) =
      (r.wanted rs.hits).countP (fun h => resolver.misses h.ref) := by
  have hdropped : ∀ h, (r.looked resolver rs h).isSome = false ↔
      h.ref ∈ (r.wanted rs.hits).map (·.ref) ∧ resolver.misses h.ref = true := by
    intro h
    rw [← Resolver.mem_missing, looked, Hit.lookedUp]
    split <;> simp_all
  have hsplit : r.wanted rs.hits ++ rs.hits.drop (r.limit.getD rs.hits.length) = rs.hits :=
    List.take_append_drop _ _
  have hdistinct := hbare.distinct.distinct
  rw [ResultSet.refs, ← hsplit, List.map_append, List.nodup_append] at hdistinct
  have hrest : (rs.hits.drop (r.limit.getD rs.hits.length)).countP
      (fun h => ¬(r.looked resolver rs h).isSome) = 0 := by
    refine List.countP_eq_zero.mpr fun h hh hgone => ?_
    have hwanted := ((hdropped h).mp (by simpa using hgone)).1
    exact hdistinct.2.2 _ hwanted _ (List.mem_map_of_mem hh) rfl
  rw [← hsplit, List.countP_append, hsplit, hrest, Nat.add_zero]
  refine List.countP_congr fun h hh => ?_
  simp [hdropped, List.mem_map_of_mem hh]

/-- **The total** counts all hits but the wanted ones whose items do not exist. -/
theorem total_present (r : SearchRequest) (resolver : Resolver) (hbare : rs.Bare) :
    (r.present resolver rs).total +
      (r.wanted rs.hits).countP (fun h => resolver.misses h.ref) = rs.hits.length := by
  rw [total_eq hbare, List.length_filterMap_eq_countP, ← countP_looked hbare]
  exact (List.length_eq_countP_add_countP _).symm

/-- **The limit** bounds the number of hits that are presented, and so does the total. -/
theorem length_present_le (hbare : rs.Bare) : (r.present resolver rs).hits.length ≤
    min (r.limit.getD (r.present resolver rs).total) (r.present resolver rs).total := by
  have hlooked : (r.present resolver rs).hits.length ≤
      ((r.wanted rs.hits).filterMap (r.looked resolver rs)).length := by
    rw [hits_present hbare]
    exact List.length_filter_le _ _
  have htotal : ((r.wanted rs.hits).filterMap (r.looked resolver rs)).length ≤
      (r.present resolver rs).total := by
    rw [total_eq hbare]
    exact ((List.take_sublist _ _).filterMap _).length_le
  have hlimit : ((r.wanted rs.hits).filterMap (r.looked resolver rs)).length ≤
      r.limit.getD (r.present resolver rs).total := by
    cases hasked : r.limit with
    | none => exact htotal
    | some limit =>
      refine (List.length_filterMap_le _ _).trans ?_
      rw [length_wanted, hasked]
      exact Nat.min_le_left _ _
  exact hlooked.trans (Nat.le_min.mpr ⟨hlimit, htotal⟩)

/-! ### Resolvers that are trusted -/

/-- **What is presented** are the wanted hits whose lookups succeed, with their items. -/
theorem hits_present_eq (hbare : rs.Bare) (hk : resolver.Keyed) :
    (r.present resolver rs).hits = (r.wanted rs.hits).filterMap (Hit.withItem? resolver) := by
  rw [hits_present hbare, List.filter_filterMap]
  refine List.filterMap_congr fun h hh => ?_
  have hitem := hbare.bare h (mem_of_mem_wanted hh)
  have hresolved : r.looked resolver rs h = h.resolvedBy resolver :=
    Hit.lookedUp_eq_resolvedBy hk (iff_of_true (List.mem_map_of_mem hh) hitem)
  rw [hresolved, Hit.resolvedBy, Hit.withItem?, hitem]
  rcases hr : resolver h.ref with e | item
  · by_cases hgone : e.isNotFound = true <;> simp [hgone, hitem, Except.toOption]
  · rfl

theorem length_present (hbare : rs.Bare) (hk : resolver.Keyed) :
    (r.present resolver rs).hits.length =
      (r.wanted rs.hits).countP (fun h => resolver.finds h.ref) := by
  rw [hits_present_eq hbare hk, List.length_filterMap_eq_countP]
  exact List.countP_congr fun h _ => by rw [Hit.isSome_withItem?]

/-- **The limit is reached**, as far as the total allows, if no lookup among the wanted hits fails;
one may say that there is no item, but only if all hits are wanted. -/
theorem length_present_eq_iff (hbare : rs.Bare) (hk : resolver.Keyed) :
    (r.present resolver rs).hits.length =
        min (r.limit.getD (r.present resolver rs).total) (r.present resolver rs).total ↔
      ∀ h ∈ r.wanted rs.hits, resolver.finds h.ref = true ∨
        resolver.misses h.ref = true ∧ rs.hits.length ≤ r.limit.getD rs.hits.length := by
  have htotal := total_present r resolver hbare
  have hwanted := length_wanted r rs.hits
  have hsum := resolver.countP_finds_or_misses (r.wanted rs.hits)
  have hle := List.countP_le_length (p := fun h : Hit =>
    resolver.finds h.ref || resolver.misses h.ref) (l := r.wanted rs.hits)
  rw [length_present hbare hk]
  by_cases hall : rs.hits.length ≤ r.limit.getD rs.hits.length
  · have hevery : (r.wanted rs.hits).countP
        (fun h => resolver.finds h.ref || resolver.misses h.ref) = (r.wanted rs.hits).length ↔
          ∀ h ∈ r.wanted rs.hits, resolver.finds h.ref = true ∨ resolver.misses h.ref = true := by
      simp only [List.countP_eq_length, Bool.or_eq_true]
    simp only [hall, and_true, ← hevery]
    cases hasked : r.limit <;> simp only [hasked, Option.getD] at hall hwanted ⊢ <;> omega
  · have hevery : (r.wanted rs.hits).countP (fun h => resolver.finds h.ref) =
        (r.wanted rs.hits).length ↔ ∀ h ∈ r.wanted rs.hits, resolver.finds h.ref = true :=
      List.countP_eq_length
    simp only [hall, and_false, or_false, ← hevery]
    cases hasked : r.limit <;> simp only [hasked, Option.getD] at hall hwanted ⊢ <;> omega

/-! ### Carrying out a request -/

variable {sources : Sources} {settings : Settings} {answer : List RankedHit}

/-- A request that is answered. -/
theorem answered_eq (hvalid : validateConditions r.conditions = .ok ())
    (hanswer : sources.provider r.conditions (!r.any) = .ok answer) :
    r.answered sources settings = .ok ((Session.fresh settings 0).begin.withAnswer
      (sources.resolver.keeps settings.verifyExistence answer)) := by
  rw [answered, Session.issue_of_valid rfl hvalid]
  show Except.ok (Session.handleMessage _ _ _).session = _
  rw [Session.finish_query hvalid hanswer]
  exact congrArg Except.ok (Session.session_complete rfl ⟨rfl, rfl⟩ sources.resolver _)

theorem phase_sorted (r : SearchRequest) (s : Session) : (r.sorted s).phase = s.phase := by
  rw [sorted]
  split <;> rfl

/-- **The findings of a request** that is answered are what is presented of the sorted hits. -/
theorem execute_of_answered {s : Session} (hs : r.answered sources settings = .ok s)
    (hphase : s.phase = .completed) :
    r.execute sources settings = .ok (r.present sources.resolver (r.sorted s).results) := by
  have hnot : s.phase ≠ .failed := by simp [hphase]
  have hopen : (r.sorted s).isClosed = false := by
    rw [Session.isClosed, phase_sorted, hphase]
    rfl
  have hrefs : Session.refsOfRange (r.sorted s).results 0
      (r.limit.getD (r.sorted s).results.size) =
        (r.wanted (r.sorted s).results.hits).map (·.ref) := by
    rw [Session.refsOfRange, List.drop_zero, ResultSet.refs, ← List.map_take]
    rfl
  rw [execute, hs]
  show (if s.phase = .failed then _ else _ : Except Failure SearchFindings) = _
  rw [if_neg hnot]
  show ((r.sorted s).materialize _ 0 _ >>= _ : Except Failure SearchFindings) = _
  rw [Session.materialize, if_neg (by simp [hopen]), hrefs]
  rfl

/-- Sorting gives the hits of an answer the order that is asked for. -/
theorem results_sorted (r : SearchRequest) {s : Session}
    (hsorted : s.results.hits.Pairwise fun a b => ({} : SortOrder).le a b = true) :
    (r.sorted s).results.hits.Perm s.results.hits ∧
      (r.sorted s).results.hits.Pairwise fun a b => r.order.le a b = true := by
  rw [sorted, order]
  cases r.sort with
  | none => exact ⟨.refl _, hsorted⟩
  | some key => exact ⟨List.mergeSort_perm _ _, SortOrder.pairwise_sort _ _⟩

/-- The findings of a request for an answer that is in order already. -/
theorem execute_of_pairwise (hvalid : validateConditions r.conditions = .ok ())
    (hanswer : sources.provider r.conditions (!r.any) = .ok answer) (hnone : r.sort = none)
    (hsorted : (ResultSet.firstOfEach (Hit.classify
      (sources.resolver.keeps settings.verifyExistence answer))).Pairwise
        fun a b => ({} : SortOrder).le a b = true) :
    r.execute sources settings = .ok (r.present sources.resolver
      { hits := ResultSet.firstOfEach (Hit.classify
          (sources.resolver.keeps settings.verifyExistence answer))
        generation := 1 }) := by
  have hvisible := sources.resolver.visible_of_mem_keeps settings.verifyExistence answer
  rw [execute_of_answered (answered_eq hvalid hanswer) rfl, sorted, hnone]
  show Except.ok (r.present _ (ResultSet.replace {} _)) = _
  rw [ResultSet.replace_of_pairwise (by rwa [Hit.filter_classify hvisible]),
    Hit.filter_classify hvisible]

/-- **What the limit of a request means.** Let a provider answer the valid conditions of a request.
Then the request succeeds. Its findings are made of the first visible hits for the references of the
answer, of those whose items exist where this is asked for, sorted in the order that the request
asks for. The hits of the findings are in this order, each with an item of its own; the total
counts the hits that were found but the wanted ones whose items do not exist; and the number of hits
is not larger than the limit, and not larger than the total. Let the resolver be trusted, too. Then
the hits are the wanted ones whose lookups succeed, with their items; they are as many as limit and
total allow exactly if no lookup among the wanted hits fails, except that one may say that there is
no item if all hits are wanted; and there are none exactly if no lookup among the wanted hits
succeeds. -/
theorem execute_within_limit (hvalid : validateConditions r.conditions = .ok ())
    (hanswer : sources.provider r.conditions (!r.any) = .ok answer) :
    ∃ found findings, r.execute sources settings = .ok findings ∧
      found.Perm (ResultSet.firstOfEach (Hit.classify
        (sources.resolver.keeps settings.verifyExistence answer))) ∧
      (found.Pairwise fun a b => r.order.le a b = true) ∧
      (findings.hits.Pairwise fun a b => r.order.le a b = true) ∧
      (∀ h ∈ findings.hits, ∃ item, h.item = some item ∧ item.ref = h.ref) ∧
      findings.total + (r.wanted found).countP (fun h => sources.resolver.misses h.ref) =
        found.length ∧
      findings.hits.length ≤ min (r.limit.getD findings.total) findings.total ∧
      (sources.resolver.Keyed →
        findings.hits = (r.wanted found).filterMap (Hit.withItem? sources.resolver) ∧
        (findings.hits.length = min (r.limit.getD findings.total) findings.total ↔
          ∀ h ∈ r.wanted found, sources.resolver.finds h.ref = true ∨
            sources.resolver.misses h.ref = true ∧
              found.length ≤ r.limit.getD found.length) ∧
        (findings.hits = [] ↔ ∀ h ∈ r.wanted found, sources.resolver.finds h.ref = false)) := by
  let kept := sources.resolver.keeps settings.verifyExistence answer
  let s := (Session.fresh settings 0).begin.withAnswer kept
  let rs := (r.sorted s).results
  have hvisible := sources.resolver.visible_of_mem_keeps settings.verifyExistence answer
  have hinstalled : s.results.hits.Perm (ResultSet.firstOfEach (Hit.classify kept)) ∧
      s.results.hits.Pairwise fun a b => ({} : SortOrder).le a b = true := by
    have hhits : s.results.hits =
        ({} : SortOrder).sort (ResultSet.firstOfEach (Hit.classify kept)) :=
      ResultSet.hits_replace_classify _ hvisible
    rw [hhits]
    exact ⟨List.mergeSort_perm _ _, SortOrder.pairwise_sort _ _⟩
  obtain ⟨hperm, hsorted⟩ := r.results_sorted hinstalled.2
  have hfound := hperm.trans hinstalled.1
  have hbare : rs.Bare := ResultSet.bare_of_perm hvisible hfound
  refine ⟨rs.hits, r.present sources.resolver rs,
    execute_of_answered (answered_eq hvalid hanswer) rfl, hfound, hsorted,
    pairwise_present hbare hsorted, fun h hh => of_mem_present hbare hh,
    total_present r sources.resolver hbare, length_present_le hbare,
    fun hk => ⟨hits_present_eq hbare hk, length_present_eq_iff hbare hk, ?none⟩⟩
  case none =>
    rw [← List.length_eq_zero_iff, length_present hbare hk, List.countP_eq_zero]
    simp

/-- Three of four hits are wanted. The item of the first is found, the second has none, and that of
the third cannot be read, so one hit is presented, although the item of the fourth could be had. -/
theorem execute_within_limit_of_mixed :
    let ranked : UInt64 → UInt32 → RankedHit := fun n score =>
      { ref := ⟨n⟩, score := ⟨score⟩, state := .unread, attributes := {} }
    let answer := [ranked 1 0x41100000, ranked 2 0x40c00000, ranked 3 0x40800000,
      ranked 4 0x40400000]
    let resolver : Resolver := fun ref =>
      if ref = ⟨2⟩ then .error (.notFound "news item" "b")
      else if ref = ⟨3⟩ then .error (.io "unreadable page")
      else .ok { ref, feed := "f", guid := "a", title := "A", state := .read, received := 5 }
    let sources : Sources := { provider := fun _ _ => .ok answer, resolver }
    let r : SearchRequest := { text := some "abc", limit := some 3 }
    (validateConditions r.conditions = .ok () ∧
        sources.provider r.conditions (!r.any) = .ok answer ∧ resolver.Keyed) ∧
      ∃ found findings, r.execute sources {} = .ok findings ∧
        (found.Pairwise fun a b => r.order.le a b = true) ∧
        findings.hits = (r.wanted found).filterMap (Hit.withItem? resolver) ∧
        findings.total = 3 ∧ findings.hits.map (·.ref) = [⟨1⟩] ∧
        ¬findings.hits.length = min 3 findings.total := by
  intro ranked answer resolver sources r
  have hvalid : validateConditions r.conditions = .ok () := rfl
  have hkeyed : resolver.Keyed := by
    intro ref item hfound
    simp only [resolver] at hfound
    split at hfound
    · cases hfound
    · split at hfound
      · cases hfound
      · rw [← Except.ok.inj hfound]
  obtain ⟨found, findings, hexecuted, -, hsorted, -, -, -, -, hexact⟩ :=
    @execute_within_limit r sources {} answer hvalid rfl
  have hcomputed := @execute_of_pairwise r sources {} answer hvalid rfl rfl (by decide +kernel)
  obtain rfl := Except.ok.inj (hexecuted.symm.trans hcomputed)
  exact ⟨⟨hvalid, rfl, hkeyed⟩, found, _, hexecuted, hsorted, (hexact hkeyed).1,
    by decide +kernel, by decide +kernel, by decide +kernel⟩

/-- One of two hits is wanted, and the item of the first is gone. No hit is presented, although the
total is one, the item of the second is there, and the limit is not zero. -/
theorem none_of_first_missing :
    let ranked : UInt64 → UInt32 → RankedHit := fun n score =>
      { ref := ⟨n⟩, score := ⟨score⟩, state := .unread, attributes := {} }
    let resolver : Resolver := fun ref =>
      if ref = ⟨1⟩ then .error (.notFound "news item" "a")
      else .ok { ref, feed := "f", guid := "b", title := "B", state := .new, received := 0 }
    let sources : Sources :=
      { provider := fun _ _ => .ok [ranked 1 0x41100000, ranked 2 0x40c00000], resolver }
    let r : SearchRequest := { text := some "abc", limit := some 1 }
    ∃ findings, r.execute sources {} = .ok findings ∧ findings.total = 1 ∧ findings.hits = [] ∧
      findings.hits.length ≠ min 1 findings.total := by
  intro ranked resolver sources r
  have hcomputed := @execute_of_pairwise r sources {} _ rfl rfl rfl (by decide +kernel)
  exact ⟨_, hcomputed, by decide +kernel, by decide +kernel, by decide +kernel⟩

end SearchRequest

end LiveSearch
