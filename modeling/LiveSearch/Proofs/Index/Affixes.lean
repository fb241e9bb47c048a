import LiveSearch.Proofs.Index.Values

/-!
# Searching by the ends of whole values

*Begins with* and *ends with* look for an affix of a whole value. The affix is escaped and put into a
pattern, and the values are matched with the pattern, so none of its characters has a meaning of its
own: what is found is the text itself, in its folded form, at the one or the other end of the form of
a value (`Index.returns_by_affix`).

What stands between the affix and the other end of the value has to stand on one line, for the pattern
describes it character by character, and a line feed is no such character. The affix itself may hold
line feeds.
-/

namespace LiveSearch

open Text

/-- The comparison that looks for an affix. -/
def End.specifier : End → Specifier
  | .front => .beginsWith
  | .back => .endsWith

/-- **The value has the affix**, and the rest of it stands on one line. -/
def HasAffix (side : End) (text value : Token) : Prop :=
  match side with
  | .front => ∃ rest, value = text ++ rest ∧ '\n' ∉ rest
  | .back => ∃ rest, value = rest ++ text ∧ '\n' ∉ rest

namespace Index

open Query

variable {field : ValueField} {side : End} {s : String}

/-! ### Comparing the ends of whole values -/

theorem ofCondition_affix (field : ValueField) (side : End) (s : String) :
    ofCondition (.onText field.field side.specifier s) = hasValueAffix field side s := by
  -- a field of words as well goes through a list of one target
  have htarget (side : End) : ∀ target : Query.Target, target.whole = some field →
      target.factor = 1 →
        ofText [target] side.specifier s = hasValueAffix field side s := by
    rintro ⟨words, whole, factor⟩ hwhole hfactor
    obtain rfl : whole = some field := hwhole
    obtain rfl : factor = 1 := hfactor
    have hquery : ofTarget side.specifier s { words, whole := some field } =
        hasValueAffix field side s := by cases side <;> rfl
    rw [ofText, List.mapM_cons, hquery]
    cases hasValueAffix field side s <;> cases side <;> rfl
  cases field with
  | title => exact htarget side titleTarget rfl rfl
  | author => exact htarget side authorTarget rfl rfl
  | feed => cases side <;> rfl
  | link => cases side <;> rfl
  | category => cases side <;> rfl
  | label => cases side <;> rfl

/-- **The pattern of an affix describes the values that have it.** -/
theorem describes_affixPieces_iff (side : End) (text value : Token) :
    Pattern.describes (affixPieces side text) value = true ↔ HasAffix side text value := by
  cases side with
  | front => exact Pattern.describes_front text value
  | back => exact Pattern.describes_back text value

theorem finds_affix (item : Item) (text : Token) :
    (Query.pattern field (affixPieces side text)).finds (Document.ofItem item) = true ↔
      ∃ v ∈ item.valuesOf field, IsIndexed v ∧ HasAffix side text (lowerEach v.toList) := by
  rw [finds, List.any_eq_true]
  simp only [describes_affixPieces_iff, Document.mem_valuesOf_ofItem]
  constructor
  · rintro ⟨_, ⟨v, hv, hindexed, rfl⟩, haffix⟩
    exact ⟨v, hv, hindexed, haffix⟩
  · rintro ⟨v, hv, hindexed, haffix⟩
    exact ⟨_, ⟨v, hv, hindexed, rfl⟩, haffix⟩

/-- Where a value stands on one line it has an affix if it begins or ends with it. -/
theorem hasAffix_iff_of_oneLine {text value : Token} (hline : '\n' ∉ value) :
    HasAffix side text value ↔
      match side with
      | .front => text <+: value
      | .back => text <:+ value := by
  cases side with
  | front =>
    constructor
    · rintro ⟨rest, rfl, -⟩
      exact List.prefix_append text rest
    · rintro ⟨rest, rfl⟩
      exact ⟨rest, rfl, fun h => hline (List.mem_append_right text h)⟩
  | back =>
    constructor
    · rintro ⟨rest, rfl, -⟩
      exact List.suffix_append rest text
    · rintro ⟨rest, rfl⟩
      exact ⟨rest, rfl, fun h => hline (List.mem_append_left text h)⟩

/-- **What a search for an affix returns.** A text that is not blank returns the items with a value
that is not too long, whose form begins or ends with the folded form of the text, and goes on without
a line feed; so where the values stand on one line, it returns exactly those that begin or end with
the text. None of its characters has a meaning of its own. A text whose pattern is too large for the
matcher is refused. -/
theorem returns_by_affix (acts : List Act) (field : ValueField) (side : End) (s : String)
    (hblank : isBlankText s = false) :
    (affixStates side (folded s) ≤ stateLimit →
      Returns acts (.onText field.field side.specifier s) fun item =>
        ∃ v ∈ item.valuesOf field, IsIndexed v ∧
          HasAffix side (folded s) (lowerEach v.toList)) ∧
      (∀ value : Token, '\n' ∉ value → (HasAffix side (folded s) value ↔
        match side with
        | .front => folded s <+: value
        | .back => folded s <:+ value)) ∧
      (stateLimit < affixStates side (folded s) → ∀ matchAll,
        (acted acts).search [.onText field.field side.specifier s] matchAll =
          .error affixTooLong) := by
  have husable : (Condition.onText field.field side.specifier s).isUsable = true := by
    rw [isUsable_onText, hblank, Bool.not_false]
  refine ⟨fun hfits => ?_, fun value hline => hasAffix_iff_of_oneLine hline, ?_⟩
  · refine returns_of_query husable ?_ fun item => finds_affix item (folded s)
    rw [ofCondition_affix, hasValueAffix_eq_ok hfits]
  · intro hlong matchAll
    have hrefused : ofCondition (.onText field.field side.specifier s) = .error affixTooLong := by
      rw [ofCondition_affix, hasValueAffix_eq, if_pos hlong]
    rw [search, ofConditions, List.filter_cons_of_pos husable, List.filter_nil, List.mapM_cons,
      hrefused]
    rfl

/-- Two titles that begin with the letter, one of them over two lines. The stop and the star of the
affix are found as they stand, and of the two titles only the one on one line is found by its first
letter. A thousand letters are too many. -/
theorem returns_by_affix_of_lines :
    let lines : Item :=
      { ref := ⟨1⟩, feed := "f", guid := "a", title := "A\nB", state := .unread, received := 5 }
    let line : Item := { lines with ref := ⟨2⟩, guid := "b", title := "A.*B" }
    let acts : List Act := [.add lines, .add line, .commit]
    let long := String.ofList (List.replicate 1000 'a')
    ((isBlankText "A" = false ∧ affixStates .front (folded "A") ≤ stateLimit) ∧
        (isBlankText ".*b" = false ∧ affixStates .back (folded ".*b") ≤ stateLimit) ∧
        isBlankText long = false ∧ stateLimit < affixStates .front (folded long)) ∧
      (∃ hit, (acted acts).search [.onText .title .beginsWith "A"] true = .ok [hit] ∧
        hit.ref = ⟨2⟩) ∧
      (∃ hit, (acted acts).search [.onText .title .endsWith ".*b"] true = .ok [hit] ∧
        hit.ref = ⟨2⟩) ∧
      (acted acts).search [.onText .title .beginsWith long] true = .error affixTooLong := by
  intro lines line acts long
  have hfront : isBlankText "A" = false ∧ affixStates .front (folded "A") ≤ stateLimit := by
    decide +kernel
  have hback : isBlankText ".*b" = false ∧ affixStates .back (folded ".*b") ≤ stateLimit := by
    decide +kernel
  have hlong : isBlankText long = false ∧ stateLimit < affixStates .front (folded long) := by
    rw [isBlankText, folded, String.toList_ofList]
    decide +kernel
  have hheld : held acts = [lines, line] := rfl
  have hline : line ∈ held acts := by
    rw [hheld]
    exact List.mem_cons_of_mem _ (List.mem_singleton_self line)
  have hindexed : IsIndexed "A.*B" := by
    rw [IsIndexed]
    decide +kernel
  have hform : lowerEach "A.*B".toList = "a.*b".toList := by decide +kernel
  have hforms : lowerEach "A\nB".toList = "a\nb".toList := by decide +kernel
  have hother {side : End} {text : Token} (hnot : ¬HasAffix side text (lowerEach "A\nB".toList)) :
      ∀ other ∈ held acts,
        (∃ v ∈ other.valuesOf .title, IsIndexed v ∧ HasAffix side text (lowerEach v.toList)) →
          other = line := by
    rintro other hmem ⟨v, hv, -, haffix⟩
    rw [hheld] at hmem
    rcases List.mem_pair.mp hmem with rfl | rfl
    · obtain rfl := List.mem_singleton.mp hv
      exact absurd haffix hnot
    · rfl
  refine ⟨⟨hfront, hback, hlong⟩, ?_, ?_, ?_⟩
  · have hfolded : folded "A" = ['a'] := by decide +kernel
    obtain ⟨hreturns, honeLine, -⟩ := returns_by_affix acts .title .front "A" hfront.1
    obtain ⟨hits, hsearch, hlists⟩ := hreturns hfront.2 true
    have hbegins : HasAffix .front (folded "A") (lowerEach "A.*B".toList) := by
      rw [hform, honeLine _ (by decide), hfolded]
      exact ⟨".*b".toList, by decide⟩
    have hsplit : ¬HasAffix .front (folded "A") (lowerEach "A\nB".toList) := by
      rw [hfolded, hforms]
      rintro ⟨rest, hrest, hfeed⟩
      obtain rfl : "\nb".toList = rest := (List.cons.inj hrest).2
      exact hfeed (by decide)
    obtain ⟨hit, rfl, hshows⟩ := hlists.eq_singleton hline
      ⟨"A.*B", List.mem_singleton_self _, hindexed, hbegins⟩ (hother hsplit)
    exact ⟨hit, hsearch, hshows.1⟩
  · have hfolded : folded ".*b" = ".*b".toList := by decide +kernel
    obtain ⟨hreturns, honeLine, -⟩ := returns_by_affix acts .title .back ".*b" hback.1
    obtain ⟨hits, hsearch, hlists⟩ := hreturns hback.2 true
    have hends : HasAffix .back (folded ".*b") (lowerEach "A.*B".toList) := by
      rw [hform, honeLine _ (by decide), hfolded]
      exact ⟨['a'], by decide⟩
    have hsplit : ¬HasAffix .back (folded ".*b") (lowerEach "A\nB".toList) := by
      rw [hfolded, hforms]
      rintro ⟨rest, hrest, -⟩
      have hstop : '.' ∈ rest ++ ".*b".toList := List.mem_append_right _ (by decide)
      rw [← hrest] at hstop
      exact absurd hstop (by decide)
    obtain ⟨hit, rfl, hshows⟩ := hlists.eq_singleton hline
      ⟨"A.*B", List.mem_singleton_self _, hindexed, hends⟩ (hother hsplit)
    exact ⟨hit, hsearch, hshows.1⟩
  · obtain ⟨-, -, hrefused⟩ := returns_by_affix acts .title .front long hlong.1
    exact hrefused hlong.2 true

end Index

end LiveSearch
