import LiveSearch.Proofs.Index.Holdings
import LiveSearch.Proofs.Text.Folding

/-!
# Searching by whole values

Six fields of an item are searched by their whole values (`Item.valuesOf`). The categories and the
labels can be any number of values, the other fields are one each. A value is held in the index in the
form that lower case character by character gives it, unless this form is too long
(`Text.IsIndexed`), and *is* compares it with the folded form of a text.

**A text is found by the values of its folded form** (`Index.returns_by_value`). That is not always
the form of the text itself, so an item need not be found by a value of its own: it is, if the value
is folded into its own form, and otherwise only if another value of the field happens to have that
form.
-/

namespace LiveSearch

open Text

/-- The field of a condition on whole values. -/
def ValueField.field : ValueField → Field
  | .title => .title
  | .author => .author
  | .feed => .feed
  | .link => .link
  | .category => .category
  | .label => .label

/-- The values of an item in a field. -/
def Item.valuesOf (item : Item) : ValueField → List String
  | .title => [item.title]
  | .author => [item.author]
  | .feed => [item.feed]
  | .link => [item.link]
  | .category => item.categories
  | .label => item.labels

/-- **The value is short enough** to be indexed as a whole. -/
def Text.IsIndexed (v : String) : Prop :=
  byteLength (lowerEach v.toList) ≤ Document.valueLimit

/-- **The text is folded into the form of its own value**: nothing is trimmed from it, and no word in
it ends in a capital sigma. -/
def Text.IsPlain (s : String) : Prop :=
  trimChars s.toList = s.toList ∧ ¬EndsInSigma s.toList

namespace Document

variable {item : Item} {field : ValueField} {token : Token}

/-! ### The values of a document -/

theorem wholeValue?_eq_some_iff {v : String} :
    wholeValue? v = some token ↔ IsIndexed v ∧ lowerEach v.toList = token := by
  rw [wholeValue?, IsIndexed]
  split
  · next h => simp [h]
  · next h => simp [h]

/-- The values of a field are listed under this field. -/
theorem mem_rawValues {v : String} : (field, v) ∈ rawValues item ↔ v ∈ item.valuesOf field := by
  cases field <;> simp [rawValues, Item.valuesOf]

/-- **What the document holds of the values of an item.** -/
theorem mem_valuesOf_ofItem :
    token ∈ (ofItem item).valuesOf field ↔
      ∃ v ∈ item.valuesOf field, IsIndexed v ∧ lowerEach v.toList = token := by
  simp only [valuesOf, ofItem, List.mem_map, List.mem_filter, List.mem_filterMap,
    decide_eq_true_iff]
  constructor
  · rintro ⟨⟨other, held⟩, ⟨⟨⟨raw, v⟩, hraw, hvalue⟩, rfl⟩, rfl⟩
    obtain ⟨whole, hwhole, hpair⟩ := Option.map_eq_some_iff.mp hvalue
    obtain ⟨rfl, rfl⟩ := Prod.mk.inj hpair
    exact ⟨v, mem_rawValues.mp hraw, wholeValue?_eq_some_iff.mp hwhole⟩
  · rintro ⟨v, hv, hwhole⟩
    refine ⟨(field, token), ⟨⟨(field, v), mem_rawValues.mpr hv, ?_⟩, rfl⟩, rfl⟩
    rw [wholeValue?_eq_some_iff.mpr hwhole, Option.map_some]

end Document

namespace Index

open Query

variable {field : ValueField} {s : String}

/-! ### Comparing whole values -/

theorem finds_value {d : Document} {token : Token} :
    (Query.term (.value field token)).finds d = true ↔ token ∈ d.valuesOf field := by
  rw [finds, Term.occursIn, Term.frequency, decide_eq_true_iff]
  split
  · next h => simpa using h
  · next h => simpa using h

theorem ofCondition_is (field : ValueField) (s : String) :
    ofCondition (.onText field.field .is s) = .ok (isValue field s) := by
  cases field <;> rfl

/-- Some value of the item has the folded form of the text. -/
def HasValue (field : ValueField) (s : String) (item : Item) : Prop :=
  ∃ v ∈ item.valuesOf field, IsIndexed v ∧ lowerEach v.toList = folded s

/-- **By a value of its own** an item is found if this value is folded into its own form, or else by
another one of the field. -/
theorem hasValue_own_iff {item : Item} (hvalue : s ∈ item.valuesOf field) (hindexed : IsIndexed s) :
    HasValue field s item ↔
      IsPlain s ∨ ∃ v ∈ item.valuesOf field, v ≠ s ∧ IsIndexed v ∧ lowerEach v.toList = folded s := by
  constructor
  · rintro ⟨v, hv, hfits, hform⟩
    by_cases hown : v = s
    · subst hown
      exact Or.inl ((folded_eq_iff v).mp hform.symm)
    · exact Or.inr ⟨v, hv, hown, hfits, hform⟩
  · rintro (hplain | ⟨v, hv, -, hfits, hform⟩)
    · exact ⟨s, hvalue, hindexed, ((folded_eq_iff s).mpr hplain).symm⟩
    · exact ⟨v, hv, hfits, hform⟩

/-- **What a search for a whole value returns.** A text that is not blank returns the items with a
value of its folded form. Of the items that have the text itself as a value, in a form that is not too
long, it returns those where the text is folded into its own form, because it neither begins nor ends
with a blank and no word in it ends in a capital sigma, and of the others those with another value of
the folded form. -/
theorem returns_by_value (acts : List Act) (field : ValueField) (s : String)
    (hblank : isBlankText s = false) :
    Returns acts (.onText field.field .is s) (HasValue field s) ∧
      ∀ item : Item, s ∈ item.valuesOf field → IsIndexed s →
        (HasValue field s item ↔
          IsPlain s ∨
            ∃ v ∈ item.valuesOf field, v ≠ s ∧ IsIndexed v ∧ lowerEach v.toList = folded s) := by
  constructor
  · have husable : (Condition.onText field.field .is s).isUsable = true := by
      rw [isUsable_onText, hblank, Bool.not_false]
    refine returns_of_query husable (ofCondition_is field s) fun item => ?_
    rw [isValue, finds_value, Document.mem_valuesOf_ofItem, HasValue]
  · intro item hvalue hindexed
    exact hasValue_own_iff hvalue hindexed

/-- A title that ends in a capital sigma, and two categories. The item is not found by its title, for
the sigma is folded into the final form; nor would it be by the category with the blank, if the other
category did not have the folded form. -/
theorem returns_by_value_of_sigma :
    let item : Item :=
      { ref := ⟨1⟩, feed := "f", guid := "a", title := "ΟΔΟΣ", categories := [" News", "news"],
        state := .unread, received := 5 }
    let acts : List Act := [.add item, .commit]
    ((isBlankText "ΟΔΟΣ" = false ∧ "ΟΔΟΣ" ∈ item.valuesOf .title ∧ IsIndexed "ΟΔΟΣ") ∧
        isBlankText " News" = false ∧ " News" ∈ item.valuesOf .category ∧ IsIndexed " News") ∧
      (acted acts).search [.onText .title .is "ΟΔΟΣ"] true = .ok [] ∧
      ∃ hit, (acted acts).search [.onText .category .is " News"] true = .ok [hit] ∧
        hit.ref = ⟨1⟩ := by
  intro item acts
  have hheld : held acts = [item] := rfl
  have hitem : item ∈ held acts := mem_held_of_added [] item
  have htitle : isBlankText "ΟΔΟΣ" = false ∧ "ΟΔΟΣ" ∈ item.valuesOf .title ∧ IsIndexed "ΟΔΟΣ" :=
    ⟨by decide +kernel, by decide, by rw [IsIndexed]; decide +kernel⟩
  have hcategory :
      isBlankText " News" = false ∧ " News" ∈ item.valuesOf .category ∧ IsIndexed " News" :=
    ⟨by decide +kernel, by decide, by rw [IsIndexed]; decide +kernel⟩
  refine ⟨⟨htitle, hcategory⟩, ?_, ?_⟩
  · obtain ⟨hreturns, hown⟩ := returns_by_value acts .title "ΟΔΟΣ" htitle.1
    obtain ⟨hits, hsearch, hlists⟩ := hreturns true
    have hsigma : EndsInSigma "ΟΔΟΣ".toList :=
      ⟨"ΟΔΟ".toList, [], by decide, by decide +kernel, by decide⟩
    have hnone : ¬HasValue .title "ΟΔΟΣ" item := by
      rw [hown item htitle.2.1 htitle.2.2]
      rintro (hplain | ⟨v, hv, hne, -⟩)
      · exact hplain.2 hsigma
      · exact hne (List.mem_singleton.mp hv)
    obtain rfl : hits = [] :=
      hlists.eq_nil fun other hother => List.mem_singleton.mp (hheld ▸ hother) ▸ hnone
    exact hsearch
  · obtain ⟨hreturns, hown⟩ := returns_by_value acts .category " News" hcategory.1
    obtain ⟨hits, hsearch, hlists⟩ := hreturns true
    have hother : HasValue .category " News" item := by
      rw [hown item hcategory.2.1 hcategory.2.2]
      refine Or.inr ⟨"news", by decide, by decide, ?_, by decide +kernel⟩
      rw [IsIndexed]
      decide +kernel
    obtain ⟨hit, rfl, hshows⟩ := hlists.eq_singleton hitem hother
      fun other hmem _ => List.mem_singleton.mp (hheld ▸ hmem)
    exact ⟨hit, hsearch, hshows.1⟩

end Index

end LiveSearch
