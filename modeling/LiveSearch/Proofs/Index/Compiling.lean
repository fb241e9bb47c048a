import LiveSearch.Condition.Validation
import LiveSearch.Index.Compile
import LiveSearch.Proofs.Text.Literal
import Mathlib.Tactic.Choose

/-!
# Valid conditions compile

Two tables know the fields and their comparisons. One says which comparisons a field has
(`Condition.accepts`), and a query has to keep to it (`validateConditions_eq_ok_iff`); the other makes
a query of each of them (`Query.ofCondition`). The tables agree: **what the first accepts, the second
compiles** (`Condition.compiles`). There is one thing that no table decides: an affix may be too long
for the matcher (`Condition.isMatchable`).

A comparison that looks for the opposite compiles to the complement of what it is the opposite of
(`Condition.ofCondition_negated`), however many fields are looked at.
-/

namespace LiveSearch

open Text

/-! ### Computations that all succeed -/

/-- Where every element succeeds, so does the list. -/
theorem mapM_eq_ok {ε α β : Type} {f : α → Except ε β} {g : α → β} {xs : List α}
    (h : ∀ x ∈ xs, f x = .ok (g x)) : xs.mapM f = .ok (xs.map g) := by
  induction xs with
  | nil => rfl
  | cons x xs ih =>
    rw [List.mapM_cons, h x List.mem_cons_self, ih fun y hy => h y (List.mem_cons_of_mem x hy)]
    rfl

/-! ### Which conditions are valid -/

theorem Condition.validate_eq_ok_iff {c : Condition} :
    c.validate = .ok () ↔ c.entity = "news" ∧ accepts c.value c.field c.specifier = true := by
  rw [validate]
  split
  · next h => simp [h]
  · next h =>
    rw [not_not] at h
    split
    · next haccepts => simp [h, haccepts]
    · next haccepts => simp [haccepts]

theorem validateEach_eq_ok_iff {conditions : List Condition} :
    validateEach conditions = .ok () ↔ ∀ c ∈ conditions, c.validate = .ok () := by
  induction conditions with
  | nil => simp [validateEach]
  | cons c rest ih =>
    rw [validateEach, List.forall_mem_cons, ← ih]
    cases hc : c.validate with
    | ok u => simp
    | error e => simp

/-- **A query is valid** if some of its conditions carries a value and all of them are valid. -/
theorem validateConditions_eq_ok_iff {conditions : List Condition} :
    validateConditions conditions = .ok () ↔
      (∃ c ∈ conditions, c.isUsable = true) ∧ ∀ c ∈ conditions, c.validate = .ok () := by
  rw [← validateEach_eq_ok_iff, ← List.any_eq_true, validateConditions]
  split
  · next h =>
    rw [List.isEmpty_iff] at h
    subst h
    simp
  · split
    · next h => simp_all
    · next h => simp_all

/-- The comparison that another one looks for the opposite of. -/
def Specifier.affirmed : Specifier → Specifier
  | .isNot => .is
  | .containsNot => .contains
  | specifier => specifier

theorem Specifier.eq_isNot {specifier : Specifier} (hne : specifier ≠ .containsNot)
    (hneg : specifier.isNegation = true) : specifier = .isNot := by
  cases specifier with
  | isNot => rfl
  | containsNot => exact absurd rfl hne
  | _ => cases hneg

namespace Query

variable {specifier : Specifier} {s : String} {d : Document}

/-! ### Valid conditions have a query -/

/-- Is the text one that the matcher accepts, if the comparison takes it for an affix? -/
def fitsMatcher (specifier : Specifier) (s : String) : Bool :=
  match specifier with
  | .beginsWith => affixStates .front (folded s) ≤ stateLimit
  | .endsWith => affixStates .back (folded s) ≤ stateLimit
  | _ => true

/-- The pattern of the values that begin or end with a text. -/
def affixPieces (side : End) (text : Token) : Pattern :=
  match side with
  | .front => Pattern.literally text ++ Pattern.restOfLine
  | .back => Pattern.restOfLine ++ Pattern.literally text

/-- **The pattern of an affix can be read**, whatever its characters. -/
theorem parse?_affixPattern (side : End) (text : Token) :
    Pattern.parse? (affixPattern side text) = some (affixPieces side text) := by
  cases side with
  | front => exact Pattern.parse?_front text
  | back => exact Pattern.parse?_back text

/-- An affix is refused for its length only. -/
theorem hasValueAffix_eq (field : ValueField) (side : End) (s : String) :
    hasValueAffix field side s =
      if stateLimit < affixStates side (folded s) then .error affixTooLong
      else .ok (.pattern field (affixPieces side (folded s))) := by
  rw [hasValueAffix, parse?_affixPattern]

theorem hasValueAffix_eq_ok {side : End} (h : affixStates side (folded s) ≤ stateLimit)
    (field : ValueField) :
    hasValueAffix field side s = .ok (.pattern field (affixPieces side (folded s))) :=
  (hasValueAffix_eq field side s).trans (if_neg (Nat.not_lt.mpr h))

/-- A text can be compared with a target unless the comparison is one of times, or the text does not
fit the matcher and is compared with whole values. -/
theorem ofTarget_eq_ok {target : Target}
    (hspecifier : specifier ≠ .isBefore ∧ specifier ≠ .isAfter)
    (hfits : target.whole = none ∨ fitsMatcher specifier s = true) :
    ∃ q, ofTarget specifier s target = .ok q := by
  obtain ⟨words, whole, factor⟩ := target
  cases whole with
  | none =>
    cases specifier with
    | isBefore => exact absurd rfl hspecifier.1
    | isAfter => exact absurd rfl hspecifier.2
    | _ => exact ⟨_, rfl⟩
  | some field =>
    have hmatched : fitsMatcher specifier s = true := hfits.resolve_left (Option.some_ne_none field)
    cases specifier with
    | beginsWith => exact ⟨_, hasValueAffix_eq_ok (of_decide_eq_true hmatched) field⟩
    | endsWith => exact ⟨_, hasValueAffix_eq_ok (of_decide_eq_true hmatched) field⟩
    | isBefore => exact absurd rfl hspecifier.1
    | isAfter => exact absurd rfl hspecifier.2
    | _ => exact ⟨_, rfl⟩

theorem ofText_eq_ok {targets : List Target}
    (hspecifier : specifier ≠ .isBefore ∧ specifier ≠ .isAfter)
    (hfits : (∀ target ∈ targets, target.whole = none) ∨ fitsMatcher specifier s = true) :
    ∃ q, ofText targets specifier s = .ok q := by
  have hparts : ∀ target ∈ targets, ∃ q, ofTarget specifier s target = .ok q := fun target ht =>
    ofTarget_eq_ok hspecifier (hfits.imp_left fun h => h target ht)
  choose! query hquery using hparts
  have hall : (targets.mapM fun target => do
      return scaled target.factor (← ofTarget specifier s target)) =
      .ok (targets.map fun target => scaled target.factor (query target)) := by
    refine mapM_eq_ok fun target ht => ?_
    rw [hquery target ht]
    rfl
  exact ⟨_, by rw [ofText, hall]; rfl⟩

theorem ofKeyword_eq_ok
    (hspecifier : specifier ∈ [Specifier.is, .isNot, .beginsWith, .endsWith])
    (hfits : fitsMatcher specifier s = true) (field : ValueField) :
    ∃ q, ofKeyword field specifier s = .ok q := by
  cases specifier with
  | is => exact ⟨_, rfl⟩
  | isNot => exact ⟨_, rfl⟩
  | beginsWith => exact ⟨_, hasValueAffix_eq_ok (of_decide_eq_true hfits) field⟩
  | endsWith => exact ⟨_, hasValueAffix_eq_ok (of_decide_eq_true hfits) field⟩
  | _ => simp at hspecifier

/-! ### Comparisons that look for the opposite -/

/-- A target is compared in the same way, whichever of the two is looked for. -/
theorem ofTarget_affirmed (h : specifier.isNegation = true) (s : String) (target : Target) :
    ofTarget specifier s target = ofTarget specifier.affirmed s target := by
  obtain ⟨words, whole, factor⟩ := target
  cases specifier with
  | isNot => cases whole <;> rfl
  | containsNot => rfl
  | _ => cases h

/-- A field of whole values has only one comparison that looks for the opposite. -/
theorem ofKeyword_negated (h : specifier ∈ [Specifier.is, .isNot, .beginsWith, .endsWith])
    (hneg : specifier.isNegation = true) (field : ValueField) (s : String) :
    ofKeyword field specifier s = (ofKeyword field specifier.affirmed s).map .except := by
  obtain rfl := Specifier.eq_isNot (by rintro rfl; simp at h) hneg
  rfl

/-- **Over several fields** the opposite is that of the whole comparison. -/
theorem ofText_negated (h : specifier.isNegation = true) (targets : List Target) (s : String) :
    ofText targets specifier s = (ofText targets specifier.affirmed s).map .except := by
  have haffirmed : specifier.affirmed.isNegation = false := by cases specifier <;> rfl
  rw [ofText, ofText]
  simp only [ofTarget_affirmed h s, negatedIf, h, haffirmed, if_true]
  cases (targets.mapM fun target => do
    return scaled target.factor (← ofTarget specifier.affirmed s target)) <;> rfl

end Query

namespace Condition

variable {c : Condition} {d : Document}

/-- Does the matcher accept the affix that the condition looks for, if it looks for one? The content
has no whole values, so its affixes are looked for by their words. -/
def isMatchable (c : Condition) : Bool :=
  match c.value with
  | .text s => c.field = .content || Query.fitsMatcher c.specifier s
  | _ => true

/-- **What the table of comparisons accepts has a query**, unless the matcher refuses an affix. -/
theorem compiles (h : accepts c.value c.field c.specifier = true) (hfits : c.isMatchable = true) :
    ∃ q, Query.ofCondition c = .ok q := by
  obtain ⟨field, entity, specifier, value⟩ := c
  cases value with
  | text s =>
    have hnone : ∀ target ∈ [Query.contentTarget], target.whole = none := by
      intro target ht
      rw [List.mem_singleton.mp ht]
      rfl
    have htimeless (hs : specifier ∈ [Specifier.is, .isNot, .contains, .containsAll, .containsNot,
        .beginsWith, .endsWith]) : specifier ≠ .isBefore ∧ specifier ≠ .isAfter := by
      constructor <;> rintro rfl <;> simp at hs
    cases field with
    | allFields => exact Query.ofText_eq_ok (htimeless (of_decide_eq_true h)) (Or.inr hfits)
    | title => exact Query.ofText_eq_ok (htimeless (of_decide_eq_true h)) (Or.inr hfits)
    | content => exact Query.ofText_eq_ok (htimeless (of_decide_eq_true h)) (Or.inl hnone)
    | author => exact Query.ofText_eq_ok (htimeless (of_decide_eq_true h)) (Or.inr hfits)
    | category => exact Query.ofKeyword_eq_ok (of_decide_eq_true h) hfits .category
    | label => exact Query.ofKeyword_eq_ok (of_decide_eq_true h) hfits .label
    | feed => exact Query.ofKeyword_eq_ok (of_decide_eq_true h) hfits .feed
    | link => exact Query.ofKeyword_eq_ok (of_decide_eq_true h) hfits .link
    | _ => cases h
  | states chosen =>
    cases field with
    | state => exact ⟨_, rfl⟩
    | _ => cases h
  | bool flagged =>
    cases field with
    | flagged => exact ⟨_, rfl⟩
    | _ => cases h
  | date time =>
    cases field with
    | published => exact ⟨_, rfl⟩
    | received => exact ⟨_, rfl⟩
    | _ => cases h

/-- The condition with the comparison that its own looks for the opposite of. -/
def affirmed (c : Condition) : Condition :=
  { c with specifier := c.specifier.affirmed }

/-- **The query of the opposite is the complement.** -/
theorem ofCondition_negated (h : accepts c.value c.field c.specifier = true)
    (hneg : c.specifier.isNegation = true) :
    Query.ofCondition c = (Query.ofCondition c.affirmed).map .except := by
  obtain ⟨field, entity, specifier, value⟩ := c
  replace hneg : specifier.isNegation = true := hneg
  cases value with
  | text s =>
    cases field with
    | allFields => exact Query.ofText_negated hneg _ s
    | title => exact Query.ofText_negated hneg _ s
    | content => exact Query.ofText_negated hneg _ s
    | author => exact Query.ofText_negated hneg _ s
    | category => exact Query.ofKeyword_negated (of_decide_eq_true h) hneg .category s
    | label => exact Query.ofKeyword_negated (of_decide_eq_true h) hneg .label s
    | feed => exact Query.ofKeyword_negated (of_decide_eq_true h) hneg .feed s
    | link => exact Query.ofKeyword_negated (of_decide_eq_true h) hneg .link s
    | _ => cases h
  | states chosen =>
    cases field with
    | state =>
      obtain rfl := Specifier.eq_isNot (by rintro rfl; cases h) hneg
      rfl
    | _ => cases h
  | bool flagged =>
    cases field with
    | flagged =>
      obtain rfl := Specifier.eq_isNot (by rintro rfl; cases h) hneg
      rfl
    | _ => cases h
  | date time =>
    -- times have no comparison of the kind
    cases field with
    | published =>
      obtain rfl := Specifier.eq_isNot (by rintro rfl; cases h) hneg
      cases h
    | received =>
      obtain rfl := Specifier.eq_isNot (by rintro rfl; cases h) hneg
      cases h
    | _ => cases h

/-- What is the opposite of an accepted comparison is accepted too. -/
theorem accepts_affirmed (h : accepts c.value c.field c.specifier = true)
    (hneg : c.specifier.isNegation = true) :
    accepts c.affirmed.value c.affirmed.field c.affirmed.specifier = true := by
  obtain ⟨field, entity, specifier, value⟩ := c
  cases specifier with
  | isNot => cases value <;> cases field <;> first | rfl | cases h
  | containsNot => cases value <;> cases field <;> first | rfl | cases h
  | _ => cases hneg

/-- No affix is looked for by a comparison that has an opposite. -/
theorem isMatchable_affirmed (hneg : c.specifier.isNegation = true) :
    c.affirmed.isMatchable = true := by
  obtain ⟨field, entity, specifier, value⟩ := c
  cases value with
  | text s =>
    cases specifier with
    | isNot => exact Bool.or_true _
    | containsNot => exact Bool.or_true _
    | _ => cases hneg
  | _ => rfl

end Condition

end LiveSearch
