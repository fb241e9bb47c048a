import LiveSearch.Condition.Exchange
import LiveSearch.Proofs.Item.RoundTrip

/-!
# Conditions are read back

**The text of a condition stands for the condition** (`Condition.decode?_encode`). Fields and
comparisons are known by their names, no two of which are the same; the kind of a value is told by the
key of the one member that it is written with.
-/

namespace LiveSearch

@[simp] theorem Field.ofName?_name (field : Field) : ofName? field.name = some field := by
  cases field <;> rfl

@[simp] theorem Specifier.ofName?_name (specifier : Specifier) :
    ofName? specifier.name = some specifier := by
  cases specifier <;> rfl

namespace SearchValue

/-- All numbers in a value are natural. -/
theorem isIntegral_toJson (value : SearchValue) : value.toJson.isIntegral = true := by
  cases value with
  | states chosen =>
    have hchosen : Json.areIntegral (chosen.map State.toJson) = true := by
      rw [Json.areIntegral_iff]
      rintro x hx
      obtain ⟨state, -, rfl⟩ := List.mem_map.mp hx
      rfl
    rw [toJson, Json.record, Json.isIntegral, Json.haveIntegral_iff]
    simpa [Json.isIntegral] using hchosen
  | text s => rfl
  | bool b => rfl
  | date time => rfl

/-- **A value is told by its key.** -/
theorem ofJson?_toJson (value : SearchValue) : ofJson? value.toJson = some value := by
  cases value with
  | text s => rfl
  | states chosen =>
    show (Json.list? State.ofJson? (.array (chosen.map State.toJson))).map states = _
    rw [Json.list?_map State.ofJson?_toJson, Option.map_some]
  | bool b => rfl
  | date time =>
    show (Json.word? (.natural time.toNat)).map date = _
    rw [Json.word?_natural, Option.map_some]

end SearchValue

namespace Condition

/-- All numbers in a condition are natural. -/
theorem isIntegral_toJson (c : Condition) : c.toJson.isIntegral = true := by
  rw [toJson, Json.record, Json.isIntegral, Json.haveIntegral_iff]
  simp [c.value.isIntegral_toJson, Json.ofString, Json.isIntegral]

/-- **The value of a condition stands for the condition.** -/
theorem ofJson?_toJson (c : Condition) : ofJson? c.toJson = some c := by
  have hnodup : ["field", "entity", "specifier", "value"].Nodup := by decide
  have hfields : c.toJson.fields? ["field", "entity", "specifier", "value"] =
      some [some (.ofString c.field.name), some (.ofString c.entity),
        some (.ofString c.specifier.name), some c.value.toJson] :=
    Json.fields?_record hnodup
  have hfield : (Json.ofString c.field.name).name?.bind Field.ofName? = some c.field :=
    Field.ofName?_name c.field
  have hspecifier : (Json.ofString c.specifier.name).name?.bind Specifier.ofName? =
      some c.specifier := Specifier.ofName?_name c.specifier
  rw [ofJson?]
  refine Json.bind_of_eq_some hfields ?_
  refine Json.bind_of_eq_some hfield ?_
  refine Json.bind_of_eq_some (Json.string?_ofString _) ?_
  refine Json.bind_of_eq_some hspecifier ?_
  refine Json.bind_of_eq_some c.value.ofJson?_toJson ?_
  rfl

/-- **The text of a condition stands for the condition.** -/
theorem decode?_encode (c : Condition) : decode? c.encode = some c := by
  rw [decode?, encode, Json.parse?_compact c.isIntegral_toJson, Option.bind_some, ofJson?_toJson]

end Condition

end LiveSearch
