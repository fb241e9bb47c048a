import LiveSearch.Item.Exchange
import LiveSearch.Proofs.Json.Record
import LiveSearch.Proofs.Json.RoundTrip

/-!
# Stored items are read back

**The text that an item is stored as stands for the item** (`Item.decode?_encode`): its fourteen
fields have different names, the value of each field decodes as it was encoded, and all numbers in
it are natural, so that the text is read as the value.
-/

namespace LiveSearch

@[simp] theorem State.ofJson?_toJson (state : State) : ofJson? state.toJson = some state := by
  cases state <;> rfl

namespace Item

@[simp] theorem nullable?_timeToJson (time : Option UInt64) :
    Json.nullable? Json.word? (timeToJson time) = some time := by
  cases time with
  | none => rfl
  | some t =>
    show (Json.word? (.natural t.toNat)).map some = some (some t)
    rw [Json.word?_natural, Option.map_some]

@[simp] theorem list?_textsToJson (texts : List String) :
    Json.list? Json.string? (textsToJson texts) = some texts :=
  Json.list?_map Json.string?_ofString texts

theorem isIntegral_timeToJson (time : Option UInt64) : (timeToJson time).isIntegral = true := by
  cases time <;> rfl

theorem isIntegral_textsToJson (texts : List String) : (textsToJson texts).isIntegral = true := by
  rw [textsToJson, Json.isIntegral, Json.areIntegral_iff]
  rintro x hx
  obtain ⟨s, -, rfl⟩ := List.mem_map.mp hx
  rfl

/-- All numbers in an item are natural. -/
theorem isIntegral_toJson (item : Item) : item.toJson.isIntegral = true := by
  rw [toJson, Json.record, Json.isIntegral, Json.haveIntegral_iff]
  simp [isIntegral_timeToJson, isIntegral_textsToJson, State.toJson, Json.ofString,
    Json.isIntegral]

/-- The fields of an item, in the order in which they are written. -/
theorem fields?_toJson (item : Item) :
    item.toJson.fields? fieldNames =
      some [some (.natural item.ref.value.toNat), some (.ofString item.feed),
        some (.ofString item.guid), some (.ofString item.title), some (.ofString item.author),
        some (.ofString item.link), some (.ofString item.content),
        some (textsToJson item.categories), some (textsToJson item.labels),
        some item.state.toJson, some (.bool item.flagged), some (timeToJson item.published),
        some (timeToJson item.modified), some (.natural item.received.toNat)] := by
  have hnodup : fieldNames.Nodup := by decide
  exact Json.fields?_record hnodup

/-- **The value of an item stands for the item.** -/
theorem ofJson?_toJson (item : Item) : ofJson? item.toJson = some item := by
  rw [ofJson?]
  refine Json.bind_of_eq_some item.fields?_toJson ?_
  refine Json.bind_of_eq_some (Json.word?_natural _) ?_
  refine Json.bind_of_eq_some (Json.string?_ofString _) ?_
  refine Json.bind_of_eq_some (Json.string?_ofString _) ?_
  refine Json.bind_of_eq_some (Json.string?_ofString _) ?_
  refine Json.bind_of_eq_some (Json.string?_ofString _) ?_
  refine Json.bind_of_eq_some (Json.string?_ofString _) ?_
  refine Json.bind_of_eq_some (Json.string?_ofString _) ?_
  refine Json.bind_of_eq_some (list?_textsToJson _) ?_
  refine Json.bind_of_eq_some (list?_textsToJson _) ?_
  refine Json.bind_of_eq_some (State.ofJson?_toJson _) ?_
  refine Json.bind_of_eq_some (a := item.flagged) rfl ?_
  refine Json.bind_of_eq_some (nullable?_timeToJson _) ?_
  refine Json.bind_of_eq_some (nullable?_timeToJson _) ?_
  refine Json.bind_of_eq_some (Json.word?_natural _) ?_
  rfl

/-- **The text of an item stands for the item.** -/
theorem decode?_encode (item : Item) : decode? item.encode = some item := by
  rw [decode?, encode, Json.parse?_compact item.isIntegral_toJson, Option.bind_some,
    ofJson?_toJson]

end Item

end LiveSearch
