import LiveSearch.Mutation.Exchange
import LiveSearch.Proofs.Item.RoundTrip

/-!
# Events are read back

**The text of an event stands for the event** (`Event.decode?_encode`), whatever its kind and whether
or not it carries a snapshot. An event of an unknown kind is written under a name of its own, which is
read as every name that is not known.
-/

namespace LiveSearch

@[simp] theorem MutationKind.ofName_name (kind : MutationKind) : ofName kind.name = kind := by
  cases kind <;> rfl

namespace Event

/-- A snapshot that may be missing is read back. -/
theorem nullable?_snapshot (snapshot : Option Item) :
    Json.nullable? Item.ofJson? ((snapshot.map Item.toJson).getD .null) = some snapshot := by
  cases snapshot with
  | none => rfl
  | some item =>
    -- an item is an object, so it is not taken for the null
    show (Item.ofJson? item.toJson).map some = some (some item)
    rw [Item.ofJson?_toJson, Option.map_some]

/-- All numbers in an event are natural. -/
theorem isIntegral_toJson (e : Event) : e.toJson.isIntegral = true := by
  have hsnapshot : ((e.snapshot.map Item.toJson).getD .null).isIntegral = true := by
    cases e.snapshot with
    | none => rfl
    | some item => exact item.isIntegral_toJson
  rw [toJson, Json.record, Json.isIntegral, Json.haveIntegral_iff]
  simp [hsnapshot, Json.ofString, Json.isIntegral]

/-- **The value of an event stands for the event.** -/
theorem ofJson?_toJson (e : Event) : ofJson? e.toJson = some e := by
  have hnodup : ["item_ref", "kind", "snapshot"].Nodup := by decide
  have hfields : e.toJson.fields? ["item_ref", "kind", "snapshot"] =
      some [some (.natural e.ref.value.toNat), some (.ofString e.kind.name),
        some ((e.snapshot.map Item.toJson).getD .null)] :=
    Json.fields?_record hnodup
  have hkind : (Json.ofString e.kind.name).name?.map MutationKind.ofName = some e.kind :=
    congrArg some (MutationKind.ofName_name e.kind)
  rw [ofJson?]
  refine Json.bind_of_eq_some hfields ?_
  refine Json.bind_of_eq_some (Json.word?_natural _) ?_
  refine Json.bind_of_eq_some hkind ?_
  refine Json.bind_of_eq_some (nullable?_snapshot _) ?_
  rfl

/-- **The text of an event stands for the event.** -/
theorem decode?_encode (e : Event) : decode? e.encode = some e := by
  rw [decode?, encode, Json.parse?_compact e.isIntegral_toJson, Option.bind_some, ofJson?_toJson]

end Event

end LiveSearch
