import LiveSearch.Proofs.Reconcile.Effect
import LiveSearch.Reconcile.Recheck

/-!
# Looking evicted references up again

A lookup amounts to an event, and looking references up again reconciles the set with these events.
Where the resolver finds items only under their own references, at least those that it is asked for,
the last word of the events on a reference is that of its own lookup, or nothing if it was not
looked up (`Resolver.lastWord?_lookups`). So a hit that is not looked up stays as it is.
-/

namespace LiveSearch

/-- Where all events for a reference ask for the same, and there is one, this is the last word. -/
theorem Event.lastWord?_eq_some {events : List Event} {ref : Reference} {a : Action}
    (hex : ∃ e ∈ events, e.ref = ref) (hall : ∀ e ∈ events, e.ref = ref → e.action? = some a) :
    lastWord? events ref = some a := by
  cases hw : lastWord? events ref with
  | some b =>
    obtain ⟨e, he, href, hact⟩ := exists_of_lastWord? hw
    rw [← hact]
    exact hall e he href
  | none =>
    obtain ⟨e, he, href⟩ := hex
    rw [lastWord?, List.getLast?_eq_none_iff, List.filterMap_eq_nil_iff] at hw
    have hask : asks? ref e = some a := by
      rw [asks?, if_pos href]
      exact hall e he href
    rw [hw e he] at hask
    cases hask

namespace Resolver

/-- **A resolver that is to be trusted**: it finds items only under their own references. -/
def Keyed (resolver : Resolver) : Prop :=
  ∀ ref item, resolver ref = .ok item → item.ref = ref

/-- The resolver is to be trusted with some references. -/
def KeyedOn (resolver : Resolver) (refs : List Reference) : Prop :=
  ∀ ref ∈ refs, ∀ item, resolver ref = .ok item → item.ref = ref

variable {resolver : Resolver} {refs : List Reference}

theorem Keyed.on (hk : resolver.Keyed) (refs : List Reference) : resolver.KeyedOn refs :=
  fun ref _ item hr => hk ref item hr

theorem ref_of_event? (hk : resolver.KeyedOn refs) {ref : Reference} {e : Event}
    (hmem : ref ∈ refs) (he : resolver.event? ref = some e) : e.ref = ref := by
  rw [event?] at he
  split at he
  · next item hr =>
    rw [← Option.some.inj he]
    exact hk ref hmem item hr
  · split at he
    · rw [← Option.some.inj he]
      rfl
    · cases he

/-- **What lookups say of a reference** is what its own lookup says, if it was looked up. -/
theorem lastWord?_lookups (hk : resolver.KeyedOn refs) (ref : Reference) :
    Event.lastWord? (refs.filterMap resolver.event?) ref =
      if ref ∈ refs then (resolver.event? ref).bind Event.action? else none := by
  -- a resolver that is keyed has one event for a reference, however often it is asked
  have hsame : ∀ e ∈ refs.filterMap resolver.event?, e.ref = ref →
      resolver.event? ref = some e := by
    intro e he href
    obtain ⟨ref', hmem, hev⟩ := List.mem_filterMap.mp he
    have hkeyed := ref_of_event? hk hmem hev
    rw [← href, hkeyed]
    exact hev
  by_cases hmem : ref ∈ refs
  · rw [if_pos hmem]
    cases hev : resolver.event? ref with
    | none =>
      refine Event.lastWord?_eq_none fun e he href => ?_
      rw [hsame e he href] at hev
      cases hev
    | some e =>
      rw [Option.bind_some]
      have hin : e ∈ refs.filterMap resolver.event? := List.mem_filterMap.mpr ⟨ref, hmem, hev⟩
      cases hact : e.action? with
      | some a =>
        refine Event.lastWord?_eq_some ⟨e, hin, ref_of_event? hk hmem hev⟩ fun e' he' href => ?_
        obtain rfl := Option.some.inj ((hsame e' he' href).symm.trans hev)
        exact hact
      | none =>
        rw [Event.lastWord?, List.getLast?_eq_none_iff, List.filterMap_eq_nil_iff]
        intro e' he'
        rw [Event.asks?]
        split
        · next href =>
          obtain rfl := Option.some.inj ((hsame e' he' href).symm.trans hev)
          exact hact
        · rfl
  · rw [if_neg hmem]
    refine Event.lastWord?_eq_none fun e he href => hmem ?_
    obtain ⟨ref', hin, hev⟩ := List.mem_filterMap.mp he
    rw [← href, ref_of_event? hk hin hev]
    exact hin

end Resolver

/-- The events that looking references up again amounts to. -/
def recheckEvents (refs : List Reference) (resolver : Resolver) (rs : ResultSet) : List Event :=
  (refs.filter rs.contains).filterMap resolver.event?

/-- **What rechecking says of a hit**: what the lookup of its reference says, if it was to be looked
up again, and nothing otherwise. -/
theorem lastWord?_recheckEvents {resolver : Resolver} {refs : List Reference}
    (hk : resolver.KeyedOn refs) {rs : ResultSet} {ref : Reference} (hin : ref ∈ rs.refs) :
    Event.lastWord? (recheckEvents refs resolver rs) ref =
      if ref ∈ refs then (resolver.event? ref).bind Event.action? else none := by
  have hcontains : rs.contains ref = true := ResultSet.contains_iff.mpr (ResultSet.mem_refs.mp hin)
  have hshown : resolver.KeyedOn (refs.filter rs.contains) :=
    fun ref hmem => hk ref (List.mem_filter.mp hmem).1
  rw [recheckEvents, Resolver.lastWord?_lookups hshown]
  simp only [List.mem_filter, hcontains, and_true]

end LiveSearch
