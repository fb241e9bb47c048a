import LiveSearch.Table

/-!
# Tables as maps

A table is a list in ascending order of the keys, and nobody who reads it needs to know: writing and
removing a key change what is read under this key and nothing else (`Table.get?_insert`,
`Table.get?_erase`).

The order matters where the entries are gone through one by one. It is kept by every change
(`Table.Ascending.insert`, `Table.Ascending.erase`), so no key has two entries, and **the entries
are what is read** (`Table.Ascending.get?_eq_some_iff`).
-/

namespace LiveSearch

namespace Table

variable {κ α : Type} [DecidableEq κ]

theorem get?_insert [Ord κ] [Std.LawfulEqOrd κ] (t : Table κ α) (key key' : κ) (value : α) :
    (t.insert key value).get? key' = if key = key' then some value else t.get? key' := by
  rw [insert, get?, get?]
  generalize t.entries = entries
  induction entries with
  | nil => by_cases h : key = key' <;> simp [insertInto, h]
  | cons entry rest ih =>
    obtain ⟨k, v⟩ := entry
    rw [insertInto]
    cases hk : compare key k with
    | lt => by_cases h : key = key' <;> simp [h]
    | eq =>
      obtain rfl := Std.LawfulEqOrd.eq_of_compare hk
      by_cases h : key = key' <;> simp [h]
    | gt =>
      have hne : key ≠ k := by
        rintro rfl
        rw [Std.compare_self] at hk
        cases hk
      by_cases h : k = key'
      · simp [h, h ▸ hne]
      · simpa [h] using ih

theorem get?_erase (t : Table κ α) (key key' : κ) :
    (t.erase key).get? key' = if key = key' then none else t.get? key' := by
  rw [erase, get?, get?]
  by_cases h : key = key'
  · have hnone : (t.entries.filter (·.1 ≠ key)).find? (·.1 = key') = none := by
      rw [List.find?_eq_none]
      intro entry hmem
      have hne := (List.mem_filter.mp hmem).2
      simpa [h] using hne
    rw [if_pos h, hnone, Option.map_none]
  · rw [if_neg h, List.find?_filter]
    congr 2
    funext entry
    by_cases he : entry.1 = key'
    · simp [he, Ne.symm h]
    · simp [he]

theorem contains_eq (t : Table κ α) (key : κ) : t.contains key = (t.get? key).isSome := by
  rw [contains, get?, Option.isSome_map, List.isSome_find?]

/-- A key that has no value can be removed without any change. -/
theorem erase_eq_self {t : Table κ α} {key : κ} (h : t.contains key = false) :
    t.erase key = t := by
  have hall : t.entries.filter (·.1 ≠ key) = t.entries := by
    rw [List.filter_eq_self]
    intro entry hmem
    rw [contains, List.any_eq_false] at h
    simpa using h entry hmem
  rw [erase, hall]

/-! ### The order of the entries -/

/-- **The keys ascend.** -/
def Ascending [Ord κ] (t : Table κ α) : Prop :=
  t.entries.Pairwise fun a b => compare a.1 b.1 = .lt

omit [DecidableEq κ] in
/-- What is in a table after a key has been written is the new entry, or was there before. -/
theorem mem_insertInto [Ord κ] {key : κ} {value : α} {entries : List (κ × α)} {entry : κ × α}
    (h : entry ∈ insertInto key value entries) : entry = (key, value) ∨ entry ∈ entries := by
  induction entries with
  | nil => exact Or.inl (List.mem_singleton.mp h)
  | cons first rest ih =>
    obtain ⟨k, v⟩ := first
    rw [insertInto] at h
    split at h
    · exact List.mem_cons.mp h
    · rcases List.mem_cons.mp h with rfl | hrest
      · exact Or.inl rfl
      · exact Or.inr (List.mem_cons_of_mem _ hrest)
    · rcases List.mem_cons.mp h with rfl | hrest
      · exact Or.inr List.mem_cons_self
      · rcases ih hrest with rfl | hmem
        · exact Or.inl rfl
        · exact Or.inr (List.mem_cons_of_mem _ hmem)

namespace Ascending

variable [Ord κ] [Std.TransOrd κ] [Std.LawfulEqOrd κ] {t : Table κ α}

omit [DecidableEq κ] in
theorem insert (h : t.Ascending) (key : κ) (value : α) : (t.insert key value).Ascending := by
  obtain ⟨entries⟩ := t
  show (insertInto key value entries).Pairwise _
  induction entries with
  | nil => exact List.pairwise_singleton _ _
  | cons first rest ih =>
    obtain ⟨k, v⟩ := first
    obtain ⟨hfirst, hrest⟩ := List.pairwise_cons.mp h
    rw [insertInto]
    cases hk : compare key k with
    | lt =>
      refine List.pairwise_cons.mpr ⟨fun entry hmem => ?_, h⟩
      rcases List.mem_cons.mp hmem with rfl | hlater
      · exact hk
      · exact Std.TransCmp.lt_trans hk (hfirst entry hlater)
    | eq =>
      obtain rfl := Std.LawfulEqOrd.eq_of_compare hk
      exact List.pairwise_cons.mpr ⟨hfirst, hrest⟩
    | gt =>
      refine List.pairwise_cons.mpr ⟨fun entry hmem => ?_, ih hrest⟩
      rcases mem_insertInto hmem with rfl | hlater
      · exact Std.OrientedCmp.gt_iff_lt.mp hk
      · exact hfirst entry hlater

omit [Std.TransOrd κ] [Std.LawfulEqOrd κ] in
theorem erase (h : t.Ascending) (key : κ) : (t.erase key).Ascending :=
  List.Pairwise.filter _ h

omit [DecidableEq κ] [Std.LawfulEqOrd κ] in
/-- No key has two entries. -/
theorem nodup_keys (h : t.Ascending) : t.keys.Nodup := by
  rw [keys, List.Nodup, List.pairwise_map]
  refine List.Pairwise.imp (fun {a b} hlt heq => ?_) h
  rw [heq, Std.compare_self] at hlt
  cases hlt

omit [Std.LawfulEqOrd κ] in
/-- **The entries of a table are what is read from it.** -/
theorem get?_eq_some_iff (h : t.Ascending) {key : κ} {value : α} :
    t.get? key = some value ↔ (key, value) ∈ t.entries := by
  have hdistinct := h.nodup_keys
  obtain ⟨entries⟩ := t
  rw [get?]
  show (entries.find? (·.1 = key)).map (·.2) = some value ↔ (key, value) ∈ entries
  replace hdistinct : (entries.map (·.1)).Nodup := hdistinct
  clear h
  induction entries with
  | nil => simp
  | cons first rest ih =>
    obtain ⟨k, v⟩ := first
    obtain ⟨hnew, hrest⟩ := List.nodup_cons.mp hdistinct
    by_cases hk : k = key
    · subst hk
      -- the key has no other entry
      have hout : (k, value) ∉ rest := fun hmem => hnew (List.mem_map.mpr ⟨_, hmem, rfl⟩)
      rw [List.find?_cons_of_pos (by simp), Option.map_some, List.mem_cons, Option.some.injEq]
      constructor
      · rintro rfl
        exact Or.inl rfl
      · rintro (heq | hmem)
        · exact (Prod.mk.inj heq).2.symm
        · exact absurd hmem hout
    · have hne : (key, value) ≠ (k, v) := fun heq => hk (Prod.mk.inj heq).1.symm
      rw [List.find?_cons_of_neg (by simpa using hk), List.mem_cons]
      exact (ih hrest).trans ⟨Or.inr, fun hmem => hmem.resolve_left hne⟩

end Ascending

end Table

end LiveSearch
