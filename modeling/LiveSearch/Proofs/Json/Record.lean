import LiveSearch.Json.Record

/-!
# Written records are decoded

A record that was written gives back its fields (`Json.fields?_record`), whatever order a reader
names them in, because no key occurs twice. The values of a field decode as they were encoded: words
of sixty-four bits, lists, and values that may be null.
-/

namespace LiveSearch.Json

/-- Decoding every element of a list that was encoded element by element gives the list back. -/
theorem mapM_map_eq_some {α β γ : Type} {xs : List α} {f : α → β} {decode : β → Option γ}
    {g : α → γ} (h : ∀ x ∈ xs, decode (f x) = some (g x)) :
    (xs.map f).mapM decode = some (xs.map g) := by
  induction xs with
  | nil => rfl
  | cons x xs ih =>
    rw [List.map_cons, List.mapM_cons, h x (by simp), ih fun y hy => h y (by simp [hy])]
    rfl

/-- What is done with something that is there. -/
theorem bind_of_eq_some {α β : Type} {x : Option α} {a : α} {f : α → Option β} {y : Option β}
    (hx : x = some a) (hf : f a = y) : (x >>= f) = y := by
  rw [hx]
  exact hf

/-! ### Fields -/

theorem valuesOf_of_notMem {ms : List (String × Json)} {key : String}
    (h : key ∉ ms.map (·.1)) :
    valuesOf (ms.map fun (key, value) => (some key, value)) key = [] := by
  rw [valuesOf, List.map_eq_nil_iff, List.filter_eq_nil_iff]
  intro m hm
  obtain ⟨⟨k, v⟩, hkv, rfl⟩ := List.mem_map.mp hm
  have hne : k ≠ key := fun heq => h (List.mem_map.mpr ⟨(k, v), hkv, heq⟩)
  simpa using hne

/-- The one value of a key that occurs once. -/
theorem valuesOf_of_mem {ms : List (String × Json)} (hnodup : (ms.map (·.1)).Nodup)
    {m : String × Json} (hm : m ∈ ms) :
    valuesOf (ms.map fun (key, value) => (some key, value)) m.1 = [m.2] := by
  induction ms with
  | nil => simp at hm
  | cons first rest ih =>
    obtain ⟨hfirst, hrest⟩ := List.nodup_cons.mp hnodup
    rcases List.mem_cons.mp hm with rfl | hmem
    · have hnil := valuesOf_of_notMem hfirst
      rw [valuesOf] at hnil ⊢
      simp [hnil]
    · have hne : first.1 ≠ m.1 := fun heq =>
        hfirst (List.mem_map.mpr ⟨m, hmem, heq.symm⟩)
      have hone := ih hrest hmem
      rw [valuesOf] at hone ⊢
      simp [hne, hone]

/-- **A record gives back its fields.** -/
theorem fields?_record {ms : List (String × Json)} (hnodup : (ms.map (·.1)).Nodup) :
    (record ms).fields? (ms.map (·.1)) = some (ms.map fun m => some m.2) := by
  have hreadable : (ms.map fun (key, value) => ((some key, value) : Option String × Json)).all
      (·.1.isSome) = true := by simp
  rw [record, fields?, if_pos hreadable]
  refine mapM_map_eq_some fun m hm => ?_
  rw [fieldOf?, valuesOf_of_mem hnodup hm]

section Positions

variable {α : Type} (decode : Json → Option α) (fallback : α) (value : Json)
  (field : Option Json) (fields : List (Option Json)) (i : Nat)

@[simp] theorem required?_zero : required? decode (some value :: fields) 0 = decode value := rfl

@[simp] theorem required?_succ :
    required? decode (field :: fields) (i + 1) = required? decode fields i := rfl

@[simp] theorem optional?_zero :
    optional? decode fallback (some value :: fields) 0 = decode value := rfl

@[simp] theorem optional?_succ :
    optional? decode fallback (field :: fields) (i + 1) = optional? decode fallback fields i := rfl

end Positions

/-! ### Values -/

@[simp] theorem word?_natural (n : UInt64) : word? (.natural n.toNat) = some n := by
  have hlt : n.toNat < Text.Decimal.wordLimit := n.toNat_lt
  rw [word?, if_pos hlt, UInt64.ofNat_toNat]

@[simp] theorem string?_ofString (s : String) : string? (ofString s) = some s := rfl

/-- A list that was encoded element by element is decoded. -/
theorem list?_map {α : Type} {encode : α → Json} {decode : Json → Option α}
    (h : ∀ x, decode (encode x) = some x) (xs : List α) :
    list? decode (.array (xs.map encode)) = some xs := by
  rw [list?, mapM_map_eq_some (g := id) fun x _ => h x, List.map_id]

end LiveSearch.Json
