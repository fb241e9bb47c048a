import LiveSearch.CommandLine.Execution
import LiveSearch.Proofs.Table
import LiveSearch.Proofs.Text.Trimming

/-!
# Settings persist

A value is checked on settings that are thrown away, stored without the blanks at its ends, and read
again by whoever needs the settings. The check and the reading agree: **the settings in the store
are the ones that the accepted calls set, one after the other** (`Settings.persist`).

A text assigns a value to one setting, whatever the settings are (`Settings.Assigns`). That is all
that is used of the four settings: two texts for different settings can be set in either order, and
of two texts for one setting the later counts. The settings are read key by key in a fixed order, so
a text that is stored last acts as if it had been read last (`Settings.readKeys_putSetting`).
-/

namespace LiveSearch

open Text

namespace Settings

variable {s t : Settings} {key key' value value' : String} {f g : Settings → Settings}

/-- The numbers are numbers of sixty-four bits. -/
structure Fits (s : Settings) : Prop where
  eagerResolveCount : s.eagerResolveCount < Decimal.wordLimit
  backgroundScanThreshold : s.backgroundScanThreshold < Decimal.wordLimit
  replayCapacity : s.replayCapacity < Decimal.wordLimit

theorem fits_default : Fits {} :=
  ⟨by decide, by decide, by decide⟩

/-! ### Values from texts -/

theorem parseNumber_eq_ok_iff {n : Nat} :
    parseNumber key value = .ok n ↔ Decimal.parseWord? (trimChars value.toList) = some n := by
  rw [parseNumber]
  cases Decimal.parseWord? (trimChars value.toList) <;> simp

theorem parseNumber_lt {n : Nat} (h : parseNumber key value = .ok n) : n < Decimal.wordLimit :=
  of_decide_eq_true (Option.filter_eq_some_iff.mp (parseNumber_eq_ok_iff.mp h)).2

theorem parseNumber_trim {n : Nat} (h : parseNumber key value = .ok n) :
    parseNumber key (trim value) = .ok n := by
  rw [parseNumber_eq_ok_iff] at h ⊢
  rw [toList_trim, trimChars_trimChars, h]

theorem parseNumber_render {n : Nat} (h : n < Decimal.wordLimit) :
    parseNumber key (Decimal.render n) = .ok n := by
  rw [parseNumber_eq_ok_iff, Decimal.render, String.toList_ofList, trimChars_digits,
    Decimal.parseWord?_digits h]

theorem parseBool_trim {b : Bool} (h : parseBool key value = .ok b) :
    parseBool key (trim value) = .ok b := by
  rw [parseBool] at h ⊢
  rw [trim_trim]
  split_ifs at h ⊢
  · exact h
  · exact h

theorem parseBool_boolText (b : Bool) : parseBool key (boolText b) = .ok b := by
  have hfalse : (trim "false").toLower = "false" := by decide +kernel
  have htrue : (trim "true").toLower = "true" := by decide +kernel
  cases b with
  | false => rw [parseBool, boolText, if_neg Bool.false_ne_true, hfalse]; rfl
  | true => rw [parseBool, boolText, if_pos rfl, htrue]; rfl

/-! ### What a text assigns -/

/-- The text **assigns** a value to the setting with the key. -/
inductive Assigns (value : String) : String → (Settings → Settings) → Prop
  | eagerResolveCount {n : Nat} (h : parseNumber "eager_resolve_count" value = .ok n) :
    Assigns value "eager_resolve_count" fun s => { s with eagerResolveCount := n }
  | verifyExistence {b : Bool} (h : parseBool "verify_existence" value = .ok b) :
    Assigns value "verify_existence" fun s => { s with verifyExistence := b }
  | backgroundScanThreshold {n : Nat}
    (h : parseNumber "background_scan_threshold" value = .ok n) :
    Assigns value "background_scan_threshold" fun s => { s with backgroundScanThreshold := n }
  | replayCapacity {n : Nat} (h : parseNumber "replay_capacity" value = .ok n) :
    Assigns value "replay_capacity" fun s => { s with replayCapacity := n }

/-- What is computed from a value is there if the value is. -/
theorem bind_pure_eq_ok {ε α β : Type} {x : Except ε α} {y : β} {h : α → β}
    (hok : (do return h (← x)) = Except.ok y) : ∃ a, x = .ok a ∧ h a = y := by
  cases x with
  | error e => cases hok
  | ok a => exact ⟨a, rfl, Except.ok.inj hok⟩

theorem eq_error_of_bind_pure {ε α β : Type} {x : Except ε α} {e : ε} {h : α → β}
    (herror : (do return h (← x)) = Except.error e) : x = .error e := by
  cases x with
  | error e' => exact congrArg Except.error (Except.error.inj herror)
  | ok a => cases herror

/-- **A setting is set to what the text assigns**, whatever the settings are. -/
theorem set_eq_ok_iff : s.set key value = .ok t ↔ ∃ f, Assigns value key f ∧ f s = t := by
  constructor
  · intro h
    rw [set] at h
    split_ifs at h with hkey hkey hkey hkey
    all_goals
      obtain ⟨a, hparse, rfl⟩ := bind_pure_eq_ok h
      subst hkey
    · exact ⟨_, .eagerResolveCount hparse, rfl⟩
    · exact ⟨_, .verifyExistence hparse, rfl⟩
    · exact ⟨_, .backgroundScanThreshold hparse, rfl⟩
    · exact ⟨_, .replayCapacity hparse, rfl⟩
  · rintro ⟨f, hf, rfl⟩
    cases hf with
    | eagerResolveCount h => simp only [set, h]; rfl
    | verifyExistence h => simp only [set, h]; rfl
    | backgroundScanThreshold h => simp only [set, h]; rfl
    | replayCapacity h => simp only [set, h]; rfl

namespace Assigns

theorem set (hf : Assigns value key f) (s : Settings) : s.set key value = .ok (f s) :=
  set_eq_ok_iff.mpr ⟨f, hf, rfl⟩

/-- The blanks at the ends of a text do not matter. -/
theorem trim (hf : Assigns value key f) : Assigns (Text.trim value) key f := by
  cases hf with
  | eagerResolveCount h => exact .eagerResolveCount (parseNumber_trim h)
  | verifyExistence h => exact .verifyExistence (parseBool_trim h)
  | backgroundScanThreshold h => exact .backgroundScanThreshold (parseNumber_trim h)
  | replayCapacity h => exact .replayCapacity (parseNumber_trim h)

theorem mem_keys (hf : Assigns value key f) : key ∈ keys := by
  cases hf <;> decide

theorem fits (hf : Assigns value key f) (hs : s.Fits) : (f s).Fits := by
  cases hf with
  | eagerResolveCount h => exact { hs with eagerResolveCount := parseNumber_lt h }
  | verifyExistence h => exact { hs with }
  | backgroundScanThreshold h => exact { hs with backgroundScanThreshold := parseNumber_lt h }
  | replayCapacity h => exact { hs with replayCapacity := parseNumber_lt h }

/-- Of two texts for one setting the later counts. -/
theorem overwrite (hf : Assigns value key f) (hg : Assigns value' key' g) (h : key = key')
    (s : Settings) : g (f s) = g s := by
  cases hf <;> cases hg <;> first | rfl | exact absurd h (by decide)

/-- Two texts for different settings can be set in either order. -/
theorem comm (hf : Assigns value key f) (hg : Assigns value' key' g) (h : key ≠ key')
    (s : Settings) : g (f s) = f (g s) := by
  cases hf <;> cases hg <;> first | rfl | exact absurd rfl h

end Assigns

/-- **A text that cannot be set** in some settings cannot be set in any, for the same reason. -/
theorem set_eq_error {e : SettingError} (h : s.set key value = .error e) (s' : Settings) :
    s'.set key value = .error e := by
  rw [set] at h ⊢
  split_ifs at h ⊢
  · rw [eq_error_of_bind_pure h]; rfl
  · rw [eq_error_of_bind_pure h]; rfl
  · rw [eq_error_of_bind_pure h]; rfl
  · rw [eq_error_of_bind_pure h]; rfl
  · exact h

/-! ### What the store assigns -/

theorem setting?_putSetting (store : Store) (key key' value : String) :
    (store.putSetting key value).setting? key' =
      if key = key' then some value else store.setting? key' :=
  Table.get?_insert store.settings key key' value

/-- What the store assigns to the setting with the key. -/
inductive Stored (store : Store) (key : String) : (Settings → Settings) → Prop
  /-- Nothing is stored, so the setting is left. -/
  | absent (h : store.setting? key = none) : Stored store key id
  | present {value : String} {f : Settings → Settings} (h : store.setting? key = some value)
    (hf : Assigns value key f) : Stored store key f

/-- The settings are read key by key. -/
theorem readKeys_cons_eq_ok_iff {store : Store} {rest : List String} :
    readKeys store (key :: rest) s = .ok t ↔
      ∃ f, Stored store key f ∧ readKeys store rest (f s) = .ok t := by
  rw [readKeys]
  constructor
  · intro h
    cases hstored : store.setting? key with
    | none =>
      rw [hstored] at h
      exact ⟨id, .absent hstored, h⟩
    | some value =>
      simp only [hstored] at h
      cases hset : s.set key value with
      | error e =>
        rw [hset] at h
        cases h
      | ok s' =>
        rw [hset] at h
        obtain ⟨f, hf, rfl⟩ := set_eq_ok_iff.mp hset
        exact ⟨f, .present hstored hf, h⟩
  · rintro ⟨f, hf, hrest⟩
    cases hf with
    | absent h =>
      rw [h]
      exact hrest
    | present h hf =>
      simp only [h, hf.set]
      exact hrest

namespace Stored

variable {store : Store}

theorem overwrite (hg : Stored store key g) (hf : Assigns value key f) (s : Settings) :
    f (g s) = f s := by
  cases hg with
  | absent h => rfl
  | present h hg => exact hg.overwrite hf rfl s

theorem comm (hg : Stored store key g) (hf : Assigns value key' f) (h : key ≠ key')
    (s : Settings) : g (f s) = f (g s) := by
  cases hg with
  | absent h => rfl
  | present _ hg => exact (hg.comm hf h s).symm

theorem fits (hf : Stored store key f) (hs : s.Fits) : (f s).Fits := by
  cases hf with
  | absent h => exact hs
  | present h hf => exact hf.fits hs

/-- What is stored for one setting does not matter to another. -/
theorem putSetting_iff_of_ne (h : key' ≠ key) :
    Stored (store.putSetting key' value) key f ↔ Stored store key f := by
  have hsame : (store.putSetting key' value).setting? key = store.setting? key := by
    rw [setting?_putSetting, if_neg h]
  constructor
  · intro hf
    cases hf with
    | absent hnone => exact .absent (hsame ▸ hnone)
    | present hsome hf => exact .present (hsame ▸ hsome) hf
  · intro hf
    cases hf with
    | absent hnone => exact .absent (hsame.trans hnone)
    | present hsome hf => exact .present (hsame.trans hsome) hf

theorem putSetting_self (hf : Assigns value key f) :
    Stored (store.putSetting key value) key f :=
  .present (by rw [setting?_putSetting, if_pos rfl]) hf

end Stored

/-! ### Reading after storing -/

section Reading

variable {store : Store} {rest : List String}

/-- A setting whose key is not read is left. -/
theorem readKeys_assign (hf : Assigns value key f) (hout : key ∉ rest)
    (hread : readKeys store rest s = .ok t) : readKeys store rest (f s) = .ok (f t) := by
  induction rest generalizing s with
  | nil =>
    obtain rfl : s = t := Except.ok.inj hread
    rfl
  | cons k rest ih =>
    obtain ⟨hne, hout⟩ := List.ne_and_not_mem_of_not_mem_cons hout
    obtain ⟨g, hg, hrest⟩ := readKeys_cons_eq_ok_iff.mp hread
    refine readKeys_cons_eq_ok_iff.mpr ⟨g, hg, ?_⟩
    rw [hg.comm hf hne.symm]
    exact ih hout hrest

/-- What is stored under a key that is not read does not matter. -/
theorem readKeys_putSetting_of_notMem (hout : key ∉ rest)
    (hread : readKeys store rest s = .ok t) :
    readKeys (store.putSetting key value) rest s = .ok t := by
  induction rest generalizing s with
  | nil => exact hread
  | cons k rest ih =>
    obtain ⟨hne, hout⟩ := List.ne_and_not_mem_of_not_mem_cons hout
    obtain ⟨g, hg, hrest⟩ := readKeys_cons_eq_ok_iff.mp hread
    exact readKeys_cons_eq_ok_iff.mpr
      ⟨g, (Stored.putSetting_iff_of_ne hne).mpr hg, ih hout hrest⟩

/-- **What is stored last acts as if it were read last**, wherever its key stands among the keys
that are read. -/
theorem readKeys_putSetting (hf : Assigns value key f) (hmem : key ∈ rest) (hnodup : rest.Nodup)
    (hread : readKeys store rest s = .ok t) :
    readKeys (store.putSetting key value) rest s = .ok (f t) := by
  induction rest generalizing s with
  | nil => exact absurd hmem List.not_mem_nil
  | cons k rest ih =>
    obtain ⟨hnew, hdistinct⟩ := List.nodup_cons.mp hnodup
    obtain ⟨g, hg, hrest⟩ := readKeys_cons_eq_ok_iff.mp hread
    refine readKeys_cons_eq_ok_iff.mpr ?_
    by_cases hkey : key = k
    · subst hkey
      -- the new text replaces `g`, which would be overwritten anyway, and moves past the rest
      refine ⟨f, Stored.putSetting_self hf, readKeys_putSetting_of_notMem hnew ?_⟩
      rw [← hg.overwrite hf]
      exact readKeys_assign hf hnew hrest
    · have hlater : key ∈ rest := List.mem_of_ne_of_mem hkey hmem
      exact ⟨g, (Stored.putSetting_iff_of_ne hkey).mpr hg, ih hlater hdistinct hrest⟩

theorem readKeys_fits (hs : s.Fits) (hread : readKeys store rest s = .ok t) : t.Fits := by
  induction rest generalizing s with
  | nil =>
    obtain rfl : s = t := Except.ok.inj hread
    exact hs
  | cons k rest ih =>
    obtain ⟨f, hf, hrest⟩ := readKeys_cons_eq_ok_iff.mp hread
    exact ih (hf.fits hs) hrest

end Reading

/-! ### Calls one after the other -/

/-- Stores the values one after the other: the store at last, and the calls that did not fail. A
call that fails gives no store, so the one before it is kept. -/
def storeEach (store : Store) : List (String × String) → Store × List (String × String)
  | [] => (store, [])
  | (key, value) :: rest =>
    match storeValue store key value with
    | .ok next =>
      let (last, accepted) := storeEach next rest
      (last, (key, value) :: accepted)
    | .error _ => storeEach store rest

/-- Sets all of the values, if each of them can be set. -/
def setAll (s : Settings) (texts : List (String × String)) : Except SettingError Settings :=
  texts.foldlM (fun s (key, value) => s.set key value) s

theorem setAll_cons (hf : Assigns value key f) (rest : List (String × String)) :
    setAll s ((key, value) :: rest) = setAll (f s) rest := by
  show (s.set key value >>= fun s => setAll s rest) = setAll (f s) rest
  rw [hf.set]
  rfl

/-- Sets the values that can be set. -/
def setEach (s : Settings) : List (String × String) → Settings
  | [] => s
  | (key, value) :: rest =>
    match s.set key value with
    | .ok next => setEach next rest
    | .error _ => setEach s rest

/-- A value that has been stored acts as if it had been set in the settings that were stored. -/
theorem ofStore_storeValue {store next : Store} (hread : ofStore store = .ok s)
    (hstore : storeValue store key value = .ok next) :
    ∃ f, Assigns value key f ∧ ofStore next = .ok (f s) := by
  rw [storeValue] at hstore
  cases hset : set {} key value with
  | error e =>
    rw [hset] at hstore
    cases hstore
  | ok checked =>
    obtain ⟨f, hf, -⟩ := set_eq_ok_iff.mp hset
    rw [hset] at hstore
    obtain rfl := Except.ok.inj hstore
    exact ⟨f, hf, readKeys_putSetting hf.trim hf.mem_keys (by decide) hread⟩

/-- A value that is not stored cannot be set in any settings. -/
theorem set_of_storeValue_eq_error {store : Store} {e : SettingError}
    (hstore : storeValue store key value = .error e) (s : Settings) :
    s.set key value = .error e := by
  rw [storeValue] at hstore
  cases hset : set {} key value with
  | error e' =>
    rw [hset] at hstore
    obtain rfl := Except.error.inj hstore
    exact set_eq_error hset s
  | ok checked =>
    rw [hset] at hstore
    cases hstore

/-- The settings in the store follow the calls. -/
theorem ofStore_storeEach {store : Store} (calls : List (String × String))
    (hread : ofStore store = .ok s) :
    ofStore (storeEach store calls).1 = .ok (setEach s calls) ∧
      setAll s (storeEach store calls).2 = .ok (setEach s calls) := by
  induction calls generalizing store s with
  | nil => exact ⟨hread, rfl⟩
  | cons call rest ih =>
    obtain ⟨key, value⟩ := call
    rw [storeEach, setEach]
    cases hstore : storeValue store key value with
    | error e =>
      rw [set_of_storeValue_eq_error hstore]
      exact ih hread
    | ok next =>
      obtain ⟨f, hf, hnext⟩ := ofStore_storeValue hread hstore
      obtain ⟨hlast, haccepted⟩ := ih hnext
      rw [hf.set]
      exact ⟨hlast, (setAll_cons hf _).trans haccepted⟩

/-- Setting the settings that are shown gives the settings back. -/
theorem setAll_entries (hs : s.Fits) (other : Settings) : setAll other s.entries = .ok s := by
  have hcount := Assigns.eagerResolveCount (parseNumber_render hs.eagerResolveCount)
  have hverify := Assigns.verifyExistence (parseBool_boolText s.verifyExistence)
  have hthreshold :=
    Assigns.backgroundScanThreshold (parseNumber_render hs.backgroundScanThreshold)
  have hcapacity := Assigns.replayCapacity (parseNumber_render hs.replayCapacity)
  rw [entries, setAll_cons hcount, setAll_cons hverify, setAll_cons hthreshold,
    setAll_cons hcapacity]
  rfl

/-- **Settings persist.** Whatever is stored over a fresh store, one call after the other, the
settings can be read, and they are the defaults with the accepted values set in their order – so
the settings that follow from trying to set every value. A call that fails leaves the corpus, and a
value that cannot be set leaves the settings, whichever they are. The settings that are shown can be
typed again: setting them all gives the settings, whatever was set before. -/
theorem persist (items : Table Reference (List Char)) (calls : List (String × String)) :
    (∃ s, ofStore (storeEach { items } calls).1 = .ok s ∧
      setAll {} (storeEach { items } calls).2 = .ok s ∧ setEach {} calls = s ∧ s.Fits) ∧
    (∀ (corpus : Corpus) (key value : String) (e : SettingError),
      storeValue corpus.store key value = .error e →
        Command.storeSetting corpus key value = (corpus, .error e.toFailure)) ∧
    (∀ (s : Settings) (key value : String) (e : SettingError), s.set key value = .error e →
      setEach s [(key, value)] = s ∧ ∀ s' : Settings, s'.set key value = .error e) ∧
    ∀ s other : Settings, s.Fits → setAll other s.entries = .ok s := by
  have hfresh : ofStore { items } = .ok {} := rfl
  obtain ⟨hread, haccepted⟩ := ofStore_storeEach calls hfresh
  refine ⟨⟨_, hread, haccepted, rfl, readKeys_fits fits_default hread⟩,
    fun corpus key value e hstore => ?_, fun s key value e hset => ⟨?_, set_eq_error hset⟩,
    fun s other hs => setAll_entries hs other⟩
  · rw [Command.storeSetting, hstore]
  · rw [setEach, hset, setEach]

/-- Of six calls three are accepted; a truth value in capitals and a number with a sign are read as
they are meant. -/
theorem persist_of_spellings :
    (∃ s, ofStore (storeEach {}
        [("replay_capacity", "7"), ("verify_existence", " YES\n"), ("replay_capacity", "lots"),
          ("colour", "red"), ("replay_capacity", " +0005 "),
          ("eager_resolve_count", "18446744073709551616")]).1 = .ok s ∧
      s = { verifyExistence := true, replayCapacity := 5 }) ∧
    Command.storeSetting {} "colour" "red" =
      ({}, .error (SettingError.unknownKey "colour").toFailure) ∧
    setEach {} [("replay_capacity", "lots")] = {} ∧
    setAll {} (entries ⟨18446744073709551615, true, 0, 7⟩) =
      .ok ⟨18446744073709551615, true, 0, 7⟩ := by
  obtain ⟨⟨s, hread, -, hset, -⟩, hfailed, hleft, hentries⟩ := persist {}
    [("replay_capacity", "7"), ("verify_existence", " YES\n"), ("replay_capacity", "lots"),
      ("colour", "red"), ("replay_capacity", " +0005 "),
      ("eager_resolve_count", "18446744073709551616")]
  have hlots : set {} "replay_capacity" "lots" =
      .error (.invalidNumber "replay_capacity" "lots") := by decide +kernel
  refine ⟨⟨s, hread, ?_⟩, hfailed {} "colour" "red" _ rfl, (hleft {} _ _ _ hlots).1,
    hentries _ {} ⟨by decide, by decide, by decide⟩⟩
  rw [← hset]
  decide +kernel

end Settings

end LiveSearch
