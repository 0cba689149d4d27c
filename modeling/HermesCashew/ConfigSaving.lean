import HermesCashew.ConfigLoading

/-!
# Saving and loading the configuration

What `save_config` leaves in the file, and what the next call of it or of `load_config`
makes of that. A text is written with escapes only, so a file that was written can always be
read; a string that spells out a surrogate pair is read back as one character.
-/

namespace HermesCashew.Config

open HermesCashew.JsonDocument
open HermesCashew.JsonText (CodePoint Str str)
open HermesCashew.JsonNumber
open HermesCashew.Raising

set_option autoImplicit false

/-! ## What validation gives -/

inductive Flat : Value → Prop where
  | none : Flat .none
  | bool (value : Bool) : Flat (.bool value)
  | int (value : Int) (small : value.natAbs < 10 ^ 5) : Flat (.int value)
  | str (value : Str) : Flat (.str value)

inductive Validated (key : Key) (given : Given) (value : Value) : Prop where
  | same (unchanged : given = .json value) (flat : Flat value)
  | timeout (timeout : Finite) (is_timeout : key = .syncQueueTimeout)
      (made : value = .float (.finite timeout)) (inside : withinTimeout timeout = true)
  | features (items : Items) (is_features : key = .features)
      (unchanged : given = .json (.dict items))
      (named : ∀ entry ∈ items, entry.1 ≠ [] ∧ isBool entry.2 = true)
      (made : value = .dict
        (SortedDict.ofEntries (items.filter fun entry => entry.1 ≠ parallelRetrieval)))

theorem validate_features_ok {given : Given} {value : Value}
    (accepted : validateFeatures given = .ok value) : Validated .features given value := by
  unfold validateFeatures at accepted
  split at accepted
  · rename_i items
    split at accepted
    · cases accepted
    · split at accepted
      · cases accepted
      · rename_i unnamed unflagged
        cases accepted
        refine .features items rfl rfl ?_ rfl
        intro entry member
        constructor
        · intro empty
          exact unnamed (List.any_eq_true.mpr ⟨entry, member, decide_eq_true empty⟩)
        · by_contra other
          apply unflagged
          exact List.any_eq_true.mpr ⟨entry, member, by simp [Bool.eq_false_iff.mpr other]⟩
  all_goals cases accepted

theorem validate_timeout_ok {given : Given} {value : Value}
    (accepted : validateTimeout given = .ok value) :
    Validated .syncQueueTimeout given value := by
  unfold validateTimeout at accepted
  split at accepted
  · rename_i whole
    obtain ⟨timeout, made, inside⟩ := @validate_timeout_int_ok whole value accepted
    exact .timeout timeout rfl made inside
  · split at accepted
    · rename_i timeout inside
      cases accepted
      exact .timeout timeout rfl rfl inside
    · cases accepted
  · cases accepted

theorem count_small {key : Key} {count : Int} (lower : (countRange key).1 ≤ count)
    (upper : count ≤ (countRange key).2) : count.natAbs < 10 ^ 5 := by
  cases key <;> simp only [countRange] at lower upper <;> omega

theorem validated_string {key : Key} {given : Given} {text : Str}
    (accepted : validateNonemptyString key given = .ok text) : Validated key given (.str text) :=
  .same (validate_nonempty_string_ok accepted).1 (.str text)

theorem validated_name {key : Key} {given : Given} {value : Value}
    (accepted : (validateNonemptyString key given).map Value.str = .ok value) :
    Validated key given value := by
  cases text : validateNonemptyString key given with
  | error error =>
      rw [text] at accepted
      cases accepted
  | ok name =>
      rw [text] at accepted
      cases accepted
      exact validated_string text

theorem validated_path {home : Home} {given : Given} {value : Value}
    (accepted : validateField home .cashewDbPath given = .ok value) :
    Validated .cashewDbPath given value := by
  unfold validateField at accepted
  dsimp only at accepted
  cases text : validateNonemptyString .cashewDbPath given with
  | error error =>
      rw [text] at accepted
      cases accepted
  | ok name =>
      rw [text] at accepted
      cases resolved : resolveDbPath home name with
      | error error =>
          simp only [bind, Except.bind, resolved] at accepted
          cases accepted
      | ok path =>
          simp only [bind, Except.bind, resolved] at accepted
          cases accepted
          exact validated_string text

theorem validated_count {key : Key} {given : Given} {value : Value}
    (accepted : validateCount key given = .ok value) : Validated key given value := by
  obtain ⟨count, rfl, unchanged, lower, upper⟩ := validate_count_ok accepted
  exact .same unchanged (.int count (count_small lower upper))

/-- Everything that validation accepts, and what it makes of it. -/
theorem validate_field_ok {home : Home} {key : Key} {given : Given} {value : Value}
    (accepted : validateField home key given = .ok value) : Validated key given value := by
  cases key with
  | cashewDbPath => exact validated_path accepted
  | embeddingModel | embeddingDevice | userDomain | aiDomain => exact validated_name accepted
  | recallK | thinkInterval | prefetchK | prefetchCues | sleepMaxNodes =>
      exact validated_count accepted
  | syncQueueTimeout => exact validate_timeout_ok accepted
  | features => exact validate_features_ok accepted
  | llmAuxRole =>
      unfold validateField at accepted
      dsimp only at accepted
      split at accepted
      · cases accepted
        exact .same rfl .none
      · cases accepted
        exact .same rfl (.str _)
      · cases accepted
  | sleepSchedule =>
      unfold validateField at accepted
      dsimp only at accepted
      split at accepted
      · cases accepted
        exact .same rfl (.str _)
      · cases accepted
  | autoExtraction | thinkCycles | sleepCycles =>
      unfold validateField at accepted
      dsimp only at accepted
      split at accepted
      · cases accepted
        exact .same rfl (.bool _)
      · cases accepted

/-! ## Validated values are settled -/

section

variable {home : Home} {key : Key} {given : Given} {value : Value}

theorem validated_ordered (accepted : validateField home key given = .ok value) :
    value.Ordered := by
  cases validate_field_ok accepted with
  | same unchanged flat => cases flat <;> exact trivial
  | timeout timeout is_timeout made inside =>
      rw [made]
      exact trivial
  | features items is_features unchanged named made =>
      rw [made]
      refine ⟨SortedDict.sorted_of_entries _, (ordered_members_iff _).mpr ?_⟩
      intro entry member
      have flag := (named entry (List.mem_filter.mp (SortedDict.mem_of_entries member)).1).2
      cases shape : entry.2 with
      | list inner =>
          rw [shape] at flag
          cases flag
      | dict inner =>
          rw [shape] at flag
          cases flag
      | _ => exact trivial

theorem small_int_fits {value : Int} (small : value.natAbs < 10 ^ 5) (depth : Nat) :
    (Value.int value).Fits depth := by
  apply (Nat.length_toDigits_le_iff (by decide) (by decide)).mpr
  exact small.trans_le (Nat.pow_le_pow_right (by decide) (by decide))

theorem flags_fit {depth : Nat} (room : 0 < depth) {items : Items}
    (flags : ∀ entry ∈ items, isBool entry.2 = true) : (Value.dict items).Fits depth := by
  refine ⟨room, (fits_members_iff _ _).mpr ?_⟩
  intro entry member
  have flag := flags entry member
  cases shape : entry.2 with
  | bool value => exact trivial
  | _ =>
      rw [shape] at flag
      cases flag

/-- An integer of five digits, or an object of flags, has room in a value that is one level
deep. -/
theorem validated_fits {depth : Nat} (room : 0 < depth)
    (accepted : validateField home key given = .ok value) : value.Fits depth := by
  cases validate_field_ok accepted with
  | same unchanged flat =>
      cases flat with
      | int count small => exact small_int_fits small depth
      | _ => exact trivial
  | timeout timeout is_timeout made inside =>
      rw [made]
      exact trivial
  | features items is_features unchanged named made =>
      rw [made]
      apply flags_fit room
      intro entry member
      exact (named entry (List.mem_filter.mp (SortedDict.mem_of_entries member)).1).2

def Given.Joined : Given → Prop
  | .json value => value.Joined
  | _ => True

theorem validated_joined (accepted : validateField home key given = .ok value)
    (joined : given.Joined) : value.Joined := by
  cases validate_field_ok accepted with
  | same unchanged flat =>
      rw [unchanged] at joined
      exact joined
  | timeout timeout is_timeout made inside =>
      rw [made]
      exact trivial
  | features items is_features unchanged named made =>
      rw [unchanged] at joined
      rw [made]
      apply (joined_members_iff _).mpr
      intro entry member
      exact (joined_members_iff items).mp joined entry
        (List.mem_filter.mp (SortedDict.mem_of_entries member)).1

end

/-! ## The items of the file -/

def fileItems (raw : Items) : Items :=
  SortedDict.update defaultItems (withoutLegacy raw)

/-- What is written when these settings have been accepted. -/
def written (raw : Items) (settings : Key → Value) : Items :=
  SortedDict.update (fileItems raw) (settingItems settings)

/-- Items that a text can be written of and read again. -/
structure Sound (python : Python) (items : Items) : Prop where
  sorted : SortedDict.Sorted items
  ordered : ∀ entry ∈ items, entry.2.Ordered
  names : ∀ entry ∈ items, Joined entry.1
  fits : ∀ entry ∈ items, entry.2.Fits (python.nesting - 1)

section

variable {python : Python} {raw : Items} {settings : Key → Value}

theorem parse_sound {content : Content} (read : parse python content = .ok raw) :
    Sound python raw ∧ ∀ entry ∈ raw, entry.2.Joined := by
  unfold parse at read
  split at read
  · cases read
  · cases read
  · rename_i text
    split at read
    · cases read
    · rename_i items loaded
      cases read
      obtain ⟨ordered, joined, -⟩ := reread_loaded loaded
      have all := (joined_members_iff raw).mp joined
      exact ⟨⟨ordered.1, (ordered_members_iff raw).mp ordered.2,
        fun entry member => (all entry member).1,
        (fits_members_iff _ raw).mp (loads_fits loaded).2⟩,
        fun entry member => (all entry member).2⟩
    · cases read

theorem read_existing_sound {file : File} (read : readExistingConfig python file = .ok raw) :
    Sound python raw ∧ ∀ entry ∈ raw, entry.2.Joined := by
  cases file with
  | none =>
      cases read
      exact ⟨⟨.nil, nofun, nofun, nofun⟩, nofun⟩
  | some content => exact parse_sound read

theorem without_legacy_sorted (sorted : SortedDict.Sorted raw) :
    SortedDict.Sorted (withoutLegacy raw) :=
  sorted.filter _

theorem get_without_legacy (sorted : SortedDict.Sorted raw) (name : Str) :
    SortedDict.get name (withoutLegacy raw) =
      if name ∈ removedLegacyConfigKeys then none else SortedDict.get name raw := by
  have filtered := SortedDict.get_filter sorted
    (fun name => decide (name ∉ removedLegacyConfigKeys)) name
  rw [withoutLegacy, filtered]
  by_cases removed : name ∈ removedLegacyConfigKeys
  · simp [removed]
  · simp [removed]

theorem get_file_items (sorted : SortedDict.Sorted raw) (name : Str) :
    SortedDict.get name (fileItems raw) =
      (if name ∈ removedLegacyConfigKeys then none else SortedDict.get name raw).or
        (SortedDict.get name defaultItems) := by
  rw [fileItems, SortedDict.get_update (without_legacy_sorted sorted).distinct,
    get_without_legacy sorted]

theorem setting_items_distinct (settings : Key → Value) :
    SortedDict.Distinct (settingItems settings) :=
  (SortedDict.sorted_of_entries _).distinct

theorem written_sorted (raw : Items) (settings : Key → Value) :
    SortedDict.Sorted (written raw settings) := by
  apply SortedDict.sorted_update
  apply SortedDict.sorted_update
  exact SortedDict.sorted_of_entries _

theorem get_written_known (raw : Items) (settings : Key → Value) (key : Key) :
    SortedDict.get key.name (written raw settings) = some (settings key) := by
  rw [written, SortedDict.get_update (setting_items_distinct settings), get_setting_items]
  rfl

theorem get_written_unknown (sorted : SortedDict.Sorted raw) (settings : Key → Value) {name : Str}
    (unknown : ∀ key : Key, key.name ≠ name) :
    SortedDict.get name (written raw settings) =
      if name ∈ removedLegacyConfigKeys then none else SortedDict.get name raw := by
  rw [written, SortedDict.get_update (setting_items_distinct settings),
    get_setting_items_unknown settings unknown, get_file_items sorted, defaultItems,
    get_setting_items_unknown defaults unknown, Option.or_none, Option.none_or]

/-- What is written is a setting, or it has been in the file. -/
theorem written_entry (sorted : SortedDict.Sorted raw) {entry : Str × Value}
    (member : entry ∈ written raw settings) :
    (∃ key : Key, entry = (key.name, settings key)) ∨ entry ∈ raw := by
  have found := (SortedDict.get_eq_some_iff (written_sorted raw settings)).mpr member
  by_cases known : ∃ key : Key, key.name = entry.1
  · obtain ⟨key, same⟩ := known
    rw [← same, get_written_known] at found
    exact .inl ⟨key, Prod.ext same.symm (Option.some.inj found).symm⟩
  · rw [get_written_unknown sorted settings fun key same => known ⟨key, same⟩] at found
    obtain ⟨-, there⟩ := Option.ite_none_left_eq_some.mp found
    exact .inr (SortedDict.mem_of_get there)

theorem written_sound {home : Home} {values : Key → Given} (room : 2 ≤ python.nesting)
    (sound : Sound python raw) (accepted : validateConfigValues home values = .ok settings) :
    Sound python (written raw settings) := by
  have each := validate_config_values_iff.mp accepted
  refine ⟨written_sorted raw settings, ?_, ?_, ?_⟩
  · intro entry member
    rcases written_entry sound.sorted member with ⟨key, rfl⟩ | there
    · exact validated_ordered (each key)
    · exact sound.ordered entry there
  · intro entry member
    rcases written_entry sound.sorted member with ⟨key, rfl⟩ | there
    · exact key.name_joined
    · exact sound.names entry there
  · intro entry member
    rcases written_entry sound.sorted member with ⟨key, rfl⟩ | there
    · exact validated_fits (by omega) (each key)
    · exact sound.fits entry there

def fileText (items : Items) : Content :=
  .text (dumps indented (.dict items) ++ ['\n'])

def rereadItems (items : Items) : Items :=
  items.map fun entry => (entry.1, entry.2.reread)

/-- A file that was written is read back item by item. -/
theorem parse_file_text (room : 2 ≤ python.nesting) {items : Items} (sound : Sound python items) :
    parse python (fileText items) = .ok (rereadItems items) := by
  have fits : (Value.dict items).Fits python.nesting :=
    ⟨by omega, (fits_members_iff _ items).mpr sound.fits⟩
  have blank : ∀ char ∈ ['\n'], JsonText.isSpace char = true := by
    intro char member
    rw [List.mem_singleton.mp member]
    decide
  have loaded := loads_dumps indented python.nesting fits blank
  have same := reread_dict sound.sorted sound.names
  rw [Value.reread] at same
  unfold parse fileText rereadItems
  dsimp only
  rw [loaded, same]

theorem reread_joined {items : Items} (sound : Sound python items)
    (joined : ∀ entry ∈ items, entry.2.Joined) : rereadItems items = items := by
  have same : rereadItems items = items.map id := by
    apply List.map_congr_left
    intro entry member
    rw [reread_settled entry.2 (sound.ordered entry member) (joined entry member)]
    rfl
  rw [same, List.map_id]

end

/-! ## Saving -/

section

variable {python : Python} {home : Home} {disk : Disk} {values : Values} {file after : File}

/-- The three parts of `save_config`, one after the other. -/
theorem save_config_eq (python : Python) (home : Home) (disk : Disk) (values : Values)
    (file : File) :
    saveConfig python home disk values file =
      match readExistingConfig python file with
      | .error error => (.error error, file)
      | .ok raw =>
          match validateConfigValues home (mergedSetting (fileItems raw) values) with
          | .error error => (.error error, file)
          | .ok settings =>
              atomicWriteConfig disk (dumps indented (.dict (written raw settings)) ++ ['\n'])
                file := by
  unfold saveConfig
  cases read : readExistingConfig python file with
  | error error => exact Block.bind_error (congrArg (fun result => (result, file)) read)
  | ok raw =>
      refine (Block.bind_ok (congrArg (fun result => (result, file)) read)).trans ?_
      dsimp only
      cases accepted : validateConfigValues home (mergedSetting (fileItems raw) values) with
      | error error => exact Block.bind_error (congrArg (fun result => (result, file)) accepted)
      | ok settings => exact Block.bind_ok (congrArg (fun result => (result, file)) accepted)

theorem save_config_ok (saved : saveConfig python home disk values file = (.ok (), after)) :
    ∃ raw settings, readExistingConfig python file = .ok raw ∧
      validateConfigValues home (mergedSetting (fileItems raw) values) = .ok settings ∧
      disk = .writes ∧ after = some (fileText (written raw settings)) := by
  rw [save_config_eq] at saved
  cases read : readExistingConfig python file with
  | error error =>
      rw [read] at saved
      cases saved
  | ok raw =>
      rw [read] at saved
      dsimp only at saved
      cases accepted : validateConfigValues home (mergedSetting (fileItems raw) values) with
      | error error =>
          rw [accepted] at saved
          cases saved
      | ok settings =>
          rw [accepted] at saved
          cases disk with
          | writes =>
              cases saved
              exact ⟨raw, settings, rfl, accepted, rfl, rfl⟩
          | refuses => cases saved
          | unsynchronised => cases saved

theorem save_config_written {raw : Items} {settings : Key → Value}
    (read : readExistingConfig python file = .ok raw)
    (accepted : validateConfigValues home (mergedSetting (fileItems raw) values) = .ok settings) :
    saveConfig python home .writes values file =
      (.ok (), some (fileText (written raw settings))) := by
  rw [save_config_eq, read]
  dsimp only
  rw [accepted]
  rfl

/-- A `ValueError` comes before anything is written. -/
theorem save_config_value_error {error : Error}
    (raised : (saveConfig python home disk values file).1 = .error error)
    (value_error : error.isValueError = true) :
    (saveConfig python home disk values file).2 = file := by
  rw [save_config_eq] at raised ⊢
  cases read : readExistingConfig python file with
  | error error => rfl
  | ok raw =>
      rw [read] at raised
      dsimp only at raised ⊢
      cases accepted : validateConfigValues home (mergedSetting (fileItems raw) values) with
      | error error => rfl
      | ok settings =>
          rw [accepted] at raised
          cases disk with
          | writes => cases raised
          | refuses => rfl
          | unsynchronised =>
              cases raised
              cases value_error

/-! ## The file after a save -/

def Values.Joined (values : Values) : Prop :=
  ∀ key : Key, ∀ given, values key.name = some given → given.Joined

theorem known_default (key : Key) : SortedDict.get key.name defaultItems = some (defaults key) :=
  get_setting_items defaults key

theorem defaults_joined (key : Key) : (defaults key).Joined := by
  cases key with
  | syncQueueTimeout | recallK | thinkInterval | prefetchK | prefetchCues | sleepMaxNodes =>
      exact trivial
  | autoExtraction | thinkCycles | sleepCycles => exact trivial
  | features => exact ⟨by decide, trivial, trivial⟩
  | _ =>
      change JsonDocument.Joined _
      decide

theorem merged_given {key : Key} {given : Given} (items : Items)
    (found : values key.name = some given) : mergedSetting items values key = given := by
  rw [mergedSetting, found]
  rfl

theorem merged_absent {key : Key} (items : Items) (absent : values key.name = none) :
    mergedSetting items values key =
      .json ((SortedDict.get key.name items).getD .none) := by
  rw [mergedSetting, absent]
  rfl

/-- What is to be written for a key comes from the values, the file or the defaults. -/
theorem merged_setting_joined {raw : Items} (sound : Sound python raw)
    (raw_joined : ∀ entry ∈ raw, entry.2.Joined) (joined : values.Joined) (key : Key) :
    (mergedSetting (fileItems raw) values key).Joined := by
  cases given : values key.name with
  | some given_ =>
      rw [merged_given _ given]
      exact joined key given_ given
  | none =>
      rw [merged_absent _ given, get_file_items sound.sorted, if_neg key.name_not_legacy,
        known_default]
      cases found : SortedDict.get key.name raw with
      | none => exact defaults_joined key
      | some value => exact raw_joined _ (SortedDict.mem_of_get found)

/-- A file that is saved without split pairs is read back as it was written. -/
theorem read_saved {raw : Items} {settings : Key → Value} (room : 2 ≤ python.nesting)
    (read : readExistingConfig python file = .ok raw)
    (accepted : validateConfigValues home (mergedSetting (fileItems raw) values) = .ok settings)
    (joined : values.Joined) :
    readExistingConfig python (some (fileText (written raw settings))) =
      .ok (written raw settings) := by
  obtain ⟨sound, raw_joined⟩ := read_existing_sound read
  have each := validate_config_values_iff.mp accepted
  have whole := written_sound room sound accepted
  have all : ∀ entry ∈ written raw settings, entry.2.Joined := by
    intro entry member
    rcases written_entry sound.sorted member with ⟨key, rfl⟩ | there
    · exact validated_joined (each key) (merged_setting_joined sound raw_joined joined key)
    · exact raw_joined entry there
  rw [readExistingConfig, parse_file_text room whole, reread_joined whole all]

/-- What has been written is kept by the next reading, legacy keys and defaults included. -/
theorem file_items_written {raw : Items} (settings : Key → Value)
    (sorted : SortedDict.Sorted raw) :
    fileItems (written raw settings) = written raw settings := by
  apply SortedDict.ext
  · exact SortedDict.sorted_update _ (SortedDict.sorted_of_entries _)
  · exact written_sorted raw settings
  · intro name
    rw [get_file_items (written_sorted raw settings)]
    by_cases known : ∃ key : Key, key.name = name
    · obtain ⟨key, rfl⟩ := known
      rw [if_neg key.name_not_legacy, get_written_known]
      rfl
    · have unknown : ∀ key : Key, key.name ≠ name := fun key same => known ⟨key, same⟩
      rw [get_written_unknown sorted settings unknown, defaultItems,
        get_setting_items_unknown defaults unknown, Option.or_none]
      split <;> rfl

/-- `load_config` gives the settings that were accepted. -/
theorem load_saved {raw : Items} {settings : Key → Value} (room : 2 ≤ python.nesting)
    (read : readExistingConfig python file = .ok raw)
    (accepted : validateConfigValues home (mergedSetting (fileItems raw) values) = .ok settings)
    (joined : values.Joined) :
    loadConfig python home noOverrides (some (fileText (written raw settings))) =
      .ok ⟨settings⟩ := by
  have each := validate_config_values_iff.mp accepted
  have known : collect (fun key => overrideSetting python home noOverrides key
      ((SortedDict.get key.name
        (SortedDict.update defaultItems (written raw settings))).getD .none)) = .ok settings := by
    apply collect_ok_iff.mpr
    intro key
    rw [SortedDict.get_update (written_sorted raw settings).distinct, get_written_known]
    rfl
  have again : validateConfigValues home (fun key => .json (settings key)) = .ok settings :=
    validate_config_values_iff.mpr fun key => validate_field_again (each key)
  unfold loadConfig
  rw [read_saved room read accepted joined]
  simp only [bind, Except.bind, known, again]

theorem nothing_joined : Values.Joined fun _ => none := by
  intro key given found
  cases found

/-- A setting that no value was given for is settled. -/
theorem setting_reread {raw : Items} {settings : Key → Value} {key : Key}
    (read : readExistingConfig python file = .ok raw)
    (accepted : validateConfigValues home (mergedSetting (fileItems raw) values) = .ok settings)
    (absent : values key.name = none) : (settings key).reread = settings key := by
  obtain ⟨sound, raw_joined⟩ := read_existing_sound read
  have own := validate_config_values_iff.mp accepted key
  have spare : (mergedSetting (fileItems raw) (fun _ => none) key).Joined :=
    merged_setting_joined sound raw_joined nothing_joined key
  rw [merged_absent _ absent, ← @merged_absent (fun _ => none) key _ rfl] at own
  exact reread_settled _ (validated_ordered own) (validated_joined own spare)

theorem get_read_saved {raw : Items} {settings : Key → Value}
    (read : readExistingConfig python file = .ok raw) (name : Str)
    (unknown : ∀ key : Key, key.name ≠ name) :
    SortedDict.get name (rereadItems (written raw settings)) =
      if name ∈ removedLegacyConfigKeys then none else SortedDict.get name raw := by
  obtain ⟨sound, raw_joined⟩ := read_existing_sound read
  rw [rereadItems, SortedDict.get_map, get_written_unknown sound.sorted settings unknown]
  split
  · rfl
  · cases found : SortedDict.get name raw with
    | none => rfl
    | some value =>
        have member := SortedDict.mem_of_get found
        rw [Option.map_some,
          reread_settled value (sound.ordered _ member) (raw_joined _ member)]

theorem reread_sorted {items : Items} (sorted : SortedDict.Sorted items) :
    SortedDict.Sorted (rereadItems items) :=
  sorted.map Value.reread

theorem get_reread_known {raw : Items} (settings : Key → Value) (key : Key) :
    SortedDict.get key.name (rereadItems (written raw settings)) =
      some (settings key).reread := by
  rw [rereadItems, SortedDict.get_map, get_written_known]
  rfl

/-- The same values are accepted again, with the same settings. -/
theorem accepted_again {raw : Items} {settings : Key → Value}
    (read : readExistingConfig python file = .ok raw)
    (accepted : validateConfigValues home (mergedSetting (fileItems raw) values) = .ok settings) :
    validateConfigValues home
        (mergedSetting (fileItems (rereadItems (written raw settings))) values) =
      .ok settings := by
  apply validate_config_values_iff.mpr
  intro key
  have own := validate_config_values_iff.mp accepted key
  cases given : values key.name with
  | some given_ =>
      rw [merged_given _ given] at own ⊢
      exact own
  | none =>
      have settled : mergedSetting (fileItems (rereadItems (written raw settings))) values key =
          .json (settings key) := by
        rw [merged_absent _ given, get_file_items (reread_sorted (written_sorted raw settings)),
          if_neg key.name_not_legacy, get_reread_known, setting_reread read accepted given]
        rfl
      rw [settled]
      exact validate_field_again own

theorem written_again {raw : Items} {settings : Key → Value}
    (read : readExistingConfig python file = .ok raw) :
    written (rereadItems (written raw settings)) settings = written raw settings := by
  obtain ⟨sound, -⟩ := read_existing_sound read
  apply SortedDict.ext (written_sorted _ _) (written_sorted _ _)
  intro name
  by_cases known : ∃ key : Key, key.name = name
  · obtain ⟨key, rfl⟩ := known
    rw [get_written_known, get_written_known]
  · have unknown : ∀ key : Key, key.name ≠ name := fun key same => known ⟨key, same⟩
    rw [get_written_unknown (reread_sorted (written_sorted raw settings)) settings unknown,
      get_read_saved read name unknown, get_written_unknown sound.sorted settings unknown]
    split <;> rfl

theorem read_written {raw : Items} {settings : Key → Value} (room : 2 ≤ python.nesting)
    (read : readExistingConfig python file = .ok raw)
    (accepted : validateConfigValues home (mergedSetting (fileItems raw) values) = .ok settings) :
    readExistingConfig python (some (fileText (written raw settings))) =
      .ok (rereadItems (written raw settings)) := by
  obtain ⟨sound, -⟩ := read_existing_sound read
  rw [readExistingConfig, parse_file_text room (written_sound room sound accepted)]

/-- Another save of the same values writes the same text. -/
theorem save_again (room : 2 ≤ python.nesting)
    (saved : saveConfig python home disk values file = (.ok (), after)) :
    saveConfig python home .writes values after = (.ok (), after) := by
  obtain ⟨raw, settings, read, accepted, -, rfl⟩ := save_config_ok saved
  have again := save_config_written (read_written room read accepted)
    (accepted_again read accepted)
  rw [written_again read] at again
  exact again

end

/-! ## Saves one after another -/

def saveAll (python : Python) (home : Home) : List Values → Block File Error Unit
  | [] => pure ()
  | values :: rest => do
      saveConfig python home .writes values
      saveAll python home rest

/-- No key is known to both. -/
def Apart (first second : Values) : Prop :=
  ∀ key : Key, first key.name = none ∨ second key.name = none

def united (calls : List Values) : Values := fun name =>
  calls.findSome? fun values => values name

def both (first second : Values) : Values := fun name =>
  (first name).or (second name)

theorem united_cons (values : Values) (rest : List Values) :
    united (values :: rest) = both values (united rest) := by
  funext name
  unfold united both
  rw [List.findSome?_cons]
  cases values name <;> rfl

section

variable {python : Python} {home : Home} {file middle after : File} {first second : Values}
  {calls others : List Values}

theorem written_written {raw : Items} (sorted : SortedDict.Sorted raw)
    (settings later : Key → Value) :
    written (written raw settings) later = written raw later := by
  apply SortedDict.ext (written_sorted _ _) (written_sorted _ _)
  intro name
  by_cases known : ∃ key : Key, key.name = name
  · obtain ⟨key, rfl⟩ := known
    rw [get_written_known, get_written_known]
  · have unknown : ∀ key : Key, key.name ≠ name := fun key same => known ⟨key, same⟩
    rw [get_written_unknown (written_sorted raw settings) later unknown,
      get_written_unknown sorted settings unknown, get_written_unknown sorted later unknown]
    split <;> rfl

/-- Two saves of different keys come to one of both. -/
theorem save_both (room : 2 ≤ python.nesting) (apart : Apart first second)
    (joined : first.Joined)
    (one : saveConfig python home .writes first file = (.ok (), middle))
    (two : saveConfig python home .writes second middle = (.ok (), after)) :
    saveConfig python home .writes (both first second) file = (.ok (), after) := by
  obtain ⟨raw, settings, read, accepted, -, rfl⟩ := save_config_ok one
  obtain ⟨raw_, later, read_, accepted_, -, rfl⟩ := save_config_ok two
  obtain ⟨sound, -⟩ := read_existing_sound read
  rw [read_saved room read accepted joined] at read_
  obtain rfl := Except.ok.inj read_
  rw [file_items_written settings sound.sorted] at accepted_
  have together : validateConfigValues home (mergedSetting (fileItems raw) (both first second)) =
      .ok later := by
    apply validate_config_values_iff.mpr
    intro key
    have own := validate_config_values_iff.mp accepted key
    have last := validate_config_values_iff.mp accepted_ key
    cases given : second key.name with
    | some given_ =>
        have absent := (apart key).resolve_right (by rw [given]; exact nofun)
        have found : both first second key.name = some given_ := by
          rw [both, absent, given]
          rfl
        rw [merged_given _ given] at last
        rw [merged_given _ found]
        exact last
    | none =>
        have alone : both first second key.name = first key.name := by
          rw [both, given, Option.or_none]
        have unchanged : mergedSetting (fileItems raw) (both first second) key =
            mergedSetting (fileItems raw) first key := by
          rw [mergedSetting, alone, mergedSetting]
        rw [merged_absent _ given, get_written_known] at last
        have same := Except.ok.inj ((validate_field_again own).symm.trans last)
        rw [unchanged, ← same]
        exact own
  rw [written_written sound.sorted]
  exact save_config_written read together

theorem united_apart (apart : ∀ values ∈ calls, Apart first values) :
    Apart first (united calls) := by
  intro key
  by_cases absent : first key.name = none
  · exact .inl absent
  · refine .inr (List.findSome?_eq_none_iff.mpr ?_)
    intro values member
    exact (apart values member key).resolve_left absent

/-- Saves of different keys come to one save of all of them. -/
theorem save_all_united (room : 2 ≤ python.nesting) (apart : calls.Pairwise Apart)
    (joined : ∀ values ∈ calls, values.Joined) (some_ : calls ≠ [])
    (saved : saveAll python home calls file = (.ok (), after)) :
    saveConfig python home .writes (united calls) file = (.ok (), after) := by
  induction calls generalizing file with
  | nil => exact absurd rfl some_
  | cons values rest induction =>
      obtain ⟨others_apart, rest_apart⟩ := List.pairwise_cons.mp apart
      obtain ⟨own, rest_joined⟩ := List.forall_mem_cons.mp joined
      obtain ⟨_, middle, one, later⟩ := Block.bind_inv saved
      rw [united_cons]
      cases rest with
      | nil =>
          cases later
          have same : both values (united []) = values := by
            funext name
            exact Option.or_none
          rw [same]
          exact one
      | cons next rest =>
          exact save_both room (united_apart others_apart) own one
            (induction rest_apart rest_joined (List.cons_ne_nil _ _) later)

theorem united_joined (joined : ∀ values ∈ calls, values.Joined) : (united calls).Joined := by
  intro key given found
  obtain ⟨values, member, there⟩ := List.exists_of_findSome?_eq_some found
  exact joined values member key given there

/-- When no key is known to two of them, the order of the calls does not matter. -/
theorem united_eq_some_iff (apart : calls.Pairwise Apart) (key : Key) (given : Given) :
    united calls key.name = some given ↔ ∃ values ∈ calls, values key.name = some given := by
  constructor
  · intro found
    obtain ⟨values, member, there⟩ := List.exists_of_findSome?_eq_some found
    exact ⟨values, member, there⟩
  · rintro ⟨values, member, there⟩
    induction calls with
    | nil => cases member
    | cons head rest induction =>
        obtain ⟨others_apart, rest_apart⟩ := List.pairwise_cons.mp apart
        rw [united_cons, both]
        rcases List.mem_cons.mp member with rfl | later
        · rw [there]
          rfl
        · have absent := (others_apart values later key).resolve_right (by rw [there]; exact nofun)
          rw [absent]
          exact induction rest_apart later

theorem united_perm (permuted : calls.Perm others) (apart : calls.Pairwise Apart) (key : Key) :
    united calls key.name = united others key.name := by
  have symmetric : ∀ {one other : Values}, Apart one other → Apart other one :=
    fun apart key => (apart key).symm
  have others_apart : others.Pairwise Apart := permuted.pairwise apart symmetric
  apply Option.ext
  intro given
  rw [united_eq_some_iff apart, united_eq_some_iff others_apart]
  constructor
  · rintro ⟨values, member, there⟩
    exact ⟨values, permuted.mem_iff.mp member, there⟩
  · rintro ⟨values, member, there⟩
    exact ⟨values, permuted.mem_iff.mpr member, there⟩

/-- Only the known keys of the values matter. -/
theorem save_config_congr (same : ∀ key : Key, first key.name = second key.name) (disk : Disk) :
    saveConfig python home disk first = saveConfig python home disk second := by
  have merged : ∀ items, mergedSetting items first = mergedSetting items second := by
    intro items
    funext key
    rw [mergedSetting, mergedSetting, same]
  unfold saveConfig
  simp only [merged]

/-- Two orders of saves of different keys leave one file, with the value of every call. -/
theorem save_all_perm (room : 2 ≤ python.nesting) (permuted : calls.Perm others)
    (apart : calls.Pairwise Apart) (joined : ∀ values ∈ calls, values.Joined)
    {other_after : File} (saved : saveAll python home calls file = (.ok (), after))
    (other_saved : saveAll python home others file = (.ok (), other_after)) :
    after = other_after := by
  by_cases none_ : calls = []
  · subst none_
    obtain rfl := List.nil_perm.mp permuted
    exact congrArg Prod.snd (saved.symm.trans other_saved)
  · have others_some : others ≠ [] := by
      intro empty
      rw [empty] at permuted
      exact none_ permuted.eq_nil
    have others_apart : others.Pairwise Apart :=
      permuted.pairwise apart fun apart key => (apart key).symm
    have others_joined : ∀ values ∈ others, values.Joined :=
      fun values member => joined values (permuted.mem_iff.mpr member)
    have one := save_all_united room apart joined none_ saved
    have other := save_all_united room others_apart others_joined others_some other_saved
    rw [save_config_congr (united_perm permuted apart) .writes] at one
    exact congrArg Prod.snd (one.symm.trans other)

theorem save_all_keeps (room : 2 ≤ python.nesting) (apart : calls.Pairwise Apart)
    (joined : ∀ values ∈ calls, values.Joined)
    (saved : saveAll python home calls file = (.ok (), after)) {values : Values}
    (member : values ∈ calls) {key : Key} {given : Given}
    (there : values key.name = some given) :
    ∃ value items, validateField home key given = .ok value ∧
      readExistingConfig python after = .ok items ∧
      SortedDict.get key.name items = some value := by
  have one := save_all_united room apart joined (List.ne_nil_of_mem member) saved
  obtain ⟨raw, settings, read, accepted, -, rfl⟩ := save_config_ok one
  have own := validate_config_values_iff.mp accepted key
  rw [merged_given _ ((united_eq_some_iff apart key given).mpr ⟨values, member, there⟩)] at own
  exact ⟨settings key, _, own, read_saved room read accepted (united_joined joined),
    get_written_known raw settings key⟩

end

/-! ## Saving and loading together -/

structure SavedFile (python : Python) (home : Home) (values : Values) (raw : Items)
    (settings : Key → Value) (after : File) : Prop where
  loads : values.Joined → loadConfig python home noOverrides after = .ok ⟨settings⟩
  unknown : ∃ items, readExistingConfig python after = .ok items ∧
    ∀ name, (∀ key : Key, key.name ≠ name) → SortedDict.get name items =
      if name ∈ removedLegacyConfigKeys then none else SortedDict.get name raw
  again : saveConfig python home .writes values after = (.ok (), after)

structure SavesAndLoads (python : Python) (home : Home) : Prop where
  /-- The settings of a save are the validated merge of the defaults, the file and the values. -/
  saved : ∀ disk values file after,
    saveConfig python home disk values file = (.ok (), after) →
      ∃ raw settings, readExistingConfig python file = .ok raw ∧
        validateConfigValues home (mergedSetting (fileItems raw) values) = .ok settings ∧
        SavedFile python home values raw settings after
  validated : ∀ values settings, validateConfigValues home values = .ok settings →
    validateConfigValues home (fun key => .json (settings key)) = .ok settings
  ordered : ∀ calls others file after other_after, calls.Perm others →
    calls.Pairwise Apart → (∀ values ∈ calls, values.Joined) →
    saveAll python home calls file = (.ok (), after) →
    saveAll python home others file = (.ok (), other_after) → after = other_after
  kept : ∀ calls file after, calls.Pairwise Apart → (∀ values ∈ calls, values.Joined) →
    saveAll python home calls file = (.ok (), after) →
    ∀ values ∈ calls, ∀ key : Key, ∀ given, values key.name = some given →
      ∃ value items, validateField home key given = .ok value ∧
        readExistingConfig python after = .ok items ∧
        SortedDict.get key.name items = some value
  refused : ∀ disk values file error,
    (saveConfig python home disk values file).1 = .error error → error.isValueError = true →
      (saveConfig python home disk values file).2 = file

/-- Where there is room for the two levels of the file, saving and loading agree. -/
theorem save_and_load_agree (python : Python) (home : Home) (room : 2 ≤ python.nesting) :
    SavesAndLoads python home where
  saved disk values file after saved := by
    have again := save_again room saved
    obtain ⟨raw, settings, read, accepted, -, rfl⟩ := save_config_ok saved
    exact ⟨raw, settings, read, accepted, load_saved room read accepted,
      ⟨_, read_written room read accepted, get_read_saved read⟩, again⟩
  validated values settings accepted :=
    validate_config_values_iff.mpr fun key =>
      validate_field_again (validate_config_values_iff.mp accepted key)
  ordered calls others file after other_after permuted apart joined saved other_saved :=
    save_all_perm room permuted apart joined saved other_saved
  kept calls file after apart joined saved values member key given there :=
    save_all_keeps room apart joined saved member there
  refused disk values file error raised value_error :=
    save_config_value_error raised value_error

theorem plain_save_and_load_agree : SavesAndLoads plainPython plainHome :=
  save_and_load_agree plainPython plainHome (by decide)

/-! ## A name that spells out a pair -/

theorem whole_timeout_documented {home : Home} {whole : Nat} {value : Value}
    (upper : whole ≤ 300) (made : wholeFloat whole = value) :
    Documented home .syncQueueTimeout value := by
  obtain ⟨timeout, same, inside⟩ :=
    @validate_timeout_whole (whole : Int) (by omega) (by omega)
  have finite : value = .float (.finite timeout) := by rw [← made, wholeFloat, same]
  rw [finite]
  exact inside

theorem default_features_documented (home : Home) :
    Documented home .features (defaults .features) := by
  refine ⟨List.pairwise_singleton _ _, ?_⟩
  intro entry member
  rw [List.mem_singleton.mp member]
  exact ⟨by decide, by decide, rfl⟩

/-- Every default is accepted, where the default path stays within the home. -/
theorem defaults_documented {home : Home} (inside : InsideHome home (str "cashew/brain.db"))
    (key : Key) : Documented home key (defaults key) := by
  have solid : blank (str "cashew/brain.db") = false := by decide
  cases key with
  | cashewDbPath => exact ⟨solid, inside⟩
  | syncQueueTimeout =>
      have upper : 30 ≤ 300 := by omega
      generalize made : defaults .syncQueueTimeout = value
      rw [defaults] at made
      exact whole_timeout_documented upper made
  | features => exact default_features_documented home
  | recallK | thinkInterval | prefetchK | prefetchCues | sleepMaxNodes =>
      refine ⟨?_, ?_⟩ <;> omega
  | autoExtraction | thinkCycles | sleepCycles | llmAuxRole | sleepSchedule => exact trivial
  | embeddingModel | embeddingDevice | userDomain | aiDomain =>
      change blank _ = false
      decide

def namedValues (name : Str) : Values := fun key =>
  if key = Key.userDomain.name then some (.json (.str name)) else none

def namedSettings (name : Str) (key : Key) : Value :=
  if key = .userDomain then .str name else defaults key

theorem plain_home_inside : InsideHome plainHome (str "cashew/brain.db") :=
  ⟨by decide, plainHome.path, _, rfl, rfl, by decide⟩

section

variable {home : Home} {name : Str}

theorem named_documented (inside : InsideHome home (str "cashew/brain.db"))
    (solid : blank name = false) (key : Key) : Documented home key (namedSettings name key) := by
  by_cases same : key = .userDomain
  · rw [same]
    exact solid
  · rw [namedSettings, if_neg same]
    exact defaults_documented inside key

theorem named_values_merged (name : Str) (key : Key) :
    mergedSetting (fileItems []) (namedValues name) key = .json (namedSettings name key) := by
  by_cases same : key = .userDomain
  · rw [same]
    rfl
  · have absent : namedValues name key.name = none :=
      if_neg fun other => same (Key.name_injective other)
    rw [merged_absent _ absent, get_file_items .nil, known_default, namedSettings, if_neg same]
    simp [SortedDict.get]

theorem named_values_accepted (inside : InsideHome home (str "cashew/brain.db"))
    (solid : blank name = false) :
    validateConfigValues home (mergedSetting (fileItems []) (namedValues name)) =
      .ok (namedSettings name) := by
  apply validate_config_values_iff.mpr
  intro key
  rw [named_values_merged]
  exact validate_field_documented (named_documented inside solid key)

end

def splitName : Str := [0xd83d, 0xde00]

/-- What `load_config` gives for a key without overrides is what the file has, validated. -/
theorem load_config_setting {python : Python} {home : Home} {file : File} {raw : Items}
    {settings : Key → Value} (read : readExistingConfig python file = .ok raw)
    (loaded : loadConfig python home noOverrides file = .ok ⟨settings⟩) (key : Key) :
    validateField home key (.json (fileSetting raw key)) = .ok (settings key) := by
  have unset : ∀ key, overrideSetting python home noOverrides key (fileSetting raw key) =
      .ok (fileSetting raw key) := fun key => rfl
  rw [load_config_read read, collect_ok_iff.mpr unset] at loaded
  simp only [bind, Except.bind] at loaded
  cases accepted : validateConfigValues home (fun key => .json (fileSetting raw key)) with
  | error error =>
      rw [accepted] at loaded
      cases loaded
  | ok found =>
      rw [accepted] at loaded
      obtain rfl := CashewConfig.mk.inj (Except.ok.inj loaded)
      exact validate_config_values_iff.mp accepted key

/-- A user domain of two surrogates is saved, and it is another name when it is loaded. -/
theorem split_name_is_loaded_as_another :
    ∃ after, saveConfig plainPython plainHome .writes (namedValues splitName) none =
        (.ok (), after) ∧
      validateConfigValues plainHome (mergedSetting (fileItems []) (namedValues splitName)) =
        .ok (namedSettings splitName) ∧
      loadConfig plainPython plainHome noOverrides after ≠ .ok ⟨namedSettings splitName⟩ := by
  have nothing : readExistingConfig plainPython none = .ok [] := rfl
  have accepted := @named_values_accepted plainHome splitName plain_home_inside (by decide)
  refine ⟨_, save_config_written nothing accepted, accepted, ?_⟩
  intro loaded
  have read := read_written (by decide) nothing accepted
  have setting := load_config_setting read loaded .userDomain
  have joined : fileSetting (rereadItems (written [] (namedSettings splitName))) .userDomain =
      .str [0x1f600] := by
    rw [fileSetting, SortedDict.get_update
      (reread_sorted (written_sorted [] (namedSettings splitName))).distinct, get_reread_known]
    rfl
  have documented : Documented plainHome .userDomain (.str [0x1f600]) := by
    change blank [0x1f600] = false
    decide
  have same : namedSettings splitName .userDomain = .str splitName := rfl
  rw [joined, validate_field_documented documented, same] at setting
  cases setting

end HermesCashew.Config
