import HermesCashew.Config

/-!
# What the validation returns and what an override does

`_validate_field` gives back a documented value or raises `ValueError`, unless a helper
raises another class; an override that raises another class ends `load_config`.
-/

namespace HermesCashew.Config

open HermesCashew.JsonDocument
open HermesCashew.JsonText (Str str CodePoint skip)
open HermesCashew.JsonNumber

set_option autoImplicit false

/-! ## Documented values -/

def InsideHome (home : Home) (value : Str) : Prop :=
  value.head? ≠ some slash ∧ ∃ root candidate, home.resolve home.path = .ok root ∧
    home.resolve (root ++ components value) = .ok candidate ∧ root.isPrefixOf candidate = true

/-- The documented type and range of every setting. -/
def Documented (home : Home) : Key → Value → Prop
  | .cashewDbPath, .str value => blank value = false ∧ InsideHome home value
  | .embeddingModel, .str value => blank value = false
  | .embeddingDevice, .str value => blank value = false
  | .userDomain, .str value => blank value = false
  | .aiDomain, .str value => blank value = false
  | .llmAuxRole, .none => True
  | .llmAuxRole, .str _ => True
  | .sleepSchedule, .str _ => True
  | .autoExtraction, .bool _ => True
  | .thinkCycles, .bool _ => True
  | .sleepCycles, .bool _ => True
  | .recallK, .int count => 1 ≤ count ∧ count ≤ 20
  | .thinkInterval, .int count => 0 ≤ count ∧ count ≤ 10000
  | .prefetchK, .int count => 1 ≤ count ∧ count ≤ 20
  | .prefetchCues, .int count => 0 ≤ count ∧ count ≤ 20
  | .sleepMaxNodes, .int count => 1 ≤ count ∧ count ≤ 2000
  | .syncQueueTimeout, .float (.finite value) => withinTimeout value = true
  | .features, .dict items =>
      SortedDict.Sorted items ∧ ∀ entry ∈ items,
        entry.1 ≠ [] ∧ entry.1 ≠ parallelRetrieval ∧ isBool entry.2 = true
  | _, _ => False

/-- A documented value, or a `ValueError`. -/
def Settles (home : Home) (key : Key) (given : Given) : Prop :=
  match validateField home key given with
  | .ok value => Documented home key value
  | .error error => error.isValueError = true

/-- A solid relative path on which `Path.resolve` raises what is not a `ValueError`. -/
def PathRaises (home : Home) (value : Str) : Prop :=
  blank value = false ∧ value.head? ≠ some slash ∧
    match home.resolve home.path with
    | .error valueError => valueError = false
    | .ok root => home.resolve (root ++ components value) = .error false

/-- What the checks have no `ValueError` for. -/
def Escapes (home : Home) : Key → Given → Prop
  | .syncQueueTimeout, .json (.int value) => wholeLimit ≤ value.natAbs
  | .cashewDbPath, .json (.str value) => PathRaises home value
  | _, _ => False

/-! ## One field -/

section

variable {home : Home} {key : Key} {given : Given} {value : Value} {error : Error}

theorem resolve_db_path_relative {text : Str} (relative : text.head? ≠ some slash) :
    resolveDbPath home text =
      match home.resolve home.path with
      | .error valueError => .error (.unresolved valueError)
      | .ok root =>
          match home.resolve (root ++ components text) with
          | .error valueError => .error (.unresolved valueError)
          | .ok candidate =>
              if root.isPrefixOf candidate then .ok candidate else .error (.outsideHome text) := by
  rw [resolveDbPath, if_neg relative]
  simp only [Home.resolved, bind, Except.bind]
  cases home.resolve home.path with
  | error valueError => rfl
  | ok root =>
      simp only [Except.mapError]
      cases home.resolve (root ++ components text) <;> rfl

theorem resolve_db_path_ok {text : Str} {candidate : Path}
    (resolved : resolveDbPath home text = .ok candidate) : InsideHome home text := by
  by_cases relative : text.head? = some slash
  · rw [resolveDbPath, if_pos relative] at resolved
    cases resolved
  · rw [resolve_db_path_relative relative] at resolved
    split at resolved
    · cases resolved
    · rename_i root atHome
      split at resolved
      · cases resolved
      · rename_i found below
        split at resolved
        · rename_i inside
          exact ⟨relative, root, found, atHome, below, inside⟩
        · cases resolved

theorem resolve_db_path_inside {text : Str} (inside : InsideHome home text) :
    ∃ candidate, resolveDbPath home text = .ok candidate := by
  obtain ⟨relative, root, candidate, atHome, below, within_⟩ := inside
  refine ⟨candidate, ?_⟩
  simp only [resolve_db_path_relative relative, atHome, below, within_, if_true]

/-- The path check raises a `ValueError`, or what `Path.resolve` raised. -/
theorem resolve_db_path_error {text : Str} (solid : blank text = false)
    (failed : resolveDbPath home text = .error error) :
    error.isValueError = true ∧ ¬ PathRaises home text ∨
      error = .unresolved false ∧ PathRaises home text := by
  by_cases relative : text.head? = some slash
  · rw [resolveDbPath, if_pos relative] at failed
    obtain rfl := Except.error.inj failed
    exact .inl ⟨rfl, fun raises => raises.2.1 relative⟩
  rw [resolve_db_path_relative relative] at failed
  unfold PathRaises
  split at failed
  · rename_i valueError atHome
    obtain rfl := Except.error.inj failed
    cases valueError with
    | true => exact .inl ⟨rfl, by simp⟩
    | false => exact .inr ⟨rfl, solid, relative, rfl⟩
  · rename_i root atHome
    split at failed
    · rename_i valueError below
      obtain rfl := Except.error.inj failed
      cases valueError with
      | true => exact .inl ⟨rfl, by simp [below]⟩
      | false => exact .inr ⟨rfl, solid, relative, below⟩
    · rename_i found below
      split at failed
      · cases failed
      · obtain rfl := Except.error.inj failed
        exact .inl ⟨rfl, by simp [below]⟩

theorem path_raises_unresolved {text : Str} (raises : PathRaises home text) :
    resolveDbPath home text = .error (.unresolved false) := by
  obtain ⟨-, relative, failed⟩ := raises
  rw [resolve_db_path_relative relative]
  split at failed
  · rw [failed]
  · simp only [failed]

theorem validate_nonempty_string_cases (key : Key) (given : Given) :
    (∃ text, given = .json (.str text) ∧ blank text = false ∧
        validateNonemptyString key given = .ok text) ∨
      (∀ text, given = .json (.str text) → blank text = true) ∧
        ∃ expectation,
          validateNonemptyString key given = .error (.invalidValue key expectation) := by
  unfold validateNonemptyString
  split
  · rename_i text
    cases solid : blank text with
    | false => exact .inl ⟨text, rfl, solid, rfl⟩
    | true =>
        refine .inr ⟨?_, _, rfl⟩
        intro other same
        cases same
        exact solid
  · rename_i other
    exact .inr ⟨fun text same => absurd same (other text), _, rfl⟩

/-- How a check may end for a setting. -/
def Ends (home : Home) (key : Key) (given : Given) : Except Error Value → Prop
  | .ok value => Documented home key value ∧ ¬ Escapes home key given
  | .error error =>
      error.isValueError = true ∧ ¬ Escapes home key given ∨
        (key = .cashewDbPath ∧ error = .unresolved false ∨
          key = .syncQueueTimeout ∧ error = .overflow) ∧ Escapes home key given

theorem escapes_path (escapes : Escapes home .cashewDbPath given) :
    ∃ text, given = .json (.str text) ∧ PathRaises home text := by
  unfold Escapes at escapes
  split at escapes
  · contradiction
  · exact ⟨_, rfl, escapes⟩
  · exact absurd escapes id

theorem db_path_ends : Ends home .cashewDbPath given (validateField home .cashewDbPath given) := by
  rcases validate_nonempty_string_cases .cashewDbPath given with
    ⟨text, rfl, solid, accepted⟩ | ⟨no_text, expectation, refused⟩
  · simp only [validateField, accepted, bind, Except.bind]
    cases located : resolveDbPath home text with
    | ok candidate =>
        refine ⟨⟨solid, resolve_db_path_ok located⟩, ?_⟩
        intro raises
        rw [path_raises_unresolved raises] at located
        cases located
    | error error =>
        rcases resolve_db_path_error solid located with ⟨caught, calm⟩ | ⟨rfl, raises⟩
        · exact .inl ⟨caught, calm⟩
        · exact .inr ⟨.inl ⟨rfl, rfl⟩, raises⟩
  · simp only [validateField, refused, bind, Except.bind]
    refine .inl ⟨rfl, ?_⟩
    intro escapes
    obtain ⟨text, same, raises⟩ := escapes_path escapes
    exact absurd (no_text text same) (Bool.eq_false_iff.mp raises.1)

theorem timeout_ends :
    Ends home .syncQueueTimeout given (validateField home .syncQueueTimeout given) := by
  simp only [validateField]
  unfold validateTimeout
  split
  · rename_i whole
    rcases Nat.lt_or_ge whole.natAbs wholeLimit with small | large
    · obtain ⟨timeout, finite⟩ := of_int_finite small
      have calm : ¬ wholeLimit ≤ whole.natAbs := Nat.not_le.mpr small
      rw [finite, if_neg (by simp [isFinite])]
      split
      · rename_i inside
        obtain ⟨other, same, within_⟩ := validate_timeout_whole inside.1 inside.2
        rw [finite] at same
        cases same
        exact ⟨within_, calm⟩
      · exact .inl ⟨rfl, calm⟩
    · have raised : isFinite (ofInt whole) = false := by rw [of_int_infinite large]; rfl
      rw [if_pos raised]
      exact .inr ⟨.inr ⟨rfl, rfl⟩, large⟩
  · split
    · rename_i within_
      exact ⟨within_, id⟩
    · exact .inl ⟨rfl, id⟩
  · rename_i no_whole no_finite
    refine .inl ⟨rfl, ?_⟩
    intro escapes
    unfold Escapes at escapes
    split at escapes
    · exact no_whole _ rfl
    · contradiction
    · exact escapes

theorem count_ends (calm : ¬ Escapes home key given)
    (documented : ∀ count, (countRange key).1 ≤ count → count ≤ (countRange key).2 →
      Documented home key (.int count)) :
    Ends home key given (validateCount key given) := by
  unfold validateCount
  split
  · split
    · rename_i inside
      exact ⟨documented _ inside.1 inside.2, calm⟩
    · exact .inl ⟨rfl, calm⟩
  · exact .inl ⟨rfl, calm⟩

theorem text_ends (calm : ¬ Escapes home key given)
    (documented : ∀ text, blank text = false → Documented home key (.str text)) :
    Ends home key given ((validateNonemptyString key given).map Value.str) := by
  rcases validate_nonempty_string_cases key given with
    ⟨text, rfl, solid, accepted⟩ | ⟨-, expectation, refused⟩
  · rw [accepted]
    exact ⟨documented text solid, calm⟩
  · rw [refused]
    exact .inl ⟨rfl, calm⟩

theorem features_ends : Ends home .features given (validateField home .features given) := by
  simp only [validateField]
  unfold validateFeatures
  split
  · rename_i items
    split
    · exact .inl ⟨rfl, id⟩
    · rename_i named
      split
      · exact .inl ⟨rfl, id⟩
      · rename_i flags
        refine ⟨⟨SortedDict.sorted_of_entries _, ?_⟩, id⟩
        intro entry member
        have kept := List.mem_filter.mp (SortedDict.mem_of_entries member)
        simp only [List.any_eq_true, not_exists, not_and, decide_eq_true_eq, Bool.not_eq_true',
          Bool.not_eq_false] at named flags
        exact ⟨named entry kept.1, of_decide_eq_true kept.2, flags entry kept.1⟩
  · exact .inl ⟨rfl, id⟩
  · exact .inl ⟨rfl, id⟩
  · exact .inl ⟨rfl, id⟩

theorem field_ends : Ends home key given (validateField home key given) := by
  cases key with
  | cashewDbPath => exact db_path_ends
  | syncQueueTimeout => exact timeout_ends
  | features => exact features_ends
  | embeddingModel | embeddingDevice | userDomain | aiDomain =>
      exact text_ends id fun _ solid => solid
  | recallK | thinkInterval | prefetchK | prefetchCues | sleepMaxNodes =>
      exact count_ends id fun _ lower upper => ⟨lower, upper⟩
  | llmAuxRole =>
      simp only [validateField]
      split
      · exact ⟨trivial, id⟩
      · exact ⟨trivial, id⟩
      · exact .inl ⟨rfl, id⟩
  | sleepSchedule | autoExtraction | thinkCycles | sleepCycles =>
      simp only [validateField]
      split
      · exact ⟨trivial, id⟩
      · exact .inl ⟨rfl, id⟩

theorem settles_iff : Settles home key given ↔ ¬ Escapes home key given := by
  have ends : Ends home key given (validateField home key given) := field_ends
  unfold Settles
  cases outcome : validateField home key given with
  | ok value =>
      rw [outcome] at ends
      exact ⟨fun _ => ends.2, fun _ => ends.1⟩
  | error error =>
      rw [outcome] at ends
      rcases ends with ⟨caught, calm⟩ | ⟨⟨-, rfl⟩ | ⟨-, rfl⟩, escapes⟩
      · exact ⟨fun _ => calm, fun _ => caught⟩
      · exact ⟨nofun, fun calm => absurd escapes calm⟩
      · exact ⟨nofun, fun calm => absurd escapes calm⟩

theorem nonempty_string_documented {text : Str} (solid : blank text = false) :
    validateNonemptyString key (.json (.str text)) = .ok text := by
  rw [validateNonemptyString, solid]
  rfl

theorem features_documented {items : List (Str × Value)} (sorted : SortedDict.Sorted items)
    (flags : ∀ entry ∈ items,
      entry.1 ≠ [] ∧ entry.1 ≠ parallelRetrieval ∧ isBool entry.2 = true) :
    validateFeatures (.json (.dict items)) = .ok (.dict items) := by
  have named : (items.any fun entry => entry.1 = []) = false := by
    apply List.any_eq_false.mpr
    intro entry member empty
    exact (flags entry member).1 (of_decide_eq_true empty)
  have bools : (items.any fun entry => !isBool entry.2) = false := by
    apply List.any_eq_false.mpr
    intro entry member
    rw [(flags entry member).2.2]
    exact nofun
  have kept : (items.filter fun entry => entry.1 ≠ parallelRetrieval) = items := by
    apply List.filter_eq_self.mpr
    intro entry member
    exact decide_eq_true (flags entry member).2.1
  rw [validateFeatures, named, bools, kept, SortedDict.of_entries_sorted sorted]
  rfl

/-- A documented value is accepted as it is. -/
theorem validate_field_documented (documented : Documented home key value) :
    validateField home key (.json value) = .ok value := by
  cases key with
  | cashewDbPath =>
      cases value with
      | str text =>
          obtain ⟨solid, inside⟩ := documented
          obtain ⟨candidate, located⟩ := resolve_db_path_inside inside
          simp only [validateField, nonempty_string_documented solid, located, bind, Except.bind]
      | _ => exact absurd documented id
  | embeddingModel | embeddingDevice | userDomain | aiDomain =>
      cases value with
      | str text =>
          rw [validateField, nonempty_string_documented documented]
          rfl
      | _ => exact absurd documented id
  | recallK | thinkInterval | prefetchK | prefetchCues | sleepMaxNodes =>
      cases value with
      | int count => exact if_pos documented
      | _ => exact absurd documented id
  | syncQueueTimeout =>
      cases value with
      | float timeout =>
          cases timeout with
          | finite timeout => exact if_pos documented
          | _ => exact absurd documented id
      | _ => exact absurd documented id
  | features =>
      cases value with
      | dict items => exact features_documented documented.1 documented.2
      | _ => exact absurd documented id
  | llmAuxRole | sleepSchedule | autoExtraction | thinkCycles | sleepCycles =>
      cases value with
      | none | str | bool => first | rfl | exact absurd documented id
      | _ => exact absurd documented id

theorem validate_field_again (accepted : validateField home key given = .ok value) :
    validateField home key (.json value) = .ok value := by
  have ends : Ends home key given (validateField home key given) := field_ends
  rw [accepted] at ends
  exact validate_field_documented ends.1

end

/-! ## Overrides -/

/-- A setting of `cashew.json`, or its default. -/
def fileSetting (raw : Items) (key : Key) : Value :=
  (SortedDict.get key.name (SortedDict.update defaultItems raw)).getD .none

def validOverrides (python : Python) (home : Home) (environ : Environ) : Environ := fun name =>
  (environ name).filter fun text =>
    Key.all.all fun key => envVarName key ≠ name || (overrideValue python home key text).isOk

def effectiveSetting (python : Python) (home : Home) (environ : Environ) (raw : Items) (key : Key) :
    Except Error Value :=
  match (environ (envVarName key)).bind fun text => (overrideValue python home key text).toOption with
  | some value => .ok value
  | none => validateField home key (.json (fileSetting raw key))

def effectiveConfig (python : Python) (home : Home) (environ : Environ) (file : File) :
    Except Error CashewConfig := do
  let raw ← readExistingConfig python file
  let settings ← collect (effectiveSetting python home environ raw)
  .ok ⟨settings⟩

/-- Invalid overrides count as unset, and valid ones replace what the file says. -/
structure OverridesSafe (python : Python) (home : Home) (environ : Environ) (file : File) :
    Prop where
  unset : loadConfig python home environ file =
    loadConfig python home (validOverrides python home environ) file
  replaces : loadConfig python home (validOverrides python home environ) file =
    effectiveConfig python home environ file

/-- The override of the database path leads to where `Path.resolve` raises. -/
def PathOverrideRaises (home : Home) (environ : Environ) : Prop :=
  ∃ text, environ "CASHEW_DB_PATH" = some text ∧ PathRaises home text

/-- The override of the feature flags is nested too deeply. -/
def FeaturesOverrideRaises (python : Python) (environ : Environ) : Prop :=
  ∃ text, environ "CASHEW__FEATURES" = some text ∧ loadsText python text = .error .recursion

/-- The file's own database path leads to where `Path.resolve` raises. -/
def FilePathRaises (home : Home) (raw : Items) : Prop :=
  ∃ text, fileSetting raw .cashewDbPath = .str text ∧ PathRaises home text

theorem env_var_name_injective : Function.Injective envVarName := by
  have apart : ∀ first ∈ Key.all, ∀ second ∈ Key.all,
      envVarName first = envVarName second → first = second := by
    decide +kernel
  intro first second
  exact apart first first.mem_all second second.mem_all

section

variable {python : Python} {home : Home} {environ : Environ} {raw : Items} {key : Key}

/-- An override that raises what `load_config` does not catch. -/
def Foreign (python : Python) (home : Home) (environ : Environ) (key : Key) (error : Error) : Prop :=
  ∃ text, environ (envVarName key) = some text ∧ overrideValue python home key text = .error error ∧
    error.isValueError = false

def overridden (python : Python) (home : Home) (environ : Environ) (raw : Items) (key : Key) :
    Value :=
  ((environ (envVarName key)).bind fun text =>
    (overrideValue python home key text).toOption).getD (fileSetting raw key)

theorem valid_overrides_apply :
    validOverrides python home environ (envVarName key) =
      (environ (envVarName key)).filter fun text => (overrideValue python home key text).isOk := by
  unfold validOverrides
  congr 1
  funext text
  apply Bool.eq_iff_iff.mpr
  rw [List.all_eq_true]
  constructor
  · intro every
    have here := every key key.mem_all
    simpa using here
  · intro valid other _
    by_cases same : envVarName other = envVarName key
    · rw [env_var_name_injective same, valid, Bool.or_true]
    · rw [decide_eq_true same]
      rfl

theorem override_setting_valid :
    overrideSetting python home (validOverrides python home environ) key (fileSetting raw key) =
      .ok (overridden python home environ raw key) := by
  rw [overrideSetting, valid_overrides_apply, overridden]
  cases environ (envVarName key) with
  | none => rfl
  | some text =>
      cases outcome : overrideValue python home key text with
      | ok value => simp [Option.filter, outcome, Except.isOk, Except.toBool, Except.toOption]
      | error error => simp [Option.filter, outcome, Except.isOk, Except.toBool, Except.toOption]

theorem override_setting_calm (calm : ∀ error, ¬ Foreign python home environ key error) :
    overrideSetting python home environ key (fileSetting raw key) =
      .ok (overridden python home environ raw key) := by
  rw [overrideSetting, overridden]
  cases given : environ (envVarName key) with
  | none => rfl
  | some text =>
      cases outcome : overrideValue python home key text with
      | ok value => simp [outcome, Except.toOption]
      | error error =>
          have caught : error.isValueError = true := by
            by_contra escaped
            exact calm error ⟨text, given, outcome, Bool.eq_false_iff.mpr escaped⟩
          simp [outcome, caught, Except.toOption]

theorem override_setting_error {current : Value} {error : Error} :
    overrideSetting python home environ key current = .error error ↔
      Foreign python home environ key error := by
  unfold overrideSetting
  constructor
  · intro failed
    split at failed
    · cases failed
    · rename_i text given
      split at failed
      · cases failed
      · rename_i raised outcome
        split at failed
        · cases failed
        · rename_i escaped
          obtain rfl := Except.error.inj failed
          exact ⟨text, given, outcome, Bool.eq_false_iff.mpr escaped⟩
  · rintro ⟨text, given, outcome, escaped⟩
    simp [given, outcome, escaped]

theorem field_escapes {given : Given} {error : Error}
    (failed : validateField home key given = .error error) (escaped : error.isValueError = false) :
    (key = .cashewDbPath ∧ error = .unresolved false ∨
      key = .syncQueueTimeout ∧ error = .overflow) ∧ Escapes home key given := by
  have ends : Ends home key given (validateField home key given) := field_ends
  rw [failed] at ends
  rcases ends with ⟨caught, -⟩ | found
  · rw [escaped] at caught
    cases caught
  · exact found

theorem coerce_escapes {text : Str} {error : Error}
    (failed : coerceEnvironmentValue python key text = .error error)
    (escaped : error.isValueError = false) :
    key = .features ∧ error = .notJson .recursion ∧ loadsText python text = .error .recursion := by
  cases key with
  | autoExtraction | thinkCycles | sleepCycles =>
      simp only [coerceEnvironmentValue] at failed
      split at failed
      · cases failed
      · split at failed
        · cases failed
        · obtain rfl := Except.error.inj failed
          cases escaped
  | recallK | thinkInterval | prefetchK | prefetchCues | sleepMaxNodes =>
      simp only [coerceEnvironmentValue] at failed
      split at failed
      · cases failed
      · obtain rfl := Except.error.inj failed
        cases escaped
  | syncQueueTimeout =>
      simp only [coerceEnvironmentValue] at failed
      split at failed
      · cases failed
      · obtain rfl := Except.error.inj failed
        cases escaped
  | features =>
      simp only [coerceEnvironmentValue] at failed
      split at failed
      · cases failed
      · obtain rfl := Except.error.inj failed
        cases escaped
      · rename_i failure parsed
        obtain rfl := Except.error.inj failed
        cases failure with
        | recursion => exact ⟨rfl, rfl, parsed⟩
        | _ => cases escaped
  | _ => cases failed

theorem coerce_timeout {text : Str} {given : Given}
    (parsed : coerceEnvironmentValue python .syncQueueTimeout text = .ok given) :
    ∃ timeout, given = .json (.float timeout) := by
  simp only [coerceEnvironmentValue] at parsed
  split at parsed
  · exact ⟨_, (Except.ok.inj parsed).symm⟩
  · cases parsed

theorem foreign_iff {error : Error} :
    Foreign python home environ key error ↔
      key = .cashewDbPath ∧ error = .unresolved false ∧ PathOverrideRaises home environ ∨
        key = .features ∧ error = .notJson .recursion ∧ FeaturesOverrideRaises python environ := by
  have path_name : envVarName .cashewDbPath = "CASHEW_DB_PATH" := by decide +kernel
  have features_name : envVarName .features = "CASHEW__FEATURES" := by decide +kernel
  constructor
  · rintro ⟨text, given, outcome, escaped⟩
    simp only [overrideValue, bind, Except.bind] at outcome
    split at outcome
    · rename_i failed
      obtain rfl := Except.error.inj outcome
      obtain ⟨rfl, rfl, deep⟩ := coerce_escapes failed escaped
      rw [features_name] at given
      exact .inr ⟨rfl, rfl, text, given, deep⟩
    · rename_i candidate parsed
      obtain ⟨⟨rfl, rfl⟩ | ⟨rfl, rfl⟩, raises⟩ := field_escapes outcome escaped
      · rw [path_name] at given
        cases parsed
        exact .inl ⟨rfl, rfl, text, given, raises⟩
      · obtain ⟨timeout, rfl⟩ := coerce_timeout parsed
        exact absurd raises id
  · rintro (⟨rfl, rfl, text, given, raises⟩ | ⟨rfl, rfl, text, given, deep⟩)
    · refine ⟨text, path_name ▸ given, ?_, rfl⟩
      simp only [overrideValue, coerceEnvironmentValue, validateField, bind, Except.bind,
        nonempty_string_documented raises.1, path_raises_unresolved raises]
    · refine ⟨text, features_name ▸ given, ?_, rfl⟩
      simp only [overrideValue, coerceEnvironmentValue, deep, bind, Except.bind]

theorem effective_setting_validated :
    effectiveSetting python home environ raw key =
      validateField home key (.json (overridden python home environ raw key)) := by
  unfold effectiveSetting overridden
  cases environ (envVarName key) with
  | none => rfl
  | some text =>
      cases outcome : overrideValue python home key text with
      | error error => simp [outcome, Except.toOption]
      | ok value =>
          have again : validateField home key (.json value) = .ok value := by
            simp only [overrideValue, bind, Except.bind] at outcome
            split at outcome
            · cases outcome
            · exact validate_field_again outcome
          simp [outcome, Except.toOption, again]

theorem collect_error {compute : Key → Except Error Value} {error : Error}
    (failed : collect compute = .error error) : ∃ key, compute key = .error error := by
  unfold collect at failed
  split at failed
  · rename_i found first
    obtain rfl := Except.error.inj failed
    obtain ⟨key, -, raised⟩ := List.exists_of_findSome?_eq_some first
    refine ⟨key, ?_⟩
    cases outcome : compute key with
    | ok value =>
        rw [outcome] at raised
        cases raised
    | error error =>
        rw [outcome] at raised
        rw [Option.some.inj raised]
  · cases failed

theorem collect_first {compute : Key → Except Error Value} {error : Error}
    (failed : compute .cashewDbPath = .error error) : collect compute = .error error := by
  simp [collect, Key.all, failure, failed]

theorem load_config_read {file : File} (read : readExistingConfig python file = .ok raw) :
    loadConfig python home environ file =
      (collect fun key => overrideSetting python home environ key (fileSetting raw key)) >>=
        fun known =>
          (validateConfigValues home fun key => .json (known key)).map CashewConfig.mk := by
  rw [loadConfig, read]
  rfl

theorem effective_config_read {file : File} (read : readExistingConfig python file = .ok raw) :
    effectiveConfig python home environ file =
      (collect (effectiveSetting python home environ raw)).map CashewConfig.mk := by
  rw [effectiveConfig, read]
  rfl

theorem load_config_overridden {taken : Environ} {file : File}
    (read : readExistingConfig python file = .ok raw)
    (known : ∀ key, overrideSetting python home taken key (fileSetting raw key) =
      .ok (overridden python home environ raw key)) :
    loadConfig python home taken file = effectiveConfig python home environ file := by
  have validated : effectiveSetting python home environ raw = fun key =>
      validateField home key (.json (overridden python home environ raw key)) := by
    funext key
    exact effective_setting_validated
  rw [load_config_read read, collect_ok_iff.mpr known, effective_config_read read, validated]
  rfl

theorem load_config_valid (file : File) :
    loadConfig python home (validOverrides python home environ) file =
      effectiveConfig python home environ file := by
  cases read : readExistingConfig python file with
  | ok raw => exact load_config_overridden read fun key => override_setting_valid
  | error error =>
      rw [loadConfig, effectiveConfig, read]
      rfl

theorem load_config_escapes {file : File} {error : Error}
    (read : readExistingConfig python file = .ok raw)
    (failed : (collect fun key => overrideSetting python home environ key (fileSetting raw key)) =
      .error error) :
    loadConfig python home environ file = .error error := by
  rw [load_config_read read, failed]
  rfl

/-- The file's settings raise nothing but a `ValueError` and what `Path.resolve` raises. -/
theorem effective_config_escapes {file : File} {error : Error}
    (read : readExistingConfig python file = .ok raw) (escaped : error.isValueError = false)
    (failed : effectiveConfig python home environ file = .error error) :
    ∃ key, ((key = .cashewDbPath ∧ error = .unresolved false ∨
        key = .syncQueueTimeout ∧ error = .overflow) ∧
      Escapes home key (.json (overridden python home environ raw key))) := by
  rw [effective_config_read read] at failed
  cases collected : collect (effectiveSetting python home environ raw) with
  | ok settings =>
      rw [collected] at failed
      cases failed
  | error other =>
      rw [collected] at failed
      obtain rfl := Except.error.inj failed
      obtain ⟨key, raised⟩ := collect_error collected
      rw [effective_setting_validated] at raised
      exact ⟨key, field_escapes raised escaped⟩

theorem overridden_foreign {error : Error} (foreign : Foreign python home environ key error) :
    overridden python home environ raw key = fileSetting raw key := by
  obtain ⟨text, given, outcome, -⟩ := foreign
  simp [overridden, given, outcome, Except.toOption]

theorem path_override_escapes {file : File} (read : readExistingConfig python file = .ok raw)
    (raises : PathOverrideRaises home environ) :
    loadConfig python home environ file = effectiveConfig python home environ file ↔
      FilePathRaises home raw := by
  have foreign : Foreign python home environ .cashewDbPath (.unresolved false) :=
    foreign_iff.mpr (.inl ⟨rfl, rfl, raises⟩)
  have kept : overridden python home environ raw .cashewDbPath = fileSetting raw .cashewDbPath :=
    overridden_foreign foreign
  rw [load_config_escapes read (collect_first (override_setting_error.mpr foreign))]
  constructor
  · intro same
    obtain ⟨key, ⟨rfl, -⟩ | ⟨-, other⟩, escapes⟩ := effective_config_escapes read rfl same.symm
    · rw [kept] at escapes
      obtain ⟨text, setting, below⟩ := escapes_path escapes
      exact ⟨text, Given.json.inj setting, below⟩
    · cases other
  · rintro ⟨text, setting, below⟩
    have failed : effectiveSetting python home environ raw .cashewDbPath =
        .error (.unresolved false) := by
      rw [effective_setting_validated, kept, setting]
      simp only [validateField, nonempty_string_documented below.1, path_raises_unresolved below,
        bind, Except.bind]
    rw [effective_config_read read, collect_first failed]
    rfl

theorem features_override_escapes {file : File} (read : readExistingConfig python file = .ok raw)
    (path_calm : ¬ PathOverrideRaises home environ) (deep : FeaturesOverrideRaises python environ) :
    loadConfig python home environ file ≠ effectiveConfig python home environ file := by
  cases known : collect fun key => overrideSetting python home environ key (fileSetting raw key) with
  | ok settings =>
      have foreign : Foreign python home environ .features (.notJson .recursion) :=
        foreign_iff.mpr (.inr ⟨rfl, rfl, deep⟩)
      have fine := collect_ok_iff.mp known .features
      rw [override_setting_error.mpr foreign] at fine
      cases fine
  | error error =>
      obtain ⟨key, raised⟩ := collect_error known
      rcases foreign_iff.mp (override_setting_error.mp raised) with
        ⟨-, -, raises⟩ | ⟨-, rfl, -⟩
      · exact absurd raises path_calm
      · rw [load_config_escapes read known]
        intro same
        obtain ⟨key, ⟨-, other⟩ | ⟨-, other⟩, -⟩ := effective_config_escapes read rfl same.symm
        · cases other
        · cases other

theorem load_config_effective_iff {file : File} (read : readExistingConfig python file = .ok raw) :
    loadConfig python home environ file = effectiveConfig python home environ file ↔
      (PathOverrideRaises home environ → FilePathRaises home raw) ∧
        (FeaturesOverrideRaises python environ → PathOverrideRaises home environ) := by
  by_cases raises : PathOverrideRaises home environ
  · rw [path_override_escapes read raises]
    exact ⟨fun below => ⟨fun _ => below, fun _ => raises⟩, fun both => both.1 raises⟩
  · by_cases deep : FeaturesOverrideRaises python environ
    · constructor
      · intro same
        exact absurd same (features_override_escapes read raises deep)
      · rintro ⟨-, covered⟩
        exact absurd (covered deep) raises
    · refine ⟨fun _ => ⟨fun some_raises => absurd some_raises raises,
        fun some_deep => absurd some_deep deep⟩, fun _ => ?_⟩
      apply load_config_overridden read
      intro key
      apply override_setting_calm
      intro error foreign
      rcases foreign_iff.mp foreign with ⟨-, -, some_raises⟩ | ⟨-, -, some_deep⟩
      · exact raises some_raises
      · exact deep some_deep

/-- The validation settles every field but a timeout of an integer too large for a float and a
path that cannot be resolved. The overrides are safe but where one of them leads to such a path,
or is nested too deeply, and the file does not fail in the same way. -/
theorem configuration_settles_iff (python : Python) (home : Home) :
    (∀ key given, Settles home key given ↔ ¬ Escapes home key given) ∧
      ∀ environ file, OverridesSafe python home environ file ↔
        ∀ raw, readExistingConfig python file = .ok raw →
          (PathOverrideRaises home environ → FilePathRaises home raw) ∧
            (FeaturesOverrideRaises python environ → PathOverrideRaises home environ) := by
  refine ⟨fun key given => settles_iff, fun environ file => ?_⟩
  cases read : readExistingConfig python file with
  | error error =>
      constructor
      · intro _ raw parsed
        cases parsed
      · intro _
        refine ⟨?_, load_config_valid file⟩
        rw [loadConfig, loadConfig, read]
        rfl
  | ok raw =>
      have effective := @load_config_effective_iff python home environ raw file read
      constructor
      · rintro ⟨unset, replaces⟩ other same
        obtain rfl := Except.ok.inj same
        exact effective.mp (unset.trans replaces)
      · intro covered
        have replaces := @load_config_valid python home environ file
        exact ⟨(effective.mpr (covered raw rfl)).trans replaces.symm, replaces⟩

end

/-! ## Where they fail -/

theorem large_timeout_escapes {home : Home} {value : Int} (large : wholeLimit ≤ value.natAbs) :
    ¬ Settles home .syncQueueTimeout (.json (.int value)) := by
  intro settles
  exact settles_iff.mp settles large

theorem read_nested {depth fuel : Nat} {rest : List Char} {raised : Failure}
    (failed : JsonDocument.read depth fuel ('[' :: rest) = .error raised) :
    JsonDocument.read (depth + 1) (fuel + 1) ('[' :: '[' :: rest) = .error raised := by
  have solid : skip ('[' :: '[' :: rest) = '[' :: '[' :: rest := rfl
  have inner : skip ('[' :: rest) = '[' :: rest := rfl
  unfold JsonDocument.read
  rw [solid]
  simp only [Char.reduceEq, if_false, if_true, Nat.succ_ne_zero, inner, Nat.add_sub_cancel, failed,
    bind, Except.bind]
  rfl

/-- Arrays inside each other, one more than there is room for. -/
theorem read_too_deep (depth fuel : Nat) (rest : List Char) :
    JsonDocument.read depth (depth + fuel + 1) ('[' :: (List.replicate depth '[' ++ rest)) =
      .error .recursion := by
  induction depth with
  | zero =>
      rw [Nat.zero_add]
      rfl
  | succ depth induction =>
      rw [Nat.add_right_comm depth 1 fuel]
      exact read_nested induction

def bracket : CodePoint := 0x5b

def deepFlags (python : Python) : Str :=
  List.replicate (python.nesting + 1) bracket

theorem loads_text_deep (python : Python) :
    loadsText python (deepFlags python) = .error .recursion := by
  have plain : (deepFlags python).any isSurrogate = false := by
    rw [List.any_eq_false]
    intro point member
    rw [List.eq_of_mem_replicate member]
    decide
  have chars : plainChars (deepFlags python) = '[' :: List.replicate python.nesting '[' := by
    rw [plainChars, deepFlags, List.map_replicate]
    rfl
  have failed := read_too_deep python.nesting 1 []
  rw [List.append_nil] at failed
  rw [loadsText, plain, chars]
  simp only [Bool.false_eq_true, if_false, loads, readWhole, List.length_cons,
    List.length_replicate, failed, bind, Except.bind, Except.map]

def plainPython : Python :=
  ⟨1000, fun _ => none, fun _ => .error .decode⟩

def plainHome : Home :=
  ⟨[str "home"], .ok⟩

def deepEnviron : Environ := fun name =>
  if name = "CASHEW__FEATURES" then some (deepFlags plainPython) else none

/-- A timeout of `(2 ** 54 - 1) * 2 ** 970`, and 1001 brackets as the feature flags. -/
theorem large_timeout_and_deep_flags_escape :
    ¬ Settles plainHome .syncQueueTimeout (.json (.int wholeLimit)) ∧
      ¬ OverridesSafe plainPython plainHome deepEnviron none := by
  constructor
  · have large : wholeLimit ≤ (wholeLimit : Int).natAbs := by rw [Int.natAbs_natCast]
    exact large_timeout_escapes large
  · have path_calm : ¬ PathOverrideRaises plainHome deepEnviron := by
      rintro ⟨text, given, -⟩
      cases given
    have deep : FeaturesOverrideRaises plainPython deepEnviron :=
      ⟨deepFlags plainPython, rfl, loads_text_deep plainPython⟩
    have read : readExistingConfig plainPython none = .ok [] := rfl
    intro safe
    exact features_override_escapes read path_calm deep (safe.unset.trans safe.replaces)

end HermesCashew.Config
