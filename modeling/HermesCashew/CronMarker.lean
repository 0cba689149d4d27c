import HermesCashew.ConfigSaving

/-!
# The marker of the cron script

Registration writes the home, the installation and the whole configuration into the script
that it generates. The script checks them with code of its own when it runs, and takes its
configuration from there; it reads neither `cashew.json` nor a `CASHEW_*` variable.
-/

namespace HermesCashew.CronMarker

open HermesCashew.Config
open HermesCashew.JsonDocument
open HermesCashew.JsonText (CodePoint Str str units)
open HermesCashew.JsonNumber

set_option autoImplicit false

/-! ## Markers -/

/-- What a Python literal has under a key: `None` where there is none. -/
inductive Field where
  | json (value : Value)
  | object (hashable : Bool)

/-- What is under `config`: a `dict` with strings for its keys, another `dict`, or no `dict`. -/
inductive Snapshot where
  | dict (entries : List (Str × Given)) (sorted : SortedDict.Sorted entries)
  | mapping
  | object

structure Marker where
  version : Field
  kind : Field
  anchor : Field
  implementation : Field
  profileId : Field
  configId : Field
  config : Snapshot

namespace Field

/-- `field == text`. -/
def isText (text : Str) : Field → Bool
  | .json (.str value) => value = text
  | _ => false

/-- `field == 2`. -/
def isTwo : Field → Bool
  | .json (.int value) => value = 2
  | .json (.float value) => value = ofInt 2
  | _ => false

def hashable : Field → Bool
  | .json (.list _) | .json (.dict _) => false
  | .json _ => true
  | .object hashable => hashable

end Field

/-- The interpreter and the file system at the time of the job: the first 16 digits of a SHA-256,
`json.dumps` of what no JSON object stands for (`none` for a `TypeError`), and the `repr` of a
marker with its evaluation (`none` when it is no `dict`). -/
structure Machine where
  digest : List Char → Str
  dumpsOther : Snapshot → Option (List Char)
  cwd : Path
  isFile : Path → Bool
  /-- The two modules of the package are imported. -/
  imports : Path → Bool
  repr : Marker → List Char
  evaluate : List Char → Option Marker

def Machine.TellsApart (machine : Machine) (first second : List Char) : Prop :=
  machine.digest first = machine.digest second → first = second

inductive Error where
  | runtimeError (message : String)
  | valueError (message : String)
  /-- What `Path.resolve` raises. -/
  | unresolved (valueError : Bool)
  | unicodeEncodeError
  | typeError
  | invalid (error : Config.Error)

def ensure (holds : Bool) (error : Error) : Except Error Unit :=
  if holds then .ok () else .error error

/-! ## Paths -/

/-- `str(path)` of an absolute path. -/
def pathText (path : Path) : Str :=
  slash :: [slash].intercalate path

/-- `Path(text)`, with the working directory for a relative one. -/
def pathOf (cwd : Path) (text : Str) : Path :=
  if text.head? = some slash then components text else cwd ++ components text

def resolved (home : Home) (path : Path) : Except Error Path :=
  (home.resolve path).mapError Error.unresolved

/-- `text.encode("utf-8")`, as the characters that are encoded. -/
def encodeUtf8 (text : Str) : Except Error (List Char) :=
  if text.any isSurrogate then .error .unicodeEncodeError else .ok (plainChars text)

/-- `str(hermes_home.resolve()).encode("utf-8")`. -/
def profileText (home : Home) : Except Error (List Char) := do
  let path ← resolved home home.path
  encodeUtf8 (pathText path)

inductive Kind where
  | flat
  | development
  deriving DecidableEq, Repr

namespace Kind

def name : Kind → Str
  | .flat => str "flat"
  | .development => str "development"

def anchor : Kind → Str
  | .flat => str "plugins/cashew"
  | .development => str "hermes-agent/plugins/memory/cashew"

end Kind

/-! ## Snapshots -/

/-- A `dict` of JSON values. -/
def ofItems (items : Items) : List (Str × Given) :=
  items.map fun entry => (entry.1, .json entry.2)

def jsonItems : List (Str × Given) → Option Items
  | [] => some []
  | (name, .json value) :: rest => (jsonItems rest).map fun items => (name, value) :: items
  | _ :: _ => none

/-- `json.dumps(snapshot, sort_keys=True, separators=(",", ":"))`. -/
def snapshotText (machine : Machine) : Snapshot → Option (List Char)
  | .dict entries sorted =>
      match jsonItems entries with
      | some items => some (dumps compact (.dict items))
      | none => machine.dumpsOther (.dict entries sorted)
  | other => machine.dumpsOther other

theorem of_items_sorted {items : Items} (sorted : SortedDict.Sorted items) :
    SortedDict.Sorted (ofItems items) :=
  sorted.map Given.json

/-- `dataclasses.asdict(config)`. -/
def effectiveConfigSnapshot (config : CashewConfig) : Snapshot :=
  .dict (ofItems (settingItems config.setting))
    (of_items_sorted (SortedDict.sorted_of_entries _))

/-- `set(snapshot) == set(DEFAULTS)`. -/
def sameNames (entries : List (Str × Given)) : Bool :=
  (entries.all fun entry => Key.all.any fun key => key.name = entry.1) &&
    Key.all.all fun key => entries.any fun entry => entry.1 = key.name

def malformedSnapshot : Error :=
  .valueError "Cashew cron configuration snapshot is malformed"

def loadEffectiveConfigSnapshot (home : Home) : Snapshot → Except Error CashewConfig
  | .dict entries _ => do
      ensure (sameNames entries) malformedSnapshot
      let settings ← (validateConfigValues home fun key =>
        (SortedDict.get key.name entries).getD .object).mapError Error.invalid
      .ok ⟨settings⟩
  | _ => .error malformedSnapshot

/-! ## Registration -/

def flatAnchor (home : Home) : Path :=
  home.path ++ [str "plugins", str "cashew"]

def devAnchor (home : Home) : Path :=
  home.path ++ [str "hermes-agent", str "plugins", str "memory", str "cashew"]

def packagePath : Path :=
  [str "plugins", str "memory", str "cashew"]

def profileIdentity (machine : Machine) (home : Home) : Except Error Str :=
  (profileText home).map machine.digest

def configIdentity (machine : Machine) (snapshot : Snapshot) : Except Error Str :=
  match snapshotText machine snapshot with
  | some text => .ok (machine.digest text)
  | none => .error .typeError

def notInstalled : Error :=
  .runtimeError ("Cashew must be installed at the selected HERMES_HOME flat or " ++
    "development anchor before its cron job can be registered")

def installationKind (home : Home) (implementation : Path) : Except Error Kind := do
  let flat ← resolved home (flatAnchor home ++ packagePath)
  if flat = implementation then .ok .flat
  else do
    let development ← resolved home (devAnchor home)
    if development = implementation then .ok .development else .error notInstalled

def installationMarker (machine : Machine) (home : Home) (implementation : Path)
    (config : CashewConfig) : Except Error Marker := do
  let kind ← installationKind home implementation
  let snapshot := effectiveConfigSnapshot config
  let profileId ← profileIdentity machine home
  let configId ← configIdentity machine snapshot
  .ok {
    version := .json (.int 2)
    kind := .json (.str kind.name)
    anchor := .json (.str kind.anchor)
    implementation := .json (.str (pathText implementation))
    profileId := .json (.str profileId)
    configId := .json (.str configId)
    config := snapshot }

/-- `_MARKER_SENTINEL`. -/
def sentinel : List Char := "_INSTALLATION_MARKER = None".toList

def assignment : List Char := "_INSTALLATION_MARKER = ".toList

/-- `text.count(word)` of a word that is not empty, after `skipped` more characters. -/
def count (word : List Char) : Nat → List Char → Nat
  | _, [] => 0
  | skipped + 1, _ :: rest => count word skipped rest
  | 0, char :: rest =>
      if word.isPrefixOf (char :: rest) then count word (word.length - 1) rest + 1
      else count word 0 rest

def splitFirst (word : List Char) : List Char → Option (List Char × List Char)
  | [] => none
  | char :: rest =>
      if word.isPrefixOf (char :: rest) then some ([], (char :: rest).drop word.length)
      else (splitFirst word rest).map fun parts => (char :: parts.1, parts.2)

/-- `text.replace(word, replacement, 1)`. -/
def replaceFirst (word replacement text : List Char) : List Char :=
  match splitFirst word text with
  | some (before, after) => before ++ replacement ++ after
  | none => text

def invalidTemplate : Error :=
  .runtimeError ("Cashew cron script template is invalid; reinstall or reinitialize " ++
    "Cashew before registering its cron job")

def renderScript (machine : Machine) (template : List Char) (marker : Marker) :
    Except Error (List Char) :=
  if count sentinel 0 template ≠ 1 then .error invalidTemplate
  else .ok (replaceFirst sentinel (assignment ++ machine.repr marker) template)

/-! ## The script -/

/-- What a script assigns to `_INSTALLATION_MARKER` where its template has `None`. -/
def assigned (template script : List Char) : List Char :=
  match splitFirst sentinel template with
  | some (before, after) =>
      (script.drop (before ++ assignment).length).take
        (script.length - (before ++ assignment).length - after.length)
  | none => []

/-- `_profile_identity` of the script. -/
def scriptProfileIdentity (machine : Machine) (home : Home) : Except Error Str := do
  let path ← resolved home home.path
  let text ← encodeUtf8 (pathText path)
  .ok (machine.digest text)

/-- `_snapshot_identity` of the script. -/
def snapshotIdentity (machine : Machine) (snapshot : Snapshot) : Except Error Str :=
  match snapshotText machine snapshot with
  | some text => .ok (machine.digest text)
  | none => .error .typeError

def noMarker : Error :=
  .runtimeError ("Cashew cron script has no installation marker; reinitialize Cashew " ++
    "to refresh the generated script.")

def malformedMarker : Error :=
  .runtimeError ("Cashew cron installation marker is malformed; reinitialize Cashew " ++
    "to refresh the generated script.")

def movedInstallation : Error :=
  .runtimeError ("Cashew installation no longer matches this cron registration; " ++
    "reinitialize Cashew to refresh the generated script.")

def incompleteInstallation : Error :=
  .runtimeError ("Cashew installation is incomplete for this cron job; reinstall or " ++
    "reinitialize Cashew.")

def unloadedDependencies : Error :=
  .runtimeError ("Cashew installation could not load cron dependencies; reinstall or " ++
    "reinitialize Cashew.")

/-- `kind not in anchors` raises where a `dict` cannot be asked. -/
def readKind (field : Field) : Except Error Kind :=
  if field.hashable = false then .error .typeError
  else if field.isText Kind.flat.name then .ok .flat
  else if field.isText Kind.development.name then .ok .development
  else .error malformedMarker

def readText : Field → Except Error Str
  | .json (.str value) => .ok value
  | _ => .error malformedMarker

def Snapshot.isDict : Snapshot → Bool
  | .object => false
  | _ => true

def implementationPath (home : Home) (kind : Kind) : Path :=
  let anchorPath := home.path ++ kind.anchor.splitOn slash
  if kind = .flat then anchorPath ++ packagePath else anchorPath

def requiredFiles : List Str :=
  ["config.py", "sleep_adapter.py", "embedding_process.py", "embedding_worker.py",
    "admission.py", "locking.py"].map str

def checkInstallation (machine : Machine) (implementation : Path) : Except Error Unit := do
  ensure (requiredFiles.all fun file => machine.isFile (implementation ++ [file]))
    incompleteInstallation
  ensure (machine.imports implementation) unloadedDependencies

/-- `_load_profile_modules`, which returns the marker with the modules. -/
def loadProfileModules (machine : Machine) (home : Home) :
    Option Marker → Except Error Marker
  | none => .error noMarker
  | some marker => do
      let kind ← readKind marker.kind
      ensure (marker.anchor.isText kind.anchor) malformedMarker
      let expected ← readText marker.implementation
      ensure marker.version.isTwo malformedMarker
      let profileId ← scriptProfileIdentity machine home
      ensure (marker.profileId.isText profileId) malformedMarker
      ensure marker.config.isDict malformedMarker
      let configId ← snapshotIdentity machine marker.config
      ensure (marker.configId.isText configId) malformedMarker
      let found ← resolved home (implementationPath home kind)
      let registered ← resolved home (pathOf machine.cwd expected)
      ensure (found = registered) movedInstallation
      checkInstallation machine (implementationPath home kind)
      .ok marker

/-- The configuration that `main` of the script runs with. -/
def cronConfig (machine : Machine) (home : Home) (marker : Option Marker) :
    Except Error CashewConfig := do
  let marker ← loadProfileModules machine home marker
  loadEffectiveConfigSnapshot home marker.config

/-! ## Rendering -/

section

variable {word text : List Char}

theorem split_first_none (nothing : splitFirst word text = none) : count word 0 text = 0 := by
  induction text with
  | nil => rfl
  | cons char rest induction =>
      unfold splitFirst at nothing
      split at nothing
      · cases nothing
      · rename_i other
        rw [count, if_neg other]
        exact induction (Option.map_eq_none_iff.mp nothing)

/-- The script is the template with the marker in the place of the sentinel. -/
theorem render_script_ok {machine : Machine} {template script : List Char} {marker : Marker}
    (rendered : renderScript machine template marker = .ok script) :
    ∃ before after, splitFirst sentinel template = some (before, after) ∧
      script = before ++ (assignment ++ machine.repr marker) ++ after := by
  unfold renderScript at rendered
  split at rendered
  · cases rendered
  · rename_i once
    obtain rfl := Except.ok.inj rendered
    cases split : splitFirst sentinel template with
    | none =>
        rw [split_first_none split] at once
        exact absurd (by decide) once
    | some parts =>
        refine ⟨parts.1, parts.2, rfl, ?_⟩
        rw [replaceFirst, split]

theorem assigned_rendered {machine : Machine} {template script : List Char} {marker : Marker}
    (rendered : renderScript machine template marker = .ok script) :
    assigned template script = machine.repr marker := by
  obtain ⟨before, after, split, rfl⟩ := render_script_ok rendered
  have grouped : before ++ (assignment ++ machine.repr marker) ++ after =
      (before ++ assignment) ++ (machine.repr marker ++ after) := by
    simp only [List.append_assoc]
  have room : ((before ++ assignment) ++ (machine.repr marker ++ after)).length -
      (before ++ assignment).length - after.length = (machine.repr marker).length := by
    simp only [List.length_append]
    omega
  rw [assigned, split, grouped]
  dsimp only
  rw [room, List.drop_left, List.take_left]

end

/-! ## Snapshots read back -/

theorem json_of_items (items : Items) : jsonItems (ofItems items) = some items := by
  induction items with
  | nil => rfl
  | cons entry rest induction =>
      have mapped : (jsonItems (ofItems rest)).map (fun items => (entry.1, entry.2) :: items) =
          some (entry :: rest) := by
        rw [induction]
        rfl
      exact mapped

theorem get_of_items (items : Items) (name : Str) :
    SortedDict.get name (ofItems items) = (SortedDict.get name items).map Given.json :=
  SortedDict.get_map Given.json name items

theorem snapshot_text_of_items (machine : Machine) (items : Items)
    (sorted : SortedDict.Sorted (ofItems items)) :
    snapshotText machine (.dict (ofItems items) sorted) = some (dumps compact (.dict items)) := by
  rw [snapshotText, json_of_items]

theorem same_names_settings (settings : Key → Value) :
    sameNames (ofItems (settingItems settings)) = true := by
  have known : ∀ key : Key, (key.name, settings key) ∈ settingItems settings := fun key =>
    SortedDict.mem_of_get (get_setting_items settings key)
  rw [sameNames, Bool.and_eq_true]
  constructor
  · apply List.all_eq_true.mpr
    intro entry member
    obtain ⟨item, there, rfl⟩ := List.mem_map.mp member
    obtain ⟨key, -, same⟩ := List.mem_map.mp (SortedDict.mem_of_entries there)
    exact List.any_eq_true.mpr ⟨key, key.mem_all, decide_eq_true (congrArg Prod.fst same)⟩
  · apply List.all_eq_true.mpr
    intro key _
    exact List.any_eq_true.mpr ⟨_, List.mem_map.mpr ⟨_, known key, rfl⟩, decide_eq_true rfl⟩

/-- A validated configuration is read back from its own snapshot. -/
theorem load_snapshot {home : Home} {config : CashewConfig}
    (validated : ∀ key, validateField home key (.json (config.setting key)) =
      .ok (config.setting key)) :
    loadEffectiveConfigSnapshot home (effectiveConfigSnapshot config) = .ok config := by
  have given : (fun key : Key => (SortedDict.get key.name
      (ofItems (settingItems config.setting))).getD .object) =
        fun key => .json (config.setting key) := by
    funext key
    rw [get_of_items, get_setting_items]
    rfl
  have accepted := validate_config_values_iff.mpr validated
  unfold effectiveConfigSnapshot loadEffectiveConfigSnapshot
  dsimp only
  rw [same_names_settings, given, accepted]
  rfl

/-- What `load_config` returns has been validated. -/
theorem load_config_validated {python : Python} {home : Home} {environ : Environ} {file : File}
    {config : CashewConfig} (loaded : loadConfig python home environ file = .ok config)
    (key : Key) :
    ∃ given, validateField home key given = .ok (config.setting key) := by
  cases read : readExistingConfig python file with
  | error error =>
      rw [loadConfig, read] at loaded
      cases loaded
  | ok raw =>
      rw [load_config_read read] at loaded
      cases known : collect fun key =>
          overrideSetting python home environ key (fileSetting raw key) with
      | error error =>
          rw [known] at loaded
          cases loaded
      | ok settings =>
          rw [known] at loaded
          cases accepted : validateConfigValues home fun key => .json (settings key) with
          | error error =>
              simp only [bind, Except.bind, accepted] at loaded
              cases loaded
          | ok found =>
              simp only [bind, Except.bind, accepted] at loaded
              obtain rfl := Except.ok.inj loaded
              exact ⟨_, validate_config_values_iff.mp accepted key⟩

/-! ## The registering configuration is accepted -/

/-- `Path.resolve` gives an absolute path without links, which it leaves as it is. -/
structure Canonical (home : Home) : Prop where
  again : ∀ path found, home.resolve path = .ok found → home.resolve found = .ok found
  proper : ∀ path found, home.resolve path = .ok found →
    ∀ part ∈ found, part ≠ [] ∧ part ≠ str "." ∧ slash ∉ part

section

variable {machine : Machine} {home : Home} {implementation : Path} {kind : Kind}
  {config : CashewConfig} {marker : Marker}

/-- The text of a path leads back to it. -/
theorem path_of_text (cwd : Path) {path : Path}
    (proper : ∀ part ∈ path, part ≠ [] ∧ part ≠ str "." ∧ slash ∉ part) :
    pathOf cwd (pathText path) = path := by
  have absolute : (pathText path).head? = some slash := rfl
  rw [pathOf, if_pos absolute, components, pathText, List.splitOn_cons_eq_if_modifyHead,
    if_pos (beq_self_eq_true slash), List.filter_cons_of_neg (by simp)]
  cases path with
  | nil => decide
  | cons part rest =>
      rw [List.splitOn_intercalate slash (fun part member => (proper part member).2.2)
        (List.cons_ne_nil part rest)]
      apply List.filter_eq_self.mpr
      intro part member
      exact decide_eq_true ⟨(proper part member).1, (proper part member).2.1⟩

theorem resolved_ok {path found : Path} (located : resolved home path = .ok found) :
    home.resolve path = .ok found := by
  unfold resolved at located
  cases outcome : home.resolve path with
  | error error =>
      rw [outcome] at located
      cases located
  | ok other =>
      rw [outcome] at located
      rw [Except.ok.inj located]

/-- Both sides look for the package in the same place. -/
theorem implementation_path_flat (home : Home) :
    implementationPath home .flat = flatAnchor home ++ packagePath := by
  have parts : Kind.flat.anchor.splitOn slash = [str "plugins", str "cashew"] := by
    decide +kernel
  rw [implementationPath, parts]
  rfl

theorem implementation_path_development (home : Home) :
    implementationPath home .development = devAnchor home := by
  have parts : Kind.development.anchor.splitOn slash =
      [str "hermes-agent", str "plugins", str "memory", str "cashew"] := by
    decide +kernel
  rw [implementationPath, parts]
  rfl

theorem installation_kind_ok (installed : installationKind home implementation = .ok kind) :
    resolved home (implementationPath home kind) = .ok implementation := by
  unfold installationKind at installed
  cases flat : resolved home (flatAnchor home ++ packagePath) with
  | error error =>
      rw [flat] at installed
      cases installed
  | ok found =>
      rw [flat] at installed
      simp only [bind, Except.bind] at installed
      split at installed
      · rename_i same
        obtain rfl := Except.ok.inj installed
        rw [implementation_path_flat, flat, same]
      · cases development : resolved home (devAnchor home) with
        | error error =>
            rw [development] at installed
            cases installed
        | ok found =>
            rw [development] at installed
            dsimp only at installed
            split at installed
            · rename_i same
              obtain rfl := Except.ok.inj installed
              rw [implementation_path_development, development, same]
            · cases installed

structure Built (machine : Machine) (home : Home) (implementation : Path) (config : CashewConfig)
    (kind : Kind) (profileId : Str) (marker : Marker) : Prop where
  installed : installationKind home implementation = .ok kind
  profile : profileIdentity machine home = .ok profileId
  made : marker = {
    version := .json (.int 2)
    kind := .json (.str kind.name)
    anchor := .json (.str kind.anchor)
    implementation := .json (.str (pathText implementation))
    profileId := .json (.str profileId)
    configId := .json (.str (machine.digest
      (dumps compact (.dict (settingItems config.setting)))))
    config := effectiveConfigSnapshot config }

theorem installation_marker_ok
    (registered : installationMarker machine home implementation config = .ok marker) :
    ∃ kind profileId, Built machine home implementation config kind profileId marker := by
  unfold installationMarker at registered
  cases installed : installationKind home implementation with
  | error error =>
      rw [installed] at registered
      cases registered
  | ok kind =>
      cases profile : profileIdentity machine home with
      | error error =>
          rw [installed, profile] at registered
          cases registered
      | ok profileId =>
          have identity : configIdentity machine (effectiveConfigSnapshot config) =
              .ok (machine.digest (dumps compact (.dict (settingItems config.setting)))) := by
            rw [configIdentity, effectiveConfigSnapshot, snapshot_text_of_items]
          rw [installed, profile] at registered
          simp only [bind, Except.bind, identity] at registered
          exact ⟨kind, profileId, installed, profile, (Except.ok.inj registered).symm⟩

theorem script_profile_identity (machine : Machine) (home : Home) :
    scriptProfileIdentity machine home = profileIdentity machine home := by
  unfold scriptProfileIdentity profileIdentity profileText
  cases resolved home home.path with
  | error error => rfl
  | ok path =>
      simp only [bind, Except.bind]
      cases encodeUtf8 (pathText path) <;> rfl

theorem read_kind_name (kind : Kind) : readKind (.json (.str kind.name)) = .ok kind := by
  cases kind with
  | flat => rfl
  | development => rfl

theorem is_text_self (text : Str) : Field.isText text (.json (.str text)) = true :=
  decide_eq_true rfl

/-- A marker that was built passes every check of it, and what is left is the installation. -/
theorem load_profile_modules_built (canonical : Canonical home) {profileId : Str}
    (built : Built machine home implementation config kind profileId marker) :
    loadProfileModules machine home (some marker) =
      (checkInstallation machine (implementationPath home kind)).map fun _ => marker := by
  obtain ⟨installed, profile, rfl⟩ := built
  have located := installation_kind_ok installed
  have settled : resolved home implementation = .ok implementation := by
    rw [resolved, canonical.again _ _ (resolved_ok located)]
    rfl
  have expected : pathOf machine.cwd (pathText implementation) = implementation :=
    path_of_text machine.cwd (canonical.proper _ _ (resolved_ok located))
  have own : scriptProfileIdentity machine home = .ok profileId :=
    (script_profile_identity machine home).trans profile
  have snapshot : snapshotIdentity machine (effectiveConfigSnapshot config) =
      .ok (machine.digest (dumps compact (.dict (settingItems config.setting)))) := by
    rw [snapshotIdentity, effectiveConfigSnapshot, snapshot_text_of_items]
  have dict : (effectiveConfigSnapshot config).isDict = true := rfl
  have second : Field.isTwo (.json (.int 2)) = true := rfl
  simp only [loadProfileModules, bind, Except.bind, read_kind_name, ensure, is_text_self, if_true,
    readText, second, own, dict, snapshot, located, expected, settled, decide_true]
  cases checkInstallation machine (implementationPath home kind) <;> rfl

theorem cron_config_built (canonical : Canonical home) {profileId : Str}
    (built : Built machine home implementation config kind profileId marker)
    (installed : checkInstallation machine (implementationPath home kind) = .ok ())
    (validated : ∀ key, validateField home key (.json (config.setting key)) =
      .ok (config.setting key)) :
    cronConfig machine home (some marker) = .ok config := by
  have read : loadEffectiveConfigSnapshot home marker.config = .ok config := by
    rw [built.made]
    exact load_snapshot validated
  rw [cronConfig, load_profile_modules_built canonical built, installed]
  simp only [Except.map, bind, Except.bind, read]

end

/-! ## What a marker must have to be accepted -/

theorem of_bind_ok {First Second : Type} {first : Except Error First}
    {next : First → Except Error Second} {result : Second} (done : first >>= next = .ok result) :
    ∃ value, first = .ok value ∧ next value = .ok result := by
  cases first with
  | error error => cases done
  | ok value => exact ⟨value, rfl, done⟩

theorem ensure_ok {holds : Bool} {error : Error} {nothing : Unit}
    (passed : ensure holds error = .ok nothing) : holds = true := by
  cases holds with
  | true => rfl
  | false => cases passed

section

variable {machine : Machine} {home : Home} {config : CashewConfig} {marker altered loaded : Marker}

theorem is_text_ok {field : Field} {text : Str} (same : field.isText text = true) :
    field = .json (.str text) := by
  unfold Field.isText at same
  split at same
  · rw [of_decide_eq_true same]
  · cases same

structure Identified (machine : Machine) (home : Home) (marker : Marker) : Prop where
  profile : ∃ profileId, profileIdentity machine home = .ok profileId ∧
    marker.profileId = .json (.str profileId)
  config : ∃ configId, snapshotIdentity machine marker.config = .ok configId ∧
    marker.configId = .json (.str configId)

theorem load_profile_modules_ok
    (accepted : loadProfileModules machine home (some marker) = .ok loaded) :
    loaded = marker ∧ Identified machine home marker := by
  obtain ⟨kind, -, accepted⟩ := of_bind_ok accepted
  obtain ⟨_, -, accepted⟩ := of_bind_ok accepted
  obtain ⟨expected, -, accepted⟩ := of_bind_ok accepted
  obtain ⟨_, -, accepted⟩ := of_bind_ok accepted
  obtain ⟨profileId, own, accepted⟩ := of_bind_ok accepted
  obtain ⟨_, profile, accepted⟩ := of_bind_ok accepted
  obtain ⟨_, -, accepted⟩ := of_bind_ok accepted
  obtain ⟨configId, snapshot, accepted⟩ := of_bind_ok accepted
  obtain ⟨_, identity, accepted⟩ := of_bind_ok accepted
  obtain ⟨found, -, accepted⟩ := of_bind_ok accepted
  obtain ⟨registered, -, accepted⟩ := of_bind_ok accepted
  obtain ⟨_, -, accepted⟩ := of_bind_ok accepted
  obtain ⟨_, -, accepted⟩ := of_bind_ok accepted
  rw [script_profile_identity] at own
  exact ⟨(Except.ok.inj accepted).symm,
    ⟨profileId, own, is_text_ok (ensure_ok profile)⟩,
    ⟨configId, snapshot, is_text_ok (ensure_ok identity)⟩⟩

theorem cron_config_ok (ran : cronConfig machine home (some marker) = .ok config) :
    Identified machine home marker ∧
      loadEffectiveConfigSnapshot home marker.config = .ok config := by
  obtain ⟨loaded, accepted, read⟩ := of_bind_ok ran
  obtain ⟨rfl, identified⟩ := load_profile_modules_ok accepted
  exact ⟨identified, read⟩

/-! ## Snapshots of the same text -/

theorem timeout_json {given : Given} {value : Value}
    (accepted : validateTimeout given = .ok value) :
    ∃ plain, given = .json plain ∧ plain.Fits 1 := by
  unfold validateTimeout at accepted
  split at accepted
  · rename_i whole
    refine ⟨.int whole, rfl, small_int_fits ?_ 1⟩
    split at accepted
    · cases accepted
    · split at accepted
      · rename_i inside
        omega
      · cases accepted
  · exact ⟨_, rfl, trivial⟩
  · cases accepted

/-- What is accepted for a setting is a JSON value that could be read again. -/
theorem accepted_json {key : Key} {given : Given} {value : Value}
    (accepted : validateField home key given = .ok value) :
    ∃ plain, given = .json plain ∧ plain.Fits 1 := by
  cases validate_field_ok accepted with
  | same unchanged flat => exact ⟨value, unchanged, validated_fits Nat.one_pos accepted⟩
  | timeout timeout is_timeout made inside =>
      subst is_timeout
      exact timeout_json accepted
  | features items is_features unchanged named made =>
      exact ⟨.dict items, unchanged, flags_fit Nat.one_pos fun entry member =>
        (named entry member).2⟩

/-- Two values of one text are read back as one value. -/
theorem dumps_alike {layout : Layout} {depth : Nat} {first second : Value}
    (first_fits : first.Fits depth) (second_fits : second.Fits depth)
    (same : dumps layout first = dumps layout second) : first.reread = second.reread := by
  have one := @loads_dumps layout depth first first_fits [] nofun
  have other := @loads_dumps layout depth second second_fits [] nofun
  rw [same] at one
  exact Except.ok.inj (one.symm.trans other)

/-- The same items, where a string may spell out a pair that is one character in the other. -/
def Alike (first second : Snapshot) : Prop :=
  ∃ items others first_sorted second_sorted,
    first = .dict (ofItems items) first_sorted ∧ second = .dict (ofItems others) second_sorted ∧
      (Value.dict items).reread = (Value.dict others).reread

theorem map_error_ok {Result : Type} {outcome : Except Config.Error Result} {result : Result}
    (done : outcome.mapError Error.invalid = .ok result) : outcome = .ok result := by
  cases outcome with
  | error error => cases done
  | ok other => rw [Except.ok.inj done]

theorem plain_items {entries : List (Str × Given)} {depth : Nat}
    (plain : ∀ entry ∈ entries, ∃ value, entry.2 = .json value ∧ value.Fits depth) :
    ∃ items, entries = ofItems items ∧ ∀ entry ∈ items, entry.2.Fits depth := by
  induction entries with
  | nil => exact ⟨[], rfl, nofun⟩
  | cons entry rest induction =>
      obtain ⟨⟨value, json, fits⟩, later⟩ := List.forall_mem_cons.mp plain
      obtain ⟨items, rfl, all⟩ := induction later
      refine ⟨(entry.1, value) :: items, ?_, List.forall_mem_cons.mpr ⟨fits, all⟩⟩
      have head : entry = (entry.1, .json value) := Prod.ext rfl json
      exact congrArg (· :: ofItems items) head

theorem dict_fits {items : Items} {depth : Nat} (fits : ∀ entry ∈ items, entry.2.Fits depth) :
    (Value.dict items).Fits (depth + 1) :=
  ⟨Nat.succ_pos depth, (fits_members_iff _ items).mpr fits⟩

/-- A snapshot that is accepted is a JSON object with room for it. -/
theorem accepted_snapshot {snapshot : Snapshot}
    (read : loadEffectiveConfigSnapshot home snapshot = .ok config) :
    ∃ items sorted, snapshot = .dict (ofItems items) sorted ∧ (Value.dict items).Fits 2 := by
  cases snapshot with
  | mapping => cases read
  | object => cases read
  | dict entries sorted =>
      obtain ⟨_, named, read⟩ := of_bind_ok read
      obtain ⟨settings, validated, -⟩ := of_bind_ok read
      have each := validate_config_values_iff.mp (map_error_ok validated)
      have plain : ∀ entry ∈ entries, ∃ value, entry.2 = .json value ∧ value.Fits 1 := by
        intro entry member
        have known := List.all_eq_true.mp (Bool.and_eq_true_iff.mp (ensure_ok named)).1 entry member
        obtain ⟨key, -, same⟩ := List.any_eq_true.mp known
        have found := SortedDict.get_of_mem sorted.distinct member
        have accepted := each key
        rw [of_decide_eq_true same, found] at accepted
        exact accepted_json accepted
      obtain ⟨items, rfl, fits⟩ := plain_items plain
      exact ⟨items, sorted, rfl, dict_fits fits⟩

/-- An accepted marker with the identity of another configuration has that configuration. -/
theorem accepted_alike {registered : CashewConfig} {settled : CashewConfig}
    (validated : ∀ key, ∃ given, validateField home key given = .ok (registered.setting key))
    (identity : marker.configId = .json (.str (machine.digest
      (dumps compact (.dict (settingItems registered.setting))))))
    (apart : ∀ text, snapshotText machine marker.config = some text →
      machine.TellsApart text (dumps compact (.dict (settingItems registered.setting))))
    (ran : cronConfig machine home (some marker) = .ok settled) :
    Alike marker.config (effectiveConfigSnapshot registered) := by
  obtain ⟨⟨-, configId, identified, kept⟩, read⟩ := cron_config_ok ran
  obtain ⟨items, sorted, made, fits⟩ := accepted_snapshot read
  have text : snapshotText machine marker.config = some (dumps compact (.dict items)) := by
    rw [made, snapshot_text_of_items]
  rw [snapshotIdentity, text] at identified
  have same_id : configId = machine.digest (dumps compact (.dict items)) :=
    (Except.ok.inj identified).symm
  rw [identity] at kept
  have digests : machine.digest (dumps compact (.dict items)) =
      machine.digest (dumps compact (.dict (settingItems registered.setting))) := by
    rw [← same_id]
    exact (Value.str.inj (Field.json.inj kept)).symm
  have registered_fits : (Value.dict (settingItems registered.setting)).Fits 2 := by
    apply dict_fits
    intro entry member
    obtain ⟨key, -, rfl⟩ := List.mem_map.mp (SortedDict.mem_of_entries member)
    obtain ⟨given, accepted⟩ := validated key
    exact validated_fits Nat.one_pos accepted
  exact ⟨items, _, sorted, _, made, rfl,
    dumps_alike fits registered_fits (apart _ text digests)⟩

/-- No string of the snapshot spells out a surrogate pair, and its values are in key order. -/
def Snapshot.Settled : Snapshot → Prop
  | .dict entries _ => ∀ entry ∈ entries, ∀ value, entry.2 = .json value →
      JsonDocument.Joined entry.1 ∧ value.Joined ∧ value.Ordered
  | _ => True

theorem reread_snapshot {items : Items} {sorted : SortedDict.Sorted (ofItems items)}
    (settled : (Snapshot.dict (ofItems items) sorted).Settled) :
    (Value.dict items).reread = .dict items := by
  have each : ∀ entry ∈ items,
      JsonDocument.Joined entry.1 ∧ entry.2.Joined ∧ entry.2.Ordered := by
    intro entry member
    exact settled _ (List.mem_map.mpr ⟨entry, member, rfl⟩) entry.2 rfl
  have in_order : SortedDict.Sorted items := by
    rw [SortedDict.Sorted, ofItems, List.pairwise_map] at sorted
    exact sorted
  rw [reread_dict in_order fun entry member => (each entry member).1]
  have same : (items.map fun entry => (entry.1, entry.2.reread)) = items.map id := by
    apply List.map_congr_left
    intro entry member
    obtain ⟨-, joined, ordered⟩ := each entry member
    rw [reread_settled entry.2 ordered joined]
    rfl
  rw [same, List.map_id]

/-- Without pairs that are spelled out, snapshots that are alike are the same. -/
theorem alike_settled {first second : Snapshot} (alike : Alike first second)
    (first_settled : first.Settled) (second_settled : second.Settled) : first = second := by
  obtain ⟨items, others, first_sorted, second_sorted, rfl, rfl, same⟩ := alike
  rw [reread_snapshot first_settled, reread_snapshot second_settled] at same
  obtain rfl := Value.dict.inj same
  rfl

end

/-! ## The job and the registration -/

/-- The job runs with the configuration that was registered for its home, and with no other. -/
structure RunsRegistered (python : Python) (machine : Machine) (home : Home) : Prop where
  accepted : ∀ environ file config implementation marker template script,
    loadConfig python home environ file = .ok config →
    installationMarker machine home implementation config = .ok marker →
    renderScript machine template marker = .ok script →
    machine.evaluate (machine.repr marker) = some marker →
      (∃ kind, installationKind home implementation = .ok kind ∧
        loadProfileModules machine home (machine.evaluate (assigned template script)) =
          (checkInstallation machine (implementationPath home kind)).map fun _ => marker) ∧
      loadEffectiveConfigSnapshot home marker.config = .ok config
  other_profile : ∀ other text marker,
    profileText other = .ok text → profileText home ≠ .ok text →
    (∀ own, profileText home = .ok own → machine.TellsApart own text) →
    profileIdentity machine other = .ok (machine.digest text) ∧
      (marker.profileId = .json (.str (machine.digest text)) →
        ∀ loaded, loadProfileModules machine home (some marker) ≠ .ok loaded)
  other_config : ∀ environ file config implementation registered marker,
    loadConfig python home environ file = .ok config →
    installationMarker machine home implementation config = .ok registered →
    (∀ text own, snapshotText machine marker.config = some text →
      snapshotText machine registered.config = some own → machine.TellsApart text own) →
    marker.configId = registered.configId → ¬ Alike marker.config registered.config →
      ∀ settled, cronConfig machine home (some marker) ≠ .ok settled
  spelled : ∀ first second, Alike first second → first.Settled → second.Settled → first = second

theorem other_profile_rejected {machine : Machine} {home : Home} {text : List Char}
    {marker : Marker} (other : profileText home ≠ .ok text)
    (apart : ∀ own, profileText home = .ok own → machine.TellsApart own text)
    (identity : marker.profileId = .json (.str (machine.digest text))) (loaded : Marker) :
    loadProfileModules machine home (some marker) ≠ .ok loaded := by
  intro accepted
  obtain ⟨-, ⟨profileId, own, same⟩, -⟩ := load_profile_modules_ok accepted
  unfold profileIdentity at own
  cases found : profileText home with
  | error error =>
      rw [found] at own
      cases own
  | ok text_ =>
      rw [found] at own other
      have digests : machine.digest text_ = machine.digest text := by
        rw [Except.ok.inj own]
        exact Value.str.inj (Field.json.inj (same.symm.trans identity))
      exact other (congrArg Except.ok (apart text_ found digests))

/-- What was registered passes the checks of the script and is what it runs with; a marker of
another home, or with another configuration under the same identity, is refused. -/
theorem cron_runs_registered (python : Python) (machine : Machine) (home : Home)
    (canonical : Canonical home) : RunsRegistered python machine home where
  accepted environ file config implementation marker template script loaded registered rendered
      evaluated := by
    obtain ⟨kind, profileId, built⟩ := installation_marker_ok registered
    have validated : ∀ key, validateField home key (.json (config.setting key)) =
        .ok (config.setting key) := by
      intro key
      obtain ⟨given, accepted⟩ := load_config_validated loaded key
      exact validate_field_again accepted
    constructor
    · refine ⟨kind, built.installed, ?_⟩
      rw [assigned_rendered rendered, evaluated]
      exact load_profile_modules_built canonical built
    · rw [built.made]
      exact load_snapshot validated
  other_profile other text marker found different apart := by
    constructor
    · rw [profileIdentity, found]
      rfl
    · exact other_profile_rejected different apart
  other_config environ file config implementation registered marker loaded built apart identity
      different settled ran := by
    obtain ⟨kind, profileId, made⟩ := installation_marker_ok built
    rw [made.made] at identity apart different
    apply different
    apply accepted_alike (load_config_validated loaded) identity _ ran
    intro text found
    exact apart text _ found (snapshot_text_of_items machine _ _)
  spelled first second := alike_settled

/-! ## A home at `/home` -/

/-- Only `CASHEW_USER_DOMAIN` is set. -/
def namedEnviron (name : Str) : Environ := fun variable_ =>
  if variable_ = envVarName .userDomain then some name else none

def cronHome : Home where
  path := [str "home"]
  resolve path := .ok (path.filter fun part => part ≠ [] ∧ part ≠ str "." ∧ slash ∉ part)

def cronImplementation : Path :=
  [str "home", str "plugins", str "cashew", str "plugins", str "memory", str "cashew"]

def cronDigest (configId : Str) (text : List Char) : Str :=
  if text = "/home".toList then str "2cc974af6afc822c" else configId

def cronMarker (configId : Str) (config : CashewConfig) : Marker where
  version := .json (.int 2)
  kind := .json (.str Kind.flat.name)
  anchor := .json (.str Kind.flat.anchor)
  implementation := .json (.str (pathText cronImplementation))
  profileId := .json (.str (str "2cc974af6afc822c"))
  configId := .json (.str configId)
  config := effectiveConfigSnapshot config

/-- The `repr` of the marker with `me` for the name. -/
def namedText : List Char :=
  ("\x7b'version': 2, 'kind': 'flat', 'anchor': 'plugins/cashew', 'implementation': " ++
    "'/home/plugins/cashew/plugins/memory/cashew', 'profile_id': '2cc974af6afc822c', " ++
    "'config_id': 'd7df258909c7ac4a', 'config': \x7b'cashew_db_path': 'cashew/brain.db', " ++
    "'embedding_model': 'thenlper/gte-large', 'embedding_device': 'cpu', 'recall_k': 5, " ++
    "'sync_queue_timeout': 30.0, 'user_domain': 'me', 'ai_domain': 'ai', " ++
    "'auto_extraction': True, 'think_cycles': True, 'sleep_cycles': True, " ++
    "'llm_aux_role': 'memory', 'think_interval': 10, 'prefetch_k': 3, 'prefetch_cues': " ++
    "3, 'sleep_schedule': 'every 12h', 'sleep_max_nodes': 2000, '_features': " ++
    "\x7b'experimental_batch_sync': False\x7d\x7d\x7d").toList

def cronMachine (configId : Str) : Machine where
  digest := cronDigest configId
  dumpsOther _ := none
  cwd := []
  isFile _ := true
  imports _ := true
  repr _ := namedText
  evaluate text :=
    if text = namedText then some (cronMarker configId ⟨namedSettings (str "me")⟩) else none

theorem cron_home_canonical : Canonical cronHome where
  again path found located := by
    obtain rfl := Except.ok.inj located
    exact congrArg Except.ok (List.filter_eq_self.mpr fun part member =>
      (List.mem_filter.mp member).2)
  proper path found located part member := by
    obtain rfl := Except.ok.inj located
    exact of_decide_eq_true (List.mem_filter.mp member).2

theorem cron_home_inside : InsideHome cronHome (str "cashew/brain.db") :=
  ⟨by decide, [str "home"], _, by decide, rfl, by decide⟩

theorem load_named {name : Str} (solid : blank name = false) :
    loadConfig plainPython cronHome (namedEnviron name) none = .ok ⟨namedSettings name⟩ := by
  have read : readExistingConfig plainPython none = .ok [] := rfl
  have known : ∀ key, overrideSetting plainPython cronHome (namedEnviron name) key
      (fileSetting [] key) = .ok (namedSettings name key) := by
    intro key
    by_cases same : key = .userDomain
    · have set : namedEnviron name (envVarName .userDomain) = some name := if_pos rfl
      have taken : overrideValue plainPython cronHome .userDomain name = .ok (.str name) :=
        validate_field_documented (named_documented cron_home_inside solid .userDomain)
      rw [same, overrideSetting, set]
      dsimp only
      rw [taken]
      rfl
    · have unset : namedEnviron name (envVarName key) = none :=
        if_neg fun variable_ => same (env_var_name_injective variable_)
      have default : fileSetting [] key = defaults key := by
        rw [fileSetting, SortedDict.get_update List.Pairwise.nil, known_default]
        rfl
      rw [overrideSetting, unset, default, namedSettings, if_neg same]
  have accepted : validateConfigValues cronHome (fun key => .json (namedSettings name key)) =
      .ok (namedSettings name) := validate_config_values_iff.mpr fun key =>
    validate_field_documented (named_documented cron_home_inside solid key)
  rw [load_config_read read, collect_ok_iff.mpr known]
  simp only [bind, Except.bind, accepted]
  rfl

theorem dumps_dict_head (layout : Layout) (items : Items) :
    (dumps layout (.dict items)).head? = some '\x7b' := by
  cases items with
  | nil => rfl
  | cons entry rest => rfl

theorem cron_machine_digest (configId : Str) :
    (cronMachine configId).digest = cronDigest configId := rfl

theorem cron_digest_home (configId : Str) :
    cronDigest configId "/home".toList = str "2cc974af6afc822c" :=
  if_pos rfl

theorem cron_digest_dict (configId : Str) (items : Items) :
    cronDigest configId (dumps compact (.dict items)) = configId := by
  apply if_neg
  intro same
  have head := dumps_dict_head compact items
  rw [same] at head
  exact absurd head (by decide)

theorem cron_marker_registered (configId : Str) (config : CashewConfig) :
    installationMarker (cronMachine configId) cronHome cronImplementation config =
      .ok (cronMarker configId config) := by
  have kind : installationKind cronHome cronImplementation = .ok .flat := rfl
  have text : profileText cronHome = .ok "/home".toList := rfl
  have profile : profileIdentity (cronMachine configId) cronHome =
      .ok (str "2cc974af6afc822c") := by
    rw [profileIdentity, text, cron_machine_digest, Except.map, cron_digest_home]
  have identity : configIdentity (cronMachine configId) (effectiveConfigSnapshot config) =
      .ok configId := by
    rw [configIdentity, effectiveConfigSnapshot, snapshot_text_of_items, cron_machine_digest]
    dsimp only
    rw [cron_digest_dict]
  unfold installationMarker
  simp only [kind, profile, identity, bind, Except.bind]
  rfl

/-- The template that is nothing but the sentinel. -/
theorem render_sentinel (machine : Machine) (marker : Marker) :
    renderScript machine sentinel marker = .ok (assignment ++ machine.repr marker) := by
  have once : count sentinel 0 sentinel = 1 := by decide
  have split : splitFirst sentinel sentinel = some ([], []) := by decide
  rw [renderScript, if_neg (not_not_intro once), replaceFirst, split]
  exact congrArg Except.ok (List.append_nil _)

def namedId : Str := str "d7df258909c7ac4a"

theorem cron_machine_evaluates (configId : Str) (marker : Marker) :
    (cronMachine configId).evaluate ((cronMachine configId).repr marker) =
      some (cronMarker configId ⟨namedSettings (str "me")⟩) := by
  unfold cronMachine
  dsimp only
  rw [if_pos rfl]

def namedConfig : CashewConfig :=
  ⟨namedSettings (str "me")⟩

def namedScript : List Char :=
  assignment ++ (cronMachine namedId).repr (cronMarker namedId namedConfig)

/-- With `CASHEW_USER_DOMAIN=me`, a flat installation and all its files. -/
theorem named_marker_accepted :
    (∃ kind, installationKind cronHome cronImplementation = .ok kind ∧
      loadProfileModules (cronMachine namedId) cronHome
          ((cronMachine namedId).evaluate (assigned sentinel namedScript)) =
        (checkInstallation (cronMachine namedId) (implementationPath cronHome kind)).map
          fun _ => cronMarker namedId namedConfig) ∧
      loadEffectiveConfigSnapshot cronHome (cronMarker namedId namedConfig).config =
        .ok namedConfig := by
  have runs := cron_runs_registered plainPython (cronMachine namedId) cronHome cron_home_canonical
  have loaded : loadConfig plainPython cronHome (namedEnviron (str "me")) none = .ok namedConfig :=
    load_named (by decide)
  have registered := cron_marker_registered namedId namedConfig
  have rendered := render_sentinel (cronMachine namedId) (cronMarker namedId namedConfig)
  have evaluated := cron_machine_evaluates namedId (cronMarker namedId namedConfig)
  exact runs.accepted _ _ _ _ _ _ _ loaded registered rendered evaluated

/-! ## A name that spells out a pair -/

theorem document_members_map (items : Items) :
    documentMembers items =
      (items.map fun entry => (entry.1, document entry.2)).map
        fun entry => (entry.1.flatMap units, entry.2) := by
  induction items with
  | nil => rfl
  | cons entry rest induction =>
      rw [documentMembers, induction]
      rfl

/-- Settings of the same documents have one text. -/
theorem dumps_settings {settings others : Key → Value}
    (same : ∀ key, document (settings key) = document (others key)) (layout : Layout) :
    dumps layout (.dict (settingItems settings)) = dumps layout (.dict (settingItems others)) := by
  have sorted : ∀ settings : Key → Value, SortedDict.Sorted
      ((settingItems settings).map fun entry => (entry.1, document entry.2)) :=
    fun settings => SortedDict.Sorted.map document (SortedDict.sorted_of_entries _)
  have members : ((settingItems settings).map fun entry => (entry.1, document entry.2)) =
      (settingItems others).map fun entry => (entry.1, document entry.2) := by
    apply SortedDict.ext (sorted settings) (sorted others)
    intro name
    rw [SortedDict.get_map, SortedDict.get_map]
    by_cases known : ∃ key : Key, key.name = name
    · obtain ⟨key, rfl⟩ := known
      rw [get_setting_items, get_setting_items, Option.map_some, Option.map_some, same]
    · have unknown : ∀ key : Key, key.name ≠ name := fun key same => known ⟨key, same⟩
      rw [get_setting_items_unknown settings unknown, get_setting_items_unknown others unknown]
  rw [dumps, dumps, document, document, document_members_map, document_members_map, members]

def pairName : Str := [0x1f600]

def pairId : Str := str "3802c1cbd617f5ff"

theorem pair_documents (key : Key) :
    document (namedSettings splitName key) = document (namedSettings pairName key) := by
  unfold namedSettings
  split
  · have same : splitName.flatMap units = pairName.flatMap units := by decide
    exact congrArg Document.string same
  · rfl

theorem pair_text (machine : Machine) :
    snapshotText machine (effectiveConfigSnapshot ⟨namedSettings splitName⟩) =
      snapshotText machine (effectiveConfigSnapshot ⟨namedSettings pairName⟩) := by
  rw [effectiveConfigSnapshot, effectiveConfigSnapshot, snapshot_text_of_items,
    snapshot_text_of_items, dumps_settings pair_documents]

theorem named_validated {name : Str} (solid : blank name = false) (key : Key) :
    validateField cronHome key (.json (namedSettings name key)) =
      .ok (namedSettings name key) :=
  validate_field_documented (named_documented cron_home_inside solid key)

theorem cron_machine_installed (configId : Str) (path : Path) :
    checkInstallation (cronMachine configId) path = .ok () := by
  have files : (requiredFiles.all fun file => (cronMachine configId).isFile (path ++ [file])) =
      true := List.all_eq_true.mpr fun _ _ => rfl
  rw [checkInstallation, files]
  rfl

/-- Every named configuration is what its own marker runs with. -/
theorem cron_config_named (configId : Str) {name : Str} (solid : blank name = false) :
    cronConfig (cronMachine configId) cronHome
        (some (cronMarker configId ⟨namedSettings name⟩)) =
      .ok ⟨namedSettings name⟩ := by
  obtain ⟨kind, profileId, built⟩ :=
    installation_marker_ok (cron_marker_registered configId ⟨namedSettings name⟩)
  exact cron_config_built cron_home_canonical built (cron_machine_installed configId _)
    (named_validated solid)

theorem snapshots_apart {first second : Str} (first_solid : blank first = false)
    (second_solid : blank second = false) (apart : first ≠ second) :
    effectiveConfigSnapshot ⟨namedSettings first⟩ ≠
      effectiveConfigSnapshot ⟨namedSettings second⟩ := by
  intro same
  have one := @load_snapshot cronHome ⟨namedSettings first⟩ (named_validated first_solid)
  have other := @load_snapshot cronHome ⟨namedSettings second⟩ (named_validated second_solid)
  rw [same] at one
  have settings := CashewConfig.mk.inj (Except.ok.inj (one.symm.trans other))
  exact apart (Value.str.inj (congrFun settings .userDomain))

/-- The name is one character when it is registered, and two surrogates in the script. -/
theorem spelled_pair_is_accepted :
    ∃ environ config registered marker other,
      loadConfig plainPython cronHome environ none = .ok config ∧
      installationMarker (cronMachine pairId) cronHome cronImplementation config =
        .ok registered ∧
      marker.configId = registered.configId ∧ marker.config ≠ registered.config ∧
      snapshotText (cronMachine pairId) marker.config =
        snapshotText (cronMachine pairId) registered.config ∧
      cronConfig (cronMachine pairId) cronHome (some marker) = .ok other ∧ other ≠ config := by
  have apart : splitName ≠ pairName := by decide
  refine ⟨namedEnviron pairName, ⟨namedSettings pairName⟩, _,
    cronMarker pairId ⟨namedSettings splitName⟩, ⟨namedSettings splitName⟩,
    load_named (by decide), cron_marker_registered pairId _, rfl,
    snapshots_apart (by decide) (by decide) apart, pair_text _,
    cron_config_named pairId (by decide), ?_⟩
  intro same
  exact apart (Value.str.inj (congrFun (CashewConfig.mk.inj same) .userDomain))

end HermesCashew.CronMarker
