import HermesCashew.ConfigSaving
import HermesCashew.Transition

/-!
# The first configuration file

`generate_default_config` looks for `cashew.json` before it takes the lock that
`save_config` takes, and then saves every default as a value of its own. Callers are threads
of any processes on one home; the lock is both the one within a process and the one on the
lock file.
-/

namespace HermesCashew.ConfigBootstrap

open HermesCashew.Config
open HermesCashew.JsonDocument
open HermesCashew.JsonText (Str str)
open HermesCashew.Raising
open HermesCashew.Transition

set_option autoImplicit false

/-! ## Callers -/

abbrev Caller := Nat

inductive Call where
  /-- `save_config(dict(DEFAULTS), hermes_home)` of `generate_default_config`. -/
  | bootstrap
  | save (values : Values)

/-- `dict(DEFAULTS)`. -/
def defaultValues : Values := fun name =>
  (SortedDict.get name defaultItems).map Given.json

def Call.values : Call → Values
  | .bootstrap => defaultValues
  | .save values => values

inductive Phase where
  | idle
  /-- `save_config` has been called, and does not have the lock. -/
  | called (call : Call)
  | locked (call : Call)
  /-- The file has been read, and these contents are about to replace it. -/
  | merged (call : Call) (settings : Key → Value) (contents : List Char)
  | replaced

def Phase.holds : Phase → Bool
  | .idle | .called _ => false
  | _ => true

structure Written where
  call : Call
  settings : Key → Value

structure State where
  file : File
  lock : Option Caller
  phase : Caller → Phase
  writes : List Written

def start : State :=
  ⟨none, none, fun _ => .idle, []⟩

def State.enter (state : State) (caller : Caller) (phase : Phase) : State :=
  { state with phase := Function.update state.phase caller phase }

@[simp] theorem enter_self (state : State) (caller : Caller) (phase : Phase) :
    (state.enter caller phase).phase caller = phase := by
  simp only [State.enter, Function.update_self]

theorem enter_other {state : State} {caller other : Caller} {phase : Phase}
    (different : other ≠ caller) :
    (state.enter caller phase).phase other = state.phase other := by
  simp only [State.enter, ne_eq, different, not_false_eq_true, Function.update_of_ne]

inductive Action where
  /-- `generate_default_config`, up to its test. -/
  | generate (caller : Caller)
  | save (caller : Caller) (values : Values)
  | acquire (caller : Caller)
  | merge (caller : Caller)
  | replace (caller : Caller) (disk : Disk)
  | release (caller : Caller)
  /-- An exception, or the end of the process. -/
  | stop (caller : Caller)

/-- What `save_config` makes of the file before it replaces it. -/
def mergedConfig (python : Python) (home : Home) (values : Values) (file : File) :
    Except Error ((Key → Value) × List Char) := do
  let raw ← readExistingConfig python file
  let merged := SortedDict.update defaultItems (withoutLegacy raw)
  let validated ← validateConfigValues home (mergedSetting merged values)
  .ok (validated, dumps indented (.dict (SortedDict.update merged (settingItems validated))) ++
    ['\n'])

section

variable (python : Python) (home : Home)

def step (state : State) : Action → Option State
  | .generate caller =>
      match state.phase caller with
      | .idle =>
          if state.file.isSome then some state
          else some (state.enter caller (.called .bootstrap))
      | _ => none
  | .save caller values =>
      match state.phase caller with
      | .idle => some (state.enter caller (.called (.save values)))
      | _ => none
  | .acquire caller =>
      match state.phase caller, state.lock with
      | .called call, none => some { state.enter caller (.locked call) with lock := some caller }
      | _, _ => none
  | .merge caller =>
      match state.phase caller with
      | .locked call =>
          match mergedConfig python home call.values state.file with
          | .ok (settings, contents) =>
              some (state.enter caller (.merged call settings contents))
          | .error _ => some (state.enter caller .replaced)
      | _ => none
  | .replace caller disk =>
      match state.phase caller with
      | .merged call settings contents =>
          some { state.enter caller .replaced with
            file := (atomicWriteConfig disk contents state.file).2
            writes := if disk = .refuses then state.writes
              else state.writes ++ [⟨call, settings⟩] }
      | _ => none
  | .release caller =>
      match state.phase caller with
      | .replaced => some { state.enter caller .idle with lock := none }
      | _ => none
  | .stop caller =>
      some { state.enter caller .idle with
        lock := if state.lock = some caller then none else state.lock }

end

/-! ## What is to be kept -/

def Has (python : Python) (file : File) (key : Key) (value : Value) : Prop :=
  ∃ items, readExistingConfig python file = .ok items ∧
    SortedDict.get key.name items = some value.reread

/-- A caller other than `generate_default_config` has set the key. -/
def Written.Sets (written : Written) (key : Key) : Prop :=
  ∃ values given, written.call = .save values ∧ values key.name = some given

/-- Every value that was written is in the file, unless a later save has set its key. -/
def Kept (python : Python) (state : State) : Prop :=
  ∀ before entry after, state.writes = before ++ entry :: after → ∀ key : Key,
    Has python state.file key (entry.settings key) ∨ ∃ later ∈ after, later.Sets key

/-- A bootstrap that is about to replace the file finds none, or one of defaults only. -/
def Timely (python : Python) (state : State) : Action → Prop
  | .replace caller _ => ∀ settings contents,
      state.phase caller = .merged .bootstrap settings contents →
        state.file = none ∨ ∀ key, Has python state.file key (defaults key)
  | _ => True

/-! ## A value that is read back and accepted -/

section

variable {home : Home} {key : Key} {given : Given} {value again : Value}

theorem reread_ordered (value : Value) : value.reread.Ordered :=
  settle_ordered _

theorem reread_joined_value (value : Value) : value.reread.Joined :=
  settle_joined _

theorem reread_again (value : Value) : value.reread.reread = value.reread :=
  reread_settled _ (reread_ordered value) (reread_joined_value value)

/-- Joining the pairs of another name never makes it the retired flag. -/
theorem joined_not_parallel {name : Str} (other : name ≠ parallelRetrieval) :
    JsonText.joined name ≠ parallelRetrieval := by
  have all : parallelRetrieval.all (fun point => decide (point.val < 0x10000)) = true := by decide
  have below : ∀ point ∈ parallelRetrieval, point.val < 0x10000 := fun point member =>
    of_decide_eq_true (List.all_eq_true.mp all point member)
  intro same
  rw [← same] at below
  exact other ((joined_below below).symm.trans same)

/-- Flags that were validated, written and read are accepted as they are. -/
theorem flags_reread {items : Items}
    (flags : ∀ entry ∈ items, entry.1 ≠ parallelRetrieval)
    (accepted : validateFeatures (.json (Value.dict items).reread) = .ok again) :
    again = (Value.dict items).reread := by
  have read : (Value.dict items).reread = .dict (SortedDict.ofEntries
      (items.map fun entry => (JsonText.joined entry.1, entry.2.reread))) := by
    rw [← settle_document_members]
    rfl
  have kept : ∀ entry ∈ SortedDict.ofEntries
      (items.map fun entry => (JsonText.joined entry.1, entry.2.reread)),
      decide (entry.1 ≠ parallelRetrieval) = true := by
    intro entry member
    obtain ⟨old, there, rfl⟩ := List.mem_map.mp (SortedDict.mem_of_entries member)
    exact decide_eq_true (joined_not_parallel (flags old there))
  rw [read] at accepted ⊢
  cases validate_features_ok accepted with
  | same unchanged flat => exact (Given.json.inj unchanged).symm
  | timeout timeout is_timeout made inside => cases is_timeout
  | features others is_features unchanged named made =>
      obtain rfl := Value.dict.inj (Given.json.inj unchanged)
      rw [made, List.filter_eq_self.mpr kept,
        SortedDict.of_entries_sorted (SortedDict.sorted_of_entries _)]

theorem validated_documented (accepted : validateField home key given = .ok value) :
    Documented home key value := by
  have ends : Ends home key given (validateField home key given) := field_ends
  rw [accepted] at ends
  exact ends.1

theorem timeout_reread (documented : Documented home .syncQueueTimeout value) :
    value.reread = value := by
  cases value with
  | float timeout => exact reread_settled _ trivial trivial
  | _ => exact absurd documented id

/-- What was validated once and is accepted after it was read back is left as it is. -/
theorem validate_reread (accepted : validateField home key given = .ok value)
    (accepted_again : validateField home key (.json value.reread) = .ok again) :
    again = value.reread := by
  have documented := validated_documented accepted
  cases validate_field_ok accepted_again with
  | same unchanged flat => exact (Given.json.inj unchanged).symm
  | timeout timeout is_timeout made inside =>
      subst is_timeout
      have settled := timeout_reread documented
      rw [settled, validate_field_again accepted] at accepted_again
      rw [settled, Except.ok.inj accepted_again]
  | features items is_features unchanged named made =>
      subst is_features
      cases value with
      | dict flags =>
          exact flags_reread (fun entry member => (documented.2 entry member).2.1) accepted_again
      | _ => exact absurd documented id

end

/-! ## What a step does -/

section

variable {python : Python} {home : Home} {values : Values} {file : File}

/-- `save_config` is its two parts under the lock. -/
theorem save_config_parts (python : Python) (home : Home) (disk : Disk) (values : Values)
    (file : File) :
    saveConfig python home disk values file =
      match mergedConfig python home values file with
      | .error error => (.error error, file)
      | .ok made => atomicWriteConfig disk made.2 file := by
  rw [save_config_eq, mergedConfig]
  cases readExistingConfig python file with
  | error error => rfl
  | ok raw =>
      dsimp only [bind, Except.bind]
      rw [← fileItems]
      cases validateConfigValues home (mergedSetting (fileItems raw) values) with
      | error error => rfl
      | ok settings => rfl

theorem merged_config_ok {settings : Key → Value} {contents : List Char}
    (made : mergedConfig python home values file = .ok (settings, contents)) :
    ∃ raw, readExistingConfig python file = .ok raw ∧
      validateConfigValues home (mergedSetting (fileItems raw) values) = .ok settings ∧
      some (Content.text contents) = some (fileText (written raw settings)) := by
  unfold mergedConfig at made
  cases read : readExistingConfig python file with
  | error error =>
      rw [read] at made
      cases made
  | ok raw =>
      rw [read] at made
      dsimp only [bind, Except.bind] at made
      rw [← fileItems] at made
      cases accepted : validateConfigValues home (mergedSetting (fileItems raw) values) with
      | error error =>
          rw [accepted] at made
          cases made
      | ok found =>
          rw [accepted] at made
          obtain ⟨rfl, rfl⟩ := Prod.mk.inj (Except.ok.inj made)
          exact ⟨raw, rfl, accepted, rfl⟩

end

inductive Steps (python : Python) (home : Home) (state : State) (caller : Caller) :
    Action → State → Prop where
  | found (idle : state.phase caller = .idle) :
      Steps python home state caller (.generate caller) state
  | missing (idle : state.phase caller = .idle) (absent : state.file = none) :
      Steps python home state caller (.generate caller)
        (state.enter caller (.called .bootstrap))
  | save (values : Values) (idle : state.phase caller = .idle) :
      Steps python home state caller (.save caller values)
        (state.enter caller (.called (.save values)))
  | acquire (call : Call) (called : state.phase caller = .called call)
      (free : state.lock = none) :
      Steps python home state caller (.acquire caller)
        { state.enter caller (.locked call) with lock := some caller }
  | merge (call : Call) (settings : Key → Value) (contents : List Char)
      (locked : state.phase caller = .locked call)
      (made : mergedConfig python home call.values state.file = .ok (settings, contents)) :
      Steps python home state caller (.merge caller)
        (state.enter caller (.merged call settings contents))
  | refused (call : Call) (locked : state.phase caller = .locked call) :
      Steps python home state caller (.merge caller) (state.enter caller .replaced)
  | unwritten (call : Call) (settings : Key → Value) (contents : List Char)
      (merged : state.phase caller = .merged call settings contents) :
      Steps python home state caller (.replace caller .refuses) (state.enter caller .replaced)
  | replace (call : Call) (settings : Key → Value) (contents : List Char) (disk : Disk)
      (merged : state.phase caller = .merged call settings contents) :
      Steps python home state caller (.replace caller disk)
        { state.enter caller .replaced with
          file := some (.text contents)
          writes := state.writes ++ [⟨call, settings⟩] }
  | release (replaced : state.phase caller = .replaced) :
      Steps python home state caller (.release caller)
        { state.enter caller .idle with lock := none }
  | stop :
      Steps python home state caller (.stop caller)
        { state.enter caller .idle with
          lock := if state.lock = some caller then none else state.lock }

theorem step_cases {python : Python} {home : Home} {state following : State} {action : Action}
    (taken : step python home state action = some following) :
    ∃ caller, Steps python home state caller action following := by
  cases action with
  | generate caller =>
      refine ⟨caller, ?_⟩
      simp only [step] at taken
      split at taken
      · rename_i idle
        split at taken
        · obtain rfl := Option.some.inj taken
          exact .found idle
        · rename_i absent
          obtain rfl := Option.some.inj taken
          exact .missing idle (Option.not_isSome_iff_eq_none.mp absent)
      · cases taken
  | save caller values =>
      refine ⟨caller, ?_⟩
      simp only [step] at taken
      split at taken
      · rename_i idle
        obtain rfl := Option.some.inj taken
        exact .save values idle
      · cases taken
  | acquire caller =>
      refine ⟨caller, ?_⟩
      simp only [step] at taken
      split at taken
      · rename_i call called free
        obtain rfl := Option.some.inj taken
        exact .acquire call called free
      · cases taken
  | merge caller =>
      refine ⟨caller, ?_⟩
      simp only [step] at taken
      split at taken
      · rename_i call locked
        split at taken
        · rename_i settings contents made
          obtain rfl := Option.some.inj taken
          exact .merge call settings contents locked made
        · obtain rfl := Option.some.inj taken
          exact .refused call locked
      · cases taken
  | replace caller disk =>
      refine ⟨caller, ?_⟩
      simp only [step] at taken
      split at taken
      · rename_i call settings contents merged
        obtain rfl := Option.some.inj taken
        cases disk with
        | writes => exact .replace call settings contents .writes merged
        | refuses => exact .unwritten call settings contents merged
        | unsynchronised => exact .replace call settings contents .unsynchronised merged
      · cases taken
  | release caller =>
      refine ⟨caller, ?_⟩
      simp only [step] at taken
      split at taken
      · rename_i replaced
        obtain rfl := Option.some.inj taken
        exact .release replaced
      · cases taken
  | stop caller =>
      simp only [step] at taken
      obtain rfl := Option.some.inj taken
      exact ⟨caller, .stop⟩

/-! ## The lock and the last write -/

inductive LastWrite (python : Python) (home : Home) (state : State) : Prop where
  | nothing (absent : state.file = none) (unwritten : state.writes = [])
  | made (before : List Written) (entry : Written) (prior : File) (contents : List Char)
      (writes : state.writes = before ++ [entry])
      (merged : mergedConfig python home entry.call.values prior = .ok (entry.settings, contents))
      (file : state.file = some (.text contents))

structure Consistent (python : Python) (home : Home) (state : State) : Prop where
  holder : ∀ caller, (state.phase caller).holds = true → state.lock = some caller
  merged : ∀ caller call settings contents,
    state.phase caller = .merged call settings contents →
      mergedConfig python home call.values state.file = .ok (settings, contents)
  last : LastWrite python home state

section

variable {python : Python} {home : Home} {state following : State} {caller : Caller}
  {action : Action}

theorem holder_enter {lock : Option Caller} {phase : Phase}
    (own : phase.holds = true → lock = some caller)
    (others : ∀ other, other ≠ caller → (state.phase other).holds = true → lock = some other)
    (other : Caller) (holds : ((state.enter caller phase).phase other).holds = true) :
    lock = some other := by
  by_cases same : other = caller
  · rw [same, enter_self] at holds
    rw [same]
    exact own holds
  · rw [enter_other same] at holds
    exact others other same holds

/-- The other callers do not hold the lock that a caller holds. -/
theorem others_wait (consistent : Consistent python home state)
    (holds : (state.phase caller).holds = true) {other : Caller} (different : other ≠ caller) :
    (state.phase other).holds = false := by
  cases held : (state.phase other).holds with
  | false => rfl
  | true =>
      have own := consistent.holder caller holds
      rw [consistent.holder other held] at own
      exact absurd (Option.some.inj own) different

theorem merged_enter {phase : Phase} (consistent : Consistent python home state)
    (own : ∀ call settings contents, phase = .merged call settings contents →
      mergedConfig python home call.values state.file = .ok (settings, contents))
    (other : Caller) (call : Call) (settings : Key → Value) (contents : List Char)
    (merged : (state.enter caller phase).phase other = .merged call settings contents) :
    mergedConfig python home call.values state.file = .ok (settings, contents) := by
  by_cases same : other = caller
  · rw [same, enter_self] at merged
    exact own call settings contents merged
  · rw [enter_other same] at merged
    exact consistent.merged other call settings contents merged

theorem last_write_congr {other : State} (last : LastWrite python home state)
    (same_file : other.file = state.file) (same_writes : other.writes = state.writes) :
    LastWrite python home other := by
  cases last with
  | nothing absent unwritten =>
      exact .nothing (same_file.trans absent) (same_writes.trans unwritten)
  | made before entry prior contents writes merged file =>
      exact .made before entry prior contents (same_writes.trans writes) merged
        (same_file.trans file)

/-- A step that leaves the file and the lock alone. -/
theorem enter_consistent {phase : Phase} (consistent : Consistent python home state)
    (lock : phase.holds = true → state.lock = some caller)
    (own : ∀ call settings contents, phase = .merged call settings contents →
      mergedConfig python home call.values state.file = .ok (settings, contents)) :
    Consistent python home (state.enter caller phase) where
  holder := holder_enter lock fun other _ => consistent.holder other
  merged := merged_enter consistent own
  last := last_write_congr consistent.last rfl rfl

theorem locked_holds {call : Call} (locked : state.phase caller = .locked call) :
    (state.phase caller).holds = true := by
  rw [locked]
  rfl

theorem merged_holds {call : Call} {settings : Key → Value} {contents : List Char}
    (merged : state.phase caller = .merged call settings contents) :
    (state.phase caller).holds = true := by
  rw [merged]
  rfl

theorem steps_consistent (consistent : Consistent python home state)
    (steps : Steps python home state caller action following) :
    Consistent python home following := by
  cases steps with
  | found idle => exact consistent
  | missing idle absent => exact enter_consistent consistent nofun nofun
  | save values idle => exact enter_consistent consistent nofun nofun
  | acquire call called free =>
      refine ⟨holder_enter (fun _ => rfl) ?_, merged_enter consistent nofun,
        last_write_congr consistent.last rfl rfl⟩
      intro other _ holds
      have held := consistent.holder other holds
      rw [free] at held
      cases held
  | merge call settings contents locked made =>
      apply enter_consistent consistent
      · intro _
        exact consistent.holder caller (locked_holds locked)
      · intro other others text same
        cases same
        exact made
  | refused call locked =>
      exact enter_consistent consistent
        (fun _ => consistent.holder caller (locked_holds locked)) nofun
  | unwritten call settings contents merged =>
      exact enter_consistent consistent
        (fun _ => consistent.holder caller (merged_holds merged)) nofun
  | replace call settings contents disk merged =>
      have holds := merged_holds merged
      refine ⟨holder_enter (fun _ => consistent.holder caller holds)
        fun other _ => consistent.holder other, ?_, ?_⟩
      · intro other call_ settings_ contents_ ready
        by_cases same : other = caller
        · rw [same, enter_self] at ready
          cases ready
        · rw [enter_other same] at ready
          have waits := others_wait consistent holds same
          rw [ready] at waits
          cases waits
      · exact .made state.writes ⟨call, settings⟩ state.file contents rfl
          (consistent.merged caller call settings contents merged) rfl
  | release replaced =>
      refine ⟨holder_enter nofun ?_, merged_enter consistent nofun,
        last_write_congr consistent.last rfl rfl⟩
      intro other different holds
      have own : (state.phase caller).holds = true := by
        rw [replaced]
        rfl
      rw [others_wait consistent own different] at holds
      cases holds
  | stop =>
      refine ⟨holder_enter nofun ?_, merged_enter consistent nofun,
        last_write_congr consistent.last rfl rfl⟩
      intro other different holds
      have held := consistent.holder other holds
      rw [if_neg, held]
      rw [held]
      exact fun same => different (Option.some.inj same)

theorem start_consistent (python : Python) (home : Home) : Consistent python home start where
  holder := nofun
  merged := nofun
  last := .nothing rfl rfl

theorem reaches_consistent {allowed : State → Action → Prop}
    (reached : Reaches (step python home) allowed start state) :
    Consistent python home state := by
  apply reached.invariant (Consistent python home) (start_consistent python home)
  intro before action after consistent _ taken
  obtain ⟨caller, steps⟩ := step_cases taken
  exact steps_consistent consistent steps

end

/-! ## Values are kept -/

section

variable {python : Python} {home : Home} {state following : State} {caller : Caller}
  {prior : File} {values earlier : Values} {settings last : Key → Value}
  {contents text : List Char}

/-- What a file has that was written. -/
theorem has_written (room : 2 ≤ python.nesting)
    (made : mergedConfig python home values prior = .ok (settings, contents)) (key : Key)
    (value : Value) :
    Has python (some (.text contents)) key value ↔ (settings key).reread = value.reread := by
  obtain ⟨raw, read, accepted, same⟩ := merged_config_ok made
  have found := @get_reread_known raw settings key
  rw [same]
  unfold Has
  rw [read_written room read accepted]
  constructor
  · rintro ⟨items, whole, there⟩
    obtain rfl := Except.ok.inj whole
    rw [found] at there
    exact Option.some.inj there
  · intro alike
    exact ⟨_, rfl, by rw [found, alike]⟩

/-- A key that is not set, or set to what the file has, is kept. -/
theorem unset_kept (room : 2 ≤ python.nesting)
    (made_last : mergedConfig python home earlier prior = .ok (last, text))
    (made : mergedConfig python home values (some (.text text)) = .ok (settings, contents))
    (key : Key)
    (unset : values key.name = none ∨ values key.name = some (.json (last key).reread)) :
    (settings key).reread = (last key).reread := by
  obtain ⟨raw, read, accepted, same⟩ := merged_config_ok made_last
  obtain ⟨items, read_again, accepted_again, -⟩ := merged_config_ok made
  rw [same, read_written room read accepted] at read_again
  obtain rfl := Except.ok.inj read_again
  have given : mergedSetting (fileItems (rereadItems (written raw last))) values key =
      .json (last key).reread := by
    rcases unset with absent | same_value
    · rw [merged_absent _ absent, get_file_items (reread_sorted (written_sorted raw last)),
        if_neg key.name_not_legacy, get_reread_known]
      rfl
    · exact merged_given _ same_value
  have own := validate_config_values_iff.mp accepted key
  have again := validate_config_values_iff.mp accepted_again key
  rw [given] at again
  rw [validate_reread own again, reread_again]

theorem default_values_known (key : Key) :
    defaultValues key.name = some (.json (defaults key)) := by
  rw [defaultValues, known_default]
  rfl

theorem default_reread (key : Key) : (defaults key).reread = defaults key := by
  apply reread_settled
  · cases key with
    | features => exact ⟨List.pairwise_singleton _ _, trivial, trivial⟩
    | _ => exact trivial
  · exact defaults_joined key

/-- A call that does not set the key has no value for it, but for a bootstrap's default. -/
theorem timely_unset {call : Call} {key : Key} {value : Value}
    (unset : ¬ Written.Sets ⟨call, settings⟩ key)
    (default : call = .bootstrap → value = defaults key) :
    call.values key.name = none ∨ call.values key.name = some (.json value) := by
  cases call with
  | bootstrap =>
      rw [default rfl]
      exact .inr (default_values_known key)
  | save values =>
      left
      cases given : values key.name with
      | none => exact given
      | some given_ => exact absurd ⟨values, given_, rfl, given⟩ unset

/-- Writing a file keeps every value of the last one whose key is not set. -/
theorem replace_keeps (room : 2 ≤ python.nesting) (consistent : Consistent python home state)
    (kept : Kept python state) {call : Call} {disk : Disk}
    (merged : state.phase caller = .merged call settings contents)
    (timely : Timely python state (.replace caller disk)) {lock : Option Caller}
    {phase : Caller → Phase} :
    Kept python ⟨some (.text contents), lock, phase, state.writes ++ [⟨call, settings⟩]⟩ := by
  have made := consistent.merged caller call settings contents merged
  intro before entry after writes key
  rcases List.eq_nil_or_concat' after with rfl | ⟨later, final, rfl⟩
  · obtain ⟨-, rfl⟩ := List.append_singleton_inj.mp writes
    exact .inl ((has_written room made key _).mpr rfl)
  · rw [← List.cons_append, ← List.append_assoc] at writes
    obtain ⟨earlier_writes, rfl⟩ := List.append_singleton_inj.mp writes
    rcases kept before entry later earlier_writes key with has | ⟨other, member, sets⟩
    · by_cases sets : Written.Sets ⟨call, settings⟩ key
      · exact .inr ⟨_, List.mem_concat_self, sets⟩
      · left
        cases consistent.last with
        | nothing absent unwritten =>
            rw [unwritten] at earlier_writes
            exact absurd earlier_writes.symm (List.append_ne_nil_of_right_ne_nil _
              (List.cons_ne_nil entry later))
        | made _ first prior text _ made_last file =>
            rw [file] at made has
            have same := (has_written room made_last key _).mp has
            have unset : call.values key.name = none ∨
                call.values key.name = some (.json (first.settings key).reread) := by
              apply timely_unset sets
              intro bootstrap
              subst bootstrap
              rcases timely settings contents merged with absent | defaults_there
              · rw [file] at absent
                cases absent
              · have there := defaults_there key
                rw [file, has_written room made_last, default_reread] at there
                exact there
            rw [has_written room made, unset_kept room made_last made key unset]
            exact same
    · exact .inr ⟨other, List.mem_append_left _ member, sets⟩

end

/-! ## Every run -/

section

variable {python : Python} {home : Home} {state following : State} {caller : Caller}
  {action : Action}

theorem steps_kept (room : 2 ≤ python.nesting) (consistent : Consistent python home state)
    (kept : Kept python state) (timely : Timely python state action)
    (steps : Steps python home state caller action following) : Kept python following := by
  cases steps with
  | replace call settings contents disk merged =>
      exact replace_keeps room consistent kept merged timely
  | _ => exact kept

/-- In every run whose bootstraps are timely, what a save has written stays in the file until a
later save sets its key. -/
theorem writes_kept (python : Python) (home : Home) (room : 2 ≤ python.nesting) {state : State}
    (reached : Reaches (step python home) (Timely python) start state) : Kept python state := by
  apply reached.invariant_with (Consistent python home) (Kept python)
  · intro other other_reached
    exact reaches_consistent other_reached
  · intro before entry after writes
    exact absurd writes.symm (List.append_ne_nil_of_right_ne_nil _ (List.cons_ne_nil _ _))
  · intro before action after consistent kept timely taken
    obtain ⟨caller, steps⟩ := step_cases taken
    exact steps_kept room consistent kept timely steps

def Quiet (allowed : State → Action → Prop) : Prop :=
  ∀ state action, (∀ caller disk, action ≠ .replace caller disk) → allowed state action

/-- A call that gets the lock at once and can be merged goes through. -/
theorem save_completes {allowed : State → Action → Prop} (quiet : Quiet allowed) {call : Call}
    {settings : Key → Value} {contents : List Char}
    (reached : Reaches (step python home) allowed start state)
    (called : state.phase caller = .called call) (free : state.lock = none)
    (made : mergedConfig python home call.values state.file = .ok (settings, contents))
    (permitted : ∀ ready : State, ready.file = state.file →
      ready.phase caller = .merged call settings contents →
        allowed ready (.replace caller .writes)) :
    ∃ after, Reaches (step python home) allowed start after ∧
      after.file = some (.text contents) ∧ after.lock = none ∧
      after.phase = Function.update state.phase caller .idle ∧
      after.writes = state.writes ++ [⟨call, settings⟩] := by
  have locked : Reaches (step python home) allowed start
      { state.enter caller (.locked call) with lock := some caller } :=
    reached.next (quiet _ (.acquire caller) nofun) (by simp only [step, called, free])
  have merged : Reaches (step python home) allowed start
      { (state.enter caller (.locked call)).enter caller (.merged call settings contents) with
        lock := some caller } := by
    apply locked.next (quiet _ (.merge caller) nofun)
    have own : (state.enter caller (.locked call)).phase caller = .locked call := enter_self ..
    have there : (state.enter caller (.locked call)).file = state.file := rfl
    simp only [step, own, there, made]
    rfl
  have ready : ((state.enter caller (.locked call)).enter caller
      (.merged call settings contents)).phase caller = .merged call settings contents :=
    enter_self ..
  have replaced := merged.next (permitted _ rfl ready) (by
    simp only [step, ready]
    rfl)
  have released := replaced.next (quiet _ (.release caller) nofun) (by
    simp only [step, State.enter, Function.update_self]
    rfl)
  refine ⟨_, released, rfl, rfl, ?_, rfl⟩
  simp only [Function.update_idem]

theorem merged_config_made {values : Values} {file : File} {raw : Items} {settings : Key → Value}
    (read : readExistingConfig python file = .ok raw)
    (accepted : validateConfigValues home (mergedSetting (fileItems raw) values) = .ok settings) :
    mergedConfig python home values file =
      .ok (settings, dumps indented (.dict (written raw settings)) ++ ['\n']) := by
  rw [mergedConfig, read]
  dsimp only [bind, Except.bind]
  rw [← fileItems, accepted]
  rfl

end

/-! ## A bootstrap that comes late -/

def savedName : Str := str "me"

def namedContents : List Char :=
  dumps indented (.dict (written [] (namedSettings savedName))) ++ ['\n']

theorem named_merged : mergedConfig plainPython plainHome (namedValues savedName) none =
    .ok (namedSettings savedName, namedContents) :=
  merged_config_made rfl (named_values_accepted plain_home_inside (by decide))

/-- A bootstrap sets every default, whatever the file has. -/
theorem defaults_merged (name : Str) (contents : List Char)
    (made : mergedConfig plainPython plainHome (namedValues name) none =
      .ok (namedSettings name, contents)) :
    ∃ text, mergedConfig plainPython plainHome Call.bootstrap.values (some (.text contents)) =
      .ok (defaults, text) := by
  obtain ⟨raw, read, accepted, same⟩ := merged_config_ok made
  have accepted_defaults : ∀ items,
      validateConfigValues plainHome (mergedSetting items defaultValues) = .ok defaults := by
    intro items
    apply validate_config_values_iff.mpr
    intro key
    rw [merged_given items (default_values_known key)]
    exact validate_field_documented (defaults_documented plain_home_inside key)
  rw [same]
  exact ⟨_, merged_config_made (read_written (by decide) read accepted) (accepted_defaults _)⟩

/-- The second caller has saved a name before the first one, which has found no file, comes to
its turn. -/
theorem name_saved_meanwhile : ∃ state,
    Reaches (step plainPython plainHome) (Timely plainPython) start state ∧
      state.file = some (.text namedContents) ∧ state.lock = none ∧
      state.phase 0 = .called .bootstrap ∧
      state.writes = [⟨.save (namedValues savedName), namedSettings savedName⟩] := by
  have quiet : Quiet (Timely plainPython) := by
    intro state action other
    cases action with
    | replace caller disk => exact absurd rfl (other caller disk)
    | _ => exact trivial
  have missing : step plainPython plainHome start (.generate 0) =
      some (start.enter 0 (.called .bootstrap)) := rfl
  have tested := Reaches.start.next (quiet _ (.generate 0) nofun) missing
  have idle : step plainPython plainHome (start.enter 0 (.called .bootstrap))
      (.save 1 (namedValues savedName)) =
        some ((start.enter 0 (.called .bootstrap)).enter 1
          (.called (.save (namedValues savedName)))) := rfl
  have called := tested.next (quiet _ (.save 1 (namedValues savedName)) nofun) idle
  obtain ⟨state, reached, file, lock, phase, writes⟩ :=
    save_completes quiet called (enter_self ..) rfl named_merged (by
      intro ready _ merged settings contents bootstrap
      rw [merged] at bootstrap
      cases bootstrap)
  refine ⟨state, reached, file, lock, ?_, writes⟩
  rw [phase]
  rfl

theorem name_kept_meanwhile : ∃ state,
    state.writes = [⟨.save (namedValues savedName), namedSettings savedName⟩] ∧
      Kept plainPython state := by
  obtain ⟨state, reached, -, -, -, writes⟩ := name_saved_meanwhile
  exact ⟨state, writes, writes_kept plainPython plainHome (by decide) reached⟩

/-- Then the bootstrap saves the defaults over the name. -/
theorem bootstrap_overwrites_name : ∃ state,
    Reaches (step plainPython plainHome) anyStep start state ∧
      state.writes = [⟨.save (namedValues savedName), namedSettings savedName⟩,
        ⟨.bootstrap, defaults⟩] ∧
      ¬ Kept plainPython state := by
  obtain ⟨before, reached, file, lock, phase, writes⟩ := name_saved_meanwhile
  obtain ⟨text, made⟩ := defaults_merged savedName namedContents named_merged
  rw [← file] at made
  obtain ⟨state, late, after, -, -, both⟩ := save_completes (fun _ _ _ => trivial)
    reached.weaken phase lock made (fun _ _ _ => trivial)
  rw [writes] at both
  refine ⟨state, late, both, ?_⟩
  intro kept
  rcases kept [] _ [⟨.bootstrap, defaults⟩] both .userDomain with has | ⟨later, member, sets⟩
  · rw [after, has_written (by decide) made, default_reread] at has
    have joined : JsonDocument.Joined savedName := by decide
    have name : (Value.str savedName).reread = .str savedName :=
      reread_settled _ trivial joined
    have same : Value.str (str "user") = .str savedName := has.trans name
    exact absurd (Value.str.inj same) (by decide)
  · obtain rfl := List.mem_singleton.mp member
    obtain ⟨values, given, save, -⟩ := sets
    cases save

end HermesCashew.ConfigBootstrap
