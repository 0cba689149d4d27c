import HermesCashew.Raising
import Mathlib.Algebra.GroupWithZero.Nat
import Mathlib.Algebra.Order.BigOperators.Group.List
import Mathlib.Algebra.Order.Group.Nat
import Mathlib.Data.List.Nodup
import Mathlib.Tactic.SplitIfs
import Mathlib.Logic.Function.Basic

/-!
# Reconciliation of the sleep job

`_register_sleep_cron` and `_suspend_sleep_cron` over the job list of the host's scheduler.
A job is an untrusted dictionary; `owns_job` looks at five of its fields. The host stores
what it is given, and parses a schedule the same way each time.
-/

namespace HermesCashew.CronReconcile

open HermesCashew.Raising
open HermesCashew.Raising.Block (Keeps Ends)

set_option autoImplicit false

/-! ## Jobs -/

/-- A value of a job's dictionary. `Data` is what is not looked at. -/
inductive Value (Data : Type) where
  | null
  | bool (value : Bool)
  | text (value : String)
  | dict (data : Data)
  | other (data : Data)
  deriving DecidableEq, Repr

abbrev Job (Data : Type) := String → Option (Value Data)

section

variable {Data : Type}

/-- `job.get(key)`. -/
def get (job : Job Data) (key : String) : Value Data :=
  (job key).getD .null

def idText (job : Job Data) : Option String :=
  match get job "id" with
  | .text value => some value
  | _ => none

end

def cronJobName : String := "cashew-sleep-cycle"

def cronScriptName : String := "cashew-sleep-cycle.py"

def cronPrompt (profileId : String) : String :=
  "hermes-cashew sleep cycle [" ++ profileId ++ "]"

/-! ## The host and the provider -/

structure Config where
  sleepCycles : Bool
  sleepSchedule : String

/-- The functions of `cron.jobs`, with the operations that raise. `times` tells whether
`get("times")` of a dictionary is `None`. -/
structure Host (Data : Type) where
  available : Bool
  parseSchedule : String → Except Unit (Value Data)
  times : Data → Bool
  lists : Bool
  removes : String → Bool
  updates : String → Bool
  creates : Bool
  details : Job Data
  freshId : List (Job Data) → String
  fresh : ∀ jobs, ∀ job ∈ jobs, idText job ≠ some (freshId jobs)

/-- `rendered` is the script with the marker of the installation and the configuration. -/
structure Provider where
  hermesHome : Option String
  config : Option Config
  embeddingIdentityReady : Bool
  profileIdentity : String → String
  locks : Bool
  rendered : String → Config → Except Unit String
  stages : Bool

structure State (Data : Type) where
  jobs : List (Job Data)
  script : Option String
  sleepCronJobId : Option String
  healthCron : String

inductive Failure where
  | importError
  | exception
  deriving DecidableEq, Repr

abbrev Run (Data Result : Type) := Block (State Data) Failure Result

section

variable {Data : Type} (host : Host Data) (provider : Provider)

def ownsJob (profileId : String) (job : Job Data) : Bool :=
  let repeatsForever := match get job "repeat" with
    | .null => true
    | .dict data => host.times data
    | _ => false
  (match get job "name" with
    | .text name => name = cronJobName
    | _ => false) &&
    (match get job "script" with
    | .text script => script = cronScriptName
    | _ => false) &&
    (match get job "prompt" with
    | .text prompt => prompt = cronPrompt profileId
    | _ => false) &&
    (match get job "no_agent" with
    | .bool value => value
    | _ => false) &&
    repeatsForever

/-! ## The operations of the host -/

def ensure (holds : Bool) (failure : Failure) : Run Data Unit :=
  if holds then pure () else Block.raise failure

def orRaise {Result : Type} : Except Unit Result → Run Data Result
  | .ok result => pure result
  | .error _ => Block.raise .exception

def update (change : State Data → State Data) : Run Data Unit :=
  fun state => (.ok (), change state)

def listJobs : Run Data (List (Job Data)) := do
  ensure host.lists .exception
  fun state => (.ok state.jobs, state)

def removeJob (jobId : String) : Run Data Unit := do
  ensure (host.removes jobId) .exception
  update fun state => { state with jobs := state.jobs.filter fun job => idText job ≠ some jobId }

def reschedule (jobId : String) (parsed : Value Data) (job : Job Data) : Job Data :=
  if idText job = some jobId then Function.update job "schedule" (some parsed) else job

/-- `update_job(job_id, {"schedule": schedule})`. -/
def updateJob (jobId schedule : String) : Run Data Unit := do
  ensure (host.updates jobId) .exception
  let parsed ← orRaise (host.parseSchedule schedule)
  update fun state => { state with jobs := state.jobs.map (reschedule jobId parsed) }

def createdJob (jobId profileId : String) (parsed : Value Data) : Job Data := fun key =>
  if key = "id" then some (.text jobId)
  else if key = "prompt" then some (.text (cronPrompt profileId))
  else if key = "schedule" then some parsed
  else if key = "name" then some (.text cronJobName)
  else if key = "script" then some (.text cronScriptName)
  else if key = "no_agent" then some (.bool true)
  else if key = "repeat" then some .null
  else host.details key

def createJob (profileId schedule : String) : Run Data String := do
  ensure host.creates .exception
  let parsed ← orRaise (host.parseSchedule schedule)
  fun state =>
    let jobId := host.freshId state.jobs
    (.ok jobId, { state with jobs := state.jobs ++ [createdJob host jobId profileId parsed] })

/-! ## The provider -/

def removeJobs : List (Job Data) → Run Data Unit
  | [] => pure ()
  | job :: rest => do
      match idText job with
      | some jobId => removeJob host jobId
      | none => pure ()
      removeJobs rest

def stageScript (content : String) : Run Data Unit := fun state =>
  if state.script = some content then (.ok (), state)
  else if provider.stages then (.ok (), { state with script := some content })
  else (.error .exception, state)

def enabled (config : Config) : Bool :=
  config.sleepCycles && config.sleepSchedule ≠ ""

def recreateJob (profileId schedule : String) (owned : List (Job Data)) : Run Data Unit := do
  removeJobs host owned
  let jobId ← createJob host profileId schedule
  update fun state => { state with sleepCronJobId := some jobId, healthCron := "registered" }

variable [DecidableEq Data]

def adoptJob (schedule : String) (parsed : Value Data) (job : Job Data) (jobId : String) :
    Run Data Unit := do
  if get job "schedule" ≠ parsed then updateJob host jobId schedule
  update fun state => { state with sleepCronJobId := some jobId, healthCron := "registered" }

def reconcileEnabled (home profileId : String) (config : Config) (parsed : Value Data)
    (owned : List (Job Data)) : Run Data Unit := do
  let script ← orRaise (provider.rendered home config)
  stageScript provider script
  match owned with
  | [job] =>
      match idText job with
      | some jobId => adoptJob host config.sleepSchedule parsed job jobId
      | none => recreateJob host profileId config.sleepSchedule owned
  | _ => recreateJob host profileId config.sleepSchedule owned

/-- `parse_schedule(desired_schedule) if enabled else None`. -/
def desired (config : Config) : Run Data (Option (Value Data)) :=
  if enabled config then do
    let parsed ← orRaise (host.parseSchedule config.sleepSchedule)
    pure (some parsed)
  else pure none

/-- The `try` of `_register_sleep_cron`. -/
def reconcile (home : String) (config : Config) : Run Data Unit := do
  ensure host.available .importError
  let parsed ← desired host config
  let profileId := provider.profileIdentity home
  ensure provider.locks .exception
  let existing ← listJobs host
  let owned := existing.filter (ownsJob host profileId)
  match parsed with
  | none => do
      removeJobs host owned
      update fun state => { state with sleepCronJobId := none }
  | some parsed => reconcileEnabled host provider home profileId config parsed owned

inductive Outcome where
  | skipped
  | done
  | failed (failure : Failure)
  deriving DecidableEq, Repr

def registerSleepCron (state : State Data) : Outcome × State Data :=
  match provider.hermesHome, provider.config with
  | some home, some config =>
      if !provider.embeddingIdentityReady then (.skipped, state)
      else
        match reconcile host provider home config state with
        | (.ok _, after) => (.done, after)
        | (.error .importError, after) =>
            (.failed .importError, { after with healthCron := "unavailable" })
        | (.error .exception, after) =>
            (.failed .exception, { after with healthCron := "failed", sleepCronJobId := none })
  | _, _ => (.skipped, state)

omit [DecidableEq Data] in
/-- The `try` of `_suspend_sleep_cron`. -/
def suspend (home : String) : Run Data Unit := do
  ensure host.available .importError
  ensure provider.locks .exception
  let existing ← listJobs host
  removeJobs host (existing.filter (ownsJob host (provider.profileIdentity home)))

def suspendSleepCron (state : State Data) : Outcome × State Data :=
  match provider.hermesHome with
  | none => (.skipped, state)
  | some home =>
      match suspend host provider home state with
      | (result, after) =>
          (match result with
            | .ok _ => .done
            | .error failure => .failed failure,
            { after with sleepCronJobId := none, healthCron := "disabled" })

end

/-! ## Owned and foreign jobs -/

section

variable {Data : Type} {host : Host Data} {provider : Provider}
variable {profileId : String} {jobs : List (Job Data)}

def owned (host : Host Data) (profileId : String) (jobs : List (Job Data)) : List (Job Data) :=
  jobs.filter (ownsJob host profileId)

def foreign (host : Host Data) (profileId : String) (jobs : List (Job Data)) :
    List (Job Data) :=
  jobs.filter fun job => !ownsJob host profileId job

/-- Every job has a string id of its own. -/
structure Scheduled (jobs : List (Job Data)) : Prop where
  named : ∀ job ∈ jobs, idText job ≠ none
  distinct : (jobs.map idText).Nodup

theorem Scheduled.same {one other : Job Data} (scheduled : Scheduled jobs) (first : one ∈ jobs)
    (second : other ∈ jobs) (ids : idText one = idText other) : one = other :=
  List.inj_on_of_nodup_map scheduled.distinct first second ids

theorem owns_created (jobId : String) (parsed : Value Data) :
    ownsJob host profileId (createdJob host jobId profileId parsed) = true := by
  simp [ownsJob, get, createdJob]

theorem created_id (jobId : String) (parsed : Value Data) :
    idText (createdJob host jobId profileId parsed) = some jobId := by
  simp [idText, get, createdJob]

theorem get_rescheduled {key jobId : String} {parsed : Value Data} (job : Job Data)
    (other : key ≠ "schedule") : get (reschedule jobId parsed job) key = get job key := by
  unfold reschedule get
  by_cases mine : idText job = some jobId
  · rw [if_pos mine, Function.update_of_ne other]
  · rw [if_neg mine]

theorem id_rescheduled {jobId : String} {parsed : Value Data} (job : Job Data) :
    idText (reschedule jobId parsed job) = idText job := by
  unfold idText
  rw [get_rescheduled job (by decide)]

theorem owns_rescheduled {jobId : String} {parsed : Value Data} (job : Job Data) :
    ownsJob host profileId (reschedule jobId parsed job) = ownsJob host profileId job := by
  unfold ownsJob
  rw [get_rescheduled job (by decide), get_rescheduled job (by decide),
    get_rescheduled job (by decide), get_rescheduled job (by decide),
    get_rescheduled job (by decide)]

theorem rescheduled_of_other {jobId : String} {parsed : Value Data} {job : Job Data}
    (other : idText job ≠ some jobId) : reschedule jobId parsed job = job :=
  if_neg other

/-- No owned job shares its id with a foreign one. -/
theorem Scheduled.apart {mine other : Job Data} (scheduled : Scheduled jobs)
    (one : mine ∈ owned host profileId jobs) (two : other ∈ foreign host profileId jobs) :
    idText other ≠ idText mine := by
  intro ids
  obtain ⟨member, owns⟩ := List.mem_filter.mp one
  obtain ⟨present, foreign⟩ := List.mem_filter.mp two
  rw [scheduled.same present member ids, owns] at foreign
  cases foreign

/-! ## The operations -/

theorem ensure_inv {holds : Bool} {failure : Failure} {state after : State Data}
    (ran : ensure holds failure state = (.ok (), after)) : holds = true ∧ state = after := by
  cases holds with
  | true => exact ⟨rfl, (Prod.mk.inj ran).2⟩
  | false => cases ran

theorem ensure_run {holds : Bool} {failure : Failure} (state : State Data) (held : holds = true) :
    ensure holds failure state = (.ok (), state) := by
  rw [held]
  rfl

theorem list_jobs_run (state : State Data) (lists : host.lists = true) :
    listJobs host state = (.ok state.jobs, state) := by
  unfold listJobs
  rw [lists]
  rfl

theorem or_raise_ok {Result : Type} {value : Except Unit Result} {result : Result}
    {state after : State Data} (ran : orRaise value state = (.ok result, after)) :
    value = .ok result ∧ state = after := by
  cases value with
  | ok given =>
      cases ran
      exact ⟨rfl, rfl⟩
  | error error => cases ran

theorem list_jobs_ok {listed : List (Job Data)} {state after : State Data}
    (ran : listJobs host state = (.ok listed, after)) : listed = state.jobs ∧ state = after := by
  obtain ⟨_, middle, first, second⟩ := Block.bind_inv ran
  obtain ⟨-, rfl⟩ := ensure_inv first
  cases second
  exact ⟨rfl, rfl⟩

theorem remove_job_ok {jobId : String} {state after : State Data}
    (ran : removeJob host jobId state = (.ok (), after)) :
    after = { state with jobs := state.jobs.filter fun job => idText job ≠ some jobId } := by
  obtain ⟨_, middle, first, second⟩ := Block.bind_inv ran
  obtain ⟨-, rfl⟩ := ensure_inv first
  exact (Prod.mk.inj second).2.symm

theorem remove_jobs_ok {listed : List (Job Data)} {state after : State Data}
    (named : ∀ job ∈ listed, idText job ≠ none)
    (ran : removeJobs host listed state = (.ok (), after)) :
    after = { state with
      jobs := state.jobs.filter fun job => idText job ∉ listed.map idText } := by
  induction listed generalizing state with
  | nil =>
      cases ran
      simp
  | cons job rest ih =>
      obtain ⟨jobId, id⟩ := Option.ne_none_iff_exists'.mp (named job List.mem_cons_self)
      simp only [removeJobs, id] at ran
      obtain ⟨_, middle, first, second⟩ := Block.bind_inv ran
      obtain rfl := remove_job_ok first
      rw [ih (fun other member => named other (List.mem_cons_of_mem _ member)) second]
      congr 1
      rw [List.filter_filter]
      apply List.filter_congr
      intro other _
      rw [List.map_cons, id]
      by_cases same : idText other = some jobId
      · simp [same]
      · simp [same]

/-- Removing the owned jobs leaves exactly the foreign ones. -/
theorem filter_owned (scheduled : Scheduled jobs) :
    (jobs.filter fun job => idText job ∉ (owned host profileId jobs).map idText) =
      foreign host profileId jobs := by
  apply List.filter_congr
  intro job member
  cases owns : ownsJob host profileId job with
  | true =>
      have listed : idText job ∈ (owned host profileId jobs).map idText :=
        List.mem_map_of_mem (List.mem_filter.mpr ⟨member, owns⟩)
      simp [listed]
  | false =>
      have apart : idText job ∉ (owned host profileId jobs).map idText := by
        intro listed
        obtain ⟨mine, one, ids⟩ := List.mem_map.mp listed
        have two : job ∈ foreign host profileId jobs :=
          List.mem_filter.mpr ⟨member, by simp [owns]⟩
        exact scheduled.apart one two ids.symm
      simp [apart]

theorem remove_owned_ok {state after : State Data} (scheduled : Scheduled state.jobs)
    (ran : removeJobs host (owned host profileId state.jobs) state = (.ok (), after)) :
    after = { state with jobs := foreign host profileId state.jobs } := by
  rw [remove_jobs_ok (fun job member => scheduled.named job (List.mem_filter.mp member).1) ran]
  congr 1
  exact filter_owned scheduled

theorem foreign_foreign : foreign host profileId (foreign host profileId jobs) =
    foreign host profileId jobs := by
  unfold foreign
  rw [List.filter_filter]
  simp

theorem owned_foreign : owned host profileId (foreign host profileId jobs) = [] := by
  unfold owned foreign
  rw [List.filter_filter]
  simp

theorem create_job_ok {schedule jobId : String} {state after : State Data}
    (ran : createJob host profileId schedule state = (.ok jobId, after)) :
    ∃ parsed, host.parseSchedule schedule = .ok parsed ∧ jobId = host.freshId state.jobs ∧
      after = { state with
        jobs := state.jobs ++ [createdJob host jobId profileId parsed] } := by
  obtain ⟨_, middle, first, second⟩ := Block.bind_inv ran
  obtain ⟨-, rfl⟩ := ensure_inv first
  obtain ⟨parsed, later, parses, last⟩ := Block.bind_inv second
  obtain ⟨answer, rfl⟩ := or_raise_ok parses
  cases last
  exact ⟨parsed, answer, rfl, rfl⟩

theorem stage_script_ok {content : String} {state after : State Data}
    (ran : stageScript provider content state = (.ok (), after)) :
    after = { state with script := some content } := by
  unfold stageScript at ran
  by_cases same : state.script = some content
  · rw [if_pos same] at ran
    cases ran
    rw [← same]
  · rw [if_neg same] at ran
    by_cases stages : provider.stages = true
    · rw [if_pos stages] at ran
      exact (Prod.mk.inj ran).2.symm
    · rw [if_neg stages] at ran
      cases ran

/-! ## The normal form -/

structure Registered (host : Host Data) (profileId schedule : String) (parsed : Value Data)
    (state : State Data) (job : Job Data) (jobId : String) : Prop where
  parses : host.parseSchedule schedule = .ok parsed
  single : owned host profileId state.jobs = [job]
  named : idText job = some jobId
  scheduled : get job "schedule" = parsed
  remembered : state.sleepCronJobId = some jobId
  healthy : state.healthCron = "registered"

theorem foreign_append (job : Job Data) (mine : ownsJob host profileId job = true) :
    foreign host profileId (jobs ++ [job]) = foreign host profileId jobs := by
  simp [foreign, mine]

theorem owned_append (job : Job Data) (mine : ownsJob host profileId job = true) :
    owned host profileId (jobs ++ [job]) = owned host profileId jobs ++ [job] := by
  simp [owned, mine]

theorem recreate_job_ok {schedule : String} {parsed : Value Data} (state : State Data)
    {after : State Data} (parses : host.parseSchedule schedule = .ok parsed)
    (scheduled : Scheduled state.jobs)
    (ran : recreateJob host profileId schedule (owned host profileId state.jobs) state =
      (.ok (), after)) :
    ∃ jobId job, Registered host profileId schedule parsed after job jobId ∧
      foreign host profileId after.jobs = foreign host profileId state.jobs ∧
      after.script = state.script := by
  obtain ⟨_, middle, first, second⟩ := Block.bind_inv ran
  obtain rfl := remove_owned_ok scheduled first
  obtain ⟨jobId, later, created, last⟩ := Block.bind_inv second
  obtain ⟨given, answer, rfl, rfl⟩ := create_job_ok created
  rw [parses] at answer
  cases answer
  cases last
  refine ⟨_, createdJob host _ profileId parsed,
    ⟨parses, ?_, created_id _ parsed, ?_, rfl, rfl⟩, ?_, rfl⟩
  · rw [owned_append _ (owns_created _ parsed), owned_foreign, List.nil_append]
  · simp [get, createdJob]
  · rw [foreign_append _ (owns_created _ parsed), foreign_foreign]

theorem owned_map_rescheduled (jobId : String) (parsed : Value Data) :
    owned host profileId (jobs.map (reschedule jobId parsed)) =
      (owned host profileId jobs).map (reschedule jobId parsed) := by
  unfold owned
  rw [List.filter_map]
  congr 1
  apply List.filter_congr
  intro job _
  exact owns_rescheduled job

theorem foreign_rescheduled (jobId : String) (parsed : Value Data) :
    foreign host profileId (jobs.map (reschedule jobId parsed)) =
      (foreign host profileId jobs).map (reschedule jobId parsed) := by
  unfold foreign
  rw [List.filter_map]
  congr 1
  apply List.filter_congr
  intro job _
  simp [owns_rescheduled job]

theorem map_reschedule_of_apart {others : List (Job Data)} {jobId : String}
    {parsed : Value Data} (apart : ∀ other ∈ others, idText other ≠ some jobId) :
    others.map (reschedule jobId parsed) = others := by
  conv_rhs => rw [← List.map_id others]
  apply List.map_congr_left
  intro job member
  exact rescheduled_of_other (apart job member)

/-- An update of an owned job leaves the foreign jobs as they are. -/
theorem foreign_map_rescheduled (scheduled : Scheduled jobs) {mine : Job Data} {jobId : String}
    (parsed : Value Data) (member : mine ∈ owned host profileId jobs)
    (id : idText mine = some jobId) :
    foreign host profileId (jobs.map (reschedule jobId parsed)) =
      foreign host profileId jobs := by
  rw [foreign_rescheduled]
  apply map_reschedule_of_apart
  intro other present
  rw [← id]
  exact scheduled.apart member present

theorem update_job_ok {jobId schedule : String} {state after : State Data}
    (ran : updateJob host jobId schedule state = (.ok (), after)) :
    ∃ parsed, host.parseSchedule schedule = .ok parsed ∧
      after = { state with jobs := state.jobs.map (reschedule jobId parsed) } := by
  obtain ⟨_, middle, first, second⟩ := Block.bind_inv ran
  obtain ⟨-, rfl⟩ := ensure_inv first
  obtain ⟨parsed, later, parses, last⟩ := Block.bind_inv second
  obtain ⟨answer, rfl⟩ := or_raise_ok parses
  exact ⟨parsed, answer, (Prod.mk.inj last).2.symm⟩

section

variable [DecidableEq Data]

theorem adopt_job_ok {schedule jobId : String} {parsed : Value Data} {job : Job Data}
    (state : State Data) {after : State Data} (parses : host.parseSchedule schedule = .ok parsed)
    (scheduled : Scheduled state.jobs) (single : owned host profileId state.jobs = [job])
    (id : idText job = some jobId)
    (ran : adoptJob host schedule parsed job jobId state = (.ok (), after)) :
    ∃ kept, Registered host profileId schedule parsed after kept jobId ∧
      foreign host profileId after.jobs = foreign host profileId state.jobs ∧
      after.script = state.script := by
  have member : job ∈ owned host profileId state.jobs := by
    rw [single]
    exact List.mem_singleton_self job
  unfold adoptJob at ran
  by_cases same : get job "schedule" = parsed
  · have stays : ¬get job "schedule" ≠ parsed := not_not.mpr same
    simp only [if_neg stays] at ran
    cases ran
    exact ⟨job, ⟨parses, single, id, same, rfl, rfl⟩, rfl, rfl⟩
  · simp only [if_pos same] at ran
    obtain ⟨_, middle, first, second⟩ := Block.bind_inv ran
    obtain ⟨given, answer, rfl⟩ := update_job_ok first
    rw [parses] at answer
    cases answer
    cases second
    refine ⟨reschedule jobId parsed job, ⟨parses, ?_, ?_, ?_, rfl, rfl⟩, ?_, rfl⟩
    · rw [owned_map_rescheduled, single]
      rfl
    · rw [id_rescheduled, id]
    · simp [get, reschedule, id]
    · exact foreign_map_rescheduled scheduled parsed member id

/-- What a run that reaches its end leaves behind. -/
structure Reconciled (host : Host Data) (provider : Provider) (home : String) (config : Config)
    (before after : State Data) : Prop where
  registered : enabled config = true → ∃ parsed job jobId,
    Registered host (provider.profileIdentity home) config.sleepSchedule parsed after job jobId ∧
      ∀ old, owned host (provider.profileIdentity home) before.jobs = [old] →
        idText old = some jobId
  disabled : enabled config = false →
    owned host (provider.profileIdentity home) after.jobs = [] ∧ after.sleepCronJobId = none
  again : registerSleepCron host provider after = (.done, after)

theorem reconcile_enabled_ok {home : String} {config : Config} {parsed : Value Data}
    {state after : State Data} (parses : host.parseSchedule config.sleepSchedule = .ok parsed)
    (scheduled : Scheduled state.jobs)
    (ran : reconcileEnabled host provider home profileId config parsed
      (owned host profileId state.jobs) state = (.ok (), after)) :
    ∃ job jobId, Registered host profileId config.sleepSchedule parsed after job jobId ∧
      (∀ old, owned host profileId state.jobs = [old] → idText old = some jobId) ∧
      ∃ script, provider.rendered home config = .ok script ∧ after.script = some script := by
  obtain ⟨script, middle, first, second⟩ := Block.bind_inv ran
  obtain ⟨renders, rfl⟩ := or_raise_ok first
  obtain ⟨_, staged, stages, last⟩ := Block.bind_inv second
  obtain rfl := stage_script_ok stages
  have recreated (several : ∀ old, owned host profileId state.jobs ≠ [old])
      (recreates : recreateJob host profileId config.sleepSchedule
        (owned host profileId state.jobs) { state with script := some script } =
          (.ok (), after)) :
      ∃ job jobId, Registered host profileId config.sleepSchedule parsed after job jobId ∧
        (∀ old, owned host profileId state.jobs = [old] → idText old = some jobId) ∧
        ∃ script, provider.rendered home config = .ok script ∧ after.script = some script := by
    obtain ⟨jobId, job, registered, -, same⟩ :=
      recreate_job_ok { state with script := some script } parses scheduled recreates
    exact ⟨job, jobId, registered, fun old single => absurd single (several old),
      script, renders, same⟩
  cases listed : owned host profileId state.jobs with
  | nil =>
      rw [listed] at last recreated
      exact recreated (fun old => by simp) last
  | cons job rest =>
      cases rest with
      | cons second rest =>
          rw [listed] at last recreated
          exact recreated (fun old => by simp) last
      | nil =>
          have member : job ∈ state.jobs := by
            have given : job ∈ owned host profileId state.jobs := by
              rw [listed]
              exact List.mem_singleton_self job
            exact (List.mem_filter.mp given).1
          obtain ⟨jobId, id⟩ := Option.ne_none_iff_exists'.mp (scheduled.named job member)
          rw [listed] at last
          simp only [id] at last
          obtain ⟨kept, registered, -, same⟩ :=
            adopt_job_ok { state with script := some script } parses scheduled listed id last
          refine ⟨kept, jobId, registered, ?_, script, renders, same⟩
          intro old single
          obtain rfl := List.head_eq_of_cons_eq single
          exact id

theorem reconcile_ok {home : String} {config : Config} {state after : State Data}
    (ran : reconcile host provider home config state = (.ok (), after)) :
    host.available = true ∧ provider.locks = true ∧ host.lists = true ∧
      (enabled config = true → ∃ parsed, host.parseSchedule config.sleepSchedule = .ok parsed ∧
        reconcileEnabled host provider home (provider.profileIdentity home) config parsed
          (owned host (provider.profileIdentity home) state.jobs) state = (.ok (), after)) ∧
      (enabled config = false → ∃ middle,
        removeJobs host (owned host (provider.profileIdentity home) state.jobs) state =
          (.ok (), middle) ∧ after = { middle with sleepCronJobId := none }) := by
  obtain ⟨_, _, first, ran⟩ := Block.bind_inv ran
  obtain ⟨available, rfl⟩ := ensure_inv first
  obtain ⟨parsed, parsing, parses, ran⟩ := Block.bind_inv ran
  obtain ⟨_, _, locking, ran⟩ := Block.bind_inv ran
  obtain ⟨locks, rfl⟩ := ensure_inv locking
  obtain ⟨listed, _, listing, ran⟩ := Block.bind_inv ran
  have lists : host.lists = true := by
    obtain ⟨_, _, asked, -⟩ := Block.bind_inv listing
    exact (ensure_inv asked).1
  obtain ⟨rfl, rfl⟩ := list_jobs_ok listing
  refine ⟨available, locks, lists, ?_, ?_⟩
  · intro on
    unfold desired at parses
    rw [if_pos on] at parses
    obtain ⟨value, _, answered, rest⟩ := Block.bind_inv parses
    obtain ⟨answer, rfl⟩ := or_raise_ok answered
    cases rest
    exact ⟨value, answer, ran⟩
  · intro off
    unfold desired at parses
    rw [if_neg (by simp [off])] at parses
    cases parses
    obtain ⟨_, middle, removed, last⟩ := Block.bind_inv ran
    exact ⟨middle, removed, (Prod.mk.inj last).2.symm⟩

theorem reconcile_of_registered {home : String} {config : Config} {parsed : Value Data}
    {state : State Data} {job : Job Data} {jobId script : String}
    (available : host.available = true) (locks : provider.locks = true)
    (lists : host.lists = true) (on : enabled config = true)
    (renders : provider.rendered home config = .ok script) (staged : state.script = some script)
    (registered : Registered host (provider.profileIdentity home) config.sleepSchedule parsed
      state job jobId) :
    reconcile host provider home config state = (.ok (), state) := by
  have parses : desired host config state = (.ok (some parsed), state) := by
    unfold desired
    rw [if_pos on, registered.parses]
    rfl
  have single : state.jobs.filter (ownsJob host (provider.profileIdentity home)) = [job] :=
    registered.single
  unfold reconcile
  rw [Block.bind_ok (ensure_run state available), Block.bind_ok parses,
    Block.bind_ok (ensure_run state locks), Block.bind_ok (list_jobs_run state lists)]
  simp only [single, reconcileEnabled]
  rw [renders]
  have rendered : orRaise (.ok script : Except Unit String) state = (.ok script, state) := rfl
  have same : stageScript provider script state = (.ok (), state) := if_pos staged
  rw [Block.bind_ok rendered, Block.bind_ok same]
  simp only [registered.named, adoptJob]
  rw [if_neg (not_not.mpr registered.scheduled)]
  have remembered := registered.remembered
  have healthy := registered.healthy
  cases state
  simp only at remembered healthy
  rw [remembered, healthy]
  rfl

theorem reconcile_of_disabled {home : String} {config : Config} {state : State Data}
    (available : host.available = true) (locks : provider.locks = true)
    (lists : host.lists = true) (off : enabled config = false)
    (gone : owned host (provider.profileIdentity home) state.jobs = [])
    (forgotten : state.sleepCronJobId = none) :
    reconcile host provider home config state = (.ok (), state) := by
  have parses : desired host config state = (.ok none, state) := by
    unfold desired
    rw [if_neg (by simp [off])]
    rfl
  have nothing : state.jobs.filter (ownsJob host (provider.profileIdentity home)) = [] := gone
  unfold reconcile
  rw [Block.bind_ok (ensure_run state available), Block.bind_ok parses,
    Block.bind_ok (ensure_run state locks), Block.bind_ok (list_jobs_run state lists)]
  simp only [nothing]
  cases state
  simp only at forgotten
  rw [forgotten]
  rfl

end

/-! ## Foreign jobs in every run -/

def Untouched (host : Host Data) (profileId : String) (others : List (Job Data))
    (state : State Data) : Prop :=
  foreign host profileId state.jobs = others

/-- No job of the list has the id of one of the others. -/
def Apart (others listed : List (Job Data)) : Prop :=
  ∀ mine ∈ listed, ∀ other ∈ others, idText other ≠ idText mine

theorem Scheduled.apart_owned (scheduled : Scheduled jobs) :
    Apart (foreign host profileId jobs) (owned host profileId jobs) :=
  fun _ one _ two => scheduled.apart one two

theorem keeps_ensure {held : State Data → Prop} {holds : Bool} {failure : Failure} :
    Keeps held (ensure holds failure) := by
  cases holds with
  | true => exact Keeps.pure ()
  | false => exact Keeps.raise failure

theorem keeps_or_raise {Result : Type} {held : State Data → Prop} {value : Except Unit Result} :
    Keeps held (orRaise value) := by
  cases value with
  | ok result => exact Keeps.pure result
  | error error => exact Keeps.raise Failure.exception

theorem keeps_remove_job {others : List (Job Data)} {jobId : String}
    (apart : ∀ other ∈ others, idText other ≠ some jobId) :
    Keeps (Untouched host profileId others) (removeJob host jobId) := by
  unfold removeJob
  refine Keeps.bind keeps_ensure ?_
  intro _ state untouched
  change foreign host profileId (state.jobs.filter _) = others
  unfold Untouched at untouched
  unfold foreign at untouched ⊢
  rw [List.filter_comm, untouched]
  apply List.filter_eq_self.mpr
  intro other member
  simpa using apart other member

theorem keeps_remove_jobs {others listed : List (Job Data)} (apart : Apart others listed) :
    Keeps (Untouched host profileId others) (removeJobs host listed) := by
  induction listed with
  | nil => exact Keeps.pure ()
  | cons job rest ih =>
      unfold removeJobs
      have tail := ih fun mine member => apart mine (List.mem_cons_of_mem _ member)
      have mine := apart job List.mem_cons_self
      cases id : idText job with
      | none => exact Keeps.bind (Keeps.pure ()) fun _ => tail
      | some jobId =>
          rw [id] at mine
          exact Keeps.bind (keeps_remove_job mine) fun _ => tail

theorem keeps_create_job {others : List (Job Data)} {schedule : String} :
    Keeps (Untouched host profileId others) (createJob host profileId schedule) := by
  unfold createJob
  refine Keeps.bind keeps_ensure ?_
  intro _
  refine Keeps.bind keeps_or_raise ?_
  intro parsed state untouched
  change foreign host profileId (state.jobs ++ [_]) = others
  rw [foreign_append _ (owns_created _ parsed)]
  exact untouched

theorem keeps_update_job {others : List (Job Data)} {jobId schedule : String}
    (apart : ∀ other ∈ others, idText other ≠ some jobId) :
    Keeps (Untouched host profileId others) (updateJob host jobId schedule) := by
  unfold updateJob
  refine Keeps.bind keeps_ensure ?_
  intro _
  refine Keeps.bind keeps_or_raise ?_
  intro parsed state untouched
  change foreign host profileId (state.jobs.map (reschedule jobId parsed)) = others
  unfold Untouched at untouched
  rw [foreign_rescheduled, untouched]
  exact map_reschedule_of_apart apart

theorem keeps_note {others : List (Job Data)} {change : State Data → State Data}
    (same : ∀ state, (change state).jobs = state.jobs) :
    Keeps (Untouched host profileId others) (update change) := by
  intro state untouched
  unfold Untouched
  change foreign host profileId (change state).jobs = others
  rw [same]
  exact untouched

theorem keeps_recreate_job {others listed : List (Job Data)} {schedule : String}
    (apart : Apart others listed) :
    Keeps (Untouched host profileId others) (recreateJob host profileId schedule listed) := by
  refine Keeps.bind (keeps_remove_jobs apart) ?_
  intro _
  refine Keeps.bind keeps_create_job ?_
  intro _
  apply keeps_note
  exact fun _ => rfl

theorem keeps_stage_script {others : List (Job Data)} {content : String} :
    Keeps (Untouched host profileId others) (stageScript provider content) := by
  intro state untouched
  unfold stageScript
  by_cases same : state.script = some content
  · rw [if_pos same]
    exact untouched
  · rw [if_neg same]
    by_cases stages : provider.stages = true
    · rw [if_pos stages]
      exact untouched
    · rw [if_neg stages]
      exact untouched

section

variable [DecidableEq Data]

theorem keeps_adopt_job {others : List (Job Data)} {schedule jobId : String}
    {parsed : Value Data} {job : Job Data}
    (apart : ∀ other ∈ others, idText other ≠ some jobId) :
    Keeps (Untouched host profileId others) (adoptJob host schedule parsed job jobId) := by
  unfold adoptJob
  by_cases same : get job "schedule" = parsed
  · simp only [if_neg (not_not.mpr same)]
    apply keeps_note
    exact fun _ => rfl
  · simp only [if_pos same]
    refine Keeps.bind (keeps_update_job apart) ?_
    intro _
    apply keeps_note
    exact fun _ => rfl

theorem keeps_reconcile_enabled {others listed : List (Job Data)} {home : String}
    {config : Config} {parsed : Value Data} (apart : Apart others listed) :
    Keeps (Untouched host profileId others)
      (reconcileEnabled host provider home profileId config parsed listed) := by
  unfold reconcileEnabled
  refine Keeps.bind keeps_or_raise ?_
  intro script
  refine Keeps.bind keeps_stage_script ?_
  intro _
  match listed with
  | [] => exact keeps_recreate_job apart
  | [job] =>
      have mine := apart job List.mem_cons_self
      cases id : idText job with
      | none =>
          simp only [id]
          exact keeps_recreate_job apart
      | some jobId =>
          rw [id] at mine
          simp only [id]
          exact keeps_adopt_job mine
  | first :: second :: rest => exact keeps_recreate_job apart

theorem reconcile_untouched (host : Host Data) (provider : Provider) (home : String)
    (config : Config) {before : State Data} (scheduled : Scheduled before.jobs) :
    Untouched host (provider.profileIdentity home)
      (foreign host (provider.profileIdentity home) before.jobs)
      (reconcile host provider home config before).2 := by
  have apart : Apart (foreign host (provider.profileIdentity home) before.jobs)
      (owned host (provider.profileIdentity home) before.jobs) := scheduled.apart_owned
  have quiet {holds : Bool} {failure : Failure} :
      Ends (fun state => state = before) (ensure holds failure)
        (fun _ state => state = before) (fun _ state => state = before) :=
    Keeps.ends keeps_ensure
  have parsed : Ends (fun state => state = before) (desired host config)
      (fun _ state => state = before) (fun _ state => state = before) := by
    apply Keeps.ends
    unfold desired
    by_cases on : enabled config = true
    · rw [if_pos on]
      exact Keeps.bind keeps_or_raise fun _ => Keeps.pure _
    · rw [if_neg on]
      exact Keeps.pure _
  have listed : Ends (fun state => state = before) (listJobs host)
      (fun existing state => existing = before.jobs ∧ state = before)
      (fun _ state => state = before) := by
    refine Ends.bind quiet ?_
    rintro _ state rfl
    exact ⟨rfl, rfl⟩
  have kept {state : State Data} (same : state = before) : Untouched host
      (provider.profileIdentity home)
      (foreign host (provider.profileIdentity home) before.jobs) state :=
    congrArg (fun state : State Data => foreign host (provider.profileIdentity home) state.jobs)
      same
  suffices ends : Ends (fun state => state = before) (reconcile host provider home config)
      (fun _ => Untouched host (provider.profileIdentity home)
        (foreign host (provider.profileIdentity home) before.jobs))
      (fun _ => Untouched host (provider.profileIdentity home)
        (foreign host (provider.profileIdentity home) before.jobs)) from Ends.state ends rfl
  unfold reconcile
  refine Ends.bind (Ends.excuse quiet fun _ _ => kept) fun _ => ?_
  refine Ends.bind (Ends.excuse parsed fun _ _ => kept) fun answer => ?_
  refine Ends.bind (Ends.excuse quiet fun _ _ => kept) fun _ => ?_
  refine Ends.bind (Ends.excuse listed fun _ _ => kept) fun existing => ?_
  rintro state ⟨rfl, same⟩
  cases answer with
  | none =>
      have removed : Keeps (Untouched host (provider.profileIdentity home)
          (foreign host (provider.profileIdentity home) before.jobs)) (do
            removeJobs host (owned host (provider.profileIdentity home) before.jobs)
            update fun state => { state with sleepCronJobId := none }) := by
        refine Keeps.bind (keeps_remove_jobs apart) fun _ => ?_
        apply keeps_note
        exact fun _ => rfl
      exact removed.ends state (kept same)
  | some parsed => exact (keeps_reconcile_enabled apart).ends state (kept same)

/-- The second run finds everything as it should be. -/
theorem reconcile_again {home : String} {config : Config} {before after : State Data}
    (selected : provider.hermesHome = some home) (configured : provider.config = some config)
    (ready : provider.embeddingIdentityReady = true) (scheduled : Scheduled before.jobs)
    (ran : reconcile host provider home config before = (.ok (), after)) :
    Reconciled host provider home config before after := by
  obtain ⟨available, locks, lists, on, off⟩ := reconcile_ok ran
  have rerun (same : reconcile host provider home config after = (.ok (), after)) :
      registerSleepCron host provider after = (.done, after) := by
    simp [registerSleepCron, selected, configured, ready, same]
  cases enables : enabled config with
  | true =>
      obtain ⟨parsed, parses, rest⟩ := on enables
      obtain ⟨job, jobId, registered, keeps, script, renders, staged⟩ :=
        reconcile_enabled_ok parses scheduled rest
      refine ⟨fun _ => ⟨parsed, job, jobId, registered, keeps⟩, ?_, ?_⟩
      · simp [enables]
      · exact rerun (reconcile_of_registered available locks lists enables renders staged
          registered)
  | false =>
      obtain ⟨middle, removes, rfl⟩ := off enables
      obtain rfl := remove_owned_ok scheduled removes
      refine ⟨?_, fun _ => ⟨owned_foreign, rfl⟩, ?_⟩
      · simp [enables]
      · exact rerun (reconcile_of_disabled available locks lists enables owned_foreign rfl)

omit [DecidableEq Data] in
theorem suspend_ok {home : String} {before after : State Data}
    (scheduled : Scheduled before.jobs)
    (ran : suspend host provider home before = (.ok (), after)) :
    after.jobs = foreign host (provider.profileIdentity home) before.jobs := by
  obtain ⟨_, _, first, ran⟩ := Block.bind_inv ran
  obtain ⟨-, rfl⟩ := ensure_inv first
  obtain ⟨_, _, locking, ran⟩ := Block.bind_inv ran
  obtain ⟨-, rfl⟩ := ensure_inv locking
  obtain ⟨listed, _, listing, ran⟩ := Block.bind_inv ran
  obtain ⟨rfl, rfl⟩ := list_jobs_ok listing
  rw [remove_owned_ok scheduled ran]

theorem sleep_cron_reconciles (host : Host Data) {provider : Provider} {home : String}
    {config : Config} (selected : provider.hermesHome = some home)
    (configured : provider.config = some config) {before : State Data}
    (scheduled : Scheduled before.jobs) :
    foreign host (provider.profileIdentity home) (registerSleepCron host provider before).2.jobs =
        foreign host (provider.profileIdentity home) before.jobs ∧
      (∀ after, registerSleepCron host provider before = (.done, after) →
        Reconciled host provider home config before after) ∧
      ∀ after, suspendSleepCron host provider before = (.done, after) →
        after.jobs = foreign host (provider.profileIdentity home) before.jobs ∧
          after.sleepCronJobId = none := by
  refine ⟨?_, ?_, ?_⟩
  · have kept := reconcile_untouched host provider home config scheduled
    unfold registerSleepCron
    rw [selected, configured]
    dsimp only
    split_ifs
    · rfl
    · cases outcome : reconcile host provider home config before with
      | mk result after =>
          rw [outcome] at kept
          match result with
          | .ok _ => exact kept
          | .error .importError => exact kept
          | .error .exception => exact kept
  · intro after ran
    unfold registerSleepCron at ran
    rw [selected, configured] at ran
    cases ready : provider.embeddingIdentityReady with
    | false => simp [ready] at ran
    | true =>
        simp only [ready, Bool.not_true, Bool.false_eq_true, if_false] at ran
        cases outcome : reconcile host provider home config before with
        | mk result later =>
            rw [outcome] at ran
            match result with
            | .ok _ =>
                cases ran
                exact reconcile_again selected configured ready scheduled outcome
            | .error .importError => cases ran
            | .error .exception => cases ran
  · intro after ran
    unfold suspendSleepCron at ran
    rw [selected] at ran
    cases outcome : suspend host provider home before with
    | mk result later =>
        simp only [outcome] at ran
        cases result with
        | ok _ =>
            have gone := suspend_ok scheduled outcome
            cases ran
            exact ⟨gone, rfl⟩
        | error failure => cases ran

end

end

/-! ## Two owned jobs and one of another profile -/

def faithful : Host Unit where
  available := true
  parseSchedule text := .ok (.text text)
  times _ := true
  lists := true
  removes _ := true
  updates _ := true
  creates := true
  details _ := none
  freshId jobs := String.ofList
    (List.replicate ((jobs.map fun job => ((idText job).getD "").length).sum + 1) 'j')
  fresh := by
    intro jobs job member same
    have bound : ((idText job).getD "").length ≤
        (jobs.map fun job => ((idText job).getD "").length).sum :=
      List.le_sum_of_mem (List.mem_map_of_mem member)
    rw [same] at bound
    simp at bound

def sleeper : Provider where
  hermesHome := some "home"
  config := some ⟨true, "every 12h"⟩
  embeddingIdentityReady := true
  profileIdentity home := home
  locks := true
  rendered home _ := .ok home
  stages := true

def jobOf (jobId profileId schedule : String) : Job Unit :=
  createdJob faithful jobId profileId (.text schedule)

def crowded : State Unit where
  jobs := [jobOf "a" "home" "every 6h", jobOf "b" "other" "every 6h", jobOf "c" "home" "every 6h"]
  script := none
  sleepCronJobId := none
  healthCron := "disabled"

theorem crowded_scheduled : Scheduled crowded.jobs := by
  constructor
  · intro job member
    simp only [crowded, List.mem_cons, List.not_mem_nil, or_false] at member
    rcases member with rfl | rfl | rfl <;> simp [jobOf, created_id]
  · simp [crowded, jobOf, created_id]

theorem crowded_reconciles :
    foreign faithful (sleeper.profileIdentity "home")
        (registerSleepCron faithful sleeper crowded).2.jobs =
        foreign faithful (sleeper.profileIdentity "home") crowded.jobs ∧
      (∀ after, registerSleepCron faithful sleeper crowded = (.done, after) →
        Reconciled faithful sleeper "home" ⟨true, "every 12h"⟩ crowded after) ∧
      ∀ after, suspendSleepCron faithful sleeper crowded = (.done, after) →
        after.jobs = foreign faithful (sleeper.profileIdentity "home") crowded.jobs ∧
          after.sleepCronJobId = none := by
  have selected : sleeper.hermesHome = some "home" := rfl
  have configured : sleeper.config = some ⟨true, "every 12h"⟩ := rfl
  exact sleep_cron_reconciles faithful selected configured crowded_scheduled

end HermesCashew.CronReconcile
