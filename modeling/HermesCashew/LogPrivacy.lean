import HermesCashew.LogDelivery
import HermesCashew.Transition
import Mathlib.Data.List.Forall2

/-!
# No content crosses the log boundary

What the handlers of `plugins.memory.cashew`, `core`, the root and the loggers above them see
of a Cashew record, whatever handlers the host attaches meanwhile, and that two records with
the same public parts look the same to them.
-/

namespace HermesCashew.LogFilter

open HermesCashew.Transition

set_option autoImplicit false

/-! ## The host while the boundary is active -/

inductive HostAction where
  | addHandler (name : Name) (handler : Nat)
  | removeHandler (name : Name) (handler : Nat)
  | setPropagate (name : Name) (propagate : Bool)
  | acquire
  | release
  deriving DecidableEq, Repr

/-- A release of the last reference ends the time the boundary is active. -/
def hostStep (logging : Logging) : HostAction → Option Logging
  | .addHandler name handler => some (logging.addHandler name (.host handler))
  | .removeHandler name handler => some (logging.removeHandler name (.host handler))
  | .setPropagate name propagate => some (logging.setPropagate name propagate)
  | .acquire => some (acquireProviderScrubFilters logging)
  | .release =>
      if 1 < logging.scrubRefs then some (releaseProviderScrubFilters logging) else none

def HostHandler.carries (handler : HostHandler) : Bool :=
  handler.filters.any fun filter =>
    match filter with
    | .scrub _ _ => true
    | .host _ => false

/-- The handlers of a boundary logger: those found by the acquisition carry the filter, those
that come later stand behind the boundary. -/
def Fenced (hosts : Nat → HostHandler) (handlers : List Handler) : Prop :=
  ∃ early identity sourceScoped late,
    handlers = early ++ Handler.boundary identity sourceScoped :: late ∧
    (∀ handler ∈ early, ∃ host, handler = .host host ∧ (hosts host).carries = true) ∧
    ∀ handler ∈ late, ∃ host, handler = .host host

structure Watched (logging : Logging) : Prop where
  active : 0 < logging.scrubRefs
  own : ∀ name, isBoundaryLogger name = true →
    Fenced logging.hosts (logging.loggers name).handlers
  other : ∀ name, isBoundaryLogger name = false →
    ∀ handler ∈ (logging.loggers name).handlers, ∃ host, handler = .host host

section

variable {logging following host : Logging}

theorem carries_scrub {handler : HostHandler} {identity : Nat} {sourceScoped : Bool}
    (member : .scrub identity sourceScoped ∈ handler.filters) : handler.carries = true :=
  List.any_eq_true.mpr ⟨_, member, rfl⟩

theorem Guards.watched (clean : Clean host) (guards : Guards boundaryLoggers host logging)
    (active : 0 < logging.scrubRefs) : Watched logging := by
  refine ⟨active, ?_, ?_⟩
  · intro name boundary
    obtain ⟨place, member, rfl⟩ := List.mem_map.mp (List.contains_iff_mem.mp boundary)
    obtain ⟨identity, bounded⟩ := guards.own place member
    refine ⟨(host.loggers place.1).handlers, identity, place.2, [], ?_, ?_, ?_⟩
    · rw [bounded]
      rfl
    · intro handler held
      obtain ⟨found, rfl⟩ := clean.hosts place.1 handler held
      obtain ⟨other, carried⟩ := guards.carried place member found held
      exact ⟨found, rfl, carries_scrub carried⟩
    · intro handler none
      cases none
  · intro name inner
    rw [guards.open inner]
    exact clean.hosts name

theorem Fenced.append {hosts : Nat → HostHandler} {handlers : List Handler}
    (fenced : Fenced hosts handlers) (added : Nat) : Fenced hosts (handlers ++ [.host added]) := by
  obtain ⟨early, identity, sourceScoped, late, rfl, carry, behind⟩ := fenced
  refine ⟨early, identity, sourceScoped, late ++ [.host added], by simp, carry, ?_⟩
  intro handler member
  rcases List.mem_append.mp member with old | new
  · exact behind handler old
  · exact ⟨added, List.mem_singleton.mp new⟩

theorem Fenced.erase {hosts : Nat → HostHandler} {handlers : List Handler}
    (fenced : Fenced hosts handlers) (removed : Nat) :
    Fenced hosts (handlers.erase (.host removed)) := by
  obtain ⟨early, identity, sourceScoped, late, rfl, carry, behind⟩ := fenced
  by_cases member : Handler.host removed ∈ early
  · refine ⟨early.erase (.host removed), identity, sourceScoped, late,
      List.erase_append_left _ member, ?_, behind⟩
    intro handler held
    exact carry handler (List.mem_of_mem_erase held)
  · refine ⟨early, identity, sourceScoped, late.erase (.host removed), ?_, carry, ?_⟩
    · rw [List.erase_append_right _ member, List.erase_cons_tail (by simp)]
    · intro handler held
      exact behind handler (List.mem_of_mem_erase held)

/-- The host changes one logger. -/
theorem Watched.set_logger (watched : Watched logging) {name : Name} {logger : Logger}
    (own : isBoundaryLogger name = true → Fenced logging.hosts logger.handlers)
    (other : isBoundaryLogger name = false →
      ∀ handler ∈ logger.handlers, ∃ found, handler = .host found) :
    Watched (logging.setLogger name logger) := by
  refine ⟨watched.active, ?_, ?_⟩
  · intro via boundary
    by_cases same : via = name
    · subst same
      rw [set_logger_self]
      exact own boundary
    · change Fenced logging.hosts (Function.update logging.loggers name logger via).handlers
      rw [Function.update_of_ne same]
      exact watched.own via boundary
  · intro via inner
    by_cases same : via = name
    · subst same
      rw [set_logger_self]
      exact other inner
    · change ∀ handler ∈ (Function.update logging.loggers name logger via).handlers, _
      rw [Function.update_of_ne same]
      exact watched.other via inner

theorem Watched.step (watched : Watched logging) {action : HostAction}
    (taken : hostStep logging action = some following) : Watched following := by
  cases action with
  | addHandler name added =>
      cases taken
      unfold Logging.addHandler
      by_cases present : Handler.host added ∈ (logging.loggers name).handlers
      · rw [if_pos present]
        exact watched
      · rw [if_neg present]
        apply watched.set_logger
        · intro boundary
          exact (watched.own name boundary).append added
        · intro inner handler member
          rcases List.mem_append.mp member with old | new
          · exact watched.other name inner handler old
          · exact ⟨added, List.mem_singleton.mp new⟩
  | removeHandler name removed =>
      cases taken
      apply watched.set_logger
      · intro boundary
        exact (watched.own name boundary).erase removed
      · intro inner handler member
        exact watched.other name inner handler (List.mem_of_mem_erase member)
  | setPropagate name propagate =>
      cases taken
      apply watched.set_logger
      · exact watched.own name
      · exact watched.other name
  | acquire =>
      cases taken
      have active := watched.active
      have counted : acquireProviderScrubFilters logging =
          { logging with scrubRefs := logging.scrubRefs + 1 } := by
        apply if_pos
        change logging.scrubRefs + 1 ≠ 1
        omega
      rw [counted]
      exact ⟨Nat.succ_pos _, watched.own, watched.other⟩
  | release =>
      simp only [hostStep] at taken
      by_cases more : 1 < logging.scrubRefs
      · rw [if_pos more] at taken
        cases taken
        have counted : releaseProviderScrubFilters logging =
            { logging with scrubRefs := logging.scrubRefs - 1 } := by
          unfold releaseProviderScrubFilters
          rw [if_neg (by omega)]
          apply if_pos
          change logging.scrubRefs - 1 ≠ 0
          omega
        rw [counted]
        refine ⟨?_, watched.own, watched.other⟩
        change 0 < logging.scrubRefs - 1
        omega
      · rw [if_neg more] at taken
        cases taken

theorem active_watched (clean : Clean host)
    (reached : Reaches hostStep anyStep (acquireProviderScrubFilters host) logging) :
    Watched logging := by
  obtain ⟨acquired, references⟩ := clean.bounded.acquired clean
  have active : 0 < (acquireProviderScrubFilters host).scrubRefs := references ▸ Nat.succ_pos _
  apply Reaches.invariant Watched _ _ reached
  · exact (acquired.on active).1.watched clean active
  · intro state action after watched _ taken
    exact watched.step taken

end

/-! ## What a covered handler sees -/

def covered (name : Name) : Bool :=
  name.isSuffixOf cashewLogger || name.isSuffixOf coreLogger

/-- The record reaches the handler through one of these loggers, or the handler carries the
filter. -/
def covers (logging : Logging) (delivery : Delivery) : Bool :=
  covered delivery.via || (logging.hosts delivery.handler).carries

structure Sees (sources : Sources) (logging : Logging) (original : LogRecord)
    (progress : Progress) : Prop where
  seen : ∀ delivery ∈ progress.delivered,
    delivery.record = original ∨ delivery.record = scrub sources false original
  covered : ∀ delivery ∈ progress.delivered, covers logging delivery = true →
    delivery.record = scrub sources false original

/-- The record may still be raw. -/
structure Raw (sources : Sources) (logging : Logging) (original : LogRecord)
    (progress : Progress) : Prop where
  current : progress.record = original ∨ progress.record = scrub sources false original
  sees : Sees sources logging original progress

structure Stripped (sources : Sources) (logging : Logging) (original : LogRecord)
    (progress : Progress) : Prop where
  current : progress.record = scrub sources false original
  sees : Sees sources logging original progress

section

variable {sources : Sources} {logging : Logging} {record : LogRecord} {progress : Progress}

theorem Sees.append (sees : Sees sources logging record progress) {delivery : Delivery}
    (either : delivery.record = record ∨ delivery.record = scrub sources false record)
    (strict : covers logging delivery = true → delivery.record = scrub sources false record)
    {after : Progress} (delivered : after.delivered = progress.delivered ++ [delivery]) :
    Sees sources logging record after := by
  constructor
  · intro other member
    rw [delivered] at member
    rcases List.mem_append.mp member with old | new
    · exact sees.seen other old
    · obtain rfl := List.mem_singleton.mp new
      exact either
  · intro other member covering
    rw [delivered] at member
    rcases List.mem_append.mp member with old | new
    · exact sees.covered other old covering
    · obtain rfl := List.mem_singleton.mp new
      exact strict covering

theorem Stripped.raw (stripped : Stripped sources logging record progress) :
    Raw sources logging record progress :=
  ⟨.inr stripped.current, stripped.sees⟩

/-- From a rewritten record on, every handler sees the rewritten record. -/
theorem walk_stripped (name : Name) (stripped : Stripped sources logging record progress) :
    Stripped sources logging record (walk sources logging name progress).1 := by
  apply walk_keeps (Stripped sources logging record) (fun _ => True) _ _ _ _ trivial stripped
  · exact fun _ _ _ => trivial
  · intro via taker reached _ _ holds
    have same : (logging.hosts taker).filters.foldl (applyFilter sources) reached.record =
        scrub sources false record := by
      rw [holds.current]
      exact filters_again (scrub_scrubbed record) _
    rw [same]
    exact ⟨rfl, holds.sees.append (.inr rfl) (fun _ => rfl) rfl⟩
  · intro via identity sourceScoped reached _ _ holds
    have same : scrub sources sourceScoped reached.record = scrub sources false record := by
      rw [holds.current]
      exact scrub_again (scrub_scrubbed record) sourceScoped
    rw [same]
    exact ⟨rfl, holds.sees.seen, holds.sees.covered⟩
  · intro reached holds
    exact ⟨holds.current, holds.sees.seen, holds.sees.covered⟩

theorem carrier_strips (owned : isOwnedSource sources record = true) {handler : HostHandler}
    (carrying : handler.carries = true) :
    handler.filters.foldl (applyFilter sources) record = scrub sources false record := by
  rw [filters_strip]
  apply if_pos
  obtain ⟨filter, member, known⟩ := List.any_eq_true.mp carrying
  cases filter with
  | host identity => cases known
  | scrub identity sourceScoped =>
      refine List.any_eq_true.mpr ⟨_, member, ?_⟩
      simp [strips, owned]

/-- A host handler of a covered logger must carry the filter as long as the record is raw. -/
theorem handle_raw (owned : isOwnedSource sources record = true)
    (raw : Raw sources logging record progress) (via : Name) (forward : Progress → Progress)
    (taker : Nat) (safe : covered via = true → (logging.hosts taker).carries = true) :
    Raw sources logging record (handle sources logging via forward progress (.host taker)) := by
  simp only [handle]
  by_cases heard : (logging.hosts taker).level ≤ progress.record.levelno
  · rw [if_pos heard]
    generalize filtered :
      (logging.hosts taker).filters.foldl (applyFilter sources) progress.record = result
    have carried : (logging.hosts taker).carries = true →
        result = scrub sources false record := by
      intro carrying
      rw [← filtered]
      rcases raw.current with same | same
      · rw [same]
        exact carrier_strips owned carrying
      · rw [same]
        exact filters_again (scrub_scrubbed record) _
    have either : result = record ∨ result = scrub sources false record := by
      rw [← filtered]
      rcases raw.current with same | same
      · rw [same, filters_strip]
        by_cases stripping : (logging.hosts taker).filters.any (strips sources record) = true
        · exact .inr (if_pos stripping)
        · exact .inl (if_neg stripping)
      · rw [same]
        exact .inr (filters_again (scrub_scrubbed record) _)
    refine ⟨either, raw.sees.append either ?_ rfl⟩
    intro covering
    simp only [covers, Bool.or_eq_true] at covering
    exact carried (covering.elim safe id)
  · rw [if_neg heard]
    exact raw

theorem foldl_raw (owned : isOwnedSource sources record = true) (via : Name)
    (forward : Progress → Progress) (handlers : List Handler)
    (safe : ∀ handler ∈ handlers, ∃ host, handler = .host host ∧
      (covered via = true → (logging.hosts host).carries = true))
    (raw : Raw sources logging record progress) :
    Raw sources logging record
      (handlers.foldl (handle sources logging via forward) progress) := by
  induction handlers generalizing progress with
  | nil => exact raw
  | cons handler rest ih =>
      obtain ⟨host, rfl, carrying⟩ := safe handler List.mem_cons_self
      apply ih (fun other member => safe other (List.mem_cons_of_mem _ member))
      exact handle_raw owned raw via forward host carrying

theorem handle_stripped (stripped : Stripped sources logging record progress) (via : Name)
    (forward : Progress → Progress) (taker : Nat) :
    Stripped sources logging record
      (handle sources logging via forward progress (.host taker)) := by
  simp only [handle]
  by_cases heard : (logging.hosts taker).level ≤ progress.record.levelno
  · rw [if_pos heard]
    have same : (logging.hosts taker).filters.foldl (applyFilter sources) progress.record =
        scrub sources false record := by
      rw [stripped.current]
      exact filters_again (scrub_scrubbed record) _
    rw [same]
    exact ⟨rfl, stripped.sees.append (.inr rfl) (fun _ => rfl) rfl⟩
  · rw [if_neg heard]
    exact stripped

theorem foldl_stripped (via : Name) (forward : Progress → Progress) (handlers : List Handler)
    (hosts : ∀ handler ∈ handlers, ∃ host, handler = Handler.host host)
    (stripped : Stripped sources logging record progress) :
    Stripped sources logging record
      (handlers.foldl (handle sources logging via forward) progress) := by
  induction handlers generalizing progress with
  | nil => exact stripped
  | cons handler rest ih =>
      obtain ⟨host, rfl⟩ := hosts handler List.mem_cons_self
      apply ih (fun other member => hosts other (List.mem_cons_of_mem _ member))
      exact handle_stripped stripped via forward host

theorem resort_stripped {walked : Progress × Bool}
    (stripped : Stripped sources logging record walked.1) :
    Stripped sources logging record (resort logging walked) := by
  unfold resort
  cases silent : !walked.2 && resorts logging walked.1.record.levelno with
  | true => exact ⟨stripped.current, stripped.sees.seen, stripped.sees.covered⟩
  | false => exact stripped

/-- No order of the handlers of a boundary logger lets a raw record past the boundary. -/
theorem foldl_fenced (owned : isOwnedSource sources record = true) (via : Name)
    (forward : Progress → Progress)
    (forwards : ∀ {reached : Progress}, Stripped sources logging record reached →
      Stripped sources logging record (forward reached))
    {handlers : List Handler} (fenced : Fenced logging.hosts handlers)
    (raw : Raw sources logging record progress) :
    Stripped sources logging record
      (handlers.foldl (handle sources logging via forward) progress) := by
  obtain ⟨early, identity, sourceScoped, late, rfl, carry, behind⟩ := fenced
  rw [List.foldl_append, List.foldl_cons]
  apply foldl_stripped via forward late behind
  have before : Raw sources logging record
      (early.foldl (handle sources logging via forward) progress) := by
    apply foldl_raw owned via forward early _ raw
    intro handler member
    obtain ⟨host, same, carrying⟩ := carry handler member
    exact ⟨host, same, fun _ => carrying⟩
  apply forwards
  refine ⟨?_, before.sees.seen, before.sees.covered⟩
  rcases before.current with same | same
  · rw [same, scrub_strips, owned, Bool.or_true]
    rfl
  · rw [same]
    exact scrub_again (scrub_scrubbed record) sourceScoped

theorem walk_boundary (watched : Watched logging) (owned : isOwnedSource sources record = true)
    {name : Name} (boundary : isBoundaryLogger name = true)
    (raw : Raw sources logging record progress) :
    Stripped sources logging record (walk sources logging name progress).1 := by
  have fenced := watched.own name boundary
  cases name with
  | nil =>
      simp only [walk]
      exact foldl_fenced owned [] id id fenced raw
  | cons component parent =>
      have own := foldl_fenced owned (component :: parent)
        (fun reached => resort logging (walk sources logging parent reached))
        (fun stripped => resort_stripped (walk_stripped parent stripped)) fenced raw
      simp only [walk]
      by_cases passes : (logging.loggers (component :: parent)).propagate = true
      · rw [if_pos passes]
        exact walk_stripped parent own
      · rw [if_neg passes]
        exact own

/-- A name under a boundary logger is neither one itself nor above one. -/
theorem descendant_uncovered {place : Name} (inside : place = cashewLogger ∨ place = coreLogger)
    (component : String) (parent : Name) :
    covered (component :: (parent ++ place)) = false ∧
      isBoundaryLogger (component :: (parent ++ place)) = false := by
  have above : place <:+ component :: (parent ++ place) :=
    (List.suffix_append parent place).trans (List.suffix_cons _ _)
  have uncovered : covered (component :: (parent ++ place)) = false := by
    apply Bool.eq_false_iff.mpr
    intro covering
    simp only [covered, Bool.or_eq_true, List.isSuffixOf_iff_suffix] at covering
    rcases inside with rfl | rfl
    · rcases covering with suffix | suffix
      · have shorter := suffix.length_le
        simp only [List.length_cons, List.length_append] at shorter
        omega
      · exact absurd (above.trans suffix) (by decide)
    · rcases covering with suffix | suffix
      · exact absurd (above.trans suffix) (by decide)
      · have shorter := suffix.length_le
        simp only [List.length_cons, List.length_append] at shorter
        omega
  refine ⟨uncovered, ?_⟩
  apply Bool.eq_false_iff.mpr
  intro boundary
  have known := List.contains_iff_mem.mp boundary
  generalize component :: (parent ++ place) = name at known uncovered
  have all : ∀ other ∈ boundaryLoggers.map Prod.fst, covered other = true := by decide
  rw [all name known] at uncovered
  cases uncovered

/-- From anywhere in the Cashew hierarchies. -/
theorem walk_raw (watched : Watched logging) (owned : isOwnedSource sources record = true)
    {place : Name} (inside : place = cashewLogger ∨ place = coreLogger) (under : Name)
    (raw : Raw sources logging record progress) :
    Raw sources logging record (walk sources logging (under ++ place) progress).1 := by
  induction under generalizing progress with
  | nil =>
      have boundary : isBoundaryLogger place = true := by
        rcases inside with rfl | rfl
        · decide
        · decide
      exact (walk_boundary watched owned boundary raw).raw
  | cons component parent ih =>
      obtain ⟨uncovered, inner⟩ := descendant_uncovered inside component parent
      have own : Raw sources logging record
          ((logging.loggers (component :: (parent ++ place))).handlers.foldl
            (handle sources logging (component :: (parent ++ place))
              (fun reached => resort logging (walk sources logging (parent ++ place) reached)))
            progress) := by
        apply foldl_raw owned _ _ _ _ raw
        intro handler member
        obtain ⟨host, same⟩ := watched.other _ inner handler member
        refine ⟨host, same, ?_⟩
        rw [uncovered]
        exact fun never => absurd never Bool.false_ne_true
      simp only [List.cons_append, walk]
      by_cases passes : (logging.loggers (component :: (parent ++ place))).propagate = true
      · rw [if_pos passes]
        exact ih own
      · rw [if_neg passes]
        exact own

/-- Where Cashew logs: the two hierarchies and the root. -/
def inside (name : Name) : Bool :=
  cashewLogger.isSuffixOf name || coreLogger.isSuffixOf name || name.isEmpty

theorem log_raw (watched : Watched logging) (owned : isOwnedSource sources record = true)
    {name : Name} (within : inside name = true) :
    Raw sources logging record (log sources logging name record) := by
  have start : Raw sources logging record { record := record } := by
    refine ⟨.inl rfl, ?_, ?_⟩
    · simp
    · simp
  have walked : Raw sources logging record
      (walk sources logging name { record := record }).1 := by
    simp only [inside, Bool.or_eq_true, List.isSuffixOf_iff_suffix, List.isEmpty_iff] at within
    rcases within with (⟨under, rfl⟩ | ⟨under, rfl⟩) | rfl
    · exact walk_raw watched owned (.inl rfl) under start
    · exact walk_raw watched owned (.inr rfl) under start
    · exact (walk_boundary watched owned (by decide) start).raw
  unfold log
  by_cases enabled : effectiveLevel logging name ≤ record.levelno
  · rw [if_pos enabled]
    unfold resort
    cases silent : !(walk sources logging name { record := record }).2 &&
        resorts logging (walk sources logging name { record := record }).1.record.levelno with
    | true => exact ⟨walked.current, walked.sees.seen, walked.sees.covered⟩
    | false => exact walked
  · rw [if_neg enabled]
    exact start

end

/-! ## Records that look the same -/

def Argument.isPublic : Argument → Bool
  | .boolean _ => true
  | .integer _ => true
  | .real _ => true
  | .text value => safeEnvName value
  | .object _ => false

/-- The arguments may differ where neither is public. -/
def PublicAgree (first second : Argument) : Prop :=
  first.isPublic = true ∨ second.isPublic = true → first = second

/-- The arguments may differ where neither belongs to the vocabulary. -/
def WordAgree (vocabulary : List String) (first second : Argument) : Prop :=
  within vocabulary first = true ∨ within vocabulary second = true → first = second

structure WordsAgree (template : String) (first second : List Argument) : Prop where
  embedding : embeddingFailureTemplate.toList.isPrefixOf template.toList = true →
    first.length = 10 → ∀ left right : Argument,
      (first[0]? = some left → second[0]? = some right →
        WordAgree safeEmbedOperations left right) ∧
      (first[7]? = some left → second[7]? = some right →
        WordAgree safeEmbedReasons left right)
  identity : identityLockTemplate.toList.isPrefixOf template.toList = true →
    first.length = 2 → ∀ left right : Argument,
      first[0]? = some left → second[0]? = some right →
        WordAgree safeIdentityStates left right

def Arguments.shapeless : Arguments → Bool
  | .absent => true
  | .object _ => true
  | _ => false

inductive ArgumentsAgree (template : String) : Arguments → Arguments → Prop where
  | positional (first second : List Argument) (values : List.Forall₂ PublicAgree first second)
      (words : WordsAgree template first second) :
      ArgumentsAgree template (.positional first) (.positional second)
  | mapping (first second : List (Argument × Argument))
      (entries : List.Forall₂ (fun left right => left.1 = right.1 ∧ PublicAgree left.2 right.2)
        first second) :
      ArgumentsAgree template (.mapping first) (.mapping second)
  | shapeless (first second : Arguments) (left : first.shapeless = true)
      (right : second.shapeless = true) :
      ArgumentsAgree template first second

inductive ExceptionsAgree : ExcInfo → ExcInfo → Prop where
  | absent : ExceptionsAgree .absent .absent
  | empty : ExceptionsAgree .empty .empty
  | raised (first second firstText secondText : String) (firstTraceback secondTraceback :
      Option String)
      (class_ : first ∈ safeExceptionClasses ∨ second ∈ safeExceptionClasses → first = second) :
      ExceptionsAgree (.raised first firstText firstTraceback)
        (.raised second secondText secondTraceback)

/-- The two records differ in private parts only. -/
structure Agree (first second : LogRecord) : Prop where
  name : first.name = second.name
  pathname : first.pathname = second.pathname
  levelno : first.levelno = second.levelno
  msg : first.msg = second.msg
  args : ArgumentsAgree first.template first.args second.args
  exceptions : ExceptionsAgree first.excInfo second.excInfo
  mark : first.cashewScrubbed = second.cashewScrubbed

def LogRecord.view (record : LogRecord) : Message × Arguments × ExcInfo :=
  (record.msg, record.args, record.excInfo)

section

variable {sources : Sources} {first second : LogRecord}

theorem safe_argument_agree {left right : Argument} (agree : PublicAgree left right) :
    safeArgument left = safeArgument right := by
  have hidden (argument : Argument) (silent : argument.isPublic = false) :
      safeArgument argument = redacted := by
    cases argument with
    | boolean value => cases silent
    | integer value => cases silent
    | real shown => cases silent
    | text value =>
        simp only [Argument.isPublic] at silent
        simp [safeArgument, silent]
    | object shown => rfl
  by_cases known : left.isPublic = true ∨ right.isPublic = true
  · rw [agree known]
  · simp only [not_or, Bool.not_eq_true] at known
    rw [hidden left known.1, hidden right known.2]

theorem safe_word_agree {vocabulary : List String} {left right : Argument}
    (agree : WordAgree vocabulary left right) :
    safeWord vocabulary left = safeWord vocabulary right := by
  by_cases known : within vocabulary left = true ∨ within vocabulary right = true
  · rw [agree known]
  · simp only [not_or] at known
    simp only [safeWord, if_neg known.1, if_neg known.2]

theorem safe_entries_agree {left right : List (Argument × Argument)}
    (entries : List.Forall₂ (fun one other => one.1 = other.1 ∧ PublicAgree one.2 other.2)
      left right) : safeEntries left = safeEntries right := by
  unfold safeEntries
  generalize ([] : List (Argument × Argument)) = safe
  induction entries generalizing safe with
  | nil => rfl
  | cons same rest ih =>
      rw [List.foldl_cons, List.foldl_cons, same.1, safe_argument_agree same.2]
      exact ih _

theorem map_forall₂ {Left Right Result : Type} {related : Left → Right → Prop}
    {one : Left → Result} {other : Right → Result} {left : List Left} {right : List Right}
    (all : List.Forall₂ related left right)
    (same : ∀ item match_, related item match_ → one item = other match_) :
    left.map one = right.map other := by
  induction all with
  | nil => rfl
  | cons head tail ih => rw [List.map_cons, List.map_cons, same _ _ head, ih]

theorem values_agree {left right : List Argument}
    (values : List.Forall₂ PublicAgree left right) :
    safeArguments (.positional left) = safeArguments (.positional right) := by
  simp only [safeArguments, map_forall₂ values fun _ _ => safe_argument_agree]

theorem shapeless_arguments {args : Arguments} (shapeless : args.shapeless = true) :
    safeArguments args = .positional [] := by
  cases args with
  | absent => rfl
  | object shown => rfl
  | positional values => cases shapeless
  | mapping entries => cases shapeless

theorem safe_arguments_agree {template : String} {left right : Arguments}
    (agree : ArgumentsAgree template left right) : safeArguments left = safeArguments right := by
  cases agree with
  | positional one other values words => exact values_agree values
  | mapping one other entries => simp only [safeArguments, safe_entries_agree entries]
  | shapeless one other left right =>
      rw [shapeless_arguments left, shapeless_arguments right]

/-- Only a tuple of ten is read as an embedding failure. -/
theorem embedding_plain {args : Arguments}
    (other : ∀ values, args = .positional values → values.length ≠ 10) :
    safeEmbeddingFailureArguments args = safeArguments args := by
  unfold safeEmbeddingFailureArguments
  split
  · exact absurd rfl (other _ rfl)
  · rfl

theorem identity_plain {args : Arguments}
    (other : ∀ values, args = .positional values → values.length ≠ 2) :
    safeIdentityLockArguments args = safeArguments args := by
  unfold safeIdentityLockArguments
  split
  · exact absurd rfl (other _ rfl)
  · rfl

theorem shapeless_positional {args : Arguments} (shapeless : args.shapeless = true)
    (values : List Argument) : args ≠ .positional values := by
  rintro rfl
  cases shapeless

theorem embedding_agree {template : String} {left right : List Argument}
    (values : List.Forall₂ PublicAgree left right) (words : WordsAgree template left right)
    (prefixed : embeddingFailureTemplate.toList.isPrefixOf template.toList = true)
    (length : left.length = 10) :
    safeEmbeddingFailureArguments (.positional left) =
      safeEmbeddingFailureArguments (.positional right) := by
  have named := words.embedding prefixed length
  match left, right, values, length with
  | [_, _, _, _, _, _, _, _, _, _], [_, _, _, _, _, _, _, _, _, _],
      .cons _ (.cons generation (.cons _ (.cons _ (.cons _ (.cons _ (.cons count (.cons _
        (.cons exitCode (.cons elapsed .nil))))))))), _ =>
      have operation := safe_word_agree ((named _ _).1 rfl rfl)
      have reason := safe_word_agree ((named _ _).2 rfl rfl)
      simp only [safeEmbeddingFailureArguments, operation, reason, safe_argument_agree generation,
        safe_argument_agree count, safe_argument_agree exitCode, safe_argument_agree elapsed]

theorem identity_agree {template : String} {left right : List Argument}
    (values : List.Forall₂ PublicAgree left right) (words : WordsAgree template left right)
    (prefixed : identityLockTemplate.toList.isPrefixOf template.toList = true)
    (length : left.length = 2) :
    safeIdentityLockArguments (.positional left) =
      safeIdentityLockArguments (.positional right) := by
  have named := words.identity prefixed length
  match left, right, values, length with
  | [_, _], [_, _], .cons _ (.cons _ .nil), _ =>
      have state := safe_word_agree (named _ _ rfl rfl)
      simp only [safeIdentityLockArguments, state]

theorem adapter_arguments_agree {template : String} {left right : Arguments}
    (agree : ArgumentsAgree template left right) :
    adapterArguments template left = adapterArguments template right := by
  have plain := safe_arguments_agree agree
  unfold adapterArguments
  by_cases embedding : embeddingFailureTemplate.toList.isPrefixOf template.toList = true
  · rw [if_pos embedding, if_pos embedding]
    cases agree with
    | positional one other values words =>
        by_cases length : one.length = 10
        · exact embedding_agree values words embedding length
        · have same := values.length_eq
          rw [embedding_plain, embedding_plain, plain]
          · rintro _ ⟨rfl⟩
            exact same ▸ length
          · rintro _ ⟨rfl⟩
            exact length
    | mapping one other entries => exact plain
    | shapeless one other left right =>
        rw [embedding_plain, embedding_plain, plain]
        · exact fun values same => absurd same (shapeless_positional right values)
        · exact fun values same => absurd same (shapeless_positional left values)
  · rw [if_neg embedding, if_neg embedding]
    by_cases identity : identityLockTemplate.toList.isPrefixOf template.toList = true
    · rw [if_pos identity, if_pos identity]
      cases agree with
      | positional one other values words =>
          by_cases length : one.length = 2
          · exact identity_agree values words identity length
          · have same := values.length_eq
            rw [identity_plain, identity_plain, plain]
            · rintro _ ⟨rfl⟩
              exact same ▸ length
            · rintro _ ⟨rfl⟩
              exact length
      | mapping one other entries => exact plain
      | shapeless one other left right =>
          rw [identity_plain, identity_plain, plain]
          · exact fun values same => absurd same (shapeless_positional right values)
          · exact fun values same => absurd same (shapeless_positional left values)
    · rw [if_neg identity, if_neg identity]
      exact plain

theorem safe_error_class_agree {left right : String}
    (agree : left ∈ safeExceptionClasses ∨ right ∈ safeExceptionClasses → left = right) :
    safeErrorClass (some left) = safeErrorClass (some right) := by
  by_cases known : left ∈ safeExceptionClasses ∨ right ∈ safeExceptionClasses
  · rw [agree known]
  · simp only [not_or] at known
    simp [safeErrorClass, known.1, known.2]

theorem exceptions_agree (agree : ExceptionsAgree first.excInfo second.excInfo) :
    first.suffix = second.suffix ∧ scrubbedExcInfo first = scrubbedExcInfo second := by
  unfold LogRecord.suffix scrubbedExcInfo LogRecord.error
  generalize first.excInfo = left at agree
  generalize second.excInfo = right at agree
  cases agree with
  | absent => exact ⟨rfl, rfl⟩
  | empty => exact ⟨rfl, rfl⟩
  | raised one other oneText otherText oneTraceback otherTraceback agrees =>
      have same := safe_error_class_agree agrees
      simp only [same, and_self]

/-- What is left of the two records is the same. -/
theorem rewrite_agree (agree : Agree first second) :
    (rewrite sources first).view = (rewrite sources second).view := by
  obtain ⟨suffix, excInfo⟩ := exceptions_agree agree.exceptions
  have adapter : isAdapterSource sources first = isAdapterSource sources second := by
    unfold isAdapterSource
    rw [agree.name, agree.pathname]
  have template : first.template = second.template := by
    unfold LogRecord.template
    rw [agree.msg]
  have args := adapter_arguments_agree agree.args
  simp only [LogRecord.view, rewrite, adapter, suffix, excInfo, template]
  rw [template] at args
  rw [args]

end

/-! ## Two runs -/

def Paired (sources : Sources) (first second left right : LogRecord) : Prop :=
  left = first ∧ right = second ∨
    left = scrub sources false first ∧ right = scrub sources false second

structure PairedDelivery (sources : Sources) (first second : LogRecord)
    (left right : Delivery) : Prop where
  via : left.via = right.via
  handler : left.handler = right.handler
  record : Paired sources first second left.record right.record

structure Twins (sources : Sources) (first second : LogRecord) (left right : Progress) : Prop where
  record : Paired sources first second left.record right.record
  delivered : List.Forall₂ (PairedDelivery sources first second) left.delivered right.delivered
  lastResort : left.lastResort = right.lastResort

section

variable {sources : Sources} {logging : Logging} {first second : LogRecord}
variable {left right : Progress}

theorem Paired.level (agree : Agree first second) {one other : LogRecord}
    (paired : Paired sources first second one other) : one.levelno = other.levelno := by
  rcases paired with ⟨rfl, rfl⟩ | ⟨rfl, rfl⟩
  · exact agree.levelno
  · rw [scrub_levelno, scrub_levelno]
    exact agree.levelno

theorem Agree.owned (agree : Agree first second) :
    isOwnedSource sources first = isOwnedSource sources second := by
  unfold isOwnedSource
  rw [agree.pathname]

theorem Paired.scrub (agree : Agree first second) {one other : LogRecord}
    (paired : Paired sources first second one other) (sourceScoped : Bool) :
    Paired sources first second (LogFilter.scrub sources sourceScoped one)
      (LogFilter.scrub sources sourceScoped other) := by
  rcases paired with ⟨rfl, rfl⟩ | ⟨rfl, rfl⟩
  · rw [scrub_strips one, scrub_strips other, agree.owned]
    by_cases stripping : (!sourceScoped || isOwnedSource sources other) = true
    · rw [if_pos stripping, if_pos stripping]
      exact .inr ⟨rfl, rfl⟩
    · rw [if_neg stripping, if_neg stripping]
      exact .inl ⟨rfl, rfl⟩
  · rw [scrub_again (scrub_scrubbed _), scrub_again (scrub_scrubbed _)]
    exact .inr ⟨rfl, rfl⟩

theorem Paired.filters (agree : Agree first second) (filters : List Filter)
    {one other : LogRecord} (paired : Paired sources first second one other) :
    Paired sources first second (filters.foldl (applyFilter sources) one)
      (filters.foldl (applyFilter sources) other) := by
  induction filters generalizing one other with
  | nil => exact paired
  | cons filter rest ih =>
      apply ih
      cases filter with
      | host identity => exact paired
      | scrub identity sourceScoped => exact paired.scrub agree sourceScoped

theorem handle_twins (agree : Agree first second) (twins : Twins sources first second left right)
    (via : Name) (forward : Progress → Progress)
    (forwards : ∀ {one other : Progress}, Twins sources first second one other →
      Twins sources first second (forward one) (forward other)) (handler : Handler) :
    Twins sources first second (handle sources logging via forward left handler)
      (handle sources logging via forward right handler) := by
  cases handler with
  | boundary identity sourceScoped =>
      apply forwards
      exact ⟨twins.record.scrub agree sourceScoped, twins.delivered, twins.lastResort⟩
  | host taker =>
      simp only [handle]
      rw [twins.record.level agree]
      by_cases heard : (logging.hosts taker).level ≤ right.record.levelno
      · rw [if_pos heard, if_pos heard]
        have filtered := twins.record.filters agree (logging.hosts taker).filters
        refine ⟨filtered, ?_, twins.lastResort⟩
        exact List.rel_append twins.delivered (.cons ⟨rfl, rfl, filtered⟩ .nil)
      · rw [if_neg heard, if_neg heard]
        exact twins

theorem foldl_twins (logging : Logging) (agree : Agree first second)
    (twins : Twins sources first second left right) (via : Name) (forward : Progress → Progress)
    (forwards : ∀ {one other : Progress}, Twins sources first second one other →
      Twins sources first second (forward one) (forward other)) (handlers : List Handler) :
    Twins sources first second (handlers.foldl (handle sources logging via forward) left)
      (handlers.foldl (handle sources logging via forward) right) := by
  induction handlers generalizing left right with
  | nil => exact twins
  | cons handler rest ih => exact ih (handle_twins agree twins via forward forwards handler)

theorem resort_twins (agree : Agree first second) {one other : Progress × Bool}
    (twins : Twins sources first second one.1 other.1) (found : one.2 = other.2) :
    Twins sources first second (resort logging one) (resort logging other) := by
  unfold resort
  rw [found, twins.record.level agree]
  cases silent : !other.2 && resorts logging other.1.record.levelno with
  | true => exact ⟨twins.record, twins.delivered, rfl⟩
  | false => exact twins

theorem walk_twins (logging : Logging) (agree : Agree first second) (name : Name)
    (twins : Twins sources first second left right) :
    Twins sources first second (walk sources logging name left).1
        (walk sources logging name right).1 ∧
      (walk sources logging name left).2 = (walk sources logging name right).2 := by
  induction name generalizing left right with
  | nil =>
      simp only [walk]
      exact ⟨foldl_twins logging agree twins [] id id _, trivial⟩
  | cons component parent ih =>
      have own := foldl_twins logging agree twins (component :: parent)
        (fun reached => resort logging (walk sources logging parent reached))
        (fun paired => resort_twins agree (ih paired).1 (ih paired).2)
        (logging.loggers (component :: parent)).handlers
      simp only [walk]
      by_cases passes : (logging.loggers (component :: parent)).propagate = true
      · rw [if_pos passes, if_pos passes]
        exact ⟨(ih own).1, by rw [(ih own).2]⟩
      · rw [if_neg passes, if_neg passes]
        exact ⟨own, rfl⟩

theorem log_twins (sources : Sources) (logging : Logging) (agree : Agree first second)
    (name : Name) :
    Twins sources first second (log sources logging name first)
      (log sources logging name second) := by
  have start : Twins sources first second { record := first } { record := second } :=
    ⟨.inl ⟨rfl, rfl⟩, .nil, rfl⟩
  unfold log
  rw [agree.levelno]
  by_cases enabled : effectiveLevel logging name ≤ second.levelno
  · rw [if_pos enabled, if_pos enabled]
    obtain ⟨walked, found⟩ := walk_twins logging agree name start
    exact resort_twins agree walked found
  · rw [if_neg enabled, if_neg enabled]
    exact start

end

/-! ## The boundary keeps content back -/

/-- What the covered handlers see of a record, in order. -/
def observed (sources : Sources) (logging : Logging) (name : Name) (record : LogRecord) :
    List (Name × Nat × Message × Arguments × ExcInfo) :=
  ((log sources logging name record).delivered.filter (covers logging)).map fun delivery =>
    (delivery.via, delivery.handler, delivery.record.view)

section

variable {sources : Sources} {logging host : Logging} {record other : LogRecord} {name : Name}

theorem scrub_fresh (raw : record.cashewScrubbed = false) :
    scrub sources false record = rewrite sources record := by
  simp [scrub, raw]

theorem covers_rewritten (watched : Watched logging)
    (owned : isOwnedSource sources record = true) (within : inside name = true)
    (raw : record.cashewScrubbed = false) :
    ∀ delivery ∈ (log sources logging name record).delivered, covers logging delivery = true →
      delivery.record = rewrite sources record := by
  intro delivery member covering
  rw [← scrub_fresh raw]
  exact (log_raw watched owned within).sees.covered delivery member covering

theorem filter_map_forall₂ {Item Result : Type} {related : Item → Item → Prop}
    {keep : Item → Bool} {view : Item → Result} {left right : List Item}
    (all : List.Forall₂ related left right)
    (kept : ∀ one match_, related one match_ → keep one = keep match_)
    (same : ∀ one ∈ left, ∀ match_ ∈ right, related one match_ → keep one = true →
      view one = view match_) :
    (left.filter keep).map view = (right.filter keep).map view := by
  induction all with
  | nil => rfl
  | cons head tail ih =>
      have later := ih fun one left match_ right =>
        same one (List.mem_cons_of_mem _ left) match_ (List.mem_cons_of_mem _ right)
      rw [List.filter_cons, List.filter_cons, kept _ _ head]
      split
      · rename_i keeping
        rw [List.map_cons, List.map_cons, later,
          same _ List.mem_cons_self _ List.mem_cons_self head ((kept _ _ head).trans keeping)]
      · exact later

/-- While the boundary is active, whatever handlers the host attaches, the handlers that a
Cashew record reaches through these loggers or that carry the filter see it rewritten, and
cannot tell it from another with the same public parts. -/
theorem boundary_keeps_content_back (sources : Sources) (host : Logging) (clean : Clean host)
    (logging : Logging)
    (active : Reaches hostStep anyStep (acquireProviderScrubFilters host) logging)
    (name : Name) (within : inside name = true) (record : LogRecord)
    (owned : isOwnedSource sources record = true) (raw : record.cashewScrubbed = false) :
    (∀ delivery ∈ (log sources logging name record).delivered, covers logging delivery = true →
      delivery.record = rewrite sources record) ∧
    ∀ other, Agree record other →
      observed sources logging name record = observed sources logging name other := by
  have watched := active_watched clean active
  have rewritten := covers_rewritten watched owned within raw
  refine ⟨rewritten, ?_⟩
  intro other agree
  have same : isOwnedSource sources other = true := agree.owned.symm.trans owned
  have otherRewritten := covers_rewritten watched same within (agree.mark.symm.trans raw)
  have twins := log_twins sources logging agree name
  have covering (one match_ : Delivery) (paired : PairedDelivery sources record other one match_) :
      covers logging one = covers logging match_ := by
    unfold covers
    rw [paired.via, paired.handler]
  apply filter_map_forall₂ twins.delivered covering
  intro one left match_ right paired keeping
  rw [rewritten one left keeping,
    otherRewritten match_ right ((covering one match_ paired).symm.trans keeping), paired.via,
    paired.handler, rewrite_agree agree]

end

/-! ## A handler in two places -/

def cashewSources : Sources where
  resolve := fun path => some ["cashew", path]
  packageDir := ["cashew"]
  upstreamSourceDir := none

def syncLogger : Name := "sync" :: cashewLogger

def sharedHandler : Logging :=
  ((acquireProviderScrubFilters {}).addHandler [] (.host 0)).addHandler syncLogger (.host 0)

def syncWarning : LogRecord where
  name := "plugins.memory.cashew.sync"
  pathname := "sync.py"
  levelno := 30
  msg := .text "turn %s failed"
  args := .positional [.text "private content"]

theorem shared_handler_active :
    Reaches hostStep anyStep (acquireProviderScrubFilters {}) sharedHandler :=
  reaches_of_execute hostStep _ [.addHandler [] 0, .addHandler syncLogger 0] rfl

/-- The handler of the root sees the raw record, since the record also reaches it below the
boundary. -/
theorem shared_handler_sees_content :
    ∃ delivery ∈ (log cashewSources sharedHandler syncLogger syncWarning).delivered,
      .host delivery.handler ∈ (sharedHandler.loggers []).handlers ∧
        delivery.record = syncWarning := by
  refine ⟨⟨syncLogger, 0, syncWarning⟩, ?_, ?_, rfl⟩
  · decide
  · decide

theorem shared_handler_kept_back :
    (∀ delivery ∈ (log cashewSources sharedHandler syncLogger syncWarning).delivered,
      covers sharedHandler delivery = true →
        delivery.record = rewrite cashewSources syncWarning) ∧
    ∀ other, Agree syncWarning other →
      observed cashewSources sharedHandler syncLogger syncWarning =
        observed cashewSources sharedHandler syncLogger other :=
  boundary_keeps_content_back cashewSources {} default_clean sharedHandler shared_handler_active
    syncLogger (by decide) syncWarning (by decide) rfl

end HermesCashew.LogFilter
