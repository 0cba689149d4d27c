import HermesCashew.LogBoundary

/-!
# Delivery across the log boundary

The walk of a record with the boundary in place, compared with the walk of the same record
without it: which host handlers receive it, how often, and whether `logging.lastResort` is
used.
-/

namespace HermesCashew.LogFilter

set_option autoImplicit false

def isBoundaryLogger (name : Name) : Bool :=
  (boundaryLoggers.map Prod.fst).contains name

/-! ## The loggers of a walk -/

section

variable (logging : Logging)

/-- The loggers that a record passes from `name` upwards. -/
def visited : Name → List Name
  | [] => [[]]
  | component :: parent =>
      (component :: parent) ::
        if (logging.loggers (component :: parent)).propagate then visited parent else []

def gate : Name → Option Name
  | [] => some []
  | component :: parent =>
      if isBoundaryLogger (component :: parent) then some (component :: parent)
      else if (logging.loggers (component :: parent)).propagate then gate parent
      else none

def below : Name → List Name
  | [] => [[]]
  | component :: parent =>
      (component :: parent) ::
        if isBoundaryLogger (component :: parent) then []
        else if (logging.loggers (component :: parent)).propagate then below parent
        else []

def takers (level : Nat) (handlers : List Handler) : List Nat :=
  handlers.filterMap fun handler =>
    match handler with
    | .host host => if (logging.hosts host).level ≤ level then some host else none
    | .boundary _ _ => none

def accepted (level : Nat) (names : List Name) : List Nat :=
  names.flatMap fun name => takers logging level (logging.loggers name).handlers

/-- Some logger has a handler, of whatever level. -/
def handled (names : List Name) : Bool :=
  names.any fun name => !(logging.loggers name).handlers.isEmpty

end

/-! ## Walks -/

structure Walked (before after : Progress) (handlers : List Nat) : Prop where
  delivered : after.delivered.map Delivery.handler =
    before.delivered.map Delivery.handler ++ handlers
  level : after.record.levelno = before.record.levelno
  lastResort : after.lastResort = before.lastResort

section

variable {sources : Sources} {logging : Logging}

theorem Walked.refl (progress : Progress) : Walked progress progress [] :=
  ⟨(List.append_nil _).symm, rfl, rfl⟩

theorem Walked.trans {first second third : Progress} {early late : List Nat}
    (left : Walked first second early) (right : Walked second third late) :
    Walked first third (early ++ late) where
  delivered := by rw [right.delivered, left.delivered, List.append_assoc]
  level := right.level.trans left.level
  lastResort := right.lastResort.trans left.lastResort

theorem scrub_levelno (sourceScoped : Bool) (record : LogRecord) :
    (scrub sources sourceScoped record).levelno = record.levelno := by
  unfold scrub
  by_cases already : record.cashewScrubbed = true
  · rw [if_pos already]
  · rw [if_neg already]
    by_cases foreign : (sourceScoped && !isOwnedSource sources record) = true
    · rw [if_pos foreign]
    · rw [if_neg foreign]
      rfl

theorem apply_filter_levelno (record : LogRecord) (filter : Filter) :
    (applyFilter sources record filter).levelno = record.levelno := by
  cases filter with
  | host identity => rfl
  | scrub identity sourceScoped => exact scrub_levelno sourceScoped record

theorem filters_levelno (filters : List Filter) (record : LogRecord) :
    (filters.foldl (applyFilter sources) record).levelno = record.levelno := by
  induction filters generalizing record with
  | nil => rfl
  | cons filter rest ih => exact (ih _).trans (apply_filter_levelno record filter)

theorem handle_host (sources : Sources) (logging : Logging) (via : Name)
    (forward : Progress → Progress) (progress : Progress) (host : Nat) :
    Walked progress (handle sources logging via forward progress (.host host))
      (takers logging progress.record.levelno [.host host]) := by
  by_cases heard : (logging.hosts host).level ≤ progress.record.levelno
  · have taken : takers logging progress.record.levelno [.host host] = [host] := by
      simp [takers, heard]
    simp only [handle, if_pos heard, taken]
    constructor
    · simp
    · exact filters_levelno _ _
    · rfl
  · have taken : takers logging progress.record.levelno [.host host] = [] := by
      simp [takers, heard]
    simp only [handle, if_neg heard, taken]
    exact .refl progress

theorem takers_cons (level : Nat) (handler : Handler) (rest : List Handler) :
    takers logging level (handler :: rest) =
      takers logging level [handler] ++ takers logging level rest := by
  unfold takers
  rw [← List.filterMap_append]
  rfl

theorem foldl_hosts (sources : Sources) (logging : Logging) (via : Name)
    (forward : Progress → Progress) (handlers : List Handler)
    (hosts : ∀ handler ∈ handlers, ∃ host, handler = Handler.host host) (progress : Progress) :
    Walked progress (handlers.foldl (handle sources logging via forward) progress)
      (takers logging progress.record.levelno handlers) := by
  induction handlers generalizing progress with
  | nil => exact .refl progress
  | cons handler rest ih =>
      obtain ⟨host, rfl⟩ := hosts handler List.mem_cons_self
      have start := handle_host sources logging via forward progress host
      have later := ih (fun other member => hosts other (List.mem_cons_of_mem _ member))
        (handle sources logging via forward progress (.host host))
      rw [start.level] at later
      rw [takers_cons]
      exact start.trans later

/-- A walk over loggers that hold host handlers only. -/
theorem walk_hosts (sources : Sources)
    (hosts : ∀ name, ∀ handler ∈ (logging.loggers name).handlers,
      ∃ host, handler = Handler.host host) (name : Name) (progress : Progress) :
    Walked progress (walk sources logging name progress).1
        (accepted logging progress.record.levelno (visited logging name)) ∧
      (walk sources logging name progress).2 = handled logging (visited logging name) := by
  induction name generalizing progress with
  | nil =>
      refine ⟨?_, by simp [walk, visited, handled]⟩
      have walked := foldl_hosts sources logging [] id _ (hosts [])
        progress
      simpa [walk, visited, accepted] using walked
  | cons component parent ih =>
      have own := foldl_hosts sources logging (component :: parent)
        (fun reached => resort logging (walk sources logging parent reached)) _
        (hosts (component :: parent)) progress
      by_cases passes : (logging.loggers (component :: parent)).propagate = true
      · have above := ih ((logging.loggers (component :: parent)).handlers.foldl
          (handle sources logging (component :: parent)
            (fun reached => resort logging (walk sources logging parent reached))) progress)
        rw [own.level] at above
        simp only [walk, visited, if_pos passes, accepted, List.flatMap_cons]
        refine ⟨own.trans above.1, ?_⟩
        simp only [above.2, handled, List.any_cons]
      · simp only [walk, visited, if_neg passes, accepted, List.flatMap_cons, List.flatMap_nil,
          List.append_nil]
        exact ⟨own, by simp [handled]⟩

end

/-! ## Walks across the boundary -/

def openRoad : Name → Bool
  | [] => true
  | component :: parent => !isBoundaryLogger (component :: parent) && openRoad parent

/-- The gate of a walk, when it is not the root, and its parent have no further gate. -/
theorem open_road_above {component : String} {parent : Name}
    (boundary : isBoundaryLogger (component :: parent) = true) : openRoad parent = true := by
  simp only [isBoundaryLogger, boundaryLoggers, List.map_cons, List.map_nil, cashewLogger,
    coreLogger, List.contains_cons, List.contains_nil, Bool.or_false, Bool.or_eq_true,
    beq_iff_eq, List.cons.injEq] at boundary
  rcases boundary with ⟨_, rfl⟩ | ⟨_, rfl⟩ | other
  · decide
  · decide
  · cases other

section

variable {sources : Sources} {host guarded : Logging}

theorem Guards.takers (guards : Guards boundaryLoggers host guarded) (level : Nat)
    (handlers : List Handler) : takers guarded level handlers = takers host level handlers := by
  simp only [LogFilter.takers, guards.level]

theorem Guards.open (guards : Guards boundaryLoggers host guarded) {name : Name}
    (inner : isBoundaryLogger name = false) : guarded.loggers name = host.loggers name := by
  apply guards.other
  intro member
  have found : isBoundaryLogger name = true := List.contains_iff_mem.mpr member
  rw [inner] at found
  cases found

theorem Guards.gate (guards : Guards boundaryLoggers host guarded) {name : Name}
    (boundary : isBoundaryLogger name = true) :
    ∃ identity sourceScoped,
      guarded.loggers name = (host.loggers name).bounded identity sourceScoped := by
  obtain ⟨place, member, rfl⟩ := List.mem_map.mp (List.contains_iff_mem.mp boundary)
  obtain ⟨identity, same⟩ := guards.own place member
  exact ⟨identity, place.2, same⟩

theorem Guards.resorts (guards : Guards boundaryLoggers host guarded) (level : Nat) :
    resorts guarded level = resorts host level := by
  simp only [LogFilter.resorts, guards.lastResort]

/-- The handlers of a boundary logger: the host's, then the boundary forwards. -/
theorem foldl_bounded (sources : Sources) (guards : Guards boundaryLoggers host guarded)
    (via : Name) (forward : Progress → Progress) {handlers : List Handler}
    (hosts : ∀ handler ∈ handlers, ∃ found, handler = Handler.host found) (identity : Nat)
    (sourceScoped : Bool) (progress : Progress) :
    ∃ reached,
      (handlers ++ [Handler.boundary identity sourceScoped]).foldl
        (handle sources guarded via forward) progress = forward reached ∧
      Walked progress reached (takers host progress.record.levelno handlers) := by
  have walked := foldl_hosts sources guarded via forward handlers hosts
    progress
  rw [guards.takers] at walked
  refine ⟨_, List.foldl_append, ?_⟩
  exact ⟨walked.delivered, (scrub_levelno _ _).trans walked.level, walked.lastResort⟩

/-- Above a gate only the root has a boundary, and that one forwards nothing. -/
theorem walk_above (sources : Sources) (clean : Clean host)
    (guards : Guards boundaryLoggers host guarded) {name : Name}
    (road : openRoad name = true) (progress : Progress) :
    Walked progress (walk sources guarded name progress).1
        (accepted host progress.record.levelno (visited host name)) ∧
      (walk sources guarded name progress).2 =
        (handled host (visited host name) || (visited host name).contains []) := by
  induction name generalizing progress with
  | nil =>
      obtain ⟨identity, sourceScoped, bounded⟩ := guards.gate (rfl : isBoundaryLogger [] = true)
      obtain ⟨reached, folded, walked⟩ := foldl_bounded sources guards [] id
        (clean.hosts []) identity sourceScoped progress
      refine ⟨?_, ?_⟩
      · simp only [walk, bounded, Logger.bounded]
        rw [folded]
        simpa [visited, accepted] using walked
      · simp [walk, bounded, Logger.bounded, visited]
  | cons component parent ih =>
      simp only [openRoad, Bool.and_eq_true, Bool.not_eq_true'] at road
      have same := guards.open road.1
      have own := foldl_hosts sources guarded (component :: parent)
        (fun reached => resort guarded (walk sources guarded parent reached)) _
        (clean.hosts (component :: parent)) progress
      rw [guards.takers] at own
      by_cases passes : (host.loggers (component :: parent)).propagate = true
      · have above := ih road.2 ((host.loggers (component :: parent)).handlers.foldl
          (handle sources guarded (component :: parent)
            (fun reached => resort guarded (walk sources guarded parent reached))) progress)
        rw [own.level] at above
        simp only [walk, same, visited, if_pos passes, accepted, List.flatMap_cons]
        refine ⟨own.trans above.1, ?_⟩
        simp [above.2, handled, Bool.or_assoc]
      · simp only [walk, same, visited, if_neg passes, accepted, List.flatMap_cons,
          List.flatMap_nil, List.append_nil]
        exact ⟨own, by simp [handled]⟩

/-- Whether the boundary of a logger with this parent calls `logging.lastResort`. -/
def emitResorts (logging : Logging) (level : Nat) (parent : Name) : Bool :=
  resorts logging level &&
    !(handled logging (visited logging parent) || (visited logging parent).contains [])

inductive Crosses (host : Logging) (name : Name) (before : Progress) (after : Progress × Bool) :
    Prop where
  | inside (gated : gate host name = none)
      (walked : Walked before after.1 (accepted host before.record.levelno (visited host name)))
      (found : after.2 = handled host (visited host name))
  | root (gated : gate host name = some [])
      (walked : Walked before after.1 (accepted host before.record.levelno (visited host name)))
      (found : after.2 = true)
  | forwarded (component : String) (parent : Name)
      (gated : gate host name = some (component :: parent))
      (delivered : after.1.delivered.map Delivery.handler =
        before.delivered.map Delivery.handler ++
          (accepted host before.record.levelno (below host name) ++
            accepted host before.record.levelno (visited host parent)))
      (level : after.1.record.levelno = before.record.levelno)
      (lastResort : after.1.lastResort =
        (before.lastResort || emitResorts host before.record.levelno parent))
      (found : after.2 = true)

theorem resort_walked (logging : Logging) (walked : Progress × Bool) :
    (resort logging walked).delivered = walked.1.delivered ∧
      (resort logging walked).record = walked.1.record ∧
      (resort logging walked).lastResort =
        (walked.1.lastResort ||
          (!walked.2 && resorts logging walked.1.record.levelno)) := by
  unfold resort
  cases silent : !walked.2 && resorts logging walked.1.record.levelno with
  | true => simp
  | false => simp

theorem walk_guarded (sources : Sources) (clean : Clean host)
    (guards : Guards boundaryLoggers host guarded) (name : Name) (progress : Progress) :
    Crosses host name progress (walk sources guarded name progress) := by
  induction name generalizing progress with
  | nil =>
      obtain ⟨walked, found⟩ := walk_above sources clean guards (rfl : openRoad [] = true)
        progress
      exact .root rfl walked (found.trans (by simp [visited]))
  | cons component parent ih =>
      cases boundary : isBoundaryLogger (component :: parent) with
      | true =>
          obtain ⟨identity, sourceScoped, bounded⟩ := guards.gate boundary
          obtain ⟨reached, folded, walked⟩ := foldl_bounded sources guards
            (component :: parent)
            (fun reached => resort guarded (walk sources guarded parent reached))
            (clean.hosts (component :: parent)) identity sourceScoped progress
          obtain ⟨above, found⟩ := walk_above sources clean guards
            (open_road_above boundary) reached
          obtain ⟨delivered, record, lastResort⟩ :=
            resort_walked guarded (walk sources guarded parent reached)
          have gated : gate host (component :: parent) = some (component :: parent) := by
            simp [gate, boundary]
          have unfolded : walk sources guarded (component :: parent) progress =
              (resort guarded (walk sources guarded parent reached), true) := by
            simp only [walk, bounded, Logger.bounded]
            rw [folded]
            simp
          rw [unfolded]
          rw [walked.level] at above
          apply Crosses.forwarded component parent gated
          · rw [delivered, above.delivered, walked.delivered]
            simp [below, boundary, accepted]
          · rw [record, above.level, walked.level]
          · rw [lastResort, found, above.lastResort, walked.lastResort, above.level, walked.level,
              guards.resorts, emitResorts, Bool.and_comm]
          · rfl
      | false =>
          have same := guards.open boundary
          have own := foldl_hosts sources guarded (component :: parent)
            (fun reached => resort guarded (walk sources guarded parent reached)) _
            (clean.hosts (component :: parent)) progress
          rw [guards.takers] at own
          by_cases passes : (host.loggers (component :: parent)).propagate = true
          · have above := ih ((host.loggers (component :: parent)).handlers.foldl
              (handle sources guarded (component :: parent)
                (fun reached => resort guarded (walk sources guarded parent reached))) progress)
            have gates : gate host (component :: parent) = gate host parent := by
              simp [gate, boundary, passes]
            have passing : visited host (component :: parent) =
                (component :: parent) :: visited host parent := by
              simp [visited, passes]
            have under : below host (component :: parent) =
                (component :: parent) :: below host parent := by
              simp [below, boundary, passes]
            simp only [walk, same, if_pos passes]
            cases above with
            | inside gated walked found =>
                rw [own.level] at walked
                refine .inside (gates.trans gated) ?_ ?_
                · rw [passing]
                  exact own.trans walked
                · rw [passing, found]
                  simp [handled]
            | root gated walked found =>
                rw [own.level] at walked
                refine .root (gates.trans gated) ?_ ?_
                · rw [passing]
                  exact own.trans walked
                · rw [found, Bool.or_true]
            | forwarded component above gated delivered level lastResort found =>
                rw [own.level] at delivered level lastResort
                apply Crosses.forwarded component above (gates.trans gated)
                · rw [delivered, own.delivered, under]
                  simp [accepted]
                · exact level
                · rw [lastResort, own.lastResort]
                · rw [found, Bool.or_true]
          · simp only [walk, same, if_neg passes]
            apply Crosses.inside
            · simp [gate, boundary, passes]
            · simpa [visited, passes, accepted] using own
            · simp [visited, passes, handled]

/-! ## Invariants of a walk -/

/-- A property that every delivery, every boundary and the last resort keep is kept by a walk
over loggers of a kind that goes up with the walk. -/
theorem walk_keeps {logging : Logging} (property : Progress → Prop) (good : Name → Prop)
    (up : ∀ component parent, good (component :: parent) → good parent)
    (takes : ∀ via taker progress, good via → .host taker ∈ (logging.loggers via).handlers →
      property progress →
      property { progress with
        record := (logging.hosts taker).filters.foldl (applyFilter sources) progress.record
        delivered := progress.delivered ++ [⟨via, taker,
          (logging.hosts taker).filters.foldl (applyFilter sources) progress.record⟩] })
    (bounds : ∀ via identity sourceScoped progress, good via →
      .boundary identity sourceScoped ∈ (logging.loggers via).handlers → property progress →
      property { progress with record := scrub sources sourceScoped progress.record })
    (falls : ∀ progress, property progress → property { progress with lastResort := true })
    {name : Name} (start : good name) {progress : Progress} (holds : property progress) :
    property (walk sources logging name progress).1 := by
  have loop (via : Name) (forward : Progress → Progress) (place : good via)
      (forwards : ∀ reached, property reached → property (forward reached))
      (handlers : List Handler)
      (members : ∀ handler ∈ handlers, handler ∈ (logging.loggers via).handlers)
      (progress : Progress) (holds : property progress) :
      property (handlers.foldl (handle sources logging via forward) progress) := by
    induction handlers generalizing progress with
    | nil => exact holds
    | cons handler rest ih =>
        apply ih (fun other member => members other (List.mem_cons_of_mem _ member))
        have member := members handler List.mem_cons_self
        cases handler with
        | host taker =>
            simp only [handle]
            by_cases heard : (logging.hosts taker).level ≤ progress.record.levelno
            · rw [if_pos heard]
              exact takes via taker progress place member holds
            · rw [if_neg heard]
              exact holds
        | boundary identity sourceScoped =>
            exact forwards _ (bounds via identity sourceScoped progress place member holds)
  have falling (walked : Progress × Bool) (reached : property walked.1) :
      property (resort logging walked) := by
    unfold resort
    cases silent : !walked.2 && resorts logging walked.1.record.levelno with
    | true => exact falls _ reached
    | false => exact reached
  induction name generalizing progress with
  | nil =>
      simp only [walk]
      exact loop [] id start (fun _ reached => reached) _ (fun _ member => member) progress holds
  | cons component parent ih =>
      have above := up component parent start
      have own := loop (component :: parent)
        (fun reached => resort logging (walk sources logging parent reached)) start
        (fun reached kept => falling _ (ih above kept)) _ (fun _ member => member) progress holds
      simp only [walk]
      by_cases passes : (logging.loggers (component :: parent)).propagate = true
      · rw [if_pos passes]
        exact ih above own
      · rw [if_neg passes]
        exact own

/-! ## What the filters leave -/

def strips (sources : Sources) (record : LogRecord) : Filter → Bool
  | .host _ => false
  | .scrub _ sourceScoped => !sourceScoped || isOwnedSource sources record

theorem scrub_scrubbed (record : LogRecord) :
    (scrub sources false record).cashewScrubbed = true := by
  cases already : record.cashewScrubbed with
  | true => simp [scrub, already]
  | false => simp [scrub, already, rewrite]

theorem scrub_again {record : LogRecord} (already : record.cashewScrubbed = true)
    (sourceScoped : Bool) : scrub sources sourceScoped record = record := by
  simp [scrub, already]

theorem scrub_strips (record : LogRecord) (sourceScoped : Bool) :
    scrub sources sourceScoped record =
      if !sourceScoped || isOwnedSource sources record then scrub sources false record
      else record := by
  cases sourceScoped with
  | false => simp
  | true =>
      cases owned : isOwnedSource sources record with
      | true => simp [scrub, owned]
      | false => simp [scrub, owned]

theorem filters_again {record : LogRecord} (already : record.cashewScrubbed = true)
    (filters : List Filter) : filters.foldl (applyFilter sources) record = record := by
  induction filters with
  | nil => rfl
  | cons filter rest ih =>
      have same : applyFilter sources record filter = record := by
        cases filter with
        | host identity => rfl
        | scrub identity sourceScoped => exact scrub_again already sourceScoped
      rw [List.foldl_cons, same, ih]

theorem filters_strip (record : LogRecord) (filters : List Filter) :
    filters.foldl (applyFilter sources) record =
      if filters.any (strips sources record) then scrub sources false record else record := by
  induction filters with
  | nil => rfl
  | cons filter rest ih =>
      rw [List.foldl_cons, List.any_cons]
      cases filter with
      | host identity =>
          simp only [applyFilter, strips, Bool.false_or]
          exact ih
      | scrub identity sourceScoped =>
          simp only [applyFilter, strips]
          rw [scrub_strips]
          by_cases stripping : (!sourceScoped || isOwnedSource sources record) = true
          · simp only [stripping, if_true, Bool.true_or]
            exact filters_again (scrub_scrubbed record) rest
          · simp only [Bool.not_eq_true] at stripping
            simp only [stripping, Bool.false_or, Bool.false_eq_true, if_false]
            exact ih

/-! ## The same delivery -/

/-- A record is Cashew's when it is logged in the `plugins.memory.cashew` hierarchy or from a
Cashew source file. -/
def cashewOwned (sources : Sources) (name : Name) (record : LogRecord) : Bool :=
  cashewLogger.isSuffixOf name || isOwnedSource sources record

/-- A record without the mark of the filter. -/
def LogRecord.contents (record : LogRecord) : LogRecord :=
  { record with cashewScrubbed := false }

/-- With the boundary in place every host handler receives the record as often as without,
`logging.lastResort` is used as without, and the contents of a record that is not Cashew's
stay. -/
structure SameDelivery (sources : Sources) (host : Logging) (name : Name) (record : LogRecord) :
    Prop where
  received : ∀ handler,
    ((log sources (acquireProviderScrubFilters host) name record).delivered.map
        Delivery.handler).count handler =
      ((log sources host name record).delivered.map Delivery.handler).count handler
  lastResort : (log sources (acquireProviderScrubFilters host) name record).lastResort =
    (log sources host name record).lastResort
  contents : cashewOwned sources name record = false →
    ∀ delivery ∈ (log sources (acquireProviderScrubFilters host) name record).delivered,
      delivery.record.contents = record.contents

/-- The loggers that the record passes hold some handler, or nothing falls back on
`logging.lastResort`. -/
def Resorted (host : Logging) (level : Nat) (names : List Name) : Prop :=
  resorts host level = true → handled host names = true

/-- The boundary of `logger` forwards what `propagate` would have passed on. -/
structure Forwards (host : Logging) (level : Nat) (name : Name) (component : String)
    (parent : Name) : Prop where
  passes : (host.loggers (component :: parent)).propagate = true ∨
    accepted host level (visited host parent) = []
  resorts : resorts host level = true →
    (handled host (below host name) = false ∧
        ((host.loggers (component :: parent)).propagate = true →
          handled host (visited host parent) = false) ↔
      [] ∉ visited host parent ∧ handled host (visited host parent) = false)

/-- No handler that receives the record is also one of `plugins.memory.cashew`, unless the
filter leaves the record as it is. -/
def Unshared (sources : Sources) (host : Logging) (name : Name) (record : LogRecord) : Prop :=
  (scrub sources false record).contents = record.contents ∨
    ∀ handler ∈ accepted host record.levelno (visited host name),
      .host handler ∉ (host.loggers cashewLogger).handlers

/-- When the boundary does not change the delivery of a record. -/
structure Transparent (sources : Sources) (host : Logging) (name : Name) (record : LogRecord) :
    Prop where
  resorted : gate host name = some [] → Resorted host record.levelno (visited host name)
  forwards : ∀ component parent, gate host name = some (component :: parent) →
    Forwards host record.levelno name component parent
  unshared : cashewOwned sources name record = false → Unshared sources host name record

end

/-! ## One record with and without the boundary -/

section

variable {sources : Sources} {host guarded : Logging} {name : Name} {record : LogRecord}

theorem Guards.effective_level (guards : Guards boundaryLoggers host guarded) (name : Name) :
    effectiveLevel guarded name = effectiveLevel host name := by
  have level (other : Name) : (guarded.loggers other).level = (host.loggers other).level := by
    cases boundary : isBoundaryLogger other with
    | true =>
        obtain ⟨identity, sourceScoped, bounded⟩ := guards.gate boundary
        rw [bounded]
        rfl
    | false => rw [guards.open boundary]
  induction name with
  | nil => exact level []
  | cons component parent ih => simp only [LogFilter.effectiveLevel, level, ih]

/-- The loggers of a walk, cut at its gate. -/
theorem visited_below (component : String) (parent : Name)
    (gated : gate host name = some (component :: parent)) :
    visited host name = below host name ++
      (if (host.loggers (component :: parent)).propagate then visited host parent else []) := by
  induction name with
  | nil => cases gated
  | cons outer above ih =>
      cases boundary : isBoundaryLogger (outer :: above) with
      | true =>
          simp only [gate, boundary, if_true, Option.some.injEq, List.cons.injEq] at gated
          obtain ⟨rfl, rfl⟩ := gated
          simp [visited, below, boundary]
      | false =>
          by_cases passes : (host.loggers (outer :: above)).propagate = true
          · simp only [gate, boundary, passes, if_true, Bool.false_eq_true, if_false] at gated
            simp [visited, below, boundary, passes, ih gated]
          · simp [gate, boundary, passes] at gated

theorem log_plain (sources : Sources) (clean : Clean host)
    (enabled : effectiveLevel host name ≤ record.levelno) :
    (log sources host name record).delivered.map Delivery.handler =
        accepted host record.levelno (visited host name) ∧
      (log sources host name record).lastResort =
        (!handled host (visited host name) && resorts host record.levelno) := by
  obtain ⟨walked, found⟩ := walk_hosts sources clean.hosts name { record := record }
  obtain ⟨delivered, _, lastResort⟩ :=
    resort_walked host (walk sources host name { record := record })
  simp only [log, if_pos enabled]
  refine ⟨?_, ?_⟩
  · rw [delivered, walked.delivered]
    rfl
  · rw [lastResort, found, walked.level, walked.lastResort]
    rfl

def bounded (host : Logging) (name : Name) (level : Nat) : List Nat × Bool :=
  match gate host name with
  | none =>
      (accepted host level (visited host name),
        !handled host (visited host name) && resorts host level)
  | some [] => (accepted host level (visited host name), false)
  | some (_ :: parent) =>
      (accepted host level (below host name) ++ accepted host level (visited host parent),
        emitResorts host level parent)

theorem log_bounded (sources : Sources) (clean : Clean host)
    (guards : Guards boundaryLoggers host guarded)
    (enabled : effectiveLevel host name ≤ record.levelno) :
    (log sources guarded name record).delivered.map Delivery.handler =
        (bounded host name record.levelno).1 ∧
      (log sources guarded name record).lastResort = (bounded host name record.levelno).2 := by
  have crosses := walk_guarded sources clean guards name { record := record }
  obtain ⟨delivered, _, lastResort⟩ :=
    resort_walked guarded (walk sources guarded name { record := record })
  simp only [log, guards.effective_level, if_pos enabled]
  rw [delivered, lastResort]
  cases crosses with
  | inside gated walked found =>
      rw [found, walked.delivered, walked.lastResort, walked.level, guards.resorts]
      simp [bounded, gated]
  | root gated walked found =>
      rw [found, walked.delivered, walked.lastResort]
      simp [bounded, gated]
  | forwarded component parent gated delivers level lastResorts found =>
      rw [found, delivers, lastResorts]
      simp [bounded, gated]

/-! ## Records of the host -/

/-- The handler is attached to `plugins.memory.cashew`, so it carries the filter without a
source. -/
def shared (host : Logging) (handler : Nat) : Prop :=
  .host handler ∈ (host.loggers cashewLogger).handlers

theorem Guards.strips_iff (clean : Clean host) (guards : Guards boundaryLoggers host guarded)
    (foreign : isOwnedSource sources record = false) (handler : Nat) :
    (guarded.hosts handler).filters.any (strips sources record) = true ↔ shared host handler := by
  constructor
  · intro stripping
    obtain ⟨filter, member, strip⟩ := List.any_eq_true.mp stripping
    rcases guards.filters handler filter member with old | ⟨place, known, held, identity, rfl⟩
    · obtain ⟨found, rfl⟩ := clean.filters handler filter old
      cases strip
    · have wide : place.2 = false := by simpa [strips, foreign] using strip
      simp only [boundaryLoggers, List.mem_cons, List.not_mem_nil, or_false] at known
      rcases known with rfl | rfl | rfl
      · exact held
      · cases wide
      · cases wide
  · intro held
    obtain ⟨identity, carried⟩ :=
      guards.carried (cashewLogger, false) List.mem_cons_self handler held
    exact List.any_eq_true.mpr ⟨_, carried, rfl⟩

structure Foreign (sources : Sources) (host : Logging) (original : LogRecord)
    (progress : Progress) : Prop where
  current : progress.record = original ∨ progress.record = scrub sources false original
  seen : ∀ delivery ∈ progress.delivered,
    delivery.record = original ∨ delivery.record = scrub sources false original
  stripped : ∀ delivery ∈ progress.delivered, shared host delivery.handler →
    delivery.record = scrub sources false original
  cause : (progress.record = original ∧
      ∀ delivery ∈ progress.delivered, delivery.record = original) ∨
    ∃ delivery ∈ progress.delivered, shared host delivery.handler

theorem Foreign.takes (clean : Clean host) (guards : Guards boundaryLoggers host guarded)
    (foreign : isOwnedSource sources record = false) {progress : Progress}
    (holds : Foreign sources host record progress) (via : Name) (taker : Nat) :
    Foreign sources host record { progress with
      record := (guarded.hosts taker).filters.foldl (applyFilter sources) progress.record
      delivered := progress.delivered ++ [⟨via, taker,
        (guarded.hosts taker).filters.foldl (applyFilter sources) progress.record⟩] } := by
  have strip : (guarded.hosts taker).filters.any (strips sources record) = true ↔
      shared host taker := guards.strips_iff clean foreign taker
  generalize filtered : (guarded.hosts taker).filters.foldl (applyFilter sources)
    progress.record = result
  have either : result = scrub sources false record ∨
      (result = record ∧ ¬shared host taker) := by
    rw [← filtered]
    rcases holds.current with raw | done
    · rw [raw, filters_strip]
      by_cases stripping : (guarded.hosts taker).filters.any (strips sources record) = true
      · exact .inl (if_pos stripping)
      · exact .inr ⟨if_neg stripping, fun held => stripping (strip.mpr held)⟩
    · rw [done]
      exact .inl (filters_again (scrub_scrubbed record) _)
  have kept : progress.record = record → ¬shared host taker → result = record := by
    intro raw unshared
    rw [← filtered, raw, filters_strip]
    exact if_neg fun stripping => unshared (strip.mp stripping)
  constructor
  · exact either.elim .inr fun raw => .inl raw.1
  · intro delivery member
    rcases List.mem_append.mp member with old | new
    · exact holds.seen delivery old
    · obtain rfl := List.mem_singleton.mp new
      exact either.elim .inr fun raw => .inl raw.1
  · intro delivery member held
    rcases List.mem_append.mp member with old | new
    · exact holds.stripped delivery old held
    · obtain rfl := List.mem_singleton.mp new
      exact either.resolve_right fun raw => raw.2 held
  · rcases holds.cause with ⟨raw, before⟩ | ⟨delivery, member, held⟩
    · by_cases held : shared host taker
      · exact .inr ⟨_, List.mem_append_right _ (List.mem_singleton.mpr rfl), held⟩
      · have same := kept raw held
        refine .inl ⟨same, ?_⟩
        intro delivery member
        rcases List.mem_append.mp member with old | new
        · exact before delivery old
        · obtain rfl := List.mem_singleton.mp new
          exact same
    · exact .inr ⟨delivery, List.mem_append_left _ member, held⟩

theorem scrub_foreign (foreign : isOwnedSource sources record = false) {progress : Progress}
    (holds : Foreign sources host record progress) :
    scrub sources true progress.record = progress.record := by
  rcases holds.current with raw | done
  · rw [raw, scrub_strips, foreign]
    rfl
  · rw [done]
    exact scrub_again (scrub_scrubbed record) true

theorem Guards.scoped (clean : Clean host) (guards : Guards boundaryLoggers host guarded)
    {via : Name} (outside : via ≠ cashewLogger) {identity : Nat} {sourceScoped : Bool}
    (member : .boundary identity sourceScoped ∈ (guarded.loggers via).handlers) :
    sourceScoped = true := by
  by_cases known : via ∈ boundaryLoggers.map Prod.fst
  · obtain ⟨place, placed, rfl⟩ := List.mem_map.mp known
    obtain ⟨other, bounded⟩ := guards.own place placed
    rw [bounded, Logger.bounded] at member
    rcases List.mem_append.mp member with old | new
    · obtain ⟨found, same⟩ := clean.hosts place.1 _ old
      cases same
    · cases List.mem_singleton.mp new
      simp only [boundaryLoggers, List.mem_cons, List.not_mem_nil, or_false] at placed
      rcases placed with rfl | rfl | rfl
      · exact absurd rfl outside
      · rfl
      · rfl
  · rw [guards.other via known] at member
    obtain ⟨found, same⟩ := clean.hosts via _ member
    cases same

/-- A record of the host, wherever it is logged outside `plugins.memory.cashew`. -/
theorem log_foreign (clean : Clean host) (guards : Guards boundaryLoggers host guarded)
    (foreign : cashewOwned sources name record = false) :
    Foreign sources host record (log sources guarded name record) := by
  simp only [cashewOwned, Bool.or_eq_false_iff] at foreign
  have start : Foreign sources host record { record := record } := by
    refine ⟨.inl rfl, ?_, ?_, .inl ⟨rfl, ?_⟩⟩
    · simp
    · simp
    · simp
  have falls (progress : Progress) (holds : Foreign sources host record progress) :
      Foreign sources host record { progress with lastResort := true } :=
    ⟨holds.current, holds.seen, holds.stripped, holds.cause⟩
  have walked : Foreign sources host record
      (walk sources guarded name { record := record }).1 := by
    apply walk_keeps (Foreign sources host record)
      (fun via => cashewLogger.isSuffixOf via = false) _ _ _ falls foreign.1 start
    · intro component parent outside
      apply Bool.eq_false_iff.mpr
      intro suffix
      have longer : cashewLogger <:+ component :: parent :=
        (List.isSuffixOf_iff_suffix.mp suffix).trans (List.suffix_cons _ _)
      rw [List.isSuffixOf_iff_suffix.mpr longer] at outside
      cases outside
    · intro via taker progress _ _ holds
      exact holds.takes clean guards foreign.2 via taker
    · intro via identity sourceScoped progress outside member holds
      have different : via ≠ cashewLogger := by
        rintro rfl
        revert outside
        decide
      rw [guards.scoped clean different member, scrub_foreign foreign.2 holds]
      exact holds
  unfold log
  by_cases enabled : effectiveLevel guarded name ≤ record.levelno
  · rw [if_pos enabled]
    unfold resort
    cases silent : !(walk sources guarded name { record := record }).2 &&
        resorts guarded (walk sources guarded name { record := record }).1.record.levelno with
    | true => exact falls _ walked
    | false => exact walked
  · rw [if_neg enabled]
    exact start

/-! ## Exactly when delivery is the same -/

theorem accepted_append (level : Nat) (first second : List Name) :
    accepted host level (first ++ second) =
      accepted host level first ++ accepted host level second :=
  List.flatMap_append

theorem count_append_left {Item : Type} [BEq Item] [LawfulBEq Item] {first second : List Item}
    (same : ∀ item, (first ++ second).count item = first.count item) : second = [] := by
  apply List.eq_nil_iff_forall_not_mem.mpr
  intro item member
  have counted := same item
  rw [List.count_append] at counted
  have present := List.count_pos_iff.mpr member
  omega

/-- The handlers that receive the record are the same. -/
theorem received_iff (host : Logging) (name : Name) (level : Nat) :
    (∀ handler, (bounded host name level).1.count handler =
        (accepted host level (visited host name)).count handler) ↔
      ∀ component parent, gate host name = some (component :: parent) →
        (host.loggers (component :: parent)).propagate = true ∨
          accepted host level (visited host parent) = [] := by
  cases gated : gate host name with
  | none => simp [bounded, gated]
  | some place =>
      cases place with
      | nil => simp [bounded, gated]
      | cons component parent =>
          have cut := visited_below component parent gated
          simp only [bounded, gated]
          by_cases passes : (host.loggers (component :: parent)).propagate = true
          · rw [if_pos passes] at cut
            rw [cut, accepted_append]
            simp [passes]
          · rw [if_neg passes, List.append_nil] at cut
            rw [cut]
            constructor
            · intro same other above found
              exact .inr (by
                obtain ⟨rfl, rfl⟩ : component = other ∧ parent = above := by simpa using found
                exact count_append_left same)
            · intro silent handler
              have none := (silent component parent rfl).resolve_left passes
              rw [none, List.append_nil]

theorem last_resort_iff (host : Logging) (name : Name) (level : Nat) :
    (bounded host name level).2 = (!handled host (visited host name) && resorts host level) ↔
      (gate host name = some [] → Resorted host level (visited host name)) ∧
      ∀ component parent, gate host name = some (component :: parent) →
        (resorts host level = true →
          (handled host (below host name) = false ∧
              ((host.loggers (component :: parent)).propagate = true →
                handled host (visited host parent) = false) ↔
            [] ∉ visited host parent ∧ handled host (visited host parent) = false)) := by
  cases gated : gate host name with
  | none => simp [bounded, gated]
  | some place =>
      cases place with
      | nil =>
          cases resorting : resorts host level with
          | true => simp [bounded, gated, Resorted, resorting]
          | false => simp [bounded, gated, Resorted, resorting]
      | cons component parent =>
          have cut := visited_below component parent gated
          have all : handled host (visited host name) =
              (handled host (below host name) ||
                ((host.loggers (component :: parent)).propagate &&
                  handled host (visited host parent))) := by
            rw [cut]
            cases passes : (host.loggers (component :: parent)).propagate with
            | true => simp [handled]
            | false => simp
          have root : (visited host parent).contains [] = decide ([] ∈ visited host parent) :=
            List.contains_eq_mem ..
          simp only [bounded, gated, all, emitResorts, root]
          cases resorting : resorts host level with
          | false => simp
          | true =>
              have agree : (!(handled host (visited host parent) ||
                    decide ([] ∈ visited host parent))) =
                  (!(handled host (below host name) ||
                    ((host.loggers (component :: parent)).propagate &&
                      handled host (visited host parent)))) ↔
                  (handled host (below host name) = false ∧
                      ((host.loggers (component :: parent)).propagate = true →
                        handled host (visited host parent) = false) ↔
                    [] ∉ visited host parent ∧ handled host (visited host parent) = false) := by
                by_cases root : [] ∈ visited host parent <;>
                  cases handled host (visited host parent) <;>
                  cases handled host (below host name) <;>
                  cases (host.loggers (component :: parent)).propagate <;> simp [root]
              simp only [Bool.true_and, Bool.and_true, agree]
              constructor
              · intro same
                refine ⟨fun none => (by cases none), ?_⟩
                intro other above found _
                obtain ⟨rfl, rfl⟩ : component = other ∧ parent = above := by simpa using found
                exact same
              · intro same
                exact same.2 component parent rfl trivial

/-- Contents stay exactly when no handler is shared, once the same handlers receive the
record. -/
theorem contents_iff (clean : Clean host) (guards : Guards boundaryLoggers host guarded)
    (foreign : cashewOwned sources name record = false)
    (handlers : ∀ handler, (∃ delivery ∈ (log sources guarded name record).delivered,
        delivery.handler = handler) ↔
      handler ∈ accepted host record.levelno (visited host name)) :
    (∀ delivery ∈ (log sources guarded name record).delivered,
        delivery.record.contents = record.contents) ↔
      Unshared sources host name record := by
  have holds := log_foreign clean guards foreign
  constructor
  · intro same
    by_cases plain : (scrub sources false record).contents = record.contents
    · exact .inl plain
    · refine .inr ?_
      intro handler taken held
      obtain ⟨delivery, member, rfl⟩ := (handlers handler).mpr taken
      have stripped := holds.stripped delivery member held
      exact plain (stripped ▸ same delivery member)
  · rintro (plain | unshared) delivery member
    · rcases holds.seen delivery member with raw | done
      · rw [raw]
      · rw [done]
        exact plain
    · rcases holds.cause with ⟨_, raw⟩ | ⟨other, present, held⟩
      · rw [raw delivery member]
      · have taken := (handlers other.handler).mp ⟨other, present, rfl⟩
        exact absurd held (unshared other.handler taken)

theorem log_disabled (sources : Sources)
    (disabled : ¬effectiveLevel host name ≤ record.levelno) :
    log sources host name record = { record := record } := by
  unfold log
  exact if_neg disabled

/-- The boundary does not change the delivery of a record exactly when the record is not logged
at all or the way it takes is transparent. -/
theorem boundary_delivers_alike_iff (sources : Sources) (host : Logging) (clean : Clean host)
    (name : Name) (record : LogRecord) :
    SameDelivery sources host name record ↔
      (effectiveLevel host name ≤ record.levelno → Transparent sources host name record) := by
  obtain ⟨acquired, references⟩ := clean.bounded.acquired clean
  obtain ⟨guards, _⟩ := acquired.on (references ▸ Nat.succ_pos _)
  by_cases enabled : effectiveLevel host name ≤ record.levelno
  · obtain ⟨plainHandlers, plainResort⟩ := log_plain sources clean enabled
    obtain ⟨handlers, resorting⟩ := log_bounded sources clean guards enabled
    have receivedIff := received_iff host name record.levelno
    have resortIff := last_resort_iff host name record.levelno
    have members (received : ∀ handler, (bounded host name record.levelno).1.count handler =
        (accepted host record.levelno (visited host name)).count handler) (handler : Nat) :
        (∃ delivery ∈ (log sources (acquireProviderScrubFilters host) name record).delivered,
          delivery.handler = handler) ↔
            handler ∈ accepted host record.levelno (visited host name) := by
      rw [← List.count_pos_iff, ← received handler, List.count_pos_iff, ← handlers, List.mem_map]
    constructor
    · intro same _
      have received : ∀ handler, (bounded host name record.levelno).1.count handler =
          (accepted host record.levelno (visited host name)).count handler := by
        intro handler
        rw [← handlers, ← plainHandlers]
        exact same.received handler
      have resorted := resortIff.mp (by rw [← resorting, ← plainResort]; exact same.lastResort)
      refine ⟨resorted.1, ?_, ?_⟩
      · intro component parent gated
        exact ⟨receivedIff.mp received component parent gated, resorted.2 component parent gated⟩
      · intro foreign
        exact (contents_iff clean guards foreign (members received)).mp (same.contents foreign)
    · intro transparent
      have holds := transparent enabled
      have received := receivedIff.mpr fun component parent gated =>
        (holds.forwards component parent gated).passes
      have resorted := resortIff.mpr ⟨holds.resorted, fun component parent gated =>
        (holds.forwards component parent gated).resorts⟩
      constructor
      · intro handler
        rw [handlers, plainHandlers]
        exact received handler
      · rw [resorting, plainResort]
        exact resorted
      · intro foreign
        exact (contents_iff clean guards foreign (members received)).mpr (holds.unshared foreign)
  · have silent := guards.effective_level name
    refine ⟨fun _ logged => absurd logged enabled, fun _ => ?_⟩
    have plain := log_disabled sources enabled
    have bounded := log_disabled sources (silent ▸ enabled : ¬_ ≤ record.levelno)
    constructor
    · intro handler
      rw [plain, bounded]
    · rw [plain, bounded]
    · intro _ delivery member
      rw [bounded] at member
      cases member

end

def plainSources : Sources where
  resolve := fun path => some [path]
  packageDir := ["cashew"]
  upstreamSourceDir := none

def hostWarning : LogRecord where
  name := "app"
  pathname := "app.py"
  levelno := 30
  msg := .text "disk almost full"

def rootHost : Logging where
  loggers := fun name => if name = [] then { handlers := [.host 0] } else {}

/-- The same, with `plugins.memory.cashew` kept from propagating. -/
def sealedHost : Logging where
  loggers := fun name =>
    if name = [] then { handlers := [.host 0] }
    else if name = cashewLogger then { handlers := [.host 1], propagate := false }
    else {}

theorem root_host_clean : Clean rootHost := by
  refine ⟨rfl, rfl, ?_, ?_⟩
  · intro name handler member
    by_cases root : name = []
    · subst root
      exact ⟨0, List.mem_singleton.mp member⟩
    · simp [rootHost, root] at member
  · intro handler filter member
    cases member

theorem root_handler_delivers_alike : SameDelivery plainSources rootHost ["app"] hostWarning := by
  apply (boundary_delivers_alike_iff plainSources rootHost root_host_clean ["app"] hostWarning).mpr
  intro _
  refine ⟨fun _ _ => by decide, ?_, fun _ => .inr ?_⟩
  · intro component parent gated
    simp [gate, isBoundaryLogger, boundaryLoggers, cashewLogger, coreLogger, rootHost] at gated
  · intro handler _
    simp [rootHost, cashewLogger]

/-- Without any handler the warning is lost, and a `propagate` of the host is not respected. -/
theorem boundary_changes_delivery :
    ¬SameDelivery plainSources {} ["app"] hostWarning ∧
      ¬SameDelivery plainSources sealedHost cashewLogger hostWarning := by
  constructor
  · intro same
    exact absurd same.lastResort (by decide)
  · intro same
    exact absurd (same.received 0) (by decide)

end HermesCashew.LogFilter
