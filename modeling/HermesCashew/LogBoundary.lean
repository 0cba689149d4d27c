import HermesCashew.LogFilter

/-!
# Acquiring and releasing the log boundary

What an installation on one logger adds and that its removal takes exactly that away again.
New filters and boundaries are recognised by their identity, so both rest on `fresh` being
above every identity in use.
-/

namespace HermesCashew.LogFilter

set_option autoImplicit false

/-! ## The host's own configuration -/

/-- No filter and no boundary of this module is in place. -/
structure Clean (logging : Logging) : Prop where
  unreferenced : logging.scrubRefs = 0
  uninstalled : logging.scrubInstalls = []
  hosts : ∀ name, ∀ handler ∈ (logging.loggers name).handlers, ∃ host, handler = .host host
  filters : ∀ handler, ∀ filter ∈ (logging.hosts handler).filters, ∃ host, filter = .host host

theorem default_clean : Clean {} := by
  refine ⟨rfl, rfl, ?_, ?_⟩
  · intro name handler member
    cases member
  · intro handler filter member
    cases member

structure SameConfiguration (first second : Logging) : Prop where
  loggers : second.loggers = first.loggers
  hosts : second.hosts = first.hosts
  lastResort : second.lastResort = first.lastResort

theorem SameConfiguration.refl (logging : Logging) : SameConfiguration logging logging :=
  ⟨rfl, rfl, rfl⟩

theorem SameConfiguration.trans {first second third : Logging}
    (left : SameConfiguration first second) (right : SameConfiguration second third) :
    SameConfiguration first third :=
  ⟨right.loggers.trans left.loggers, right.hosts.trans left.hosts,
    right.lastResort.trans left.lastResort⟩

/-- Identities of filters are below `fresh`. -/
def Fresh (logging : Logging) : Prop :=
  ∀ handler identity sourceScoped,
    .scrub identity sourceScoped ∈ (logging.hosts handler).filters → identity < logging.fresh

theorem Clean.fresh {logging : Logging} (clean : Clean logging) : Fresh logging := by
  intro handler identity sourceScoped member
  obtain ⟨host, same⟩ := clean.filters handler _ member
  cases same

/-! ## Filters of one logger -/

def addedTo (handler : Nat) (installed : List (Nat × Filter)) : List Filter :=
  (installed.filter fun filtered => filtered.1 == handler).map Prod.snd

structure Scrubs (sourceScoped : Bool) (handlers : List Handler) (before after : Logging)
    (installed : List (Nat × Filter)) : Prop where
  loggers : after.loggers = before.loggers
  lastResort : after.lastResort = before.lastResort
  references : after.scrubRefs = before.scrubRefs
  installs : after.scrubInstalls = before.scrubInstalls
  later : before.fresh ≤ after.fresh
  fresh : Fresh after
  level : ∀ handler, (after.hosts handler).level = (before.hosts handler).level
  filters : ∀ handler, (after.hosts handler).filters =
    (before.hosts handler).filters ++ addedTo handler installed
  added : ∀ filtered ∈ installed, .host filtered.1 ∈ handlers ∧
    ∃ identity, filtered.2 = .scrub identity sourceScoped ∧ before.fresh ≤ identity
  every : ∀ handler, .host handler ∈ handlers →
    ∃ identity, (handler, .scrub identity sourceScoped) ∈ installed

section

variable {logging : Logging} {sourceScoped : Bool}

theorem add_filter_new {handler : Nat} {filter : Filter}
    (new : filter ∉ (logging.hosts handler).filters) :
    logging.addFilter handler filter =
      logging.setFilters handler ((logging.hosts handler).filters ++ [filter]) := by
  simp only [Logging.addFilter, if_neg new]

theorem set_filters_filters (handler other : Nat) (filters : List Filter) :
    ((logging.setFilters handler filters).hosts other).filters =
      if other = handler then filters else (logging.hosts other).filters := by
  by_cases same : other = handler
  · subst same
    simp [Logging.setFilters]
  · simp [Logging.setFilters, same]

theorem set_filters_level (handler other : Nat) (filters : List Filter) :
    ((logging.setFilters handler filters).hosts other).level = (logging.hosts other).level := by
  by_cases same : other = handler
  · subst same
    simp [Logging.setFilters]
  · simp [Logging.setFilters, Function.update_of_ne same]

theorem added_to_cons (handler other : Nat) (filter : Filter) (rest : List (Nat × Filter)) :
    addedTo other ((handler, filter) :: rest) =
      (if other = handler then [filter] else []) ++ addedTo other rest := by
  by_cases same : other = handler
  · subst same
    simp [addedTo]
  · simp [addedTo, same, Ne.symm same]

/-- The first filter of the loop. -/
theorem scrubs_one (fresh : Fresh logging) (handler : Nat) (sourceScoped : Bool) :
    let filter := Filter.scrub logging.fresh sourceScoped
    Scrubs sourceScoped [.host handler] logging
      { logging.addFilter handler filter with fresh := logging.fresh + 1 }
      [(handler, filter)] := by
  intro filter
  have new : filter ∉ (logging.hosts handler).filters := by
    intro member
    exact Nat.lt_irrefl _ (fresh handler _ _ member)
  have filters (other : Nat) :
      ((logging.addFilter handler filter).hosts other).filters =
        (logging.hosts other).filters ++ addedTo other [(handler, filter)] := by
    rw [add_filter_new new, set_filters_filters, added_to_cons]
    by_cases same : other = handler
    · subst same
      simp [addedTo]
    · simp [same, addedTo]
  constructor
  · change (logging.addFilter handler filter).loggers = _
    rw [add_filter_new new]
    rfl
  · change (logging.addFilter handler filter).lastResort = _
    rw [add_filter_new new]
    rfl
  · change (logging.addFilter handler filter).scrubRefs = _
    rw [add_filter_new new]
    rfl
  · change (logging.addFilter handler filter).scrubInstalls = _
    rw [add_filter_new new]
    rfl
  · exact Nat.le_succ _
  · intro other identity narrow member
    change _ ∈ ((logging.addFilter handler filter).hosts other).filters at member
    rw [filters other] at member
    rcases List.mem_append.mp member with old | added
    · exact Nat.lt_succ_of_lt (fresh other identity narrow old)
    · rw [added_to_cons] at added
      by_cases same : other = handler
      · subst same
        simp only [if_true, addedTo, List.filter_nil, List.map_nil, List.append_nil,
          List.mem_singleton] at added
        have named : identity = logging.fresh := (Filter.scrub.inj added).1
        rw [named]
        exact Nat.lt_succ_self _
      · simp [same, addedTo] at added
  · intro other
    change ((logging.addFilter handler filter).hosts other).level = _
    rw [add_filter_new new, set_filters_level]
  · exact filters
  · intro filtered member
    obtain rfl := List.mem_singleton.mp member
    exact ⟨List.mem_singleton.mpr rfl, logging.fresh, rfl, Nat.le_refl _⟩
  · intro other member
    cases List.mem_singleton.mp member
    exact ⟨logging.fresh, List.mem_singleton.mpr rfl⟩

theorem Scrubs.append {first second : List Handler} {middle after : Logging}
    {left right : List (Nat × Filter)} (start : Scrubs sourceScoped first logging middle left)
    (rest : Scrubs sourceScoped second middle after right) :
    Scrubs sourceScoped (first ++ second) logging after (left ++ right) := by
  constructor
  · exact rest.loggers.trans start.loggers
  · exact rest.lastResort.trans start.lastResort
  · exact rest.references.trans start.references
  · exact rest.installs.trans start.installs
  · exact Nat.le_trans start.later rest.later
  · exact rest.fresh
  · exact fun handler => (rest.level handler).trans (start.level handler)
  · intro handler
    rw [rest.filters, start.filters]
    simp [addedTo]
  · intro filtered member
    rcases List.mem_append.mp member with early | late
    · obtain ⟨host, identity, same, above⟩ := start.added filtered early
      exact ⟨List.mem_append_left _ host, identity, same, above⟩
    · obtain ⟨host, identity, same, above⟩ := rest.added filtered late
      exact ⟨List.mem_append_right _ host, identity, same, Nat.le_trans start.later above⟩
  · intro handler member
    rcases List.mem_append.mp member with early | late
    · obtain ⟨identity, added⟩ := start.every handler early
      exact ⟨identity, List.mem_append_left _ added⟩
    · obtain ⟨identity, added⟩ := rest.every handler late
      exact ⟨identity, List.mem_append_right _ added⟩

theorem scrubs_none (fresh : Fresh logging) : Scrubs sourceScoped [] logging logging [] := by
  constructor
  · rfl
  · rfl
  · rfl
  · rfl
  · exact Nat.le_refl _
  · exact fresh
  · exact fun _ => rfl
  · intro handler
    simp [addedTo]
  · intro filtered member
    cases member
  · intro handler member
    cases member

/-- The loop puts one new filter on each host handler of the list. -/
theorem foldl_scrub_handler (sourceScoped : Bool) (fresh : Fresh logging)
    (handlers : List Handler)
    (hosts : ∀ handler ∈ handlers, ∃ host, handler = Handler.host host)
    (earlier : List (Nat × Filter)) :
    ∃ after installed,
      handlers.foldl (scrubHandler sourceScoped) (logging, earlier) =
        (after, earlier ++ installed) ∧
      Scrubs sourceScoped handlers logging after installed := by
  induction handlers generalizing logging earlier with
  | nil => exact ⟨logging, [], by simp, scrubs_none fresh⟩
  | cons handler rest ih =>
      obtain ⟨host, rfl⟩ := hosts handler List.mem_cons_self
      have start := scrubs_one fresh host sourceScoped
      obtain ⟨after, installed, folded, scrubs⟩ := ih start.fresh
        (fun other member => hosts other (List.mem_cons_of_mem _ member))
        (earlier ++ [(host, .scrub logging.fresh sourceScoped)])
      refine ⟨after, (host, .scrub logging.fresh sourceScoped) :: installed, ?_, ?_⟩
      · change rest.foldl _ (_, earlier ++ [(host, .scrub logging.fresh sourceScoped)]) = _
        rw [folded, List.append_assoc]
        rfl
      · exact start.append scrubs

end

/-! ## One installation -/

def Logger.bounded (logger : Logger) (identity : Nat) (sourceScoped : Bool) : Logger :=
  { logger with
    handlers := logger.handlers ++ [.boundary identity sourceScoped]
    propagate := false }

/-- `after` is `before` with a boundary on the logger `place.1`. -/
structure Installs (place : Name × Bool) (before scrubbing : Logging)
    (installed : List (Nat × Filter)) (after : Logging) : Prop where
  scrubs : Scrubs place.2 (before.loggers place.1).handlers before scrubbing installed
  loggers : after.loggers = Function.update before.loggers place.1
    ((before.loggers place.1).bounded scrubbing.fresh place.2)
  hosts : after.hosts = scrubbing.hosts
  installs : after.scrubInstalls =
    { logger := place.1
      originalPropagate := (before.loggers place.1).propagate
      installed := installed
      boundary := .boundary scrubbing.fresh place.2 } :: before.scrubInstalls
  lastResort : after.lastResort = before.lastResort
  references : after.scrubRefs = before.scrubRefs
  fresh : Fresh after

section

variable {logging : Logging} {place : Name × Bool}

theorem set_logger_set_logger (name : Name) (first second : Logger) :
    (logging.setLogger name first).setLogger name second = logging.setLogger name second := by
  simp [Logging.setLogger]

theorem set_logger_self (name : Name) (logger : Logger) :
    (logging.setLogger name logger).loggers name = logger :=
  Function.update_self ..

theorem add_handler_new {name : Name} {handler : Handler}
    (new : handler ∉ (logging.loggers name).handlers) :
    logging.addHandler name handler = logging.setLogger name
      { logging.loggers name with
        handlers := (logging.loggers name).handlers ++ [handler] } := by
  simp only [Logging.addHandler, if_neg new]

theorem install_boundary_installs (fresh : Fresh logging)
    (hosts : ∀ handler ∈ (logging.loggers place.1).handlers, ∃ host, handler = Handler.host host) :
    ∃ scrubbing installed,
      Installs place logging scrubbing installed (installBoundary logging place) := by
  obtain ⟨scrubbing, installed, folded, scrubs⟩ :=
    foldl_scrub_handler place.2 fresh _ hosts []
  have new : Handler.boundary scrubbing.fresh place.2 ∉
      (scrubbing.loggers place.1).handlers := by
    rw [scrubs.loggers]
    intro member
    obtain ⟨host, same⟩ := hosts _ member
    cases same
  have unfolded : installBoundary logging place =
      { scrubbing.setLogger place.1
          ((logging.loggers place.1).bounded scrubbing.fresh place.2) with
        fresh := scrubbing.fresh + 1
        scrubInstalls :=
          { logger := place.1
            originalPropagate := (logging.loggers place.1).propagate
            installed := installed
            boundary := .boundary scrubbing.fresh place.2 } :: scrubbing.scrubInstalls } := by
    simp only [installBoundary, folded, List.nil_append, add_handler_new new,
      Logging.setPropagate, set_logger_set_logger, set_logger_self, scrubs.loggers]
    rfl
  refine ⟨scrubbing, installed, ?_⟩
  rw [unfolded]
  constructor
  · exact scrubs
  · change Function.update scrubbing.loggers _ _ = _
    rw [scrubs.loggers]
  · rfl
  · simp only [scrubs.installs]
  · exact scrubs.lastResort
  · exact scrubs.references
  · intro handler identity narrow member
    exact Nat.lt_succ_of_lt (scrubs.fresh handler identity narrow member)

/-! ## Its removal -/

theorem foldl_erase_appended {base added : List Filter}
    (new : ∀ filter ∈ added, filter ∉ base) :
    added.foldl List.erase (base ++ added) = base := by
  induction added with
  | nil => simp
  | cons filter rest ih =>
      have absent := new filter List.mem_cons_self
      rw [List.foldl_cons, List.erase_append_right _ absent, List.erase_cons_head]
      exact ih fun other member => new other (List.mem_cons_of_mem _ member)

theorem foldl_remove_filter (logging : Logging) (installed : List (Nat × Filter)) (handler : Nat) :
    let after := installed.foldl
      (fun state filtered => state.removeFilter filtered.1 filtered.2) logging
    after.loggers = logging.loggers ∧ after.lastResort = logging.lastResort ∧
      (after.hosts handler).level = (logging.hosts handler).level ∧
      (after.hosts handler).filters =
        (addedTo handler installed).foldl List.erase (logging.hosts handler).filters := by
  induction installed generalizing logging with
  | nil => exact ⟨rfl, rfl, rfl, rfl⟩
  | cons filtered rest ih =>
      obtain ⟨other, filter⟩ := filtered
      obtain ⟨loggers, lastResort, level, filters⟩ := ih (logging.removeFilter other filter)
      refine ⟨loggers, lastResort, ?_, ?_⟩
      · exact level.trans (set_filters_level ..)
      · rw [List.foldl_cons, filters, added_to_cons, Logging.removeFilter, set_filters_filters]
        by_cases same : handler = other
        · subst same
          simp
        · simp [same]

theorem added_to_member {handler : Nat} {installed : List (Nat × Filter)} {filter : Filter}
    (member : filter ∈ addedTo handler installed) : (handler, filter) ∈ installed := by
  obtain ⟨⟨other, added⟩, found, rfl⟩ := List.mem_map.mp member
  obtain ⟨present, same⟩ := List.mem_filter.mp found
  obtain rfl : other = handler := by simpa using same
  exact present

/-- New filters have new identities. -/
theorem Scrubs.new {sourceScoped : Bool} {handlers : List Handler} {scrubbing : Logging}
    {installed : List (Nat × Filter)} (fresh : Fresh logging)
    (scrubs : Scrubs sourceScoped handlers logging scrubbing installed) (handler : Nat) :
    ∀ filter ∈ addedTo handler installed, filter ∉ (logging.hosts handler).filters := by
  intro filter member old
  obtain ⟨_, identity, rfl, above⟩ := scrubs.added _ (added_to_member member)
  exact absurd (fresh handler identity _ old) (Nat.not_lt.mpr above)

theorem HostHandler.same {first second : HostHandler} (level : first.level = second.level)
    (filters : first.filters = second.filters) : first = second := by
  cases first
  cases second
  simp_all

/-- Removing the boundary gives the loggers, filters and propagate flags back, also when other
counters have moved on. -/
theorem Installs.removed {scrubbing after later : Logging} {installed : List (Nat × Filter)}
    (fresh : Fresh logging) (installs : Installs place logging scrubbing installed after)
    (hosts : ∀ handler ∈ (logging.loggers place.1).handlers, ∃ host, handler = Handler.host host)
    (same : SameConfiguration after later) :
    SameConfiguration logging (removeBoundary later
      { logger := place.1
        originalPropagate := (logging.loggers place.1).propagate
        installed := installed
        boundary := .boundary scrubbing.fresh place.2 }) := by
  have scrubs := installs.scrubs
  have bounded : later.loggers place.1 =
      (logging.loggers place.1).bounded scrubbing.fresh place.2 := by
    rw [same.loggers, installs.loggers, Function.update_self]
  have absent : Handler.boundary scrubbing.fresh place.2 ∉ (logging.loggers place.1).handlers := by
    intro member
    obtain ⟨host, other⟩ := hosts _ member
    cases other
  have erased : ((logging.loggers place.1).bounded scrubbing.fresh place.2).handlers.erase
      (.boundary scrubbing.fresh place.2) = (logging.loggers place.1).handlers := by
    simp only [Logger.bounded]
    rw [List.erase_append_right _ absent, List.erase_cons_head, List.append_nil]
  let removed := later.removeHandler place.1 (.boundary scrubbing.fresh place.2)
  let unfiltered := installed.foldl
    (fun state filtered => state.removeFilter filtered.1 filtered.2) removed
  have removal (handler : Nat) := foldl_remove_filter removed installed handler
  have loggers : unfiltered.loggers = Function.update logging.loggers place.1
      { logging.loggers place.1 with propagate := false } := by
    rw [(removal 0).1]
    simp only [removed, Logging.removeHandler, Logging.setLogger, bounded, erased, same.loggers,
      installs.loggers, Function.update_idem]
    rfl
  have filters (handler : Nat) : unfiltered.hosts handler = logging.hosts handler := by
    have before : removed.hosts handler = scrubbing.hosts handler := by
      change later.hosts handler = _
      rw [same.hosts, installs.hosts]
    apply HostHandler.same
    · rw [(removal handler).2.2.1, before, scrubs.level]
    · rw [(removal handler).2.2.2, before, scrubs.filters]
      exact foldl_erase_appended (scrubs.new fresh handler)
  have silent : (unfiltered.loggers place.1).propagate = false := by
    rw [loggers, Function.update_self]
  have unfolded : removeBoundary later
      { logger := place.1
        originalPropagate := (logging.loggers place.1).propagate
        installed := installed
        boundary := .boundary scrubbing.fresh place.2 } =
      unfiltered.setPropagate place.1 (logging.loggers place.1).propagate := by
    simp only [removeBoundary]
    exact if_pos silent
  rw [unfolded]
  constructor
  · simp only [Logging.setPropagate, Logging.setLogger, loggers, Function.update_self,
      Function.update_idem]
    exact Function.update_eq_self ..
  · exact funext filters
  · exact (removal 0).2.1.trans (same.lastResort.trans installs.lastResort)

end

/-! ## The three installations -/

/-- `guarded` is `host` with boundaries on the loggers `places`. -/
structure Guards (places : List (Name × Bool)) (host guarded : Logging) : Prop where
  lastResort : guarded.lastResort = host.lastResort
  level : ∀ handler, (guarded.hosts handler).level = (host.hosts handler).level
  other : ∀ name, name ∉ places.map Prod.fst → guarded.loggers name = host.loggers name
  own : ∀ place ∈ places, ∃ identity,
    guarded.loggers place.1 = (host.loggers place.1).bounded identity place.2
  carried : ∀ place ∈ places, ∀ handler, .host handler ∈ (host.loggers place.1).handlers →
    ∃ identity, .scrub identity place.2 ∈ (guarded.hosts handler).filters
  filters : ∀ handler, ∀ filter ∈ (guarded.hosts handler).filters,
    filter ∈ (host.hosts handler).filters ∨
      ∃ place ∈ places, .host handler ∈ (host.loggers place.1).handlers ∧
        ∃ identity, filter = .scrub identity place.2

/-- The installs that `after` has beyond `before` lead back to `before`. -/
def Undoes (before after : Logging) : Prop :=
  ∃ installs, after.scrubInstalls = installs ++ before.scrubInstalls ∧
    ∀ later, SameConfiguration after later →
      SameConfiguration before (installs.foldl removeBoundary later)

section

variable {places : List (Name × Bool)} {host guarded : Logging}

theorem guards_none (host : Logging) : Guards [] host host where
  lastResort := rfl
  level := fun _ => rfl
  other := fun _ _ => rfl
  own := by simp
  carried := by simp
  filters := fun _ _ member => .inl member

theorem Installs.guards {place : Name × Bool} {scrubbing after : Logging}
    {installed : List (Nat × Filter)} (guards : Guards places host guarded)
    (new : place.1 ∉ places.map Prod.fst)
    (installs : Installs place guarded scrubbing installed after) :
    Guards (places ++ [place]) host after := by
  have scrubs := installs.scrubs
  have before := guards.other place.1 new
  have different {other : Name × Bool} (member : other ∈ places) : other.1 ≠ place.1 := by
    intro same
    exact new (same ▸ List.mem_map_of_mem member)
  constructor
  · exact installs.lastResort.trans guards.lastResort
  · intro handler
    rw [installs.hosts, scrubs.level, guards.level]
  · intro name outside
    simp only [List.map_append, List.map_cons, List.map_nil, List.mem_append, List.mem_singleton,
      not_or] at outside
    rw [installs.loggers, Function.update_of_ne outside.2]
    exact guards.other name outside.1
  · intro other member
    rcases List.mem_append.mp member with early | late
    · obtain ⟨identity, same⟩ := guards.own other early
      exact ⟨identity, by rw [installs.loggers, Function.update_of_ne (different early), same]⟩
    · obtain rfl := List.mem_singleton.mp late
      exact ⟨scrubbing.fresh, by rw [installs.loggers, Function.update_self, before]⟩
  · intro other member handler held
    rw [installs.hosts, scrubs.filters]
    rcases List.mem_append.mp member with early | late
    · obtain ⟨identity, carried⟩ := guards.carried other early handler held
      exact ⟨identity, List.mem_append_left _ carried⟩
    · obtain rfl := List.mem_singleton.mp late
      obtain ⟨identity, added⟩ := scrubs.every handler (before ▸ held)
      refine ⟨identity, List.mem_append_right _ ?_⟩
      exact List.mem_map.mpr ⟨_, List.mem_filter.mpr ⟨added, by simp⟩, rfl⟩
  · intro handler filter member
    rw [installs.hosts, scrubs.filters] at member
    rcases List.mem_append.mp member with old | added
    · rcases guards.filters handler filter old with kept | ⟨other, present, held, named⟩
      · exact .inl kept
      · exact .inr ⟨other, List.mem_append_left _ present, held, named⟩
    · obtain ⟨held, identity, same, _⟩ := scrubs.added _ (added_to_member added)
      exact .inr ⟨place, List.mem_append_right _ (List.mem_singleton.mpr rfl), before ▸ held,
        identity, same⟩

theorem undoes_refl (logging : Logging) : Undoes logging logging :=
  ⟨[], rfl, fun _ same => same⟩

theorem Undoes.trans {first second third : Logging} (left : Undoes first second)
    (right : Undoes second third) : Undoes first third := by
  obtain ⟨early, earlyInstalls, earlyBack⟩ := left
  obtain ⟨late, lateInstalls, lateBack⟩ := right
  refine ⟨late ++ early, ?_, ?_⟩
  · rw [lateInstalls, earlyInstalls, List.append_assoc]
  · intro later same
    rw [List.foldl_append]
    exact earlyBack _ (lateBack later same)

theorem Installs.undoes {logging scrubbing after : Logging} {place : Name × Bool}
    {installed : List (Nat × Filter)} (fresh : Fresh logging)
    (hosts : ∀ handler ∈ (logging.loggers place.1).handlers, ∃ host, handler = Handler.host host)
    (installs : Installs place logging scrubbing installed after) : Undoes logging after := by
  refine ⟨[_], installs.installs, ?_⟩
  intro later same
  exact installs.removed fresh hosts same

/-- The loop of `acquire_provider_scrub_filters`. -/
theorem foldl_install_boundary (remaining : List (Name × Bool))
    (distinct : ((places ++ remaining).map Prod.fst).Nodup)
    (hosts : ∀ name, ∀ handler ∈ (host.loggers name).handlers,
      ∃ found, handler = Handler.host found)
    (fresh : Fresh guarded) (guards : Guards places host guarded) :
    let after := remaining.foldl installBoundary guarded
    Guards (places ++ remaining) host after ∧ Undoes guarded after ∧ Fresh after ∧
      after.scrubRefs = guarded.scrubRefs := by
  induction remaining generalizing places guarded with
  | nil =>
      rw [List.append_nil]
      exact ⟨guards, undoes_refl guarded, fresh, rfl⟩
  | cons place rest ih =>
      have new : place.1 ∉ places.map Prod.fst := by
        intro member
        simp only [List.map_append, List.map_cons] at distinct
        exact (List.nodup_append.mp distinct).2.2 _ member _ List.mem_cons_self rfl
      have own : ∀ handler ∈ (guarded.loggers place.1).handlers,
          ∃ found, handler = Handler.host found := by
        rw [guards.other place.1 new]
        exact hosts place.1
      obtain ⟨scrubbing, installed, installs⟩ := install_boundary_installs fresh own
      have next := ih (by simpa using distinct) installs.fresh (installs.guards guards new)
      simp only [List.append_assoc, List.singleton_append] at next
      obtain ⟨guarding, undoes, later, references⟩ := next
      exact ⟨guarding, (installs.undoes fresh own).trans undoes, later,
        references.trans installs.references⟩

/-! ## Acquire and release -/

theorem remove_boundary_scrub_refs (logging : Logging) (install : Install) :
    (removeBoundary logging install).scrubRefs = logging.scrubRefs := by
  have unfiltered : ((install.installed.foldl
      (fun state filtered => state.removeFilter filtered.1 filtered.2)
      (logging.removeHandler install.logger install.boundary)).scrubRefs) =
        logging.scrubRefs := by
    generalize removed : logging.removeHandler install.logger install.boundary = state
    have same : state.scrubRefs = logging.scrubRefs := by rw [← removed]; rfl
    rw [← same]
    clear removed same
    induction install.installed generalizing state with
    | nil => rfl
    | cons filtered rest ih => exact ih _
  simp only [removeBoundary]
  by_cases silent : ((install.installed.foldl
      (fun state filtered => state.removeFilter filtered.1 filtered.2)
      (logging.removeHandler install.logger install.boundary)).loggers
        install.logger).propagate = false
  · rw [if_pos silent]
    exact unfiltered
  · rw [if_neg silent]
    exact unfiltered

theorem foldl_remove_boundary_scrub_refs (installs : List Install) (logging : Logging) :
    (installs.foldl removeBoundary logging).scrubRefs = logging.scrubRefs := by
  induction installs generalizing logging with
  | nil => rfl
  | cons install rest ih =>
      rw [List.foldl_cons, ih]
      exact remove_boundary_scrub_refs logging install

/-- Where the process stands towards the configuration `host` it started from. -/
structure Bounded (host logging : Logging) : Prop where
  off : logging.scrubRefs = 0 → SameConfiguration host logging ∧ logging.scrubInstalls = []
  on : 0 < logging.scrubRefs → Guards boundaryLoggers host logging ∧
    ∀ later, SameConfiguration logging later →
      SameConfiguration host (logging.scrubInstalls.foldl removeBoundary later)
  fresh : Fresh logging

theorem Clean.bounded (clean : Clean host) : Bounded host host where
  off := fun _ => ⟨.refl host, clean.uninstalled⟩
  on := fun held => absurd clean.unreferenced (Nat.ne_of_gt held)
  fresh := clean.fresh

theorem Guards.same {later : Logging} (guards : Guards places host guarded)
    (same : SameConfiguration guarded later) : Guards places host later := by
  constructor
  · exact same.lastResort.trans guards.lastResort
  · rw [same.hosts]
    exact guards.level
  · rw [same.loggers]
    exact guards.other
  · rw [same.loggers]
    exact guards.own
  · rw [same.hosts]
    exact guards.carried
  · rw [same.hosts]
    exact guards.filters

theorem boundary_loggers_distinct : (boundaryLoggers.map Prod.fst).Nodup := by
  decide

theorem Bounded.acquired {logging : Logging} (clean : Clean host)
    (bounded : Bounded host logging) :
    Bounded host (acquireProviderScrubFilters logging) ∧
      (acquireProviderScrubFilters logging).scrubRefs = logging.scrubRefs + 1 := by
  let counted := { logging with scrubRefs := logging.scrubRefs + 1 }
  have fresh : Fresh counted := bounded.fresh
  by_cases first : logging.scrubRefs = 0
  · obtain ⟨same, uninstalled⟩ := bounded.off first
    have unfolded : acquireProviderScrubFilters logging =
        boundaryLoggers.foldl installBoundary counted := by
      apply if_neg
      simp [first]
    have guards : Guards [] host counted :=
      (guards_none host).same ⟨same.loggers, same.hosts, same.lastResort⟩
    have distinct : (([] ++ boundaryLoggers).map Prod.fst).Nodup := boundary_loggers_distinct
    obtain ⟨guarding, undoes, later, references⟩ :=
      foldl_install_boundary boundaryLoggers distinct clean.hosts fresh guards
    rw [unfolded]
    refine ⟨⟨?_, ?_, later⟩, references⟩
    · intro none
      rw [references] at none
      cases none
    · intro _
      refine ⟨guarding, ?_⟩
      obtain ⟨installs, all, back⟩ := undoes
      change _ = installs ++ logging.scrubInstalls at all
      rw [all, uninstalled, List.append_nil]
      intro after copy
      have counting : SameConfiguration host counted :=
        ⟨same.loggers, same.hosts, same.lastResort⟩
      exact counting.trans (back after copy)
  · have unfolded : acquireProviderScrubFilters logging = counted := by
      apply if_pos
      simpa using first
    rw [unfolded]
    obtain ⟨guards, back⟩ := bounded.on (Nat.pos_of_ne_zero first)
    refine ⟨⟨?_, ?_, fresh⟩, rfl⟩
    · intro none
      cases none
    · intro _
      refine ⟨guards.same ⟨rfl, rfl, rfl⟩, ?_⟩
      intro later copy
      exact back later ⟨copy.loggers, copy.hosts, copy.lastResort⟩

theorem Bounded.released {logging : Logging} (clean : Clean host)
    (bounded : Bounded host logging) :
    Bounded host (releaseProviderScrubFilters logging) ∧
      (releaseProviderScrubFilters logging).scrubRefs = logging.scrubRefs - 1 := by
  by_cases free : logging.scrubRefs = 0
  · have unfolded : releaseProviderScrubFilters logging = logging := if_pos free
    rw [unfolded]
    exact ⟨bounded, by omega⟩
  · obtain ⟨guards, back⟩ := bounded.on (Nat.pos_of_ne_zero free)
    let counted := { logging with scrubRefs := logging.scrubRefs - 1 }
    by_cases last : logging.scrubRefs - 1 = 0
    · have unfolded : releaseProviderScrubFilters logging =
          { logging.scrubInstalls.foldl removeBoundary counted with scrubInstalls := [] } := by
        unfold releaseProviderScrubFilters
        rw [if_neg free]
        exact if_neg (fun other => other last)
      have same := back counted ⟨rfl, rfl, rfl⟩
      have references : (logging.scrubInstalls.foldl removeBoundary counted).scrubRefs =
          logging.scrubRefs - 1 :=
        foldl_remove_boundary_scrub_refs logging.scrubInstalls counted
      rw [unfolded]
      refine ⟨⟨?_, ?_, ?_⟩, references⟩
      · intro _
        exact ⟨⟨same.loggers, same.hosts, same.lastResort⟩, rfl⟩
      · intro held
        change 0 < (logging.scrubInstalls.foldl removeBoundary counted).scrubRefs at held
        omega
      · intro handler identity narrow member
        change _ ∈ ((logging.scrubInstalls.foldl removeBoundary counted).hosts handler).filters
          at member
        rw [same.hosts] at member
        obtain ⟨found, other⟩ := clean.filters handler _ member
        cases other
    · have unfolded : releaseProviderScrubFilters logging = counted := by
        unfold releaseProviderScrubFilters
        rw [if_neg free]
        exact if_pos last
      rw [unfolded]
      refine ⟨⟨fun none => absurd none last, ?_, bounded.fresh⟩, rfl⟩
      intro _
      refine ⟨guards.same ⟨rfl, rfl, rfl⟩, ?_⟩
      intro later copy
      exact back later ⟨copy.loggers, copy.hosts, copy.lastResort⟩

end

end HermesCashew.LogFilter
