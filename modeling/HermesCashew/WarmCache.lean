import HermesCashew.PrefetchCoherence

/-!
# Warm hits

A warm hit is the staged result of the latest request, and the call that gets it
asks for the very identity of that request. Every operation that supersedes a
request raises the prefetch generation, so no superseded request has the identity of
a later call. The staged result leaves its slot with the call that reads it.
-/

namespace HermesCashew.PrefetchWorker

open HermesCashew.Lifecycle
open HermesCashew.Transition

set_option autoImplicit false

variable {Node : Type} {profiles : Generation → Profile} {text : Text} {nodeId : Node → String}
variable {world following : World Node}

/-! ## The history of a result -/

def Known (world : World Node) (request : Request) : Prop :=
  request.identity ∈ world.queued ∧ request.dbPath = request.identity.dbPath

/-- The nodes were retrieved for one request of that identity. -/
def Backed (world : World Node) (identity : Identity) (nodes : List Node) : Prop :=
  ∃ request, Known world request ∧ request.identity = identity ∧
    ∀ node ∈ nodes, (request, node) ∈ world.retrieved

structure Traced (world : World Node) : Prop where
  warm : world.warmCache = []
  queued : ∀ identity ∈ world.queued, identity.generation ≤ world.prefetchGeneration
  superseded : ∀ identity ∈ world.superseded, identity.generation < world.prefetchGeneration
  closed : Closed world.provider → ∀ identity ∈ world.queued,
    identity.generation < world.prefetchGeneration
  plain : ∀ identity ∈ world.queued,
    identity.domain = none ∧ identity.tag = none ∧ identity.excludeTags = []
  pending : ∀ request, world.pendingRequest = some request → Known world request
  held : ∀ generation request, (world.workers generation).request = some request →
    Known world request ∧
      ∀ node ∈ (world.workers generation).nodes, (request, node) ∈ world.retrieved
  result : ∀ result, world.prefetchPending = some result →
    Backed world result.identity result.nodes ∧ result.serial < world.staged ∧
      result.serial ∉ world.served
  served : ∀ serial ∈ world.served, serial < world.staged
  once : world.served.Nodup

theorem empty_traced : Traced (emptyWorld Node) := by
  constructor <;> simp [emptyWorld, Point.request]

/-- A step that writes no history and moves no result. -/
theorem Traced.same (traced : Traced world)
    (warm : following.warmCache = world.warmCache ∨ following.warmCache = [])
    (generation : following.prefetchGeneration = world.prefetchGeneration)
    (queued : following.queued = world.queued)
    (superseded : following.superseded = world.superseded)
    (retrieved : following.retrieved = world.retrieved)
    (staged : following.staged = world.staged) (served : following.served = world.served)
    (result : following.prefetchPending = world.prefetchPending ∨
      following.prefetchPending = none)
    (pending : following.pendingRequest = world.pendingRequest ∨
      following.pendingRequest = none)
    (closed : Closed following.provider → Closed world.provider)
    (held : ∀ generation request, (following.workers generation).request = some request →
      Known world request ∧
        ∀ node ∈ (following.workers generation).nodes, (request, node) ∈ world.retrieved) :
    Traced following := by
  have known (request : Request) : Known following request ↔ Known world request := by
    rw [Known, Known, queued]
  constructor
  · rcases warm with same | empty
    · exact same.trans traced.warm
    · exact empty
  · rw [queued, generation]
    exact traced.queued
  · rw [superseded, generation]
    exact traced.superseded
  · rw [queued, generation]
    exact fun shut => traced.closed (closed shut)
  · rw [queued]
    exact traced.plain
  · intro request requested
    rw [known]
    rcases pending with same | none
    · exact traced.pending request (same ▸ requested)
    · rw [none] at requested
      cases requested
  · intro generation request holds
    rw [known, retrieved]
    exact held generation request holds
  · intro staging stages
    rw [Backed, retrieved, staged, served]
    simp only [known]
    rcases result with same | none
    · exact traced.result staging (same ▸ stages)
    · rw [none] at stages
      cases stages
  · rw [served, staged]
    exact traced.served
  · rw [served]
    exact traced.once

theorem Traced.supersede (traced : Traced world) : Traced world.supersede := by
  have below (identity : Identity) (member : identity ∈ world.queued) :
      identity.generation < world.prefetchGeneration + 1 :=
    Nat.lt_succ_of_le (traced.queued identity member)
  exact ⟨traced.warm, fun identity member => Nat.le_of_lt (below identity member), below,
    fun _ => below, traced.plain, traced.pending, traced.held, nofun, traced.served, traced.once⟩

/-- No request survives, whatever becomes of the provider. -/
theorem Traced.resets (traced : Traced world) (provider : State) (sessionId : String)
    (warmCache : List (String × Result Node)) (activeIdentity : Option Identity)
    (emptied : warmCache = world.warmCache ∨ warmCache = []) :
    Traced { world.supersede with
      provider := provider
      sessionId := sessionId
      warmCache := warmCache
      activeIdentity := activeIdentity
      pendingRequest := none
      latestIdentity := none } := by
  have ended := traced.supersede
  refine ⟨?_, ended.queued, ended.superseded, fun _ => ended.superseded, ended.plain, nofun,
    ended.held, nofun, ended.served, ended.once⟩
  rcases emptied with same | empty
  · exact same.trans traced.warm
  · exact empty

/-- A new request stands behind everything queued before it. -/
theorem Traced.requested (traced : Traced world) (formed : WellFormed world.provider)
    {request : Request} (fresh : Fresh world request) : Traced (world.requested request) := by
  have ended := traced.supersede
  have known {other : Request} (before : Known world other) :
      Known (world.requested request) other :=
    ⟨List.mem_cons_of_mem _ before.1, before.2⟩
  have admitted : ¬Closed world.provider := by
    rintro (initializing | gone | flag)
    · exact initializing fresh.quiet
    · exact formed.threads.config fresh.config gone
    · rw [fresh.clear] at flag
      cases flag
  constructor
  · exact ended.warm
  · intro identity member
    rcases List.mem_cons.mp member with rfl | before
    · exact Nat.le_of_eq fresh.generation
    · exact ended.queued identity before
  · exact ended.superseded
  · exact fun shut => absurd shut admitted
  · intro identity member
    rcases List.mem_cons.mp member with rfl | before
    · exact ⟨fresh.domain, fresh.tag, fresh.excludeTags⟩
    · exact ended.plain identity before
  · intro other requested
    obtain rfl := Option.some.inj requested
    exact ⟨List.mem_cons_self, fresh.dbPath⟩
  · intro generation other holds
    exact ⟨known (ended.held generation other holds).1, (ended.held generation other holds).2⟩
  · exact nofun
  · exact ended.served
  · exact ended.once

/-- `shutdown` finds every request superseded already. -/
theorem Traced.ended (traced : Traced world) (closed : Closed world.provider) :
    Traced { world with superseded := world.queued } :=
  ⟨traced.warm, traced.queued, traced.closed closed, traced.closed, traced.plain, traced.pending,
    traced.held, traced.result, traced.served, traced.once⟩

theorem notify_held (traced : Traced world) (generation : Generation) (request : Request)
    (holds : (world.notify.workers generation).request = some request) :
    Known world request ∧
      ∀ node ∈ (world.notify.workers generation).nodes, (request, node) ∈ world.retrieved := by
  unfold World.notify at holds ⊢
  split at holds
  · exact traced.held generation request holds
  · rename_i head rest waiters
    by_cases same : generation = head
    · simp [World.setWorker, same, Point.request] at holds
    · simp only [World.setWorker, ne_eq, same, not_false_eq_true, Function.update_of_ne] at holds ⊢
      exact traced.held generation request holds

theorem Traced.notify (traced : Traced world) : Traced world.notify := by
  have held := notify_held traced
  revert held
  unfold World.notify
  split
  · exact fun _ => traced
  · exact fun held => traced.same (.inl rfl) rfl rfl rfl rfl rfl rfl (.inl rfl) (.inl rfl) id held

theorem Traced.notify_all (traced : Traced world) : Traced world.notifyAll := by
  refine traced.same (.inl rfl) rfl rfl rfl rfl rfl rfl (.inl rfl) (.inl rfl) id ?_
  intro generation request holds
  unfold World.notifyAll at holds ⊢
  dsimp only at holds ⊢
  split at holds
  · cases holds
  · rename_i awake
    rw [if_neg awake]
    exact traced.held generation request holds

theorem set_held (traced : Traced world) {generation : Generation} {point : Point Node}
    (own : ∀ request, point.request = some request →
      Known world request ∧ ∀ node ∈ point.nodes, (request, node) ∈ world.retrieved)
    (another : Generation) (request : Request)
    (holds : ((world.setWorker generation point).workers another).request = some request) :
    Known world request ∧ ∀ node ∈ ((world.setWorker generation point).workers another).nodes,
      (request, node) ∈ world.retrieved := by
  by_cases same : another = generation
  · simp only [World.setWorker, same, Function.update_self] at holds ⊢
    exact own request holds
  · simp only [World.setWorker, ne_eq, same, not_false_eq_true, Function.update_of_ne] at holds ⊢
    exact traced.held another request holds

theorem gather_mem (nodes found : List Node) {node : Node}
    (member : node ∈ gather nodeId nodes found) : node ∈ nodes ∨ node ∈ found := by
  induction found generalizing nodes with
  | nil => exact .inl member
  | cons head rest ih =>
      rw [gather, List.foldl_cons] at member
      rcases ih _ member with before | later
      · split at before
        · exact .inl before
        · rcases List.mem_append.mp before with old | new
          · exact .inl old
          · exact .inr (List.mem_cons.mpr (.inl (List.mem_singleton.mp new)))
      · exact .inr (List.mem_cons_of_mem _ later)

theorem set_entry_mem {cache : List (String × Result Node)} {cue : String}
    {result : Result Node} {entry : String × Result Node}
    (member : entry ∈ setEntry cache cue result) : entry ∈ cache ∨ entry.2 = result := by
  unfold setEntry at member
  split at member
  · obtain ⟨before, old, rfl⟩ := List.mem_map.mp member
    split
    · exact .inr rfl
    · exact .inl old
  · rcases List.mem_append.mp member with old | new
    · exact .inl old
    · exact .inr (by rw [List.mem_singleton.mp new])

theorem entries_mem (cues : List String) (result : Result Node)
    (cache : List (String × Result Node)) {entry : String × Result Node}
    (member : entry ∈ cues.foldl (fun cache cue => setEntry cache cue result) cache) :
    entry ∈ cache ∨ entry.2 = result := by
  induction cues generalizing cache with
  | nil => exact .inl member
  | cons cue rest ih =>
      rcases ih _ member with before | new
      · exact set_entry_mem before
      · exact .inr new

/-- A hit is the staged result, and it has the identity that was asked for. -/
theorem Traced.hit (traced : Traced world) {identity : Identity} {query : String}
    {result : Result Node}
    (found : warmHit text identity query (consumed world identity) = some result) :
    world.prefetchPending = some result ∧ result.identity = identity := by
  obtain ⟨_, found⟩ := Option.ite_none_left_eq_some.mp found
  obtain ⟨entry, finds, rfl⟩ := Option.map_eq_some_iff.mp found
  have accepted := List.find?_some finds
  have member := List.mem_of_find?_eq_some finds
  simp only [Bool.and_eq_true, decide_eq_true_eq] at accepted
  refine ⟨?_, accepted.1.2⟩
  unfold consumed at member
  split at member
  · rw [traced.warm] at member
    cases member
  · rename_i staged pending
    split at member
    · rw [traced.warm] at member
      cases member
    · rcases entries_mem _ _ _ member with cached | same
      · rw [traced.warm] at cached
        cases cached
      · rw [pending, same]

theorem gathers_traced (traced : Traced world) {generation : Generation} {request : Request}
    {cues remaining : List String} {cue : String} {nodes found : List Node}
    (ready : world.workers generation = .retrieving request cues cue remaining nodes) :
    Traced { world.setWorker generation
        (.searching request cues remaining (gather nodeId nodes found)) with
      retrieved := found.map (Prod.mk request) ++ world.retrieved } := by
  have own := traced.held generation request (by rw [ready]; rfl)
  rw [ready] at own
  refine ⟨traced.warm, traced.queued, traced.superseded, traced.closed, traced.plain,
    traced.pending, ?_, ?_, traced.served, traced.once⟩
  · intro another other holds
    by_cases same : another = generation
    · simp only [World.setWorker, same, Function.update_self] at holds ⊢
      obtain rfl := Option.some.inj holds
      refine ⟨own.1, fun node member => ?_⟩
      rcases gather_mem nodes found member with old | new
      · exact List.mem_append_right _ (own.2 node old)
      · exact List.mem_append_left _ (List.mem_map_of_mem new)
    · simp only [World.setWorker, ne_eq, same, not_false_eq_true, Function.update_of_ne] at holds ⊢
      have before := traced.held another other holds
      exact ⟨before.1, fun node member => List.mem_append_right _ (before.2 node member)⟩
  · intro result pending
    obtain ⟨⟨origin, known, same, nodes⟩, fresh⟩ := traced.result result pending
    exact ⟨⟨origin, known, same, fun node member =>
      List.mem_append_right _ (nodes node member)⟩, fresh⟩

theorem stages_traced (traced : Traced world) {generation : Generation} {request : Request}
    {cues kept : List String} {nodes : List Node}
    (ready : world.workers generation = .staging request cues nodes) :
    Traced { world.setWorker generation .finishing with
      prefetchPending := some
        { identity := request.identity, cues := kept, nodes := nodes, serial := world.staged }
      staged := world.staged + 1 } := by
  have own := traced.held generation request (by rw [ready]; rfl)
  rw [ready] at own
  refine ⟨traced.warm, traced.queued, traced.superseded, traced.closed, traced.plain,
    traced.pending, set_held traced nofun, ?_, ?_, traced.once⟩
  · intro result pending
    obtain rfl := Option.some.inj pending
    refine ⟨⟨request, own.1, rfl, own.2⟩, Nat.lt_succ_self _, fun served => ?_⟩
    exact absurd (traced.served _ served) (Nat.lt_irrefl _)
  · exact fun serial served => Nat.lt_succ_of_lt (traced.served serial served)

theorem hits_traced (traced : Traced world) {result : Result Node}
    (pending : world.prefetchPending = some result) :
    Traced { world with
      prefetchPending := none
      warmCache := []
      served := result.serial :: world.served } := by
  have ⟨_, below, unserved⟩ := traced.result result pending
  refine ⟨rfl, traced.queued, traced.superseded, traced.closed, traced.plain, traced.pending,
    traced.held, nofun, ?_, List.nodup_cons.mpr ⟨unserved, traced.once⟩⟩
  intro serial member
  rcases List.mem_cons.mp member with rfl | before
  · exact below
  · exact traced.served serial before

theorem moves_traced {action : Action Node} (threaded : Threaded world) (traced : Traced world)
    (moves : Moves profiles text nodeId world action following) : Traced following := by
  cases moves with
  | ignored => exact traced
  | lifecycle action provider _ _ _ superseded moves beside closed emptied dropped ended =>
      rcases ended with rfl | ⟨rfl, shut⟩
      · exact traced.same emptied rfl rfl rfl rfl rfl rfl dropped (.inl rfl) closed traced.held
      · exact (traced.ended shut).same emptied rfl rfl rfl rfl rfl rfl dropped (.inl rfl) closed
          traced.held
  | resets action provider _ _ runs beside emptied =>
      exact Traced.notify_all (traced.resets provider _ _ _ emptied)
  | clears cleaner worker queue provider moves ready current gone alive =>
      exact Traced.notify_all (traced.resets provider _ _ _ (.inr rfl))
  | epoch | misses =>
      exact traced.same (.inr (by first | rfl | exact traced.warm)) rfl rfl rfl rfl rfl rfl
        (by first | exact .inl rfl | exact .inr rfl) (.inl rfl) id traced.held
  | drops =>
      exact traced.supersede.same (.inl rfl) rfl rfl rfl rfl rfl rfl (.inl rfl) (.inl rfl) id
        traced.held
  | hits call config result found => exact hits_traced traced (traced.hit found).1
  | wakes action request fresh alive => exact (traced.requested threaded.formed fresh).notify
  | starts action request fresh dead =>
      have requested := traced.requested threaded.formed fresh
      refine Traced.notify (requested.same (.inl rfl) rfl rfl rfl rfl rfl rfl (.inl rfl) (.inl rfl)
        ?_ (set_held requested nofun))
      rw [queue_prefetch_starts dead fresh.config fresh.path fresh.quiet fresh.clear]
      exact id
  | fails action request fresh dead =>
      exact (traced.requested threaded.formed fresh).same (.inl rfl) rfl rfl rfl rfl rfl rfl
        (.inl rfl) (.inr rfl) id (traced.requested threaded.formed fresh).held
  | takes generation request cues found alive ready pending =>
      refine traced.same (.inl rfl) rfl rfl rfl rfl rfl rfl (.inl rfl) (.inr rfl) id
        (set_held traced ?_)
      intro other holds
      obtain rfl := Option.some.inj holds
      exact ⟨traced.pending request pending, nofun⟩
  | leaves generation cues found alive ready empty flag
  | waits generation cues found alive ready empty =>
      exact traced.same (.inl rfl) rfl rfl rfl rfl rfl rfl (.inl rfl) (.inl rfl) id
        (set_held traced nofun)
  | proceeds generation point cues found alive busy awake same nodes =>
      refine traced.same (.inl rfl) rfl rfl rfl rfl rfl rfl (.inl rfl) (.inl rfl) id
        (set_held traced ?_)
      intro request holds
      have before := traced.held generation request (same request holds)
      exact ⟨before.1, fun node member => before.2 node (nodes node member)⟩
  | gathers generation request cues cue remaining nodes found answer alive ready =>
      exact gathers_traced traced ready
  | stages generation request cues nodes answer found alive ready =>
      exact stages_traced traced ready
  | finishes generation cues found alive ready =>
      exact Traced.notify_all (traced.same (.inl rfl) rfl rfl rfl rfl rfl rfl (.inl rfl) (.inl rfl)
        id (set_held traced nofun))
  | finalizes generation cues found alive ready =>
      exact Traced.notify_all (traced.same (.inl rfl) rfl rfl rfl rfl rfl rfl (.inl rfl) (.inl rfl)
        id (set_held traced nofun))
  | exits generation provider ready taken =>
      obtain ⟨_, same⟩ := Option.ite_none_right_eq_some.mp taken
      obtain rfl := Option.some.inj same
      exact traced.same (.inl rfl) rfl rfl rfl rfl rfl rfl (.inl rfl) (.inl rfl) id traced.held

structure Coherent (world : World Node) : Prop where
  threaded : Threaded world
  attended : Attended world
  traced : Traced world

theorem reachable_coherent
    (reached : Reaches (step profiles text nodeId) anyStep (emptyWorld Node) world) :
    Coherent world := by
  refine reached.invariant Coherent ⟨empty_threaded, fun pending => absurd rfl pending,
    empty_traced⟩ ?_
  intro world action following coherent _ taken
  have moves := step_moves taken
  exact ⟨moves_threaded coherent.threaded moves,
    moves_attended coherent.threaded coherent.attended moves,
    moves_traced coherent.threaded coherent.traced moves⟩

/-! ## The worker takes the request -/

def Point.distance : Point Node → Nat × Nat
  | .starting _ => (8, 0)
  | .extracting _ => (7, 0)
  | .filtered _ _ => (6, 0)
  | .searching _ _ remaining _ => (5, 2 * remaining.length)
  | .retrieving _ _ _ remaining _ => (5, 2 * remaining.length + 1)
  | .gathered _ _ _ => (4, 0)
  | .staging _ _ _ => (3, 0)
  | .failing _ => (2, 0)
  | .finishing => (1, 0)
  | _ => (0, 0)

def Nearer (next point : Point Node) : Prop :=
  Prod.Lex (· < ·) (· < ·) next.distance point.distance

/-- The steps of one worker, under the answers of the environment. -/
def workSchedule (generation : Generation)
    (answers : Nat → Option (List String) × Option (List Node)) : Nat → List (Action Node)
  | 0 => []
  | count + 1 =>
      .work generation (answers 0).1 (answers 0).2 ::
        workSchedule generation (fun index => answers (index + 1)) count

theorem earlier_stage {next point : Point Node}
    (stage : next.distance.1 < point.distance.1) : Nearer next point :=
  Prod.lex_def.mpr (.inl stage)

theorem shorter_loop {next point : Point Node}
    (stage : next.distance.1 = point.distance.1) (loop : next.distance.2 < point.distance.2) :
    Nearer next point :=
  Prod.lex_def.mpr (.inr ⟨stage, loop⟩)

structure Advances (generation : Generation) (request : Request) (point : Point Node)
    (following : World Node) : Prop where
  nearer : Nearer (following.workers generation) point
  awake : (following.workers generation).awake = true
  pending : following.pendingRequest = some request
  alive : following.provider.alive (.prefetch generation) = true

theorem set_advances {generation : Generation} {request : Request} {point next : Point Node}
    (alive : world.provider.alive (.prefetch generation) = true)
    (pending : world.pendingRequest = some request) (nearer : Nearer next point)
    (awake : next.awake = true) :
    Advances generation request point (world.setWorker generation next) := by
  have own : (world.setWorker generation next).workers generation = next := by
    simp [World.setWorker]
  constructor
  · rw [own]
    exact nearer
  · rw [own]
    exact awake
  · exact pending
  · exact alive

theorem stage_slot {request : Request} {cues : List String} {nodes : List Node}
    {staged : World Node}
    (stages : stagePrefetchResult profiles text world request cues nodes = some staged) :
    staged.provider = world.provider ∧ staged.pendingRequest = world.pendingRequest := by
  obtain ⟨config, _, rfl⟩ := Option.map_eq_some_iff.mp stages
  split <;> exact ⟨rfl, rfl⟩

/-- A worker that is awake takes the request, or comes nearer to it. -/
theorem work_progress {generation : Generation} {request : Request}
    (alive : world.provider.alive (.prefetch generation) = true)
    (awake : (world.workers generation).awake = true)
    (pending : world.pendingRequest = some request) (cues : Option (List String))
    (found : Option (List Node)) :
    ∃ following, work profiles text nodeId world generation cues found = some following ∧
      (following.workers generation = .starting request ∧ following.pendingRequest = none ∨
        Advances generation request (world.workers generation) following) := by
  unfold work
  rw [if_neg (by simp [alive])]
  cases point : world.workers generation with
  | looping =>
      simp only [pending]
      exact ⟨_, rfl, .inl ⟨by simp [World.setWorker], rfl⟩⟩
  | waiting | leaving | finished =>
      rw [point] at awake
      cases awake
  | starting current =>
      refine ⟨_, rfl, .inr ?_⟩
      split <;> exact set_advances alive pending (earlier_stage (by simp [Point.distance])) rfl
  | extracting current =>
      refine ⟨_, rfl, .inr ?_⟩
      generalize List.filter (nonBlank text) _ = kept
      split <;> exact set_advances alive pending (earlier_stage (by simp [Point.distance])) rfl
  | filtered current kept =>
      refine ⟨_, rfl, .inr ?_⟩
      split <;> exact set_advances alive pending (earlier_stage (by simp [Point.distance])) rfl
  | searching current kept remaining nodes =>
      cases remaining with
      | nil =>
          exact ⟨_, rfl, .inr (set_advances alive pending
            (earlier_stage (by simp [Point.distance])) rfl)⟩
      | cons cue remaining =>
          refine ⟨_, rfl, .inr ?_⟩
          split
          · refine set_advances alive pending (shorter_loop rfl ?_) rfl
            simp only [Point.distance, List.length_cons]
            omega
          · exact set_advances alive pending (earlier_stage (by simp [Point.distance])) rfl
  | retrieving current kept cue remaining nodes =>
      cases found with
      | none =>
          exact ⟨_, rfl, .inr (set_advances alive pending
            (earlier_stage (by simp [Point.distance])) rfl)⟩
      | some found =>
          have advances : Advances generation request (.retrieving current kept cue remaining nodes)
              (world.setWorker generation
                (.searching current kept remaining (gather nodeId nodes found))) :=
            set_advances alive pending (shorter_loop rfl (Nat.lt_succ_self _)) rfl
          exact ⟨_, rfl, .inr ⟨advances.nearer, advances.awake, pending, alive⟩⟩
  | gathered current kept nodes =>
      refine ⟨_, rfl, .inr ?_⟩
      split <;> exact set_advances alive pending (earlier_stage (by simp [Point.distance])) rfl
  | staging current kept nodes =>
      cases stages : stagePrefetchResult profiles text world current kept nodes with
      | none =>
          simp only [stages]
          exact ⟨_, rfl, .inr (set_advances alive pending
            (earlier_stage (by simp [Point.distance])) rfl)⟩
      | some staged =>
          obtain ⟨provider, slot⟩ := stage_slot stages
          simp only [stages]
          exact ⟨_, rfl, .inr (set_advances (by rw [provider]; exact alive)
            (by rw [slot]; exact pending) (earlier_stage (by simp [Point.distance])) rfl)⟩
  | failing current =>
      exact ⟨_, rfl, .inr (set_advances alive pending
        (earlier_stage (by simp [Point.distance])) rfl)⟩
  | finishing =>
      have woken (workers : World Node) (own : workers.workers generation = .looping) :
          workers.notifyAll.workers generation = .looping := by
        unfold World.notifyAll
        dsimp only
        split
        · rfl
        · exact own
      have own := woken { world.setWorker generation .looping with activeIdentity := none }
        (by simp [World.setWorker])
      refine ⟨_, rfl, .inr ⟨?_, ?_, pending, alive⟩⟩
      · rw [own]
        exact earlier_stage (by simp [Point.distance])
      · rw [own]
        rfl

/-- Whatever the environment answers, the worker takes the request after finitely
many of its own steps. -/
theorem worker_takes {generation : Generation} {request : Request}
    (alive : world.provider.alive (.prefetch generation) = true)
    (awake : (world.workers generation).awake = true)
    (pending : world.pendingRequest = some request)
    (answers : Nat → Option (List String) × Option (List Node)) :
    ∃ count following, execute (step profiles text nodeId) world
        (workSchedule generation answers count) = some following ∧
      following.workers generation = .starting request ∧ following.pendingRequest = none := by
  induction distance : (world.workers generation).distance using
      (WellFounded.prod_lex Nat.lt_wfRel.wf Nat.lt_wfRel.wf).induction
    generalizing world answers with
  | _ _ ih =>
      have progress : ∃ following,
          work profiles text nodeId world generation (answers 0).1 (answers 0).2 =
            some following ∧
          (following.workers generation = .starting request ∧ following.pendingRequest = none ∨
            Advances generation request (world.workers generation) following) :=
        work_progress alive awake pending _ _
      obtain ⟨following, works, taken | advances⟩ := progress
      · exact ⟨1, following, by simp [workSchedule, execute, executeWhere, step, works], taken⟩
      · obtain ⟨count, last, runs, taken⟩ := ih _ (distance ▸ advances.nearer) advances.alive
          advances.awake advances.pending (fun index => answers (index + 1)) rfl
        refine ⟨count + 1, last, ?_, taken⟩
        simpa [workSchedule, execute, executeWhere, step, works] using runs

/-- Nobody else moves a worker that is awake while its request stays in the slot. -/
theorem others_keep_worker (threaded : Threaded world) {action : Action Node}
    {generation : Generation} {request : Request}
    (moves : Moves profiles text nodeId world action following)
    (other : ∀ cues found, action ≠ .work generation cues found)
    (held : world.provider.prefetchWorker = some generation)
    (awake : (world.workers generation).awake = true)
    (stays : following.pendingRequest = some request) :
    following.workers generation = world.workers generation := by
  have busy := (threaded.worker generation).mp held
  have actor {another : Generation} {cues : Option (List String)} {found : Option (List Node)}
      (unfinished : world.workers another ≠ .finished)
      (same : action = .work another cues found) : False := by
    obtain rfl := threaded.only unfinished busy
    exact other cues found same
  cases moves with
  | resets | clears | fails => cases stays
  | wakes action request fresh alive =>
      unfold World.notify
      split
      · rfl
      · rename_i head rest waiters
        have heads := (threaded.waiting head).mp
          (by rw [show world.waiters = head :: rest from waiters]; exact List.mem_cons_self)
        have different : generation ≠ head := by
          rintro rfl
          rw [heads] at awake
          cases awake
        exact Function.update_of_ne different _ _
  | starts action request fresh dead =>
      rw [(threaded.dead dead).1] at held
      cases held
  | takes another _ _ _ _ ready | leaves another _ _ _ ready | waits another _ _ _ ready
  | finishes another _ _ _ ready | finalizes another _ _ _ ready =>
      exact (actor (by rw [ready]; exact nofun) rfl).elim
  | gathers another _ _ _ _ _ _ _ _ ready =>
      exact (actor (by rw [ready]; exact nofun) rfl).elim
  | stages another _ _ _ _ _ _ ready =>
      exact (actor (by rw [ready]; exact nofun) rfl).elim
  | proceeds another point _ _ _ running =>
      refine (actor ?_ rfl).elim
      intro finished
      rw [finished] at running
      exact running rfl
  | _ => rfl

/-! ## The contract -/

theorem or_none_of_empty {value : Option String} (empty : orNone value = none) :
    value = none ∨ value = some "" := by
  cases value with
  | none => exact .inl rfl
  | some value =>
      refine .inr (congrArg some ?_)
      by_contra given
      simp [orNone, given] at empty

theorem sorted_tags_empty {tags : List String} (empty : sortedTags (some tags) = []) :
    ∀ tag ∈ tags, tag = "" := by
  intro tag member
  by_contra given
  have kept : tag ∈ sortedTags (some tags) := by
    simp [sortedTags, member, given]
  rw [empty] at kept
  cases kept

/-- What a warm hit of `prefetch` is. -/
structure WarmHit (profiles : Generation → Profile) (world : World Node) (call : PrefetchCall)
    (nodes : List Node) : Prop where
  /-- Every node was retrieved for one request of the identity that the call has. -/
  retrieved : ∃ config request, world.provider.config = some config ∧
    request.identity = callIdentity profiles world config call ∧
    request.dbPath = request.identity.dbPath ∧ request.identity ∈ world.queued ∧
    request.identity ∉ world.superseded ∧ ∀ node ∈ nodes, (request, node) ∈ world.retrieved
  domain : call.domain = none ∨ call.domain = some ""
  tag : call.tag = none ∨ call.tag = some ""
  excludeTags : ∀ tags, call.excludeTags = some tags → ∀ tag ∈ tags, tag = ""

theorem warm_hit (traced : Traced world) {call : PrefetchCall} {nodes : List Node}
    (hit : (prefetch profiles text world call).2 = some nodes) :
    WarmHit profiles world call nodes := by
  unfold prefetch at hit
  split at hit
  · cases hit
  · rename_i config known
    split at hit
    · cases hit
    · dsimp only at hit
      split at hit
      · cases hit
      · rename_i result found
        obtain rfl := Option.some.inj hit
        have ⟨pending, same⟩ := traced.hit found
        obtain ⟨⟨request, known', own, nodes⟩, _, _⟩ := traced.result result pending
        have identity : request.identity = callIdentity profiles world config call :=
          own.trans same
        have plain := traced.plain _ known'.1
        rw [identity] at plain
        refine ⟨⟨config, request, known, identity, known'.2, known'.1, ?_, ?_⟩,
          or_none_of_empty plain.1, or_none_of_empty plain.2.1, ?_⟩
        · intro ended
          have below := traced.superseded _ ended
          rw [identity] at below
          exact absurd below (Nat.lt_irrefl _)
        · exact fun node member => nodes node (List.mem_of_mem_take member)
        · intro tags given
          refine sorted_tags_empty ?_
          rw [← given]
          exact plain.2.2

/-- In every run, a warm hit belongs to the request that the call asks for, a staged
result is served once, one request is active, and the request in the slot has a
worker that takes it after finitely many of its own steps and that nobody else moves
meanwhile. -/
theorem warm_cache_isolation
    (reached : Reaches (step profiles text nodeId) anyStep (emptyWorld Node) world) :
    (∀ call nodes, (prefetch profiles text world call).2 = some nodes →
      WarmHit profiles world call nodes) ∧
    world.served.Nodup ∧
    (∀ first second request other, (world.workers first).request = some request →
      (world.workers second).request = some other →
      first = second ∧ request = other ∧ world.activeIdentity = some request.identity) ∧
    (∀ request, world.pendingRequest = some request →
      ∃ generation, world.provider.alive (.prefetch generation) = true ∧
        (∀ answers, ∃ count following, execute (step profiles text nodeId) world
            (workSchedule generation answers count) = some following ∧
          following.workers generation = .starting request ∧
          following.pendingRequest = none) ∧
        ∀ action following, (∀ cues found, action ≠ .work generation cues found) →
          step profiles text nodeId world action = some following →
          following.pendingRequest = some request →
          following.workers generation = world.workers generation) := by
  have coherent := reachable_coherent reached
  have threaded := coherent.threaded
  have unfinished {generation : Generation} {request : Request}
      (holds : (world.workers generation).request = some request) :
      world.workers generation ≠ .finished := by
    intro finished
    rw [finished] at holds
    cases holds
  refine ⟨fun call nodes hit => warm_hit coherent.traced hit, coherent.traced.once, ?_, ?_⟩
  · intro first second request other one two
    obtain rfl := threaded.only (unfinished one) (unfinished two)
    exact ⟨rfl, Option.some.inj (one.symm.trans two), threaded.active first request one⟩
  · intro request pending
    obtain ⟨generation, held, awake⟩ := coherent.attended (by rw [pending]; exact nofun)
    have alive := (threaded.living generation ((threaded.worker generation).mp held)).1
    refine ⟨generation, alive, worker_takes alive awake pending, ?_⟩
    intro action following other taken stays
    exact others_keep_worker threaded (step_moves taken) other held awake stays

def sampleProfile : Profile where
  sessionId := "session"
  configFingerprint := "{}"
  recallK := 5
  prefetchK := 3
  extractsCues := false
  dbPath := "home/brain.db"
  embeddingGeneration := "worker"

def sampleText : Text where
  lower := id
  split value := if value = "" then [] else [value]

def warmSchedule : List (Action String) :=
  (toAcquired ++ .advance :: toIdentity ++ .identify true :: toReturn).map .lifecycle ++
    .queuePrefetch "topic" "" true :: List.replicate 10 (.work 1 none (some ["node"]))

def sampleCall : PrefetchCall where
  query := "topic"
  domain := none
  tag := some ""
  excludeTags := some [""]
  sessionId := ""

theorem queued_request_becomes_warm_hit :
    ∃ world : World String,
      (prefetch (fun _ => sampleProfile) sampleText world sampleCall).2 = some ["node"] ∧
      WarmHit (fun _ => sampleProfile) world sampleCall ["node"] := by
  have ran : (execute (step (fun _ => sampleProfile) sampleText id) (emptyWorld String)
      warmSchedule).map (fun world =>
        (prefetch (fun _ => sampleProfile) sampleText world sampleCall).2) =
      some (some ["node"]) := by
    decide
  obtain ⟨world, ran, hit⟩ := Option.map_eq_some_iff.mp ran
  have reached := reaches_of_execute (step (fun _ => sampleProfile) sampleText id)
    (emptyWorld String) warmSchedule ran
  exact ⟨world, hit, (warm_cache_isolation reached).1 sampleCall ["node"] hit⟩

end HermesCashew.PrefetchWorker
