import HermesCashew.ProfileIsolation
import Mathlib.Data.List.Basic

/-!
# Profile isolation

A call stays with its own database as long as it finds its generation alive, or
finds nothing. Two kinds of lifecycle steps break this: a clearing under a call that
already holds what it will return, and a new `_db_path` under a call that will take
it for its own. `prefetch` reads and writes its snapshot and a live worker keeps
`_db_path` in place, so these two need no condition.
-/

namespace HermesCashew.ProfileIsolation

open HermesCashew.Lifecycle
open HermesCashew.Transition

set_option autoImplicit false

variable {database : Generation → Path}

/-! ## The steps that expose a call -/

/-- The call would return content or a success, or write, although its generation
is cleared. -/
def Call.holds (call : Call) : Bool :=
  !call.operation.working &&
    match call.point with
    | .searching none => decide (call.operation ≠ .query)
    | .measuring _ _ | .targeting _ _ | .updating _ _ _ => decide (call.operation = .query)
    | .storing _ => true
    | .recording result | .returning result => !result.vacant
    | _ => false

/-- The call would take `path` for the database of its own generation: it has no
admission yet, its admission names `path`, or it is a `cashew_query` that does not
look at its admission again. -/
def Call.adopts (path : Path) (call : Call) : Bool :=
  !call.operation.working &&
    match call.point with
    | .snapshotting | .configuring _ | .entering | .requesting => true
    | .searching none => decide (call.operation = .query)
    | .retrieving token | .enriching token _ | .searching (some token) =>
        decide (call.operation = .query) || decide (token.graphPath = some path)
    | .validating token | .checking token _ | .confirming token _ | .reaffirming token
    | .measuring token _ | .targeting token _ | .updating token _ _ =>
        decide (token.graphPath = some path)
    | _ => false

/-- `_clear_runtime_state` clears under a call that holds something, or `initialize`
stores a `_db_path` that a call of an earlier generation adopts. -/
def exposes (database : Generation → Path) (world : World) : Action → Bool
  | .lifecycle action =>
      (clears world.provider action && world.calls.any Call.holds) ||
        (resolves world.provider action &&
          world.calls.any (Call.adopts (database world.provider.healthGeneration)))
  | _ => false

/-! ## When a call is at peace with its provider -/

def Lives (provider : State) (generation : Generation) : Prop :=
  provider.initializer = none ∧ provider.dbPath = some generation

def Stays (provider : State) (generation : Generation) : Prop :=
  Lives provider generation ∨ provider.dbPath = none

structure Fenced (database : Generation → Path) (provider : State) (generation : Generation)
    (token : Token) : Prop where
  own : token.graphPath = none ∨ token.graphPath = some (database generation)
  live : provider.dbPath ≠ none → token.graphPath = dbPath database provider →
    Lives provider generation

def Call.Timed (database : Generation → Path) (provider : State) (call : Call) : Prop :=
  call.operation.working = true ∨
    match call.point with
    | .snapshotting | .configuring _ | .entering | .requesting => Stays provider call.generation
    | .validating token | .checking token _ | .confirming token _ | .reaffirming token =>
        Fenced database provider call.generation token
    | .retrieving token | .enriching token _ | .searching (some token) =>
        if call.operation = .query then Stays provider call.generation
        else Fenced database provider call.generation token
    | .searching none =>
        if call.operation = .query then Stays provider call.generation
        else Lives provider call.generation
    | .measuring token _ | .targeting token _ | .updating token _ _ =>
        if call.operation = .query then Lives provider call.generation
        else Fenced database provider call.generation token
    | .storing _ => Lives provider call.generation
    | .recording result | .returning result =>
        result.vacant = true ∨ Lives provider call.generation
    | .returned result outlived => outlived = true → result.vacant = true
    | .thinking | .finished => True

/-! ## Lifecycle steps -/

section Lifecycle

variable {provider following : State} {action : Lifecycle.Action} {generation : Generation}

theorem Lives.moves (lives : Lives provider generation)
    (moves : PathMoves provider action following) :
    Lives following generation ∨ following.dbPath = none ∧ clears provider action = true := by
  obtain ⟨quiet, path⟩ := lives
  cases moves with
  | kept same stays => exact .inl ⟨stays quiet (by simp [path]), same.trans path⟩
  | gone none cleared => exact .inr ⟨none, cleared quiet⟩
  | stored resolves pending new => exact absurd quiet pending

theorem Lives.kept (lives : Lives provider generation)
    (moves : PathMoves provider action following) (spared : clears provider action = false) :
    Lives following generation := by
  rcases lives.moves moves with kept | ⟨_, cleared⟩
  · exact kept
  · rw [spared] at cleared
    cases cleared

theorem Stays.kept (stays : Stays provider generation)
    (moves : PathMoves provider action following) (spared : resolves provider action = false) :
    Stays following generation := by
  rcases stays with lives | gone
  · rcases lives.moves moves with kept | ⟨cleared, _⟩
    · exact .inl kept
    · exact .inr cleared
  · cases moves with
    | kept same _ => exact .inr (same.trans gone)
    | gone none _ => exact .inr none
    | stored resolves _ _ =>
        rw [spared] at resolves
        cases resolves

theorem Fenced.kept {token : Token} (fenced : Fenced database provider generation token)
    (moves : PathMoves provider action following)
    (spared : resolves provider action = true →
      token.graphPath ≠ some (database provider.healthGeneration)) :
    Fenced database following generation token := by
  refine ⟨fenced.own, fun held same => ?_⟩
  cases moves with
  | kept path quiet =>
      rw [path] at held
      have lives := fenced.live held (by rw [same, dbPath, dbPath, path])
      exact ⟨quiet lives.1 held, path.trans lives.2⟩
  | gone none _ => exact absurd none held
  | stored resolves _ new =>
      rw [dbPath, new] at same
      exact absurd same (spared resolves)

end Lifecycle

theorem timed_lifecycle {provider following : State} {action : Lifecycle.Action} {call : Call}
    (timed : call.Timed database provider) (moves : PathMoves provider action following)
    (cleared : clears provider action = true → call.holds = false)
    (resolved : resolves provider action = true →
      call.adopts (database provider.healthGeneration) = false) :
    call.Timed database following := by
  rcases timed with working | timed
  · exact .inl working
  · by_cases working : call.operation.working = true
    · exact .inl working
    · have idle : call.operation.working = false := by simpa using working
      have lives (held : call.holds = true) (lives : Lives provider call.generation) :
          Lives following call.generation := by
        refine lives.kept moves ?_
        by_contra applies
        rw [cleared (by simpa using applies)] at held
        cases held
      have stays (adopted : call.adopts (database provider.healthGeneration) = true)
          (stays : Stays provider call.generation) : Stays following call.generation := by
        refine stays.kept moves ?_
        by_contra applies
        rw [resolved (by simpa using applies)] at adopted
        cases adopted
      have fenced {token : Token}
          (adopted : token.graphPath = some (database provider.healthGeneration) →
            call.adopts (database provider.healthGeneration) = true)
          (fenced : Fenced database provider call.generation token) :
          Fenced database following call.generation token := by
        refine fenced.kept moves fun applies same => ?_
        have clear := resolved applies
        rw [adopted same] at clear
        cases clear
      refine .inr ?_
      obtain ⟨operation, generation, point⟩ := call
      cases point with
      | snapshotting | configuring | entering | requesting =>
          exact stays (by simp [Call.adopts, idle]) timed
      | validating | checking | confirming | reaffirming =>
          exact fenced (by simp [Call.adopts, idle]) timed
      | retrieving | enriching =>
          by_cases query : operation = .query
          · simp only [query, if_true] at timed ⊢
            exact stays (by simp [Call.adopts, Operation.working, query]) timed
          · simp only [query, if_false] at timed ⊢
            exact fenced (by simp +contextual [Call.adopts, idle]) timed
      | searching token =>
          cases token with
          | none =>
              by_cases query : operation = .query
              · simp only [query, if_true] at timed ⊢
                exact stays (by simp [Call.adopts, Operation.working, query]) timed
              · simp only [query, if_false] at timed ⊢
                exact lives (by simp [Call.holds, idle, query]) timed
          | some token =>
              by_cases query : operation = .query
              · simp only [query, if_true] at timed ⊢
                exact stays (by simp [Call.adopts, Operation.working, query]) timed
              · simp only [query, if_false] at timed ⊢
                exact fenced (by simp +contextual [Call.adopts, idle]) timed
      | measuring | targeting | updating =>
          by_cases query : operation = .query
          · simp only [query, if_true] at timed ⊢
            exact lives (by simp [Call.holds, Operation.working, query]) timed
          · simp only [query, if_false] at timed ⊢
            exact fenced (by simp [Call.adopts, idle]) timed
      | storing => exact lives (by simp [Call.holds, idle]) timed
      | recording result | returning result =>
          rcases timed with vacant | alive
          · exact .inl vacant
          · by_cases vacant : result.vacant = true
            · exact .inl vacant
            · exact .inr (lives (by simp [Call.holds, idle, vacant]) alive)
      | returned | thinking | finished => exact timed

/-! ## Statements of a call -/

def Operation.recalls : Operation → Bool
  | .query | .prefetch _ => true
  | _ => false

def Operation.passes (operation : Operation) : Point → Bool
  | .snapshotting => decide (operation = .query) || decide (operation = .extract)
  | .configuring _ => decide (operation = .query)
  | .entering | .requesting | .validating _ => true
  | .retrieving _ | .enriching _ _ | .searching _ | .measuring _ _ | .targeting _ _
  | .updating _ _ _ => operation.recalls
  | .checking _ _ | .confirming _ _ => operation.recalls && decide (operation ≠ .query)
  | .reaffirming _ | .storing _ => !operation.recalls
  | .thinking => decide (operation = .turn)
  | .finished => operation.working
  | .recording _ => decide (operation = .query) || decide (operation = .extract)
  | .returning _ | .returned _ _ => !operation.working

theorem advances_shape {world : World} {call following : Call} {written : Option Path}
    (advances : Advances database world call following written)
    (shape : call.operation.passes call.point = true) :
    following.operation.passes following.point = true ∧
      following.generation = call.generation ∧
      following.operation.working = call.operation.working ∧
      ∀ path, following.operation = .prefetch path → call.operation = .prefetch path := by
  obtain ⟨operation, generation, point⟩ := call
  cases advances with
  | answersNothing token ids start | finds token ids answer nodes start read found =>
      refine ⟨?_, rfl, rfl, fun _ => id⟩
      rcases start with rfl | rfl <;> cases operation <;>
        first | rfl | cases shape
  | skips token nodes target start =>
      refine ⟨?_, rfl, rfl, fun _ => id⟩
      rcases start with rfl | rfl | rfl <;> cases operation <;>
        first | rfl | cases shape
  | stores remaining point start next =>
      cases start
      refine ⟨?_, rfl, rfl, fun _ => id⟩
      rcases next with rfl | ⟨further, rfl⟩ | ⟨rfl, rfl⟩ | ⟨rfl, rfl⟩ | ⟨other, rfl⟩
      · cases operation <;> rfl
      · exact shape
      · rfl
      · rfl
      · cases operation <;> first | rfl | exact absurd rfl other | cases shape
  | thinks start =>
      cases start
      refine ⟨rfl, rfl, ?_, nofun⟩
      cases operation <;> first | rfl | cases shape
  | fails =>
      exact ⟨by cases operation <;> rfl, rfl, rfl, fun _ => id⟩
  | begins start query identityReady | retrieves token ids start query =>
      cases start
      cases query
      exact ⟨rfl, rfl, rfl, fun _ => id⟩
  | prefetches token ids start other =>
      cases start
      refine ⟨?_, rfl, rfl, fun _ => id⟩
      simpa [Operation.passes, other] using shape
  | beginsExtract start | configures start | degrades start | enters start | requests start
  | validated token start valid | misses token start | checked token ids start
  | answers nodes start answer read | measures token nodes start
  | targets token nodes target start read | updates token nodes target start
  | confirmed token nodes start valid | reaffirmed token start valid | rests start
  | records result start | returns result start =>
      cases start
      refine ⟨?_, rfl, rfl, fun _ => id⟩
      cases operation <;> first | rfl | cases shape

/-- What a call carries. -/
def Point.nodes : Point → List Node
  | .measuring _ nodes | .targeting _ nodes | .updating _ nodes _ | .confirming _ nodes => nodes
  | .recording result | .returning result | .returned result _ => result.nodes
  | _ => []

def Point.target : Point → Option Path
  | .updating _ _ target => some target
  | _ => none

structure Call.Own (database : Generation → Path) (call : Call) : Prop where
  nodes : ∀ node ∈ call.point.nodes, node.graph = database call.generation
  target : ∀ path, call.point.target = some path → path = database call.generation

def Point.reads : Point → Bool
  | .enriching _ _ | .searching _ | .targeting _ _ => true
  | _ => false

theorem rows_graph {target : Option Path} {answer : List String} {node : Node}
    (member : node ∈ rows target answer) : target = some node.graph := by
  cases target with
  | none => cases member
  | some path =>
      obtain ⟨id, _, rfl⟩ := List.mem_map.mp member
      rfl

theorem fails_own (call : Call) :
    Call.Own database { call with point := call.operation.fails } := by
  obtain ⟨operation, generation, point⟩ := call
  constructor <;> cases operation <;> simp [Operation.fails, Point.nodes, Result.nodes, Point.target]

theorem measured_own {call : Call} {token : Token} {nodes : List Node}
    (own : ∀ node ∈ nodes, node.graph = database call.generation) :
    Call.Own database { call with point := call.operation.measured token nodes } := by
  obtain ⟨operation, generation, point⟩ := call
  constructor
  · cases operation <;> exact own
  · cases operation <;> exact nofun

theorem answers_own {call : Call} {nodes : List Node}
    (own : ∀ node ∈ nodes, node.graph = database call.generation) :
    Call.Own database { call with point := call.operation.answers nodes } := by
  obtain ⟨operation, generation, point⟩ := call
  constructor
  · cases operation <;> exact own
  · cases operation <;> exact nofun

/-- A call whose reads go to its own database carries nothing foreign. -/
theorem advances_own {world : World} {call following : Call} {written : Option Path}
    (advances : Advances database world call following written) (own : call.Own database)
    (reads : call.point.reads = true → ∀ path,
      targetDb database world.provider call.operation = some path →
      path = database call.generation) : following.Own database := by
  cases advances with
  | fails => exact fails_own call
  | answers nodes start answer read =>
      refine answers_own fun node member => ?_
      rw [read] at member
      exact reads (by rw [start]; rfl) _ (rows_graph member)
  | answersNothing token ids start => exact answers_own nofun
  | finds token ids answer nodes start read found =>
      refine ⟨fun node member => ?_, nofun⟩
      rw [read] at member
      exact reads (by rcases start with start | start <;> rw [start] <;> rfl) _ (rows_graph member)
  | measures token nodes start =>
      exact ⟨fun node member => own.nodes node (by rw [start]; exact member), nofun⟩
  | targets token nodes target start read =>
      refine ⟨fun node member => own.nodes node (by rw [start]; exact member), ?_⟩
      rintro path held
      obtain rfl : target = path := Option.some.inj held
      exact reads (by rw [start]; rfl) target read
  | skips token nodes target start =>
      refine measured_own fun node member => own.nodes node ?_
      rcases start with start | start | start <;> rw [start] <;> exact member
  | updates token nodes target start =>
      exact measured_own fun node member => own.nodes node (by rw [start]; exact member)
  | confirmed token nodes start valid =>
      exact ⟨fun node member => own.nodes node (by rw [start]; exact member), nofun⟩
  | stores remaining point start next =>
      rcases next with rfl | ⟨further, rfl⟩ | ⟨_, rfl⟩ | ⟨_, rfl⟩ | ⟨_, rfl⟩
      · exact fails_own call
      all_goals exact ⟨nofun, nofun⟩
  | records result start | returns result start =>
      exact ⟨fun node member => own.nodes node (by rw [start]; exact member), nofun⟩
  | validated token start valid =>
      constructor <;> cases call.operation <;> exact nofun
  | _ => exact ⟨nofun, nofun⟩

theorem advances_written {world : World} {call following : Call} {path : Path}
    (advances : Advances database world call following (some path)) :
    call.point.target = some path ∨
      (∃ remaining, call.point = .storing remaining) ∧
        path = strDbPath database world.provider := by
  cases advances with
  | updates token nodes target start => exact .inl (by rw [start]; rfl)
  | stores remaining point start next => exact .inr ⟨⟨remaining, start⟩, rfl⟩

theorem validates_live {provider : State} {generation : Generation} {token : Token}
    (fenced : Fenced database provider generation token)
    (valid : validates database provider token = true) : Lives provider generation := by
  simp only [validates, Bool.and_eq_true, decide_eq_true_eq] at valid
  exact fenced.live (Option.isSome_iff_ne_none.mp valid.1.1.2) valid.1.2

/-- A call that reads the field finds its own database or nothing. -/
theorem Stays.rows {provider : State} {generation : Generation} {operation : Operation}
    (stays : Stays provider generation) (database : Generation → Path) (answer : List String)
    (query : operation = .query) :
    rows (targetDb database provider operation) answer = [] ∨ Lives provider generation := by
  rcases stays with lives | gone
  · exact .inr lives
  · subst query
    simp [targetDb, Operation.argument, dbPath, gone, ProfileIsolation.rows]

theorem fails_timed {provider : State} (call : Call) :
    Call.Timed database provider { call with point := call.operation.fails } := by
  obtain ⟨operation, generation, point⟩ := call
  cases operation with
  | query | extract | prefetch => exact .inr (.inl rfl)
  | turn | think => exact .inl rfl

theorem answers_timed {provider : State} {call : Call} {nodes : List Node}
    (live : nodes = [] ∨ Lives provider call.generation) :
    Call.Timed database provider { call with point := call.operation.answers nodes } := by
  have vacant : (Result.context nodes).vacant = true ∨ Lives provider call.generation :=
    live.imp_left fun empty => by rw [empty]; rfl
  obtain ⟨operation, generation, point⟩ := call
  cases operation <;> exact .inr vacant

theorem measured_timed {provider : State} {call : Call} {token : Token} {nodes : List Node}
    (recalls : call.operation.recalls = true)
    (timed : if call.operation = .query then Lives provider call.generation
      else Fenced database provider call.generation token) :
    Call.Timed database provider { call with point := call.operation.measured token nodes } := by
  obtain ⟨operation, generation, point⟩ := call
  cases operation with
  | query => exact .inr (.inr timed)
  | prefetch => exact .inr timed
  | extract => cases recalls
  | turn | think => exact .inl rfl

theorem advances_timed {world : World} {call following : Call} {written : Option Path}
    (advances : Advances database world call following written)
    (shape : call.operation.passes call.point = true)
    (timed : call.Timed database world.provider) :
    following.Timed database world.provider := by
  have same := (advances_shape advances shape).2.2.1
  rcases timed with working | timed
  · exact .inl (same.trans working)
  · obtain ⟨operation, generation, point⟩ := call
    cases advances with
    | fails => exact fails_timed _
    | begins start | beginsExtract start | configures start | enters start =>
        cases start
        exact .inr timed
    | degrades start =>
        cases start
        have query : operation = .query := by simpa [Operation.passes] using shape
        exact .inr (by simpa [query] using timed)
    | requests start =>
        cases start
        refine .inr ⟨?_, fun held _ => timed.resolve_right held⟩
        rcases timed with lives | gone
        · exact .inr (by simp [dbPath, lives.2])
        · exact .inl (by simp [dbPath, gone])
    | validated token start valid =>
        cases start
        have lives := validates_live timed valid
        cases operation with
        | query => exact .inr (.inl lives)
        | extract | prefetch | turn | think => exact .inr timed
    | misses token start | retrieves token ids start query =>
        cases start
        exact .inr timed
    | prefetches token ids start other =>
        cases start
        exact .inr (by simpa [other] using timed)
    | checked token ids start =>
        cases start
        have other : operation ≠ .query := by
          simp only [Operation.passes, Bool.and_eq_true, decide_eq_true_eq] at shape
          exact shape.2
        exact .inr (by simpa [other] using timed)
    | answers nodes start answer read =>
        cases start
        refine answers_timed ?_
        by_cases query : operation = .query
        · simp only [query, if_true] at timed
          rw [read]
          exact timed.rows database answer query
        · simp only [query, if_false] at timed
          exact .inr timed
    | answersNothing token ids start => exact answers_timed (.inl rfl)
    | finds token ids answer nodes start read found =>
        refine .inr ?_
        by_cases query : operation = .query
        · have stays : Stays world.provider generation := by
            rcases start with start | start <;> cases start <;> simpa [query] using timed
          simp only [query, if_true]
          exact (stays.rows database answer query).resolve_left (read ▸ found query)
        · simp only [query, if_false]
          rcases start with start | start <;> cases start <;> simpa [query] using timed
    | measures token nodes start | targets token nodes target start read =>
        cases start
        exact .inr timed
    | skips token nodes target start =>
        rcases start with start | start | start <;> cases start <;>
          exact measured_timed shape timed
    | updates token nodes target start =>
        cases start
        exact measured_timed shape timed
    | confirmed token nodes start valid =>
        cases start
        exact .inr (.inr (validates_live timed valid))
    | reaffirmed token start valid =>
        cases start
        exact .inr (validates_live timed valid)
    | stores remaining point start next =>
        cases start
        rcases next with rfl | ⟨further, rfl⟩ | ⟨_, rfl⟩ | ⟨_, rfl⟩ | ⟨_, rfl⟩
        · exact fails_timed _
        · exact .inr timed
        · exact .inr (.inr timed)
        · exact .inr trivial
        · exact .inr trivial
    | rests start => exact .inr trivial
    | thinks start => exact .inl rfl
    | records result start =>
        cases start
        exact .inr timed
    | returns result start =>
        cases start
        refine .inr fun outlived => timed.resolve_right fun lives => ?_
        simp [lives.2] at outlived

/-! ## Whole runs -/

/-- `prefetch` and the worker keep to one database whatever the lifecycle does. -/
def Operation.keeps (operation : Operation) : Bool :=
  decide (operation ≠ .query) && decide (operation ≠ .extract)

/-- What holds in every run. -/
structure Sound (database : Generation → Path) (world : World) : Prop where
  formed : WellFormed world.provider
  located : Located world.provider
  warm : Warm world
  shape : ∀ call ∈ world.calls, call.operation.passes call.point = true
  snapshots : ∀ call ∈ world.calls, ∀ path, call.operation = .prefetch path →
    path = database call.generation ∧ call.Own database
  writes : ∀ write ∈ world.writes, write.operation.keeps = true →
    write.graph = database write.generation

theorem empty_sound : Sound database emptyWorld := by
  refine ⟨fresh_well_formed, fresh_located, ?_, nofun, nofun, nofun⟩
  rintro request (active | pending)
  · cases active
  · cases pending

theorem Sound.admitted {world : World} (sound : Sound database world)
    (admitted : admits world.provider = true) :
    Lives world.provider world.provider.healthGeneration := by
  simp only [admits, Bool.and_eq_true, Option.isNone_iff_eq_none] at admitted
  obtain ⟨⟨config, quiet⟩, _⟩ := admitted
  exact ⟨quiet, sound.located.current quiet (Option.isSome_iff_ne_none.mp config)
    sound.formed.ownership.shared⟩

theorem Lives.path {provider : State} {generation : Generation} {path : Path}
    (lives : Lives provider generation) (current : dbPath database provider = some path) :
    path = database generation := by
  rw [dbPath, lives.2] at current
  exact (Option.some.inj current).symm

theorem starts_shape {world : World} {call : Call} (starts : Starts database world call) :
    call.operation.passes call.point = true := by
  cases starts with
  | cold path point admitted current first => rcases first with rfl | rfl <;> rfl
  | _ => rfl

theorem starts_own {world : World} {call : Call} (sound : Sound database world)
    (starts : Starts database world call) :
    call.Own database ∧
      ∀ path, call.operation = .prefetch path → path = database call.generation := by
  cases starts with
  | cold path point admitted current first =>
      refine ⟨?_, ?_⟩
      · rcases first with rfl | rfl <;> exact ⟨nofun, nofun⟩
      · rintro other same
        obtain rfl := Operation.prefetch.inj same
        exact (sound.admitted admitted).path current
  | warm path request limit admitted current staged same =>
      have own := (sound.admitted admitted).path current
      refine ⟨⟨fun node member => ?_, nofun⟩, ?_⟩
      · rw [sound.warm request (.inr staged) node (List.mem_of_mem_take member), same]
        exact own
      · rintro other same
        obtain rfl := Operation.prefetch.inj same
        exact own
  | query admitted | extract admitted | turn generation => exact ⟨⟨nofun, nofun⟩, nofun⟩

theorem starts_timed {world : World} {call : Call} (sound : Sound database world)
    (starts : Starts database world call) : call.Timed database world.provider := by
  cases starts with
  | query admitted | extract admitted => exact .inr (.inl (sound.admitted admitted))
  | cold path point admitted current first =>
      rcases first with rfl | rfl
      · exact .inr (.inl (sound.admitted admitted))
      · exact .inr (sound.admitted admitted)
  | warm path request limit admitted current staged same =>
      exact .inr (.inr (sound.admitted admitted))
  | turn generation => exact .inl rfl

/-- The calls after a step, one by one. -/
theorem calls_of_set {world following : World} {index : Nat} {changed : Call}
    (calls : following.calls = world.calls.set index changed) {property : Call → Prop}
    (others : ∀ call ∈ world.calls, property call) (new : property changed) :
    ∀ call ∈ following.calls, property call := by
  rw [calls]
  intro call member
  rcases List.mem_or_eq_of_mem_set member with old | rfl
  · exact others call old
  · exact new

theorem calls_of_append {world following : World} {new : Call}
    (calls : following.calls = world.calls ++ [new]) {property : Call → Prop}
    (others : ∀ call ∈ world.calls, property call) (holds : property new) :
    ∀ call ∈ following.calls, property call := by
  rw [calls]
  intro call member
  rcases List.mem_append.mp member with old | same
  · exact others call old
  · exact List.mem_singleton.mp same ▸ holds

theorem writes_of_advance {world following : World} {call : Call} {written : Option Path}
    (writes : following.writes =
      written.toList.map (Write.mk call.operation call.generation) ++ world.writes)
    {property : Write → Prop} (others : ∀ write ∈ world.writes, property write)
    (new : ∀ path, written = some path →
      property ⟨call.operation, call.generation, path⟩) :
    ∀ write ∈ following.writes, property write := by
  rw [writes]
  intro write member
  rcases List.mem_append.mp member with fresh | old
  · obtain ⟨path, inside, rfl⟩ := List.mem_map.mp fresh
    exact new path (Option.mem_toList.mp inside)
  · exact others write old

theorem str_db_path {provider : State} {generation : Generation}
    (current : provider.dbPath = some generation) :
    strDbPath database provider = database generation := by
  simp [strDbPath, dbPath, current]

/-- A write goes to the own database if the call carries nothing foreign and finds its
generation where it stores. -/
theorem written_own {world : World} {call changed : Call} {path : Path}
    (advances : Advances database world call changed (some path)) (own : call.Own database)
    (current : (∃ remaining, call.point = .storing remaining) →
      world.provider.dbPath = some call.generation) : path = database call.generation := by
  rcases advances_written advances with target | ⟨storing, same⟩
  · exact own.target path target
  · exact same.trans (str_db_path (current storing))

theorem Sound.written {world : World} {call changed : Call} {path : Path}
    (sound : Sound database world) (member : call ∈ world.calls)
    (working : call.operation.working = true →
      world.provider.alive (.sync call.generation) = true)
    (advances : Advances database world call changed (some path))
    (keeps : call.operation.keeps = true) : path = database call.generation := by
  have shape := sound.shape call member
  cases operation : call.operation with
  | query | extract =>
      rw [operation] at keeps
      cases keeps
  | prefetch snapshot =>
      refine written_own advances (sound.snapshots call member snapshot operation).2 ?_
      rintro ⟨remaining, storing⟩
      rw [operation, storing] at shape
      cases shape
  | turn | think =>
      have current := sound.located.worker sound.formed.ownership sound.formed.threads
        (working (by rw [operation]; rfl))
      rcases advances_written advances with target | ⟨_, same⟩
      · cases point : call.point <;> rw [point] at target <;> try cases target
        rw [operation, point] at shape
        cases shape
      · exact same.trans (str_db_path current)

theorem moves_sound {world following : World} {action : Action} (sound : Sound database world)
    (moves : Moves database world action following) : Sound database following := by
  cases moves with
  | lifecycle lifecycle moves named calls writes warm =>
      refine ⟨moves_well_formed sound.formed moves,
        moves_located sound.formed.ownership.shared sound.located moves, warm sound.warm, ?_, ?_, ?_⟩
      · rw [calls]
        exact sound.shape
      · rw [calls]
        exact sound.snapshots
      · rw [writes]
        exact sound.writes
  | beside provider calls writes warm =>
      refine ⟨?_, ?_, warm sound.warm, ?_, ?_, ?_⟩
      · rw [provider]
        exact sound.formed
      · rw [provider]
        exact sound.located
      · rw [calls]
        exact sound.shape
      · rw [calls]
        exact sound.snapshots
      · rw [writes]
        exact sound.writes
  | starts call starts provider calls writes warm =>
      have ⟨own, path⟩ := starts_own sound starts
      refine ⟨?_, ?_, warm sound.warm, ?_, ?_, ?_⟩
      · rw [provider]
        exact sound.formed
      · rw [provider]
        exact sound.located
      · exact calls_of_append calls sound.shape (starts_shape starts)
      · exact calls_of_append calls sound.snapshots fun other same => ⟨path other same, own⟩
      · rw [writes]
        exact sound.writes
  | advances index call changed written member working advances provider calls writes warm =>
      have old := List.mem_of_getElem? member
      have ⟨shape, generation, _, prefetches⟩ := advances_shape advances (sound.shape call old)
      refine ⟨?_, ?_, warm sound.warm, ?_, ?_, ?_⟩
      · rw [provider]
        exact sound.formed
      · rw [provider]
        exact sound.located
      · exact calls_of_set calls sound.shape shape
      · refine calls_of_set calls sound.snapshots fun path same => ?_
        have before := prefetches path same
        have ⟨own, carried⟩ := sound.snapshots call old path before
        rw [generation]
        refine ⟨own, advances_own advances carried fun _ target read => ?_⟩
        rw [before] at read
        exact (Option.some.inj read).symm.trans own
      · refine writes_of_advance writes sound.writes ?_
        rintro path rfl keeps
        exact sound.written old working advances keeps

/-- What holds as long as no step exposes a call. -/
structure Timely (database : Generation → Path) (world : World) : Prop where
  timed : ∀ call ∈ world.calls, call.Timed database world.provider
  own : ∀ call ∈ world.calls, call.Own database
  writes : ∀ write ∈ world.writes, write.graph = database write.generation

theorem reads_recalls {operation : Operation} {point : Point}
    (shape : operation.passes point = true) (reads : point.reads = true) :
    operation.recalls = true := by
  cases point with
  | enriching | searching | targeting => exact shape
  | _ => cases reads

/-- A timed call reads its own database. -/
theorem Call.Timed.reads {provider : State} {call : Call}
    (timed : call.Timed database provider) (shape : call.operation.passes call.point = true)
    (snapshot : ∀ path, call.operation = .prefetch path → path = database call.generation)
    (reads : call.point.reads = true) (path : Path)
    (read : targetDb database provider call.operation = some path) :
    path = database call.generation := by
  obtain ⟨operation, generation, point⟩ := call
  cases operation with
  | prefetch other =>
      rw [← Option.some.inj read]
      exact snapshot other rfl
  | extract | turn | think => cases reads_recalls shape reads
  | query =>
      have stays : Stays provider generation := by
        rcases timed with working | timed
        · cases working
        · cases point with
          | searching token => cases token <;> simpa using timed
          | enriching | targeting => first | exact timed | exact .inl timed
          | _ => cases reads
      rcases stays with lives | gone
      · exact lives.path read
      · simp [targetDb, Operation.argument, dbPath, gone] at read

theorem Call.Timed.storing {provider : State} {call : Call}
    (timed : call.Timed database provider) (idle : call.operation.working = false)
    (storing : ∃ remaining, call.point = .storing remaining) :
    provider.dbPath = some call.generation := by
  obtain ⟨remaining, start⟩ := storing
  rcases timed with working | timed
  · rw [idle] at working
    cases working
  · rw [start] at timed
    exact timed.2

theorem Timely.written {world : World} {call changed : Call} {path : Path}
    (sound : Sound database world) (timely : Timely database world) (member : call ∈ world.calls)
    (working : call.operation.working = true →
      world.provider.alive (.sync call.generation) = true)
    (advances : Advances database world call changed (some path)) :
    path = database call.generation := by
  by_cases turn : call.operation.working = true
  · refine sound.written member working advances ?_
    cases operation : call.operation <;> rw [operation] at turn <;> first | rfl | cases turn
  · exact written_own advances (timely.own call member)
      ((timely.timed call member).storing (by simpa using turn))

theorem moves_timely {world following : World} {action : Action} (sound : Sound database world)
    (timely : Timely database world) (moves : Moves database world action following)
    (hidden : exposes database world action = false) : Timely database following := by
  cases moves with
  | lifecycle lifecycle moves named calls writes warm =>
      refine ⟨?_, ?_, ?_⟩
      · rw [calls]
        intro call member
        refine timed_lifecycle (timely.timed call member)
          (moves_db_path sound.located moves) ?_ ?_
        · intro cleared
          rw [named (.inl cleared)] at hidden
          simp only [exposes, cleared, Bool.true_and, Bool.or_eq_false_iff] at hidden
          simpa using List.any_eq_false.mp hidden.1 call member
        · intro resolved
          rw [named (.inr resolved)] at hidden
          simp only [exposes, resolved, Bool.true_and, Bool.or_eq_false_iff] at hidden
          simpa using List.any_eq_false.mp hidden.2 call member
      · rw [calls]
        exact timely.own
      · rw [writes]
        exact timely.writes
  | beside provider calls writes warm =>
      refine ⟨?_, ?_, ?_⟩
      · rw [calls, provider]
        exact timely.timed
      · rw [calls]
        exact timely.own
      · rw [writes]
        exact timely.writes
  | starts call starts provider calls writes warm =>
      refine ⟨?_, ?_, ?_⟩
      · rw [provider]
        exact calls_of_append calls timely.timed (starts_timed sound starts)
      · exact calls_of_append calls timely.own (starts_own sound starts).1
      · rw [writes]
        exact timely.writes
  | advances index call changed written member working advances provider calls writes warm =>
      have old := List.mem_of_getElem? member
      have shape := sound.shape call old
      have timed := timely.timed call old
      refine ⟨?_, ?_, ?_⟩
      · rw [provider]
        exact calls_of_set calls timely.timed (advances_timed advances shape timed)
      · refine calls_of_set calls timely.own (advances_own advances (timely.own call old) ?_)
        exact timed.reads shape fun path same => (sound.snapshots call old path same).1
      · refine writes_of_advance writes timely.writes ?_
        rintro path rfl
        exact timely.written sound old working advances

theorem reachable_sound {allowed : World → Action → Prop} {world : World}
    (reached : Reaches (step database) allowed emptyWorld world) : Sound database world :=
  reached.invariant (Sound database) empty_sound
    fun _ _ _ sound _ taken => moves_sound sound (step_moves taken)

theorem reachable_timely {world : World}
    (reached : Reaches (step database) (fun world action => exposes database world action = false)
      emptyWorld world) : Timely database world :=
  reached.invariant_with (Sound database) (Timely database)
    (fun _ prior => reachable_sound prior) ⟨nofun, nofun, nofun⟩
    fun _ _ _ sound timely hidden taken => moves_timely sound timely (step_moves taken) hidden

theorem Timely.isolated {world : World} (sound : Sound database world)
    (timely : Timely database world) : Isolated database world := by
  refine ⟨?_, ?_, timely.writes⟩
  · intro call member result outlived returned node inside
    refine (timely.own call member).nodes node ?_
    rw [returned]
    exact inside
  · intro call member result returned
    have shape := sound.shape call member
    rcases timely.timed call member with working | timed
    · rw [returned, Operation.passes, working] at shape
      cases shape
    · rw [returned] at timed
      exact timed rfl

/-- The first generation runs on one home, the later ones on another. -/
def profiles (generation : Generation) : Path :=
  if generation = 1 then "a/brain.db" else "b/brain.db"

/-- A whole `initialize` that resolves its identity. -/
def initialized : List Action :=
  .lifecycle .initializeProvider :: .assignWriteEnabled true ::
    (statements 4 ++ toIdentity ++ .identify true :: toReturn).map .lifecycle

/-- A whole `shutdown` of the first generation, with its close callback. -/
def shutDown : List Action :=
  (shutdownCleared 1 ++ List.replicate 5 (Lifecycle.Action.clean 0) ++ closeCallback 1).map
    .lifecycle

def outlivedSchedule : List Action :=
  initialized ++ .cashewQuery :: List.replicate 4 (.advance 0 false []) ++ shutDown ++
    initialized ++ List.replicate 3 (.advance 0 false [])

def overtakenSchedule : List Action :=
  initialized ++ .cashewQuery :: .cashewExtract :: shutDown ++ initialized ++
    List.replicate 12 (.advance 0 false ["node"]) ++ List.replicate 8 (.advance 1 false [])

end HermesCashew.ProfileIsolation
