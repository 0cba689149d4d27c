import HermesCashew.WarmCache

/-!
# What a staged result holds

The nodes of a staged result are those that were found for its cues, put together in
the order of the cues. Here `answers` is what was found for each cue of a request, which
its identity tells from every other request.
-/

namespace HermesCashew.PrefetchWorker

open HermesCashew.Lifecycle
open HermesCashew.Transition

set_option autoImplicit false

variable {Node : Type} {profiles : Generation → Profile} {text : Text} {nodeId : Node → String}
variable {world following : World Node} {answers : Identity → String → List Node}

/-- A stage that finds nodes finds those of `answers`. -/
def Answered (answers : Identity → String → List Node) (world : World Node)
    (action : Action Node) : Prop :=
  ∀ generation answer found request cues cue remaining nodes,
    action = .work generation answer (some found) →
    world.workers generation = .retrieving request cues cue remaining nodes →
    found = answers request.identity cue

def collected (nodeId : Node → String) (answers : Identity → String → List Node)
    (identity : Identity) (cues : List String) : List Node :=
  cues.foldl (fun nodes cue => gather nodeId nodes (answers identity cue)) []

def AllSolid (text : Text) (cues : List String) : Prop :=
  ∀ cue ∈ cues, nonBlank text cue = true

def SourcedPoint (text : Text) (nodeId : Node → String)
    (answers : Identity → String → List Node) : Point Node → Prop
  | .filtered _ cues => AllSolid text cues
  | .searching request cues remaining nodes =>
      AllSolid text cues ∧ ∃ done, cues = done ++ remaining ∧
        nodes = collected nodeId answers request.identity done
  | .retrieving request cues cue remaining nodes =>
      AllSolid text cues ∧ ∃ done, cues = done ++ cue :: remaining ∧
        nodes = collected nodeId answers request.identity done
  | .gathered request cues nodes =>
      AllSolid text cues ∧ nodes = collected nodeId answers request.identity cues
  | .staging request cues nodes =>
      AllSolid text cues ∧ nodes = collected nodeId answers request.identity cues
  | _ => True

def SourcedResult (nodeId : Node → String) (answers : Identity → String → List Node)
    (result : Result Node) : Prop :=
  result.nodes = collected nodeId answers result.identity result.cues

structure Sourced (text : Text) (nodeId : Node → String)
    (answers : Identity → String → List Node) (world : World Node) : Prop where
  points : ∀ generation, SourcedPoint text nodeId answers (world.workers generation)
  result : ∀ result, world.prefetchPending = some result → SourcedResult nodeId answers result

theorem empty_sourced : Sourced text nodeId answers (emptyWorld Node) :=
  ⟨fun _ => trivial, nofun⟩

/-- A step that moves no worker but to the head of its loop, and stages nothing. -/
theorem Sourced.same (sourced : Sourced text nodeId answers world)
    (points : ∀ generation, following.workers generation = world.workers generation ∨
      following.workers generation = .looping)
    (result : following.prefetchPending = world.prefetchPending ∨
      following.prefetchPending = none) : Sourced text nodeId answers following := by
  constructor
  · intro generation
    rcases points generation with same | looping
    · rw [same]
      exact sourced.points generation
    · rw [looping]
      trivial
  · intro staged pending
    rcases result with same | none
    · exact sourced.result staged (same ▸ pending)
    · rw [none] at pending
      cases pending

/-- A step that moves one worker. -/
theorem Sourced.moved (sourced : Sourced text nodeId answers world) {generation : Generation}
    {point : Point Node}
    (workers : following.workers = Function.update world.workers generation point)
    (holds : SourcedPoint text nodeId answers point)
    (result : ∀ result, following.prefetchPending = some result →
      SourcedResult nodeId answers result) : Sourced text nodeId answers following := by
  refine ⟨fun another => ?_, result⟩
  rw [workers]
  by_cases same : another = generation
  · rw [same, Function.update_self]
    exact holds
  · rw [Function.update_of_ne same]
    exact sourced.points another

theorem notify_points (generation : Generation) :
    world.notify.workers generation = world.workers generation ∨
      world.notify.workers generation = .looping := by
  unfold World.notify
  split
  · exact .inl rfl
  · rename_i head rest waiters
    by_cases same : generation = head
    · exact .inr (by simp [World.setWorker, same])
    · exact .inl (by simp [World.setWorker, same])

theorem notify_pending : world.notify.prefetchPending = world.prefetchPending := by
  unfold World.notify
  split <;> rfl

theorem notify_all_points (generation : Generation) :
    world.notifyAll.workers generation = world.workers generation ∨
      world.notifyAll.workers generation = .looping := by
  unfold World.notifyAll
  dsimp only
  split
  · exact .inr rfl
  · exact .inl rfl

theorem Sourced.notify (sourced : Sourced text nodeId answers world) :
    Sourced text nodeId answers world.notify :=
  sourced.same notify_points (.inl notify_pending)

theorem Sourced.notify_all (sourced : Sourced text nodeId answers world) :
    Sourced text nodeId answers world.notifyAll :=
  sourced.same notify_all_points (.inl rfl)

/-- A step of anything but a worker. -/
theorem others_sourced {action : Action Node} (sourced : Sourced text nodeId answers world)
    (moves : Moves profiles text nodeId world action following)
    (other : ∀ generation answer found, action ≠ .work generation answer found) :
    Sourced text nodeId answers following := by
  cases moves with
  | ignored => exact sourced
  | lifecycle _ _ _ _ _ _ _ _ _ _ dropped => exact sourced.same (fun _ => .inl rfl) dropped
  | resets | clears =>
      apply Sourced.notify_all
      exact sourced.same (fun _ => .inl rfl) (.inr rfl)
  | epoch => exact sourced.same (fun _ => .inl rfl) (.inl rfl)
  | drops => exact sourced.same (fun _ => .inl rfl) (.inr rfl)
  | wakes =>
      apply Sourced.notify
      exact sourced.same (fun _ => .inl rfl) (.inr rfl)
  | starts =>
      apply Sourced.notify
      exact sourced.moved rfl trivial nofun
  | fails => exact sourced.same (fun _ => .inl rfl) (.inr rfl)
  | misses => exact sourced.same (fun _ => .inl rfl) (.inr rfl)
  | hits => exact sourced.same (fun _ => .inl rfl) (.inr rfl)
  | exits => exact sourced.same (fun _ => .inl rfl) (.inl rfl)
  | takes | leaves | waits | proceeds | gathers | stages | finishes | finalizes =>
      exact absurd rfl (other _ _ _)

theorem extracted_sourced (request : Request) (extracted : List String) :
    SourcedPoint text nodeId answers
      (if extracted.filter (nonBlank text) = [] then .finishing
        else .filtered request (extracted.filter (nonBlank text))) := by
  split
  · trivial
  · exact fun cue member => (List.mem_filter.mp member).2

/-- A stage of a worker. -/
theorem work_sourced {generation : Generation} {answer : Option (List String)}
    {found : Option (List Node)} (sourced : Sourced text nodeId answers world)
    (answered : Answered answers world (.work generation answer found))
    (taken : work profiles text nodeId world generation answer found = some following) :
    Sourced text nodeId answers following := by
  have own := sourced.points generation
  unfold work at taken
  split at taken
  · cases taken
  · cases point : world.workers generation with
    | looping =>
        simp only [point] at taken
        split at taken
        · obtain rfl := Option.some.inj taken
          exact sourced.moved rfl trivial sourced.result
        · split at taken
          · obtain rfl := Option.some.inj taken
            exact sourced.moved rfl trivial sourced.result
          · obtain rfl := Option.some.inj taken
            exact sourced.moved rfl trivial sourced.result
    | waiting | finished =>
        simp only [point] at taken
        cases taken
    | starting request =>
        simp only [point] at taken
        obtain rfl := Option.some.inj taken
        refine sourced.moved rfl ?_ sourced.result
        split <;> trivial
    | extracting request =>
        simp only [point] at taken
        obtain rfl := Option.some.inj taken
        exact sourced.moved rfl (extracted_sourced request _) sourced.result
    | filtered request cues =>
        rw [point] at own
        simp only [point] at taken
        obtain rfl := Option.some.inj taken
        refine sourced.moved rfl ?_ sourced.result
        split
        · exact ⟨own, [], rfl, rfl⟩
        · trivial
    | searching request cues remaining nodes =>
        rw [point] at own
        obtain ⟨solid, done, parts, gathered⟩ := own
        cases remaining with
        | nil =>
            simp only [point] at taken
            obtain rfl := Option.some.inj taken
            rw [List.append_nil] at parts
            exact sourced.moved rfl ⟨solid, parts ▸ gathered⟩ sourced.result
        | cons cue remaining =>
            simp only [point] at taken
            obtain rfl := Option.some.inj taken
            refine sourced.moved rfl ?_ sourced.result
            split
            · exact ⟨solid, done, parts, gathered⟩
            · trivial
    | retrieving request cues cue remaining nodes =>
        rw [point] at own
        obtain ⟨solid, done, parts, gathered⟩ := own
        simp only [point] at taken
        cases found with
        | none =>
            obtain rfl := Option.some.inj taken
            exact sourced.moved rfl trivial sourced.result
        | some found =>
            obtain rfl := Option.some.inj taken
            have same := answered _ _ _ _ _ _ _ _ rfl point
            refine sourced.moved rfl ⟨solid, done ++ [cue], ?_, ?_⟩ sourced.result
            · rw [parts, List.append_assoc, List.singleton_append]
            · rw [collected, List.foldl_append, same, gathered]
              rfl
    | gathered request cues nodes =>
        rw [point] at own
        simp only [point] at taken
        obtain rfl := Option.some.inj taken
        refine sourced.moved rfl ?_ sourced.result
        split
        · exact own
        · trivial
    | staging request cues nodes =>
        rw [point] at own
        obtain ⟨solid, gathered⟩ := own
        have kept : cues.filter (nonBlank text) = cues := List.filter_eq_self.mpr solid
        simp only [point] at taken
        cases config : world.provider.config with
        | none =>
            simp only [stagePrefetchResult, config, Option.map_none] at taken
            obtain rfl := Option.some.inj taken
            exact sourced.moved rfl trivial sourced.result
        | some current =>
            simp only [stagePrefetchResult, config, Option.map_some] at taken
            obtain rfl := Option.some.inj taken
            split
            · exact sourced.moved rfl trivial sourced.result
            · refine sourced.moved rfl trivial ?_
              intro result pending
              obtain rfl := Option.some.inj pending
              rw [SourcedResult, kept, gathered]
    | failing request =>
        simp only [point] at taken
        obtain rfl := Option.some.inj taken
        exact sourced.moved rfl trivial sourced.result
    | finishing =>
        simp only [point] at taken
        obtain rfl := Option.some.inj taken
        apply Sourced.notify_all
        exact sourced.moved rfl trivial sourced.result
    | leaving =>
        simp only [point] at taken
        obtain rfl := Option.some.inj taken
        apply Sourced.notify_all
        exact sourced.moved rfl trivial sourced.result

theorem step_sourced {action : Action Node} (sourced : Sourced text nodeId answers world)
    (answered : Answered answers world action)
    (taken : step profiles text nodeId world action = some following) :
    Sourced text nodeId answers following := by
  cases action with
  | work generation answer found => exact work_sourced sourced answered taken
  | _ => exact others_sourced sourced (step_moves taken) nofun

theorem reachable_sourced
    (reached : Reaches (step profiles text nodeId) (Answered answers) (emptyWorld Node) world) :
    Sourced text nodeId answers world :=
  reached.invariant (Sourced text nodeId answers) empty_sourced
    fun _ _ _ sourced answered taken => step_sourced sourced answered taken

/-- A warm hit is cut from what was found for the cues of the staged result. -/
theorem hit_collected
    (reached : Reaches (step profiles text nodeId) (Answered answers) (emptyWorld Node) world)
    {call : PrefetchCall} {nodes : List Node}
    (hit : (prefetch profiles text world call).2 = some nodes) :
    ∃ config result, world.provider.config = some config ∧ world.prefetchPending = some result ∧
      result.identity = callIdentity profiles world config call ∧
      nodes =
        (collected nodeId answers result.identity result.cues).take (profiles config).recallK := by
  have traced := (reachable_coherent reached.weaken).traced
  have sourced := reachable_sourced reached
  unfold prefetch at hit
  split at hit
  · cases hit
  · rename_i config known
    split at hit
    · cases hit
    · dsimp only at hit
      split at hit
      · cases hit
      · rename_i result found
        obtain rfl := Option.some.inj hit
        obtain ⟨pending, same⟩ := traced.hit found
        have gathered : result.nodes = collected nodeId answers result.identity result.cues :=
          sourced.result result pending
        exact ⟨config, result, known, pending, same, by rw [gathered]; rfl⟩

end HermesCashew.PrefetchWorker
