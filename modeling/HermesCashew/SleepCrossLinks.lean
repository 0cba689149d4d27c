import HermesCashew.SleepCycle

/-!
# Cross-links

The batches in which a sleep cycle links the similar nodes of its page both ways. Each pair
has a savepoint, a batch has a transaction, and the pairs of a batch are counted once its
transaction is known to have committed, whatever its commit reported. What is counted is
what became durable, and no pair is left linked one way that was not so before.
-/

namespace HermesCashew.SleepCrossLinks

open HermesCashew.JsonText (Str str)
open HermesCashew.KeyedTable HermesCashew.ThoughtGraph
open HermesCashew.SleepCycle (Link)

set_option autoImplicit false

variable {Id Weight : Type}

/-! ## State -/

abbrev Edges (Id Weight : Type) := Table (Id × Id) (Edge Id Weight) Edge.ends

structure Stats (Id Weight : Type) where
  candidates : Nat
  created : Nat := 0
  repaired : Nat := 0
  skipped : Nat := 0
  failed : Nat := 0
  directedRows : Nat := 0
  sameSourceSkipped : Nat := 0
  capped : Bool := false
  dreamPairs : List (Link Id Weight) := []

/-- The entries of `progress` that `publish_progress` writes. -/
structure Progress where
  created : Nat := 0
  repaired : Nat := 0
  skipped : Nat := 0
  directedRows : Nat := 0
  sameSourceSkipped : Nat := 0
  capped : Bool := false
  outcomeUncertain : Bool := false
  deriving DecidableEq

structure Pending (Id Weight : Type) where
  created : Nat := 0
  repaired : Nat := 0
  directedRows : Nat := 0
  dreamPairs : List (Link Id Weight) := []
  pairs : List ((Id × Id) × Bool) := []

structure Linking (Id Weight : Type) where
  /-- What other connections see. -/
  durable : Edges Id Weight
  /-- What the open transaction sees. -/
  working : Option (Edges Id Weight) := none
  dirty : Bool := false
  pending : Pending Id Weight := {}
  stats : Stats Id Weight
  progress : Progress := {}

inductive Engine (Id : Type) where
  /-- One of them raises. -/
  | raises
  /-- One of them raises, and SQLite ends the whole transaction. -/
  | aborts
  /-- They run, and a trigger may ignore rows. -/
  | runs (ignored : Id × Id → Bool)

structure Attempt (Id Weight : Type) where
  /-- What other connections commit before the pair is read. -/
  earlier : Edges Id Weight → Edges Id Weight
  /-- What they commit from then on, before the statements for it. -/
  others : Edges Id Weight → Edges Id Weight
  engine : Engine Id

/-- A commit, which may raise and still have landed. -/
structure Commit (Id Weight : Type) where
  raises : Bool
  landed : Bool
  /-- What other connections commit before it is verified. -/
  others : Edges Id Weight → Edges Id Weight
  /-- Whether it can be verified. -/
  readable : Bool

/-- The arguments of a call, and what the database does in it. -/
structure Settings (Id Weight : Type) where
  sourceFiles : Option (Id → Str)
  maxEdges : Option Nat
  edgesPerBatch : Nat
  /-- `f"{weight:.3f}"`. -/
  fixed : Weight → Str
  attempts : Nat → Attempt Id Weight
  commits : Nat → Commit Id Weight
  lastCommit : Commit Id Weight

/-! ## The batches -/

def publishProgress (uncertain : Bool) (linking : Linking Id Weight) : Linking Id Weight :=
  { linking with
    progress :=
      { created := linking.stats.created
        repaired := linking.stats.repaired
        skipped := linking.stats.skipped
        directedRows := linking.stats.directedRows
        sameSourceSkipped := linking.stats.sameSourceSkipped
        capped := linking.stats.capped
        outcomeUncertain := uncertain || linking.progress.outcomeUncertain } }

def applyPending (linking : Linking Id Weight) : Linking Id Weight :=
  publishProgress false
    { linking with
      dirty := false
      pending := {}
      stats :=
        { linking.stats with
          created := linking.stats.created + linking.pending.created
          repaired := linking.stats.repaired + linking.pending.repaired
          directedRows := linking.stats.directedRows + linking.pending.directedRows
          dreamPairs := linking.stats.dreamPairs ++ linking.pending.dreamPairs } }

def countFailed (linking : Linking Id Weight) : Linking Id Weight :=
  { linking with stats := { linking.stats with failed := linking.stats.failed + 1 } }

def bothWays (ends : Id × Id) : List (Id × Id) :=
  [ends, ends.swap]

def Edges.keys (edges : Edges Id Weight) : List (Id × Id) :=
  edges.rows.map Edge.ends

section

variable [DecidableEq Id]

/-- The directed rows between two ids. -/
def present (edges : Edges Id Weight) (ends : Id × Id) : List (Id × Id) :=
  edges.keys.filter fun key => decide (key ∈ bothWays ends)

def missingOf (edges : Edges Id Weight) (ends : Id × Id) : List (Id × Id) :=
  (bothWays ends).filter fun key => decide (key ∉ edges.keys)

def crossEdge (fixed : Weight → Str) (weight : Weight) (ends : Id × Id) : Edge Id Weight where
  parentId := ends.1
  childId := ends.2
  weight := some weight
  reasoning := some (str "cross_link - similarity=" ++ fixed weight)

/-- The edges that the statements for a pair leave, unless one of them raises. -/
def insertPair (fixed : Weight → Str) (engine : Engine Id) (link : Link Id Weight)
    (missing : List (Id × Id)) (edges : Edges Id Weight) : Option (Edges Id Weight) :=
  match engine with
  | .runs ignored =>
      let final := (missing.filter fun ends => !ignored ends).foldl
        (fun edges ends => edges.insertOrIgnore (crossEdge fixed link.sim ends)) edges
      if (present final (link.one, link.other)).length = 2 then some final else none
  | _ => none

def Engine.ends : Engine Id → Bool
  | .aborts => true
  | _ => false

def sameSource (sourceFiles : Option (Id → Str)) (link : Link Id Weight) : Bool :=
  match sourceFiles with
  | none => false
  | some source =>
      decide (source link.one ≠ [] ∧ source link.other ≠ [] ∧ source link.one = source link.other)

/-- The edges that the connection reads. -/
def Linking.current (linking : Linking Id Weight) : Edges Id Weight :=
  linking.working.getD linking.durable

/-- What is durable after a commit that raised and was rolled back. -/
def Commit.settle (commit : Commit Id Weight) (linking : Linking Id Weight) : Edges Id Weight :=
  commit.others (if commit.landed then linking.current else linking.durable)

def finalCounts (edges : Edges Id Weight) (pending : Pending Id Weight) : List Nat :=
  pending.pairs.map fun pair => (present edges pair.1).length

def originalCounts (pending : Pending Id Weight) : List Nat :=
  pending.pairs.map fun pair => if pair.2 then 1 else 0

/-- `commit_pending`, which raises, or tells whether the batch went through undisturbed. -/
def commitPending (commit : Commit Id Weight) (linking : Linking Id Weight) :
    Option Bool × Linking Id Weight :=
  if !linking.dirty then (some true, linking)
  else if !commit.raises then
    (some true, applyPending { linking with durable := linking.current, working := none })
  else
    let rolledBack := { linking with durable := commit.settle linking, working := none }
    let counts := finalCounts rolledBack.durable linking.pending
    if !commit.readable then (none, publishProgress true rolledBack)
    else if counts = List.replicate linking.pending.pairs.length 2 then
      (some false, countFailed (applyPending rolledBack))
    else if counts ≠ originalCounts linking.pending then (none, publishProgress true rolledBack)
    else
      (some false,
        countFailed (publishProgress false { rolledBack with dirty := false, pending := {} }))

inductive Flow where
  | next
  | leave
  | raised
  deriving DecidableEq, Repr

def flowOf : Option Bool → Flow
  | some true => .next
  | some false => .leave
  | none => .raised

/-- Outside a transaction, what other connections have committed is seen. -/
def seeOthers (others : Edges Id Weight → Edges Id Weight) (linking : Linking Id Weight) :
    Linking Id Weight :=
  match linking.working with
  | none => { linking with durable := others linking.durable }
  | some _ => linking

/-- The savepoint is rolled back, and with the first pair of a batch its transaction. -/
def dropPair (engine : Engine Id) (linking : Linking Id Weight) : Linking Id Weight :=
  countFailed
    { linking with working := if linking.dirty && !engine.ends then linking.working else none }

/-- The savepoint is released: outside a transaction that commits it. -/
def holdPair (link : Link Id Weight) (rows : Nat) (repaired : Bool) (final : Edges Id Weight)
    (linking : Linking Id Weight) : Linking Id Weight :=
  let outside := linking.dirty && linking.working.isNone
  { linking with
    durable := if outside then final else linking.durable
    working := if outside then none else some final
    dirty := true
    pending :=
      { created := linking.pending.created + if repaired then 0 else 1
        repaired := linking.pending.repaired + if repaired then 1 else 0
        directedRows := linking.pending.directedRows + rows
        dreamPairs := linking.pending.dreamPairs ++ [link]
        pairs := linking.pending.pairs ++ [((link.one, link.other), repaired)] } }

def budget (linking : Linking Id Weight) : Nat :=
  linking.stats.created + linking.stats.repaired +
    linking.pending.created + linking.pending.repaired

def linkPair (settings : Settings Id Weight) (number : Nat) (link : Link Id Weight)
    (linking : Linking Id Weight) : Flow × Linking Id Weight :=
  if settings.maxEdges.any fun most => decide (most ≤ budget linking) then
    (.leave, publishProgress false
      { linking with stats := { linking.stats with capped := true } })
  else if sameSource settings.sourceFiles link then
    (.next, { linking with
      stats := { linking.stats with sameSourceSkipped := linking.stats.sameSourceSkipped + 1 } })
  else
    let found := present linking.current (link.one, link.other)
    if found.length = 2 then
      (.next, { linking with stats := { linking.stats with skipped := linking.stats.skipped + 1 } })
    else
      let missing := missingOf linking.current (link.one, link.other)
      let attempt := settings.attempts number
      let begun := seeOthers attempt.others linking
      match insertPair settings.fixed attempt.engine link missing begun.current with
      | none => (.next, dropPair attempt.engine begun)
      | some final =>
          let held := holdPair link missing.length (decide (found.length = 1)) final begun
          if settings.edgesPerBatch ≤ held.pending.dreamPairs.length then
            (flowOf (commitPending (settings.commits number) held).1,
              (commitPending (settings.commits number) held).2)
          else (.next, held)

/-- The candidates from this number on, and whether the loop raised. -/
def linkPairs (settings : Settings Id Weight) :
    Nat → List (Link Id Weight) → Linking Id Weight → Bool × Linking Id Weight
  | _, [], linking => (false, linking)
  | number, link :: rest, linking =>
      match linkPair settings number link
          (seeOthers (settings.attempts number).earlier linking) with
      | (.next, linking) => linkPairs settings (number + 1) rest linking
      | (.leave, linking) => (false, linking)
      | (.raised, linking) => (true, linking)

def start (edges : Edges Id Weight) (candidates : Nat) : Linking Id Weight where
  durable := edges
  stats := { candidates := candidates }

/-- `_batch_cross_links`, on the candidates by their ids. -/
def batchCrossLinks (settings : Settings Id Weight) (links : List (Link Id Weight))
    (edges : Edges Id Weight) : Option (Stats Id Weight) × Linking Id Weight :=
  match linkPairs settings 0 links (start edges links.length) with
  | (true, linking) => (none, linking)
  | (false, linking) =>
      match commitPending settings.lastCommit linking with
      | (none, linking) => (none, linking)
      | (some _, linking) => (some linking.stats, publishProgress false linking)

end

/-! ## The rows between two ids -/

section

variable [DecidableEq Id] {edges final : Edges Id Weight} {ends : Id × Id}

omit [DecidableEq Id] in
theorem mem_both_ways {key : Id × Id} : key ∈ bothWays ends ↔ key = ends ∨ key = ends.swap := by
  rw [bothWays, List.mem_pair]

omit [DecidableEq Id] in
theorem swap_mem_both_ways {key : Id × Id} :
    key.swap ∈ bothWays ends ↔ key ∈ bothWays ends := by
  rw [mem_both_ways, mem_both_ways, Prod.swap_eq_iff_eq_swap, Prod.swap_inj, or_comm]

omit [DecidableEq Id] in
theorem both_ways_mono {key others : Id × Id} (way : key ∈ bothWays ends)
    (near : key ∈ bothWays others) : ∀ other ∈ bothWays ends, other ∈ bothWays others := by
  intro other there
  have back := swap_mem_both_ways.mpr near
  rcases mem_both_ways.mp way with rfl | rfl
  · rcases mem_both_ways.mp there with rfl | rfl
    · exact near
    · exact back
  · rw [Prod.swap_swap] at back
    rcases mem_both_ways.mp there with rfl | rfl
    · exact back
    · exact near

/-- Of two different ids there are as many rows as directions. -/
theorem present_length (apart : ends.1 ≠ ends.2) :
    (present edges ends).length =
      (if ends ∈ edges.keys then 1 else 0) + (if ends.swap ∈ edges.keys then 1 else 0) := by
  have differ : ends ≠ ends.swap := fun same => apart (congrArg Prod.fst same)
  have counted : ∀ keys : List (Id × Id),
      (keys.filter fun key => decide (key ∈ bothWays ends)).length =
        keys.count ends + keys.count ends.swap := by
    intro keys
    simp only [mem_both_ways, ← List.countP_eq_length_filter]
    induction keys with
    | nil => rfl
    | cons key rest induction =>
        rw [List.countP_cons, List.count_cons, List.count_cons, induction]
        by_cases forth : key = ends
        · simp [forth, differ]
          omega
        · by_cases back : key = ends.swap
          · simp [back, differ.symm]
            omega
          · simp [forth, back]
  have distinct : edges.keys.Nodup := edges.distinct
  rw [present, counted, distinct.count, distinct.count]

theorem present_self (id : Id) : (present edges (id, id)).length ≤ 1 := by
  have only : ∀ key, decide (key ∈ bothWays (id, id)) = (key == (id, id)) := by
    intro key
    rw [Bool.eq_iff_iff, decide_eq_true_eq, beq_iff_eq, mem_both_ways]
    exact or_self_iff
  rw [present, funext only, ← List.countP_eq_length_filter]
  exact List.nodup_iff_count_le_one.mp edges.distinct (id, id)

def Both (edges : Edges Id Weight) (ends : Id × Id) : Prop :=
  ends.1 ≠ ends.2 ∧ ∀ key ∈ bothWays ends, key ∈ edges.keys

theorem present_both : (present edges ends).length = 2 ↔ Both edges ends := by
  by_cases apart : ends.1 = ends.2
  · have self : ends = (ends.1, ends.1) := by
      rw [Prod.ext_iff]
      exact ⟨rfl, apart.symm⟩
    have few := @present_self Id Weight _ edges ends.1
    rw [← self] at few
    constructor
    · intro two
      omega
    · exact fun both => absurd apart both.1
  · rw [present_length apart]
    constructor
    · intro two
      refine ⟨apart, ?_⟩
      intro key one
      rcases mem_both_ways.mp one with rfl | rfl
      · by_contra missing
        rw [if_neg missing] at two
        split at two <;> omega
      · by_contra missing
        rw [if_neg missing] at two
        split at two <;> omega
    · intro both
      rw [if_pos (both.2 _ (mem_both_ways.mpr (.inl rfl))),
        if_pos (both.2 _ (mem_both_ways.mpr (.inr rfl)))]

theorem mem_missing {key : Id × Id} :
    key ∈ missingOf edges ends ↔ key ∈ bothWays ends ∧ key ∉ edges.keys := by
  rw [missingOf, List.mem_filter, decide_eq_true_eq]

theorem missing_nodup (apart : ends.1 ≠ ends.2) : (missingOf edges ends).Nodup := by
  apply List.Nodup.filter
  rw [bothWays, List.nodup_cons, List.mem_singleton]
  exact ⟨fun same => apart (congrArg Prod.fst same), List.nodup_singleton _⟩

/-- What is there and what is missing make two. -/
theorem missing_length (apart : ends.1 ≠ ends.2) :
    (missingOf edges ends).length + (present edges ends).length = 2 := by
  rw [present_length apart, missingOf, bothWays, List.filter_cons, List.filter_singleton]
  by_cases forth : ends ∈ edges.keys
  · by_cases back : ends.swap ∈ edges.keys <;> simp [forth, back]
  · by_cases back : ends.swap ∈ edges.keys <;> simp [forth, back]

/-! ## The rows of a pair -/

variable {fixed : Weight → Str} {weight : Weight}

def insertAll (fixed : Weight → Str) (weight : Weight) (edges : Edges Id Weight)
    (missing : List (Id × Id)) : Edges Id Weight :=
  missing.foldl (fun edges ends => edges.insertOrIgnore (crossEdge fixed weight ends)) edges

omit [DecidableEq Id] in
theorem cross_edge_ends (ends : Id × Id) : (crossEdge fixed weight ends).ends = ends := rfl

theorem mem_keys_insert {row : Edge Id Weight} {key : Id × Id} :
    key ∈ Edges.keys (edges.insertOrIgnore row) ↔ row.ends = key ∨ key ∈ edges.keys := by
  have same := @Table.has_insert_or_ignore _ _ Edge.ends _ edges row key
  rw [Table.has_iff, Table.has_iff] at same
  exact same

theorem mem_keys_insert_all {missing : List (Id × Id)} {key : Id × Id} :
    key ∈ (insertAll fixed weight edges missing).keys ↔ key ∈ missing ∨ key ∈ edges.keys := by
  induction missing generalizing edges with
  | nil => simp [insertAll]
  | cons first rest induction =>
      rw [insertAll, List.foldl_cons, ← insertAll, induction, mem_keys_insert, cross_edge_ends,
        List.mem_cons, @eq_comm _ key first]
      tauto

theorem rows_insert_all {missing : List (Id × Id)} (distinct : missing.Nodup)
    (new : ∀ key ∈ missing, key ∉ edges.keys) :
    (insertAll fixed weight edges missing).rows =
      edges.rows ++ missing.map (crossEdge fixed weight) := by
  induction missing generalizing edges with
  | nil => simp [insertAll]
  | cons first rest induction =>
      have fresh : (crossEdge fixed weight first).ends ∉ edges.rows.map Edge.ends :=
        new first List.mem_cons_self
      rw [insertAll, List.foldl_cons, ← insertAll, induction (List.nodup_cons.mp distinct).2]
      · rw [Table.insertOrIgnore, dif_neg fresh, List.map_cons, List.append_assoc]
        rfl
      · intro key listed there
        rcases mem_keys_insert.mp there with same | old
        · rw [cross_edge_ends] at same
          exact (List.nodup_cons.mp distinct).1 (same ▸ listed)
        · exact new key (List.mem_cons_of_mem _ listed) old

/-- A pair is inserted whole, into what there was. -/
theorem inserted {engine : Engine Id} {link : Link Id Weight} {missing : List (Id × Id)}
    (done : insertPair fixed engine link missing edges = some final) :
    Both final (link.one, link.other) ∧
      ∃ kept, (∀ key ∈ kept, key ∈ missing) ∧ final = insertAll fixed link.sim edges kept := by
  unfold insertPair at done
  split at done
  · dsimp only at done
    split at done
    · rename_i two
      obtain rfl := Option.some.inj done
      exact ⟨present_both.mp two, _, fun key listed => (List.mem_filter.mp listed).1, rfl⟩
    · cases done
  · cases done

/-- With nobody else writing, exactly the missing rows are inserted. -/
theorem inserted_alone {engine : Engine Id} {link : Link Id Weight}
    (done : insertPair fixed engine link (missingOf edges (link.one, link.other)) edges =
      some final) :
    Both final (link.one, link.other) ∧
      final.rows = edges.rows ++
        (missingOf edges (link.one, link.other)).map (crossEdge fixed link.sim) := by
  unfold insertPair at done
  split at done
  · rename_i ignored
    dsimp only at done
    split at done
    · rename_i two
      obtain rfl := Option.some.inj done
      have both := present_both.mp two
      have all : ((missingOf edges (link.one, link.other)).filter fun ends => !ignored ends) =
          missingOf edges (link.one, link.other) := by
        rw [List.filter_eq_self]
        intro key listed
        obtain ⟨way, new⟩ := mem_missing.mp listed
        have there : key ∈ (insertAll fixed link.sim edges _).keys := both.2 key way
        rcases mem_keys_insert_all.mp there with kept | old
        · exact (List.mem_filter.mp kept).2
        · exact absurd old new
      refine ⟨both, ?_⟩
      rw [all]
      exact rows_insert_all (missing_nodup both.1) fun key listed => (mem_missing.mp listed).2
    · cases done
  · cases done

omit [DecidableEq Id] in
theorem Both.mono (both : Both edges ends) (grows : ∀ key ∈ edges.keys, key ∈ final.keys) :
    Both final ends :=
  ⟨both.1, fun key way => grows key (both.2 key way)⟩

end

/-! ## While others write -/

def endsOf (link : Link Id Weight) : Id × Id :=
  (link.one, link.other)

def Grows (change : Edges Id Weight → Edges Id Weight) : Prop :=
  ∀ edges, ∀ key ∈ edges.keys, key ∈ (change edges).keys

/-- Other connections only add edges, and SQLite does not end a transaction by itself. -/
structure Tame (settings : Settings Id Weight) : Prop where
  calm : ∀ number, (settings.attempts number).engine.ends = false
  earlier : ∀ number, Grows (settings.attempts number).earlier
  attempts : ∀ number, Grows (settings.attempts number).others
  commits : ∀ number, Grows (settings.commits number).others
  lastCommit : Grows settings.lastCommit.others

section

variable [DecidableEq Id]

/-- The pairs that are counted are linked both ways, durably. -/
structure Reported (linking : Linking Id Weight) : Prop where
  both : ∀ link ∈ linking.stats.dreamPairs, Both linking.durable (endsOf link)
  counted : linking.stats.created + linking.stats.repaired = linking.stats.dreamPairs.length

structure Batched (linking : Linking Id Weight) : Prop extends Reported linking where
  pending : ∀ link ∈ linking.pending.dreamPairs, Both linking.current (endsOf link)
  keeps : ∀ key ∈ linking.durable.keys, key ∈ linking.current.keys
  named : linking.pending.pairs.map Prod.fst = linking.pending.dreamPairs.map endsOf
  sized : linking.pending.created + linking.pending.repaired =
    linking.pending.dreamPairs.length
  begun : linking.working.isSome = linking.dirty
  empty : linking.dirty = false → linking.pending.dreamPairs = []

variable {linking : Linking Id Weight} {commit : Commit Id Weight}

omit [DecidableEq Id] in
theorem Reported.published (reported : Reported linking) (uncertain : Bool) :
    Reported (publishProgress uncertain linking) :=
  ⟨reported.both, reported.counted⟩

omit [DecidableEq Id] in
theorem Batched.published (batched : Batched linking) (uncertain : Bool) :
    Batched (publishProgress uncertain linking) :=
  ⟨batched.toReported.published uncertain, batched.pending, batched.keeps, batched.named,
    batched.sized, batched.begun, batched.empty⟩

omit [DecidableEq Id] in
/-- Counters of other things change. -/
theorem Batched.recounted (batched : Batched linking) {stats : Stats Id Weight}
    (created : stats.created = linking.stats.created)
    (repaired : stats.repaired = linking.stats.repaired)
    (dreams : stats.dreamPairs = linking.stats.dreamPairs) :
    Batched { linking with stats := stats } := by
  refine ⟨⟨?_, ?_⟩, batched.pending, batched.keeps, batched.named, batched.sized,
    batched.begun, batched.empty⟩
  · rw [dreams]
    exact batched.both
  · rw [created, repaired, dreams]
    exact batched.counted

omit [DecidableEq Id] in
theorem Batched.failed (batched : Batched linking) : Batched (countFailed linking) :=
  batched.recounted rfl rfl rfl

omit [DecidableEq Id] in
/-- A batch is counted when its pairs are durable. -/
theorem Batched.applied (batched : Batched linking) (edges : Edges Id Weight)
    (kept : ∀ link ∈ linking.stats.dreamPairs, Both edges (endsOf link))
    (durable : ∀ link ∈ linking.pending.dreamPairs, Both edges (endsOf link)) :
    Batched (applyPending { linking with durable := edges, working := none }) := by
  refine ⟨⟨?_, ?_⟩, ?_, ?_, rfl, rfl, rfl, ?_⟩
  · intro link listed
    rcases List.mem_append.mp listed with old | new
    · exact kept link old
    · exact durable link new
  · have sized := batched.sized
    have counted := batched.counted
    simp only [applyPending, publishProgress, List.length_append]
    omega
  · intro link listed
    cases listed
  · exact fun key there => there
  · exact fun _ => rfl

omit [DecidableEq Id] in
/-- A batch that is given up. -/
theorem Batched.abandoned (batched : Batched linking) (edges : Edges Id Weight)
    (kept : ∀ link ∈ linking.stats.dreamPairs, Both edges (endsOf link)) :
    Batched { linking with durable := edges, working := none, dirty := false, pending := {} } :=
  ⟨⟨kept, batched.counted⟩, fun _ listed => (by cases listed), fun _ there => there, rfl, rfl,
    rfl, fun _ => rfl⟩

/-- What a commit comes to. -/
theorem commit_cases (commit : Commit Id Weight) (linking : Linking Id Weight) :
    (linking.dirty = false ∧ commitPending commit linking = (some true, linking)) ∨
    (linking.dirty = true ∧ commitPending commit linking =
      (some true, applyPending { linking with durable := linking.current, working := none })) ∨
    (linking.dirty = true ∧ commitPending commit linking =
      (none, publishProgress true
        { linking with durable := commit.settle linking, working := none })  ∧
      (commit.readable = true → finalCounts (commit.settle linking) linking.pending ≠
          List.replicate linking.pending.pairs.length 2 ∧
        finalCounts (commit.settle linking) linking.pending ≠ originalCounts linking.pending)) ∨
    (linking.dirty = true ∧
      finalCounts (commit.settle linking) linking.pending =
        List.replicate linking.pending.pairs.length 2 ∧
      commitPending commit linking = (some false, countFailed (applyPending
        { linking with durable := commit.settle linking, working := none }))) ∨
    (linking.dirty = true ∧
      finalCounts (commit.settle linking) linking.pending = originalCounts linking.pending ∧
      commitPending commit linking = (some false, countFailed (publishProgress false
        { linking with
          durable := commit.settle linking
          working := none
          dirty := false
          pending := {} }))) := by
  unfold commitPending
  cases linking.dirty with
  | false => exact .inl ⟨rfl, rfl⟩
  | true =>
      right
      dsimp only [Bool.not_true]
      rw [if_neg (by decide)]
      split
      · exact .inl ⟨rfl, rfl⟩
      · right
        split
        · rename_i unreadable
          refine .inl ⟨rfl, rfl, ?_⟩
          intro readable
          rw [readable] at unreadable
          cases unreadable
        · split
          · rename_i all
            exact .inr (.inl ⟨rfl, all, rfl⟩)
          · rename_i some_missing
            split
            · rename_i other
              exact .inl ⟨rfl, rfl, fun _ => ⟨some_missing, other⟩⟩
            · rename_i original
              exact .inr (.inr ⟨rfl, not_not.mp original, rfl⟩)

/-- A commit leaves the counted pairs durable, whatever it reports. -/
theorem commit_batched (grows : Grows commit.others) (batched : Batched linking) :
    Reported (commitPending commit linking).2 ∧
      ∀ went, (commitPending commit linking).1 = some went →
        Batched (commitPending commit linking).2 := by
  have landed : ∀ link ∈ linking.stats.dreamPairs, Both linking.current (endsOf link) :=
    fun link listed => (batched.both link listed).mono batched.keeps
  have settled : ∀ link ∈ linking.stats.dreamPairs,
      Both (commit.settle linking) (endsOf link) := by
    intro link listed
    rw [Commit.settle]
    split
    · exact (landed link listed).mono (grows _)
    · exact (batched.both link listed).mono (grows _)
  rcases commit_cases commit linking with
    ⟨-, done⟩ | ⟨-, done⟩ | ⟨-, done, -⟩ | ⟨-, all, done⟩ | ⟨-, -, done⟩
  · rw [done]
    exact ⟨batched.toReported, fun _ _ => batched⟩
  · rw [done]
    have applied := batched.applied linking.current landed batched.pending
    exact ⟨applied.toReported, fun _ _ => applied⟩
  · rw [done]
    exact ⟨⟨settled, batched.counted⟩, fun _ raised => by cases raised⟩
  · rw [done]
    have linked : ∀ link ∈ linking.pending.dreamPairs,
        Both (commit.settle linking) (endsOf link) := by
      intro link listed
      have pair : endsOf link ∈ linking.pending.pairs.map Prod.fst := by
        rw [batched.named]
        exact List.mem_map_of_mem listed
      obtain ⟨entry, there, same⟩ := List.mem_map.mp pair
      have counted : (present (commit.settle linking) entry.1).length ∈
          finalCounts (commit.settle linking) linking.pending :=
        List.mem_map_of_mem (f := fun pair => _) there
      rw [all] at counted
      rw [← same]
      exact present_both.mp (List.eq_of_mem_replicate counted)
    have applied := batched.applied _ settled linked
    exact ⟨applied.failed.toReported, fun _ _ => applied.failed⟩
  · rw [done]
    have abandoned := ((batched.abandoned _ settled).published false).failed
    exact ⟨abandoned.toReported, fun _ _ => abandoned⟩

/-- What a candidate comes to. -/
theorem link_cases (settings : Settings Id Weight) (number : Nat) (link : Link Id Weight)
    (linking : Linking Id Weight) :
    (settings.maxEdges.any (fun most => decide (most ≤ budget linking)) = true ∧
      linkPair settings number link linking = (.leave, publishProgress false
        { linking with stats := { linking.stats with capped := true } })) ∨
    (sameSource settings.sourceFiles link = true ∧
      linkPair settings number link linking = (.next,
        { linking with stats :=
          { linking.stats with sameSourceSkipped := linking.stats.sameSourceSkipped + 1 } })) ∨
    (Both linking.current (endsOf link) ∧
      linkPair settings number link linking = (.next,
        { linking with stats := { linking.stats with skipped := linking.stats.skipped + 1 } })) ∨
    (linkPair settings number link linking = (.next, dropPair (settings.attempts number).engine
      (seeOthers (settings.attempts number).others linking))) ∨
    (settings.maxEdges.any (fun most => decide (most ≤ budget linking)) = false ∧
      ¬Both linking.current (endsOf link) ∧
      ∃ final held,
        insertPair settings.fixed (settings.attempts number).engine link
          (missingOf linking.current (endsOf link))
          (seeOthers (settings.attempts number).others linking).current = some final ∧
        held = holdPair link (missingOf linking.current (endsOf link)).length
          (decide ((present linking.current (endsOf link)).length = 1)) final
          (seeOthers (settings.attempts number).others linking) ∧
        (linkPair settings number link linking = (.next, held) ∨
          linkPair settings number link linking =
            (flowOf (commitPending (settings.commits number) held).1,
              (commitPending (settings.commits number) held).2))) := by
  unfold linkPair
  split
  · rename_i full
    exact .inl ⟨full, rfl⟩
  · rename_i within
    right
    split
    · rename_i same
      exact .inl ⟨same, rfl⟩
    · right
      dsimp only
      split
      · rename_i two
        exact .inl ⟨present_both.mp two, rfl⟩
      · rename_i not_two
        right
        split
        · exact .inl rfl
        · rename_i final written
          refine .inr ⟨Bool.eq_false_of_not_eq_true within,
            fun both => not_two (present_both.mpr both), final, _, written, rfl, ?_⟩
          split
          · exact .inr rfl
          · exact .inl rfl

theorem flow_raised {went : Option Bool} (goes : flowOf went ≠ .raised) :
    ∃ whole, went = some whole := by
  cases went with
  | none => exact absurd rfl goes
  | some whole => exact ⟨whole, rfl⟩

omit [DecidableEq Id] in
theorem Batched.sees (batched : Batched linking) {others : Edges Id Weight → Edges Id Weight}
    (grows : Grows others) :
    Batched (seeOthers others linking) ∧
      ∀ key ∈ linking.current.keys, key ∈ (seeOthers others linking).current.keys := by
  unfold seeOthers
  split
  · rename_i closed
    have current : linking.current = linking.durable := by
      rw [Linking.current, closed, Option.getD_none]
    refine ⟨⟨⟨?_, batched.counted⟩, ?_, ?_, batched.named, batched.sized, batched.begun,
      batched.empty⟩, ?_⟩
    · exact fun link listed => (batched.both link listed).mono (grows _)
    · intro link listed
      have both := batched.pending link listed
      rw [current] at both
      rw [Linking.current, closed, Option.getD_none]
      exact both.mono (grows _)
    · intro key there
      rw [Linking.current, closed, Option.getD_none]
      exact there
    · intro key there
      rw [current] at there
      rw [Linking.current, closed, Option.getD_none]
      exact grows _ key there
  · exact ⟨batched, fun _ there => there⟩

omit [DecidableEq Id] in
theorem Batched.drops (batched : Batched linking) {engine : Engine Id}
    (calm : engine.ends = false) : Batched (dropPair engine linking) := by
  have same : (if linking.dirty && !engine.ends then linking.working else none) =
      linking.working := by
    rw [calm]
    cases dirty : linking.dirty with
    | false =>
        have begun := batched.begun
        rw [dirty, Option.isSome_eq_false_iff, Option.isNone_iff_eq_none] at begun
        exact begun.symm
    | true => rfl
  rw [dropPair, same]
  exact batched.failed

omit [DecidableEq Id] in
theorem Batched.holds (batched : Batched linking) {link : Link Id Weight} {rows : Nat}
    {repaired : Bool} {final : Edges Id Weight} (both : Both final (endsOf link))
    (grows : ∀ key ∈ linking.current.keys, key ∈ final.keys) :
    Batched (holdPair link rows repaired final linking) := by
  have inside : (linking.dirty && linking.working.isNone) = false := by
    rw [← batched.begun]
    cases linking.working <;> rfl
  rw [holdPair, inside]
  refine ⟨⟨batched.both, batched.counted⟩, ?_, ?_, ?_, ?_, rfl, ?_⟩
  · intro other listed
    rcases List.mem_append.mp listed with old | new
    · exact (batched.pending other old).mono grows
    · rw [List.mem_singleton.mp new]
      exact both
  · exact fun key there => grows key (batched.keeps key there)
  · rw [List.map_append, List.map_append, batched.named]
    rfl
  · have sized := batched.sized
    cases repaired <;> simp <;> omega
  · exact fun idle => by cases idle

/-- A candidate leaves the counted pairs durable, unless the loop raises those of its batch
in the transaction too. -/
theorem link_batched {settings : Settings Id Weight} (tame : Tame settings)
    (batched : Batched linking) (number : Nat) (link : Link Id Weight) :
    Reported (linkPair settings number link linking).2 ∧
      ((linkPair settings number link linking).1 ≠ .raised →
        Batched (linkPair settings number link linking).2) := by
  obtain ⟨begun, -⟩ := batched.sees (tame.attempts number)
  rcases link_cases settings number link linking with
    ⟨-, done⟩ | ⟨-, done⟩ | ⟨-, done⟩ | done | ⟨-, -, final, held, written, rfl, done⟩
  · rw [done]
    have counted : Batched { linking with stats := { linking.stats with capped := true } } :=
      batched.recounted rfl rfl rfl
    exact ⟨counted.toReported.published false, fun _ => counted.published false⟩
  · rw [done]
    have counted := @Batched.recounted _ _ _ batched
      { linking.stats with sameSourceSkipped := linking.stats.sameSourceSkipped + 1 } rfl rfl rfl
    exact ⟨counted.toReported, fun _ => counted⟩
  · rw [done]
    have counted := @Batched.recounted _ _ _ batched
      { linking.stats with skipped := linking.stats.skipped + 1 } rfl rfl rfl
    exact ⟨counted.toReported, fun _ => counted⟩
  · rw [done]
    have dropped := begun.drops (tame.calm number)
    exact ⟨dropped.toReported, fun _ => dropped⟩
  · obtain ⟨both, kept, -, rfl⟩ := inserted written
    have holding := @Batched.holds _ _ _ begun link
      (missingOf linking.current (endsOf link)).length
      (decide ((present linking.current (endsOf link)).length = 1)) _ both
      fun key there => mem_keys_insert_all.mpr (.inr there)
    rcases done with done | done
    · rw [done]
      exact ⟨holding.toReported, fun _ => holding⟩
    · rw [done]
      obtain ⟨reported, goes⟩ := commit_batched (tame.commits number) holding
      refine ⟨reported, fun went => ?_⟩
      obtain ⟨whole, same⟩ := flow_raised went
      exact goes whole same

theorem links_batched {settings : Settings Id Weight} (tame : Tame settings)
    (batched : Batched linking) (number : Nat) (links : List (Link Id Weight)) :
    Reported (linkPairs settings number links linking).2 ∧
      ((linkPairs settings number links linking).1 = false →
        Batched (linkPairs settings number links linking).2) := by
  induction links generalizing number linking with
  | nil => exact ⟨batched.toReported, fun _ => batched⟩
  | cons link rest induction =>
      obtain ⟨reported, goes⟩ :=
        link_batched tame (batched.sees (tame.earlier number)).1 number link
      rw [linkPairs]
      generalize linkPair settings number link _ = came at reported goes
      match came with
      | (.next, after) => exact induction (goes Flow.noConfusion) (number + 1)
      | (.leave, after) => exact ⟨reported, fun _ => goes Flow.noConfusion⟩
      | (.raised, after) => exact ⟨reported, fun raised => by cases raised⟩

/-! ## The budget -/

theorem budget_commit (commit : Commit Id Weight) (linking : Linking Id Weight) :
    budget (commitPending commit linking).2 ≤ budget linking := by
  rcases commit_cases commit linking with
    ⟨-, done⟩ | ⟨-, done⟩ | ⟨-, done, -⟩ | ⟨-, -, done⟩ | ⟨-, -, done⟩
  · rw [done]
  · rw [done]
    simp [budget, applyPending, publishProgress]
    omega
  · rw [done]
    simp [budget, publishProgress]
  · rw [done]
    simp [budget, applyPending, publishProgress, countFailed]
    omega
  · rw [done]
    simp [budget, publishProgress, countFailed]
    omega

omit [DecidableEq Id] in
theorem budget_others (others : Edges Id Weight → Edges Id Weight)
    (linking : Linking Id Weight) : budget (seeOthers others linking) = budget linking := by
  unfold seeOthers
  split <;> rfl

theorem budget_link {settings : Settings Id Weight} {most : Nat}
    (capped : settings.maxEdges = some most) (within : budget linking ≤ most) (number : Nat)
    (link : Link Id Weight) : budget (linkPair settings number link linking).2 ≤ most := by
  rcases link_cases settings number link linking with
    ⟨-, done⟩ | ⟨-, done⟩ | ⟨-, done⟩ | done | ⟨room, -, final, held, -, rfl, done⟩
  · rw [done]
    exact within
  · rw [done]
    exact within
  · rw [done]
    exact within
  · rw [done]
    exact (budget_others _ _).trans_le within
  · have below : budget linking < most := by
      rw [capped, Option.any_some, decide_eq_false_iff_not, not_le] at room
      exact room
    have one_more : ∀ {rows : Nat} {repaired : Bool} {begun : Linking Id Weight},
        budget begun = budget linking →
        budget (holdPair link rows repaired final begun) ≤ most := by
      intro rows repaired begun same
      rw [budget] at same
      cases repaired <;> simp [budget, holdPair] <;> omega
    rcases done with done | done
    · rw [done]
      exact one_more (budget_others _ _)
    · rw [done]
      exact (budget_commit _ _).trans (one_more (budget_others _ _))

theorem budget_links {settings : Settings Id Weight} {most : Nat}
    (capped : settings.maxEdges = some most) (within : budget linking ≤ most) (number : Nat)
    (links : List (Link Id Weight)) :
    budget (linkPairs settings number links linking).2 ≤ most := by
  induction links generalizing number linking with
  | nil => exact within
  | cons link rest induction =>
      have seen := (budget_others (settings.attempts number).earlier linking).trans_le within
      have after := budget_link capped seen number link
      rw [linkPairs]
      generalize linkPair settings number link _ = came at after
      match came with
      | (.next, _) => exact induction after (number + 1)
      | (.leave, _) => exact after
      | (.raised, _) => exact after

/-! ## What is counted is linked -/

omit [DecidableEq Id] in
theorem start_batched (edges : Edges Id Weight) (candidates : Nat) :
    Batched (start edges candidates) :=
  ⟨⟨fun _ listed => (by cases listed), rfl⟩, fun _ listed => (by cases listed),
    fun _ there => there, rfl, rfl, rfl, fun _ => rfl⟩

/-- What a whole call comes to, from what its loop came to. -/
theorem call_cases (settings : Settings Id Weight) (links : List (Link Id Weight))
    (edges : Edges Id Weight) :
    ∃ raised linking, linkPairs settings 0 links (start edges links.length) = (raised, linking) ∧
      ((raised = true ∧ batchCrossLinks settings links edges = (none, linking)) ∨
      (raised = false ∧ (commitPending settings.lastCommit linking).1 = none ∧
        batchCrossLinks settings links edges =
          (none, (commitPending settings.lastCommit linking).2)) ∨
      (raised = false ∧ ∃ whole done, commitPending settings.lastCommit linking =
          (some whole, done) ∧
        batchCrossLinks settings links edges =
          (some done.stats, publishProgress false done))) := by
  rcases ran : linkPairs settings 0 links (start edges links.length) with ⟨raised, linking⟩
  refine ⟨raised, linking, rfl, ?_⟩
  unfold batchCrossLinks
  rw [ran]
  cases raised with
  | true => exact .inl ⟨rfl, rfl⟩
  | false =>
      right
      rcases last : commitPending settings.lastCommit linking with ⟨went, done⟩
      cases went with
      | none =>
          left
          simp only [last, and_self]
      | some whole =>
          right
          refine ⟨rfl, whole, done, rfl, ?_⟩
          simp only [last]

variable {settings : Settings Id Weight}

/-- Whichever pairs and commits fail, whatever edges other connections add meanwhile, and
whether it returns or raises: the pairs it counts are linked both ways and durably, and are
no more than its budget. -/
theorem counted_pairs_linked (tame : Tame settings) (links : List (Link Id Weight))
    (edges : Edges Id Weight) :
    Reported (batchCrossLinks settings links edges).2 ∧
      ∀ most, settings.maxEdges = some most →
        (batchCrossLinks settings links edges).2.stats.dreamPairs.length ≤ most := by
  obtain ⟨raised, linking, ran, came⟩ := call_cases settings links edges
  obtain ⟨reported, goes⟩ := links_batched tame (start_batched edges links.length) 0 links
  rw [ran] at reported goes
  have within : ∀ most, settings.maxEdges = some most → budget linking ≤ most := by
    intro most capped
    have few := @budget_links _ _ _ (start edges links.length) settings most capped
      (Nat.zero_le most) 0 links
    rw [ran] at few
    exact few
  have few : ∀ {after : Linking Id Weight}, Reported after → budget after ≤ budget linking →
      ∀ most, settings.maxEdges = some most → after.stats.dreamPairs.length ≤ most := by
    intro after counts less most capped
    have room := less.trans (within most capped)
    rw [budget] at room
    have counted := counts.counted
    omega
  rcases came with ⟨-, done⟩ | ⟨fine, -, done⟩ | ⟨fine, whole, after, last, done⟩
  · rw [done]
    exact ⟨reported, few reported (le_refl _)⟩
  · rw [done]
    have counts := (commit_batched tame.lastCommit (goes fine)).1
    exact ⟨counts, few counts (budget_commit _ _)⟩
  · rw [done]
    have counts := (commit_batched tame.lastCommit (goes fine)).1
    have less := budget_commit settings.lastCommit linking
    rw [last] at counts less
    exact ⟨counts.published false, few (counts.published false) less⟩

/-- Another connection adds an edge before each pair is read and one before its statements,
and every commit raises, the last one after it landed. -/
def busy : Settings Nat Unit where
  sourceFiles := none
  maxEdges := some 1
  edgesPerBatch := 500
  fixed := fun _ => []
  attempts := fun _ =>
    ⟨fun edges => edges.insertOrIgnore ⟨5, 6, some (), none, none⟩,
      fun edges => edges.insertOrIgnore ⟨1, 0, some (), none, none⟩, .runs fun _ => false⟩
  commits := fun _ => ⟨true, false, id, true⟩
  lastCommit := ⟨true, true, id, true⟩

theorem busy_linked :
    Reported (batchCrossLinks busy [⟨0, 1, ()⟩, ⟨0, 2, ()⟩] .empty).2 ∧
      (batchCrossLinks busy [⟨0, 1, ()⟩, ⟨0, 2, ()⟩] .empty).2.stats.dreamPairs.length ≤ 1 := by
  have tame : Tame busy :=
    ⟨fun _ => rfl, fun _ _ _ there => mem_keys_insert.mpr (.inr there),
      fun _ _ _ there => mem_keys_insert.mpr (.inr there), fun _ _ _ there => there,
      fun _ _ there => there⟩
  obtain ⟨reported, few⟩ := counted_pairs_linked tame [⟨0, 1, ()⟩, ⟨0, 2, ()⟩] .empty
  exact ⟨reported, few 1 rfl⟩

end

/-! ## While nobody else writes -/

structure Made (Id Weight : Type) where
  link : Link Id Weight
  missing : List (Id × Id)

def Made.repairs (made : Made Id Weight) : Bool :=
  decide (made.missing.length = 1)

def pendingOf (held : List (Made Id Weight)) : Pending Id Weight where
  created := held.countP fun one => !one.repairs
  repaired := held.countP Made.repairs
  directedRows := (held.map fun one => one.missing.length).sum
  dreamPairs := held.map Made.link
  pairs := held.map fun one => (endsOf one.link, one.repairs)

structure Counts (stats : Stats Id Weight) (made : List (Made Id Weight)) : Prop where
  created : stats.created = made.countP fun one => !one.repairs
  repaired : stats.repaired = made.countP Made.repairs
  directedRows : stats.directedRows = (made.map fun one => one.missing.length).sum
  dreamPairs : stats.dreamPairs = made.map Made.link

section

variable [DecidableEq Id]

structure Linked (fixed : Weight → Str) (before after : Edges Id Weight)
    (made : List (Made Id Weight)) : Prop where
  rows : after.rows = before.rows ++
    made.flatMap fun one => one.missing.map (crossEdge fixed one.link.sim)
  each : ∀ one ∈ made, one.link.one ≠ one.link.other ∧ one.missing ≠ [] ∧
    one.missing = missingOf before (endsOf one.link)

variable {fixed : Weight → Str} {before after edges final : Edges Id Weight}
  {made held : List (Made Id Weight)}

theorem Linked.keys (linked : Linked fixed before after made) :
    after.keys = before.keys ++ made.flatMap Made.missing := by
  rw [Edges.keys, linked.rows, List.map_append, List.map_flatMap]
  congr 2
  funext one
  rw [List.map_map]
  exact List.map_id _

theorem Linked.mem_keys (linked : Linked fixed before after made) {key : Id × Id} :
    key ∈ after.keys ↔ key ∈ before.keys ∨ ∃ one ∈ made, key ∈ one.missing := by
  rw [linked.keys, List.mem_append, List.mem_flatMap]

theorem Linked.both (linked : Linked fixed before after made) {one : Made Id Weight}
    (listed : one ∈ made) : Both after (endsOf one.link) := by
  obtain ⟨apart, -, missing⟩ := linked.each one listed
  refine ⟨apart, ?_⟩
  intro key way
  by_cases old : key ∈ before.keys
  · exact linked.mem_keys.mpr (.inl old)
  · refine linked.mem_keys.mpr (.inr ⟨one, listed, ?_⟩)
    rw [missing]
    exact mem_missing.mpr ⟨way, old⟩

theorem linked_nothing (fixed : Weight → Str) (edges : Edges Id Weight) :
    Linked fixed edges edges [] :=
  ⟨(List.append_nil _).symm, fun _ listed => by cases listed⟩

/-- A pair that is linked one way afterwards was so before. -/
theorem Linked.halves (linked : Linked fixed before after made) {key : Id × Id}
    (there : key ∈ after.keys) (alone : key.swap ∉ after.keys) : key ∈ before.keys := by
  rcases linked.mem_keys.mp there with old | ⟨one, listed, new⟩
  · exact old
  · obtain ⟨-, -, missing⟩ := linked.each one listed
    rw [missing] at new
    have way := swap_mem_both_ways.mpr (mem_missing.mp new).1
    exact absurd ((linked.both listed).2 _ way) alone

/-- A pair that is not linked both ways yet is apart from those that were made. -/
theorem Linked.still_missing (linked : Linked fixed before edges made) {ends : Id × Id}
    (unlinked : ¬Both edges ends) (apart : ends.1 ≠ ends.2) :
    missingOf edges ends = missingOf before ends := by
  apply List.filter_congr
  intro key way
  rw [decide_eq_decide, not_iff_not, linked.mem_keys]
  constructor
  · rintro (old | ⟨one, listed, new⟩)
    · exact old
    · exfalso
      apply unlinked
      refine ⟨apart, ?_⟩
      rw [(linked.each one listed).2.2] at new
      have same := both_ways_mono way (mem_missing.mp new).1
      exact fun other there => (linked.both listed).2 other (same other there)
  · exact .inl

theorem Linked.grow (linked : Linked fixed before edges made) {link : Link Id Weight}
    (unlinked : ¬Both edges (endsOf link)) (both : Both final (endsOf link))
    (rows : final.rows = edges.rows ++
      (missingOf edges (endsOf link)).map (crossEdge fixed link.sim)) :
    Linked fixed before final (made ++ [⟨link, missingOf edges (endsOf link)⟩]) := by
  constructor
  · rw [rows, linked.rows, List.flatMap_append, List.flatMap_singleton, List.append_assoc]
  · intro one listed
    rcases List.mem_append.mp listed with old | new
    · exact linked.each one old
    · rw [List.mem_singleton.mp new]
      refine ⟨both.1, ?_, linked.still_missing unlinked both.1⟩
      intro nothing
      dsimp only at nothing
      apply unlinked
      refine ⟨both.1, ?_⟩
      intro key way
      by_contra absent
      have some_missing := mem_missing.mpr ⟨way, absent⟩
      rw [nothing] at some_missing
      cases some_missing

/-- What was made in a transaction is missing in full after its rollback. -/
theorem Linked.rolled_back (linked : Linked fixed before after (made ++ held))
    (durable : Linked fixed before edges made) {one : Made Id Weight} (listed : one ∈ held) :
    missingOf edges (endsOf one.link) = one.missing := by
  obtain ⟨-, -, missing⟩ := linked.each one (List.mem_append_right _ listed)
  rw [missing]
  apply List.filter_congr
  intro key way
  rw [decide_eq_decide, not_iff_not, durable.mem_keys]
  constructor
  · rintro (old | ⟨other, earlier, new⟩)
    · exact old
    · by_contra absent
      have distinct : (Edges.keys after).Nodup := after.distinct
      rw [linked.keys, List.flatMap_append, ← List.append_assoc] at distinct
      have held_missing : key ∈ one.missing := by
        rw [missing]
        exact mem_missing.mpr ⟨way, absent⟩
      exact List.disjoint_of_nodup_append distinct
        (List.mem_append_right _ (List.mem_flatMap.mpr ⟨other, earlier, new⟩))
        (List.mem_flatMap.mpr ⟨one, listed, held_missing⟩)
  · exact .inl

theorem final_counts_landed (linked : Linked fixed before after (made ++ held)) :
    finalCounts after (pendingOf held) = List.replicate held.length 2 := by
  rw [finalCounts, pendingOf, List.map_map, List.eq_replicate_iff]
  refine ⟨List.length_map _, ?_⟩
  intro count listed
  obtain ⟨one, there, rfl⟩ := List.mem_map.mp listed
  exact present_both.mpr (linked.both (List.mem_append_right _ there))

theorem final_counts_rolled_back (linked : Linked fixed before after (made ++ held))
    (durable : Linked fixed before edges made) :
    finalCounts edges (pendingOf held) = originalCounts (pendingOf held) := by
  rw [finalCounts, originalCounts, pendingOf, List.map_map, List.map_map]
  apply List.map_congr_left
  intro one listed
  obtain ⟨apart, some_missing, -⟩ := linked.each one (List.mem_append_right _ listed)
  have two := @missing_length _ _ _ edges (endsOf one.link) apart
  rw [linked.rolled_back durable listed] at two
  have positive : 0 < one.missing.length := List.length_pos_iff.mpr some_missing
  simp only [Function.comp_apply, Made.repairs, decide_eq_true_eq]
  split <;> omega

omit [DecidableEq Id] in
/-- The counts of what was rolled back are never those of what landed. -/
theorem original_counts_few (some_held : held ≠ []) :
    originalCounts (pendingOf held) ≠ List.replicate held.length 2 := by
  intro same
  obtain ⟨one, rest, rfl⟩ := List.exists_cons_of_ne_nil some_held
  have head := (List.cons.inj same).1
  dsimp only at head
  split at head <;> cases head

/-! ## Exact counters -/

variable {settings : Settings Id Weight} {done : List (Link Id Weight)}
  {linking : Linking Id Weight} {commit : Commit Id Weight}

structure Accounted (settings : Settings Id Weight) (before : Edges Id Weight)
    (done : List (Link Id Weight)) (made held : List (Made Id Weight))
    (linking : Linking Id Weight) : Prop where
  durable : Linked settings.fixed before linking.durable made
  current : Linked settings.fixed before linking.current (made ++ held)
  counts : Counts linking.stats made
  pending : linking.pending = pendingOf held
  begun : linking.working.isSome = linking.dirty
  open_batch : linking.dirty = !held.isEmpty
  certain : linking.progress.outcomeUncertain = false
  covered : linking.stats.failed = 0 → linking.stats.capped = false → ∀ link ∈ done,
    sameSource settings.sourceFiles link = false → Both linking.current (endsOf link)

def progressOf (stats : Stats Id Weight) (uncertain : Bool) : Progress where
  created := stats.created
  repaired := stats.repaired
  skipped := stats.skipped
  directedRows := stats.directedRows
  sameSourceSkipped := stats.sameSourceSkipped
  capped := stats.capped
  outcomeUncertain := uncertain

/-- A commit that could not be verified: the counters tell what there was before its batch,
which is durable in full or not at all. -/
structure Unsettled (settings : Settings Id Weight) (before : Edges Id Weight)
    (linking : Linking Id Weight) (made lost : List (Made Id Weight)) : Prop where
  durable : Linked settings.fixed before linking.durable made ∨
    Linked settings.fixed before linking.durable (made ++ lost)
  counts : Counts linking.stats made
  published : linking.progress = progressOf linking.stats true

omit [DecidableEq Id] in
theorem Counts.more {stats : Stats Id Weight} (counts : Counts stats made)
    (held : List (Made Id Weight)) :
    Counts
      { stats with
        created := stats.created + (pendingOf held).created
        repaired := stats.repaired + (pendingOf held).repaired
        directedRows := stats.directedRows + (pendingOf held).directedRows
        dreamPairs := stats.dreamPairs ++ (pendingOf held).dreamPairs } (made ++ held) := by
  constructor
  · rw [List.countP_append, counts.created]
    rfl
  · rw [List.countP_append, counts.repaired]
    rfl
  · rw [List.map_append, List.sum_append, counts.directedRows]
    rfl
  · rw [List.map_append, counts.dreamPairs]
    rfl

/-- A batch whose transaction landed. -/
theorem Accounted.applied (accounted : Accounted settings before done made held linking) :
    Accounted settings before done (made ++ held) []
      (applyPending { linking with durable := linking.current, working := none }) := by
  refine ⟨accounted.current, ?_, ?_, rfl, rfl, rfl, ?_, accounted.covered⟩
  · rw [List.append_nil]
    exact accounted.current
  · have more := accounted.counts.more held
    rw [← accounted.pending] at more
    exact more
  · simp [applyPending, publishProgress, accounted.certain]

theorem failed_covers {further : List (Link Id Weight)}
    (accounted : Accounted settings before done made held linking) :
    Accounted settings before further made held (countFailed linking) :=
  ⟨accounted.durable, accounted.current,
    ⟨accounted.counts.created, accounted.counts.repaired, accounted.counts.directedRows,
      accounted.counts.dreamPairs⟩,
    accounted.pending, accounted.begun, accounted.open_batch, accounted.certain,
    fun none_failed => by cases none_failed⟩

/-- A batch that was rolled back. -/
theorem Accounted.abandoned (accounted : Accounted settings before done made held linking) :
    Accounted settings before [] made []
      (publishProgress false
        { linking with working := none, dirty := false, pending := {} }) := by
  refine ⟨accounted.durable, ?_, accounted.counts, rfl, rfl, rfl, ?_, ?_⟩
  · rw [List.append_nil]
    exact accounted.durable
  · simp [publishProgress, accounted.certain]
  · exact fun _ _ _ listed => by cases listed

theorem Accounted.some_held (accounted : Accounted settings before done made held linking)
    (dirty : linking.dirty = true) : held ≠ [] := by
  rintro rfl
  have closed := accounted.open_batch
  rw [dirty] at closed
  cases closed

/-- What a commit comes to while nobody else writes. -/
theorem commit_accounted (alone : commit.others = id)
    (accounted : Accounted settings before done made held linking) :
    ((commitPending commit linking).1 = some true ∧
      Accounted settings before done (made ++ held) [] (commitPending commit linking).2) ∨
    ((commitPending commit linking).1 = some false ∧ ∃ all, ∀ further,
      Accounted settings before further all [] (commitPending commit linking).2) ∨
    ((commitPending commit linking).1 = none ∧ commit.readable = false ∧
      Unsettled settings before (commitPending commit linking).2 made held) := by
  have settle : commit.settle linking =
      if commit.landed then linking.current else linking.durable := by
    rw [Commit.settle, alone, id_eq]
  have size : linking.pending.pairs.length = held.length := by
    rw [accounted.pending]
    exact List.length_map _
  rcases commit_cases commit linking with
    ⟨clean, came⟩ | ⟨-, came⟩ | ⟨-, came, differ⟩ | ⟨dirty, all, came⟩ | ⟨dirty, none_there, came⟩
  · have nothing : held = [] := by
      have closed := accounted.open_batch
      rw [clean] at closed
      rwa [eq_comm, Bool.not_eq_eq_eq_not, Bool.not_false, List.isEmpty_iff] at closed
    subst nothing
    rw [came, List.append_nil]
    exact .inl ⟨rfl, accounted⟩
  · rw [came]
    exact .inl ⟨rfl, accounted.applied⟩
  · right
    right
    rw [settle, accounted.pending] at differ
    refine ⟨by rw [came], ?_, ?_⟩
    · by_contra readable
      obtain ⟨not_all, not_original⟩ := differ (Bool.eq_true_of_not_eq_false readable)
      cases landed : commit.landed with
      | true =>
          rw [landed, if_pos rfl] at not_all
          rw [← accounted.pending, size, accounted.pending] at not_all
          exact not_all (final_counts_landed accounted.current)
      | false =>
          rw [landed, if_neg Bool.false_ne_true] at not_original
          exact not_original (final_counts_rolled_back accounted.current accounted.durable)
    · rw [came]
      refine ⟨?_, accounted.counts, rfl⟩
      cases landed : commit.landed with
      | true =>
          right
          rw [landed, if_pos rfl] at settle
          exact settle ▸ accounted.current
      | false =>
          left
          rw [landed, if_neg Bool.false_ne_true] at settle
          exact settle ▸ accounted.durable
  · cases landed : commit.landed with
    | true =>
        right
        left
        rw [landed, if_pos rfl] at settle
        rw [came, settle]
        exact ⟨rfl, made ++ held, fun further => failed_covers accounted.applied⟩
    | false =>
        exfalso
        rw [landed, if_neg Bool.false_ne_true] at settle
        rw [settle, size, accounted.pending,
          final_counts_rolled_back accounted.current accounted.durable] at all
        exact original_counts_few (accounted.some_held dirty) all
  · cases landed : commit.landed with
    | true =>
        exfalso
        rw [landed, if_pos rfl] at settle
        rw [settle, accounted.pending, final_counts_landed accounted.current] at none_there
        exact original_counts_few (accounted.some_held dirty) none_there.symm
    | false =>
        right
        left
        rw [landed, if_neg Bool.false_ne_true] at settle
        rw [came, settle]
        exact ⟨rfl, made, fun further => failed_covers accounted.abandoned⟩

/-- No other connection writes, and SQLite does not end a transaction by itself. -/
structure Alone (settings : Settings Id Weight) : Prop where
  calm : ∀ number, (settings.attempts number).engine.ends = false
  earlier : ∀ number, (settings.attempts number).earlier = id
  attempts : ∀ number, (settings.attempts number).others = id
  commits : ∀ number, (settings.commits number).others = id
  lastCommit : settings.lastCommit.others = id

omit [DecidableEq Id] in
theorem see_nobody {others : Edges Id Weight → Edges Id Weight} (alone : others = id) :
    seeOthers others linking = linking := by
  unfold seeOthers
  split
  · rw [alone, id_eq]
  · rfl

theorem Accounted.dropped (accounted : Accounted settings before done made held linking)
    {engine : Engine Id} (calm : engine.ends = false) (further : List (Link Id Weight)) :
    Accounted settings before further made held (dropPair engine linking) := by
  have same : (if linking.dirty && !engine.ends then linking.working else none) =
      linking.working := by
    rw [calm, ← accounted.begun]
    cases linking.working <;> rfl
  rw [dropPair, same]
  exact failed_covers accounted

theorem Accounted.held_pair (accounted : Accounted settings before done made held linking)
    {link : Link Id Weight} {final : Edges Id Weight}
    (unlinked : ¬Both linking.current (endsOf link)) (both : Both final (endsOf link))
    (rows : final.rows = linking.current.rows ++
      (missingOf linking.current (endsOf link)).map (crossEdge settings.fixed link.sim)) :
    Accounted settings before (done ++ [link]) made
      (held ++ [⟨link, missingOf linking.current (endsOf link)⟩])
      (holdPair link (missingOf linking.current (endsOf link)).length
        (decide ((present linking.current (endsOf link)).length = 1)) final linking) := by
  have inside : (linking.dirty && linking.working.isNone) = false := by
    rw [← accounted.begun]
    cases linking.working <;> rfl
  have repaired : decide ((present linking.current (endsOf link)).length = 1) =
      Made.repairs ⟨link, missingOf linking.current (endsOf link)⟩ := by
    have two := @missing_length _ _ _ linking.current (endsOf link) both.1
    rw [Made.repairs, decide_eq_decide]
    dsimp only
    omega
  have grown := accounted.current.grow unlinked both rows
  rw [holdPair, inside, repaired]
  refine ⟨accounted.durable, ?_, accounted.counts, ?_, rfl, ?_, accounted.certain, ?_⟩
  · rw [← List.append_assoc]
    exact grown
  · rw [accounted.pending]
    simp only [pendingOf, List.countP_append, List.map_append, List.sum_append,
      List.countP_singleton, List.map_singleton, List.sum_singleton]
    cases Made.repairs ⟨link, missingOf linking.current (endsOf link)⟩ <;> rfl
  · simp
  · intro none_failed uncapped other listed differ
    rcases List.mem_append.mp listed with old | new
    · apply (accounted.covered none_failed uncapped other old differ).mono
      intro key there
      have later : key ∈ final.keys := by
        rw [Edges.keys, rows, List.map_append]
        exact List.mem_append_left _ there
      exact later
    · rw [List.mem_singleton.mp new]
      exact both

theorem Accounted.recounted (accounted : Accounted settings before done made held linking)
    (stats : Stats Id Weight) (counts : Counts stats made) {further : List (Link Id Weight)}
    (covered : stats.failed = 0 → stats.capped = false → ∀ link ∈ further,
      sameSource settings.sourceFiles link = false → Both linking.current (endsOf link)) :
    Accounted settings before further made held { linking with stats := stats } :=
  ⟨accounted.durable, accounted.current, counts, accounted.pending, accounted.begun,
    accounted.open_batch, accounted.certain, covered⟩

theorem Accounted.published (accounted : Accounted settings before done made held linking) :
    Accounted settings before done made held (publishProgress false linking) :=
  ⟨accounted.durable, accounted.current, accounted.counts, accounted.pending, accounted.begun,
    accounted.open_batch, (by simp [publishProgress, accounted.certain]), accounted.covered⟩

/-- What a candidate comes to while nobody else writes. -/
theorem link_accounted (alone : Alone settings)
    (accounted : Accounted settings before done made held linking) (number : Nat)
    (link : Link Id Weight) :
    ((linkPair settings number link linking).1 = .next ∧ ∃ all open_pairs,
      Accounted settings before (done ++ [link]) all open_pairs
        (linkPair settings number link linking).2) ∨
    ((linkPair settings number link linking).1 = .leave ∧ ∃ all open_pairs, ∀ further,
      Accounted settings before further all open_pairs
        (linkPair settings number link linking).2) ∨
    ((linkPair settings number link linking).1 = .raised ∧
      (settings.commits number).readable = false ∧ ∃ all lost,
      Unsettled settings before (linkPair settings number link linking).2 all lost) := by
  have others := @see_nobody _ _ linking _ (alone.attempts number)
  have counts := accounted.counts
  rcases link_cases settings number link linking with
    ⟨-, came⟩ | ⟨same, came⟩ | ⟨both, came⟩ | came | ⟨-, unlinked, final, begun, written, rfl, came⟩
  · rw [came]
    refine .inr (.inl ⟨rfl, made, held, fun further => ?_⟩)
    have capped := @Accounted.recounted _ _ _ _ _ _ _ _ _ accounted
      { linking.stats with capped := true }
      ⟨counts.created, counts.repaired, counts.directedRows, counts.dreamPairs⟩ further
      fun _ uncapped => by cases uncapped
    exact capped.published
  · rw [came]
    refine .inl ⟨rfl, made, held, accounted.recounted
      { linking.stats with sameSourceSkipped := linking.stats.sameSourceSkipped + 1 }
      ⟨counts.created, counts.repaired, counts.directedRows, counts.dreamPairs⟩ ?_⟩
    intro none_failed uncapped other listed differ
    rcases List.mem_append.mp listed with old | new
    · exact accounted.covered none_failed uncapped other old differ
    · rw [List.mem_singleton.mp new, same] at differ
      cases differ
  · rw [came]
    refine .inl ⟨rfl, made, held, accounted.recounted
      { linking.stats with skipped := linking.stats.skipped + 1 }
      ⟨counts.created, counts.repaired, counts.directedRows, counts.dreamPairs⟩ ?_⟩
    intro none_failed uncapped other listed differ
    rcases List.mem_append.mp listed with old | new
    · exact accounted.covered none_failed uncapped other old differ
    · rw [List.mem_singleton.mp new]
      exact both
  · rw [came, others]
    exact .inl ⟨rfl, made, held, accounted.dropped (alone.calm number) _⟩
  · rw [others] at written came
    obtain ⟨both, rows⟩ := inserted_alone written
    have holding := accounted.held_pair unlinked both rows
    rcases came with came | came
    · rw [came]
      exact .inl ⟨rfl, made, _, holding⟩
    · rw [came]
      rcases commit_accounted (alone.commits number) holding with
        ⟨whole, after⟩ | ⟨partly, all, after⟩ | ⟨raised, unread, after⟩
      · exact .inl ⟨by rw [whole, flowOf], _, [], after⟩
      · exact .inr (.inl ⟨by rw [partly, flowOf], all, [], after⟩)
      · exact .inr (.inr ⟨by rw [raised, flowOf], unread, _, _, after⟩)

theorem links_accounted (alone : Alone settings)
    (accounted : Accounted settings before done made held linking) (number : Nat)
    (links : List (Link Id Weight)) :
    ((linkPairs settings number links linking).1 = false ∧ ∃ all open_pairs,
      Accounted settings before (done ++ links) all open_pairs
        (linkPairs settings number links linking).2) ∨
    ((linkPairs settings number links linking).1 = true ∧
      (∃ number, (settings.commits number).readable = false) ∧ ∃ all lost,
      Unsettled settings before (linkPairs settings number links linking).2 all lost) := by
  induction links generalizing number linking done made held with
  | nil =>
      rw [List.append_nil]
      exact .inl ⟨rfl, made, held, accounted⟩
  | cons link rest induction =>
      have came := link_accounted alone accounted number link
      rw [linkPairs, see_nobody (alone.earlier number)]
      generalize linkPair settings number link linking = step at came
      obtain ⟨flow, after⟩ := step
      rcases came with ⟨rfl, all, open_pairs, next⟩ | ⟨rfl, all, open_pairs, next⟩ |
        ⟨rfl, unread, all, lost, unsettled⟩
      · have rest_done := induction next (number + 1)
        rw [List.append_assoc] at rest_done
        exact rest_done
      · exact .inl ⟨rfl, all, open_pairs, next _⟩
      · exact .inr ⟨rfl, ⟨number, unread⟩, all, lost, unsettled⟩

theorem start_accounted (settings : Settings Id Weight) (edges : Edges Id Weight)
    (candidates : Nat) : Accounted settings edges [] [] [] (start edges candidates) :=
  ⟨linked_nothing _ _, linked_nothing _ _, ⟨rfl, rfl, rfl, rfl⟩, rfl, rfl, rfl, rfl,
    fun _ _ _ listed => by cases listed⟩

/-- How a call ends that nobody else writes during. -/
structure Ended (settings : Settings Id Weight) (links : List (Link Id Weight))
    (before : Edges Id Weight) (result : Option (Stats Id Weight) × Linking Id Weight)
    (made lost : List (Made Id Weight)) : Prop where
  /-- The rows added are those missing of the pairs counted, and perhaps of the lost batch. -/
  durable : Linked settings.fixed before result.2.durable made ∨
    Linked settings.fixed before result.2.durable (made ++ lost)
  counts : Counts result.2.stats made
  published : result.2.progress = progressOf result.2.stats result.1.isNone
  returned : ∀ stats, result.1 = some stats → stats = result.2.stats ∧ lost = [] ∧
    (stats.failed = 0 → stats.capped = false → ∀ link ∈ links,
      sameSource settings.sourceFiles link = false → Both result.2.durable (endsOf link))
  raised : result.1 = none → (∃ number, (settings.commits number).readable = false) ∨
    settings.lastCommit.readable = false
  /-- No pair is left linked one way that was not so before. -/
  halves : ∀ key ∈ result.2.durable.keys, key.swap ∉ result.2.durable.keys →
    key ∈ before.keys

theorem Unsettled.ended {links : List (Link Id Weight)} {lost : List (Made Id Weight)}
    (unsettled : Unsettled settings before linking made lost)
    (unread : (∃ number, (settings.commits number).readable = false) ∨
      settings.lastCommit.readable = false) :
    Ended settings links before (none, linking) made lost := by
  refine ⟨unsettled.durable, unsettled.counts, unsettled.published,
    (fun _ returned => by cases returned), fun _ => unread, ?_⟩
  intro key there alone
  rcases unsettled.durable with linked | linked
  · exact linked.halves there alone
  · exact linked.halves there alone

theorem Accounted.ended (accounted : Accounted settings before done made [] linking) :
    Ended settings done before (some linking.stats, publishProgress false linking) made [] := by
  have closed : linking.current = linking.durable := by
    have begun := accounted.begun
    rw [accounted.open_batch, List.isEmpty_nil, Bool.not_true, Option.isSome_eq_false_iff,
      Option.isNone_iff_eq_none] at begun
    rw [Linking.current, begun, Option.getD_none]
  refine ⟨.inl accounted.durable, accounted.counts, ?_, ?_, (fun raised => by cases raised),
    fun key there alone => accounted.durable.halves there alone⟩
  · simp [publishProgress, progressOf, accounted.certain]
  · intro stats same
    obtain rfl := Option.some.inj same
    refine ⟨rfl, rfl, ?_⟩
    intro none_failed uncapped link listed differ
    have both := accounted.covered none_failed uncapped link listed differ
    rw [closed] at both
    exact both

/-- While nobody else writes, the rows added are exactly those missing of the pairs counted,
and without a failure or the cap every candidate is linked. Only a failed commit that cannot
be verified makes it raise; then its batch is durable in full or not at all, and the
progress says so. -/
theorem cross_links_exact (alone : Alone settings) (links : List (Link Id Weight))
    (edges : Edges Id Weight) :
    ∃ made lost,
      Ended settings links edges (batchCrossLinks settings links edges) made lost := by
  obtain ⟨raised, linking, ran, came⟩ := call_cases settings links edges
  have looped := links_accounted alone (start_accounted settings edges links.length) 0 links
  rw [ran, List.nil_append] at looped
  rcases looped with ⟨rfl, made, held, accounted⟩ | ⟨rfl, unread, made, lost, unsettled⟩
  · have last := commit_accounted alone.lastCommit accounted
    rcases came with ⟨other, -⟩ | ⟨-, failed, came⟩ | ⟨-, whole, after, committed, came⟩
    · cases other
    · rcases last with ⟨other, -⟩ | ⟨other, -⟩ | ⟨-, unread, unsettled⟩
      · rw [failed] at other
        cases other
      · rw [failed] at other
        cases other
      · rw [came]
        exact ⟨made, held, unsettled.ended (.inr unread)⟩
    · rw [came]
      rw [committed] at last
      rcases last with ⟨-, settled⟩ | ⟨-, all, settled⟩ | ⟨other, -⟩
      · exact ⟨_, [], settled.ended⟩
      · exact ⟨all, [], (settled links).ended⟩
      · cases other
  · rcases came with ⟨-, came⟩ | ⟨other, -⟩ | ⟨other, -⟩
    · rw [came]
      exact ⟨made, lost, unsettled.ended (.inl unread)⟩
    · cases other
    · cases other

/-- A trigger ignores every row that goes up, and the commit cannot be verified. -/
def unread : Settings Nat Unit where
  sourceFiles := none
  maxEdges := none
  edgesPerBatch := 1
  fixed := fun _ => []
  attempts := fun number =>
    ⟨id, id, .runs fun ends => decide (number = 0) && decide (ends.1 < ends.2)⟩
  commits := fun _ => ⟨true, true, id, false⟩
  lastCommit := ⟨false, false, id, false⟩

theorem unread_exact :
    ∃ made lost, Ended unread [⟨0, 1, ()⟩, ⟨0, 2, ()⟩] .empty
      (batchCrossLinks unread [⟨0, 1, ()⟩, ⟨0, 2, ()⟩] .empty) made lost :=
  cross_links_exact ⟨fun _ => rfl, fun _ => rfl, fun _ => rfl, fun _ => rfl, rfl⟩ _ _

example : (batchCrossLinks unread [⟨0, 1, ()⟩, ⟨0, 2, ()⟩] .empty).1.isNone = true ∧
    (batchCrossLinks unread [⟨0, 1, ()⟩, ⟨0, 2, ()⟩] .empty).2.durable.keys =
      [(0, 2), (2, 0)] := by
  decide

end

end HermesCashew.SleepCrossLinks
