import HermesCashew.JsonDocument
import Mathlib.Data.Int.Order.Basic
import Mathlib.Logic.Function.Basic

/-!
# What is told to the error tracker

The event of an error, and the canonical form that every event is brought to before it is
sent: names from a list, clamped counters and the bucket of a duration. The items of a
`dict` stand in the order in which they were put in.
-/

namespace HermesCashew.Telemetry

open HermesCashew.JsonDocument (Value)
open HermesCashew.JsonNumber
open HermesCashew.JsonText (Str str)

set_option autoImplicit false

abbrev Items := List (Str × Value)

/-- `float(value)` raises an `OverflowError`. -/
inductive Fault where
  | overflow
  deriving DecidableEq

/-! ## The names that are safe -/

def safeOperations : List Str :=
  ["cashew.initialize", "cashew.sync", "cashew.query", "cashew.extract", "cashew.prefetch",
    "cashew.sleep", "cashew.verify"].map str

def safeStates : List Str :=
  ["initializing", "ready", "degraded", "stopping", "stopped", "failed"].map str

def safeFallbacks : List Str :=
  ["none", "keyword", "bfs", "cpu", "disabled"].map str

def safeErrorClasses : List Str :=
  ["Exception", "ImportError", "KeyError", "OSError", "OperationalError", "RuntimeError",
    "TimeoutError", "TypeError", "ValueError"].map str

def safeName (names : List Str) : Value → Option Str
  | .str name => if name ∈ names then some name else none
  | _ => none

def safeErrorClass (name : Str) : Str :=
  if name ∈ safeErrorClasses then name else str "Exception"

def operation (value : Value) : Str :=
  (safeName safeOperations value).getD (str "cashew.unknown")

/-! ## Numbers -/

def boundedInt : Value → Option Int
  | .int value => some (max 0 (min value 1000000000))
  | _ => none

def units (value : Finite) : Int :=
  if value.negative then -(value.magnitude : Int) else value.magnitude

def orOverflow : PyFloat → Except Fault Finite
  | .finite result => .ok result
  | _ => .error .overflow

/-- `float(value)` of an integer. -/
def toFloat (value : Int) : Except Fault Finite :=
  orOverflow (ofInt value)

def wholeFloat (value : Nat) (small : value < 2 ^ 53) : Finite :=
  ⟨false, value * scale, whole_representable small⟩

/-- `min(first, second)`. -/
def minFloat (first second : Finite) : Finite :=
  if units second < units first then second else first

/-- `max(first, second)`. -/
def maxFloat (first second : Finite) : Finite :=
  if units first < units second then second else first

def ceilings : List Nat :=
  [1, 10, 100, 1000, 10000, 60000, 600000, 3600000, 86400000]

def milliseconds (value : Finite) : Finite :=
  maxFloat (wholeFloat 0 (by decide)) (minFloat value (wholeFloat 86400000 (by decide)))

def firstCeiling (passes : Nat → Bool) : Nat :=
  (ceilings.find? passes).getD 86400000

def bucketOf (value : Finite) : Nat :=
  firstCeiling fun ceiling => units (milliseconds value) ≤ (ceiling * scale : Nat)

def durationBucket : Value → Except Fault (Option Nat)
  | .int value => (toFloat value).map fun float => some (bucketOf float)
  | .float (.finite value) => .ok (some (bucketOf value))
  | _ => .ok none

/-! ## Events -/

/-- `items.get(key, default)`. -/
def getOr (items : Items) (key : String) (default_ : Value) : Value :=
  (SortedDict.get (str key) items).getD default_

/-- `value.get(key)` of a `dict`, and else `None`. -/
def getIn (value : Value) (key : String) : Value :=
  match value with
  | .dict items => getOr items key .none
  | _ => .none

structure Metadata where
  generation : Value := .none
  state : Value := .none
  fallback : Value := .none
  durationMs : Value := .none
  count : Value := .none
  queueDepth : Value := .none
  extra : Option Items := none

/-- `extra` goes before the arguments, unless it is empty. -/
def Metadata.merged (metadata : Metadata) : Metadata :=
  match metadata.extra with
  | none | some [] => metadata
  | some extra =>
      { generation := getOr extra "generation" metadata.generation
        state := getOr extra "state" metadata.state
        fallback := getOr extra "fallback" metadata.fallback
        durationMs :=
          getOr extra "duration_ms" (getOr extra "duration_bucket_ms" metadata.durationMs)
        count := getOr extra "count" metadata.count
        queueDepth := getOr extra "queue_depth" metadata.queueDepth }

/-- `result[key] = value` of a value that there is. -/
def entry (key : String) : Option Value → Items
  | some value => [(str key, value)]
  | none => []

def safeMetadata (metadata : Metadata) : Except Fault Items := do
  let given := metadata.merged
  let counters :=
    entry "generation" ((boundedInt given.generation).map .int) ++
      (entry "count" ((boundedInt given.count).map .int) ++
        entry "queue_depth" ((boundedInt given.queueDepth).map .int))
  let names :=
    entry "state" ((safeName safeStates given.state).map .str) ++
      entry "fallback" ((safeName safeFallbacks given.fallback).map .str)
  let bucket ← durationBucket given.durationMs
  .ok (counters ++ (names ++
    entry "duration_bucket_ms" (bucket.map fun ceiling : Nat => .int ceiling)))

def eventValue (operation : Str) (context : Items) (errorType : Str) : Value :=
  .dict
    [(str "level", .str (str "error")),
      (str "platform", .str (str "python")),
      (str "message", .str (str "cashew operation failed")),
      (str "tags", .dict [(str "operation", .str operation)]),
      (str "contexts", .dict [(str "cashew", .dict context)]),
      (str "breadcrumbs", .dict [(str "values", .list [])]),
      (str "exception", .dict [(str "values",
        .list [.dict [(str "type", .str errorType), (str "value", .str (str "redacted"))]])])]

/-- `_event` for an error of the named class. -/
def event (errorClass : Str) (operation : Value) (metadata : Metadata) :
    Except Fault Value := do
  let context ← safeMetadata metadata
  .ok (eventValue (Telemetry.operation operation) context (safeErrorClass errorClass))

/-- The first of the values, or an empty `dict`. -/
def firstValue : Value → Value
  | .list (first :: _) => first
  | _ => .dict []

def dictOf : Value → Option Items
  | .dict items => some items
  | _ => none

def canonicalEvent (event : Value) : Except Fault Value := do
  let tag := getIn (getIn event "tags") "operation"
  let rawContext := getIn (getIn event "contexts") "cashew"
  let first := firstValue (getIn (getIn event "exception") "values")
  let context ← safeMetadata { extra := dictOf rawContext }
  .ok (eventValue (operation tag) context
    ((safeName safeErrorClasses (getIn first "type")).getD (str "Exception")))

/-- `_final_envelope_bytes`, with what the SDK makes of an envelope of one event. -/
def finalEnvelopeBytes {Bytes : Type} (serialize : Value → Bytes) (event : Value) :
    Except Fault Bytes :=
  (canonicalEvent event).map serialize

/-- What becomes of an event of `capture`: it is made canonical before it is queued, before
the SDK adds to it, and before it is sent. -/
def sent {Bytes : Type} (enrich : Value → Value) (serialize : Value → Bytes) (event : Value) :
    Except Fault Bytes := do
  let queued ← canonicalEvent event
  let captured ← canonicalEvent queued
  finalEnvelopeBytes serialize (enrich captured)

/-! ## What an event discloses -/

abbrev Listed (names : List Str) := { name : Str // name ∈ names }

abbrev Counter := { value : Int // 0 ≤ value ∧ value ≤ 1000000000 }

abbrev Bucket := { ceiling : Nat // ceiling ∈ ceilings }

/-- What may be told of the state of the provider. -/
structure Facts where
  generation : Option Counter
  count : Option Counter
  queueDepth : Option Counter
  state : Option (Listed safeStates)
  fallback : Option (Listed safeFallbacks)
  duration : Option Bucket

structure Disclosed where
  operation : Option (Listed safeOperations)
  errorClass : Listed safeErrorClasses
  facts : Facts

def listed (names : List Str) : Value → Option (Listed names)
  | .str name => if safe : name ∈ names then some ⟨name, safe⟩ else none
  | _ => none

def clamp (value : Int) : Counter :=
  ⟨max 0 (min value 1000000000), by omega⟩

def clamped : Value → Option Counter
  | .int value => some (clamp value)
  | _ => none

def magnitude : Value → Option Int
  | .int value => some (value * scale)
  | .float (.finite value) => some (units value)
  | _ => none

theorem first_ceiling_mem (passes : Nat → Bool) : firstCeiling passes ∈ ceilings := by
  unfold firstCeiling
  cases found : ceilings.find? passes with
  | none => decide
  | some ceiling => exact List.mem_of_find?_eq_some found

def leastCeiling (number : Int) : Bucket :=
  ⟨firstCeiling fun ceiling => number ≤ (ceiling * scale : Nat), first_ceiling_mem _⟩

def duration (value : Value) : Option Bucket :=
  (magnitude value).map leastCeiling

def unclassified : Listed safeErrorClasses :=
  ⟨str "Exception", by decide⟩

def durationIn (context : Value) : Value :=
  match context with
  | .dict items => getOr items "duration_ms" (getOr items "duration_bucket_ms" .none)
  | _ => .none

def factsIn (context : Value) : Facts where
  generation := clamped (getIn context "generation")
  count := clamped (getIn context "count")
  queueDepth := clamped (getIn context "queue_depth")
  state := listed safeStates (getIn context "state")
  fallback := listed safeFallbacks (getIn context "fallback")
  duration := duration (durationIn context)

def disclosed (event : Value) : Disclosed :=
  let first := firstValue (getIn (getIn event "exception") "values")
  { operation := listed safeOperations (getIn (getIn event "tags") "operation")
    errorClass := (listed safeErrorClasses (getIn first "type")).getD unclassified
    facts := factsIn (getIn (getIn event "contexts") "cashew") }

def Facts.items (facts : Facts) : Items :=
  entry "generation" (facts.generation.map fun counter => .int counter.val) ++
      (entry "count" (facts.count.map fun counter => .int counter.val) ++
        entry "queue_depth" (facts.queueDepth.map fun counter => .int counter.val)) ++
    (entry "state" (facts.state.map fun name => .str name.val) ++
        entry "fallback" (facts.fallback.map fun name => .str name.val) ++
      entry "duration_bucket_ms" (facts.duration.map fun bucket => .int bucket.val))

/-- The event that says this and nothing more. -/
def render (disclosed : Disclosed) : Value :=
  eventValue ((disclosed.operation.map Subtype.val).getD (str "cashew.unknown"))
    disclosed.facts.items disclosed.errorClass.val

/-! ## Buckets -/

/-- Ceilings are compared without the places after the point. -/
theorem first_ceiling_scaled (number : Nat) :
    (firstCeiling fun ceiling => ((number * scale : Nat) : Int) ≤ (ceiling * scale : Nat)) =
      firstCeiling fun ceiling => number ≤ ceiling := by
  apply congrArg firstCeiling
  funext ceiling
  rw [decide_eq_decide, Int.ofNat_le]
  exact Nat.mul_le_mul_right_iff scale_pos

theorem least_ceiling_val (number : Int) :
    (leastCeiling number).val =
      firstCeiling fun ceiling => number ≤ (ceiling * scale : Nat) :=
  rfl

theorem least_ceiling_of_bucket (bucket : Bucket) :
    leastCeiling (bucket.val * scale : Nat) = bucket := by
  have fixed : ∀ ceiling ∈ ceilings,
      (firstCeiling fun other => ceiling ≤ other) = ceiling := by decide
  apply Subtype.ext
  rw [least_ceiling_val, first_ceiling_scaled]
  exact fixed bucket.val bucket.property

theorem least_ceiling_above {number : Int} (above : (86400000 * scale : Nat) < number) :
    (leastCeiling number).val = 86400000 := by
  have below : ∀ ceiling ∈ ceilings, ceiling ≤ 86400000 := by decide
  rw [least_ceiling_val, firstCeiling, List.find?_eq_none.mpr]
  · rfl
  · intro ceiling member
    have scaled := Nat.mul_le_mul_right scale (below ceiling member)
    rw [decide_eq_true_eq]
    omega

theorem least_ceiling_below {number : Int} (below : number ≤ 0) :
    (leastCeiling number).val = 1 := by
  rw [least_ceiling_val, firstCeiling, ceilings, List.find?_cons_of_pos]
  · rfl
  · rw [decide_eq_true_eq]
    omega

theorem units_whole_float (value : Nat) (small : value < 2 ^ 53) :
    units (wholeFloat value small) = (value * scale : Nat) :=
  if_neg Bool.noConfusion

theorem units_milliseconds (value : Finite) :
    units (milliseconds value) = max 0 (min (units value) (86400000 * scale : Nat)) := by
  unfold milliseconds maxFloat minFloat
  simp only [apply_ite units, units_whole_float]
  split <;> split <;> omega

/-- Clamping a duration leaves its bucket alone. -/
theorem bucket_of_eq (value : Finite) : bucketOf value = (leastCeiling (units value)).val := by
  unfold bucketOf
  rw [units_milliseconds]
  by_cases long : (86400000 * scale : Nat) < units value
  · have clamped : max 0 (min (units value) (86400000 * scale : Nat)) =
        (86400000 * scale : Nat) := by omega
    rw [least_ceiling_above long, clamped, first_ceiling_scaled]
    decide
  · apply congrArg firstCeiling
    funext ceiling
    rw [decide_eq_decide]
    omega

/-! ## Integers within the range of a float -/

/-- `float(value)` does not overflow. -/
def WithinFloat (value : Int) : Prop :=
  value.natAbs < wholeLimit

mutual

/-- Every integer in the value is within the range of a float. -/
def InRange : Value → Prop
  | .int value => WithinFloat value
  | .list items => ItemsInRange items
  | .dict items => MembersInRange items
  | _ => True

def ItemsInRange : List Value → Prop
  | [] => True
  | item :: rest => InRange item ∧ ItemsInRange rest

def MembersInRange : Items → Prop
  | [] => True
  | (_, value) :: rest => InRange value ∧ MembersInRange rest

end

theorem get_or_in_range {items : Items} {default_ : Value} (key : String)
    (members : MembersInRange items) (fallback : InRange default_) :
    InRange (getOr items key default_) := by
  induction items with
  | nil => exact fallback
  | cons member rest induction =>
      obtain ⟨name, value⟩ := member
      obtain ⟨first, later⟩ := members
      unfold getOr
      rw [SortedDict.get]
      split
      · exact first
      · exact induction later

theorem get_in_in_range {value : Value} (key : String) (inside : InRange value) :
    InRange (getIn value key) := by
  cases value with
  | dict items => exact get_or_in_range key inside trivial
  | _ => exact trivial

theorem duration_in_in_range {context : Value} (inside : InRange context) :
    InRange (durationIn context) := by
  cases context with
  | dict items => exact get_or_in_range _ inside (get_or_in_range _ inside trivial)
  | _ => exact trivial

theorem units_of_int {value : Int} (small : value.natAbs < 2 ^ 53) :
    units ⟨decide (value < 0), value.natAbs * scale, whole_representable small⟩ =
      value * scale := by
  unfold units
  dsimp only
  by_cases negative : value < 0
  · rw [decide_eq_true negative, if_pos rfl, Int.natCast_mul, ← Int.neg_mul]
    congr 1
    omega
  · rw [decide_eq_false negative, if_neg Bool.noConfusion, Int.natCast_mul]
    congr 1
    omega

/-- The float of a large integer is beyond the ceilings, on the side of the integer. -/
theorem units_of_large_int {value : Int} {float : Finite}
    (converted : ofInt value = .finite float) (large : 2 ^ 53 ≤ value.natAbs) :
    if value < 0 then units float ≤ 0 else (86400000 * scale : Nat) < units float := by
  unfold ofInt ofRatio at converted
  split at converted
  · rename_i representable
    cases converted
    unfold units
    dsimp only
    split
    · rename_i negative
      rw [decide_eq_true negative, if_pos rfl]
      omega
    · rename_i positive
      rw [decide_eq_false positive, if_neg Bool.noConfusion]
      have power : 2 ^ (53 + places) = 2 ^ 53 * scale := by rw [scale, ← Nat.pow_add]
      have scaled : 2 ^ (53 + places) ≤ value.natAbs * scale := by
        rw [power]
        exact Nat.mul_le_mul_right scale large
      have rounded := round_above (by omega) scaled
      have same : nearest value.natAbs 1 = roundEven (value.natAbs * scale)
          (spacing (value.natAbs * scale)) * spacing (value.natAbs * scale) := by
        rw [nearest, Nat.div_one, Nat.one_mul]
      have day : 86400000 * scale < 2 ^ (53 + places) := by
        rw [power]
        apply Nat.mul_lt_mul_of_pos_right _ scale_pos
        decide
      rw [same, Int.ofNat_lt]
      exact day.trans_le rounded
  · cases converted

/-- An integer has the bucket of its float. -/
theorem bucket_of_int {value : Int} {float : Finite} (converted : ofInt value = .finite float) :
    bucketOf float = (leastCeiling (value * scale)).val := by
  rw [bucket_of_eq]
  by_cases small : value.natAbs < 2 ^ 53
  · rw [of_int_small small] at converted
    cases converted
    rw [units_of_int small]
  · have large := Nat.not_lt.mp small
    have side := units_of_large_int converted large
    by_cases negative : value < 0
    · rw [if_pos negative] at side
      have scaled : value * scale ≤ 0 :=
        Int.mul_nonpos_of_nonpos_of_nonneg negative.le (Int.natCast_nonneg scale)
      rw [least_ceiling_below side, least_ceiling_below scaled]
    · rw [if_neg negative] at side
      have scaled : (86400000 * scale : Nat) < value * scale := by
        rw [Int.natCast_mul]
        apply Int.mul_lt_mul_of_pos_right _ (Int.natCast_pos.mpr scale_pos)
        omega
      rw [least_ceiling_above side, least_ceiling_above scaled]

theorem to_float_finite {value : Int} {float : Finite}
    (converted : ofInt value = .finite float) : toFloat value = .ok float := by
  rw [toFloat, converted, orOverflow]

theorem duration_bucket_returns {value : Value} (inside : InRange value) :
    ∃ bucket, durationBucket value = .ok bucket := by
  cases value with
  | int value =>
      have small : WithinFloat value := inside
      obtain ⟨float, converted⟩ := of_int_finite small
      refine ⟨some (bucketOf float), ?_⟩
      unfold durationBucket
      dsimp only
      rw [to_float_finite converted, Except.map]
  | float value =>
      cases value with
      | finite value => exact ⟨_, rfl⟩
      | _ => exact ⟨_, rfl⟩
  | _ => exact ⟨_, rfl⟩

/-- A bucket that comes back is the least ceiling. -/
theorem duration_bucket_ok {value : Value} {bucket : Option Nat}
    (read : durationBucket value = .ok bucket) : bucket = (duration value).map Subtype.val := by
  cases value with
  | int value =>
      unfold durationBucket toFloat at read
      dsimp only at read
      cases converted : ofInt value with
      | finite float =>
          rw [converted, orOverflow, Except.map] at read
          cases read
          rw [bucket_of_int converted, duration, magnitude, Option.map_some, Option.map_some]
      | _ =>
          rw [converted] at read
          cases read
  | float value =>
      cases value with
      | finite value =>
          cases read
          rw [bucket_of_eq, duration, magnitude, Option.map_some, Option.map_some]
      | _ =>
          cases read
          rfl
  | _ =>
      cases read
      rfl

/-! ## Metadata -/

theorem bounded_int_eq (value : Value) :
    (boundedInt value).map Value.int = (clamped value).map fun counter => .int counter.val := by
  cases value <;> rfl

theorem safe_name_eq (names : List Str) (value : Value) :
    safeName names value = (listed names value).map Subtype.val := by
  cases value with
  | str name =>
      unfold safeName listed
      dsimp only
      split <;> rfl
  | _ => rfl

def factsOf (given : Metadata) : Facts where
  generation := clamped given.generation
  count := clamped given.count
  queueDepth := clamped given.queueDepth
  state := listed safeStates given.state
  fallback := listed safeFallbacks given.fallback
  duration := duration given.durationMs

theorem safe_metadata_ok {metadata : Metadata} {items : Items}
    (told : safeMetadata metadata = .ok items) : items = (factsOf metadata.merged).items := by
  unfold safeMetadata at told
  dsimp only at told
  cases read : durationBucket metadata.merged.durationMs with
  | error fault =>
      rw [read] at told
      cases told
  | ok bucket =>
      rw [read] at told
      cases told
      rw [duration_bucket_ok read]
      simp only [bounded_int_eq, safe_name_eq, Option.map_map, List.append_assoc, factsOf,
        Facts.items]
      rfl

theorem safe_metadata_returns {metadata : Metadata}
    (inside : InRange metadata.merged.durationMs) :
    safeMetadata metadata = .ok (factsOf metadata.merged).items := by
  obtain ⟨bucket, read⟩ := duration_bucket_returns inside
  cases told : safeMetadata metadata with
  | ok items => rw [safe_metadata_ok told]
  | error fault =>
      unfold safeMetadata at told
      dsimp only at told
      rw [read] at told
      cases told

/-- A context in the place of the arguments. -/
theorem facts_of_extra (context : Value) :
    factsOf ({ extra := dictOf context } : Metadata).merged = factsIn context := by
  cases context with
  | dict items => cases items <;> rfl
  | _ => rfl

theorem duration_of_extra (context : Value) :
    ({ extra := dictOf context } : Metadata).merged.durationMs = durationIn context := by
  cases context with
  | dict items => cases items <;> rfl
  | _ => rfl

/-! ## Events -/

section

variable {event : Value}

theorem canonical_event_ok {canonical : Value} (told : canonicalEvent event = .ok canonical) :
    canonical = render (disclosed event) := by
  unfold canonicalEvent at told
  dsimp only at told
  cases context : safeMetadata { extra := dictOf (getIn (getIn event "contexts") "cashew") } with
  | error fault =>
      rw [context] at told
      cases told
  | ok items =>
      rw [context] at told
      cases told
      rw [safe_metadata_ok context, facts_of_extra]
      unfold render disclosed operation
      dsimp only
      rw [safe_name_eq, safe_name_eq]
      congr 1
      cases listed safeErrorClasses _ <;> rfl

theorem canonical_event_of_duration
    (inside : InRange (durationIn (getIn (getIn event "contexts") "cashew"))) :
    canonicalEvent event = .ok (render (disclosed event)) := by
  rw [← duration_of_extra] at inside
  have returns := safe_metadata_returns inside
  cases told : canonicalEvent event with
  | ok canonical => rw [canonical_event_ok told]
  | error fault =>
      unfold canonicalEvent at told
      dsimp only at told
      rw [returns] at told
      cases told

/-- The canonical form of an event is the event that says what this one discloses. -/
theorem canonical_event_eq (inside : InRange event) :
    canonicalEvent event = .ok (render (disclosed event)) :=
  canonical_event_of_duration
    (duration_in_in_range (get_in_in_range _ (get_in_in_range _ inside)))

end

theorem event_ok {errorClass : Str} {operation produced : Value} {metadata : Metadata}
    (told : event errorClass operation metadata = .ok produced) :
    ∃ disclosed, produced = render disclosed := by
  unfold event at told
  cases context : safeMetadata metadata with
  | error fault =>
      rw [context] at told
      cases told
  | ok items =>
      rw [context] at told
      cases told
      have named : ∃ name : Listed safeErrorClasses, safeErrorClass errorClass = name.val := by
        unfold safeErrorClass
        split
        · rename_i safe
          exact ⟨⟨errorClass, safe⟩, rfl⟩
        · exact ⟨unclassified, rfl⟩
      obtain ⟨name, same⟩ := named
      refine ⟨⟨listed safeOperations operation, name, factsOf metadata.merged⟩, ?_⟩
      rw [safe_metadata_ok context, same, Telemetry.operation, safe_name_eq]
      rfl

/-! ## An event that says nothing more -/

theorem get_append (key : Str) (first second : Items) :
    SortedDict.get key (first ++ second) =
      (SortedDict.get key first).or (SortedDict.get key second) := by
  induction first with
  | nil => rfl
  | cons member rest induction =>
      obtain ⟨name, value⟩ := member
      rw [List.cons_append, SortedDict.get, SortedDict.get]
      split
      · rfl
      · exact induction

theorem get_entry_same (key : String) (value : Option Value) :
    SortedDict.get (str key) (entry key value) = value := by
  cases value with
  | none => rfl
  | some value => exact if_pos rfl

theorem get_entry_other {key other : String} (value : Option Value)
    (apart : str key ≠ str other) :
    SortedDict.get (str key) (entry other value) = none := by
  cases value with
  | none => rfl
  | some value => exact if_neg apart

/-- A clamped counter is not clamped again. -/
theorem clamped_counter (counter : Option Counter) :
    clamped ((counter.map fun counter => .int counter.val).getD .none) = counter := by
  cases counter with
  | none => rfl
  | some counter =>
      have bounds := counter.property
      apply congrArg some
      apply Subtype.ext
      change max 0 (min counter.val 1000000000) = counter.val
      omega

theorem listed_name {names : List Str} (name : Option (Listed names)) :
    listed names ((name.map fun name => .str name.val).getD .none) = name := by
  cases name with
  | none => rfl
  | some name => exact dif_pos name.property

/-- A ceiling is its own bucket. -/
theorem duration_of_bucket (bucket : Option Bucket) :
    duration ((bucket.map fun bucket => .int bucket.val).getD .none) = bucket := by
  cases bucket with
  | none => rfl
  | some bucket =>
      rw [Option.map_some, Option.getD_some, duration, magnitude, Option.map_some,
        ← Int.natCast_mul, least_ceiling_of_bucket]

theorem duration_in_items (facts : Facts) :
    durationIn (.dict facts.items) =
      (facts.duration.map fun bucket => .int bucket.val).getD .none := by
  unfold durationIn getOr Facts.items
  simp (disch := decide) only [get_append, get_entry_same, get_entry_other, Option.or_none,
    Option.none_or, Option.getD_none]

theorem facts_of_items (facts : Facts) : factsIn (.dict facts.items) = facts := by
  unfold factsIn
  rw [duration_in_items, duration_of_bucket]
  unfold getIn getOr Facts.items
  simp (disch := decide) only [get_append, get_entry_same, get_entry_other, Option.or_none,
    Option.none_or, clamped_counter, listed_name]

theorem disclosed_render : Function.LeftInverse disclosed render := by
  intro told
  have operation : listed safeOperations (.str ((told.operation.map Subtype.val).getD
      (str "cashew.unknown"))) = told.operation := by
    cases told.operation with
    | none => rfl
    | some name => exact listed_name (some name)
  have errorClass : (listed safeErrorClasses (.str told.errorClass.val)).getD unclassified =
      told.errorClass :=
    congrArg (·.getD unclassified) (listed_name (some told.errorClass))
  have same : disclosed (render told) =
      ⟨listed safeOperations (.str ((told.operation.map Subtype.val).getD
          (str "cashew.unknown"))),
        (listed safeErrorClasses (.str told.errorClass.val)).getD unclassified,
        factsIn (.dict told.facts.items)⟩ := rfl
  rw [same, operation, errorClass, facts_of_items]

theorem bucket_in_range (bucket : Option Bucket) :
    InRange ((bucket.map fun bucket => .int bucket.val).getD .none) := by
  cases bucket with
  | none => exact trivial
  | some bucket =>
      have all : ∀ ceiling ∈ ceilings, ceiling < 2 ^ 54 - 1 := by decide
      have limit : 2 ^ 54 - 1 ≤ wholeLimit := by
        unfold wholeLimit
        apply Nat.le_mul_of_pos_right
        apply Nat.pow_pos
        exact Nat.two_pos
      exact (all bucket.val bucket.property).trans_le limit

/-- An event that says no more than it may is its own canonical form. -/
theorem canonical_event_render (told : Disclosed) :
    canonicalEvent (render told) = .ok (render told) := by
  have context : getIn (getIn (render told) "contexts") "cashew" = .dict told.facts.items := rfl
  have inside := bucket_in_range told.facts.duration
  rw [← duration_in_items, ← context] at inside
  rw [canonical_event_of_duration inside, disclosed_render told]

/-- What the SDK adds to an event is not sent. -/
theorem sent_of_enriched {Bytes : Type} {enrich : Value → Value} (serialize : Value → Bytes)
    {event : Value} (inside : InRange event)
    (keeps : ∀ told, InRange (enrich (render told)) ∧ disclosed (enrich (render told)) = told) :
    sent enrich serialize event = .ok (serialize (render (disclosed event))) := by
  obtain ⟨enriched, same⟩ := keeps (disclosed event)
  unfold sent finalEnvelopeBytes
  simp only [canonical_event_eq inside, canonical_event_render, canonical_event_eq enriched, same,
    bind, Except.bind, Except.map]

/-- An event is made canonical once, an event of the provider is canonical, what is sent of an
event depends on what it discloses alone, and what the SDK adds to it is not sent. -/
theorem telemetry_is_canonical {Bytes : Type} (serialize : Value → Bytes) :
    (∀ event, InRange event → ∃ canonical, canonicalEvent event = .ok canonical ∧
      canonicalEvent canonical = .ok canonical) ∧
    (∀ errorClass operation metadata produced,
      event errorClass operation metadata = .ok produced →
        canonicalEvent produced = .ok produced) ∧
    (∀ first second, InRange first → InRange second → disclosed first = disclosed second →
      canonicalEvent first = canonicalEvent second ∧
        finalEnvelopeBytes serialize first = finalEnvelopeBytes serialize second) ∧
    ∀ enrich event, InRange event →
      (∀ told, InRange (enrich (render told)) ∧ disclosed (enrich (render told)) = told) →
      sent enrich serialize event = .ok (serialize (render (disclosed event))) := by
  refine ⟨?_, ?_, ?_, ?_⟩
  · intro event inside
    exact ⟨_, canonical_event_eq inside, canonical_event_render _⟩
  · intro errorClass operation metadata produced told
    obtain ⟨disclosed, rfl⟩ := event_ok told
    exact canonical_event_render disclosed
  · intro first second first_inside second_inside same
    have equal : canonicalEvent first = canonicalEvent second := by
      rw [canonical_event_eq first_inside, canonical_event_eq second_inside, same]
    exact ⟨equal, congrArg (Except.map serialize) equal⟩
  · intro enrich event inside keeps
    exact sent_of_enriched serialize inside keeps

end HermesCashew.Telemetry
