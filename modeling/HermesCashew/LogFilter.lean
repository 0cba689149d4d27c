import Mathlib.Data.List.Basic
import Mathlib.Logic.Function.Basic

/-!
# The log boundary

`ScrubFilter`, the boundary handlers of `acquire_provider_scrub_filters` and the walk of
`Logger.callHandlers` that they take part in. A record is one shared object, so the walk
carries it along and every delivery keeps the record as the handler emits it.

The name of a logger lists its innermost component first, so its parent is the tail and the
root is empty. A logger that does not exist is like one with level 0, no handlers and
`propagate` set.
-/

namespace HermesCashew.LogFilter

set_option autoImplicit false

/-! ## Records -/

/-- An object other than a number or a string stands as its `str`. -/
inductive Argument where
  | boolean (value : Bool)
  | integer (value : Int)
  | real (text : String)
  | text (value : String)
  | object (text : String)
  deriving DecidableEq, Repr

inductive Arguments where
  | absent
  | positional (values : List Argument)
  | mapping (entries : List (Argument × Argument))
  | object (text : String)
  deriving DecidableEq, Repr

inductive Message where
  | text (template : String)
  | object (text : String)
  deriving DecidableEq, Repr

/-- `record.exc_info`, as `sys.exc_info` gives it. -/
inductive ExcInfo where
  | absent
  | empty
  | raised (className : String) (text : String) (traceback : Option String)
  deriving DecidableEq, Repr

structure LogRecord where
  name : String
  pathname : String
  levelno : Nat
  msg : Message
  args : Arguments := .absent
  excInfo : ExcInfo := .absent
  excText : Option String := none
  stackInfo : Option String := none
  cashewScrubbed : Bool := false
  deriving DecidableEq, Repr

/-- The file system and the installation. `resolve` is `none` where the path cannot be
resolved. -/
structure Sources where
  resolve : String → Option (List String)
  packageDir : List String
  upstreamSourceDir : Option (List String)

def Sources.sourceDirs (sources : Sources) : List (List String) :=
  sources.packageDir :: sources.upstreamSourceDir.toList

def isOwnedSource (sources : Sources) (record : LogRecord) : Bool :=
  match sources.resolve record.pathname with
  | some source => sources.sourceDirs.any fun directory => directory.isPrefixOf source
  | none => false

def adapterName : String := "plugins.memory.cashew"

def isAdapterSource (sources : Sources) (record : LogRecord) : Bool :=
  adapterName.toList.isPrefixOf record.name.toList &&
    match sources.resolve record.pathname with
    | some source => sources.packageDir.isPrefixOf source
    | none => false

/-! ## Safe arguments -/

def redacted : Argument := .text "<redacted>"

def safeEnvCharacter (character : Char) : Bool :=
  ('A' ≤ character && character ≤ 'Z') || ('0' ≤ character && character ≤ '9') ||
    character == '_'

/-- `_SAFE_ENV_NAME.fullmatch`. -/
def safeEnvName (value : String) : Bool :=
  let lead := "CASHEW_".toList
  let rest := value.toList.drop lead.length
  lead.isPrefixOf value.toList && !rest.isEmpty && rest.all safeEnvCharacter

def safeArgument : Argument → Argument
  | .boolean value => .boolean value
  | .integer value => .integer value
  | .real text => .real text
  | .text value => if safeEnvName value then .text value else redacted
  | .object _ => redacted

/-- `str` of a mapping key. -/
def Argument.str : Argument → String
  | .boolean true => "True"
  | .boolean false => "False"
  | .integer value => toString value
  | .real shown => shown
  | .text value => value
  | .object shown => shown

/-- `entries[key] = value` on a dictionary in insertion order. -/
def assign (entries : List (Argument × Argument)) (key value : Argument) :
    List (Argument × Argument) :=
  if entries.any fun entry => entry.1 == key then
    entries.map fun entry => if entry.1 == key then (key, value) else entry
  else entries ++ [(key, value)]

def safeEntries (entries : List (Argument × Argument)) : List (Argument × Argument) :=
  entries.foldl (fun safe entry => assign safe (.text entry.1.str) (safeArgument entry.2)) []

def safeArguments : Arguments → Arguments
  | .mapping entries => .mapping (safeEntries entries)
  | .positional values => .positional (values.map safeArgument)
  | .absent => .positional []
  | .object _ => .positional []

def safeEmbedOperations : List String := ["start", "encode", "close"]

def safeEmbedReasons : List String :=
  ["busy", "closed", "exited", "owned", "protocol", "startup", "timeout"]

def safeIdentityStates : List String := ["could not be verified", "inspection deferred"]

/-- `value in vocabulary`. -/
def within (vocabulary : List String) : Argument → Bool
  | .text value => vocabulary.contains value
  | _ => false

def safeWord (vocabulary : List String) (value : Argument) : Argument :=
  if within vocabulary value then value else redacted

def safeEmbeddingFailureArguments : Arguments → Arguments
  | .positional [operation, generation, _, _, _, _, count, reason, exitCode, elapsed] =>
      .positional
        [safeWord safeEmbedOperations operation, safeArgument generation, redacted, redacted,
          redacted, redacted, safeArgument count, safeWord safeEmbedReasons reason,
          safeArgument exitCode, safeArgument elapsed]
  | args => safeArguments args

def safeIdentityLockArguments : Arguments → Arguments
  | .positional [state, _] => .positional [safeWord safeIdentityStates state, redacted]
  | args => safeArguments args

def safeExceptionClasses : List String :=
  ["Exception", "ImportError", "KeyError", "OSError", "OperationalError", "RuntimeError",
    "TimeoutError", "TypeError", "ValueError"]

def safeErrorClass : Option String → String
  | some className => if safeExceptionClasses.contains className then className else "Exception"
  | none => "Exception"

/-! ## `ScrubFilter.filter` -/

/-- The class of `record.exc_info[1]`. -/
def LogRecord.error (record : LogRecord) : Option String :=
  match record.excInfo with
  | .raised className _ _ => some className
  | _ => none

def LogRecord.suffix (record : LogRecord) : String :=
  match record.error with
  | some className => " error=" ++ safeErrorClass (some className)
  | none => ""

def LogRecord.template (record : LogRecord) : String :=
  match record.msg with
  | .text template => template
  | .object _ => ""

def embeddingFailureTemplate : String := "embedding worker failure:"

def identityLockTemplate : String := "embedding identity %s; unable to acquire"

def adapterArguments (template : String) (args : Arguments) : Arguments :=
  if embeddingFailureTemplate.toList.isPrefixOf template.toList then
    safeEmbeddingFailureArguments args
  else if identityLockTemplate.toList.isPrefixOf template.toList then
    safeIdentityLockArguments args
  else safeArguments args

def scrubbedExcInfo (record : LogRecord) : ExcInfo :=
  match record.error with
  | some className =>
      .raised "Exception" ("cashew error " ++ safeErrorClass (some className)) none
  | none => record.excInfo

/-- What the filter leaves of a record that it rewrites. -/
def rewrite (sources : Sources) (record : LogRecord) : LogRecord :=
  { record with
    msg :=
      if isAdapterSource sources record then .text (record.template ++ record.suffix)
      else .text ("cashew local log event" ++ record.suffix)
    args :=
      if isAdapterSource sources record then adapterArguments record.template record.args
      else .absent
    excInfo := scrubbedExcInfo record
    excText := none
    stackInfo := none
    cashewScrubbed := true }

def scrub (sources : Sources) (sourceScoped : Bool) (record : LogRecord) : LogRecord :=
  if record.cashewScrubbed then record
  else if sourceScoped && !isOwnedSource sources record then record
  else rewrite sources record

/-! ## Loggers and handlers -/

abbrev Name := List String

inductive Filter where
  | host (identity : Nat)
  | scrub (identity : Nat) (sourceScoped : Bool)
  deriving DecidableEq, Repr

/-- A `_ForwardToInheritedHandlers` has level `NOTSET` and one `ScrubFilter`. -/
inductive Handler where
  | host (identity : Nat)
  | boundary (identity : Nat) (sourceScoped : Bool)
  deriving DecidableEq, Repr

structure HostHandler where
  level : Nat := 0
  filters : List Filter := []
  deriving DecidableEq, Repr

structure Logger where
  level : Nat := 0
  handlers : List Handler := []
  propagate : Bool := true
  deriving DecidableEq, Repr

/-- An element of `_SCRUB_INSTALLS`. -/
structure Install where
  logger : Name
  originalPropagate : Bool
  installed : List (Nat × Filter)
  boundary : Handler
  deriving DecidableEq, Repr

/-- The logging state of the process. `fresh` names the next object; the last install stands
first. -/
structure Logging where
  loggers : Name → Logger := fun _ => {}
  hosts : Nat → HostHandler := fun _ => {}
  lastResort : Option Nat := some 30
  fresh : Nat := 0
  scrubRefs : Nat := 0
  scrubInstalls : List Install := []

def Logging.setLogger (logging : Logging) (name : Name) (logger : Logger) : Logging :=
  { logging with loggers := Function.update logging.loggers name logger }

def Logging.setFilters (logging : Logging) (handler : Nat) (filters : List Filter) : Logging :=
  { logging with
    hosts := Function.update logging.hosts handler
      { logging.hosts handler with filters := filters } }

/-- `handler.addFilter`. -/
def Logging.addFilter (logging : Logging) (handler : Nat) (filter : Filter) : Logging :=
  let filters := (logging.hosts handler).filters
  if filter ∈ filters then logging else logging.setFilters handler (filters ++ [filter])

def Logging.removeFilter (logging : Logging) (handler : Nat) (filter : Filter) : Logging :=
  logging.setFilters handler ((logging.hosts handler).filters.erase filter)

/-- `logger.addHandler`. -/
def Logging.addHandler (logging : Logging) (name : Name) (handler : Handler) : Logging :=
  let logger := logging.loggers name
  if handler ∈ logger.handlers then logging
  else logging.setLogger name { logger with handlers := logger.handlers ++ [handler] }

def Logging.removeHandler (logging : Logging) (name : Name) (handler : Handler) : Logging :=
  let logger := logging.loggers name
  logging.setLogger name { logger with handlers := logger.handlers.erase handler }

def Logging.setPropagate (logging : Logging) (name : Name) (propagate : Bool) : Logging :=
  logging.setLogger name { logging.loggers name with propagate := propagate }

/-! ## Acquiring and releasing the boundary -/

def cashewLogger : Name := ["cashew", "memory", "plugins"]

def coreLogger : Name := ["core"]

def boundaryLoggers : List (Name × Bool) :=
  [(cashewLogger, false), (coreLogger, true), ([], true)]

/-- A new `ScrubFilter` for one handler of a logger. A boundary is installed only where none
is, so only host handlers get one. -/
def scrubHandler (sourceScoped : Bool) (state : Logging × List (Nat × Filter)) :
    Handler → Logging × List (Nat × Filter)
  | .host handler =>
      let filter := Filter.scrub state.1.fresh sourceScoped
      ({ state.1.addFilter handler filter with fresh := state.1.fresh + 1 },
        state.2 ++ [(handler, filter)])
  | .boundary _ _ => state

def installBoundary (logging : Logging) (place : Name × Bool) : Logging :=
  let logger := logging.loggers place.1
  let (scrubbing, installed) := logger.handlers.foldl (scrubHandler place.2) (logging, [])
  let boundary := Handler.boundary scrubbing.fresh place.2
  { (scrubbing.addHandler place.1 boundary).setPropagate place.1 false with
    fresh := scrubbing.fresh + 1
    scrubInstalls :=
      { logger := place.1
        originalPropagate := logger.propagate
        installed := installed
        boundary := boundary } :: scrubbing.scrubInstalls }

def acquireProviderScrubFilters (logging : Logging) : Logging :=
  let counted := { logging with scrubRefs := logging.scrubRefs + 1 }
  if counted.scrubRefs ≠ 1 then counted
  else boundaryLoggers.foldl installBoundary counted

def removeBoundary (logging : Logging) (install : Install) : Logging :=
  let removed := logging.removeHandler install.logger install.boundary
  let unfiltered := install.installed.foldl
    (fun state filtered => state.removeFilter filtered.1 filtered.2) removed
  if (unfiltered.loggers install.logger).propagate = false then
    unfiltered.setPropagate install.logger install.originalPropagate
  else unfiltered

def releaseProviderScrubFilters (logging : Logging) : Logging :=
  if logging.scrubRefs = 0 then logging
  else
    let counted := { logging with scrubRefs := logging.scrubRefs - 1 }
    if counted.scrubRefs ≠ 0 then counted
    else
      { counted.scrubInstalls.foldl removeBoundary counted with scrubInstalls := [] }

/-! ## Delivery -/

/-- The handler was reached in the list of the logger `via`. -/
structure Delivery where
  via : Name
  handler : Nat
  record : LogRecord
  deriving DecidableEq, Repr

structure Progress where
  record : LogRecord
  delivered : List Delivery := []
  lastResort : Bool := false
  deriving DecidableEq, Repr

section

variable (sources : Sources) (logging : Logging)

def applyFilter (record : LogRecord) : Filter → LogRecord
  | .host _ => record
  | .scrub _ sourceScoped => scrub sources sourceScoped record

/-- One turn of a loop over the handlers of `via`; `forward` is `emit` of a boundary there. -/
def handle (via : Name) (forward : Progress → Progress) (progress : Progress) :
    Handler → Progress
  | .host handler =>
      if (logging.hosts handler).level ≤ progress.record.levelno then
        let record :=
          (logging.hosts handler).filters.foldl (applyFilter sources) progress.record
        { progress with
          record := record
          delivered := progress.delivered ++ [⟨via, handler, record⟩] }
      else progress
  | .boundary _ sourceScoped =>
      forward { progress with record := scrub sources sourceScoped progress.record }

def resorts (level : Nat) : Bool :=
  logging.lastResort.any fun resort => resort ≤ level

/-- `logging.lastResort` after a walk that found no handler. -/
def resort (walked : Progress × Bool) : Progress :=
  if !walked.2 && resorts logging walked.1.record.levelno then
    { walked.1 with lastResort := true }
  else walked.1

/-- The loop over a logger and its ancestors, and whether it found a handler. A boundary
repeats it from the parent of its own logger. -/
def walk : Name → Progress → Progress × Bool
  | [], progress =>
      let logger := logging.loggers []
      (logger.handlers.foldl (handle sources logging [] id) progress, !logger.handlers.isEmpty)
  | component :: parent, progress =>
      let name := component :: parent
      let logger := logging.loggers name
      let emit := fun reached => resort logging (walk parent reached)
      let handled := logger.handlers.foldl (handle sources logging name emit) progress
      if logger.propagate then
        let above := walk parent handled
        (above.1, !logger.handlers.isEmpty || above.2)
      else (handled, !logger.handlers.isEmpty)

def effectiveLevel : Name → Nat
  | [] => (logging.loggers []).level
  | component :: parent =>
      if (logging.loggers (component :: parent)).level ≠ 0 then
        (logging.loggers (component :: parent)).level
      else effectiveLevel parent

/-- `logger.handle` of a record that the logger is enabled for. -/
def log (name : Name) (record : LogRecord) : Progress :=
  if effectiveLevel logging name ≤ record.levelno then
    resort logging (walk sources logging name { record := record })
  else { record := record }

end

end HermesCashew.LogFilter
