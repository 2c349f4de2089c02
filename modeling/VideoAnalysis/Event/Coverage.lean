import VideoAnalysis.Foundation.Machine
import VideoAnalysis.Lifecycle.Contract

/-! # Evidence coverage

`create_evidence_task` on an autocommit connection: the parent lookup, the
`SELECT … FOR UPDATE`, the guarded update of the parent's window, the insert of
the child and the upsert of its link are separate statements, so other event
workers and the media worker may act between any two of them. Times are integer
milliseconds, windows whole seconds.
-/

namespace VideoAnalysis.Event

open Foundation
open Lifecycle (MaterializationStatus MaterializationPhase)

structure CoverageConfig where
  mergeEnabled : Bool
  eventTypes : List String
  windowMs : Int
  parentMaxDurationSeconds : Int

/-- What `_evidence_task_initial_status` answers for the event. -/
inductive InitialStatus
  | pending
  | manifestReady
  | notImplemented
  deriving DecidableEq

/-- What `create_evidence_task` takes from the event it is called for. -/
structure CoverageEvent where
  eventId : String
  sourceId : String
  eventType : String
  eventTsMs : Int
  preSeconds : Int
  postSeconds : Int
  initialStatus : InitialStatus
  hasRuntimeEpoch : Bool
  deriving DecidableEq

structure CoverageTask where
  eventId : String
  sourceId : String
  eventType : String
  eventTsMs : Int
  preSeconds : Int
  postSeconds : Int
  status : MaterializationStatus
  phase : MaterializationPhase
  leaseToken : Option String
  createdAt : Int
  deriving DecidableEq

/-! ## Choosing the parent -/

def CoverageTask.typeRank (task : CoverageTask) (event : CoverageEvent) : Nat :=
  if task.eventType = event.eventType then 0 else 1

def CoverageTask.distance (task : CoverageTask) (event : CoverageEvent) : Nat :=
  (task.eventTsMs - event.eventTsMs).natAbs

variable (config : CoverageConfig)

variable (event : CoverageEvent)

/-- The `WHERE` of `_coverage_parent_event_id`. -/
def coverageCandidate (task : CoverageTask) : Bool :=
  decide (task.eventId ≠ event.eventId) && decide (task.sourceId = event.sourceId) &&
    config.eventTypes.contains task.eventType &&
    decide (task.eventTsMs - max task.preSeconds 0 * 1000 - config.windowMs ≤ event.eventTsMs) &&
    decide (event.eventTsMs ≤
      task.eventTsMs + max task.postSeconds 0 * 1000 + config.windowMs) &&
    decide (task.status ≠ .expired ∧ task.status ≠ .failed ∧ task.status ≠ .skipped)

/-- The `ORDER BY` of `_coverage_parent_event_id`. -/
def orderedBefore (left right : CoverageTask) : Bool :=
  decide (left.typeRank event < right.typeRank event) ||
    decide (left.typeRank event = right.typeRank event) &&
      (decide (left.distance event < right.distance event) ||
        decide (left.distance event = right.distance event) &&
          decide (left.createdAt ≤ right.createdAt))

def coverageLookupEnabled : Bool :=
  config.mergeEnabled && decide (event.sourceId ≠ "") &&
    config.eventTypes.contains event.eventType && decide (0 < event.eventTsMs) &&
    decide (0 < config.windowMs)

/-- `selected` is a row that the lookup may return: ties of the order are left open. -/
def maySelect (tasks : List CoverageTask) (event : CoverageEvent)
    (selected : Option CoverageTask) : Bool :=
  let candidates := tasks.filter (coverageCandidate config event)
  match selected with
  | none => !coverageLookupEnabled config event || candidates.isEmpty
  | some task =>
    coverageLookupEnabled config event && candidates.contains task &&
      candidates.all (orderedBefore event task)

/-! ## Extending the parent's window -/

inductive ExtensionRefusal
  | parentMissing
  | parentNotWaiting
  | parentAlreadyLeased
  | parentMissingEventTsMs
  | parentMaxDurationExceeded
  | alreadyCovered

inductive ExtensionDecision
  | refused (reason : ExtensionRefusal)
  | extend (preSeconds postSeconds : Int)

def CoverageTask.leased (task : CoverageTask) : Bool :=
  decide (task.leaseToken.getD "" ≠ "")

def CoverageTask.waiting (task : CoverageTask) : Bool :=
  task.status.claimable && decide (task.phase = .waitingReady ∨ task.phase = .waitingCoverage)

def requiredPre (parent : CoverageTask) (event : CoverageEvent) : Int :=
  let childStart := event.eventTsMs - max 0 event.preSeconds * 1000
  max parent.preSeconds (max 0 (parent.eventTsMs - childStart + 999) / 1000)

def requiredPost (parent : CoverageTask) (event : CoverageEvent) : Int :=
  let childEnd := event.eventTsMs + max 0 event.postSeconds * 1000
  max parent.postSeconds (max 0 (childEnd - parent.eventTsMs + 999) / 1000)

/-- What `_extend_coverage_parent_window` decides on the row it has locked. -/
def extensionDecision : Option CoverageTask → ExtensionDecision
  | none => .refused .parentMissing
  | some parent =>
    if parent.status.claimable = false then .refused .parentNotWaiting
    else if parent.leased then .refused .parentAlreadyLeased
    else if parent.waiting = false then .refused .parentNotWaiting
    else if parent.eventTsMs ≤ 0 then .refused .parentMissingEventTsMs
    else if 0 < config.parentMaxDurationSeconds ∧
        config.parentMaxDurationSeconds < requiredPre parent event + requiredPost parent event
      then .refused .parentMaxDurationExceeded
    else if requiredPre parent event = parent.preSeconds ∧
        requiredPost parent event = parent.postSeconds
      then .refused .alreadyCovered
    else .extend (requiredPre parent event) (requiredPost parent event)

/-- The `WHERE` of the window update beside the event id. -/
def CoverageTask.extendable (task : CoverageTask) : Bool := task.waiting && !task.leased

def CoverageTask.withWindow (task : CoverageTask) (preSeconds postSeconds : Int) :
    CoverageTask :=
  { task with preSeconds, postSeconds }

/-! ## The new task -/

def uncoveredStatus (admitted : Bool) : MaterializationStatus × MaterializationPhase :=
  let initial : MaterializationStatus := match event.initialStatus with
    | .pending => if admitted then .pending else .skipped
    | .manifestReady => .manifestReady
    | .notImplemented => .skipped
  if initial.claimable then
    if Lifecycle.strip event.sourceId.toList = [] ∨ event.hasRuntimeEpoch = false then
      (.failed, .manualQuarantine)
    else (initial, .waitingReady)
  else (initial, .terminal)

def newTask (covered admitted : Bool) (createdAt : Int) : CoverageTask :=
  let family := if covered then (.deferred, .terminal) else uncoveredStatus event admitted
  { eventId := event.eventId
    sourceId := event.sourceId
    eventType := event.eventType
    eventTsMs := event.eventTsMs
    preSeconds := event.preSeconds
    postSeconds := event.postSeconds
    status := family.1
    phase := family.2
    leaseToken := none
    createdAt }

/-! ## The statements of the workers -/

/-- Where one event worker stands in `create_evidence_task`. -/
inductive CreatorPhase
  | idle
  | lookingUp (event : CoverageEvent)
  | locking (event : CoverageEvent) (parent : String)
  | extending (event : CoverageEvent) (parent : String) (preSeconds postSeconds : Int)
  | inserting (event : CoverageEvent) (parent : Option String)
  | linking (event : CoverageEvent) (parent : String)
  deriving DecidableEq

structure CoverageState where
  tasks : List CoverageTask
  links : List (String × String)
  workers : List CreatorPhase
  deriving DecidableEq

def CoverageState.task (state : CoverageState) (eventId : String) : Option CoverageTask :=
  state.tasks.find? fun task => decide (task.eventId = eventId)

variable (state : CoverageState)

/-- `UPDATE evidence_tasks … WHERE event_id = … AND guard`. -/
def CoverageState.update (eventId : String) (guard : CoverageTask → Bool)
    (write : CoverageTask → CoverageTask) : CoverageState :=
  { state with
    tasks := state.tasks.map fun task =>
      if task.eventId = eventId ∧ guard task = true then write task else task }

def CoverageState.insert (task : CoverageTask) : CoverageState :=
  if (state.task task.eventId).isSome then state
  else { state with tasks := state.tasks ++ [task] }

def CoverageState.upsertLink (eventId bundle : String) : CoverageState :=
  { state with
    links := (eventId, bundle) :: state.links.filter fun link => decide (link.1 ≠ eventId) }

def CoverageState.goto (worker : Nat) (phase : CreatorPhase) : CoverageState :=
  { state with workers := state.workers.set worker phase }

inductive CoverageLabel
  | begin (worker : Nat) (event : CoverageEvent)
  | lookUp (worker : Nat) (selected : Option CoverageTask)
  | lockParent (worker : Nat)
  | extendParent (worker : Nat)
  | insertTask (worker : Nat) (admitted : Bool) (createdAt : Int)
  | upsertLink (worker : Nat)
  | abandon (worker : Nat)
  | mediaWorker (eventId : String) (status : MaterializationStatus)
      (phase : MaterializationPhase) (leaseToken : Option String)

def lockedPhase (parent : String) (row : Option CoverageTask) : CreatorPhase :=
  match extensionDecision config event row with
  | .extend preSeconds postSeconds => .extending event parent preSeconds postSeconds
  | .refused .parentMaxDurationExceeded => .inserting event none
  | .refused _ => .inserting event (some parent)

/-- `COALESCE(link.bundle_event_id, et.event_id)`. -/
def CoverageState.bundle (task : CoverageTask) : String :=
  (state.links.lookup task.eventId).getD task.eventId

def coverageStep : CoverageLabel → Option CoverageState
  | .begin worker event =>
    match state.workers[worker]? with
    | some .idle => some (state.goto worker (.lookingUp event))
    | _ => none
  | .lookUp worker selected =>
    match state.workers[worker]? with
    | some (.lookingUp event) =>
      if maySelect config state.tasks event selected then
        match selected with
        | none => some (state.goto worker (.inserting event none))
        | some task => some (state.goto worker (.locking event (state.bundle task)))
      else none
    | _ => none
  | .lockParent worker =>
    match state.workers[worker]? with
    | some (.locking event parent) =>
      some (state.goto worker (lockedPhase config event parent (state.task parent)))
    | _ => none
  | .extendParent worker =>
    match state.workers[worker]? with
    | some (.extending event parent preSeconds postSeconds) =>
      some ((state.update parent CoverageTask.extendable
        (·.withWindow preSeconds postSeconds)).goto worker (.inserting event (some parent)))
    | _ => none
  | .insertTask worker admitted createdAt =>
    match state.workers[worker]? with
    | some (.inserting event none) =>
      some ((state.insert (newTask event false admitted createdAt)).goto worker .idle)
    | some (.inserting event (some parent)) =>
      some ((state.insert (newTask event true admitted createdAt)).goto worker
        (.linking event parent))
    | _ => none
  | .upsertLink worker =>
    match state.workers[worker]? with
    | some (.linking event parent) =>
      -- `evidence_event_links_not_self` refuses the other case
      if event.eventId ≠ parent then
        some ((state.upsertLink event.eventId parent).goto worker .idle)
      else none
    | _ => none
  | .abandon worker =>
    if worker < state.workers.length then some (state.goto worker .idle) else none
  | .mediaWorker eventId status phase leaseToken =>
    -- no statement of the media worker matches a terminal row
    some (state.update eventId (fun task => !task.status.isTerminal)
      fun task => { task with status, phase, leaseToken })

/-- Any database, and any number of event workers that have not begun. -/
def coverageMachine : Machine CoverageState CoverageLabel where
  initial state := ∀ phase ∈ state.workers, phase = .idle
  step := coverageStep config

end VideoAnalysis.Event
