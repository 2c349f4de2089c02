import VideoAnalysis.Clip.Executor

/-! # The record request processor

`ClipRequestProcessorV2.__call__` inside `ClipCoordinator.process_one`, as a program
whose steps are single statements, and any number of deliveries of one event. The
deliveries of other events meet this one in `release_timed_out_replay_slots` and in
the counts of admission only.
-/

namespace VideoAnalysis.Clip

open Foundation Lifecycle

/-! ## Named state operations -/

/-- The operator states that the processor passes on. -/
inductive EvidenceState
  | waitingProof
  | queued
  | materializationPending
  | failed
  | materializationFailed
  | materializationDeferred

def EvidenceState.value : EvidenceState → String
  | .waitingProof => "waiting_proof"
  | .queued => "queued"
  | .materializationPending => "materialization_pending"
  | .failed => "failed"
  | .materializationFailed => "materialization_failed"
  | .materializationDeferred => "materialization_deferred"

/-- `materialization_status_for_operator_state`. -/
def EvidenceState.materializationStatus : EvidenceState → MaterializationStatus
  | .waitingProof | .queued | .materializationPending => .pending
  | .failed | .materializationFailed => .failed
  | .materializationDeferred => .deferred

def markStatus (status : String) (state : EvidenceState) (reason message : String)
    (attemptCount : Option Nat) (shardId : String) : ClipStatusUpdate where
  status
  evidenceState := state.value
  target := state.materializationStatus
  reasonCode := reason
  errorMessage := message
  replayJobId := ""
  attemptCount
  deadlineAt := none
  shardId

def markPending (state : EvidenceState) (reason message : String) (attemptCount : Option Nat)
    (shardId : String) : ClipStatusUpdate :=
  markStatus "pending" state reason message attemptCount shardId

def markFailed (state : EvidenceState) (reason message : String) (attemptCount : Option Nat)
    (shardId : String) : ClipStatusUpdate :=
  markStatus "failed" state reason message attemptCount shardId

def markTerminalDeferred (reason message shardId : String) : ClipStatusUpdate :=
  markStatus "materialization_deferred" .materializationDeferred reason message none shardId

def markSkipped (message shardId : String) : ClipStatusUpdate :=
  markStatus "skipped_by_poc_limit" .materializationFailed message message none shardId

def terminalEvidenceStates : List String :=
  ["failed", "generated", "generated_annotation_failed", "generated_corrupt",
    "generated_unverified", "materialization_expired", "materialization_failed",
    "materialization_skipped", "materialized", "media_deleted", "media_expired", "ready",
    "skipped_by_poc_limit"]

def EventRow.evidenceState (event : EventRow) : String :=
  (event.media.lookup "evidence_state").getD ""

/-- The columns `terminal_evidence_state` looks at, in its order. -/
def evidenceValues (task : Option ClipTask) (event : EventRow) : List String :=
  (task.map fun task => [task.lifecycle.materializationStatus.value, task.lifecycle.status]).getD
      [] ++
    [event.evidenceState, event.mediaStatus]

def terminalEvidenceState (rows : ClipRows) : String :=
  match rows.event with
  | none => ""
  | some event =>
    ((evidenceValues rows.task event).find? (terminalEvidenceStates.contains ·)).getD ""

/-! ## The program -/

inductive Malformation
  | jsonInvalid
  | missingEventId
  deriving DecidableEq

def Malformation.reason : Malformation → String
  | .jsonInvalid => "record_request_json_invalid"
  | .missingEventId => "record_request_missing_event_id"

structure Delivery where
  malformed : Option Malformation
  retryCount : Nat
  request : ExecRequest
  deriving DecidableEq

/-- What becomes of the answer of a named state operation. -/
inductive AfterMark
  /-- `_persisted_terminal`. -/
  | terminal (reason : String)
  | held (code : ProcessingCode) (reason : String)
  | denied (outcome : ProcessingOutcome)
  /-- The `on_wait` callback ignores it. -/
  | stillWaiting
  deriving DecidableEq

inductive ProcPhase
  | parsing
  | lookingUp
  | checkingTarget
  | loadingSlot
  | routing (recovering : Bool)
  | counting (recovering : Bool)
  | gating
  | resolving
  | executing (phase : ExecPhase)
  | marking (update : ClipStatusUpdate) (after : AfterMark)
  | projecting (update : ClipStatusUpdate) (after : AfterMark)
  | quarantining (outcome : ProcessingOutcome)
  | deciding (outcome : ProcessingOutcome)
  | finished (acknowledged : Bool)
  deriving DecidableEq

structure Processor where
  delivery : Delivery
  phase : ProcPhase
  /-- The raw fields are in the dead-letter stream. -/
  deadLettered : Bool
  deriving DecidableEq

/-- A `ClipGateDecision`. -/
structure ScheduleGate where
  allowed : Bool
  terminalDefer : Bool
  reason : String
  errorMessage : String

inductive AnchorResult
  | waits (attempt : Nat) (error : String)
  | ready
  | retries (nextRetry : Nat) (error : String)
  | fails (attempt : Option Nat) (error : String)

inductive ProcLabel
  | parse
  | lookUp (answer : Answer)
  | checkTarget (elsewhere : Bool) (answer : Answer)
  | loadSlot (answer : Answer)
  | route (error : Option String)
  | count (now : Int) (answer : Answer)
  | gate (decision : ScheduleGate) (exhausted : Bool)
  | anchor (result : AnchorResult)
  | exec (label : ExecLabel)
  | updateTask (now : Int) (answer : Answer)
  | projectEvent (answer : Answer)
  | quarantine (added : Bool) (answered : Bool)
  | decide
  /-- An exception leaves the processor. -/
  | raise

def outcomeOf (code : ProcessingCode) (reason : String) (ack durable : Bool) :
    ProcessingOutcome where
  code
  ack
  durable
  reason
  jobId := ""

def AfterMark.phase (after : AfterMark) (persisted : Bool) : ProcPhase :=
  match after with
  | .terminal reason => .deciding (persistedOutcome .permanentFailure reason "" persisted)
  | .held code reason => .deciding (outcomeOf code reason false persisted)
  | .denied outcome => .deciding { outcome with durable := persisted }
  | .stillWaiting => .resolving

/-- What `__call__` does about the slot it has loaded. -/
def existingSlotPhase : Option Reservation → ProcPhase
  | none => .routing false
  | some slot =>
    match slot.slotStatus with
    | .timeout =>
      .marking
        (markFailed .materializationFailed "replay_slot_timeout" "replay_slot_timeout" none "")
        (.terminal "replay_slot_timeout")
    | .released =>
      .deciding (outcomeOf .retryPending
        "replay_slot_released_waiting_terminal_projection" false true)
    | .active =>
      if slot.createState = .committed ∧ slot.jobId.getD "" ≠ "" then
        .deciding
          { code := .replayCreated, ack := true, durable := true,
            reason := "replay_handoff_already_committed", jobId := slot.jobId.getD "" }
      else .routing true
    | .absent => .routing false

def schedulePhase (delivery : Delivery) (decision : ScheduleGate) (exhausted : Bool) :
    ProcPhase :=
  let shardId := delivery.request.shardId
  if decision.allowed then .resolving
  else if decision.terminalDefer then
    .marking (markTerminalDeferred decision.reason decision.errorMessage shardId)
      (.terminal decision.reason)
  else if "max_concurrent".toList.isPrefixOf decision.reason.toList then
    .marking
      (markPending .queued decision.reason decision.errorMessage (some delivery.retryCount)
        shardId)
      (.held .capacityPending decision.reason)
  else if decision.reason = "cooldown" then
    if exhausted then
      let reason := "retry_budget_exhausted reason=cooldown retries=" ++
        toString delivery.retryCount ++ " error=" ++ decision.errorMessage
      .marking (markFailed .failed reason reason none shardId) (.terminal reason)
    else
      .marking
        (markPending .materializationPending decision.reason decision.errorMessage
          (some (delivery.retryCount + 1)) shardId)
        (.held .retryPending decision.reason)
  else .marking (markSkipped decision.errorMessage shardId) (.terminal decision.reason)

def anchorPhase (delivery : Delivery) : AnchorResult → ProcPhase
  | .waits attempt error =>
    .marking (markPending .waitingProof error error (some attempt) delivery.request.shardId)
      .stillWaiting
  | .ready => .executing .loading
  | .retries nextRetry error =>
    .marking
      (markPending .waitingProof error
        ("deferred_retry reason=missing_post_savant_frame_proof retry_count=" ++
          toString nextRetry ++ " error=" ++ error)
        (some nextRetry) delivery.request.shardId)
      (.held .retryPending error)
  | .fails attempt error =>
    .marking (markFailed .failed error error attempt delivery.request.shardId) (.terminal error)

/-- What `__call__` does with the outcome of the executor. -/
def executedPhase (delivery : Delivery) : ExecPhase → ProcPhase
  | .finished outcome =>
    if outcome.code = .capacityPending ∧ outcome.durable = false then
      .marking
        (markPending .queued outcome.reason outcome.reason (some delivery.retryCount)
          delivery.request.shardId)
        (.denied outcome)
    else .deciding outcome
  | phase => .executing phase

def procStep (rows : ClipRows) (processor : Processor) (label : ProcLabel) :
    Option (ClipRows × Processor) :=
  let delivery := processor.delivery
  let moves (rows : ClipRows) (phase : ProcPhase) : Option (ClipRows × Processor) :=
    some (rows, { processor with phase })
  match processor.phase, label with
  | .parsing, .parse =>
    moves rows (match delivery.malformed with
      | some malformation =>
        .quarantining (outcomeOf .malformed malformation.reason true false)
      | none => .lookingUp)
  | .lookingUp, .lookUp answer =>
    let state := (answer.apply rows (rows, terminalEvidenceState rows) "").2
    moves rows (if state = "" then .checkingTarget
      else .deciding (outcomeOf .duplicateTerminal ("terminal_state:" ++ state) true true))
  | .checkingTarget, .checkTarget elsewhere answer =>
    let found := (answer.apply rows
      (rows, rows.task.isSome || rows.event.isSome || elsewhere) true).2
    moves rows (if found then .loadingSlot
      else .deciding (outcomeOf .staleTarget "missing_db_event_and_evidence_task" true true))
  | .loadingSlot, .loadSlot answer =>
    moves rows (existingSlotPhase (answer.apply rows (rows, loadSlot rows) none).2)
  | .routing recovering, .route error =>
    moves rows (match error with
      | none => .counting recovering
      | some error =>
        .marking
          (markFailed .failed "replay_shard_routing_failed"
            ("replay shard routing failed: " ++ error) none "")
          (.terminal "replay_shard_routing_failed"))
  | .counting recovering, .count now answer =>
    moves (answer.apply rows (releaseTimedOut now rows, ()) ()).1
      (if recovering then .resolving else .gating)
  | .gating, .gate decision exhausted =>
    moves rows (schedulePhase delivery decision exhausted)
  | .resolving, .anchor result => moves rows (anchorPhase delivery result)
  | .executing phase, .exec label =>
    (execStep delivery.request rows phase label).bind fun result =>
      moves result.1 (executedPhase delivery result.2)
  | .marking update after, .updateTask now answer =>
    let result := answer.apply rows (updateClipTask now rows update) false
    moves result.1 (if result.2 then .projecting update after else after.phase false)
  | .projecting update after, .projectEvent answer =>
    let result := answer.apply rows (projectClipStatus rows update) false
    moves result.1 (after.phase result.2)
  | .quarantining outcome, .quarantine added answered =>
    some (rows, { processor with
      deadLettered := processor.deadLettered || added
      phase := .deciding { outcome with durable := added && answered } })
  | .deciding outcome, .decide => moves rows (.finished outcome.shouldAck)
  | .quarantining _, _ | .deciding _, _ | .finished _, _ => none
  | _, .raise => moves rows (.deciding (outcomeOf .unexpectedFailure "" false false))
  | _, _ => none

/-! ## Any number of deliveries -/

structure ClipWorld where
  rows : ClipRows
  processors : List (Option Processor)

inductive ClipLabel
  | deliver (processor : Nat) (delivery : Delivery)
  | run (processor : Nat) (label : ProcLabel)
  | crash (processor : Nat)
  | releaseTimedOut (now : Int)

def clipStep (world : ClipWorld) : ClipLabel → Option ClipWorld
  | .deliver index delivery =>
    match world.processors[index]? with
    | some _ => some { world with
        processors := world.processors.set index
          (some { delivery, phase := .parsing, deadLettered := false }) }
    | none => none
  | .run index label =>
    match world.processors[index]? with
    | some (some processor) =>
      match procStep world.rows processor label with
      | some (rows, after) => some
          { rows, processors := world.processors.set index (some after) }
      | none => none
    | _ => none
  | .crash index =>
    match world.processors[index]? with
    | some _ => some { world with processors := world.processors.set index none }
    | none => none
  | .releaseTimedOut now => some { world with rows := releaseTimedOut now world.rows }

/-- Any rows whose slot, if it was never reserved, holds no job, and no delivery yet. -/
def clipMachine : Machine ClipWorld ClipLabel where
  initial world :=
    (∀ task ∈ world.rows.task, task.slot.status = .absent →
      task.slot.createState = .absent ∧ task.slot.jobId = none) ∧
      ∀ processor ∈ world.processors, processor = none
  step := clipStep

end VideoAnalysis.Clip
