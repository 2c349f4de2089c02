import VideoAnalysis.Lifecycle.Repository

/-! # Replay slots

The statements of the clip worker's repository on one evidence task and its event
row. Each is one compare-and-set on the task with a projection into the event's
media object; only `update_clip_status` projects in a second statement.
-/

namespace VideoAnalysis.Clip

open Lifecycle

inductive SlotStatus
  | absent
  | active
  | released
  | timeout
  deriving DecidableEq

def SlotStatus.value : SlotStatus → String
  | .absent => ""
  | .active => "active"
  | .released => "released"
  | .timeout => "timeout"

inductive CreateState
  | absent
  | reserved
  | submitting
  | uncertain
  | committed
  | aborted
  deriving DecidableEq

def CreateState.value : CreateState → String
  | .absent => ""
  | .reserved => "reserved"
  | .submitting => "submitting"
  | .uncertain => "uncertain"
  | .committed => "committed"
  | .aborted => "aborted"

/-- The `replay_*` columns of an evidence task. -/
structure ReplaySlot where
  status : SlotStatus
  owner : String
  token : String
  generation : Nat
  createState : CreateState
  planHash : String
  jobId : Option String
  resultingStreamId : Option String
  deliveryId : String
  shardId : Option String
  deadlineAt : Option Int
  releaseReason : Option String
  deriving DecidableEq

structure ClipTask where
  lifecycle : EvidenceTask
  imageOnly : Bool
  slot : ReplaySlot
  deriving DecidableEq

/-- A JSON object as its `->>` texts. -/
abbrev MediaObject := List (String × String)

/-- `media || jsonb_strip_nulls(…)`. -/
def mergeMedia (media : MediaObject) (fields : List (String × Option String)) : MediaObject :=
  let written := fields.filterMap fun field => field.2.map (field.1, ·)
  written ++ media.filter fun old => written.all fun field => decide (field.1 ≠ old.1)

structure EventRow where
  mediaStatus : String
  media : MediaObject

def EventRow.write (event : EventRow) (fields : List (String × Option String)) : EventRow :=
  { event with media := mergeMedia event.media fields }

/-- The task row and the event row of one event. -/
structure ClipRows where
  task : Option ClipTask
  event : Option EventRow

/-- `NULLIF(text, '')`. -/
def nullIf (text : String) : Option String := if text = "" then none else some text

/-- A compare-and-set of the task whose projection is part of the same statement: the
rows after it, and the task as written if its guard held. -/
def casTask (rows : ClipRows) (guard : ClipTask → Bool) (write : ClipTask → ClipTask)
    (project : ClipTask → EventRow → EventRow) : ClipRows × Option ClipTask :=
  match rows.task with
  | none => (rows, none)
  | some task =>
    if guard task then
      ({ task := some (write task), event := rows.event.map (project (write task)) },
        some (write task))
    else (rows, none)

/-! ## Reservations -/

structure Reservation where
  acquired : Bool
  reason : String
  owner : String
  token : String
  generation : Nat
  createState : CreateState
  jobId : Option String
  planHash : String
  slotStatus : SlotStatus
  deriving DecidableEq

def ReplaySlot.reservation (slot : ReplaySlot) (acquired : Bool) (reason : String) :
    Reservation where
  acquired
  reason
  owner := slot.owner
  token := slot.token
  generation := slot.generation
  createState := slot.createState
  jobId := slot.jobId
  planHash := slot.planHash
  slotStatus := slot.status

/-- `get_replay_slot_state`. -/
def loadSlot (rows : ClipRows) : Option Reservation :=
  rows.task.map fun task =>
    task.slot.reservation (decide (task.slot.status = .active)) "replay_slot_loaded"

def ReplaySlot.heldBy (slot : ReplaySlot) (reservation : Reservation) : Bool :=
  decide (slot.status = .active ∧ slot.owner = reservation.owner ∧
    slot.token = reservation.token ∧ slot.generation = reservation.generation)

structure AcquireRequest where
  owner : String
  slotToken : String
  planHash : String
  deliveryId : String
  sourceId : String
  shardId : String
  timeout : Int
  deriving DecidableEq

inductive CapacityLimit
  | total
  | perShard
  | perSource

def CapacityLimit.reason : CapacityLimit → String
  | .total => "max_concurrent_reached"
  | .perShard => "max_concurrent_per_shard_reached"
  | .perSource => "max_concurrent_per_source_reached"

/-- Why `try_acquire_fenced_replay_slot` denies; `capacity` is the limit that the counts
over all rows have reached. -/
def denyReason (task : Option ClipTask) (capacity : Option CapacityLimit) : Option String :=
  match task with
  | none => some "replay_slot_target_missing"
  | some task =>
    match task.slot.status with
    | .active => some "replay_slot_active_existing"
    | .released | .timeout => some "replay_slot_terminal_state"
    | .absent => capacity.map CapacityLimit.reason

def reservedSlot (now : Int) (slot : ReplaySlot) (request : AcquireRequest) : ReplaySlot :=
  { slot with
    status := .active
    owner := request.owner
    token := request.slotToken
    generation := slot.generation + 1
    createState := .reserved
    planHash := request.planHash
    jobId := none
    resultingStreamId := none
    deliveryId := request.deliveryId
    shardId := nullIf request.shardId
    deadlineAt := some (now + max request.timeout 0)
    releaseReason := none }

def projectSlot (task : ClipTask) (event : EventRow) : EventRow :=
  event.write
    [("replay_slot_status", some task.slot.status.value),
      ("replay_slot_owner", some task.slot.owner),
      ("replay_slot_token", some task.slot.token),
      ("replay_slot_generation", some (toString task.slot.generation)),
      ("replay_create_state", some task.slot.createState.value),
      ("replay_plan_hash", some task.slot.planHash)]

variable (now : Int) (rows : ClipRows)

/-- `try_acquire_fenced_replay_slot`; a reservation without an event row to project into
is kept, but the caller is told nothing. -/
def acquireSlot (request : AcquireRequest) (capacity : Option CapacityLimit) :
    ClipRows × Option Reservation :=
  if request.owner = "" ∨ request.slotToken = "" ∨ request.planHash = "" then (rows, none)
  else
    match denyReason rows.task capacity with
    | some reason =>
      let held := rows.task.map fun task => task.slot.reservation false reason
      (rows, some (held.getD
        { acquired := false, reason, owner := request.owner, token := request.slotToken,
          generation := 0, createState := .absent, jobId := none,
          planHash := request.planHash, slotStatus := .absent }))
    | none =>
      let result := casTask rows (fun _ => true)
        (fun task => { task with
          slot := reservedSlot now task.slot request
          lifecycle := { task.lifecycle with replaySourceId := nullIf request.sourceId } })
        projectSlot
      (result.1, result.2.bind fun task =>
        if rows.event.isSome then some (task.slot.reservation true "") else none)

def takenOverSlot (slot : ReplaySlot) (owner deliveryId : String) : ReplaySlot :=
  { slot with owner, generation := slot.generation + 1, deliveryId }

def canTakeOver (expected : Reservation) (task : ClipTask) : Bool :=
  decide (task.slot.status = .active ∧ task.slot.token = expected.token ∧
    task.slot.generation = expected.generation ∧ task.slot.jobId = none)

def takeoverSlot (rows : ClipRows) (owner deliveryId : String) (expected : Reservation) :
    ClipRows × Option Reservation :=
  if owner = "" ∨ expected.token = "" then (rows, none)
  else
    let result := casTask rows (canTakeOver expected)
      (fun task => { task with slot := takenOverSlot task.slot owner deliveryId })
      (fun task event => event.write
        [("replay_slot_owner", some task.slot.owner),
          ("replay_slot_token", some task.slot.token),
          ("replay_slot_generation", some (toString task.slot.generation)),
          ("replay_create_state", some task.slot.createState.value)])
    (result.1, result.2.bind fun task =>
      if rows.event.isSome then
        some (task.slot.reservation true "replay_slot_taken_over")
      else none)

def ClipTask.withCreateState (task : ClipTask) (createState : CreateState) : ClipTask :=
  { task with slot := { task.slot with createState } }

variable (reservation : Reservation)

def canStart (task : ClipTask) : Bool :=
  task.slot.heldBy reservation &&
    decide (task.slot.planHash = reservation.planHash ∧ task.slot.jobId = none ∧
      (task.slot.createState = .reserved ∨ task.slot.createState = .submitting))

def markCreateStarted (rows : ClipRows) (reservation : Reservation) : ClipRows × Bool :=
  let result := casTask rows (canStart reservation) (·.withCreateState .submitting) projectSlot
  (result.1, result.2.isSome && rows.event.isSome)

def canLeaveUncertain (task : ClipTask) : Bool :=
  task.slot.heldBy reservation &&
    decide (task.slot.jobId = none ∧
      (task.slot.createState = .submitting ∨ task.slot.createState = .uncertain))

def markCreateUncertain (rows : ClipRows) (reservation : Reservation) (reason : String) :
    ClipRows × Bool :=
  let result := casTask rows (canLeaveUncertain reservation)
    (fun task => { task.withCreateState .uncertain with
      lifecycle := { task.lifecycle with errorMessage := nullIf reason } })
    (fun _ event => event)
  (result.1, result.2.isSome)

def abortedTask (now : Int) (task : ClipTask) (reason : String) : ClipTask :=
  { task with
    lifecycle := { (task.lifecycle.enterTerminal now .failed).releaseLease with
      deferReason := none
      failureReason := some "replay_permanent_rejected"
      expiredReason := none
      handoff := []
      errorMessage := some reason }
    slot := { task.slot with
      status := .released
      createState := .aborted
      releaseReason := some "replay_permanent_rejected" } }

def canAbort (task : ClipTask) : Bool :=
  task.slot.heldBy reservation &&
    decide (task.slot.planHash = reservation.planHash ∧ task.slot.jobId = none ∧
      task.slot.createState = .submitting)

def projectAbort (detail : String) (task : ClipTask) (event : EventRow) : EventRow :=
  { projectSlot task event with mediaStatus := "failed" }.write
    [("clip_status", some "failed"),
      ("evidence_state", some MaterializationStatus.failed.value),
      ("evidence_reason", some "replay_permanent_rejected"),
      ("materialization_status", some MaterializationStatus.failed.value),
      ("materialization_phase", some MaterializationPhase.terminal.value),
      ("materialization_owner", some "terminal"),
      ("replay_slot_release_reason", some "replay_permanent_rejected"),
      ("error", some detail)]

def abortCreate (reason : String) : ClipRows × Bool :=
  if reservation.owner = "" ∨ reservation.token = "" ∨ reservation.planHash = "" then
    (rows, false)
  else
    let detail := if reason = "" then "Replay request permanently rejected" else reason
    let result := casTask rows (canAbort reservation) (abortedTask now · detail)
      (projectAbort detail)
    (result.1, result.2.isSome && rows.event.isSome)

structure CommitRequest where
  jobId : String
  resultingStreamId : String
  shardId : String

def committedTask (now : Int) (task : ClipTask) (reservation : Reservation)
    (request : CommitRequest) : ClipTask :=
  { task with
    lifecycle := { task.lifecycle with
      status := "materializing"
      materializationStatus := .running
      phase := .waitingReady
      phaseUpdatedAt := some now
      owner := .replay
      handoff :=
        [("kind", "replay"), ("event_id", task.lifecycle.eventId),
          ("replay_job_id", request.jobId)] ++
        ((nullIf request.resultingStreamId).map (("resulting_stream_id", ·))).toList ++
        [("slot_owner", reservation.owner), ("slot_token", reservation.token),
          ("slot_generation", toString reservation.generation),
          ("plan_hash", reservation.planHash)]
      errorMessage := none }
    slot := { task.slot with
      jobId := some request.jobId
      resultingStreamId := nullIf request.resultingStreamId
      createState := .committed
      shardId := coalesceText request.shardId task.slot.shardId } }

def canCommit (request : CommitRequest) (task : ClipTask) : Bool :=
  task.slot.heldBy reservation &&
    decide (task.slot.planHash = reservation.planHash ∧
      (task.slot.createState = .submitting ∨ task.slot.createState = .committed) ∧
      (task.slot.jobId = none ∨ task.slot.jobId = some request.jobId))

def projectCommit (request : CommitRequest) (task : ClipTask) (event : EventRow) : EventRow :=
  { projectSlot task event with mediaStatus := "materializing" }.write
    [("clip_status", some "replay_job_created"),
      ("recording_strategy", some "savant_replay"),
      ("replay_job_id", some request.jobId),
      ("resulting_stream_id", nullIf request.resultingStreamId),
      ("evidence_state", some "materializing"),
      ("materialization_status", some "materializing"),
      ("materialization_phase", some MaterializationPhase.waitingReady.value),
      ("materialization_owner", some "replay"),
      ("replay_shard_id", nullIf request.shardId)]

def commitHandoff (request : CommitRequest) : ClipRows × Bool :=
  if request.jobId = "" then (rows, false)
  else
    let result := casTask rows
      (fun task => rows.event.isSome && canCommit reservation request task)
      (committedTask now · reservation request) (projectCommit request)
    (result.1, result.2.isSome)

def timedOut (now : Int) (task : ClipTask) : Bool :=
  decide (task.slot.status = .active ∧ columnLe task.slot.deadlineAt now)

def releaseTimedOut : ClipRows :=
  (casTask rows (timedOut now)
    (fun task => { task with
      slot := { task.slot with status := .timeout, releaseReason := some "timeout" } })
    (fun _ event => event.write
      [("replay_slot_status", some "timeout"),
        ("replay_slot_release_reason", some "timeout")])).1

/-! ## Status transitions -/

/-- The arguments of one `update_clip_status` call, its states already resolved. -/
structure ClipStatusUpdate where
  status : String
  evidenceState : String
  target : MaterializationStatus
  reasonCode : String
  errorMessage : String
  replayJobId : String
  attemptCount : Option Nat
  deadlineAt : Option Int
  shardId : String
  deriving DecidableEq

def clipTransitionPhase (status : MaterializationStatus) : MaterializationPhase :=
  if status.isTerminal then .terminal else .waitingReady

def clipTransitionOwner (status : MaterializationStatus) : MaterializationOwner :=
  if status.isTerminal then .terminal else .replay

/-- `_clip_expected_materialization_statuses`. -/
def clipExpects (target current : MaterializationStatus) : Bool :=
  decide (current = .manifestReady ∨ current = .pending ∨ current = target ∨
    target ≠ .pending ∧ current = .running)

def clipUpdatedTask (now : Int) (task : ClipTask) (update : ClipStatusUpdate) : ClipTask :=
  let column (status : MaterializationStatus) : Option String :=
    if update.target = status then nullIf update.reasonCode else none
  { task with
    lifecycle := { task.lifecycle.releaseLease with
      status := compatibilityStatusFor update.target (some (clipTransitionPhase update.target))
      materializationStatus := update.target
      phase := clipTransitionPhase update.target
      phaseUpdatedAt := some now
      owner := clipTransitionOwner update.target
      nextAttemptAt := if update.target = .pending then some now else none
      retryReason := column .pending
      deferReason := column .deferred
      failureReason := column .failed
      expiredReason := column .expired
      deadlineAt := update.deadlineAt <|> task.lifecycle.deadlineAt
      attemptCount := max task.lifecycle.attemptCount
        (update.attemptCount.getD task.lifecycle.attemptCount)
      handoff := []
      errorMessage :=
        if update.errorMessage ≠ "" then some update.errorMessage
        else if update.target = .materialized then none
        else task.lifecycle.errorMessage }
    slot := { task.slot with
      jobId := coalesceText update.replayJobId task.slot.jobId
      shardId := coalesceText update.shardId task.slot.shardId } }

def canUpdate (update : ClipStatusUpdate) (task : ClipTask) : Bool :=
  !task.imageOnly && clipExpects update.target task.lifecycle.materializationStatus &&
    decide (task.lifecycle.owner = .replay ∨
      task.lifecycle.materializationStatus = update.target ∧ task.lifecycle.owner = .terminal)

/-- The first statement of `update_clip_status`. -/
def updateClipTask (update : ClipStatusUpdate) : ClipRows × Bool :=
  let result := casTask rows (canUpdate update) (clipUpdatedTask now · update)
    (fun _ event => event)
  (result.1, result.2.isSome)

def clipProjection (update : ClipStatusUpdate) (event : EventRow) : EventRow :=
  { event with mediaStatus := update.evidenceState }.write
    [("clip_status", some update.status), ("recording_strategy", some "savant_replay"),
      ("replay_job_id", nullIf update.replayJobId),
      ("evidence_state", some update.evidenceState),
      ("evidence_reason", nullIf update.reasonCode),
      ("materialization_status", some update.target.value),
      ("materialization_phase", some (clipTransitionPhase update.target).value),
      ("materialization_owner",
        some (if update.target.isTerminal then "terminal" else "replay")),
      ("materialization_reason", nullIf update.reasonCode),
      ("evidence_attempt_count", update.attemptCount.map toString),
      ("replay_shard_id", nullIf update.shardId),
      ("error_message", nullIf update.errorMessage)]

/-- The second statement of `update_clip_status`. -/
def projectClipStatus (rows : ClipRows) (update : ClipStatusUpdate) : ClipRows × Bool :=
  ({ rows with event := rows.event.map (clipProjection update) }, rows.event.isSome)

end VideoAnalysis.Clip
