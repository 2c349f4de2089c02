import VideoAnalysis.Clip.ReplaySlot
import VideoAnalysis.Foundation.Machine

/-! # The fenced Replay executor

`FencedReplayExecutor.execute` as a program whose steps are single calls of the
admission port and of the transport, and any number of executors for one event.
A call of the port may fail, with or without its statement having taken effect.
-/

namespace VideoAnalysis.Clip

open Foundation

inductive ProcessingCode
  | malformed
  | duplicateTerminal
  | staleTarget
  | retryPending
  | capacityPending
  | replayCreated
  | permanentFailure
  | transientFailure
  | unexpectedFailure
  deriving DecidableEq

/-- `ack` is the disposition `AckDisposition.ACK`. -/
structure ProcessingOutcome where
  code : ProcessingCode
  ack : Bool
  durable : Bool
  reason : String
  jobId : String
  deriving DecidableEq

/-- `AckPolicy.should_ack`. -/
def ProcessingOutcome.shouldAck (outcome : ProcessingOutcome) : Bool :=
  outcome.ack && outcome.durable

structure ExecRequest where
  owner : String
  slotToken : String
  planHash : String
  deliveryId : String
  reclaimed : Bool
  sourceId : String
  shardId : String
  timeout : Int
  resultingStreamId : String
  deriving DecidableEq

variable (request : ExecRequest)

def ExecRequest.acquireRequest : AcquireRequest where
  owner := request.owner
  slotToken := request.slotToken
  planHash := request.planHash
  deliveryId := request.deliveryId
  sourceId := request.sourceId
  shardId := request.shardId
  timeout := request.timeout

inductive ReplaySubmission
  | created (jobId resultingStreamId : String)
  | permanentRejected (reason : String)
  | uncertain (reason : String)

inductive ExecPhase
  | loading
  | acquiring
  | takingOver (seen : Reservation)
  | recovering (winner : Reservation)
  | leavingUnresolved (winner : Reservation)
  | marking (reservation : Reservation)
  | submitting (reservation : Reservation)
  | aborting (reservation : Reservation) (reason : String)
  | leavingUncertain (reservation : Reservation) (reason : String)
  | committing (reservation : Reservation) (jobId resultingStreamId : String)
  | finished (outcome : ProcessingOutcome)
  deriving DecidableEq

def hold (code : ProcessingCode) (reason : String) (durable : Bool) : ProcessingOutcome where
  code
  ack := false
  durable
  reason
  jobId := ""

/-- `_existing_active_outcome` up to its takeover. -/
def existingActivePhase (reservation : Reservation) : ExecPhase :=
  if reservation.jobId.getD "" ≠ "" ∧ reservation.createState = .committed then
    .finished
      { code := .replayCreated, ack := true, durable := true,
        reason := "replay_handoff_already_committed", jobId := reservation.jobId.getD "" }
  else if reservation.token ≠ "" ∧ reservation.token ≠ request.slotToken then
    .finished (hold .transientFailure "replay_slot_token_mismatch" false)
  else if reservation.planHash ≠ "" ∧ reservation.planHash ≠ request.planHash then
    .finished (hold .transientFailure "replay_plan_hash_mismatch" false)
  else if request.reclaimed = false then
    .finished (hold .capacityPending "replay_slot_owned_by_active_delivery" true)
  else .takingOver reservation

def loadedPhase (loaded : Option Reservation) : ExecPhase :=
  match loaded with
  | none => .acquiring
  | some reservation =>
    match reservation.slotStatus with
    | .active => existingActivePhase request reservation
    | .released | .timeout =>
      .finished (hold .retryPending ("replay_slot_" ++ reservation.slotStatus.value) true)
    | .absent => .acquiring

def takenOverPhase : Option Reservation → ExecPhase
  | none => .finished (hold .transientFailure "replay_slot_takeover_lost" false)
  | some winner =>
    if winner.createState = .submitting ∨ winner.createState = .uncertain then
      .recovering winner
    else .marking winner

def acquiredPhase : Option Reservation → ExecPhase
  | none => .finished (hold .transientFailure "fenced_replay_admission_unavailable" false)
  | some reservation =>
    if reservation.acquired then .marking reservation
    else if reservation.reason = "replay_slot_terminal_state" then
      .finished
        { code := .duplicateTerminal, ack := true, durable := true,
          reason := reservation.reason, jobId := "" }
    else
      .finished (hold .capacityPending
        (if reservation.reason = "" then "fenced_replay_admission_denied"
          else reservation.reason) false)

/-- The outcome of a step that acknowledges exactly if it was persisted. -/
def persistedOutcome (code : ProcessingCode) (reason jobId : String) (persisted : Bool) :
    ProcessingOutcome where
  code
  ack := persisted
  durable := persisted
  reason
  jobId

def submittedPhase (reservation : Reservation) : ReplaySubmission → ExecPhase
  | .created jobId resultingStreamId => .committing reservation jobId resultingStreamId
  | .permanentRejected reason => .aborting reservation reason
  | .uncertain reason => .leavingUncertain reservation reason

/-- How a call of the admission port ends: it answers, or it fails with or without its
statement having taken effect. -/
inductive Answer
  | completes
  | fails (effect : Bool)

def Answer.apply {α : Type} (answer : Answer) (rows : ClipRows) (result : ClipRows × α)
    (failed : α) : ClipRows × α :=
  match answer with
  | .completes => result
  | .fails effect => (if effect then result.1 else rows, failed)

inductive ExecLabel
  | load (answer : Answer)
  | takeOver (answer : Answer)
  | recover (found : Option (String × String))
  | markUnresolved (answer : Answer)
  | acquire (now : Int) (capacity : Option CapacityLimit) (answer : Answer)
  | markSubmitting (answer : Answer)
  | submit (submission : ReplaySubmission)
  | abort (now : Int) (answer : Answer)
  | markUncertain (answer : Answer)
  | commit (now : Int) (answer : Answer)

def ReplaySubmission.wellFormed : ReplaySubmission → Bool
  | .created jobId _ => decide (jobId ≠ "")
  | _ => true

/-- One call of `execute`. -/
def execStep (rows : ClipRows) : ExecPhase → ExecLabel → Option (ClipRows × ExecPhase)
  | .loading, .load answer =>
    some (rows, loadedPhase request (answer.apply rows (rows, loadSlot rows) none).2)
  | .takingOver seen, .takeOver answer =>
    let result := answer.apply rows
      (takeoverSlot rows request.owner request.deliveryId seen) none
    some (result.1, takenOverPhase result.2)
  | .recovering winner, .recover found =>
    match found with
    | none => some (rows, .leavingUnresolved winner)
    | some job =>
      if job.1 = "" then none
      else some (rows, .committing winner job.1
        (if job.2 = "" then request.resultingStreamId else job.2))
  | .leavingUnresolved winner, .markUnresolved answer =>
    let result := answer.apply rows
      (markCreateUncertain rows winner "replay_response_unresolved") false
    some (result.1, .finished (hold .transientFailure "replay_response_unresolved" result.2))
  | .acquiring, .acquire now capacity answer =>
    let result := answer.apply rows (acquireSlot now rows request.acquireRequest capacity) none
    some (result.1, acquiredPhase result.2)
  | .marking reservation, .markSubmitting answer =>
    let result := answer.apply rows (markCreateStarted rows reservation) false
    some (result.1,
      if result.2 then .submitting { reservation with createState := .submitting }
      else .finished (hold .transientFailure "stale_replay_slot_before_create" false))
  | .submitting reservation, .submit submission =>
    if submission.wellFormed then some (rows, submittedPhase reservation submission) else none
  | .aborting reservation reason, .abort now answer =>
    let result := answer.apply rows (abortCreate now rows reservation reason) false
    some (result.1, .finished (persistedOutcome .permanentFailure reason "" result.2))
  | .leavingUncertain reservation reason, .markUncertain answer =>
    let result := answer.apply rows (markCreateUncertain rows reservation reason) false
    some (result.1, .finished (hold .transientFailure reason result.2))
  | .committing reservation jobId resultingStreamId, .commit now answer =>
    let result := answer.apply rows
      (commitHandoff now rows reservation
        { jobId, resultingStreamId, shardId := request.shardId }) false
    some (result.1, .finished (persistedOutcome .replayCreated
      (if result.2 then "" else "stale_replay_slot_durable_commit") jobId result.2))
  | _, _ => none

/-! ## Any number of executors -/

/-- An executor that is at work for a delivery. -/
structure Executor where
  request : ExecRequest
  phase : ExecPhase
  deriving DecidableEq

structure ExecWorld where
  rows : ClipRows
  executors : List (Option Executor)
  submissions : Nat

inductive ExecWorldLabel
  | start (executor : Nat) (request : ExecRequest)
  | run (executor : Nat) (label : ExecLabel)
  | crash (executor : Nat)
  | releaseTimedOut (now : Int)

def ExecLabel.submits : ExecLabel → Nat
  | .submit _ => 1
  | _ => 0

def execWorldStep (world : ExecWorld) : ExecWorldLabel → Option ExecWorld
  | .start index request =>
    match world.executors[index]? with
    | some _ => some { world with
        executors := world.executors.set index (some { request, phase := .loading }) }
    | none => none
  | .run index label =>
    match world.executors[index]? with
    | some (some executor) =>
      match execStep executor.request world.rows executor.phase label with
      | some (rows, phase) => some
          { rows
            executors := world.executors.set index (some { executor with phase })
            submissions := world.submissions + label.submits }
      | none => none
    | _ => none
  | .crash index =>
    match world.executors[index]? with
    | some _ => some { world with executors := world.executors.set index none }
    | none => none
  | .releaseTimedOut now => some { world with rows := releaseTimedOut now world.rows }

/-- A task whose slot was never reserved, and executors that have not begun. -/
def execMachine : Machine ExecWorld ExecWorldLabel where
  initial world :=
    (∀ task ∈ world.rows.task, task.slot.status = .absent ∧
      task.slot.createState = .absent ∧ task.slot.jobId = none) ∧
      (∀ executor ∈ world.executors, executor = none) ∧ world.submissions = 0
  step := execWorldStep

end VideoAnalysis.Clip
