import VideoAnalysis.Lifecycle.Contract

/-! # Materialization repository

One `evidence_tasks` row and the transitions of `materialization_repository`
under the lifecycle v2 schema. A timestamp is an integer number of microseconds
and every statement receives its own `now()`. An `UPDATE … WHERE` is a guard on
the row and the row it writes; a transition also says what is projected to the
`events` row, and whether the same statement or a later one does so.
-/

namespace VideoAnalysis.Lifecycle

inductive MaterializationOwner where
  | replay | rolling | mediaFinalizer | terminal
  deriving DecidableEq

/-- A JSON object as its `->>` texts. -/
abbrev Handoff := List (String × String)

def Handoff.get (handoff : Handoff) (field : String) : Option String :=
  List.lookup field handoff

structure EvidenceTask where
  eventId : String
  status : String
  materializationStatus : MaterializationStatus
  phase : MaterializationPhase
  phaseUpdatedAt : Option Int
  owner : MaterializationOwner
  readyAt : Option Int
  deadlineAt : Option Int
  nextAttemptAt : Option Int
  retryReason : Option String
  deferReason : Option String
  failureReason : Option String
  expiredReason : Option String
  errorMessage : Option String
  leaseOwner : Option String
  leaseToken : Option String
  leaseGeneration : Nat
  leaseExpiresAt : Option Int
  leaseHeartbeatAt : Option Int
  handoff : Handoff
  attemptCount : Nat
  missedDuringValidLease : Bool
  sinkOutputPath : Option String
  clipPath : Option String
  metadataPath : Option String
  outputRoot : Option String
  lastMaterializationAt : Option Int
  sourceId : Option String
  replaySourceId : Option String
  deriving DecidableEq

structure MaterializationLease where
  eventId : String
  owner : String
  token : String
  generation : Nat
  phase : MaterializationPhase
  deriving DecidableEq

/-- The arguments of one `_project_event` call. -/
structure EventProjection where
  materializationStatus : MaterializationStatus
  phase : MaterializationPhase
  reason : String
  sinkOutputPath : String
  deriving DecidableEq

inductive EventWrite where
  | unchanged
  | inSameStatement (projection : EventProjection)
  | afterwards (projection : EventProjection)

structure Transition (Returned : Type) where
  row : EvidenceTask
  returned : Returned
  events : EventWrite

/-- `cur.rowcount > 0` after an update of the one row that may match. -/
def updateWhere (row : EvidenceTask) (guard : Prop) [Decidable guard] (written : EvidenceTask)
    (events : EventWrite) : Transition Bool :=
  if guard then { row := written, returned := true, events }
  else { row, returned := false, events := .unchanged }

def project (materializationStatus : MaterializationStatus) (phase : MaterializationPhase)
    (reason : String) (sinkOutputPath : String) : EventWrite :=
  .afterwards { materializationStatus, phase, reason, sinkOutputPath }

/-- `COALESCE(NULLIF(text, ''), column)`. -/
def coalesceText (text : String) (column : Option String) : Option String :=
  if text = "" then column else some text

/-- `left <= right`, where a NULL on the left satisfies nothing. -/
def columnLe (left : Option Int) (right : Int) : Prop :=
  ∃ value, left = some value ∧ value ≤ right

instance (left : Option Int) (right : Int) : Decidable (columnLe left right) :=
  match left with
  | none => isFalse (by rintro ⟨_, equal, _⟩; cases equal)
  | some value =>
    decidable_of_iff (value ≤ right) (by simp [columnLe])

def leaseInterval (leaseSeconds : Int) : Int := max 1000000 leaseSeconds

namespace EvidenceTask

variable (row : EvidenceTask)

def HoldsFence (lease : MaterializationLease) : Prop :=
  row.eventId = lease.eventId ∧ row.leaseOwner = some lease.owner ∧
    row.leaseToken = some lease.token ∧ row.leaseGeneration = lease.generation

instance (lease : MaterializationLease) : Decidable (row.HoldsFence lease) := by
  unfold HoldsFence
  infer_instance

def releaseLease : EvidenceTask :=
  { row with
    leaseOwner := none
    leaseToken := none
    leaseExpiresAt := none
    leaseHeartbeatAt := none }

def enterTerminal (now : Int) (materializationStatus : MaterializationStatus) : EvidenceTask :=
  { row with
    status := materializationStatus.value
    materializationStatus
    phase := .terminal
    phaseUpdatedAt := some now
    owner := .terminal
    nextAttemptAt := none
    retryReason := none }

/-- `COALESCE(materialization_next_attempt_at, materialization_ready_at)`. -/
def attemptAt : Option Int := row.nextAttemptAt.or row.readyAt

end EvidenceTask

/-! ## Rolling claims and their leases -/

def RollingClaimable (row : EvidenceTask) (now : Int) : Prop :=
  row.materializationStatus.claimable = true ∧ row.owner = .rolling ∧
    columnLe row.readyAt now ∧ columnLe row.attemptAt now ∧ row.leaseToken = none

instance (row : EvidenceTask) (now : Int) : Decidable (RollingClaimable row now) := by
  unfold RollingClaimable
  infer_instance

variable (runtime : PyRuntime) (now : Int) (row : EvidenceTask)

def claimedRollingRow (workerId token : String) (phase : MaterializationPhase)
    (leaseSeconds : Int) : EvidenceTask :=
  { row with
    status := compatibilityStatusFor .running (some phase)
    materializationStatus := .running
    phase
    phaseUpdatedAt := some now
    owner := .rolling
    nextAttemptAt := none
    retryReason := none
    deferReason := none
    failureReason := none
    expiredReason := none
    leaseOwner := some workerId
    leaseToken := some token
    leaseGeneration := row.leaseGeneration + 1
    leaseExpiresAt := some (now + leaseInterval leaseSeconds)
    leaseHeartbeatAt := some now
    handoff := []
    attemptCount := row.attemptCount + 1 }

def claimRollingTask (eventId workerId token : String) (phase : MaterializationPhase)
    (leaseSeconds : Int) : Except PyError (Transition (Option MaterializationLease)) :=
  if ¬(phase = .imageRunning ∨ phase = .remuxRunning) then
    .error (.valueError ("invalid rolling claim phase: " ++ phase.value))
  else if row.eventId = eventId ∧ RollingClaimable row now then
    .ok
      { row := claimedRollingRow now row workerId token phase leaseSeconds
        returned := some
          { eventId, owner := workerId, token, generation := row.leaseGeneration + 1, phase }
        events := project .running phase "" "" }
  else .ok { row, returned := none, events := .unchanged }

variable (lease : MaterializationLease)

def heartbeatLease (leaseSeconds : Int) : Transition Bool :=
  updateWhere row (row.materializationStatus = .running ∧ row.HoldsFence lease)
    { row with
      leaseHeartbeatAt := some now
      leaseExpiresAt := some (now + leaseInterval leaseSeconds) }
    .unchanged

def failureReasonCode (runtime : PyRuntime) (reason fallback : String) : String :=
  let code := (classifyReason runtime reason).code
  if code = .unknown then (if reason = "" then fallback else reason) else code.value

def failedRollingRow (reasonCode : String) : EvidenceTask :=
  { (row.enterTerminal now .failed).releaseLease with
    deferReason := none
    failureReason := some reasonCode
    expiredReason := none
    handoff := []
    errorMessage := some reasonCode }

def failRollingTask (reason : String) : Transition Bool :=
  let reasonCode := failureReasonCode runtime reason MaterializationStatus.failed.value
  updateWhere row (row.materializationStatus = .running ∧ row.HoldsFence lease)
    (failedRollingRow now row reasonCode)
    (project .failed .terminal reasonCode "")

def retriedRollingRow (phase : MaterializationPhase) (delay : Int) (reasonCode : String) :
    EvidenceTask :=
  { row.releaseLease with
    status := MaterializationStatus.pending.value
    materializationStatus := .pending
    phase
    phaseUpdatedAt := some now
    owner := .rolling
    nextAttemptAt := some (now + delay)
    retryReason := some reasonCode
    deferReason := none
    failureReason := none
    expiredReason := none
    handoff := []
    errorMessage := some reasonCode }

def retryRollingTask (reason : String) (retryHint : Int) : Except PyError (Transition Bool) :=
  let classification := classifyReason runtime reason
  if classification.retryable = false then
    .ok (failRollingTask runtime now row lease reason)
  else do
    let phase : MaterializationPhase :=
      if classification.errorClass = .notReady then .waitingCoverage else .waitingReady
    let delay ← retryDelaySeconds runtime (max 1 lease.generation) retryHint lease.eventId
    return updateWhere row (row.materializationStatus = .running ∧ row.HoldsFence lease)
      (retriedRollingRow now row phase delay classification.code.value)
      (project .pending phase classification.code.value "")

/-! ## Transitions of a durable handoff -/

def retriedHandoffRow (delay : Int) (reasonCode : String) : EvidenceTask :=
  { row.releaseLease with
    status := "finalizing"
    materializationStatus := .running
    phase := .finalizerPending
    phaseUpdatedAt := if row.phase = .finalizerPending then row.phaseUpdatedAt else some now
    owner := .mediaFinalizer
    nextAttemptAt := some (now + delay)
    retryReason := some reasonCode
    deferReason := none
    errorMessage := some reasonCode }

def retryFinalizerHandoff (reason : String) (retryHint : Int) :
    Except PyError (Transition Bool) :=
  let classification := classifyReason runtime reason
  if classification.retryable = false then
    .ok (failRollingTask runtime now row lease reason)
  else do
    let delayAttempt :=
      if classification.code = .capacityUnavailable then 1 else max 1 lease.generation
    let delay ← retryDelaySeconds runtime delayAttempt retryHint lease.eventId
    return updateWhere row
      (row.materializationStatus = .running ∧
        (row.phase = .finalizerPending ∨ row.phase = .finalizing) ∧ row.handoff ≠ [] ∧
        row.HoldsFence lease)
      (retriedHandoffRow now row delay classification.code.value)
      (project .running .finalizerPending classification.code.value "")

def unleasedHandoff (row : EvidenceTask) : Prop :=
  row.materializationStatus = .running ∧ row.phase = .finalizerPending ∧
    row.handoff ≠ [] ∧ row.leaseToken = none

instance (row : EvidenceTask) : Decidable (unleasedHandoff row) := by
  unfold unleasedHandoff
  infer_instance

def failedUnclaimedRow (reasonCode sinkOutputPath : String) : EvidenceTask :=
  { (row.enterTerminal now .failed).releaseLease with
    handoff := []
    deferReason := none
    failureReason := some reasonCode
    expiredReason := none
    sinkOutputPath := coalesceText sinkOutputPath row.sinkOutputPath
    errorMessage := some reasonCode }

def failUnclaimedTask (eventId reason sinkOutputPath : String) : Transition Bool :=
  let reasonCode := failureReasonCode runtime reason "materialization_failed"
  updateWhere row
    (row.eventId = eventId ∧ row.materializationStatus.isTerminal = false ∧
      row.leaseToken = none)
    (failedUnclaimedRow now row reasonCode sinkOutputPath)
    (project .failed .terminal reasonCode sinkOutputPath)

def retriedUnclaimedHandoffRow (delay : Int) (reasonCode : String) : EvidenceTask :=
  { row with
    status := "finalizing"
    materializationStatus := .running
    phase := .finalizerPending
    owner := .mediaFinalizer
    nextAttemptAt := some (now + delay)
    retryReason := some reasonCode
    deferReason := none
    errorMessage := some reasonCode }

/-- `attempt` is what an earlier statement of the same call selected. -/
def retryUnclaimedFinalizerHandoff (attempt : Nat) (eventId reason : String) (retryHint : Int) :
    Except PyError (Transition Bool) :=
  let classification := classifyReason runtime reason
  if classification.retryable = false then
    .ok (failUnclaimedTask runtime now row eventId reason "")
  else do
    let delayAttempt :=
      if classification.code = .capacityUnavailable then 1 else max 1 attempt
    let delay ← retryDelaySeconds runtime delayAttempt retryHint eventId
    return updateWhere row (row.eventId = eventId ∧ unleasedHandoff row)
      (retriedUnclaimedHandoffRow now row delay classification.code.value)
      (project .running .finalizerPending classification.code.value "")

/-! ## Unclaimed transitions -/

def scheduledUnclaimedRow (delay : Int) (reasonCode sinkOutputPath : String) : EvidenceTask :=
  { row with
    status := MaterializationStatus.pending.value
    materializationStatus := .pending
    phase := .waitingReady
    phaseUpdatedAt := some now
    owner := if sinkOutputPath = "" then row.owner else .mediaFinalizer
    nextAttemptAt := some (now + delay)
    retryReason := some reasonCode
    deferReason := none
    failureReason := none
    expiredReason := none
    sinkOutputPath := coalesceText sinkOutputPath row.sinkOutputPath
    errorMessage := some reasonCode }

/-- `attempt` is what an earlier statement of the same call selected. -/
def scheduleUnclaimedRetry (attempt : Nat) (eventId reason : String) (retryHint : Int)
    (sinkOutputPath : String) : Except PyError (Transition Bool) :=
  let classification := classifyReason runtime reason
  if classification.retryable = false then
    .ok (failUnclaimedTask runtime now row eventId reason sinkOutputPath)
  else do
    let delay ← retryDelaySeconds runtime (max 1 attempt) retryHint eventId
    return updateWhere row
      (row.eventId = eventId ∧ row.materializationStatus.claimable = true ∧
        row.leaseToken = none)
      (scheduledUnclaimedRow now row delay classification.code.value sinkOutputPath)
      (project .pending .waitingReady classification.code.value sinkOutputPath)

def deferredRow (reasonCode sinkOutputPath : String) : EvidenceTask :=
  { (row.enterTerminal now .deferred).releaseLease with
    handoff := []
    deferReason := some reasonCode
    failureReason := none
    expiredReason := none
    sinkOutputPath := coalesceText sinkOutputPath row.sinkOutputPath
    errorMessage := some reasonCode }

def DeferFence (row : EvidenceTask) : Option MaterializationLease → Prop
  | some lease =>
    row.leaseOwner = some lease.owner ∧ row.leaseToken = some lease.token ∧
      row.leaseGeneration = lease.generation
  | none => row.leaseToken = none

instance (row : EvidenceTask) (lease : Option MaterializationLease) :
    Decidable (DeferFence row lease) := by
  cases lease <;> unfold DeferFence <;> infer_instance

def deferTerminalTask (eventId reason sinkOutputPath : String)
    (lease : Option MaterializationLease) : Except PyError (Transition Bool) :=
  let classification := classifyReason runtime reason
  if classification.retryable = true then
    .error (.valueError
      ("retryable reason cannot become terminal deferred: " ++ classification.code.value))
  else
    let reasonCode :=
      if classification.code = .unknown then reason else classification.code.value
    .ok (updateWhere row
      (row.eventId = eventId ∧ row.materializationStatus.isTerminal = false ∧
        DeferFence row lease)
      (deferredRow now row reasonCode sinkOutputPath)
      (project .deferred .terminal reasonCode sinkOutputPath))

/-! ## Handing a remux to the finalizer -/

def requiredHandoffFields : List String :=
  ["attempt_token", "canonical_path", "mtime_ns", "requested_window", "runtime_epoch_id",
    "selected_segment_ids", "size", "source_id", "staging_path"]

def missingHandoffFields (handoff : Handoff) : List String :=
  requiredHandoffFields.filter fun field => (handoff.get field).isNone

def emptyHandoffField (handoff : Handoff) : Option String :=
  ["attempt_token", "source_id", "runtime_epoch_id"].find? fun field =>
    strip ((handoff.get field).getD "").toList = []

def checkHandoff (handoff : Handoff) : Except PyError Unit :=
  match missingHandoffFields handoff with
  | [] =>
    match emptyHandoffField handoff with
    | some field =>
      .error (.valueError ("materialization handoff has empty field: " ++ field))
    | none => .ok ()
  | missing =>
    .error (.valueError ("materialization handoff missing fields: " ++ ",".intercalate missing))

def persistedHandoffRow (sinkOutputPath : String) (handoff : Handoff) (leaseSeconds : Int) :
    EvidenceTask :=
  { row with
    status := "finalizing"
    materializationStatus := .running
    phase := .finalizerPending
    phaseUpdatedAt := some now
    owner := .mediaFinalizer
    sinkOutputPath := some sinkOutputPath
    handoff
    leaseHeartbeatAt := some now
    leaseExpiresAt := some (now + leaseInterval leaseSeconds) }

def persistFinalizerHandoff (sinkOutputPath : String) (handoff : Handoff) (leaseSeconds : Int) :
    Except PyError (Transition Bool) := do
  checkHandoff handoff
  return updateWhere row
    (row.materializationStatus = .running ∧ row.phase = lease.phase ∧ row.HoldsFence lease)
    (persistedHandoffRow now row sinkOutputPath handoff leaseSeconds)
    (project .running .finalizerPending "" sinkOutputPath)

inductive ClaimStatus where
  | claimed | terminal | busy | missing
  deriving DecidableEq

structure FinalizerClaim where
  status : ClaimStatus
  lease : Option MaterializationLease

def finalizingRow (sinkOutputPath workerId token : String) (generation : Nat)
    (leaseSeconds : Int) : EvidenceTask :=
  { row with
    status := "finalizing"
    materializationStatus := .running
    phase := .finalizing
    phaseUpdatedAt := some now
    owner := .mediaFinalizer
    sinkOutputPath := some sinkOutputPath
    nextAttemptAt := none
    retryReason := none
    deferReason := none
    leaseOwner := some workerId
    leaseToken := some token
    leaseGeneration := generation
    leaseExpiresAt := some (now + leaseInterval leaseSeconds)
    leaseHeartbeatAt := some now }

def claimedFinalizer (eventId sinkOutputPath workerId token : String) (generation : Nat)
    (leaseSeconds : Int) : Transition FinalizerClaim where
  row := finalizingRow now row sinkOutputPath workerId token generation leaseSeconds
  returned :=
    { status := .claimed
      lease := some { eventId, owner := workerId, token, generation, phase := .finalizing } }
  events := project .running .finalizing "" sinkOutputPath

def refusedFinalizer (row : EvidenceTask) (eventId : String) : Transition FinalizerClaim where
  row := row
  returned :=
    { status :=
        if row.eventId ≠ eventId then .missing
        else if row.materializationStatus.isTerminal = true then .terminal
        else .busy
      lease := none }
  events := .unchanged

def ExactTransferReady (row : EvidenceTask) (expected : MaterializationLease) : Prop :=
  row.materializationStatus = .running ∧ row.phase = .finalizerPending ∧
    row.handoff ≠ [] ∧ row.handoff.get "attempt_token" = some expected.token ∧
    row.HoldsFence expected

instance (row : EvidenceTask) (expected : MaterializationLease) :
    Decidable (ExactTransferReady row expected) := by
  unfold ExactTransferReady
  infer_instance

/-- The exact path of `claim_finalizer_task`; its transaction locks the row by
the expected fence, so its statements are one step. -/
def claimFinalizerExact (eventId sinkOutputPath workerId : String) (leaseSeconds : Int)
    (expected : MaterializationLease) : Except PyError (Transition FinalizerClaim) :=
  if expected.eventId ≠ eventId then
    .error (.valueError "finalizer expected lease event_id mismatch")
  else if expected.token = "" ∨ expected.generation = 0 then
    .error (.valueError "finalizer expected lease fence is incomplete")
  else if ExactTransferReady row expected then
    .ok (claimedFinalizer now row eventId sinkOutputPath workerId expected.token
      expected.generation leaseSeconds)
  else .ok (refusedFinalizer row eventId)

def GenericClaimReady (row : EvidenceTask) (now : Int) : Prop :=
  row.materializationStatus.isTerminal = false ∧
    (row.leaseToken = none ∨
      (row.phase = .finalizerPending ∧ row.handoff ≠ [] ∧ row.leaseToken ≠ none ∧
        row.handoff.get "attempt_token" = row.leaseToken)) ∧
    row.attemptAt.getD now ≤ now

instance (row : EvidenceTask) (now : Int) : Decidable (GenericClaimReady row now) := by
  unfold GenericClaimReady
  infer_instance

/-- The generic path of `claim_finalizer_task`. `locked` says that another
transaction holds the row lock, which `SKIP LOCKED` reports as busy. -/
def claimFinalizerGeneric (locked : Bool) (eventId sinkOutputPath workerId newToken : String)
    (leaseSeconds : Int) : Transition FinalizerClaim :=
  if row.eventId = eventId ∧ locked = false ∧ GenericClaimReady row now then
    match row.leaseToken with
    | some token =>
      claimedFinalizer now row eventId sinkOutputPath workerId token row.leaseGeneration
        leaseSeconds
    | none =>
      claimedFinalizer now row eventId sinkOutputPath workerId newToken
        (row.leaseGeneration + 1) leaseSeconds
  else refusedFinalizer row eventId

def completedRow (status : MaterializationStatus)
    (reasonCode clipPath metadataPath outputRoot : String) : EvidenceTask :=
  { (row.enterTerminal now status).releaseLease with
    clipPath := coalesceText clipPath row.clipPath
    metadataPath := coalesceText metadataPath row.metadataPath
    outputRoot := coalesceText outputRoot row.outputRoot
    lastMaterializationAt :=
      if status = .materialized then some now else row.lastMaterializationAt
    deferReason := none
    failureReason := if status = .failed then coalesceText reasonCode none else none
    expiredReason := none
    errorMessage :=
      if reasonCode ≠ "" then some reasonCode
      else if status = .materialized then none
      else row.errorMessage }

def completeFinalizerTask (status : MaterializationStatus)
    (reason clipPath metadataPath outputRoot : String) : Except PyError (Transition Bool) :=
  if ¬(status = .materialized ∨ status = .failed) then
    .error (.valueError ("invalid finalizer terminal status: " ++ status.value))
  else
    let reasonCode :=
      if status = .failed then
        failureReasonCode runtime reason MaterializationStatus.failed.value
      else ""
    .ok (updateWhere row (row.materializationStatus = .running ∧ row.HoldsFence lease)
      (completedRow now row status reasonCode clipPath metadataPath outputRoot)
      (.inSameStatement
        { materializationStatus := status, phase := .terminal, reason := reasonCode,
          sinkOutputPath := "" }))

/-! ## The recovery pass -/

/-- `COALESCE(source_id, replay_source_id, '') = ANY(sources)`, or no filter. -/
def SourceSelected (row : EvidenceTask) (sourceIds : List String) : Prop :=
  sourceIds = [] ∨ ((row.sourceId.or row.replaySourceId).getD "") ∈ sourceIds

instance (row : EvidenceTask) (sourceIds : List String) :
    Decidable (SourceSelected row sourceIds) := by
  unfold SourceSelected
  infer_instance

def expiredRow : EvidenceTask :=
  { row.enterTerminal now .expired with
    deferReason := none
    failureReason := none
    expiredReason := some "business_deadline_expired"
    errorMessage := some "business_deadline_expired" }

variable (sourceIds : List String)

def expireReady : Transition Bool :=
  updateWhere row
    (row.owner = .rolling ∧ row.materializationStatus.claimable = true ∧
      columnLe row.deadlineAt now ∧ row.leaseToken = none ∧ SourceSelected row sourceIds)
    (expiredRow now row)
    (project .expired .terminal "business_deadline_expired" "")

def markSlaMissed : Transition Bool :=
  updateWhere row
    (row.materializationStatus = .running ∧ columnLe row.deadlineAt now ∧
      row.leaseToken ≠ none ∧ row.leaseExpiresAt ≠ none ∧ ¬columnLe row.leaseExpiresAt now ∧
      row.missedDuringValidLease = false ∧ SourceSelected row sourceIds)
    { row with missedDuringValidLease := true }
    .unchanged

def recoveredHandoffRow : EvidenceTask :=
  { row.releaseLease with
    status := "finalizing"
    phase := .finalizerPending
    phaseUpdatedAt := some now
    owner := .mediaFinalizer }

def recoverHandoff : Transition Bool :=
  updateWhere row
    (row.materializationStatus = .running ∧ row.leaseToken ≠ none ∧
      columnLe row.leaseExpiresAt now ∧ row.handoff ≠ [] ∧ SourceSelected row sourceIds)
    (recoveredHandoffRow now row)
    (project .running .finalizerPending "lease_lost" "")

def expireLease : Transition Bool :=
  updateWhere row
    (row.materializationStatus = .running ∧ row.leaseToken ≠ none ∧
      columnLe row.leaseExpiresAt now ∧ columnLe row.deadlineAt now ∧ row.handoff = [] ∧
      SourceSelected row sourceIds)
    (expiredRow now row).releaseLease
    (project .expired .terminal "business_deadline_expired" "")

def lostLeaseRow : EvidenceTask :=
  { row.releaseLease with
    status := MaterializationStatus.pending.value
    materializationStatus := .pending
    phase := .waitingReady
    phaseUpdatedAt := some now
    owner := .rolling
    nextAttemptAt := some now
    retryReason := some "lease_lost"
    deferReason := none
    failureReason := none
    expiredReason := none
    errorMessage := some "lease_lost" }

def retryLostLease : Transition Bool :=
  updateWhere row
    (row.materializationStatus = .running ∧ row.leaseToken ≠ none ∧
      columnLe row.leaseExpiresAt now ∧ (row.deadlineAt = none ∨ ¬columnLe row.deadlineAt now) ∧
      row.handoff = [] ∧ SourceSelected row sourceIds)
    (lostLeaseRow now row)
    (project .pending .waitingReady "lease_lost" "")

/-- The five statements of `recover_and_expire_rolling_tasks`, in its order. -/
inductive RecoveryStatement where
  | expireReady | markSlaMissed | recoverHandoff | expireLease | retryLostLease
  deriving DecidableEq

def RecoveryStatement.execute (statement : RecoveryStatement) (now : Int) (row : EvidenceTask)
    (sourceIds : List String) : Transition Bool :=
  match statement with
  | .expireReady => Lifecycle.expireReady now row sourceIds
  | .markSlaMissed => Lifecycle.markSlaMissed now row sourceIds
  | .recoverHandoff => Lifecycle.recoverHandoff now row sourceIds
  | .expireLease => Lifecycle.expireLease now row sourceIds
  | .retryLostLease => Lifecycle.retryLostLease now row sourceIds

def recoveryStatements : List RecoveryStatement :=
  [.expireReady, .markSlaMissed, .recoverHandoff, .expireLease, .retryLostLease]

/-- The row after one undisturbed `recover_and_expire_rolling_tasks`; `clock`
gives the `now()` of each statement. -/
def recoverAndExpireRollingTasks (clock : RecoveryStatement → Int) (row : EvidenceTask)
    (sourceIds : List String) : EvidenceTask :=
  recoveryStatements.foldl
    (fun current statement => (statement.execute (clock statement) current sourceIds).row) row

/-- `recoverable_finalizer_handoffs` selects the row. -/
def RecoverableHandoff (row : EvidenceTask) (now : Int) : Prop :=
  unleasedHandoff row ∧ row.attemptAt.getD now ≤ now ∧ row.sinkOutputPath.getD "" ≠ ""

instance (row : EvidenceTask) (now : Int) : Decidable (RecoverableHandoff row now) := by
  unfold RecoverableHandoff
  infer_instance

end VideoAnalysis.Lifecycle
