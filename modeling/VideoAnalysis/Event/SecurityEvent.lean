import VideoAnalysis.Lifecycle.Contract

/-! # Security events

The fields of a security event that the event worker decides on: the default
evidence policy, the evidence-task gate and the record-request gate.
-/

namespace VideoAnalysis.Event

open Lifecycle (MaterializationStatus)

structure EvidencePolicy where
  snapshotRequired : Option Bool
  clipRequired : Option Bool
  preSeconds : Option Int
  postSeconds : Option Int

/-- The `payload.media` object. -/
structure Media where
  snapshotRequired : Option Bool
  clipRequired : Option Bool
  sourceId : String

structure SecurityEvent where
  sourceEventId : String
  eventType : String
  cameraId : String
  sourceId : String
  snapshotRequired : Option Bool
  clipRequired : Option Bool
  evidencePolicy : Option EvidencePolicy
  media : Option Media
  eventTsMs : Int
  startTsMs : Int

def behaviorVideoEvidenceEventTypes : List String :=
  ["intrusion", "fall", "crowd_gathering", "chasing"]

def truthy (flag : Option Bool) : Bool := flag.getD false

variable (event : SecurityEvent)

def requiresEvidence : Bool :=
  let policy (field : EvidencePolicy → Option Bool) : Bool :=
    match event.evidencePolicy with
    | some policy => truthy (field policy)
    | none => false
  truthy event.snapshotRequired || truthy event.clipRequired ||
    policy EvidencePolicy.snapshotRequired || policy EvidencePolicy.clipRequired

def explicitPolicy : Bool :=
  let policy := match event.evidencePolicy with
    | some policy => policy.snapshotRequired.isSome || policy.clipRequired.isSome
    | none => false
  let media := match event.media with
    | some media => media.snapshotRequired.isSome || media.clipRequired.isSome
    | none => false
  event.snapshotRequired.isSome || event.clipRequired.isSome || policy || media

def defaultPreSeconds : Int := 5

def defaultPostSeconds : Int := 5

/-- `{**MIDTERM_DEFAULT_EVIDENCE_POLICY, **policy}`. -/
def mergedPolicy (policy : Option EvidencePolicy) : EvidencePolicy :=
  match policy with
  | none => {
      snapshotRequired := some true
      clipRequired := some true
      preSeconds := some defaultPreSeconds
      postSeconds := some defaultPostSeconds }
  | some policy => {
      snapshotRequired := some (policy.snapshotRequired.getD true)
      clipRequired := some (policy.clipRequired.getD true)
      preSeconds := some (policy.preSeconds.getD defaultPreSeconds)
      postSeconds := some (policy.postSeconds.getD defaultPostSeconds) }

def applyDefaultEvidencePolicy : SecurityEvent :=
  if event.eventType ∉ behaviorVideoEvidenceEventTypes then event
  else if explicitPolicy event then event
  else if requiresEvidence event then event
  else
    let media := event.media.getD
      { snapshotRequired := none, clipRequired := none, sourceId := event.sourceId }
    { event with
      snapshotRequired := some true
      clipRequired := some true
      evidencePolicy := some (mergedPolicy event.evidencePolicy)
      media := some { media with snapshotRequired := some true, clipRequired := some true } }

/-! ## The evidence-task gate -/

structure TaskGate where
  enabled : Bool
  notBeforeTsMs : Int
  notAfterTsMs : Int

/-- `int(event.get("event_ts_ms") or event.get("start_ts_ms") or 0)`. -/
def eventTime : Int :=
  if event.eventTsMs ≠ 0 then event.eventTsMs else event.startTsMs

def TaskGate.timeEligible (gate : TaskGate) (event : SecurityEvent) : Bool :=
  let time := eventTime event
  decide (time ≤ 0) ||
    ((decide (gate.notBeforeTsMs ≤ 0) || decide (time ≥ gate.notBeforeTsMs)) &&
      (decide (gate.notAfterTsMs ≤ 0) || decide (time ≤ gate.notAfterTsMs)))

def TaskGate.admits (gate : TaskGate) (event : SecurityEvent) : Bool :=
  requiresEvidence event && gate.enabled && gate.timeEligible event

/-! ## The record-request gate -/

def asksForClip : Bool :=
  truthy event.clipRequired ||
    match event.media with
    | some media => truthy media.clipRequired
    | none => false

structure RecordingPolicy where
  eventTypes : List String
  sourceId : String
  maxRequestsPerRun : Nat
  cooldownSeconds : Nat
  cooldownGraceMs : Nat

/-- `RecordingPolicyState` of one process. -/
structure RecordingState where
  publishedRequests : Nat
  lastRecordedAtMs : Option Int

def recordableTaskStatuses : List String :=
  ["pending", MaterializationStatus.manifestReady.value, MaterializationStatus.pending.value]

inductive SkipReason
  | eventTypeMismatch
  | evidenceTaskStatus (status : Option String)
  | sourceIdMismatch
  | maxRequestsReached
  | cooldown
  | duplicateRecordRequest
  | alreadyHasClipStatus (status : String)

/-- `RECORDING_POLICY_TERMINAL_SKIP_REASONS`. -/
def SkipReason.isTerminal : SkipReason → Bool
  | .eventTypeMismatch | .sourceIdMismatch | .maxRequestsReached | .cooldown
  | .duplicateRecordRequest => true
  | .evidenceTaskStatus _ | .alreadyHasClipStatus _ => false

/-- What the gate looks up: the clip status of the event row, the dedupe key, the
memory of the process and the clock that the cooldown is measured on. -/
structure GateLookup where
  clipStatus : Option String
  hasRequest : Bool
  recording : RecordingState
  gateTsMs : Int

def resolveSourceId : String :=
  let media := match event.media with
    | some media => media.sourceId
    | none => ""
  if !(["", "0", "None", "null"].contains media) then media
  else if !(["", "0"].contains event.sourceId) then event.sourceId
  else ""

def RecordingPolicy.coolingDown (policy : RecordingPolicy) (recording : RecordingState)
    (gateTsMs : Int) : Bool :=
  match recording.lastRecordedAtMs with
  | none => false
  | some last =>
    decide (gateTsMs - last <
      max 0 ((policy.cooldownSeconds : Int) * 1000 - policy.cooldownGraceMs))

def recordRequestSkip (policy : RecordingPolicy) (event : SecurityEvent)
    (taskStatus : Option String) (lookup : GateLookup) : Option SkipReason :=
  if policy.eventTypes ≠ [] ∧ event.eventType ∉ policy.eventTypes then
    some .eventTypeMismatch
  else if taskStatus.all fun status => !recordableTaskStatuses.contains status then
    some (.evidenceTaskStatus taskStatus)
  else if policy.sourceId ≠ "" ∧ resolveSourceId event ≠ policy.sourceId then
    some .sourceIdMismatch
  else if 0 < policy.maxRequestsPerRun ∧
      policy.maxRequestsPerRun ≤ lookup.recording.publishedRequests then
    some .maxRequestsReached
  else if 0 < policy.cooldownSeconds ∧ policy.coolingDown lookup.recording lookup.gateTsMs then
    some .cooldown
  else if event.sourceEventId ≠ "" ∧ lookup.hasRequest then
    some .duplicateRecordRequest
  else
    match lookup.clipStatus with
    | some status =>
      if ["", "not_implemented", "not_required"].contains status then none
      else some (.alreadyHasClipStatus status)
    | none => none

end VideoAnalysis.Event
