import VideoAnalysis.Event.SecurityEvent
import VideoAnalysis.Foundation.Machine

/-! # Handling one stream message

`_handle_event` as its sequence of calls. Every call may take effect or not and
may return, raise, or be the point at which the process dies; a message that has
not been acknowledged is delivered again.
-/

namespace VideoAnalysis.Event

open Foundation

/-- How a call ends for the handler that made it. -/
inductive Ending
  | returns
  | raises
  | crashes
  deriving DecidableEq

/-- `effect` is what a call that did not return may have done all the same. -/
structure Outcome where
  effect : Bool
  ending : Ending

/-- A call that returned has done its work. -/
def Outcome.effective (outcome : Outcome) : Bool :=
  outcome.effect || decide (outcome.ending = .returns)

/-- What `_handle_event` is called with, the event as it was parsed among it. -/
structure HandlerConfig where
  event : SecurityEvent
  alertPolicyService : Bool
  alertPolicySuppresses : Bool
  alertPublisher : Bool
  taskGate : TaskGate
  recordPublisher : Bool
  rollingCacheSuppressRecordRequests : Bool
  recordingPolicy : RecordingPolicy

/-- The event after `_apply_default_evidence_policy`. -/
def HandlerConfig.prepared (config : HandlerConfig) : SecurityEvent :=
  applyDefaultEvidencePolicy config.event

/-- The next call of the handler, with the local variables later calls read. -/
inductive HandlerPhase
  | idle
  | inserting
  | policing
  | alerting
  | tasking
  | gating (newlyInserted : Bool) (taskStatus : Option String)
  | publishing (newlyInserted : Bool)
  | settingClipStatus
  | markingSkipped
  | acking
  deriving DecidableEq

inductive HandlerLabel
  | deliver
  | insertEvent (outcome : Outcome)
  | applyAlertPolicy (outcome : Outcome)
  | publishAlert (outcome : Outcome)
  | createEvidenceTask (outcome : Outcome) (status : Option String)
  | lookUp (lookup : GateLookup) (ending : Ending)
  | publishRecordRequest (outcome : Outcome)
  | setClipStatus (outcome : Outcome)
  | markSkipped (outcome : Outcome)
  | acknowledge (effect : Bool) (ending : Ending)

/-- The database rows and stream entries of one event, the pending entry of its
message and the handler's position. -/
structure HandlerState where
  phase : HandlerPhase
  eventRow : Bool
  taskRow : Bool
  alerts : Nat
  recordRequests : Nat
  clipPending : Bool
  skipMarked : Bool
  acked : Bool
  deriving DecidableEq

def HandlerState.start : HandlerState where
  phase := .idle
  eventRow := false
  taskRow := false
  alerts := 0
  recordRequests := 0
  clipPending := false
  skipMarked := false
  acked := false

namespace HandlerConfig

variable (config : HandlerConfig)

def recordPhase (newlyInserted : Bool) (taskStatus : Option String) : HandlerPhase :=
  if config.recordPublisher && asksForClip config.prepared then
    if config.rollingCacheSuppressRecordRequests then .acking
    else .gating newlyInserted taskStatus
  else .acking

def taskPhase : HandlerPhase :=
  if config.taskGate.admits config.prepared then .tasking
  else config.recordPhase true none

def alertPhase : HandlerPhase :=
  if config.alertPublisher then .alerting else config.taskPhase

/-- The first phase after the insert: later calls are made for a new row only. -/
def insertedPhase (newlyInserted : Bool) : HandlerPhase :=
  if newlyInserted then
    if config.alertPolicyService then .policing else config.alertPhase
  else config.recordPhase false none

def gatedPhase (newlyInserted : Bool) (taskStatus : Option String) (lookup : GateLookup) :
    HandlerPhase :=
  match recordRequestSkip config.recordingPolicy config.prepared taskStatus lookup with
  | none => .publishing newlyInserted
  | some reason =>
    if newlyInserted && taskStatus.any (recordableTaskStatuses.contains ·) &&
        reason.isTerminal then
      .markingSkipped
    else .acking

end HandlerConfig

/-- The phase a call leads to; a crash ends the delivery. -/
def Ending.phase (ending : Ending) (returned raised : HandlerPhase) : HandlerPhase :=
  match ending with
  | .returns => returned
  | .raises => raised
  | .crashes => .idle

def handlerStep (config : HandlerConfig) (state : HandlerState) :
    HandlerLabel → Option HandlerState
  | .deliver =>
    if state.phase = .idle ∧ state.acked = false then
      some { state with phase := .inserting }
    else none
  | .insertEvent outcome =>
    if state.phase = .inserting then
      -- `ON CONFLICT (source_event_id) DO NOTHING` returns a row for a new event only
      some { state with
        eventRow := state.eventRow || outcome.effective
        phase := outcome.ending.phase (config.insertedPhase (!state.eventRow)) .idle }
    else none
  | .applyAlertPolicy outcome =>
    if state.phase = .policing then
      some { state with
        phase := outcome.ending.phase
          (if config.alertPolicySuppresses then .acking else config.alertPhase)
          config.alertPhase }
    else none
  | .publishAlert outcome =>
    if state.phase = .alerting then
      some { state with
        alerts := state.alerts + outcome.effective.toNat
        phase := outcome.ending.phase config.taskPhase config.taskPhase }
    else none
  | .createEvidenceTask outcome status =>
    if state.phase = .tasking then
      some { state with
        taskRow := state.taskRow || outcome.effective
        phase := outcome.ending.phase (config.recordPhase true status)
          (config.recordPhase true none) }
    else none
  | .lookUp lookup ending =>
    match state.phase with
    | .gating newlyInserted taskStatus =>
      some { state with
        phase := ending.phase (config.gatedPhase newlyInserted taskStatus lookup) .idle }
    | _ => none
  | .publishRecordRequest outcome =>
    match state.phase with
    | .publishing newlyInserted =>
      -- without a reservation or after a failed `xadd` it returns no message id
      some { state with
        recordRequests := state.recordRequests + outcome.effect.toNat
        phase := outcome.ending.phase
          (if outcome.effect && newlyInserted then .settingClipStatus else .acking)
          .acking }
    | _ => none
  | .setClipStatus outcome =>
    if state.phase = .settingClipStatus then
      some { state with
        clipPending := state.clipPending || outcome.effective
        phase := outcome.ending.phase .acking .acking }
    else none
  | .markSkipped outcome =>
    if state.phase = .markingSkipped then
      some { state with
        skipMarked := state.skipMarked || outcome.effective
        phase := outcome.ending.phase .acking .acking }
    else none
  | .acknowledge effect _ =>
    if state.phase = .acking then
      some { state with acked := effect, phase := .idle }
    else none

def handler (config : HandlerConfig) : Machine HandlerState HandlerLabel where
  initial state := state = HandlerState.start
  step := handlerStep config

/-- An event whose evidence is wanted: admitted by the gate, and the alert policy does
not suppress it. -/
structure HandlerConfig.Expected (config : HandlerConfig) : Prop where
  publisher : config.alertPublisher = true
  admitted : config.taskGate.admits config.prepared = true
  emitted : config.alertPolicySuppresses = false

end VideoAnalysis.Event
