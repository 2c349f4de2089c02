import VideoAnalysis.Clip.Processor
import VideoAnalysis.Event.AlertCooldown

/-! # The camera cooldown of the clip worker

`clip_gate_decision` compares a request with the one job per camera that the processor
remembers; priority requests pass the gate and are remembered as well.
-/

namespace VideoAnalysis.Clip

open Foundation Event

/-! ## The gate -/

structure ClipGatePolicy where
  highPriorityEventTypes : List String
  pressureLevel : String
  runOnce : Bool
  maxJobsPerRun : Int
  eventTypeQuotas : List (String × Int)
  maxConcurrency : Int
  maxConcurrencyPerShard : Int
  maxConcurrencyPerSource : Int
  perCameraCooldownSeconds : Int

structure ClipGateContext where
  jobsCreated : Int
  activeGlobal : Int
  activeShard : Int
  activeSource : Int
  shardId : String
  sourceId : String
  cameraId : String
  cooldownGateTsMs : Int
  lastCameraJobTsMs : Int
  eventType : String
  eventTypeCount : Int

structure QuotaDecision where
  scope : String
  subject : Option (String × String)
  limit : Int
  observed : Int

structure DegradeDecision where
  level : String
  action : String

structure ClipGateDecision extends ScheduleGate where
  quotaDecision : Option QuotaDecision
  degradeDecision : Option DegradeDecision

namespace ClipGatePolicy

variable (policy : ClipGatePolicy)

/-- `dict(quotas).get(event_type, 0)`, the last of several quotas counts. -/
def quotaFor (eventType : String) : Int :=
  (policy.eventTypeQuotas.reverse.lookup eventType).getD 0

def isPriorityEvent (eventType : String) : Bool :=
  if policy.highPriorityEventTypes = [] then
    eventType ∈ ["watchlist_hit", "live_search_hit"]
  else eventType ∈ policy.highPriorityEventTypes

/-- `str(level or "normal").lower()`. -/
def level : String :=
  if policy.pressureLevel = "" then "normal" else policy.pressureLevel.toLower

def coolsDown (context : ClipGateContext) : Bool :=
  0 < policy.perCameraCooldownSeconds && context.cameraId ≠ "" &&
    context.cooldownGateTsMs - context.lastCameraJobTsMs <
      policy.perCameraCooldownSeconds * 1000 &&
    !policy.isPriorityEvent context.eventType

end ClipGatePolicy

def denied (reason errorMessage : String) (terminalDefer : Bool)
    (quotaDecision : Option QuotaDecision) (degradeDecision : Option DegradeDecision) :
    ClipGateDecision :=
  { allowed := false, terminalDefer, reason, errorMessage, quotaDecision, degradeDecision }

def deniedBeforeCooldown (policy : ClipGatePolicy) (context : ClipGateContext) :
    Option ClipGateDecision :=
  let level := policy.level
  let isPriority := policy.isPriorityEvent context.eventType
  let typeLimit := policy.quotaFor context.eventType
  if level = "hard" then
    some (denied "materialization_pressure_hard_limit"
      "EVIDENCE_MATERIALIZATION_PRESSURE_LEVEL=hard" true none
      (some ⟨level, "keep_manifest_stop_media_materialization"⟩))
  else if level = "critical" ∧ isPriority = false then
    some (denied "materialization_pressure_critical_low_priority_deferred"
      "critical pressure allows only high-priority materialization" true none
      (some ⟨level, "defer_low_priority"⟩))
  else if level = "warning" ∧ isPriority = false then
    some (denied "materialization_pressure_warning_low_priority_deferred"
      "warning pressure defers low-priority materialization" true none
      (some ⟨level, "defer_low_priority"⟩))
  else if policy.runOnce = true ∧ 0 < policy.maxJobsPerRun ∧
      policy.maxJobsPerRun ≤ context.jobsCreated then
    some (denied "max_jobs_reached" "CLIP_WORKER_MAX_JOBS_PER_RUN reached" true
      (some ⟨"run", none, policy.maxJobsPerRun, context.jobsCreated⟩) none)
  else if 0 < typeLimit ∧ typeLimit ≤ context.eventTypeCount then
    some (denied "event_type_quota_reached"
      ("EVIDENCE_MATERIALIZATION_EVENT_TYPE_QUOTAS reached for " ++ context.eventType) true
      (some ⟨"event_type", some ("event_type", context.eventType), typeLimit,
        context.eventTypeCount⟩) none)
  else if 0 < policy.maxConcurrency ∧ policy.maxConcurrency ≤ context.activeGlobal then
    some (denied "max_concurrent_reached" "EVIDENCE_MATERIALIZATION_MAX_CONCURRENCY reached"
      false (some ⟨"global_concurrency", none, policy.maxConcurrency, context.activeGlobal⟩)
      none)
  else if 0 < policy.maxConcurrencyPerShard ∧
      policy.maxConcurrencyPerShard ≤ context.activeShard then
    some (denied "max_concurrent_per_shard_reached"
      "EVIDENCE_MATERIALIZATION_MAX_CONCURRENCY_PER_SHARD reached" false
      (some ⟨"shard_concurrency", some ("shard_id", context.shardId),
        policy.maxConcurrencyPerShard, context.activeShard⟩) none)
  else if 0 < policy.maxConcurrencyPerSource ∧
      policy.maxConcurrencyPerSource ≤ context.activeSource then
    some (denied "max_concurrent_per_source_reached"
      "EVIDENCE_MATERIALIZATION_MAX_CONCURRENCY_PER_SOURCE reached" false
      (some ⟨"source_concurrency", some ("source_id", context.sourceId),
        policy.maxConcurrencyPerSource, context.activeSource⟩) none)
  else none

def clipGateDecision (policy : ClipGatePolicy) (context : ClipGateContext) : ClipGateDecision :=
  match deniedBeforeCooldown policy context with
  | some decision => decision
  | none =>
    if policy.coolsDown context then
      denied "cooldown" "CLIP_WORKER_PER_CAMERA_COOLDOWN_SECONDS reached" false none none
    else
      { allowed := true, terminalDefer := false, reason := "", errorMessage := ""
        quotaDecision := none, degradeDecision := none }

/-! ## The processor's memory -/

/-- What anchor and executor would do with a request that passes the gate. -/
inductive Execution
  | nothing
  /-- A job is created, its handoff is not committed. -/
  | created
  | committed
  /-- A job that an earlier delivery created is committed. -/
  | adopted

def Execution.createsJob : Execution → Bool
  | .created | .committed => true
  | .nothing | .adopted => false

def Execution.commits : Execution → Bool
  | .committed | .adopted => true
  | .nothing | .created => false

/-- A request at the gate. An active slot of its own is recovered without the gate. -/
structure GateRequest where
  eventType : String
  cameraId : String
  sourceId : String
  shardId : String
  cooldownGateTsMs : Int
  activeGlobal : Int
  activeShard : Int
  activeSource : Int
  recovering : Bool
  execution : Execution

structure GateMemory where
  jobsCreated : Int := 0
  eventTypeCounts : String → Int := fun _ => 0
  lastJobByCamera : String → Int := fun _ => 0

def GateMemory.context (memory : GateMemory) (request : GateRequest) : ClipGateContext where
  jobsCreated := memory.jobsCreated
  activeGlobal := request.activeGlobal
  activeShard := request.activeShard
  activeSource := request.activeSource
  shardId := request.shardId
  sourceId := request.sourceId
  cameraId := request.cameraId
  cooldownGateTsMs := request.cooldownGateTsMs
  lastCameraJobTsMs := memory.lastJobByCamera request.cameraId
  eventType := request.eventType
  eventTypeCount := memory.eventTypeCounts request.eventType

/-- A Replay job that this processor created. -/
structure ReplayJob where
  cameraId : String
  eventType : String
  cooldownGateTsMs : Int
deriving DecidableEq

def GateRequest.job (request : GateRequest) : ReplayJob where
  cameraId := request.cameraId
  eventType := request.eventType
  cooldownGateTsMs := request.cooldownGateTsMs

def GateMemory.remember (memory : GateMemory) (request : GateRequest) : GateMemory where
  jobsCreated := memory.jobsCreated + 1
  eventTypeCounts :=
    if request.eventType = "" then memory.eventTypeCounts
    else Function.update memory.eventTypeCounts request.eventType
      (memory.eventTypeCounts request.eventType + 1)
  lastJobByCamera :=
    if request.cameraId = "" then memory.lastJobByCamera
    else Function.update memory.lastJobByCamera request.cameraId request.cooldownGateTsMs

namespace ClipGatePolicy

variable (policy : ClipGatePolicy)

def passesGate (memory : GateMemory) (request : GateRequest) : Bool :=
  request.recovering || (clipGateDecision policy (memory.context request)).allowed

/-- `ClipRequestProcessorV2.__call__` as far as the gate depends on it. -/
def gateMachine : OutputMachine GateMemory GateRequest ReplayJob where
  step memory request :=
    if policy.passesGate memory request && request.execution.commits then
      memory.remember request
    else memory
  output memory request :=
    if policy.passesGate memory request && request.execution.createsJob then
      some request.job
    else none

/-- Jobs of one camera are a cooldown apart unless one of them has priority. -/
def SpacedJobs (first second : ReplayJob) : Prop :=
  first.cameraId = second.cameraId → policy.isPriorityEvent first.eventType = false →
    policy.isPriorityEvent second.eventType = false →
      policy.perCameraCooldownSeconds * 1000 ≤ first.cooldownGateTsMs - second.cooldownGateTsMs ∨
        policy.perCameraCooldownSeconds * 1000 ≤ second.cooldownGateTsMs - first.cooldownGateTsMs

/-- A job without priority is committed for a camera, a recovered one lies a cooldown after the
last job of the camera, and nothing that bypasses the cooldown is committed behind that job. -/
structure Orderly (memory : GateMemory) (request : GateRequest) : Prop where
  committed : request.execution.createsJob = true →
    policy.isPriorityEvent request.eventType = false →
      request.execution.commits = true ∧ request.cameraId ≠ ""
  recovered : request.execution.createsJob = true →
    policy.isPriorityEvent request.eventType = false → request.recovering = true →
      policy.perCameraCooldownSeconds * 1000 ≤
        request.cooldownGateTsMs - memory.lastJobByCamera request.cameraId
  forward : request.execution.commits = true → request.cameraId ≠ "" →
    request.recovering = true ∨ policy.isPriorityEvent request.eventType = true →
      memory.lastJobByCamera request.cameraId ≤ request.cooldownGateTsMs

/-- The condition for a request that is recovered or past the checks before the cooldown. -/
def KeepsMemory (memory : GateMemory) (request : GateRequest) : Prop :=
  0 < policy.perCameraCooldownSeconds →
    (request.recovering = true ∨ deniedBeforeCooldown policy (memory.context request) = none) →
      policy.Orderly memory request

theorem deniedBeforeCooldown_not_allowed {context : ClipGateContext}
    {decision : ClipGateDecision}
    (isDenied : deniedBeforeCooldown policy context = some decision) :
    decision.allowed = false := by
  simp only [deniedBeforeCooldown] at isDenied
  repeat' split at isDenied
  all_goals first
    | (cases isDenied; rfl)
    | cases isDenied

theorem allowed_iff (context : ClipGateContext) :
    (clipGateDecision policy context).allowed = true ↔
      deniedBeforeCooldown policy context = none ∧ policy.coolsDown context = false := by
  unfold clipGateDecision
  cases before : deniedBeforeCooldown policy context with
  | some decision =>
    simp only [policy.deniedBeforeCooldown_not_allowed before, Bool.false_eq_true, reduceCtorEq,
      false_and]
  | none =>
    cases policy.coolsDown context with
    | true => simp only [if_true, denied, Bool.false_eq_true, and_false, Bool.true_eq_false]
    | false => simp only [Bool.false_eq_true, if_false, and_self]

theorem coolsDown_iff (context : ClipGateContext) :
    policy.coolsDown context = true ↔
      0 < policy.perCameraCooldownSeconds ∧ context.cameraId ≠ "" ∧
        context.cooldownGateTsMs - context.lastCameraJobTsMs <
          policy.perCameraCooldownSeconds * 1000 ∧
        policy.isPriorityEvent context.eventType = false := by
  simp only [coolsDown, Bool.and_eq_true, decide_eq_true_eq, Bool.not_eq_true', and_assoc]

variable {memory : GateMemory} {request : GateRequest}

theorem keepsMemory_of_passes
    (enabled : 0 < policy.perCameraCooldownSeconds) (keeps : policy.KeepsMemory memory request)
    (passes : policy.passesGate memory request = true) : policy.Orderly memory request := by
  rw [passesGate, Bool.or_eq_true, policy.allowed_iff] at passes
  exact keeps enabled (passes.imp_right And.left)

theorem cooldown_of_passes
    (enabled : 0 < policy.perCameraCooldownSeconds)
    (passes : policy.passesGate memory request = true) (notRecovering : ¬request.recovering = true)
    (noPriority : policy.isPriorityEvent request.eventType = false)
    (hasCamera : request.cameraId ≠ "") :
    policy.perCameraCooldownSeconds * 1000 ≤
      request.cooldownGateTsMs - memory.lastJobByCamera request.cameraId := by
  rw [passesGate, Bool.or_eq_true, policy.allowed_iff] at passes
  have notCooling := (passes.resolve_left notRecovering).2
  by_contra within
  have cools := (policy.coolsDown_iff (memory.context request)).mpr
    ⟨enabled, hasCamera, Int.not_le.mp within, noPriority⟩
  rw [cools] at notCooling
  cases notCooling

theorem memory_forward
    (enabled : 0 < policy.perCameraCooldownSeconds) (keeps : policy.KeepsMemory memory request)
    (passes : policy.passesGate memory request = true)
    (commits : request.execution.commits = true) (hasCamera : request.cameraId ≠ "") :
    memory.lastJobByCamera request.cameraId ≤ request.cooldownGateTsMs := by
  have orderly := policy.keepsMemory_of_passes enabled keeps passes
  by_cases bypasses : request.recovering = true ∨ policy.isPriorityEvent request.eventType = true
  · exact orderly.forward commits hasCamera bypasses
  · rw [not_or, Bool.not_eq_true, Bool.not_eq_true] at bypasses
    have apart := policy.cooldown_of_passes enabled passes (by rw [bypasses.1]; decide) bypasses.2
      hasCamera
    omega

def Remembered (memory : GateMemory) (job : ReplayJob) : Prop :=
  policy.isPriorityEvent job.eventType = false →
    job.cameraId ≠ "" ∧ job.cooldownGateTsMs ≤ memory.lastJobByCamera job.cameraId

variable {job : ReplayJob}

theorem job_of_output (put : policy.gateMachine.output memory request = some job) :
    policy.passesGate memory request = true ∧ request.execution.createsJob = true ∧
      job = request.job := by
  simp only [gateMachine, Option.ite_none_right_eq_some, Bool.and_eq_true,
    Option.some.injEq] at put
  exact ⟨put.1.1, put.1.2, put.2.symm⟩

theorem created_remembered
    (enabled : 0 < policy.perCameraCooldownSeconds) (keeps : policy.KeepsMemory memory request)
    (put : policy.gateMachine.output memory request = some job) :
    policy.Remembered (policy.gateMachine.step memory request) job := by
  rcases policy.job_of_output put with ⟨passes, creates, rfl⟩
  intro noPriority
  have orderly := policy.keepsMemory_of_passes enabled keeps passes
  rcases orderly.committed creates noPriority with ⟨commits, hasCamera⟩
  refine ⟨hasCamera, ?_⟩
  have named : request.job.cameraId = request.cameraId := rfl
  simp only [gateMachine, passes, commits, Bool.and_self, if_true, GateMemory.remember, named,
    if_neg hasCamera, Function.update_self]
  exact Int.le_refl _

theorem remembered_step (enabled : 0 < policy.perCameraCooldownSeconds)
    (keeps : policy.KeepsMemory memory request) (remembered : policy.Remembered memory job) :
    policy.Remembered (policy.gateMachine.step memory request) job := by
  intro noPriority
  rcases remembered noPriority with ⟨hasCamera, before⟩
  refine ⟨hasCamera, ?_⟩
  simp only [gateMachine]
  split
  next moves =>
    rw [Bool.and_eq_true] at moves
    simp only [GateMemory.remember]
    split
    · exact before
    next requestCamera =>
      by_cases sameCamera : job.cameraId = request.cameraId
      · rw [sameCamera, Function.update_self]
        have forward := policy.memory_forward enabled keeps moves.1 moves.2 requestCamera
        rw [sameCamera] at before
        omega
      · rw [Function.update_of_ne sameCamera]
        exact before
  next => exact before

theorem jobs_spaced (memory : GateMemory) (requests : List GateRequest)
    (keeps : OutputMachine.AtEachStep requests fun before request =>
      policy.KeepsMemory (policy.gateMachine.run memory before) request) :
    (policy.gateMachine.trace memory requests).Pairwise policy.SpacedJobs := by
  by_cases enabled : 0 < policy.perCameraCooldownSeconds
  · refine policy.gateMachine.pairwise_of_remembers policy.Remembered policy.KeepsMemory
      (fun _ _ _ allowed => policy.created_remembered enabled allowed)
      (fun _ _ _ allowed => policy.remembered_step enabled allowed) ?_ memory keeps
    intro before request job earlier allowed put remembered sameCamera earlierNoPriority noPriority
    rcases policy.job_of_output put with ⟨passes, creates, rfl⟩
    have orderly := policy.keepsMemory_of_passes enabled allowed passes
    have hasCamera := (orderly.committed creates noPriority).2
    have apart : policy.perCameraCooldownSeconds * 1000 ≤
        request.cooldownGateTsMs - before.lastJobByCamera request.cameraId := by
      by_cases recovering : request.recovering = true
      · exact orderly.recovered creates noPriority recovering
      · exact policy.cooldown_of_passes enabled passes recovering noPriority hasCamera
    have notBehind := (remembered earlierNoPriority).2
    have named : request.job.cameraId = request.cameraId := rfl
    have timed : request.job.cooldownGateTsMs = request.cooldownGateTsMs := rfl
    rw [sameCamera, named] at notBehind
    omega
  · rw [OutputMachine.pairwise_trace_iff]
    intro _ _ _ _ _ _ _ _ _ _ _
    omega

/-! ## Both cooldowns -/

/-- Alerts are a cooldown apart exactly if a row holds back each event that arrives late, and
jobs are where each request keeps the memory of its camera in order. -/
theorem cooldowns_space (alertPolicy : AlertPolicy) (rows : List AlertRow)
    (arrivals : List AlertArrival) (memory : GateMemory) (requests : List GateRequest) :
    ((alertPolicy.alertMachine.trace rows arrivals).Pairwise alertPolicy.Spaced ↔
      OutputMachine.AtEachStep arrivals fun before arrival =>
        alertPolicy.LateHeldBack (alertPolicy.alertMachine.run rows before)
          (alertPolicy.alertMachine.trace rows before) arrival.event) ∧
    ((OutputMachine.AtEachStep requests fun before request =>
        policy.KeepsMemory (policy.gateMachine.run memory before) request) →
      (policy.gateMachine.trace memory requests).Pairwise policy.SpacedJobs) :=
  ⟨alertPolicy.alerts_spaced_iff rows arrivals, policy.jobs_spaced memory requests⟩

end ClipGatePolicy

def intrusionAt (sourceEventId : String) (eventTsMs : Int) (positive : 0 < eventTsMs) :
    AlertArrival where
  event :=
    { sourceEventId, eventType := "intrusion", algorithmType := "behavior.intrusion"
      severity := "high", eventTsMs, positive }
  latest := LatestRow.first

def tenSeconds : AlertPolicy where
  globalAlertCooldownS := 10
  criticalBypass := false
  scopeText := []

def tenSecondsPerCamera : ClipGatePolicy where
  highPriorityEventTypes := []
  pressureLevel := "normal"
  runOnce := false
  maxJobsPerRun := 0
  eventTypeQuotas := []
  maxConcurrency := 0
  maxConcurrencyPerShard := 0
  maxConcurrencyPerSource := 0
  perCameraCooldownSeconds := 10

def requestAt (eventType : String) (cooldownGateTsMs : Int) : GateRequest where
  eventType := eventType
  cameraId := "camera-1"
  sourceId := "source-1"
  shardId := "shard-1"
  cooldownGateTsMs := cooldownGateTsMs
  activeGlobal := 0
  activeShard := 0
  activeSource := 0
  recovering := false
  execution := .committed

theorem ascending_requests_spaced :
    tenSecondsPerCamera.gateMachine.trace {} [requestAt "intrusion" 100000,
        requestAt "watchlist_hit" 105000, requestAt "intrusion" 115000] =
      [(requestAt "intrusion" 100000).job, (requestAt "watchlist_hit" 105000).job,
        (requestAt "intrusion" 115000).job] ∧
    (tenSecondsPerCamera.gateMachine.trace {} [requestAt "intrusion" 100000,
      requestAt "watchlist_hit" 105000, requestAt "intrusion" 115000]).Pairwise
        tenSecondsPerCamera.SpacedJobs := by
  refine ⟨by decide +kernel, ?_⟩
  apply (tenSecondsPerCamera.cooldowns_space tenSeconds [] [] {} _).2
  refine OutputMachine.atEachStep_cons ?_ (OutputMachine.atEachStep_cons ?_
    (OutputMachine.atEachStep_cons ?_ OutputMachine.atEachStep_nil))
  all_goals
    intro _ _
    exact ⟨by decide +kernel, by decide +kernel, by decide +kernel⟩

/-- An event that arrives after a later one is emitted five seconds before it; a late
priority job takes the camera's memory back, and two jobs are five seconds apart. -/
theorem late_arrivals_within_cooldown :
    (¬(tenSeconds.alertMachine.trace []
        [intrusionAt "first" 100000 (by decide), intrusionAt "late" 95000 (by decide)]).Pairwise
          tenSeconds.Spaced) ∧
      ¬(tenSecondsPerCamera.gateMachine.trace {}
        [requestAt "intrusion" 100000, requestAt "watchlist_hit" 50000,
          requestAt "intrusion" 105000]).Pairwise tenSecondsPerCamera.SpacedJobs := by
  have alerts : tenSeconds.alertMachine.trace []
      [intrusionAt "first" 100000 (by decide), intrusionAt "late" 95000 (by decide)] =
        [(intrusionAt "first" 100000 (by decide)).event,
          (intrusionAt "late" 95000 (by decide)).event] := rfl
  have jobs : tenSecondsPerCamera.gateMachine.trace {}
      [requestAt "intrusion" 100000, requestAt "watchlist_hit" 50000,
        requestAt "intrusion" 105000] =
          [(requestAt "intrusion" 100000).job, (requestAt "watchlist_hit" 50000).job,
            (requestAt "intrusion" 105000).job] := by decide +kernel
  constructor
  · rw [alerts]
    intro spaced
    have apart := List.rel_of_pairwise_cons spaced (List.mem_cons_self) rfl
    simp [intrusionAt, tenSeconds] at apart
  · rw [jobs]
    intro spaced
    have apart := List.rel_of_pairwise_cons spaced
      (List.mem_cons_of_mem _ List.mem_cons_self) rfl (by decide) (by decide)
    simp [requestAt, GateRequest.job, tenSecondsPerCamera] at apart

end VideoAnalysis.Clip
