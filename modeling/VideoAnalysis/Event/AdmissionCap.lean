import VideoAnalysis.Foundation.Machine
import VideoAnalysis.Foundation.SharedPool
import VideoAnalysis.Lifecycle.Contract

/-! # The admission cap

`_evidence_admission_decision` before `create_evidence_task` inserts a clip task.
One event worker makes its calls one after the other; between its statements the
media worker may end tasks. Errors of the admission queries are left out.
-/

namespace VideoAnalysis.Event

open Foundation
open Lifecycle (MaterializationStatus)

/-- The environment of the event worker. An entry of `reservedSources` is never blank. -/
structure AdmissionConfig where
  maxActiveGlobal : Int
  maxActivePerSource : Int
  maxActiveByEventType : List (String × Int)
  reservedPerSource : Nat
  reservedSources : List String
  skipAtSourceLimit : Bool
  named : ∀ source ∈ reservedSources, source ≠ ""

structure AdmissionTask where
  eventId : String
  sourceId : String
  eventType : String
  status : String
  materializationStatus : MaterializationStatus

/-- A clip event with initial status `materialization_pending`. -/
structure AdmissionEvent where
  eventId : String
  sourceId : String
  eventType : String
  highPriority : Bool
  hasRuntimeEpoch : Bool

def activeAdmissionStatuses : List String :=
  ["finalizing", "materializing", "pending", "queued", "replay_job_created", "replaying",
    "waiting_proof"]

def AdmissionTask.active (task : AdmissionTask) : Bool :=
  activeAdmissionStatuses.contains task.status || task.materializationStatus.claimable ||
    decide (task.materializationStatus = .running)

/-- The sources of the active tasks, one entry for each task. -/
def activeSources (tasks : List AdmissionTask) : List String :=
  (tasks.filter AdmissionTask.active).map AdmissionTask.sourceId

def activeAdmissionCount (tasks : List AdmissionTask) (sourceId eventType : String) : Nat :=
  (tasks.filter fun task => task.active &&
    (decide (sourceId = "") || decide (task.sourceId = sourceId)) &&
    (decide (eventType = "") || decide (task.eventType = eventType))).length

def sharedAdmissionUsed (tasks : List AdmissionTask) (reservedPerSource : Nat) : Nat :=
  poolUsed (fun _ => reservedPerSource) (activeSources tasks)

inductive AdmissionDecision
  | allowed (reason : String)
  | denied (reason : String)

def AdmissionDecision.isAllowed : AdmissionDecision → Bool
  | .allowed _ => true
  | .denied _ => false

namespace AdmissionConfig

def reservationActive (config : AdmissionConfig) : Bool :=
  decide (0 < config.reservedPerSource) && !config.reservedSources.isEmpty

def sharedLimit (config : AdmissionConfig) : Int :=
  config.maxActiveGlobal - config.reservedPerSource * config.reservedSources.length

def insideReservation (config : AdmissionConfig) (tasks : List AdmissionTask)
    (sourceId : String) : Bool :=
  config.reservationActive && decide (sourceId ≠ "") &&
    config.reservedSources.contains sourceId &&
    decide (activeAdmissionCount tasks sourceId "" < config.reservedPerSource)

def globalRefusal (config : AdmissionConfig) (tasks : List AdmissionTask) : Option String :=
  if config.maxActiveGlobal ≤ 0 then none
  else if config.reservationActive = true ∧ 0 < config.sharedLimit then
    if config.sharedLimit ≤ sharedAdmissionUsed tasks config.reservedPerSource then
      some "admission_shared_pool_exhausted"
    else none
  else if config.maxActiveGlobal ≤ activeAdmissionCount tasks "" "" then
    some "admission_global_active_limit_reached"
  else none

def sourceRefusal (config : AdmissionConfig) (tasks : List AdmissionTask)
    (event : AdmissionEvent) : Option String :=
  if 0 < config.maxActivePerSource ∧ event.sourceId ≠ "" ∧
      config.maxActivePerSource ≤ activeAdmissionCount tasks event.sourceId "" ∧
      config.skipAtSourceLimit = true ∧ event.highPriority = false then
    some "admission_source_active_limit_reached"
  else none

def eventTypeRefusal (config : AdmissionConfig) (tasks : List AdmissionTask)
    (event : AdmissionEvent) : Option String :=
  let limit := (config.maxActiveByEventType.lookup event.eventType).getD 0
  if 0 < limit ∧ event.eventType ≠ "" ∧
      limit ≤ activeAdmissionCount tasks "" event.eventType then
    some "admission_event_type_active_limit_reached"
  else none

end AdmissionConfig

def evidenceAdmissionDecision (config : AdmissionConfig) (tasks : List AdmissionTask)
    (event : AdmissionEvent) : AdmissionDecision :=
  if config.insideReservation tasks event.sourceId then .allowed "admitted_source_reservation"
  else
    match config.globalRefusal tasks, config.sourceRefusal tasks event,
      config.eventTypeRefusal tasks event with
    | some reason, _, _ => .denied reason
    | none, some reason, _ => .denied reason
    | none, none, some reason => .denied reason
    | none, none, none => .allowed "admitted"

/-! ## Calls of one event worker -/

/-- The status that the insert writes; `covered` says that an earlier event of the
source takes this one in. -/
def createdStatus (config : AdmissionConfig) (tasks : List AdmissionTask)
    (event : AdmissionEvent) (covered : Bool) : MaterializationStatus :=
  let initial : MaterializationStatus :=
    if covered then .deferred
    else if (evidenceAdmissionDecision config tasks event).isAllowed then .pending
    else .skipped
  if initial.claimable = true ∧
      (Lifecycle.strip event.sourceId.toList = [] ∨ event.hasRuntimeEpoch = false) then .failed
  else initial

def createdTask (config : AdmissionConfig) (tasks : List AdmissionTask)
    (event : AdmissionEvent) (covered : Bool) : AdmissionTask :=
  let status := createdStatus config tasks event covered
  { eventId := event.eventId, sourceId := event.sourceId, eventType := event.eventType
    status := status.value, materializationStatus := status }

structure AdmissionState where
  tasks : List AdmissionTask
  /-- The row that the call in progress is about to insert. -/
  creating : Option AdmissionTask

inductive AdmissionLabel
  | decideTask (event : AdmissionEvent) (covered : Bool)
  | insertTask
  | progress (eventId status : String) (materializationStatus : MaterializationStatus)

/-- A write of the media worker: none matches a row that is no longer active. -/
def progressTask (eventId status : String) (materializationStatus : MaterializationStatus)
    (task : AdmissionTask) : AdmissionTask :=
  if task.eventId = eventId ∧ task.active = true then
    { task with status, materializationStatus }
  else task

def admissionStep (config : AdmissionConfig) (state : AdmissionState) :
    AdmissionLabel → Option AdmissionState
  | .decideTask event covered =>
    match state.creating with
    | none => some { state with creating := some (createdTask config state.tasks event covered) }
    | some _ => none
  | .insertTask =>
    match state.creating with
    | none => none
    | some task =>
      -- `ON CONFLICT (task_id)` keeps the row that is there
      if state.tasks.any fun other => decide (other.eventId = task.eventId) then
        some { state with creating := none }
      else some { tasks := state.tasks ++ [task], creating := none }
  | .progress eventId status materializationStatus =>
    some { state with
      tasks := state.tasks.map (progressTask eventId status materializationStatus) }

/-- The worker starts between two calls, with no task active. -/
def admissionMachine (config : AdmissionConfig) : Machine AdmissionState AdmissionLabel where
  initial state := state.creating = none ∧ activeSources state.tasks = []
  step := admissionStep config

/-! ## The cap -/

namespace AdmissionConfig

/-- The places of a source on the roster; the others have none of their own. -/
def ownPlaces (config : AdmissionConfig) (sourceId : String) : Nat :=
  if sourceId ∈ config.reservedSources then config.reservedPerSource else 0

/-- The shared pool with every task of a source off the roster charged to it. -/
def chargedUsed (config : AdmissionConfig) (tasks : List AdmissionTask) : Nat :=
  poolUsed config.ownPlaces (activeSources tasks)

end AdmissionConfig

/-- A call that reaches the shared pool finds room there only if there is room for
every task charged to it, those of sources off the roster included. -/
def PoolAgrees (config : AdmissionConfig) (tasks : List AdmissionTask)
    (event : AdmissionEvent) : Prop :=
  config.reservationActive = true → config.insideReservation tasks event.sourceId = false →
    (sharedAdmissionUsed tasks config.reservedPerSource : Int) < config.sharedLimit →
      (config.chargedUsed tasks : Int) < config.sharedLimit

instance (config : AdmissionConfig) (tasks : List AdmissionTask) (event : AdmissionEvent) :
    Decidable (PoolAgrees config tasks event) := by
  unfold PoolAgrees
  infer_instance

def FairCall (config : AdmissionConfig) (state : AdmissionState) : AdmissionLabel → Prop
  | .decideTask event _ => PoolAgrees config state.tasks event
  | _ => True

instance (config : AdmissionConfig) (state : AdmissionState) (label : AdmissionLabel) :
    Decidable (FairCall config state label) :=
  match label with
  | .decideTask event _ => inferInstanceAs (Decidable (PoolAgrees config state.tasks event))
  | .insertTask => inferInstanceAs (Decidable True)
  | .progress _ _ _ => inferInstanceAs (Decidable True)

def AdmissionState.committed (state : AdmissionState) : List AdmissionTask :=
  state.tasks ++ state.creating.toList

def WithinCap (config : AdmissionConfig) (tasks : List AdmissionTask) : Prop :=
  if config.reservationActive then (config.chargedUsed tasks : Int) ≤ config.sharedLimit
  else ((activeSources tasks).length : Int) ≤ config.maxActiveGlobal

theorem activeSources_append (first second : List AdmissionTask) :
    activeSources (first ++ second) = activeSources first ++ activeSources second := by
  simp only [activeSources, List.filter_append, List.map_append]

theorem activeAdmissionCount_all (tasks : List AdmissionTask) :
    activeAdmissionCount tasks "" "" = (activeSources tasks).length := by
  simp only [activeAdmissionCount, activeSources, decide_true, Bool.true_or, Bool.and_true,
    List.length_map]

variable {tasks : List AdmissionTask}

theorem activeAdmissionCount_source {sourceId : String} (named : sourceId ≠ "") :
    activeAdmissionCount tasks sourceId "" = (activeSources tasks).count sourceId := by
  simp only [activeAdmissionCount, activeSources, decide_true, Bool.true_or, Bool.and_true,
    decide_eq_false named, Bool.false_or]
  rw [List.count, List.countP_map, List.countP_filter, ← List.countP_eq_length_filter]
  apply List.countP_congr
  intro task _
  simp only [Function.comp_apply, Bool.and_eq_true, decide_eq_true_eq, beq_iff_eq]
  exact and_comm

theorem activeSources_progress (eventId status : String)
    (materializationStatus : MaterializationStatus) (tasks : List AdmissionTask) :
    (activeSources (tasks.map (progressTask eventId status materializationStatus))).Sublist
      (activeSources tasks) := by
  induction tasks with
  | nil => exact List.Sublist.refl _
  | cons task _ induction =>
    rw [List.map_cons]
    have front : (activeSources [progressTask eventId status materializationStatus task]).Sublist
        (activeSources [task]) := by
      unfold progressTask
      split
      next matched =>
        have before : activeSources [task] = [task.sourceId] := by
          simp only [activeSources, List.filter_cons, matched.2, if_true, List.filter_nil,
            List.map_cons, List.map_nil]
        rw [before]
        simp only [activeSources, List.filter_cons, List.filter_nil]
        split
        · exact List.Sublist.refl _
        · exact List.nil_sublist _
      next => exact List.Sublist.refl _
    have joined := front.append induction
    rw [← activeSources_append, ← activeSources_append] at joined
    exact joined

variable {config : AdmissionConfig}

theorem WithinCap.mono {fewer : List AdmissionTask}
    (subset : (activeSources fewer).Sublist (activeSources tasks))
    (within : WithinCap config tasks) : WithinCap config fewer := by
  unfold WithinCap AdmissionConfig.chargedUsed at *
  have pool := @poolUsed_mono _ _ config.ownPlaces _ _ subset
  have count := subset.length_le
  split
  next reserved =>
    rw [if_pos reserved] at within
    omega
  next unreserved =>
    rw [if_neg unreserved] at within
    omega

variable {event : AdmissionEvent}

theorem evidenceAdmissionDecision_of_inside
    (inside : config.insideReservation tasks event.sourceId = true) :
    (evidenceAdmissionDecision config tasks event).isAllowed = true := by
  rw [evidenceAdmissionDecision, if_pos inside]
  rfl

theorem globalRefusal_of_allowed
    (outside : config.insideReservation tasks event.sourceId = false)
    (allowed : (evidenceAdmissionDecision config tasks event).isAllowed = true) :
    config.globalRefusal tasks = none := by
  simp only [evidenceAdmissionDecision, outside, Bool.false_eq_true, if_false] at allowed
  split at allowed <;> first | assumption | cases allowed

theorem createdTask_active {covered : Bool}
    (active : (createdTask config tasks event covered).active = true) :
    (evidenceAdmissionDecision config tasks event).isAllowed = true := by
  cases allowed : (evidenceAdmissionDecision config tasks event).isAllowed with
  | true => rfl
  | false =>
    have status : createdStatus config tasks event covered = .deferred ∨
        createdStatus config tasks event covered = .skipped := by
      simp only [createdStatus, allowed, Bool.false_eq_true, if_false]
      cases covered with
      | true => exact .inl rfl
      | false => exact .inr rfl
    rcases status with deferred | skipped
    · simp only [AdmissionTask.active, createdTask, deferred] at active
      revert active
      decide
    · simp only [AdmissionTask.active, createdTask, skipped] at active
      revert active
      decide

theorem WithinCap.create (covered : Bool) (positive : 0 < config.maxActiveGlobal)
    (fits : 0 < config.sharedLimit) (fair : PoolAgrees config tasks event)
    (within : WithinCap config tasks) :
    WithinCap config (tasks ++ [createdTask config tasks event covered]) := by
  cases active : (createdTask config tasks event covered).active with
  | false =>
    have same : activeSources (tasks ++ [createdTask config tasks event covered]) =
        activeSources tasks := by
      rw [activeSources_append]
      simp only [activeSources, List.filter_cons, active, Bool.false_eq_true, if_false,
        List.filter_nil, List.map_nil, List.append_nil]
    exact WithinCap.mono (same ▸ List.Sublist.refl _) within
  | true =>
    have allowed := createdTask_active active
    have added : activeSources (tasks ++ [createdTask config tasks event covered]) =
        activeSources tasks ++ [event.sourceId] := by
      rw [activeSources_append]
      simp only [activeSources, List.filter_cons, active, if_true, List.filter_nil,
        List.map_cons, List.map_nil]
      rfl
    unfold WithinCap AdmissionConfig.chargedUsed at within ⊢
    rw [added]
    split
    next reserved =>
      rw [if_pos reserved] at within
      cases inside : config.insideReservation tasks event.sourceId with
      | true =>
        simp only [AdmissionConfig.insideReservation, Bool.and_eq_true, decide_eq_true_eq,
          List.contains_iff_mem] at inside
        rcases inside with ⟨⟨⟨_, named⟩, onRoster⟩, below⟩
        rw [activeAdmissionCount_source named] at below
        have room : (activeSources tasks).count event.sourceId <
            config.ownPlaces event.sourceId := by
          rw [AdmissionConfig.ownPlaces, if_pos onRoster]
          exact below
        rw [poolUsed_concat_of_lt room]
        exact within
      | false =>
        have unrefused := globalRefusal_of_allowed inside allowed
        rw [AdmissionConfig.globalRefusal, if_neg (by omega), if_pos ⟨reserved, fits⟩] at unrefused
        split at unrefused
        · cases unrefused
        next room =>
          have charged := fair reserved inside (by omega)
          rw [AdmissionConfig.chargedUsed] at charged
          have grows := poolUsed_concat_le config.ownPlaces event.sourceId (activeSources tasks)
          omega
    next unreserved =>
      have outside : config.insideReservation tasks event.sourceId = false := by
        simp only [AdmissionConfig.insideReservation, Bool.eq_false_of_not_eq_true unreserved,
          Bool.false_and]
      have unrefused := globalRefusal_of_allowed outside allowed
      rw [AdmissionConfig.globalRefusal, if_neg (by omega),
        if_neg (fun both => unreserved both.1)] at unrefused
      split at unrefused
      · cases unrefused
      next room =>
        rw [activeAdmissionCount_all] at room
        rw [List.length_append, List.length_singleton]
        omega

theorem WithinCap.committed {config : AdmissionConfig} {state : AdmissionState}
    (positive : 0 < config.maxActiveGlobal) (fits : 0 < config.sharedLimit)
    (reached : ((admissionMachine config).restrict (FairCall config)).Reachable state) :
    WithinCap config state.committed := by
  have invariant : ((admissionMachine config).restrict (FairCall config)).Invariant
      fun state => WithinCap config state.committed := by
    constructor
    · rintro state ⟨idle, none_⟩
      have sources : activeSources state.committed = [] := by
        simp only [AdmissionState.committed, idle, Option.toList_none, List.append_nil, none_]
      unfold WithinCap AdmissionConfig.chargedUsed
      rw [sources]
      split
      · exact fits.le
      · exact positive.le
    · intro current label next _ within step
      rcases Machine.restrict_step_eq_some.mp step with ⟨fair, moved⟩
      cases label with
      | decideTask _ covered =>
        cases creating : current.creating with
        | some => simp only [admissionMachine, admissionStep, creating, reduceCtorEq] at moved
        | none =>
          simp only [admissionMachine, admissionStep, creating, Option.some.injEq] at moved
          subst moved
          simp only [AdmissionState.committed, creating, Option.toList_none,
            List.append_nil] at within
          exact within.create covered positive fits fair
      | insertTask =>
        cases creating : current.creating with
        | none => simp only [admissionMachine, admissionStep, creating, reduceCtorEq] at moved
        | some =>
          simp only [admissionMachine, admissionStep, creating] at moved
          simp only [AdmissionState.committed, creating, Option.toList_some] at within
          split at moved <;> cases moved
          · apply WithinCap.mono _ within
            simp only [AdmissionState.committed, Option.toList_none, List.append_nil,
              activeSources_append]
            exact List.sublist_append_left _ _
          · simpa only [AdmissionState.committed, Option.toList_none, List.append_nil]
              using within
      | progress eventId status materializationStatus =>
        cases moved
        apply WithinCap.mono _ within
        simp only [AdmissionState.committed, activeSources_append]
        exact (activeSources_progress eventId status materializationStatus current.tasks).append
          (List.Sublist.refl _)
  exact invariant.holds reached

theorem WithinCap.length_le (within : WithinCap config tasks) :
    ((activeSources tasks).length : Int) ≤ config.maxActiveGlobal := by
  unfold WithinCap at within
  split at within
  next reserved =>
    have counted := length_le_poolUsed config.reservedSources config.reservedPerSource
      (activeSources tasks)
    have sameOwn : poolUsed (fun owner => if owner ∈ config.reservedSources then
        config.reservedPerSource else 0) (activeSources tasks) = config.chargedUsed tasks := rfl
    rw [sameOwn] at counted
    have countedInt : ((activeSources tasks).length : Int) ≤ config.chargedUsed tasks +
        config.reservedPerSource * config.reservedSources.length := by
      exact_mod_cast counted
    unfold AdmissionConfig.sharedLimit at within
    omega
  next unreserved => exact within

/-- If every call that the shared pool lets in would also fit with all tasks charged to
it, the cap holds; a source on the roster always gets its own places. -/
theorem admission_cap_and_floor {config : AdmissionConfig} {state : AdmissionState}
    (positive : 0 < config.maxActiveGlobal)
    (fits : (config.reservedPerSource * config.reservedSources.length : Int) <
      config.maxActiveGlobal)
    (reached : ((admissionMachine config).restrict (FairCall config)).Reachable state) :
    ((activeSources state.tasks).length : Int) ≤ config.maxActiveGlobal ∧
      ∀ event : AdmissionEvent, event.sourceId ∈ config.reservedSources →
        (activeSources state.tasks).count event.sourceId < config.reservedPerSource →
        (evidenceAdmissionDecision config state.tasks event).isAllowed = true := by
  have room : 0 < config.sharedLimit := by
    unfold AdmissionConfig.sharedLimit
    omega
  constructor
  · have within := (WithinCap.committed positive room reached).length_le
    rw [AdmissionState.committed, activeSources_append, List.length_append] at within
    omega
  · intro event onRoster below
    apply evidenceAdmissionDecision_of_inside
    have named := config.named event.sourceId onRoster
    have reserves : config.reservationActive = true := by
      rw [AdmissionConfig.reservationActive, Bool.and_eq_true, decide_eq_true_eq]
      refine ⟨by omega, ?_⟩
      cases roster : config.reservedSources with
      | nil =>
        rw [roster] at onRoster
        cases onRoster
      | cons => rfl
    simp only [AdmissionConfig.insideReservation, reserves, Bool.and_eq_true, decide_eq_true_eq,
      List.contains_iff_mem, Bool.true_and]
    exact ⟨⟨named, onRoster⟩, by rw [activeAdmissionCount_source named]; exact below⟩

def oneReserved : AdmissionConfig where
  maxActiveGlobal := 2
  maxActivePerSource := 0
  maxActiveByEventType := []
  reservedPerSource := 1
  reservedSources := ["cam-a"]
  skipAtSourceLimit := false
  named := by
    intro source member
    rw [List.mem_singleton.mp member]
    decide

def clipEvent (eventId sourceId : String) : AdmissionEvent :=
  { eventId, sourceId, eventType := "intrusion", highPriority := false, hasRuntimeEpoch := true }

def createCalls (sources : List String) : List AdmissionLabel :=
  sources.flatMap fun source => [.decideTask (clipEvent source source) false, .insertTask]

theorem cap_and_floor_after_two_calls :
    ∃ state, ((admissionMachine oneReserved).restrict (FairCall oneReserved)).run
        { tasks := [], creating := none } (createCalls ["cam-a", "cam-x"]) = some state ∧
      ((activeSources state.tasks).length : Int) ≤ 2 := by
  have ran : (((admissionMachine oneReserved).restrict (FairCall oneReserved)).run
      { tasks := [], creating := none } (createCalls ["cam-a", "cam-x"])).isSome = true := by
    decide +kernel
  rcases Option.isSome_iff_exists.mp ran with ⟨state, atState⟩
  have start : ((admissionMachine oneReserved).restrict (FairCall oneReserved)).Reachable
      { tasks := [], creating := none } := .start ⟨rfl, rfl⟩
  have bounds := admission_cap_and_floor (by decide) (by decide) (start.run atState)
  exact ⟨state, atState, bounds.1⟩

/-- Three sources off the roster: none of their tasks is charged to the pool. -/
theorem unrostered_sources_exceed_cap :
    ((admissionMachine oneReserved).run { tasks := [], creating := none }
        (createCalls ["cam-x", "cam-y", "cam-z"])).map
      (fun state => (activeSources state.tasks).length) = some 3 ∧
      oneReserved.maxActiveGlobal = 2 := by
  decide +kernel

end VideoAnalysis.Event
