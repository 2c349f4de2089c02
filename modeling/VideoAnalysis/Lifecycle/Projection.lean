import VideoAnalysis.Foundation.Machine
import VideoAnalysis.Foundation.ThreadPool
import VideoAnalysis.Lifecycle.Calls

/-! # Projections to the events row

Workers run their statements one at a time and in any interleaving. A statement
that moves the status of the task row leaves its projection to a later statement
of the same worker, and a recovery pass keeps all of its projections until its
last update. `version` counts the status writes of the task row, so that the
projection of the newest one can be told from a late one.
-/

namespace VideoAnalysis.Lifecycle

open Foundation

structure Unprojected where
  version : Nat
  projection : EventProjection
  deriving DecidableEq

/-- A worker is idle when it has neither updates nor projections left to run. -/
structure WorkerState where
  remaining : List RecoveryStatement
  sourceIds : List String
  unprojected : List Unprojected
  deriving DecidableEq

def WorkerState.idle : WorkerState where
  remaining := []
  sourceIds := []
  unprojected := []

structure ProjectionState where
  row : EvidenceTask
  mediaStatus : MaterializationStatus
  version : Nat
  workers : List WorkerState
  deriving DecidableEq

inductive ProjectionLabel where
  | call (worker : Nat) (invocation : Invocation)
  | beginRecovery (worker : Nat) (sourceIds : List String)
  | recoverNext (worker : Nat) (now : Int)
  | projectNext (worker : Nat)

def Call.isRecovery : Call → Bool
  | .recover .. => true
  | _ => false

def ProjectionState.withWorker (state : ProjectionState) (index : Nat) (worker : WorkerState) :
    ProjectionState :=
  { state with workers := state.workers.set index worker }

/-- The transition of one statement run by `index`; `worker` is what that worker
has left to do apart from the projection of this transition. -/
def ProjectionState.record (state : ProjectionState) (index : Nat) (worker : WorkerState)
    (transition : Transition Returned) : ProjectionState :=
  match transition.events with
  | .unchanged =>
    { state with row := transition.row, workers := state.workers.set index worker }
  | .inSameStatement projection =>
    { row := transition.row
      mediaStatus := projection.materializationStatus
      version := state.version + 1
      workers := state.workers.set index worker }
  | .afterwards projection =>
    { state with
      row := transition.row
      version := state.version + 1
      workers := state.workers.set index
        { worker with
          unprojected := worker.unprojected ++ [⟨state.version + 1, projection⟩] } }

def projectionStep (runtime : PyRuntime) (state : ProjectionState) :
    ProjectionLabel → Option ProjectionState
  | .call index invocation =>
    if state.workers[index]? = some .idle ∧ invocation.call.isRecovery = false then
      match execute runtime invocation.now state.row invocation.call with
      | .ok transition => some (state.record index .idle transition)
      | .error _ => some state
    else none
  | .beginRecovery index sourceIds =>
    if state.workers[index]? = some .idle then
      some (state.withWorker index ⟨recoveryStatements, sourceIds, []⟩)
    else none
  | .recoverNext index now =>
    match state.workers[index]? with
    | some ⟨statement :: remaining, sourceIds, unprojected⟩ =>
      match execute runtime now state.row (.recover statement sourceIds) with
      | .ok transition =>
        some (state.record index ⟨remaining, sourceIds, unprojected⟩ transition)
      | .error _ => some state
    | _ => none
  | .projectNext index =>
    match state.workers[index]? with
    | some ⟨[], _, entry :: unprojected⟩ =>
      some ({ state with mediaStatus := entry.projection.materializationStatus }.withWorker
        index ⟨[], [], unprojected⟩)
    | _ => none

def projectionMachine (runtime : PyRuntime) : Machine ProjectionState ProjectionLabel where
  initial state :=
    state.mediaStatus = state.row.materializationStatus ∧
      ∀ worker ∈ state.workers, worker = .idle
  step := projectionStep runtime

def ProjectionState.outstanding (state : ProjectionState) : Multiset Unprojected :=
  total (fun worker : WorkerState => (worker.unprojected : Multiset Unprojected)) state.workers

def NewestOutstanding (state : ProjectionState) : Prop :=
  state.version ∈ state.outstanding.map Unprojected.version

instance (state : ProjectionState) : Decidable (NewestOutstanding state) := by
  unfold NewestOutstanding
  infer_instance

/-- The entry a `projectNext` is about to write. -/
def nextProjection (state : ProjectionState) : ProjectionLabel → Option Unprojected
  | .projectNext index => (state.workers[index]?).bind fun worker => worker.unprojected.head?
  | _ => none

/-- A projection carries the status the row still has, or the projection of the
newest status write is still to come. -/
def Timely (state : ProjectionState) (label : ProjectionLabel) : Prop :=
  ∀ entry, nextProjection state label = some entry →
    entry.projection.materializationStatus = state.row.materializationStatus ∨
      NewestOutstanding state

instance (state : ProjectionState) (label : ProjectionLabel) :
    Decidable (Timely state label) :=
  match equal : nextProjection state label with
  | none => isTrue (by intro entry found; rw [equal] at found; cases found)
  | some entry =>
    decidable_of_iff
      (entry.projection.materializationStatus = state.row.materializationStatus ∨
        NewestOutstanding state)
      (by
        constructor
        · intro holds other found
          rw [equal] at found
          cases found
          exact holds
        · intro holds
          exact holds entry equal)

def timelyMachine (runtime : PyRuntime) : Machine ProjectionState ProjectionLabel :=
  (projectionMachine runtime).restrict Timely

/-- Whenever no projection is outstanding the events row agrees with the task
row, and a projected terminal status is never overwritten. -/
def ProjectionAgrees (machine : Machine ProjectionState ProjectionLabel) : Prop :=
  ∀ state, machine.Reachable state →
    (state.outstanding = 0 → state.mediaStatus = state.row.materializationStatus) ∧
    (state.row.materializationStatus.isTerminal = true → ¬NewestOutstanding state →
      ∀ labels later, machine.run state labels = some later →
        later.mediaStatus = state.row.materializationStatus)

/-! ## What one statement does to the statuses -/

/-- A projection carries the status that was written, and a transition that
projects nothing leaves the status alone. -/
def EventWrite.Carries (events : EventWrite) (before after : MaterializationStatus) : Prop :=
  match events with
  | .unchanged => after = before
  | .inSameStatement projection => projection.materializationStatus = after
  | .afterwards projection => projection.materializationStatus = after

theorem Wrote.events_carry {now : Int} {row after : EvidenceTask} {call : Call}
    {events : EventWrite} {granted : Option MaterializationLease}
    (wrote : Wrote now row call after events granted) :
    events.Carries row.materializationStatus after.materializationStatus := by
  cases wrote with
  | recoveredHandoff running => exact running.symm
  | _ => rfl

variable {state : ProjectionState}

theorem outstanding_set {index : Nat} {before : WorkerState}
    (occupied : state.workers[index]? = some before) (after : WorkerState) :
    total (fun worker : WorkerState => (worker.unprojected : Multiset Unprojected))
        (state.workers.set index after) + (before.unprojected : Multiset Unprojected) =
      state.outstanding + (after.unprojected : Multiset Unprojected) :=
  total_set _ occupied after

/-- The effects a statement can have on the statuses and the outstanding
projections. -/
inductive Moved (state : ProjectionState) (label : ProjectionLabel) (next : ProjectionState) :
    Prop
  | quiet
      (status : next.row.materializationStatus = state.row.materializationStatus)
      (media : next.mediaStatus = state.mediaStatus)
      (version : next.version = state.version)
      (outstanding : next.outstanding = state.outstanding)
  | settled
      (active : state.row.materializationStatus.isTerminal = false)
      (media : next.mediaStatus = next.row.materializationStatus)
      (version : next.version = state.version + 1)
      (outstanding : next.outstanding = state.outstanding)
  | postponed (projection : EventProjection)
      (active : state.row.materializationStatus.isTerminal = false)
      (status : projection.materializationStatus = next.row.materializationStatus)
      (version : next.version = state.version + 1)
      (outstanding : next.outstanding = ⟨state.version + 1, projection⟩ ::ₘ state.outstanding)
  | projected (entry : Unprojected)
      (upcoming : nextProjection state label = some entry)
      (row : next.row = state.row)
      (media : next.mediaStatus = entry.projection.materializationStatus)
      (version : next.version = state.version)
      (outstanding : state.outstanding = entry ::ₘ next.outstanding)

theorem Moved.refl (state : ProjectionState) (label : ProjectionLabel) :
    Moved state label state :=
  .quiet rfl rfl rfl rfl

variable {label : ProjectionLabel}

/-- Recording a transition moves the state, whatever updates the worker still
has to run. -/
theorem record_moved {index : Nat} {now : Int} {call : Call} {transition : Transition Returned}
    {before : WorkerState} (occupied : state.workers[index]? = some before) (after : WorkerState)
    (same : after.unprojected = before.unprojected)
    (cases : StepCases now state.row call transition) :
    Moved state label (state.record index after transition) := by
  have kept : total (fun worker : WorkerState => (worker.unprojected : Multiset Unprojected))
      (state.workers.set index after) = state.outstanding := by
    have swapped := outstanding_set occupied after
    rw [same] at swapped
    exact add_right_cancel swapped
  rcases cases with refused | ⟨_, wrote⟩
  · rw [ProjectionState.record, refused.events, refused.row]
    exact .quiet rfl rfl rfl kept
  · have status := wrote.events_carry
    have active := wrote.active
    cases events : transition.events with
    | unchanged =>
      rw [events] at status
      simp only [ProjectionState.record, events]
      exact .quiet status rfl rfl kept
    | inSameStatement =>
      rw [events] at status
      simp only [ProjectionState.record, events]
      exact .settled active status rfl kept
    | afterwards projection =>
      rw [events] at status
      simp only [ProjectionState.record, events]
      refine .postponed projection active status rfl ?_
      have swapped := outstanding_set occupied
        { after with
          unprojected := after.unprojected ++ [⟨state.version + 1, projection⟩] }
      refine add_right_cancel (swapped.trans ?_)
      rw [same, ← Multiset.coe_add, Multiset.coe_singleton, ← Multiset.singleton_add]
      ac_rfl

variable {runtime : PyRuntime}

theorem projectionStep_moved {state next : ProjectionState}
    (step : projectionStep runtime state label = some next) :
    Moved state label next := by
  cases label with
  | call index invocation =>
    simp only [projectionStep] at step
    split at step
    · rename_i guard
      cases executed : execute runtime invocation.now state.row invocation.call with
      | error =>
        rw [executed] at step
        cases step
        exact .refl state _
      | ok =>
        rw [executed] at step
        cases step
        exact record_moved guard.1 .idle rfl (execute_cases executed)
    · cases step
  | beginRecovery index sourceIds =>
    simp only [projectionStep] at step
    split at step
    · rename_i idle
      cases step
      have swapped := outstanding_set idle ⟨recoveryStatements, sourceIds, []⟩
      exact .quiet rfl rfl rfl (add_right_cancel swapped)
    · cases step
  | recoverNext index now =>
    simp only [projectionStep] at step
    split at step
    · rename_i statement remaining sourceIds unprojected occupied
      cases executed : execute runtime now state.row (.recover statement sourceIds) with
      | error =>
        rw [executed] at step
        cases step
        exact .refl state _
      | ok =>
        rw [executed] at step
        cases step
        exact record_moved occupied ⟨remaining, sourceIds, unprojected⟩ rfl
          (execute_cases executed)
    · cases step
  | projectNext index =>
    simp only [projectionStep] at step
    split at step
    · rename_i sourceIds entry unprojected occupied
      cases step
      have swapped := outstanding_set occupied ⟨[], [], unprojected⟩
      refine .projected entry ?_ rfl rfl rfl ?_
      · simp [nextProjection, occupied]
      · refine add_right_cancel (swapped.symm.trans ?_)
        rw [← Multiset.cons_coe, Multiset.add_cons, Multiset.cons_add]
        rfl
    · cases step

/-! ## Timely projections -/

structure ProjectionInvariant (state : ProjectionState) : Prop where
  bound : ∀ entry ∈ state.outstanding, entry.version ≤ state.version
  newest : ∀ entry ∈ state.outstanding, entry.version = state.version →
    entry.projection.materializationStatus = state.row.materializationStatus
  agrees : NewestOutstanding state ∨ state.mediaStatus = state.row.materializationStatus

theorem newestOutstanding_iff :
    NewestOutstanding state ↔ ∃ entry ∈ state.outstanding, entry.version = state.version := by
  simp [NewestOutstanding, Multiset.mem_map]

theorem ProjectionInvariant.moved {state next : ProjectionState}
    (valid : ProjectionInvariant state) (timely : Timely state label)
    (moved : Moved state label next) : ProjectionInvariant next := by
  cases moved with
  | quiet status media version outstanding =>
    refine ⟨?_, ?_, ?_⟩
    · rw [outstanding, version]
      exact valid.bound
    · rw [outstanding, version, status]
      exact valid.newest
    · rw [NewestOutstanding, outstanding, version, status, media]
      exact valid.agrees
  | settled _ media _ outstanding =>
    refine ⟨?_, ?_, .inr media⟩
    · intro entry member
      rw [outstanding] at member
      have older := valid.bound entry member
      omega
    · intro entry member current
      rw [outstanding] at member
      have older := valid.bound entry member
      omega
  | postponed _ _ status version outstanding =>
    refine ⟨?_, ?_, .inl ?_⟩
    · intro entry member
      rw [outstanding] at member
      rcases Multiset.mem_cons.mp member with rfl | earlier
      · exact version.ge
      · have older := valid.bound entry earlier
        omega
    · intro entry member current
      rw [outstanding] at member
      rcases Multiset.mem_cons.mp member with rfl | earlier
      · exact status
      · have older := valid.bound entry earlier
        omega
    · rw [newestOutstanding_iff, outstanding]
      exact ⟨_, Multiset.mem_cons_self _ _, version.symm⟩
  | projected entry upcoming row media version outstanding =>
    have later : ∀ other ∈ next.outstanding, other ∈ state.outstanding := by
      intro other member
      rw [outstanding]
      exact Multiset.mem_cons_of_mem member
    refine ⟨?_, ?_, ?_⟩
    · intro other member
      rw [version]
      exact valid.bound other (later other member)
    · intro other member current
      rw [version] at current
      rw [row]
      exact valid.newest other (later other member) current
    · rcases timely entry upcoming with current | newest
      · right
        rw [media, row]
        exact current
      · rcases newestOutstanding_iff.mp newest with ⟨other, member, isNewest⟩
        rw [outstanding] at member
        rcases Multiset.mem_cons.mp member with rfl | remains
        · right
          rw [media, row]
          refine valid.newest other ?_ isNewest
          rw [outstanding]
          exact Multiset.mem_cons_self _ _
        · left
          rw [newestOutstanding_iff, version]
          exact ⟨other, remains, isNewest⟩

theorem projectionInvariant_initial (media : state.mediaStatus = state.row.materializationStatus)
    (idle : ∀ worker ∈ state.workers, worker = .idle) : ProjectionInvariant state := by
  have empty : state.outstanding = 0 := by
    unfold ProjectionState.outstanding
    generalize state.workers = workers at idle
    induction workers with
    | nil => rfl
    | cons worker _ induction =>
      rw [total_cons, idle worker List.mem_cons_self,
        induction fun other member => idle other (List.mem_cons_of_mem _ member)]
      rfl
  refine ⟨?_, ?_, .inr media⟩
  all_goals
    rw [empty]
    simp

theorem projectionInvariant_invariant (runtime : PyRuntime) :
    (timelyMachine runtime).Invariant ProjectionInvariant where
  initially := fun _ begins => projectionInvariant_initial begins.1 begins.2
  preserved := by
    intro current label next _ valid step
    rcases Machine.restrict_step_eq_some.mp step with ⟨timely, baseStep⟩
    exact valid.moved timely (projectionStep_moved baseStep)

theorem terminal_projection_step {state next : ProjectionState}
    (terminal : state.row.materializationStatus.isTerminal = true)
    (projected : ¬NewestOutstanding state)
    (step : (timelyMachine runtime).step state label = some next) :
    next.row.materializationStatus = state.row.materializationStatus ∧
      ¬NewestOutstanding next := by
  rcases Machine.restrict_step_eq_some.mp step with ⟨_, baseStep⟩
  cases projectionStep_moved baseStep with
  | quiet status _ version outstanding =>
    refine ⟨status, ?_⟩
    rw [NewestOutstanding, outstanding, version]
    exact projected
  | settled active | postponed _ active =>
    rw [active] at terminal
    cases terminal
  | projected _ _ row _ version outstanding =>
    refine ⟨by rw [row], ?_⟩
    intro newest
    rcases newestOutstanding_iff.mp newest with ⟨other, member, isNewest⟩
    rw [version] at isNewest
    refine projected (newestOutstanding_iff.mpr ⟨other, ?_, isNewest⟩)
    rw [outstanding]
    exact Multiset.mem_cons_of_mem member

theorem terminal_projection_run {state later : ProjectionState}
    {labels : List ProjectionLabel} (reached : (timelyMachine runtime).Reachable state)
    (terminal : state.row.materializationStatus.isTerminal = true)
    (projected : ¬NewestOutstanding state)
    (ran : (timelyMachine runtime).run state labels = some later) :
    later.mediaStatus = state.row.materializationStatus := by
  induction labels generalizing state with
  | nil =>
    cases ran
    exact ((projectionInvariant_invariant runtime).holds reached).agrees.resolve_left projected
  | cons _ _ induction =>
    rcases (Machine.run_cons_eq_some _).mp ran with ⟨_, step, rest⟩
    have after := terminal_projection_step terminal projected step
    rw [← after.1]
    exact induction (reached.next step) (after.1 ▸ terminal) after.2 rest

theorem projection_agrees_when_timely (runtime : PyRuntime) :
    ProjectionAgrees (timelyMachine runtime) := by
  intro state reached
  constructor
  · intro quiescent
    refine ((projectionInvariant_invariant runtime).holds reached).agrees.resolve_left ?_
    simp [NewestOutstanding, quiescent]
  · intro terminal projected labels later ran
    exact terminal_projection_run reached terminal projected ran

/-! ## A late projection -/

def lateLabels : List ProjectionLabel :=
  [.call 0 ⟨1, .claimRollingTask "event" "first" "token" .remuxRunning 60⟩,
    .projectNext 0,
    .call 0 ⟨2, .retryRollingTask
      { eventId := "event", owner := "first", token := "token", generation := 1,
        phase := .remuxRunning } "max_active" 0⟩,
    .call 1 ⟨1000000, .claimRollingTask "event" "second" "other" .remuxRunning 60⟩,
    .projectNext 1,
    .call 1 ⟨1000001, .failRollingTask
      { eventId := "event", owner := "second", token := "other", generation := 2,
        phase := .remuxRunning } ""⟩,
    .projectNext 1,
    .projectNext 0]

def lateStart : ProjectionState where
  row := sampleTask
  mediaStatus := .manifestReady
  version := 0
  workers := [.idle, .idle]

def lateEnd : ProjectionState :=
  ((projectionMachine .ascii).run lateStart lateLabels).getD lateStart

/-- The retry is projected late, while the newest write is still to be projected. -/
def timelyLabels : List ProjectionLabel := lateLabels.take 4 ++ [.projectNext 0, .projectNext 1]

theorem delayed_projection_agrees : ∃ state,
    (timelyMachine .ascii).run lateStart timelyLabels = some state ∧ state.outstanding = 0 ∧
      state.mediaStatus = state.row.materializationStatus := by
  have begins : (timelyMachine .ascii).Reachable lateStart := by
    refine .start ⟨rfl, ?_⟩
    simp [lateStart]
  have facts : ((timelyMachine .ascii).run lateStart timelyLabels).map
      ProjectionState.outstanding = some 0 := by decide
  rcases Option.map_eq_some_iff.mp facts with ⟨state, ran, quiescent⟩
  exact ⟨state, ran, quiescent,
    (projection_agrees_when_timely .ascii state (begins.run ran)).1 quiescent⟩

/-- A retry that is paused before its projection overwrites the terminal status
which another worker has written and projected meanwhile. -/
theorem late_retry_projection_contradicts :
    ¬ProjectionAgrees (projectionMachine .ascii) := by
  intro agrees
  have begins : (projectionMachine .ascii).Reachable lateStart := by
    refine .start ⟨rfl, ?_⟩
    simp [lateStart]
  have ran : (projectionMachine .ascii).run lateStart lateLabels = some lateEnd := by decide
  have quiescent : lateEnd.outstanding = 0 := by decide
  have written : lateEnd.row.materializationStatus = .failed := by decide
  have projected : lateEnd.mediaStatus = .pending := by decide
  have same := (agrees lateEnd (begins.run ran)).1 quiescent
  rw [written, projected] at same
  cases same

end VideoAnalysis.Lifecycle
