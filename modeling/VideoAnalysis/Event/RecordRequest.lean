import VideoAnalysis.Clip.RowWrites
import VideoAnalysis.Lifecycle.RowInvariant

/-! # Publishing a record request

The event worker publishes the request first and writes the task afterwards, without
a guard. Clip workers consume the request and the media worker claims the task in
between. What the media worker projects into the event row is left open.
-/

namespace VideoAnalysis.Event

open Foundation Lifecycle Clip

/-! ## The writes of the event worker -/

/-- The first statement of `set_clip_status(event_id, "pending")`. -/
def setClipPendingEvent (event : EventRow) : EventRow :=
  { event with mediaStatus := "materialization_pending" }.write
    [("clip_status", some "pending"), ("recording_strategy", some "savant_replay"),
      ("evidence_state", some "materialization_pending"), ("evidence_reason", some "pending"),
      ("materialization_status", some "materialization_pending"),
      ("materialization_reason", some "pending")]

def setClipPendingTask (task : ClipTask) : ClipTask :=
  { task with
    lifecycle := { task.lifecycle with
      status := MaterializationStatus.pending.value
      materializationStatus := .pending
      errorMessage := some "pending" } }

def skipReason (reason : String) : String :=
  if reason = "" then "recording_policy_skipped" else reason

/-- The first statement of `mark_evidence_materialization_skipped`. -/
def markSkippedEvent (reason : String) (event : EventRow) : EventRow :=
  { event with mediaStatus := "materialization_skipped" }.write
    [("clip_status", some "materialization_skipped"),
      ("metadata_status", some "materialization_skipped"),
      ("evidence_state", some "materialization_skipped"),
      ("evidence_reason", some (skipReason reason)),
      ("materialization_status", some "materialization_skipped"),
      ("materialization_reason", some (skipReason reason)),
      ("error_message", some (skipReason reason))]

def markSkippedTask (reason : String) (task : ClipTask) : ClipTask :=
  { task with
    lifecycle := { task.lifecycle with
      status := MaterializationStatus.skipped.value
      materializationStatus := .skipped
      deferReason := some (skipReason reason)
      errorMessage := some (skipReason reason) } }

inductive WriterPhase
  | recording
  | settingEvent
  | settingTask
  | skippingEvent (reason : String)
  | skippingTask (reason : String)
  | done

def WriterPhase.writesTask : WriterPhase → Option (ClipTask → ClipTask)
  | .settingTask => some setClipPendingTask
  | .skippingTask reason => some (markSkippedTask reason)
  | _ => none

/-! ## All three services -/

structure RequestWorld where
  clip : ClipWorld
  published : Bool
  writers : List WriterPhase

inductive RequestLabel
  | publish (writer : Nat)
  | skip (writer : Nat) (reason : String)
  | writeEvent (writer : Nat)
  | writeTask (writer : Nat)
  | crash (writer : Nat)
  | clip (label : ClipLabel)
  | media (invocation : Invocation) (projected : Option EventRow)

def RequestWorld.setWriter (world : RequestWorld) (writer : Nat) (phase : WriterPhase) :
    RequestWorld :=
  { world with writers := world.writers.set writer phase }

def RequestWorld.mapEvent (world : RequestWorld) (write : EventRow → EventRow) : RequestWorld :=
  { world with clip := { world.clip with
      rows := { world.clip.rows with event := world.clip.rows.event.map write } } }

def RequestWorld.mapTask (world : RequestWorld) (write : ClipTask → ClipTask) : RequestWorld :=
  { world with clip := { world.clip with
      rows := { world.clip.rows with task := world.clip.rows.task.map write } } }

def mediaTask (runtime : PyRuntime) (invocation : Invocation) (task : ClipTask) : ClipTask :=
  { task with lifecycle := advance runtime task.lifecycle invocation }

def requestStep (runtime : PyRuntime) (world : RequestWorld) : RequestLabel → Option RequestWorld
  | .publish writer =>
    match world.writers[writer]? with
    | some .recording => some { world.setWriter writer .settingEvent with published := true }
    | _ => none
  | .skip writer reason =>
    match world.writers[writer]? with
    | some .recording => some (world.setWriter writer (.skippingEvent reason))
    | _ => none
  | .writeEvent writer =>
    match world.writers[writer]? with
    | some .settingEvent =>
      some ((world.mapEvent setClipPendingEvent).setWriter writer
        (if world.clip.rows.event.isSome then .settingTask else .done))
    | some (.skippingEvent reason) =>
      some ((world.mapEvent (markSkippedEvent reason)).setWriter writer
        (if world.clip.rows.event.isSome then .skippingTask reason else .done))
    | _ => none
  | .writeTask writer =>
    match world.writers[writer]? with
    | some phase => phase.writesTask.map fun write =>
      (world.mapTask write).setWriter writer .done
    | none => none
  | .crash writer => some (world.setWriter writer .done)
  | .clip label =>
    if world.published then
      (clipStep world.clip label).map fun clip => { world with clip }
    else none
  | .media invocation projected =>
    some ((world.mapTask (mediaTask runtime invocation)).mapEvent fun event =>
      projected.getD event)

/-! ## The order of the lifecycle -/

def rank : MaterializationStatus → Nat
  | .manifestReady => 0
  | .pending => 1
  | .running => 2
  | .materialized | .deferred | .failed | .expired | .skipped => 3

/-- A terminal status stands with the terminal owner and the terminal phase. -/
structure Agrees (row : EvidenceTask) : Prop where
  owner : row.materializationStatus.isTerminal = true ↔ row.owner = .terminal
  phase : row.materializationStatus.isTerminal = true ↔ row.phase = .terminal

def RowsAgree (rows : ClipRows) : Prop := ∀ task ∈ rows.task, Agrees task.lifecycle

/-- Rows that agree, no request published, and writers that have decided nothing. -/
def requestMachine (runtime : PyRuntime) : Machine RequestWorld RequestLabel where
  initial world :=
    RowsAgree world.clip.rows ∧ clipMachine.initial world.clip ∧ world.published = false ∧
      ∀ phase ∈ world.writers, phase = .recording
  step := requestStep runtime

/-- The pending write meets a claimable task, the skip a task of the terminal owner. -/
def WriterPhase.InOrder (task : ClipTask) : WriterPhase → Prop
  | .settingTask => task.lifecycle.materializationStatus.claimable = true
  | .skippingTask _ => task.lifecycle.owner = .terminal
  | _ => True

def writesInOrder (world : RequestWorld) : RequestLabel → Prop
  | .writeTask writer =>
    ∀ phase ∈ world.writers[writer]?, ∀ task ∈ world.clip.rows.task, phase.InOrder task
  | _ => True

instance (task : ClipTask) (phase : WriterPhase) : Decidable (phase.InOrder task) :=
  match phase with
  | .settingTask =>
    inferInstanceAs (Decidable (task.lifecycle.materializationStatus.claimable = true))
  | .skippingTask _ => inferInstanceAs (Decidable (task.lifecycle.owner = .terminal))
  | .recording | .settingEvent | .skippingEvent _ | .done => isTrue trivial

instance (world : RequestWorld) (label : RequestLabel) : Decidable (writesInOrder world label) :=
  match label with
  | .writeTask writer =>
    inferInstanceAs (Decidable (∀ phase ∈ world.writers[writer]?,
      ∀ task ∈ world.clip.rows.task, phase.InOrder task))
  | .publish _ | .skip .. | .writeEvent _ | .crash _ | .clip _ | .media .. => isTrue trivial

/-! ## Rows that agree -/

theorem Agrees.of_same {row after : EvidenceTask} (agrees : Agrees row)
    (status : after.materializationStatus = row.materializationStatus)
    (owner : after.owner = row.owner) (phase : after.phase = row.phase) : Agrees after where
  owner := by rw [status, owner]; exact agrees.owner
  phase := by rw [status, phase]; exact agrees.phase

variable {row : EvidenceTask}

theorem Agrees.of_terminal (status : row.materializationStatus.isTerminal = true)
    (owner : row.owner = .terminal) (phase : row.phase = .terminal) : Agrees row where
  owner := ⟨fun _ => owner, fun _ => status⟩
  phase := ⟨fun _ => phase, fun _ => status⟩

theorem Agrees.of_active (status : row.materializationStatus.isTerminal = false)
    (owner : row.owner ≠ .terminal) (phase : row.phase ≠ .terminal) : Agrees row where
  owner := ⟨fun terminal => absurd (status.symm.trans terminal) Bool.false_ne_true,
    fun held => absurd held owner⟩
  phase := ⟨fun terminal => absurd (status.symm.trans terminal) Bool.false_ne_true,
    fun held => absurd held phase⟩

theorem Agrees.active (agrees : Agrees row)
    (status : row.materializationStatus.isTerminal = false) :
    row.owner ≠ .terminal ∧ row.phase ≠ .terminal := by
  refine ⟨fun owner => ?_, fun phase => ?_⟩
  · rw [agrees.owner.mpr owner] at status
    cases status
  · rw [agrees.phase.mpr phase] at status
    cases status

theorem isTerminal_of_claimable {status : MaterializationStatus}
    (claimable : status.claimable = true) : status.isTerminal = false :=
  status.isTerminal_eq_false_iff.mpr (.inl claimable)

theorem Agrees.wrote {now : Int} {row after : EvidenceTask} {call : Call}
    {events : EventWrite} {granted : Option MaterializationLease} (agrees : Agrees row)
    (wrote : Wrote now row call after events granted) : Agrees after := by
  cases wrote with
  | claimedRolling running =>
    apply Agrees.of_active rfl
    · simp [claimedRollingRow]
    · rcases running with rfl | rfl
      all_goals simp [claimedRollingRow]
  | heartbeat | markedSlaMissed => exact agrees.of_same rfl rfl rfl
  | failedRolling | failedUnclaimed | deferred | expiredReady | expiredLease =>
    exact .of_terminal rfl rfl rfl
  | completed outcome =>
    apply Agrees.of_terminal _ rfl rfl
    rcases outcome with rfl | rfl
    all_goals rfl
  | retriedRolling waiting =>
    apply Agrees.of_active rfl
    · simp [retriedRollingRow]
    · rcases waiting with rfl | rfl
      all_goals simp [retriedRollingRow]
  | @scheduledUnclaimed _ _ _ sinkOutputPath _ _ claimable =>
    have active := agrees.active (isTerminal_of_claimable claimable)
    apply Agrees.of_active rfl
    · by_cases empty : sinkOutputPath = ""
      · simp only [scheduledUnclaimedRow, empty, if_true]
        exact active.1
      · simp [scheduledUnclaimedRow, empty]
    · simp [scheduledUnclaimedRow]
  | recoveredHandoff running =>
    apply Agrees.of_active
    · have same : (recoveredHandoffRow now row).materializationStatus = .running := running
      rw [same]
      rfl
    all_goals simp [recoveredHandoffRow]
  | lostLease =>
    apply Agrees.of_active rfl
    all_goals simp [lostLeaseRow]
  | retriedHandoff =>
    apply Agrees.of_active rfl
    all_goals simp [retriedHandoffRow]
  | persistedHandoff =>
    apply Agrees.of_active rfl
    all_goals simp [persistedHandoffRow]
  | transferred | tookOver | claimedUnleased =>
    apply Agrees.of_active rfl
    all_goals simp [finalizingRow]
  | retriedUnclaimedHandoff =>
    apply Agrees.of_active rfl
    all_goals simp [retriedUnclaimedHandoffRow]

theorem Agrees.advance {runtime : PyRuntime} (agrees : Agrees row)
    (invocation : Invocation) : Agrees (Lifecycle.advance runtime row invocation) := by
  have step : (rowMachine runtime).step row invocation =
      some (Lifecycle.advance runtime row invocation) := rfl
  rcases rowStep_cases step with same | ⟨events, granted, wrote⟩
  · rw [same]
    exact agrees
  · exact agrees.wrote wrote

theorem SlotOnly.rowsAgree {rows rows' : ClipRows} (only : SlotOnly rows rows')
    (agree : RowsAgree rows) : RowsAgree rows' := by
  rcases only with rfl | ⟨task, written, write⟩
  · exact agree
  · intro other stored
    cases Option.some.inj (write.stores.symm.trans stored)
    have quiet := write.quiet
    exact (agree task write.stored).of_same quiet.materialization quiet.owner quiet.phase

theorem ClipWrite.rowsAgree {rows rows' : ClipRows} {phase : ProcPhase} {label : ProcLabel}
    (write : ClipWrite rows phase label rows') (agree : RowsAgree rows) : RowsAgree rows' := by
  cases write with
  | quiet only => exact SlotOnly.rowsAgree only agree
  | aborted =>
    rintro task ⟨⟩
    exact .of_terminal rfl rfl rfl
  | committed =>
    rintro task ⟨⟩
    apply Agrees.of_active rfl
    all_goals simp [committedTask]
  | @updated _ _ update =>
    rintro task ⟨⟩
    cases final : update.target.isTerminal with
    | true =>
      apply Agrees.of_terminal final
      · simp only [clipUpdatedTask, clipTransitionOwner, final, if_true]
      · simp only [clipUpdatedTask, clipTransitionPhase, final, if_true]
    | false =>
      apply Agrees.of_active final
      · simp [clipUpdatedTask, clipTransitionOwner, final]
      · simp [clipUpdatedTask, clipTransitionPhase, final]
  | projected => exact agree

/-! ## One step of the three services -/

theorem writesTask_agrees {phase : WriterPhase} {write : ClipTask → ClipTask} {task : ClipTask}
    (writes : phase.writesTask = some write) (order : phase.InOrder task)
    (agrees : Agrees task.lifecycle) :
    Agrees (write task).lifecycle ∧
      rank task.lifecycle.materializationStatus ≤
        rank (write task).lifecycle.materializationStatus := by
  cases phase with
  | settingTask =>
    cases writes
    have active := agrees.active (isTerminal_of_claimable order)
    refine ⟨.of_active rfl active.1 active.2, ?_⟩
    rcases (MaterializationStatus.claimable_iff _).mp order with ready | pending
    · rw [ready]
      exact Nat.zero_le _
    · rw [pending]
      exact Nat.le_refl _
  | skippingTask reason =>
    cases writes
    have terminal := agrees.owner.mpr order
    refine ⟨.of_terminal rfl order (agrees.phase.mp terminal), ?_⟩
    have top : rank (markSkippedTask reason task).lifecycle.materializationStatus = 3 := rfl
    rw [top]
    cases task.lifecycle.materializationStatus <;> decide
  | _ => cases writes

theorem requestStep_agrees {runtime : PyRuntime} {world next : RequestWorld}
    {label : RequestLabel} (order : writesInOrder world label)
    (agree : RowsAgree world.clip.rows) (step : requestStep runtime world label = some next) :
    RowsAgree next.clip.rows := by
  cases label with
  | publish | skip =>
    simp only [requestStep] at step
    split at step
    · cases step
      exact agree
    · cases step
  | writeEvent =>
    simp only [requestStep] at step
    split at step
    · cases step
      exact agree
    · cases step
      exact agree
    · cases step
  | writeTask writer =>
    simp only [requestStep] at step
    split at step
    · rename_i phase occupied
      rcases Option.map_eq_some_iff.mp step with ⟨_, writes, rfl⟩
      intro written stored
      rcases Option.map_eq_some_iff.mp stored with ⟨task, atTask, rfl⟩
      exact (writesTask_agrees writes (order phase occupied task atTask) (agree task atTask)).1
    · cases step
  | crash =>
    cases step
    exact agree
  | clip =>
    simp only [requestStep] at step
    split at step
    · rcases Option.map_eq_some_iff.mp step with ⟨_, moved, rfl⟩
      cases clipStep_write moved with
      | outside _ only => exact SlotOnly.rowsAgree only agree
      | inside _ inner => exact ClipWrite.rowsAgree (procStep_write inner) agree
    · cases step
  | media invocation =>
    cases step
    intro written stored
    rcases Option.map_eq_some_iff.mp stored with ⟨task, atTask, rfl⟩
    exact (agree task atTask).advance invocation

abbrev orderedMachine (runtime : PyRuntime) : Machine RequestWorld RequestLabel :=
  (requestMachine runtime).restrict writesInOrder

theorem rowsAgree_invariant (runtime : PyRuntime) :
    (orderedMachine runtime).Invariant fun world => RowsAgree world.clip.rows where
  initially := fun _ initial => initial.1
  preserved := by
    intro world label next _ agree step
    have facts := Machine.restrict_step_eq_some.mp step
    exact requestStep_agrees facts.1 agree facts.2

/-- The status of the task is not earlier than it was. -/
def NotEarlier (before after : ClipRows) : Prop :=
  ∀ task ∈ before.task, ∀ written ∈ after.task,
    rank task.lifecycle.materializationStatus ≤ rank written.lifecycle.materializationStatus

/-- In a run whose late writes are in order, the columns agree in every state, and no
write of the event worker takes the task back. -/
theorem late_writes_keep_outcome (runtime : PyRuntime) {world : RequestWorld}
    (reached : (orderedMachine runtime).Reachable world) :
    RowsAgree world.clip.rows ∧
      ∀ writer next, (orderedMachine runtime).step world (.writeTask writer) = some next →
        NotEarlier world.clip.rows next.clip.rows := by
  have agree := (rowsAgree_invariant runtime).holds reached
  refine ⟨agree, ?_⟩
  intro writer next step
  have facts := Machine.restrict_step_eq_some.mp step
  have moved := facts.2
  simp only [requestMachine, requestStep] at moved
  split at moved
  · rename_i phase occupied
    rcases Option.map_eq_some_iff.mp moved with ⟨_, writes, rfl⟩
    intro task atTask written stored
    rcases Option.map_eq_some_iff.mp stored with ⟨_, atOther, rfl⟩
    cases Option.some.inj (atTask.symm.trans atOther)
    exact (writesTask_agrees writes (facts.1 phase occupied task atTask) (agree task atTask)).2
  · cases moved

def unpublishedRequest : RequestWorld where
  clip := idleProcessors 1
  published := false
  writers := [.recording]

theorem unpublishedRequest_initial (runtime : PyRuntime) :
    (requestMachine runtime).initial unpublishedRequest := by
  refine ⟨?_, idleProcessors_initial 1, rfl, fun phase member => List.mem_singleton.mp member⟩
  rintro task ⟨⟩
  apply Agrees.of_active rfl
  all_goals decide

/-- The clip worker leaves the task pending between the publication and the event worker's
write. -/
def promptWrite : List RequestLabel :=
  .publish 0 :: waitingProof.map .clip ++ [.writeEvent 0]

theorem prompt_write_keeps_outcome :
    ∃ world next, (orderedMachine .ascii).run unpublishedRequest promptWrite = some world ∧
      (orderedMachine .ascii).step world (.writeTask 0) = some next ∧
      RowsAgree world.clip.rows ∧ NotEarlier world.clip.rows next.clip.rows := by
  have facts : ((orderedMachine .ascii).run unpublishedRequest promptWrite).map
      (fun world => ((orderedMachine .ascii).step world (.writeTask 0)).isSome) = some true := by
    decide +kernel
  rcases Option.map_eq_some_iff.mp facts with ⟨world, ran, some⟩
  rcases Option.isSome_iff_exists.mp some with ⟨next, step⟩
  have begins : (orderedMachine .ascii).Reachable unpublishedRequest :=
    .start (unpublishedRequest_initial .ascii)
  have keeps := late_writes_keep_outcome .ascii (begins.run ran)
  exact ⟨world, next, ran, step, keeps.1, keeps.2 0 next step⟩

/-- The clip worker fails the task between the publication and the event worker's write. -/
def lateWrite : List RequestLabel :=
  .publish 0 :: failedProof.map .clip ++ [.writeEvent 0]

theorem late_write_reopens_task :
    ∃ world next, (requestMachine .ascii).Reachable world ∧
      (requestMachine .ascii).step world (.writeTask 0) = some next ∧
      (∃ task ∈ world.clip.rows.task, task.lifecycle.materializationStatus = .failed) ∧
      ∃ task ∈ next.clip.rows.task, task.lifecycle.materializationStatus = .pending ∧
        task.lifecycle.owner = .terminal := by
  have facts : ((requestMachine .ascii).run unpublishedRequest lateWrite).bind
      (fun world => ((requestMachine .ascii).step world (.writeTask 0)).map fun next =>
        (world.clip.rows.task.map (·.lifecycle.materializationStatus),
          next.clip.rows.task.map fun task =>
            (task.lifecycle.materializationStatus, task.lifecycle.owner))) =
      some (some .failed, some (.pending, .terminal)) := by
    decide +kernel
  rcases Option.bind_eq_some_iff.mp facts with ⟨world, ran, rest⟩
  rcases Option.map_eq_some_iff.mp rest with ⟨next, step, shows⟩
  rw [Prod.mk.injEq] at shows
  rcases Option.map_eq_some_iff.mp shows.1 with ⟨before, atBefore, failed⟩
  rcases Option.map_eq_some_iff.mp shows.2 with ⟨after, atAfter, columns⟩
  rw [Prod.mk.injEq] at columns
  exact ⟨world, next,
    (Machine.Reachable.start (unpublishedRequest_initial .ascii)).run ran, step,
    ⟨before, atBefore, failed⟩, ⟨after, atAfter, columns.1, columns.2⟩⟩

end VideoAnalysis.Event
