import VideoAnalysis.Clip.Processor
import VideoAnalysis.Clip.ReplayFence

/-! # What the statements write

One case for each way in which a step of a delivery leaves the task row and the
event row of its event.
-/

namespace VideoAnalysis.Clip

open Foundation Lifecycle

def TaskTerminal (rows : ClipRows) : Prop :=
  ∃ task ∈ rows.task, task.lifecycle.materializationStatus.isTerminal = true

instance (rows : ClipRows) : Decidable (TaskTerminal rows) :=
  inferInstanceAs (Decidable
    (∃ task ∈ rows.task, task.lifecycle.materializationStatus.isTerminal = true))

def ReplaySlot.holdsJob (slot : ReplaySlot) : Bool :=
  decide (slot.createState = .committed ∧ slot.jobId.getD "" ≠ "")

def Committed (rows : ClipRows) : Prop := ∃ task ∈ rows.task, task.slot.holdsJob = true

instance (rows : ClipRows) : Decidable (Committed rows) :=
  inferInstanceAs (Decidable (∃ task ∈ rows.task, task.slot.holdsJob = true))

def FreshSlot (rows : ClipRows) : Prop :=
  ∀ task ∈ rows.task, task.slot.status = .absent →
    task.slot.createState = .absent ∧ task.slot.jobId = none

def EventRow.states (event : EventRow) : String × String :=
  (event.evidenceState, event.mediaStatus)

theorem lookup_filter_of_keeps {key : String} {keeps : String × String → Bool}
    (kept : ∀ value, keeps (key, value) = true) (media : MediaObject) :
    (media.filter keeps).lookup key = media.lookup key := by
  induction media with
  | nil => rfl
  | cons field _ induction =>
    rcases field with ⟨name, value⟩
    by_cases same : key = name
    · subst same
      rw [List.filter_cons_of_pos (kept value), List.lookup_cons_self, List.lookup_cons_self]
    · have apart : (key == name) = false := beq_false_of_ne same
      by_cases stays : keeps (name, value) = true
      · rw [List.filter_cons_of_pos stays, List.lookup_cons, List.lookup_cons, apart]
        exact induction
      · rw [List.filter_cons_of_neg stays, List.lookup_cons, apart]
        exact induction

theorem EventRow.write_states (event : EventRow) {fields : List (String × Option String)}
    (quiet : ∀ field ∈ fields, field.1 ≠ "evidence_state") :
    (event.write fields).states = event.states := by
  have written : ∀ field ∈ fields.filterMap (fun field => field.2.map (field.1, ·)),
      field.1 ≠ "evidence_state" := by
    intro field member
    rcases List.mem_filterMap.mp member with ⟨source, inside, maps⟩
    rcases Option.map_eq_some_iff.mp maps with ⟨_, _, rfl⟩
    exact quiet source inside
  have same : (event.write fields).evidenceState = event.evidenceState := by
    simp only [EventRow.evidenceState, EventRow.write, mergeMedia]
    have absent := List.lookup_eq_none_iff.mpr fun field member =>
      bne_iff_ne.mpr (written field member).symm
    rw [List.lookup_append, absent, Option.none_or, lookup_filter_of_keeps]
    intro value
    rw [List.all_eq_true]
    intro field member
    exact decide_eq_true (written field member)
  simp only [EventRow.states, same]
  rfl

/-! ## Statements on the slot alone -/

/-- The lifecycle stays, and a job that the slot held. -/
structure QuietWrite (task written : ClipTask) : Prop where
  status : written.lifecycle.status = task.lifecycle.status
  materialization :
    written.lifecycle.materializationStatus = task.lifecycle.materializationStatus
  phase : written.lifecycle.phase = task.lifecycle.phase
  owner : written.lifecycle.owner = task.lifecycle.owner
  handoff : written.lifecycle.handoff = task.lifecycle.handoff
  job : task.slot.status = .absent ∨ task.slot.jobId = none ∨
    written.slot.jobId = task.slot.jobId ∧ written.slot.createState = task.slot.createState
  reserved : written.slot.status ≠ .absent

structure SlotWrite (rows rows' : ClipRows) (task written : ClipTask) : Prop where
  stored : rows.task = some task
  stores : rows'.task = some written
  quiet : QuietWrite task written
  events : rows'.event.map EventRow.states = rows.event.map EventRow.states

def SlotOnly (rows rows' : ClipRows) : Prop :=
  rows' = rows ∨ ∃ task written, SlotWrite rows rows' task written

theorem casTask_slotOnly (rows : ClipRows) {guard : ClipTask → Bool}
    {write : ClipTask → ClipTask} {project : ClipTask → EventRow → EventRow}
    (quiet : ∀ task, rows.task = some task → guard task = true → QuietWrite task (write task))
    (events : ∀ task event, (project task event).states = event.states) :
    SlotOnly rows (casTask rows guard write project).1 := by
  rcases casTask_cases rows guard write project with missed | ⟨task, stored, holds, written⟩
  · rw [missed]
    exact .inl rfl
  · rw [written]
    refine .inr ⟨task, write task, stored, rfl, quiet task stored holds, ?_⟩
    rw [Option.map_map]
    cases rows.event with
    | none => rfl
    | some event => exact congrArg some (events (write task) event)

theorem projectSlot_states (task : ClipTask) (event : EventRow) :
    (projectSlot task event).states = event.states := by
  apply event.write_states
  simp

theorem acquireSlot_slotOnly (rows : ClipRows) (now : Int) (request : AcquireRequest)
    (capacity : Option CapacityLimit) :
    SlotOnly rows (acquireSlot now rows request capacity).1 := by
  simp only [acquireSlot]
  split
  · exact .inl rfl
  · cases denied : denyReason rows.task capacity with
    | some => exact .inl rfl
    | none =>
      apply casTask_slotOnly
      · intro task stored _
        have free : task.slot.status = .absent := by
          rw [stored] at denied
          simp only [denyReason] at denied
          split at denied
          · cases denied
          · cases denied
          · cases denied
          · rename_i status
            exact status
        exact ⟨rfl, rfl, rfl, rfl, rfl, .inl free, fun absent => by cases absent⟩
      · exact projectSlot_states

theorem takeoverSlot_slotOnly (rows : ClipRows) (owner deliveryId : String)
    (expected : Reservation) :
    SlotOnly rows (takeoverSlot rows owner deliveryId expected).1 := by
  simp only [takeoverSlot]
  split
  · exact .inl rfl
  · apply casTask_slotOnly
    · intro task _ granted
      have guard := of_decide_eq_true granted
      refine ⟨rfl, rfl, rfl, rfl, rfl, .inr (.inl guard.2.2.2), ?_⟩
      simp [takenOverSlot, guard.1]
    · intro task event
      apply event.write_states
      simp

theorem markCreateStarted_slotOnly (rows : ClipRows) (reservation : Reservation) :
    SlotOnly rows (markCreateStarted rows reservation).1 := by
  simp only [markCreateStarted]
  apply casTask_slotOnly
  · intro task _ granted
    have guard := (Bool.and_eq_true _ _).mp granted
    refine ⟨rfl, rfl, rfl, rfl, rfl, .inr (.inl (of_decide_eq_true guard.2).2.1), ?_⟩
    simp [ClipTask.withCreateState, (heldBy_active guard.1).1]
  · exact projectSlot_states

theorem markCreateUncertain_slotOnly (rows : ClipRows) (reservation : Reservation)
    (reason : String) : SlotOnly rows (markCreateUncertain rows reservation reason).1 := by
  simp only [markCreateUncertain]
  apply casTask_slotOnly
  · intro task _ granted
    have guard := (Bool.and_eq_true _ _).mp granted
    refine ⟨rfl, rfl, rfl, rfl, rfl, .inr (.inl (of_decide_eq_true guard.2).1), ?_⟩
    simp [ClipTask.withCreateState, (heldBy_active guard.1).1]
  · exact fun _ _ => rfl

theorem releaseTimedOut_slotOnly (rows : ClipRows) (now : Int) :
    SlotOnly rows (releaseTimedOut now rows) := by
  simp only [releaseTimedOut]
  apply casTask_slotOnly
  · intro task _ _
    exact ⟨rfl, rfl, rfl, rfl, rfl, .inr (.inr ⟨rfl, rfl⟩), fun absent => by cases absent⟩
  · intro task event
    apply event.write_states
    simp

theorem SlotOnly.apply {rows : ClipRows} {α : Type} {result : ClipRows × α}
    (only : SlotOnly rows result.1) (answer : Answer) (failed : α) :
    SlotOnly rows (answer.apply rows result failed).1 := by
  rcases answer.apply_cases rows result failed with ends | ends | ends
  · rw [ends]
    exact only
  · rw [ends]
    exact only
  · rw [ends]
    exact .inl rfl

/-! ## One step of a delivery -/

/-- How a step leaves the rows; the constructors name the statement that took effect. -/
inductive ClipWrite (rows : ClipRows) (phase : ProcPhase) (label : ProcLabel) :
    ClipRows → Prop
  | quiet {rows'} (only : SlotOnly rows rows') : ClipWrite rows phase label rows'
  | aborted {now answer reservation reason detail task}
      (atPhase : phase = .executing (.aborting reservation reason))
      (atLabel : label = .exec (.abort now answer)) (stored : rows.task = some task)
      (granted : canAbort reservation task = true) :
      ClipWrite rows phase label
        { task := some (abortedTask now task detail)
          event := rows.event.map (projectAbort detail (abortedTask now task detail)) }
  | committed {now answer reservation request stream task}
      (atPhase : phase = .executing (.committing reservation request.jobId stream))
      (atLabel : label = .exec (.commit now answer)) (stored : rows.task = some task)
      (present : rows.event.isSome = true)
      (granted : canCommit reservation request task = true) (named : request.jobId ≠ "") :
      ClipWrite rows phase label
        { task := some (committedTask now task reservation request)
          event := rows.event.map
            (projectCommit request (committedTask now task reservation request)) }
  | updated {now answer update after task}
      (atPhase : phase = .marking update after) (atLabel : label = .updateTask now answer)
      (stored : rows.task = some task) (granted : canUpdate update task = true) :
      ClipWrite rows phase label { rows with task := some (clipUpdatedTask now task update) }
  | projected {answer update after}
      (atPhase : phase = .projecting update after) (atLabel : label = .projectEvent answer) :
      ClipWrite rows phase label { rows with event := rows.event.map (clipProjection update) }

/-- Whatever becomes of the answer, a statement leaves its effect or none. -/
theorem ClipWrite.apply {rows : ClipRows} {phase : ProcPhase} {label : ProcLabel} {α : Type}
    {result : ClipRows × α} (write : ClipWrite rows phase label result.1) (answer : Answer)
    (failed : α) : ClipWrite rows phase label (answer.apply rows result failed).1 := by
  rcases answer.apply_cases rows result failed with ends | ends | ends
  · rw [ends]
    exact write
  · rw [ends]
    exact write
  · rw [ends]
    exact .quiet (.inl rfl)

theorem abortCreate_write (rows : ClipRows) (now : Int) (reservation : Reservation)
    (reason : String) (answer : Answer) :
    ClipWrite rows (.executing (.aborting reservation reason)) (.exec (.abort now answer))
      (answer.apply rows (abortCreate now rows reservation reason) false).1 := by
  apply ClipWrite.apply
  simp only [abortCreate]
  split
  · exact .quiet (.inl rfl)
  · generalize (if reason = "" then "Replay request permanently rejected" else reason) = detail
    rcases casTask_cases rows (canAbort reservation) (abortedTask now · detail)
      (projectAbort detail) with missed | ⟨task, stored, holds, written⟩
    · rw [missed]
      exact .quiet (.inl rfl)
    · rw [written]
      exact .aborted rfl rfl stored holds

theorem commitHandoff_write (rows : ClipRows) (now : Int) (reservation : Reservation)
    (request : CommitRequest) (stream : String) (answer : Answer) :
    ClipWrite rows (.executing (.committing reservation request.jobId stream))
      (.exec (.commit now answer))
      (answer.apply rows (commitHandoff now rows reservation request) false).1 := by
  apply ClipWrite.apply
  simp only [commitHandoff]
  split
  · exact .quiet (.inl rfl)
  · rename_i named
    rcases casTask_cases rows
      (fun task => rows.event.isSome && canCommit reservation request task)
      (committedTask now · reservation request) (projectCommit request) with
      missed | ⟨task, stored, holds, written⟩
    · rw [missed]
      exact .quiet (.inl rfl)
    · rw [written]
      have guard := (Bool.and_eq_true _ _).mp holds
      exact .committed rfl rfl stored guard.1 guard.2 named

theorem execStep_write {request : ExecRequest} {rows rows' : ClipRows} {phase next : ExecPhase}
    {label : ExecLabel} (step : execStep request rows phase label = some (rows', next)) :
    ClipWrite rows (.executing phase) (.exec label) rows' := by
  unfold execStep at step
  split at step
  next =>
    cases step
    exact .quiet (.inl rfl)
  next =>
    cases step
    exact .quiet ((takeoverSlot_slotOnly rows _ _ _).apply _ _)
  next =>
    split at step
    · cases step
      exact .quiet (.inl rfl)
    · split at step
      · cases step
      · cases step
        exact .quiet (.inl rfl)
  next =>
    cases step
    exact .quiet ((markCreateUncertain_slotOnly rows _ _).apply _ _)
  next =>
    cases step
    exact .quiet ((acquireSlot_slotOnly rows _ _ _).apply _ _)
  next =>
    cases step
    exact .quiet ((markCreateStarted_slotOnly rows _).apply _ _)
  next =>
    split at step
    · cases step
      exact .quiet (.inl rfl)
    · cases step
  next reservation reason now answer =>
    cases step
    exact abortCreate_write rows now reservation reason answer
  next =>
    cases step
    exact .quiet ((markCreateUncertain_slotOnly rows _ _).apply _ _)
  next reservation jobId stream now answer =>
    cases step
    exact commitHandoff_write rows now reservation
      { jobId, resultingStreamId := stream, shardId := request.shardId } stream answer
  next => cases step

theorem updateClipTask_write (rows : ClipRows) (now : Int) (update : ClipStatusUpdate)
    (after : AfterMark) (answer : Answer) :
    ClipWrite rows (.marking update after) (.updateTask now answer)
      (answer.apply rows (updateClipTask now rows update) false).1 := by
  apply ClipWrite.apply
  simp only [updateClipTask]
  rcases casTask_cases rows (canUpdate update) (clipUpdatedTask now · update)
    (fun _ event => event) with missed | ⟨task, stored, holds, written⟩
  · rw [missed]
    exact .quiet (.inl rfl)
  · rw [written, Option.map_id']
    exact .updated rfl rfl stored holds

theorem procStep_write {rows rows' : ClipRows} {processor after : Processor}
    {label : ProcLabel} (step : procStep rows processor label = some (rows', after)) :
    ClipWrite rows processor.phase label rows' := by
  rcases processor with ⟨delivery, phase, deadLettered⟩
  simp only [procStep] at step
  split at step
  iterate 5
    next =>
      cases step
      exact .quiet (.inl rfl)
  next now answer =>
    cases step
    have only : SlotOnly rows (releaseTimedOut now rows, ()).1 :=
      releaseTimedOut_slotOnly rows now
    exact .quiet (only.apply answer ())
  iterate 2
    next =>
      cases step
      exact .quiet (.inl rfl)
  next =>
    rcases Option.bind_eq_some_iff.mp step with ⟨_, moved, ends⟩
    cases ends
    exact execStep_write moved
  next update after now answer =>
    cases step
    exact updateClipTask_write rows now update after answer
  next =>
    cases step
    apply ClipWrite.apply
    exact .projected rfl rfl
  all_goals
    cases step
    try exact .quiet (.inl rfl)

/-! ## The updates of the processor -/

def settledStates : List String := "materialization_deferred" :: terminalEvidenceStates

def Settles (update : ClipStatusUpdate) : Prop :=
  update.target.isTerminal = true ∧ update.evidenceState ∈ settledStates

structure NamedMark (update : ClipStatusUpdate) (after : AfterMark) : Prop where
  job : update.replayJobId = ""
  target : update.target = .pending ∨ Settles update
  terminal : ∀ reason, after = .terminal reason → Settles update
  denied : ∀ outcome, after = .denied outcome → outcome.ack = false

def ProcPhase.Named : ProcPhase → Prop
  | .marking update after | .projecting update after => NamedMark update after
  | _ => True

theorem markStatus_settles {status reason message shardId : String} {state : EvidenceState}
    {attempt : Option Nat} (final : state.materializationStatus.isTerminal = true) :
    Settles (markStatus status state reason message attempt shardId) := by
  refine ⟨final, ?_⟩
  cases state with
  | waitingProof | queued | materializationPending => cases final
  | failed | materializationFailed | materializationDeferred =>
    simp [markStatus, EvidenceState.value, settledStates, terminalEvidenceStates]

theorem markStatus_named {status reason message shardId : String} {state : EvidenceState}
    {attempt : Option Nat} {after : AfterMark}
    (terminal : ∀ reason, after = .terminal reason →
      state.materializationStatus.isTerminal = true)
    (denied : ∀ outcome, after = .denied outcome → outcome.ack = false) :
    NamedMark (markStatus status state reason message attempt shardId) after where
  job := rfl
  target := by
    cases state with
    | waitingProof | queued | materializationPending => exact .inl rfl
    | failed | materializationFailed | materializationDeferred =>
      exact .inr (markStatus_settles rfl)
  terminal reason ends := markStatus_settles (terminal reason ends)
  denied := denied

theorem AfterMark.phase_named (after : AfterMark) (persisted : Bool) :
    (after.phase persisted).Named := by
  cases after <;> trivial

theorem existingSlotPhase_named (loaded : Option Reservation) :
    (existingSlotPhase loaded).Named := by
  cases loaded with
  | none => trivial
  | some =>
    simp only [existingSlotPhase]
    split
    · exact markStatus_named (fun _ _ => rfl) (fun _ none => nomatch none)
    · trivial
    · split
      all_goals trivial
    · trivial

theorem schedulePhase_named (delivery : Delivery) (decision : ScheduleGate)
    (exhausted : Bool) : (schedulePhase delivery decision exhausted).Named := by
  simp only [schedulePhase]
  split
  · trivial
  · split
    · exact markStatus_named (fun _ _ => rfl) (fun _ none => nomatch none)
    · split
      · exact markStatus_named (fun _ none => nomatch none) (fun _ none => nomatch none)
      · split
        · split
          · exact markStatus_named (fun _ _ => rfl) (fun _ none => nomatch none)
          · exact markStatus_named (fun _ none => nomatch none) (fun _ none => nomatch none)
        · exact markStatus_named (fun _ _ => rfl) (fun _ none => nomatch none)

theorem anchorPhase_named (delivery : Delivery) (result : AnchorResult) :
    (anchorPhase delivery result).Named := by
  cases result with
  | waits | retries =>
    exact markStatus_named (fun _ none => nomatch none) (fun _ none => nomatch none)
  | ready => trivial
  | fails => exact markStatus_named (fun _ _ => rfl) (fun _ none => nomatch none)

def ExecPhase.HoldsCapacity : ExecPhase → Prop
  | .finished outcome => outcome.code = .capacityPending → outcome.ack = false
  | _ => True

theorem existingActivePhase_holdsCapacity (request : ExecRequest) (reservation : Reservation) :
    (existingActivePhase request reservation).HoldsCapacity := by
  simp only [existingActivePhase]
  repeat' split
  all_goals first
    | trivial
    | exact fun _ => rfl
    | exact fun capacity => by cases capacity

theorem loadedPhase_holdsCapacity (request : ExecRequest) (loaded : Option Reservation) :
    (loadedPhase request loaded).HoldsCapacity := by
  cases loaded with
  | none => trivial
  | some reservation =>
    simp only [loadedPhase]
    cases reservation.slotStatus with
    | active => exact existingActivePhase_holdsCapacity request reservation
    | released | timeout => exact fun _ => rfl
    | absent => trivial

theorem acquiredPhase_holdsCapacity (answered : Option Reservation) :
    (acquiredPhase answered).HoldsCapacity := by
  cases answered with
  | none => exact fun _ => rfl
  | some reservation =>
    by_cases acquired : reservation.acquired = true
    · simp only [acquiredPhase, acquired, if_true]
      trivial
    · by_cases settled : reservation.reason = "replay_slot_terminal_state"
      · simp only [acquiredPhase, acquired, settled, if_true]
        exact fun capacity => by cases capacity
      · simp only [acquiredPhase, acquired, settled, if_false]
        exact fun _ => rfl

theorem takenOverPhase_holdsCapacity (answered : Option Reservation) :
    (takenOverPhase answered).HoldsCapacity := by
  cases answered with
  | none => exact fun _ => rfl
  | some =>
    simp only [takenOverPhase]
    split
    all_goals trivial

theorem execStep_holdsCapacity {request : ExecRequest} {rows rows' : ClipRows}
    {phase next : ExecPhase} {label : ExecLabel}
    (step : execStep request rows phase label = some (rows', next)) : next.HoldsCapacity := by
  unfold execStep at step
  split at step
  next =>
    cases step
    exact loadedPhase_holdsCapacity request _
  next =>
    cases step
    exact takenOverPhase_holdsCapacity _
  next =>
    split at step
    · cases step
      trivial
    · split at step
      · cases step
      · cases step
        trivial
  next =>
    cases step
    exact fun capacity => by cases capacity
  next =>
    cases step
    exact acquiredPhase_holdsCapacity _
  next =>
    cases step
    split
    · trivial
    · exact fun capacity => by cases capacity
  next submission =>
    split at step
    · cases step
      cases submission <;> trivial
    · cases step
  iterate 3
    next =>
      cases step
      exact fun capacity => by cases capacity
  next => cases step

theorem executedPhase_named {delivery : Delivery} {phase : ExecPhase}
    (holds : phase.HoldsCapacity) : (executedPhase delivery phase).Named := by
  cases phase with
  | finished outcome =>
    simp only [executedPhase]
    split
    · rename_i capacity
      apply markStatus_named
      · exact fun _ none => nomatch none
      · rintro denied ⟨⟩
        exact holds capacity.1
    · trivial
  | _ => trivial

theorem procStep_named {rows rows' : ClipRows} {processor after : Processor}
    {label : ProcLabel} (named : processor.phase.Named)
    (step : procStep rows processor label = some (rows', after)) : after.phase.Named := by
  rcases processor with ⟨delivery, _⟩
  simp only [procStep] at step
  split at step
  iterate 3
    next =>
      cases step
      simp only
      split <;> trivial
  next =>
    cases step
    exact existingSlotPhase_named _
  next error =>
    cases step
    cases error with
    | none => trivial
    | some => exact markStatus_named (fun _ _ => rfl) (fun _ none => nomatch none)
  next =>
    cases step
    simp only
    split <;> trivial
  next decision exhausted =>
    cases step
    exact schedulePhase_named delivery decision exhausted
  next result =>
    cases step
    exact anchorPhase_named delivery result
  next =>
    rcases Option.bind_eq_some_iff.mp step with ⟨_, moved, ends⟩
    cases ends
    exact executedPhase_named (execStep_holdsCapacity moved)
  next update after now answer =>
    cases step
    simp only
    split
    · exact named
    · exact after.phase_named false
  next update after answer =>
    cases step
    exact after.phase_named _
  all_goals
    cases step
    try trivial

/-! ## What the writes keep -/

section Keeps

variable {rows rows' : ClipRows} {phase : ProcPhase} {label : ProcLabel}

theorem SlotOnly.freshSlot (only : SlotOnly rows rows') (fresh : FreshSlot rows) :
    FreshSlot rows' := by
  rcases only with rfl | ⟨task, written, write⟩
  · exact fresh
  · intro other stored free
    rw [write.stores] at stored
    cases stored
    exact absurd free write.quiet.reserved

theorem SlotOnly.committed (only : SlotOnly rows rows') (fresh : FreshSlot rows)
    (committed : Committed rows) : Committed rows' := by
  rcases only with rfl | ⟨task, written, write⟩
  · exact committed
  · rcases committed with ⟨_, stored, holds⟩
    rw [write.stored] at stored
    cases stored
    have job := (of_decide_eq_true holds).2
    refine ⟨written, write.stores, ?_⟩
    rcases write.quiet.job with free | none | ⟨sameJob, sameState⟩
    · rw [(fresh task write.stored free).2] at job
      exact absurd rfl job
    · rw [none] at job
      exact absurd rfl job
    · simp only [ReplaySlot.holdsJob, sameJob, sameState]
      exact holds

theorem SlotOnly.terminal (only : SlotOnly rows rows') (terminal : TaskTerminal rows) :
    TaskTerminal rows' := by
  rcases only with rfl | ⟨task, written, write⟩
  · exact terminal
  · rcases terminal with ⟨_, stored, final⟩
    rw [write.stored] at stored
    cases stored
    exact ⟨written, write.stores, by rw [write.quiet.materialization]; exact final⟩

theorem ClipWrite.freshSlot (write : ClipWrite rows phase label rows')
    (named : phase.Named) (fresh : FreshSlot rows) : FreshSlot rows' := by
  cases write with
  | quiet only => exact only.freshSlot fresh
  | aborted =>
    rintro task ⟨⟩ free
    cases free
  | committed _ _ _ _ granted =>
    have held := heldBy_active ((Bool.and_eq_true _ _).mp granted).1
    rintro task ⟨⟩ free
    exact absurd (held.1.symm.trans free) (by decide)
  | @updated _ _ update _ task atPhase _ stored =>
    subst atPhase
    rintro written ⟨⟩ free
    have kept := fresh task stored free
    refine ⟨kept.1, ?_⟩
    have noJob : update.replayJobId = "" := NamedMark.job named
    simp only [clipUpdatedTask, coalesceText, noJob, if_true]
    exact kept.2
  | projected => exact fresh

theorem ClipWrite.keepsCommitted (write : ClipWrite rows phase label rows')
    (named : phase.Named) (fresh : FreshSlot rows) (committed : Committed rows) :
    Committed rows' := by
  have job (task : ClipTask) (stored : rows.task = some task) :
      task.slot.jobId.getD "" ≠ "" := by
    rcases committed with ⟨_, storedToo, holds⟩
    rw [stored] at storedToo
    cases storedToo
    exact (of_decide_eq_true holds).2
  cases write with
  | quiet only => exact only.committed fresh committed
  | @aborted _ _ _ _ _ task _ _ stored granted =>
    have unset := (of_decide_eq_true ((Bool.and_eq_true _ _).mp granted).2).2.1
    have set := job task stored
    rw [unset] at set
    exact absurd rfl set
  | @committed _ _ _ _ _ _ _ _ _ _ _ nonempty =>
    exact ⟨_, rfl, decide_eq_true ⟨rfl, nonempty⟩⟩
  | @updated _ _ update _ _ atPhase _ stored =>
    subst atPhase
    have noJob : update.replayJobId = "" := NamedMark.job named
    rcases committed with ⟨_, storedToo, holds⟩
    rw [stored] at storedToo
    cases storedToo
    refine ⟨_, rfl, ?_⟩
    simp only [ReplaySlot.holdsJob, clipUpdatedTask, coalesceText, noJob, if_true]
    exact holds
  | projected => exact committed

end Keeps

/-! ## Worlds of deliveries -/

structure ClipInvariant (world : ClipWorld) : Prop where
  fresh : FreshSlot world.rows
  named : ∀ slot ∈ world.processors, ∀ processor ∈ slot, processor.phase.Named

/-- What one step of a world does to its rows. -/
inductive WorldWrite (world : ClipWorld) : ClipLabel → ClipRows → Prop
  | outside {label rows'} (outside : ∀ index inner, label ≠ .run index inner)
      (only : SlotOnly world.rows rows') : WorldWrite world label rows'
  | inside {index processor after label rows'}
      (occupied : world.processors[index]? = some (some processor))
      (step : procStep world.rows processor label = some (rows', after)) :
      WorldWrite world (.run index label) rows'

theorem clipStep_write {world next : ClipWorld} {label : ClipLabel}
    (step : clipStep world label = some next) : WorldWrite world label next.rows := by
  cases label with
  | deliver =>
    simp only [clipStep] at step
    split at step
    · cases step
      exact .outside (fun _ _ same => nomatch same) (.inl rfl)
    · cases step
  | run index label =>
    simp only [clipStep] at step
    split at step
    · rename_i processor occupied
      split at step
      · rename_i rows after moved
        cases step
        exact .inside occupied moved
      · cases step
    · cases step
  | crash =>
    simp only [clipStep] at step
    split at step
    · cases step
      exact .outside (fun _ _ same => nomatch same) (.inl rfl)
    · cases step
  | releaseTimedOut =>
    cases step
    exact .outside (fun _ _ same => nomatch same) (releaseTimedOut_slotOnly _ _)

theorem clipStep_processor {world next : ClipWorld} {label : ClipLabel}
    (step : clipStep world label = some next) {processor : Processor}
    (member : some processor ∈ next.processors) :
    some processor ∈ world.processors ∨
      processor.phase = .parsing ∧ processor.deadLettered = false ∨
      ∃ index before inner, label = .run index inner ∧
        world.processors[index]? = some (some before) ∧
        procStep world.rows before inner = some (next.rows, processor) := by
  cases label with
  | deliver =>
    simp only [clipStep] at step
    split at step
    · cases step
      rcases List.mem_or_eq_of_mem_set member with old | new
      · exact .inl old
      · cases new
        exact .inr (.inl ⟨rfl, rfl⟩)
    · cases step
  | run index label =>
    simp only [clipStep] at step
    split at step
    · rename_i before occupied
      split at step
      · rename_i rows after moved
        cases step
        rcases List.mem_or_eq_of_mem_set member with old | new
        · exact .inl old
        · cases new
          exact .inr (.inr ⟨index, before, label, rfl, occupied, moved⟩)
      · cases step
    · cases step
  | crash =>
    simp only [clipStep] at step
    split at step
    · cases step
      rcases List.mem_or_eq_of_mem_set member with old | new
      · exact .inl old
      · cases new
    · cases step
  | releaseTimedOut =>
    cases step
    exact .inl member

theorem clipInvariant_invariant : clipMachine.Invariant ClipInvariant where
  initially := by
    rintro world ⟨fresh, idle⟩
    refine ⟨fresh, ?_⟩
    intro slot member processor inside
    rw [idle slot member] at inside
    cases inside
  preserved := by
    intro world label next _ invariant step
    refine ⟨?_, ?_⟩
    · cases clipStep_write step with
      | outside _ only => exact only.freshSlot invariant.fresh
      | inside occupied moved =>
        exact (procStep_write moved).freshSlot
          (invariant.named _ (List.mem_of_getElem? occupied) _ rfl) invariant.fresh
    · rintro slot member processor ⟨⟩
      rcases clipStep_processor step member with
        old | ⟨begins, _⟩ | ⟨index, before, inner, _, occupied, moved⟩
      · exact invariant.named _ old processor rfl
      · rw [begins]
        trivial
      · exact procStep_named (invariant.named _ (List.mem_of_getElem? occupied) before rfl) moved

/-! ## Sample runs -/

def sampleDelivery (owner : String) (reclaimed : Bool) : Delivery where
  malformed := none
  retryCount := 0
  request := sampleRequest owner reclaimed

def idleProcessors (count : Nat) : ClipWorld where
  rows := freshReplayRows
  processors := List.replicate count none

theorem idleProcessors_initial (count : Nat) : clipMachine.initial (idleProcessors count) := by
  refine ⟨?_, fun _ member => List.eq_of_mem_replicate member⟩
  rintro task ⟨⟩ _
  exact ⟨rfl, rfl⟩

def openGate : ScheduleGate where
  allowed := true
  terminalDefer := false
  reason := ""
  errorMessage := ""

/-- A delivery finds no terminal state, a target, and what is in the slot. -/
def beginDelivery (index : Nat) (delivery : Delivery) (load : Answer) : List ClipLabel :=
  .deliver index delivery ::
    [.parse, .lookUp .completes, .checkTarget false .completes, .loadSlot load].map (.run index)

def createUntilCommit (index : Nat) : List ClipLabel :=
  [.route none, .count 0 .completes, .gate openGate false, .anchor .ready,
    .exec (.load .completes), .exec (.acquire 0 none .completes),
    .exec (.markSubmitting .completes), .exec (.submit (.created "job" ""))].map (.run index)

def waitingProof : List ClipLabel :=
  beginDelivery 0 (sampleDelivery "first" false) .completes ++
    [.route none, .count 0 .completes, .gate openGate false,
      .anchor (.retries 1 "proof_not_ready"), .updateTask 1 .completes,
      .projectEvent .completes].map (.run 0)

def failedProof : List ClipLabel :=
  beginDelivery 0 (sampleDelivery "first" false) .completes ++
    [.route none, .count 0 .completes, .gate openGate false,
      .anchor (.fails none "proof_missing"), .updateTask 1 .completes,
      .projectEvent .completes].map (.run 0)

end VideoAnalysis.Clip
