import VideoAnalysis.Clip.RowWrites

/-! # Acknowledged only after a durable outcome

A delivery that is about to be acknowledged has its outcome in the rows or in the
dead-letter stream, unless the executor takes a slot that timed out or was released
for a settled request.
-/

namespace VideoAnalysis.Clip

open Foundation Lifecycle

/-! ## Durable outcomes -/

/-- A state column that holds `materialization_deferred`. -/
def Deferred (rows : ClipRows) : Prop :=
  (∃ task ∈ rows.task, task.lifecycle.materializationStatus = .deferred ∨
    task.lifecycle.status = "materialization_deferred") ∨
  ∃ event ∈ rows.event, event.evidenceState = "materialization_deferred" ∨
    event.mediaStatus = "materialization_deferred"

def DurableOutcome (rows : ClipRows) : Prop :=
  (rows.task = none ∧ rows.event = none) ∨ terminalEvidenceState rows ≠ "" ∨
    Deferred rows ∨ Committed rows

/-- An event whose state columns, or those of its task, hold a settled state. -/
def CarriesSettled (rows : ClipRows) : Prop :=
  ∃ event ∈ rows.event, ∃ value ∈ evidenceValues rows.task event, value ∈ settledStates

def Recorded (rows : ClipRows) : Prop :=
  (rows.task = none ∧ rows.event = none) ∨ Committed rows ∨ CarriesSettled rows

theorem terminalEvidenceStates_named {value : String}
    (terminal : value ∈ terminalEvidenceStates) : value ≠ "" := by
  rintro rfl
  simp [terminalEvidenceStates] at terminal

theorem terminalEvidenceState_ne_iff {rows : ClipRows} :
    terminalEvidenceState rows ≠ "" ↔ ∃ event ∈ rows.event,
      ∃ value ∈ evidenceValues rows.task event, value ∈ terminalEvidenceStates := by
  cases present : rows.event with
  | none => simp [terminalEvidenceState, present]
  | some event =>
    simp only [terminalEvidenceState, present, Option.mem_some_iff, exists_eq_left']
    cases found : (evidenceValues rows.task event).find? (terminalEvidenceStates.contains ·) with
    | none =>
      simp only [Option.getD_none, ne_eq, not_true_eq_false, false_iff]
      rintro ⟨value, among, terminal⟩
      exact List.find?_eq_none.mp found value among (List.contains_iff_mem.mpr terminal)
    | some value =>
      have terminal := List.contains_iff_mem.mp (List.find?_some found)
      simp only [Option.getD_some]
      constructor
      · intro _
        exact ⟨value, List.mem_of_find?_eq_some found, terminal⟩
      · intro _
        exact terminalEvidenceStates_named terminal

theorem Recorded.durable {rows : ClipRows} (recorded : Recorded rows) : DurableOutcome rows := by
  rcases recorded with missing | committed | ⟨event, present, value, among, states⟩
  · exact .inl missing
  · exact .inr (.inr (.inr committed))
  · rcases List.mem_cons.mp states with rfl | terminal
    · refine .inr (.inr (.inl ?_))
      rcases List.mem_append.mp among with ofTask | ofEvent
      · cases stored : rows.task with
        | none => simp [stored] at ofTask
        | some task =>
          simp only [stored, Option.map_some, Option.getD_some, List.mem_cons,
            List.not_mem_nil, or_false] at ofTask
          refine .inl ⟨task, stored, ?_⟩
          rcases ofTask with status | text
          · left
            cases current : task.lifecycle.materializationStatus with
            | deferred => rfl
            | _ => simp [current, MaterializationStatus.value] at status
          · exact .inr text.symm
      · simp only [List.mem_cons, List.not_mem_nil, or_false] at ofEvent
        exact .inr ⟨event, present, ofEvent.imp Eq.symm Eq.symm⟩
    · exact .inr (.inl (terminalEvidenceState_ne_iff.mpr ⟨event, present, value, among, terminal⟩))

theorem value_mem_settledStates {status : MaterializationStatus}
    (final : status.isTerminal = true) : status.value ∈ settledStates := by
  cases status with
  | manifestReady | pending | running => cases final
  | _ => simp [settledStates, terminalEvidenceStates, MaterializationStatus.value]

theorem TaskTerminal.recorded {rows : ClipRows} (terminal : TaskTerminal rows)
    (present : rows.event.isSome = true) : Recorded rows := by
  rcases terminal with ⟨task, stored, final⟩
  rcases Option.isSome_iff_exists.mp present with ⟨event, atEvent⟩
  refine .inr (.inr ⟨event, atEvent, task.lifecycle.materializationStatus.value, ?_, ?_⟩)
  · rw [show rows.task = some task from stored]
    simp [evidenceValues]
  · exact value_mem_settledStates final

/-! ## What keeps an outcome recorded -/

section Keeps

variable {rows rows' : ClipRows}

theorem evidenceValues_eq {task task' : Option ClipTask} {event event' : EventRow}
    (tasks : task'.map (fun task =>
        (task.lifecycle.materializationStatus, task.lifecycle.status)) =
      task.map fun task => (task.lifecycle.materializationStatus, task.lifecycle.status))
    (states : event'.states = event.states) :
    evidenceValues task' event' = evidenceValues task event := by
  simp only [EventRow.states, Prod.mk.injEq] at states
  simp only [evidenceValues, states.1, states.2]
  cases task with
  | none =>
    rw [Option.map_none, Option.map_eq_none_iff] at tasks
    rw [tasks]
  | some =>
    rcases Option.map_eq_some_iff.mp tasks with ⟨_, rfl, same⟩
    rw [Prod.mk.injEq] at same
    simp only [Option.map_some, same.1, same.2]

theorem SlotOnly.recorded (only : SlotOnly rows rows') (fresh : FreshSlot rows)
    (recorded : Recorded rows) : Recorded rows' := by
  rcases recorded with missing | committed | ⟨event, present, value, among, state⟩
  · rcases only with rfl | ⟨task, written, write⟩
    · exact .inl missing
    · rw [write.stored] at missing
      cases missing.1
  · exact .inr (.inl (only.committed fresh committed))
  · rcases only with rfl | ⟨task, written, write⟩
    · exact .inr (.inr ⟨event, present, value, among, state⟩)
    · have events := write.events
      rw [show rows.event = some event from present, Option.map_some] at events
      rcases Option.map_eq_some_iff.mp events with ⟨event', present', states⟩
      refine .inr (.inr ⟨event', present', value, ?_, state⟩)
      rw [evidenceValues_eq _ states]
      · exact among
      · rw [write.stored, write.stores, Option.map_some, Option.map_some, write.quiet.status,
          write.quiet.materialization]

/-- No state column is settled unless the task is terminal or handed over. -/
def Consistent (rows : ClipRows) : Prop :=
  CarriesSettled rows → TaskTerminal rows ∨ Committed rows

theorem ClipStatusUpdate.refuses_terminal {update : ClipStatusUpdate} {task : ClipTask}
    (granted : canUpdate update task = true)
    (final : task.lifecycle.materializationStatus.isTerminal = true) :
    task.lifecycle.materializationStatus = update.target := by
  have expects := (Bool.and_eq_true _ _).mp ((Bool.and_eq_true _ _).mp granted).1
  rcases of_decide_eq_true expects.2 with same | same | same | ⟨_, same⟩
  · rw [same] at final
    cases final
  · rw [same] at final
    cases final
  · exact same
  · rw [same] at final
    cases final

end Keeps

def Processor.marksPending (processor : Processor) : Bool :=
  match processor.phase with
  | .marking update _ | .projecting update _ => decide (update.target = .pending)
  | _ => false

/-- The condition on a step of a delivery: an acquisition that meets a slot of the past
finds its outcome recorded, and a pending state meets consistent rows. -/
def Grounded (rows : ClipRows) (processor : Processor) : ProcLabel → Prop
  | .exec (.acquire ..) =>
    (∃ task ∈ rows.task, task.slot.status = .released ∨ task.slot.status = .timeout) →
      Recorded rows
  | .updateTask _ _ | .projectEvent _ => processor.marksPending = true → Consistent rows
  | _ => True

variable {label : ProcLabel}

theorem ClipWrite.recorded {rows rows' : ClipRows} {processor : Processor}
    (write : ClipWrite rows processor.phase label rows') (named : processor.phase.Named)
    (fresh : FreshSlot rows) (grounded : Grounded rows processor label)
    (recorded : Recorded rows) : Recorded rows' := by
  rcases processor with ⟨delivery, phase, deadLettered⟩
  by_cases committed : Committed rows
  · exact .inr (.inl (write.keepsCommitted named fresh committed))
  · cases write with
    | quiet only => exact only.recorded fresh recorded
    | @aborted _ _ _ _ _ _ _ _ stored =>
      rcases recorded with missing | handed | ⟨event, present, _⟩
      · rw [stored] at missing
        cases missing.1
      · exact absurd handed committed
      · apply TaskTerminal.recorded ⟨_, rfl, rfl⟩
        rw [show rows.event = some event from present]
        rfl
    | committed _ _ _ _ _ nonempty =>
      exact .inr (.inl ⟨_, rfl, decide_eq_true ⟨rfl, nonempty⟩⟩)
    | @updated _ _ _ _ _ atPhase atLabel stored granted =>
      subst atPhase atLabel
      rcases recorded with missing | handed | carries
      · rw [stored] at missing
        cases missing.1
      · exact absurd handed committed
      · have present : rows.event.isSome = true := by
          rcases carries with ⟨event, atEvent, _⟩
          rw [show rows.event = some event from atEvent]
          rfl
        rcases NamedMark.target named with pending | settles
        · rcases grounded (decide_eq_true pending) carries with ⟨other, storedToo, final⟩ | handed
          · cases Option.some.inj (stored.symm.trans storedToo)
            rw [ClipStatusUpdate.refuses_terminal granted final, pending] at final
            cases final
          · exact absurd handed committed
        · exact TaskTerminal.recorded ⟨_, rfl, settles.1⟩ present
    | @projected _ update _ atPhase atLabel =>
      subst atPhase atLabel
      rcases recorded with missing | handed | carries
      · refine .inl ⟨missing.1, ?_⟩
        rw [missing.2]
        rfl
      · exact absurd handed committed
      · rcases carries with ⟨event, atEvent, carried⟩
        have present : rows.event = some event := atEvent
        rcases NamedMark.target named with pending | settles
        · rcases grounded (decide_eq_true pending) ⟨event, atEvent, carried⟩ with
            terminal | handed
          · have still : TaskTerminal
                { task := rows.task, event := rows.event.map (clipProjection update) } :=
              terminal
            apply still.recorded
            rw [Option.isSome_map, present]
            rfl
          · exact absurd handed committed
        · refine .inr (.inr ⟨clipProjection update event, ?_, update.evidenceState, ?_, settles.2⟩)
          · rw [present]
            rfl
          · apply List.mem_append_right
            exact List.mem_cons_of_mem _ List.mem_cons_self

/-! ## Outcomes that acknowledge -/

/-- What holds of a delivery whose outcome acknowledges, or will if it is persisted. -/
def Promise (rows : ClipRows) (processor : Processor) : Prop :=
  match processor.phase with
  | .deciding outcome =>
    outcome.shouldAck = true → processor.deadLettered = true ∨ Recorded rows
  | .projecting _ (.terminal _) => TaskTerminal rows ∨ Committed rows
  | _ => True

theorem shouldAck_ack {outcome : ProcessingOutcome} (acks : outcome.shouldAck = true) :
    outcome.ack = true ∧ outcome.durable = true :=
  (Bool.and_eq_true _ _).mp acks

def ExecPhase.Recorded (rows : ClipRows) : ExecPhase → Prop
  | .finished outcome => outcome.shouldAck = true → Clip.Recorded rows
  | _ => True

variable {reservation : Reservation}

theorem committed_of_loaded {rows : ClipRows} (loaded : loadSlot rows = some reservation)
    (state : reservation.createState = .committed) (job : reservation.jobId.getD "" ≠ "") :
    Committed rows := by
  rcases Option.map_eq_some_iff.mp loaded with ⟨task, stored, rfl⟩
  exact ⟨task, stored, decide_eq_true ⟨state, job⟩⟩

theorem loadedPhase_recorded {request : ExecRequest} {rows : ClipRows}
    {loaded : Option Reservation} (known : ∀ reservation, loaded = some reservation →
      loadSlot rows = some reservation) : (loadedPhase request loaded).Recorded rows := by
  cases loaded with
  | none => trivial
  | some reservation =>
    simp only [loadedPhase]
    split
    · simp only [existingActivePhase]
      split
      · rename_i handed
        intro _
        exact .inr (.inl (committed_of_loaded (known reservation rfl) handed.2 handed.1))
      · split
        · exact fun acks => by cases acks
        · split
          · exact fun acks => by cases acks
          · split
            · exact fun acks => by cases acks
            · trivial
    · exact fun acks => by cases acks
    · exact fun acks => by cases acks
    · trivial

variable {now : Int}

/-- The executor takes the request for settled only if the slot is of the past. -/
theorem acquireSlot_settledSlot {rows : ClipRows} {request : AcquireRequest}
    {capacity : Option CapacityLimit}
    (answered : (acquireSlot now rows request capacity).2 = some reservation)
    (refused : reservation.acquired = false)
    (reason : reservation.reason = "replay_slot_terminal_state") :
    (acquireSlot now rows request capacity).1 = rows ∧
      ∃ task ∈ rows.task, task.slot.status = .released ∨ task.slot.status = .timeout := by
  rcases acquireSlot_slot rows now request capacity with ⟨same, _⟩ | ⟨slot, _, _, _, granted⟩
  · refine ⟨same, ?_⟩
    simp only [acquireSlot] at answered
    split at answered
    · cases answered
    · split at answered
      · rename_i denial denied
        have why : denial = "replay_slot_terminal_state" := by
          rw [← reason, ← Option.some.inj answered]
          cases rows.task with
          | none | some => rfl
        subst why
        simp only [denyReason] at denied
        split at denied
        · simp at denied
        · rename_i task stored
          split at denied
          · simp at denied
          · rename_i status
            exact ⟨task, stored, .inl status⟩
          · rename_i status
            exact ⟨task, stored, .inr status⟩
          · cases capacity with
            | none => cases denied
            | some limit => cases limit <;> simp [CapacityLimit.reason] at denied
      · simp only [Option.bind_eq_some_iff] at answered
        rcases answered with ⟨_, _, granted⟩
        split at granted
        · rw [← Option.some.inj granted] at refused
          cases refused
        · cases granted
  · rw [granted reservation answered] at refused
    cases refused

variable {answer : Answer}

theorem Answer.apply_of_true {rows : ClipRows} {result : ClipRows × Bool}
    (told : (answer.apply rows result false).2 = true) :
    answer.apply rows result false = result := by
  rcases answer.apply_cases rows result false with ends | ends | ends
  · exact ends
  all_goals
    rw [ends] at told
    cases told

theorem abortCreate_recorded {rows : ClipRows} {reason : String}
    (told : (abortCreate now rows reservation reason).2 = true) :
    Recorded (abortCreate now rows reservation reason).1 := by
  simp only [abortCreate] at told ⊢
  split at told
  · cases told
  · rename_i named
    rw [if_neg named]
    generalize (if reason = "" then "Replay request permanently rejected" else reason) = detail
      at told ⊢
    rcases casTask_cases rows (canAbort reservation) (abortedTask now · detail)
      (projectAbort detail) with missed | ⟨task, stored, holds, written⟩
    · rw [missed] at told
      cases told
    · rw [written] at told ⊢
      simp only [Option.isSome_some, Bool.true_and] at told
      apply TaskTerminal.recorded ⟨_, rfl, rfl⟩
      rw [Option.isSome_map]
      exact told

theorem commitHandoff_recorded {rows : ClipRows} {request : CommitRequest}
    (told : (commitHandoff now rows reservation request).2 = true) :
    Recorded (commitHandoff now rows reservation request).1 := by
  simp only [commitHandoff] at told ⊢
  split at told
  · cases told
  · rename_i named
    rw [if_neg named]
    rcases casTask_cases rows
      (fun task => rows.event.isSome && canCommit reservation request task)
      (committedTask now · reservation request) (projectCommit request) with
      missed | ⟨task, stored, holds, written⟩
    · rw [missed] at told
      cases told
    · rw [written]
      exact .inr (.inl ⟨_, rfl, decide_eq_true ⟨rfl, named⟩⟩)

theorem acquiredPhase_recorded {rows : ClipRows} {answered : Option Reservation}
    (settled : ∀ reservation, answered = some reservation → reservation.acquired = false →
      reservation.reason = "replay_slot_terminal_state" → Recorded rows) :
    (acquiredPhase answered).Recorded rows := by
  cases answered with
  | none => exact fun acks => by cases acks
  | some reservation =>
    by_cases acquired : reservation.acquired = true
    · simp only [acquiredPhase, acquired, if_true]
      trivial
    · by_cases past : reservation.reason = "replay_slot_terminal_state"
      · simp only [acquiredPhase, acquired, past, if_true]
        intro _
        exact settled reservation rfl (Bool.eq_false_iff.mpr acquired) past
      · simp only [acquiredPhase, acquired, past, if_false]
        exact fun acks => by cases acks

theorem execStep_recorded {request : ExecRequest} {rows rows' : ClipRows}
    {phase next : ExecPhase} {label : ExecLabel}
    (grounded : ∀ now capacity answer, label = .acquire now capacity answer →
      (∃ task ∈ rows.task, task.slot.status = .released ∨ task.slot.status = .timeout) →
        Recorded rows)
    (step : execStep request rows phase label = some (rows', next)) : next.Recorded rows' := by
  unfold execStep at step
  split at step
  next answer =>
    cases step
    apply loadedPhase_recorded
    intro reservation loaded
    cases answer with
    | completes => exact loaded
    | fails => cases loaded
  next =>
    cases step
    simp only [takenOverPhase]
    split
    · exact fun acks => by cases acks
    · split <;> trivial
  next =>
    split at step
    · cases step
      trivial
    · split at step
      · cases step
      · cases step
        trivial
  next =>
    cases step
    exact fun acks => by cases acks
  next now capacity answer =>
    cases step
    apply acquiredPhase_recorded
    intro reservation answered refused past
    cases answer with
    | completes =>
      rcases acquireSlot_settledSlot answered refused past with ⟨same, slot⟩
      simp only [Answer.apply, same]
      exact grounded now capacity .completes rfl slot
    | fails => cases answered
  next =>
    cases step
    split
    · trivial
    · exact fun acks => by cases acks
  next submission =>
    split at step
    · cases step
      cases submission <;> trivial
    · cases step
  next reservation reason now answer =>
    cases step
    intro acks
    have told := (shouldAck_ack acks).1
    have same := Answer.apply_of_true told
    rw [same] at told ⊢
    exact abortCreate_recorded told
  next =>
    cases step
    exact fun acks => by cases acks
  next reservation jobId stream now answer =>
    cases step
    intro acks
    have told := (shouldAck_ack acks).1
    have same := Answer.apply_of_true told
    rw [same] at told ⊢
    exact commitHandoff_recorded told
  next => cases step

/-! ## One step of a delivery -/

variable {delivery : Delivery} {deadLettered : Bool}

section

variable {rows : ClipRows}

include rows

theorem existingSlotPhase_promise {loaded : Option Reservation}
    (known : ∀ reservation, loaded = some reservation → loadSlot rows = some reservation) :
    Promise rows { delivery, phase := existingSlotPhase loaded, deadLettered } := by
  cases loaded with
  | none => trivial
  | some slot =>
    cases status : slot.slotStatus with
    | timeout =>
      simp only [existingSlotPhase, status]
      trivial
    | released =>
      simp only [existingSlotPhase, status]
      exact fun acks => by cases acks
    | absent =>
      simp only [existingSlotPhase, status]
      trivial
    | active =>
      by_cases handed : slot.createState = .committed ∧ slot.jobId.getD "" ≠ ""
      · simp only [existingSlotPhase, status, if_pos handed]
        intro _
        exact .inr (.inr (.inl (committed_of_loaded (known slot rfl) handed.1 handed.2)))
      · simp only [existingSlotPhase, status, if_neg handed]
        trivial

theorem schedulePhase_promise {decision : ScheduleGate} {exhausted : Bool} :
    Promise rows
      { delivery, phase := schedulePhase delivery decision exhausted, deadLettered } := by
  simp only [schedulePhase]
  repeat' split
  all_goals trivial

theorem executedPhase_promise {phase : ExecPhase} (recorded : phase.Recorded rows) :
    Promise rows { delivery, phase := executedPhase delivery phase, deadLettered } := by
  cases phase with
  | finished =>
    simp only [executedPhase]
    split
    · trivial
    · exact fun acks => .inr (recorded acks)
  | _ => trivial

theorem AfterMark.phase_promise_of_lost {after : AfterMark} :
    Promise rows { delivery, phase := after.phase false, deadLettered } := by
  cases after with
  | terminal | held => exact fun acks => nomatch acks
  | denied =>
    intro acks
    cases (shouldAck_ack acks).2
  | stillWaiting => trivial

theorem projected_promise {update : ClipStatusUpdate} {after : AfterMark}
    (named : NamedMark update after)
    (promise : Promise rows { delivery, phase := .projecting update after, deadLettered }) :
    Promise (answer.apply rows (projectClipStatus rows update) false).1
      { delivery
        phase := after.phase (answer.apply rows (projectClipStatus rows update) false).2
        deadLettered } := by
  cases after with
  | terminal =>
    intro acks
    have told : (answer.apply rows (projectClipStatus rows update) false).2 = true :=
      (shouldAck_ack acks).1
    have same := Answer.apply_of_true told
    rw [same] at told ⊢
    right
    rcases promise with terminal | committed
    · have still : TaskTerminal (projectClipStatus rows update).1 := terminal
      apply still.recorded
      simp only [projectClipStatus, Option.isSome_map]
      exact told
    · exact .inr (.inl committed)
  | held => exact fun acks => nomatch acks
  | denied outcome =>
    intro acks
    have acked := (shouldAck_ack acks).1
    rw [named.denied outcome rfl] at acked
    cases acked
  | stillWaiting => trivial

theorem terminalEvidenceState_recorded (terminal : terminalEvidenceState rows ≠ "") :
    Recorded rows := by
  rcases terminalEvidenceState_ne_iff.mp terminal with ⟨event, present, value, among, state⟩
  exact .inr (.inr ⟨event, present, value, among, List.mem_cons_of_mem _ state⟩)

theorem updated_promise {update : ClipStatusUpdate} {mark : AfterMark}
    (named : NamedMark update mark)
    (told : (answer.apply rows (updateClipTask now rows update) false).2 = true) :
    Promise (answer.apply rows (updateClipTask now rows update) false).1
      { delivery, phase := .projecting update mark, deadLettered } := by
  have same := Answer.apply_of_true told
  rw [same] at told ⊢
  cases mark with
  | terminal reason =>
    left
    simp only [updateClipTask] at told ⊢
    rcases casTask_cases rows (canUpdate update) (clipUpdatedTask now · update)
      (fun _ event => event) with missed | ⟨task, stored, holds, written⟩
    · rw [missed] at told
      cases told
    · rw [written]
      exact ⟨_, rfl, (named.terminal reason rfl).1⟩
  | _ => trivial

end

theorem procStep_promise {rows rows' : ClipRows} {processor after : Processor}
    (named : processor.phase.Named) (grounded : Grounded rows processor label)
    (promise : Promise rows processor)
    (step : procStep rows processor label = some (rows', after)) : Promise rows' after := by
  rcases processor with ⟨delivery, phase, deadLettered⟩
  simp only [procStep] at step
  split at step
  next =>
    cases step
    cases delivery.malformed <;> trivial
  next answer =>
    cases step
    cases answer with
    | fails => trivial
    | completes =>
      by_cases quiet : terminalEvidenceState rows = ""
      · simp only [Answer.apply, quiet, if_true]
        trivial
      · simp only [Answer.apply, quiet, if_false]
        exact fun _ => .inr (terminalEvidenceState_recorded quiet)
  next elsewhere answer =>
    cases step
    cases answer with
    | fails => trivial
    | completes =>
      cases found : rows.task.isSome || rows.event.isSome || elsewhere with
      | true =>
        simp only [Answer.apply, if_true]
        trivial
      | false =>
        simp only [Answer.apply, Bool.false_eq_true, if_false]
        intro _
        simp only [Bool.or_eq_false_iff, Option.isSome_eq_false_iff,
          Option.isNone_iff_eq_none] at found
        exact .inr (.inl found.1)
  next answer =>
    cases step
    apply existingSlotPhase_promise
    intro reservation loaded
    cases answer with
    | completes => exact loaded
    | fails => cases loaded
  next recovering error =>
    cases step
    cases error <;> trivial
  next recovering now answer =>
    cases step
    cases recovering <;> trivial
  next =>
    cases step
    exact schedulePhase_promise
  next result =>
    cases step
    cases result <;> trivial
  next =>
    rcases Option.bind_eq_some_iff.mp step with ⟨_, moved, ends⟩
    cases ends
    apply executedPhase_promise
    apply execStep_recorded _ moved
    rintro now capacity answer rfl
    exact grounded
  next =>
    cases step
    split
    · rename_i told
      exact updated_promise named told
    · exact AfterMark.phase_promise_of_lost
  next =>
    cases step
    exact projected_promise named promise
  next =>
    cases step
    intro acks
    have wasAdded := ((Bool.and_eq_true _ _).mp (shouldAck_ack acks).2).1
    left
    simp only [wasAdded, Bool.or_true]
  next =>
    cases step
    trivial
  iterate 3 next => cases step
  next =>
    cases step
    exact fun acks => by cases acks
  next => cases step

/-! ## Any number of deliveries -/

theorem SlotOnly.keepsPromise {rows rows' : ClipRows} {processor : Processor}
    (only : SlotOnly rows rows') (fresh : FreshSlot rows) (promise : Promise rows processor) :
    Promise rows' processor := by
  rcases processor with ⟨_, phase, _⟩
  cases phase with
  | deciding =>
    intro acks
    exact (promise acks).imp id fun recorded => only.recorded fresh recorded
  | projecting _ after =>
    cases after with
    | terminal => exact promise.imp only.terminal fun kept => only.committed fresh kept
    | _ => trivial
  | _ => trivial

theorem ClipWrite.held {rows rows' : ClipRows} {phase : ProcPhase}
    (write : ClipWrite rows phase label rows') (named : phase.Named) (fresh : FreshSlot rows)
    (held : TaskTerminal rows ∨ Committed rows) : TaskTerminal rows' ∨ Committed rows' := by
  rcases held with terminal | committed
  · cases write with
    | quiet only => exact .inl (only.terminal terminal)
    | aborted => exact .inl ⟨_, rfl, rfl⟩
    | committed _ _ _ _ _ nonempty =>
      exact .inr ⟨_, rfl, decide_eq_true ⟨rfl, nonempty⟩⟩
    | @updated _ _ _ _ _ _ _ stored granted =>
      rcases terminal with ⟨_, storedToo, final⟩
      cases Option.some.inj (stored.symm.trans storedToo)
      have same := ClipStatusUpdate.refuses_terminal granted final
      rw [same] at final
      exact .inl ⟨_, rfl, final⟩
    | projected => exact .inl terminal
  · exact .inr (write.keepsCommitted named fresh committed)

theorem ClipWrite.keepsPromise {rows rows' : ClipRows} {processor other : Processor}
    (write : ClipWrite rows processor.phase label rows') (named : processor.phase.Named)
    (fresh : FreshSlot rows) (grounded : Grounded rows processor label)
    (promise : Promise rows other) :
    Promise rows' other := by
  rcases other with ⟨_, phase, _⟩
  cases phase with
  | deciding =>
    intro acks
    exact (promise acks).imp id fun recorded =>
      write.recorded named fresh grounded recorded
  | projecting _ after =>
    cases after with
    | terminal => exact write.held named fresh promise
    | _ => trivial
  | _ => trivial

/-- The condition on a step of the world. -/
def grounded (world : ClipWorld) : ClipLabel → Prop
  | .run index label =>
    ∀ slot ∈ world.processors[index]?, ∀ processor ∈ slot, Grounded world.rows processor label
  | _ => True

instance (rows : ClipRows) : Decidable (CarriesSettled rows) :=
  inferInstanceAs (Decidable (∃ event ∈ rows.event,
    ∃ value ∈ evidenceValues rows.task event, value ∈ settledStates))

instance (rows : ClipRows) : Decidable (Recorded rows) :=
  inferInstanceAs (Decidable ((rows.task = none ∧ rows.event = none) ∨ Committed rows ∨
    CarriesSettled rows))

instance (rows : ClipRows) : Decidable (Consistent rows) :=
  inferInstanceAs (Decidable (CarriesSettled rows → TaskTerminal rows ∨ Committed rows))

instance (rows : ClipRows) (processor : Processor) (label : ProcLabel) :
    Decidable (Grounded rows processor label) :=
  match label with
  | .exec (.acquire ..) =>
    inferInstanceAs (Decidable
      ((∃ task ∈ rows.task, task.slot.status = .released ∨ task.slot.status = .timeout) →
        Recorded rows))
  | .updateTask _ _ | .projectEvent _ =>
    inferInstanceAs (Decidable (processor.marksPending = true → Consistent rows))
  | .exec (.load _) | .exec (.takeOver _) | .exec (.recover _) | .exec (.markUnresolved _)
  | .exec (.markSubmitting _) | .exec (.submit _) | .exec (.abort ..) | .exec (.markUncertain _)
  | .exec (.commit ..) | .parse | .lookUp _ | .checkTarget .. | .loadSlot _ | .route _
  | .count .. | .gate .. | .anchor _ | .quarantine .. | .decide | .raise => isTrue trivial

instance (world : ClipWorld) (label : ClipLabel) : Decidable (grounded world label) :=
  match label with
  | .run index label =>
    inferInstanceAs (Decidable (∀ slot ∈ world.processors[index]?, ∀ processor ∈ slot,
      Grounded world.rows processor label))
  | .deliver .. | .crash _ | .releaseTimedOut _ => isTrue trivial

abbrev groundedMachine : Machine ClipWorld ClipLabel := clipMachine.restrict grounded

def PromisesKept (world : ClipWorld) : Prop :=
  ∀ processor, some processor ∈ world.processors → Promise world.rows processor

theorem promisesKept_invariant : groundedMachine.Invariant PromisesKept where
  initially := by
    rintro world ⟨_, idle⟩ processor member
    cases idle _ member
  preserved := by
    intro world label next reached promises step processor member
    have facts := Machine.restrict_step_eq_some.mp step
    have invariant := clipInvariant_invariant.holds reached.of_restrict
    have keeps (other : Processor) (promise : Promise world.rows other) :
        Promise next.rows other := by
      cases clipStep_write facts.2 with
      | outside _ only => exact only.keepsPromise invariant.fresh promise
      | @inside _ moving _ _ _ occupied moved =>
        have named := invariant.named _ (List.mem_of_getElem? occupied) moving rfl
        exact (procStep_write moved).keepsPromise named invariant.fresh
          (facts.1 _ occupied moving rfl) promise
    rcases clipStep_processor facts.2 member with
      old | ⟨begins, _⟩ | ⟨index, before, inner, rfl, occupied, moved⟩
    · exact keeps processor (promises processor old)
    · simp only [Promise, begins]
    · have inside := List.mem_of_getElem? occupied
      exact procStep_promise (invariant.named _ inside before rfl)
        (facts.1 _ occupied before rfl) (promises before inside) moved

/-- In a run whose steps are grounded, a delivery is acknowledged only when its fields are
in the dead-letter stream or its event has a durable outcome. -/
theorem acknowledged_after_durable_outcome {world : ClipWorld} {rows : ClipRows}
    {before after : Processor} (reached : groundedMachine.Reachable world)
    (member : some before ∈ world.processors)
    (step : procStep world.rows before .decide = some (rows, after))
    (acknowledged : after.phase = .finished true) :
    before.deadLettered = true ∨ DurableOutcome world.rows := by
  have promise := promisesKept_invariant.holds reached before member
  rcases before with ⟨_, phase, _⟩
  cases phase with
  | deciding outcome =>
    cases step
    have acks : outcome.shouldAck = true := by
      simp only [ProcPhase.finished.injEq] at acknowledged
      exact acknowledged
    exact (promise acks).imp id Recorded.durable
  | _ => cases step

theorem failed_proof_is_durable :
    ∃ world processor after rows, groundedMachine.run (idleProcessors 1) failedProof = some world ∧
      world.processors = [some processor] ∧
      procStep world.rows processor .decide = some (rows, after) ∧
      after.phase = .finished true ∧
      (processor.deadLettered = true ∨ DurableOutcome world.rows) := by
  have facts : (groundedMachine.run (idleProcessors 1) failedProof).bind
      (fun world => world.processors.head?.join.bind fun processor =>
        (procStep world.rows processor .decide).map fun result =>
          (decide (world.processors = [some processor]), result.2.phase)) =
      some (true, .finished true) := by
    decide +kernel
  rcases Option.bind_eq_some_iff.mp facts with ⟨world, ran, rest⟩
  rcases Option.bind_eq_some_iff.mp rest with ⟨processor, _, rest⟩
  rcases Option.map_eq_some_iff.mp rest with ⟨⟨rows, after⟩, step, shows⟩
  rw [Prod.mk.injEq] at shows
  have alone := of_decide_eq_true shows.1
  have begins : groundedMachine.Reachable (idleProcessors 1) := .start (idleProcessors_initial 1)
  refine ⟨world, processor, after, rows, ran, alone, step, shows.2, ?_⟩
  apply acknowledged_after_durable_outcome (begins.run ran) _ step shows.2
  rw [alone]
  exact List.mem_cons_self

/-- The slot of a crashed delivery times out, and the next one cannot load it. -/
def unloadedSlot : List ClipLabel :=
  beginDelivery 0 (sampleDelivery "first" false) .completes ++ createUntilCommit 0 ++
    [.crash 0, .releaseTimedOut 100] ++
    beginDelivery 0 (sampleDelivery "second" true) (.fails false) ++
    [.route none, .count 100 .completes, .gate openGate false, .anchor .ready,
      .exec (.load (.fails false)), .exec (.acquire 100 none .completes)].map (.run 0)

instance (rows : ClipRows) : Decidable (DurableOutcome rows) :=
  inferInstanceAs (Decidable ((rows.task = none ∧ rows.event = none) ∨
    terminalEvidenceState rows ≠ "" ∨
    ((∃ task ∈ rows.task, task.lifecycle.materializationStatus = .deferred ∨
        task.lifecycle.status = "materialization_deferred") ∨
      ∃ event ∈ rows.event, event.evidenceState = "materialization_deferred" ∨
        event.mediaStatus = "materialization_deferred") ∨
    Committed rows))

theorem unloaded_slot_is_acknowledged :
    ∃ world processor after rows, clipMachine.Reachable world ∧
      some processor ∈ world.processors ∧
      procStep world.rows processor .decide = some (rows, after) ∧
      after.phase = .finished true ∧
      ¬(processor.deadLettered = true ∨ DurableOutcome world.rows) := by
  have facts : (clipMachine.run (idleProcessors 1) unloadedSlot).bind
      (fun world => world.processors.head?.join.bind fun processor =>
        (procStep world.rows processor .decide).map fun result =>
          (decide (some processor ∈ world.processors), result.2.phase,
            processor.deadLettered, decide (DurableOutcome world.rows))) =
      some (true, .finished true, false, false) := by
    decide +kernel
  rcases Option.bind_eq_some_iff.mp facts with ⟨world, ran, rest⟩
  rcases Option.bind_eq_some_iff.mp rest with ⟨processor, _, rest⟩
  rcases Option.map_eq_some_iff.mp rest with ⟨⟨rows, after⟩, step, shows⟩
  simp only [Prod.mk.injEq] at shows
  refine ⟨world, processor, after, rows,
    (Machine.Reachable.start (idleProcessors_initial 1)).run ran, of_decide_eq_true shows.1, step,
    shows.2.1, ?_⟩
  rintro (lettered | durable)
  · rw [shows.2.2.1] at lettered
    cases lettered
  · exact of_decide_eq_false shows.2.2.2 durable

end VideoAnalysis.Clip
