import VideoAnalysis.Clip.Executor
import VideoAnalysis.Foundation.ThreadPool
import VideoAnalysis.Lifecycle.Calls

/-! # At most one Replay job

Every acquisition and takeover raises the generation of the slot, so a reservation
is current for one executor at a time, and a create can be started once only.
-/

namespace VideoAnalysis.Clip

open Foundation Lifecycle

def ClipRows.slot (rows : ClipRows) : Option ReplaySlot := rows.task.map (·.slot)

theorem casTask_cases (rows : ClipRows) (guard : ClipTask → Bool) (write : ClipTask → ClipTask)
    (project : ClipTask → EventRow → EventRow) :
    casTask rows guard write project = (rows, none) ∨
      ∃ task, rows.task = some task ∧ guard task = true ∧
        casTask rows guard write project =
          ({ task := some (write task), event := rows.event.map (project (write task)) },
            some (write task)) := by
  simp only [casTask]
  cases stored : rows.task with
  | none => exact .inl rfl
  | some task =>
    cases holds : guard task with
    | true => exact .inr ⟨task, rfl, holds, by simp only [holds, if_true]⟩
    | false => exact .inl (by simp only [holds, Bool.false_eq_true, if_false])

theorem Answer.apply_cases {α : Type} (answer : Answer) (rows : ClipRows) (result : ClipRows × α)
    (failed : α) :
    answer.apply rows result failed = result ∨
      answer.apply rows result failed = (result.1, failed) ∨
      answer.apply rows result failed = (rows, failed) := by
  cases answer with
  | completes => exact .inl rfl
  | fails effect =>
    cases effect with
    | true => exact .inr (.inl rfl)
    | false => exact .inr (.inr rfl)

/-! ## What each statement does to the slot -/

section Statements

variable (rows : ClipRows)

variable (now : Int)

theorem acquireSlot_slot (request : AcquireRequest) (capacity : Option CapacityLimit) :
    ((acquireSlot now rows request capacity).1 = rows ∧
      ∀ answer, (acquireSlot now rows request capacity).2 = some answer →
        answer.acquired = false) ∨
    ∃ slot, rows.slot = some slot ∧ slot.status = .absent ∧
      (acquireSlot now rows request capacity).1.slot = some (reservedSlot now slot request) ∧
      ∀ answer, (acquireSlot now rows request capacity).2 = some answer →
        answer = (reservedSlot now slot request).reservation true "" := by
  simp only [acquireSlot]
  split
  · exact .inl ⟨rfl, fun _ answered => nomatch answered⟩
  · cases denied : denyReason rows.task capacity with
    | some =>
      refine .inl ⟨rfl, fun answer answered => ?_⟩
      cases stored : rows.task with
      | none =>
        simp only [stored, Option.map_none, Option.getD_none, Option.some.injEq] at answered
        rw [← answered]
      | some =>
        simp only [stored, Option.map_some, Option.getD_some, Option.some.injEq] at answered
        rw [← answered]
        rfl
    | none =>
      cases stored : rows.task with
      | none =>
        rw [stored] at denied
        cases denied
      | some task =>
        have free : task.slot.status = .absent := by
          simp only [denyReason, stored] at denied
          cases status : task.slot.status <;> simp [status] at denied ⊢
        refine .inr ⟨task.slot, by simp only [ClipRows.slot, stored, Option.map_some],
          free, ?_, ?_⟩
        · simp only [casTask, stored, if_true, ClipRows.slot, Option.map_some]
        · intro answer answered
          simp only [casTask, stored, if_true, Option.bind_some] at answered
          split at answered
          · exact (Option.some.inj answered).symm
          · cases answered

theorem takeoverSlot_slot (owner deliveryId : String) (expected : Reservation) :
    ((takeoverSlot rows owner deliveryId expected).1 = rows ∧
      (takeoverSlot rows owner deliveryId expected).2 = none) ∨
    ∃ slot, rows.slot = some slot ∧ slot.status = .active ∧ slot.jobId = none ∧
      (takeoverSlot rows owner deliveryId expected).1.slot =
        some (takenOverSlot slot owner deliveryId) ∧
      ∀ answer, (takeoverSlot rows owner deliveryId expected).2 = some answer →
        answer = (takenOverSlot slot owner deliveryId).reservation true
          "replay_slot_taken_over" := by
  simp only [takeoverSlot]
  split
  · exact .inl ⟨rfl, rfl⟩
  · rcases casTask_cases rows (canTakeOver expected)
      (fun task => { task with slot := takenOverSlot task.slot owner deliveryId }) _ with
      missed | ⟨task, stored, holds, written⟩
    · rw [missed]
      exact .inl ⟨rfl, rfl⟩
    · have guard := of_decide_eq_true holds
      rw [written]
      refine .inr ⟨task.slot, by simp only [ClipRows.slot, stored, Option.map_some], guard.1,
        guard.2.2.2, rfl, ?_⟩
      intro answer answered
      simp only [Option.bind_some] at answered
      split at answered
      · exact (Option.some.inj answered).symm
      · cases answered

variable (reservation : Reservation)

/-- A fenced statement answers false and writes nothing, or moves a slot that its guard admits. -/
def MovesSlot (rows : ClipRows) (result : ClipRows × Bool) (guard : ReplaySlot → Prop)
    (next : ReplaySlot → ReplaySlot) : Prop :=
  (result.1 = rows ∧ result.2 = false) ∨
    ∃ slot, rows.slot = some slot ∧ guard slot ∧ result.1.slot = some (next slot)

theorem casTask_moves {test : ClipTask → Bool} {change : ClipTask → ClipTask}
    {project : ClipTask → EventRow → EventRow} {guard : ReplaySlot → Prop}
    {next : ReplaySlot → ReplaySlot} (tells : Bool)
    (guarded : ∀ task, test task = true → guard task.slot)
    (writes : ∀ task, (change task).slot = next task.slot) :
    MovesSlot rows ((casTask rows test change project).1,
      (casTask rows test change project).2.isSome && tells) guard next := by
  rcases casTask_cases rows test change project with missed | ⟨task, stored, holds, written⟩
  · rw [missed]
    exact .inl ⟨rfl, rfl⟩
  · rw [written]
    exact .inr ⟨task.slot, by simp only [ClipRows.slot, stored, Option.map_some],
      guarded task holds, congrArg some (writes task)⟩

theorem markCreateStarted_slot :
    MovesSlot rows (markCreateStarted rows reservation)
      (fun slot => slot.heldBy reservation = true ∧
        (slot.createState = .reserved ∨ slot.createState = .submitting))
      ({ · with createState := .submitting }) := by
  refine casTask_moves rows _ (fun task holds => ?_) fun _ => rfl
  have guard := (Bool.and_eq_true _ _).mp holds
  exact ⟨guard.1, (of_decide_eq_true guard.2).2.2⟩

theorem markCreateUncertain_slot (reason : String) :
    MovesSlot rows (markCreateUncertain rows reservation reason)
      (fun slot => slot.heldBy reservation = true ∧
        (slot.createState = .submitting ∨ slot.createState = .uncertain))
      ({ · with createState := .uncertain }) := by
  simp only [markCreateUncertain]
  rw [← Bool.and_true (casTask _ _ _ _).2.isSome]
  refine casTask_moves rows true (fun task holds => ?_) fun _ => rfl
  have guard := (Bool.and_eq_true _ _).mp holds
  exact ⟨guard.1, (of_decide_eq_true guard.2).2⟩

theorem abortCreate_slot (reason : String) :
    MovesSlot rows (abortCreate now rows reservation reason)
      (fun slot => slot.heldBy reservation = true ∧ slot.createState = .submitting)
      ({ · with
        status := .released
        createState := .aborted
        releaseReason := some "replay_permanent_rejected" }) := by
  simp only [abortCreate]
  split
  · exact .inl ⟨rfl, rfl⟩
  · refine casTask_moves rows _ (fun task holds => ?_) fun _ => rfl
    have guard := (Bool.and_eq_true _ _).mp holds
    exact ⟨guard.1, (of_decide_eq_true guard.2).2.2⟩

theorem commitHandoff_slot (request : CommitRequest) :
    MovesSlot rows (commitHandoff now rows reservation request)
      (fun slot => slot.heldBy reservation = true ∧
        (slot.createState = .submitting ∨ slot.createState = .committed) ∧
        (slot.jobId = none ∨ slot.jobId = some request.jobId))
      (fun slot => { slot with
        jobId := some request.jobId
        resultingStreamId := nullIf request.resultingStreamId
        createState := .committed
        shardId := coalesceText request.shardId slot.shardId }) := by
  simp only [commitHandoff]
  split
  · exact .inl ⟨rfl, rfl⟩
  · rw [← Bool.and_true (casTask _ _ _ _).2.isSome]
    refine casTask_moves rows true (fun task holds => ?_) fun _ => rfl
    have guard := (Bool.and_eq_true _ _).mp ((Bool.and_eq_true _ _).mp holds).2
    exact ⟨guard.1, (of_decide_eq_true guard.2).2⟩

theorem releaseTimedOut_slot :
    releaseTimedOut now rows = rows ∨
    ∃ slot, rows.slot = some slot ∧ slot.status = .active ∧
      (releaseTimedOut now rows).slot =
        some { slot with status := .timeout, releaseReason := some "timeout" } := by
  simp only [releaseTimedOut]
  rcases casTask_cases rows (timedOut now)
    (fun task => { task with
      slot := { task.slot with status := .timeout, releaseReason := some "timeout" } })
    (fun _ event => event.write
      [("replay_slot_status", some "timeout"),
        ("replay_slot_release_reason", some "timeout")]) with
    missed | ⟨task, stored, holds, written⟩
  · rw [missed]
    exact .inl rfl
  · rw [written]
    exact .inr ⟨task.slot, by simp only [ClipRows.slot, stored, Option.map_some],
      (of_decide_eq_true holds).1, rfl⟩

end Statements

/-! ## One call of an executor -/

def ExecPhase.fence : ExecPhase → Option Reservation
  | .recovering winner | .leavingUnresolved winner => some winner
  | .marking reservation | .submitting reservation => some reservation
  | .aborting reservation _ | .leavingUncertain reservation _ => some reservation
  | .committing reservation .. => some reservation
  | .loading | .acquiring | .takingOver _ | .finished _ => none

def ExecPhase.isMarking : ExecPhase → Bool
  | .marking _ => true
  | _ => false

/-- One for an executor that is about to call `submit_plan`. -/
def ExecPhase.standing : ExecPhase → Nat
  | .submitting _ => 1
  | _ => 0

/-- The executor wins the slot: it reserves a free one or takes over an active one. -/
structure Won (before after : ReplaySlot) (phase : ExecPhase) : Prop where
  generation : after.generation = before.generation + 1
  active : after.status = .active
  origin : before.status = .absent ∧ after.createState = .reserved ∨
    before.status = .active ∧ after.createState = before.createState ∧ after.jobId = before.jobId
  fence : ∀ reservation, phase.fence = some reservation →
    reservation.generation = after.generation
  marking : phase.isMarking = true → after.createState ≠ .submitting
  standing : phase.standing = 0

/-- The executor starts the create. -/
structure Started (before after : ReplaySlot) (phase next : ExecPhase) : Prop where
  held : ∃ reservation, phase = .marking reservation ∧ before.heldBy reservation = true
  createState : before.createState = .reserved ∨ before.createState = .submitting
  written : after = { before with createState := .submitting }
  fence : ∀ reservation, next.fence = some reservation →
    reservation.generation = before.generation
  marking : next.isMarking = false

/-- The executor settles a create that was started. -/
structure Settled (before after : ReplaySlot) (next : ExecPhase) : Prop where
  generation : after.generation = before.generation
  status : after.status ≠ .absent
  createState : before.createState ≠ .reserved ∧ before.createState ≠ .absent ∧
    after.createState ≠ .reserved ∧ after.createState ≠ .absent ∧
    after.createState ≠ .submitting
  job : ∀ job, before.jobId = some job → after.jobId = some job
  fence : next.fence = none
  standing : next.standing = 0
  marking : next.isMarking = false

inductive ExecMove (before after : Option ReplaySlot) (phase next : ExecPhase)
    (submits : Nat) : Prop
  | stays (same : after = before)
      (fence : next.fence = none ∨ next.fence = phase.fence)
      (marking : next.isMarking = false) (standing : next.standing + submits ≤ phase.standing)
  | won {slot written} (stored : before = some slot) (stores : after = some written)
      (won : Won slot written next) (submits : submits = 0)
  | started {slot written} (stored : before = some slot) (stores : after = some written)
      (started : Started slot written phase next) (submits : submits = 0)
  | settled {slot written} (stored : before = some slot) (stores : after = some written)
      (settled : Settled slot written next) (submits : submits = 0)

theorem existingActivePhase_fence (request : ExecRequest) (reservation : Reservation) :
    (existingActivePhase request reservation).fence = none ∧
      (existingActivePhase request reservation).isMarking = false ∧
      (existingActivePhase request reservation).standing = 0 := by
  simp only [existingActivePhase]
  repeat' split
  all_goals exact ⟨rfl, rfl, rfl⟩

theorem loadedPhase_fence (request : ExecRequest) (loaded : Option Reservation) :
    (loadedPhase request loaded).fence = none ∧ (loadedPhase request loaded).isMarking = false ∧
      (loadedPhase request loaded).standing = 0 := by
  cases loaded with
  | none => exact ⟨rfl, rfl, rfl⟩
  | some reservation =>
    simp only [loadedPhase]
    cases reservation.slotStatus with
    | active => exact existingActivePhase_fence request reservation
    | absent | released | timeout => exact ⟨rfl, rfl, rfl⟩

theorem acquiredPhase_denied {answered : Option Reservation}
    (denied : ∀ reservation, answered = some reservation → reservation.acquired = false) :
    (acquiredPhase answered).fence = none ∧ (acquiredPhase answered).isMarking = false ∧
      (acquiredPhase answered).standing = 0 := by
  cases answered with
  | none => exact ⟨rfl, rfl, rfl⟩
  | some reservation =>
    simp only [acquiredPhase, denied reservation rfl, Bool.false_eq_true, if_false]
    split
    all_goals exact ⟨rfl, rfl, rfl⟩

section Moves

variable {rows : ClipRows}

variable (answer : Answer)

theorem ExecMove.quiet {before after : Option ReplaySlot} {phase next : ExecPhase}
    (same : after = before)
    (quiet : next.fence = none ∧ next.isMarking = false ∧ next.standing = 0) :
    ExecMove before after phase next 0 :=
  .stays same (.inl quiet.1) quiet.2.1 (by rw [quiet.2.2]; exact Nat.zero_le _)

/-- A statement moves the executor whether its answer arrives, is lost, or it is not executed. -/
theorem ExecMove.answered {α : Type} {result : ClipRows × α} {failed : α} {phase : ExecPhase}
    (next : α → ExecPhase) (failing : (next failed).fence = none ∧
      (next failed).isMarking = false ∧ (next failed).standing = 0)
    (told : ExecMove rows.slot result.1.slot phase (next result.2) 0)
    (lost : ExecMove rows.slot result.1.slot phase (next failed) 0) :
    ExecMove rows.slot (answer.apply rows result failed).1.slot phase
      (next (answer.apply rows result failed).2) 0 := by
  rcases answer.apply_cases rows result failed with ends | ends | ends
  · rw [ends]
    exact told
  · rw [ends]
    exact lost
  · rw [ends]
    exact .quiet rfl failing

theorem acquire_move {request : ExecRequest} {now : Int} {capacity : Option CapacityLimit} :
    ExecMove rows.slot
      (answer.apply rows (acquireSlot now rows request.acquireRequest capacity) none).1.slot
      .acquiring
      (acquiredPhase
        (answer.apply rows (acquireSlot now rows request.acquireRequest capacity) none).2) 0 := by
  rcases acquireSlot_slot rows now request.acquireRequest capacity with
    ⟨same, denied⟩ | ⟨slot, stored, free, stores, granted⟩
  · exact .answered answer acquiredPhase ⟨rfl, rfl, rfl⟩
      (.quiet (by rw [same]) (acquiredPhase_denied denied)) (.quiet (by rw [same]) ⟨rfl, rfl, rfl⟩)
  · have won (next : ExecPhase)
        (place : next.fence = none ∧ next.isMarking = false ∧ next.standing = 0 ∨
          next = .marking ((reservedSlot now slot request.acquireRequest).reservation true "")) :
        Won slot (reservedSlot now slot request.acquireRequest) next := by
      refine ⟨rfl, rfl, .inl ⟨free, rfl⟩, ?_, fun _ => by simp [reservedSlot], ?_⟩
      · rcases place with ⟨unfenced, _⟩ | rfl
        · intro reservation fenced
          rw [unfenced] at fenced
          cases fenced
        · intro reservation fenced
          cases fenced
          rfl
      · rcases place with ⟨_, _, idle⟩ | rfl
        · exact idle
        · rfl
    refine .answered answer acquiredPhase ⟨rfl, rfl, rfl⟩ (.won stored stores (won _ ?_) rfl)
      (.won stored stores (won _ (.inl ⟨rfl, rfl, rfl⟩)) rfl)
    cases answered : (acquireSlot now rows request.acquireRequest capacity).2 with
    | none => exact .inl ⟨rfl, rfl, rfl⟩
    | some reservation =>
      rw [granted reservation answered]
      exact .inr rfl

theorem takeOver_move {request : ExecRequest} {seen : Reservation} :
    ExecMove rows.slot
      (answer.apply rows (takeoverSlot rows request.owner request.deliveryId seen) none).1.slot
      (.takingOver seen)
      (takenOverPhase
        (answer.apply rows (takeoverSlot rows request.owner request.deliveryId seen) none).2)
      0 := by
  rcases takeoverSlot_slot rows request.owner request.deliveryId seen with
    ⟨same, lost⟩ | ⟨slot, stored, active, unset, stores, granted⟩
  · exact .answered answer takenOverPhase ⟨rfl, rfl, rfl⟩
      (.quiet (by rw [same]) (by rw [lost]; exact ⟨rfl, rfl, rfl⟩))
      (.quiet (by rw [same]) ⟨rfl, rfl, rfl⟩)
  · have lostWin : Won slot (takenOverSlot slot request.owner request.deliveryId)
        (takenOverPhase none) :=
      ⟨rfl, active, .inr ⟨active, rfl, rfl⟩, (fun _ fenced => nomatch fenced),
        (fun marking => nomatch marking), rfl⟩
    refine .answered answer takenOverPhase ⟨rfl, rfl, rfl⟩ (.won stored stores ?_ rfl)
      (.won stored stores lostWin rfl)
    cases answered : (takeoverSlot rows request.owner request.deliveryId seen).2 with
    | none => exact lostWin
    | some winner =>
      have same := granted winner answered
      have createState : winner.createState = slot.createState := by rw [same]; rfl
      refine ⟨rfl, active, .inr ⟨active, rfl, rfl⟩, ?_, ?_, ?_⟩
      · intro reservation fenced
        simp only [takenOverPhase] at fenced
        split at fenced
        all_goals
          cases fenced
          rw [same]
          rfl
      · intro marking submitting
        simp only [takenOverPhase] at marking
        split at marking
        · cases marking
        · rename_i fresh
          exact fresh (.inl (createState.trans submitting))
      · simp only [takenOverPhase]
        split
        all_goals rfl

theorem markSubmitting_move {reservation : Reservation} :
    ExecMove rows.slot
      (answer.apply rows (markCreateStarted rows reservation) false).1.slot
      (.marking reservation)
      (if (answer.apply rows (markCreateStarted rows reservation) false).2 then
        .submitting { reservation with createState := .submitting }
      else .finished (hold .transientFailure "stale_replay_slot_before_create" false)) 0 := by
  rcases markCreateStarted_slot rows reservation with
    ⟨same, missed⟩ | ⟨slot, stored, ⟨held, createState⟩, stores⟩
  · exact .answered answer (fun told : Bool => if told then _ else _) ⟨rfl, rfl, rfl⟩
      (.quiet (by rw [same]) (by rw [missed]; exact ⟨rfl, rfl, rfl⟩))
      (.quiet (by rw [same]) ⟨rfl, rfl, rfl⟩)
  · have current : slot.generation = reservation.generation := (of_decide_eq_true held).2.2.2
    refine .answered answer (fun told : Bool => if told then _ else _) ⟨rfl, rfl, rfl⟩
      (.started stored stores ⟨⟨reservation, rfl, held⟩, createState, rfl, ?_, ?_⟩ rfl)
      (.started stored stores
        ⟨⟨reservation, rfl, held⟩, createState, rfl, (fun _ fenced => nomatch fenced), rfl⟩ rfl)
    · intro other fenced
      cases marked : (markCreateStarted rows reservation).2 with
      | true =>
        simp only [marked, if_true, ExecPhase.fence, Option.some.injEq] at fenced
        rw [← fenced]
        exact current.symm
      | false =>
        simp only [marked, Bool.false_eq_true, if_false, ExecPhase.fence, reduceCtorEq] at fenced
    · split
      all_goals rfl

/-- The slot after a statement that settles a create, if it is executed. -/
def SettlesCreate (rows written : ClipRows) (outcome : ProcessingOutcome) : Prop :=
  written = rows ∨ ∃ slot after, rows.slot = some slot ∧ written.slot = some after ∧
    Settled slot after (.finished outcome)

theorem settling_move {phase : ExecPhase} {result : ClipRows × Bool}
    {outcome : Bool → ProcessingOutcome} (writes : SettlesCreate rows result.1 (outcome false))
    (answer : Answer) :
    ExecMove rows.slot (answer.apply rows result false).1.slot phase
      (.finished (outcome (answer.apply rows result false).2)) 0 := by
  have effect (persisted : Bool) : ExecMove rows.slot result.1.slot phase
      (.finished (outcome persisted)) 0 := by
    rcases writes with same | ⟨slot, written, stored, stores, settled⟩
    · exact .quiet (by rw [same]) ⟨rfl, rfl, rfl⟩
    · exact .settled stored stores { settled with fence := rfl, standing := rfl, marking := rfl }
        rfl
  exact .answered answer (fun told => .finished (outcome told)) ⟨rfl, rfl, rfl⟩ (effect _)
    (effect _)

end Moves

theorem heldBy_active {slot : ReplaySlot} {reservation : Reservation}
    (held : slot.heldBy reservation = true) :
    slot.status = .active ∧ slot.owner = reservation.owner ∧ slot.token = reservation.token ∧
      slot.generation = reservation.generation :=
  of_decide_eq_true held

theorem uncertain_writes (rows : ClipRows) (reservation : Reservation) (reason : String)
    (outcome : ProcessingOutcome) :
    SettlesCreate rows (markCreateUncertain rows reservation reason).1 outcome := by
  rcases markCreateUncertain_slot rows reservation reason with
    same | ⟨slot, stored, ⟨held, createState⟩, stores⟩
  · exact .inl same.1
  · refine .inr ⟨slot, _, stored, stores, rfl, ?_, ?_, fun _ known => known, rfl, rfl, rfl⟩
    · simp [(heldBy_active held).1]
    · rcases createState with before | before <;> simp [before]

theorem abort_writes (rows : ClipRows) (now : Int) (reservation : Reservation) (reason : String)
    (outcome : ProcessingOutcome) :
    SettlesCreate rows (abortCreate now rows reservation reason).1 outcome := by
  rcases abortCreate_slot rows now reservation reason with
    same | ⟨slot, stored, ⟨held, createState⟩, stores⟩
  · exact .inl same.1
  · exact .inr ⟨slot, _, stored, stores, rfl, by simp, by simp [createState],
      fun _ known => known, rfl, rfl, rfl⟩

theorem commit_writes (rows : ClipRows) (now : Int) (reservation : Reservation)
    (request : CommitRequest) (outcome : ProcessingOutcome) :
    SettlesCreate rows (commitHandoff now rows reservation request).1 outcome := by
  rcases commitHandoff_slot rows now reservation request with
    same | ⟨slot, stored, ⟨held, createState, job⟩, stores⟩
  · exact .inl same.1
  · refine .inr ⟨slot, _, stored, stores, rfl, ?_, ?_, ?_, rfl, rfl, rfl⟩
    · simp [(heldBy_active held).1]
    · rcases createState with before | before <;> simp [before]
    · intro known stays
      rcases job with unset | same
      · rw [unset] at stays
        cases stays
      · exact same.symm.trans stays

theorem execStep_move {request : ExecRequest} {rows rows' : ClipRows} {phase next : ExecPhase}
    {label : ExecLabel} (step : execStep request rows phase label = some (rows', next)) :
    ExecMove rows.slot rows'.slot phase next label.submits := by
  unfold execStep at step
  split at step
  next answer =>
    cases step
    exact .quiet rfl (loadedPhase_fence request _)
  next =>
    cases step
    exact takeOver_move _
  next =>
    split at step
    · cases step
      exact .stays rfl (.inr rfl) rfl (Nat.le_refl 0)
    · split at step
      · cases step
      · cases step
        exact .stays rfl (.inr rfl) rfl (Nat.le_refl 0)
  next winner _ =>
    cases step
    exact settling_move (uncertain_writes rows winner _ _) _
  next =>
    cases step
    exact acquire_move _
  next =>
    cases step
    exact markSubmitting_move _
  next submission =>
    split at step
    · cases step
      cases submission <;> exact .stays rfl (.inr rfl) rfl (Nat.le_refl 1)
    · cases step
  next reservation reason _ _ =>
    cases step
    exact settling_move (abort_writes rows _ reservation reason _) _
  next reservation reason _ =>
    cases step
    exact settling_move (uncertain_writes rows reservation reason _) _
  next reservation _ _ _ _ =>
    cases step
    exact settling_move (commit_writes rows _ reservation _ _) _
  next => cases step

/-! ## The invariant over all executors -/

def standing : Option Executor → Nat
  | some executor => executor.phase.standing
  | none => 0

def fenceOf : Option Executor → Option Reservation
  | some executor => executor.phase.fence
  | none => none

def ExecWorld.creates (world : ExecWorld) : Nat :=
  world.submissions + total standing world.executors

structure FenceInvariant (world : ExecWorld) : Prop where
  once : world.creates ≤ 1
  unspent : (∀ slot, world.rows.slot = some slot →
    slot.createState = .reserved ∨ slot.createState = .absent) → world.creates = 0
  fresh : ∀ slot, world.rows.slot = some slot → slot.status = .absent →
    slot.createState = .absent ∧ slot.jobId = none
  fenced : ∀ executor ∈ world.executors, ∀ reservation, fenceOf executor = some reservation →
    ∃ slot, world.rows.slot = some slot ∧ reservation.generation ≤ slot.generation ∧
      slot.status ≠ .absent
  unique : ∀ (first second : Nat) left right, world.executors[first]? = some left →
    world.executors[second]? = some right → ∀ mine yours, fenceOf left = some mine →
    fenceOf right = some yours → mine.generation = yours.generation → first = second
  marking : ∀ executor ∈ world.executors, ∀ request reservation,
    executor = some { request, phase := .marking reservation } →
    ∀ slot, world.rows.slot = some slot → reservation.generation = slot.generation →
    slot.createState ≠ .submitting

theorem ExecPhase.standing_le (phase : ExecPhase) : phase.standing ≤ 1 := by
  cases phase <;> simp [ExecPhase.standing]

def UniqueFences (executors : List (Option Executor)) : Prop :=
  ∀ (first second : Nat) left right, executors[first]? = some left →
    executors[second]? = some right → ∀ mine yours, fenceOf left = some mine →
    fenceOf right = some yours → mine.generation = yours.generation → first = second

theorem UniqueFences.replace {executors : List (Option Executor)}
    (unique : UniqueFences executors) {index : Nat} {before after : Option Executor}
    (occupied : executors[index]? = some before)
    (newer : ∀ mine, fenceOf after = some mine →
      (∃ old, fenceOf before = some old ∧ old.generation = mine.generation) ∨
        ∀ other ∈ executors, ∀ yours, fenceOf other = some yours →
          yours.generation ≠ mine.generation) :
    UniqueFences (executors.set index after) := by
  have against (second : Nat) (right : Option Executor) (apart : index ≠ second)
      (standing : executors[second]? = some right) (mine yours : Reservation)
      (hasMine : fenceOf after = some mine) (hasYours : fenceOf right = some yours) :
      mine.generation ≠ yours.generation := by
    intro same
    rcases newer mine hasMine with ⟨old, hasOld, sameOld⟩ | newest
    · exact apart (unique index second before right occupied standing old yours hasOld hasYours
        (sameOld.trans same))
    · exact newest right (List.mem_of_getElem? standing) yours hasYours same.symm
  have inside : index < executors.length := (List.getElem?_eq_some_iff.mp occupied).1
  intro first second left right atFirst atSecond mine yours hasMine hasYours same
  rw [List.getElem?_set] at atFirst atSecond
  by_cases firstIs : index = first
  · by_cases secondIs : index = second
    · exact firstIs.symm.trans secondIs
    · rw [if_pos firstIs, if_pos inside, Option.some.injEq] at atFirst
      rw [if_neg secondIs] at atSecond
      subst atFirst
      exact absurd same (against second right secondIs atSecond mine yours hasMine hasYours)
  · rw [if_neg firstIs] at atFirst
    by_cases secondIs : index = second
    · rw [if_pos secondIs, if_pos inside, Option.some.injEq] at atSecond
      subst atSecond
      exact absurd same.symm (against first left firstIs atFirst yours mine hasYours hasMine)
    · rw [if_neg secondIs] at atSecond
      exact unique first second left right atFirst atSecond mine yours hasMine hasYours same

section Preservation

variable {world : ExecWorld}

/-- The executor at `index` becomes `after`, whatever the rows become. -/
theorem creates_replace {index : Nat} {before : Option Executor}
    (occupied : world.executors[index]? = some before) (after : Option Executor)
    (rows : ClipRows) (submits : Nat) (less : standing after + submits ≤ standing before) :
    ExecWorld.creates
      { rows, executors := world.executors.set index after,
        submissions := world.submissions + submits } ≤ world.creates := by
  have moved := total_set standing occupied after
  simp only [ExecWorld.creates]
  omega

theorem FenceInvariant.drop (invariant : FenceInvariant world) {index : Nat}
    {before : Option Executor} (occupied : world.executors[index]? = some before)
    {after : Option Executor} (unfenced : fenceOf after = none) (idle : standing after = 0) :
    FenceInvariant { world with executors := world.executors.set index after } := by
  have less := creates_replace occupied after world.rows 0 (by rw [idle]; exact Nat.zero_le _)
  refine ⟨Nat.le_trans less invariant.once, ?_, invariant.fresh, ?_, ?_, ?_⟩
  · intro spent
    exact Nat.le_zero.mp (invariant.unspent spent ▸ less)
  · intro executor member reservation fenced
    rcases List.mem_or_eq_of_mem_set member with old | rfl
    · exact invariant.fenced executor old reservation fenced
    · rw [unfenced] at fenced
      cases fenced
  · apply UniqueFences.replace invariant.unique occupied
    intro mine fenced
    rw [unfenced] at fenced
    cases fenced
  · intro executor member request reservation standing slot stored current
    rcases List.mem_or_eq_of_mem_set member with old | rfl
    · exact invariant.marking executor old request reservation standing slot stored current
    · rw [standing] at unfenced
      cases unfenced

section Moves

variable {index : Nat} {request : ExecRequest} {phase next : ExecPhase} {rows : ClipRows}
  {slot written : ReplaySlot}

theorem FenceInvariant.stay (invariant : FenceInvariant world)
    (occupied : world.executors[index]? = some (some { request, phase })) {submits : Nat}
    (same : rows.slot = world.rows.slot) (fence : next.fence = none ∨ next.fence = phase.fence)
    (marking : next.isMarking = false) (standing : next.standing + submits ≤ phase.standing) :
    FenceInvariant
      { rows, executors := world.executors.set index (some { request, phase := next }),
        submissions := world.submissions + submits } := by
  have member := List.mem_of_getElem? occupied
  have less := creates_replace occupied (some { request, phase := next }) rows submits standing
  have inherited (reservation : Reservation) (fenced : next.fence = some reservation) :
      phase.fence = some reservation := by
    rcases fence with unfenced | kept
    · rw [unfenced] at fenced
      cases fenced
    · exact kept ▸ fenced
  refine ⟨Nat.le_trans less invariant.once, ?_, ?_, ?_, ?_, ?_⟩
  · intro spent
    rw [same] at spent
    exact Nat.le_zero.mp (invariant.unspent spent ▸ less)
  · rw [same]
    exact invariant.fresh
  · intro executor place reservation fenced
    rw [same]
    rcases List.mem_or_eq_of_mem_set place with old | rfl
    · exact invariant.fenced executor old reservation fenced
    · exact invariant.fenced _ member reservation (inherited reservation fenced)
  · apply UniqueFences.replace invariant.unique occupied
    intro mine fenced
    exact .inl ⟨mine, inherited mine fenced, rfl⟩
  · intro executor place other reservation standing slot stored current
    rw [same] at stored
    rcases List.mem_or_eq_of_mem_set place with old | rfl
    · exact invariant.marking executor old other reservation standing slot stored current
    · cases standing
      cases marking

section

variable (invariant : FenceInvariant world) (occupied : world.executors[index]? = some
  (some { request, phase })) (stored : world.rows.slot = some slot)
  (stores : rows.slot = some written)

include invariant occupied stored stores

theorem FenceInvariant.win (won : Won slot written next) :
    FenceInvariant
      { world with rows, executors := world.executors.set index (some { request, phase := next }) } := by
  have less := creates_replace occupied (some { request, phase := next }) rows 0
    (by simp only [standing, won.standing]; exact Nat.zero_le _)
  have older (executor : Option Executor) (place : executor ∈ world.executors)
      (reservation : Reservation) (fenced : fenceOf executor = some reservation) :
      reservation.generation < written.generation := by
    rcases invariant.fenced executor place reservation fenced with ⟨_, atSlot, _⟩
    rw [stored, Option.some.injEq] at atSlot
    subst atSlot
    rw [won.generation]
    omega
  refine ⟨Nat.le_trans less invariant.once, ?_, ?_, ?_, ?_, ?_⟩
  · intro spent
    have unspent : world.creates = 0 := by
      apply invariant.unspent
      intro held atSlot
      rw [stored, Option.some.injEq] at atSlot
      subst atSlot
      rcases won.origin with ⟨free, _⟩ | ⟨_, sameState, _⟩
      · exact .inr (invariant.fresh slot stored free).1
      · exact sameState ▸ spent written stores
    exact Nat.le_zero.mp (unspent ▸ less)
  · intro held atSlot free
    rw [stores, Option.some.injEq] at atSlot
    subst atSlot
    rw [won.active] at free
    cases free
  · intro executor place reservation fenced
    refine ⟨written, stores, ?_, by rw [won.active]; exact fun free => nomatch free⟩
    rcases List.mem_or_eq_of_mem_set place with old | rfl
    · exact Nat.le_of_lt (older executor old reservation fenced)
    · exact Nat.le_of_eq (won.fence reservation fenced)
  · apply UniqueFences.replace invariant.unique occupied
    intro mine fenced
    right
    intro other place yours hasYours same
    have bound := older other place yours hasYours
    rw [same, won.fence mine fenced] at bound
    exact Nat.lt_irrefl _ bound
  · intro executor place other reservation standing held atSlot current
    rw [stores, Option.some.injEq] at atSlot
    subst atSlot
    rcases List.mem_or_eq_of_mem_set place with old | rfl
    · have bound := older executor old reservation (by rw [standing]; rfl)
      rw [current] at bound
      exact absurd bound (Nat.lt_irrefl _)
    · cases standing
      exact won.marking rfl

theorem FenceInvariant.begin (started : Started slot written phase next) :
    FenceInvariant
      { world with rows, executors := world.executors.set index (some { request, phase := next }) } := by
  have member := List.mem_of_getElem? occupied
  rcases started.held with ⟨reservation, rfl, held⟩
  have active := heldBy_active held
  have notSubmitting := invariant.marking _ member request reservation rfl slot stored
    active.2.2.2.symm
  have reserved : slot.createState = .reserved := by
    rcases started.createState with reserved | submitting
    · exact reserved
    · exact absurd submitting notSubmitting
  have unspent : world.creates = 0 := by
    apply invariant.unspent
    intro other atSlot
    rw [stored, Option.some.injEq] at atSlot
    subst atSlot
    exact .inl reserved
  have moved := total_set standing occupied (some { request, phase := next })
  have atMost := next.standing_le
  have sameGeneration : written.generation = slot.generation := by rw [started.written]
  have stillActive : written.status = .active := by rw [started.written]; exact active.1
  refine ⟨?_, ?_, ?_, ?_, ?_, ?_⟩
  · simp only [ExecWorld.creates, standing] at unspent moved ⊢
    omega
  · intro spent
    have state := spent written stores
    rw [started.written] at state
    simp at state
  · intro other atSlot free
    rw [stores, Option.some.injEq] at atSlot
    subst atSlot
    rw [stillActive] at free
    cases free
  · intro executor place other fenced
    refine ⟨written, stores, ?_, by rw [stillActive]; exact fun free => nomatch free⟩
    rw [sameGeneration]
    rcases List.mem_or_eq_of_mem_set place with old | rfl
    · rcases invariant.fenced executor old other fenced with ⟨_, atSlot, bound, _⟩
      rw [stored, Option.some.injEq] at atSlot
      subst atSlot
      exact bound
    · exact Nat.le_of_eq (started.fence other fenced)
  · apply UniqueFences.replace invariant.unique occupied
    intro mine fenced
    exact .inl ⟨reservation, rfl, active.2.2.2.symm.trans (started.fence mine fenced).symm⟩
  · intro executor place other mine standing found atSlot current
    rw [stores, Option.some.injEq] at atSlot
    subst atSlot
    rw [sameGeneration] at current
    rcases List.mem_iff_getElem?.mp place with ⟨position, atPosition⟩
    rw [List.getElem?_set] at atPosition
    by_cases here : index = position
    · rw [if_pos here] at atPosition
      split at atPosition
      · rw [Option.some.injEq] at atPosition
        subst atPosition
        cases standing
        exact nomatch started.marking
      · cases atPosition
    · rw [if_neg here] at atPosition
      refine absurd ?_ here
      exact invariant.unique index position _ executor occupied atPosition reservation mine
        rfl (by rw [standing]; rfl) (active.2.2.2.symm.trans current.symm)

theorem FenceInvariant.settle (settled : Settled slot written next) :
    FenceInvariant
      { world with rows, executors := world.executors.set index (some { request, phase := next }) } := by
  have less := creates_replace occupied (some { request, phase := next }) rows 0
    (by simp only [standing, settled.standing]; exact Nat.zero_le _)
  refine ⟨Nat.le_trans less invariant.once, ?_, ?_, ?_, ?_, ?_⟩
  · intro spent
    rcases spent written stores with reserved | absent
    · exact absurd reserved settled.createState.2.2.1
    · exact absurd absent settled.createState.2.2.2.1
  · intro other atSlot free
    rw [stores, Option.some.injEq] at atSlot
    subst atSlot
    exact absurd free settled.status
  · intro executor place other fenced
    refine ⟨written, stores, ?_, settled.status⟩
    rw [settled.generation]
    rcases List.mem_or_eq_of_mem_set place with old | rfl
    · rcases invariant.fenced executor old other fenced with ⟨_, atSlot, bound, _⟩
      rw [stored, Option.some.injEq] at atSlot
      subst atSlot
      exact bound
    · rw [show fenceOf (some { request, phase := next }) = none from settled.fence] at fenced
      cases fenced
  · apply UniqueFences.replace invariant.unique occupied
    intro mine fenced
    rw [show fenceOf (some { request, phase := next }) = none from settled.fence] at fenced
    cases fenced
  · intro executor place other mine standing found atSlot current
    rw [stores, Option.some.injEq] at atSlot
    subst atSlot
    exact settled.createState.2.2.2.2

end

end Moves

theorem FenceInvariant.move (invariant : FenceInvariant world) {index : Nat}
    {request : ExecRequest} {phase next : ExecPhase} {rows : ClipRows} {submits : Nat}
    (occupied : world.executors[index]? = some (some { request, phase }))
    (move : ExecMove world.rows.slot rows.slot phase next submits) :
    FenceInvariant
      { rows, executors := world.executors.set index (some { request, phase := next }),
        submissions := world.submissions + submits } := by
  cases move with
  | stays same fence marking standing =>
    exact invariant.stay occupied same fence marking standing
  | won stored stores won submits => exact submits ▸ invariant.win occupied stored stores won
  | started stored stores started submits =>
    exact submits ▸ invariant.begin occupied stored stores started
  | settled stored stores settled submits =>
    exact submits ▸ invariant.settle occupied stored stores settled

theorem FenceInvariant.timeOut (invariant : FenceInvariant world) (now : Int) :
    FenceInvariant { world with rows := releaseTimedOut now world.rows } := by
  rcases releaseTimedOut_slot world.rows now with same | ⟨slot, stored, active, stores⟩
  · rw [same]
    exact invariant
  · refine ⟨invariant.once, ?_, ?_, ?_, invariant.unique, ?_⟩
    · intro spent
      apply invariant.unspent
      intro other atSlot
      rw [stored, Option.some.injEq] at atSlot
      subst atSlot
      have written := spent _ stores
      exact written
    · intro other atSlot free
      rw [stores, Option.some.injEq] at atSlot
      subst atSlot
      cases free
    · intro executor place reservation fenced
      rcases invariant.fenced executor place reservation fenced with ⟨_, atSlot, bound, _⟩
      rw [stored, Option.some.injEq] at atSlot
      subst atSlot
      exact ⟨_, stores, bound, fun free => nomatch free⟩
    · intro executor place request reservation standing other atSlot current
      rw [stores, Option.some.injEq] at atSlot
      subst atSlot
      exact invariant.marking executor place request reservation standing slot stored current

end Preservation

/-- An executor begins, crashes or makes a call, or the slot times out. -/
inductive WorldMove (world : ExecWorld) : ExecWorld → Prop
  | replaced {index before after} (occupied : world.executors[index]? = some before)
      (unfenced : fenceOf after = none) (idle : standing after = 0) :
      WorldMove world { world with executors := world.executors.set index after }
  | moved {index request phase next rows submits}
      (occupied : world.executors[index]? = some (some { request, phase }))
      (move : ExecMove world.rows.slot rows.slot phase next submits) :
      WorldMove world
        { rows, executors := world.executors.set index (some { request, phase := next }),
          submissions := world.submissions + submits }
  | timedOut (now : Int) : WorldMove world { world with rows := releaseTimedOut now world.rows }

variable {label : ExecWorldLabel}

theorem execWorldStep_move {world next : ExecWorld}
    (step : execMachine.step world label = some next) : WorldMove world next := by
  cases label with
  | start | crash =>
    simp only [execMachine, execWorldStep] at step
    split at step
    · rename_i occupied
      cases step
      exact .replaced occupied rfl rfl
    · cases step
  | run index label =>
    simp only [execMachine, execWorldStep] at step
    split at step
    · rename_i occupied
      split at step
      · rename_i moved
        cases step
        exact .moved occupied (execStep_move moved)
      · cases step
    · cases step
  | releaseTimedOut now =>
    cases step
    exact .timedOut now

theorem fenceInvariant_invariant : execMachine.Invariant FenceInvariant where
  initially := by
    intro world initial
    rcases initial with ⟨fresh, idle, none⟩
    have unfenced (executor : Option Executor) (place : executor ∈ world.executors) :
        fenceOf executor = Option.none := by
      rw [idle executor place]
      rfl
    have quiet : total standing world.executors = 0 := by
      apply List.sum_eq_zero
      intro amount place
      rcases List.mem_map.mp place with ⟨executor, inside, rfl⟩
      rw [idle executor inside]
      rfl
    have nothing : world.creates = 0 := by
      simp only [ExecWorld.creates, none, quiet]
    refine ⟨by omega, fun _ => nothing, ?_, ?_, ?_, ?_⟩
    · intro slot stored _
      simp only [ClipRows.slot, Option.map_eq_some_iff] at stored
      rcases stored with ⟨task, inside, rfl⟩
      exact (fresh task inside).2
    · intro executor place reservation fenced
      rw [unfenced executor place] at fenced
      cases fenced
    · intro first second left right atFirst _ mine yours hasMine
      rw [unfenced left (List.mem_of_getElem? atFirst)] at hasMine
      cases hasMine
    · intro executor place request reservation standing
      rw [idle executor place] at standing
      cases standing
  preserved := by
    intro world label next _ invariant step
    cases execWorldStep_move step with
    | replaced occupied unfenced idle => exact invariant.drop occupied unfenced idle
    | moved occupied move => exact invariant.move occupied move
    | timedOut now => exact invariant.timeOut now

/-! ## The job of the slot -/

def ClipRows.replayJob (rows : ClipRows) : Option String := rows.slot.bind (·.jobId)

/-- A call that was made under the reservation got past its fence: it was told so, or
its statement took effect. -/
def Effective (rows : ClipRows) (result : ClipRows × Bool) : Prop :=
  result.2 = true ∨ result.1 ≠ rows

/-- The reservation passes one of the statements that are fenced by it. -/
inductive PassesFence (rows : ClipRows) (reservation : Reservation) : Prop
  | start (effective : Effective rows (markCreateStarted rows reservation))
  | commit (now : Int) (request : CommitRequest)
      (effective : Effective rows (commitHandoff now rows reservation request))
  | leaveUncertain (reason : String)
      (effective : Effective rows (markCreateUncertain rows reservation reason))
  | abort (now : Int) (reason : String)
      (effective : Effective rows (abortCreate now rows reservation reason))

theorem Effective.not_missed {rows : ClipRows} {result : ClipRows × Bool}
    (effective : Effective rows result) : ¬(result.1 = rows ∧ result.2 = false) := by
  rintro ⟨same, refused⟩
  rcases effective with told | written
  · rw [refused] at told
    cases told
  · exact written same

theorem PassesFence.held {rows : ClipRows} {reservation : Reservation}
    (passes : PassesFence rows reservation) :
    ∃ slot, rows.slot = some slot ∧ slot.heldBy reservation = true := by
  cases passes with
  | start effective =>
    rcases markCreateStarted_slot rows reservation with missed | ⟨slot, stored, admits, _⟩
    · exact absurd missed effective.not_missed
    · exact ⟨slot, stored, admits.1⟩
  | commit now request effective =>
    rcases commitHandoff_slot rows now reservation request with missed | ⟨slot, stored, admits, _⟩
    · exact absurd missed effective.not_missed
    · exact ⟨slot, stored, admits.1⟩
  | leaveUncertain reason effective =>
    rcases markCreateUncertain_slot rows reservation reason with
      missed | ⟨slot, stored, admits, _⟩
    · exact absurd missed effective.not_missed
    · exact ⟨slot, stored, admits.1⟩
  | abort now reason effective =>
    rcases abortCreate_slot rows now reservation reason with missed | ⟨slot, stored, admits, _⟩
    · exact absurd missed effective.not_missed
    · exact ⟨slot, stored, admits.1⟩

theorem PassesFence.agree {rows : ClipRows} {mine yours : Reservation}
    (mineP : PassesFence rows mine) (yoursP : PassesFence rows yours) :
    mine.owner = yours.owner ∧ mine.token = yours.token ∧
      mine.generation = yours.generation := by
  rcases mineP.held with ⟨_, stored, heldByMine⟩
  rcases yoursP.held with ⟨_, storedToo, heldByYours⟩
  rw [stored, Option.some.injEq] at storedToo
  subst storedToo
  have first := heldBy_active heldByMine
  have second := heldBy_active heldByYours
  exact ⟨first.2.1.symm.trans second.2.1, first.2.2.1.symm.trans second.2.2.1,
    first.2.2.2.symm.trans second.2.2.2⟩

variable {job : String}

theorem ClipRows.slot_of_replayJob {rows : ClipRows} (known : rows.replayJob = some job) :
    ∃ slot, rows.slot = some slot ∧ slot.jobId = some job := by
  simp only [ClipRows.replayJob, Option.bind_eq_some_iff] at known
  exact known

theorem ExecMove.replayJob {before after : ClipRows} {phase next : ExecPhase} {submits : Nat}
    (move : ExecMove before.slot after.slot phase next submits)
    (fresh : ∀ slot, before.slot = some slot → slot.status = .absent → slot.jobId = none)
    (known : before.replayJob = some job) : after.replayJob = some job := by
  rcases before.slot_of_replayJob known with ⟨_, atSlot, hasJob⟩
  cases move with
  | stays same =>
    simp only [ClipRows.replayJob, same]
    exact known
  | @won slot _ stored stores won =>
    rw [stored, Option.some.injEq] at atSlot
    subst atSlot
    simp only [ClipRows.replayJob, stores, Option.bind_some]
    rcases won.origin with ⟨free, _⟩ | ⟨_, _, sameJob⟩
    · rw [fresh slot stored free] at hasJob
      cases hasJob
    · exact sameJob.trans hasJob
  | @started _ _ stored stores started =>
    rw [stored, Option.some.injEq] at atSlot
    subst atSlot
    simp only [ClipRows.replayJob, stores, Option.bind_some, started.written]
    exact hasJob
  | @settled _ _ stored stores settled =>
    rw [stored, Option.some.injEq] at atSlot
    subst atSlot
    simp only [ClipRows.replayJob, stores, Option.bind_some]
    exact settled.job job hasJob

theorem releaseTimedOut_replayJob {rows : ClipRows} {now : Int}
    (known : rows.replayJob = some job) : (releaseTimedOut now rows).replayJob = some job := by
  rcases releaseTimedOut_slot rows now with same | ⟨slot, stored, _, stores⟩
  · rw [same]
    exact known
  · simp only [ClipRows.replayJob, stored, Option.bind_some] at known
    simp only [ClipRows.replayJob, stores, Option.bind_some]
    exact known

theorem execWorldStep_replayJob {world next : ExecWorld} (reached : execMachine.Reachable world)
    (step : execMachine.step world label = some next) (known : world.rows.replayJob = some job) :
    next.rows.replayJob = some job := by
  have invariant := fenceInvariant_invariant.holds reached
  have fresh (slot : ReplaySlot) (stored : world.rows.slot = some slot)
      (free : slot.status = .absent) : slot.jobId = none := (invariant.fresh slot stored free).2
  cases execWorldStep_move step with
  | replaced => exact known
  | moved _ move => exact move.replayJob fresh known
  | timedOut => exact releaseTimedOut_replayJob known

def KeepsJob (before after : ExecWorld) : Prop :=
  ∀ job, before.rows.replayJob = some job → after.rows.replayJob = some job

theorem execRun_keepsJob {world final : ExecWorld} {labels : List ExecWorldLabel}
    (reached : execMachine.Reachable world) (ran : execMachine.run world labels = some final) :
    KeepsJob world final := by
  apply Machine.run_relation _ _ _ reached ran
  · exact fun _ _ known => known
  · exact fun _ _ _ first second job known => second job (first job known)
  · exact fun _ _ _ reached step job known => execWorldStep_replayJob reached step known

/-- One create at most, one holder of the fence, and one job for good. -/
theorem replay_create_fenced {world : ExecWorld} (reached : execMachine.Reachable world) :
    world.submissions ≤ 1 ∧
    (∀ mine yours, PassesFence world.rows mine → PassesFence world.rows yours →
      mine.owner = yours.owner ∧ mine.token = yours.token ∧ mine.generation = yours.generation) ∧
    (∀ (first second : Nat) left right mine yours,
      world.executors[first]? = some left → world.executors[second]? = some right →
      fenceOf left = some mine → fenceOf right = some yours →
      PassesFence world.rows mine → PassesFence world.rows yours → first = second) ∧
    ∀ labels final, execMachine.run world labels = some final →
      ∀ job, world.rows.replayJob = some job → final.rows.replayJob = some job := by
  have invariant := fenceInvariant_invariant.holds reached
  refine ⟨?_, fun _ _ mine yours => mine.agree yours, ?_,
    fun _ _ ran => execRun_keepsJob reached ran⟩
  · have once := invariant.once
    simp only [ExecWorld.creates] at once
    omega
  · intro first second left right mine yours atFirst atSecond hasMine hasYours mineP yoursP
    exact invariant.unique first second left right atFirst atSecond mine yours hasMine hasYours
      (mineP.agree yoursP).2.2

/-- The generation of a slot does not fall. -/
def NotOlder (before after : Option ReplaySlot) : Prop :=
  ∀ slot ∈ before, ∃ later ∈ after, slot.generation ≤ later.generation

theorem ExecMove.notOlder {before after : Option ReplaySlot} {phase next : ExecPhase}
    {submits : Nat} (move : ExecMove before after phase next submits) :
    NotOlder before after := by
  rintro slot found
  cases move with
  | stays same => exact ⟨slot, same ▸ found, Nat.le_refl _⟩
  | won stored stores won =>
    cases stored.symm.trans found
    exact ⟨_, stores, won.generation ▸ Nat.le_succ _⟩
  | started stored stores started =>
    cases stored.symm.trans found
    exact ⟨_, stores, started.written ▸ Nat.le_refl _⟩
  | settled stored stores settled =>
    cases stored.symm.trans found
    exact ⟨_, stores, settled.generation ▸ Nat.le_refl _⟩

theorem execWorldStep_notOlder {world next : ExecWorld}
    (step : execMachine.step world label = some next) :
    NotOlder world.rows.slot next.rows.slot := by
  cases execWorldStep_move step with
  | replaced => exact fun slot found => ⟨slot, found, Nat.le_refl _⟩
  | moved _ move => exact move.notOlder
  | timedOut now =>
    intro slot found
    rcases releaseTimedOut_slot world.rows now with same | ⟨other, stored, _, stores⟩
    · exact ⟨slot, (congrArg ClipRows.slot same).trans found, Nat.le_refl _⟩
    · cases stored.symm.trans found
      exact ⟨_, stores, Nat.le_refl _⟩

theorem execRun_notOlder {world final : ExecWorld} {labels : List ExecWorldLabel}
    (ran : execMachine.run world labels = some final) :
    NotOlder world.rows.slot final.rows.slot := by
  refine Machine.run_keeps ?_ (fun slot found => ⟨slot, found, Nat.le_refl _⟩) ran
  intro current label next before step slot found
  rcases before slot found with ⟨middle, isMiddle, atMost⟩
  rcases execWorldStep_notOlder step middle isMiddle with ⟨later, isLater, atLeast⟩
  exact ⟨later, isLater, Nat.le_trans atMost atLeast⟩

/-- The generation of the slot never falls, and once it is past a reservation, the reservation
passes no fence any more. -/
theorem superseded_never_passes {world final : ExecWorld} {labels : List ExecWorldLabel}
    (ran : execMachine.run world labels = some final) :
    NotOlder world.rows.slot final.rows.slot ∧
    ∀ slot reservation, world.rows.slot = some slot →
      reservation.generation < slot.generation → ¬PassesFence final.rows reservation := by
  refine ⟨execRun_notOlder ran, fun slot reservation stored superseded passes => ?_⟩
  rcases passes.held with ⟨_, isCurrent, held⟩
  rcases execRun_notOlder ran slot stored with ⟨_, isLater, _⟩
  cases isCurrent.symm.trans isLater
  have same := (heldBy_active held).2.2.2
  omega

def freshReplayTask : ClipTask where
  lifecycle := { sampleTask with
    status := "materialization_pending", materializationStatus := .pending, owner := .replay }
  imageOnly := false
  slot :=
    { status := .absent, owner := "", token := "", generation := 0, createState := .absent,
      planHash := "", jobId := none, resultingStreamId := none, deliveryId := "",
      shardId := none, deadlineAt := none, releaseReason := none }

def freshReplayRows : ClipRows where
  task := some freshReplayTask
  event := some { mediaStatus := "pending", media := [] }

def sampleRequest (owner : String) (reclaimed : Bool) : ExecRequest where
  owner
  slotToken := "token"
  planHash := "plan"
  deliveryId := "1-0"
  reclaimed
  sourceId := "camera"
  shardId := "shard"
  timeout := 60
  resultingStreamId := "stream"

def idleExecutors (count : Nat) : ExecWorld where
  rows := freshReplayRows
  executors := List.replicate count none
  submissions := 0

theorem idleExecutors_initial (count : Nat) : execMachine.initial (idleExecutors count) := by
  refine ⟨?_, fun _ member => List.eq_of_mem_replicate member, rfl⟩
  rintro task ⟨⟩
  exact ⟨rfl, rfl, rfl⟩

/-- The first executor crashes after its create was sent, and the second one recovers it. -/
def recoveredCreate : List ExecWorldLabel :=
  [.start 0 (sampleRequest "first" false), .run 0 (.load .completes),
    .run 0 (.acquire 0 none .completes), .run 0 (.markSubmitting .completes),
    .run 0 (.submit (.created "job" "")), .crash 0,
    .start 1 (sampleRequest "second" true), .run 1 (.load .completes),
    .run 1 (.takeOver .completes), .run 1 (.recover (some ("job", ""))),
    .run 1 (.commit 1 .completes)]

theorem recovered_create_is_fenced :
    ∃ world, execMachine.run (idleExecutors 2) recoveredCreate = some world ∧
      world.submissions = 1 ∧ world.rows.replayJob = some "job" ∧
      ∀ labels final, execMachine.run world labels = some final →
        final.rows.replayJob = some "job" := by
  have ran : (execMachine.run (idleExecutors 2) recoveredCreate).map
      (fun world => (world.submissions, world.rows.replayJob)) = some (1, some "job") := by
    decide +kernel
  rcases Option.map_eq_some_iff.mp ran with ⟨world, final, shows⟩
  have reached := (Machine.Reachable.start (idleExecutors_initial 2)).run final
  rw [Prod.mk.injEq] at shows
  refine ⟨world, final, shows.1, shows.2, ?_⟩
  intro labels last continues
  exact (replay_create_fenced reached).2.2.2 labels last continues "job" shows.2

/-- The reservation of the crashed executor, once the second one has taken the slot over. -/
theorem crashed_never_passes :
    ∃ world, execMachine.run (idleExecutors 2) (recoveredCreate.take 9) = some world ∧
      ∀ labels final reservation, execMachine.run world labels = some final →
        reservation.generation = 1 → ¬PassesFence final.rows reservation := by
  have ran : ((execMachine.run (idleExecutors 2) (recoveredCreate.take 9)).bind
      (·.rows.slot)).map (·.generation) = some 2 := by
    decide +kernel
  rcases Option.map_eq_some_iff.mp ran with ⟨slot, found, _⟩
  rcases Option.bind_eq_some_iff.mp found with ⟨world, reached, stored⟩
  refine ⟨world, reached, fun labels final reservation continues first => ?_⟩
  exact (superseded_never_passes continues).2 slot reservation stored (by omega)

end VideoAnalysis.Clip
