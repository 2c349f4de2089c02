import VideoAnalysis.Clip.ReplayFence

/-! # Recovery of a submitted create

A reclaimed delivery takes the slot over, finds the job of the create that was sent
and commits it. The commit admits a create that is submitting, but not one that an
earlier delivery has marked uncertain.
-/

namespace VideoAnalysis.Clip

open Foundation

theorem execWorldStep_run {world next : ExecWorld} {index : Nat} {executor : Executor}
    {label : ExecLabel} (occupied : world.executors[index]? = some (some executor))
    (step : execMachine.step world (.run index label) = some next) :
    ∃ phase, execStep executor.request world.rows executor.phase label =
        some (next.rows, phase) ∧
      next.executors[index]? = some (some { executor with phase }) := by
  have inside : index < world.executors.length := (List.getElem?_eq_some_iff.mp occupied).1
  simp only [execMachine, execWorldStep, occupied] at step
  split at step
  · rename_i rows phase moved
    cases step
    exact ⟨phase, moved, List.getElem?_set_self inside⟩
  · cases step

theorem takenOverPhase_recovering {answered : Option Reservation} {winner : Reservation}
    (recovers : takenOverPhase answered = .recovering winner) : answered = some winner := by
  cases answered with
  | none => cases recovers
  | some =>
    simp only [takenOverPhase] at recovers
    split at recovers
    · cases recovers
      rfl
    · cases recovers

theorem takeoverSlot_event {rows : ClipRows} {owner deliveryId : String}
    {expected winner : Reservation}
    (won : (takeoverSlot rows owner deliveryId expected).2 = some winner) :
    (takeoverSlot rows owner deliveryId expected).1.event.isSome = true := by
  simp only [takeoverSlot] at won ⊢
  split at won
  · cases won
  · rename_i named
    rw [if_neg named]
    rcases casTask_cases rows (canTakeOver expected)
      (fun task => { task with slot := takenOverSlot task.slot owner deliveryId }) _ with
      missed | ⟨task, stored, holds, written⟩
    · rw [missed] at won
      cases won
    · rw [written] at won ⊢
      simp only [Option.bind_some] at won
      split at won
      · rename_i present
        rw [Option.isSome_map]
        exact present
      · cases won

theorem commitHandoff_succeeds {rows : ClipRows} {now : Int} {reservation : Reservation}
    {request : CommitRequest} (named : request.jobId ≠ "")
    (present : rows.event.isSome = true) {slot : ReplaySlot}
    (stored : rows.slot = some slot) :
    (commitHandoff now rows reservation request).2 = true ↔
      slot.heldBy reservation = true ∧ slot.planHash = reservation.planHash ∧
        (slot.createState = .submitting ∨ slot.createState = .committed) ∧
        (slot.jobId = none ∨ slot.jobId = some request.jobId) := by
  rcases Option.map_eq_some_iff.mp stored with ⟨task, atTask, rfl⟩
  simp only [commitHandoff, if_neg named, casTask, atTask, present, Bool.true_and]
  cases granted : canCommit reservation request task with
  | true =>
    simp only [canCommit, Bool.and_eq_true, decide_eq_true_eq] at granted
    simp only [if_true, Option.isSome_some, true_iff]
    exact granted
  | false =>
    simp only [canCommit, Bool.and_eq_false_iff, decide_eq_false_iff_not] at granted
    simp only [Bool.false_eq_true, if_false, Option.isSome_none, false_iff]
    rintro ⟨held, states⟩
    rcases granted with notHeld | refused
    · rw [held] at notHeld
      cases notHeld
    · exact refused states

/-- The delivery at `index` alone: it loads the slot, takes it over, finds the job and
commits it. -/
def recoveryRun (index : Nat) (job : String × String) (now : Int) : List ExecWorldLabel :=
  [.run index (.load .completes), .run index (.takeOver .completes),
    .run index (.recover (some job)), .run index (.commit now .completes)]

def Executor.acknowledged (executor : Executor) : Bool :=
  match executor.phase with
  | .finished outcome => outcome.shouldAck
  | _ => false

/-- The row holds the job for good, and the delivery is acknowledged. -/
def CommittedJob (world : ExecWorld) (index : Nat) (jobId : String) : Prop :=
  (∃ slot, world.rows.slot = some slot ∧ slot.createState = .committed ∧
    slot.jobId = some jobId) ∧
  ∃ executor, world.executors[index]? = some (some executor) ∧ executor.acknowledged = true

/-- What the delivery holds once it has won the takeover and found the job. -/
structure Recovering (world : ExecWorld) (index : Nat) (slot : ReplaySlot) (jobId : String)
    (executor : Executor) (stream : String) : Prop where
  occupied : world.executors[index]? = some (some executor)
  phase : executor.phase =
    .committing (slot.reservation true "replay_slot_taken_over") jobId stream
  stored : world.rows.slot = some slot
  event : world.rows.event.isSome = true
  named : jobId ≠ ""

theorem recoveryRun_wins {world final : ExecWorld} {index : Nat} {executor : Executor}
    {slot : ReplaySlot} {job : String × String} {now : Int}
    (occupied : world.executors[index]? = some (some executor))
    (loading : executor.phase = .loading) (stored : world.rows.slot = some slot)
    (ran : execMachine.run world (recoveryRun index job now) = some final) :
    ∃ middle winner stream,
      Recovering middle index
        (takenOverSlot slot executor.request.owner executor.request.deliveryId) job.1 winner
        stream ∧
      slot.status = .active ∧
      execMachine.step middle (.run index (.commit now .completes)) = some final := by
  rcases execMachine.run_cons_eq_some.mp ran with ⟨loaded, first, ran⟩
  rcases execMachine.run_cons_eq_some.mp ran with ⟨won, second, ran⟩
  rcases execMachine.run_cons_eq_some.mp ran with ⟨found, third, ran⟩
  rcases execMachine.run_cons_eq_some.mp ran with ⟨last, fourth, ran⟩
  rw [Machine.run_nil, Option.some.injEq] at ran
  subst ran
  rcases execWorldStep_run occupied first with ⟨afterLoad, loads, atLoad⟩
  rcases execWorldStep_run atLoad second with ⟨afterTake, takes, atTake⟩
  rcases execWorldStep_run atTake third with ⟨afterFind, finds, atFind⟩
  rw [loading] at loads
  simp only [execStep, Option.some.injEq, Prod.mk.injEq] at loads
  rcases loads with ⟨sameRows, rfl⟩
  rw [← sameRows] at takes
  cases seenPhase : loadedPhase executor.request
      (Answer.completes.apply world.rows (world.rows, loadSlot world.rows) none).2 with
  | takingOver seen =>
    rw [seenPhase] at takes
    simp only [execStep, Answer.apply, Option.some.injEq, Prod.mk.injEq] at takes
    rcases takes with ⟨wonRows, rfl⟩
    cases wonPhase : takenOverPhase (takeoverSlot world.rows executor.request.owner
        executor.request.deliveryId seen).2 with
    | recovering winner =>
      have answered := takenOverPhase_recovering wonPhase
      simp only [wonPhase, execStep] at finds
      split at finds
      · cases finds
      · rename_i named
        simp only [Option.some.injEq, Prod.mk.injEq] at finds
        rcases finds with ⟨foundRows, rfl⟩
        have event := takeoverSlot_event answered
        rcases takeoverSlot_slot world.rows executor.request.owner
            executor.request.deliveryId seen with
          ⟨_, lost⟩ | ⟨held, atSlot, active, _, stores, granted⟩
        · rw [lost] at answered
          cases answered
        · rw [stored, Option.some.injEq] at atSlot
          subst atSlot
          rw [wonRows, foundRows] at stores event
          have won := granted winner answered
          subst won
          exact ⟨found, _, _, ⟨atFind, rfl, stores, event, named⟩, active, fourth⟩
    | _ =>
      rw [wonPhase] at finds
      cases finds
  | _ =>
    rw [seenPhase] at takes
    cases takes

theorem Recovering.commits_iff {world final : ExecWorld} {index : Nat} {slot : ReplaySlot}
    {jobId : String} {executor : Executor} {stream : String} {now : Int}
    (recovering : Recovering world index slot jobId executor stream)
    (active : slot.status = .active) (unset : slot.jobId = none)
    (step : execMachine.step world (.run index (.commit now .completes)) = some final) :
    CommittedJob final index jobId ↔
      slot.createState = .submitting ∨ slot.createState = .committed := by
  rcases execWorldStep_run recovering.occupied step with ⟨_, moved, atLast⟩
  rw [recovering.phase] at moved
  simp only [execStep, Answer.apply, Option.some.injEq, Prod.mk.injEq] at moved
  rcases moved with ⟨writes, rfl⟩
  have succeeds := @commitHandoff_succeeds world.rows now
    (slot.reservation true "replay_slot_taken_over")
    { jobId, resultingStreamId := stream, shardId := executor.request.shardId }
    recovering.named recovering.event slot recovering.stored
  have held : slot.heldBy (slot.reservation true "replay_slot_taken_over") = true :=
    decide_eq_true ⟨active, rfl, rfl, rfl⟩
  constructor
  · rintro ⟨_, last, atIndex, acknowledged⟩
    rw [atLast, Option.some.injEq, Option.some.injEq] at atIndex
    subst atIndex
    exact (succeeds.mp ((Bool.and_eq_true _ _).mp acknowledged).1).2.2.1
  · intro state
    have told := succeeds.mpr ⟨held, rfl, state, .inl unset⟩
    refine ⟨?_, _, atLast, ?_⟩
    · rcases commitHandoff_slot world.rows now
          (slot.reservation true "replay_slot_taken_over")
          { jobId, resultingStreamId := stream, shardId := executor.request.shardId } with
        ⟨_, refused⟩ | ⟨_, _, _, stores⟩
      · rw [told] at refused
        cases refused
      · rw [writes] at stores
        exact ⟨_, stores, rfl, rfl⟩
    · simp only [Executor.acknowledged, ProcessingOutcome.shouldAck, persistedOutcome, told,
        Bool.and_self]

/-- A recovered job is committed exactly if no delivery has marked the create uncertain. -/
theorem recovered_job_is_committed_iff {world final : ExecWorld} {index : Nat}
    {executor : Executor} {slot : ReplaySlot} {job : String × String} {now : Int}
    (occupied : world.executors[index]? = some (some executor))
    (loading : executor.phase = .loading) (stored : world.rows.slot = some slot)
    (unset : slot.jobId = none)
    (unresolved : slot.createState = .submitting ∨ slot.createState = .uncertain)
    (ran : execMachine.run world (recoveryRun index job now) = some final) :
    CommittedJob final index job.1 ↔ slot.createState = .submitting := by
  rcases recoveryRun_wins occupied loading stored ran with ⟨_, _, _, recovering, active, commits⟩
  have commitsIff := recovering.commits_iff active unset commits
  have sameState : (takenOverSlot slot executor.request.owner
      executor.request.deliveryId).createState = slot.createState := rfl
  rw [commitsIff, sameState]
  constructor
  · rintro (submitting | committed)
    · exact submitting
    · rcases unresolved with submitting | uncertain
      · exact submitting
      · rw [uncertain] at committed
        cases committed
  · exact .inl

/-- A first delivery sends its create and leaves it, crashed or with the create marked
uncertain; a second delivery of the same entry begins. -/
def leftCreate (submission : Option String) : List ExecWorldLabel :=
  [.start 0 (sampleRequest "first" false), .run 0 (.load .completes),
    .run 0 (.acquire 0 none .completes), .run 0 (.markSubmitting .completes)] ++
  (match submission with
    | none => [.crash 0]
    | some reason =>
      [.run 0 (.submit (.uncertain reason)), .run 0 (.markUncertain .completes)]) ++
  [.start 1 (sampleRequest "second" true)]

theorem crashed_create_is_recovered :
    ∃ world final, execMachine.run (idleExecutors 2) (leftCreate none) = some world ∧
      execMachine.run world (recoveryRun 1 ("job", "") 1) = some final ∧
      CommittedJob final 1 "job" := by
  have facts : (execMachine.run (idleExecutors 2) (leftCreate none)).bind (fun world =>
      (execMachine.run world (recoveryRun 1 ("job", "") 1)).map fun _ =>
        (world.executors[1]?, world.rows.slot.map fun slot => (slot.jobId, slot.createState))) =
      some (some (some { request := sampleRequest "second" true, phase := .loading }),
        some (none, .submitting)) := by
    decide +kernel
  rcases Option.bind_eq_some_iff.mp facts with ⟨world, left, rest⟩
  rcases Option.map_eq_some_iff.mp rest with ⟨final, ran, shows⟩
  rw [Prod.mk.injEq] at shows
  rcases Option.map_eq_some_iff.mp shows.2 with ⟨_, stored, columns⟩
  rw [Prod.mk.injEq] at columns
  have commits := recovered_job_is_committed_iff shows.1 rfl stored columns.1
    (.inl columns.2) ran
  exact ⟨world, final, left, ran, commits.mpr columns.2⟩

def uncertainSlot : ReplaySlot :=
  { freshReplayTask.slot with
    status := .active, owner := "first", token := "token", generation := 1,
    createState := .uncertain, planHash := "plan", deliveryId := "1-0",
    shardId := some "shard", deadlineAt := some 60 }

/-- The second delivery does all that a recovery needs, and its job is not committed. -/
theorem uncertain_create_is_not_recovered :
    ∃ world final slot, execMachine.Reachable world ∧
      world.executors[1]? =
        some (some { request := sampleRequest "second" true, phase := .loading }) ∧
      world.rows.slot = some slot ∧ slot.status = .active ∧ slot.jobId = none ∧
      slot.createState = .uncertain ∧ slot.token = (sampleRequest "second" true).slotToken ∧
      slot.planHash = (sampleRequest "second" true).planHash ∧
      world.rows.event.isSome = true ∧
      execMachine.run world (recoveryRun 1 ("job", "") 1) = some final ∧
      ¬CommittedJob final 1 "job" := by
  have before : (execMachine.run (idleExecutors 2) (leftCreate (some "timeout"))).map
      (fun world => (world.executors[1]?, world.rows.slot, world.rows.event.isSome)) =
      some (some (some { request := sampleRequest "second" true, phase := .loading }),
        some uncertainSlot, true) := by
    decide +kernel
  have after : (execMachine.run (idleExecutors 2) (leftCreate (some "timeout"))).bind
      (fun world => (execMachine.run world (recoveryRun 1 ("job", "") 1)).map fun final =>
        final.executors[1]?.map fun executor => executor.map Executor.acknowledged) =
      some (some (some false)) := by
    decide +kernel
  rcases Option.map_eq_some_iff.mp before with ⟨world, left, shows⟩
  rw [left, Option.bind_some] at after
  rcases Option.map_eq_some_iff.mp after with ⟨final, ran, refused⟩
  simp only [Prod.mk.injEq] at shows
  rcases shows with ⟨occupied, stored, present⟩
  have reached := (Machine.Reachable.start (idleExecutors_initial 2)).run left
  refine ⟨world, final, uncertainSlot, reached, occupied, stored, rfl, rfl, rfl, rfl, rfl,
    present, ran, ?_⟩
  rintro ⟨_, executor, atIndex, acknowledged⟩
  rw [atIndex] at refused
  simp only [Option.map_some, Option.some.injEq] at refused
  rw [acknowledged] at refused
  cases refused

end VideoAnalysis.Clip
