import VideoAnalysis.Clip.RowWrites

/-! # Outcomes of competing deliveries

A terminal task is reopened by a commit only, and a committed handoff is undone by
the named state operations only. Both happen: the commit checks no status, and the
state operations carry no fence.
-/

namespace VideoAnalysis.Clip

open Foundation Lifecycle

/-- The update that a state operation is about to write. -/
def ProcPhase.update : ProcPhase → Option ClipStatusUpdate
  | .marking update _ => some update
  | _ => none

def Processor.commit (processor : Processor) : Option (Reservation × CommitRequest) :=
  match processor.phase with
  | .executing (.committing reservation jobId resultingStreamId) =>
    some (reservation,
      { jobId, resultingStreamId, shardId := processor.delivery.request.shardId })
  | _ => none

/-- The condition on a step of a delivery: a commit whose fence holds meets a task that
is not terminal, and a state operation that would take effect meets no handoff. -/
def Undisturbing (rows : ClipRows) (processor : Processor) : ProcLabel → Prop
  | .exec (.commit _ _) =>
    ∀ commit ∈ processor.commit, ∀ task ∈ rows.task,
      canCommit commit.1 commit.2 task = true →
        task.lifecycle.materializationStatus.isTerminal = false
  | .updateTask _ _ =>
    ∀ update ∈ processor.phase.update, ∀ task ∈ rows.task,
      canUpdate update task = true → task.slot.holdsJob = false
  | .projectEvent _ => ¬Committed rows
  | _ => True

def undisturbing (world : ClipWorld) : ClipLabel → Prop
  | .run index label =>
    ∀ slot ∈ world.processors[index]?, ∀ processor ∈ slot,
      Undisturbing world.rows processor label
  | _ => True

instance (rows : ClipRows) (processor : Processor) (label : ProcLabel) :
    Decidable (Undisturbing rows processor label) :=
  match label with
  | .exec (.commit _ _) =>
    inferInstanceAs (Decidable (∀ commit ∈ processor.commit, ∀ task ∈ rows.task,
      canCommit commit.1 commit.2 task = true →
        task.lifecycle.materializationStatus.isTerminal = false))
  | .updateTask _ _ =>
    inferInstanceAs (Decidable (∀ update ∈ processor.phase.update, ∀ task ∈ rows.task,
      canUpdate update task = true → task.slot.holdsJob = false))
  | .projectEvent _ => inferInstanceAs (Decidable (¬Committed rows))
  | .exec (.load _) | .exec (.takeOver _) | .exec (.recover _) | .exec (.markUnresolved _)
  | .exec (.acquire ..) | .exec (.markSubmitting _) | .exec (.submit _) | .exec (.abort ..)
  | .exec (.markUncertain _) | .parse | .lookUp _ | .checkTarget .. | .loadSlot _ | .route _
  | .count .. | .gate .. | .anchor _ | .quarantine .. | .decide | .raise => isTrue trivial

instance (world : ClipWorld) (label : ClipLabel) : Decidable (undisturbing world label) :=
  match label with
  | .run index label =>
    inferInstanceAs (Decidable (∀ slot ∈ world.processors[index]?, ∀ processor ∈ slot,
      Undisturbing world.rows processor label))
  | .deliver .. | .crash _ | .releaseTimedOut _ => isTrue trivial

abbrev undisturbedMachine : Machine ClipWorld ClipLabel := clipMachine.restrict undisturbing

/-! ## Single steps -/

theorem ClipWrite.terminal {rows rows' : ClipRows} {processor : Processor} {label : ProcLabel}
    (write : ClipWrite rows processor.phase label rows')
    (undisturbed : Undisturbing rows processor label) (terminal : TaskTerminal rows) :
    TaskTerminal rows' := by
  rcases processor with ⟨delivery, phase, deadLettered⟩
  have final (task : ClipTask) (stored : rows.task = some task) :
      task.lifecycle.materializationStatus.isTerminal = true := by
    rcases terminal with ⟨_, storedToo, isFinal⟩
    rw [stored] at storedToo
    cases storedToo
    exact isFinal
  cases write with
  | quiet only => exact only.terminal terminal
  | aborted => exact ⟨_, rfl, rfl⟩
  | @committed _ _ _ _ _ task atPhase atLabel stored _ granted =>
    subst atPhase atLabel
    have reopened := undisturbed _ rfl task stored granted
    rw [final task stored] at reopened
    cases reopened
  | @updated _ _ _ _ task _ _ stored granted =>
    have old := final task stored
    have expects := (Bool.and_eq_true _ _).mp ((Bool.and_eq_true _ _).mp granted).1
    have among := of_decide_eq_true expects.2
    refine ⟨_, rfl, ?_⟩
    simp only [clipUpdatedTask]
    rcases among with same | same | same | ⟨_, same⟩
    · rw [same] at old
      cases old
    · rw [same] at old
      cases old
    · exact same ▸ old
    · rw [same] at old
      cases old
  | projected => exact terminal

theorem updateClipTask_refused {rows : ClipRows} {now : Int} {update : ClipStatusUpdate}
    (refused : ∀ task ∈ rows.task, canUpdate update task ≠ true) :
    updateClipTask now rows update = (rows, false) := by
  simp only [updateClipTask]
  rcases casTask_cases rows (canUpdate update) (clipUpdatedTask now · update)
    (fun _ event => event) with missed | ⟨task, stored, holds, _⟩
  · rw [missed]
    rfl
  · exact absurd holds (refused task stored)

def ProcLabel.isMark : ProcLabel → Bool
  | .updateTask _ _ | .projectEvent _ => true
  | _ => false

def ClipLabel.isMark : ClipLabel → Bool
  | .run _ label => label.isMark
  | _ => false

theorem procStep_mark {rows rows' : ClipRows} {processor after : Processor} {label : ProcLabel}
    (undisturbed : Undisturbing rows processor label) (mark : label.isMark = true)
    (committed : Committed rows) (step : procStep rows processor label = some (rows', after)) :
    rows' = rows := by
  rcases processor with ⟨delivery, phase, deadLettered⟩
  cases label <;> simp only [ProcLabel.isMark, Bool.false_eq_true] at mark
  · rename_i now answer
    cases phase <;> simp only [procStep, Option.some.injEq, Prod.mk.injEq, reduceCtorEq] at step
    rename_i update after
    have refused : ∀ task ∈ rows.task, canUpdate update task ≠ true := by
      intro task stored granted
      have free := undisturbed update rfl task stored granted
      rcases committed with ⟨_, storedToo, holds⟩
      cases Option.some.inj (stored.symm.trans storedToo)
      rw [free] at holds
      cases holds
    rw [updateClipTask_refused refused] at step
    rcases answer.apply_cases rows (rows, false) false with ends | ends | ends
    all_goals
      rw [ends] at step
      exact step.1.symm
  · exact absurd committed undisturbed

theorem clipStep_undisturbed {world next : ClipWorld} {label : ClipLabel}
    (reached : clipMachine.Reachable world) (allowed : undisturbing world label)
    (step : clipStep world label = some next) :
    (TaskTerminal world.rows → TaskTerminal next.rows) ∧
      (Committed world.rows → Committed next.rows) ∧
      (Committed world.rows → label.isMark = true → next.rows = world.rows) := by
  have invariant := clipInvariant_invariant.holds reached
  cases clipStep_write step with
  | outside outside only =>
    refine ⟨only.terminal, only.committed invariant.fresh, ?_⟩
    intro _ mark
    cases label with
    | run index label => exact absurd rfl (outside index label)
    | _ => cases mark
  | @inside _ processor _ _ _ occupied moved =>
    have undisturbed := allowed _ occupied processor rfl
    have named := invariant.named _ (List.mem_of_getElem? occupied) processor rfl
    have write := procStep_write moved
    exact ⟨write.terminal undisturbed, write.keepsCommitted named invariant.fresh,
      fun committed mark => procStep_mark undisturbed mark committed moved⟩

/-! ## Whole runs -/

def KeepsOutcomes (before after : ClipWorld) : Prop :=
  (TaskTerminal before.rows → TaskTerminal after.rows) ∧
    (Committed before.rows → Committed after.rows)

theorem undisturbedRun_keeps {world final : ClipWorld} {labels : List ClipLabel}
    (reached : undisturbedMachine.Reachable world)
    (ran : undisturbedMachine.run world labels = some final) : KeepsOutcomes world final := by
  apply Machine.run_relation _ _ _ reached ran
  · exact fun _ => ⟨id, id⟩
  · exact fun _ _ _ first second => ⟨second.1 ∘ first.1, second.2 ∘ first.2⟩
  · intro before label after reachedBefore step
    have facts := Machine.restrict_step_eq_some.mp step
    have keeps := clipStep_undisturbed reachedBefore.of_restrict facts.1 facts.2
    exact ⟨keeps.1, keeps.2.1⟩

/-- In a run whose commits meet no terminal task and whose state operations meet no
handoff, a terminal task stays terminal, and once a handoff is committed no state
operation writes a row. -/
theorem clip_outcomes_kept {world final : ClipWorld} {labels : List ClipLabel}
    (reached : undisturbedMachine.Reachable world)
    (ran : undisturbedMachine.run world labels = some final) :
    (TaskTerminal world.rows → TaskTerminal final.rows) ∧
    (Committed world.rows → Committed final.rows ∧
      ∀ earlier label later, labels = earlier ++ label :: later → label.isMark = true →
        ∃ before after, undisturbedMachine.run world earlier = some before ∧
          undisturbedMachine.step before label = some after ∧ after.rows = before.rows) := by
  have keeps := undisturbedRun_keeps reached ran
  refine ⟨keeps.1, fun committed => ⟨keeps.2 committed, ?_⟩⟩
  rintro earlier label later rfl mark
  rw [Machine.run_append] at ran
  rcases Option.bind_eq_some_iff.mp ran with ⟨before, first, rest⟩
  rcases undisturbedMachine.run_cons_eq_some.mp rest with ⟨after, step, _⟩
  have facts := Machine.restrict_step_eq_some.mp step
  have reachedBefore := (reached.run first).of_restrict
  have stillCommitted := (undisturbedRun_keeps reached first).2 committed
  exact ⟨before, after, first, step,
    (clipStep_undisturbed reachedBefore facts.1 facts.2).2.2 stillCommitted mark⟩

def waitingBesideCommit : List ClipLabel :=
  beginDelivery 0 (sampleDelivery "first" false) .completes ++ createUntilCommit 0 ++
    beginDelivery 1 (sampleDelivery "second" true) .completes ++
    [.run 1 (.route none), .run 1 (.count 0 .completes),
      .run 1 (.anchor (.waits 1 "proof_not_ready")), .run 0 (.exec (.commit 1 .completes))]

theorem waiting_delivery_keeps_handoff :
    ∃ world final, undisturbedMachine.run (idleProcessors 2) waitingBesideCommit = some world ∧
      Committed world.rows ∧
      undisturbedMachine.run world [.run 1 (.updateTask 2 .completes)] = some final ∧
      final.rows = world.rows := by
  have facts : (undisturbedMachine.run (idleProcessors 2) waitingBesideCommit).map
      (fun world => (decide (Committed world.rows),
        (undisturbedMachine.run world [.run 1 (.updateTask 2 .completes)]).isSome)) =
      some (true, true) := by
    decide +kernel
  rcases Option.map_eq_some_iff.mp facts with ⟨world, ran, shows⟩
  rw [Prod.mk.injEq] at shows
  have committed := of_decide_eq_true shows.1
  rcases Option.isSome_iff_exists.mp shows.2 with ⟨final, last⟩
  have begins : undisturbedMachine.Reachable (idleProcessors 2) :=
    .start (idleProcessors_initial 2)
  have kept := (clip_outcomes_kept (begins.run ran) last).2 committed
  rcases kept.2 [] _ [] rfl rfl with ⟨_, _, nothing, step, same⟩
  cases nothing
  refine ⟨world, final, ran, committed, last, ?_⟩
  rcases undisturbedMachine.run_cons_eq_some.mp last with ⟨_, stepToo, ends⟩
  cases ends
  rw [step] at stepToo
  cases stepToo
  exact same

/-- The second delivery fails the task for good while the first one is about to commit. -/
def failedBeforeCommit : List ClipLabel :=
  beginDelivery 0 (sampleDelivery "first" false) .completes ++ createUntilCommit 0 ++
    beginDelivery 1 (sampleDelivery "second" true) .completes ++
    [.run 1 (.route none), .run 1 (.count 0 .completes),
      .run 1 (.anchor (.fails none "proof_missing")), .run 1 (.updateTask 1 .completes),
      .run 1 (.projectEvent .completes), .run 1 .decide]

theorem commit_reopens_failed_task :
    ∃ world next, clipMachine.Reachable world ∧ TaskTerminal world.rows ∧
      clipMachine.step world (.run 0 (.exec (.commit 2 .completes))) = some next ∧
      ¬TaskTerminal next.rows := by
  have facts : (clipMachine.run (idleProcessors 2) failedBeforeCommit).bind
      (fun world => (clipMachine.step world (.run 0 (.exec (.commit 2 .completes)))).map
        fun next => (decide (TaskTerminal world.rows), decide (TaskTerminal next.rows))) =
      some (true, false) := by
    decide +kernel
  rcases Option.bind_eq_some_iff.mp facts with ⟨world, ran, rest⟩
  rcases Option.map_eq_some_iff.mp rest with ⟨next, step, shows⟩
  rw [Prod.mk.injEq] at shows
  exact ⟨world, next, (Machine.Reachable.start (idleProcessors_initial 2)).run ran,
    of_decide_eq_true shows.1, step, of_decide_eq_false shows.2⟩

end VideoAnalysis.Clip
