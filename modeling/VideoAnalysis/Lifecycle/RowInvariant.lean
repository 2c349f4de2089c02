import VideoAnalysis.Foundation.Machine
import VideoAnalysis.Lifecycle.Calls

/-! # The task row over whole runs

The invariant of one row under every order of transitions, and who picks the
row up next: a rolling claim, the handoff listing, the holder of its lease, or,
for the two kinds of row that no sweep selects, a generic finalizer claim.
-/

namespace VideoAnalysis.Lifecycle

open Foundation

structure FreshTask (row : EvidenceTask) : Prop where
  claimable : row.materializationStatus.claimable = true
  owner : row.owner = .rolling
  ready : row.readyAt ≠ none
  unleased : row.leaseOwner = none ∧ row.leaseToken = none ∧ row.leaseExpiresAt = none
  handoff : row.handoff = []

/-- The row after a call; one that raises has not reached its statement. -/
def advance (runtime : PyRuntime) (row : EvidenceTask) (invocation : Invocation) :
    EvidenceTask :=
  match execute runtime invocation.now row invocation.call with
  | .ok transition => transition.row
  | .error _ => row

def rowMachine (runtime : PyRuntime) : Machine EvidenceTask Invocation where
  initial := FreshTask
  step row invocation := some (advance runtime row invocation)

def LeaseColumnsTogether (row : EvidenceTask) : Prop :=
  (row.leaseOwner = none ∧ row.leaseToken = none ∧ row.leaseExpiresAt = none) ∨
    (row.leaseOwner ≠ none ∧ row.leaseToken ≠ none ∧ row.leaseExpiresAt ≠ none)

def Unleased (row : EvidenceTask) : Prop :=
  row.leaseOwner = none ∧ row.leaseToken = none ∧ row.leaseExpiresAt = none

def SettledTerminal (row : EvidenceTask) : Prop :=
  row.phase = .terminal ∧ row.owner = .terminal ∧ Unleased row

structure RowInvariant (row : EvidenceTask) : Prop where
  lease : LeaseColumnsTogether row
  ready : row.readyAt ≠ none
  terminal : row.materializationStatus.isTerminal = true → SettledTerminal row
  claimable : row.materializationStatus.claimable = true →
    row.leaseToken = none ∧ row.handoff = [] ∧
      (row.owner = .rolling ∨ row.owner = .mediaFinalizer)
  unleasedRunning : row.materializationStatus = .running → row.leaseToken = none →
    row.phase = .finalizerPending ∧ row.handoff ≠ []

section

variable {row : EvidenceTask}

include row

theorem FreshTask.rowInvariant (fresh : FreshTask row) :
    RowInvariant row where
  lease := .inl fresh.unleased
  ready := fresh.ready
  terminal := by
    intro terminal
    have claimable := fresh.claimable
    cases status : row.materializationStatus <;>
      simp_all [MaterializationStatus.claimable, MaterializationStatus.isTerminal]
  claimable := fun _ => ⟨fresh.unleased.2.1, fresh.handoff, .inl fresh.owner⟩
  unleasedRunning := by
    intro running _
    have claimable := fresh.claimable
    rw [running] at claimable
    cases claimable

/-! ## Rows a transition writes -/

private theorem not_claimable_of_running (running : row.materializationStatus = .running) :
    ¬row.materializationStatus.claimable = true := by
  rw [running]
  simp [MaterializationStatus.claimable]

theorem RowInvariant.of_leased (ready : row.readyAt ≠ none)
    (running : row.materializationStatus = .running) (owner : row.leaseOwner ≠ none)
    (token : row.leaseToken ≠ none) (expires : row.leaseExpiresAt ≠ none) :
    RowInvariant row where
  lease := .inr ⟨owner, token, expires⟩
  ready := ready
  terminal := by
    intro terminal
    rw [running] at terminal
    cases terminal
  claimable := fun claimable => absurd claimable (not_claimable_of_running running)
  unleasedRunning := fun _ unleased => absurd unleased token

theorem RowInvariant.of_handoff (ready : row.readyAt ≠ none)
    (running : row.materializationStatus = .running) (unleased : Unleased row)
    (phase : row.phase = .finalizerPending) (handoff : row.handoff ≠ []) :
    RowInvariant row where
  lease := .inl unleased
  ready := ready
  terminal := by
    intro terminal
    rw [running] at terminal
    cases terminal
  claimable := fun claimable => absurd claimable (not_claimable_of_running running)
  unleasedRunning := fun _ _ => ⟨phase, handoff⟩

theorem RowInvariant.of_pending (ready : row.readyAt ≠ none)
    (pending : row.materializationStatus = .pending) (unleased : Unleased row)
    (handoff : row.handoff = []) (owner : row.owner = .rolling ∨ row.owner = .mediaFinalizer) :
    RowInvariant row where
  lease := .inl unleased
  ready := ready
  terminal := by
    intro terminal
    rw [pending] at terminal
    cases terminal
  claimable := fun _ => ⟨unleased.2.1, handoff, owner⟩
  unleasedRunning := by
    intro running
    rw [pending] at running
    cases running

theorem RowInvariant.of_terminal (ready : row.readyAt ≠ none)
    (terminal : row.materializationStatus.isTerminal = true) (settled : SettledTerminal row) :
    RowInvariant row where
  lease := .inl settled.2.2
  ready := ready
  terminal := fun _ => settled
  claimable := by
    intro claimable
    cases status : row.materializationStatus <;>
      simp_all [MaterializationStatus.claimable, MaterializationStatus.isTerminal]
  unleasedRunning := by
    intro running
    rw [running] at terminal
    cases terminal

theorem RowInvariant.leased_of_token (valid : RowInvariant row) (token : row.leaseToken ≠ none) :
    row.leaseOwner ≠ none ∧ row.leaseToken ≠ none ∧ row.leaseExpiresAt ≠ none := by
  rcases valid.lease with unleased | leased
  · exact absurd unleased.2.1 token
  · exact leased

theorem RowInvariant.unleased_of_token (valid : RowInvariant row)
    (token : row.leaseToken = none) : Unleased row := by
  rcases valid.lease with unleased | leased
  · exact unleased
  · exact absurd token leased.2.1

end

variable {events : EventWrite}

/-- Each write keeps the row invariant, one case for every statement. -/
theorem RowInvariant.wrote {now : Int} {row after : EvidenceTask} {call : Call}
    {granted : Option MaterializationLease} (valid : RowInvariant row)
    (wrote : Wrote now row call after events granted) : RowInvariant after := by
  have ready := valid.ready
  cases wrote with
  | claimedRolling =>
    exact .of_leased ready rfl (by simp [claimedRollingRow]) (by simp [claimedRollingRow])
      (by simp [claimedRollingRow])
  | heartbeat running fence =>
    exact .of_leased ready running (by simp [fence.2.1]) (by simp [fence.2.2.1]) (by simp)
  | failedRolling =>
    exact .of_terminal ready rfl ⟨rfl, rfl, rfl, rfl, rfl⟩
  | retriedRolling =>
    exact .of_pending ready rfl ⟨rfl, rfl, rfl⟩ rfl (.inl rfl)
  | retriedHandoff _ _ handoff =>
    exact .of_handoff ready rfl ⟨rfl, rfl, rfl⟩ rfl handoff
  | persistedHandoff _ _ _ fence =>
    refine .of_leased ready rfl ?_ ?_ (by simp [persistedHandoffRow])
    · simp [persistedHandoffRow, fence.2.1]
    · simp [persistedHandoffRow, fence.2.2.1]
  | completed outcome =>
    refine .of_terminal ready ?_ ⟨rfl, rfl, rfl, rfl, rfl⟩
    rcases outcome with rfl | rfl <;> rfl
  | transferred | tookOver | claimedUnleased =>
    exact .of_leased ready rfl (by simp [finalizingRow]) (by simp [finalizingRow])
      (by simp [finalizingRow])
  | retriedUnclaimedHandoff unleased =>
    exact .of_handoff ready rfl (valid.unleased_of_token unleased.2.2.2) rfl unleased.2.2.1
  | @scheduledUnclaimed _ _ _ sinkOutputPath _ _ claimable unleased =>
    have before := valid.claimable claimable
    refine .of_pending ready rfl (valid.unleased_of_token unleased) before.2.1 ?_
    by_cases empty : sinkOutputPath = ""
    · simpa [scheduledUnclaimedRow, empty] using before.2.2
    · simp [scheduledUnclaimedRow, empty]
  | failedUnclaimed =>
    exact .of_terminal ready rfl ⟨rfl, rfl, rfl, rfl, rfl⟩
  | deferred => exact .of_terminal ready rfl ⟨rfl, rfl, rfl, rfl, rfl⟩
  | expiredReady _ _ _ unleased =>
    exact .of_terminal ready rfl ⟨rfl, rfl, valid.unleased_of_token unleased⟩
  | markedSlaMissed =>
    exact ⟨valid.lease, ready, valid.terminal, valid.claimable, valid.unleasedRunning⟩
  | recoveredHandoff running _ handoff =>
    exact .of_handoff ready running ⟨rfl, rfl, rfl⟩ rfl handoff
  | expiredLease =>
    exact .of_terminal ready rfl ⟨rfl, rfl, rfl, rfl, rfl⟩
  | lostLease _ _ _ handoff =>
    exact .of_pending ready rfl ⟨rfl, rfl, rfl⟩ handoff (.inl rfl)

theorem rowStep_cases {runtime : PyRuntime} {row after : EvidenceTask} {invocation : Invocation}
    (step : (rowMachine runtime).step row invocation = some after) :
    after = row ∨
      ∃ events granted, Wrote invocation.now row invocation.call after events granted := by
  have written : advance runtime row invocation = after := Option.some.inj step
  unfold advance at written
  subst written
  cases executed : execute runtime invocation.now row invocation.call with
  | error => exact .inl rfl
  | ok =>
    rcases execute_cases executed with refused | ⟨_, wrote⟩
    · exact .inl refused.row
    · exact .inr ⟨_, _, wrote⟩

theorem rowInvariant_invariant (runtime : PyRuntime) :
    (rowMachine runtime).Invariant RowInvariant where
  initially := fun _ fresh => fresh.rowInvariant
  preserved := by
    intro current invocation next _ valid step
    rcases rowStep_cases step with rfl | ⟨events, granted, wrote⟩
    · exact valid
    · exact valid.wrote wrote

theorem terminal_run {runtime : PyRuntime} {row later : EvidenceTask}
    {invocations : List Invocation} (terminal : row.materializationStatus.isTerminal = true)
    (ran : (rowMachine runtime).run row invocations = some later) : later = row := by
  refine Machine.run_keeps ?_ rfl ran
  rintro _ invocation next rfl step
  rcases rowStep_cases step with same | ⟨events, granted, wrote⟩
  · exact same
  · rw [wrote.active] at terminal
    cases terminal

/-! ## Who picks the row up -/

/-- From some time on the condition holds until a transition changes the row. -/
def Eventually (holds : Int → Prop) : Prop := ∃ start, ∀ now, start ≤ now → holds now

/-- Rows that only the generic path of `claim_finalizer_task` takes: a claimable
row handed over with a sink path, and an unleased handoff without one. -/
def LeftToFinalizer (row : EvidenceTask) : Prop :=
  (row.materializationStatus.claimable = true ∧ row.owner = .mediaFinalizer) ∨
    (unleasedHandoff row ∧ row.sinkOutputPath.getD "" = "")

def SweptOrLeased (row : EvidenceTask) : Prop :=
  Eventually (RollingClaimable row) ∨ Eventually (RecoverableHandoff row) ∨ row.leaseToken ≠ none

/-- The deadline and any lease lie before every statement of the pass. -/
def Overdue (clock : RecoveryStatement → Int) (row : EvidenceTask) : Prop :=
  (∃ deadline, row.deadlineAt = some deadline ∧ ∀ statement, deadline ≤ clock statement) ∧
    ∀ expires, row.leaseExpiresAt = some expires → ∀ statement, expires ≤ clock statement

/-- The contract of a task row over every run, with the rows that are excused
from a sweep and from expiry. -/
def TaskRowContract (machine : Machine EvidenceTask Invocation)
    (unswept exempt : EvidenceTask → Prop) : Prop :=
  ∀ row, machine.Reachable row →
    LeaseColumnsTogether row ∧
    (row.materializationStatus.isTerminal = true →
      SettledTerminal row ∧
        ∀ invocations later, machine.run row invocations = some later → later = row) ∧
    (row.materializationStatus.isTerminal = false →
      (SweptOrLeased row ∨ unswept row) ∧
        ∀ clock, Overdue clock row → ¬exempt row →
          (recoverAndExpireRollingTasks clock row []).materializationStatus = .expired)

theorem columnLe_eventually {column : Option Int} (stored : column ≠ none) :
    ∃ start, ∀ now, start ≤ now → columnLe column now := by
  rcases Option.ne_none_iff_exists'.mp stored with ⟨value, rfl⟩
  exact ⟨value, fun now late => ⟨value, rfl, late⟩⟩

theorem attemptAt_ne_none {row : EvidenceTask} (ready : row.readyAt ≠ none) :
    row.attemptAt ≠ none := by
  unfold EvidenceTask.attemptAt
  cases row.nextAttemptAt <;> simp [ready]

theorem attemptAt_eventually {row : EvidenceTask} (ready : row.readyAt ≠ none) :
    Eventually fun now => row.attemptAt.getD now ≤ now := by
  rcases Option.ne_none_iff_exists'.mp (attemptAt_ne_none ready) with ⟨value, stored⟩
  refine ⟨value, fun now late => ?_⟩
  simpa [stored] using late

theorem RowInvariant.swept {row : EvidenceTask} (valid : RowInvariant row)
    (active : row.materializationStatus.isTerminal = false) :
    SweptOrLeased row ∨ LeftToFinalizer row := by
  rcases (MaterializationStatus.isTerminal_eq_false_iff _).mp active with claimable | running
  · rcases valid.claimable claimable with ⟨unleased, _, owner⟩
    rcases owner with rolling | finalizer
    · left
      left
      rcases columnLe_eventually valid.ready with ⟨readyFrom, isReady⟩
      rcases columnLe_eventually (attemptAt_ne_none valid.ready) with ⟨attemptFrom, isDue⟩
      refine ⟨max readyFrom attemptFrom, fun now late => ?_⟩
      exact ⟨claimable, rolling, isReady now (by omega), isDue now (by omega), unleased⟩
    · exact .inr (.inl ⟨claimable, finalizer⟩)
  · by_cases unleased : row.leaseToken = none
    · have handoff := valid.unleasedRunning running unleased
      have parked : unleasedHandoff row := ⟨running, handoff.1, handoff.2, unleased⟩
      by_cases path : row.sinkOutputPath.getD "" = ""
      · exact .inr (.inr ⟨parked, path⟩)
      · left
        right
        left
        rcases attemptAt_eventually valid.ready with ⟨start, isDue⟩
        exact ⟨start, fun now late => ⟨parked, isDue now late, path⟩⟩
    · exact .inl (.inr (.inr unleased))

theorem RowInvariant.left_to_finalizer {row : EvidenceTask} (valid : RowInvariant row)
    (left : LeftToFinalizer row) : Eventually (GenericClaimReady row) := by
  rcases attemptAt_eventually valid.ready with ⟨start, isDue⟩
  rcases left with ⟨claimable, _⟩ | ⟨parked, _⟩
  · refine ⟨start, fun now late => ⟨?_, .inl (valid.claimable claimable).1, isDue now late⟩⟩
    exact (MaterializationStatus.isTerminal_eq_false_iff _).mpr (.inl claimable)
  · refine ⟨start, fun now late => ⟨?_, .inl parked.2.2.2, isDue now late⟩⟩
    rw [parked.1]
    rfl

/-! ## One recovery pass over an overdue row -/

/-- Rows the pass does not expire: those with a durable handoff, and claimable
rows that were handed over to the finalizer. -/
def ExemptFromExpiry (row : EvidenceTask) : Prop :=
  row.handoff ≠ [] ∨ (row.materializationStatus.claimable = true ∧ row.owner = .mediaFinalizer)

instance (row : EvidenceTask) : Decidable (ExemptFromExpiry row) := by
  unfold ExemptFromExpiry
  infer_instance

theorem recovery_terminal {row : EvidenceTask} (statement : RecoveryStatement) (now : Int)
    (sourceIds : List String) (terminal : row.materializationStatus.isTerminal = true) :
    (statement.execute now row sourceIds).row = row := by
  rcases recover_cases now row statement sourceIds with refused | ⟨_, wrote⟩
  · exact refused.row
  · rw [wrote.active] at terminal
    cases terminal

theorem recovery_fold_terminal (clock : RecoveryStatement → Int) (sourceIds : List String)
    (statements : List RecoveryStatement) {row : EvidenceTask}
    (terminal : row.materializationStatus.isTerminal = true) :
    statements.foldl
      (fun current statement => (statement.execute (clock statement) current sourceIds).row)
      row = row := by
  induction statements with
  | nil => rfl
  | cons statement _ induction =>
    rw [List.foldl_cons, recovery_terminal statement (clock statement) sourceIds terminal]
    exact induction

theorem updateWhere_row_pos {row written : EvidenceTask} {guard : Prop} [Decidable guard]
    (holds : guard) :
    (updateWhere row guard written events).row = written := by
  rw [updateWhere, if_pos holds]

theorem updateWhere_row_neg {row written : EvidenceTask} {guard : Prop} [Decidable guard]
    (fails : ¬guard) :
    (updateWhere row guard written events).row = row := by
  rw [updateWhere, if_neg fails]

section OverduePass

variable {clock : RecoveryStatement → Int} {row : EvidenceTask}

theorem recover_overdue_claimable (claimable : row.materializationStatus.claimable = true)
    (rolling : row.owner = .rolling) (unleased : row.leaseToken = none)
    (overdue : Overdue clock row) :
    (recoverAndExpireRollingTasks clock row []).materializationStatus = .expired := by
  rcases overdue.1 with ⟨deadline, stored, passed⟩
  have fires : (RecoveryStatement.expireReady.execute (clock .expireReady) row []).row =
      expiredRow (clock .expireReady) row :=
    updateWhere_row_pos ⟨rolling, claimable, ⟨deadline, stored, passed _⟩, unleased, .inl rfl⟩
  rw [recoverAndExpireRollingTasks, recoveryStatements, List.foldl_cons, fires,
    recovery_fold_terminal clock [] _ rfl]
  rfl

/-- While the row is running under an expired lease, the first two statements
of the pass leave it alone. -/
theorem recover_overdue_running_start (running : row.materializationStatus = .running)
    (expired : row.leaseToken = none ∨
      ∃ expires, row.leaseExpiresAt = some expires ∧ ∀ statement, expires ≤ clock statement) :
    recoverAndExpireRollingTasks clock row [] =
      [RecoveryStatement.recoverHandoff, .expireLease, .retryLostLease].foldl
        (fun current statement => (statement.execute (clock statement) current []).row) row := by
  have notReady : (RecoveryStatement.expireReady.execute (clock .expireReady) row []).row =
      row := by
    refine updateWhere_row_neg fun guard => ?_
    exact not_claimable_of_running running guard.2.1
  have notMissed : (RecoveryStatement.markSlaMissed.execute (clock .markSlaMissed) row []).row =
      row := by
    refine updateWhere_row_neg fun guard => ?_
    rcases expired with unleased | ⟨expires, stored, passed⟩
    · exact guard.2.2.1 unleased
    · exact guard.2.2.2.2.1 ⟨expires, stored, passed _⟩
  rw [recoverAndExpireRollingTasks, recoveryStatements, List.foldl_cons, notReady,
    List.foldl_cons, notMissed]

theorem recover_overdue_leased (running : row.materializationStatus = .running)
    (leased : row.leaseToken ≠ none) (expires : row.leaseExpiresAt ≠ none)
    (handoff : row.handoff = []) (overdue : Overdue clock row) :
    (recoverAndExpireRollingTasks clock row []).materializationStatus = .expired := by
  rcases overdue with ⟨⟨deadline, deadlineStored, deadlinePassed⟩, leasePassed⟩
  rcases Option.ne_none_iff_exists'.mp expires with ⟨expiry, expiryStored⟩
  have expiryPassed := leasePassed expiry expiryStored
  rw [recover_overdue_running_start running (.inr ⟨expiry, expiryStored, expiryPassed⟩)]
  have notHandoff : (RecoveryStatement.recoverHandoff.execute (clock .recoverHandoff) row
      []).row = row := by
    refine updateWhere_row_neg fun guard => ?_
    exact guard.2.2.2.1 handoff
  have fires : (RecoveryStatement.expireLease.execute (clock .expireLease) row []).row =
      (expiredRow (clock .expireLease) row).releaseLease :=
    updateWhere_row_pos
      ⟨running, leased, ⟨expiry, expiryStored, expiryPassed _⟩,
        ⟨deadline, deadlineStored, deadlinePassed _⟩, handoff, .inl rfl⟩
  rw [List.foldl_cons, notHandoff, List.foldl_cons, fires, recovery_fold_terminal clock [] _ rfl]
  rfl

theorem recover_overdue_handoff (valid : RowInvariant row)
    (running : row.materializationStatus = .running) (handoff : row.handoff ≠ [])
    (overdue : Overdue clock row) :
    unleasedHandoff (recoverAndExpireRollingTasks clock row []) ∧
      (recoverAndExpireRollingTasks clock row []).handoff = row.handoff := by
  have settled : ∀ current : EvidenceTask, unleasedHandoff current →
      [RecoveryStatement.expireLease, .retryLostLease].foldl
        (fun current statement => (statement.execute (clock statement) current []).row)
        current = current := by
    intro current parked
    have notExpired : (RecoveryStatement.expireLease.execute (clock .expireLease) current
        []).row = current :=
      updateWhere_row_neg fun guard => guard.2.1 parked.2.2.2
    have notRetried : (RecoveryStatement.retryLostLease.execute (clock .retryLostLease) current
        []).row = current :=
      updateWhere_row_neg fun guard => guard.2.1 parked.2.2.2
    rw [List.foldl_cons, notExpired, List.foldl_cons, notRetried, List.foldl_nil]
  by_cases unleased : row.leaseToken = none
  · have parked : unleasedHandoff row :=
      ⟨running, (valid.unleasedRunning running unleased).1, handoff, unleased⟩
    have notRecovered : (RecoveryStatement.recoverHandoff.execute (clock .recoverHandoff) row
        []).row = row :=
      updateWhere_row_neg fun guard => guard.2.1 unleased
    rw [recover_overdue_running_start running (.inl unleased), List.foldl_cons, notRecovered,
      settled row parked]
    exact ⟨parked, rfl⟩
  · rcases Option.ne_none_iff_exists'.mp (valid.leased_of_token unleased).2.2 with
      ⟨expiry, expiryStored⟩
    have expiryPassed := overdue.2 expiry expiryStored
    have fires : (RecoveryStatement.recoverHandoff.execute (clock .recoverHandoff) row
        []).row = recoveredHandoffRow (clock .recoverHandoff) row :=
      updateWhere_row_pos
        ⟨running, unleased, ⟨expiry, expiryStored, expiryPassed _⟩, handoff, .inl rfl⟩
    have parked : unleasedHandoff (recoveredHandoffRow (clock .recoverHandoff) row) :=
      ⟨running, rfl, handoff, rfl⟩
    rw [recover_overdue_running_start running (.inr ⟨expiry, expiryStored, expiryPassed⟩),
      List.foldl_cons, fires, settled _ parked]
    exact ⟨parked, rfl⟩

theorem RowInvariant.expires (valid : RowInvariant row)
    (active : row.materializationStatus.isTerminal = false) (overdue : Overdue clock row)
    (covered : ¬ExemptFromExpiry row) :
    (recoverAndExpireRollingTasks clock row []).materializationStatus = .expired := by
  have handoff : row.handoff = [] := by
    by_contra stored
    exact covered (.inl stored)
  rcases (MaterializationStatus.isTerminal_eq_false_iff _).mp active with claimable | running
  · rcases valid.claimable claimable with ⟨unleased, _, owner⟩
    rcases owner with rolling | finalizer
    · exact recover_overdue_claimable claimable rolling unleased overdue
    · exact absurd (.inr ⟨claimable, finalizer⟩) covered
  · have leased : row.leaseToken ≠ none := fun unleased =>
      (valid.unleasedRunning running unleased).2 handoff
    exact recover_overdue_leased running leased (valid.leased_of_token leased).2.2 handoff
      overdue

end OverduePass

/-- The contract holds of every run with two excuses: a row handed over to the
finalizer is left to its generic claim, and a durable handoff outlives the
deadline as an unleased `finalizer_pending` row. -/
theorem evidence_task_contract (runtime : PyRuntime) :
    TaskRowContract (rowMachine runtime) LeftToFinalizer ExemptFromExpiry ∧
    ∀ row, (rowMachine runtime).Reachable row →
      (LeftToFinalizer row → Eventually (GenericClaimReady row)) ∧
      (row.materializationStatus = .running → row.handoff ≠ [] → ∀ clock, Overdue clock row →
        unleasedHandoff (recoverAndExpireRollingTasks clock row []) ∧
          (recoverAndExpireRollingTasks clock row []).handoff = row.handoff) := by
  constructor
  · intro row reached
    have valid := (rowInvariant_invariant runtime).holds reached
    refine ⟨valid.lease, ?_, ?_⟩
    · intro terminal
      exact ⟨valid.terminal terminal, fun _ _ ran => terminal_run terminal ran⟩
    · intro active
      exact ⟨valid.swept active, fun _ overdue covered => valid.expires active overdue covered⟩
  · intro row reached
    have valid := (rowInvariant_invariant runtime).holds reached
    exact ⟨valid.left_to_finalizer,
      fun running handoff _ overdue => recover_overdue_handoff valid running handoff overdue⟩

def overdueTask : EvidenceTask := { sampleTask with deadlineAt := some 10 }

theorem overdueTask_fresh : FreshTask overdueTask :=
  ⟨rfl, rfl, by decide, ⟨rfl, rfl, rfl⟩, rfl⟩

theorem overdueTask_expires :
    (recoverAndExpireRollingTasks (fun _ => 100) overdueTask []).materializationStatus =
      .expired := by
  have contract := (evidence_task_contract .ascii).1 overdueTask (.start overdueTask_fresh)
  refine (contract.2.2 rfl).2 (fun _ => 100) ⟨⟨10, rfl, fun _ => by simp⟩, ?_⟩ (by decide)
  intro expires stored
  cases stored

/-! ## Rows no sweep selects -/

def reachedRow (invocations : List Invocation) : EvidenceTask :=
  invocations.foldl (advance .ascii) overdueTask

theorem reachedRow_reachable (invocations : List Invocation) :
    (rowMachine .ascii).Reachable (reachedRow invocations) := by
  have ran : (rowMachine .ascii).run overdueTask invocations = some (reachedRow invocations) :=
    Machine.run_of_total (fun _ _ => rfl) overdueTask invocations
  exact (Machine.Reachable.start overdueTask_fresh).run ran

/-- Handed over to the finalizer by a retry that recorded a sink path. -/
def handedOverRow : EvidenceTask :=
  reachedRow [⟨1, .scheduleUnclaimedRetry 0 "event" "capacity_unavailable" 0 "/sink"⟩]

/-- Leased in phase `finalizing` with its durable handoff. -/
def finalizingSample : EvidenceTask :=
  reachedRow
    [⟨1, .claimRollingTask "event" "worker" "token" .remuxRunning 60⟩,
      ⟨2, .persistFinalizerHandoff remuxLease "/sink" (sampleHandoff "token") 60⟩,
      ⟨3, .claimFinalizerExact "event" "/sink" "finalizer" 60 remuxLease⟩]

def pathlessHandoff : EvidenceTask :=
  reachedRow
    [⟨1, .claimRollingTask "event" "worker" "token" .remuxRunning 60⟩,
      ⟨2, .persistFinalizerHandoff remuxLease "" (sampleHandoff "token") 60⟩,
      ⟨3, .retryFinalizerHandoff remuxLease "capacity_unavailable" 0⟩]

theorem handedOverRow_unswept : ¬SweptOrLeased handedOverRow := by
  rintro (⟨start, claimed⟩ | ⟨start, listed⟩ | leased)
  · exact absurd (claimed start (Int.le_refl start)).2.1 (by decide)
  · exact absurd (listed start (Int.le_refl start)).1 (by decide)
  · exact leased (by decide)

theorem pathlessHandoff_unswept : ¬SweptOrLeased pathlessHandoff := by
  rintro (⟨start, claimed⟩ | ⟨start, listed⟩ | leased)
  · exact absurd (claimed start (Int.le_refl start)).1 (by decide)
  · exact absurd (listed start (Int.le_refl start)).2.2 (by decide)
  · exact leased (by decide)

/-- Each excuse of the contract is needed: a handed over row and a pathless
handoff escape the sweeps, and the pass expires neither a handed over row nor a
handoff that is still leased for finalizing. -/
theorem unexcused_contract_fails :
    ¬TaskRowContract (rowMachine .ascii) (fun _ => False)
        (fun row => row.handoff ≠ [] ∧ row.phase = .finalizerPending) ∧
    ¬SweptOrLeased pathlessHandoff ∧
    (recoverAndExpireRollingTasks (fun _ => 100000000) handedOverRow []).materializationStatus =
      .pending ∧
    (recoverAndExpireRollingTasks (fun _ => 100000000) finalizingSample
      []).materializationStatus = .running := by
  refine ⟨?_, pathlessHandoff_unswept, by decide, by decide⟩
  intro contract
  have active : handedOverRow.materializationStatus.isTerminal = false := by decide
  rcases (((contract handedOverRow (reachedRow_reachable _)).2.2 active).1) with swept | never
  · exact handedOverRow_unswept swept
  · exact never

end VideoAnalysis.Lifecycle
