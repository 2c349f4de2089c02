import VideoAnalysis.Foundation.Fallible
import VideoAnalysis.Lifecycle.Repository

/-! # Calls on a task row

Every transition as a value, what each one can write, and the facts about a
single step that the fencing, row and projection results share.
-/

namespace VideoAnalysis.Lifecycle

open Foundation

inductive Call where
  | claimRollingTask (eventId workerId token : String) (phase : MaterializationPhase)
      (leaseSeconds : Int)
  | heartbeatLease (lease : MaterializationLease) (leaseSeconds : Int)
  | retryRollingTask (lease : MaterializationLease) (reason : String) (retryHint : Int)
  | failRollingTask (lease : MaterializationLease) (reason : String)
  | retryFinalizerHandoff (lease : MaterializationLease) (reason : String) (retryHint : Int)
  | persistFinalizerHandoff (lease : MaterializationLease) (sinkOutputPath : String)
      (handoff : Handoff) (leaseSeconds : Int)
  | completeFinalizerTask (lease : MaterializationLease) (status : MaterializationStatus)
      (reason clipPath metadataPath outputRoot : String)
  | claimFinalizerExact (eventId sinkOutputPath workerId : String) (leaseSeconds : Int)
      (expected : MaterializationLease)
  | claimFinalizerGeneric (locked : Bool) (eventId sinkOutputPath workerId newToken : String)
      (leaseSeconds : Int)
  | retryUnclaimedFinalizerHandoff (attempt : Nat) (eventId reason : String) (retryHint : Int)
  | scheduleUnclaimedRetry (attempt : Nat) (eventId reason : String) (retryHint : Int)
      (sinkOutputPath : String)
  | failUnclaimedTask (eventId reason sinkOutputPath : String)
  | deferTerminalTask (eventId reason sinkOutputPath : String)
      (lease : Option MaterializationLease)
  | recover (statement : RecoveryStatement) (sourceIds : List String)

/-- A call with the `now()` of its statement. -/
structure Invocation where
  now : Int
  call : Call

inductive Returned where
  | changed (matched : Bool)
  | rollingLease (lease : Option MaterializationLease)
  | finalizerClaim (claim : FinalizerClaim)

def Returned.granted : Returned → Option MaterializationLease
  | .changed _ => none
  | .rollingLease lease => lease
  | .finalizerClaim claim => claim.lease

/-- What the caller sees when its statement matched no row. -/
def Returned.refused : Returned → Bool
  | .changed matched => !matched
  | .rollingLease lease => lease.isNone
  | .finalizerClaim claim => claim.status != .claimed

def Transition.map {α β : Type} (wrap : α → β) (transition : Transition α) : Transition β where
  row := transition.row
  returned := wrap transition.returned
  events := transition.events

def execute (runtime : PyRuntime) (now : Int) (row : EvidenceTask) :
    Call → Except PyError (Transition Returned)
  | .claimRollingTask eventId workerId token phase leaseSeconds =>
    (claimRollingTask now row eventId workerId token phase leaseSeconds).map
      (·.map .rollingLease)
  | .heartbeatLease lease leaseSeconds =>
    .ok ((heartbeatLease now row lease leaseSeconds).map .changed)
  | .retryRollingTask lease reason retryHint =>
    (retryRollingTask runtime now row lease reason retryHint).map (·.map .changed)
  | .failRollingTask lease reason =>
    .ok ((failRollingTask runtime now row lease reason).map .changed)
  | .retryFinalizerHandoff lease reason retryHint =>
    (retryFinalizerHandoff runtime now row lease reason retryHint).map (·.map .changed)
  | .persistFinalizerHandoff lease sinkOutputPath handoff leaseSeconds =>
    (persistFinalizerHandoff now row lease sinkOutputPath handoff leaseSeconds).map
      (·.map .changed)
  | .completeFinalizerTask lease status reason clipPath metadataPath outputRoot =>
    (completeFinalizerTask runtime now row lease status reason clipPath metadataPath
      outputRoot).map (·.map .changed)
  | .claimFinalizerExact eventId sinkOutputPath workerId leaseSeconds expected =>
    (claimFinalizerExact now row eventId sinkOutputPath workerId leaseSeconds expected).map
      (·.map .finalizerClaim)
  | .claimFinalizerGeneric locked eventId sinkOutputPath workerId newToken leaseSeconds =>
    .ok ((claimFinalizerGeneric now row locked eventId sinkOutputPath workerId newToken
      leaseSeconds).map .finalizerClaim)
  | .retryUnclaimedFinalizerHandoff attempt eventId reason retryHint =>
    (retryUnclaimedFinalizerHandoff runtime now row attempt eventId reason retryHint).map
      (·.map .changed)
  | .scheduleUnclaimedRetry attempt eventId reason retryHint sinkOutputPath =>
    (scheduleUnclaimedRetry runtime now row attempt eventId reason retryHint
      sinkOutputPath).map (·.map .changed)
  | .failUnclaimedTask eventId reason sinkOutputPath =>
    .ok ((failUnclaimedTask runtime now row eventId reason sinkOutputPath).map .changed)
  | .deferTerminalTask eventId reason sinkOutputPath lease =>
    (deferTerminalTask runtime now row eventId reason sinkOutputPath lease).map (·.map .changed)
  | .recover statement sourceIds =>
    .ok ((statement.execute now row sourceIds).map .changed)

def Call.presented : Call → Option MaterializationLease
  | .heartbeatLease lease _ => some lease
  | .retryRollingTask lease _ _ => some lease
  | .failRollingTask lease _ => some lease
  | .retryFinalizerHandoff lease _ _ => some lease
  | .persistFinalizerHandoff lease _ _ _ => some lease
  | .completeFinalizerTask lease _ _ _ _ _ => some lease
  | .claimFinalizerExact _ _ _ _ expected => some expected
  | .deferTerminalTask _ _ _ lease => lease
  | _ => none

def Call.releases : Call → Bool
  | .retryRollingTask .. => true
  | .failRollingTask .. => true
  | .retryFinalizerHandoff .. => true
  | .completeFinalizerTask .. => true
  | .deferTerminalTask .. => true
  | .recover .recoverHandoff _ => true
  | .recover .expireLease _ => true
  | .recover .retryLostLease _ => true
  | _ => false

/-- Everything a call can write: the row, the projection and the lease granted,
under the guard of the statement that writes it. -/
inductive Wrote (now : Int) (row : EvidenceTask) :
    Call → EvidenceTask → EventWrite → Option MaterializationLease → Prop
  | claimedRolling {workerId token phase leaseSeconds}
      (running : phase = .imageRunning ∨ phase = .remuxRunning)
      (claimable : RollingClaimable row now) :
      Wrote now row (.claimRollingTask row.eventId workerId token phase leaseSeconds)
        (claimedRollingRow now row workerId token phase leaseSeconds)
        (project .running phase "" "")
        (some
          { eventId := row.eventId, owner := workerId, token,
            generation := row.leaseGeneration + 1, phase })
  | heartbeat {lease leaseSeconds}
      (running : row.materializationStatus = .running) (fence : row.HoldsFence lease) :
      Wrote now row (.heartbeatLease lease leaseSeconds)
        { row with
          leaseHeartbeatAt := some now
          leaseExpiresAt := some (now + leaseInterval leaseSeconds) }
        .unchanged none
  | failedRolling {call lease reasonCode} (presented : call.presented = some lease)
      (releases : call.releases = true) (running : row.materializationStatus = .running)
      (fence : row.HoldsFence lease) :
      Wrote now row call (failedRollingRow now row reasonCode)
        (project .failed .terminal reasonCode "") none
  | retriedRolling {lease reason retryHint phase delay reasonCode}
      (waiting : phase = .waitingCoverage ∨ phase = .waitingReady)
      (running : row.materializationStatus = .running) (fence : row.HoldsFence lease) :
      Wrote now row (.retryRollingTask lease reason retryHint)
        (retriedRollingRow now row phase delay reasonCode)
        (project .pending phase reasonCode "") none
  | retriedHandoff {lease reason retryHint delay reasonCode}
      (running : row.materializationStatus = .running)
      (finalizer : row.phase = .finalizerPending ∨ row.phase = .finalizing)
      (handoff : row.handoff ≠ []) (fence : row.HoldsFence lease) :
      Wrote now row (.retryFinalizerHandoff lease reason retryHint)
        (retriedHandoffRow now row delay reasonCode)
        (project .running .finalizerPending reasonCode "") none
  | persistedHandoff {lease sinkOutputPath handoff leaseSeconds}
      (accepted : checkHandoff handoff = .ok ())
      (running : row.materializationStatus = .running) (phase : row.phase = lease.phase)
      (fence : row.HoldsFence lease) :
      Wrote now row (.persistFinalizerHandoff lease sinkOutputPath handoff leaseSeconds)
        (persistedHandoffRow now row sinkOutputPath handoff leaseSeconds)
        (project .running .finalizerPending "" sinkOutputPath) none
  | completed {lease status reason clipPath metadataPath outputRoot reasonCode}
      (outcome : status = .materialized ∨ status = .failed)
      (running : row.materializationStatus = .running) (fence : row.HoldsFence lease) :
      Wrote now row
        (.completeFinalizerTask lease status reason clipPath metadataPath outputRoot)
        (completedRow now row status reasonCode clipPath metadataPath outputRoot)
        (.inSameStatement
          { materializationStatus := status, phase := .terminal, reason := reasonCode,
            sinkOutputPath := "" })
        none
  | transferred {sinkOutputPath workerId leaseSeconds expected}
      (ready : ExactTransferReady row expected) (generation : expected.generation ≠ 0) :
      Wrote now row
        (.claimFinalizerExact row.eventId sinkOutputPath workerId leaseSeconds expected)
        (finalizingRow now row sinkOutputPath workerId expected.token expected.generation
          leaseSeconds)
        (project .running .finalizing "" sinkOutputPath)
        (some
          { eventId := row.eventId, owner := workerId, token := expected.token,
            generation := expected.generation, phase := .finalizing })
  | tookOver {sinkOutputPath workerId newToken leaseSeconds token}
      (ready : GenericClaimReady row now) (leased : row.leaseToken = some token) :
      Wrote now row
        (.claimFinalizerGeneric false row.eventId sinkOutputPath workerId newToken leaseSeconds)
        (finalizingRow now row sinkOutputPath workerId token row.leaseGeneration leaseSeconds)
        (project .running .finalizing "" sinkOutputPath)
        (some
          { eventId := row.eventId, owner := workerId, token,
            generation := row.leaseGeneration, phase := .finalizing })
  | claimedUnleased {sinkOutputPath workerId newToken leaseSeconds}
      (ready : GenericClaimReady row now) (unleased : row.leaseToken = none) :
      Wrote now row
        (.claimFinalizerGeneric false row.eventId sinkOutputPath workerId newToken leaseSeconds)
        (finalizingRow now row sinkOutputPath workerId newToken (row.leaseGeneration + 1)
          leaseSeconds)
        (project .running .finalizing "" sinkOutputPath)
        (some
          { eventId := row.eventId, owner := workerId, token := newToken,
            generation := row.leaseGeneration + 1, phase := .finalizing })
  | retriedUnclaimedHandoff {attempt reason retryHint delay reasonCode}
      (unleased : unleasedHandoff row) :
      Wrote now row (.retryUnclaimedFinalizerHandoff attempt row.eventId reason retryHint)
        (retriedUnclaimedHandoffRow now row delay reasonCode)
        (project .running .finalizerPending reasonCode "") none
  | scheduledUnclaimed {attempt reason retryHint sinkOutputPath delay reasonCode}
      (claimable : row.materializationStatus.claimable = true)
      (unleased : row.leaseToken = none) :
      Wrote now row
        (.scheduleUnclaimedRetry attempt row.eventId reason retryHint sinkOutputPath)
        (scheduledUnclaimedRow now row delay reasonCode sinkOutputPath)
        (project .pending .waitingReady reasonCode sinkOutputPath) none
  | failedUnclaimed {call sinkOutputPath reasonCode} (presented : call.presented = none)
      (active : row.materializationStatus.isTerminal = false)
      (unleased : row.leaseToken = none) :
      Wrote now row call (failedUnclaimedRow now row reasonCode sinkOutputPath)
        (project .failed .terminal reasonCode sinkOutputPath) none
  | deferred {reason sinkOutputPath lease reasonCode}
      (active : row.materializationStatus.isTerminal = false)
      (fence : DeferFence row lease) :
      Wrote now row (.deferTerminalTask row.eventId reason sinkOutputPath lease)
        (deferredRow now row reasonCode sinkOutputPath)
        (project .deferred .terminal reasonCode sinkOutputPath) none
  | expiredReady {sourceIds}
      (owner : row.owner = .rolling) (claimable : row.materializationStatus.claimable = true)
      (deadline : columnLe row.deadlineAt now) (unleased : row.leaseToken = none) :
      Wrote now row (.recover .expireReady sourceIds) (expiredRow now row)
        (project .expired .terminal "business_deadline_expired" "") none
  | markedSlaMissed {sourceIds} (running : row.materializationStatus = .running) :
      Wrote now row (.recover .markSlaMissed sourceIds)
        { row with missedDuringValidLease := true } .unchanged none
  | recoveredHandoff {sourceIds} (running : row.materializationStatus = .running)
      (leased : row.leaseToken ≠ none) (handoff : row.handoff ≠ []) :
      Wrote now row (.recover .recoverHandoff sourceIds) (recoveredHandoffRow now row)
        (project .running .finalizerPending "lease_lost" "") none
  | expiredLease {sourceIds} (running : row.materializationStatus = .running)
      (leased : row.leaseToken ≠ none) (deadline : columnLe row.deadlineAt now)
      (handoff : row.handoff = []) :
      Wrote now row (.recover .expireLease sourceIds) (expiredRow now row).releaseLease
        (project .expired .terminal "business_deadline_expired" "") none
  | lostLease {sourceIds} (running : row.materializationStatus = .running)
      (leased : row.leaseToken ≠ none)
      (beforeDeadline : row.deadlineAt = none ∨ ¬columnLe row.deadlineAt now)
      (handoff : row.handoff = []) :
      Wrote now row (.recover .retryLostLease sourceIds) (lostLeaseRow now row)
        (project .pending .waitingReady "lease_lost" "") none

/-- A call that matched nothing: the row, the events row and the lease table of
the caller stay as they are. -/
structure Refused (row : EvidenceTask) (transition : Transition Returned) : Prop where
  row : transition.row = row
  events : transition.events = .unchanged
  returned : transition.returned.refused = true
  granted : transition.returned.granted = none

def StepCases (now : Int) (row : EvidenceTask) (call : Call)
    (transition : Transition Returned) : Prop :=
  Refused row transition ∨
    (transition.returned.refused = false ∧
      Wrote now row call transition.row transition.events transition.returned.granted)

variable {now : Int} {row : EvidenceTask} {call : Call}

theorem updateWhere_cases {written : EvidenceTask} {guard : Prop} [Decidable guard]
    {events : EventWrite} (wrote : guard → Wrote now row call written events none) :
    StepCases now row call ((updateWhere row guard written events).map .changed) := by
  unfold updateWhere
  by_cases holds : guard
  · right
    rw [if_pos holds]
    exact ⟨rfl, wrote holds⟩
  · left
    rw [if_neg holds]
    exact ⟨rfl, rfl, rfl, rfl⟩

variable {runtime : PyRuntime} {lease : MaterializationLease} {reason : String}

theorem failRollingTask_cases (presented : call.presented = some lease)
    (releases : call.releases = true) :
    StepCases now row call ((failRollingTask runtime now row lease reason).map .changed) :=
  updateWhere_cases fun guard => .failedRolling presented releases guard.1 guard.2

variable {eventId sinkOutputPath : String}

theorem failUnclaimedTask_cases (presented : call.presented = none) :
    StepCases now row call
      ((failUnclaimedTask runtime now row eventId reason sinkOutputPath).map .changed) :=
  updateWhere_cases fun guard => .failedUnclaimed presented guard.2.1 guard.2.2

theorem refusedFinalizer_refused (row : EvidenceTask) (eventId : String) :
    Refused row ((refusedFinalizer row eventId).map .finalizerClaim) := by
  refine ⟨rfl, rfl, ?_, rfl⟩
  simp only [refusedFinalizer, Transition.map, Returned.refused, bne_iff_ne, ne_eq]
  split
  · simp
  · split <;> simp

variable {leaseSeconds : Int}

theorem claimRollingTask_cases {workerId token : String} {phase : MaterializationPhase}
    {transition : Transition (Option MaterializationLease)}
    (executed : claimRollingTask now row eventId workerId token phase leaseSeconds =
      .ok transition) :
    StepCases now row (.claimRollingTask eventId workerId token phase leaseSeconds)
      (transition.map .rollingLease) := by
  unfold claimRollingTask at executed
  by_cases running : phase = .imageRunning ∨ phase = .remuxRunning
  · rw [if_neg (not_not_intro running)] at executed
    by_cases guard : row.eventId = eventId ∧ RollingClaimable row now
    · rw [if_pos guard] at executed
      cases executed
      rcases guard with ⟨sameEvent, claimable⟩
      subst sameEvent
      exact .inr ⟨rfl, .claimedRolling running claimable⟩
    · rw [if_neg guard] at executed
      cases executed
      exact .inl ⟨rfl, rfl, rfl, rfl⟩
  · rw [if_pos running] at executed
    cases executed

variable {retryHint : Int} {transition : Transition Bool}

theorem retryRollingTask_cases
    (executed : retryRollingTask runtime now row lease reason retryHint = .ok transition) :
    StepCases now row (.retryRollingTask lease reason retryHint)
      (transition.map .changed) := by
  simp only [retryRollingTask] at executed
  split at executed
  · cases executed
    exact failRollingTask_cases rfl rfl
  · rcases bind_eq_ok executed with ⟨_, _, returned⟩
    cases returned
    refine updateWhere_cases fun guard => .retriedRolling ?_ guard.1 guard.2
    split
    · exact .inl rfl
    · exact .inr rfl

theorem retryFinalizerHandoff_cases
    (executed : retryFinalizerHandoff runtime now row lease reason retryHint = .ok transition) :
    StepCases now row (.retryFinalizerHandoff lease reason retryHint)
      (transition.map .changed) := by
  simp only [retryFinalizerHandoff] at executed
  split at executed
  · cases executed
    exact failRollingTask_cases rfl rfl
  · rcases bind_eq_ok executed with ⟨_, _, returned⟩
    cases returned
    exact updateWhere_cases fun guard =>
      .retriedHandoff guard.1 guard.2.1 guard.2.2.1 guard.2.2.2

theorem persistFinalizerHandoff_cases {handoff : Handoff}
    (executed : persistFinalizerHandoff now row lease sinkOutputPath handoff leaseSeconds =
      .ok transition) :
    StepCases now row (.persistFinalizerHandoff lease sinkOutputPath handoff leaseSeconds)
      (transition.map .changed) := by
  simp only [persistFinalizerHandoff] at executed
  rcases bind_eq_ok executed with ⟨_, accepted, returned⟩
  cases returned
  exact updateWhere_cases fun guard =>
    .persistedHandoff accepted guard.1 guard.2.1 guard.2.2

theorem completeFinalizerTask_cases {status : MaterializationStatus}
    {clipPath metadataPath outputRoot : String}
    (executed : completeFinalizerTask runtime now row lease status reason clipPath
      metadataPath outputRoot = .ok transition) :
    StepCases now row
      (.completeFinalizerTask lease status reason clipPath metadataPath outputRoot)
      (transition.map .changed) := by
  simp only [completeFinalizerTask] at executed
  by_cases outcome : status = .materialized ∨ status = .failed
  · rw [if_neg (not_not_intro outcome)] at executed
    cases executed
    exact updateWhere_cases fun guard => .completed outcome guard.1 guard.2
  · rw [if_pos outcome] at executed
    cases executed

theorem claimFinalizerExact_cases {workerId : String}
    {expected : MaterializationLease} {transition : Transition FinalizerClaim}
    (executed : claimFinalizerExact now row eventId sinkOutputPath workerId leaseSeconds
      expected = .ok transition) :
    StepCases now row
      (.claimFinalizerExact eventId sinkOutputPath workerId leaseSeconds expected)
      (transition.map .finalizerClaim) := by
  unfold claimFinalizerExact at executed
  by_cases mismatch : expected.eventId ≠ eventId
  · rw [if_pos mismatch] at executed
    cases executed
  · rw [if_neg mismatch] at executed
    split at executed
    · cases executed
    · rename_i complete
      by_cases ready : ExactTransferReady row expected
      · rw [if_pos ready] at executed
        cases executed
        have sameEvent : row.eventId = eventId :=
          ready.2.2.2.2.1.trans (not_not.mp mismatch)
        subst sameEvent
        exact .inr ⟨rfl, .transferred ready fun zero => complete (.inr zero)⟩
      · rw [if_neg ready] at executed
        cases executed
        exact .inl (refusedFinalizer_refused row eventId)

theorem claimFinalizerGeneric_cases (now : Int) (row : EvidenceTask) (locked : Bool)
    (eventId sinkOutputPath workerId newToken : String) (leaseSeconds : Int) :
    StepCases now row
      (.claimFinalizerGeneric locked eventId sinkOutputPath workerId newToken leaseSeconds)
      ((claimFinalizerGeneric now row locked eventId sinkOutputPath workerId newToken
        leaseSeconds).map .finalizerClaim) := by
  unfold claimFinalizerGeneric
  by_cases guard : row.eventId = eventId ∧ locked = false ∧ GenericClaimReady row now
  · rw [if_pos guard]
    rcases guard with ⟨sameEvent, free, ready⟩
    subst sameEvent free
    right
    split
    · rename_i token leased
      exact ⟨rfl, .tookOver ready leased⟩
    · rename_i unleased
      exact ⟨rfl, .claimedUnleased ready unleased⟩
  · rw [if_neg guard]
    exact .inl (refusedFinalizer_refused row eventId)

theorem retryUnclaimedFinalizerHandoff_cases {attempt : Nat}
    (executed : retryUnclaimedFinalizerHandoff runtime now row attempt eventId reason
      retryHint = .ok transition) :
    StepCases now row (.retryUnclaimedFinalizerHandoff attempt eventId reason retryHint)
      (transition.map .changed) := by
  simp only [retryUnclaimedFinalizerHandoff] at executed
  split at executed
  · cases executed
    exact failUnclaimedTask_cases rfl
  · rcases bind_eq_ok executed with ⟨_, _, returned⟩
    cases returned
    refine updateWhere_cases fun guard => ?_
    rcases guard with ⟨sameEvent, unleased⟩
    subst sameEvent
    exact .retriedUnclaimedHandoff unleased

theorem scheduleUnclaimedRetry_cases {attempt : Nat}
    (executed : scheduleUnclaimedRetry runtime now row attempt eventId reason retryHint
      sinkOutputPath = .ok transition) :
    StepCases now row
      (.scheduleUnclaimedRetry attempt eventId reason retryHint sinkOutputPath)
      (transition.map .changed) := by
  simp only [scheduleUnclaimedRetry] at executed
  split at executed
  · cases executed
    exact failUnclaimedTask_cases rfl
  · rcases bind_eq_ok executed with ⟨_, _, returned⟩
    cases returned
    refine updateWhere_cases fun guard => ?_
    rcases guard with ⟨sameEvent, claimable, unleased⟩
    subst sameEvent
    exact .scheduledUnclaimed claimable unleased

theorem deferTerminalTask_cases {lease : Option MaterializationLease}
    (executed : deferTerminalTask runtime now row eventId reason sinkOutputPath lease =
      .ok transition) :
    StepCases now row (.deferTerminalTask eventId reason sinkOutputPath lease)
      (transition.map .changed) := by
  simp only [deferTerminalTask] at executed
  split at executed
  · cases executed
  · cases executed
    refine updateWhere_cases fun guard => ?_
    rcases guard with ⟨sameEvent, active, fence⟩
    subst sameEvent
    exact .deferred active fence

theorem recover_cases (now : Int) (row : EvidenceTask) (statement : RecoveryStatement)
    (sourceIds : List String) :
    StepCases now row (.recover statement sourceIds)
      ((statement.execute now row sourceIds).map .changed) := by
  cases statement with
  | expireReady =>
    exact updateWhere_cases fun guard =>
      .expiredReady guard.1 guard.2.1 guard.2.2.1 guard.2.2.2.1
  | markSlaMissed => exact updateWhere_cases fun guard => .markedSlaMissed guard.1
  | recoverHandoff =>
    exact updateWhere_cases fun guard =>
      .recoveredHandoff guard.1 guard.2.1 guard.2.2.2.1
  | expireLease =>
    exact updateWhere_cases fun guard =>
      .expiredLease guard.1 guard.2.1 guard.2.2.2.1 guard.2.2.2.2.1
  | retryLostLease =>
    exact updateWhere_cases fun guard =>
      .lostLease guard.1 guard.2.1 guard.2.2.2.1 guard.2.2.2.2.1

theorem stepCases_of_map {α : Type} {result : Except PyError (Transition α)} {wrap : α → Returned}
    {transition : Transition Returned} (executed : result.map (·.map wrap) = .ok transition)
    (known : ∀ inner, result = .ok inner → StepCases now row call (inner.map wrap)) :
    StepCases now row call transition := by
  rcases map_eq_ok executed with ⟨inner, ran, rfl⟩
  exact known inner ran

/-- What any call does: nothing at all, or exactly one of the listed writes. -/
theorem execute_cases {transition : Transition Returned}
    (executed : execute runtime now row call = .ok transition) :
    StepCases now row call transition := by
  cases call with
  | claimRollingTask =>
    exact stepCases_of_map executed fun _ => claimRollingTask_cases
  | heartbeatLease =>
    cases executed
    exact updateWhere_cases fun guard => .heartbeat guard.1 guard.2
  | retryRollingTask =>
    exact stepCases_of_map executed fun _ => retryRollingTask_cases
  | failRollingTask =>
    cases executed
    exact failRollingTask_cases rfl rfl
  | retryFinalizerHandoff =>
    exact stepCases_of_map executed fun _ => retryFinalizerHandoff_cases
  | persistFinalizerHandoff =>
    exact stepCases_of_map executed fun _ => persistFinalizerHandoff_cases
  | completeFinalizerTask =>
    exact stepCases_of_map executed fun _ => completeFinalizerTask_cases
  | claimFinalizerExact =>
    exact stepCases_of_map executed fun _ => claimFinalizerExact_cases
  | claimFinalizerGeneric locked eventId sinkOutputPath workerId newToken leaseSeconds =>
    cases executed
    exact claimFinalizerGeneric_cases now row locked eventId sinkOutputPath workerId
      newToken leaseSeconds
  | retryUnclaimedFinalizerHandoff =>
    exact stepCases_of_map executed fun _ => retryUnclaimedFinalizerHandoff_cases
  | scheduleUnclaimedRetry =>
    exact stepCases_of_map executed fun _ => scheduleUnclaimedRetry_cases
  | failUnclaimedTask =>
    cases executed
    exact failUnclaimedTask_cases rfl
  | deferTerminalTask =>
    exact stepCases_of_map executed fun _ => deferTerminalTask_cases
  | recover statement sourceIds =>
    cases executed
    exact recover_cases now row statement sourceIds

theorem Wrote.active {now : Int} {row after : EvidenceTask} {call : Call} {events : EventWrite}
    {granted : Option MaterializationLease} (wrote : Wrote now row call after events granted) :
    row.materializationStatus.isTerminal = false := by
  have ofRunning : row.materializationStatus = .running →
      row.materializationStatus.isTerminal = false := by
    intro running
    rw [running]
    rfl
  have ofClaimable : row.materializationStatus.claimable = true →
      row.materializationStatus.isTerminal = false := fun claimable =>
    (MaterializationStatus.isTerminal_eq_false_iff _).mpr (.inl claimable)
  cases wrote with
  | claimedRolling _ claimable => exact ofClaimable claimable.1
  | heartbeat running | failedRolling _ _ running | retriedRolling _ running
      | retriedHandoff running | persistedHandoff _ running | completed _ running =>
    exact ofRunning running
  | transferred ready => exact ofRunning ready.1
  | tookOver ready | claimedUnleased ready => exact ready.1
  | retriedUnclaimedHandoff unleased => exact ofRunning unleased.1
  | scheduledUnclaimed claimable => exact ofClaimable claimable
  | failedUnclaimed _ active | deferred active => exact active
  | expiredReady _ claimable => exact ofClaimable claimable
  | markedSlaMissed running | recoveredHandoff running | expiredLease running
      | lostLease running => exact ofRunning running

/-! ## A sample task -/

def sampleTask : EvidenceTask where
  eventId := "event"
  status := "pending"
  materializationStatus := .manifestReady
  phase := .waitingReady
  phaseUpdatedAt := none
  owner := .rolling
  readyAt := some 0
  deadlineAt := none
  nextAttemptAt := none
  retryReason := none
  deferReason := none
  failureReason := none
  expiredReason := none
  errorMessage := none
  leaseOwner := none
  leaseToken := none
  leaseGeneration := 0
  leaseExpiresAt := none
  leaseHeartbeatAt := none
  handoff := []
  attemptCount := 0
  missedDuringValidLease := false
  sinkOutputPath := none
  clipPath := none
  metadataPath := none
  outputRoot := none
  lastMaterializationAt := none
  sourceId := none
  replaySourceId := none

def sampleHandoff (token : String) : Handoff :=
  requiredHandoffFields.map fun field => (field, if field = "attempt_token" then token else "1")

def remuxLease : MaterializationLease :=
  { eventId := "event", owner := "worker", token := "token", generation := 1,
    phase := .remuxRunning }

end VideoAnalysis.Lifecycle
