import VideoAnalysis.Lifecycle.Calls

/-! # Retrying a retryable failure

The three transitions that schedule the next attempt of a task, the row each of
them is fenced to, and the attempt number from which its delay is computed.
-/

namespace VideoAnalysis.Lifecycle

inductive RetryTransition where
  | rollingTask (lease : MaterializationLease)
  | finalizerHandoff (lease : MaterializationLease)
  | unclaimed (eventId sinkOutputPath : String)

namespace RetryTransition

/-- The transition on one row, which no other call writes in between. -/
def run (runtime : PyRuntime) (now : Int) (row : EvidenceTask) (reason : String)
    (retryHint : Int) : RetryTransition → Except PyError (Transition Bool)
  | rollingTask lease => retryRollingTask runtime now row lease reason retryHint
  | finalizerHandoff lease => retryFinalizerHandoff runtime now row lease reason retryHint
  | unclaimed eventId sinkOutputPath =>
    scheduleUnclaimedRetry runtime now row row.attemptCount eventId reason retryHint
      sinkOutputPath

/-- The row carries the fence that the transition's update asks for. -/
def CarriesFence (row : EvidenceTask) : RetryTransition → Prop
  | rollingTask lease => row.materializationStatus = .running ∧ row.HoldsFence lease
  | finalizerHandoff lease =>
    row.materializationStatus = .running ∧
      (row.phase = .finalizerPending ∨ row.phase = .finalizing) ∧ row.handoff ≠ [] ∧
      row.HoldsFence lease
  | unclaimed eventId _ =>
    row.eventId = eventId ∧ row.materializationStatus.claimable = true ∧ row.leaseToken = none

instance (row : EvidenceTask) (retry : RetryTransition) : Decidable (retry.CarriesFence row) := by
  cases retry <;> unfold CarriesFence <;> infer_instance

def eventId : RetryTransition → String
  | rollingTask lease | finalizerHandoff lease => lease.eventId
  | unclaimed eventId _ => eventId

/-- The attempt number whose backoff the transition uses. A handoff turned away by
a full finalizer counts as a first attempt. -/
def delayAttempt (runtime : PyRuntime) (row : EvidenceTask) (reason : String) :
    RetryTransition → Nat
  | rollingTask lease => max 1 lease.generation
  | finalizerHandoff lease =>
    if (classifyReason runtime reason).code = .capacityUnavailable then 1
    else max 1 lease.generation
  | unclaimed _ _ => max 1 row.attemptCount

end RetryTransition

/-! ## The delay -/

/-- The part of a delay that spreads retries, up to 250 ms. -/
def retryJitter (runtime : PyRuntime) (attempt : Nat) (jitterKey : String) : Int :=
  (runtime.digestPrefix (jitterKey ++ ":" ++ toString (max 1 attempt)) % 251 : Nat) * 1000

theorem retryJitter_bounds (runtime : PyRuntime) (attempt : Nat) (jitterKey : String) :
    0 ≤ retryJitter runtime attempt jitterKey ∧
      retryJitter runtime attempt jitterKey ≤ 250000 := by
  unfold retryJitter
  generalize runtime.digestPrefix (jitterKey ++ ":" ++ toString (max 1 attempt)) = digest
  omega

def retryBase (attempt : Nat) (retryHint : Int) : Int :=
  max retryHint (min 10000000 (500000 * 2 ^ (max 1 attempt - 1)))

theorem retryBase_bounds (attempt : Nat) (retryHint : Int) :
    max retryHint 500000 ≤ retryBase attempt retryHint ∧
      retryBase attempt retryHint ≤ max retryHint 10000000 := by
  have positive : (1 : Int) ≤ 2 ^ (max 1 attempt - 1) := by
    exact_mod_cast Nat.one_le_two_pow
  unfold retryBase
  omega

theorem retryBase_mono {earlier later : Nat} (ordered : earlier ≤ later) (retryHint : Int) :
    retryBase earlier retryHint ≤ retryBase later retryHint := by
  have powers : (2 : Int) ^ (max 1 earlier - 1) ≤ 2 ^ (max 1 later - 1) := by
    exact_mod_cast Nat.pow_le_pow_right (by omega) (by omega)
  unfold retryBase
  omega

variable {runtime : PyRuntime}

theorem retryDelaySeconds_eq {attempt : Nat} (bounded : attempt ≤ 1024)
    (retryHint : Int) (jitterKey : String) :
    retryDelaySeconds runtime attempt retryHint jitterKey =
      .ok (retryBase attempt retryHint + retryJitter runtime attempt jitterKey) := by
  have noOverflow : ¬ 1024 ≤ max 1 attempt - 1 := by omega
  simp only [retryDelaySeconds, retryBackoff, if_neg noOverflow]
  rfl

theorem retryDelaySeconds_overflows {attempt : Nat}
    (unbounded : 1024 < attempt) (retryHint : Int) (jitterKey : String) :
    retryDelaySeconds runtime attempt retryHint jitterKey = .error .overflowError := by
  have overflow : 1024 ≤ max 1 attempt - 1 := by omega
  simp only [retryDelaySeconds, retryBackoff, if_pos overflow]
  rfl

/-! ## The transition -/

/-- A transition that released the lease and scheduled the next attempt `delay`
microseconds from now. -/
structure Rescheduled (now delay : Int) (transition : Transition Bool) : Prop where
  completed : transition.returned = true
  released : transition.row.leaseToken = none
  scheduled : transition.row.nextAttemptAt = some (now + delay)

/-- The transition completes at a delay between its bounds; without jitter no
earlier attempt would have waited longer. -/
def RetryTransition.Succeeds (runtime : PyRuntime) (now : Int) (row : EvidenceTask)
    (reason : String) (retryHint : Int) (retry : RetryTransition) : Prop :=
  ∃ transition delay,
    retry.run runtime now row reason retryHint = .ok transition ∧
    Rescheduled now delay transition ∧
    max retryHint 500000 ≤ delay ∧ delay ≤ max retryHint 10000000 + 250000 ∧
    ∀ earlier ≤ retry.delayAttempt runtime row reason, ∃ earlierDelay,
      retryDelaySeconds runtime earlier retryHint retry.eventId = .ok earlierDelay ∧
      earlierDelay - retryJitter runtime earlier retry.eventId ≤
        delay - retryJitter runtime (retry.delayAttempt runtime row reason) retry.eventId

theorem RetryTransition.run_fenced {now : Int} {row : EvidenceTask}
    {reason : String} {retryHint : Int} {retry : RetryTransition}
    (retryable : (classifyReason runtime reason).retryable = true)
    (fence : retry.CarriesFence row) :
    (∀ delay, retryDelaySeconds runtime (retry.delayAttempt runtime row reason) retryHint
        retry.eventId = .ok delay →
      ∃ transition, retry.run runtime now row reason retryHint = .ok transition ∧
        Rescheduled now delay transition) ∧
    ∀ raised, retryDelaySeconds runtime (retry.delayAttempt runtime row reason) retryHint
        retry.eventId = .error raised →
      retry.run runtime now row reason retryHint = .error raised := by
  cases retry with
  | rollingTask =>
    simp only [CarriesFence] at fence
    simp only [run, retryRollingTask, retryable, delayAttempt, eventId, Bool.true_eq_false,
      if_false]
    constructor
    · intro delay computed
      rw [computed]
      exact ⟨_, rfl, by simp only [updateWhere, if_pos fence], by
        simp only [updateWhere, if_pos fence, retriedRollingRow,
          EvidenceTask.releaseLease], by
        simp only [updateWhere, if_pos fence, retriedRollingRow]⟩
    · intro raised computed
      rw [computed]
      rfl
  | finalizerHandoff =>
    simp only [CarriesFence] at fence
    simp only [run, retryFinalizerHandoff, retryable, delayAttempt, eventId,
      Bool.true_eq_false, if_false]
    constructor
    · intro delay computed
      rw [computed]
      exact ⟨_, rfl, by simp only [updateWhere, if_pos fence], by
        simp only [updateWhere, if_pos fence, retriedHandoffRow,
          EvidenceTask.releaseLease], by
        simp only [updateWhere, if_pos fence, retriedHandoffRow]⟩
    · intro raised computed
      rw [computed]
      rfl
  | unclaimed =>
    simp only [CarriesFence] at fence
    simp only [run, scheduleUnclaimedRetry, retryable, delayAttempt, RetryTransition.eventId,
      Bool.true_eq_false, if_false]
    constructor
    · intro delay computed
      rw [computed]
      exact ⟨_, rfl, by simp only [updateWhere, if_pos fence], by
        simpa only [updateWhere, if_pos fence, scheduledUnclaimedRow] using fence.2.2, by
        simp only [updateWhere, if_pos fence, scheduledUnclaimedRow]⟩
    · intro raised computed
      rw [computed]
      rfl

/-- A retryable failure of a fenced row is rescheduled exactly up to attempt 1024;
from there on `math.pow` overflows before the backoff is clamped. -/
theorem retry_succeeds_iff (runtime : PyRuntime) (now : Int) (row : EvidenceTask)
    (reason : String) (retryHint : Int) (retry : RetryTransition)
    (retryable : (classifyReason runtime reason).retryable = true)
    (fence : retry.CarriesFence row) :
    retry.Succeeds runtime now row reason retryHint ↔
      retry.delayAttempt runtime row reason ≤ 1024 := by
  have fenced := @RetryTransition.run_fenced runtime now row reason retryHint retry retryable
    fence
  constructor
  · rintro ⟨transition, delay, ran, _⟩
    by_contra unbounded
    have overflow := @retryDelaySeconds_overflows runtime _ (Nat.lt_of_not_le unbounded)
      retryHint retry.eventId
    rw [fenced.2 _ overflow] at ran
    cases ran
  · intro bounded
    have computed := @retryDelaySeconds_eq runtime _ bounded retryHint retry.eventId
    rcases fenced.1 _ computed with ⟨transition, ran, rescheduled⟩
    have base := retryBase_bounds (retry.delayAttempt runtime row reason) retryHint
    have jitter := retryJitter_bounds runtime (retry.delayAttempt runtime row reason)
      retry.eventId
    refine ⟨transition, _, ran, rescheduled, by omega, by omega, ?_⟩
    intro earlier ordered
    have earlierBounded := Nat.le_trans ordered bounded
    refine ⟨_, retryDelaySeconds_eq earlierBounded retryHint retry.eventId, ?_⟩
    have increasing := retryBase_mono ordered retryHint
    omega

/-- The sample task in its `generation`-th remux. -/
def remuxingTask (generation : Nat) : EvidenceTask :=
  { sampleTask with
    materializationStatus := .running
    phase := .remuxRunning
    leaseOwner := some "worker"
    leaseToken := some "token"
    leaseGeneration := generation }

theorem retry_succeeds_first :
    (RetryTransition.rollingTask remuxLease).Succeeds .ascii 0 (remuxingTask 1) "max_active" 0 :=
  (retry_succeeds_iff .ascii 0 (remuxingTask 1) "max_active" 0 (.rollingTask remuxLease)
    (by decide) (by decide)).mpr (by decide)

theorem retry_overflows_at_generation_1025 :
    (classifyReason .ascii "max_active").retryable = true ∧
      (RetryTransition.rollingTask { remuxLease with generation := 1025 }).CarriesFence
        (remuxingTask 1025) ∧
      (RetryTransition.rollingTask { remuxLease with generation := 1025 }).run .ascii 0
        (remuxingTask 1025) "max_active" 0 = .error .overflowError ∧
      ¬ (RetryTransition.rollingTask { remuxLease with generation := 1025 }).Succeeds .ascii 0
        (remuxingTask 1025) "max_active" 0 := by
  have ran : (RetryTransition.rollingTask { remuxLease with generation := 1025 }).run .ascii 0
      (remuxingTask 1025) "max_active" 0 = .error .overflowError := by
    rfl
  refine ⟨by decide, by decide, ran, ?_⟩
  rintro ⟨transition, delay, completed, _⟩
  rw [ran] at completed
  cases completed

end VideoAnalysis.Lifecycle
