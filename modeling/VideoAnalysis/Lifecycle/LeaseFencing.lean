import Mathlib.Data.List.Nodup
import VideoAnalysis.Foundation.Machine
import VideoAnalysis.Lifecycle.Calls

/-! # Lease fencing

Any number of workers and the recovery pass call the transitions of one row in
any order and at any time. `holder` is the abstract owner, told from the calls
and their results alone: a claim makes its lease the holder, and an accepted
retry, failure, completion or recovery leaves nobody. The fence of the row is
shown to implement exactly this register for the leases that claims returned.
-/

namespace VideoAnalysis.Lifecycle

open Foundation

structure FencingState where
  row : EvidenceTask
  granted : List MaterializationLease
  holder : Option MaterializationLease
  deriving DecidableEq

def Effective (row : EvidenceTask) (lease : MaterializationLease) : Prop :=
  row.materializationStatus = .running ∧ row.HoldsFence lease

instance (row : EvidenceTask) (lease : MaterializationLease) :
    Decidable (Effective row lease) := by
  unfold Effective
  infer_instance

/-- The token `uuid4` drew for the call. -/
def Call.drawnToken : Call → Option String
  | .claimRollingTask _ _ token _ _ => some token
  | .claimFinalizerGeneric _ _ _ _ newToken _ => some newToken
  | _ => none

def TokensDistinct (state : FencingState) (call : Call) : Prop :=
  ∀ lease ∈ state.granted, call.drawnToken ≠ some lease.token

instance (state : FencingState) (call : Call) : Decidable (TokensDistinct state call) := by
  unfold TokensDistinct
  infer_instance

def nextHolder (holder : Option MaterializationLease) (call : Call) (returned : Returned) :
    Option MaterializationLease :=
  if returned.refused = true then holder
  else returned.granted.or (if call.releases = true then none else holder)

def invoke (runtime : PyRuntime) (state : FencingState) (invocation : Invocation) :
    FencingState :=
  match execute runtime invocation.now state.row invocation.call with
  | .ok transition =>
    { row := transition.row
      granted := transition.returned.granted.toList ++ state.granted
      holder := nextHolder state.holder invocation.call transition.returned }
  | .error _ => state

/-- One row under concurrent callers; `uuid4` never repeats a token. -/
def leaseMachine (runtime : PyRuntime) : Machine FencingState Invocation where
  initial state := state.row.leaseToken = none ∧ state.granted = [] ∧ state.holder = none
  step state invocation :=
    if TokensDistinct state invocation.call then some (invoke runtime state invocation)
    else none

/-- The token a finalizer claim keeps, with the worker that takes it over. -/
def Call.keptToken (row : EvidenceTask) : Call → Option (String × String)
  | .claimFinalizerExact _ _ workerId _ expected => some (expected.token, workerId)
  | .claimFinalizerGeneric _ _ _ workerId _ _ => row.leaseToken.map fun token => (token, workerId)
  | _ => none

/-- A finalizer claim that keeps a lease token is made by a worker that has not
held that token before. -/
def NewHolder (state : FencingState) (invocation : Invocation) : Prop :=
  ∀ lease ∈ state.granted, invocation.call.keptToken state.row ≠ some (lease.token, lease.owner)

instance (state : FencingState) (invocation : Invocation) :
    Decidable (NewHolder state invocation) := by
  unfold NewHolder
  infer_instance

def fencedMachine (runtime : PyRuntime) : Machine FencingState Invocation :=
  (leaseMachine runtime).restrict NewHolder

/-- Every call made with the lease is refused, or raises on its own arguments
whatever the row holds. -/
def Superseded (runtime : PyRuntime) (row : EvidenceTask) (lease : MaterializationLease) :
    Prop :=
  ∀ now call, call.presented = some lease →
    (∃ transition, execute runtime now row call = .ok transition ∧ Refused row transition) ∨
      ∃ raised, ∀ anyRow, execute runtime now anyRow call = .error raised

/-- At most one granted lease is effective, it is the holder's, and a lease
that has passed on is superseded for good. -/
def LeaseFencing (runtime : PyRuntime) (machine : Machine FencingState Invocation) : Prop :=
  ∀ state, machine.Reachable state →
    (∀ first ∈ state.granted, ∀ second ∈ state.granted,
      Effective state.row first → Effective state.row second → first = second) ∧
    ∀ lease ∈ state.granted,
      (Effective state.row lease ↔ state.holder = some lease) ∧
      (state.holder ≠ some lease → ∀ invocations later,
        machine.run state invocations = some later → Superseded runtime later.row lease)

/-! ## What a step does to the fence -/

structure KeepsFence (before after : EvidenceTask) : Prop where
  eventId : after.eventId = before.eventId
  owner : after.leaseOwner = before.leaseOwner
  token : after.leaseToken = before.leaseToken
  generation : after.leaseGeneration = before.leaseGeneration
  running : before.materializationStatus = .running → after.materializationStatus = .running

theorem KeepsFence.effective {before after : EvidenceTask} {lease : MaterializationLease}
    (kept : KeepsFence before after) (effective : Effective before lease) :
    Effective after lease := by
  rcases effective with ⟨running, sameEvent, sameOwner, sameToken, sameGeneration⟩
  exact ⟨kept.running running, kept.eventId.trans sameEvent, kept.owner.trans sameOwner,
    kept.token.trans sameToken, kept.generation.trans sameGeneration⟩

variable {call : Call}

/-- A write releases the lease, finds and leaves the row without one, keeps the
fence, or grants a lease under a drawn token or under the kept one. -/
theorem Wrote.fence {now : Int} {row after : EvidenceTask} {events : EventWrite}
    {granted : Option MaterializationLease} (wrote : Wrote now row call after events granted) :
    (granted = none ∧ call.releases = true ∧ after.leaseToken = none) ∨
    (granted = none ∧ row.leaseToken = none ∧ after.leaseToken = none) ∨
    (granted = none ∧ call.releases = false ∧ KeepsFence row after) ∨
    ∃ lease, granted = some lease ∧ Effective after lease ∧
      (call.drawnToken = some lease.token ∨
        call.keptToken row = some (lease.token, lease.owner)) := by
  cases wrote with
  | claimedRolling =>
    exact .inr (.inr (.inr ⟨_, rfl, ⟨rfl, rfl, rfl, rfl, rfl⟩, .inl rfl⟩))
  | heartbeat =>
    exact .inr (.inr (.inl ⟨rfl, rfl, rfl, rfl, rfl, rfl, id⟩))
  | failedRolling _ releases => exact .inl ⟨rfl, releases, rfl⟩
  | retriedRolling | retriedHandoff => exact .inl ⟨rfl, rfl, rfl⟩
  | persistedHandoff =>
    exact .inr (.inr (.inl ⟨rfl, rfl, rfl, rfl, rfl, rfl, fun _ => rfl⟩))
  | completed => exact .inl ⟨rfl, rfl, rfl⟩
  | transferred =>
    exact .inr (.inr (.inr ⟨_, rfl, ⟨rfl, rfl, rfl, rfl, rfl⟩, .inr rfl⟩))
  | tookOver _ leased =>
    refine .inr (.inr (.inr ⟨_, rfl, ⟨rfl, rfl, rfl, rfl, rfl⟩, .inr ?_⟩))
    simp [Call.keptToken, leased]
  | claimedUnleased =>
    exact .inr (.inr (.inr ⟨_, rfl, ⟨rfl, rfl, rfl, rfl, rfl⟩, .inl rfl⟩))
  | retriedUnclaimedHandoff unleased =>
    exact .inr (.inl ⟨rfl, unleased.2.2.2, unleased.2.2.2⟩)
  | scheduledUnclaimed _ unleased => exact .inr (.inl ⟨rfl, unleased, unleased⟩)
  | failedUnclaimed _ _ unleased => exact .inr (.inl ⟨rfl, unleased, rfl⟩)
  | deferred => exact .inl ⟨rfl, rfl, rfl⟩
  | expiredReady _ _ _ unleased =>
    exact .inr (.inl ⟨rfl, unleased, unleased⟩)
  | markedSlaMissed => exact .inr (.inr (.inl ⟨rfl, rfl, rfl, rfl, rfl, rfl, id⟩))
  | recoveredHandoff | expiredLease | lostLease => exact .inl ⟨rfl, rfl, rfl⟩

variable {lease : MaterializationLease}

theorem Wrote.presented_fence {now : Int} {row after : EvidenceTask}
    {events : EventWrite} {granted : Option MaterializationLease}
    (wrote : Wrote now row call after events granted) (presented : call.presented = some lease) :
    row.leaseOwner = some lease.owner ∧ row.leaseToken = some lease.token ∧
      row.leaseGeneration = lease.generation := by
  have ofFence : ∀ {used : MaterializationLease}, row.HoldsFence used → used = lease →
      row.leaseOwner = some lease.owner ∧ row.leaseToken = some lease.token ∧
        row.leaseGeneration = lease.generation := by
    intro used fence equal
    subst equal
    exact fence.2
  cases wrote with
  | heartbeat _ fence => exact ofFence fence (Option.some.inj presented)
  | failedRolling shown _ _ fence =>
    exact ofFence fence (Option.some.inj (shown.symm.trans presented))
  | retriedRolling _ _ fence => exact ofFence fence (Option.some.inj presented)
  | retriedHandoff _ _ _ fence | persistedHandoff _ _ _ fence =>
    exact ofFence fence (Option.some.inj presented)
  | completed _ _ fence => exact ofFence fence (Option.some.inj presented)
  | transferred ready =>
    exact ofFence ready.2.2.2.2 (Option.some.inj presented)
  | failedUnclaimed absent =>
    rw [absent] at presented
    cases presented
  | deferred _ fence =>
    simp only [Call.presented] at presented
    subst presented
    exact fence
  | _ => cases presented

variable {raised : PyError}

private theorem map_eq_error {α β : Type} {result : Except PyError α} {wrap : α → β} :
    result.map wrap = .error raised ↔ result = .error raised := by
  cases result <;> simp [Except.map]

private theorem bind_pure_eq_error {α β : Type} {result : Except PyError α} {next : α → β} :
    (result >>= fun value => pure (next value)) = .error raised ↔ result = .error raised := by
  cases result <;> simp [bind, Except.bind, pure, Except.pure]

private theorem retry_eq_error {α β : Type} {refused : Prop} [Decidable refused]
    {value other : β} {result : Except PyError α} {next after : α → β}
    (failed : (if refused then .ok value else result >>= fun found => pure (next found)) =
      .error raised) :
    (if refused then .ok other else result >>= fun found => pure (after found)) =
      .error raised := by
  split at failed
  · cases failed
  · next retryable =>
    rw [if_neg retryable]
    exact bind_pure_eq_error.mpr (bind_pure_eq_error.mp failed)

theorem execute_error_any_row {runtime : PyRuntime} {now : Int} {row : EvidenceTask}
    (failed : execute runtime now row call = .error raised) (anyRow : EvidenceTask) :
    execute runtime now anyRow call = .error raised := by
  cases call with
  | claimRollingTask _ _ _ phase =>
    simp only [execute, map_eq_error, claimRollingTask] at failed ⊢
    by_cases running : phase = .imageRunning ∨ phase = .remuxRunning
    · rw [if_neg (not_not_intro running)] at failed
      split at failed <;> cases failed
    · rw [if_pos running] at failed ⊢
      exact failed
  | retryRollingTask =>
    simp only [execute, map_eq_error, retryRollingTask] at failed ⊢
    exact retry_eq_error failed
  | retryFinalizerHandoff =>
    simp only [execute, map_eq_error, retryFinalizerHandoff] at failed ⊢
    exact retry_eq_error failed
  | persistFinalizerHandoff =>
    simp only [execute, map_eq_error, persistFinalizerHandoff] at failed ⊢
    exact bind_pure_eq_error.mpr (bind_pure_eq_error.mp failed)
  | completeFinalizerTask lease status reason clipPath metadataPath outputRoot =>
    simp only [execute, map_eq_error, completeFinalizerTask] at failed ⊢
    split at failed
    · rename_i outcome
      rw [if_pos outcome]
      exact failed
    · cases failed
  | claimFinalizerExact eventId sinkOutputPath workerId leaseSeconds expected =>
    simp only [execute, map_eq_error, claimFinalizerExact] at failed ⊢
    split at failed
    · rename_i mismatch
      rw [if_pos mismatch]
      exact failed
    · rename_i sameEvent
      rw [if_neg sameEvent]
      split at failed
      · rename_i incomplete
        rw [if_pos incomplete]
        exact failed
      · split at failed <;> cases failed
  | retryUnclaimedFinalizerHandoff =>
    simp only [execute, map_eq_error, retryUnclaimedFinalizerHandoff] at failed ⊢
    exact retry_eq_error failed
  | scheduleUnclaimedRetry =>
    simp only [execute, map_eq_error, scheduleUnclaimedRetry] at failed ⊢
    exact retry_eq_error failed
  | deferTerminalTask eventId reason sinkOutputPath lease =>
    simp only [execute, map_eq_error, deferTerminalTask] at failed ⊢
    split at failed
    · rename_i retryable
      rw [if_pos retryable]
      exact failed
    · cases failed
  | heartbeatLease | failRollingTask => cases failed
  | claimFinalizerGeneric =>
    cases failed
  | failUnclaimedTask | recover => cases failed

/-! ## The register and the fence -/

def identity (lease : MaterializationLease) : String × String := (lease.token, lease.owner)

/-- Granted leases are told apart by token and owner, and the row stores the
fence of the holder exactly when it stores a token. -/
structure Fenced (state : FencingState) : Prop where
  distinct : (state.granted.map identity).Nodup
  holderGranted : ∀ lease, state.holder = some lease → lease ∈ state.granted
  leased : state.row.leaseToken ≠ none →
    ∃ lease, state.holder = some lease ∧ Effective state.row lease
  unleased : state.row.leaseToken = none → state.holder = none

variable {state : FencingState}

theorem Fenced.holder_of_stored (fenced : Fenced state)
    (granted : lease ∈ state.granted) (owner : state.row.leaseOwner = some lease.owner)
    (token : state.row.leaseToken = some lease.token) : state.holder = some lease := by
  rcases fenced.leased (by simp [token]) with ⟨holder, held, effective⟩
  have sameToken : holder.token = lease.token :=
    Option.some.inj (effective.2.2.2.1.symm.trans token)
  have sameOwner : holder.owner = lease.owner :=
    Option.some.inj (effective.2.2.1.symm.trans owner)
  have sameLease : holder = lease :=
    List.inj_on_of_nodup_map fenced.distinct (fenced.holderGranted holder held) granted
      (by simp [identity, sameToken, sameOwner])
  rw [held, sameLease]

theorem Fenced.effective_iff_holder (fenced : Fenced state) (granted : lease ∈ state.granted) :
    Effective state.row lease ↔ state.holder = some lease := by
  constructor
  · intro effective
    exact fenced.holder_of_stored granted effective.2.2.1 effective.2.2.2.1
  · intro held
    have stored : state.row.leaseToken ≠ none := by
      intro unleased
      rw [fenced.unleased unleased] at held
      cases held
    rcases fenced.leased stored with ⟨_, isHolder, effective⟩
    rw [held] at isHolder
    cases isHolder
    exact effective

theorem Fenced.superseded {runtime : PyRuntime} (fenced : Fenced state)
    (granted : lease ∈ state.granted) (passed : state.holder ≠ some lease) :
    Superseded runtime state.row lease := by
  intro now call presented
  cases executed : execute runtime now state.row call with
  | error raised => exact .inr ⟨raised, fun anyRow => execute_error_any_row executed anyRow⟩
  | ok transition =>
    left
    rcases execute_cases executed with refused | ⟨_, wrote⟩
    · exact ⟨transition, rfl, refused⟩
    · have stored := wrote.presented_fence presented
      exact absurd (fenced.holder_of_stored granted stored.1 stored.2.1) passed

/-! ## The invariant over every interleaving -/

section Interleaving

variable {runtime : PyRuntime} {current next : FencingState} {invocation : Invocation}

theorem fencedStep_cases (step : (fencedMachine runtime).step current invocation = some next) :
    next = current ∨
    ∃ row events granted, NewHolder current invocation ∧
      TokensDistinct current invocation.call ∧
      Wrote invocation.now current.row invocation.call row events granted ∧
      next =
        { row
          granted := granted.toList ++ current.granted
          holder :=
            granted.or (if invocation.call.releases = true then none else current.holder) } := by
  rcases Machine.restrict_step_eq_some.mp step with ⟨newHolder, baseStep⟩
  simp only [leaseMachine] at baseStep
  split at baseStep
  · rename_i tokens
    cases baseStep
    unfold invoke
    cases executed : execute runtime invocation.now current.row invocation.call with
    | error => exact .inl rfl
    | ok =>
      rcases execute_cases executed with refused | ⟨accepted, wrote⟩
      · left
        simp [nextHolder, refused.row, refused.granted, refused.returned]
      · right
        exact ⟨_, _, _, newHolder, tokens, wrote, by simp [nextHolder, accepted]⟩
  · cases baseStep

theorem identity_fresh (newHolder : NewHolder current invocation)
    (tokens : TokensDistinct current invocation.call)
    (source : invocation.call.drawnToken = some lease.token ∨
      invocation.call.keptToken current.row = some (lease.token, lease.owner)) :
    identity lease ∉ current.granted.map identity := by
  intro member
  rcases List.mem_map.mp member with ⟨earlier, granted, same⟩
  simp only [identity, Prod.mk.injEq] at same
  rcases source with drawn | kept
  · exact tokens earlier granted (by rw [drawn, same.1])
  · exact newHolder earlier granted (by rw [kept, same.1, same.2])

theorem fenced_step (fenced : Fenced current)
    (step : (fencedMachine runtime).step current invocation = some next) : Fenced next := by
  rcases fencedStep_cases step with rfl | ⟨row, events, granted, newHolder, tokens, wrote, rfl⟩
  · exact fenced
  · rcases wrote.fence with ⟨rfl, releases, released⟩ | ⟨rfl, unleased, released⟩ |
      ⟨rfl, keeps, kept⟩ | ⟨lease, rfl, effective, source⟩
    · refine ⟨by simpa using fenced.distinct, ?_, ?_, ?_⟩
      · intro lease held
        simp [releases] at held
      · intro stored
        exact absurd released stored
      · intro _
        simp [releases]
    · have nobody := fenced.unleased unleased
      refine ⟨by simpa using fenced.distinct, ?_, ?_, ?_⟩
      · intro lease held
        simp [nobody] at held
      · intro stored
        exact absurd released stored
      · intro _
        simp [nobody]
    · refine ⟨by simpa using fenced.distinct, ?_, ?_, ?_⟩
      · intro lease held
        simp only [Option.none_or, keeps, Bool.false_eq_true, if_false] at held
        simpa using fenced.holderGranted lease held
      · intro stored
        have storedBefore : current.row.leaseToken ≠ none := by
          rw [← kept.token]
          exact stored
        rcases fenced.leased storedBefore with ⟨lease, held, effective⟩
        exact ⟨lease, by simp [keeps, held], kept.effective effective⟩
      · intro unleased
        have nobody := fenced.unleased (kept.token.symm.trans unleased)
        simp [nobody]
    · have fresh := identity_fresh newHolder tokens source
      refine ⟨?_, ?_, ?_, ?_⟩
      · simpa using ⟨by simpa using fresh, fenced.distinct⟩
      · intro holder held
        simp only [Option.some_or, Option.some.injEq] at held
        simp [held]
      · intro _
        exact ⟨lease, by simp, effective⟩
      · intro unleased
        have stored := effective.2.2.2.1
        dsimp only at unleased
        rw [unleased] at stored
        cases stored

theorem fenced_invariant : (fencedMachine runtime).Invariant Fenced where
  initially := by
    rintro state ⟨unleased, granted, holder⟩
    refine ⟨by simp [granted], ?_, ?_, fun _ => holder⟩
    · intro lease held
      rw [holder] at held
      cases held
    · intro stored
      exact absurd unleased stored
  preserved := fun _ _ _ _ fenced step => fenced_step fenced step

theorem passed_step (granted : lease ∈ current.granted) (passed : current.holder ≠ some lease)
    (step : (fencedMachine runtime).step current invocation = some next) :
    lease ∈ next.granted ∧ next.holder ≠ some lease := by
  rcases fencedStep_cases step with
    rfl | ⟨row, events, newLease, newHolder, tokens, wrote, rfl⟩
  · exact ⟨granted, passed⟩
  · refine ⟨List.mem_append_right _ granted, ?_⟩
    have notRestored :
        (if invocation.call.releases = true then none else current.holder) ≠ some lease := by
      split
      · simp
      · exact passed
    rcases wrote.fence with ⟨rfl, _⟩ | ⟨rfl, _⟩ | ⟨rfl, _⟩ | ⟨newest, rfl, effective, source⟩
    · exact notRestored
    · exact notRestored
    · exact notRestored
    · have fresh := identity_fresh newHolder tokens source
      simp only [Option.some_or, ne_eq, Option.some.injEq]
      rintro rfl
      exact fresh (List.mem_map_of_mem granted)

theorem passed_run {invocations : List Invocation} (granted : lease ∈ current.granted)
    (passed : current.holder ≠ some lease)
    (ran : (fencedMachine runtime).run current invocations = some next) :
    lease ∈ next.granted ∧ next.holder ≠ some lease :=
  Machine.run_keeps (fun _ _ _ before step => passed_step before.1 before.2 step)
    ⟨granted, passed⟩ ran

end Interleaving

theorem lease_fencing (runtime : PyRuntime) :
    LeaseFencing runtime (fencedMachine runtime) := by
  intro state reached
  have fenced := fenced_invariant.holds reached
  constructor
  · intro first firstGranted second secondGranted firstEffective secondEffective
    have firstHolds := (fenced.effective_iff_holder firstGranted).mp firstEffective
    have secondHolds := (fenced.effective_iff_holder secondGranted).mp secondEffective
    exact Option.some.inj (firstHolds.symm.trans secondHolds)
  · intro lease granted
    refine ⟨fenced.effective_iff_holder granted, ?_⟩
    intro passed invocations later ran
    have after := passed_run granted passed ran
    exact (fenced_invariant.holds (reached.run ran)).superseded after.1 after.2

/-! ## A worker that succeeds itself -/

def selfTransfer : List Invocation :=
  [⟨1, .claimRollingTask "event" "worker" "token" .remuxRunning 60⟩,
    ⟨2, .persistFinalizerHandoff remuxLease "/sink" (sampleHandoff "token") 60⟩,
    ⟨3, .claimFinalizerExact "event" "/sink" "worker" 60 remuxLease⟩]

def selfTransferred : FencingState :=
  selfTransfer.foldl (invoke .ascii) { row := sampleTask, granted := [], holder := none }

/-- A finalizer claim under the worker id of the remux holder keeps owner, token
and generation, so the remux lease stays effective beside the finalizer's. -/
theorem self_transfer_keeps_old_lease :
    ¬LeaseFencing .ascii (leaseMachine .ascii) := by
  intro fencing
  have begins : (leaseMachine .ascii).Reachable
      { row := sampleTask, granted := [], holder := none } := .start ⟨rfl, rfl, rfl⟩
  have ran : (leaseMachine .ascii).run { row := sampleTask, granted := [], holder := none }
      selfTransfer = some selfTransferred := by decide
  have earlier : remuxLease ∈ selfTransferred.granted := by decide
  have effective : Effective selfTransferred.row remuxLease := by decide
  have passed : selfTransferred.holder ≠ some remuxLease := by decide
  have held := ((fencing selfTransferred (begins.run ran)).2 remuxLease earlier).1.mp effective
  exact passed held

end VideoAnalysis.Lifecycle
