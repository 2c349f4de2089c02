import Mathlib.Algebra.Group.Int.Defs
import Mathlib.Data.List.Infix

/-! # Evidence lifecycle contract

The lifecycle vocabulary, the reason classifier and the retry delay shared by
every transition. Durations are integer microseconds, the resolution of the
database interval they end up in.
-/

namespace VideoAnalysis.Lifecycle

inductive MaterializationStatus where
  | manifestReady | pending | running | materialized | deferred | failed | expired
  | skipped
  deriving DecidableEq

def MaterializationStatus.value : MaterializationStatus → String
  | .manifestReady => "manifest_ready"
  | .pending => "materialization_pending"
  | .running => "materializing"
  | .materialized => "materialized"
  | .deferred => "materialization_deferred"
  | .failed => "materialization_failed"
  | .expired => "materialization_expired"
  | .skipped => "materialization_skipped"

inductive MaterializationPhase where
  | waitingReady | waitingCoverage | imageRunning | remuxRunning
  | finalizerPending | finalizing | terminal | manualQuarantine
  deriving DecidableEq

def MaterializationPhase.value : MaterializationPhase → String
  | .waitingReady => "waiting_ready"
  | .waitingCoverage => "waiting_coverage"
  | .imageRunning => "image_running"
  | .remuxRunning => "remux_running"
  | .finalizerPending => "finalizer_pending"
  | .finalizing => "finalizing"
  | .terminal => "terminal"
  | .manualQuarantine => "manual_quarantine"

inductive EvidenceErrorClass where
  | invalidInput | duplicateTerminal | notReady | capacity | transientDependency
  | permanentExternal | staleOwner | intentionalTerminal | unknown
  deriving DecidableEq

inductive NormalizedReason where
  | coverageNotComplete | noOverlappingFinalSegment | segmentNotStable | segmentDisappeared
  | dbUnavailable | dbPoolTimeout | temporaryIoError | capacityUnavailable | proofNotReady
  | cooldownActive | replayUnavailable | legacyEmptyDeferred | missingEventFramePts
  | invalidRequestedWindow | missingSourceId | missingRuntimeEpoch | stableMetadataInvalid
  | coveredByExistingEvidence | policySkipped | storageHardStop | businessDeadlineExpired
  | ambiguousActiveIdentity | leaseLost | unknown
  deriving DecidableEq

def NormalizedReason.value : NormalizedReason → String
  | .coverageNotComplete => "coverage_not_complete"
  | .noOverlappingFinalSegment => "no_overlapping_final_segment"
  | .segmentNotStable => "segment_not_stable"
  | .segmentDisappeared => "segment_disappeared"
  | .dbUnavailable => "db_unavailable"
  | .dbPoolTimeout => "db_pool_timeout"
  | .temporaryIoError => "temporary_io_error"
  | .capacityUnavailable => "capacity_unavailable"
  | .proofNotReady => "proof_not_ready"
  | .cooldownActive => "cooldown_active"
  | .replayUnavailable => "replay_unavailable"
  | .legacyEmptyDeferred => "legacy_empty_deferred"
  | .missingEventFramePts => "missing_event_frame_pts"
  | .invalidRequestedWindow => "invalid_requested_window"
  | .missingSourceId => "missing_source_id"
  | .missingRuntimeEpoch => "missing_runtime_epoch"
  | .stableMetadataInvalid => "stable_metadata_invalid"
  | .coveredByExistingEvidence => "covered_by_existing_evidence"
  | .policySkipped => "policy_skipped"
  | .storageHardStop => "storage_hard_stop"
  | .businessDeadlineExpired => "business_deadline_expired"
  | .ambiguousActiveIdentity => "ambiguous_active_identity"
  | .leaseLost => "lease_lost"
  | .unknown => "unknown"

def MaterializationStatus.claimable : MaterializationStatus → Bool
  | .manifestReady | .pending => true
  | _ => false

def MaterializationStatus.isTerminal : MaterializationStatus → Bool
  | .materialized | .deferred | .failed | .expired | .skipped => true
  | _ => false

theorem MaterializationStatus.claimable_iff (status : MaterializationStatus) :
    status.claimable = true ↔ status = .manifestReady ∨ status = .pending := by
  cases status <;> simp [claimable]

theorem MaterializationStatus.isTerminal_eq_false_iff (status : MaterializationStatus) :
    status.isTerminal = false ↔ status.claimable = true ∨ status = .running := by
  cases status <;> simp [claimable, isTerminal]

/-- Python exceptions raised by the modelled code, with their messages. -/
inductive PyError where
  | valueError (message : String)
  | overflowError
  | keyError (key : String)

def isSpace (char : Char) : Bool :=
  let code := char.toNat
  (9 ≤ code && code ≤ 13) || (28 ≤ code && code ≤ 32) || code == 0x85 || code == 0xA0 ||
    code == 0x1680 || (0x2000 ≤ code && code ≤ 0x200A) || code == 0x2028 ||
    code == 0x2029 || code == 0x202F || code == 0x205F || code == 0x3000

/-- What the code takes from Python's own tables: case mapping outside ASCII and
the leading two bytes of a SHA-256 digest. -/
structure PyRuntime where
  lowerChar : Char → List Char
  digestPrefix : String → Nat
  lowerChar_ascii : ∀ char : Char, char.toNat < 128 → lowerChar char = [char.toLower]
  lowerChar_space : ∀ char : Char, isSpace char = true → lowerChar char = [char]

theorem toLower_of_isSpace {char : Char} (space : isSpace char = true) :
    char.toLower = char := by
  unfold Char.toLower
  split
  · rename_i upper
    simp only [isSpace, Bool.or_eq_true, Bool.and_eq_true, decide_eq_true_eq,
      beq_iff_eq] at space
    have lower : 65 ≤ char.toNat := UInt32.le_iff_toNat_le.mp upper.1
    have higher : char.toNat ≤ 90 := UInt32.le_iff_toNat_le.mp upper.2
    omega
  · rfl

def PyRuntime.ascii : PyRuntime where
  lowerChar char := [char.toLower]
  digestPrefix _ := 0
  lowerChar_ascii _ _ := rfl
  lowerChar_space _ space := by rw [toLower_of_isSpace space]

/-! ## Reason classification -/

def strip (text : List Char) : List Char :=
  ((text.dropWhile isSpace).reverse.dropWhile isSpace).reverse

/-- `text.split()`: the maximal runs of characters that are not whitespace. -/
def splitWords (text : List Char) : List (List Char) :=
  (text.splitOnP isSpace).filter fun word => !word.isEmpty

def joinWords (words : List (List Char)) : List Char :=
  List.intercalate [' '] words

def PyRuntime.lower (runtime : PyRuntime) (text : List Char) : List Char :=
  text.flatMap runtime.lowerChar

def normalizeReasonText (runtime : PyRuntime) (reason : String) : List Char :=
  joinWords (splitWords (runtime.lower (strip reason.toList)))

structure ReasonRule where
  code : NormalizedReason
  errorClass : EvidenceErrorClass
  fragments : List String

def reasonRules : List ReasonRule :=
  [⟨.coveredByExistingEvidence, .intentionalTerminal,
      ["covered_by_existing_evidence", "covered_by_event:"]⟩,
    ⟨.storageHardStop, .intentionalTerminal, ["storage_hard_limit", "storage_hard_stop"]⟩,
    ⟨.capacityUnavailable, .capacity,
      ["concurrency_limit", "backlog_limit", "capacity_unavailable", "max_active",
        "max_per_poll"]⟩,
    ⟨.proofNotReady, .notReady,
      ["proof_not_ready", "waiting_proof", "missing_post_savant_frame_proof", "frame_proof"]⟩,
    ⟨.cooldownActive, .capacity, ["cooldown_active", "reason=cooldown", "cooldown"]⟩,
    ⟨.replayUnavailable, .transientDependency,
      ["replay_unavailable", "replay unavailable", "replay dependency",
        "replay job creation returned none"]⟩,
    ⟨.noOverlappingFinalSegment, .notReady,
      ["no_overlapping_final_segment", "no_overlapping_segments"]⟩,
    ⟨.segmentNotStable, .notReady, ["segment_not_stable", "half_written_segment"]⟩,
    ⟨.segmentDisappeared, .notReady, ["segment_disappeared", "segment_deleted"]⟩,
    ⟨.coverageNotComplete, .notReady,
      ["coverage_not_complete", "coverage_miss", "requested_window_internal_gap",
        "internal_gap_ns=", "rolling_cache_output_duration_short",
        "rolling_cache_output_frame_rate_low", "pre_gap_ns=", "post_gap_ns=",
        "window_not_covered", "event_frame_not_covered"]⟩,
    ⟨.dbPoolTimeout, .transientDependency, ["db_pool_timeout", "pooltimeout"]⟩,
    ⟨.dbUnavailable, .transientDependency,
      ["db_unavailable", "connection refused", "operationalerror"]⟩,
    ⟨.temporaryIoError, .transientDependency,
      ["temporary_io_error", "resource temporarily unavailable"]⟩,
    ⟨.missingEventFramePts, .invalidInput,
      ["missing_event_frame_pts", "missing event frame pts"]⟩,
    ⟨.invalidRequestedWindow, .invalidInput, ["invalid_requested_window", "invalid_window"]⟩,
    ⟨.missingSourceId, .invalidInput,
      ["missing_source_id", "missing source_id", "missing source id"]⟩,
    ⟨.missingRuntimeEpoch, .invalidInput,
      ["missing_runtime_epoch", "missing runtime_epoch", "missing runtime epoch"]⟩,
    ⟨.stableMetadataInvalid, .invalidInput, ["stable_metadata_invalid", "metadata_unreadable"]⟩,
    ⟨.businessDeadlineExpired, .invalidInput, ["deadline_expired", "deadline_missed"]⟩,
    ⟨.ambiguousActiveIdentity, .invalidInput,
      ["ambiguous_active_identity", "manual_quarantine"]⟩,
    ⟨.leaseLost, .staleOwner, ["lease_lost", "stale_owner", "fence_lost"]⟩]

structure ReasonClassification where
  code : NormalizedReason
  errorClass : EvidenceErrorClass
  retryable : Bool
  claimTerminal : Bool
  deriving DecidableEq

def EvidenceErrorClass.retryable : EvidenceErrorClass → Bool
  | .notReady | .capacity | .transientDependency => true
  | _ => false

def ReasonRule.fires (rule : ReasonRule) (text : List Char) : Bool :=
  rule.fragments.any fun fragment => decide (fragment.toList <:+: text)

def ReasonRule.classification (rule : ReasonRule) : ReasonClassification where
  code := rule.code
  errorClass := rule.errorClass
  retryable := rule.errorClass.retryable
  claimTerminal := !rule.errorClass.retryable

def classifyText (text : List Char) : ReasonClassification :=
  if text = [] then
    { code := .legacyEmptyDeferred, errorClass := .notReady, retryable := true,
      claimTerminal := false }
  else
    match reasonRules.find? fun rule => rule.fires text with
    | some rule => rule.classification
    | none =>
      { code := .unknown, errorClass := .unknown, retryable := false, claimTerminal := true }

def classifyReason (runtime : PyRuntime) (reason : String) : ReasonClassification :=
  classifyText (normalizeReasonText runtime reason)

example : classifyReason .ascii " Max_Active\n" =
    { code := .capacityUnavailable, errorClass := .capacity, retryable := true,
      claimTerminal := false } := by decide

/-! ## Compatibility status and retry delay -/

def compatibilityStatusFor (status : MaterializationStatus)
    (phase : Option MaterializationPhase) : String :=
  match status with
  | .manifestReady => "pending"
  | .pending => MaterializationStatus.pending.value
  | .running =>
    if phase = some .finalizerPending ∨ phase = some .finalizing then "finalizing"
    else MaterializationStatus.running.value
  | other => other.value

/-- `math.pow(2.0, exponent)` overflows a double from exponent 1024 on. -/
def retryBackoff (attempt : Nat) : Except PyError Int :=
  if 1024 ≤ attempt - 1 then .error .overflowError
  else .ok (min 10000000 (500000 * 2 ^ (attempt - 1)))

def retryDelaySeconds (runtime : PyRuntime) (attempt : Nat) (retryHint : Int)
    (jitterKey : String) : Except PyError Int := do
  let normalizedAttempt := max 1 attempt
  let backoff ← retryBackoff normalizedAttempt
  let base := max retryHint backoff
  let jitterMs := runtime.digestPrefix (jitterKey ++ ":" ++ toString normalizedAttempt) % 251
  return base + jitterMs * 1000

theorem retryBackoff_bounds {attempt : Nat} {backoff : Int}
    (computed : retryBackoff attempt = .ok backoff) :
    500000 ≤ backoff ∧ backoff ≤ 10000000 := by
  unfold retryBackoff at computed
  split at computed
  · contradiction
  · simp only [Except.ok.injEq] at computed
    have positive : (1 : Int) ≤ 2 ^ (attempt - 1) := by
      exact_mod_cast Nat.one_le_two_pow
    omega

theorem retryDelaySeconds_isOk_iff (runtime : PyRuntime) (attempt : Nat) (retryHint : Int)
    (jitterKey : String) :
    (∃ delay, retryDelaySeconds runtime attempt retryHint jitterKey = .ok delay) ↔
      attempt ≤ 1024 := by
  unfold retryDelaySeconds retryBackoff
  by_cases overflow : 1024 ≤ max 1 attempt - 1
  · simp only [overflow, if_true]
    constructor
    · rintro ⟨delay, computed⟩
      cases computed
    · intro bound
      omega
  · simp only [overflow, if_false]
    constructor
    · intro _
      omega
    · intro _
      exact ⟨_, rfl⟩

theorem retryDelaySeconds_lower {runtime : PyRuntime} {attempt : Nat} {retryHint delay : Int}
    {jitterKey : String}
    (computed : retryDelaySeconds runtime attempt retryHint jitterKey = .ok delay) :
    500000 ≤ delay ∧ retryHint ≤ delay := by
  simp only [retryDelaySeconds] at computed
  cases backoffEq : retryBackoff (max 1 attempt) with
  | error =>
    rw [backoffEq] at computed
    cases computed
  | ok =>
    rw [backoffEq] at computed
    have bounds := retryBackoff_bounds backoffEq
    simp only [bind, Except.bind, pure, Except.pure, Except.ok.injEq] at computed
    generalize runtime.digestPrefix (jitterKey ++ ":" ++ toString (max 1 attempt)) = digest
      at computed
    omega

end VideoAnalysis.Lifecycle
