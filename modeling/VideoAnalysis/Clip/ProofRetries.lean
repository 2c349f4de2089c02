import Mathlib.Data.List.Chain
import VideoAnalysis.Clip.Processor
import VideoAnalysis.Clip.Redelivery
import VideoAnalysis.Foundation.OutputTrace
import VideoAnalysis.Intake.SecurityEvents

/-! # The budget of proof retries

`_resolve_anchor` counts its retries inside the evidence diagnostics of the event, a
document that each transition of a delivery replaces as a whole.
-/

namespace VideoAnalysis.Clip

open Foundation Python
open Json (lookup lookup_store_self store)

abbrev Diagnostics := List (Text × Json)

/-- `max(0, int(diagnostics.get("proof_retry_count") or 0))`, nothing where `int` raises.
The database stores no infinite number. -/
def proofRetryCount (diagnostics : Diagnostics) : ℕ :=
  match lookup diagnostics "proof_retry_count" with
  | none => 0
  | some value =>
    if value.truthy then
      match value.toInt with
      | .ok count => count.toNat
      | .error _ => 0
    else 0

/-- Fields of the diagnostics, none of which is the counter. -/
structure PlainFields where
  fields : Diagnostics
  distinct : Dict.Distinct ⟨fields⟩
  plain : lookup fields "proof_retry_count" = none

/-! ## A delivery -/

/-- One call of `on_wait` with the diagnostics of the proof. -/
structure ProofWait where
  startedAt : Text
  diagnostics : PlainFields

inductive ProofAnswer
  | ready
  | notReady (retryable : Bool)

/-- What becomes of a delivery whose anchor is known. -/
inductive Submission
  /-- The executor leaves the diagnostics alone. -/
  | unrecorded
  /-- `commit_handoff` or `abort_permanent`. -/
  | recorded (slotFields : PlainFields)
  /-- Admission is denied, `mark_pending` follows. -/
  | capacityPending

/-- An active slot of the request is recovered without the gate. A request for post-Savant
media waits for a proof, another one looks for a keyframe. -/
structure Scheduled where
  recovering : Bool
  gate : ScheduleGate
  keyframeFound : Bool
  proofWaits : List ProofWait
  proofTimes : PlainFields
  proofAnswer : ProofAnswer
  planFields : PlainFields
  submission : Submission

def Scheduled.admitted (scheduled : Scheduled) : Bool :=
  scheduled.recovering || scheduled.gate.allowed

/-- What a delivery meets on its way through `__call__`. -/
inductive Passage
  /-- It is malformed, its event is terminal or gone, or its slot is released or committed. -/
  | turnedAway
  | slotTimedOut
  | unroutable
  | scheduled (entry : Scheduled)

/-- One delivery of the request: `phaseDiagnostics` is what it has collected where it
writes, `failFields` what `update_clip_status` adds to no diagnostics. Of its writes the
first `projected.length` are performed, and those with `true` reach the event row. -/
structure ProofDelivery where
  deliveryRetryCount : ℕ
  passage : Passage
  phaseDiagnostics : PlainFields
  failFields : PlainFields
  diagnosticsRead : Bool
  projected : List Bool

inductive WriteKind
  | plain
  | counted
  /-- `mark_pending` for a proof retry. -/
  | retry
deriving DecidableEq

structure DiagnosticsWrite where
  kind : WriteKind
  diagnostics : Diagnostics

structure RetryConfig where
  deferredRetryMaxAttempts : Int
  postSavantMediaRequest : Bool

def RetryConfig.maxAttempts (config : RetryConfig) : ℕ :=
  (max 0 config.deferredRetryMaxAttempts).toNat

namespace ProofDelivery

variable (config : RetryConfig) (stored : Diagnostics) (delivery : ProofDelivery)

/-- `proof_retry_count` of `_resolve_anchor`. A failing query has no diagnostics. -/
def readCount : ℕ := if delivery.diagnosticsRead then proofRetryCount stored else 0

/-- `proof_diagnostics` in a call of `on_wait`. -/
def waitDiagnostics (wait : ProofWait) : Diagnostics :=
  let proof := Intake.merge wait.diagnostics.fields delivery.phaseDiagnostics.fields
  let proof := store proof "proof_wait_started_at" (.str wait.startedAt)
  let proof := store proof "proof_retry_count" (.int (delivery.readCount stored))
  store proof "redis_delivery_retry_count" (.int delivery.deliveryRetryCount)

/-- `proof_diagnostics` once the resolver has answered. -/
def proofDiagnostics (waits : List ProofWait) (times : PlainFields) : Diagnostics :=
  let waited := (waits.getLast?.map (delivery.waitDiagnostics stored)).getD []
  let proof := Intake.merge waited times.fields
  let proof := store proof "proof_retry_count" (.int (delivery.readCount stored))
  store proof "redis_delivery_retry_count" (.int delivery.deliveryRetryCount)

def plainWrite (fields : PlainFields) : DiagnosticsWrite where
  kind := .plain
  diagnostics := fields.fields

/-- The write of `_schedule_denied`. -/
def deniedWrite (gate : ScheduleGate) : DiagnosticsWrite :=
  if gate.terminalDefer then plainWrite delivery.phaseDiagnostics
  else if "max_concurrent".toList.isPrefixOf gate.reason.toList then
    plainWrite delivery.phaseDiagnostics
  else if gate.reason = "cooldown" then
    if config.maxAttempts ≤ delivery.deliveryRetryCount then plainWrite delivery.failFields
    else plainWrite delivery.phaseDiagnostics
  else plainWrite delivery.failFields

def submissionWrite (counted : Bool) (proof : Diagnostics) (planFields : PlainFields) :
    Submission → Option DiagnosticsWrite
  | .unrecorded => none
  | .recorded slotFields => some
      { kind := if counted then .counted else .plain
        diagnostics := Intake.merge (Intake.merge
          (Intake.merge delivery.phaseDiagnostics.fields proof) planFields.fields)
          slotFields.fields }
  | .capacityPending => some
      { kind := if counted then .counted else .plain
        diagnostics := Intake.merge
          (Intake.merge delivery.phaseDiagnostics.fields proof) planFields.fields }

def resolvedWrite (scheduled : Scheduled) : Option DiagnosticsWrite :=
  let proof := delivery.proofDiagnostics stored scheduled.proofWaits scheduled.proofTimes
  match scheduled.proofAnswer with
  | .ready => delivery.submissionWrite true proof scheduled.planFields scheduled.submission
  | .notReady retryable =>
    if retryable ∧ delivery.readCount stored < config.maxAttempts then some
      { kind := .retry
        diagnostics := store proof "proof_retry_count"
          (.int (delivery.readCount stored + 1 : ℕ)) }
    else some { kind := .counted, diagnostics := proof }

/-- The calls of `on_wait`. -/
def waitWrites : List DiagnosticsWrite :=
  match delivery.passage with
  | .scheduled scheduled =>
    if scheduled.admitted && config.postSavantMediaRequest then
      scheduled.proofWaits.map fun wait =>
        { kind := .counted, diagnostics := delivery.waitDiagnostics stored wait }
    else []
  | _ => []

def lastWrite : Option DiagnosticsWrite :=
  match delivery.passage with
  | .turnedAway => none
  | .slotTimedOut | .unroutable => some (plainWrite delivery.phaseDiagnostics)
  | .scheduled scheduled =>
    if scheduled.admitted then
      if config.postSavantMediaRequest then delivery.resolvedWrite config stored scheduled
      else if scheduled.keyframeFound then
        delivery.submissionWrite false [] scheduled.planFields scheduled.submission
      else some (plainWrite delivery.failFields)
    else some (delivery.deniedWrite config scheduled.gate)

def writes : List DiagnosticsWrite :=
  delivery.waitWrites config stored ++ (delivery.lastWrite config stored).toList

def performed : List (DiagnosticsWrite × Bool) :=
  (delivery.writes config stored).zip delivery.projected

/-- The documents that reach the event row, one after the other. -/
def documents : List Diagnostics :=
  (delivery.performed config stored).filterMap fun write =>
    if write.2 then some write.1.diagnostics else none

def proofRetry : Option DiagnosticsWrite :=
  ((delivery.performed config stored).map Prod.fst).find? (·.kind = .retry)

end ProofDelivery

/-! ## Sequences of deliveries -/

namespace RetryConfig

variable (config : RetryConfig)

def process (stored : Diagnostics) (delivery : ProofDelivery) : Diagnostics :=
  (delivery.documents config stored).getLast?.getD stored

def deliveryMachine : OutputMachine Diagnostics ProofDelivery DiagnosticsWrite where
  step := config.process
  output := fun stored delivery => delivery.proofRetry config stored

def history : Diagnostics → List ProofDelivery → List Diagnostics
  | _, [] => []
  | stored, delivery :: rest =>
    delivery.documents config stored ++ history (config.process stored delivery) rest

/-- Where the counter is positive, every write that reaches the event row carries it on
from the row; a retry reaches the event row and has read the counter. -/
def KeepsBudget (stored : Diagnostics) (delivery : ProofDelivery) : Prop :=
  ∀ write ∈ delivery.performed config stored,
    (0 < proofRetryCount stored → write.2 = true →
      write.1.kind ≠ .plain ∧ delivery.diagnosticsRead = true) ∧
    (write.1.kind = .retry →
      write.2 = true ∧ (delivery.diagnosticsRead = true ∨ proofRetryCount stored = 0))

/-- A delivery that is held for a retry leaves a larger counter. -/
def RetryCounted (stored : Diagnostics) (delivery : ProofDelivery) : Prop :=
  (delivery.proofRetry config stored).isSome = true →
    proofRetryCount stored < proofRetryCount (config.process stored delivery)

end RetryConfig

/-! ## The counter of a document -/

theorem proofRetryCount_store (diagnostics : Diagnostics) (count : ℕ) :
    proofRetryCount (store diagnostics "proof_retry_count" (.int count)) = count := by
  rw [proofRetryCount, lookup_store_self]
  simp only [Json.truthy, Json.toInt]
  by_cases zero : count = 0
  all_goals simp [zero]

theorem proofRetryCount_congr {first second : Diagnostics}
    (same : lookup first "proof_retry_count" = lookup second "proof_retry_count") :
    proofRetryCount first = proofRetryCount second := by
  rw [proofRetryCount, proofRetryCount, same]

theorem PlainFields.proofRetryCount_fields (plain : PlainFields) :
    proofRetryCount plain.fields = 0 := by
  rw [proofRetryCount, plain.plain]

theorem lookup_merge_plain (entries : Diagnostics) (plain : PlainFields) :
    lookup (Intake.merge entries plain.fields) "proof_retry_count" =
      lookup entries "proof_retry_count" := by
  rw [Intake.lookup_merge plain.distinct, plain.plain, Option.none_or]

theorem lookup_store_redis (entries : Diagnostics) (value : Json) :
    lookup (store entries "redis_delivery_retry_count" value) "proof_retry_count" =
      lookup entries "proof_retry_count" :=
  Json.lookup_store_of_ne _ _ (by decide)

namespace ProofDelivery

variable {config : RetryConfig} {stored : Diagnostics} {delivery : ProofDelivery}

theorem lookup_waitDiagnostics (wait : ProofWait) :
    lookup (delivery.waitDiagnostics stored wait) "proof_retry_count" =
      some (.int (delivery.readCount stored)) := by
  rw [waitDiagnostics, lookup_store_redis, lookup_store_self]

theorem lookup_proofDiagnostics (waits : List ProofWait) (times : PlainFields) :
    lookup (delivery.proofDiagnostics stored waits times) "proof_retry_count" =
      some (.int (delivery.readCount stored)) := by
  rw [proofDiagnostics, lookup_store_redis, lookup_store_self]

theorem distinct_waitDiagnostics (wait : ProofWait) :
    Dict.Distinct ⟨delivery.waitDiagnostics stored wait⟩ := by
  have merged : Dict.Distinct
      ⟨Intake.merge wait.diagnostics.fields delivery.phaseDiagnostics.fields⟩ :=
    Intake.distinct_merge wait.diagnostics.distinct
  exact ((merged.set _ _).set _ _).set _ _

theorem distinct_proofDiagnostics (waits : List ProofWait) (times : PlainFields) :
    Dict.Distinct ⟨delivery.proofDiagnostics stored waits times⟩ := by
  have waited : Dict.Distinct
      ⟨(waits.getLast?.map (delivery.waitDiagnostics stored)).getD []⟩ := by
    cases waits.getLast? with
    | none => exact List.nodup_nil
    | some wait => exact distinct_waitDiagnostics wait
  have merged : Dict.Distinct ⟨Intake.merge _ times.fields⟩ := Intake.distinct_merge waited
  exact (merged.set _ _).set _ _

end ProofDelivery

def WriteKind.count (read : ℕ) : WriteKind → ℕ
  | .plain => 0
  | .counted => read
  | .retry => read + 1

namespace ProofDelivery

variable {config : RetryConfig} {stored : Diagnostics} {delivery : ProofDelivery}

def Counts (delivery : ProofDelivery) (stored : Diagnostics) (write : DiagnosticsWrite) : Prop :=
  proofRetryCount write.diagnostics = write.kind.count (delivery.readCount stored)

theorem counts_of_lookup {write : DiagnosticsWrite}
    (counted : lookup write.diagnostics "proof_retry_count" =
      some (.int (delivery.readCount stored))) (kind : write.kind = .counted) :
    delivery.Counts stored write := by
  have same := proofRetryCount_store [] (delivery.readCount stored)
  rw [Counts, kind, WriteKind.count, ← same]
  apply proofRetryCount_congr
  rw [counted, lookup_store_self]

theorem lookup_submission {proof : Diagnostics} (distinct : Dict.Distinct ⟨proof⟩) :
    lookup (Intake.merge delivery.phaseDiagnostics.fields proof) "proof_retry_count" =
      lookup proof "proof_retry_count" := by
  rw [Intake.lookup_merge distinct, delivery.phaseDiagnostics.plain, Option.or_none]

theorem submissionWrite_lookup {counted : Bool} {proof : Diagnostics}
    (distinct : Dict.Distinct ⟨proof⟩) (planFields : PlainFields) (submission : Submission) :
    ∀ write ∈ delivery.submissionWrite counted proof planFields submission,
      write.kind = (if counted then .counted else .plain) ∧
        lookup write.diagnostics "proof_retry_count" =
          lookup proof "proof_retry_count" := by
  intro write member
  cases submission with
  | unrecorded => cases member
  | recorded =>
    cases member
    refine ⟨rfl, ?_⟩
    rw [lookup_merge_plain, lookup_merge_plain, lookup_submission distinct]
  | capacityPending =>
    cases member
    refine ⟨rfl, ?_⟩
    rw [lookup_merge_plain, lookup_submission distinct]

theorem resolvedWrite_counts (scheduled : Scheduled) :
    ∀ write ∈ delivery.resolvedWrite config stored scheduled,
      delivery.Counts stored write := by
  intro write member
  have counted := @lookup_proofDiagnostics stored delivery scheduled.proofWaits
    scheduled.proofTimes
  simp only [resolvedWrite] at member
  cases answer : scheduled.proofAnswer with
  | ready =>
    simp only [answer] at member
    rcases submissionWrite_lookup (distinct_proofDiagnostics _ _) _ _ write member with
      ⟨kind, same⟩
    exact counts_of_lookup (same.trans counted) kind
  | notReady =>
    simp only [answer] at member
    split at member
    next =>
      cases member
      exact proofRetryCount_store _ _
    next =>
      cases member
      exact counts_of_lookup counted rfl

theorem read_lt_of_resolvedWrite (scheduled : Scheduled) :
    ∀ write ∈ delivery.resolvedWrite config stored scheduled,
      write.kind = .retry → delivery.readCount stored < config.maxAttempts := by
  intro write member isRetry
  simp only [resolvedWrite] at member
  cases answer : scheduled.proofAnswer with
  | ready =>
    simp only [answer] at member
    have counted := (submissionWrite_lookup (distinct_proofDiagnostics _ _) _ _ write member).1
    rw [isRetry] at counted
    cases counted
  | notReady =>
    simp only [answer] at member
    split at member
    next allowed => exact allowed.2
    next =>
      cases member
      cases isRetry

theorem deniedWrite_plain (gate : ScheduleGate) :
    ∃ fields, delivery.deniedWrite config gate = plainWrite fields := by
  simp only [deniedWrite]
  repeat' split
  all_goals exact ⟨_, rfl⟩

theorem lastWrite_cases :
    ∀ write ∈ delivery.lastWrite config stored,
      (write.kind = .plain ∧ proofRetryCount write.diagnostics = 0) ∨
        ∃ scheduled, write ∈ delivery.resolvedWrite config stored scheduled := by
  have plain : ∀ fields, (plainWrite fields).kind = .plain ∧
      proofRetryCount (plainWrite fields).diagnostics = 0 :=
    fun fields => ⟨rfl, fields.proofRetryCount_fields⟩
  intro write member
  simp only [lastWrite] at member
  cases passage : delivery.passage with
  | turnedAway =>
    rw [passage] at member
    cases member
  | slotTimedOut | unroutable =>
    rw [passage] at member
    cases member
    exact .inl (plain _)
  | scheduled scheduled =>
    simp only [passage] at member
    split at member
    next =>
      split at member
      next => exact .inr ⟨scheduled, member⟩
      next =>
        split at member
        next =>
          have distinct : Dict.Distinct ⟨([] : Diagnostics)⟩ := List.nodup_nil
          rcases submissionWrite_lookup distinct _ _ write member with ⟨kind, same⟩
          exact .inl ⟨kind, @proofRetryCount_congr _ [] same⟩
        next =>
          cases member
          exact .inl (plain _)
    next =>
      cases member
      rcases @deniedWrite_plain config delivery scheduled.gate with ⟨_, denied⟩
      rw [denied]
      exact .inl (plain _)

theorem lastWrite_counts :
    ∀ write ∈ delivery.lastWrite config stored, delivery.Counts stored write := by
  intro write member
  rcases lastWrite_cases write member with ⟨kind, none⟩ | ⟨scheduled, resolved⟩
  · rw [Counts, kind]
    exact none
  · exact resolvedWrite_counts scheduled write resolved

theorem read_lt_of_lastWrite :
    ∀ write ∈ delivery.lastWrite config stored,
      write.kind = .retry → delivery.readCount stored < config.maxAttempts := by
  intro write member isRetry
  rcases lastWrite_cases write member with ⟨kind, _⟩ | ⟨scheduled, resolved⟩
  · rw [isRetry] at kind
    cases kind
  · exact read_lt_of_resolvedWrite scheduled write resolved isRetry

theorem waitWrites_counts :
    ∀ write ∈ delivery.waitWrites config stored,
      write.kind = .counted ∧ delivery.Counts stored write := by
  intro write member
  simp only [waitWrites] at member
  split at member
  · split at member
    · rcases List.mem_map.mp member with ⟨wait, _, rfl⟩
      exact ⟨rfl, counts_of_lookup (lookup_waitDiagnostics wait) rfl⟩
    · cases member
  · cases member

theorem performed_counts :
    ∀ write ∈ delivery.performed config stored, delivery.Counts stored write.1 := by
  intro write member
  rcases List.mem_append.mp (List.of_mem_zip member).1 with waits | last
  · exact (waitWrites_counts write.1 waits).2
  · exact lastWrite_counts write.1 (Option.mem_toList.mp last)

theorem performed_pairwise :
    (delivery.performed config stored).Pairwise fun earlier _ => earlier.1.kind = .counted := by
  have writes : (delivery.writes config stored).Pairwise
      fun earlier _ => earlier.kind = .counted := by
    rw [ProofDelivery.writes, List.pairwise_append]
    refine ⟨?_, ?_, fun write member _ _ => (waitWrites_counts write member).1⟩
    · exact List.pairwise_of_forall_mem_list fun write member _ _ =>
        (waitWrites_counts write member).1
    · cases delivery.lastWrite config stored with
      | none => exact List.Pairwise.nil
      | some => exact List.pairwise_singleton _ _
  rw [List.pairwise_iff_getElem] at writes ⊢
  intro earlier later _ inside before
  simp only [performed, List.getElem_zip]
  exact writes earlier later _ (List.lt_length_left_of_zip inside) before

end ProofDelivery

/-! ## One delivery -/

def reachedCounts (read : ℕ) (performed : List (DiagnosticsWrite × Bool)) : List ℕ :=
  performed.filterMap fun write => if write.2 then some (write.1.kind.count read) else none

theorem reachedCounts_concat (read : ℕ) (front : List (DiagnosticsWrite × Bool))
    (last : DiagnosticsWrite × Bool) :
    reachedCounts read (front ++ [last]) =
      reachedCounts read front ++ if last.2 then [last.1.kind.count read] else [] := by
  rw [reachedCounts, reachedCounts, List.filterMap_append, List.filterMap_cons,
    List.filterMap_nil]
  cases last.2 with
  | false | true => rfl

theorem mem_reachedCounts {read : ℕ} {performed : List (DiagnosticsWrite × Bool)} {count : ℕ} :
    count ∈ reachedCounts read performed ↔
      ∃ write ∈ performed, write.2 = true ∧ write.1.kind.count read = count := by
  simp only [reachedCounts, List.mem_filterMap, Option.ite_none_right_eq_some, Option.some.injEq]

theorem reachedCounts_counted {read : ℕ} {front : List (DiagnosticsWrite × Bool)}
    (counted : ∀ write ∈ front, write.1.kind = .counted) :
    ∀ count ∈ reachedCounts read front, count = read := by
  intro count member
  rcases mem_reachedCounts.mp member with ⟨write, inFront, _, rfl⟩
  rw [counted write inFront]
  rfl

/-- With `stored` in the row and `read` out of it, the counters do not fall and a retry
raises them exactly if each write carries the counter on. -/
theorem counts_rise_iff {performed : List (DiagnosticsWrite × Bool)}
    (counted : performed.Pairwise fun earlier _ => earlier.1.kind = .counted) (stored : ℕ)
    (isRead : Bool) :
    let read := if isRead then stored else 0
    ((stored :: reachedCounts read performed).Pairwise (· ≤ ·) ∧
        ((∃ write ∈ performed, write.1.kind = .retry) →
          stored < (reachedCounts read performed).getLast?.getD stored)) ↔
      ∀ write ∈ performed,
        (0 < stored → write.2 = true → write.1.kind ≠ .plain ∧ isRead = true) ∧
          (write.1.kind = .retry → write.2 = true ∧ (isRead = true ∨ stored = 0)) := by
  intro read
  have readLe : read ≤ stored := by
    simp only [read]
    split <;> omega
  have readEq : isRead = true ∨ stored = 0 → read = stored := by
    rintro (answered | none)
    · simp only [read, answered, if_true]
    · omega
  rcases List.eq_nil_or_concat performed with rfl | ⟨front, last, rfl⟩
  · simp [reachedCounts]
  · rw [List.concat_eq_append] at counted ⊢
    have inFront : ∀ write ∈ front, write.1.kind = .counted := fun write member =>
      (List.pairwise_append.mp counted).2.2 write member last (List.mem_singleton_self last)
    have frontCounts := @reachedCounts_counted read front inFront
    have isLast : ∀ write ∈ front ++ [last], write.1.kind = .retry → write = last := by
      intro write member kind
      rcases List.mem_append.mp member with earlier | last
      · rw [inFront write earlier] at kind
        cases kind
      · exact List.mem_singleton.mp last
    constructor
    · rintro ⟨rising, raises⟩ write member
      have atLeast : write.2 = true → stored ≤ write.1.kind.count read := fun reaches =>
        List.rel_of_pairwise_cons rising (mem_reachedCounts.mpr ⟨write, member, reaches, rfl⟩)
      have retried : write.1.kind = .retry →
          write.2 = true ∧ (isRead = true ∨ stored = 0) := by
        intro kind
        have above := raises ⟨write, member, kind⟩
        rw [reachedCounts_concat, ← isLast write member kind, kind] at above
        cases reaches : write.2 with
        | false =>
          simp only [reaches, Bool.false_eq_true, if_false, List.append_nil] at above
          cases final : (reachedCounts read front).getLast? with
          | none => simp only [final, Option.getD_none, lt_irrefl] at above
          | some count =>
            have equal := frontCounts count (List.mem_of_getLast? final)
            simp only [final, Option.getD_some] at above
            omega
        | true =>
          simp only [reaches, if_true, List.getLast?_concat, Option.getD_some,
            WriteKind.count] at above
          refine ⟨rfl, ?_⟩
          cases isRead with
          | true => exact .inl rfl
          | false =>
            right
            simp only [read, Bool.false_eq_true, if_false] at above
            omega
      refine ⟨fun positive reaches => ?_, retried⟩
      have reached := atLeast reaches
      cases kind : write.1.kind with
      | plain =>
        simp only [kind, WriteKind.count] at reached
        omega
      | counted =>
        refine ⟨nofun, ?_⟩
        by_contra unread
        simp only [kind, WriteKind.count, read, if_neg unread] at reached
        omega
      | retry =>
        rcases (retried kind).2 with answered | none
        · exact ⟨nofun, answered⟩
        · omega
    · intro keeps
      have carried : ∀ count ∈ reachedCounts read (front ++ [last]),
          stored ≤ count ∧ read ≤ count := by
        intro count member
        rcases mem_reachedCounts.mp member with ⟨write, inPerformed, reaches, rfl⟩
        by_cases none : stored = 0
        · omega
        · rcases (keeps write inPerformed).1 (by omega) reaches with ⟨notPlain, answered⟩
          have same := readEq (.inl answered)
          cases kind : write.1.kind with
          | plain => exact absurd kind notPlain
          | counted => exact ⟨same.ge, le_rfl⟩
          | retry => exact ⟨by simp only [WriteKind.count]; omega, Nat.le_succ read⟩
      refine ⟨List.pairwise_cons.mpr ⟨fun count member => (carried count member).1, ?_⟩, ?_⟩
      · rw [reachedCounts_concat] at carried ⊢
        refine List.pairwise_append.mpr ⟨?_, ?_, ?_⟩
        · refine List.pairwise_of_forall_mem_list fun first member second other => ?_
          rw [frontCounts first member, frontCounts second other]
        · split
          next => exact List.pairwise_singleton _ _
          next => exact List.Pairwise.nil
        · intro count member other inLast
          rw [frontCounts count member]
          exact (carried other (List.mem_append_right _ inLast)).2
      · rintro ⟨write, member, kind⟩
        rcases (keeps write member).2 kind with ⟨reaches, answered⟩
        have same := readEq answered
        rw [reachedCounts_concat, ← isLast write member kind, if_pos reaches,
          List.getLast?_concat, Option.getD_some, kind, WriteKind.count]
        omega

namespace RetryConfig

variable (config : RetryConfig)

section

variable (stored : Diagnostics)

include stored

theorem documents_counts (delivery : ProofDelivery) :
    (delivery.documents config stored).map proofRetryCount =
      reachedCounts (delivery.readCount stored) (delivery.performed config stored) := by
  rw [ProofDelivery.documents, List.map_filterMap, reachedCounts]
  apply List.filterMap_congr
  intro write member
  have counts : proofRetryCount write.1.diagnostics = _ :=
    ProofDelivery.performed_counts write member
  split
  next => rw [Option.map_some, counts]
  next => rfl

theorem process_count (delivery : ProofDelivery) :
    proofRetryCount (config.process stored delivery) =
      (reachedCounts (delivery.readCount stored)
        (delivery.performed config stored)).getLast?.getD (proofRetryCount stored) := by
  rw [← documents_counts, List.getLast?_map, process]
  cases (delivery.documents config stored).getLast? with
  | none | some => rfl

theorem isSome_proofRetry (delivery : ProofDelivery) :
    (delivery.proofRetry config stored).isSome = true ↔
      ∃ write ∈ delivery.performed config stored, write.1.kind = .retry := by
  rw [ProofDelivery.proofRetry, List.find?_isSome]
  simp only [List.mem_map, decide_eq_true_eq, exists_exists_and_eq_and]

/-- A delivery keeps the budget exactly if the counter does not fall and a retry raises it. -/
theorem keepsBudget_iff (delivery : ProofDelivery) :
    (((stored :: delivery.documents config stored).map proofRetryCount).Pairwise (· ≤ ·) ∧
        config.RetryCounted stored delivery) ↔ config.KeepsBudget stored delivery := by
  rw [RetryCounted, List.map_cons, documents_counts, process_count, isSome_proofRetry]
  exact counts_rise_iff ProofDelivery.performed_pairwise _ delivery.diagnosticsRead

/-! ## Every sequence of deliveries -/

theorem history_append (first second : List ProofDelivery) :
    config.history stored (first ++ second) =
      config.history stored first ++
        config.history (config.deliveryMachine.run stored first) second := by
  induction first generalizing stored with
  | nil => rfl
  | cons _ _ induction =>
    rw [List.cons_append, history, history, induction, List.append_assoc]
    rfl

theorem run_eq_getLast (deliveries : List ProofDelivery) :
    config.deliveryMachine.run stored deliveries =
      (config.history stored deliveries).getLast?.getD stored := by
  induction deliveries generalizing stored with
  | nil => rfl
  | cons delivery rest induction =>
    rw [history, List.getLast?_append]
    refine (induction (config.process stored delivery)).trans ?_
    cases (config.history (config.process stored delivery) rest).getLast? with
    | none | some => rfl

theorem history_concat (deliveries : List ProofDelivery) :
    ∃ front, stored :: config.history stored deliveries =
      front ++ [config.deliveryMachine.run stored deliveries] := by
  apply List.getLast?_eq_some_iff.mp
  rw [List.getLast?_cons, run_eq_getLast]

/-- The counter never falls in a run exactly if it does not fall in any delivery. -/
theorem pairwise_history_iff (deliveries : List ProofDelivery) :
    ((stored :: config.history stored deliveries).map proofRetryCount).Pairwise (· ≤ ·) ↔
      OutputMachine.AtEachStep deliveries fun before delivery =>
        let reached := config.deliveryMachine.run stored before
        ((reached :: delivery.documents config reached).map proofRetryCount).Pairwise
          (· ≤ ·) := by
  induction deliveries using List.reverseRecOn with
  | nil =>
    refine ⟨?_, fun _ => List.pairwise_singleton _ _⟩
    rintro _ before delivery after split
    exact absurd split.symm (List.append_ne_nil_of_right_ne_nil _ (List.cons_ne_nil _ _))
  | append_singleton deliveries last induction =>
    rw [OutputMachine.atEachStep_append, ← induction, history_append, history, history,
      List.append_nil]
    rcases config.history_concat stored deliveries with ⟨front, decomposed⟩
    have joined : stored :: (config.history stored deliveries ++
        last.documents config (config.deliveryMachine.run stored deliveries)) =
          front ++ config.deliveryMachine.run stored deliveries ::
            last.documents config (config.deliveryMachine.run stored deliveries) := by
      rw [← List.cons_append, decomposed, List.append_assoc, List.singleton_append]
    rw [joined, decomposed]
    simp only [List.map_append, List.map_cons, List.map_nil, ← List.isChain_iff_pairwise]
    exact List.isChain_split

end

theorem read_lt_of_retry {stored : Diagnostics} {delivery : ProofDelivery}
    {write : DiagnosticsWrite × Bool} (member : write ∈ delivery.performed config stored)
    (kind : write.1.kind = .retry) : delivery.readCount stored < config.maxAttempts := by
  rcases List.mem_append.mp (List.of_mem_zip member).1 with waits | last
  · rw [(ProofDelivery.waitWrites_counts write.1 waits).1] at kind
    cases kind
  · exact ProofDelivery.read_lt_of_lastWrite write.1 (Option.mem_toList.mp last) kind

theorem count_le_process {stored : Diagnostics} {delivery : ProofDelivery}
    (rising : ((stored :: delivery.documents config stored).map proofRetryCount).Pairwise
      (· ≤ ·)) :
    proofRetryCount stored ≤ proofRetryCount (config.process stored delivery) := by
  rw [process]
  cases final : (delivery.documents config stored).getLast? with
  | none => exact le_rfl
  | some =>
    exact List.rel_of_pairwise_cons rising (List.mem_map_of_mem (List.mem_of_getLast? final))

theorem retries_le {stored : Diagnostics} {deliveries : List ProofDelivery}
    (keeps : OutputMachine.AtEachStep deliveries fun before delivery =>
      config.KeepsBudget (config.deliveryMachine.run stored before) delivery) :
    (config.deliveryMachine.trace stored deliveries).length ≤
        proofRetryCount (config.deliveryMachine.run stored deliveries) ∧
      (config.deliveryMachine.trace stored deliveries).length ≤ config.maxAttempts := by
  induction deliveries using List.reverseRecOn with
  | nil => exact ⟨Nat.zero_le _, Nat.zero_le _⟩
  | append_singleton deliveries last induction =>
    rcases OutputMachine.atEachStep_append.mp keeps with ⟨before, atLast⟩
    rcases induction before with ⟨counted, limited⟩
    rcases (config.keepsBudget_iff _ last).mpr atLast with ⟨rising, raises⟩
    have steps : config.deliveryMachine.run stored (deliveries ++ [last]) =
        config.process (config.deliveryMachine.run stored deliveries) last :=
      List.foldl_concat _ _ _ _
    rw [OutputMachine.trace_append, steps, List.length_append]
    generalize config.deliveryMachine.run stored deliveries = reached at *
    have output : config.deliveryMachine.trace reached [last] =
        (last.proofRetry config reached).toList := List.append_nil _
    rw [output]
    cases retry : last.proofRetry config reached with
    | none =>
      have kept := config.count_le_process rising
      exact ⟨by simpa using counted.trans kept, by simpa using limited⟩
    | some =>
      have isRetry : (last.proofRetry config reached).isSome = true := by rw [retry]; rfl
      have above := raises isRetry
      rcases (config.isSome_proofRetry reached last).mp isRetry with ⟨performed, member, kind⟩
      have below := config.read_lt_of_retry member kind
      have read : proofRetryCount reached ≤ last.readCount reached := by
        rcases ((atLast performed member).2 kind).2 with answered | none
        · simp only [ProofDelivery.readCount, answered, if_true, le_refl]
        · omega
      simp only [Option.toList_some, List.length_singleton]
      omega

/-- The counter never falls, every proof retry raises it and so the retries stay within
their limit, exactly if every delivery keeps the budget. -/
theorem budget_iff (stored : Diagnostics) (deliveries : List ProofDelivery) :
    (((stored :: config.history stored deliveries).map proofRetryCount).Pairwise (· ≤ ·) ∧
        (OutputMachine.AtEachStep deliveries fun before delivery =>
          config.RetryCounted (config.deliveryMachine.run stored before) delivery) ∧
        (config.deliveryMachine.trace stored deliveries).length ≤ config.maxAttempts) ↔
      OutputMachine.AtEachStep deliveries fun before delivery =>
        config.KeepsBudget (config.deliveryMachine.run stored before) delivery := by
  rw [pairwise_history_iff]
  constructor
  · rintro ⟨rising, raises, _⟩ before delivery after split
    exact (config.keepsBudget_iff _ delivery).mp
      ⟨rising before delivery after split, raises before delivery after split⟩
  · intro keeps
    have both := fun before delivery after split =>
      (config.keepsBudget_iff _ delivery).mpr (keeps before delivery after split)
    exact ⟨fun before delivery after split => (both before delivery after split).1,
      fun before delivery after split => (both before delivery after split).2,
      (config.retries_le keeps).2⟩

/-- Where every delivery keeps the budget, the counter never falls and the retries stay within
their limit. -/
theorem budget_of_keepsBudget {stored : Diagnostics} {deliveries : List ProofDelivery}
    (keeps : OutputMachine.AtEachStep deliveries fun before delivery =>
      config.KeepsBudget (config.deliveryMachine.run stored before) delivery) :
    ((stored :: config.history stored deliveries).map proofRetryCount).Pairwise (· ≤ ·) ∧
      (config.deliveryMachine.trace stored deliveries).length ≤ config.maxAttempts :=
  ⟨((config.budget_iff stored deliveries).mpr keeps).1, (config.retries_le keeps).2⟩

/-- In every sequence of deliveries the counter never falls and each retry raises it exactly
if every delivery keeps the budget; a reclaim has the delivery counts of Redis exactly if
the listing told them. -/
theorem retry_budgets_iff {Fields : Type} (stored : Diagnostics)
    (deliveries : List ProofDelivery) (settings : ConsumerSettings) (hasAutoclaim : Bool)
    (listed : Option (StreamServer Fields)) (server : StreamServer Fields) :
    ((((stored :: config.history stored deliveries).map proofRetryCount).Pairwise (· ≤ ·) ∧
        (OutputMachine.AtEachStep deliveries fun before delivery =>
          config.RetryCounted (config.deliveryMachine.run stored before) delivery) ∧
        (config.deliveryMachine.trace stored deliveries).length ≤ config.maxAttempts) ↔
      OutputMachine.AtEachStep deliveries fun before delivery =>
        config.KeepsBudget (config.deliveryMachine.run stored before) delivery) ∧
    ((∀ envelope ∈ (settings.reclaim hasAutoclaim listed server).1,
        envelope.deliveryCount = server.deliveriesOf envelope.messageId) ↔
      ∀ entry ∈ (settings.handedOver hasAutoclaim listed server).1,
        settings.CountListed listed server entry.1) ∧
    ∀ envelope ∈ (settings.reclaim hasAutoclaim listed server).1,
      (settings.reclaim hasAutoclaim listed server).2.deliveriesOf envelope.messageId =
        server.deliveriesOf envelope.messageId + 1 :=
  ⟨config.budget_iff stored deliveries, settings.reclaim_counts_iff hasAutoclaim listed server⟩

end RetryConfig

def PlainFields.empty : PlainFields where
  fields := []
  distinct := List.nodup_nil
  plain := rfl

/-- A delivery that the gate answers, and that finds no proof if it is admitted. -/
def gateAnswers (gate : ScheduleGate) : ProofDelivery where
  deliveryRetryCount := 0
  passage := .scheduled
    { recovering := false, gate, keyframeFound := false, proofWaits := []
      proofTimes := .empty, proofAnswer := .notReady true, planFields := .empty
      submission := .unrecorded }
  phaseDiagnostics := .empty
  failFields := .empty
  diagnosticsRead := true
  projected := [true]

def notReady : ProofDelivery := gateAnswers ⟨true, false, "", ""⟩

def atCapacity : ProofDelivery := gateAnswers ⟨false, false, "max_concurrent_reached", ""⟩

/-- The first pending entry was claimed just now, the second one seven times before. -/
def busyFirst : StreamServer Unit :=
  { entries := [1, 2].map fun ms => (streamId ms 0, ())
    group := some
      { lastDelivered := streamId 2 0
        pending := [⟨streamId 1 0, "worker", 60000, 1⟩, ⟨streamId 2 0, "worker", 0, 7⟩] }
    nowMs := 60000 }

def claimsOne : ConsumerSettings where
  consumer := "worker"
  pendingClaimMinIdleMs := 5000
  pendingClaimCount := 1

/-- A denial for capacity takes the counter back, and the single retry is made twice; a
request that was delivered seven times comes back as delivered once. -/
theorem capacity_refills_retries :
    (¬(([] :: (RetryConfig.mk 1 true).history [] [notReady, atCapacity, notReady]).map
        proofRetryCount).Pairwise (· ≤ ·)) ∧
      (RetryConfig.mk 1 true).maxAttempts <
        ((RetryConfig.mk 1 true).deliveryMachine.trace []
          [notReady, atCapacity, notReady]).length ∧
      ∃ envelope ∈ (claimsOne.reclaim true (some busyFirst) busyFirst).1,
        envelope.deliveryCount ≠ busyFirst.deliveriesOf envelope.messageId := by
  have counts : ([] :: (RetryConfig.mk 1 true).history []
      [notReady, atCapacity, notReady]).map proofRetryCount = [0, 1, 0, 1] := by decide +kernel
  refine ⟨?_, by decide +kernel, ?_⟩
  · rw [counts]
    decide
  · exact ⟨⟨"worker", streamId 2 0, (), 1, true⟩, by decide, by decide⟩

end VideoAnalysis.Clip
