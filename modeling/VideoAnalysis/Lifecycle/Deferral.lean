import VideoAnalysis.Lifecycle.Calls
import VideoAnalysis.Lifecycle.MissReasons

/-! # Deferrals of the materialization lanes

The reasons that the remux lane (`_drain_completed`) and the image lane
(`_run_rolling_image_job_v2`) hand to `_defer_rolling_cache_task`, and what the
reason classifier makes of each of them.
-/

namespace VideoAnalysis.Lifecycle

open Foundation RollingCache

structure HeartbeatHandle where
  lost : Bool
  expired : Bool
  unregistered : Bool

def HeartbeatHandle.healthy (handle : HeartbeatHandle) : Bool :=
  !(handle.lost || handle.expired || handle.unregistered)

def HeartbeatHandle.reason (handle : HeartbeatHandle) : String :=
  if handle.expired = true then "materialization_max_attempt_age_exceeded"
  else "materialization_lease_fence_lost"

/-- How the job of a lane ended, by the except clause that takes it. -/
inductive JobOutcome where
  | finished
  | pinRetryable (message : String)
  | imageRetryable (message : String)
  | coverageMiss (message : String)
  | failed (message : String)

structure DeferralRequest where
  reason : String
  retryAfter : Int
  deriving DecidableEq

inductive Disposition where
  | proceed
  | defer (request : DeferralRequest)
  | fail (message : String)
  deriving DecidableEq

def heartbeatDisposition (handle : Option HeartbeatHandle) : Disposition :=
  match handle with
  | none => .proceed
  | some handle =>
    if handle.healthy = true then .proceed
    else .defer { reason := handle.reason, retryAfter := 1000000 }

/-- `_drain_completed` for one future; an image retry error has no clause of its
own there and ends in the general one. -/
def drainDisposition (outcome : JobOutcome) (handle : Option HeartbeatHandle) : Disposition :=
  match outcome with
  | .finished => heartbeatDisposition handle
  | .pinRetryable message =>
    .defer { reason := "temporary_io_error:" ++ message, retryAfter := 1000000 }
  | .coverageMiss message =>
    .defer { reason := orText message "rolling_cache_coverage_miss", retryAfter := 2000000 }
  | .imageRetryable message => .fail message
  | .failed message => .fail message

def gapAfter (key : List Char) : List Char → Option Nat
  | [] => none
  | char :: rest =>
    if key.isPrefixOf (char :: rest) then
      match ((char :: rest).drop key.length).takeWhile Char.isDigit with
      | [] => none
      | digits => (String.ofList digits).toNat?
    else gapAfter key rest

def rollingCacheCoverageRetryAfter (message : String) : Int :=
  let gaps := ["pre_gap_ns=", "post_gap_ns="].filterMap fun key =>
    gapAfter key.toList message.toList
  match gaps with
  | [] => 2000000
  | gap :: rest => min 10000000 (max 1000000 ((rest.foldl max gap : Nat) / 1000 + 1000000))

def imageDisposition (outcome : JobOutcome) (handle : Option HeartbeatHandle)
    (forceRequested : Bool) : Disposition :=
  match outcome with
  | .finished => heartbeatDisposition handle
  | .pinRetryable message =>
    .defer { reason := "temporary_io_error:" ++ message, retryAfter := 1000000 }
  | .imageRetryable message =>
    .defer { reason := "temporary_io_error:" ++ message, retryAfter := 1000000 }
  | .coverageMiss message =>
    .defer
      { reason :=
          if forceRequested = true then shutdownReason
          else orText message "face_image_frame_not_found"
        retryAfter := rollingCacheCoverageRetryAfter message }
  | .failed message =>
    if forceRequested = true then .defer { reason := shutdownReason, retryAfter := 1000000 }
    else .fail message

def currentLease (row : EvidenceTask) (eventId : String) : Option MaterializationLease :=
  if row.eventId = eventId ∧ row.materializationStatus = .running then
    match row.leaseOwner, row.leaseToken with
    | some owner, some token =>
      some { eventId, owner, token, generation := row.leaseGeneration, phase := row.phase }
    | _, _ => none
  else none

def deferRollingCacheTask (runtime : PyRuntime) (now : Int) (row : EvidenceTask)
    (eventId : String) (request : DeferralRequest) (lease : Option MaterializationLease) :
    Except PyError (Transition Bool) :=
  match lease.or (currentLease row eventId) with
  | none => .ok { row, returned := false, events := .unchanged }
  | some lease =>
    retryRollingTask runtime now row lease request.reason (max 500000 request.retryAfter)

/-! ## Where deferrals come from -/

inductive Lane where
  | remux | image

inductive DeferralSource where
  | window (request : WindowRequest) (media : MediaRun)
  | imageFrame (event : ImageEvent) (segments : List RollingSegment)
      (rowLoader : RollingSegment → List MetadataRow) (forceRequested : Bool)
  | pin (lane : Lane) (failure : PinFailure) (forceRequested : Bool)
  | heartbeat (lane : Lane) (handle : HeartbeatHandle) (forceRequested : Bool)

def laneDisposition (lane : Lane) (outcome : JobOutcome) (handle : Option HeartbeatHandle)
    (forceRequested : Bool) : Disposition :=
  match lane with
  | .remux => drainDisposition outcome handle
  | .image => imageDisposition outcome handle forceRequested

def outcomeOf {α : Type} : Except WindowFailure α → JobOutcome
  | .ok _ => .finished
  | .error (.coverageMiss message) => .coverageMiss message
  | .error (.rollingCacheError message) => .failed message

def DeferralSource.disposition (format : FloatFormat) : DeferralSource → Disposition
  | .window request media =>
    drainDisposition (outcomeOf (materializeWindow format request media)) none
  | .imageFrame event segments rowLoader forceRequested =>
    match rollingCacheFrameForImageEvent event segments rowLoader with
    | .error (.coverageMiss message) =>
      imageDisposition (.coverageMiss message) none forceRequested
    | _ => .proceed
  | .pin lane failure forceRequested =>
    laneDisposition lane (.pinRetryable failure.message) none forceRequested
  | .heartbeat lane handle forceRequested =>
    laneDisposition lane .finished (some handle) forceRequested

/-- The deferral leaves the task pending with a later attempt. -/
def RetriesLater (runtime : PyRuntime) (now : Int) (row : EvidenceTask)
    (lease : MaterializationLease) (request : DeferralRequest) : Prop :=
  ∃ transition, deferRollingCacheTask runtime now row row.eventId request (some lease) =
      .ok transition ∧
    transition.row.materializationStatus = .pending ∧
    ∃ next, transition.row.nextAttemptAt = some next ∧ now < next

/-! ## When a deferral retries -/

def PlanFits (request : WindowRequest) (plan : WindowPlan) : Prop :=
  plan.selected ≠ [] ∧ plan.internalGap = none ∧ plan.outputStartPts < plan.outputEndPts ∧
    plan.eventOutside = false ∧
    (plan.covered request.coverageSlackNs = true ∨ request.allowPartial = true)

def NoRowInWindow (request : WindowRequest) (plan : WindowPlan) : Prop :=
  ∀ segment ∈ plan.selected, ∀ row ∈ request.rowLoader segment, isManifestRow row = false →
    ∀ pts, row.rowPts = some pts → ¬(plan.outputStartPts ≤ pts ∧ pts ≤ plan.outputEndPts)

def RowsMissing (request : WindowRequest) : Prop :=
  request.allowPartial = false ∧ PlanFits request (planWindow request) ∧
    NoRowInWindow request (planWindow request)

/-- The segments around the reported gap do not spell a terminal fragment. -/
def GapIdsClean (runtime : PyRuntime) (request : WindowRequest) : Prop :=
  ∀ previousId currentId gapNs,
    (planWindow request).internalGap = some (previousId, currentId, gapNs) →
      ¬MentionsTerminal runtime (previousId ++ ":") ∧
        ¬MentionsTerminal runtime (currentId ++ ":")

/-- The requests the lanes are meant for: a window that is not empty, an image
event with a frame PTS, a heartbeat that a job's end finds unhealthy. -/
def DeferralSource.WellFormed : DeferralSource → Prop
  | .window request _ => request.requestedStartPts < request.requestedEndPts
  | .imageFrame event _ _ _ =>
    (event.mediaFramePts.orElse event.contextFramePts).toInt.isSome = true
  | .pin _ _ _ => True
  | .heartbeat _ handle _ => handle.healthy = false

def DeferralSource.Retries (runtime : PyRuntime) : DeferralSource → Prop
  | .window request _ => GapIdsClean runtime request ∧ ¬RowsMissing request
  | .imageFrame _ _ _ forceRequested => forceRequested = true
  | .pin _ failure _ => ¬MentionsTerminal runtime failure.directory
  | .heartbeat _ _ _ => False

/-- A deferral of a task whose row carries the lease re-arms the task exactly
when its reason is classified as retryable and a retry delay exists. -/
theorem retriesLater_iff {runtime : PyRuntime} {now : Int} {row : EvidenceTask}
    {lease : MaterializationLease} {request : DeferralRequest}
    (running : row.materializationStatus = .running) (fence : row.HoldsFence lease) :
    RetriesLater runtime now row lease request ↔
      (classifyReason runtime request.reason).retryable = true ∧ lease.generation ≤ 1024 := by
  simp only [RetriesLater, deferRollingCacheTask, Option.some_or, retryRollingTask]
  by_cases terminal : (classifyReason runtime request.reason).retryable = false
  · rw [if_pos terminal, terminal]
    constructor
    · rintro ⟨transition, returned, pending, _⟩
      cases returned
      rw [failRollingTask, updateWhere, if_pos ⟨running, fence⟩] at pending
      cases pending
    · rintro ⟨retryable, _⟩
      cases retryable
  · have retryable : (classifyReason runtime request.reason).retryable = true := by
      simpa using terminal
    rw [if_neg terminal]
    constructor
    · rintro ⟨transition, returned, _⟩
      refine ⟨retryable, ?_⟩
      cases computed : retryDelaySeconds runtime (max 1 lease.generation)
          (max 500000 request.retryAfter) lease.eventId with
      | error raised =>
        rw [computed] at returned
        cases returned
      | ok delay =>
        have bound := (retryDelaySeconds_isOk_iff runtime _ _ _).mp ⟨delay, computed⟩
        omega
    · rintro ⟨_, bound⟩
      have small : max 1 lease.generation ≤ 1024 := by omega
      rcases (retryDelaySeconds_isOk_iff runtime _ (max 500000 request.retryAfter)
        lease.eventId).mpr small with ⟨delay, computed⟩
      have lower := retryDelaySeconds_lower computed
      rw [computed]
      refine ⟨_, rfl, ?_, ?_⟩
      · rw [updateWhere, if_pos ⟨running, fence⟩]
        rfl
      · rw [updateWhere, if_pos ⟨running, fence⟩]
        exact ⟨now + delay, rfl, by omega⟩

section Misses

variable (runtime : PyRuntime)

/-! ## The misses of a window -/

variable {request : WindowRequest}

theorem checkPlan_ok_iff {plan : WindowPlan} :
    checkPlan request plan = .ok () ↔ PlanFits request plan := by
  simp only [checkPlan, PlanFits]
  by_cases empty : plan.selected = []
  · simp [empty]
  · rw [if_neg empty]
    cases gap : plan.internalGap with
    | some => simp
    | none =>
      by_cases crossed : plan.outputEndPts ≤ plan.outputStartPts
      · have notBefore : ¬plan.outputStartPts < plan.outputEndPts := by omega
        simp [crossed, notBefore]
      · have before : plan.outputStartPts < plan.outputEndPts := by omega
        simp only [empty, crossed, before, not_false_iff, if_false, true_and, ne_eq]
        cases plan.eventOutside with
        | true => simp
        | false =>
          cases plan.covered request.coverageSlackNs <;> cases request.allowPartial <;> simp

theorem gapIdsClean_of_no_gap (absent : (planWindow request).internalGap = none) :
    GapIdsClean runtime request := by
  intro previousId currentId gapNs found
  rw [absent] at found
  cases found

theorem planWindow_no_gap_of_empty (empty : (planWindow request).selected = []) :
    (planWindow request).internalGap = none := by
  simp only [planWindow] at empty ⊢
  rw [empty]
  rfl

variable {message : String}

theorem checkPlan_miss
    (missed : checkPlan request (planWindow request) = .error (.coverageMiss message)) :
    (classifyReason runtime message).retryable = true ↔ GapIdsClean runtime request := by
  have retryableClean : (classifyReason runtime message).retryable = true →
      (planWindow request).internalGap = none →
      ((classifyReason runtime message).retryable = true ↔ GapIdsClean runtime request) := by
    intro retryable absent
    exact iff_of_true retryable (gapIdsClean_of_no_gap runtime absent)
  simp only [checkPlan] at missed
  by_cases empty : (planWindow request).selected = []
  · rw [if_pos empty] at missed
    cases missed
    exact retryableClean (noOverlap_retryable runtime) (planWindow_no_gap_of_empty empty)
  rw [if_neg empty] at missed
  cases gap : (planWindow request).internalGap with
  | some found =>
    rcases found with ⟨previousId, currentId, gapNs⟩
    rw [gap] at missed
    cases missed
    rw [internalGap_retryable_iff]
    constructor
    · intro clean otherPrevious otherCurrent otherGap found
      rw [gap] at found
      cases found
      exact clean
    · intro clean
      exact clean previousId currentId gapNs gap
  | none =>
    rw [gap] at missed
    simp only at missed
    split at missed
    · cases missed
      exact retryableClean (windowNotCovered_retryable runtime) gap
    split at missed
    · cases missed
      exact retryableClean (eventNotCovered_retryable runtime) gap
    split at missed
    · rename_i partly
      cases missed
      exact retryableClean (notFullyCovered_retryable runtime partly.1) gap
    · cases missed

/-! ## The rows of a window -/

theorem strictlyIncreasing_pts {last : Option Int} {rows : List (Int × MetadataRow)}
    (labelled : ∀ pair ∈ rows, pair.2.rowPts = some pair.1) :
    ∀ row ∈ strictlyIncreasing last rows, row.rowPts ≠ none := by
  induction rows generalizing last with
  | nil =>
    intro row member
    simp [strictlyIncreasing] at member
  | cons head rows induction =>
    rcases head with ⟨pts, first⟩
    have headPts : first.rowPts = some pts := labelled _ List.mem_cons_self
    have tailPts := fun last => @induction last
      fun pair member => labelled pair (List.mem_cons_of_mem _ member)
    have present : ∀ row ∈ first :: strictlyIncreasing (some pts) rows,
        row.rowPts ≠ none := by
      intro row member
      rcases List.mem_cons.mp member with here | later
      · rw [here, headPts]
        exact Option.some_ne_none pts
      · exact tailPts _ row later
    cases last with
    | none => exact present
    | some =>
      rw [strictlyIncreasing]
      split
      · exact tailPts _
      · exact present

theorem strictlyIncreasing_none_eq_nil {rows : List (Int × MetadataRow)} :
    strictlyIncreasing none rows = [] ↔ rows = [] := by
  cases rows with
  | nil | cons => simp [strictlyIncreasing]

theorem selectRows_no_pts_iff {segments : List RollingSegment} {startPts endPts : Int}
    {rowLoader : RollingSegment → List MetadataRow} :
    (selectRows segments startPts endPts rowLoader).filterMap MetadataRow.rowPts = [] ↔
      ∀ segment ∈ segments, ∀ row ∈ rowLoader segment, isManifestRow row = false →
        ∀ pts, row.rowPts = some pts → ¬(startPts ≤ pts ∧ pts ≤ endPts) := by
  rcases exists_frameRows segments startPts endPts rowLoader with ⟨frameRows, selection, frames⟩
  rw [selection]
  generalize rowsEq : (segments.flatMap rowLoader).filter (fun row => !isManifestRow row) = rows
    at frames ⊢
  have rowsWithout : ∀ row ∈ rows.filter (fun row => row.rowPts.isNone),
      row.rowPts = none := by
    intro row member
    exact Option.isNone_iff_eq_none.mp (List.mem_filter.mp member).2
  rw [List.filterMap_append, List.filterMap_eq_nil_iff.mpr rowsWithout, List.append_nil]
  generalize sortedEq : frameRows.mergeSort (fun first second => decide (first.1 ≤ second.1)) =
    sorted
  have sameMembers : ∀ pair, pair ∈ sorted ↔ pair ∈ frameRows := by
    intro pair
    rw [← sortedEq, List.mem_mergeSort]
  have labelled : ∀ pair ∈ sorted, pair.2.rowPts = some pair.1 := by
    intro pair member
    exact ((frames pair.1 pair.2).mp ((sameMembers pair).mp member)).2.1
  have emptyIff : (strictlyIncreasing none sorted).filterMap MetadataRow.rowPts = [] ↔
      frameRows = [] := by
    constructor
    · intro empty
      have noRow : strictlyIncreasing none sorted = [] := by
        apply List.eq_nil_iff_forall_not_mem.mpr
        intro row member
        exact strictlyIncreasing_pts labelled row member
          (List.filterMap_eq_nil_iff.mp empty row member)
      have noPair := strictlyIncreasing_none_eq_nil.mp noRow
      apply List.eq_nil_iff_forall_not_mem.mpr
      intro pair member
      have inSorted := (sameMembers pair).mpr member
      rw [noPair] at inSorted
      cases inSorted
    · intro empty
      rw [← sortedEq, empty, List.mergeSort_nil]
      rfl
  rw [emptyIff, List.eq_nil_iff_forall_not_mem]
  have rowsIff : ∀ row, row ∈ rows ↔
      (∃ segment ∈ segments, row ∈ rowLoader segment) ∧ isManifestRow row = false := by
    intro row
    rw [← rowsEq, List.mem_filter, List.mem_flatMap, Bool.not_eq_true']
  constructor
  · intro absent segment inSegments row inRows frame pts numbered inside
    have member := (rowsIff row).mpr ⟨⟨segment, inSegments, inRows⟩, frame⟩
    exact absent (pts, row) ((frames pts row).mpr ⟨member, numbered, inside⟩)
  · intro absent pair member
    rcases (frames pair.1 pair.2).mp member with ⟨inRows, numbered, inside⟩
    rcases (rowsIff pair.2).mp inRows with ⟨⟨segment, inSegments, inLoaded⟩, frame⟩
    exact absent segment inSegments pair.2 inLoaded frame pair.1 numbered inside

theorem rows_checked {rows : List MetadataRow} {startPts endPts coverageSlackNs : Int}
    {allowPartial : Bool}
    (missed : validateSelectedRowCoverage rows startPts endPts coverageSlackNs allowPartial =
      .error (.coverageMiss message)) :
    allowPartial = false ∧
      ((classifyReason runtime message).retryable = true ↔
        rows.filterMap MetadataRow.rowPts ≠ []) := by
  simp only [validateSelectedRowCoverage] at missed
  cases allowPartial with
  | true => cases missed
  | false =>
    refine ⟨rfl, ?_⟩
    rw [if_neg Bool.false_ne_true] at missed
    have sortedNil : (rows.filterMap MetadataRow.rowPts).mergeSort
        (fun a b => decide (a ≤ b)) = [] ↔ rows.filterMap MetadataRow.rowPts = [] := by
      rw [← List.length_eq_zero_iff, List.length_mergeSort, List.length_eq_zero_iff]
    rw [ne_eq, ← sortedNil]
    split at missed
    · rename_i empty
      cases missed
      have terminal : (classifyReason runtime
          "rolling_cache_selected_rows_missing").retryable = false :=
        terminalReason_not_retryable runtime (by decide)
      simp only [terminal, empty]
      simp
    · rename_i first rest present
      rw [present]
      split at missed
      · cases missed
        exact iff_of_true (endpointGap_retryable runtime _ _) (List.cons_ne_nil first rest)
      · split at missed
        · cases missed
          exact iff_of_true (internalRowGap_retryable runtime _ _) (List.cons_ne_nil first rest)
        · cases missed

theorem rows_accepted {rows : List MetadataRow} {startPts endPts coverageSlackNs : Int}
    (accepted : validateSelectedRowCoverage rows startPts endPts coverageSlackNs false =
      .ok ()) : rows.filterMap MetadataRow.rowPts ≠ [] := by
  intro empty
  simp only [validateSelectedRowCoverage, empty, List.mergeSort_nil] at accepted
  cases accepted

variable {format : FloatFormat}

variable {media : MediaRun}

theorem checkMedia_miss {outputDuration : Int}
    (missed : checkMedia format media outputDuration = .error (.coverageMiss message)) :
    (classifyReason runtime message).retryable = true := by
  simp only [checkMedia] at missed
  split at missed
  · cases missed
  split at missed
  · split at missed
    · cases missed
    split at missed
    · cases missed
      exact durationShort_retryable runtime format _ _
    split at missed
    · cases missed
      exact frameRateLow_retryable runtime format _ _
    · cases missed
  · cases missed

theorem materializeWindow_error_cases {failure : WindowFailure}
    (ordered : request.requestedStartPts < request.requestedEndPts)
    (failed : materializeWindow format request media = .error failure) :
    let plan := planWindow request
    let rows := selectRows plan.selected plan.outputStartPts plan.outputEndPts request.rowLoader
    let rowCheck := validateSelectedRowCoverage rows plan.outputStartPts plan.outputEndPts
      request.coverageSlackNs request.allowPartial
    checkPlan request plan = .error failure ∨
      (checkPlan request plan = .ok () ∧ rowCheck = .error failure) ∨
      (checkPlan request plan = .ok () ∧ rowCheck = .ok () ∧
        checkMedia format media (max 1000000 (plan.outputEndPts - plan.outputStartPts)) =
          .error failure) := by
  intro plan rows rowCheck
  have notReversed : ¬request.requestedEndPts ≤ request.requestedStartPts := by omega
  rw [materializeWindow, if_neg notReversed] at failed
  cases planCheck : checkPlan request plan with
  | error =>
    simp only [bind, Except.bind, plan, planCheck] at failed
    cases failed
    exact .inl rfl
  | ok _ =>
    right
    cases rowsChecked : rowCheck with
    | error =>
      simp only [bind, Except.bind, plan, planCheck, rowCheck, rows, rowsChecked] at failed
      cases failed
      exact .inl ⟨rfl, rfl⟩
    | ok _ =>
      simp only [bind, Except.bind, plan, planCheck, rowCheck, rows, rowsChecked] at failed
      split at failed
      · rename_i mediaChecked
        cases failed
        exact .inr ⟨rfl, rfl, mediaChecked⟩
      · cases failed

theorem materializeWindow_miss (ordered : request.requestedStartPts < request.requestedEndPts)
    (missed : materializeWindow format request media = .error (.coverageMiss message)) :
    (classifyReason runtime message).retryable = true ↔
      GapIdsClean runtime request ∧ ¬RowsMissing request := by
  rcases materializeWindow_error_cases ordered missed with inPlan | ⟨accepted, inRows⟩ |
    ⟨accepted, rowsAccepted, inMedia⟩
  · have notMissing : ¬RowsMissing request := by
      intro missing
      rw [checkPlan_ok_iff.mpr missing.2.1] at inPlan
      cases inPlan
    rw [checkPlan_miss runtime inPlan]
    exact ⟨fun clean => ⟨clean, notMissing⟩, And.left⟩
  · have fits := checkPlan_ok_iff.mp accepted
    have clean := gapIdsClean_of_no_gap runtime fits.2.1
    rcases rows_checked runtime inRows with ⟨whole, retryableIff⟩
    rw [retryableIff, ne_eq, selectRows_no_pts_iff]
    constructor
    · intro someRow
      exact ⟨clean, fun missing => someRow missing.2.2⟩
    · intro complete absent
      exact complete.2 ⟨whole, fits, absent⟩
  · have fits := checkPlan_ok_iff.mp accepted
    have clean := gapIdsClean_of_no_gap runtime fits.2.1
    have notMissing : ¬RowsMissing request := by
      intro missing
      rw [missing.1] at rowsAccepted
      exact rows_accepted rowsAccepted (selectRows_no_pts_iff.mpr missing.2.2)
    exact iff_of_true (checkMedia_miss runtime inMedia) ⟨clean, notMissing⟩

/-! ## Every deferral -/

theorem imageFrame_miss {event : ImageEvent} {segments : List RollingSegment}
    {rowLoader : RollingSegment → List MetadataRow}
    (numbered : (event.mediaFramePts.orElse event.contextFramePts).toInt.isSome = true)
    (missed : rollingCacheFrameForImageEvent event segments rowLoader =
      .error (.coverageMiss message)) :
    message ≠ "" ∧ message ∈ terminalReasons := by
  simp only [rollingCacheFrameForImageEvent] at missed
  split at missed
  · cases missed
    decide
  split at missed
  · cases missed
  split at missed
  · rename_i absent
    rw [absent] at numbered
    cases numbered
  split at missed
  · cases missed
  split at missed
  · cases missed
  · cases missed
    decide

theorem heartbeat_reason_terminal (handle : HeartbeatHandle) :
    (classifyReason runtime handle.reason).retryable = false := by
  rw [HeartbeatHandle.reason]
  split
  all_goals exact terminalReason_not_retryable runtime (by decide)

theorem laneDisposition_heartbeat {lane : Lane} {handle : HeartbeatHandle}
    {forceRequested : Bool} (unhealthy : handle.healthy = false) :
    laneDisposition lane .finished (some handle) forceRequested =
      .defer { reason := handle.reason, retryAfter := 1000000 } := by
  cases lane <;>
    simp [laneDisposition, drainDisposition, imageDisposition, heartbeatDisposition, unhealthy]

theorem laneDisposition_pin {lane : Lane} {forceRequested : Bool} :
    laneDisposition lane (.pinRetryable message) none forceRequested =
      .defer { reason := "temporary_io_error:" ++ message, retryAfter := 1000000 } := by
  cases lane <;> rfl

/-- The reason of a deferral is retryable exactly for the sources that retry. -/
theorem deferral_retryable_iff {source : DeferralSource} {request : DeferralRequest}
    (wellFormed : source.WellFormed) (deferred : source.disposition format = .defer request) :
    (classifyReason runtime request.reason).retryable = true ↔ source.Retries runtime := by
  cases source with
  | window windowRequest media =>
    simp only [DeferralSource.disposition] at deferred
    cases outcome : materializeWindow format windowRequest media with
    | ok =>
      rw [outcome] at deferred
      cases deferred
    | error failure =>
      rw [outcome] at deferred
      cases failure with
      | rollingCacheError => cases deferred
      | coverageMiss =>
        cases deferred
        rw [orText_retryable, materializeWindow_miss runtime wellFormed outcome]
        rfl
  | imageFrame event segments rowLoader forceRequested =>
    simp only [DeferralSource.disposition] at deferred
    split at deferred
    · rename_i message missed
      rcases imageFrame_miss wellFormed missed with ⟨nonempty, listed⟩
      cases forceRequested with
      | true =>
        cases deferred
        exact iff_of_true (shutdown_retryable runtime) rfl
      | false =>
        cases deferred
        have terminal := terminalReason_not_retryable runtime listed
        have shown : orText message "face_image_frame_not_found" = message :=
          if_neg nonempty
        simp only [Bool.false_eq_true, if_false, shown, terminal, DeferralSource.Retries]
    · cases deferred
  | pin _ failure =>
    rw [DeferralSource.disposition, laneDisposition_pin] at deferred
    cases deferred
    exact pin_retryable_iff runtime failure
  | heartbeat =>
    rw [DeferralSource.disposition, laneDisposition_heartbeat wellFormed] at deferred
    cases deferred
    rw [heartbeat_reason_terminal]
    exact iff_of_false Bool.false_ne_true id

end Misses

/-- A well-formed deferral of a task whose row still carries the lease leaves
it pending with a later attempt exactly when its source retries and a retry
delay of the lease's generation exists. -/
theorem deferral_retries_iff (runtime : PyRuntime) (format : FloatFormat) (now : Int)
    (row : EvidenceTask) (lease : MaterializationLease) (source : DeferralSource)
    (request : DeferralRequest) (wellFormed : source.WellFormed)
    (deferred : source.disposition format = .defer request)
    (running : row.materializationStatus = .running) (fence : row.HoldsFence lease) :
    RetriesLater runtime now row lease request ↔
      source.Retries runtime ∧ lease.generation ≤ 1024 := by
  rw [retriesLater_iff running fence, deferral_retryable_iff runtime wellFormed deferred]

def plainFormat : FloatFormat where
  fixed3 value := toString value
  plain value := toString value
  fixed3_numeral := intText_numeral
  plain_numeral := intText_numeral

def remuxRow : EvidenceTask :=
  { sampleTask with
    materializationStatus := .running, phase := .remuxRunning, leaseOwner := some "worker",
    leaseToken := some "token", leaseGeneration := 1 }

def vanishedPin : DeferralSource := .pin .remux (.disappeared "/cache/seg-1") false

theorem vanishedPin_clean : vanishedPin.Retries .ascii := by
  change ¬MentionsTerminal .ascii "/cache/seg-1"
  decide +kernel

theorem vanishedPin_retries :
    RetriesLater .ascii 0 remuxRow remuxLease
      { reason := "temporary_io_error:segment disappeared before read pin: /cache/seg-1",
        retryAfter := 1000000 } :=
  (deferral_retries_iff .ascii plainFormat 0 remuxRow remuxLease vanishedPin _ trivial rfl rfl
    (by decide)).mpr ⟨vanishedPin_clean, by decide⟩

def openSegment : RollingSegment :=
  { segmentId := "seg-1", firstPts := 0, lastPts := 10, sourceFirstPts := none,
    sourceLastPts := none }

/-- The segment covers the window, but no row of it was written yet. -/
def rowlessWindow : WindowRequest :=
  { requestedStartPts := 0, requestedEndPts := 10
    labels := { eventFramePts := .number 5, eventFrameUuid := "", frameUuid := "" }
    segments := [openSegment], rowLoader := fun _ => [], coverageSlackNs := 0,
    allowPartial := false }

def silentMedia : MediaRun :=
  { remuxError := none, probed := false, copyDuration := none, copyFrameRate := none,
    minimumFrameRate := 0, transcodeError := none, transcodeDuration := none,
    transcodeFrameRate := none }

def rowlessSource : DeferralSource := .window rowlessWindow silentMedia

def rowlessRequest : DeferralRequest :=
  { reason := "rolling_cache_selected_rows_missing", retryAfter := 2000000 }

/-- A miss of `materialize_window` that ends the task as failed. -/
theorem missing_rows_fail_task :
    rowlessSource.WellFormed ∧ rowlessSource.disposition plainFormat = .defer rowlessRequest ∧
      remuxRow.materializationStatus = .running ∧ remuxRow.HoldsFence remuxLease ∧
      ∃ transition, deferRollingCacheTask .ascii 0 remuxRow remuxRow.eventId rowlessRequest
          (some remuxLease) = .ok transition ∧
        transition.row.materializationStatus = .failed := by
  have terminal : (classifyReason .ascii rowlessRequest.reason).retryable = false :=
    terminalReason_not_retryable .ascii (by decide)
  have running : remuxRow.materializationStatus = .running := rfl
  have fence : remuxRow.HoldsFence remuxLease := by decide
  refine ⟨show (0 : Int) < 10 by decide, by decide +kernel, running, fence, ?_⟩
  simp only [deferRollingCacheTask, Option.some_or, retryRollingTask]
  rw [if_pos terminal]
  refine ⟨_, rfl, ?_⟩
  rw [failRollingTask, updateWhere, if_pos ⟨running, fence⟩]
  rfl

end VideoAnalysis.Lifecycle
