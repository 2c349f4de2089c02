import VideoAnalysis.Foundation.Sorting
import VideoAnalysis.RollingCache.GuardLeaves

/-! # Narrowed pins against the whole catalog

The subset is chosen on the source clock, the segments of the clip on the mux
clock around the frame of the event. One guard leaf on each side is enough while the
clocks keep pace; the clip needs more where they drift apart.
-/

namespace VideoAnalysis.RollingCache

open Foundation

/-- The narrowed request gets the same window and segments and ends the same way. -/
structure SameOutcome (format : FloatFormat) (request : WindowRequest) (media : MediaRun) :
    Prop where
  plan : planWindow request.narrowed = planWindow request
  outcome : materializeWindow format request.narrowed media =
    materializeWindow format request media

/-- The frame of the event is left, and no segment beyond the guard leaves reaches into the
window around it on the mux clock. -/
structure KeepsWindow (request : WindowRequest) (eventSourcePts : Int)
    (near : List RollingSegment) (segment : RollingSegment) (row : MetadataRow) : Prop extends
    KeepsFrame request eventSourcePts near segment row where
  leftOut : ∀ muxPts, row.muxRowPts = some muxPts →
    ∀ other ∈ request.segments, request.beyond other = true →
      other.lastPts < (request.windowAround eventSourcePts muxPts).1 ∨
        (request.windowAround eventSourcePts muxPts).2.1 < other.firstPts

theorem planWindow_congr {first second : WindowRequest}
    (mapped : mapSourceWindowToMux first = mapSourceWindowToMux second)
    (sameStart : first.requestedStartPts = second.requestedStartPts)
    (sameEnd : first.requestedEndPts = second.requestedEndPts)
    (labels : first.labels = second.labels)
    (slack : first.coverageSlackNs = second.coverageSlackNs)
    (overlapping : ∀ startPts endPts,
      ((mapSourceWindowToMux second).map (·.1)).getD second.requestedStartPts = startPts →
      ((mapSourceWindowToMux second).map (·.2.1)).getD second.requestedEndPts = endPts →
      overlappingSegments first.segments startPts endPts =
        overlappingSegments second.segments startPts endPts) :
    planWindow first = planWindow second := by
  simp only [planWindow, mapped, sameStart, sameEnd, labels, slack, overlapping _ _ rfl rfl]

theorem materializeWindow_congr {format : FloatFormat} {media : MediaRun}
    {first second : WindowRequest} (plan : planWindow first = planWindow second)
    (sameStart : first.requestedStartPts = second.requestedStartPts)
    (sameEnd : first.requestedEndPts = second.requestedEndPts)
    (loader : first.rowLoader = second.rowLoader)
    (slack : first.coverageSlackNs = second.coverageSlackNs)
    (policy : first.allowPartial = second.allowPartial) :
    materializeWindow format first media = materializeWindow format second media := by
  simp only [materializeWindow, checkPlan, plan, sameStart, sameEnd, loader, slack, policy]

variable {segments : List RollingSegment} {segment : RollingSegment}

theorem mem_sortSegments :
    segment ∈ sortSegments segments ↔ segment ∈ segments := by
  exact List.mem_mergeSort

theorem mem_overlappingSegments {startPts endPts : Int} :
    segment ∈ overlappingSegments segments startPts endPts ↔
      segment ∈ segments ∧ startPts ≤ segment.lastPts ∧ segment.firstPts ≤ endPts := by
  simp only [overlappingSegments, List.mem_filter, Bool.and_eq_true, decide_eq_true_eq]

variable {request : WindowRequest} {eventSourcePts muxPts : Int}

theorem overlappingSegments_withinGuard {startPts endPts : Int}
    (leftOut : ∀ segment ∈ request.segments, request.beyond segment = true →
      segment.lastPts < startPts ∨ endPts < segment.firstPts) :
    overlappingSegments request.withinGuard.segments startPts endPts =
      overlappingSegments request.segments startPts endPts := by
  rw [WindowRequest.withinGuard, overlappingSegments, overlappingSegments, List.filter_filter]
  apply List.filter_congr
  intro segment member
  cases beyond : request.beyond segment with
  | false => rw [Bool.not_false, Bool.and_true]
  | true =>
    have outside := leftOut segment member beyond
    rw [Bool.not_true, Bool.and_false, eq_comm, Bool.and_eq_false_iff, decide_eq_false_iff_not,
      decide_eq_false_iff_not]
    omega

section Plan

variable {near : List RollingSegment} {row : MetadataRow}
  (catalog : StreamCatalog request.segments request.rowLoader)
  (given : request.labels.eventFramePts.toInt = some eventSourcePts)
  (nearest : NearestSegments request.segments eventSourcePts near)

include catalog given nearest

theorem samePlan_of_keepsWindow (keeps : ∀ segment row,
      ClosestRow request eventSourcePts (near.take 3) segment row →
        KeepsWindow request eventSourcePts near segment row) :
    planWindow request.withinGuard = planWindow request := by
  by_cases inhabited : request.segments = []
  · have same : request.withinGuard = request := by
      rw [WindowRequest.withinGuard, inhabited]
      cases request
      subst inhabited
      rfl
    rw [same]
  rcases catalog.exists_closest nearest inhabited given with
    ⟨segment, row, muxPts, closest, mux, _⟩
  have keepsHere := keeps segment row closest
  rcases catalog.exists_frames nearest closest inhabited given mux with
    ⟨mapped, _, mappedKept, sameMux⟩
  rw [sameMux.mpr keepsHere.toKeepsFrame] at mappedKept
  apply planWindow_congr (mappedKept.trans mapped.symm) rfl rfl rfl rfl
  intro startPts endPts atStart atEnd
  rw [mapped, Option.map_some, Option.getD_some] at atStart atEnd
  subst atStart atEnd
  exact overlappingSegments_withinGuard (keepsHere.leftOut muxPts mux)

theorem keepsWindow_of_samePlan (same : planWindow request.withinGuard = planWindow request)
    (closest : ClosestRow request eventSourcePts (near.take 3) segment row) :
    KeepsWindow request eventSourcePts near segment row := by
  have inSegments := nearest.perm.subset (List.mem_of_mem_take closest.mem)
  have clocks := (catalog.frames segment inSegments).clocks row closest.first.mem
  rcases Option.isSome_iff_exists.mp clocks.2 with ⟨muxPts, mux⟩
  rcases catalog.exists_frames nearest closest (List.ne_nil_of_mem inSegments) given mux with
    ⟨mapped, _, mappedKept, sameMux⟩
  have selected := congrArg WindowPlan.selected same
  have eventMux := congrArg WindowPlan.eventMuxPts same
  simp only [planWindow, mapped, mappedKept, Option.map_some, Option.some_or, Option.some.injEq,
    Option.getD_some] at selected eventMux
  refine ⟨sameMux.mp eventMux, ?_⟩
  intro otherMux atOther other member beyond
  cases mux.symm.trans atOther
  cases eventMux
  by_contra reaches
  have chosen : other ∈ sortSegments (overlappingSegments request.segments
      (request.windowAround eventSourcePts muxPts).1
      (request.windowAround eventSourcePts muxPts).2.1) := by
    rw [mem_sortSegments, mem_overlappingSegments]
    exact ⟨member, by omega, by omega⟩
  rw [← selected, mem_sortSegments, mem_overlappingSegments] at chosen
  have kept := (List.mem_filter.mp chosen.1).2
  rw [beyond] at kept
  cases kept

end Plan

theorem mergeSort_pairLe {α : Type} (key : α → Int × Int) (elements : List α) :
    elements.mergeSort (fun first second => pairLe (key first) (key second)) =
      elements.insertionSort fun first second => pairLe (key first) (key second) = true := by
  apply mergeSort_eq_insertionSort
  · intro first second third
    simp only [pairLe, Bool.or_eq_true, Bool.and_eq_true, decide_eq_true_eq]
    omega
  · intro first second
    simp only [pairLe, Bool.or_eq_true, Bool.and_eq_true, decide_eq_true_eq]
    omega

theorem mergeSort_le {α : Type} (key : α → Int) (elements : List α) :
    elements.mergeSort (fun first second => decide (key first ≤ key second)) =
      elements.insertionSort fun first second => decide (key first ≤ key second) = true := by
  apply mergeSort_eq_insertionSort
  · intro first second third
    simp only [decide_eq_true_eq]
    omega
  · intro first second
    simp only [Bool.or_eq_true, decide_eq_true_eq]
    omega

def driftingRow (pts mux : Int) : MetadataRow :=
  { schemaVersion := "", rollingCacheMuxPts := .number mux, pts := .number pts
    framePts := .absent, uuid := "", frameUuid := "" }

/-- Half a second of mux time in which the source clock moves by five seconds. -/
def driftingSegment (index : Int) : RollingSegment :=
  { segmentId := toString index, firstPts := index * 1000000000
    lastPts := index * 1000000000 + 500000000
    sourceFirstPts := some (index * 10000000000)
    sourceLastPts := some (index * 10000000000 + 5000000000) }

def driftingRows (segment : RollingSegment) : List MetadataRow :=
  [driftingRow (segment.firstPts * 10) segment.firstPts,
    driftingRow (segment.firstPts * 10 + 5000000000) segment.lastPts]

/-- Two seconds on each side of the first frame of the segment `event`. -/
def driftingRequest (event : Int) : WindowRequest :=
  { requestedStartPts := event * 10000000000 - 2000000000
    requestedEndPts := event * 10000000000 + 2000000000
    labels :=
      { eventFramePts := .number (event * 10000000000), eventFrameUuid := "", frameUuid := "" }
    segments := [0, 1, 2, 3, 4].map driftingSegment
    rowLoader := driftingRows, coverageSlackNs := defaultCoverageSlackNs, allowPartial := false }

theorem drifting_catalog : StreamCatalog ([0, 1, 2, 3, 4].map driftingSegment) driftingRows := by
  constructor
  · intro segment member
    rcases List.mem_map.mp member with ⟨_, _, rfl⟩
    refine ⟨?_, ⟨_, rfl, ?_, rfl⟩, ⟨_, rfl, ?_, rfl⟩⟩
    · intro row inRows
      rcases List.mem_cons.mp inRows with rfl | inRest
      · exact ⟨rfl, rfl⟩
      · rw [List.mem_singleton.mp inRest]
        exact ⟨rfl, rfl⟩
    all_goals exact congrArg some (by simp only [driftingSegment]; omega)
  · unfold EarlierFrame
    decide +kernel

def plainFormat : FloatFormat where
  fixed3 := fun _ => "0"
  plain := fun _ => "0"
  fixed3_numeral := by simp [NumeralText]
  plain_numeral := by simp [NumeralText]

def copiedMedia : MediaRun := ⟨none, false, none, none, none, none, none, 0⟩

def coverageMissOf {α : Type} : Except WindowFailure α → Option String
  | .error (.coverageMiss message) => some message
  | _ => none

/-- A pin on the narrowed catalog loses nothing exactly if it leaves the closest of the rows
in the three nearest ranges, and the leaves beyond the guard leaves are out of the window
around that row on the mux clock. -/
theorem narrowed_outcome_same_iff {format : FloatFormat} {media : MediaRun}
    {request : WindowRequest} {eventSourcePts : Int} {near : List RollingSegment}
    (catalog : StreamCatalog request.segments request.rowLoader)
    (given : request.labels.eventFramePts.toInt = some eventSourcePts)
    (nearest : NearestSegments request.segments eventSourcePts near) :
    SameOutcome format request media ↔
      ∀ segment row, ClosestRow request eventSourcePts (near.take 3) segment row →
        KeepsWindow request eventSourcePts near segment row := by
  constructor
  · intro same segment row closest
    apply keepsWindow_of_samePlan catalog given nearest _ closest
    rw [← narrowed_eq catalog]
    exact same.plan
  · intro keeps
    have samePlan := samePlan_of_keepsWindow catalog given nearest keeps
    constructor
    · rw [narrowed_eq catalog, samePlan]
    · rw [narrowed_eq catalog]
      exact materializeWindow_congr samePlan rfl rfl rfl rfl rfl

theorem drifting_outcome_same_iff :
    SameOutcome plainFormat (driftingRequest 2) copiedMedia ↔
      ∀ segment row,
        ClosestRow (driftingRequest 2) 20000000000 ([2, 1, 3].map driftingSegment) segment row →
          KeepsWindow (driftingRequest 2) 20000000000 ([2, 1, 3, 0, 4].map driftingSegment)
            segment row := by
  have nearest : NearestSegments ([0, 1, 2, 3, 4].map driftingSegment) 20000000000
      ([2, 1, 3, 0, 4].map driftingSegment) := by
    refine ⟨List.Perm.map _ (by decide), ?_⟩
    decide +kernel
  exact @narrowed_outcome_same_iff _ _ (driftingRequest 2) _ _ drifting_catalog rfl nearest

theorem narrowed_window_misses_coverage :
    StreamCatalog (driftingRequest 2).segments (driftingRequest 2).rowLoader ∧
      (materializeWindow plainFormat (driftingRequest 2) copiedMedia).toOption.isSome = true ∧
      coverageMissOf (materializeWindow plainFormat (driftingRequest 2).narrowed copiedMedia) =
        some ("rolling_cache_requested_window_not_fully_covered:" ++
          "pre_gap_ns=1000000000") := by
  refine ⟨drifting_catalog, ?_, ?_⟩
  · simp only [materializeWindow, checkPlan, planWindow, mapSourceWindowToMux,
      sourceClockCandidateSegments, sortSegments, selectRows, validateSelectedRowCoverage,
      medianGap, mergeSort_pairLe, mergeSort_le]
    decide +kernel
  · simp only [materializeWindow, checkPlan, planWindow, mapSourceWindowToMux,
      sourceClockCandidateSegments, sortSegments, selectRows, validateSelectedRowCoverage,
      medianGap, WindowRequest.narrowed, sourceWindowCandidates, mergeSort_pairLe, mergeSort_le]
    decide +kernel

end VideoAnalysis.RollingCache
