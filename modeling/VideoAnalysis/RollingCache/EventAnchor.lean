import VideoAnalysis.RollingCache.Narrowing

/-! # The anchor of an event

`_map_source_window_to_mux` scans three nearest segments where bounds are known. What
it anchors to is compared with a scan of every segment and with the closest rows.
-/

namespace VideoAnalysis.RollingCache

open Foundation
open ScannedFrame (cost distance_le)

/-- The mapping as it would be with every segment a candidate. -/
def mapEverySegmentToMux (request : WindowRequest) : Option (Int × Int × Int) :=
  match request.labels.eventFramePts.toInt with
  | none => none
  | some eventSourcePts =>
    match scanSegments eventSourcePts request.eventUuid request.rowLoader none
      request.segments with
    | none => none
    | some (_, muxPts) =>
      let preNs := max 0 (eventSourcePts - request.requestedStartPts)
      let postNs := max 0 (request.requestedEndPts - eventSourcePts)
      some (muxPts - preNs, muxPts + postNs, muxPts)

def WindowRequest.HasRow (request : WindowRequest) (sourcePts muxPts : Int) (uuid : String) :
    Prop :=
  ∃ segment ∈ request.segments, ∃ row ∈ request.rowLoader segment,
    row.sourceRowPts = some sourcePts ∧ row.muxRowPts = some muxPts ∧ row.rowUuid = uuid

def WindowRequest.HasNamedRow (request : WindowRequest) (muxPts : Int) : Prop :=
  ∃ sourcePts, request.eventUuid ≠ "" ∧ request.HasRow sourcePts muxPts request.eventUuid

/-- A row at the smallest source-clock distance to the event. -/
def WindowRequest.HasNearestRow (request : WindowRequest) (eventSourcePts muxPts : Int) : Prop :=
  ∃ sourcePts uuid, request.HasRow sourcePts muxPts uuid ∧
    ∀ otherPts otherMux otherUuid, request.HasRow otherPts otherMux otherUuid →
      distanceNs sourcePts eventSourcePts ≤ distanceNs otherPts eventSourcePts

/-- The mapping is the full scan's, and anchored to the event's own row or else to a
nearest one. -/
structure AnchorExact (request : WindowRequest) (eventSourcePts : Int) : Prop where
  asFullScan : mapSourceWindowToMux request = mapEverySegmentToMux request
  named : (∃ muxPts, request.HasNamedRow muxPts) →
    ∃ anchor ∈ (mapSourceWindowToMux request).map (·.2.2), request.HasNamedRow anchor
  nearest : (¬∃ muxPts, request.HasNamedRow muxPts) →
    (∃ sourcePts muxPts uuid, request.HasRow sourcePts muxPts uuid) →
    ∃ anchor ∈ (mapSourceWindowToMux request).map (·.2.2),
      request.HasNearestRow eventSourcePts anchor

/-! ## Frames and rows -/

/-- The frames of every segment, in the order of the list. -/
def WindowRequest.allFrames (request : WindowRequest) (eventSourcePts : Int) :
    List ScannedFrame :=
  scannedFrames eventSourcePts request.eventUuid request.rowLoader 0 request.segments

variable {eventSourcePts : Int} {order : List (RollingSegment × Nat)} {frame : ScannedFrame}

variable {request : WindowRequest}

theorem hasRow_of_frame (member : frame ∈ request.allFrames eventSourcePts) :
    ∃ sourcePts uuid, request.HasRow sourcePts frame.muxPts uuid ∧
      (request.eventUuid ≠ "" ∧ uuid = request.eventUuid → frame.distance = 0) ∧
      (¬(request.eventUuid ≠ "" ∧ uuid = request.eventUuid) →
        frame.distance = distanceNs sourcePts eventSourcePts) := by
  rcases mem_scannedFrames.mp member with ⟨_, segment, atPlace, row, inRows, scanned⟩
  have inSegments := List.mem_of_getElem? atPlace
  unfold scannedFrame at scanned
  split at scanned
  next muxPts sourcePts mux source =>
    split at scanned
    next named =>
      cases scanned
      exact ⟨sourcePts, row.rowUuid, ⟨segment, inSegments, row, inRows, source, mux, rfl⟩,
        fun _ => rfl, fun other => absurd named other⟩
    next unnamed =>
      cases scanned
      exact ⟨sourcePts, row.rowUuid, ⟨segment, inSegments, row, inRows, source, mux, rfl⟩,
        fun other => absurd other unnamed, fun _ => rfl⟩
  next => cases scanned

theorem hasNearestRow_of_firstLeast
    (isFirst : FirstLeast cost (request.allFrames eventSourcePts) frame)
    (unnamed : ¬∃ muxPts, request.HasNamedRow muxPts) :
    request.HasNearestRow eventSourcePts frame.muxPts := by
  rcases isFirst.atPosition with ⟨_, atPosition, _⟩
  rcases hasRow_of_frame (List.mem_of_getElem? atPosition) with
    ⟨sourcePts, uuid, hasRow, _, measured⟩
  have notNamed : ∀ {otherPts otherMux otherUuid}, request.HasRow otherPts otherMux otherUuid →
      ¬(request.eventUuid ≠ "" ∧ otherUuid = request.eventUuid) := by
    rintro otherPts otherMux otherUuid other ⟨given, rfl⟩
    exact unnamed ⟨otherMux, otherPts, given, other⟩
  refine ⟨sourcePts, uuid, hasRow, ?_⟩
  intro otherPts otherMux otherUuid other
  have otherUnnamed := notNamed other
  rcases other with ⟨segment, inSegments, row, inRows, source, mux, rfl⟩
  have isDistance : rowDistance eventSourcePts request.eventUuid row =
      some (distanceNs otherPts eventSourcePts) := by
    simp only [rowDistance, mux, source, if_neg otherUnnamed]
  rcases exists_frame_iff.mpr ⟨segment, inSegments, row, inRows, isDistance⟩ with
    ⟨frameOther, inFrames, distance⟩
  have closest := isFirst.least frameOther inFrames
  have smaller : frame.distance ≤ frameOther.distance := by
    by_contra beyond
    have isCloser : closer frameOther frame := (closer_iff _ _).mpr (.inl (not_le.mp beyond))
    exact absurd closest (not_le.mpr isCloser)
  rw [measured (notNamed hasRow), distance] at smaller
  exact smaller

theorem mapEverySegmentToMux_eq
    (given : request.labels.eventFramePts.toInt = some eventSourcePts) :
    mapEverySegmentToMux request =
      ((request.allFrames eventSourcePts).foldl (List.argAux closer) none).map fun frame =>
        (frame.muxPts - max 0 (eventSourcePts - request.requestedStartPts),
          frame.muxPts + max 0 (request.requestedEndPts - eventSourcePts), frame.muxPts) := by
  simp only [mapEverySegmentToMux, given]
  have scanned : scanSegments eventSourcePts request.eventUuid request.rowLoader none
      request.segments = ScannedFrame.kept ((request.allFrames eventSourcePts).foldl
        (List.argAux closer) none) := by
    apply @scanSegments_eq eventSourcePts request.eventUuid request.rowLoader 0 _ none
    intro frame member
    cases member
  rw [scanned]
  cases (request.allFrames eventSourcePts).foldl (List.argAux closer) none <;> rfl

/-! ## When the candidates suffice -/

/-- Of the segments that are left out, no row is nearer than all that are reached (it might be
in a segment without bounds, with the event's uuid, or behind three ranges that hold the event);
of equally near rows the first in the order of the ranges shows what the first in the list does;
and that is a row of the event's uuid. -/
structure NothingLost (request : WindowRequest) (eventSourcePts : Int)
    (order : List (RollingSegment × Nat)) : Prop where
  leftOut : ∀ segment ∈ request.segments, segment ∉ reached request.segments order →
    ∀ row ∈ request.rowLoader segment, ¬Outranged request eventSourcePts order segment row →
      request.ReachesAsNear eventSourcePts order row
  ties : ∀ first seen,
    FirstLeast cost (request.allFrames eventSourcePts) first →
    FirstLeast cost (request.reachedFrames eventSourcePts order) seen →
    seen.distance = first.distance → seen.muxPts = first.muxPts
  named : ∀ first, FirstLeast cost (request.allFrames eventSourcePts) first →
    (∃ muxPts, request.HasNamedRow muxPts) → request.HasNamedRow first.muxPts

/-- The closest row is lost, and the farther one that is reached shows its mux PTS. -/
structure SameByChance (request : WindowRequest) (eventSourcePts : Int)
    (order : List (RollingSegment × Nat)) (first seen : ScannedFrame) : Prop where
  closest : FirstLeast cost (request.allFrames eventSourcePts) first
  closestReached : FirstLeast cost (request.reachedFrames eventSourcePts order) seen
  farther : first.distance < seen.distance
  sameMux : seen.muxPts = first.muxPts
  named : (∃ muxPts, request.HasNamedRow muxPts) → request.HasNamedRow first.muxPts

theorem reached_subset (nearest : NearestFirst request.segments eventSourcePts order)
    {segment : RollingSegment} (member : segment ∈ reached request.segments order) :
    segment ∈ request.segments := by
  unfold reached at member
  split at member
  · exact member
  · rcases List.mem_map.mp member with ⟨_, inTaken, rfl⟩
    have inOrder := nearest.perm.subset (List.mem_of_mem_take inTaken)
    exact List.fst_mem_of_mem_zipIdx (List.mem_of_mem_filter inOrder)

theorem exists_all_of_reached (nearest : NearestFirst request.segments eventSourcePts order)
    (member : frame ∈ request.reachedFrames eventSourcePts order) :
    ∃ other ∈ request.allFrames eventSourcePts, other.distance = frame.distance := by
  rcases exists_frame_iff.mp ⟨frame, member, rfl⟩ with
    ⟨segment, inReached, row, inRows, isDistance⟩
  exact exists_frame_iff.mpr ⟨segment, reached_subset nearest inReached, row, inRows, isDistance⟩

section

variable (nearest : NearestFirst request.segments eventSourcePts order)
  (given : request.labels.eventFramePts.toInt = some eventSourcePts)

include nearest given

theorem anchor_eq_iff :
    (mapSourceWindowToMux request).map (·.2.2) = some muxPts ↔
      ∃ seen, FirstLeast cost (request.reachedFrames eventSourcePts order) seen ∧
        seen.muxPts = muxPts := by
  rw [mapSourceWindowToMux_eq given, Option.map_map, Option.map_eq_some_iff,
    WindowRequest.eventFrame, nearest.candidates]
  exact exists_congr fun seen => and_congr_left fun _ => foldl_eq_some_iff

theorem anchorExact_iff_sameMoment
    (isFirst : FirstLeast cost (request.allFrames eventSourcePts) frame) :
    AnchorExact request eventSourcePts ↔
      (∃ seen, FirstLeast cost (request.reachedFrames eventSourcePts order) seen ∧
        seen.muxPts = frame.muxPts) ∧
      ((∃ muxPts, request.HasNamedRow muxPts) → request.HasNamedRow frame.muxPts) := by
  have mappedAll := mapEverySegmentToMux_eq given
  rw [foldl_eq_some_iff.mpr isFirst, Option.map_some] at mappedAll
  rw [← anchor_eq_iff nearest given]
  constructor
  · intro exactAnchor
    have anchored : (mapSourceWindowToMux request).map (·.2.2) = some frame.muxPts := by
      rw [exactAnchor.asFullScan, mappedAll]
      rfl
    refine ⟨anchored, fun someNamed => ?_⟩
    rcases exactAnchor.named someNamed with ⟨_, isAnchor, named⟩
    rw [anchored] at isAnchor
    exact Option.mem_some_iff.mp isAnchor ▸ named
  · rintro ⟨anchored, named⟩
    refine ⟨?_, fun someNamed => ⟨frame.muxPts, anchored, named someNamed⟩,
      fun unnamed _ => ⟨frame.muxPts, anchored, hasNearestRow_of_firstLeast isFirst unnamed⟩⟩
    have mapped := mapSourceWindowToMux_eq given
    rw [mapped, Option.map_map, Option.map_eq_some_iff] at anchored
    rcases anchored with ⟨seen, atSeen, sameMux⟩
    have isMux : seen.muxPts = frame.muxPts := sameMux
    rw [mapped, mappedAll, atSeen, Option.map_some, isMux]

theorem anchorExact_of_empty (empty : request.allFrames eventSourcePts = []) :
    AnchorExact request eventSourcePts := by
  have noRow : ¬∃ sourcePts muxPts uuid, request.HasRow sourcePts muxPts uuid := by
    rintro ⟨sourcePts, muxPts, uuid, segment, inSegments, row, inRows, source, mux, _⟩
    have isDistance : ∃ distance,
        rowDistance eventSourcePts request.eventUuid row = some distance := by
      simp only [rowDistance, mux, source]
      exact ⟨_, rfl⟩
    rcases isDistance with ⟨_, isDistance⟩
    rcases exists_frame_iff.mpr ⟨segment, inSegments, row, inRows, isDistance⟩ with
      ⟨_, inFrames, _⟩
    rw [WindowRequest.allFrames] at empty
    rw [empty] at inFrames
    cases inFrames
  refine ⟨?_, ?_, fun _ someRow => absurd someRow noRow⟩
  · have mapped := mapEverySegmentToMux_eq given
    rw [empty] at mapped
    cases found : mapSourceWindowToMux request with
    | none => exact mapped.symm
    | some window =>
      have anchored : (mapSourceWindowToMux request).map (·.2.2) = some window.2.2 := by
        rw [found]
        rfl
      rcases (anchor_eq_iff nearest given).mp anchored with ⟨_, isSeen, _⟩
      rcases exists_all_of_reached nearest isSeen.mem with ⟨_, member, _⟩
      rw [empty] at member
      cases member
  · rintro ⟨muxPts, sourcePts, _, hasRow⟩
    exact absurd ⟨sourcePts, muxPts, _, hasRow⟩ noRow

end

/-- The candidate cut and the early end of the scan lose nothing exactly if no row that is left
out is nearer, or if its mux PTS is also that of the row found instead. -/
theorem anchor_exact_iff (nearest : NearestFirst request.segments eventSourcePts order)
    (given : request.labels.eventFramePts.toInt = some eventSourcePts) :
    AnchorExact request eventSourcePts ↔
      NothingLost request eventSourcePts order ∨
        ∃ first seen, SameByChance request eventSourcePts order first seen := by
  by_cases empty : request.allFrames eventSourcePts = []
  · refine iff_of_true (anchorExact_of_empty nearest given empty) (.inl ⟨?_, ?_, ?_⟩)
    · intro segment inSegments _ row inRows _ distance isDistance
      rcases exists_frame_iff.mpr ⟨segment, inSegments, row, inRows, isDistance⟩ with
        ⟨_, inFrames, _⟩
      rw [WindowRequest.allFrames] at empty
      rw [empty] at inFrames
      cases inFrames
    · intro first _ isFirst
      exact absurd isFirst.mem (empty ▸ List.not_mem_nil)
    · intro first isFirst
      exact absurd isFirst.mem (empty ▸ List.not_mem_nil)
  · rcases @exists_firstLeast _ _ _ cost _ empty with ⟨first, isFirst⟩
    rw [anchorExact_iff_sameMoment nearest given isFirst]
    constructor
    · rintro ⟨⟨seen, isSeen, sameMux⟩, named⟩
      rcases exists_all_of_reached nearest isSeen.mem with ⟨other, inAll, sameDistance⟩
      have notNearer := distance_le (isFirst.least other inAll)
      rw [sameDistance] at notNearer
      rcases notNearer.lt_or_eq with farther | same
      · exact .inr ⟨first, seen, isFirst, isSeen, farther, sameMux, named⟩
      · refine .inl ⟨?_, ?_, ?_⟩
        · intro segment inSegments _ row inRows _ distance isDistance
          rcases exists_frame_iff.mpr ⟨segment, inSegments, row, inRows, isDistance⟩ with
            ⟨frame, inFrames, _⟩
          have least := distance_le (isFirst.least frame inFrames)
          rcases exists_frame_iff.mp ⟨seen, isSeen.mem, rfl⟩ with
            ⟨near, inReached, nearRow, inNearRows, nearDistance⟩
          exact ⟨near, inReached, nearRow, inNearRows, seen.distance, by omega, nearDistance⟩
        · intro other otherSeen isOther isOtherSeen _
          rw [isOther.unique isFirst, isOtherSeen.unique isSeen, sameMux]
        · intro other isOther
          rw [isOther.unique isFirst]
          exact named
    · rintro (kept | ⟨other, seen, byChance⟩)
      · refine ⟨?_, kept.named first isFirst⟩
        rcases exists_frame_iff.mp ⟨first, isFirst.mem, rfl⟩ with
          ⟨segment, inSegments, row, inRows, isDistance⟩
        have asNear : ∃ frame ∈ request.reachedFrames eventSourcePts order,
            frame.distance ≤ first.distance := by
          by_cases inReached : segment ∈ reached request.segments order
          · rcases exists_frame_iff.mpr ⟨segment, inReached, row, inRows, isDistance⟩ with
              ⟨frame, inFrames, isFrame⟩
            exact ⟨frame, inFrames, isFrame.le⟩
          · have reaches : request.ReachesAsNear eventSourcePts order row := by
              by_cases outranged : Outranged request eventSourcePts order segment row
              · exact outranged.reachesAsNear nearest inSegments inReached inRows
              · exact kept.leftOut segment inSegments inReached row inRows outranged
            rcases reaches _ isDistance with
              ⟨near, inNear, nearRow, inNearRows, _, atMost, isLeast⟩
            rcases exists_frame_iff.mpr ⟨near, inNear, nearRow, inNearRows, isLeast⟩ with
              ⟨frame, inFrames, isFrame⟩
            exact ⟨frame, inFrames, isFrame.le.trans atMost⟩
        rcases asNear with ⟨frame, inFrames, _⟩
        rcases @exists_firstLeast _ _ _ cost _ (List.ne_nil_of_mem inFrames) with
          ⟨seen, isSeen⟩
        rcases exists_all_of_reached nearest isSeen.mem with ⟨other, inAll, _⟩
        have notNearer := distance_le (isFirst.least other inAll)
        have notFarther := distance_le (isSeen.least frame inFrames)
        exact ⟨seen, isSeen, kept.ties first seen isFirst isSeen (by omega)⟩
      · rw [byChance.closest.unique isFirst] at byChance
        exact ⟨⟨seen, byChance.closestReached, byChance.sameMux⟩, byChance.named⟩

/-- An event without uuid at ten seconds of source time. -/
def anchorRequest (segments : List RollingSegment) : WindowRequest :=
  { requestedStartPts := 9000000000, requestedEndPts := 11000000000
    labels := { eventFramePts := .number 10000000000, eventFrameUuid := "", frameUuid := "" }
    segments, rowLoader := fun segment => [driftingRow (segment.firstPts * 10) segment.firstPts]
    coverageSlackNs := defaultCoverageSlackNs, allowPartial := false }

/-- One row; its source clock runs ten times as fast as the mux clock. -/
def oneRowSegment (segmentId : String) (muxPts : Int) (bounded : Bool) : RollingSegment :=
  { segmentId, firstPts := muxPts, lastPts := muxPts
    sourceFirstPts := if bounded then some (muxPts * 10) else none
    sourceLastPts := if bounded then some (muxPts * 10) else none }

def twoRanges : WindowRequest :=
  anchorRequest [oneRowSegment "a" 0 true, oneRowSegment "b" 1000000000 true]

theorem twoRanges_nearestFirst : NearestFirst twoRanges.segments 10000000000
    [(oneRowSegment "b" 1000000000 true, 1), (oneRowSegment "a" 0 true, 0)] :=
  ⟨by decide +kernel, by simp [rangeKey, Prod.Lex.toLex_lt_toLex]; decide +kernel⟩

theorem twoRanges_anchor_exact_iff :
    AnchorExact twoRanges 10000000000 ↔
      NothingLost twoRanges 10000000000
          [(oneRowSegment "b" 1000000000 true, 1), (oneRowSegment "a" 0 true, 0)] ∨
        ∃ first seen, SameByChance twoRanges 10000000000
          [(oneRowSegment "b" 1000000000 true, 1), (oneRowSegment "a" 0 true, 0)] first seen :=
  anchor_exact_iff twoRanges_nearestFirst rfl

/-- A segment without source bounds holds the event's frame; another one has bounds. -/
def mixedRequest : WindowRequest :=
  anchorRequest [oneRowSegment "a" 0 true, oneRowSegment "legacy" 1000000000 false]

theorem unbounded_segment_dropped :
    mapSourceWindowToMux mixedRequest = some (-1000000000, 1000000000, 0) ∧
      mapEverySegmentToMux mixedRequest = some (0, 2000000000, 1000000000) ∧
      ¬AnchorExact mixedRequest 10000000000 := by
  have candidates : mapSourceWindowToMux mixedRequest = some (-1000000000, 1000000000, 0) := by
    simp only [mapSourceWindowToMux, sourceClockCandidateSegments, mergeSort_pairLe]
    decide +kernel
  have all : mapEverySegmentToMux mixedRequest = some (0, 2000000000, 1000000000) := by
    decide +kernel
  refine ⟨candidates, all, ?_⟩
  intro exactAnchor
  have same := exactAnchor.asFullScan
  rw [candidates, all] at same
  cases same

end VideoAnalysis.RollingCache
