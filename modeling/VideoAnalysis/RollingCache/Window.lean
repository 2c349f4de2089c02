import Mathlib

/-! # Materializing a rolling-cache window

The checks of `materialize_window` and of `_rolling_cache_frame_for_image_event`
in source order, up to the coverage misses they raise. Times are integer
nanoseconds; durations and frame rates that the source keeps as floats are
integers too, printed by a given formatter.
-/

namespace VideoAnalysis.RollingCache

structure RollingSegment where
  segmentId : String
  firstPts : Int
  lastPts : Int
  sourceFirstPts : Option Int
  sourceLastPts : Option Int
  deriving DecidableEq

/-- A value of a metadata row or of event labels: absent, or given with its truth
value and its reading by `int`. -/
inductive PyValue where
  | absent
  | given (truthy : Bool) (int : Option Int)

def PyValue.number (value : Int) : PyValue := .given (value != 0) (some value)

def PyValue.toInt : PyValue → Option Int
  | .absent => none
  | .given _ int => int

/-- `first or second`. -/
def PyValue.orElse (first second : PyValue) : PyValue :=
  match first with
  | .given true int => .given true int
  | _ => second

/-- `second` stands in when `first is None`. -/
def PyValue.ifAbsent (first second : PyValue) : PyValue :=
  match first with
  | .absent => second
  | present => present

/-- `abs(first - second)`. -/
def distanceNs (first second : Int) : Int := ((first - second).natAbs : Int)

def orText (first second : String) : String := if first = "" then second else first

structure MetadataRow where
  schemaVersion : String
  rollingCacheMuxPts : PyValue
  pts : PyValue
  framePts : PyValue
  uuid : String
  frameUuid : String

variable (row : MetadataRow)

def MetadataRow.rowPts : Option Int :=
  (row.rollingCacheMuxPts.ifAbsent (row.pts.ifAbsent row.framePts)).toInt

def MetadataRow.muxRowPts : Option Int := row.rollingCacheMuxPts.toInt

def MetadataRow.sourceRowPts : Option Int :=
  (row.pts.ifAbsent row.framePts).toInt

def MetadataRow.rowUuid : String := orText row.uuid row.frameUuid

structure EventLabels where
  eventFramePts : PyValue
  eventFrameUuid : String
  frameUuid : String

structure WindowRequest where
  requestedStartPts : Int
  requestedEndPts : Int
  labels : EventLabels
  segments : List RollingSegment
  rowLoader : RollingSegment → List MetadataRow
  coverageSlackNs : Int
  allowPartial : Bool

def defaultCoverageSlackNs : Int := 750000000
def defaultInternalRowGapSlackNs : Int := 1000000000
def defaultInternalSegmentGapSlackNs : Int := 2000000000
def defaultDurationRepairSlackNs : Int := 1000000000
def imageEvidenceNearestFrameToleranceNs : Int := 500000000

/-- Text made of lower-case ASCII characters other than the underscore. -/
def NumeralText (text : String) : Prop :=
  ∀ char ∈ text.toList, char.toNat < 128 ∧ char.toLower = char ∧ char ≠ '_'

/-- How Python prints the floats of a message: `.3f` and `str`. -/
structure FloatFormat where
  fixed3 : Int → String
  plain : Int → String
  fixed3_numeral : ∀ value, NumeralText (fixed3 value)
  plain_numeral : ∀ value, NumeralText (plain value)

/-- What ffmpeg and the probes report for one window. An error is the text of
the `RollingCacheError` they end in. -/
structure MediaRun where
  remuxError : Option String
  probed : Bool
  copyDuration : Option Int
  copyFrameRate : Option Int
  transcodeError : Option String
  transcodeDuration : Option Int
  transcodeFrameRate : Option Int
  minimumFrameRate : Int

inductive WindowFailure where
  | coverageMiss (message : String)
  | rollingCacheError (message : String)
  deriving DecidableEq

/-! ## Selecting segments -/

def pairLe (first second : Int × Int) : Bool :=
  decide (first.1 < second.1) || (decide (first.1 = second.1) && decide (first.2 ≤ second.2))

variable (segments : List RollingSegment)

def overlappingSegments (requestedStartPts requestedEndPts : Int) : List RollingSegment :=
  segments.filter fun segment =>
    decide (requestedStartPts ≤ segment.lastPts) && decide (segment.firstPts ≤ requestedEndPts)

def sortSegments : List RollingSegment :=
  segments.mergeSort fun first second =>
    pairLe (first.firstPts, first.lastPts) (second.firstPts, second.lastPts)

/-- The source-clock distance of a segment and the lower end of its range. -/
def sourceDistance (eventSourcePts : Int) (segment : RollingSegment) : Option (Int × Int) :=
  match segment.sourceFirstPts, segment.sourceLastPts with
  | some first, some last =>
    let low := min first last
    let high := max first last
    let distance :=
      if low ≤ eventSourcePts ∧ eventSourcePts ≤ high then 0
      else min (distanceNs eventSourcePts low) (distanceNs eventSourcePts high)
    some (distance, low)
  | _, _ => none

def sourceClockCandidateSegments (eventSourcePts : Int) : List RollingSegment :=
  let bounded := segments.filterMap fun segment =>
    (sourceDistance eventSourcePts segment).map fun key => (key, segment)
  if bounded.isEmpty then segments
  else ((bounded.mergeSort fun first second => pairLe first.1 second.1).take 3).map (·.2)

/-- One segment's rows against the event; `best` is the smallest source distance
so far with its mux PTS, and a row with the event's uuid ends the scan. -/
def scanRows (eventSourcePts : Int) (eventUuid : String) :
    Option (Int × Int) → List MetadataRow → Option (Int × Int)
  | best, [] => best
  | best, row :: rows =>
    match row.muxRowPts, row.sourceRowPts with
    | some muxPts, some sourcePts =>
      if eventUuid ≠ "" ∧ row.rowUuid = eventUuid then some (0, muxPts)
      else
        let delta := distanceNs sourcePts eventSourcePts
        match best with
        | some (bestDelta, bestMux) =>
          if delta < bestDelta then
            scanRows eventSourcePts eventUuid (some (delta, muxPts)) rows
          else scanRows eventSourcePts eventUuid (some (bestDelta, bestMux)) rows
        | none => scanRows eventSourcePts eventUuid (some (delta, muxPts)) rows
    | _, _ => scanRows eventSourcePts eventUuid best rows

def scanSegments (eventSourcePts : Int) (eventUuid : String)
    (rowLoader : RollingSegment → List MetadataRow) :
    Option (Int × Int) → List RollingSegment → Option (Int × Int)
  | best, [] => best
  | best, segment :: segments =>
    let next := scanRows eventSourcePts eventUuid best (rowLoader segment)
    if next.map (·.1) = some 0 then next
    else scanSegments eventSourcePts eventUuid rowLoader next segments

/-- The requested window and the event on the mux clock. -/
def mapSourceWindowToMux (request : WindowRequest) : Option (Int × Int × Int) :=
  match request.labels.eventFramePts.toInt with
  | none => none
  | some eventSourcePts =>
    let eventUuid := orText request.labels.eventFrameUuid request.labels.frameUuid
    let candidates := sourceClockCandidateSegments request.segments eventSourcePts
    match scanSegments eventSourcePts eventUuid request.rowLoader none candidates with
    | none => none
    | some (_, muxPts) =>
      let preNs := max 0 (eventSourcePts - request.requestedStartPts)
      let postNs := max 0 (request.requestedEndPts - eventSourcePts)
      some (muxPts - preNs, muxPts + postNs, muxPts)

/-! ## The window and its gaps -/

def gapsBetween (gapOf : RollingSegment → RollingSegment → Int)
    (segments : List RollingSegment) : List (String × String × Int) :=
  (segments.zip segments.tail).map fun (previous, current) =>
    (previous.segmentId, current.segmentId, gapOf previous current)

/-- The first gap of largest size, as `max(gaps, key=…)` picks it. -/
def largestGap : List (String × String × Int) → Option (String × String × Int)
  | [] => none
  | gap :: gaps =>
    some (gaps.foldl (fun best next => if best.2.2 < next.2.2 then next else best) gap)

/-- Everything `materialize_window` computes about the window before it reads
rows of the selected segments. -/
structure WindowPlan where
  requestedStartPts : Int
  requestedEndPts : Int
  eventMuxPts : Option Int
  selected : List RollingSegment
  internalGap : Option (String × String × Int)
  segmentStartPts : Int
  segmentEndPts : Int
  outputStartPts : Int
  outputEndPts : Int
  startGapNs : Int
  endGapNs : Int

def minimumOf (first : Int) (rest : List Int) : Int := rest.foldl min first
def maximumOf (first : Int) (rest : List Int) : Int := rest.foldl max first

def planWindow (request : WindowRequest) : WindowPlan :=
  let mapped := mapSourceWindowToMux request
  let requestedStartPts := (mapped.map (·.1)).getD request.requestedStartPts
  let requestedEndPts := (mapped.map (·.2.1)).getD request.requestedEndPts
  let eventMuxPts := (mapped.map (·.2.2)).or request.labels.eventFramePts.toInt
  let selected :=
    sortSegments (overlappingSegments request.segments requestedStartPts requestedEndPts)
  let gapLimitNs := max request.coverageSlackNs defaultInternalSegmentGapSlackNs
  let gaps := gapsBetween (fun previous current => current.firstPts - previous.lastPts) selected
  let starts := selected.map (·.firstPts)
  let ends := selected.map (·.lastPts)
  let segmentStartPts := minimumOf (starts.headD 0) starts.tail
  let segmentEndPts := maximumOf (ends.headD 0) ends.tail
  { requestedStartPts, requestedEndPts, eventMuxPts, selected
    internalGap := largestGap (gaps.filter fun gap => decide (gapLimitNs < gap.2.2))
    segmentStartPts, segmentEndPts
    outputStartPts := max segmentStartPts requestedStartPts
    outputEndPts := min segmentEndPts requestedEndPts
    startGapNs := max 0 (segmentStartPts - requestedStartPts)
    endGapNs := max 0 (requestedEndPts - segmentEndPts) }

def WindowPlan.eventOutside (plan : WindowPlan) : Bool :=
  match plan.eventMuxPts with
  | some pts => decide (pts < plan.segmentStartPts) || decide (plan.segmentEndPts < pts)
  | none => false

def WindowPlan.covered (plan : WindowPlan) (coverageSlackNs : Int) : Bool :=
  decide (plan.startGapNs ≤ coverageSlackNs) && decide (plan.endGapNs ≤ coverageSlackNs)

def internalGapMessage (previousId currentId : String) (gapNs : Int) : String :=
  "rolling_cache_requested_window_internal_gap:previous_segment=" ++ previousId ++
    ":next_segment=" ++ currentId ++ ":internal_gap_ns=" ++ toString gapNs

/-- `",".join(gaps) or "window_gap"`. -/
def gapDetail : List String → String
  | [] => "window_gap"
  | gap :: gaps => gaps.foldl (fun detail next => detail ++ "," ++ next) gap

def notFullyCoveredMessage (plan : WindowPlan) (coverageSlackNs : Int) : String :=
  "rolling_cache_requested_window_not_fully_covered:" ++ gapDetail
    ((if coverageSlackNs < plan.startGapNs then ["pre_gap_ns=" ++ toString plan.startGapNs]
      else []) ++
    (if coverageSlackNs < plan.endGapNs then ["post_gap_ns=" ++ toString plan.endGapNs]
      else []))

def checkPlan (request : WindowRequest) (plan : WindowPlan) : Except WindowFailure Unit :=
  if plan.selected = [] then .error (.coverageMiss "no_overlapping_segments")
  else
    match plan.internalGap with
    | some (previousId, currentId, gapNs) =>
      .error (.coverageMiss (internalGapMessage previousId currentId gapNs))
    | none =>
      if plan.outputEndPts ≤ plan.outputStartPts then
        .error (.coverageMiss "rolling_cache_requested_window_not_covered")
      else if plan.eventOutside = true then
        .error (.coverageMiss "rolling_cache_event_frame_not_covered")
      else if plan.covered request.coverageSlackNs = false ∧ request.allowPartial = false then
        .error (.coverageMiss (notFullyCoveredMessage plan request.coverageSlackNs))
      else .ok ()

/-! ## The rows of the window -/

def isManifestRow : Bool :=
  row.schemaVersion == "rolling-segment-manifest-v2" ||
    row.schemaVersion == "rolling-segment-manifest-v3"

def strictlyIncreasing : Option Int → List (Int × MetadataRow) → List MetadataRow
  | _, [] => []
  | none, (pts, row) :: rows => row :: strictlyIncreasing (some pts) rows
  | some lastPts, (pts, row) :: rows =>
    if pts ≤ lastPts then strictlyIncreasing (some lastPts) rows
    else row :: strictlyIncreasing (some pts) rows

def selectRows (startPts endPts : Int) (rowLoader : RollingSegment → List MetadataRow) :
    List MetadataRow :=
  let rows := (segments.flatMap rowLoader).filter fun row => !isManifestRow row
  let frameRows := rows.filterMap fun row =>
    match row.rowPts with
    | some pts => if startPts ≤ pts ∧ pts ≤ endPts then some (pts, row) else none
    | none => none
  let auxiliaryRows := rows.filter fun row => row.rowPts.isNone
  strictlyIncreasing none (frameRows.mergeSort fun first second => decide (first.1 ≤ second.1)) ++
    auxiliaryRows

theorem exists_frameRows (segments : List RollingSegment) (startPts endPts : Int)
    (rowLoader : RollingSegment → List MetadataRow) :
    ∃ frameRows : List (Int × MetadataRow),
      selectRows segments startPts endPts rowLoader =
        strictlyIncreasing none
            (frameRows.mergeSort fun first second => decide (first.1 ≤ second.1)) ++
          ((segments.flatMap rowLoader).filter fun row => !isManifestRow row).filter
            (fun row => row.rowPts.isNone) ∧
      ∀ pts row, (pts, row) ∈ frameRows ↔
        row ∈ (segments.flatMap rowLoader).filter (fun row => !isManifestRow row) ∧
          row.rowPts = some pts ∧ startPts ≤ pts ∧ pts ≤ endPts := by
  refine ⟨_, rfl, ?_⟩
  intro pts row
  rw [List.mem_filterMap]
  constructor
  · rintro ⟨other, member, selected⟩
    split at selected
    next _ numbered =>
      split at selected
      next inside =>
        cases selected
        exact ⟨member, numbered, inside⟩
      next => cases selected
    next => cases selected
  · rintro ⟨member, numbered, inside⟩
    exact ⟨row, member, by simp only [numbered, if_pos inside]⟩

def endpointGapMessage (preGapNs postGapNs : Int) : String :=
  "rolling_cache_selected_rows_endpoint_gap:pre_gap_ns=" ++ toString preGapNs ++
    ":post_gap_ns=" ++ toString postGapNs

def internalRowGapMessage (gapNs limitNs : Int) : String :=
  "rolling_cache_selected_rows_internal_gap:internal_gap_ns=" ++ toString gapNs ++
    ":gap_limit_ns=" ++ toString limitNs

def medianGap (gaps : List Int) : Int :=
  let sortedGaps := (gaps.filter fun gap => decide (0 < gap)).mergeSort fun a b => decide (a ≤ b)
  sortedGaps.getD (sortedGaps.length / 2) 0

def validateSelectedRowCoverage (rows : List MetadataRow) (requestedStartPts requestedEndPts : Int)
    (coverageSlackNs : Int) (allowPartial : Bool) : Except WindowFailure Unit :=
  if allowPartial = true then .ok ()
  else
    let ptsValues := (rows.filterMap MetadataRow.rowPts).mergeSort fun a b => decide (a ≤ b)
    match ptsValues with
    | [] => .error (.coverageMiss "rolling_cache_selected_rows_missing")
    | first :: rest =>
      let preGapNs := max 0 (first - requestedStartPts)
      let postGapNs := max 0 (requestedEndPts - (first :: rest).getLastD 0)
      if coverageSlackNs < preGapNs ∨ coverageSlackNs < postGapNs then
        .error (.coverageMiss (endpointGapMessage preGapNs postGapNs))
      else
        let frameGapsNs := ((first :: rest).zip rest).map fun (previous, current) =>
          current - previous
        let largestGapNs := maximumOf (frameGapsNs.headD 0) frameGapsNs.tail
        let limitNs :=
          max (max coverageSlackNs defaultInternalRowGapSlackNs) (medianGap frameGapsNs * 8)
        if limitNs < largestGapNs then
          .error (.coverageMiss (internalRowGapMessage largestGapNs limitNs))
        else .ok ()

/-! ## Remuxing and probing -/

def durationBelowExpected (observed : Option Int) (expected : Int) : Bool :=
  match observed with
  | some duration => decide (duration < max 0 (expected - defaultDurationRepairSlackNs))
  | none => false

def frameRateBelowExpected (observed : Option Int) (minimum : Int) : Bool :=
  match observed with
  | some rate => decide (0 < minimum) && decide (rate < minimum)
  | none => false

def orUnknown (text : Int → String) : Option Int → String
  | some value => text value
  | none => "unknown"

def durationShortMessage (format : FloatFormat) (expected : Int) (observed : Option Int) :
    String :=
  "rolling_cache_output_duration_short:expected_s=" ++ format.fixed3 expected ++
    ":observed_s=" ++ orUnknown format.plain observed

def frameRateLowMessage (format : FloatFormat) (minimum : Int) (observed : Option Int) :
    String :=
  "rolling_cache_output_frame_rate_low:minimum_fps=" ++ format.fixed3 minimum ++
    ":observed_fps=" ++ orUnknown format.plain observed

def checkMedia (format : FloatFormat) (media : MediaRun) (outputDuration : Int) :
    Except WindowFailure Unit :=
  match media.remuxError with
  | some message => .error (.rollingCacheError message)
  | none =>
    if media.probed = true ∧
        (durationBelowExpected media.copyDuration outputDuration = true ∨
          frameRateBelowExpected media.copyFrameRate media.minimumFrameRate = true) then
      match media.transcodeError with
      | some message => .error (.rollingCacheError message)
      | none =>
        if durationBelowExpected media.transcodeDuration outputDuration = true then
          .error (.coverageMiss
            (durationShortMessage format outputDuration media.transcodeDuration))
        else if
          frameRateBelowExpected media.transcodeFrameRate media.minimumFrameRate = true then
          .error (.coverageMiss
            (frameRateLowMessage format media.minimumFrameRate media.transcodeFrameRate))
        else .ok ()
    else .ok ()

structure MaterializedWindow where
  plan : WindowPlan
  rows : List MetadataRow
  canonicalClip : Bool

def materializeWindow (format : FloatFormat) (request : WindowRequest) (media : MediaRun) :
    Except WindowFailure MaterializedWindow := do
  if request.requestedEndPts ≤ request.requestedStartPts then
    throw (.coverageMiss "invalid_requested_pts_window")
  let plan := planWindow request
  checkPlan request plan
  let rows := selectRows plan.selected plan.outputStartPts plan.outputEndPts request.rowLoader
  validateSelectedRowCoverage rows plan.outputStartPts plan.outputEndPts request.coverageSlackNs
    request.allowPartial
  checkMedia format media (max 1000000 (plan.outputEndPts - plan.outputStartPts))
  return { plan, rows, canonicalClip := plan.covered request.coverageSlackNs }

/-! ## The frame of an image event -/

structure ImageEvent where
  contextFrameUuid : String
  mediaFrameUuid : String
  mediaFramePts : PyValue
  contextFramePts : PyValue

structure ImageFrame where
  segment : RollingSegment
  pts : Int
  frameUuid : String
  deriving DecidableEq

def recordPts (record : MetadataRow) : Option Int := (record.pts.orElse record.framePts).toInt

def frameByUuid (frameUuid : String) (rowLoader : RollingSegment → List MetadataRow) :
    List RollingSegment → Option ImageFrame
  | [] => none
  | segment :: segments =>
    match (rowLoader segment).findSome? fun record =>
      if record.rowUuid = frameUuid then recordPts record else none with
    | some pts => some { segment, pts, frameUuid }
    | none => frameByUuid frameUuid rowLoader segments

def nearestFrame (framePts : Int) (frameUuid : String)
    (rowLoader : RollingSegment → List MetadataRow) (segments : List RollingSegment) :
    Option ImageFrame :=
  let records := segments.flatMap fun segment =>
    (rowLoader segment).map fun record => (segment, record)
  (records.foldl
    (fun (best : Option (Int × ImageFrame)) (segment, record) =>
      match recordPts record with
      | none => best
      | some pts =>
        let delta := distanceNs pts framePts
        let closer := match best with
          | some (bestDelta, _) => decide (delta < bestDelta)
          | none => true
        if delta ≤ imageEvidenceNearestFrameToleranceNs ∧ closer = true then
          some (delta, { segment, pts, frameUuid := orText record.rowUuid frameUuid })
        else best)
    none).map (·.2)

def rollingCacheFrameForImageEvent (event : ImageEvent) (segments : List RollingSegment)
    (rowLoader : RollingSegment → List MetadataRow) : Except WindowFailure ImageFrame :=
  if segments = [] then .error (.coverageMiss "face_image_no_rolling_cache_segments")
  else
    let frameUuid := orText event.contextFrameUuid event.mediaFrameUuid
    let byUuid := if frameUuid = "" then none else frameByUuid frameUuid rowLoader segments
    match byUuid with
    | some frame => .ok frame
    | none =>
      match (event.mediaFramePts.orElse event.contextFramePts).toInt with
      | none => .error (.coverageMiss "face_image_missing_frame_pts")
      | some framePts =>
        match segments.find? fun segment =>
          decide (segment.firstPts ≤ framePts) && decide (framePts ≤ segment.lastPts) with
        | some segment => .ok { segment, pts := framePts, frameUuid }
        | none =>
          match nearestFrame framePts frameUuid rowLoader segments with
          | some frame => .ok frame
          | none => .error (.coverageMiss "face_image_frame_not_found")

end VideoAnalysis.RollingCache
