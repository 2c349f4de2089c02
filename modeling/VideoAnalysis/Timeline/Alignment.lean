import VideoAnalysis.Foundation.NearestItem
import VideoAnalysis.Timeline.ClipTime
import VideoAnalysis.Timeline.Rows
import VideoAnalysis.Timeline.Tolerance

/-! # Annotations on the timeline of a clip

Each annotation takes the time of the metadata row that it belongs to: by its UUID, by its
PTS, or by the nearest PTS.
-/

namespace VideoAnalysis.Timeline

open Foundation Python

inductive MatchKind
  | metadataFrameUuid
  | metadataFramePtsExact
  | metadataFramePtsNearest
  | outOfWindow
  | missing
deriving DecidableEq

def MatchKind.name : MatchKind → String
  | metadataFrameUuid => "metadata_frame_uuid"
  | metadataFramePtsExact => "metadata_frame_pts_exact"
  | metadataFramePtsNearest => "metadata_frame_pts_nearest"
  | outOfWindow => "out_of_window"
  | missing => "missing"

/-! ## What is found for an annotation -/

/-- A frame and what decides between equally near ones. -/
structure RankedFrame where
  frame : TimelineRow
  order : Int

/-- `pts_frames`, sorted. -/
def ptsFrames (frames : List TimelineRow) : List RankedFrame :=
  sortByKeys (·.frame.pts) RankedFrame.order <|
    frames.zipIdx.map fun (frame, index) => { frame, order := frame.frameNum.getD index }

/-- `_nearest_metadata_frame`. -/
def nearestMetadataFrame (framePts : Int) (frames : List RankedFrame) :
    Option (Int × TimelineRow) :=
  (nearestItem (·.frame.pts) RankedFrame.order frames framePts).map fun found =>
    (|found.frame.pts - framePts|, found.frame)

/-- What is prepared before the annotations are looked at. -/
structure ClipIndex where
  frames : List TimelineRow
  firstPts : Int
  lastPts : Int
  toleranceNs : Int

namespace ClipIndex

variable (index : ClipIndex)

def byUuid (uuid : Text) : Option TimelineRow :=
  index.frames.find? fun frame => rowUuid frame.row = some uuid

def byPts (pts : Int) : Option TimelineRow :=
  index.frames.find? fun frame => frame.pts = pts

end ClipIndex

structure FrameMatch where
  frame : Option TimelineRow
  kind : MatchKind
  deltaNs : Option Int

def matchFrame (index : ClipIndex) (uuid : Option Text) (pts : Option Int) : FrameMatch :=
  match uuid.bind index.byUuid, pts with
  | some frame, _ => { frame := some frame, kind := .metadataFrameUuid, deltaNs := some 0 }
  | none, none => { frame := none, kind := .missing, deltaNs := none }
  | none, some pts =>
    let unmatched : MatchKind :=
      if pts < index.firstPts ∨ index.lastPts < pts then .outOfWindow else .missing
    match index.byPts pts with
    | some frame => { frame := some frame, kind := .metadataFramePtsExact, deltaNs := some 0 }
    | none =>
      match nearestMetadataFrame pts (ptsFrames index.frames) with
      | none => { frame := none, kind := unmatched, deltaNs := none }
      | some (deltaNs, frame) =>
        if deltaNs ≤ index.toleranceNs then
          { frame := some frame, kind := .metadataFramePtsNearest, deltaNs := some deltaNs }
        else { frame := none, kind := unmatched, deltaNs := some deltaNs }

/-! ## What is written -/

def remove (row : Row) (key : String) : Row := (Dict.erase ⟨row⟩ (text key)).entries

def timeKeys : List String := ["t_ms", "t_s", "clip_frame_index", "matched_metadata_pts"]

/-- `_mark_annotation_not_displayable`. -/
def markAnnotationNotDisplayable (row : Row) : Row :=
  timeKeys.foldl remove (Json.store row "displayable" (.bool false))

def storeKind (row : Row) (kind : MatchKind) : Row :=
  Json.store row "clip_timeline_match" (.str (text kind.name))

def unmatchedRow (kind : MatchKind) (deltaNs : Option Int) (row : Row) : Row :=
  let marked := markAnnotationNotDisplayable (storeKind row kind)
  match deltaNs with
  | some delta => Json.store marked "clip_timeline_delta_ns" (.int delta)
  | none => marked

/-- The row of an annotation that belongs to the frame at this time of the clip. -/
def matchedRow (frame : TimelineRow) (milliseconds : Int) (seconds : Double) (kind : MatchKind)
    (deltaNs : Option Int) (row : Row) : Row :=
  let indexed :=
    match frame.frameNum with
    | some number => Json.store row "clip_frame_index" (.int number)
    | none => row
  let timed := Json.store (Json.store indexed "t_ms" (.int milliseconds)) "t_s" (.float seconds)
  let placed := storeKind (Json.store timed "matched_metadata_pts" (.int frame.pts)) kind
  Json.store (Json.store placed "clip_timeline_delta_ns" (.int (deltaNs.getD 0))) "displayable"
    (.bool true)

def alignRow (index : ClipIndex) (row : Row) : Except PyError (MatchKind × Row) := do
  let pts ← intOrNone (Json.lookup row "frame_pts")
  let found := matchFrame index (rowUuid row) pts
  match found.frame with
  | none => return (found.kind, unmatchedRow found.kind found.deltaNs row)
  | some frame =>
    let milliseconds ← clipMillis (frame.pts - index.firstPts)
    let seconds ← clipSeconds (frame.pts - index.firstPts)
    return (found.kind, matchedRow frame milliseconds seconds found.kind found.deltaNs row)

/-! ## What is counted -/

structure AlignCounts where
  aligned : Nat := 0
  unmatched : Nat := 0
  outOfWindow : Nat := 0
  matchedUuid : Nat := 0
  matchedPtsExact : Nat := 0
  matchedPtsNearest : Nat := 0
  distribution : MatchKind → Nat := fun _ => 0

def AlignCounts.add (counts : AlignCounts) (kind : MatchKind) : AlignCounts :=
  let counts := { counts with
    distribution := fun other => counts.distribution other + if other = kind then 1 else 0 }
  match kind with
  | .metadataFrameUuid =>
    { counts with aligned := counts.aligned + 1, matchedUuid := counts.matchedUuid + 1 }
  | .metadataFramePtsExact =>
    { counts with aligned := counts.aligned + 1, matchedPtsExact := counts.matchedPtsExact + 1 }
  | .metadataFramePtsNearest =>
    { counts with
      aligned := counts.aligned + 1
      matchedPtsNearest := counts.matchedPtsNearest + 1 }
  | .outOfWindow =>
    { counts with
      unmatched := counts.unmatched + 1
      outOfWindow := counts.outOfWindow + 1 }
  | .missing => { counts with unmatched := counts.unmatched + 1 }

structure AlignSummary where
  enabled : Bool
  status : Text
  annotationsAligned : Nat
  annotationsUnmatched : Nat
  annotationsOutOfWindow : Nat
  annotationsDisplayable : Nat
  annotationsMatchedFrameUuid : Nat
  annotationsMatchedFramePtsExact : Nat
  annotationsMatchedFramePtsNearest : Nat
  annotationsMissing : Nat
  clipTimelineMatchDistribution : MatchKind → Nat
  metadataFrameCount : Nat
  firstPts : Option Int
  lastPts : Option Int
  nearestPtsToleranceNs : Option Int

/-- The summary where there is nothing to align, or nothing to align it with. -/
def emptySummary (annotations frames : Nat) : AlignSummary where
  enabled := frames ≠ 0
  status := text (if frames = 0 then "missing_metadata" else "no_annotations")
  annotationsAligned := 0
  annotationsUnmatched := annotations
  annotationsOutOfWindow := 0
  annotationsDisplayable := 0
  annotationsMatchedFrameUuid := 0
  annotationsMatchedFramePtsExact := 0
  annotationsMatchedFramePtsNearest := 0
  annotationsMissing := annotations
  clipTimelineMatchDistribution := fun kind => if kind = .missing then annotations else 0
  metadataFrameCount := frames
  firstPts := none
  lastPts := none
  nearestPtsToleranceNs := none

def alignSummary (index : ClipIndex) (counts : AlignCounts) : AlignSummary where
  enabled := true
  status := text (
    if 0 < counts.aligned ∧ counts.unmatched = 0 then "aligned"
    else if 0 < counts.aligned then "partial"
    else "no_matches")
  annotationsAligned := counts.aligned
  annotationsUnmatched := counts.unmatched
  annotationsOutOfWindow := counts.outOfWindow
  annotationsDisplayable := counts.aligned
  annotationsMatchedFrameUuid := counts.matchedUuid
  annotationsMatchedFramePtsExact := counts.matchedPtsExact
  annotationsMatchedFramePtsNearest := counts.matchedPtsNearest
  annotationsMissing := counts.unmatched
  clipTimelineMatchDistribution := counts.distribution
  metadataFrameCount := index.frames.length
  firstPts := some index.firstPts
  lastPts := some index.lastPts
  nearestPtsToleranceNs := some index.toleranceNs

/-- `align_annotations_to_clip_metadata`. -/
def alignAnnotations (annotations metadataRows : List Row) :
    Except PyError (List Row × AlignSummary) := do
  let frames := sortRows (← readRows (fun _ => true) metadataRows)
  match annotations, frames.head?, frames.getLast? with
  | _ :: _, some first, some last =>
    let toleranceNs ← inferPtsNearestToleranceNs (frames.map TimelineRow.pts)
    let index : ClipIndex :=
      { frames, firstPts := first.pts, lastPts := last.pts, toleranceNs }
    let aligned ← annotations.mapM (alignRow index)
    let counts := (aligned.map Prod.fst).foldl AlignCounts.add {}
    return (aligned.map Prod.snd, alignSummary index counts)
  | _, _, _ =>
    return (annotations.map (unmatchedRow .missing none),
      emptySummary annotations.length frames.length)

end VideoAnalysis.Timeline
