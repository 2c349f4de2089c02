import VideoAnalysis.Foundation.FirstLeast
import VideoAnalysis.RollingCache.Window

/-! # The frame an image event is shown by

`_rolling_cache_frame_for_image_event` matches rows on the source clock, and
`_materialize_face_image_from_rolling_cache` cuts the frame out of a video whose
time is the mux clock.
-/

namespace VideoAnalysis.RollingCache

open Foundation

/-- Nanoseconds into the segment's video at which the frame is extracted. -/
def imageOffsetNs (frame : ImageFrame) : Int := max 0 (frame.pts - frame.segment.firstPts)

def ImageEvent.frameUuid (event : ImageEvent) : String :=
  orText event.contextFrameUuid event.mediaFrameUuid

def ImageEvent.framePts (event : ImageEvent) : Option Int :=
  (event.mediaFramePts.orElse event.contextFramePts).toInt

/-- A row of the segments, with both clocks and inside its segment on the mux clock, that
is the event's frame by uuid or by source PTS. -/
structure MatchedRow (event : ImageEvent) (segments : List RollingSegment)
    (rowLoader : RollingSegment → List MetadataRow) (segment : RollingSegment)
    (row : MetadataRow) : Prop where
  inSegments : segment ∈ segments
  inRows : row ∈ rowLoader segment
  bounded : ∃ muxPts, row.muxRowPts = some muxPts ∧ segment.firstPts ≤ muxPts ∧
    muxPts ≤ segment.lastPts
  matched : (event.frameUuid ≠ "" ∧ row.rowUuid = event.frameUuid ∧
      row.sourceRowPts.isSome = true) ∨
    ∃ framePts, event.framePts = some framePts ∧ row.sourceRowPts = some framePts

/-- The image is cut out of this segment at the mux PTS of this row. -/
def ShowsRow (event : ImageEvent) (segments : List RollingSegment)
    (rowLoader : RollingSegment → List MetadataRow) (segment : RollingSegment)
    (row : MetadataRow) : Prop :=
  ∃ frame muxPts, rollingCacheFrameForImageEvent event segments rowLoader = .ok frame ∧
    frame.segment = segment ∧ row.muxRowPts = some muxPts ∧
    imageOffsetNs frame = muxPts - segment.firstPts

/-! ## Where the three lookups end -/

/-- The rows of the segments in order, each with its segment. -/
def segmentRows (segments : List RollingSegment)
    (rowLoader : RollingSegment → List MetadataRow) : List (RollingSegment × MetadataRow) :=
  segments.flatMap fun segment => (rowLoader segment).map fun record => (segment, record)

def nearbyFrame (framePts : Int) (frameUuid : String) :
    RollingSegment × MetadataRow → Option ImageFrame
  | (segment, record) =>
    match recordPts record with
    | some pts =>
      if distanceNs pts framePts ≤ imageEvidenceNearestFrameToleranceNs then
        some { segment, pts, frameUuid := orText record.rowUuid frameUuid }
      else none
    | none => none

def nearbyFrames (framePts : Int) (frameUuid : String) (segments : List RollingSegment)
    (rowLoader : RollingSegment → List MetadataRow) : List ImageFrame :=
  (segmentRows segments rowLoader).filterMap (nearbyFrame framePts frameUuid)

def NamedAt (frameUuid : String) (pts : Int) (row : MetadataRow) : Prop :=
  frameUuid ≠ "" ∧ row.rowUuid = frameUuid ∧ recordPts row = some pts

def SomeNamed (frameUuid : String) (rows : List (RollingSegment × MetadataRow)) : Prop :=
  ∃ pair ∈ rows, ∃ pts, NamedAt frameUuid pts pair.2

/-- The frame that rows and ranges determine: the first row of the event's uuid, else the
event's source PTS in the first mux range around it, else the first of the nearest rows. -/
inductive Lookup (event : ImageEvent) (segments : List RollingSegment)
    (rowLoader : RollingSegment → List MetadataRow) : ImageFrame → Prop
  | byUuid (segment : RollingSegment) (pts : Int) (row : MetadataRow)
      (before after : List (RollingSegment × MetadataRow))
      (rows : segmentRows segments rowLoader = before ++ (segment, row) :: after)
      (named : NamedAt event.frameUuid pts row)
      (isFirst : ¬SomeNamed event.frameUuid before) :
      Lookup event segments rowLoader { segment, pts, frameUuid := event.frameUuid }
  | byRange (segment : RollingSegment) (pts : Int) (before after : List RollingSegment)
      (unnamed : ¬SomeNamed event.frameUuid (segmentRows segments rowLoader))
      (given : event.framePts = some pts)
      (ranges : segments = before ++ segment :: after)
      (inside : segment.firstPts ≤ pts ∧ pts ≤ segment.lastPts)
      (isFirst : ∀ other ∈ before, ¬(other.firstPts ≤ pts ∧ pts ≤ other.lastPts)) :
      Lookup event segments rowLoader { segment, pts, frameUuid := event.frameUuid }
  | byDistance (frame : ImageFrame) (framePts : Int)
      (unnamed : ¬SomeNamed event.frameUuid (segmentRows segments rowLoader))
      (given : event.framePts = some framePts)
      (outside : ∀ other ∈ segments, ¬(other.firstPts ≤ framePts ∧ framePts ≤ other.lastPts))
      (nearest : FirstLeast (fun other : ImageFrame => distanceNs other.pts framePts)
        (nearbyFrames framePts event.frameUuid segments rowLoader) frame) :
      Lookup event segments rowLoader frame

/-! ## The lookups of the source -/

def namedFrame (frameUuid : String) : RollingSegment × MetadataRow → Option ImageFrame
  | (segment, record) =>
    if record.rowUuid = frameUuid then
      (recordPts record).map fun pts => { segment, pts, frameUuid }
    else none

variable (frameUuid : String)

theorem frameByUuid_eq (rowLoader : RollingSegment → List MetadataRow)
    (segments : List RollingSegment) :
    frameByUuid frameUuid rowLoader segments =
      (segmentRows segments rowLoader).findSome? (namedFrame frameUuid) := by
  induction segments with
  | nil => rfl
  | cons segment _ induction =>
    rw [segmentRows, List.flatMap_cons, List.findSome?_append, ← segmentRows, ← induction]
    have rows : ((rowLoader segment).map fun record => (segment, record)).findSome?
        (namedFrame frameUuid) =
        ((rowLoader segment).findSome? fun record =>
          if record.rowUuid = frameUuid then recordPts record else none).map
            fun pts => { segment, pts, frameUuid } := by
      rw [List.findSome?_map, List.map_findSome?]
      congr 1
      funext record
      simp only [Function.comp_apply, namedFrame]
      split <;> rfl
    rw [rows, frameByUuid]
    cases (rowLoader segment).findSome? fun record =>
      if record.rowUuid = frameUuid then recordPts record else none <;> rfl

variable {frame : ImageFrame}

variable {pair : RollingSegment × MetadataRow}

theorem namedFrame_eq_some {frameUuid : String} (given : frameUuid ≠ "") :
    namedFrame frameUuid pair = some frame ↔
      ∃ pts, NamedAt frameUuid pts pair.2 ∧ { segment := pair.1, pts, frameUuid } = frame := by
  simp only [namedFrame, NamedAt]
  split
  next named => simp [given, named]
  next unnamed => simp [unnamed]

theorem namedFrame_eq_none {frameUuid : String} (given : frameUuid ≠ "") :
    namedFrame frameUuid pair = none ↔ ∀ pts, ¬NamedAt frameUuid pts pair.2 := by
  rw [Option.eq_none_iff_forall_not_mem]
  constructor
  · intro none pts named
    exact none _ ((namedFrame_eq_some given).mpr ⟨pts, named, rfl⟩)
  · intro unnamed frame found
    rcases (namedFrame_eq_some given).mp found with ⟨pts, named, _⟩
    exact unnamed pts named

theorem findSome_namedFrame_eq_none {frameUuid : String} (given : frameUuid ≠ "")
    {rows : List (RollingSegment × MetadataRow)} :
    rows.findSome? (namedFrame frameUuid) = none ↔ ¬SomeNamed frameUuid rows := by
  rw [List.findSome?_eq_none_iff]
  constructor
  · rintro none ⟨pair, inRows, pts, named⟩
    exact (namedFrame_eq_none given).mp (none pair inRows) pts named
  · intro unnamed pair inRows
    apply (namedFrame_eq_none given).mpr
    intro pts named
    exact unnamed ⟨pair, inRows, pts, named⟩

def withDistance (framePts : Int) (best : Option ImageFrame) : Option (Int × ImageFrame) :=
  best.map fun frame => (distanceNs frame.pts framePts, frame)

def nearestStep (framePts : Int) (frameUuid : String) (best : Option (Int × ImageFrame)) :
    RollingSegment × MetadataRow → Option (Int × ImageFrame)
  | (segment, record) =>
    match recordPts record with
    | none => best
    | some pts =>
      let delta := distanceNs pts framePts
      let closer := match best with
        | some (bestDelta, _) => decide (delta < bestDelta)
        | none => true
      if delta ≤ imageEvidenceNearestFrameToleranceNs ∧ closer = true then
        some (delta, { segment, pts, frameUuid := orText record.rowUuid frameUuid })
      else best

abbrev CloserImage (framePts : Int) (first second : ImageFrame) : Prop :=
  distanceNs first.pts framePts < distanceNs second.pts framePts

theorem nearestStep_eq (framePts : Int) (frameUuid : String) (best : Option ImageFrame)
    (pair : RollingSegment × MetadataRow) :
    nearestStep framePts frameUuid (withDistance framePts best) pair =
      withDistance framePts (match nearbyFrame framePts frameUuid pair with
        | some frame => List.argAux (CloserImage framePts) best frame
        | none => best) := by
  rcases pair with ⟨_, record⟩
  cases readable : recordPts record with
  | none => simp only [nearestStep, nearbyFrame, readable]
  | some pts =>
    by_cases near : distanceNs pts framePts ≤ imageEvidenceNearestFrameToleranceNs
    · cases best with
      | none =>
        simp only [nearestStep, nearbyFrame, readable, near, if_pos, withDistance,
          Option.map_none, true_and, List.argAux, Option.map_some]
      | some kept =>
        by_cases closer : distanceNs pts framePts < distanceNs kept.pts framePts
        · simp only [nearestStep, nearbyFrame, readable, near, if_pos, withDistance,
            Option.map_some, true_and, List.argAux, CloserImage, closer, decide_true]
        · simp only [nearestStep, nearbyFrame, readable, near, if_pos, withDistance,
            Option.map_some, true_and, List.argAux, CloserImage, closer, decide_false,
            Bool.false_eq_true, if_false]
    · simp only [nearestStep, nearbyFrame, readable, near, if_false, false_and]

theorem foldl_nearestStep (framePts : Int) (frameUuid : String) (best : Option ImageFrame)
    (rows : List (RollingSegment × MetadataRow)) :
    rows.foldl (nearestStep framePts frameUuid) (withDistance framePts best) =
      withDistance framePts ((rows.filterMap (nearbyFrame framePts frameUuid)).foldl
        (List.argAux (CloserImage framePts)) best) := by
  induction rows generalizing best with
  | nil => rfl
  | cons pair _ induction =>
    rw [List.foldl_cons, nearestStep_eq, induction, List.filterMap_cons]
    cases nearbyFrame framePts frameUuid pair <;> rfl

theorem nearestFrame_eq (framePts : Int) (frameUuid : String)
    (rowLoader : RollingSegment → List MetadataRow) (segments : List RollingSegment) :
    nearestFrame framePts frameUuid rowLoader segments =
      (nearbyFrames framePts frameUuid segments rowLoader).argmin
        (fun frame => distanceNs frame.pts framePts) := by
  have scanned := foldl_nearestStep framePts frameUuid none (segmentRows segments rowLoader)
  have unfolded : nearestFrame framePts frameUuid rowLoader segments =
      ((segmentRows segments rowLoader).foldl (nearestStep framePts frameUuid) none).map
        (·.2) := rfl
  rw [unfolded]
  rw [withDistance, Option.map_none] at scanned
  rw [scanned, withDistance, Option.map_map, nearbyFrames, List.argmin]
  simp only [Function.comp_def, Option.map_id']

variable {rowLoader : RollingSegment → List MetadataRow} {segments : List RollingSegment}

theorem nearestFrame_eq_some {framePts : Int} {frameUuid : String} :
    nearestFrame framePts frameUuid rowLoader segments = some frame ↔
      FirstLeast (fun other : ImageFrame => distanceNs other.pts framePts)
        (nearbyFrames framePts frameUuid segments rowLoader) frame := by
  rw [nearestFrame_eq]
  exact argmin_eq_some_iff_firstLeast

variable {event : ImageEvent}

theorem byUuid_eq_some :
    (if event.frameUuid = "" then none else frameByUuid event.frameUuid rowLoader segments) =
        some frame ↔
      ∃ segment pts row before after,
        segmentRows segments rowLoader = before ++ (segment, row) :: after ∧
        NamedAt event.frameUuid pts row ∧ ¬SomeNamed event.frameUuid before ∧
        { segment, pts, frameUuid := event.frameUuid } = frame := by
  by_cases given : event.frameUuid = ""
  · rw [if_pos given]
    constructor
    · intro found
      cases found
    · rintro ⟨_, _, _, _, _, _, named, _⟩
      exact absurd given named.1
  · rw [if_neg given, frameByUuid_eq, List.findSome?_eq_some_iff]
    constructor
    · rintro ⟨before, ⟨segment, row⟩, after, rows, found, none⟩
      rcases (namedFrame_eq_some given).mp found with ⟨pts, named, same⟩
      refine ⟨segment, pts, row, before, after, rows, named, ?_, same⟩
      exact (findSome_namedFrame_eq_none given).mp (List.findSome?_eq_none_iff.mpr none)
    · rintro ⟨segment, pts, row, before, after, rows, named, unnamed, same⟩
      refine ⟨before, (segment, row), after, rows,
        (namedFrame_eq_some given).mpr ⟨pts, named, same⟩, ?_⟩
      exact List.findSome?_eq_none_iff.mp ((findSome_namedFrame_eq_none given).mpr unnamed)

theorem byUuid_eq_none :
    (if event.frameUuid = "" then none else frameByUuid event.frameUuid rowLoader segments) =
        none ↔
      ¬SomeNamed event.frameUuid (segmentRows segments rowLoader) := by
  by_cases given : event.frameUuid = ""
  · rw [if_pos given]
    refine ⟨?_, fun _ => rfl⟩
    rintro _ ⟨_, _, _, named⟩
    exact named.1 given
  · rw [if_neg given, frameByUuid_eq]
    exact findSome_namedFrame_eq_none given

theorem find_range_eq_some {pts : Int} {segment : RollingSegment} :
    (segments.find? fun other => decide (other.firstPts ≤ pts) && decide (pts ≤ other.lastPts)) =
        some segment ↔
      (segment.firstPts ≤ pts ∧ pts ≤ segment.lastPts) ∧
        ∃ before after, segments = before ++ segment :: after ∧
          ∀ other ∈ before, ¬(other.firstPts ≤ pts ∧ pts ≤ other.lastPts) := by
  simp only [List.find?_eq_some_iff_append, Bool.and_eq_true, decide_eq_true_eq,
    Bool.not_eq_true', Bool.eq_false_iff, ne_eq]

theorem find_range_eq_none {pts : Int} :
    (segments.find? fun other => decide (other.firstPts ≤ pts) && decide (pts ≤ other.lastPts)) =
        none ↔
      ∀ other ∈ segments, ¬(other.firstPts ≤ pts ∧ pts ≤ other.lastPts) := by
  simp only [List.find?_eq_none, Bool.and_eq_true, decide_eq_true_eq]

theorem not_lookup_nil : ¬Lookup event [] rowLoader frame := by
  intro found
  cases found with
  | byUuid _ _ _ before _ rows =>
    exact List.append_ne_nil_of_right_ne_nil before (List.cons_ne_nil _ _) rows.symm
  | byRange _ _ before _ _ _ ranges =>
    exact List.append_ne_nil_of_right_ne_nil before (List.cons_ne_nil _ _) ranges.symm
  | byDistance _ _ _ _ _ nearest => cases nearest.mem

theorem frame_eq_ok_iff :
    rollingCacheFrameForImageEvent event segments rowLoader = .ok frame ↔
      Lookup event segments rowLoader frame := by
  by_cases empty : segments = []
  · subst empty
    simp only [rollingCacheFrameForImageEvent, if_pos, not_lookup_nil, reduceCtorEq]
  · simp only [rollingCacheFrameForImageEvent, if_neg empty]
    rw [← ImageEvent.frameUuid, ← ImageEvent.framePts]
    constructor
    · intro found
      split at found
      next kept byUuid =>
        cases found
        rcases byUuid_eq_some.mp byUuid with
          ⟨segment, pts, row, before, after, rows, named, isFirst, rfl⟩
        exact .byUuid segment pts row before after rows named isFirst
      next noUuid =>
        have unnamed := byUuid_eq_none.mp noUuid
        split at found
        next => cases found
        next framePts given =>
          split at found
          next segment inRange =>
            cases found
            rcases find_range_eq_some.mp inRange with ⟨inside, before, after, ranges, isFirst⟩
            exact .byRange segment framePts before after unnamed given ranges inside isFirst
          next noRange =>
            split at found
            next kept nearest =>
              cases found
              exact .byDistance _ framePts unnamed given (find_range_eq_none.mp noRange)
                (nearestFrame_eq_some.mp nearest)
            next => cases found
    · intro found
      cases found with
      | byUuid segment pts row before after rows named isFirst =>
        rw [byUuid_eq_some.mpr ⟨segment, pts, row, before, after, rows, named, isFirst, rfl⟩]
      | byRange _ _ before after unnamed given ranges inside isFirst =>
        rw [byUuid_eq_none.mpr unnamed, given]
        dsimp only
        rw [find_range_eq_some.mpr ⟨inside, before, after, ranges, isFirst⟩]
      | byDistance _ _ unnamed given outside nearest =>
        rw [byUuid_eq_none.mpr unnamed, given]
        dsimp only
        rw [find_range_eq_none.mpr outside]
        dsimp only
        rw [nearestFrame_eq_some.mpr nearest]

theorem showsRow_iff_lookup {segment : RollingSegment} {row : MetadataRow} :
    ShowsRow event segments rowLoader segment row ↔
      ∃ frame, Lookup event segments rowLoader frame ∧ frame.segment = segment ∧
        row.muxRowPts = some (max segment.firstPts frame.pts) := by
  constructor
  · rintro ⟨frame, muxPts, found, rfl, mux, offset⟩
    refine ⟨frame, frame_eq_ok_iff.mp found, rfl, ?_⟩
    rw [mux, Option.some.injEq]
    unfold imageOffsetNs at offset
    omega
  · rintro ⟨frame, found, rfl, mux⟩
    refine ⟨frame, _, frame_eq_ok_iff.mpr found, rfl, mux, ?_⟩
    unfold imageOffsetNs
    omega

/-! ## When the row is shown -/

/-- What the two clocks of the row have to show. -/
inductive RightRow (event : ImageEvent) (segments : List RollingSegment)
    (rowLoader : RollingSegment → List MetadataRow) (segment : RollingSegment)
    (row : MetadataRow) : Prop
  /-- The first row of the event's uuid is in the segment, and its source PTS, cut at the start
  of the segment, is the mux PTS of the row. -/
  | named (first : MetadataRow) (pts : Int) (before after : List (RollingSegment × MetadataRow))
      (rows : segmentRows segments rowLoader = before ++ (segment, first) :: after)
      (named : NamedAt event.frameUuid pts first)
      (isFirst : ¬SomeNamed event.frameUuid before)
      (clocks : row.muxRowPts = some (max segment.firstPts pts))
  /-- The mux PTS of the row is the event's PTS, which no segment before holds. -/
  | sameClocks (pts : Int) (before after : List RollingSegment)
      (unnamed : ¬SomeNamed event.frameUuid (segmentRows segments rowLoader))
      (given : event.framePts = some pts) (clocks : row.muxRowPts = some pts)
      (ranges : segments = before ++ segment :: after)
      (isFirst : ∀ other ∈ before, ¬(other.firstPts ≤ pts ∧ pts ≤ other.lastPts))
  /-- The row is at the start of its segment, the event's PTS is before that and in no segment,
  and the first row with this source PTS is in the segment too. -/
  | atStart (pts : Int)
      (unnamed : ¬SomeNamed event.frameUuid (segmentRows segments rowLoader))
      (given : event.framePts = some pts) (readable : recordPts row = some pts)
      (outside : ∀ other ∈ segments, ¬(other.firstPts ≤ pts ∧ pts ≤ other.lastPts))
      (before : pts < segment.firstPts) (clocks : row.muxRowPts = some segment.firstPts)
      (isFirst : ((segmentRows segments rowLoader).find? fun pair =>
        recordPts pair.2 = some pts).map (·.1) = some segment)
  /-- The row's PTS cannot be read, as of a `pts` of zero alone: it is another row, nearest to the
  event's PTS, that has to be in the segment and to show the mux PTS of the row. -/
  | unreadable (pts : Int) (near : ImageFrame)
      (unnamed : ¬SomeNamed event.frameUuid (segmentRows segments rowLoader))
      (given : event.framePts = some pts) (unreadable : recordPts row ≠ some pts)
      (outside : ∀ other ∈ segments, ¬(other.firstPts ≤ pts ∧ pts ≤ other.lastPts))
      (nearest : FirstLeast (fun other : ImageFrame => distanceNs other.pts pts)
        (nearbyFrames pts event.frameUuid segments rowLoader) near)
      (sameSegment : near.segment = segment)
      (clocks : row.muxRowPts = some (max segment.firstPts near.pts))

theorem firstLeast_of_find {pts : Int}
    (found : (segmentRows segments rowLoader).find? (fun pair => recordPts pair.2 = some pts) =
      some pair) :
    FirstLeast (fun other : ImageFrame => distanceNs other.pts pts)
      (nearbyFrames pts frameUuid segments rowLoader)
      { segment := pair.1, pts, frameUuid := orText pair.2.rowUuid frameUuid } := by
  rcases List.find?_eq_some_iff_append.mp found with ⟨isPts, _, _, rows, isFirst⟩
  have zero : distanceNs pts pts = 0 := by simp [distanceNs]
  have nearby : nearbyFrame pts frameUuid pair =
      some { segment := pair.1, pts, frameUuid := orText pair.2.rowUuid frameUuid } := by
    rcases pair with ⟨segment, record⟩
    simp only [nearbyFrame, of_decide_eq_true isPts, zero]
    rfl
  rw [nearbyFrames, rows, List.filterMap_append, List.filterMap_cons, nearby]
  apply firstLeast_between
  · intro other member
    rcases List.mem_filterMap.mp member with ⟨earlier, inBefore, isOther⟩
    have different := isFirst earlier inBefore
    rcases earlier with ⟨segment, record⟩
    simp only [nearbyFrame] at isOther
    split at isOther
    next otherPts readable =>
      split at isOther
      · cases isOther
        have notSame : otherPts ≠ pts := by
          rintro rfl
          simp [readable] at different
        simp only [distanceNs]
        omega
      · cases isOther
    next => cases isOther
  · intro other _
    simp only [distanceNs]
    omega

/-- The source PTS that the lookup ends with is used as mux PTS. -/
theorem showsRow_iff {event : ImageEvent} {segments : List RollingSegment}
    {rowLoader : RollingSegment → List MetadataRow} {segment : RollingSegment}
    {row : MetadataRow} (matched : MatchedRow event segments rowLoader segment row) :
    ShowsRow event segments rowLoader segment row ↔
      RightRow event segments rowLoader segment row := by
  rcases matched.bounded with ⟨muxPts, isMux, notBefore, notBehind⟩
  have inRows : (segment, row) ∈ segmentRows segments rowLoader :=
    List.mem_flatMap.mpr ⟨segment, matched.inSegments, List.mem_map_of_mem matched.inRows⟩
  rw [showsRow_iff_lookup]
  constructor
  · rintro ⟨frame, found, rfl, clocks⟩
    cases found with
    | byUuid _ pts first before after rows named isFirst =>
      exact .named first pts before after rows named isFirst clocks
    | byRange _ pts before after unnamed given ranges inside isFirst =>
      rw [max_eq_right inside.1] at clocks
      exact .sameClocks pts before after unnamed given clocks ranges isFirst
    | byDistance _ pts unnamed given outside nearest =>
      by_cases readable : recordPts row = some pts
      · have isFound : ((segmentRows segments rowLoader).find? fun pair =>
            recordPts pair.2 = some pts).isSome :=
          List.find?_isSome.mpr ⟨_, inRows, by simpa using readable⟩
        rcases Option.isSome_iff_exists.mp isFound with ⟨_, isPair⟩
        have same := nearest.unique (firstLeast_of_find event.frameUuid isPair)
        have isPts : frame.pts = pts := congrArg ImageFrame.pts same
        rw [isPts] at clocks
        rw [isMux] at clocks
        have isMax := Option.some.inj clocks
        have notInside := outside _ matched.inSegments
        have early : pts < frame.segment.firstPts := by omega
        refine .atStart pts unnamed given readable outside early ?_ ?_
        · rw [isMux, isMax, max_eq_left early.le]
        · rw [isPair, Option.map_some, congrArg ImageFrame.segment same]
      · exact .unreadable pts frame unnamed given readable outside nearest rfl clocks
  · intro right
    cases right with
    | named first pts before after rows named isFirst clocks =>
      exact ⟨_, .byUuid segment pts first before after rows named isFirst, rfl, clocks⟩
    | sameClocks _ before after unnamed given clocks ranges isFirst =>
      cases isMux.symm.trans clocks
      refine ⟨_, .byRange segment muxPts before after unnamed given ranges ⟨notBefore, notBehind⟩
        isFirst, rfl, ?_⟩
      rw [clocks, max_eq_right notBefore]
    | atStart pts unnamed given _ outside early clocks isFirst =>
      rcases Option.map_eq_some_iff.mp isFirst with ⟨_, isPair, rfl⟩
      refine ⟨_, .byDistance _ pts unnamed given outside
        (firstLeast_of_find event.frameUuid isPair), rfl, ?_⟩
      rw [clocks, max_eq_left early.le]
    | unreadable pts near unnamed given _ outside nearest sameSegment clocks =>
      exact ⟨near, .byDistance near pts unnamed given outside nearest, sameSegment, clocks⟩

/-- Frames at ten seconds of source time, half a second into the segment. -/
def driftedSegment : RollingSegment :=
  { segmentId := "a", firstPts := 1000000000, lastPts := 2000000000
    sourceFirstPts := some 10000000000, sourceLastPts := some 10000000000 }

def driftedRow : MetadataRow :=
  { schemaVersion := "", rollingCacheMuxPts := .number 1500000000, pts := .number 10000000000
    framePts := .absent, uuid := "frame", frameUuid := "" }

def faceEvent : ImageEvent :=
  { contextFrameUuid := "frame", mediaFrameUuid := "", mediaFramePts := .number 10000000000
    contextFramePts := .absent }

theorem driftedRow_matched :
    MatchedRow faceEvent [driftedSegment] (fun _ => [driftedRow]) driftedSegment driftedRow :=
  ⟨List.mem_singleton_self _, List.mem_singleton_self _,
    ⟨1500000000, rfl, by decide, by decide⟩, .inl ⟨by decide, rfl, rfl⟩⟩

theorem driftedRow_shows_iff :
    ShowsRow faceEvent [driftedSegment] (fun _ => [driftedRow]) driftedSegment driftedRow ↔
      RightRow faceEvent [driftedSegment] (fun _ => [driftedRow]) driftedSegment driftedRow :=
  showsRow_iff driftedRow_matched

theorem drifted_row_not_shown :
    MatchedRow faceEvent [driftedSegment] (fun _ => [driftedRow]) driftedSegment driftedRow ∧
      (rollingCacheFrameForImageEvent faceEvent [driftedSegment] (fun _ => [driftedRow])).map
        imageOffsetNs = .ok 9000000000 ∧
      ¬ShowsRow faceEvent [driftedSegment] (fun _ => [driftedRow]) driftedSegment driftedRow := by
  have found : rollingCacheFrameForImageEvent faceEvent [driftedSegment]
      (fun _ => [driftedRow]) = .ok ⟨driftedSegment, 10000000000, "frame"⟩ := by
    decide +kernel
  refine ⟨driftedRow_matched, ?_, ?_⟩
  · rw [found]
    rfl
  · rintro ⟨frame, muxPts, isFound, _, mux, offset⟩
    rw [found] at isFound
    cases isFound
    cases mux
    revert offset
    decide

end VideoAnalysis.RollingCache
