import VideoAnalysis.Timeline.Alignment

/-! # Faithful alignment

What it means that annotations follow the timeline of a clip, and which ones do. The rows are
ordered by their frame numbers first; the ends of the clip are taken from that order.
-/

namespace VideoAnalysis.Timeline

open Foundation Python
open Json (lookup lookup_store)

/-! ## What an annotation belongs to -/

section Belongs

variable (frames : List TimelineRow) (tolerance : Int)

def NoUuid (uuid : Option Text) : Prop :=
  ∀ name, uuid = some name → ∀ frame ∈ frames, rowUuid frame.row ≠ some name

def Far (time : Int) : Prop :=
  ∀ frame ∈ frames, frame.pts ≠ time ∧ tolerance < |frame.pts - time|

def Outside (time : Int) : Prop :=
  frames ≠ [] ∧ ((∀ frame ∈ frames, time < frame.pts) ∨ ∀ frame ∈ frames, frame.pts < time)

inductive BelongsTo (uuid : Option Text) (pts : Option Int) :
    MatchKind → Option TimelineRow → Prop
  | byUuid {name : Text} {frame : TimelineRow} (named : uuid = some name)
      (member : frame ∈ frames) (same : rowUuid frame.row = some name) :
      BelongsTo uuid pts .metadataFrameUuid (some frame)
  | byPts {time : Int} {frame : TimelineRow} (noUuid : NoUuid frames uuid)
      (timed : pts = some time) (member : frame ∈ frames) (same : frame.pts = time) :
      BelongsTo uuid pts .metadataFramePtsExact (some frame)
  | byNearest {time : Int} {frame : TimelineRow} (noUuid : NoUuid frames uuid)
      (timed : pts = some time) (noneExact : ∀ other ∈ frames, other.pts ≠ time)
      (nearest : Nearest TimelineRow.pts frames time frame)
      (within : |frame.pts - time| ≤ tolerance) :
      BelongsTo uuid pts .metadataFramePtsNearest (some frame)
  | outOfWindow {time : Int} (noUuid : NoUuid frames uuid) (timed : pts = some time)
      (far : Far frames tolerance time) (outside : Outside frames time) :
      BelongsTo uuid pts .outOfWindow none
  | missing (noUuid : NoUuid frames uuid)
      (inside : ∀ time, pts = some time → Far frames tolerance time ∧ ¬Outside frames time) :
      BelongsTo uuid pts .missing none

theorem BelongsTo.mem {frames : List TimelineRow} {tolerance : Int} {uuid : Option Text}
    {pts : Option Int} {kind : MatchKind} {frame : TimelineRow}
    (belongs : BelongsTo frames tolerance uuid pts kind (some frame)) : frame ∈ frames := by
  cases belongs with
  | byUuid _ member | byPts _ _ member => exact member
  | byNearest _ _ _ nearest => exact nearest.1

end Belongs

def clipStart (frames : List TimelineRow) : Int := (frames.head?.map TimelineRow.pts).getD 0

def clipEnd (frames : List TimelineRow) : Int := (frames.getLast?.map TimelineRow.pts).getD 0

/-- The row has the place and the time of the frame, within the clip. -/
structure AlignedTo (frames : List TimelineRow) (frame : TimelineRow) (row : Row) : Prop where
  displayable : lookup row "displayable" = some (.bool true)
  index : lookup row "clip_frame_index" = frame.frameNum.map Json.int
  pts : lookup row "matched_metadata_pts" = some (.int frame.pts)
  time : lookup row "t_ms" = some (.int (millis (frame.pts - clipStart frames)))
  notBefore : 0 ≤ millis (frame.pts - clipStart frames)
  notBehind : ∀ last ∈ frames, (∀ other ∈ frames, other.pts ≤ last.pts) →
    millis (frame.pts - clipStart frames) ≤ millis (last.pts - clipStart frames)

structure NotAligned (row : Row) : Prop where
  displayable : lookup row "displayable" = some (.bool false)
  times : ∀ key ∈ timeKeys, lookup row key = none

def annotationPts ( annotation : Row) : Option Int :=
  returned (intOrNone (lookup annotation "frame_pts"))

def FaithfulRow (frames : List TimelineRow) (tolerance : Int) ( annotation row : Row) : Prop :=
  ∃ kind found,
    BelongsTo frames tolerance (rowUuid annotation) (annotationPts annotation) kind found ∧
    lookup row "clip_timeline_match" = some (.str (text kind.name)) ∧
    match found with
    | some frame => AlignedTo frames frame row
    | none => NotAligned row

theorem FaithfulRow.time_nonneg {frames : List TimelineRow} {tolerance time : Int}
    { annotation row : Row} (faithful : FaithfulRow frames tolerance annotation row)
    (timed : lookup row "t_ms" = some (.int time)) : 0 ≤ time := by
  rcases faithful with ⟨_, found, _, _, held⟩
  cases found with
  | none =>
    have untimed := held.times "t_ms" (by decide)
    cases timed.symm.trans untimed
  | some =>
    cases timed.symm.trans held.time
    exact held.notBefore

def totalMatches (distribution : MatchKind → Nat) : Nat :=
  distribution .metadataFrameUuid + distribution .metadataFramePtsExact +
    distribution .metadataFramePtsNearest + distribution .outOfWindow + distribution .missing

/-- The rows that have a PTS, in the order in which they are looked at. -/
def clipTimeline (metadataRows : List Row) : List TimelineRow :=
  sortRows (viewRows (fun _ => true) metadataRows)

def FaithfulAlignment (annotations metadataRows : List Row) : Prop :=
  ∃ aligned summary, alignAnnotations annotations metadataRows = .ok (aligned, summary) ∧
    (∃ tolerance,
      (annotations ≠ [] → inferPtsNearestToleranceNs
        ((clipTimeline metadataRows).map TimelineRow.pts) = .ok tolerance) ∧
      List.Forall₂ (FaithfulRow (clipTimeline metadataRows) tolerance) annotations aligned) ∧
    summary.annotationsAligned + summary.annotationsUnmatched = annotations.length ∧
    totalMatches summary.clipTimelineMatchDistribution = annotations.length

/-! ## What is counted -/

theorem AlignCounts.add_total (counts : AlignCounts) (kind : MatchKind) :
    (counts.add kind).aligned + (counts.add kind).unmatched =
        counts.aligned + counts.unmatched + 1 ∧
      totalMatches (counts.add kind).distribution = totalMatches counts.distribution + 1 := by
  cases kind <;> simp only [AlignCounts.add, totalMatches] <;> simp <;> omega

theorem AlignCounts.foldl_total (kinds : List MatchKind) (counts : AlignCounts) :
    (kinds.foldl AlignCounts.add counts).aligned + (kinds.foldl AlignCounts.add counts).unmatched =
        counts.aligned + counts.unmatched + kinds.length ∧
      totalMatches (kinds.foldl AlignCounts.add counts).distribution =
        totalMatches counts.distribution + kinds.length := by
  induction kinds generalizing counts with
  | nil => exact ⟨rfl, rfl⟩
  | cons kind _ induction =>
    rcases induction (counts.add kind) with ⟨rows, matches_⟩
    rcases counts.add_total kind with ⟨oneRow, oneMatch⟩
    rw [List.foldl_cons, List.length_cons]
    constructor <;> omega

/-! ## What the rows hold -/

theorem lookup_remove (row : Row) (key other : String) :
    lookup (remove row key) other = if other = key then none else lookup row other := by
  unfold remove lookup
  by_cases same : other = key
  · rw [if_pos same, same]
    exact Dict.get_erase_self _ _
  · rw [if_neg same]
    exact Dict.get_erase_of_ne _ fun equal => same (text_injective equal)

theorem lookup_foldl_remove (keys : List String) (row : Row) (other : String) :
    lookup (keys.foldl remove row) other =
      if other ∈ keys then none else lookup row other := by
  induction keys generalizing row with
  | nil => rfl
  | cons key rest induction =>
    rw [List.foldl_cons, induction, lookup_remove]
    by_cases inRest : other ∈ rest
    · rw [if_pos inRest, if_pos (List.mem_cons_of_mem _ inRest)]
    · rw [if_neg inRest]
      by_cases same : other = key
      · rw [if_pos same, if_pos (List.mem_cons.mpr (.inl same))]
      · rw [if_neg same, if_neg (by simp [same, inRest])]

theorem lookup_unmatchedRow (kind : MatchKind) (deltaNs : Option Int) (row : Row) {key : String}
    (notDelta : key ≠ "clip_timeline_delta_ns") :
    lookup (unmatchedRow kind deltaNs row) key =
      if key ∈ timeKeys then none
      else if key = "displayable" then some (.bool false)
      else if key = "clip_timeline_match" then some (.str (text kind.name))
      else lookup row key := by
  have marked : lookup (markAnnotationNotDisplayable (storeKind row kind)) key =
      if key ∈ timeKeys then none
      else if key = "displayable" then some (.bool false)
      else if key = "clip_timeline_match" then some (.str (text kind.name))
      else lookup row key := by
    rw [markAnnotationNotDisplayable, lookup_foldl_remove, lookup_store, storeKind,
      lookup_store]
  cases deltaNs with
  | none => exact marked
  | some =>
    rw [unmatchedRow]
    simp only [lookup_store, if_neg notDelta, marked]

theorem notAligned_unmatchedRow (kind : MatchKind) (deltaNs : Option Int) (row : Row) :
    NotAligned (unmatchedRow kind deltaNs row) where
  displayable := lookup_unmatchedRow kind deltaNs row (by decide)
  times := by
    intro key isTime
    have notDelta : key ≠ "clip_timeline_delta_ns" := by
      rintro rfl
      exact absurd isTime (by decide)
    rw [lookup_unmatchedRow kind deltaNs row notDelta, if_pos isTime]

theorem kind_unmatchedRow (kind : MatchKind) (deltaNs : Option Int) (row : Row) :
    lookup (unmatchedRow kind deltaNs row) "clip_timeline_match" =
      some (.str (text kind.name)) :=
  lookup_unmatchedRow kind deltaNs row (by decide)

theorem lookup_matchedRow (frame : TimelineRow) (milliseconds : Int) (seconds : Double)
    (kind : MatchKind) (deltaNs : Option Int) (row : Row) (key : String) :
    lookup (matchedRow frame milliseconds seconds kind deltaNs row) key =
      if key = "displayable" then some (.bool true)
      else if key = "clip_timeline_delta_ns" then some (.int (deltaNs.getD 0))
      else if key = "clip_timeline_match" then some (.str (text kind.name))
      else if key = "matched_metadata_pts" then some (.int frame.pts)
      else if key = "t_s" then some (.float seconds)
      else if key = "t_ms" then some (.int milliseconds)
      else if key = "clip_frame_index" then
        (frame.frameNum.map Json.int).or (lookup row "clip_frame_index")
      else lookup row key := by
  simp only [matchedRow, storeKind, lookup_store]
  cases frame.frameNum with
  | none =>
    by_cases same : key = "clip_frame_index"
    · simp only [same]
      rfl
    · simp only [if_neg same]
  | some => simp only [lookup_store, Option.map_some, Option.some_or]

/-! ## The row that is found -/

def nearestWithin (frames : List TimelineRow) (tolerance time : Int) : Option TimelineRow :=
  (nearestMetadataFrame time (ptsFrames frames)).bind fun nearest =>
    if nearest.1 ≤ tolerance then some nearest.2 else none

/-- The first row with the UUID, else the first with the PTS, else the nearest one. -/
def rowFor (frames : List TimelineRow) (tolerance : Int) (uuid : Option Text)
    (pts : Option Int) : Option TimelineRow :=
  (uuid.bind fun name => frames.find? fun frame => rowUuid frame.row = some name).or
    (pts.bind fun time =>
      (frames.find? fun frame => frame.pts = time).or (nearestWithin frames tolerance time))

theorem mem_ptsFrames {frames : List TimelineRow} {ranked : RankedFrame}
    (member : ranked ∈ ptsFrames frames) : ranked.frame ∈ frames := by
  rw [ptsFrames, (sortByKeys_perm _ _ _).mem_iff] at member
  rcases List.mem_map.mp member with ⟨⟨_, _⟩, isFrame, rfl⟩
  exact List.fst_mem_of_mem_zipIdx isFrame

theorem exists_mem_ptsFrames {frames : List TimelineRow} {frame : TimelineRow}
    (member : frame ∈ frames) : ∃ ranked ∈ ptsFrames frames, ranked.frame = frame := by
  rcases List.mem_iff_getElem?.mp member with ⟨index, atIndex⟩
  have indexed : (frame, index) ∈ frames.zipIdx := List.mk_mem_zipIdx_iff_getElem?.mpr atIndex
  refine ⟨{ frame, order := frame.frameNum.getD index }, ?_, rfl⟩
  rw [ptsFrames, (sortByKeys_perm _ _ _).mem_iff]
  exact List.mem_map_of_mem indexed

theorem ptsFrames_ascends (frames : List TimelineRow) :
    (ptsFrames frames).Pairwise fun first second => first.frame.pts ≤ second.frame.pts := by
  apply (sortByKeys_pairwise (fun ranked : RankedFrame => ranked.frame.pts)
    RankedFrame.order _).imp
  rintro first second (less | ⟨same, _⟩)
  · exact less.le
  · exact same.le

theorem nearest_of_nearestMetadataFrame {frames : List TimelineRow} {framePts deltaNs : Int}
    {frame : TimelineRow}
    (found : nearestMetadataFrame framePts (ptsFrames frames) = some (deltaNs, frame)) :
    Nearest TimelineRow.pts frames framePts frame ∧ deltaNs = |frame.pts - framePts| := by
  rcases Option.map_eq_some_iff.mp found with ⟨_, isNearest, same⟩
  cases same
  rcases nearest_of_nearestItem (ptsFrames_ascends frames) isNearest with ⟨member, least⟩
  refine ⟨⟨mem_ptsFrames member, ?_⟩, rfl⟩
  intro other isOther
  rcases exists_mem_ptsFrames isOther with ⟨rankedOther, isRanked, rfl⟩
  exact least rankedOther isRanked

section Index

variable {index : ClipIndex} {first last frame : TimelineRow}

theorem ClipIndex.byUuid_eq_some {name : Text} (found : index.byUuid name = some frame) :
    frame ∈ index.frames ∧ rowUuid frame.row = some name := by
  have named := List.find?_some (p := fun frame : TimelineRow => rowUuid frame.row = some name)
    found
  exact ⟨List.mem_of_find?_eq_some found, of_decide_eq_true named⟩

theorem ClipIndex.byUuid_eq_none {name : Text} (missing : index.byUuid name = none)
    (member : frame ∈ index.frames) : rowUuid frame.row ≠ some name := fun same =>
  List.find?_eq_none.mp missing frame member (decide_eq_true same)

theorem ClipIndex.byPts_eq_some {pts : Int} (found : index.byPts pts = some frame) :
    frame ∈ index.frames ∧ frame.pts = pts := by
  have timed := List.find?_some (p := fun frame : TimelineRow => frame.pts = pts) found
  exact ⟨List.mem_of_find?_eq_some found, of_decide_eq_true timed⟩

theorem ClipIndex.byPts_eq_none {pts : Int} (missing : index.byPts pts = none)
    (member : frame ∈ index.frames) : frame.pts ≠ pts := fun same =>
  List.find?_eq_none.mp missing frame member (decide_eq_true same)

/-- A metadata row is found, or there is none near enough to the time. -/
inductive MatchResult (index : ClipIndex) (uuid : Option Text) (pts : Option Int) :
    FrameMatch → Prop
  | found {frame kind deltaNs} (taken : rowFor index.frames index.toleranceNs uuid pts = some frame)
      (belongs : BelongsTo index.frames index.toleranceNs uuid pts kind (some frame)) :
      MatchResult index uuid pts { frame := some frame, kind, deltaNs }
  | untimed {deltaNs} (noUuid : NoUuid index.frames uuid) (noPts : pts = none)
      (missing : rowFor index.frames index.toleranceNs uuid pts = none) :
      MatchResult index uuid pts { frame := none, kind := .missing, deltaNs }
  | far {time deltaNs} (noUuid : NoUuid index.frames uuid) (timed : pts = some time)
      (far : Far index.frames index.toleranceNs time)
      (missing : rowFor index.frames index.toleranceNs uuid pts = none) :
      MatchResult index uuid pts
        { frame := none, deltaNs,
          kind := if time < index.firstPts ∨ index.lastPts < time then .outOfWindow
            else .missing }

theorem matchFrame_result (index : ClipIndex) (uuid : Option Text) (pts : Option Int) :
    MatchResult index uuid pts (matchFrame index uuid pts) := by
  unfold matchFrame
  cases named : uuid.bind index.byUuid with
  | some =>
    rcases Option.bind_eq_some_iff.mp named with ⟨_, isName, found⟩
    rcases ClipIndex.byUuid_eq_some found with ⟨member, same⟩
    refine .found ?_ (.byUuid isName member same)
    rw [rowFor, isName, Option.bind_some]
    exact congrArg (Option.or · _) found
  | none =>
    have noUuid : NoUuid index.frames uuid := by
      intro name isName frame member same
      rw [isName, Option.bind_some] at named
      exact ClipIndex.byUuid_eq_none named member same
    have byTime : rowFor index.frames index.toleranceNs uuid pts = pts.bind fun time =>
        (index.byPts time).or (nearestWithin index.frames index.toleranceNs time) :=
      congrArg (Option.or · _) named
    cases pts with
    | none => exact .untimed noUuid rfl byTime
    | some time =>
      rw [Option.bind_some] at byTime
      simp only
      cases exactly : index.byPts time with
      | some =>
        rcases ClipIndex.byPts_eq_some exactly with ⟨member, same⟩
        exact .found (by rw [byTime, exactly]; rfl) (.byPts noUuid rfl member same)
      | none =>
        have noneExact : ∀ frame ∈ index.frames, frame.pts ≠ time :=
          fun _ member => ClipIndex.byPts_eq_none exactly member
        rw [exactly, Option.none_or, nearestWithin] at byTime
        cases found : nearestMetadataFrame time (ptsFrames index.frames) with
        | none =>
          rw [found] at byTime
          refine .far noUuid rfl (fun other member => ?_) byTime
          rcases exists_mem_ptsFrames member with ⟨_, isRanked, _⟩
          rw [(nearestItem_eq_none_iff (ptsFrames_ascends index.frames)).mp
            (Option.map_eq_none_iff.mp found)] at isRanked
          cases isRanked
        | some nearest =>
          rcases nearest with ⟨deltaNs, _⟩
          rcases nearest_of_nearestMetadataFrame found with ⟨nearest, isDelta⟩
          rw [found, Option.bind_some] at byTime
          simp only
          by_cases within : deltaNs ≤ index.toleranceNs
          · rw [if_pos within] at byTime ⊢
            rw [isDelta] at within
            exact .found byTime (.byNearest noUuid rfl noneExact nearest within)
          · rw [if_neg within] at byTime ⊢
            refine .far noUuid rfl (fun other member => ?_) byTime
            have least := nearest.2 other member
            exact ⟨noneExact other member, by omega⟩

end Index

/-! ## Which annotations follow the timeline -/

/-- The row that the annotation takes its time from can be placed on the clip, and the ends of
the clip tell whether an annotation without such a row is outside. -/
structure AlignableRow (frames : List TimelineRow) (tolerance : Int) ( annotation : Row) :
    Prop where
  readable : Returns (intOrNone (lookup annotation "frame_pts"))
  timed : ∀ frame,
    rowFor frames tolerance (rowUuid annotation) (annotationPts annotation) = some frame →
      Double.InRange (frame.pts - clipStart frames) ∧ clipStart frames - 500000 ≤ frame.pts
  numbered : ∀ frame,
    rowFor frames tolerance (rowUuid annotation) (annotationPts annotation) = some frame →
      frame.frameNum = none → ∃ kind other,
        BelongsTo frames tolerance (rowUuid annotation) (annotationPts annotation) kind
          (some other) ∧
        other.pts = frame.pts ∧
        lookup annotation "clip_frame_index" = other.frameNum.map Json.int
  placed : rowFor frames tolerance (rowUuid annotation) (annotationPts annotation) = none →
    ∀ time, annotationPts annotation = some time →
      (time < clipStart frames ∨ clipEnd frames < time ↔ Outside frames time)

section Row

variable {index : ClipIndex} { annotation : Row}

theorem MatchKind.name_injective : Function.Injective MatchKind.name := by
  intro first second same
  cases first <;> cases second <;> first | rfl | exact absurd same (by decide)

theorem BelongsTo.kind_unique {frames : List TimelineRow} {tolerance : Int} {uuid : Option Text}
    {pts : Option Int} {kind otherKind : MatchKind} {frame other : TimelineRow}
    (belongs : BelongsTo frames tolerance uuid pts kind (some frame))
    (otherBelongs : BelongsTo frames tolerance uuid pts otherKind (some other)) :
    kind = otherKind := by
  cases belongs with
  | byUuid named member same =>
    cases otherBelongs with
    | byUuid => rfl
    | byPts noUuid | byNearest noUuid => exact absurd same (noUuid _ named frame member)
  | byPts noUuid timed member same =>
    cases otherBelongs with
    | byUuid named isMember isSame => exact absurd isSame (noUuid _ named other isMember)
    | byPts => rfl
    | byNearest _ isTimed noneExact =>
      cases timed.symm.trans isTimed
      exact absurd same (noneExact frame member)
  | byNearest noUuid timed noneExact =>
    cases otherBelongs with
    | byUuid named member same => exact absurd same (noUuid _ named other member)
    | byPts _ isTimed member same =>
      cases timed.symm.trans isTimed
      exact absurd same (noneExact other member)
    | byNearest => rfl

/-- An annotation with the row found for it is written faithfully exactly under the condition. -/
theorem faithfulRow_matched_iff {frames : List TimelineRow} {tolerance : Int}
    {frame : TimelineRow} {kind : MatchKind}
    (readable : Returns (intOrNone (lookup annotation "frame_pts")))
    (taken : rowFor frames tolerance (rowUuid annotation) (annotationPts annotation) = some frame)
    (belongs : BelongsTo frames tolerance (rowUuid annotation) (annotationPts annotation) kind
      (some frame))
    (inRange : Double.InRange (frame.pts - clipStart frames)) (seconds : Double)
    (deltaNs : Option Int) :
    FaithfulRow frames tolerance annotation
        (matchedRow frame (millis (frame.pts - clipStart frames)) seconds kind deltaNs
          annotation) ↔
      AlignableRow frames tolerance annotation := by
  constructor
  · rintro ⟨otherKind, other, otherBelongs, isKind, held⟩
    rw [lookup_matchedRow] at isKind
    have sameKind : kind = otherKind :=
      MatchKind.name_injective (text_injective (Json.str.inj (Option.some.inj isKind)))
    subst sameKind
    cases other with
    | none => cases belongs <;> cases otherBelongs
    | some other =>
      have samePts := held.pts
      rw [lookup_matchedRow] at samePts
      have isPts : frame.pts = other.pts := Json.int.inj (Option.some.inj samePts)
      have index := held.index
      rw [lookup_matchedRow] at index
      refine ⟨readable, ?_, ?_, ?_⟩
      · intro found isFound
        cases taken.symm.trans isFound
        have nonneg := held.notBefore
        rw [millis_nonneg_iff] at nonneg
        exact ⟨inRange, by omega⟩
      · intro found isFound unnumbered
        cases taken.symm.trans isFound
        refine ⟨kind, other, otherBelongs, isPts.symm, ?_⟩
        rw [← index]
        simp [unnumbered]
      · intro missing
        cases taken.symm.trans missing
  · intro alignable
    have timed := alignable.timed frame taken
    have numbered : ∃ other, BelongsTo frames tolerance (rowUuid annotation)
        (annotationPts annotation) kind (some other) ∧ other.pts = frame.pts ∧
        (frame.frameNum.map Json.int).or (lookup annotation "clip_frame_index") =
          other.frameNum.map Json.int := by
      cases isNumber : frame.frameNum with
      | some => exact ⟨frame, belongs, rfl, by rw [isNumber]; rfl⟩
      | none =>
        rcases alignable.numbered frame taken isNumber with
          ⟨_, other, otherBelongs, samePts, index⟩
        rw [← belongs.kind_unique otherBelongs] at otherBelongs
        exact ⟨other, otherBelongs, samePts, index⟩
    rcases numbered with ⟨other, otherBelongs, samePts, index⟩
    refine ⟨kind, some other, otherBelongs, lookup_matchedRow _ _ _ _ _ _ _, ?_⟩
    exact
      { displayable := lookup_matchedRow _ _ _ _ _ _ _
        index := (lookup_matchedRow _ _ _ _ _ _ _).trans index
        pts := by
          rw [samePts]
          exact lookup_matchedRow _ _ _ _ _ _ _
        time := by
          rw [samePts]
          exact lookup_matchedRow _ _ _ _ _ _ _
        notBefore := by
          rw [samePts, millis_nonneg_iff]
          omega
        notBehind := fun last _ isLast => millis_mono (by
          have le := isLast other otherBelongs.mem
          omega) }

/-- An annotation without a row is written faithfully exactly if the ends of the clip tell
whether it is outside. -/
theorem faithfulRow_unmatched_iff {frames : List TimelineRow} {tolerance time : Int}
    (readable : Returns (intOrNone (lookup annotation "frame_pts")))
    (noUuid : NoUuid frames (rowUuid annotation)) (timed : annotationPts annotation = some time)
    (far : Far frames tolerance time)
    (missing : rowFor frames tolerance (rowUuid annotation) (annotationPts annotation) = none)
    (deltaNs : Option Int) :
    FaithfulRow frames tolerance annotation
        (unmatchedRow (if time < clipStart frames ∨ clipEnd frames < time then .outOfWindow
          else .missing) deltaNs annotation) ↔
      AlignableRow frames tolerance annotation := by
  constructor
  · rintro ⟨kind, found, belongs, isKind, _⟩
    rw [kind_unmatchedRow] at isKind
    have sameKind := MatchKind.name_injective (text_injective (Json.str.inj
      (Option.some.inj isKind)))
    refine ⟨readable, fun frame taken => ?_, fun frame taken => ?_, fun _ other isTime => ?_⟩
    · cases missing.symm.trans taken
    · cases missing.symm.trans taken
    · cases timed.symm.trans isTime
      by_cases beyond : time < clipStart frames ∨ clipEnd frames < time
      · rw [if_pos beyond] at sameKind
        subst sameKind
        cases belongs with
        | outOfWindow _ isTimed _ outside =>
          cases timed.symm.trans isTimed
          exact iff_of_true beyond outside
      · rw [if_neg beyond] at sameKind
        subst sameKind
        cases belongs with
        | missing _ inside => exact iff_of_false beyond (inside time timed).2
  · intro alignable
    have placed := alignable.placed missing time timed
    refine ⟨_, none, ?_, kind_unmatchedRow _ deltaNs annotation,
      notAligned_unmatchedRow _ deltaNs annotation⟩
    by_cases beyond : time < clipStart frames ∨ clipEnd frames < time
    · rw [if_pos beyond]
      exact .outOfWindow noUuid timed far (placed.mp beyond)
    · rw [if_neg beyond]
      refine .missing noUuid fun other isTime => ?_
      cases timed.symm.trans isTime
      exact ⟨far, fun outside => beyond (placed.mpr outside)⟩

/-- What is written for the annotation is faithful exactly under the condition. -/
theorem faithfulRow_iff (starts : index.firstPts = clipStart index.frames)
    (ends : index.lastPts = clipEnd index.frames) {result : MatchKind × Row}
    (ran : alignRow index annotation = .ok result) :
    FaithfulRow index.frames index.toleranceNs annotation result.2 ↔
      AlignableRow index.frames index.toleranceNs annotation := by
  rcases ok_of_bind ran with ⟨pts, isPts, isRow⟩
  have readable : Returns (intOrNone (lookup annotation "frame_pts")) := ⟨pts, isPts⟩
  have read : annotationPts annotation = pts := by
    rw [annotationPts, isPts]
    rfl
  subst read
  have matched := matchFrame_result index (rowUuid annotation) (annotationPts annotation)
  generalize matchFrame index (rowUuid annotation) (annotationPts annotation) = found
    at matched isRow
  cases matched with
  | @found _ _ deltaNs taken belongs =>
    rcases ok_of_bind isRow with ⟨_, areMillis, isRest⟩
    rcases ok_of_bind isRest with ⟨seconds, _, same⟩
    cases same
    have inRange := clipMillis_returns_iff.mp ⟨_, areMillis⟩
    rw [clipMillis_of_inRange inRange] at areMillis
    cases areMillis
    rw [starts] at inRange ⊢
    exact faithfulRow_matched_iff readable taken belongs inRange seconds deltaNs
  | untimed noUuid noPts missing =>
    cases isRow
    refine iff_of_true ⟨.missing, none, .missing noUuid ?_, kind_unmatchedRow _ _ annotation,
      notAligned_unmatchedRow _ _ annotation⟩ ⟨readable, ?_, ?_, ?_⟩
    · intro time isTime
      cases noPts.symm.trans isTime
    · exact fun frame taken => by cases missing.symm.trans taken
    · exact fun frame taken => by cases missing.symm.trans taken
    · intro _ time isTime
      cases noPts.symm.trans isTime
  | @far _ deltaNs noUuid timed far missing =>
    cases isRow
    rw [starts, ends]
    exact faithfulRow_unmatched_iff readable noUuid timed far missing deltaNs

theorem alignRow_returns (starts : index.firstPts = clipStart index.frames)
    (alignable : AlignableRow index.frames index.toleranceNs annotation) :
    Returns (alignRow index annotation) := by
  rcases alignable.readable with ⟨pts, isPts⟩
  have read : annotationPts annotation = pts := by
    rw [annotationPts, isPts]
    rfl
  have matched := matchFrame_result index (rowUuid annotation) pts
  simp only [alignRow, bind, Except.bind, isPts]
  generalize matchFrame index (rowUuid annotation) pts = found at matched
  cases matched with
  | untimed | far => exact ⟨_, rfl⟩
  | @found frame _ _ taken =>
    rw [← read] at taken
    have inRange := (alignable.timed frame taken).1
    rcases clipSeconds_returns_iff.mpr inRange with ⟨_, areSeconds⟩
    simp only [starts, clipMillis_of_inRange inRange, areSeconds]
    exact ⟨_, rfl⟩

end Row

/-- The numbers can be read, and each annotation can be placed. -/
structure Alignable (annotations metadataRows : List Row) : Prop where
  readable : ∀ row ∈ metadataRows, Readable (fun _ => true) row
  rows : annotations ≠ [] → clipTimeline metadataRows ≠ [] →
    ∃ tolerance, inferPtsNearestToleranceNs
        ((clipTimeline metadataRows).map TimelineRow.pts) = .ok tolerance ∧
      ∀ annotation ∈ annotations, AlignableRow (clipTimeline metadataRows) tolerance annotation

section Runs

variable {annotations metadataRows : List Row}

theorem metadata_readable (returns : Returns (alignAnnotations annotations metadataRows)) :
    ∀ row ∈ metadataRows, Readable (fun _ => true) row := by
  rcases returns with ⟨_, ran⟩
  rcases ok_of_bind ran with ⟨frames, areFrames, _⟩
  exact readRows_returns_iff.mp ⟨frames, areFrames⟩

section

variable (readable : ∀ row ∈ metadataRows, Readable (fun _ => true) row)
  (empty : annotations = [] ∨ clipTimeline metadataRows = [])

include readable empty

theorem alignAnnotations_of_empty :
    alignAnnotations annotations metadataRows =
      .ok (annotations.map (unmatchedRow .missing none),
        emptySummary annotations.length (clipTimeline metadataRows).length) := by
  simp only [alignAnnotations, bind, Except.bind, readRows_of_readable readable]
  rw [← clipTimeline]
  rcases empty with rfl | empty
  · rfl
  · rw [empty]
    cases annotations <;> rfl

theorem faithful_of_empty :
    FaithfulAlignment annotations metadataRows := by
  refine ⟨_, _, alignAnnotations_of_empty readable empty, ?_, Nat.zero_add _, ?_⟩
  · refine ⟨defaultPtsNearestToleranceNs, ?_, ?_⟩
    · intro inhabited
      rw [empty.resolve_left inhabited]
      decide
    · rw [List.forall₂_map_right_iff, List.forall₂_same]
      intro annotation member
      have noFrames : clipTimeline metadataRows = [] :=
        empty.resolve_left (List.ne_nil_of_mem member)
      rw [noFrames]
      refine ⟨.missing, none, .missing ?_ ?_, kind_unmatchedRow _ _ annotation,
        notAligned_unmatchedRow _ _ annotation⟩
      · intro name _ frame isFrame
        cases isFrame
      · intro time _
        constructor
        · intro frame isFrame
          cases isFrame
        · rintro ⟨inhabited, _⟩
          exact inhabited rfl
  · exact Nat.zero_add _

end

def clipIndex (metadataRows : List Row) (first last : TimelineRow) (tolerance : Int) :
    ClipIndex where
  frames := clipTimeline metadataRows
  firstPts := first.pts
  lastPts := last.pts
  toleranceNs := tolerance

theorem exists_ends (someFrame : clipTimeline metadataRows ≠ []) :
    ∃ first last, (clipTimeline metadataRows).head? = some first ∧
      (clipTimeline metadataRows).getLast? = some last ∧
      first.pts = clipStart (clipTimeline metadataRows) ∧
      last.pts = clipEnd (clipTimeline metadataRows) := by
  cases isFirst : (clipTimeline metadataRows).head? with
  | none => exact absurd (List.head?_eq_none_iff.mp isFirst) someFrame
  | some first =>
    cases isLast : (clipTimeline metadataRows).getLast? with
    | none => exact absurd (List.getLast?_eq_none_iff.mp isLast) someFrame
    | some last =>
      refine ⟨first, last, rfl, rfl, ?_, ?_⟩
      · rw [clipStart, isFirst]
        rfl
      · rw [clipEnd, isLast]
        rfl

theorem alignAnnotations_eq {first last : TimelineRow}
    (readable : ∀ row ∈ metadataRows, Readable (fun _ => true) row)
    (inhabited : annotations ≠ []) (isFirst : (clipTimeline metadataRows).head? = some first)
    (isLast : (clipTimeline metadataRows).getLast? = some last) :
    alignAnnotations annotations metadataRows = (do
      let tolerance ← inferPtsNearestToleranceNs
        ((clipTimeline metadataRows).map TimelineRow.pts)
      let aligned ← annotations.mapM (alignRow (clipIndex metadataRows first last tolerance))
      return (aligned.map Prod.snd, alignSummary (clipIndex metadataRows first last tolerance)
        ((aligned.map Prod.fst).foldl AlignCounts.add {}))) := by
  cases annotations with
  | nil => exact absurd rfl inhabited
  | cons =>
    simp only [alignAnnotations, bind, Except.bind, readRows_of_readable readable]
    rw [← clipTimeline, isFirst, isLast]
    rfl

theorem faithful_of_alignable (alignable : Alignable annotations metadataRows) :
    FaithfulAlignment annotations metadataRows := by
  by_cases empty : annotations = [] ∨ clipTimeline metadataRows = []
  · exact faithful_of_empty alignable.readable empty
  · rw [not_or] at empty
    rcases alignable.rows empty.1 empty.2 with ⟨tolerance, inferred, each⟩
    rcases exists_ends empty.2 with ⟨first, last, isFirst, isLast, starts, ends⟩
    have returns : Returns (annotations.mapM
        (alignRow (clipIndex metadataRows first last tolerance))) :=
      mapM_returns_iff.mpr fun annotation member =>
        alignRow_returns starts (each annotation member)
    rcases returns with ⟨aligned, isAligned⟩
    have written := mapM_eq_ok_iff.mp isAligned
    have faithful : List.Forall₂ (FaithfulRow (clipTimeline metadataRows) tolerance) annotations
        (aligned.map Prod.snd) := by
      rw [List.forall₂_map_right_iff]
      have both := (List.forall₂_and_left _ _).mpr ⟨each, written⟩
      exact both.imp fun annotation result ran => (faithfulRow_iff starts ends ran.2).mpr ran.1
    have counts := AlignCounts.foldl_total (aligned.map Prod.fst) {}
    rw [List.length_map, ← written.length_eq] at counts
    have ran := alignAnnotations_eq alignable.readable empty.1 isFirst isLast
    simp only [bind, Except.bind, inferred, isAligned] at ran
    refine ⟨_, _, ran, ⟨tolerance, fun _ => inferred, faithful⟩, ?_, ?_⟩
    · exact counts.1.trans (Nat.zero_add _)
    · exact counts.2.trans (Nat.zero_add _)

theorem alignable_of_faithful (faithful : FaithfulAlignment annotations metadataRows) :
    Alignable annotations metadataRows := by
  rcases faithful with ⟨_, _, ran, ⟨tolerance, isTolerance, rows⟩, _⟩
  have readable := metadata_readable ⟨_, ran⟩
  refine ⟨readable, fun inhabited someFrame => ?_⟩
  rcases exists_ends someFrame with ⟨_, _, isFirst, isLast, starts, ends⟩
  rw [alignAnnotations_eq readable inhabited isFirst isLast] at ran
  rcases ok_of_bind ran with ⟨_, inferred, isRest⟩
  cases (isTolerance inhabited).symm.trans inferred
  rcases ok_of_bind isRest with ⟨results, areResults, same⟩
  cases same
  refine ⟨tolerance, inferred, ?_⟩
  rw [List.forall₂_map_right_iff] at rows
  have written := mapM_eq_ok_iff.mp areResults
  have each : List.Forall₂ (fun annotation _ =>
      AlignableRow (clipTimeline metadataRows) tolerance annotation) annotations results := by
    rw [List.forall₂_iff_get] at rows written ⊢
    refine ⟨rows.1, fun position inside inResults => ?_⟩
    exact (faithfulRow_iff starts ends (written.2 position inside inResults)).mp
      (rows.2 position inside inResults)
  intro annotation member
  rcases List.mem_iff_get.mp member with ⟨position, rfl⟩
  have inResults : position.1 < results.length := each.length_eq ▸ position.2
  exact (List.forall₂_iff_get.mp each).2 position.1 position.2 inResults

end Runs

/-- The annotations follow the timeline exactly if each of them can be placed on it. -/
theorem faithfulAlignment_iff (annotations metadataRows : List Row) :
    FaithfulAlignment annotations metadataRows ↔ Alignable annotations metadataRows :=
  ⟨alignable_of_faithful, faithful_of_alignable⟩

/-! ## A segment that counts its frames from zero -/

/-- The last frame of a segment and, a second later, the first of the next. -/
def restartedMetadata : List Row :=
  [[(text "frame_num", .int 5), (text "pts", .int 1000000000)],
    [(text "frame_num", .int 0), (text "pts", .int 2000000000)]]

def onlyInt (rows : List Row) (key : String) : Option Int :=
  match rows with
  | [row] =>
    match lookup row key with
    | some (.int number) => some number
    | _ => none
  | _ => none

/-- An annotation that only has a PTS. -/
def annotationAt (pts : Int) : Row := [(text "frame_pts", .int pts)]

/-- An annotation of the earlier frame is a second before the clip. -/
theorem restarted_segment_not_faithful :
    ¬FaithfulAlignment [annotationAt 1000000000] restartedMetadata := by
  rintro ⟨aligned, summary, ran, ⟨tolerance, _, rows⟩, _⟩
  have times : (alignAnnotations [annotationAt 1000000000] restartedMetadata).toOption.map
      (fun result => onlyInt result.1 "t_ms") = some (some (-1000)) := by decide +kernel
  rw [ran] at times
  cases rows with
  | cons faithful none =>
    cases none
    next row =>
      have time := Option.some.inj times
      simp only [onlyInt] at time
      split at time
      next number timed =>
        cases time
        exact absurd (faithful.time_nonneg timed) (by decide)
      next => cases time

end VideoAnalysis.Timeline
