import Mathlib.Data.List.MinMax
import Mathlib.Data.Prod.Lex
import VideoAnalysis.Foundation.FirstLeast
import VideoAnalysis.Foundation.Sorting
import VideoAnalysis.RollingCache.Window

/-! # Narrowed read pins

`_source_window_candidates` cuts the catalog down on the source clock before
`materialize_window` chooses its segments on the mux clock.
-/

namespace VideoAnalysis.RollingCache

open Foundation

def boundedSegment (segment : RollingSegment) : Option ((Int × Int) × RollingSegment) :=
  match segment.sourceFirstPts, segment.sourceLastPts with
  | some first, some last => some ((min first last, max first last), segment)
  | _, _ => none

/-- The positions of `bounded` that overlap the window, in ascending order. -/
def overlappingPositions (startPts endPts : Int)
    (bounded : List ((Int × Int) × RollingSegment)) : List Nat :=
  (bounded.zipIdx.filter fun item =>
    decide (startPts ≤ item.1.1.2) && decide (item.1.1.1 ≤ endPts)).map (·.2)

def sourceWindowCandidates (segments : List RollingSegment)
    (requestedStartPts requestedEndPts : Option Int) : List RollingSegment :=
  match requestedStartPts, requestedEndPts with
  | some startPts, some endPts =>
    if endPts ≤ startPts then segments
    else
      match segments.mapM boundedSegment with
      | none => segments
      | some items =>
        let bounded := items.mergeSort fun first second => pairLe first.1 second.1
        match overlappingPositions startPts endPts bounded with
        | [] => segments
        | first :: rest =>
          let firstIndex := rest.foldl min first - 1
          let lastIndex := min bounded.length (rest.foldl max first + 2)
          let selected := ((bounded.take lastIndex).drop firstIndex).map (·.2)
          segments.filter fun segment => selected.contains segment
  | _, _ => segments

/-- The request as `_materialize_rolling_cache_job` passes it on: its segments are
those that `pin_source_segments` yields. -/
def WindowRequest.narrowed (request : WindowRequest) : WindowRequest :=
  { request with
    segments := sourceWindowCandidates request.segments (some request.requestedStartPts)
      (some request.requestedEndPts) }

def WindowRequest.eventUuid (request : WindowRequest) : String :=
  orText request.labels.eventFrameUuid request.labels.frameUuid

/-! ## The event's frame

What the mapping to the mux clock looks for, without its loops: the closest frame
of the three nearest segments. A frame with the event's uuid counts as distance
zero; a tie goes to the nearer segment, in it to the uuid, then to the first row.
-/

structure ScannedFrame where
  distance : Int
  tier : Int
  muxPts : Int
  deriving DecidableEq

def ScannedFrame.cost (frame : ScannedFrame) : Int ×ₗ Int := toLex (frame.distance, frame.tier)

def scannedFrame (eventSourcePts : Int) (eventUuid : String) (index : Int) (row : MetadataRow) :
    Option ScannedFrame :=
  match row.muxRowPts, row.sourceRowPts with
  | some muxPts, some sourcePts =>
    if eventUuid ≠ "" ∧ row.rowUuid = eventUuid then some ⟨0, 2 * index, muxPts⟩
    else some ⟨distanceNs sourcePts eventSourcePts, 2 * index + 1, muxPts⟩
  | _, _ => none

def scannedFrames (eventSourcePts : Int) (eventUuid : String)
    (rowLoader : RollingSegment → List MetadataRow) : Int → List RollingSegment →
    List ScannedFrame
  | _, [] => []
  | index, segment :: segments =>
    (rowLoader segment).filterMap (scannedFrame eventSourcePts eventUuid index) ++
      scannedFrames eventSourcePts eventUuid rowLoader (index + 1) segments

def closer (first second : ScannedFrame) : Prop := first.cost < second.cost

theorem closer_iff (first second : ScannedFrame) :
    closer first second ↔ first.distance < second.distance ∨
      first.distance = second.distance ∧ first.tier < second.tier := by
  exact Prod.Lex.toLex_lt_toLex

instance : DecidableRel closer := fun first second =>
  decidable_of_iff
    (first.distance < second.distance ∨
      first.distance = second.distance ∧ first.tier < second.tier)
    (closer_iff first second).symm

def WindowRequest.eventFrame (request : WindowRequest) (eventSourcePts : Int) :
    Option ScannedFrame :=
  (scannedFrames eventSourcePts request.eventUuid request.rowLoader 0
    (sourceClockCandidateSegments request.segments eventSourcePts)).foldl
      (List.argAux closer) none

theorem foldl_closer_of_not {frames : List ScannedFrame} {best : ScannedFrame}
    (least : ∀ frame ∈ frames, ¬ closer frame best) :
    frames.foldl (List.argAux closer) (some best) = some best := by
  induction frames with
  | nil => rfl
  | cons frame _ induction =>
    have stays : List.argAux closer (some best) frame = some best := by
      exact if_neg (least frame List.mem_cons_self)
    rw [List.foldl_cons, stays]
    exact induction fun later member => least later (List.mem_cons_of_mem _ member)

theorem distanceNs_nonneg (first second : Int) : 0 ≤ distanceNs first second := by
  exact Int.natCast_nonneg _

variable {index : Int}

variable {eventUuid : String} {frame : ScannedFrame} {row : MetadataRow}

theorem scannedFrame_bounds {eventSourcePts : Int}
    (scanned : scannedFrame eventSourcePts eventUuid index row = some frame) :
    0 ≤ frame.distance ∧ 2 * index ≤ frame.tier := by
  unfold scannedFrame at scanned
  split at scanned
  · split at scanned
    · cases scanned
      exact ⟨Int.le_refl 0, Int.le_refl _⟩
    · cases scanned
      exact ⟨distanceNs_nonneg _ _, by dsimp only; omega⟩
  · cases scanned

variable {segments : List RollingSegment}

variable {rowLoader : RollingSegment → List MetadataRow}

theorem scannedFrames_bounds {eventSourcePts : Int}
    (member : frame ∈ scannedFrames eventSourcePts eventUuid rowLoader index segments) :
    0 ≤ frame.distance ∧ 2 * index ≤ frame.tier := by
  induction segments generalizing index with
  | nil => cases member
  | cons _ _ induction =>
    rcases List.mem_append.mp member with inFirst | inRest
    · rcases List.mem_filterMap.mp inFirst with ⟨_, _, scanned⟩
      exact scannedFrame_bounds scanned
    · have later := induction inRest
      exact ⟨later.1, by omega⟩

/-! ## The scanning loops find it -/

/-- The pair that the loops keep for the frame `best`. -/
def ScannedFrame.kept (best : Option ScannedFrame) : Option (Int × Int) :=
  best.map fun frame => (frame.distance, frame.muxPts)

/-- `best` was found before the end of the segment `index`, and no frame with the
event's uuid is behind it. -/
def Unnamed (index : Int) (best : Option ScannedFrame) : Prop :=
  ∀ frame ∈ best, frame.tier ≤ 2 * index + 1 ∧
    (frame.distance = 0 → frame.tier = 2 * index + 1) ∧ 0 ≤ frame.distance

variable {muxPts : Int} {best : Option ScannedFrame}

theorem argAux_named (unnamed : Unnamed index best) :
    List.argAux closer best ⟨0, 2 * index, muxPts⟩ = some ⟨0, 2 * index, muxPts⟩ := by
  cases best with
  | none => rfl
  | some frame =>
    have known := unnamed frame rfl
    apply if_pos
    rw [closer_iff]
    by_cases zero : frame.distance = 0
    · have tier := known.2.1 zero
      exact .inr ⟨zero.symm, by dsimp only; omega⟩
    · exact .inl (by have := known.2.2; dsimp only; omega)

variable {distance : Int}

theorem argAux_unnamed (early : frame.tier ≤ 2 * index + 1) :
    List.argAux closer (some frame) ⟨distance, 2 * index + 1, muxPts⟩ =
      if distance < frame.distance then some ⟨distance, 2 * index + 1, muxPts⟩
      else some frame := by
  have notTier : ¬ 2 * index + 1 < frame.tier := by omega
  have same : closer ⟨distance, 2 * index + 1, muxPts⟩ frame ↔ distance < frame.distance := by
    rw [closer_iff]
    simp only [notTier, and_false, or_false]
  exact if_congr same rfl rfl

theorem Unnamed.argAux (unnamed : Unnamed index best) (nonneg : 0 ≤ distance) :
    Unnamed index (List.argAux closer best ⟨distance, 2 * index + 1, muxPts⟩) := by
  have fresh : Unnamed index (some ⟨distance, 2 * index + 1, muxPts⟩) := by
    rintro _ ⟨⟩
    exact ⟨Int.le_refl _, fun _ => rfl, nonneg⟩
  cases best with
  | none => exact fresh
  | some frame =>
    rw [argAux_unnamed (unnamed frame rfl).1]
    split
    · exact fresh
    · exact unnamed

theorem kept_argAux (unnamed : Unnamed index best) :
    ScannedFrame.kept (List.argAux closer best ⟨distance, 2 * index + 1, muxPts⟩) =
      match ScannedFrame.kept best with
      | some (bestDistance, bestMux) =>
        if distance < bestDistance then some (distance, muxPts)
        else some (bestDistance, bestMux)
      | none => some (distance, muxPts) := by
  cases best with
  | none => rfl
  | some frame =>
    rw [argAux_unnamed (unnamed frame rfl).1]
    simp only [ScannedFrame.kept, Option.map_some]
    split <;> rfl

theorem scanRows_eq (eventSourcePts : Int) (eventUuid : String) (rows : List MetadataRow)
    (unnamed : Unnamed index best) :
    let found := (rows.filterMap (scannedFrame eventSourcePts eventUuid index)).foldl
      (List.argAux closer) best
    scanRows eventSourcePts eventUuid (ScannedFrame.kept best) rows = ScannedFrame.kept found ∧
      ∀ frame ∈ found, frame.tier ≤ 2 * index + 1 ∧ 0 ≤ frame.distance := by
  induction rows generalizing best with
  | nil => exact ⟨rfl, fun frame member => ⟨(unnamed frame member).1, (unnamed frame member).2.2⟩⟩
  | cons row rows induction =>
    intro found
    cases mux : row.muxRowPts with
    | none =>
      have skipped : scannedFrame eventSourcePts eventUuid index row = none := by
        simp only [scannedFrame, mux]
      have sameFound : found = (rows.filterMap (scannedFrame eventSourcePts eventUuid
          index)).foldl (List.argAux closer) best := by
        simp only [found, List.filterMap_cons, skipped]
      rw [sameFound]
      simpa only [scanRows, mux] using induction unnamed
    | some muxPts =>
      cases source : row.sourceRowPts with
      | none =>
        have skipped : scannedFrame eventSourcePts eventUuid index row = none := by
          simp only [scannedFrame, mux, source]
        have sameFound : found = (rows.filterMap (scannedFrame eventSourcePts eventUuid
            index)).foldl (List.argAux closer) best := by
          simp only [found, List.filterMap_cons, skipped]
        rw [sameFound]
        simpa only [scanRows, mux, source] using induction unnamed
      | some sourcePts =>
        by_cases named : eventUuid ≠ "" ∧ row.rowUuid = eventUuid
        · have scanned : scannedFrame eventSourcePts eventUuid index row =
              some ⟨0, 2 * index, muxPts⟩ := by
            simp only [scannedFrame, mux, source, if_pos named]
          have stays : found = some ⟨0, 2 * index, muxPts⟩ := by
            simp only [found, List.filterMap_cons, scanned, List.foldl_cons,
              argAux_named unnamed]
            apply foldl_closer_of_not
            intro frame member
            rcases List.mem_filterMap.mp member with ⟨_, _, scannedLater⟩
            have bounds := scannedFrame_bounds scannedLater
            rw [closer_iff]
            dsimp only
            omega
          rw [stays]
          constructor
          · simp only [scanRows, mux, source, if_pos named, ScannedFrame.kept, Option.map_some]
          · rintro _ ⟨⟩
            exact ⟨by dsimp only; omega, Int.le_refl 0⟩
        · have scanned : scannedFrame eventSourcePts eventUuid index row =
              some ⟨distanceNs sourcePts eventSourcePts, 2 * index + 1, muxPts⟩ := by
            simp only [scannedFrame, mux, source, if_neg named]
          have extended : Unnamed index (List.argAux closer best
              ⟨distanceNs sourcePts eventSourcePts, 2 * index + 1, muxPts⟩) :=
            unnamed.argAux (distanceNs_nonneg _ _)
          have next := induction extended
          rw [kept_argAux unnamed] at next
          have sameFound : found = (rows.filterMap (scannedFrame eventSourcePts eventUuid
              index)).foldl (List.argAux closer) (List.argAux closer best
                ⟨distanceNs sourcePts eventSourcePts, 2 * index + 1, muxPts⟩) := by
            simp only [found, List.filterMap_cons, scanned, List.foldl_cons]
          rw [sameFound]
          refine ⟨?_, next.2⟩
          rw [← next.1]
          simp only [scanRows, mux, source, if_neg named]
          cases best with
          | none => rfl
          | some =>
            simp only [ScannedFrame.kept, Option.map_some]
            split <;> rfl

theorem scanSegments_eq (eventSourcePts : Int) (eventUuid : String)
    (rowLoader : RollingSegment → List MetadataRow) (index : Int)
    (segments : List RollingSegment) {best : Option ScannedFrame}
    (earlier : ∀ frame ∈ best, frame.tier < 2 * index ∧ 0 < frame.distance) :
    scanSegments eventSourcePts eventUuid rowLoader (ScannedFrame.kept best) segments =
      ScannedFrame.kept ((scannedFrames eventSourcePts eventUuid rowLoader index segments).foldl
        (List.argAux closer) best) := by
  induction segments generalizing index best with
  | nil => rfl
  | cons segment _ induction =>
    have unnamed : Unnamed index best := by
      intro frame member
      have known := earlier frame member
      exact ⟨by omega, fun zero => by omega, by omega⟩
    have scanned := scanRows_eq eventSourcePts eventUuid (rowLoader segment) unnamed
    simp only [scanSegments, scannedFrames, List.foldl_append, scanned.1]
    generalize ((rowLoader segment).filterMap (scannedFrame eventSourcePts eventUuid
      index)).foldl (List.argAux closer) best = found at scanned ⊢
    cases found with
    | none => exact induction (index + 1) fun frame member => by cases member
    | some frame =>
      have known := scanned.2 frame rfl
      simp only [ScannedFrame.kept, Option.map_some, Option.some.injEq]
      split
      next zero =>
        rw [foldl_closer_of_not]
        · rfl
        · intro later member
          have bounds := scannedFrames_bounds member
          rw [closer_iff]
          omega
      next nonzero =>
        have later : ∀ next ∈ some frame, next.tier < 2 * (index + 1) ∧ 0 < next.distance := by
          rintro _ ⟨⟩
          exact ⟨by omega, by omega⟩
        exact induction (index + 1) later

variable {request : WindowRequest}

theorem mapSourceWindowToMux_eq {eventSourcePts : Int}
    (given : request.labels.eventFramePts.toInt = some eventSourcePts) :
    mapSourceWindowToMux request = (request.eventFrame eventSourcePts).map fun frame =>
      (frame.muxPts - max 0 (eventSourcePts - request.requestedStartPts),
        frame.muxPts + max 0 (request.requestedEndPts - eventSourcePts), frame.muxPts) := by
  simp only [mapSourceWindowToMux, given]
  have scanned : scanSegments eventSourcePts request.eventUuid request.rowLoader none
      (sourceClockCandidateSegments request.segments eventSourcePts) =
      ScannedFrame.kept (request.eventFrame eventSourcePts) := by
    apply @scanSegments_eq eventSourcePts request.eventUuid request.rowLoader 0 _ none
    intro frame member
    cases member
  rw [WindowRequest.eventUuid] at scanned
  rw [scanned]
  cases request.eventFrame eventSourcePts <;> rfl

/-! ## Frames and rows -/

/-- How far a row with both clocks is from the event, one with the event's uuid at zero. -/
def rowDistance (eventSourcePts : Int) (eventUuid : String) (row : MetadataRow) : Option Int :=
  match row.muxRowPts, row.sourceRowPts with
  | some _, some sourcePts =>
    some (if eventUuid ≠ "" ∧ row.rowUuid = eventUuid then 0
      else distanceNs sourcePts eventSourcePts)
  | _, _ => none

theorem scannedFrame_distance (index eventSourcePts : Int) (eventUuid : String)
    (row : MetadataRow) :
    (scannedFrame eventSourcePts eventUuid index row).map (·.distance) =
      rowDistance eventSourcePts eventUuid row := by
  unfold scannedFrame rowDistance
  split
  · split <;> rfl
  · rfl

theorem mem_scannedFrames {eventSourcePts : Int} :
    frame ∈ scannedFrames eventSourcePts eventUuid rowLoader index segments ↔
      ∃ (place : Nat) (segment : RollingSegment), segments[place]? = some segment ∧
        ∃ row ∈ rowLoader segment,
          scannedFrame eventSourcePts eventUuid (index + place) row = some frame := by
  induction segments generalizing index with
  | nil => simp [scannedFrames]
  | cons segment _ induction =>
    rw [scannedFrames, List.mem_append, List.mem_filterMap, induction]
    constructor
    · rintro (inFirst | ⟨place, other, atPlace, inRest⟩)
      · exact ⟨0, segment, rfl, by simpa using inFirst⟩
      · refine ⟨place + 1, other, atPlace, ?_⟩
        have same : index + ((place + 1 : Nat) : Int) = index + 1 + place := by omega
        rw [same]
        exact inRest
    · rintro ⟨place, other, atPlace, row, inRows, scanned⟩
      cases place with
      | zero =>
        cases atPlace
        exact .inl ⟨row, inRows, by simpa using scanned⟩
      | succ place =>
        refine .inr ⟨place, other, atPlace, row, inRows, ?_⟩
        have same : index + ((place + 1 : Nat) : Int) = index + 1 + place := by omega
        rw [← same]
        exact scanned

theorem exists_frame_iff {eventSourcePts : Int} :
    (∃ frame ∈ scannedFrames eventSourcePts eventUuid rowLoader index segments,
        frame.distance = distance) ↔
      ∃ segment ∈ segments, ∃ row ∈ rowLoader segment,
        rowDistance eventSourcePts eventUuid row = some distance := by
  constructor
  · rintro ⟨frame, member, rfl⟩
    rcases mem_scannedFrames.mp member with ⟨place, segment, atPlace, row, inRows, scanned⟩
    refine ⟨segment, List.mem_of_getElem? atPlace, row, inRows, ?_⟩
    rw [← scannedFrame_distance (index + place), scanned]
    rfl
  · rintro ⟨segment, inSegments, row, inRows, isDistance⟩
    rcases List.mem_iff_getElem?.mp inSegments with ⟨place, atPlace⟩
    rw [← scannedFrame_distance (index + place)] at isDistance
    rcases Option.map_eq_some_iff.mp isDistance with ⟨frame, scanned, same⟩
    exact ⟨frame, mem_scannedFrames.mpr ⟨place, segment, atPlace, row, inRows, scanned⟩, same⟩

/-! ## The nearest ranges -/

/-- The distance of a segment's range and its lower bound, and the position of the segment. -/
def rangeKey (eventSourcePts : Int) (item : RollingSegment × Nat) : Int ×ₗ Int ×ₗ Nat :=
  let key := (sourceDistance eventSourcePts item.1).getD (0, 0)
  toLex (key.1, toLex (key.2, item.2))

/-- The segments with bounds at their positions, the nearest range first. -/
structure NearestFirst (segments : List RollingSegment) (eventSourcePts : Int)
    (order : List (RollingSegment × Nat)) : Prop where
  perm : order.Perm
    (segments.zipIdx.filter fun item => (sourceDistance eventSourcePts item.1).isSome)
  ascends : order.Pairwise fun first second =>
    rangeKey eventSourcePts first < rangeKey eventSourcePts second

/-- The three nearest ranges, or every segment where none has bounds. -/
def reached (segments : List RollingSegment) (order : List (RollingSegment × Nat)) :
    List RollingSegment :=
  if order = [] then segments else (order.take 3).map Prod.fst

theorem pairLe_trans (first second third : Int × Int) (less : pairLe first second = true)
    (next : pairLe second third = true) : pairLe first third = true := by
  simp only [pairLe, Bool.or_eq_true, Bool.and_eq_true, decide_eq_true_eq] at *
  omega

theorem pairLe_total (first second : Int × Int) :
    (pairLe first second || pairLe second first) = true := by
  simp only [pairLe, Bool.or_eq_true, Bool.and_eq_true, decide_eq_true_eq]
  omega

def rangeLe (eventSourcePts : Int) (first second : RollingSegment × Nat) : Bool :=
  pairLe ((sourceDistance eventSourcePts first.1).getD (0, 0))
    ((sourceDistance eventSourcePts second.1).getD (0, 0))

def sortedRanges (segments : List RollingSegment) (eventSourcePts : Int) :
    List (RollingSegment × Nat) :=
  (segments.zipIdx.filter fun item => (sourceDistance eventSourcePts item.1).isSome).mergeSort
    (rangeLe eventSourcePts)

theorem sortedRanges_nearestFirst (segments : List RollingSegment) (eventSourcePts : Int) :
    NearestFirst segments eventSourcePts (sortedRanges segments eventSourcePts) := by
  refine ⟨List.mergeSort_perm _ _, ?_⟩
  have placed : (segments.zipIdx.filter fun item =>
      (sourceDistance eventSourcePts item.1).isSome).Pairwise
        fun first second => first.2 < second.2 := by
    apply List.Pairwise.filter
    have indices : (segments.zipIdx.map Prod.snd).Pairwise (· < ·) := by
      rw [List.zipIdx_map_snd, ← List.range_eq_range']
      exact List.pairwise_lt_range
    exact List.pairwise_map.mp indices
  have sorted := mergeSort_stable (rangeLe eventSourcePts) (fun _ _ _ => pairLe_trans _ _ _)
    (fun _ _ => pairLe_total _ _) placed
  refine sorted.imp ?_
  intro first second order
  simp only [rangeLe, pairLe, Bool.or_eq_true, Bool.and_eq_true, decide_eq_true_eq] at order
  simp only [rangeKey, Prod.Lex.toLex_lt_toLex]
  omega

theorem NearestFirst.unique {segments : List RollingSegment} {eventSourcePts : Int}
    {order other : List (RollingSegment × Nat)}
    (nearest : NearestFirst segments eventSourcePts order)
    (otherNearest : NearestFirst segments eventSourcePts other) : order = other :=
  (nearest.perm.trans otherNearest.perm.symm).eq_of_pairwise
    (fun _ _ _ _ less greater => absurd less (lt_asymm greater)) nearest.ascends
    otherNearest.ascends

variable {order : List (RollingSegment × Nat)}

theorem NearestFirst.candidates {segments : List RollingSegment} {eventSourcePts : Int}
    (nearest : NearestFirst segments eventSourcePts order) :
    sourceClockCandidateSegments segments eventSourcePts = reached segments order := by
  have keyed (items : List (RollingSegment × Nat)) :
      (items.map Prod.fst).filterMap (fun segment =>
          (sourceDistance eventSourcePts segment).map fun key => (key, segment)) =
        (items.filter fun item => (sourceDistance eventSourcePts item.1).isSome).map fun item =>
          ((sourceDistance eventSourcePts item.1).getD (0, 0), item.1) := by
    induction items with
    | nil => rfl
    | cons item _ induction =>
      rw [List.map_cons, List.filterMap_cons, List.filter_cons, induction]
      cases found : sourceDistance eventSourcePts item.1 with
      | none => rfl
      | some => simp [found]
  have bounded := keyed segments.zipIdx
  rw [List.zipIdx_map_fst] at bounded
  rw [nearest.unique (sortedRanges_nearestFirst segments eventSourcePts)]
  simp only [sourceClockCandidateSegments, bounded, reached, sortedRanges]
  have sorted := List.map_mergeSort (r := rangeLe eventSourcePts)
    (s := fun first second => pairLe first.1 second.1)
    (f := fun item : RollingSegment × Nat =>
      ((sourceDistance eventSourcePts item.1).getD (0, 0), item.1))
    (l := segments.zipIdx.filter fun item => (sourceDistance eventSourcePts item.1).isSome)
    fun _ _ _ _ => rfl
  rw [← sorted, ← List.map_take, List.map_map, List.isEmpty_map]
  refine if_congr ?_ rfl rfl
  rw [List.isEmpty_iff, ← List.length_eq_zero_iff, ← List.length_eq_zero_iff,
    List.length_mergeSort]

theorem foldl_closer_eq_argmin (frames : List ScannedFrame) :
    frames.foldl (List.argAux closer) none = frames.argmin ScannedFrame.cost := by
  unfold List.argmin
  congr

theorem foldl_eq_some_iff {frames : List ScannedFrame} :
    frames.foldl (List.argAux closer) none = some frame ↔
      FirstLeast ScannedFrame.cost frames frame := by
  rw [foldl_closer_eq_argmin]
  exact argmin_eq_some_iff_firstLeast

theorem ScannedFrame.distance_le {first second : ScannedFrame} (least : first.cost ≤ second.cost) :
    first.distance ≤ second.distance := by
  by_contra beyond
  exact absurd least (not_le.mpr ((closer_iff _ _).mpr (.inl (not_le.mp beyond))))

/-! ## Rows of the reached segments -/

/-- The frames of the ranges that are reached, the nearest range first. -/
def WindowRequest.reachedFrames (request : WindowRequest) (eventSourcePts : Int)
    (order : List (RollingSegment × Nat)) : List ScannedFrame :=
  scannedFrames eventSourcePts request.eventUuid request.rowLoader 0
    (reached request.segments order)

/-- A row of the reached segments is as near to the event as the given one. -/
def WindowRequest.ReachesAsNear (request : WindowRequest) (eventSourcePts : Int)
    (order : List (RollingSegment × Nat)) (row : MetadataRow) : Prop :=
  ∀ distance, rowDistance eventSourcePts request.eventUuid row = some distance →
    ∃ segment ∈ reached request.segments order, ∃ near ∈ request.rowLoader segment,
      ∃ least ≤ distance, rowDistance eventSourcePts request.eventUuid near = some least

/-- The bounds of a segment are the PTS of rows with both clocks, and no row is outside them. -/
structure ExactBounds (segment : RollingSegment) (rows : List MetadataRow) : Prop where
  attained : ∀ bound, segment.sourceFirstPts = some bound ∨ segment.sourceLastPts = some bound →
    ∃ row ∈ rows, row.sourceRowPts = some bound ∧ row.muxRowPts.isSome = true
  within : ∀ first last, segment.sourceFirstPts = some first → segment.sourceLastPts = some last →
    ∀ row ∈ rows, ∀ sourcePts, row.sourceRowPts = some sourcePts →
      min first last ≤ sourcePts ∧ sourcePts ≤ max first last

section Bounds

variable {segment : RollingSegment} {rows : List MetadataRow} {eventSourcePts : Int}
  {key : Int × Int}

theorem ExactBounds.distance_le (bounds : ExactBounds segment rows)
    (ranged : sourceDistance eventSourcePts segment = some key) {row : MetadataRow}
    (inRows : row ∈ rows) {sourcePts : Int} (source : row.sourceRowPts = some sourcePts) :
    key.1 ≤ distanceNs sourcePts eventSourcePts := by
  unfold sourceDistance at ranged
  split at ranged
  next first last isFirst isLast =>
    have inside := bounds.within first last isFirst isLast row inRows sourcePts source
    cases ranged
    dsimp only [distanceNs]
    split <;> omega
  next => cases ranged

theorem ExactBounds.exists_at_distance (bounds : ExactBounds segment rows) (eventUuid : String)
    (ranged : sourceDistance eventSourcePts segment = some key) (outside : key.1 ≠ 0) :
    ∃ row ∈ rows, ∃ least ≤ key.1, rowDistance eventSourcePts eventUuid row = some least := by
  unfold sourceDistance at ranged
  split at ranged
  next first last isFirst isLast =>
    cases ranged
    have atEnd : ∃ bound, (segment.sourceFirstPts = some bound ∨
        segment.sourceLastPts = some bound) ∧
        distanceNs bound eventSourcePts = min (distanceNs eventSourcePts (min first last))
          (distanceNs eventSourcePts (max first last)) := by
      simp only [distanceNs]
      rcases le_total first last with ordered | ordered
      · rw [min_eq_left ordered, max_eq_right ordered]
        by_cases below : (eventSourcePts - first).natAbs ≤ (eventSourcePts - last).natAbs
        · exact ⟨first, .inl isFirst, by omega⟩
        · exact ⟨last, .inr isLast, by omega⟩
      · rw [min_eq_right ordered, max_eq_left ordered]
        by_cases below : (eventSourcePts - first).natAbs ≤ (eventSourcePts - last).natAbs
        · exact ⟨first, .inl isFirst, by omega⟩
        · exact ⟨last, .inr isLast, by omega⟩
    rcases atEnd with ⟨bound, isBound, isDistance⟩
    rcases bounds.attained bound isBound with ⟨row, inRows, source, hasMux⟩
    rcases Option.isSome_iff_exists.mp hasMux with ⟨_, mux⟩
    dsimp only at outside ⊢
    split at outside
    next => exact absurd rfl outside
    next notInside =>
      rw [if_neg notInside, ← isDistance]
      have found : rowDistance eventSourcePts eventUuid row =
          some (if eventUuid ≠ "" ∧ row.rowUuid = eventUuid then 0
            else distanceNs bound eventSourcePts) := by
        simp only [rowDistance, mux, source]
      refine ⟨row, inRows, _, ?_, found⟩
      have nonneg := distanceNs_nonneg bound eventSourcePts
      split <;> omega
  next => cases ranged

end Bounds

/-- Behind the third range a row without the uuid can only be nearer than all that are reached
if the event is within the three nearest ranges. -/
theorem reachesAsNear_of_outside {eventSourcePts : Int}
    (nearest : NearestFirst request.segments eventSourcePts order)
    {item near : RollingSegment × Nat} (further : item ∈ order.drop 3)
    (isNear : near ∈ order.take 3) {key : Int × Int}
    (ranged : sourceDistance eventSourcePts near.1 = some key) (outside : key.1 ≠ 0)
    (itemBounds : ExactBounds item.1 (request.rowLoader item.1))
    (nearBounds : ExactBounds near.1 (request.rowLoader near.1))
    (inRows : row ∈ request.rowLoader item.1)
    (unnamed : ¬(request.eventUuid ≠ "" ∧ row.rowUuid = request.eventUuid)) :
    request.ReachesAsNear eventSourcePts order row := by
  intro distance isDistance
  have inReached : near.1 ∈ reached request.segments order := by
    rw [reached, if_neg (List.ne_nil_of_mem (List.mem_of_mem_take isNear))]
    exact List.mem_map_of_mem isNear
  rcases nearBounds.exists_at_distance request.eventUuid ranged outside with
    ⟨other, inOther, least, atMost, isLeast⟩
  refine ⟨near.1, inReached, other, inOther, least, atMost.trans ?_, isLeast⟩
  have ascends := nearest.ascends
  rw [← List.take_append_drop 3 order, List.pairwise_append] at ascends
  have before := ascends.2.2 near isNear item further
  have isBounded := (List.mem_filter.mp (nearest.perm.subset (List.mem_of_mem_drop further))).2
  rcases Option.isSome_iff_exists.mp isBounded with ⟨itemKey, itemRanged⟩
  have keys : key.1 ≤ itemKey.1 := by
    simp only [rangeKey, Prod.Lex.toLex_lt_toLex, ranged, itemRanged, Option.getD_some] at before
    omega
  unfold rowDistance at isDistance
  split at isDistance
  next mux source =>
    rw [if_neg unnamed] at isDistance
    cases isDistance
    exact keys.trans (itemBounds.distance_le itemRanged inRows source)
  next => cases isDistance

/-- The row of a range behind the three nearest ones, of which one is without the event. -/
structure Outranged (request : WindowRequest) (eventSourcePts : Int)
    (order : List (RollingSegment × Nat)) (segment : RollingSegment) (row : MetadataRow) :
    Prop where
  unnamed : ¬(request.eventUuid ≠ "" ∧ row.rowUuid = request.eventUuid)
  ranged : (sourceDistance eventSourcePts segment).isSome = true
  bounds : ExactBounds segment (request.rowLoader segment)
  outside : ∃ near ∈ order.take 3, ExactBounds near.1 (request.rowLoader near.1) ∧
    ∃ key, sourceDistance eventSourcePts near.1 = some key ∧ key.1 ≠ 0

theorem NearestFirst.exists_further {segments : List RollingSegment} {eventSourcePts : Int}
    (nearest : NearestFirst segments eventSourcePts order) {segment : RollingSegment}
    (inSegments : segment ∈ segments)
    (ranged : (sourceDistance eventSourcePts segment).isSome = true)
    (notReached : segment ∉ reached segments order) :
    ∃ place, (segment, place) ∈ order.drop 3 := by
  rcases List.mem_iff_getElem?.mp inSegments with ⟨place, atPlace⟩
  have inZip : (segment, place) ∈ segments.zipIdx := List.mk_mem_zipIdx_iff_getElem?.mpr atPlace
  have inOrder := nearest.perm.symm.subset (List.mem_filter.mpr ⟨inZip, ranged⟩)
  rw [reached, if_neg (List.ne_nil_of_mem inOrder)] at notReached
  rw [← List.take_append_drop 3 order, List.mem_append] at inOrder
  exact ⟨place, inOrder.resolve_left fun inTaken => notReached (List.mem_map_of_mem inTaken)⟩

theorem Outranged.reachesAsNear {eventSourcePts : Int} {segment : RollingSegment}
    (outranged : Outranged request eventSourcePts order segment row)
    (nearest : NearestFirst request.segments eventSourcePts order)
    (inSegments : segment ∈ request.segments)
    (notReached : segment ∉ reached request.segments order)
    (inRows : row ∈ request.rowLoader segment) :
    request.ReachesAsNear eventSourcePts order row := by
  rcases nearest.exists_further inSegments outranged.ranged notReached with ⟨_, further⟩
  rcases outranged.outside with ⟨_, isNear, nearBounds, _, ranged, outside⟩
  exact reachesAsNear_of_outside nearest further isNear ranged outside outranged.bounds nearBounds
    inRows outranged.unnamed

/-! ## What narrowing keeps -/

theorem mapM_boundedSegment {items : List ((Int × Int) × RollingSegment)}
    (bounded : segments.mapM boundedSegment = some items) :
    items.map (·.2) = segments := by
  induction segments generalizing items with
  | nil =>
    cases bounded
    rfl
  | cons segment _ induction =>
    rw [List.mapM_cons] at bounded
    rcases Option.bind_eq_some_iff.mp bounded with ⟨item, atItem, others⟩
    rcases Option.bind_eq_some_iff.mp others with ⟨_, atRest, same⟩
    cases same
    have atSegment : item.2 = segment := by
      unfold boundedSegment at atItem
      split at atItem <;> cases atItem
      rfl
    rw [List.map_cons, atSegment, induction atRest]

end VideoAnalysis.RollingCache
