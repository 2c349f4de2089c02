import VideoAnalysis.Foundation.Median
import VideoAnalysis.RollingCache.Narrowing
import Mathlib.Data.List.GetD

/-! # Gaps between the selected rows

`_validate_selected_row_coverage` measures the widest gap against the median of all
gaps, itself included. With few rows, or an even number of gaps, that median can be
the gap under judgement.
-/

namespace VideoAnalysis.RollingCache

open Foundation

def framePtsOf (rows : List MetadataRow) : List Int := rows.filterMap MetadataRow.rowPts

def rowGaps (pts : List Int) : List Int :=
  (pts.zip pts.tail).map fun (previous, current) => current - previous

def rowGapFloorNs (coverageSlackNs : Int) : Int :=
  max coverageSlackNs defaultInternalRowGapSlackNs

/-- The rows that `materialize_window` selects for its output window. -/
def WindowRequest.selectedRows (request : WindowRequest) : List MetadataRow :=
  selectRows (planWindow request).selected (planWindow request).outputStartPts
    (planWindow request).outputEndPts request.rowLoader

/-- Frames that fill a window: no gap between two of them is wider than the floor or than
eight times the median of the other gaps. -/
structure NoHole (coverageSlackNs startPts endPts : Int) (pts : List Int) : Prop where
  increasing : pts.Pairwise (· < ·)
  inside : ∀ framePts ∈ pts, startPts ≤ framePts ∧ framePts ≤ endPts
  starts : ∃ first ∈ pts.head?, first - startPts ≤ coverageSlackNs
  ends : ∃ last ∈ pts.getLast?, endPts - last ≤ coverageSlackNs
  close : ∀ left gap right, rowGaps pts = left ++ gap :: right →
    gap ≤ max (rowGapFloorNs coverageSlackNs) (8 * medianGap (left ++ right))

/-- The larger of the two middle gaps stands for the median of an even number; this is
the smaller one. -/
def lowerMiddleGap (gaps : List Int) : Int := (ascending gaps).getD (gaps.length / 2 - 1) 0

/-- The median of the gaps is not made by the widest of them, or the widest gap is
acceptable without it. -/
def MedianStands (floorNs : Int) (gaps : List Int) : Prop :=
  (∀ gap ∈ gaps, gap ≤ floorNs) ∨ (gaps.length % 2 = 1 ∧ 3 ≤ gaps.length) ∨
    (gaps.length % 2 = 0 ∧ ∀ gap ∈ gaps, gap ≤ 8 * lowerMiddleGap gaps)

/-! ## The median without one gap -/

theorem medianGap_eq {gaps : List Int} (positive : ∀ gap ∈ gaps, 0 < gap) :
    medianGap gaps = (ascending gaps).getD (gaps.length / 2) 0 := by
  have all : gaps.filter (fun gap => decide (0 < gap)) = gaps := by
    rw [List.filter_eq_self]
    intro gap member
    exact decide_eq_true (positive gap member)
  simp only [medianGap, all, ascending, List.length_mergeSort]

variable {left right : List Int}

theorem positive_rest {gap : Int} (positive : ∀ other ∈ left ++ gap :: right, 0 < other) :
    ∀ other ∈ left ++ right, 0 < other := by
  intro other member
  apply positive other
  rcases List.mem_append.mp member with inLeft | inRight
  · exact List.mem_append_left _ inLeft
  · exact List.mem_append_right _ (List.mem_cons_of_mem _ inRight)

/-- The middle of an odd number of gaps, and the lower middle of an even number, cannot
shrink when a gap is left out. -/
theorem middle_le_medianGap {gap : Int} {position : Nat}
    (positive : ∀ other ∈ left ++ gap :: right, 0 < other)
    (middle : position = (left ++ right).length / 2) (several : 0 < (left ++ right).length) :
    (ascending (left ++ gap :: right)).getD position 0 ≤ medianGap (left ++ right) := by
  have lengths : (left ++ gap :: right).length = (left ++ right).length + 1 := by
    simp only [List.length_append, List.length_cons]
    omega
  have inRest : position < (ascending (left ++ right)).length := by
    rw [length_ascending]
    omega
  have inAll : position < (ascending (left ++ gap :: right)).length := by
    rw [length_ascending]
    omega
  rw [medianGap_eq (positive_rest positive), ← middle, List.getD_eq_getElem _ _ inRest,
    List.getD_eq_getElem _ _ inAll]
  exact getElem?_ascending_remove_le (List.getElem?_eq_getElem inRest)
    (List.getElem?_eq_getElem inAll)

theorem medianGap_without_largest {gap : Int}
    (positive : ∀ other ∈ left ++ gap :: right, 0 < other)
    (largest : ∀ other ∈ left ++ right, other ≤ gap) (several : 0 < (left ++ right).length) :
    medianGap (left ++ right) =
      (ascending (left ++ gap :: right)).getD ((left ++ right).length / 2) 0 := by
  have inRest : (left ++ right).length / 2 < (ascending (left ++ right)).length := by
    rw [length_ascending]
    omega
  rw [medianGap_eq (positive_rest positive), ascending_remove_largest largest,
    List.getD_eq_getElem?_getD, List.getD_eq_getElem?_getD, List.getElem?_append_left inRest]

/-- What the check accepts satisfies the law exactly if the median stands. -/
theorem close_iff_medianStands {floorNs : Int} {gaps : List Int} (floorPositive : 0 < floorNs)
    (positive : ∀ gap ∈ gaps, 0 < gap)
    (accepted : ∀ gap ∈ gaps, gap ≤ max floorNs (8 * medianGap gaps)) :
    (∀ left gap right, gaps = left ++ gap :: right →
        gap ≤ max floorNs (8 * medianGap (left ++ right))) ↔ MedianStands floorNs gaps := by
  constructor
  · intro close
    by_cases short : ∀ gap ∈ gaps, gap ≤ floorNs
    · exact .inl short
    have inhabited : gaps ≠ [] := by
      rintro rfl
      exact short (by simp)
    rcases exists_largest inhabited with ⟨left, widest, right, split, largest⟩
    have wide : floorNs < widest := by
      push Not at short
      rcases short with ⟨gap, member, beyond⟩
      rw [split] at member
      rcases List.mem_append.mp member with inLeft | inRight
      · exact beyond.trans_le (largest gap (List.mem_append_left _ inLeft))
      · rcases List.mem_cons.mp inRight with rfl | inRest
        · exact beyond
        · exact beyond.trans_le (largest gap (List.mem_append_right _ inRest))
    have bounded := close left widest right split
    have lengths : gaps.length = (left ++ right).length + 1 := by
      rw [split]
      simp only [List.length_append, List.length_cons]
      omega
    have several : 0 < (left ++ right).length := by
      by_contra none
      have empty : left ++ right = [] := List.eq_nil_of_length_eq_zero (by omega)
      rw [empty] at bounded
      have zero : medianGap [] = 0 := by simp [medianGap]
      omega
    by_cases odd : gaps.length % 2 = 1
    · exact .inr (.inl ⟨odd, by omega⟩)
    · refine .inr (.inr ⟨by omega, ?_⟩)
      have median := medianGap_without_largest (split ▸ positive) largest several
      have position : gaps.length / 2 - 1 = (left ++ right).length / 2 := by omega
      have lower : lowerMiddleGap gaps = medianGap (left ++ right) := by
        rw [lowerMiddleGap, position, split, median]
      intro gap member
      have smaller : gap ≤ widest := by
        rw [split] at member
        rcases List.mem_append.mp member with inLeft | inRight
        · exact largest gap (List.mem_append_left _ inLeft)
        · rcases List.mem_cons.mp inRight with rfl | inRest
          · exact le_rfl
          · exact largest gap (List.mem_append_right _ inRest)
      omega
  · intro stands left gap right split
    have member : gap ∈ gaps := by
      rw [split]
      simp
    have lengths : gaps.length = (left ++ right).length + 1 := by
      rw [split]
      simp only [List.length_append, List.length_cons]
      omega
    rcases stands with short | ⟨odd, several⟩ | ⟨even, bounded⟩
    · have := short gap member
      omega
    · have position : gaps.length / 2 = (left ++ right).length / 2 := by omega
      have middle := middle_le_medianGap (split ▸ positive) position (by omega)
      rw [← split, ← medianGap_eq positive] at middle
      have := accepted gap member
      omega
    · have position : gaps.length / 2 - 1 = (left ++ right).length / 2 := by omega
      have middle := middle_le_medianGap (split ▸ positive) position (by omega)
      rw [← split] at middle
      have := bounded gap member
      unfold lowerMiddleGap at this
      omega

/-! ## The selected rows -/

theorem framePtsOf_strictlyIncreasing {frames : List (Int × MetadataRow)}
    (rows : ∀ frame ∈ frames, frame.2.rowPts = some frame.1) (lastPts : Option Int) :
    (framePtsOf (strictlyIncreasing lastPts frames)).Pairwise (· < ·) ∧
      (∀ pts ∈ framePtsOf (strictlyIncreasing lastPts frames), ∃ frame ∈ frames, frame.1 = pts) ∧
      ∀ last ∈ lastPts, ∀ pts ∈ framePtsOf (strictlyIncreasing lastPts frames), last < pts := by
  induction frames generalizing lastPts with
  | nil => simp [strictlyIncreasing, framePtsOf]
  | cons frame frames induction =>
    rcases frame with ⟨pts, row⟩
    have atRow : row.rowPts = some pts := rows (pts, row) List.mem_cons_self
    have later := fun last => induction
      (fun frame member => rows frame (List.mem_cons_of_mem _ member)) last
    have keeps : (framePtsOf (row :: strictlyIncreasing (some pts) frames)).Pairwise (· < ·) ∧
        (∀ other ∈ framePtsOf (row :: strictlyIncreasing (some pts) frames),
          ∃ frame ∈ (pts, row) :: frames, frame.1 = other) ∧
        ∀ other ∈ framePtsOf (row :: strictlyIncreasing (some pts) frames), pts ≤ other := by
      rcases later (some pts) with ⟨ordered, members, above⟩
      have split : framePtsOf (row :: strictlyIncreasing (some pts) frames) =
          pts :: framePtsOf (strictlyIncreasing (some pts) frames) := by
        simp only [framePtsOf, List.filterMap_cons, atRow]
      rw [split]
      refine ⟨List.pairwise_cons.mpr ⟨above pts rfl, ordered⟩, ?_, ?_⟩
      · intro other member
        rcases List.mem_cons.mp member with rfl | inRest
        · exact ⟨_, List.mem_cons_self, rfl⟩
        · rcases members other inRest with ⟨frame, inFrames, same⟩
          exact ⟨frame, List.mem_cons_of_mem _ inFrames, same⟩
      · intro other member
        rcases List.mem_cons.mp member with rfl | inRest
        · exact le_rfl
        · exact (above pts rfl other inRest).le
    cases lastPts with
    | none => exact ⟨keeps.1, keeps.2.1, by simp⟩
    | some lastPts =>
      simp only [strictlyIncreasing]
      split
      next skipped =>
        rcases later (some lastPts) with ⟨ordered, members, above⟩
        refine ⟨ordered, ?_, above⟩
        intro other member
        rcases members other member with ⟨frame, inFrames, same⟩
        exact ⟨frame, List.mem_cons_of_mem _ inFrames, same⟩
      next kept =>
        refine ⟨keeps.1, keeps.2.1, ?_⟩
        rintro _ ⟨⟩ other member
        have := keeps.2.2 other member
        omega

theorem framePtsOf_append (first second : List MetadataRow) :
    framePtsOf (first ++ second) = framePtsOf first ++ framePtsOf second :=
  List.filterMap_append

theorem framePtsOf_auxiliary (rows : List MetadataRow) :
    framePtsOf (rows.filter fun row => row.rowPts.isNone) = [] := by
  rw [framePtsOf, List.filterMap_eq_nil_iff]
  intro row member
  simpa using (List.mem_filter.mp member).2

theorem selectRows_frames (segments : List RollingSegment) (startPts endPts : Int)
    (rowLoader : RollingSegment → List MetadataRow) :
    (framePtsOf (selectRows segments startPts endPts rowLoader)).Pairwise (· < ·) ∧
      ∀ pts ∈ framePtsOf (selectRows segments startPts endPts rowLoader),
        startPts ≤ pts ∧ pts ≤ endPts := by
  rcases exists_frameRows segments startPts endPts rowLoader with ⟨frames, selection, inWindow⟩
  simp only [selection, framePtsOf_append, framePtsOf_auxiliary, List.append_nil]
  have known : ∀ frame ∈ frames, frame.2.rowPts = some frame.1 ∧ startPts ≤ frame.1 ∧
      frame.1 ≤ endPts := by
    intro frame member
    exact ((inWindow frame.1 frame.2).mp member).2
  have sorted : ∀ frame ∈ frames.mergeSort fun first second => decide (first.1 ≤ second.1),
      frame.2.rowPts = some frame.1 := by
    intro frame member
    exact (known frame (List.mem_mergeSort.mp member)).1
  rcases framePtsOf_strictlyIncreasing sorted none with ⟨increasing, members, _⟩
  refine ⟨increasing, ?_⟩
  intro pts member
  rcases members pts member with ⟨frame, inFrames, rfl⟩
  exact (known frame (List.mem_mergeSort.mp inFrames)).2

theorem rowGaps_positive {pts : List Int} (increasing : pts.Pairwise (· < ·)) :
    ∀ gap ∈ rowGaps pts, 0 < gap := by
  induction pts with
  | nil => simp [rowGaps]
  | cons first rest induction =>
    cases rest with
    | nil => simp [rowGaps]
    | cons second rest =>
      intro gap member
      have split : rowGaps (first :: second :: rest) =
          (second - first) :: rowGaps (second :: rest) := rfl
      rw [split] at member
      rw [List.pairwise_cons] at increasing
      rcases List.mem_cons.mp member with rfl | inRest
      · have := increasing.1 second List.mem_cons_self
        omega
      · exact induction increasing.2 gap inRest

theorem le_maximumOf (first : Int) (rest : List Int) :
    first ≤ maximumOf first rest ∧ ∀ value ∈ rest, value ≤ maximumOf first rest := by
  unfold maximumOf
  induction rest generalizing first with
  | nil => simp
  | cons next _ induction =>
    rcases induction (max first next) with ⟨atStart, others⟩
    rw [List.foldl_cons]
    refine ⟨(le_max_left _ _).trans atStart, ?_⟩
    intro value member
    rcases List.mem_cons.mp member with rfl | inRest
    · exact (le_max_right _ _).trans atStart
    · exact others value inRest

theorem le_maximumOf_head {values : List Int} {value : Int} (member : value ∈ values) :
    value ≤ maximumOf (values.headD 0) values.tail := by
  cases values with
  | nil => cases member
  | cons =>
    rcases List.mem_cons.mp member with rfl | inRest
    · exact (le_maximumOf _ _).1
    · exact (le_maximumOf _ _).2 value inRest

theorem validated_rows {rows : List MetadataRow} {startPts endPts slackNs : Int}
    (increasing : (framePtsOf rows).Pairwise (· < ·))
    (validated : validateSelectedRowCoverage rows startPts endPts slackNs false = .ok ()) :
    (∃ first ∈ (framePtsOf rows).head?, first - startPts ≤ slackNs) ∧
      (∃ last ∈ (framePtsOf rows).getLast?, endPts - last ≤ slackNs) ∧
      ∀ gap ∈ rowGaps (framePtsOf rows), gap ≤
        max (rowGapFloorNs slackNs) (8 * medianGap (rowGaps (framePtsOf rows))) := by
  have sorted : (rows.filterMap MetadataRow.rowPts).mergeSort (fun a b => decide (a ≤ b)) =
      framePtsOf rows := ascending_of_pairwise (increasing.imp fun less => less.le)
  simp only [validateSelectedRowCoverage, sorted, Bool.false_eq_true, if_false] at validated
  cases atRows : framePtsOf rows with
  | nil =>
    rw [atRows] at validated
    cases validated
  | cons first rest =>
    rw [atRows] at validated
    dsimp only at validated
    split at validated
    next => cases validated
    next endpoints =>
      split at validated
      next => cases validated
      next gaps =>
        push Not at endpoints
        refine ⟨⟨first, rfl, by omega⟩, ⟨(first :: rest).getLastD 0, ?_, by omega⟩, ?_⟩
        · rw [List.getLast?_cons, List.getLastD_cons]
          exact Option.mem_def.mpr (congrArg some (by rw [List.getLastD_eq_getLast?]))
        · intro gap member
          have widest := le_maximumOf_head member
          have limit : maximumOf ((rowGaps (first :: rest)).headD 0)
              (rowGaps (first :: rest)).tail ≤
              max (max slackNs defaultInternalRowGapSlackNs)
                (medianGap (rowGaps (first :: rest)) * 8) := Int.not_lt.mp gaps
          unfold rowGapFloorNs
          omega

/-- The rows that pass the checks leave no hole exactly if the median of their gaps is
not made by the gap it judges. -/
theorem window_no_hole_iff (request : WindowRequest) (full : request.allowPartial = false)
    (validated : validateSelectedRowCoverage request.selectedRows
      (planWindow request).outputStartPts (planWindow request).outputEndPts
      request.coverageSlackNs request.allowPartial = .ok ()) :
    NoHole request.coverageSlackNs (planWindow request).outputStartPts
        (planWindow request).outputEndPts (framePtsOf request.selectedRows) ↔
      MedianStands (rowGapFloorNs request.coverageSlackNs)
        (rowGaps (framePtsOf request.selectedRows)) := by
  have selected := selectRows_frames (planWindow request).selected
    (planWindow request).outputStartPts (planWindow request).outputEndPts request.rowLoader
  have increasing : (framePtsOf request.selectedRows).Pairwise (· < ·) := selected.1
  have inside : ∀ pts ∈ framePtsOf request.selectedRows,
      (planWindow request).outputStartPts ≤ pts ∧ pts ≤ (planWindow request).outputEndPts :=
    selected.2
  rw [full] at validated
  rcases validated_rows increasing validated with ⟨starts, ends, accepted⟩
  have floor : 0 < rowGapFloorNs request.coverageSlackNs := by
    unfold rowGapFloorNs defaultInternalRowGapSlackNs
    omega
  rw [← close_iff_medianStands floor (rowGaps_positive increasing) accepted]
  constructor
  · intro noHole
    exact noHole.close
  · intro close
    exact ⟨increasing, inside, starts, ends, close⟩

def frameRow (pts : Int) : MetadataRow :=
  { schemaVersion := "", rollingCacheMuxPts := .absent, pts := .number pts
    framePts := .absent, uuid := "", frameUuid := "" }

/-- A request for everything from the first frame to the last, which one segment holds. -/
def framesRequest (first last : Int) (frames : List Int) : WindowRequest :=
  { requestedStartPts := first, requestedEndPts := last
    labels := { eventFramePts := .absent, eventFrameUuid := "", frameUuid := "" }
    segments :=
      [{ segmentId := "a", firstPts := first, lastPts := last, sourceFirstPts := none,
         sourceLastPts := none }]
    rowLoader := fun _ => frames.map frameRow
    coverageSlackNs := defaultCoverageSlackNs, allowPartial := false }

def regularRequest : WindowRequest :=
  framesRequest 0 1500000000 [0, 500000000, 1000000000, 1500000000]

theorem regular_window_no_hole :
    NoHole regularRequest.coverageSlackNs (planWindow regularRequest).outputStartPts
      (planWindow regularRequest).outputEndPts (framePtsOf regularRequest.selectedRows) := by
  refine (window_no_hole_iff regularRequest rfl ?_).mpr (.inl ?_)
  · simp only [validateSelectedRowCoverage, WindowRequest.selectedRows, planWindow,
      mapSourceWindowToMux, selectRows, sortSegments, medianGap, mergeSort_pairLe, mergeSort_le]
    decide +kernel
  · simp only [WindowRequest.selectedRows, planWindow, mapSourceWindowToMux, selectRows,
      sortSegments, mergeSort_pairLe, mergeSort_le]
    decide +kernel

/-- Two frames, ten seconds apart: the only gap is its own median. -/
def twoFramesRequest : WindowRequest := framesRequest 0 10000000000 [0, 10000000000]

theorem two_frames_leave_hole :
    (materializeWindow plainFormat twoFramesRequest copiedMedia).toOption.isSome = true ∧
      rowGaps (framePtsOf twoFramesRequest.selectedRows) = [10000000000] ∧
      ¬NoHole twoFramesRequest.coverageSlackNs (planWindow twoFramesRequest).outputStartPts
        (planWindow twoFramesRequest).outputEndPts
        (framePtsOf twoFramesRequest.selectedRows) := by
  have gaps : rowGaps (framePtsOf twoFramesRequest.selectedRows) = [10000000000] := by
    simp only [WindowRequest.selectedRows, planWindow, mapSourceWindowToMux, selectRows,
      sortSegments, mergeSort_pairLe, mergeSort_le]
    decide +kernel
  refine ⟨?_, gaps, ?_⟩
  · simp only [materializeWindow, checkPlan, validateSelectedRowCoverage, planWindow,
      mapSourceWindowToMux, selectRows, sortSegments, medianGap, mergeSort_pairLe, mergeSort_le]
    decide +kernel
  · intro noHole
    have bounded := noHole.close [] 10000000000 [] gaps
    have median : medianGap ([] ++ []) = 0 := by simp [medianGap]
    rw [median] at bounded
    revert bounded
    decide

end VideoAnalysis.RollingCache
