import VideoAnalysis.Foundation.IntervalUnion
import VideoAnalysis.Foundation.TextStart
import VideoAnalysis.RollingCache.Narrowing

/-! # Gaps between the selected segments

`materialize_window` compares every selected segment with its neighbour. What that
says about the union of their ranges depends on the segments that reach beyond their
successors.
-/

namespace VideoAnalysis.RollingCache

open Foundation

/-- The longest stretch between two segments that is no gap. -/
def WindowRequest.segmentGapLimitNs (request : WindowRequest) : Int :=
  max request.coverageSlackNs defaultInternalSegmentGapSlackNs

/-- The segments that `materialize_window` selects, in its order. -/
def WindowRequest.selected (request : WindowRequest) : List RollingSegment :=
  (planWindow request).selected

def coveredPts (segments : List RollingSegment) : Set Int :=
  ⋃ segment ∈ segments, Set.Icc segment.firstPts segment.lastPts

/-- A stretch of time between two of the segments that none of them covers. -/
structure UncoveredStretch (segments : List RollingSegment) (lowPts highPts : Int) : Prop where
  starts : ∃ segment ∈ segments, segment.lastPts ≤ lowPts
  ends : ∃ segment ∈ segments, highPts ≤ segment.firstPts
  uncovered : Disjoint (Set.Ioo lowPts highPts) (coveredPts segments)

/-- A segment starts more than `limitNs` after its neighbour in the sorted list ends. -/
def NeighboursApart (limitNs : Int) (segments : List RollingSegment) : Prop :=
  ∃ before previous current after, segments = before ++ previous :: current :: after ∧
    limitNs < current.firstPts - previous.lastPts

/-- It starts more than `limitNs` after every segment before it ends. -/
def AllBeforeApart (limitNs : Int) (segments : List RollingSegment) : Prop :=
  ∃ before previous current after, segments = before ++ previous :: current :: after ∧
    ∀ earlier ∈ before ++ [previous], limitNs < current.firstPts - earlier.lastPts

/-! ## The pairwise check -/

theorem largestGap_eq_none_iff (gaps : List (String × String × Int)) :
    largestGap gaps = none ↔ gaps = [] := by
  cases gaps <;> simp [largestGap]

variable {segments : List RollingSegment}

theorem gap_of_neighboursApart {limitNs : Int} :
    NeighboursApart limitNs segments ↔
      ∃ gap ∈ gapsBetween (fun previous current => current.firstPts - previous.lastPts) segments,
        limitNs < gap.2.2 := by
  induction segments with
  | nil =>
    constructor
    · rintro ⟨before, previous, current, after, split, _⟩
      simp at split
    · rintro ⟨gap, member, _⟩
      simp [gapsBetween] at member
  | cons first rest induction =>
    cases rest with
    | nil =>
      constructor
      · rintro ⟨before, previous, current, after, split, _⟩
        cases before <;> simp at split
      · rintro ⟨gap, member, _⟩
        simp [gapsBetween] at member
    | cons second rest =>
      have shifted : gapsBetween (fun previous current => current.firstPts - previous.lastPts)
          (first :: second :: rest) =
          (first.segmentId, second.segmentId, second.firstPts - first.lastPts) ::
            gapsBetween (fun previous current => current.firstPts - previous.lastPts)
              (second :: rest) := rfl
      rw [shifted]
      constructor
      · rintro ⟨before, previous, current, after, split, wide⟩
        cases before with
        | nil =>
          simp only [List.nil_append, List.cons.injEq] at split
          rcases split with ⟨rfl, rfl, _⟩
          exact ⟨_, List.mem_cons_self, wide⟩
        | cons _ before =>
          simp only [List.cons_append, List.cons.injEq] at split
          rcases induction.mp ⟨before, previous, current, after, split.2, wide⟩ with
            ⟨gap, member, larger⟩
          exact ⟨gap, List.mem_cons_of_mem _ member, larger⟩
      · rintro ⟨gap, member, wide⟩
        rcases List.mem_cons.mp member with rfl | inRest
        · exact ⟨[], first, second, rest, rfl, wide⟩
        · rcases induction.mpr ⟨gap, inRest, wide⟩ with
            ⟨before, previous, current, after, split, apart⟩
          exact ⟨first :: before, previous, current, after, by rw [split]; rfl, apart⟩

theorem internalGap_isSome_iff (request : WindowRequest) :
    (∃ gap, (planWindow request).internalGap = some gap) ↔
      NeighboursApart request.segmentGapLimitNs request.selected := by
  rw [gap_of_neighboursApart, ← Option.isSome_iff_exists, ← Option.ne_none_iff_isSome]
  simp only [planWindow, ne_eq, largestGap_eq_none_iff, List.filter_eq_nil_iff,
    WindowRequest.selected, WindowRequest.segmentGapLimitNs]
  push Not
  simp only [decide_eq_true_eq]

/-! ## The message -/

theorem internalGapMessage_chars (previousId currentId : String) (gapNs : Int) :
    (internalGapMessage previousId currentId gapNs).toList[0]? = some 'r' ∧
      (internalGapMessage previousId currentId gapNs).toList[14]? = some 'r' ∧
      (internalGapMessage previousId currentId gapNs).toList[31]? = some 'i' := by
  unfold internalGapMessage
  refine ⟨?_, ?_, ?_⟩
  · exact ((((((starts_ofList _).append _).append _).append _).append _).append _).char 0 rfl
  · exact ((((((starts_ofList _).append _).append _).append _).append _).append _).char 14 rfl
  · exact ((((((starts_ofList _).append _).append _).append _).append _).append _).char 31 rfl

/-- A failure of `materialize_window` other than its internal-gap miss. -/
def OtherFailure (failure : WindowFailure) : Prop :=
  ∀ previousId currentId gapNs,
    failure ≠ .coverageMiss (internalGapMessage previousId currentId gapNs)

variable {message : String} {char : Char}

theorem otherFailure_of_char {position : Nat} {expected : Char}
    (atMessage : message.toList[position]? = some char) (expects : ∀ previousId currentId gapNs,
      (internalGapMessage previousId currentId gapNs).toList[position]? = some expected)
    (differ : char ≠ expected) : OtherFailure (.coverageMiss message) := by
  intro previousId currentId gapNs same
  exact ne_of_char atMessage (expects previousId currentId gapNs) differ
    (WindowFailure.coverageMiss.inj same)

theorem otherFailure_at_0 (atMessage : message.toList[0]? = some char) (differ : char ≠ 'r') :
    OtherFailure (.coverageMiss message) :=
  otherFailure_of_char atMessage (fun _ _ _ => (internalGapMessage_chars _ _ _).1) differ

theorem otherFailure_at_14 (atMessage : message.toList[14]? = some char) (differ : char ≠ 'r') :
    OtherFailure (.coverageMiss message) :=
  otherFailure_of_char atMessage (fun _ _ _ => (internalGapMessage_chars _ _ _).2.1) differ

theorem otherFailure_at_31 (atMessage : message.toList[31]? = some char) (differ : char ≠ 'i') :
    OtherFailure (.coverageMiss message) :=
  otherFailure_of_char atMessage (fun _ _ _ => (internalGapMessage_chars _ _ _).2.2) differ

theorem otherFailure_cacheError (message : String) :
    OtherFailure (.rollingCacheError message) := by
  intro previousId currentId gapNs same
  cases same

variable {request : WindowRequest} {failure : WindowFailure}

theorem checkPlan_other {plan : WindowPlan} (noGap : plan.internalGap = none)
    (failed : checkPlan request plan = .error failure) :
    OtherFailure failure := by
  simp only [checkPlan, noGap] at failed
  split at failed
  · cases failed
    exact otherFailure_at_0 ((starts_ofList _).char 0 rfl) (by decide)
  · split at failed
    · cases failed
      exact otherFailure_at_31 ((starts_ofList _).char 31 rfl) (by decide)
    · split at failed
      · cases failed
        exact otherFailure_at_14 ((starts_ofList _).char 14 rfl) (by decide)
      · split at failed
        · cases failed
          exact otherFailure_at_31 (((starts_ofList _).append _).char 31 rfl) (by decide)
        · cases failed

theorem validate_other {rows : List MetadataRow} {startPts endPts slackNs : Int}
    {allowPartial : Bool}
    (failed : validateSelectedRowCoverage rows startPts endPts slackNs allowPartial =
      .error failure) : OtherFailure failure := by
  simp only [validateSelectedRowCoverage] at failed
  repeat' split at failed
  all_goals cases failed
  · exact otherFailure_at_14 ((starts_ofList _).char 14 rfl) (by decide)
  all_goals
    exact otherFailure_at_14 (((((starts_ofList _).append _).append _).append _).char 14 rfl)
      (by decide)

variable {format : FloatFormat} {media : MediaRun}

theorem checkMedia_other {outputDuration : Int}
    (failed : checkMedia format media outputDuration = .error failure) :
    OtherFailure failure := by
  simp only [checkMedia] at failed
  repeat' split at failed
  all_goals cases failed
  · exact otherFailure_cacheError _
  · exact otherFailure_cacheError _
  all_goals
    exact otherFailure_at_14 (((((starts_ofList _).append _).append _).append _).char 14 rfl)
      (by decide)

theorem materializeWindow_other (noGap : (planWindow request).internalGap = none)
    (failed : materializeWindow format request media = .error failure) :
    OtherFailure failure := by
  simp only [materializeWindow] at failed
  split at failed
  · cases failed
    exact otherFailure_at_0 ((starts_ofList _).char 0 rfl) (by decide)
  · cases checked : checkPlan request (planWindow request) with
    | error =>
      rw [checked] at failed
      cases failed
      exact checkPlan_other noGap checked
    | ok =>
      rw [checked] at failed
      cases validated : validateSelectedRowCoverage
          (selectRows (planWindow request).selected (planWindow request).outputStartPts
            (planWindow request).outputEndPts request.rowLoader)
          (planWindow request).outputStartPts (planWindow request).outputEndPts
          request.coverageSlackNs request.allowPartial with
      | error raised =>
        simp only [bind, Except.bind, validated] at failed
        cases failed
        exact validate_other validated
      | ok covered =>
        simp only [bind, Except.bind, validated] at failed
        split at failed
        next raised media =>
          cases failed
          exact checkMedia_other media
        next => cases failed

/-- `materialize_window` ended in its internal-gap coverage miss. -/
def RaisesInternalGap (format : FloatFormat) (request : WindowRequest) (media : MediaRun) :
    Prop :=
  ∃ previousId currentId gapNs, materializeWindow format request media =
    .error (.coverageMiss (internalGapMessage previousId currentId gapNs))

theorem raisesInternalGap_iff (ordered : request.requestedStartPts < request.requestedEndPts) :
    RaisesInternalGap format request media ↔
      NeighboursApart request.segmentGapLimitNs request.selected := by
  rw [← internalGap_isSome_iff]
  constructor
  · rintro ⟨previousId, currentId, gapNs, raised⟩
    by_contra noGap
    have none : (planWindow request).internalGap = none := by
      rw [← Option.not_isSome_iff_eq_none, Option.isSome_iff_exists]
      exact noGap
    exact materializeWindow_other none raised previousId currentId gapNs rfl
  · rintro ⟨⟨previousId, currentId, gapNs⟩, found⟩
    have apart := (internalGap_isSome_iff request).mp ⟨_, found⟩
    have someSelected : (planWindow request).selected ≠ [] := by
      rcases apart with ⟨_, _, _, _, split, _⟩
      rw [WindowRequest.selected] at split
      rw [split]
      simp
    refine ⟨previousId, currentId, gapNs, ?_⟩
    simp only [materializeWindow, if_neg (Int.not_le.mpr ordered), checkPlan,
      if_neg someSelected, found]
    rfl

/-! ## The union -/

def spans (segments : List RollingSegment) : List (Int × Int) :=
  segments.map fun segment => (segment.firstPts, segment.lastPts)

/-- On whole nanoseconds a stretch of two or more is uncovered exactly when no range
reaches into it. -/
theorem uncoveredStretch_iff {lowPts highPts : Int}
    (proper : ∀ segment ∈ segments, segment.firstPts ≤ segment.lastPts)
    (long : 1 < highPts - lowPts) :
    UncoveredStretch segments lowPts highPts ↔
      IntervalUnion.Hole (spans segments) lowPts highPts := by
  constructor
  · rintro ⟨⟨first, inFirst, starts⟩, ⟨last, inLast, ends⟩, uncovered⟩
    refine ⟨⟨_, List.mem_map_of_mem inFirst, starts⟩, ⟨_, List.mem_map_of_mem inLast, ends⟩, ?_⟩
    intro span member
    rcases List.mem_map.mp member with ⟨segment, inSegments, rfl⟩
    by_contra reaches
    push Not at reaches
    have range := proper segment inSegments
    have inside : max segment.firstPts (lowPts + 1) ∈ coveredPts segments := by
      simp only [coveredPts, Set.mem_iUnion]
      exact ⟨segment, inSegments, by constructor <;> dsimp only at reaches ⊢ <;> omega⟩
    have between : max segment.firstPts (lowPts + 1) ∈ Set.Ioo lowPts highPts := by
      constructor <;> dsimp only at reaches <;> omega
    exact Set.disjoint_left.mp uncovered between inside
  · rintro ⟨⟨_, inFirst, starts⟩, ⟨_, inLast, ends⟩, clear⟩
    rcases List.mem_map.mp inFirst with ⟨first, isFirst, rfl⟩
    rcases List.mem_map.mp inLast with ⟨last, isLast, rfl⟩
    refine ⟨⟨first, isFirst, starts⟩, ⟨last, isLast, ends⟩, ?_⟩
    rw [Set.disjoint_left]
    intro pts between inside
    simp only [coveredPts, Set.mem_iUnion] at inside
    rcases inside with ⟨segment, member, range⟩
    have apart := clear _ (List.mem_map_of_mem (f := fun segment : RollingSegment =>
      (segment.firstPts, segment.lastPts)) member)
    have := between.1
    have := between.2
    have := range.1
    have := range.2
    dsimp only at apart
    omega

theorem allBeforeApart_iff {limitNs : Int} :
    AllBeforeApart limitNs segments ↔
      ∃ before span after, spans segments = before ++ span :: after ∧
        IntervalUnion.Leap limitNs before span := by
  constructor
  · rintro ⟨before, previous, current, after, split, apart⟩
    refine ⟨spans (before ++ [previous]), (current.firstPts, current.lastPts), spans after, ?_,
      by simp [spans], ?_⟩
    · rw [split]
      simp [spans]
    · intro earlier member
      rcases List.mem_map.mp member with ⟨segment, inBefore, rfl⟩
      have := apart segment inBefore
      dsimp only
      omega
  · rintro ⟨before, span, after, split, someBefore, apart⟩
    rcases List.map_eq_append_iff.mp split with ⟨first, _, rfl, rfl, atRest⟩
    rcases List.map_eq_cons_iff.mp atRest with ⟨current, behind, rfl, rfl, rfl⟩
    have inhabited : first ≠ [] := by
      rintro rfl
      exact someBefore rfl
    refine ⟨first.dropLast, first.getLast inhabited, current, behind, ?_, ?_⟩
    · conv_rhs => rw [List.append_cons, List.dropLast_append_getLast]
    · rw [List.dropLast_append_getLast]
      intro earlier member
      have := apart _ (List.mem_map_of_mem (f := fun segment : RollingSegment =>
        (segment.firstPts, segment.lastPts)) member)
      dsimp only at this
      omega

theorem pairwise_sortSegments (segments : List RollingSegment) :
    (sortSegments segments).Pairwise fun first second => first.firstPts ≤ second.firstPts := by
  have sorted := @List.pairwise_mergeSort _ (fun first second : RollingSegment =>
    pairLe (first.firstPts, first.lastPts) (second.firstPts, second.lastPts))
    (by
      intro first second third
      simp only [pairLe, Bool.or_eq_true, Bool.and_eq_true, decide_eq_true_eq]
      omega)
    (by
      intro first second
      simp only [pairLe, Bool.or_eq_true, Bool.and_eq_true, decide_eq_true_eq]
      omega) segments
  apply sorted.imp
  intro first second ordered
  simp only [pairLe, Bool.or_eq_true, Bool.and_eq_true, decide_eq_true_eq] at ordered
  omega

/-- The union of the selected ranges has a gap exactly where a segment starts late after
all segments before it. -/
theorem exists_uncoveredStretch_iff
    (proper : ∀ segment ∈ request.segments, segment.firstPts ≤ segment.lastPts) :
    (∃ lowPts highPts, UncoveredStretch request.selected lowPts highPts ∧
        request.segmentGapLimitNs < highPts - lowPts) ↔
      AllBeforeApart request.segmentGapLimitNs request.selected := by
  have limit : 1 ≤ request.segmentGapLimitNs := by
    unfold WindowRequest.segmentGapLimitNs defaultInternalSegmentGapSlackNs
    omega
  have properSelected : ∀ segment ∈ request.selected, segment.firstPts ≤ segment.lastPts := by
    intro segment member
    exact proper segment (mem_overlappingSegments.mp (mem_sortSegments.mp member)).1
  have sorted : (spans request.selected).Pairwise fun first second => first.1 ≤ second.1 := by
    rw [spans, List.pairwise_map]
    exact pairwise_sortSegments _
  rw [allBeforeApart_iff, ← IntervalUnion.exists_hole_iff (by omega) (by
    intro span member
    rcases List.mem_map.mp member with ⟨segment, inSelected, rfl⟩
    exact properSelected segment inSelected) sorted]
  constructor
  · rintro ⟨lowPts, highPts, stretch, long⟩
    exact ⟨lowPts, highPts, (uncoveredStretch_iff properSelected (by omega)).mp stretch, long⟩
  · rintro ⟨lowPts, highPts, hole, long⟩
    exact ⟨lowPts, highPts, (uncoveredStretch_iff properSelected (by omega)).mpr hole, long⟩

/-- The miss is exact unless some segment reaches beyond its successor: every pair of
neighbours that is too far apart would be bridged by an earlier segment. -/
theorem internalGap_exact_iff (format : FloatFormat) (media : MediaRun) (request : WindowRequest)
    (ordered : request.requestedStartPts < request.requestedEndPts)
    (proper : ∀ segment ∈ request.segments, segment.firstPts ≤ segment.lastPts) :
    (RaisesInternalGap format request media ↔
        ∃ lowPts highPts, UncoveredStretch request.selected lowPts highPts ∧
          request.segmentGapLimitNs < highPts - lowPts) ↔
      (NeighboursApart request.segmentGapLimitNs request.selected →
        AllBeforeApart request.segmentGapLimitNs request.selected) := by
  rw [raisesInternalGap_iff ordered, exists_uncoveredStretch_iff proper]
  constructor
  · intro exactly
    exact exactly.mp
  · intro bridged
    refine ⟨bridged, ?_⟩
    rintro ⟨before, previous, current, after, split, apart⟩
    exact ⟨before, previous, current, after, split, apart previous (by simp)⟩

def plainSegment (segmentId : String) (firstPts lastPts : Int) : RollingSegment :=
  { segmentId, firstPts, lastPts, sourceFirstPts := none, sourceLastPts := none }

/-- A request for twelve seconds without an event frame. -/
def plainRequest (segments : List RollingSegment) : WindowRequest :=
  { requestedStartPts := 0
    requestedEndPts := 12000000000
    labels := { eventFramePts := .absent, eventFrameUuid := "", frameUuid := "" }
    segments, rowLoader := fun _ => []
    coverageSlackNs := defaultCoverageSlackNs, allowPartial := false }

def adjacentRequest : WindowRequest :=
  plainRequest [plainSegment "a" 0 6000000000, plainSegment "b" 6000000000 12000000000]

theorem internalGap_exact_adjacent :
    RaisesInternalGap plainFormat adjacentRequest copiedMedia ↔
      ∃ lowPts highPts, UncoveredStretch adjacentRequest.selected lowPts highPts ∧
        adjacentRequest.segmentGapLimitNs < highPts - lowPts := by
  refine (internalGap_exact_iff plainFormat copiedMedia adjacentRequest (by decide)
    (by decide)).mpr ?_
  intro apart
  have noGap : ∀ gap ∈ gapsBetween (fun previous current =>
      current.firstPts - previous.lastPts) adjacentRequest.selected,
      ¬adjacentRequest.segmentGapLimitNs < gap.2.2 := by
    simp only [WindowRequest.selected, planWindow, mapSourceWindowToMux, sortSegments,
      mergeSort_pairLe]
    decide +kernel
  rcases gap_of_neighboursApart.mp apart with ⟨gap, member, wide⟩
  exact absurd wide (noGap gap member)

/-- The second segment lies inside the first, which reaches up to the third. -/
def nestedRequest : WindowRequest :=
  plainRequest [plainSegment "a" 0 10000000000, plainSegment "b" 1000000000 2000000000,
    plainSegment "c" 10000000000 12000000000]

theorem nestedRequest_selected : nestedRequest.selected = nestedRequest.segments := by
  simp only [WindowRequest.selected, planWindow, mapSourceWindowToMux, sortSegments,
    mergeSort_pairLe]
  decide +kernel

theorem nested_segment_raises_without_gap :
    RaisesInternalGap plainFormat nestedRequest copiedMedia ∧
      ¬∃ lowPts highPts, UncoveredStretch nestedRequest.selected lowPts highPts ∧
        nestedRequest.segmentGapLimitNs < highPts - lowPts := by
  rw [raisesInternalGap_iff (by decide), exists_uncoveredStretch_iff (by decide),
    nestedRequest_selected]
  constructor
  · exact ⟨[plainSegment "a" 0 10000000000], _, _, [], rfl, by decide⟩
  · rintro ⟨before, previous, current, after, split, apart⟩
    cases before with
    | nil =>
      simp only [nestedRequest, plainRequest, List.nil_append, List.cons.injEq] at split
      rcases split with ⟨rfl, rfl, _⟩
      exact absurd (apart _ List.mem_cons_self) (by decide)
    | cons =>
      simp only [nestedRequest, plainRequest, List.cons_append, List.cons.injEq] at split
      rcases split with ⟨rfl, split⟩
      have reaches := apart _ List.mem_cons_self
      have notLater : current.firstPts ≤ 10000000000 := by
        have member : current ∈ [plainSegment "b" 1000000000 2000000000,
            plainSegment "c" 10000000000 12000000000] := by
          rw [split]
          simp
        rcases List.mem_cons.mp member with rfl | inRest
        · decide
        · rw [List.mem_singleton.mp inRest]
          decide
      have limit : 2000000000 ≤ nestedRequest.segmentGapLimitNs := by decide
      have lastPts : (plainSegment "a" 0 10000000000).lastPts = 10000000000 := rfl
      omega

end VideoAnalysis.RollingCache
