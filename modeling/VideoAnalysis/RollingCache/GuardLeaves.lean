import VideoAnalysis.RollingCache.Candidates

/-! # The guard leaves of a narrowed pin

In a catalog of one stream narrowing leaves out the segments that lie beyond the leaf next
to the window, on the source clock. The event keeps its frame, unless that frame is left out
or its uuid comes up in a segment that narrowing makes one of the three nearest.
-/

namespace VideoAnalysis.RollingCache

open Foundation

/-! ## Beyond the guard leaves -/

def endsBefore (first second : RollingSegment) : Bool :=
  first.sourceLastPts.any fun last => second.sourceFirstPts.any fun start => last < start

def overlapsWindow (startPts endPts : Int) (segment : RollingSegment) : Bool :=
  segment.sourceLastPts.any (startPts ≤ ·) && segment.sourceFirstPts.any (· ≤ endPts)

/-- Some segment overlaps the window, and between the window and this segment there is
another one that does not. -/
def beyondGuard (segments : List RollingSegment) (startPts endPts : Int)
    (segment : RollingSegment) : Bool :=
  decide (startPts < endPts) && segments.any (overlapsWindow startPts endPts) &&
    segments.any fun other =>
      (endsBefore segment other && other.sourceLastPts.any (· < startPts)) ||
        (endsBefore other segment && other.sourceFirstPts.any (endPts < ·))

/-- Ranges in the order of the list, none reaching into the next. -/
structure RangesAscend (items : List ((Int × Int) × RollingSegment)) : Prop where
  within : ∀ item ∈ items, item.1.1 ≤ item.1.2
  apart : items.Pairwise fun first second => first.1.2 < second.1.1
  read : ∀ item ∈ items, item.2.sourceFirstPts = some item.1.1 ∧
    item.2.sourceLastPts = some item.1.2

variable {items : List ((Int × Int) × RollingSegment)} {startPts endPts : Int}

theorem RangesAscend.sorted (ascend : RangesAscend items) :
    items.mergeSort (fun first second => pairLe first.1 second.1) = items := by
  apply List.mergeSort_of_pairwise
  refine ascend.apart.imp_of_mem ?_
  intro first second isFirst _ apart
  have within := ascend.within first isFirst
  simp only [pairLe, Bool.or_eq_true, decide_eq_true_eq]
  left
  omega

variable {first second : Nat} {left right : (Int × Int) × RollingSegment}

theorem RangesAscend.lt_iff (ascend : RangesAscend items) (atFirst : items[first]? = some left)
    (atSecond : items[second]? = some right) : left.1.2 < right.1.1 ↔ first < second := by
  have leftWithin := ascend.within left (List.mem_of_getElem? atFirst)
  have rightWithin := ascend.within right (List.mem_of_getElem? atSecond)
  rcases List.getElem?_eq_some_iff.mp atFirst with ⟨firstIn, rfl⟩
  rcases List.getElem?_eq_some_iff.mp atSecond with ⟨secondIn, rfl⟩
  have apart := List.pairwise_iff_getElem.mp ascend.apart
  rcases lt_trichotomy first second with less | rfl | greater
  · exact iff_of_true (apart first second firstIn secondIn less) less
  · exact iff_of_false (by omega) (lt_irrefl _)
  · have reversed := apart second first secondIn firstIn greater
    exact iff_of_false (by omega) (lt_asymm greater)

theorem RangesAscend.mono (ascend : RangesAscend items) (atFirst : items[first]? = some left)
    (atSecond : items[second]? = some right) (ordered : first ≤ second) :
    left.1.1 ≤ right.1.1 ∧ left.1.2 ≤ right.1.2 := by
  have leftWithin := ascend.within left (List.mem_of_getElem? atFirst)
  have rightWithin := ascend.within right (List.mem_of_getElem? atSecond)
  rcases ordered.lt_or_eq with less | rfl
  · have apart := (ascend.lt_iff atFirst atSecond).mpr less
    omega
  · cases atFirst.symm.trans atSecond
    exact ⟨le_refl _, le_refl _⟩

theorem mem_overlappingPositions {position : Nat} :
    position ∈ overlappingPositions startPts endPts items ↔
      ∃ item, items[position]? = some item ∧ startPts ≤ item.1.2 ∧ item.1.1 ≤ endPts := by
  simp only [overlappingPositions, List.mem_map, List.mem_filter, Bool.and_eq_true,
    decide_eq_true_eq]
  constructor
  · rintro ⟨⟨item, place⟩, ⟨member, overlaps⟩, rfl⟩
    exact ⟨item, List.mk_mem_zipIdx_iff_getElem?.mp member, overlaps⟩
  · rintro ⟨item, atPosition, overlaps⟩
    exact ⟨(item, position), ⟨List.mk_mem_zipIdx_iff_getElem?.mpr atPosition, overlaps⟩, rfl⟩

theorem overlappingPositions_ends {first : Nat} {rest : List Nat}
    (overlapping : overlappingPositions startPts endPts items = first :: rest) :
    (∃ item, items[rest.foldl min first]? = some item ∧ startPts ≤ item.1.2 ∧ item.1.1 ≤ endPts) ∧
    (∃ item, items[rest.foldl max first]? = some item ∧ startPts ≤ item.1.2 ∧ item.1.1 ≤ endPts) ∧
    ∀ position item, items[position]? = some item → startPts ≤ item.1.2 → item.1.1 ≤ endPts →
      rest.foldl min first ≤ position ∧ position ≤ rest.foldl max first := by
  refine ⟨?_, ?_, fun position item atPosition isLate isEarly => ?_⟩
  · apply mem_overlappingPositions.mp
    rw [overlapping]
    exact List.min?_mem List.min?_cons'
  · apply mem_overlappingPositions.mp
    rw [overlapping]
    exact List.max?_mem List.max?_cons'
  · have member := mem_overlappingPositions.mpr ⟨item, atPosition, isLate, isEarly⟩
    rw [overlapping] at member
    exact ⟨List.min?_getD_le_of_mem (k := 0) member, List.le_max?_getD_of_mem (k := 0) member⟩

variable {segments : List RollingSegment}

theorem RangesAscend.endsBefore_iff (ascend : RangesAscend items)
    (atFirst : items[first]? = some left) (atSecond : items[second]? = some right) :
    endsBefore left.2 right.2 = true ↔ first < second := by
  have leftRead := ascend.read left (List.mem_of_getElem? atFirst)
  have rightRead := ascend.read right (List.mem_of_getElem? atSecond)
  simp only [endsBefore, leftRead.2, rightRead.1, Option.any_some, decide_eq_true_eq]
  exact ascend.lt_iff atFirst atSecond

theorem RangesAscend.mem_taken (ascend : RangesAscend items) {place : Nat}
    {item : (Int × Int) × RollingSegment} (atPlace : items[place]? = some item)
    (first last : Nat) :
    item.2 ∈ ((items.take (min items.length last)).drop first).map (·.2) ↔
      first ≤ place ∧ place < last := by
  rw [List.mem_map]
  constructor
  · rintro ⟨other, inTaken, same⟩
    rcases List.mem_iff_getElem?.mp inTaken with ⟨_, atOffset⟩
    rw [List.getElem?_drop, List.getElem?_take] at atOffset
    split at atOffset
    next inTake =>
      have notBefore := mt (ascend.endsBefore_iff atPlace atOffset).mpr
      have notBehind := mt (ascend.endsBefore_iff atOffset atPlace).mpr
      have irreflexive : ¬endsBefore item.2 item.2 = true := fun before =>
        lt_irrefl _ ((ascend.endsBefore_iff atPlace atPlace).mp before)
      rw [same] at notBefore notBehind
      have atLeast := notBefore irreflexive
      have atMost := notBehind irreflexive
      omega
    next => cases atOffset
  · rintro ⟨atLeast, atMost⟩
    have inRange := (List.getElem?_eq_some_iff.mp atPlace).1
    refine ⟨item, ?_, rfl⟩
    apply List.mem_of_getElem? (i := place - first)
    have samePlace : first + (place - first) = place := by omega
    rw [List.getElem?_drop, List.getElem?_take, samePlace, if_pos (by omega)]
    exact atPlace

theorem RangesAscend.beyondGuard_iff (ascend : RangesAscend items) (window : startPts < endPts)
    {place : Nat} {item : (Int × Int) × RollingSegment} (atPlace : items[place]? = some item)
    {first : Nat} {rest : List Nat}
    (overlapping : overlappingPositions startPts endPts items = first :: rest) :
    beyondGuard (items.map Prod.snd) startPts endPts item.2 = true ↔
      ¬(rest.foldl min first - 1 ≤ place ∧ place < rest.foldl max first + 2) := by
  rcases overlappingPositions_ends overlapping with
    ⟨⟨low, atLow, lowLate, lowEarly⟩, ⟨_, atHigh, _⟩, between⟩
  have someOverlap : (items.map Prod.snd).any (overlapsWindow startPts endPts) = true := by
    rw [List.any_map, List.any_eq_true]
    refine ⟨low, List.mem_of_getElem? atLow, ?_⟩
    have read := ascend.read low (List.mem_of_getElem? atLow)
    simp only [Function.comp, overlapsWindow, read, Option.any_some, Bool.and_eq_true,
      decide_eq_true_eq]
    exact ⟨lowLate, lowEarly⟩
  have isBeyond : beyondGuard (items.map Prod.snd) startPts endPts item.2 = true ↔
      ∃ position other, items[position]? = some other ∧
        (place < position ∧ other.1.2 < startPts ∨ position < place ∧ endPts < other.1.1) := by
    simp only [beyondGuard, window, decide_true, someOverlap, Bool.true_and, List.any_map,
      List.any_eq_true, Function.comp, Bool.or_eq_true, Bool.and_eq_true]
    constructor
    · rintro ⟨other, member, outside⟩
      rcases List.mem_iff_getElem?.mp member with ⟨position, atPosition⟩
      have read := ascend.read other member
      rw [ascend.endsBefore_iff atPlace atPosition, ascend.endsBefore_iff atPosition atPlace,
        read.1, read.2, Option.any_some, Option.any_some, decide_eq_true_eq,
        decide_eq_true_eq] at outside
      exact ⟨position, other, atPosition, outside⟩
    · rintro ⟨position, other, atPosition, outside⟩
      have member := List.mem_of_getElem? atPosition
      have read := ascend.read other member
      refine ⟨other, member, ?_⟩
      rw [ascend.endsBefore_iff atPlace atPosition, ascend.endsBefore_iff atPosition atPlace,
        read.1, read.2, Option.any_some, Option.any_some, decide_eq_true_eq,
        decide_eq_true_eq]
      exact outside
  rw [isBeyond, not_and_or]
  constructor
  · rintro ⟨position, other, atPosition, ⟨behind, early⟩ | ⟨before, late⟩⟩
    · left
      have notReached : ¬rest.foldl min first ≤ position := fun ordered => by
        have mono := ascend.mono atLow atPosition ordered
        omega
      omega
    · right
      have notReached : ¬position ≤ rest.foldl max first := fun ordered => by
        have mono := ascend.mono atPosition atHigh ordered
        omega
      omega
  · rintro (isBefore | isBehind)
    · have inRange := (List.getElem?_eq_some_iff.mp atLow).1
      have atGuard := List.getElem?_eq_getElem (l := items) (i := rest.foldl min first - 1)
        (by omega)
      have mono := ascend.mono atGuard atLow (Nat.sub_le _ _)
      refine ⟨_, _, atGuard, .inl ⟨by omega, ?_⟩⟩
      by_contra notEarly
      have reaches := between _ _ atGuard (by omega) (by omega)
      omega
    · have inRange := (List.getElem?_eq_some_iff.mp atPlace).1
      have atGuard := List.getElem?_eq_getElem (l := items) (i := rest.foldl max first + 1)
        (by omega)
      have mono := ascend.mono atHigh atGuard (Nat.le_succ _)
      refine ⟨_, _, atGuard, .inr ⟨by omega, ?_⟩⟩
      by_contra notLate
      have reaches := between _ _ atGuard (by omega) (by omega)
      omega

/-- Narrowing leaves out exactly the segments beyond the guard leaves. -/
theorem sourceWindowCandidates_eq (bounded : segments.mapM boundedSegment = some items)
    (ascend : RangesAscend items) :
    sourceWindowCandidates segments (some startPts) (some endPts) =
      segments.filter fun segment => !beyondGuard segments startPts endPts segment := by
  have everything (inside : ∀ segment ∈ segments,
      beyondGuard segments startPts endPts segment = false) :
      segments = segments.filter fun segment => !beyondGuard segments startPts endPts segment :=
    (List.filter_eq_self.mpr fun segment member => by rw [inside segment member]; rfl).symm
  have isItems := mapM_boundedSegment bounded
  simp only [sourceWindowCandidates, bounded, ascend.sorted]
  split
  next noWindow =>
    apply everything
    intro segment _
    rw [beyondGuard, decide_eq_false (not_lt.mpr noWindow)]
    rfl
  next window =>
    have window := not_le.mp window
    split
    next noOverlap =>
      apply everything
      intro segment _
      have overlapsNone : segments.any (overlapsWindow startPts endPts) = false := by
        rw [← isItems, List.any_map, List.any_eq_false]
        intro item member overlaps
        rcases List.mem_iff_getElem?.mp member with ⟨_, atPosition⟩
        have read := ascend.read item member
        simp only [Function.comp, overlapsWindow, read, Option.any_some, Bool.and_eq_true,
          decide_eq_true_eq] at overlaps
        have inPositions := mem_overlappingPositions.mpr ⟨item, atPosition, overlaps⟩
        rw [noOverlap] at inPositions
        cases inPositions
      rw [beyondGuard, overlapsNone, Bool.and_false]
      rfl
    next first rest overlapping =>
      apply List.filter_congr
      intro segment member
      rw [← isItems] at member
      rcases List.mem_map.mp member with ⟨_, inItems, rfl⟩
      rcases List.mem_iff_getElem?.mp inItems with ⟨_, atPlace⟩
      have beyond := ascend.beyondGuard_iff window atPlace overlapping
      rw [isItems] at beyond
      have chosen := ascend.mem_taken atPlace (rest.foldl min first - 1)
        (rest.foldl max first + 2)
      rw [Bool.eq_iff_iff, List.contains_iff_mem, chosen, Bool.not_eq_true', ← Bool.not_eq_true,
        beyond, not_not]

/-! ## Streams -/

def EarlierFrame (first second : MetadataRow) : Prop :=
  (∀ source ∈ first.sourceRowPts, ∀ later ∈ second.sourceRowPts, source < later) ∧
    ∀ mux ∈ first.muxRowPts, ∀ later ∈ second.muxRowPts, mux < later

/-- The rows of a segment carry both clocks, and its bounds are those of its rows. -/
structure SegmentFrames (segment : RollingSegment) (rows : List MetadataRow) : Prop where
  clocks : ∀ row ∈ rows, row.sourceRowPts.isSome = true ∧ row.muxRowPts.isSome = true
  first : ∃ row, rows.head? = some row ∧ row.sourceRowPts = segment.sourceFirstPts ∧
    row.muxRowPts = some segment.firstPts
  last : ∃ row, rows.getLast? = some row ∧ row.sourceRowPts = segment.sourceLastPts ∧
    row.muxRowPts = some segment.lastPts

/-- Segments of one stream in its order: both clocks increase over all its rows. -/
structure StreamCatalog (segments : List RollingSegment)
    (rowLoader : RollingSegment → List MetadataRow) : Prop where
  frames : ∀ segment ∈ segments, SegmentFrames segment (rowLoader segment)
  increasing : (segments.flatMap rowLoader).Pairwise EarlierFrame

variable {rowLoader : RollingSegment → List MetadataRow}

theorem EarlierFrame.source_lt {first second : MetadataRow} (earlier : EarlierFrame first second)
    {left right : Int} (isLeft : first.sourceRowPts = some left)
    (isRight : second.sourceRowPts = some right) : left < right :=
  earlier.1 left isLeft right isRight

theorem SegmentFrames.exists_range {segment : RollingSegment} {rows : List MetadataRow}
    (frames : SegmentFrames segment rows) (sorted : rows.Pairwise EarlierFrame) :
    ∃ first last, segment.sourceFirstPts = some first ∧ segment.sourceLastPts = some last ∧
      first ≤ last ∧ ∀ row ∈ rows, ∀ sourcePts, row.sourceRowPts = some sourcePts →
        first ≤ sourcePts ∧ sourcePts ≤ last := by
  rcases frames.first with ⟨head, atHead, headSource, _⟩
  rcases frames.last with ⟨tail, atTail, tailSource, _⟩
  have headMember := List.mem_of_head? atHead
  have tailMember := List.mem_of_getLast? atTail
  rcases Option.isSome_iff_exists.mp (frames.clocks head headMember).1 with ⟨first, isFirst⟩
  rcases Option.isSome_iff_exists.mp (frames.clocks tail tailMember).1 with ⟨last, isLast⟩
  have within : ∀ row ∈ rows, ∀ sourcePts, row.sourceRowPts = some sourcePts →
      first ≤ sourcePts ∧ sourcePts ≤ last := by
    intro row member sourcePts source
    constructor
    · rcases List.head?_eq_some_iff.mp atHead with ⟨_, rfl⟩
      rcases List.mem_cons.mp member with rfl | inRest
      · cases isFirst.symm.trans source
        exact le_refl _
      · have earlier := (List.pairwise_cons.mp sorted).1 row inRest
        exact (earlier.source_lt isFirst source).le
    · rcases List.getLast?_eq_some_iff.mp atTail with ⟨_, rfl⟩
      rcases List.mem_append.mp member with inFront | isTail
      · have earlier := (List.pairwise_append.mp sorted).2.2 row inFront tail
          (List.mem_singleton_self _)
        exact (earlier.source_lt source isLast).le
      · rw [List.mem_singleton.mp isTail] at source
        cases isLast.symm.trans source
        exact le_refl _
  exact ⟨first, last, headSource ▸ isFirst, tailSource ▸ isLast,
    (within tail tailMember last isLast).1, within⟩

theorem StreamCatalog.rows_sorted (catalog : StreamCatalog segments rowLoader)
    {segment : RollingSegment} (member : segment ∈ segments) :
    (rowLoader segment).Pairwise EarlierFrame :=
  (List.pairwise_flatMap.mp catalog.increasing).1 segment member

theorem StreamCatalog.exactBounds (catalog : StreamCatalog segments rowLoader)
    {segment : RollingSegment} (member : segment ∈ segments) :
    ExactBounds segment (rowLoader segment) := by
  have frames := catalog.frames segment member
  rcases frames.exists_range (catalog.rows_sorted member) with
    ⟨_, _, isFirst, isLast, ordered, within⟩
  constructor
  · rintro bound (atFirst | atLast)
    · rcases frames.first with ⟨row, atHead, source, _⟩
      have inRows := List.mem_of_head? atHead
      exact ⟨row, inRows, source.trans atFirst, (frames.clocks row inRows).2⟩
    · rcases frames.last with ⟨row, atTail, source, _⟩
      have inRows := List.mem_of_getLast? atTail
      exact ⟨row, inRows, source.trans atLast, (frames.clocks row inRows).2⟩
  · intro other otherLast isOther isOtherLast row inRows sourcePts source
    cases isFirst.symm.trans isOther
    cases isLast.symm.trans isOtherLast
    rw [min_eq_left ordered, max_eq_right ordered]
    exact within row inRows sourcePts source

theorem StreamCatalog.exists_items (catalog : StreamCatalog segments rowLoader) :
    ∃ items, segments.mapM boundedSegment = some items ∧ RangesAscend items := by
  have apart := (List.pairwise_flatMap.mp catalog.increasing).2
  have frames := catalog.frames
  have sorted := fun segment (member : segment ∈ segments) => catalog.rows_sorted member
  clear catalog
  induction segments with
  | nil => exact ⟨[], rfl, ⟨by simp, List.Pairwise.nil, by simp⟩⟩
  | cons segment others induction =>
    rw [List.pairwise_cons] at apart
    rcases induction apart.2 (fun other member => frames other (List.mem_cons_of_mem _ member))
      (fun other member => sorted other (List.mem_cons_of_mem _ member)) with
      ⟨items, areItems, ascend⟩
    have known := frames segment List.mem_cons_self
    rcases known.exists_range (sorted segment List.mem_cons_self) with
      ⟨first, last, isFirst, isLast, ordered, _⟩
    refine ⟨((first, last), segment) :: items, ?_, ?_, ?_, ?_⟩
    · rw [List.mapM_cons, areItems]
      simp only [boundedSegment, isFirst, isLast, min_eq_left ordered, max_eq_right ordered]
      rfl
    · exact List.forall_mem_cons.mpr ⟨ordered, ascend.within⟩
    · refine List.pairwise_cons.mpr ⟨fun item member => ?_, ascend.apart⟩
      have inOthers : item.2 ∈ others :=
        mapM_boundedSegment areItems ▸ List.mem_map_of_mem member
      rcases known.last with ⟨row, atTail, source, _⟩
      rcases (frames item.2 (List.mem_cons_of_mem _ inOthers)).first with ⟨next, atHead, head, _⟩
      have earlier := apart.1 item.2 inOthers row (List.mem_of_getLast? atTail) next
        (List.mem_of_head? atHead)
      exact earlier.source_lt (source.trans isLast) (head.trans (ascend.read item member).1)
    · exact List.forall_mem_cons.mpr ⟨⟨isFirst, isLast⟩, ascend.read⟩

def WindowRequest.beyond (request : WindowRequest) (segment : RollingSegment) : Bool :=
  beyondGuard request.segments request.requestedStartPts request.requestedEndPts segment

/-- The request on the leaves that are not beyond the guard leaves. -/
def WindowRequest.withinGuard (request : WindowRequest) : WindowRequest :=
  { request with segments := request.segments.filter (!request.beyond ·) }

section

variable {request : WindowRequest} (catalog : StreamCatalog request.segments request.rowLoader)

include request catalog

theorem narrowed_eq :
    request.narrowed = request.withinGuard := by
  rcases catalog.exists_items with ⟨_, bounded, ascend⟩
  rw [WindowRequest.narrowed, WindowRequest.withinGuard, sourceWindowCandidates_eq bounded ascend]
  rfl

theorem StreamCatalog.withinGuard :
    StreamCatalog request.withinGuard.segments request.withinGuard.rowLoader := by
  refine ⟨fun segment member => catalog.frames segment (List.mem_of_mem_filter member), ?_⟩
  rw [List.pairwise_flatMap]
  have parts := List.pairwise_flatMap.mp catalog.increasing
  exact ⟨fun segment member => parts.1 segment (List.mem_of_mem_filter member), parts.2.filter _⟩

theorem StreamCatalog.withinGuard_ne_nil (inhabited : request.segments ≠ []) : request.withinGuard.segments ≠ [] := by
  intro empty
  have allBeyond : ∀ segment ∈ request.segments, beyondGuard request.segments
      request.requestedStartPts request.requestedEndPts segment = true := by
    intro segment member
    have left := List.filter_eq_nil_iff.mp empty segment member
    rwa [Bool.not_eq_true', Bool.not_eq_false] at left
  rcases List.exists_mem_of_ne_nil _ inhabited with ⟨segment, member⟩
  have beyond := allBeyond segment member
  simp only [beyondGuard, Bool.and_eq_true, List.any_eq_true] at beyond
  rcases beyond.1.2 with ⟨near, inNear, overlaps⟩
  have nearBeyond := allBeyond near inNear
  simp only [beyondGuard, Bool.and_eq_true, List.any_eq_true, Bool.or_eq_true] at nearBeyond
  rcases nearBeyond.2 with ⟨other, inOther, outside⟩
  rcases (catalog.frames near inNear).exists_range (catalog.rows_sorted inNear) with
    ⟨_, _, isFirst, isLast, _⟩
  rcases (catalog.frames other inOther).exists_range (catalog.rows_sorted inOther) with
    ⟨_, _, isOtherFirst, isOtherLast, _⟩
  simp only [endsBefore, overlapsWindow, isFirst, isLast, isOtherFirst, isOtherLast,
    Option.any_some, decide_eq_true_eq, Bool.and_eq_true] at outside overlaps
  omega

end

/-! ## The nearest ranges -/

/-- How far the range of a segment is from the event, and its lower bound. -/
def rangeOf (eventSourcePts : Int) (segment : RollingSegment) : Int ×ₗ Int :=
  toLex ((sourceDistance eventSourcePts segment).getD (0, 0))

/-- The segments of a stream in the order of the distance from the event. -/
structure NearestSegments (segments : List RollingSegment) (eventSourcePts : Int)
    (near : List RollingSegment) : Prop where
  perm : near.Perm segments
  ascends : near.Pairwise fun first second =>
    rangeOf eventSourcePts first < rangeOf eventSourcePts second

theorem NearestSegments.unique {eventSourcePts : Int} {near other : List RollingSegment}
    (nearest : NearestSegments segments eventSourcePts near)
    (otherNearest : NearestSegments segments eventSourcePts other) : near = other :=
  (nearest.perm.trans otherNearest.perm.symm).eq_of_pairwise
    (fun _ _ _ _ less greater => absurd less (lt_asymm greater)) nearest.ascends
    otherNearest.ascends

section Nearest

variable (catalog : StreamCatalog segments rowLoader) {first second : RollingSegment}

include catalog

theorem StreamCatalog.separate (isFirst : first ∈ segments) (isSecond : second ∈ segments)
    (different : first ≠ second) :
    (∀ row ∈ rowLoader first, ∀ other ∈ rowLoader second, EarlierFrame row other) ∨
      ∀ row ∈ rowLoader first, ∀ other ∈ rowLoader second, EarlierFrame other row := by
  have apart := List.pairwise_iff_getElem.mp (List.pairwise_flatMap.mp catalog.increasing).2
  rcases List.getElem_of_mem isFirst with ⟨place, inRange, rfl⟩
  rcases List.getElem_of_mem isSecond with ⟨otherPlace, otherInRange, rfl⟩
  rcases lt_trichotomy place otherPlace with before | same | behind
  · exact .inl (apart place otherPlace inRange otherInRange before)
  · subst same
    exact absurd rfl different
  · exact .inr fun row inRows other inOther =>
      apart otherPlace place otherInRange inRange behind other inOther row inRows

theorem StreamCatalog.nodup : segments.Nodup := by
  refine (List.pairwise_flatMap.mp catalog.increasing).2.imp_of_mem ?_
  intro left right inLeft _ apart same
  subst same
  rcases (catalog.frames left inLeft).first with ⟨row, atHead, _, mux⟩
  have inRows := List.mem_of_head? atHead
  exact lt_irrefl _ ((apart row inRows row inRows).2 _ mux _ mux)

theorem StreamCatalog.exists_ends (isFirst : first ∈ segments) :
    ∃ low high, first.sourceFirstPts = some low ∧ first.sourceLastPts = some high ∧ low ≤ high ∧
      ∃ head ∈ rowLoader first, ∃ tail ∈ rowLoader first,
        head.sourceRowPts = some low ∧ tail.sourceRowPts = some high := by
  have frames := catalog.frames first isFirst
  rcases frames.exists_range (catalog.rows_sorted isFirst) with
    ⟨low, high, isLow, isHigh, ordered, _⟩
  rcases frames.first with ⟨head, atHead, headSource, _⟩
  rcases frames.last with ⟨tail, atTail, tailSource, _⟩
  exact ⟨low, high, isLow, isHigh, ordered, head, List.mem_of_head? atHead, tail,
    List.mem_of_getLast? atTail, headSource.trans isLow, tailSource.trans isHigh⟩

/-- The ranges of two segments begin apart, and one of them is without the event. -/
theorem StreamCatalog.keys_apart (eventSourcePts : Int) (isFirst : first ∈ segments)
    (isSecond : second ∈ segments) (different : first ≠ second) :
    ∃ key otherKey, sourceDistance eventSourcePts first = some key ∧
      sourceDistance eventSourcePts second = some otherKey ∧ key.2 ≠ otherKey.2 ∧
        (key.1 ≠ 0 ∨ otherKey.1 ≠ 0) := by
  rcases catalog.exists_ends isFirst with
    ⟨low, high, isLow, isHigh, ordered, head, inHead, tail, inTail, atLow, atHigh⟩
  rcases catalog.exists_ends isSecond with ⟨otherLow, otherHigh, isOtherLow, isOtherHigh,
    otherOrdered, otherHead, inOtherHead, otherTail, inOtherTail, atOtherLow, atOtherHigh⟩
  have apart : high < otherLow ∨ otherHigh < low := by
    rcases catalog.separate isFirst isSecond different with before | behind
    · exact .inl ((before tail inTail otherHead inOtherHead).source_lt atHigh atOtherLow)
    · exact .inr ((behind head inHead otherTail inOtherTail).source_lt atOtherHigh atLow)
  simp only [sourceDistance, isLow, isHigh, isOtherLow, isOtherHigh, min_eq_left ordered,
    max_eq_right ordered, min_eq_left otherOrdered, max_eq_right otherOrdered, distanceNs]
  refine ⟨_, _, rfl, rfl, by dsimp only; omega, ?_⟩
  dsimp only
  split <;> split <;> omega

theorem StreamCatalog.exists_nearest (eventSourcePts : Int) :
    ∃ near, NearestSegments segments eventSourcePts near ∧
      sourceClockCandidateSegments segments eventSourcePts = near.take 3 := by
  have nearest := sortedRanges_nearestFirst segments eventSourcePts
  generalize sortedRanges segments eventSourcePts = order at nearest
  have permuted : (order.map Prod.fst).Perm segments := by
    have perm := nearest.perm.map Prod.fst
    rwa [List.filter_eq_self.mpr, List.zipIdx_map_fst] at perm
    intro item member
    have inList := List.fst_mem_of_mem_zipIdx member
    rcases catalog.exists_ends inList with ⟨_, _, isLow, isHigh, _⟩
    simp only [sourceDistance, isLow, isHigh, Option.isSome_some]
  have distinct := List.pairwise_map.mp (permuted.nodup_iff.mpr catalog.nodup)
  refine ⟨order.map Prod.fst, ⟨permuted, ?_⟩, ?_⟩
  · rw [List.pairwise_map]
    refine (nearest.ascends.and distinct).imp_of_mem ?_
    intro first second isFirst isSecond apart
    rcases catalog.keys_apart eventSourcePts (permuted.subset (List.mem_map_of_mem isFirst))
      (permuted.subset (List.mem_map_of_mem isSecond)) apart.2 with
      ⟨key, otherKey, isKey, isOther, lower, _⟩
    have less := apart.1
    simp only [rangeKey, rangeOf, isKey, isOther, Option.getD_some, Prod.Lex.toLex_lt_toLex]
      at less ⊢
    omega
  · rw [nearest.candidates, reached, List.map_take]
    split
    next empty =>
      rw [empty] at permuted ⊢
      exact permuted.nil_eq.symm
    next => rfl

end Nearest

/-! ## The frame of the event -/

namespace WindowRequest

variable (request : WindowRequest) (eventSourcePts : Int) (row : MetadataRow)

def Names : Prop := request.eventUuid ≠ "" ∧ row.rowUuid = request.eventUuid

instance : Decidable (request.Names row) := inferInstanceAs (Decidable (_ ∧ _))

/-- How far a row is from the event, one with the event's uuid at zero. -/
def eventDistance : Int := (rowDistance eventSourcePts request.eventUuid row).getD 0

/-- In one segment a row with the event's uuid goes before others at distance zero. -/
def rowCost : Int ×ₗ Int :=
  toLex (request.eventDistance eventSourcePts row, if request.Names row then 0 else 1)

theorem eventDistance_nonneg : 0 ≤ request.eventDistance eventSourcePts row := by
  unfold eventDistance rowDistance
  split
  · rw [Option.getD_some]
    split
    · exact le_refl 0
    · exact distanceNs_nonneg _ _
  · exact le_refl 0

variable {row} in
theorem eventDistance_of_names (clocks : row.sourceRowPts.isSome = true ∧
    row.muxRowPts.isSome = true) (named : request.Names row) :
    request.eventDistance eventSourcePts row = 0 := by
  rcases Option.isSome_iff_exists.mp clocks.1 with ⟨_, atSource⟩
  rcases Option.isSome_iff_exists.mp clocks.2 with ⟨_, atMux⟩
  simp only [eventDistance, rowDistance, atSource, atMux, Option.getD_some]
  exact if_pos named

end WindowRequest

/-- Of the rows of the segments, in their order, the first of the closest. -/
structure ClosestRow (request : WindowRequest) (eventSourcePts : Int)
    (segments : List RollingSegment) (segment : RollingSegment) (row : MetadataRow) : Prop where
  first : FirstLeast (request.rowCost eventSourcePts) (request.rowLoader segment) row
  place : ∃ before after, segments = before ++ segment :: after ∧
    (∀ other ∈ before, ∀ farther ∈ request.rowLoader other,
      request.eventDistance eventSourcePts row < request.eventDistance eventSourcePts farther) ∧
    ∀ other ∈ after, ∀ later ∈ request.rowLoader other,
      request.eventDistance eventSourcePts row ≤ request.eventDistance eventSourcePts later

namespace ClosestRow

variable {request : WindowRequest} {eventSourcePts : Int} {segment other : RollingSegment}
  {row otherRow : MetadataRow}

section

variable (closest : ClosestRow request eventSourcePts segments segment row)

include closest

theorem unique (otherClosest : ClosestRow request eventSourcePts segments other otherRow) :
    segment = other ∧ row = otherRow := by
  rcases closest.place with ⟨_, _, split, farther, later⟩
  rcases otherClosest.place with ⟨_, _, otherSplit, otherFarther, otherLater⟩
  rw [split] at otherSplit
  rcases List.append_eq_append_iff.mp otherSplit with
    ⟨between, rfl, rest⟩ | ⟨between, rfl, rest⟩
  all_goals rcases between with _ | ⟨next, between⟩
  · cases rest
    exact ⟨rfl, closest.first.unique otherClosest.first⟩
  · cases rest
    have less := otherFarther segment (by simp) row closest.first.mem
    exact absurd (later other (by simp) otherRow otherClosest.first.mem) less.not_ge
  · cases rest
    exact ⟨rfl, closest.first.unique otherClosest.first⟩
  · cases rest
    have less := farther other (by simp) otherRow otherClosest.first.mem
    exact absurd (otherLater segment (by simp) row closest.first.mem) less.not_ge

theorem mem :
    segment ∈ segments := by
  rcases closest.place with ⟨_, _, rfl, _⟩
  exact List.mem_append_right _ List.mem_cons_self

theorem le (isOther : other ∈ segments) (inRows : otherRow ∈ request.rowLoader other) :
    request.eventDistance eventSourcePts row ≤ request.eventDistance eventSourcePts otherRow := by
  have least := closest.first.least
  rcases closest.place with ⟨_, _, rfl, farther, later⟩
  rcases List.mem_append.mp isOther with inBefore | isRest
  · exact (farther other inBefore otherRow inRows).le
  · rcases List.mem_cons.mp isRest with rfl | inAfter
    · have notBelow := least otherRow inRows
      simp only [WindowRequest.rowCost, Prod.Lex.toLex_le_toLex] at notBelow
      omega
    · exact later other inAfter otherRow inRows

end

theorem filter {keeps : RollingSegment → Bool}
    (closest : ClosestRow request eventSourcePts segments segment row)
    (kept : keeps segment = true) :
    ClosestRow request eventSourcePts (segments.filter keeps) segment row := by
  rcases closest.place with ⟨before, after, rfl, farther, later⟩
  refine ⟨closest.first, before.filter keeps, after.filter keeps, ?_, ?_, ?_⟩
  · rw [List.filter_append, List.filter_cons_of_pos kept]
  · exact fun other member => farther other (List.mem_of_mem_filter member)
  · exact fun other member => later other (List.mem_of_mem_filter member)

theorem append {others : List RollingSegment}
    (closest : ClosestRow request eventSourcePts segments segment row)
    (notNearer : ∀ other ∈ others, ∀ later ∈ request.rowLoader other,
      request.eventDistance eventSourcePts row ≤ request.eventDistance eventSourcePts later) :
    ClosestRow request eventSourcePts (segments ++ others) segment row := by
  rcases closest.place with ⟨before, after, rfl, farther, later⟩
  refine ⟨closest.first, before, after ++ others, by simp, farther, ?_⟩
  intro other member
  rcases List.mem_append.mp member with inAfter | isOther
  · exact later other inAfter
  · exact notNearer other isOther

end ClosestRow

section Scan

variable {request : WindowRequest} {eventSourcePts : Int} {row : MetadataRow}

/-- What the scan sees in a row with both clocks. -/
def WindowRequest.frameOf (request : WindowRequest) (eventSourcePts index : Int)
    (row : MetadataRow) : ScannedFrame :=
  ⟨request.eventDistance eventSourcePts row, 2 * index + if request.Names row then 0 else 1,
    row.muxRowPts.getD 0⟩

theorem rowDistance_eq (clocks : row.sourceRowPts.isSome = true ∧ row.muxRowPts.isSome = true) :
    rowDistance eventSourcePts request.eventUuid row =
      some (request.eventDistance eventSourcePts row) := by
  rcases Option.isSome_iff_exists.mp clocks.1 with ⟨_, atSource⟩
  rcases Option.isSome_iff_exists.mp clocks.2 with ⟨_, atMux⟩
  simp only [WindowRequest.eventDistance, rowDistance, atSource, atMux, Option.getD_some]

theorem scannedFrame_eq (index : Int)
    (clocks : row.sourceRowPts.isSome = true ∧ row.muxRowPts.isSome = true) :
    scannedFrame eventSourcePts request.eventUuid index row =
      some (request.frameOf eventSourcePts index row) := by
  rcases Option.isSome_iff_exists.mp clocks.1 with ⟨_, atSource⟩
  rcases Option.isSome_iff_exists.mp clocks.2 with ⟨_, atMux⟩
  by_cases named : request.eventUuid ≠ "" ∧ row.rowUuid = request.eventUuid
  all_goals simp [scannedFrame, WindowRequest.frameOf, WindowRequest.eventDistance, rowDistance,
    WindowRequest.Names, atSource, atMux, named]

theorem closestRow_of_firstLeast {index : Int} {seen : ScannedFrame}
    (clocks : ∀ segment ∈ segments, ∀ row ∈ request.rowLoader segment,
      row.sourceRowPts.isSome = true ∧ row.muxRowPts.isSome = true)
    (isFirst : FirstLeast ScannedFrame.cost
      (scannedFrames eventSourcePts request.eventUuid request.rowLoader index segments) seen) :
    ∃ segment row, ClosestRow request eventSourcePts segments segment row ∧
      request.eventDistance eventSourcePts row = seen.distance ∧
        row.muxRowPts = some seen.muxPts := by
  induction segments generalizing index with
  | nil => cases isFirst.mem
  | cons segment others induction =>
    rw [List.forall_mem_cons] at clocks
    have scanned : (request.rowLoader segment).filterMap
        (scannedFrame eventSourcePts request.eventUuid index) =
        (request.rowLoader segment).map (request.frameOf eventSourcePts index) := by
      rw [← List.filterMap_eq_map]
      exact List.filterMap_congr fun row inRows => scannedFrame_eq index (clocks.1 row inRows)
    rw [scannedFrames, scanned] at isFirst
    rcases isFirst.of_append with ⟨inFirst, notCloser⟩ | ⟨inRest, farther⟩
    · have sameOrder : ∀ first second, (request.frameOf eventSourcePts index first).cost <
          (request.frameOf eventSourcePts index second).cost ↔
          request.rowCost eventSourcePts first < request.rowCost eventSourcePts second := by
        intro first second
        simp only [ScannedFrame.cost, WindowRequest.frameOf, WindowRequest.rowCost,
          Prod.Lex.toLex_lt_toLex]
        omega
      rcases inFirst.of_map sameOrder with ⟨row, first, rfl⟩
      rcases Option.isSome_iff_exists.mp (clocks.1 row first.mem).2 with ⟨_, atMux⟩
      refine ⟨segment, row, ⟨first, [], others, rfl, by simp, ?_⟩, rfl, ?_⟩
      · intro other inOther later inLater
        rcases exists_frame_iff.mpr ⟨other, inOther, later, inLater,
          rowDistance_eq (clocks.2 other inOther later inLater)⟩ with ⟨frame, inFrames, isFrame⟩
        rw [← isFrame]
        exact ScannedFrame.distance_le (notCloser frame inFrames)
      · rw [WindowRequest.frameOf, atMux]
        rfl
    · rcases induction clocks.2 inRest with ⟨found, row, closest, sameDistance, mux⟩
      refine ⟨found, row, ⟨closest.first, ?_⟩, sameDistance, mux⟩
      rcases closest.place with ⟨before, after, rfl, behind, later⟩
      refine ⟨segment :: before, after, rfl, List.forall_mem_cons.mpr ⟨?_, behind⟩, later⟩
      intro other inRows
      have less := farther _ (List.mem_map_of_mem inRows)
      have tier := (scannedFrames_bounds inRest.mem).2
      rw [← closer, closer_iff] at less
      rw [sameDistance]
      simp only [WindowRequest.frameOf] at less
      split at less
      all_goals omega

end Scan

/-- The window on the mux clock around the frame of the event, and the frame. -/
def WindowRequest.windowAround (request : WindowRequest) (eventSourcePts muxPts : Int) :
    Int × Int × Int :=
  (muxPts - max 0 (eventSourcePts - request.requestedStartPts),
    muxPts + max 0 (request.requestedEndPts - eventSourcePts), muxPts)

section Anchor

variable {request : WindowRequest} {eventSourcePts : Int} {near : List RollingSegment}
  (catalog : StreamCatalog request.segments request.rowLoader)
  (nearest : NearestSegments request.segments eventSourcePts near)

include catalog nearest

/-- The mapping to the mux clock counts from the closest row of the three nearest ranges. -/
theorem StreamCatalog.exists_closest (inhabited : request.segments ≠ [])
    (given : request.labels.eventFramePts.toInt = some eventSourcePts) :
    ∃ segment row muxPts, ClosestRow request eventSourcePts (near.take 3) segment row ∧
      row.muxRowPts = some muxPts ∧
        mapSourceWindowToMux request = some (request.windowAround eventSourcePts muxPts) := by
  rcases catalog.exists_nearest eventSourcePts with ⟨_, otherNearest, candidates⟩
  rw [← nearest.unique otherNearest] at candidates
  have subset : ∀ segment ∈ near.take 3, segment ∈ request.segments := fun segment member =>
    nearest.perm.subset (List.mem_of_mem_take member)
  have clocks := fun segment member => (catalog.frames segment (subset segment member)).clocks
  have present : scannedFrames eventSourcePts request.eventUuid request.rowLoader 0
      (near.take 3) ≠ [] := by
    rcases near with _ | ⟨segment, others⟩
    · exact absurd nearest.perm.nil_eq.symm inhabited
    · have inTaken : segment ∈ (segment :: others).take 3 := List.mem_cons_self
      rcases (catalog.frames segment (subset segment inTaken)).first with ⟨row, atHead, _⟩
      have inRows := List.mem_of_head? atHead
      rcases exists_frame_iff.mpr ⟨segment, inTaken, row, inRows,
        rowDistance_eq (clocks segment inTaken row inRows)⟩ with ⟨frame, inFrames, _⟩
      exact List.ne_nil_of_mem inFrames
  rcases @exists_firstLeast _ _ _ ScannedFrame.cost _ present with ⟨seen, isSeen⟩
  rcases closestRow_of_firstLeast clocks isSeen with ⟨segment, row, closest, _, mux⟩
  refine ⟨segment, row, seen.muxPts, closest, mux, ?_⟩
  rw [mapSourceWindowToMux_eq given, WindowRequest.eventFrame, candidates,
    foldl_eq_some_iff.mpr isSeen]
  rfl

variable {segment other : RollingSegment} {row otherRow : MetadataRow}

/-- No row without the event's uuid is closer, as only one range can hold the event. -/
theorem ClosestRow.le_all (closest : ClosestRow request eventSourcePts (near.take 3) segment row)
    (isOther : other ∈ request.segments) (inRows : otherRow ∈ request.rowLoader other)
    (unnamed : ¬request.Names otherRow) :
    request.eventDistance eventSourcePts row ≤ request.eventDistance eventSourcePts otherRow := by
  have inNear := nearest.perm.symm.subset isOther
  rw [← List.take_append_drop 3 near, List.mem_append] at inNear
  rcases inNear with inTaken | inRest
  · exact closest.le inTaken inRows
  rcases near with _ | ⟨first, _ | ⟨second, rest⟩⟩
  · cases inRest
  · cases inRest
  have inOthers : other ∈ rest := List.mem_of_mem_drop inRest
  have subset := nearest.perm.subset
  have distinct := nearest.perm.nodup_iff.mpr catalog.nodup
  have ascends := nearest.ascends
  rw [List.pairwise_cons, List.pairwise_cons] at ascends
  rw [List.nodup_cons] at distinct
  have isFirst := subset List.mem_cons_self
  have isSecond := subset (List.mem_cons_of_mem _ List.mem_cons_self)
  have different : first ≠ second := fun same => distinct.1 (same ▸ List.mem_cons_self)
  rcases catalog.keys_apart eventSourcePts isFirst isSecond different with
    ⟨_, _, isKey, isSecondKey, _, outside⟩
  have exists_close : ∃ close ∈ (first :: second :: rest).take 3, close ∈ request.segments ∧
      rangeOf eventSourcePts close < rangeOf eventSourcePts other ∧
        ∃ key, sourceDistance eventSourcePts close = some key ∧ key.1 ≠ 0 := by
    rcases outside with atFirst | atSecond
    · exact ⟨first, List.mem_cons_self, isFirst, ascends.1 other (List.mem_cons_of_mem _ inOthers),
        _, isKey, atFirst⟩
    · exact ⟨second, List.mem_cons_of_mem _ List.mem_cons_self, isSecond,
        ascends.2.1 other inOthers, _, isSecondKey, atSecond⟩
  rcases exists_close with ⟨close, inTaken, isClose, less, closeKey, ranged, without⟩
  rcases (catalog.exactBounds isClose).exists_at_distance request.eventUuid ranged without with
    ⟨closeRow, inCloseRows, least, atMost, isLeast⟩
  have isNear : request.eventDistance eventSourcePts closeRow = least := by
    rw [WindowRequest.eventDistance, isLeast, Option.getD_some]
  have asNear := closest.le inTaken inCloseRows
  have clocks := (catalog.frames other isOther).clocks otherRow inRows
  rcases Option.isSome_iff_exists.mp clocks.1 with ⟨sourcePts, source⟩
  rcases Option.isSome_iff_exists.mp clocks.2 with ⟨muxPts, mux⟩
  have isDistance : request.eventDistance eventSourcePts otherRow =
      distanceNs sourcePts eventSourcePts := by
    simp only [WindowRequest.eventDistance, rowDistance, mux, source, Option.getD_some]
    exact if_neg unnamed
  have apart : close ≠ other := fun same => lt_irrefl _ (same ▸ less)
  rcases catalog.keys_apart eventSourcePts isClose isOther apart with
    ⟨_, otherKey, _, otherRanged, _⟩
  have bound := (catalog.exactBounds isOther).distance_le otherRanged inRows source
  simp only [rangeOf, ranged, otherRanged, Option.getD_some, Prod.Lex.toLex_lt_toLex] at less
  omega

end Anchor

/-! ## The frame on the narrowed catalog -/

/-- The row is left where it is the closest: its segment is not beyond the guard leaves, and
unless it is at distance zero, no row with the event's uuid is in a range that is one of the
three nearest only without the segments beyond. -/
structure KeepsFrame (request : WindowRequest) (eventSourcePts : Int)
    (near : List RollingSegment) (segment : RollingSegment) (row : MetadataRow) : Prop where
  within : request.beyond segment = false
  unnamed : request.eventDistance eventSourcePts row ≠ 0 →
    ∀ other ∈ (near.filter (!request.beyond ·)).take 3, other ∉ near.take 3 →
      ∀ otherRow ∈ request.rowLoader other, ¬request.Names otherRow

theorem take_filter (keeps : RollingSegment → Bool) (near : List RollingSegment) :
    (near.filter keeps).take 3 = (near.take 3).filter keeps ++
      ((near.drop 3).filter keeps).take (3 - ((near.take 3).filter keeps).length) := by
  have short : ((near.take 3).filter keeps).length ≤ 3 :=
    (List.length_filter_le _ _).trans (List.length_take_le 3 near)
  conv_lhs => rw [← List.take_append_drop 3 near, List.filter_append, List.take_append]
  rw [List.take_of_length_le short]

section Kept

variable {request : WindowRequest} {eventSourcePts : Int} {near : List RollingSegment}
  {segment keptSegment : RollingSegment} {row keptRow : MetadataRow}
  (catalog : StreamCatalog request.segments request.rowLoader)
  (nearest : NearestSegments request.segments eventSourcePts near)
  (closest : ClosestRow request eventSourcePts (near.take 3) segment row)
  (keptClosest : ClosestRow request eventSourcePts ((near.filter (!request.beyond ·)).take 3)
    keptSegment keptRow)

include catalog in
theorem StreamCatalog.mux_ne {first second : RollingSegment} (isFirst : first ∈ request.segments)
    (isSecond : second ∈ request.segments) (different : first ≠ second)
    {other : MetadataRow} (inRows : row ∈ request.rowLoader first)
    (inOther : other ∈ request.rowLoader second) : row.muxRowPts ≠ other.muxRowPts := by
  intro same
  rcases Option.isSome_iff_exists.mp ((catalog.frames first isFirst).clocks row inRows).2 with
    ⟨mux, atMux⟩
  have otherMux := same.symm.trans atMux
  rcases catalog.separate isFirst isSecond different with before | behind
  · exact lt_irrefl _ ((before row inRows other inOther).2 mux atMux mux otherMux)
  · exact lt_irrefl _ ((behind row inRows other inOther).2 mux otherMux mux atMux)

include catalog nearest closest keptClosest

theorem keepsFrame_iff : keptRow.muxRowPts = row.muxRowPts ↔
    KeepsFrame request eventSourcePts near segment row := by
  have isKept := List.mem_filter.mp (List.mem_of_mem_take keptClosest.mem)
  have inSegments := nearest.perm.subset (List.mem_of_mem_take closest.mem)
  have inKept := nearest.perm.subset isKept.1
  constructor
  · intro same
    have sameSegment : keptSegment = segment := by
      by_contra different
      exact catalog.mux_ne inKept inSegments different keptClosest.first.mem closest.first.mem
        same
    subst sameSegment
    refine ⟨by simpa using isKept.2, ?_⟩
    intro away other isOther _ otherRow inRows named
    have sameRow := keptClosest.first.unique closest.first
    have clocks := (catalog.frames other (nearest.perm.subset
      (List.mem_of_mem_filter (List.mem_of_mem_take isOther)))).clocks otherRow inRows
    have asNear := keptClosest.le isOther inRows
    rw [sameRow, request.eventDistance_of_names eventSourcePts clocks named] at asNear
    have nonneg := request.eventDistance_nonneg eventSourcePts row
    omega
  · intro keeps
    have filtered : ClosestRow request eventSourcePts
        ((near.take 3).filter (!request.beyond ·)) segment row :=
      closest.filter (by simp [keeps.within])
    have stays : ClosestRow request eventSourcePts ((near.filter (!request.beyond ·)).take 3)
        segment row := by
      rw [take_filter]
      apply filtered.append
      intro other isOther later inLater
      have inDrop := List.mem_of_mem_filter (List.mem_of_mem_take isOther)
      have isSegment := nearest.perm.subset (List.mem_of_mem_drop inDrop)
      by_cases named : request.Names later
      · have apart : other ∉ near.take 3 := fun inTaken =>
          List.disjoint_take_drop (nearest.perm.nodup_iff.mpr catalog.nodup) (le_refl 3) inTaken
            inDrop
        have zero : request.eventDistance eventSourcePts row = 0 := by
          by_contra away
          refine keeps.unnamed away other ?_ apart later inLater named
          rw [take_filter]
          exact List.mem_append_right _ isOther
        rw [zero]
        exact request.eventDistance_nonneg eventSourcePts later
      · exact closest.le_all catalog nearest isSegment inLater named
    rw [(stays.unique keptClosest).2]

omit keptClosest in
theorem StreamCatalog.exists_frames (inhabited : request.segments ≠ [])
    (given : request.labels.eventFramePts.toInt = some eventSourcePts) {muxPts : Int}
    (mux : row.muxRowPts = some muxPts) :
    mapSourceWindowToMux request = some (request.windowAround eventSourcePts muxPts) ∧
      ∃ keptMux, mapSourceWindowToMux request.withinGuard =
        some (request.windowAround eventSourcePts keptMux) ∧
          (keptMux = muxPts ↔ KeepsFrame request eventSourcePts near segment row) := by
  rcases catalog.exists_closest nearest inhabited given with ⟨_, _, _, isOther, atOther, mapped⟩
  rcases isOther.unique closest with ⟨_, rfl⟩
  cases atOther.symm.trans mux
  refine ⟨mapped, ?_⟩
  have keptNearest : NearestSegments request.withinGuard.segments eventSourcePts
      (near.filter (!request.beyond ·)) :=
    ⟨nearest.perm.filter _, nearest.ascends.filter _⟩
  rcases catalog.withinGuard.exists_closest keptNearest (catalog.withinGuard_ne_nil inhabited)
    given with ⟨keptSegment, keptRow, keptMux, keptClosest, atKept, keptMapped⟩
  refine ⟨keptMux, keptMapped, ?_⟩
  rw [← keepsFrame_iff catalog nearest closest ⟨keptClosest.first, keptClosest.place⟩, atKept,
    mux, Option.some.injEq]

end Kept

end VideoAnalysis.RollingCache
