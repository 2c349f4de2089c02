import VideoAnalysis.Timeline.ClipTime
import VideoAnalysis.Timeline.Rows

/-! # Canonical clip metadata

Which rows of the sink belong to the clip around an event, and how they are renumbered,
timed and, on request, rebased to the first of them.
-/

namespace VideoAnalysis.Timeline

open Foundation Python

/-! ## The window -/

structure CanonicalWindow where
  available : Bool
  validationErrors : List Text
  preSeconds : Double
  postSeconds : Double
  targetDurationSeconds : Double
  expectedEventSeconds : Double
  startPts : Option Int
  endPts : Option Int
  eventPts : Option Int

/-- `_positive_float` of a float. -/
def positiveFloat (value fallback : Double) : Double :=
  if value.notPositive then fallback else value

def canonicalWindowFromEvent (eventPts : Option Int) (preSeconds postSeconds : Double) :
    Except PyError CanonicalWindow := do
  let pre := positiveFloat preSeconds (.finite false 5)
  let post := positiveFloat postSeconds (.finite false 5)
  let targetDurationSeconds := (Double.add pre post).roundTo 6
  match eventPts with
  | none =>
    return {
      available := false
      validationErrors := [text "missing_event_pts"]
      preSeconds := pre
      postSeconds := post
      targetDurationSeconds
      expectedEventSeconds := pre
      startPts := none
      endPts := none
      eventPts := none }
  | some event =>
    let eventNanos ← Double.ofInt event
    let start ← (Double.sub eventNanos (Double.mul pre nanosPerSecond)).round
    let stop ← (Double.add eventNanos (Double.mul post nanosPerSecond)).round
    return {
      available := true
      validationErrors := []
      preSeconds := pre
      postSeconds := post
      targetDurationSeconds
      expectedEventSeconds := pre
      startPts := some (max 0 start)
      endPts := some stop
      eventPts := some event }

/-- `start <= pts <= end`. -/
def CanonicalWindow.covers (window : CanonicalWindow) (pts : Int) : Bool :=
  match window.startPts, window.endPts with
  | some start, some stop => start ≤ pts && pts ≤ stop
  | _, _ => false

/-! ## The rows -/

def storePresent (row : Row) (key : String) (value : Json) : Row :=
  if (Json.lookup row key).isSome then Json.store row key value else row

def timedRow (index : Nat) (time : Int) (row : Row) : Row :=
  Json.store (Json.store row "frame_num" (.int index)) "clip_t_ms" (.int time)

def movedRow (elapsed : Int) (row : Row) : Row :=
  storePresent (storePresent row "pts" (.int elapsed)) "frame_pts" (.int elapsed)

/-- The number behind `dts`, where there is one. -/
def rowDts (row : Row) : Except PyError (Option Int) := intOrNone (Json.lookup row "dts")

def canonicalRow (rebase : Bool) (origin : Int) (index : Nat) (frame : TimelineRow) :
    Except PyError Row := do
  let elapsed := frame.pts - origin
  let timed := timedRow index (← clipMillis elapsed) frame.row
  if rebase then
    let moved := movedRow elapsed timed
    match ← rowDts moved with
    | some dts => return Json.store moved "dts" (.int (dts - origin))
    | none => return moved
  else return timed

structure ClipFacts where
  sourceFirstPts : Option Int
  sourceLastPts : Option Int
  sourceDurationSeconds : Option Double
  eventProjectedSeconds : Option Double
  eventPtsInsideClip : Bool
  rebasePts : Bool
  eventPositionRatio : Option Double

structure ClipSummary where
  window : CanonicalWindow
  framesSelected : Nat
  facts : Option ClipFacts

def isZero : Double → Bool
  | .finite _ magnitude => magnitude = 0
  | .infinite _ | .nan => false

def clipSummary (window : CanonicalWindow) (eventPts : Int) (rebase : Bool) (count : Nat)
    (ends : Option (Int × Int)) : Except PyError ClipSummary := do
  match ends with
  | none =>
    return {
      window
      framesSelected := count
      facts := some {
        sourceFirstPts := none
        sourceLastPts := none
        sourceDurationSeconds := none
        eventProjectedSeconds := none
        eventPtsInsideClip := false
        rebasePts := rebase
        eventPositionRatio := none } }
  | some (first, last) =>
    let duration ← clipSeconds (last - first)
    let projected ← clipSeconds (eventPts - first)
    return {
      window
      framesSelected := count
      facts := some {
        sourceFirstPts := some first
        sourceLastPts := some last
        sourceDurationSeconds := some duration
        eventProjectedSeconds := some projected
        eventPtsInsideClip := first ≤ eventPts && eventPts ≤ last
        rebasePts := rebase
        eventPositionRatio :=
          if isZero duration then none
          else some ((Double.div projected duration).roundTo 9) } }

def canonicalRows (rebase : Bool) (origin : Int) (frames : List TimelineRow) :
    Except PyError (List Row) :=
  frames.zipIdx.mapM fun (frame, index) => canonicalRow rebase origin index frame

def endsOf (pts : List Int) : Option (Int × Int) :=
  match pts.head?, pts.getLast? with
  | some first, some last => some (first, last)
  | _, _ => none

def canonicalizeSinkMetadata (rows : List Row) (eventPts : Int)
    (preSeconds postSeconds : Double) (rebase : Bool) :
    Except PyError (List Row × ClipSummary) := do
  let window ← canonicalWindowFromEvent (some eventPts) preSeconds postSeconds
  if window.startPts.isNone || window.endPts.isNone then
    return ([], { window, framesSelected := 0, facts := none })
  else
    let frames := sortRows (← readRows window.covers rows)
    let ends := endsOf (frames.map TimelineRow.pts)
    let clip ←
      match ends with
      | some (first, _) => canonicalRows rebase first frames
      | none => pure []
    let summary ← clipSummary window eventPts rebase frames.length ends
    return (clip, summary)

/-! ## What a row becomes -/

variable (row : Row)

theorem lookup_storePresent (key other : String) (value : Json) :
    Json.lookup (storePresent row key value) other =
      if other = key then (Json.lookup row key).map fun _ => value
      else Json.lookup row other := by
  unfold storePresent
  cases present : Json.lookup row key with
  | none =>
    by_cases same : other = key
    · rw [if_pos same, same]
      simp [present]
    · simp [same]
  | some => simp [Json.lookup_store]

theorem lookup_timedRow (index : Nat) (time : Int) (row : Row) (key : String) :
    Json.lookup (timedRow index time row) key =
      if key = "clip_t_ms" then some (.int time)
      else if key = "frame_num" then some (.int index)
      else Json.lookup row key := by
  rw [timedRow, Json.lookup_store, Json.lookup_store]

theorem lookup_movedRow (elapsed : Int) (row : Row) (key : String) :
    Json.lookup (movedRow elapsed row) key =
      if key = "pts" ∨ key = "frame_pts" then (Json.lookup row key).map fun _ => .int elapsed
      else Json.lookup row key := by
  rw [movedRow, lookup_storePresent, lookup_storePresent, lookup_storePresent]
  by_cases isFrame : key = "frame_pts"
  · subst isFrame
    rfl
  · by_cases isPts : key = "pts"
    · subst isPts
      rfl
    · rw [if_neg isFrame, if_neg isPts, if_neg (by simp [isPts, isFrame])]

theorem rowDts_movedRow (elapsed : Int) (index : Nat) (time : Int) (row : Row) :
    rowDts (movedRow elapsed (timedRow index time row)) = rowDts row := by
  rw [rowDts, lookup_movedRow, lookup_timedRow]
  rfl

def rowView (rebase : Bool) (origin : Int) (index : Nat) (frame : TimelineRow) : Row :=
  let elapsed := frame.pts - origin
  let timed := timedRow index (millis elapsed) frame.row
  if rebase then
    match returned (rowDts frame.row) with
    | some dts => Json.store (movedRow elapsed timed) "dts" (.int (dts - origin))
    | none => movedRow elapsed timed
  else timed

/-- What the loop needs of a row. -/
structure Timeable (rebase : Bool) (origin : Int) (frame : TimelineRow) : Prop where
  inRange : Double.InRange (frame.pts - origin)
  dts : rebase = true → Returns (rowDts frame.row)

variable {rebase : Bool} {origin : Int}

theorem canonicalRow_of_timeable {frame : TimelineRow} (timeable : Timeable rebase origin frame)
    (index : Nat) :
    canonicalRow rebase origin index frame = .ok (rowView rebase origin index frame) := by
  simp only [canonicalRow, bind, Except.bind, clipMillis_of_inRange timeable.inRange,
    rowDts_movedRow]
  cases rebase with
  | false => rfl
  | true =>
    rcases timeable.dts rfl with ⟨read, isRead⟩
    simp only [if_true, rowView, isRead, returned]
    cases read <;> rfl

theorem timeable_of_returns {frame : TimelineRow} {index : Nat}
    (returns : Returns (canonicalRow rebase origin index frame)) :
    Timeable rebase origin frame := by
  rcases returns with ⟨_, ran⟩
  rcases ok_of_bind ran with ⟨time, isTime, isRest⟩
  refine ⟨clipMillis_returns_iff.mp ⟨time, isTime⟩, ?_⟩
  rintro rfl
  rw [if_pos rfl] at isRest
  rcases ok_of_bind isRest with ⟨dts, isDts, _⟩
  rw [rowDts_movedRow] at isDts
  exact ⟨dts, isDts⟩

def rowViews (rebase : Bool) (origin : Int) (frames : List TimelineRow) : List Row :=
  frames.zipIdx.map fun (frame, index) => rowView rebase origin index frame

theorem canonicalRows_of_timeable {frames : List TimelineRow}
    (timeable : ∀ frame ∈ frames, Timeable rebase origin frame) :
    canonicalRows rebase origin frames = .ok (rowViews rebase origin frames) := by
  unfold canonicalRows rowViews
  apply mapM_of_eq
  rintro ⟨frame, index⟩ member
  exact canonicalRow_of_timeable (timeable frame (List.fst_mem_of_mem_zipIdx member)) index

theorem canonicalRows_returns_iff {frames : List TimelineRow} :
    Returns (canonicalRows rebase origin frames) ↔
      ∀ frame ∈ frames, Timeable rebase origin frame := by
  constructor
  · intro returns frame member
    rcases List.mem_iff_getElem?.mp member with ⟨index, atIndex⟩
    have indexed : (frame, index) ∈ frames.zipIdx := List.mk_mem_zipIdx_iff_getElem?.mpr atIndex
    unfold canonicalRows at returns
    have each := mapM_returns_iff.mp returns (frame, index) indexed
    exact timeable_of_returns each
  · intro timeable
    exact ⟨_, canonicalRows_of_timeable timeable⟩

variable {window : CanonicalWindow} {eventPts : Int}

theorem clipSummary_returns_iff {count : Nat} {ends : Option (Int × Int)} :
    Returns (clipSummary window eventPts rebase count ends) ↔
      ∀ first last, ends = some (first, last) →
        Double.InRange (last - first) ∧ Double.InRange (eventPts - first) := by
  cases ends with
  | none =>
    constructor
    · intro _ first last isSome
      cases isSome
    · intro _
      exact ⟨_, rfl⟩
  | some ends =>
    rcases ends with ⟨first, last⟩
    constructor
    · rintro ⟨summary, ran⟩ _ _ same
      cases same
      rcases ok_of_bind ran with ⟨duration, isDuration, isRest⟩
      rcases ok_of_bind isRest with ⟨projected, isProjected, _⟩
      exact ⟨clipSeconds_returns_iff.mp ⟨duration, isDuration⟩,
        clipSeconds_returns_iff.mp ⟨projected, isProjected⟩⟩
    · intro inRange
      rcases inRange first last rfl with ⟨duration, projected⟩
      rcases clipSeconds_returns_iff.mpr duration with ⟨_, isSeconds⟩
      rcases clipSeconds_returns_iff.mpr projected with ⟨_, isPosition⟩
      simp only [clipSummary, isSeconds, isPosition]
      exact ⟨_, rfl⟩

/-! ## When metadata can be canonicalised -/

variable {preSeconds postSeconds : Double}

theorem canonicalWindow_spans
    (isWindow : canonicalWindowFromEvent (some eventPts) preSeconds postSeconds = .ok window) :
    (window.startPts.isNone || window.endPts.isNone) = false := by
  rcases ok_of_bind isWindow with ⟨_, _, isStart⟩
  rcases ok_of_bind isStart with ⟨_, _, isStop⟩
  rcases ok_of_bind isStop with ⟨_, _, same⟩
  cases same
  rfl

def clipFrames (window : CanonicalWindow) (rows : List Row) : List TimelineRow :=
  sortRows (viewRows window.covers rows)

/-- All numbers that are read are finite, and all times are in the range of a float. -/
structure Canonicalizable (window : CanonicalWindow) (rows : List Row) (eventPts : Int)
    (rebase : Bool) : Prop where
  readable : ∀ row ∈ rows, Readable window.covers row
  inRange : ∀ origin last,
    endsOf ((clipFrames window rows).map TimelineRow.pts) = some (origin, last) →
      (∀ frame ∈ clipFrames window rows, Timeable rebase origin frame) ∧
        Double.InRange (last - origin) ∧ Double.InRange (eventPts - origin)

def clipOf (rebase : Bool) (frames : List TimelineRow) : List Row :=
  match endsOf (frames.map TimelineRow.pts) with
  | some (origin, _) => rowViews rebase origin frames
  | none => []

theorem canonicalize_of_canonicalizable {rows : List Row}
    {summary : ClipSummary}
    (isWindow : canonicalWindowFromEvent (some eventPts) preSeconds postSeconds = .ok window)
    (canonicalizable : Canonicalizable window rows eventPts rebase)
    (isSummary : clipSummary window eventPts rebase (clipFrames window rows).length
      (endsOf ((clipFrames window rows).map TimelineRow.pts)) = .ok summary) :
    canonicalizeSinkMetadata rows eventPts preSeconds postSeconds rebase =
      .ok (clipOf rebase (clipFrames window rows), summary) := by
  have isRead := readRows_of_readable canonicalizable.readable
  simp only [canonicalizeSinkMetadata, bind, Except.bind, isWindow, isRead,
    canonicalWindow_spans isWindow, Bool.false_eq_true, if_false]
  rw [← clipFrames, clipOf]
  cases isEnds : endsOf ((clipFrames window rows).map TimelineRow.pts) with
  | none =>
    rw [isEnds] at isSummary
    simp only [isSummary]
    rfl
  | some ends =>
    have timeable := (canonicalizable.inRange ends.1 ends.2 isEnds).1
    rw [isEnds] at isSummary
    simp only [canonicalRows_of_timeable timeable, isSummary]
    rfl

theorem canonicalizable_iff {rows : List Row}
    (isWindow : canonicalWindowFromEvent (some eventPts) preSeconds postSeconds = .ok window) :
    Returns (canonicalizeSinkMetadata rows eventPts preSeconds postSeconds rebase) ↔
      Canonicalizable window rows eventPts rebase := by
  constructor
  · rintro ⟨result, ran⟩
    simp only [canonicalizeSinkMetadata, bind, Except.bind, isWindow,
      canonicalWindow_spans isWindow, Bool.false_eq_true, if_false] at ran
    rcases ok_of_bind ran with ⟨frames, areFrames, isClip⟩
    have readable := readRows_returns_iff.mp ⟨frames, areFrames⟩
    have views := readRows_of_readable readable
    rw [areFrames] at views
    cases views
    refine ⟨readable, ?_⟩
    intro origin last ends
    rw [clipFrames] at ends
    rw [ends] at isClip
    rcases ok_of_bind isClip with ⟨clip, areRows, isSummary⟩
    rcases ok_of_bind isSummary with ⟨summary, summarized, _⟩
    have inRange := clipSummary_returns_iff.mp ⟨summary, summarized⟩ origin last rfl
    exact ⟨canonicalRows_returns_iff.mp ⟨clip, areRows⟩, inRange⟩
  · intro canonicalizable
    have summarized : Returns (clipSummary window eventPts rebase (clipFrames window rows).length
        (endsOf ((clipFrames window rows).map TimelineRow.pts))) :=
      clipSummary_returns_iff.mpr fun origin last ends =>
        (canonicalizable.inRange origin last ends).2
    rcases summarized with ⟨_, isSummary⟩
    exact ⟨_, canonicalize_of_canonicalizable isWindow canonicalizable isSummary⟩

end VideoAnalysis.Timeline
