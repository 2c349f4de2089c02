import Mathlib.Data.List.ReduceOption
import VideoAnalysis.Foundation.Fallible
import VideoAnalysis.Foundation.TwoKeys
import VideoAnalysis.Python.Json

/-! # Metadata rows on a timeline

What the helpers of the canonical clip timeline read of a row, and the order in which they
put rows: by frame number and, where that is equal, by PTS.
-/

namespace VideoAnalysis.Timeline

open Foundation Python

/-- A row, as `json` makes it. -/
abbrev Row := List (Text × Json)

/-- `_int_or_none`: an infinite number is not caught. -/
def intOrNone : Option Json → Except PyError (Option Int)
  | none | some .null | some (.str []) | some (.bool _) => .ok none
  | some value =>
    match value.toInt with
    | .ok number => .ok (some number)
    | .error error =>
      if error = .typeError ∨ error.isValueError = true then .ok none else .error error

/-- `_row_pts`. -/
def rowPts (row : Row) : Except PyError (Option Int) := do
  match ← intOrNone (Json.lookup row "pts") with
  | some pts => return some pts
  | none => intOrNone (Json.lookup row "frame_pts")

def rowFrameNum (row : Row) : Except PyError (Option Int) :=
  intOrNone (Json.lookup row "frame_num")

/-- `_row_uuid`. -/
def rowUuid (row : Row) : Option Text :=
  ["frame_uuid", "uuid"].findSome? fun key =>
    match Json.lookup row key with
    | some (.str content) => if content = [] then none else some content
    | _ => none

/-- A row that has a PTS, with what is read of it. -/
structure TimelineRow where
  row : Row
  pts : Int
  frameNum : Option Int

namespace TimelineRow

/-- A row without a frame number stands behind all that have one. -/
def rank (frame : TimelineRow) : WithTop Int :=
  match frame.frameNum with
  | some number => (number : WithTop Int)
  | none => ⊤

end TimelineRow

/-- `frames.sort(key=...)`. -/
def sortRows (frames : List TimelineRow) : List TimelineRow :=
  sortByKeys TimelineRow.rank TimelineRow.pts frames

def readRow (keep : Int → Bool) (row : Row) : Except PyError (Option TimelineRow) := do
  match ← rowPts row with
  | none => return none
  | some pts =>
    if keep pts then
      let frameNum ← rowFrameNum row
      return some { row, pts, frameNum }
    else return none

def readRows (keep : Int → Bool) (rows : List Row) : Except PyError (List TimelineRow) := do
  return (← rows.mapM (readRow keep)).reduceOption

/-! ## Rows that can be read -/

def Readable (keep : Int → Bool) (row : Row) : Prop :=
  ∃ pts, rowPts row = .ok pts ∧ ((∃ kept ∈ pts, keep kept = true) → Returns (rowFrameNum row))

def viewRow (keep : Int → Bool) (row : Row) : Option TimelineRow :=
  (returned (rowPts row)).bind fun pts =>
    if keep pts then some { row, pts, frameNum := returned (rowFrameNum row) } else none

variable {keep : Int → Bool}

theorem readRow_of_readable {row : Row} (readable : Readable keep row) :
    readRow keep row = .ok (viewRow keep row) := by
  rcases readable with ⟨read, isRead, frameNum⟩
  rw [readRow, viewRow, isRead]
  cases read with
  | none => rfl
  | some pts =>
    cases kept : keep pts with
    | false => simp [bind, Except.bind, pure, Except.pure, returned, kept]
    | true =>
      have isNumber := (frameNum ⟨pts, rfl, kept⟩).eq
      rw [isNumber]
      simp [bind, Except.bind, pure, Except.pure, returned, kept]

theorem readable_of_returns {row : Row}
    (returns : Returns (readRow keep row)) : Readable keep row := by
  rcases returns with ⟨view, isView⟩
  rw [readRow] at isView
  rcases ok_of_bind isView with ⟨read, isRead, isRest⟩
  refine ⟨read, isRead, ?_⟩
  rintro ⟨pts, rfl, kept⟩
  simp only [kept, if_true] at isRest
  rcases ok_of_bind isRest with ⟨number, isNumber, _⟩
  exact ⟨number, isNumber⟩

def viewRows (keep : Int → Bool) (rows : List Row) : List TimelineRow :=
  rows.filterMap (viewRow keep)

theorem readRows_of_readable {rows : List Row} (readable : ∀ row ∈ rows, Readable keep row) :
    readRows keep rows = .ok (viewRows keep rows) := by
  rw [readRows, mapM_of_eq fun row member => readRow_of_readable (readable row member)]
  simp only [bind, Except.bind, pure, Except.pure, List.reduceOption, List.filterMap_map]
  rfl

theorem readRows_returns_iff {rows : List Row} :
    Returns (readRows keep rows) ↔ ∀ row ∈ rows, Readable keep row := by
  constructor
  · rintro ⟨frames, ran⟩ row member
    rcases ok_of_bind ran with ⟨views, areViews, _⟩
    exact readable_of_returns (mapM_returns_iff.mp ⟨views, areViews⟩ row member)
  · intro readable
    exact ⟨_, readRows_of_readable readable⟩

end VideoAnalysis.Timeline
