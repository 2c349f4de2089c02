import VideoAnalysis.Foundation.Fallible
import VideoAnalysis.Python.FloatArithmetic
import Mathlib.Data.List.Sort

/-! # The tolerance of the nearest match

Half of the median distance between frames, within fixed bounds.
-/

namespace VideoAnalysis.Timeline

open Foundation Python

def defaultPtsNearestToleranceNs : Int := 50000000

def maxPtsNearestToleranceNs : Int := 120000000

/-- `statistics.median` of whole numbers, as a float. -/
def medianFloat (numbers : List Int) : Except PyError Double :=
  let sorted := numbers.insertionSort (· ≤ ·)
  let middle := sorted.length / 2
  if sorted.length % 2 = 1 then Double.ofInt (sorted.getD middle 0)
  else
    match Double.ofRat ((sorted.getD (middle - 1) 0 + sorted.getD middle 0 : Int) / 2) with
    | .infinite _ => .error .overflowError
    | quotient => .ok quotient

def ptsDeltas (pts : List Int) : List Int :=
  let sorted := pts.dedup.insertionSort (· ≤ ·)
  (List.zipWith (· - ·) sorted.tail sorted).filter (0 < ·)

def inferredTolerance (deltas : List Int) : Except PyError Int :=
  match deltas with
  | [] => return defaultPtsNearestToleranceNs
  | _ :: _ => do
      let inferred ← (Double.div (← medianFloat deltas) (.finite false 2)).round
      return max inferred defaultPtsNearestToleranceNs

/-- `infer_metadata_pts_nearest_tolerance_ns` of rows with these PTS. -/
def inferPtsNearestToleranceNs (pts : List Int) : Except PyError Int := do
  return min (← inferredTolerance (ptsDeltas pts)) maxPtsNearestToleranceNs

end VideoAnalysis.Timeline
