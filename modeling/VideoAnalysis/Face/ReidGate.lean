import VideoAnalysis.Face.IdentityRefresh
import VideoAnalysis.Python.FloatArithmetic

/-! # The ReID quality gate

A face is good enough for recognition when it belongs to a tracked person and the detector is
sure enough of it. The rules before the embedding are checked twice, before and after it is made.
-/

namespace VideoAnalysis.Face

open VideoAnalysis.Behavior VideoAnalysis.Foundation VideoAnalysis.Python

/-! ## Time -/

def normalizePtsToMs (pts : Int) : Nat :=
  if pts = 0 then 0
  else if pts < 0 then 0
  else if pts < 10000000 then pts.toNat
  else if 1000000000 ≤ pts then pts.toNat / 1000000
  else pts.toNat / 1000

/-- The time of a frame; without a PTS frames are counted. -/
def frameTimeMs (frameCount : Nat) (pts : Int) : Nat :=
  if pts = 0 then frameCount else normalizePtsToMs pts

theorem normalizePtsToMs_eq {pts : Int} (nanoseconds : 1000000000 ≤ pts) :
    normalizePtsToMs pts = pts.toNat / 1000000 := by
  rw [normalizePtsToMs, if_neg (by omega), if_neg (by omega), if_neg (by omega),
    if_pos nanoseconds]

/-! ## Faces -/

structure FaceObject where
  personTrackId : Int
  confidence : Double
  width : Double
  height : Double
  landmarks : Option (List Double)
  /-- `assess_face_clarity`. -/
  clear : Bool
  feature : Option (List Double) := none
  embeddingNorm : Double := .finite false 0

structure Frame where
  sourceId : String
  pts : Int
  faces : List FaceObject

/-- A frame without a source is from an unknown one. -/
def Frame.source (frame : Frame) : String := if frame.sourceId = "" then "?" else frame.sourceId

structure ReIDGateConfig where
  minConfidence : Double
  minFaceSize : Double
  normTolerance : Double

inductive SkipReason
  | noTrackId
  | lowConfidence
  | faceTooSmall
  | noLandmarks
  | badLandmarks
  | noFeature
  | wrongFeatureDim (dim : Nat)
  | badNorm (norm : Double)
  | nanFeature
  | throttled

/-- Why a face is no candidate; `none` when it is one. -/
def evaluateReidCandidate (config : ReIDGateConfig) (face : FaceObject) : Option SkipReason :=
  if face.personTrackId ≤ 0 then some .noTrackId
  else if face.confidence.lessThan config.minConfidence then some .lowConfidence
  else if face.width.lessThan config.minFaceSize || face.height.lessThan config.minFaceSize then
    some .faceTooSmall
  else match face.landmarks with
    | none => some .noLandmarks
    | some landmarks =>
      if landmarks.length ∈ [5, 10, 15] then none else some .badLandmarks

/-- Why a face with its embedding does not pass. -/
def evaluateReidGate (config : ReIDGateConfig) (face : FaceObject) : Option SkipReason :=
  match evaluateReidCandidate config face with
  | some reason => some reason
  | none =>
    match face.feature with
    | none | some [] => some .noFeature
    | some feature =>
      let one := Double.ofRat 1
      if feature.length ≠ 512 then some (.wrongFeatureDim feature.length)
      else if face.embeddingNorm.lessThan (one.sub config.normTolerance) ||
          (one.add config.normTolerance).lessThan face.embeddingNorm then
        some (.badNorm face.embeddingNorm)
      else if feature.any (· == .nan) then some .nanFeature
      else none

variable {config : ReIDGateConfig} {face : FaceObject}

theorem tracked_of_candidate (candidate : evaluateReidCandidate config face = none) :
    0 < face.personTrackId := by
  by_contra untracked
  rw [evaluateReidCandidate, if_pos (not_lt.mp untracked)] at candidate
  exact absurd candidate (Option.some_ne_none _)

theorem candidate_of_gate (passes : evaluateReidGate config face = none) :
    evaluateReidCandidate config face = none := by
  cases candidate : evaluateReidCandidate config face with
  | none => rfl
  | some reason =>
    rw [evaluateReidGate, candidate] at passes
    exact absurd passes (Option.some_ne_none _)

theorem hasFeature_of_gate (passes : evaluateReidGate config face = none) :
    face.feature.getD [] ≠ [] := by
  have candidate := candidate_of_gate passes
  rw [evaluateReidGate, candidate] at passes
  dsimp only at passes
  split at passes
  · exact absurd passes (Option.some_ne_none _)
  · exact absurd passes (Option.some_ne_none _)
  · next feature notEmpty known =>
      rw [known]
      exact fun empty => notEmpty empty

end VideoAnalysis.Face
