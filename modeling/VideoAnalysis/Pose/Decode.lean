import VideoAnalysis.Foundation.Suppression
import VideoAnalysis.Python.Number
import Mathlib.Data.List.Sort

/-! # Pose detections

The output of the pose network is decoded to detections, and of those that overlap the most
confident one is kept. Numbers are exact. A quotient by zero is no number that is at most the
threshold.
-/

namespace VideoAnalysis.Pose

open VideoAnalysis.Foundation VideoAnalysis.Python

structure PoseDetection where
  bbox : ℚ × ℚ × ℚ × ℚ
  confidence : ℚ
  keypoints : List (ℚ × ℚ × ℚ)
  label : Nat := 0

structure DecoderConfig where
  confidenceThreshold : ℚ := 1 / 4
  nmsThreshold : ℚ := 7 / 10
  nmsTopK : Nat := 300
  forceNms : Bool := false

/-- The output for one image, a row of values for each prediction. -/
structure Tensor where
  channels : Nat
  rows : List (List ℚ)
  shaped : ∀ row ∈ rows, row.length = channels

def column (row : List ℚ) (index : Nat) : ℚ := row.getD index 0

def bboxOf (row : List ℚ) : ℚ × ℚ × ℚ × ℚ :=
  (column row 0, column row 1, column row 2, column row 3)

/-- The keypoints from a column on; `score` reads their third numbers. -/
def keypointsOf (score : ℚ → ℚ) (start : Nat) (row : List ℚ) : List (ℚ × ℚ × ℚ) :=
  (List.range 17).map fun index =>
    (column row (start + 3 * index), column row (start + 3 * index + 1),
      score (column row (start + 3 * index + 2)))

/-! ## Overlap -/

structure Box where
  x1 : ℚ
  y1 : ℚ
  x2 : ℚ
  y2 : ℚ

namespace Box

def ofCentre (bbox : ℚ × ℚ × ℚ × ℚ) : Box :=
  let (cx, cy, width, height) := bbox
  ⟨cx - width / 2, cy - height / 2, cx + width / 2, cy + height / 2⟩

def ofCorners (bbox : ℚ × ℚ × ℚ × ℚ) : Box :=
  let (x1, y1, x2, y2) := bbox
  ⟨x1, y1, x2, y2⟩

def area (box : Box) : ℚ := (box.x2 - box.x1) * (box.y2 - box.y1)

def intersection (first second : Box) : ℚ :=
  max 0 (min first.x2 second.x2 - max first.x1 second.x1) *
    max 0 (min first.y2 second.y2 - max first.y1 second.y1)

def union (first second : Box) : ℚ :=
  first.area + second.area - first.intersection second + 1 / 10000000

/-- The IoU of two boxes is not at most the threshold. -/
def overlaps (threshold : ℚ) (first second : Box) : Bool :=
  !(first.union second ≠ 0 && first.intersection second / first.union second ≤ threshold)

theorem overlaps_comm (threshold : ℚ) (first second : Box) :
    first.overlaps threshold second = second.overlaps threshold first := by
  have sameIntersection : first.intersection second = second.intersection first := by
    rw [intersection, intersection, min_comm first.x2, max_comm first.x1, min_comm first.y2,
      max_comm first.y1]
  have sameUnion : first.union second = second.union first := by
    rw [union, union, sameIntersection, add_comm first.area]
  rw [overlaps, overlaps, sameIntersection, sameUnion]

end Box

/-! ## Suppression -/

/-- `argsort`: the indices in an order of rising scores, ties in some order. -/
structure Argsort where
  order : List ℚ → List Nat
  perm : ∀ scores, (order scores).Perm (List.range scores.length)
  rising : ∀ scores, (order scores).Pairwise fun first second =>
    column scores first ≤ column scores second

variable (argsort : Argsort)

def confidenceAt (dets : List PoseDetection) (index : Nat) : ℚ :=
  column (dets.map PoseDetection.confidence) index

def boxAt (read : ℚ × ℚ × ℚ × ℚ → Box) (dets : List PoseDetection) (index : Nat) : Box :=
  (dets[index]?.map fun det => read det.bbox).getD ⟨0, 0, 0, 0⟩

def ranked (dets : List PoseDetection) (topK : Nat) : List Nat :=
  (argsort.order (dets.map PoseDetection.confidence)).reverse.take topK

/-- Boxes with small last two numbers are taken for centres and sizes. -/
def guessedFormat (dets : List PoseDetection) : ℚ × ℚ × ℚ × ℚ → Box :=
  if ∀ det ∈ dets, det.bbox.2.2.1 ≤ 2 ∧ det.bbox.2.2.2 ≤ 2 then Box.ofCentre else Box.ofCorners

/-- `_nms`. -/
def nms (dets : List PoseDetection) (iouThreshold : ℚ) (topK : Nat) : List Nat :=
  if dets = [] then []
  else
    let read := guessedFormat dets
    suppress
      (fun first second => (boxAt read dets first).overlaps iouThreshold (boxAt read dets second))
      (ranked argsort dets topK)

/-! ## Layouts -/

variable (sigmoid : ℚ → ℚ) (config : DecoderConfig)

variable (tensor : Tensor)

def rawCandidates : List PoseDetection :=
  (tensor.rows.filter fun row => config.confidenceThreshold ≤ sigmoid (column row 4)).map
    fun row => { bbox := bboxOf row, confidence := sigmoid (column row 4),
                 keypoints := keypointsOf sigmoid 5 row }

def decodeRaw56One : Except PyError (List PoseDetection) :=
  if tensor.channels ≠ 56 then .error .valueError
  else
    let candidates := rawCandidates sigmoid config tensor
    let keep := nms argsort candidates config.nmsThreshold config.nmsTopK
    .ok (keep.filterMap fun index => candidates[index]?)

def decodedCandidates : List PoseDetection :=
  (tensor.rows.filter fun row => config.confidenceThreshold ≤ column row 4).map
    fun row => { bbox := bboxOf row, confidence := column row 4,
                 keypoints := keypointsOf id 5 row }

def decodeDecoded56One : Except PyError (List PoseDetection) :=
  if tensor.channels ≠ 56 then .error .valueError
  else
    let candidates := decodedCandidates config tensor
    let keep := nms argsort candidates config.nmsThreshold config.nmsTopK
    .ok (keep.filterMap fun index => candidates[index]?)

/-- Only the class of persons is kept. -/
def postNmsCandidates : List PoseDetection :=
  (tensor.rows.filter fun row =>
    config.confidenceThreshold ≤ column row 4 && column row 5 = 0).map
    fun row => { bbox := bboxOf row, confidence := column row 4,
                 keypoints := keypointsOf sigmoid 6 row }

def decodePostNms57One : Except PyError (List PoseDetection) :=
  if tensor.channels ≠ 57 then .error .valueError
  else
    let candidates := postNmsCandidates sigmoid config tensor
    if config.forceNms then
      let keep := nms argsort candidates config.nmsThreshold config.nmsTopK
      .ok (keep.filterMap fun index => candidates[index]?)
    else .ok candidates

inductive Layout
  | raw56
  | decoded56
  | postNms57

namespace Layout

def channels : Layout → Nat
  | raw56 | decoded56 => 56
  | postNms57 => 57

def denotes : Layout → ℚ × ℚ × ℚ × ℚ → Box
  | raw56 => Box.ofCentre
  | decoded56 | postNms57 => Box.ofCorners

def candidates (layout : Layout) (tensor : Tensor) : List PoseDetection :=
  match layout with
  | raw56 => rawCandidates sigmoid config tensor
  | decoded56 => decodedCandidates config tensor
  | postNms57 => postNmsCandidates sigmoid config tensor

def decodeOne (layout : Layout) (tensor : Tensor) : Except PyError (List PoseDetection) :=
  match layout with
  | raw56 => decodeRaw56One argsort sigmoid config tensor
  | decoded56 => decodeDecoded56One argsort config tensor
  | postNms57 => decodePostNms57One argsort sigmoid config tensor

end Layout

/-! ## A correct set -/

/-- What is kept of the candidates lies apart, and every other one among the most confident
overlaps with a kept one that is at least as confident. -/
structure CorrectSet (read : ℚ × ℚ × ℚ × ℚ → Box) (dets : List PoseDetection)
    (kept : List Nat) : Prop where
  fromRanked : kept.Sublist (ranked argsort dets config.nmsTopK)
  apart : ∀ first ∈ kept, ∀ second ∈ kept, first ≠ second →
    (boxAt read dets first).overlaps config.nmsThreshold (boxAt read dets second) = false
  covered : ∀ index ∈ ranked argsort dets config.nmsTopK, index ∈ kept ∨
    ∃ other ∈ kept,
      (boxAt read dets other).overlaps config.nmsThreshold (boxAt read dets index) = true ∧
        confidenceAt dets index ≤ confidenceAt dets other

/-- Two boxes as they are guessed overlap exactly where the boxes of the layout do. -/
def ReadsAgree (read : ℚ × ℚ × ℚ × ℚ → Box) (dets : List PoseDetection) : Prop :=
  ∀ first ∈ ranked argsort dets config.nmsTopK, ∀ second ∈ ranked argsort dets config.nmsTopK,
    first ≠ second → (boxAt (guessedFormat dets) dets first).overlaps config.nmsThreshold
        (boxAt (guessedFormat dets) dets second) =
      (boxAt read dets first).overlaps config.nmsThreshold (boxAt read dets second)

variable {argsort sigmoid config} {dets : List PoseDetection}

theorem ranked_falling (dets : List PoseDetection) (topK : Nat) :
    (ranked argsort dets topK).Pairwise fun first second =>
      confidenceAt dets second ≤ confidenceAt dets first := by
  have falling := List.pairwise_reverse.mpr (argsort.rising (dets.map PoseDetection.confidence))
  exact falling.sublist (List.take_sublist _ _)

theorem ranked_nodup (dets : List PoseDetection) (topK : Nat) :
    (ranked argsort dets topK).Nodup := by
  have each := (argsort.perm (dets.map PoseDetection.confidence)).nodup_iff.mpr List.nodup_range
  exact (List.nodup_reverse.mpr each).sublist (List.take_sublist _ _)

theorem nms_eq (dets : List PoseDetection) (iouThreshold : ℚ) (topK : Nat) :
    nms argsort dets iouThreshold topK =
      suppress (fun first second => (boxAt (guessedFormat dets) dets first).overlaps iouThreshold
        (boxAt (guessedFormat dets) dets second)) (ranked argsort dets topK) := by
  rw [nms]
  split
  next empty =>
    have noOrder : ranked argsort dets topK = [] := by
      have perm := argsort.perm (dets.map PoseDetection.confidence)
      rw [empty] at perm
      rw [ranked, empty, List.perm_nil.mp perm]
      exact List.take_nil
    rw [noOrder, suppress]
  next => rfl

theorem suppress_correctSet (read : ℚ × ℚ × ℚ × ℚ → Box) (dets : List PoseDetection) :
    CorrectSet argsort config read dets
      (suppress (fun first second => (boxAt read dets first).overlaps config.nmsThreshold
        (boxAt read dets second)) (ranked argsort dets config.nmsTopK)) := by
  refine ⟨suppress_sublist _, ?_, fun index member => ?_⟩
  · have symmetric : Std.Symm fun first second => (boxAt read dets first).overlaps
        config.nmsThreshold (boxAt read dets second) = false :=
      ⟨fun first second apart => (Box.overlaps_comm _ _ _).trans apart⟩
    exact (suppress_apart _).forall
  · exact suppress_covers (ranked_falling dets config.nmsTopK) member

variable {read : ℚ × ℚ × ℚ × ℚ → Box}

/-- Where the guess reads the boxes as the layout does, or no pair tells the difference, what is
kept is right. -/
theorem nms_correctSet (agree : ReadsAgree argsort config read dets) :
    CorrectSet argsort config read dets
      (nms argsort dets config.nmsThreshold config.nmsTopK) := by
  rw [nms_eq, suppress_congr (ranked_nodup _ _) agree]
  exact suppress_correctSet read dets

theorem CorrectSet.eq_suppress {kept : List Nat}
    (correct : CorrectSet argsort config read dets kept)
    (distinct : (ranked argsort dets config.nmsTopK).Pairwise fun first second =>
      confidenceAt dets second < confidenceAt dets first) :
    kept = suppress (fun first second => (boxAt read dets first).overlaps config.nmsThreshold
      (boxAt read dets second)) (ranked argsort dets config.nmsTopK) := by
  refine Foundation.eq_suppress distinct (fun _ _ less => less.asymm) correct.fromRanked ?_ ?_
  · have keptNodup := (ranked_nodup dets config.nmsTopK).sublist correct.fromRanked
    refine keptNodup.imp_of_mem ?_
    intro first second isFirst isSecond different
    exact correct.apart first isFirst second isSecond different
  · intro index member
    rcases correct.covered index member with isKept | ⟨other, isKept, near, atLeast⟩
    · exact .inl isKept
    · by_cases same : other = index
      · exact .inl (same ▸ isKept)
      · refine .inr ⟨other, isKept, near, lt_of_le_of_ne atLeast fun equal => ?_⟩
        have symmetric : Std.Symm fun first second =>
            confidenceAt dets first ≠ confidenceAt dets second :=
          ⟨fun _ _ unequal => unequal.symm⟩
        have unequal := (distinct.imp fun less => less.ne').forall
        exact unequal member (correct.fromRanked.subset isKept) (Ne.symm same) equal

/-- Where no two confidences are equal, one set of indices is correct, the one that suppression
over the boxes so read keeps; over the boxes as they are guessed this is what `_nms` keeps. -/
theorem correctSet_iff_suppress {read : ℚ × ℚ × ℚ × ℚ → Box} {kept : List Nat}
    (distinct : (ranked argsort dets config.nmsTopK).Pairwise fun first second =>
      confidenceAt dets second < confidenceAt dets first) :
    (CorrectSet argsort config read dets kept ↔
      kept = suppress (fun first second => (boxAt read dets first).overlaps config.nmsThreshold
        (boxAt read dets second)) (ranked argsort dets config.nmsTopK)) ∧
    (CorrectSet argsort config (guessedFormat dets) dets kept ↔
      kept = nms argsort dets config.nmsThreshold config.nmsTopK) := by
  have unique (reading : ℚ × ℚ × ℚ × ℚ → Box) :
      CorrectSet argsort config reading dets kept ↔
        kept = suppress (fun first second => (boxAt reading dets first).overlaps
          config.nmsThreshold (boxAt reading dets second))
          (ranked argsort dets config.nmsTopK) := by
    constructor
    · exact fun correct => correct.eq_suppress distinct
    · intro isSuppressed
      rw [isSuppressed]
      exact suppress_correctSet reading dets
  rw [nms_eq]
  exact ⟨unique read, unique (guessedFormat dets)⟩

def Layout.Scaled : Layout → List PoseDetection → Prop
  | .raw56, dets => ∀ det ∈ dets, det.bbox.2.2.1 ≤ 2 ∧ det.bbox.2.2.2 ≤ 2
  | .decoded56, dets | .postNms57, dets =>
    ∃ det ∈ dets, 2 < det.bbox.2.2.1 ∨ 2 < det.bbox.2.2.2

theorem Layout.guess_eq {layout : Layout} (scaled : layout.Scaled dets) :
    guessedFormat dets = layout.denotes := by
  have corners (large : ∃ det ∈ dets, 2 < det.bbox.2.2.1 ∨ 2 < det.bbox.2.2.2) :
      guessedFormat dets = Box.ofCorners := by
    rcases large with ⟨det, member, isLarge⟩
    refine if_neg fun small => ?_
    have bounds := small det member
    rcases isLarge with wide | high
    · exact absurd bounds.1 (not_le.mpr wide)
    · exact absurd bounds.2 (not_le.mpr high)
  cases layout with
  | raw56 => exact if_pos scaled
  | decoded56 | postNms57 => exact corners scaled

theorem readsAgree_of_guess (right : guessedFormat dets = read) :
    ReadsAgree argsort config read dets := by
  intro first _ second _ _
  rw [right]

/-- The detections of an image are a correct set of its candidates. -/
theorem decodeOne_correctSet {layout : Layout} {tensor : Tensor}
    (fits : tensor.channels = layout.channels)
    (forced : layout = .postNms57 → config.forceNms = true)
    (agree : ReadsAgree argsort config layout.denotes (layout.candidates sigmoid config tensor)) :
    ∃ kept, layout.decodeOne argsort sigmoid config tensor =
        .ok (kept.filterMap fun index => (layout.candidates sigmoid config tensor)[index]?) ∧
      CorrectSet argsort config layout.denotes (layout.candidates sigmoid config tensor) kept := by
  refine ⟨_, ?_, nms_correctSet agree⟩
  cases layout with
  | raw56 =>
    have isWidth : tensor.channels = 56 := fits
    rw [Layout.decodeOne, decodeRaw56One, if_neg (not_not.mpr isWidth)]
    rfl
  | decoded56 =>
    have isWidth : tensor.channels = 56 := fits
    rw [Layout.decodeOne, decodeDecoded56One, if_neg (not_not.mpr isWidth)]
    rfl
  | postNms57 =>
    have isWidth : tensor.channels = 57 := fits
    rw [Layout.decodeOne, decodePostNms57One, if_neg (not_not.mpr isWidth)]
    dsimp only
    rw [if_pos (forced rfl)]
    rfl

/-! ## Two candidates -/

def insertionArgsort : Argsort where
  order := fun scores => (List.range scores.length).insertionSort
    fun first second => column scores first ≤ column scores second
  perm := fun scores => List.perm_insertionSort _ _
  rising := by
    intro scores
    let byScore : Nat → Nat → Prop := fun first second => column scores first ≤ column scores second
    have total : Std.Total byScore := ⟨fun _ _ => le_total _ _⟩
    have transitive : IsTrans Nat byScore := ⟨fun _ _ _ le le' => le_trans le le'⟩
    exact List.pairwise_insertionSort byScore _

/-- A row of a box and a confidence, with no keypoint. -/
def rowOf (first second third fourth confidence : ℚ) : List ℚ :=
  [first, second, third, fourth, confidence] ++ List.replicate 51 0

def twoRows (first second third fourth : ℚ) : Tensor where
  channels := 56
  rows := [rowOf first second third fourth (9 / 10), rowOf first second third fourth (8 / 10)]
  shaped := by
    intro row member
    rcases List.mem_cons.mp member with rfl | inRest
    · rfl
    · rw [List.mem_singleton.mp inRest]
      rfl

theorem decodeOne_correctSet_corners :
    ∃ kept, Layout.decoded56.decodeOne insertionArgsort id {} (twoRows 10 10 110 210) =
        .ok (kept.filterMap fun index =>
          (Layout.decoded56.candidates id {} (twoRows 10 10 110 210))[index]?) ∧
      CorrectSet insertionArgsort {} Layout.decoded56.denotes
        (Layout.decoded56.candidates id {} (twoRows 10 10 110 210)) kept := by
  refine decodeOne_correctSet rfl (fun same => by cases same) (readsAgree_of_guess ?_)
  apply Layout.guess_eq
  rw [Layout.Scaled]
  decide +kernel

theorem twoRows_one_correctSet :
    let dets := Layout.decoded56.candidates id {} (twoRows 10 10 110 210)
    (CorrectSet insertionArgsort {} Layout.raw56.denotes dets [0] ↔
      [0] = suppress (fun first second => (boxAt Layout.raw56.denotes dets first).overlaps (7 / 10)
        (boxAt Layout.raw56.denotes dets second)) (ranked insertionArgsort dets 300)) ∧
    (CorrectSet insertionArgsort {} (guessedFormat dets) dets [0] ↔
      [0] = nms insertionArgsort dets (7 / 10) 300) :=
  correctSet_iff_suppress (by decide +kernel)

/-- The same centre and size in pixels twice: read as corners the boxes do not meet. -/
theorem overlapping_kept :
    ¬ ∀ tensor : Tensor, tensor.channels = 56 → ∃ kept,
      Layout.raw56.decodeOne insertionArgsort id {} tensor =
        .ok (kept.filterMap fun index => (Layout.raw56.candidates id {} tensor)[index]?) ∧
      CorrectSet insertionArgsort {} Layout.raw56.denotes
        (Layout.raw56.candidates id {} tensor) kept := by
  intro always
  rcases always (twoRows 320 320 100 100) rfl with ⟨kept, isDecoded, correct⟩
  let dets := Layout.raw56.candidates id {} (twoRows 320 320 100 100)
  have isRanked : ranked insertionArgsort dets 300 = [0, 1] := by decide +kernel
  have isNear : apartFrom (fun first second => (boxAt (guessedFormat dets) dets first).overlaps
      (7 / 10) (boxAt (guessedFormat dets) dets second)) 0 [1] = [1] := by decide +kernel
  have isNone : apartFrom (fun first second => (boxAt (guessedFormat dets) dets first).overlaps
      (7 / 10) (boxAt (guessedFormat dets) dets second)) 1 [] = [] := rfl
  have isKept : nms insertionArgsort dets (7 / 10) 300 = [0, 1] := by
    rw [nms_eq, isRanked, suppress, isNear, suppress, isNone, suppress]
  have returned : Layout.raw56.decodeOne insertionArgsort id {} (twoRows 320 320 100 100) =
      .ok ((nms insertionArgsort dets (7 / 10) 300).filterMap fun index => dets[index]?) := rfl
  rw [returned, isKept, Except.ok.injEq] at isDecoded
  have two : 2 ≤ kept.length := by
    have both : ([0, 1].filterMap fun index => dets[index]?).length = 2 := by decide +kernel
    rw [← both, isDecoded]
    exact List.length_filterMap_le _ _
  have fromRanked : kept.Sublist [0, 1] := isRanked ▸ correct.fromRanked
  have all := fromRanked.eq_of_length_le two
  have overlap := correct.apart 0 (by rw [all]; decide) 1 (by rw [all]; decide) (by decide)
  revert overlap
  decide +kernel

end VideoAnalysis.Pose
