import VideoAnalysis.Foundation.GreedyMatching
import VideoAnalysis.Python.FloatArithmetic

/-! # Faces and persons

The faces of a frame are given to its tracked persons by where they lie: each pair is scored, and
the best pairs are taken first. What was found for a face is attached to a face object by its
place among the frame's face objects.
-/

namespace VideoAnalysis.Face

open VideoAnalysis.Foundation VideoAnalysis.Python

/-! ## Boxes -/

/-- A box by its centre and its size. -/
structure BBox where
  xc : Double
  yc : Double
  width : Double
  height : Double
deriving DecidableEq

def zero : Double := .finite false 0

/-- `max(first, second)`: the first one unless the second is larger. -/
def pyMax (first second : Double) : Double := if first.lessThan second then second else first

def pyMin (first second : Double) : Double := if second.lessThan first then second else first

def atMost (first second : Double) : Bool :=
  match first, second with
  | .nan, _ | _, .nan => false
  | first, second => !second.lessThan first

namespace BBox

def left (box : BBox) : Double := box.xc.sub (box.width.div (.ofRat 2))

def top (box : BBox) : Double := box.yc.sub (box.height.div (.ofRat 2))

def right (box : BBox) : Double := box.xc.add (box.width.div (.ofRat 2))

def bottom (box : BBox) : Double := box.yc.add (box.height.div (.ofRat 2))

def area (box : BBox) : Double := (pyMax box.width zero).mul (pyMax box.height zero)

def containsPoint (box : BBox) (x y : Double) : Bool :=
  atMost box.left x && atMost x box.right && (atMost box.top y && atMost y box.bottom)

end BBox

structure FaceInput where
  bbox : BBox
  confidence : Double
  index : Nat

structure PersonInput where
  bbox : BBox
  trackId : Int
  hasTrackId : Bool
  confidence : Double
  index : Nat

structure AssociationConfig where
  centerInsideRequired : Bool := true
  upperBodyWeight : Double := .ofRat (3 / 10)
  containmentWeight : Double := .ofRat (3 / 10)
  sizeRatioWeight : Double := .ofRat (2 / 10)
  baseScore : Double := .ofRat (2 / 10)
  minScore : Double := zero
  requireTrackId : Bool := true

/-! ## Scores -/

def pointInUpperBody (faceCy : Double) (person : BBox) : Double :=
  if person.height.notPositive then zero
  else
    let relative := (faceCy.sub person.top).div person.height
    pyMax zero ((Double.ofRat 1).sub relative)

def containmentScore (face person : BBox) : Double :=
  if face.area.notPositive then zero
  else
    let ix := pyMax zero ((pyMin face.right person.right).sub (pyMax face.left person.left))
    let iy := pyMax zero ((pyMin face.bottom person.bottom).sub (pyMax face.top person.top))
    (ix.mul iy).div face.area

def sizeRatioScore (face person : BBox) : Double :=
  if person.area.notPositive || face.area.notPositive then zero
  else
    let ratio := face.area.div person.area
    if ratio.lessThan (.ofRat (5 / 1000)) || (Double.ofRat (8 / 10)).lessThan ratio then zero
    else if ratio.lessThan (.ofRat (2 / 100)) then
      (ratio.sub (.ofRat (5 / 1000))).div (.ofRat (15 / 1000))
    else if (Double.ofRat (3 / 10)).lessThan ratio then
      pyMax zero (((Double.ofRat (8 / 10)).sub ratio).div (.ofRat (5 / 10)))
    else .ofRat 1

def pairScore (config : AssociationConfig) (face : FaceInput) (person : PersonInput) : Double :=
  let upper := pointInUpperBody face.bbox.yc person.bbox
  let contain := containmentScore face.bbox person.bbox
  let size := sizeRatioScore face.bbox person.bbox
  pyMin (((config.baseScore.add (config.upperBodyWeight.mul upper)).add
    (config.containmentWeight.mul contain)).add (config.sizeRatioWeight.mul size)) (.ofRat 1)

inductive AssociationMethod
  | centerInsideUpperBody
  | centerInside
deriving DecidableEq

structure Candidate where
  score : Double
  face : FaceInput
  person : PersonInput
  method : AssociationMethod

/-- The checks of a pair: its track, the face's centre and its score. -/
def Passes (config : AssociationConfig) (face : FaceInput) (person : PersonInput) : Prop :=
  (config.requireTrackId = true → person.hasTrackId = true) ∧
    (config.centerInsideRequired = true →
      person.bbox.containsPoint face.bbox.xc face.bbox.yc = true) ∧
    config.minScore.lessThan (pairScore config face person) = true

instance (config : AssociationConfig) (face : FaceInput) (person : PersonInput) :
    Decidable (Passes config face person) := by
  unfold Passes
  infer_instance

def candidateOf (config : AssociationConfig) (face : FaceInput) (person : PersonInput) :
    Candidate where
  score := pairScore config face person
  face := face
  person := person
  method :=
    if (Double.ofRat (5 / 10)).lessThan (pointInUpperBody face.bbox.yc person.bbox) then
      .centerInsideUpperBody
    else .centerInside

def candidates (config : AssociationConfig) (faces : List FaceInput)
    (persons : List PersonInput) : List Candidate :=
  faces.flatMap fun face =>
    (persons.filter fun person => Passes config face person).map (candidateOf config face)

structure FacePersonAssociation where
  faceIndex : Nat
  personIndex : Nat
  personTrackId : Int
  score : Double
  method : AssociationMethod
  personBbox : BBox
deriving DecidableEq

def Candidate.association (candidate : Candidate) : FacePersonAssociation where
  faceIndex := candidate.face.index
  personIndex := candidate.person.index
  personTrackId := candidate.person.trackId
  score := candidate.score.roundTo 4
  method := candidate.method
  personBbox := candidate.person.bbox

/-- The pairs that `associate_faces_to_persons` takes, with their scores as they are; the sort
keeps the order of pairs with equal scores. -/
def chosenPairs (config : AssociationConfig) (faces : List FaceInput)
    (persons : List PersonInput) : List Candidate :=
  let sorted := (candidates config faces persons).insertionSort
    fun first second => first.score.lessThan second.score = false
  greedyMatch (fun candidate => candidate.face.index) (fun candidate => candidate.person.index)
    [] [] sorted

def associateFacesToPersons (config : AssociationConfig) (faces : List FaceInput)
    (persons : List PersonInput) : List FacePersonAssociation :=
  (chosenPairs config faces persons).map Candidate.association

/-! ## Frames -/

structure FrameObject where
  label : String
  elementName : String := ""
  bbox : Option BBox
  trackId : Option Int := none
  objectId : Option Int := none
  confidence : Double := zero

def personOf (object : FrameObject) (index : Nat) : Option PersonInput :=
  if object.label ≠ "person" ∧ object.elementName ≠ "yolo26_pose" then none
  else object.bbox.map fun bbox =>
    let trackId := (object.trackId.or object.objectId).getD 0
    { bbox := bbox
      trackId := if 0 < trackId then trackId else 0
      hasTrackId := 0 < trackId
      confidence := object.confidence
      index := index }

def extractPersons (objects : List FrameObject) : List PersonInput :=
  objects.zipIdx.filterMap fun entry => personOf entry.1 entry.2

/-- The face objects of a frame, each with its position. -/
def faceObjects (objects : List FrameObject) : List (FrameObject × Nat) :=
  objects.zipIdx.filter fun entry => entry.1.label = "face"

def extractFaces (objects : List FrameObject) : List FaceInput :=
  ((faceObjects objects).filterMap fun entry =>
    entry.1.bbox.map fun bbox => (bbox, entry.1.confidence)).mapIdx
      fun index face => ⟨face.1, face.2, index⟩

structure Attachment where
  position : Nat
  association : FacePersonAssociation
  trackIdPropagated : Bool

def associations (objects : List FrameObject) : List FacePersonAssociation :=
  associateFacesToPersons {} (extractFaces objects) (extractPersons objects)

/-- `process_frame`: what is attached to which object. -/
def attachments (propagateTrackId : Bool) (objects : List FrameObject) : List Attachment :=
  (associations objects).filterMap fun association =>
    (faceObjects objects)[association.faceIndex]?.map fun entry =>
      ⟨entry.2, association, propagateTrackId && 0 < association.personTrackId⟩

/-- The position of the face that was extracted at an index: the face objects with a box, counted
as they come. -/
def facePosition (objects : List FrameObject) (index : Nat) : Option Nat :=
  ((faceObjects objects).filter fun entry => entry.1.bbox.isSome)[index]?.map Prod.snd

/-- The association of a frame is a stable matching, attached to the right face objects. -/
structure Associates (propagateTrackId : Bool) (objects : List FrameObject) : Prop where
  facesOnce : ((associations objects).map FacePersonAssociation.faceIndex).Nodup
  personsOnce : ((associations objects).map FacePersonAssociation.personIndex).Nodup
  checked : ∀ pair ∈ chosenPairs {} (extractFaces objects) (extractPersons objects),
    pair.face ∈ extractFaces objects ∧ pair.person ∈ extractPersons objects ∧
      Passes {} pair.face pair.person ∧ pair.score = pairScore {} pair.face pair.person
  stable : ∀ face ∈ extractFaces objects, ∀ person ∈ extractPersons objects,
    Passes {} face person →
      ∃ pair ∈ chosenPairs {} (extractFaces objects) (extractPersons objects),
        (pair.face = face ∨ pair.person = person) ∧
          pair.score.lessThan (pairScore {} face person) = false
  attached : (attachments propagateTrackId objects).map
      (fun attachment => (some attachment.position, attachment.association)) =
    (associations objects).map
      fun association => (facePosition objects association.faceIndex, association)

/-! ## Scores are numbers -/

def value : Double → ℚ
  | .finite negative magnitude => Double.signed negative magnitude
  | .infinite _ | .nan => 0

theorem not_lessThan_iff {first second : Double} (firstFinite : first.isFinite = true)
    (secondFinite : second.isFinite = true) :
    first.lessThan second = false ↔ value second ≤ value first := by
  cases first with
  | finite =>
    cases second with
    | finite =>
      simp only [Double.lessThan, value, decide_eq_false_iff_not, not_lt]
    | infinite | nan => exact Bool.noConfusion secondFinite
  | infinite | nan => exact Bool.noConfusion firstFinite

theorem isFinite_pyMin {low score : Double}
    (above : low.lessThan (pyMin score (.ofRat 1)) = true) :
    (pyMin score (.ofRat 1)).isFinite = true := by
  have one : Double.ofRat 1 = .finite false 1 := by decide +kernel
  rw [one, pyMin] at above ⊢
  cases score with
  | finite =>
    split
    all_goals rfl
  | infinite negative =>
    cases negative with
    | true =>
      cases low with
      | finite => exact Bool.noConfusion above
      | infinite negative =>
        cases negative with
        | true | false => exact Bool.noConfusion above
      | nan => exact Bool.noConfusion above
    | false => rfl
  | nan =>
    cases low with
    | finite | infinite | nan => exact Bool.noConfusion above

variable {config : AssociationConfig} {faces : List FaceInput} {persons : List PersonInput}

theorem mem_candidates {candidate : Candidate} :
    candidate ∈ candidates config faces persons ↔
      ∃ face ∈ faces, ∃ person ∈ persons, Passes config face person ∧
        candidateOf config face person = candidate := by
  simp only [candidates, List.mem_flatMap, List.mem_map, List.mem_filter, decide_eq_true_eq,
    and_assoc]

theorem falling_candidates (config : AssociationConfig) (faces : List FaceInput)
    (persons : List PersonInput) :
    Falling (fun candidate => value candidate.score)
      ((candidates config faces persons).insertionSort
        fun first second => first.score.lessThan second.score = false) := by
  apply falling_insertionSort
  have isFinite : ∀ candidate ∈ candidates config faces persons,
      candidate.score.isFinite = true := by
    intro candidate member
    rcases mem_candidates.mp member with ⟨_, _, _, _, passes, rfl⟩
    exact isFinite_pyMin passes.2.2
  intro first isFirst second isSecond
  exact not_lessThan_iff (isFinite first isFirst) (isFinite second isSecond)

theorem mem_chosenPairs {candidate : Candidate}
    (chosen : candidate ∈ chosenPairs config faces persons) :
    ∃ face ∈ faces, ∃ person ∈ persons, Passes config face person ∧
      candidateOf config face person = candidate := by
  have sorted := (greedyMatch_sublist [] [] _).subset chosen
  exact mem_candidates.mp ((List.mem_insertionSort _).mp sorted)

theorem chosenPairs_stable {face : FaceInput} {person : PersonInput} (isFace : face ∈ faces)
    (isPerson : person ∈ persons) (passes : Passes config face person) :
    ∃ pair ∈ chosenPairs config faces persons,
      (pair.face.index = face.index ∨ pair.person.index = person.index) ∧
        pair.score.lessThan (pairScore config face person) = false := by
  have member := mem_candidates.mpr ⟨face, isFace, person, isPerson, passes, rfl⟩
  have sorted := (List.mem_insertionSort
    (fun first second : Candidate => first.score.lessThan second.score = false)).mpr member
  rcases @greedyMatch_stable _ _ _ _ _ _ (fun candidate : Candidate => candidate.face.index)
    (fun candidate => candidate.person.index) [] [] _ _ _ (falling_candidates config faces persons)
    _ sorted with taken | taken | ⟨pair, chosen, meets, better⟩
  · exact absurd taken List.not_mem_nil
  · exact absurd taken List.not_mem_nil
  · refine ⟨pair, chosen, meets, (not_lessThan_iff ?_ ?_).mpr better⟩
    · rcases mem_chosenPairs chosen with ⟨_, _, _, _, otherPasses, rfl⟩
      exact isFinite_pyMin otherPasses.2.2
    · exact isFinite_pyMin passes.2.2

/-! ## What is extracted -/

variable {objects : List FrameObject}

theorem getElem?_index {face : FaceInput} (member : face ∈ extractFaces objects) :
    (extractFaces objects)[face.index]? = some face := by
  rcases List.mem_iff_getElem?.mp member with ⟨position, found⟩
  have isIndex : face.index = position := by
    rw [extractFaces, List.getElem?_mapIdx, Option.map_eq_some_iff] at found
    rcases found with ⟨_, _, rfl⟩
    rfl
  rw [isIndex, found]

theorem face_inj {first second : FaceInput} (isFirst : first ∈ extractFaces objects)
    (isSecond : second ∈ extractFaces objects) (same : first.index = second.index) :
    first = second := by
  have found := getElem?_index isFirst
  rw [same, getElem?_index isSecond, Option.some.injEq] at found
  exact found.symm

theorem index_of_personOf {object : FrameObject} {index : Nat} {person : PersonInput}
    (isInput : personOf object index = some person) : person.index = index := by
  rw [personOf] at isInput
  split at isInput
  · exact absurd isInput.symm (Option.some_ne_none _)
  · rcases Option.map_eq_some_iff.mp isInput with ⟨_, _, rfl⟩
    rfl

theorem person_inj {first second : PersonInput} (isFirst : first ∈ extractPersons objects)
    (isSecond : second ∈ extractPersons objects) (same : first.index = second.index) :
    first = second := by
  rcases List.mem_filterMap.mp isFirst with ⟨⟨_, _⟩, member, isInput⟩
  rcases List.mem_filterMap.mp isSecond with ⟨⟨_, _⟩, otherMember, isOther⟩
  rw [index_of_personOf isInput, index_of_personOf isOther] at same
  have found := List.mem_zipIdx_iff_getElem?.mp member
  have otherFound := List.mem_zipIdx_iff_getElem?.mp otherMember
  dsimp only at found otherFound isInput isOther same
  rw [same, otherFound, Option.some.injEq] at found
  rw [← found, same, isOther, Option.some.injEq] at isInput
  exact isInput.symm

theorem length_extractFaces (objects : List FrameObject) :
    (extractFaces objects).length =
      ((faceObjects objects).filter fun entry => entry.1.bbox.isSome).length := by
  rw [extractFaces, List.length_mapIdx]
  induction faceObjects objects with
  | nil => rfl
  | cons entry _ induction =>
    cases hasBox : entry.1.bbox with
    | none =>
      rw [List.filterMap_cons_none (by rw [hasBox]; rfl), induction,
        List.filter_cons_of_neg (by rw [hasBox]; exact Bool.noConfusion)]
    | some =>
      rw [List.filterMap_cons_some (by rw [hasBox]; rfl), List.length_cons, induction,
        List.filter_cons_of_pos (by rw [hasBox]; rfl), List.length_cons]

theorem faceObjects_ordered (objects : List FrameObject) :
    (faceObjects objects).Pairwise fun first second => first.2 < second.2 := by
  have positions : (objects.zipIdx.map Prod.snd).Pairwise (· < ·) := by
    rw [List.zipIdx_map_snd]
    exact List.pairwise_lt_range' 1
  exact (List.pairwise_map.mp positions).filter _

theorem entry_inj {first second : FrameObject × Nat} (isFirst : first ∈ faceObjects objects)
    (isSecond : second ∈ faceObjects objects) (same : first.2 = second.2) : first = second := by
  have found := List.mem_zipIdx_iff_getElem?.mp (List.mem_of_mem_filter isFirst)
  rw [same, List.mem_zipIdx_iff_getElem?.mp (List.mem_of_mem_filter isSecond),
    Option.some.injEq] at found
  exact Prod.ext found.symm same

/-! ## Attachment -/

/-- No face object without a box stands before a face object that is given a person. -/
def NoGapBefore (objects : List FrameObject) : Prop :=
  ∀ association ∈ associations objects, ∀ position,
    facePosition objects association.faceIndex = some position →
      ∀ entry ∈ faceObjects objects, entry.2 < position → entry.1.bbox.isSome = true

theorem facePosition_of_association {association : FacePersonAssociation}
    (member : association ∈ associations objects) :
    ∃ entry, ((faceObjects objects).filter fun entry => entry.1.bbox.isSome)[
      association.faceIndex]? = some entry := by
  rcases List.mem_map.mp member with ⟨_, chosen, rfl⟩
  rcases mem_chosenPairs chosen with ⟨_, isFace, _, _, _, rfl⟩
  have inside := (List.getElem?_eq_some_iff.mp (getElem?_index isFace)).1
  rw [length_extractFaces] at inside
  exact ⟨_, List.getElem?_eq_getElem inside⟩

/-- What is attached is attached to the right objects exactly when no place is shifted. -/
theorem attached_iff (propagateTrackId : Bool) (objects : List FrameObject) :
    (attachments propagateTrackId objects).map
        (fun attachment => (some attachment.position, attachment.association)) =
      (associations objects).map
        (fun association => (facePosition objects association.faceIndex, association)) ↔
      NoGapBefore objects := by
  have found : ∀ association ∈ associations objects, ∃ entry other,
      ((faceObjects objects).filter fun entry => entry.1.bbox.isSome)[
        association.faceIndex]? = some entry ∧
      (faceObjects objects)[association.faceIndex]? = some other := by
    intro association member
    rcases facePosition_of_association member with ⟨entry, isEntry⟩
    have inside := (List.getElem?_eq_some_iff.mp isEntry).1
    have atMost := List.length_filter_le
      (fun entry : FrameObject × Nat => entry.1.bbox.isSome) (faceObjects objects)
    exact ⟨entry, _, isEntry, List.getElem?_eq_getElem (inside.trans_le atMost)⟩
  have all : (attachments propagateTrackId objects).map
      (fun attachment => (some attachment.position, attachment.association)) =
      (associations objects).map fun association =>
        ((faceObjects objects)[association.faceIndex]?.map Prod.snd, association) := by
    rw [attachments, List.map_filterMap, ← List.filterMap_eq_map]
    refine List.filterMap_congr fun association member => ?_
    rcases found association member with ⟨_, _, _, isOther⟩
    rw [Function.comp_apply, isOther]
    rfl
  rw [all, List.map_inj_left, NoGapBefore]
  refine forall₂_congr fun association member => ?_
  rcases found association member with ⟨entry, _, isEntry, isOther⟩
  have isPosition : facePosition objects association.faceIndex = some entry.2 := by
    rw [facePosition, isEntry]
    rfl
  have place := getElem?_filter_iff (faceObjects_ordered objects) (fun _ => lt_irrefl _)
    (fun _ _ less => less.asymm) _ isEntry
  simp only [Prod.mk.injEq, and_true, isPosition, Option.some.injEq, forall_eq']
  rw [← place, isOther, Option.map_some, Option.some.injEq, Option.some.injEq]
  constructor
  · intro same
    exact entry_inj (List.mem_of_getElem? isOther)
      (List.mem_of_mem_filter (List.mem_of_getElem? isEntry)) same
  · exact fun same => congrArg Prod.snd same

theorem NoGapBefore.associates (propagateTrackId : Bool) (noGap : NoGapBefore objects) :
    Associates propagateTrackId objects := by
  have sides := @nodup_greedyMatch _ _ _ _ _ (fun candidate : Candidate => candidate.face.index)
    (fun candidate => candidate.person.index) [] []
    ((candidates {} (extractFaces objects) (extractPersons objects)).insertionSort
      fun first second => first.score.lessThan second.score = false)
  refine ⟨?_, ?_, ?_, ?_, (attached_iff propagateTrackId objects).mpr noGap⟩
  · rw [associations, associateFacesToPersons, List.map_map]
    exact sides.1
  · rw [associations, associateFacesToPersons, List.map_map]
    exact sides.2
  · intro pair chosen
    rcases mem_chosenPairs chosen with ⟨_, isFace, _, isPerson, passes, rfl⟩
    exact ⟨isFace, isPerson, passes, rfl⟩
  · intro face isFace person isPerson passes
    rcases chosenPairs_stable isFace isPerson passes with ⟨_, chosen, meets, better⟩
    rcases mem_chosenPairs chosen with ⟨_, isOther, _, isOtherPerson, _, rfl⟩
    refine ⟨_, chosen, meets.imp ?_ ?_, better⟩
    · exact fun same => face_inj isOther isFace same
    · exact fun same => person_inj isOtherPerson isPerson same

/-- Where the face objects without a box come last, the matching is attached to the right
faces. -/
theorem associates_of_boxesFirst (propagateTrackId : Bool)
    (boxesFirst : ∀ first ∈ faceObjects objects, ∀ second ∈ faceObjects objects,
      first.2 < second.2 → second.1.bbox.isSome = true → first.1.bbox.isSome = true) :
    Associates propagateTrackId objects := by
  apply NoGapBefore.associates
  intro association _ position isPosition entry member before
  rcases Option.map_eq_some_iff.mp isPosition with ⟨other, found, rfl⟩
  rcases List.mem_filter.mp (List.mem_of_getElem? found) with ⟨inFaces, hasBox⟩
  exact boxesFirst entry member other inFaces before hasBox

theorem associates_iff (propagateTrackId : Bool) (objects : List FrameObject) :
    Associates propagateTrackId objects ↔ NoGapBefore objects :=
  ⟨fun associates => (attached_iff propagateTrackId objects).mp associates.attached,
    fun noGap => noGap.associates propagateTrackId⟩

/-- A person with a track, and a face in its upper body behind a face object without a box. -/
def faceBehindGap : List FrameObject :=
  [⟨"person", "yolo26_pose", some ⟨.ofRat 100, .ofRat 100, .ofRat 80, .ofRat 160⟩, some 1, none,
      .ofRat 1⟩,
    ⟨"face", "yolov8_face", none, none, none, .ofRat 1⟩,
    ⟨"face", "yolov8_face", some ⟨.ofRat 100, .ofRat 40, .ofRat 20, .ofRat 20⟩, none, none,
      .ofRat 1⟩]

theorem attached_to_other_face : ¬ ∀ objects, Associates false objects := by
  intro always
  have attached := (always faceBehindGap).attached
  revert attached
  decide +kernel

end VideoAnalysis.Face
