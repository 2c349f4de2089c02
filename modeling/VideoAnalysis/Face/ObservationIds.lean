import VideoAnalysis.Foundation.FieldText
import Mathlib.Data.Option.Basic

/-! # Ids of face observations

Three writers build the id of a face: the exporter inside the pipeline, the envelope of a face
image and the annotation of a frame. Faces of one source never share an id; the three agree on a
face unless it is the first one of a frame without a uuid.
-/

namespace VideoAnalysis.Face

open VideoAnalysis.Foundation

/-- A text that is there and not empty. -/
def textOrNone (text : Option String) : Option String := text.filter (· ≠ "")

def buildFaceSourceObservationId (sourceId : String) (trackId timestampMs : Int)
    (frameUuid : Option String) (faceIndex : Option Int) : String :=
  match textOrNone frameUuid with
  | some uuid => s!"face:{sourceId}:uuid:{uuid}:{faceIndex.getD 0}"
  | none =>
    let trackPart := if 0 < trackId then toString trackId else "no_track"
    let legacyId := s!"face:{sourceId}:{trackPart}:{timestampMs}"
    match faceIndex with
    | none => legacyId
    | some index => if 0 < index then s!"{legacyId}:{index}" else legacyId

structure FaceRoiEnvelope where
  sourceId : String
  personTrackId : Int
  faceIndex : Int
  timestampMs : Int
  frameUuid : Option String

def FaceRoiEnvelope.sourceObservationId (envelope : FaceRoiEnvelope) : String :=
  match textOrNone envelope.frameUuid with
  | some uuid => s!"face:{envelope.sourceId}:uuid:{uuid}:{envelope.faceIndex}"
  | none =>
    s!"face:{envelope.sourceId}:{envelope.personTrackId}:{envelope.timestampMs}:{envelope.faceIndex}"

/-- The frame annotation gives no id to a face without a uuid and a time. -/
def buildFaceObservationId (sourceId : String) (trackId : Int) (frameUuid : Option String)
    (timestampMs : Option Int) (faceIndex : Int) : Option String :=
  if frameUuid.isNone && timestampMs.isNone then none
  else some
    (buildFaceSourceObservationId sourceId trackId (timestampMs.getD 0) frameUuid
      (some faceIndex))

/-- A face of a frame that is associated with a tracked person. -/
structure FrameFace where
  sourceId : String
  frameUuid : Option String
  timestampMs : Int
  trackId : Int
  tracked : 0 < trackId
  faceIndex : Nat

inductive IdWriter
  | exporter
  | envelope
  | annotations
deriving DecidableEq

namespace FrameFace

def observationId (face : FrameFace) : IdWriter → Option String
  | .exporter =>
    some (buildFaceSourceObservationId face.sourceId face.trackId face.timestampMs
      face.frameUuid (some face.faceIndex))
  | .envelope =>
    some (FaceRoiEnvelope.sourceObservationId
      { sourceId := face.sourceId
        personTrackId := face.trackId
        faceIndex := face.faceIndex
        timestampMs := face.timestampMs
        frameUuid := face.frameUuid })
  | .annotations =>
    buildFaceObservationId face.sourceId face.trackId face.frameUuid (some face.timestampMs)
      face.faceIndex

/-- Every writer gives the face an id, and the same one. -/
def OneId (face : FrameFace) : Prop := ∃ id, ∀ writer, face.observationId writer = some id

def uuid (face : FrameFace) : Option String := textOrNone face.frameUuid

/-- Two faces that are not the same observation: of frames with different uuids, different faces
of a frame, or without uuids of different persons, times or places in the frame. -/
inductive Apart (first second : FrameFace) : Prop
  | frame (different : first.uuid ≠ second.uuid)
  | place (same : first.uuid = second.uuid) (different : first.faceIndex ≠ second.faceIndex)
  | person (first_none : first.uuid = none) (second_none : second.uuid = none)
      (different : first.trackId ≠ second.trackId)
  | time (first_none : first.uuid = none) (second_none : second.uuid = none)
      (different : first.timestampMs ≠ second.timestampMs)

end FrameFace

/-- Two faces of one source that are different observations. -/
structure ApartFaces where
  first : FrameFace
  second : FrameFace
  oneSource : first.sourceId = second.sourceId
  apart : first.Apart second

/-! ## What an id tells -/

/-- What stands in an id after the source. -/
inductive FaceKey
  | ofFrame (uuid : String) (faceIndex : Int)
  | ofTrack (trackId timestampMs : Int) (faceIndex : Option Int)

namespace FaceKey

def indexText : Option Int → String
  | none => ""
  | some index => ":" ++ toString index

def text : FaceKey → String
  | ofFrame uuid faceIndex => "uuid" ++ ":" ++ (uuid ++ ":" ++ toString faceIndex)
  | ofTrack trackId timestampMs faceIndex =>
    toString trackId ++ ":" ++ (toString timestampMs ++ indexText faceIndex)

theorem timeText_inj {first second : Int} {firstIndex secondIndex : Option Int}
    (same : toString first ++ indexText firstIndex = toString second ++ indexText secondIndex) :
    first = second ∧ firstIndex = secondIndex := by
  cases firstIndex with
  | none =>
    cases secondIndex with
    | none =>
      simp only [indexText, String.append_empty] at same
      exact ⟨intText_inj same, rfl⟩
    | some =>
      simp only [indexText, String.append_empty] at same
      exact absurd (show ':' ∈ (toString first).toList by rw [same]; simp)
        (intText_noColon first)
  | some =>
    cases secondIndex with
    | none =>
      simp only [indexText, String.append_empty] at same
      exact absurd (show ':' ∈ (toString second).toList by rw [← same]; simp)
        (intText_noColon second)
    | some =>
      simp only [indexText, ← String.append_assoc] at same
      rcases colonField_eq (intText_noColon first) (intText_noColon second) same with
        ⟨sameTime, sameIndex⟩
      exact ⟨intText_inj sameTime, congrArg some (intText_inj sameIndex)⟩

theorem uuid_ne (trackId : Int) : toString trackId ≠ "uuid" :=
  intText_ne 'u' (by decide) (by decide) (by decide)

theorem text_inj {first second : FaceKey} (same : first.text = second.text) :
    first = second := by
  have uuidPart : NoColon "uuid" := by decide
  cases first with
  | ofFrame _ index =>
    cases second with
    | ofFrame _ otherIndex =>
      rcases lastColonField_eq (intText_noColon index) (intText_noColon otherIndex)
        (colonField_eq uuidPart uuidPart same).2 with ⟨sameUuid, sameIndex⟩
      rw [sameUuid, intText_inj sameIndex]
    | ofTrack trackId =>
      exact absurd (colonField_eq uuidPart (intText_noColon trackId) same).1.symm
        (uuid_ne trackId)
  | ofTrack trackId =>
    cases second with
    | ofFrame =>
      exact absurd (colonField_eq (intText_noColon trackId) uuidPart same).1 (uuid_ne trackId)
    | ofTrack otherTrackId =>
      rcases colonField_eq (intText_noColon trackId) (intText_noColon otherTrackId) same with
        ⟨sameTrack, sameRest⟩
      rcases timeText_inj sameRest with ⟨sameTime, sameIndex⟩
      rw [intText_inj sameTrack, sameTime, sameIndex]

end FaceKey

namespace FrameFace

def key (face : FrameFace) (writer : IdWriter) : FaceKey :=
  match face.uuid with
  | some uuid => .ofFrame uuid face.faceIndex
  | none => .ofTrack face.trackId face.timestampMs
      (if writer = .envelope ∨ 0 < face.faceIndex then some face.faceIndex else none)

def idOf (sourceId : String) (key : FaceKey) : String :=
  "face:" ++ (sourceId ++ (":" ++ key.text))

theorem idOf_inj {sourceId : String} {first second : FaceKey}
    (same : idOf sourceId first = idOf sourceId second) : first = second := by
  unfold idOf at same
  simp only [String.append_right_inj] at same
  exact FaceKey.text_inj same

theorem uuidLabel_eq : ":uuid:" = ":" ++ "uuid" ++ ":" := by decide

theorem key_annotations (face : FrameFace) : face.key .annotations = face.key .exporter := by
  unfold key
  cases face.uuid with
  | some => rfl
  | none => simp

theorem buildId_eq (face : FrameFace) :
    buildFaceSourceObservationId face.sourceId face.trackId face.timestampMs face.frameUuid
      (some face.faceIndex) = idOf face.sourceId (face.key .exporter) := by
  unfold buildFaceSourceObservationId key uuid
  cases textOrNone face.frameUuid with
  | some =>
    simp only [idOf, FaceKey.text, uuidLabel_eq, Option.getD_some, toString, String.append_assoc]
  | none =>
    have writer : (IdWriter.exporter = .envelope ∨ 0 < face.faceIndex) ↔
        (0 : Int) < face.faceIndex := by
      simp
    simp only [if_pos face.tracked, writer]
    split
    · simp only [idOf, FaceKey.text, FaceKey.indexText, toString, String.append_assoc]
    · simp only [idOf, FaceKey.text, FaceKey.indexText, toString, String.append_assoc,
        String.append_empty]

theorem envelopeId_eq (face : FrameFace) :
    face.observationId .envelope = some (idOf face.sourceId (face.key .envelope)) := by
  unfold observationId FaceRoiEnvelope.sourceObservationId key uuid
  cases textOrNone face.frameUuid with
  | some => simp only [idOf, FaceKey.text, uuidLabel_eq, toString, String.append_assoc]
  | none =>
    simp only [true_or, if_true, idOf, FaceKey.text, FaceKey.indexText, toString,
      String.append_assoc]

theorem observationId_eq (face : FrameFace) (writer : IdWriter) :
    face.observationId writer = some (idOf face.sourceId (face.key writer)) := by
  cases writer with
  | exporter => exact congrArg some face.buildId_eq
  | envelope => exact face.envelopeId_eq
  | annotations =>
    simp only [observationId, buildFaceObservationId, Option.isNone_some, Bool.and_false,
      Bool.false_eq_true, if_false, Option.getD_some, face.buildId_eq, key_annotations]

theorem oneId_iff (face : FrameFace) :
    face.OneId ↔ face.key .envelope = face.key .exporter := by
  constructor
  · rintro ⟨id, all⟩
    have envelope := all .envelope
    have exporter := all .exporter
    rw [observationId_eq] at envelope exporter
    exact idOf_inj (Option.some.inj (envelope.trans exporter.symm))
  · intro same
    refine ⟨idOf face.sourceId (face.key .exporter), fun writer => ?_⟩
    rw [observationId_eq]
    cases writer with
    | exporter => rfl
    | envelope => rw [same]
    | annotations => rw [key_annotations]

theorem key_inj {first second : FrameFace} {writer other : IdWriter}
    (same : first.key writer = second.key other) : ¬first.Apart second := by
  unfold key at same
  cases firstUuid : first.uuid with
  | some =>
    cases secondUuid : second.uuid with
    | none =>
      rw [firstUuid, secondUuid] at same
      cases same
    | some =>
      rw [firstUuid, secondUuid] at same
      rcases FaceKey.ofFrame.inj same with ⟨sameUuid, sameIndex⟩
      rintro (different | ⟨_, different⟩ | ⟨none, _, _⟩ | ⟨none, _, _⟩)
      · exact different (by rw [firstUuid, secondUuid, sameUuid])
      · exact different (Int.ofNat.inj sameIndex)
      all_goals
        rw [firstUuid] at none
        cases none
  | none =>
    cases secondUuid : second.uuid with
    | some =>
      rw [firstUuid, secondUuid] at same
      cases same
    | none =>
      rw [firstUuid, secondUuid] at same
      rcases FaceKey.ofTrack.inj same with ⟨sameTrack, sameTime, sameIndex⟩
      rintro (different | ⟨_, different⟩ | ⟨_, _, different⟩ | ⟨_, _, different⟩)
      · exact different (firstUuid.trans secondUuid.symm)
      · split at sameIndex
        · split at sameIndex
          · exact different (Int.ofNat.inj (Option.some.inj sameIndex))
          · cases sameIndex
        · split at sameIndex
          · cases sameIndex
          · omega
      · exact different sameTrack
      · exact different sameTime

end FrameFace

/-- The ids of a face agree exactly where its frame has a uuid or it is not the first face, and
no two faces of one source share an id, whoever writes it. -/
theorem face_ids_agree_iff (face : FrameFace) (faces : ApartFaces) :
    (face.OneId ↔ face.uuid ≠ none ∨ 0 < face.faceIndex) ∧
      ∀ writer other,
        faces.first.observationId writer ≠ faces.second.observationId other := by
  constructor
  · rw [FrameFace.oneId_iff]
    unfold FrameFace.key
    cases face.uuid with
    | some => simp
    | none =>
      by_cases later : 0 < face.faceIndex
      all_goals simp [later]
  · intro writer other same
    rw [FrameFace.observationId_eq, FrameFace.observationId_eq, faces.oneSource] at same
    exact FrameFace.key_inj (FrameFace.idOf_inj (Option.some.inj same)) faces.apart

def untaggedFace : FrameFace where
  sourceId := "cam1"
  frameUuid := none
  timestampMs := 1000
  trackId := 42
  tracked := by decide
  faceIndex := 0

def untaggedFaces : ApartFaces where
  first := untaggedFace
  second := { untaggedFace with trackId := 43, tracked := by decide }
  oneSource := rfl
  apart := .person rfl rfl (by decide)

theorem untagged_faces_apart : ∀ writer other,
    untaggedFaces.first.observationId writer ≠ untaggedFaces.second.observationId other :=
  (face_ids_agree_iff untaggedFace untaggedFaces).2

theorem first_face_has_two_ids : ¬untaggedFace.OneId := by
  intro ⟨id, all⟩
  have envelope := all .envelope
  have exporter := all .exporter
  rw [← exporter] at envelope
  exact absurd envelope (by decide)

end VideoAnalysis.Face
