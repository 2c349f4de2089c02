import VideoAnalysis.Annotation.Compat
import VideoAnalysis.Behavior.Track

/-! # Frame annotations

A frame annotation is built from the objects of a frame and checked before it leaves. Most
attributes are read under a guard; what is read without one is converted by `convert`.
-/

namespace VideoAnalysis.Annotation

open Foundation Python Evidence

/-! ## Objects of a frame -/

/-- The box of an object: a plain value, or an object with its centre and its size. -/
inductive BoxAttribute
  | value (value : Json)
  | centred (xc yc width height : Option Json)

structure RectParams where
  left : Option Json
  top : Option Json
  width : Option Json
  height : Option Json

/-- An object of a frame, `null` where an attribute is missing; `attrValue` is the value that
`get_attr_meta` finds. -/
structure FrameObject where
  label : Json := .null
  elementName : Json := .null
  trackId : Json := .null
  objectId : Json := .null
  confidence : Json := .null
  bbox : BoxAttribute := .value .null
  rectParams : Option RectParams := none
  sourceObservationId : Json := .null
  embedding : Json := .null
  embeddingVector : Json := .null
  feature : Json := .null
  features : Json := .null
  attrValue : String → String → Json := fun _ _ => .null

structure FrameAnnotationBuildConfig where
  producer : Text := text "savant-security"
  ttlSeconds : Int := 120
  maxObjectsPerFrame : Int := 100
  includeKeypoints : Text := text "compact"
  includeLandmarks : Text := text "compact"

/-- What is known of the frame itself. -/
structure FrameFields where
  sourceId : Text
  cameraId : Text
  framePts : Option Int := none
  frameUuid : Option Text := none
  keyframeUuid : Option Text := none
  previousKeyframeUuid : Option Text := none
  keyframePts : Option Int := none
  frameDts : Option Int := none
  duration : Option Int := none
  timeBase : Option Text := none
  frameNum : Option Int := none
  timestampMs : Option Int := none
  runtimeEpochId : Option Text := none
  streamSessionId : Option Text := none
  createdAt : Text

/-! ## Conversions -/

/-- `str` of a whole number. -/
def strOfInt (number : Int) : Except PyError Text :=
  if 10 ^ maxIntDigits ≤ number.natAbs then .error .valueError else .ok (text (toString number))

def optionalText : Option Text → Json
  | some content => .str content
  | none => .null

def optionalNumber : Option Int → Json
  | some number => .int number
  | none => .null

def optionalDouble : Option Double → Json
  | some double => .float double
  | none => .null

/-- `list(value)` where it can be read: the items of a dictionary are its keys. -/
def sequenceOf : Json → Option (List Json)
  | .list items => some items
  | .dict entries => some (entries.map fun entry => .str entry.1)
  | .null | .bool _ | .int _ | .float _ | .str _ => none

/-- `_read_attr_sequence`. -/
def readAttrSequence (obj : FrameObject) (namespaceName name : String) : Option (List Json) :=
  sequenceOf (obj.attrValue namespaceName name)

/-- A text or a sequence that is not empty. -/
def inhabited {Item : Type} (items : Option (List Item)) : Option (List Item) :=
  items.filter fun items => !items.isEmpty

def isValidTrackId (trackId : Json) : Except PyError Bool :=
  match trackId with
  | .null => .ok false
  | _ =>
    match trackId.toInt with
    | .ok number => .ok (Behavior.isValidTrackId number)
    | .error error =>
      if error.isValueError || error = .typeError then .ok false else .error error

/-! ## Boxes -/

def two : Double := .finite false 2

def cxcywhToXyxy (xc yc width height : Double) : List Double :=
  [xc.sub (width.div two), yc.sub (height.div two), xc.add (width.div two),
    yc.add (height.div two)]

def readCentred (xc yc width height : Option Json) : Except PyError (List Double) := do
  return cxcywhToXyxy (← floatOf xc) (← floatOf yc) (← floatOf width) (← floatOf height)

def readCorner (left top width height : Option Json) : Except PyError (List Double) := do
  let left ← floatOf left
  let top ← floatOf top
  let width ← floatOf width
  let height ← floatOf height
  return [left, top, left.add width, top.add height]

section Building

variable (strOf : Json → Option Text) (sha256 : Entries → Text)

/-- `str(value)`; `strOf` is what it makes of a value that is not a text, and nothing where a
whole number has too many digits. -/
def strText : Json → Except PyError Text
  | .str content => .ok content
  | value =>
    match strOf value with
    | some content => .ok content
    | none => .error .valueError

/-- `str(value or "")`. -/
def strOrEmpty (value : Json) : Except PyError Text :=
  if value.truthy then strText strOf value else .ok []

def listItems : Option Json → List Json
  | some (.list items) => items
  | _ => []

def readMapping (bbox : Entries) : Except PyError (Option (List Double)) := do
  let fmt := lower (← strOrEmpty strOf ((Json.lookup bbox "format").getD .null))
  if fmt = text "xyxy" && (Json.lookup bbox "xyxy").any isList then
    return some (← ((listItems (Json.lookup bbox "xyxy")).take 4).mapM Json.toFloat)
  else if fmt = text "cxcywh" && (Json.lookup bbox "values").any isList then
    match ← ((listItems (Json.lookup bbox "values")).take 4).mapM Json.toFloat with
    | [xc, yc, width, height] => return some (cxcywhToXyxy xc yc width height)
    | _ => throw .typeError
  else if ["x", "y", "width", "height"].all fun key => (Json.lookup bbox key).isSome then
    return some (← readCorner (Json.lookup bbox "x") (Json.lookup bbox "y")
      (Json.lookup bbox "width") (Json.lookup bbox "height"))
  else return none

/-- `_bbox_from_mapping`. -/
def bboxFromMapping (bbox : Entries) : Option (List Double) :=
  (readMapping strOf bbox).toOption.join

def readRect (rect : Option RectParams) : Option (List Double) :=
  rect.bind fun rect => (readCorner rect.left rect.top rect.width rect.height).toOption

variable (obj : FrameObject)

/-- `_read_bbox`: a box that cannot be read leaves the rectangle. -/
def readBbox : Option (List Double) :=
  match obj.bbox with
  | .value (.dict bbox) => bboxFromMapping strOf bbox
  | .value _ => readRect obj.rectParams
  | .centred xc yc width height =>
    (readCentred xc yc width height).toOption.or (readRect obj.rectParams)

/-! ## Attributes -/

/-- `_is_person_object` and `_is_face_object`, as far as the two differ in their words. -/
def isObjectOf (label elementName : String) (obj : FrameObject) : Except BuildError Bool := do
  let labelText ← convert (strOrEmpty strOf obj.label)
  let elementText ← convert (strOrEmpty strOf obj.elementName)
  return lower labelText = text label || lower elementText = text elementName

def isPersonObject : FrameObject → Except BuildError Bool :=
  isObjectOf strOf "person" "yolo26_pose"

def isFaceObject : FrameObject → Except BuildError Bool :=
  isObjectOf strOf "face" "yolov8_face"

def firstTrackId : List Json → Except BuildError (Option Text)
  | [] => .ok none
  | value :: rest => do
      if ← convert (isValidTrackId value) then
        let number ← convert value.toInt
        return some (← convert (strOfInt number))
      else firstTrackId rest

/-- `_read_track_id`. -/
def readTrackId (preferAssociatedPerson : Bool) (obj : FrameObject) :
    Except BuildError (Option Text) :=
  let associated := obj.attrValue "face_person_associator" "person_track_id"
  firstTrackId
    ((if preferAssociatedPerson then [associated] else []) ++ [obj.trackId, obj.objectId])

/-- `_track_int`. -/
def trackInt : Option Text → Int
  | some trackId => if trackId = [] then 0 else (intOfText trackId).toOption.getD 0
  | none => 0

/-- `_read_confidence` and `_read_float_attr`: what cannot be converted is nothing. -/
def readFloat (value : Json) : Option Double := value.toFloat.toOption

/-! ## Poses -/

def sum (doubles : List Double) : Double := doubles.foldl Double.add zero

/-- `_reshape_triples`, nothing where there is no whole number of triples. -/
def reshapeTriples : List Json → Option (List (Double × Double × Double))
  | [] => some []
  | x :: y :: confidence :: rest => do
      let x ← x.toFloat.toOption
      let y ← y.toFloat.toOption
      let confidence ← confidence.toFloat.toOption
      return (x, y, confidence) :: (← reshapeTriples rest)
  | [_] | [_, _] => none

def keypointName (index : Nat) : Text :=
  coco17KeypointNames.getD index (text "keypoint_" ++ text (toString index))

def namedKeypoint (index : Nat) (point : Double × Double × Double) : Entries :=
  [(text "index", .int index), (text "name", .str (keypointName index)),
    (text "x", .float point.1), (text "y", .float point.2.1),
    (text "confidence", .float point.2.2)]

/-- `_named_coco17_keypoints`. -/
def namedCoco17Keypoints (triples : List (Double × Double × Double)) : List Json :=
  triples.zipIdx.map fun (point, index) => .dict (namedKeypoint index point)

/-- `value >= 0.25`. -/
def isVisible (confidence : Double) : Bool :=
  !confidence.lessThan (.finite false (1 / 4)) && confidence ≠ .nan

def keypointsOf (mode : Text) (triples : List (Double × Double × Double)) : Option Json :=
  if mode = text "compact" then
    some (.dict [(text "format", .str (text "coco17_xyc")),
      (text "coordinate_space", .str (text "pixel")), (text "point_count", .int triples.length)])
  else if mode = text "full" || mode = text "debug" then
    some (.list (namedCoco17Keypoints triples))
  else none

def entryOf (key : String) : Option Json → Entries
  | some value => [(text key, value)]
  | none => []

def poseSummary (mode : Text) (triples : List (Double × Double × Double)) : Entries :=
  let confidences := triples.map fun point => point.2.2
  [(text "keypoints_format", .str (text "coco17")),
    (text "keypoint_coordinate_space", .str (text "pixel")),
    (text "keypoint_count", .int triples.length),
    (text "visible_keypoint_count", .int (confidences.countP isVisible)),
    (text "mean_keypoint_confidence",
      .float ((sum confidences).div (Double.ofRat triples.length)))] ++
    entryOf "keypoints" (keypointsOf mode triples)

def poseMode (includeMode : Text) : Text :=
  lower (strip (if includeMode = [] then text "compact" else includeMode))

/-- `_read_pose_summary`. -/
def readPoseSummary (includeMode : Text) (obj : FrameObject) : Option Json :=
  if poseMode includeMode = text "none" then none
  else
    (inhabited (readAttrSequence obj "yolo26_pose" "keypoints")).bind fun keypoints =>
      (reshapeTriples keypoints).map fun triples =>
        .dict (poseSummary (poseMode includeMode) triples)

/-! ## Landmarks and features -/

def landmarkEntries (includeMode : Text) (points : List Double) : Entries :=
  (text "status", .str (text "complete")) ::
    entryOf "points"
      (if includeMode = text "compact" || includeMode = text "full" then
        some (.list ((points.take 10).map .float))
      else none)

/-- `_read_landmark_summary`. -/
def readLandmarkSummary (includeMode : Text) (obj : FrameObject) :
    Except BuildError (Option Json) :=
  if includeMode = text "none" then .ok none
  else
    match inhabited (readAttrSequence obj "yolov8_face" "landmarks") with
    | none => .ok none
    | some landmarks => do
        let points ← convert (landmarks.mapM Json.toFloat)
        return some (.dict (landmarkEntries includeMode points))

/-- The first of the values that is a list with items, as far as it can be converted. -/
def firstList : List Json → Option (List Double)
  | [] => none
  | .list (item :: items) :: _ => ((item :: items).mapM Json.toFloat).toOption
  | _ :: rest => firstList rest

/-- `_read_feature`. -/
def readFeature : Except BuildError (Option (List Double)) :=
  match (inhabited (readAttrSequence obj "adaface" "feature")).or
      (inhabited (readAttrSequence obj "reid" "feature")) with
  | some feature => do return some (← convert (feature.mapM Json.toFloat))
  | none => .ok (firstList [obj.embedding, obj.embeddingVector, obj.feature, obj.features])

/-- `_embedding_summary`. -/
def embeddingSummary (feature : List Double) : Entries :=
  [(text "embedding_model", .str (text "adaface")),
    (text "embedding_dim", .int feature.length),
    (text "embedding_norm", .float (sum (feature.map fun value => value.mul value)).sqrt),
    (text "embedding_status", .str (text "generated")),
    (text "embedding_included", .bool false)]

/-! ## Objects -/

def fingerprintKeys : List String :=
  ["object_type", "object_id", "track_id", "source_observation_id", "original_object_index",
    "bbox", "pose", "landmarks"]

/-- `_source_object_fingerprint`; `sha256` is the digest of what it encodes. -/
def sourceObjectFingerprint (entries : Entries) : Text :=
  sha256 (fingerprintKeys.map fun key => (text key, (Json.lookup entries key).getD .null))

def withFingerprint (entries : Entries) : Json :=
  .dict (entries ++ [(text "source_object_fingerprint",
    .str (sourceObjectFingerprint sha256 entries))])

def bboxEntries (bbox : List Double) (confidence : Option Double) : Entries :=
  [(text "format", .str (text "xyxy")), (text "xyxy", .list (bbox.map .float)),
    (text "confidence", optionalDouble confidence), (text "coordinate_space", .str (text "pixel"))]

/-- The id of an object, by what is known of it or else by its place in the frame. -/
def objectId (known byPlace : String) (id : Option Text) (objectIndex : Nat) : Json :=
  .str (match inhabited id with
    | some id => text known ++ id
    | none => text byPlace ++ text (toString objectIndex))

def personEntries (trackId : Option Text) (objectIndex : Nat) (bbox : List Double)
    (confidence : Option Double) (pose : Option Json) : Entries :=
  [(text "object_id", objectId "person:track:" "person:index:" trackId objectIndex),
    (text "object_type", .str (text "person")),
    (text "track_id", optionalText trackId),
    (text "original_object_index", .int objectIndex),
    (text "bbox", .dict (bboxEntries bbox confidence)),
    (text "quality", .dict [(text "person_confidence", optionalDouble confidence),
      (text "quality_status", .str (text "ok"))])] ++ entryOf "pose" pose

/-- `_build_person_object`. -/
def buildPersonObject (objectIndex : Nat) (config : FrameAnnotationBuildConfig) :
    Except BuildError (Option Json) :=
  match readBbox strOf obj with
  | none => .ok none
  | some bbox => do
      let trackId ← readTrackId false obj
      return some (withFingerprint sha256 (personEntries trackId objectIndex bbox
        (readFloat obj.confidence) (readPoseSummary config.includeKeypoints obj)))

def firstText : List Json → Option Text
  | [] => none
  | .str content :: rest => if strip content ≠ [] then some content else firstText rest
  | _ :: rest => firstText rest

/-- `_read_source_observation_id`. -/
def readSourceObservationId : Option Text :=
  firstText (obj.sourceObservationId ::
    ["face_observation_exporter", "face_reid_gate", "identity"].map fun namespaceName =>
      obj.attrValue namespaceName "source_observation_id")

/-- `build_face_source_observation_id`. -/
def buildFaceSourceObservationId (sourceId : Text) (trackId timestampMs : Int)
    (frameUuid : Option Text) (faceIndex : Nat) : Except PyError Text :=
  match inhabited frameUuid with
  | some uuid =>
    .ok (text "face:" ++ sourceId ++ text ":uuid:" ++ uuid ++ text ":" ++
      text (toString faceIndex))
  | none => do
      let trackPart ← if 0 < trackId then strOfInt trackId else pure (text "no_track")
      let legacyId :=
        text "face:" ++ sourceId ++ text ":" ++ trackPart ++ text ":" ++ (← strOfInt timestampMs)
      return if 0 < faceIndex then legacyId ++ text ":" ++ text (toString faceIndex) else legacyId

/-- `_build_face_observation_id`. -/
def buildFaceObservationId (fields : FrameFields) (trackId : Int) (faceIndex : Nat) :
    Except PyError (Option Text) :=
  if fields.frameUuid.isNone && fields.timestampMs.isNone then .ok none
  else
    (buildFaceSourceObservationId fields.sourceId trackId (fields.timestampMs.getD 0)
      fields.frameUuid faceIndex).map some

/-- The id under which a face is observed: a face that may be recognised is given one. -/
def faceSource (fields : FrameFields) (trackId : Option Text) (recognised : Bool)
    (faceIndex : Nat) : Except BuildError (Option Text) :=
  match readSourceObservationId obj with
  | some id => .ok (some id)
  | none =>
    if recognised then convert (buildFaceObservationId fields (trackInt trackId) faceIndex)
    else .ok none

structure FaceParts where
  trackId : Option Text
  sourceObservationId : Option Text
  objectIndex : Nat
  bbox : List Double
  confidence : Option Double
  faceQuality : Option Double
  /-- What the gate says, where it says something. -/
  reidAllowed : Option Bool
  reidSkipReason : Option Text
  landmarks : Option Json
  feature : Option (List Double)

def faceEntries (face : FaceParts) : Entries :=
  [(text "object_id",
      objectId "face:" "face:index:" face.sourceObservationId face.objectIndex),
    (text "object_type", .str (text "face")),
    (text "track_id", optionalText face.trackId),
    (text "source_observation_id", optionalText face.sourceObservationId),
    (text "original_object_index", .int face.objectIndex),
    (text "bbox", .dict (bboxEntries face.bbox face.confidence)),
    (text "quality", .dict ([(text "face_confidence", optionalDouble face.confidence),
      (text "face_quality", optionalDouble face.faceQuality)] ++
      entryOf "reid_allowed" (face.reidAllowed.map .bool) ++
      entryOf "reid_skip_reason" (face.reidSkipReason.map .str)))] ++
    entryOf "landmarks" face.landmarks ++
    entryOf "embedding" ((inhabited face.feature).map fun feature => .dict (embeddingSummary feature))

/-- The text of a value that is not `None`. -/
def textOfValue : Json → Except PyError (Option Text)
  | .null => .ok none
  | value => (strText strOf value).map some

/-- `_build_face_object`. -/
def buildFaceObject (objectIndex faceIndex : Nat) (fields : FrameFields)
    (config : FrameAnnotationBuildConfig) : Except BuildError (Option Json) :=
  match readBbox strOf obj with
  | none => .ok none
  | some bbox => do
      let trackId ← readTrackId true obj
      let allowed := obj.attrValue "face_reid_gate" "reid_allowed"
      let feature ← readFeature obj
      let recognised := isTrue (some allowed) || (inhabited feature).isSome
      let sourceObservationId ← faceSource obj fields trackId recognised faceIndex
      let reidSkipReason ←
        convert (textOfValue strOf (obj.attrValue "face_reid_gate" "reid_skip_reason"))
      let landmarks ← readLandmarkSummary config.includeLandmarks obj
      return some (withFingerprint sha256 (faceEntries
        { trackId, sourceObservationId, objectIndex, bbox, reidSkipReason, landmarks, feature
          confidence := readFloat obj.confidence
          faceQuality := readFloat (obj.attrValue "face_reid_gate" "reid_quality_score")
          reidAllowed := if absent (some allowed) then none else some allowed.truthy }))

/-! ## Messages -/

/-- The loop over the objects of a frame; every face counts, also one without a box. -/
def buildObjects (fields : FrameFields) (config : FrameAnnotationBuildConfig) :
    Nat → Nat → List FrameObject → Except BuildError (List Json)
  | _, _, [] => .ok []
  | objectIndex, faceIndex, obj :: rest => do
      if ← isPersonObject strOf obj then
        let person ← buildPersonObject strOf sha256 obj objectIndex config
        return person.toList ++ (← buildObjects fields config (objectIndex + 1) faceIndex rest)
      else if ← isFaceObject strOf obj then
        let face ← buildFaceObject strOf sha256 obj objectIndex faceIndex fields config
        return face.toList ++
          (← buildObjects fields config (objectIndex + 1) (faceIndex + 1) rest)
      else buildObjects fields config (objectIndex + 1) faceIndex rest

def messageEntries (fields : FrameFields) (config : FrameAnnotationBuildConfig)
    (objects : List Json) : Entries :=
  [(text "schema_version", .str (text "1.0")), (text "producer", .str config.producer),
    (text "message_type", .str (text "frame_annotation")),
    (text "source_id", .str fields.sourceId), (text "camera_id", .str fields.cameraId),
    (text "frame_pts", optionalNumber fields.framePts),
    (text "frame_uuid", optionalText fields.frameUuid),
    (text "keyframe_uuid", optionalText fields.keyframeUuid),
    (text "previous_keyframe_uuid", optionalText fields.previousKeyframeUuid),
    (text "keyframe_pts", optionalNumber fields.keyframePts),
    (text "frame_dts", optionalNumber fields.frameDts),
    (text "duration", optionalNumber fields.duration),
    (text "time_base", optionalText fields.timeBase),
    (text "frame_num", optionalNumber fields.frameNum),
    (text "timestamp_ms", optionalNumber fields.timestampMs),
    (text "runtime_epoch_id", optionalText fields.runtimeEpochId),
    (text "stream_session_id", optionalText fields.streamSessionId),
    (text "objects", .list objects), (text "ttl_seconds", .int config.ttlSeconds),
    (text "created_at", .str fields.createdAt)]

/-- `build_frame_annotation_message`. -/
def buildFrameAnnotationMessage (validate : Int → Json → Except BuildError Json)
    (fields : FrameFields) (config : FrameAnnotationBuildConfig)
    (frameObjects : List FrameObject) : Except BuildError Json := do
  let objects ← buildObjects strOf sha256 fields config 0 0 frameObjects
  validate config.maxObjectsPerFrame (.dict (messageEntries fields config objects))

end Building

def ofInvalid : Invalid → BuildError
  | .valueError message => .invalid message
  | .typeError => .raised .typeError
  | .overflowError => .raised .overflowError

def validateShared (strText : Json → Text) (maxObjectsPerFrame : Int) (message : Json) :
    Except BuildError Json :=
  (validateFrameAnnotationMessage strText maxObjectsPerFrame message).mapError ofInvalid

end VideoAnalysis.Annotation
