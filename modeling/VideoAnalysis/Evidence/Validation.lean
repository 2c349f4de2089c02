import Mathlib.Data.List.ReduceOption
import VideoAnalysis.Python.FieldRules
import VideoAnalysis.Python.FloatArithmetic

/-! # Validation of evidence messages

Frame annotations and identity patches are checked, normalised and searched for pixels and
vectors. A `ValueError` carries its message; `strOf` is `str` of a value that is not a text.
-/

namespace VideoAnalysis.Evidence

open Foundation Python
open Json (lookup)

inductive Invalid
  | valueError (message : Text)
  | typeError
  | overflowError

def invalid {Value : Type} (message : String) : Except Invalid Value :=
  .error (.valueError (text message))

/-! ## Forbidden fields -/

def forbiddenImageFields : List Text :=
  ["crop_bytes", "image_bytes", "raw_frame", "jpeg", "png", "base64_image", "frame_bytes"].map text

def forbiddenVectorFields : List Text :=
  ["embedding_vector", "vector", "features", "feature", "embedding_values"].map text

def allowedEmbeddingSummaryFields : List Text :=
  ["embedding_model", "embedding_dim", "embedding_norm", "embedding_status",
    "embedding_included"].map text

/-- `str.lower`, as far as the result is compared with ASCII words: of the other characters
only the Kelvin sign becomes an ASCII letter. -/
def lower (content : Text) : Text :=
  content.map fun code => if code = 8490 then 107 else asciiLower code

/-- What `_scan_forbidden_field` asks of the key itself. -/
def checkKey (path key : Text) : Except Invalid Unit :=
  if lower key ∈ forbiddenImageFields then
    .error (.valueError (text "image_bytes_forbidden:" ++ path))
  else if lower key ∈ forbiddenVectorFields then
    .error (.valueError (text "embedding_vector_forbidden:" ++ path))
  else if lower key = text "embedding" then
    .error (.valueError (text "embedding_vector_forbidden:" ++ path))
  else .ok ()

def indexText (position : Nat) : Text := text "[" ++ text (toString position) ++ text "]"

mutual

/-- `_scan_forbidden_fields`. -/
def scanForbiddenFields (path : Text) (forbidEmbeddingKey : Bool) : Json → Except Invalid Unit
  | .dict entries => scanEntries path forbidEmbeddingKey entries
  | .list items => scanItems path forbidEmbeddingKey 0 items
  | .null | .bool _ | .int _ | .float _ | .str _ => .ok ()

def scanEntries (path : Text) (forbidEmbeddingKey : Bool) :
    List (Text × Json) → Except Invalid Unit
  | [] => .ok ()
  | (key, child) :: rest => do
      if lower key = text "embedding" && forbidEmbeddingKey then
        invalid "embedding_vector_forbidden"
      else
        checkKey (path ++ text "." ++ key) key
        scanForbiddenFields (path ++ text "." ++ key) true child
        scanEntries path forbidEmbeddingKey rest

def scanItems (path : Text) (forbidEmbeddingKey : Bool) (position : Nat) :
    List Json → Except Invalid Unit
  | [] => .ok ()
  | child :: rest => do
      scanForbiddenFields (path ++ indexText position) forbidEmbeddingKey child
      scanItems path forbidEmbeddingKey (position + 1) rest

end

/-- `_scan_forbidden_field`. -/
def scanForbiddenField (path key : Text) (value : Json) : Except Invalid Unit := do
  checkKey path key
  scanForbiddenFields path true value

def scanFieldsBut (skipped : String) (pathOf : Text → Text) (entries : Entries) :
    Except Invalid Unit :=
  (entries.filter fun entry => entry.1 ≠ text skipped).forM fun entry =>
    scanForbiddenField (pathOf entry.1) entry.1 entry.2

/-! ## Normal forms -/

variable (fieldName : String)

/-- `_require_non_empty_string`. -/
def requireNonEmptyString : Option Json → Except Invalid Text
  | some (.str content) =>
    if strip content = [] then invalid ("missing_" ++ fieldName) else .ok content
  | _ => invalid ("missing_" ++ fieldName)

/-- `_require_int`: a truth value is not a number. -/
def requireInt : Option Json → Except Invalid Int
  | some (.int number) => .ok number
  | _ => invalid ("invalid_" ++ fieldName)

/-- `_normalize_number`. -/
def normalizeNumber : Option Json → Except Invalid Double
  | some (.int number) =>
    match Double.ofInt number with
    | .ok double => .ok double
    | .error _ => .error .overflowError
  | some (.float double) =>
    if double.isFinite then .ok double else invalid ("invalid_" ++ fieldName)
  | _ => invalid ("invalid_" ++ fieldName)

def numberOf : Double → ℚ
  | .finite negative magnitude => Double.signed negative magnitude
  | .infinite _ | .nan => 0

/-- `_normalize_unit_float`. -/
def normalizeUnitFloat (value : Option Json) : Except Invalid Double := do
  let number ← normalizeNumber fieldName value
  if numberOf number < 0 ∨ 1 < numberOf number then invalid ("invalid_" ++ fieldName)
  else return number

def stringField (key : String) : FieldRule Invalid :=
  .required key fun value => (requireNonEmptyString key value).map .str

def optionalString (key : String) : FieldRule Invalid :=
  .optional key fun value => (requireNonEmptyString key (some value)).map .str

def optionalInt (key : String) : FieldRule Invalid :=
  .optional key fun value => (requireInt key (some value)).map .int

def optionalUnitFloat (key fieldName : String) : FieldRule Invalid :=
  .optional key fun value => (normalizeUnitFloat fieldName (some value)).map .float

def constantField (key : String) (constant message : String) : FieldRule Invalid :=
  .test key fun
    | some (.str content) => if content = text constant then .ok () else invalid message
    | _ => invalid message

/-- `value not in ALLOWED`, where a list or a dictionary cannot be looked up. -/
def memberField (key : String) (allowed : List String) (message : String) : FieldRule Invalid :=
  .test key fun
    | some (.list _) | some (.dict _) => .error .typeError
    | some (.str content) => if content ∈ allowed.map text then .ok () else invalid message
    | _ => invalid message

def dictionaryField (key message : String) : FieldRule Invalid :=
  .test key fun
    | none | some .null | some (.dict _) => .ok ()
    | some _ => invalid message

/-! ## Boxes -/

/-- `_validate_bbox_list`. -/
def validateBboxList : Option Json → Except Invalid Json
  | some (.list [first, second, third, fourth]) => do
      let x1 ← normalizeNumber fieldName (some first)
      let y1 ← normalizeNumber fieldName (some second)
      let x2 ← normalizeNumber fieldName (some third)
      let y2 ← normalizeNumber fieldName (some fourth)
      if numberOf x2 < numberOf x1 ∨ numberOf y2 < numberOf y1 then invalid "invalid_bbox"
      else return .list [.float x1, .float y1, .float x2, .float y2]
  | _ => invalid "invalid_bbox"

def bboxRules : List (FieldRule Invalid) :=
  [constantField "format" "xyxy" "invalid_bbox_format",
    constantField "coordinate_space" "pixel" "invalid_bbox_coordinate_space",
    .required "xyxy" (validateBboxList "xyxy"),
    optionalUnitFloat "confidence" "bbox_confidence"]

/-- `_validate_bbox`. -/
def validateBbox : Option Json → Except Invalid Json
  | some (.dict bbox) => (applyRules bboxRules bbox).map .dict
  | _ => invalid "invalid_bbox"

/-! ## Embedding summaries -/

def checkSummaryKeys (entries : Entries) : Except Invalid Unit :=
  entries.forM fun entry =>
    if entry.1 ∈ allowedEmbeddingSummaryFields then .ok ()
    else if lower entry.1 ∈ forbiddenVectorFields ∨ lower entry.1 = text "embedding" then
      invalid "embedding_vector_forbidden"
    else invalid "invalid_embedding_summary"

def embeddingDim (value : Json) : Except Invalid Json := do
  let dim ← requireInt "embedding_dim" (some value)
  if dim ≤ 0 then invalid "invalid_embedding_dim" else return .int dim

def summaryRules : List (FieldRule Invalid) :=
  [.test "embedding_included" fun
      | some (.bool false) => .ok ()
      | _ => invalid "embedding_vector_forbidden",
    .optional "embedding_dim" embeddingDim,
    .optional "embedding_norm" fun value =>
      (normalizeNumber "embedding_norm" (some value)).map .float]

/-- `_validate_embedding_summary`. -/
def validateEmbeddingSummary : Json → Except Invalid Json
  | .dict summary => do
      checkSummaryKeys summary
      scanForbiddenFields (text "embedding_summary") false (.dict summary)
      return .dict (← applyRules summaryRules summary)
  | _ => invalid "embedding_vector_forbidden"

/-! ## Poses -/

def coco17KeypointNames : List Text :=
  ["nose", "left_eye", "right_eye", "left_ear", "right_ear", "left_shoulder", "right_shoulder",
    "left_elbow", "right_elbow", "left_wrist", "right_wrist", "left_hip", "right_hip",
    "left_knee", "right_knee", "left_ankle", "right_ankle"].map text

/-- `_validate_named_keypoint`: the point is built anew. -/
def validateNamedKeypoint (expectedIndex : Nat) : Json → Except Invalid Json
  | .dict point => do
      let index ← requireInt "pose_keypoint_index" (lookup point "index")
      if index ≠ expectedIndex then invalid "invalid_pose_keypoints"
      else
        let name ← requireNonEmptyString "pose_keypoint_name" (lookup point "name")
        if name ∈ coco17KeypointNames then
          let x ← normalizeNumber "pose_keypoint_x" (lookup point "x")
          let y ← normalizeNumber "pose_keypoint_y" (lookup point "y")
          let confidence ← normalizeUnitFloat "pose_keypoint_confidence"
            (lookup point "confidence")
          return .dict [(text "index", .int index), (text "name", .str name),
            (text "x", .float x), (text "y", .float y),
            (text "confidence", .float confidence)]
        else invalid "invalid_pose_keypoint_name"
  | _ => invalid "invalid_pose_keypoints"

/-- A point that is a list of its first three numbers, and none of a shorter list. -/
def validateListedKeypoint : Json → Except Invalid (Option Json)
  | .list (first :: second :: third :: _) => do
      let x ← normalizeNumber "pose_keypoint_x" (some first)
      let y ← normalizeNumber "pose_keypoint_y" (some second)
      let confidence ← normalizeUnitFloat "pose_keypoint_confidence" (some third)
      return some (.list [.float x, .float y, .float confidence])
  | _ => return none

def isDict : Json → Bool
  | .dict _ => true
  | _ => false

def isList : Json → Bool
  | .list _ => true
  | _ => false

def pointCount (value : Json) : Except Invalid Json := do
  let count ← requireInt "pose_keypoint_count" (some value)
  if count ≠ 17 then invalid "invalid_pose_keypoints" else return .int count

def describedRules : List (FieldRule Invalid) :=
  [.optional "point_count" pointCount,
    .test "coordinate_space" fun
      | none | some .null => .ok ()
      | some (.str content) =>
        if content = text "pixel" then .ok ()
        else invalid "invalid_pose_keypoint_coordinate_space"
      | some _ => invalid "invalid_pose_keypoint_coordinate_space"]

def describedKeypoints : Option Json → Except Invalid Json
  | some (.dict keypoints) => (applyRules describedRules keypoints).map .dict
  | _ => invalid "invalid_pose_keypoints"

def namedKeypoints : Option Json → Except Invalid Json
  | some (.list items) =>
    if items.length ≠ 17 then invalid "invalid_pose_keypoints"
    else (items.zipIdx.mapM fun (item, index) => validateNamedKeypoint index item).map .list
  | _ => invalid "invalid_pose_keypoints"

def listedKeypoints : Option Json → Except Invalid Json
  | some (.list items) =>
    if items.length ≠ 17 then invalid "invalid_pose_keypoints"
    else do
      let points := (← items.mapM validateListedKeypoint).reduceOption
      if points.length ≠ 17 then invalid "invalid_pose_keypoints" else return .list points
  | _ => invalid "invalid_pose_keypoints"

section Poses

variable (strOf : Json → Text)

/-- `str(value)`. -/
def str : Json → Text
  | .str content => content
  | value => strOf value

/-- `str(value or fallback)`. -/
def strOr (fallback : String) : Option Json → Text
  | some value => if value.truthy then str strOf value else text fallback
  | none => text fallback

/-- A text that is filled in where it is missing, and must be the one that is filled in. -/
def fallbackField (key constant message : String) : FieldRule Invalid :=
  .required key fun found =>
    if strOr strOf constant found = text constant then .ok (.str (strOr strOf constant found))
    else invalid message

def namedRules : List (FieldRule Invalid) :=
  [.required "keypoints" namedKeypoints,
    .required "keypoint_count" fun _ => .ok (.int 17),
    fallbackField strOf "keypoints_format" "coco17" "invalid_pose_keypoints_format",
    fallbackField strOf "keypoint_coordinate_space" "pixel"
      "invalid_pose_keypoint_coordinate_space"]

def poseRules : Option Json → Except Invalid (List (FieldRule Invalid))
  | none | some .null => .ok []
  | some (.dict _) => .ok [.required "keypoints" describedKeypoints]
  | some (.list items) =>
    if items ≠ [] ∧ items.all isDict = true then .ok (namedRules strOf)
    else if items ≠ [] ∧ items.all isList = true then
      .ok [.required "keypoints" listedKeypoints]
    else invalid "invalid_pose_keypoints"
  | some _ => invalid "invalid_pose_keypoints"

/-- `_validate_pose_summary`. -/
def validatePoseSummary : Json → Except Invalid Json
  | .dict pose => do
      let rules ← poseRules strOf (lookup pose "keypoints")
      return .dict (← applyRules rules pose)
  | _ => invalid "invalid_pose"

/-! ## Objects -/

def qualityOf : Option Json → Except Invalid Json
  | none => .ok (.dict [])
  | some (.dict quality) => .ok (.dict quality)
  | some _ => invalid "invalid_quality"

def objectRules : List (FieldRule Invalid) :=
  [memberField "object_type" ["person", "face", "behavior_event"] "invalid_object_type",
    stringField "object_id",
    optionalString "track_id",
    optionalString "source_observation_id",
    .required "bbox" validateBbox,
    .required "quality" qualityOf,
    .optional "embedding" validateEmbeddingSummary,
    .optional "pose" (validatePoseSummary strOf)]

/-- `str(value)` where there is a value. -/
def strOfValue : Option Json → Option Text
  | none | some .null => none
  | some value => some (str strOf value)

/-- `_embedding_status`. -/
def embeddingStatus (object : Entries) : Option Text :=
  let ofSummary :=
    match lookup object "embedding" with
    | some (.dict summary) => strOfValue strOf (lookup summary "embedding_status")
    | _ => none
  ofSummary.or (strOfValue strOf (lookup object "embedding_status"))

def checkFace (object : Entries) : Except Invalid Unit :=
  let isFace : Bool :=
    match lookup object "object_type" with
    | some (.str content) => content = text "face"
    | _ => false
  let reidAllowed : Bool :=
    match lookup object "quality" with
    | some (.dict quality) =>
      match lookup quality "reid_allowed" with
      | some (.bool allowed) => allowed
      | _ => false
    | _ => false
  let sourced := (lookup object "source_observation_id").any Json.truthy
  if isFace && !sourced then
    if reidAllowed then invalid "missing_source_observation_id_for_reid_face"
    else if embeddingStatus strOf object = some (text "generated") then
      invalid "missing_source_observation_id_for_generated_embedding"
    else .ok ()
  else .ok ()

def detailRules : List (FieldRule Invalid) :=
  [dictionaryField "label" "invalid_label", dictionaryField "extra" "invalid_extra"]

/-- `_validate_frame_object`. -/
def validateFrameObject (index : Nat) : Json → Except Invalid Json
  | .dict object => do
      let normalized ← applyRules (objectRules strOf) object
      scanFieldsBut "embedding" (fun key => text "objects" ++ indexText index ++ text "." ++ key)
        normalized
      checkFace strOf normalized
      return .dict (← applyRules detailRules normalized)
  | _ => .error (.valueError (text "invalid_object:" ++ text (toString index)))

/-! ## Messages -/

def ttlField : FieldRule Invalid :=
  .required "ttl_seconds" fun value => do
    let seconds ← requireInt "ttl_seconds" value
    if seconds < 1 ∨ 3600 < seconds then invalid "invalid_ttl_seconds" else return .int seconds

/-- `_validate_schema` and the ids of source and camera. -/
def headRules (messageType : String) : List (FieldRule Invalid) :=
  [constantField "schema_version" "1.0" "invalid_schema_version",
    constantField "message_type" messageType "invalid_message_type",
    stringField "source_id",
    stringField "camera_id"]

def frameRules : List (FieldRule Invalid) :=
  [optionalInt "frame_pts", optionalString "frame_uuid", optionalString "keyframe_uuid",
    optionalString "previous_keyframe_uuid", optionalInt "keyframe_pts", optionalInt "frame_dts",
    optionalInt "duration", optionalString "time_base", optionalString "stream_session_id",
    optionalInt "frame_num", optionalInt "timestamp_ms", ttlField]

def hasText : Option Json → Bool
  | some (.str content) => strip content ≠ []
  | _ => false

def checkFrameAnchor (message : Entries) : Except Invalid Unit :=
  match lookup message "frame_pts" with
  | none | some .null =>
    if hasText (lookup message "frame_uuid") then .ok () else invalid "missing_frame_anchor"
  | some _ => .ok ()

/-- `validate_frame_annotation_message`. -/
def validateFrameAnnotationMessage (maxObjectsPerFrame : Int) : Json → Except Invalid Json
  | .dict payload => do
      if maxObjectsPerFrame < 0 then invalid "invalid_max_objects_per_frame"
      else
        let identified ← applyRules (headRules "frame_annotation") payload
        checkFrameAnchor identified
        let message ← applyRules frameRules identified
        match lookup message "objects" with
        | some (.list objects) =>
          if maxObjectsPerFrame < objects.length then invalid "too_many_objects"
          else
            scanFieldsBut "objects" id message
            let normalized ← objects.zipIdx.mapM fun (object, index) =>
              validateFrameObject strOf index object
            return .dict (Json.store message "objects" (.list normalized))
        | _ => invalid "invalid_objects"
  | _ => invalid "invalid_payload"

end Poses

def patchRules : List (FieldRule Invalid) :=
  headRules "identity_patch" ++
    [stringField "source_observation_id",
      memberField "event_type" ["watchlist_hit", "live_search_hit", "gallery_match"]
        "invalid_event_type",
      optionalUnitFloat "similarity" "similarity",
      optionalUnitFloat "threshold" "threshold",
      optionalInt "frame_pts",
      optionalInt "timestamp_ms",
      optionalString "frame_uuid",
      .optional "bbox" fun value => validateBboxList "bbox" (some value)]

/-- `validate_identity_patch_message`. -/
def validateIdentityPatchMessage : Json → Except Invalid Json
  | .dict payload => do
      scanForbiddenFields (text "identity_patch") true (.dict payload)
      return .dict (← applyRules patchRules payload)
  | _ => invalid "invalid_payload"

end VideoAnalysis.Evidence
