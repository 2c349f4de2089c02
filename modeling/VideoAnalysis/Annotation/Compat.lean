import VideoAnalysis.Evidence.AcceptedObjects

/-! # The fallback validation of frame annotations

The pipeline checks its messages with a copy of the frame annotation checks where the shared
library is not mounted. An error is the text of a check, or what a conversion raises.
-/

namespace VideoAnalysis.Annotation

open Foundation Python Evidence
open Json (lookup)

inductive BuildError
  | invalid (message : Text)
  | raised (error : PyError)

def refuse {Value : Type} (message : String) : Except BuildError Value :=
  .error (.invalid (text message))

def require (holds : Bool) (message : String) : Except BuildError Unit :=
  if holds then .ok () else refuse message

def convert {Value : Type} : Except PyError Value → Except BuildError Value
  | .ok value => .ok value
  | .error error => .error (.raised error)

/-! ## Values -/

/-- A truth value is an instance of `int`. -/
def intOrBool : Option Json → Option Int
  | some (.bool value) => some (if value then 1 else 0)
  | value => intOf value

def floatOf : Option Json → Except PyError Double
  | some value => value.toFloat
  | none => .error .typeError

def zero : Double := .finite false 0

def one : Double := .finite false 1

/-! ## Forbidden fields -/

mutual

/-- `_scan_forbidden`; that summaries of embeddings are allowed is handed on and never
asked. -/
def scanForbidden (path : Text) : Json → Except BuildError Unit
  | .dict entries => scanForbiddenEntries path entries
  | .list items => scanForbiddenItems path 0 items
  | .null | .bool _ | .int _ | .float _ | .str _ => .ok ()

def scanForbiddenEntries (path : Text) : List (Text × Json) → Except BuildError Unit
  | [] => .ok ()
  | (key, child) :: rest => do
      if lower key ∈ forbiddenImageFields then
        .error (.invalid (text "image_bytes_forbidden:" ++ path ++ text "." ++ key))
      else if lower key ∈ forbiddenVectorFields then
        .error (.invalid (text "embedding_vector_forbidden:" ++ path ++ text "." ++ key))
      else
        scanForbidden (path ++ text "." ++ key) child
        scanForbiddenEntries path rest

def scanForbiddenItems (path : Text) (position : Nat) : List Json → Except BuildError Unit
  | [] => .ok ()
  | child :: rest => do
      scanForbidden (path ++ indexText position) child
      scanForbiddenItems path (position + 1) rest

end

/-! ## Boxes and summaries -/

def validateCornersCompat : Option Json → Except BuildError Unit
  | some (.list [first, second, third, fourth]) => do
      let x1 ← convert first.toFloat
      let y1 ← convert second.toFloat
      let x2 ← convert third.toFloat
      let y2 ← convert fourth.toFloat
      require ([x1, y1, x2, y2].all Double.isFinite && !x2.lessThan x1 && !y2.lessThan y1)
        "invalid_bbox"
  | _ => refuse "invalid_bbox"

def validateConfidenceCompat (value : Option Json) : Except BuildError Unit :=
  if absent value then .ok ()
  else do
    let confidence ← convert (floatOf value)
    require (!confidence.lessThan zero && !one.lessThan confidence) "invalid_bbox_confidence"

def validateBboxCompat : Option Json → Except BuildError Unit
  | some (.dict bbox) => do
      require (isText "xyxy" (lookup bbox "format")) "invalid_bbox"
      require (isText "pixel" (lookup bbox "coordinate_space"))
        "invalid_bbox_coordinate_space"
      validateCornersCompat (lookup bbox "xyxy")
      validateConfidenceCompat (lookup bbox "confidence")
  | _ => refuse "invalid_bbox"

def validateEmbeddingCompat : Option Json → Except BuildError Unit
  | none | some .null => .ok ()
  | some (.dict summary) => do
      require (isFalse (lookup summary "embedding_included")) "embedding_vector_forbidden"
      require (summary.all fun entry => entry.1 ∈ allowedEmbeddingSummaryFields)
        "embedding_vector_forbidden"
  | some _ => refuse "embedding_vector_forbidden"

/-! ## Poses -/

def coordinateCompat (value : Option Json) : Except BuildError Unit := do
  let number ← convert (floatOf value)
  require number.isFinite "invalid_pose_keypoints"

def namedPointCompat : Json → Except BuildError Unit
  | .dict point => do
      require ((intOrBool (lookup point "index")).any fun index => 0 ≤ index && index < 17)
        "invalid_pose_keypoints"
      ["x", "y", "confidence"].forM fun field => coordinateCompat (lookup point field)
  | _ => .ok ()

def listedPointCompat : Json → Except BuildError Unit
  | .list point =>
    if point.length < 3 then refuse "invalid_pose_keypoints"
    else (point.take 3).forM fun item => coordinateCompat (some item)
  | _ => .ok ()

def keypointListCompat (items : List Json) : Except BuildError Unit :=
  if items ≠ [] ∧ items.all isDict = true then do
    require (items.length = 17) "invalid_pose_keypoints"
    items.forM namedPointCompat
  else if items ≠ [] ∧ items.all isList = true then do
    require (items.length = 17) "invalid_pose_keypoints"
    items.forM listedPointCompat
  else refuse "invalid_pose_keypoints"

def pointCountCompat : Option Json → Except BuildError Unit
  | none | some .null => .ok ()
  | some value => do
      let count ← convert value.toInt
      require (count = 17) "invalid_pose_keypoints"

/-- `_validate_pose_compat`, where there is a pose. -/
def validatePoseCompat : Option Json → Except BuildError Unit
  | none | some .null => .ok ()
  | some (.dict pose) =>
    match lookup pose "keypoints" with
    | none | some .null => .ok ()
    | some (.list items) => keypointListCompat items
    | some (.dict keypoints) => pointCountCompat (lookup keypoints "point_count")
    | some _ => refuse "invalid_pose_keypoints"
  | some _ => refuse "invalid_pose"

/-! ## Objects -/

def objectTypeCompat : Option Json → Except BuildError Unit
  | some (.list _) | some (.dict _) => .error (.raised .typeError)
  | some (.str content) =>
    require (content ∈ ["person", "face", "behavior_event"].map text) "invalid_object_type"
  | _ => refuse "invalid_object_type"

def checkFaceCompat (object : Entries) : Except BuildError Unit :=
  if isText "face" (lookup object "object_type") then do
    let sourced := hasText (lookup object "source_observation_id")
    require (!isTrue (lookupIn (lookup object "quality") "reid_allowed") || sourced)
      "missing_source_observation_id_for_reid_face"
    require
      (!isText "generated" (lookupIn (lookup object "embedding") "embedding_status") ||
        sourced)
      "missing_source_observation_id_for_generated_embedding"
  else .ok ()

/-- `_validate_object_compat`. -/
def validateObjectCompat : Json → Except BuildError Unit
  | .dict object => do
      objectTypeCompat (lookup object "object_type")
      require (hasText (lookup object "object_id")) "missing_object_id"
      validateBboxCompat (lookup object "bbox")
      validateEmbeddingCompat (lookup object "embedding")
      validatePoseCompat (lookup object "pose")
      checkFaceCompat object
  | _ => refuse "invalid_object"

/-! ## Messages -/

def compatTextFields : List String :=
  ["keyframe_uuid", "previous_keyframe_uuid", "time_base", "stream_session_id"]

def compatIntFields : List String := ["keyframe_pts", "frame_dts", "duration"]

/-- `_validate_frame_annotation_message_compat`. -/
def validateFrameAnnotationMessageCompat (maxObjectsPerFrame : Int) :
    Json → Except BuildError Json
  | .dict data => do
      require (isText "1.0" (lookup data "schema_version")) "invalid_schema_version"
      require (isText "frame_annotation" (lookup data "message_type"))
        "invalid_message_type"
      require (hasText (lookup data "source_id")) "missing_source_id"
      require (hasText (lookup data "camera_id")) "missing_camera_id"
      require (!absent (lookup data "frame_pts") || hasText (lookup data "frame_uuid"))
        "missing_frame_anchor"
      compatTextFields.forM fun name =>
        require (absent (lookup data name) || hasText (lookup data name))
          ("missing_" ++ name)
      compatIntFields.forM fun name =>
        require (absent (lookup data name) || (intOf (lookup data name)).isSome)
          ("invalid_" ++ name)
      require ((intOrBool (lookup data "ttl_seconds")).any fun seconds =>
        1 ≤ seconds && seconds ≤ 3600) "invalid_ttl_seconds"
      match lookup data "objects" with
      | some (.list objects) => do
          require (objects.length ≤ maxObjectsPerFrame) "too_many_objects"
          scanForbidden (text "frame_annotation") (.dict data)
          objects.forM validateObjectCompat
          return .dict data
      | _ => refuse "invalid_objects"
  | _ => .error (.raised .attributeError)

/-! ## What the fallback accepts -/

theorem require_ok_iff {holds : Bool} {message : String} :
    require holds message = .ok () ↔ holds = true := by
  cases holds with
  | true => exact iff_of_true rfl rfl
  | false => exact iff_of_false nofun Bool.false_ne_true

theorem convert_ok_iff {Value : Type} {result : Except PyError Value} {value : Value} :
    convert result = .ok value ↔ result = .ok value := by
  cases result with
  | ok | error => simp [convert]

def Unforbidden (name : Text) : Prop :=
  lower name ∉ forbiddenImageFields ∧ lower name ∉ forbiddenVectorFields

instance : DecidablePred Unforbidden :=
  fun name => inferInstanceAs (Decidable
    (lower name ∉ forbiddenImageFields ∧ lower name ∉ forbiddenVectorFields))

mutual

theorem scanForbidden_ok_iff (path : Text) :
    (value : Json) → (scanForbidden path value = .ok () ↔ Json.KeysSatisfy Unforbidden value)
  | .dict entries => by
      rw [scanForbidden, Json.keysSatisfy_dict]
      exact scanForbiddenEntries_ok_iff path entries
  | .list items => by
      rw [scanForbidden, Json.keysSatisfy_list]
      exact scanForbiddenItems_ok_iff path 0 items
  | .null | .bool _ | .int _ | .float _ | .str _ => by
      exact ⟨fun _ => Json.keysSatisfy_of_isScalar rfl, fun _ => rfl⟩

theorem scanForbiddenEntries_ok_iff (path : Text) :
    (entries : List (Text × Json)) → (scanForbiddenEntries path entries = .ok () ↔
      ∀ entry ∈ entries, Unforbidden entry.1 ∧ Json.KeysSatisfy Unforbidden entry.2)
  | [] => ⟨fun _ _ member => absurd member List.not_mem_nil, fun _ => rfl⟩
  | (key, child) :: rest => by
      have below := scanForbidden_ok_iff (path ++ text "." ++ key) child
      have others := scanForbiddenEntries_ok_iff path rest
      rw [List.forall_mem_cons, ← others, ← below, scanForbiddenEntries]
      split
      next image =>
        exact ⟨fun failed => (by cases failed), fun each => absurd image each.1.1.1⟩
      next notImage =>
        split
        next vector =>
          exact ⟨fun failed => (by cases failed), fun each => absurd vector each.1.1.2⟩
        next notVector =>
          have unforbidden : Unforbidden key := ⟨notImage, notVector⟩
          rw [andThen_eq_ok_iff]
          exact ⟨fun both => ⟨⟨unforbidden, both.1⟩, both.2⟩, fun both => ⟨both.1.2, both.2⟩⟩

theorem scanForbiddenItems_ok_iff (path : Text) (position : Nat) :
    (items : List Json) → (scanForbiddenItems path position items = .ok () ↔
      ∀ item ∈ items, Json.KeysSatisfy Unforbidden item)
  | [] => ⟨fun _ _ member => absurd member List.not_mem_nil, fun _ => rfl⟩
  | child :: rest => by
      have below := scanForbidden_ok_iff (path ++ indexText position) child
      have others := scanForbiddenItems_ok_iff path (position + 1) rest
      rw [List.forall_mem_cons, ← others, ← below, scanForbiddenItems, andThen_eq_ok_iff]

end

/-- What the fallback asks of an object. -/
structure CompatObject (object : Entries) : Prop where
  kind : objectTypeCompat (lookup object "object_type") = .ok ()
  id : hasText (lookup object "object_id") = true
  bbox : validateBboxCompat (lookup object "bbox") = .ok ()
  embedding : validateEmbeddingCompat (lookup object "embedding") = .ok ()
  pose : validatePoseCompat (lookup object "pose") = .ok ()
  face : checkFaceCompat object = .ok ()

theorem validateObjectCompat_ok_iff {value : Json} :
    validateObjectCompat value = .ok () ↔ ∃ object, value = .dict object ∧ CompatObject object := by
  cases value with
  | dict object =>
    simp only [validateObjectCompat, check_bind_eq_ok_iff, require_ok_iff, Json.dict.injEq,
      exists_eq_left']
    exact ⟨fun ⟨kind, id, bbox, embedding, pose, face⟩ =>
        { kind, id, bbox, embedding, pose, face },
      fun compat => ⟨compat.kind, compat.id, compat.bbox, compat.embedding, compat.pose,
        compat.face⟩⟩
  | null | bool _ | int _ | float _ | str _ | list _ => simp [validateObjectCompat, refuse]

/-- What the fallback asks of a message. -/
structure CompatMessage (maxObjectsPerFrame : Int) (data : Entries) (objects : List Json) :
    Prop where
  schema : isText "1.0" (lookup data "schema_version") = true
  kind : isText "frame_annotation" (lookup data "message_type") = true
  source : hasText (lookup data "source_id") = true
  camera : hasText (lookup data "camera_id") = true
  anchored : (!absent (lookup data "frame_pts") ||
    hasText (lookup data "frame_uuid")) = true
  texts : ∀ name ∈ compatTextFields,
    (absent (lookup data name) || hasText (lookup data name)) = true
  ints : ∀ name ∈ compatIntFields,
    (absent (lookup data name) || (intOf (lookup data name)).isSome) = true
  ttl : (intOrBool (lookup data "ttl_seconds")).any
    (fun seconds => 1 ≤ seconds && seconds ≤ 3600) = true
  given : lookup data "objects" = some (.list objects)
  few : objects.length ≤ maxObjectsPerFrame
  scanned : Json.KeysSatisfy Unforbidden (.dict data)
  each : ∀ object ∈ objects, ∃ entries, object = .dict entries ∧ CompatObject entries

theorem validateFrameAnnotationMessageCompat_ok_iff {maxObjectsPerFrame : Int}
    {found message : Json} :
    validateFrameAnnotationMessageCompat maxObjectsPerFrame found = .ok message ↔
      message = found ∧ ∃ data objects, found = .dict data ∧
        CompatMessage maxObjectsPerFrame data objects := by
  cases found with
  | dict data =>
    simp only [validateFrameAnnotationMessageCompat, check_bind_eq_ok_iff, require_ok_iff,
      forM_eq_ok_iff, Json.dict.injEq]
    constructor
    · rintro ⟨schema, kind, source, camera, anchored, texts, ints, ttl, accepted⟩
      split at accepted
      next objects given =>
        simp only [check_bind_eq_ok_iff, require_ok_iff, forM_eq_ok_iff, decide_eq_true_eq,
          scanForbidden_ok_iff, validateObjectCompat_ok_iff] at accepted
        rcases accepted with ⟨few, scanned, each, same⟩
        cases same
        exact ⟨rfl, data, objects, rfl,
          { schema, kind, source, camera, anchored, texts, ints, ttl, given, few, scanned,
            each }⟩
      next => cases accepted
    · rintro ⟨rfl, _, objects, rfl, compat⟩
      refine ⟨compat.schema, compat.kind, compat.source, compat.camera, compat.anchored,
        compat.texts, compat.ints, compat.ttl, ?_⟩
      simp only [compat.given, check_bind_eq_ok_iff, require_ok_iff, forM_eq_ok_iff,
        decide_eq_true_eq, scanForbidden_ok_iff, validateObjectCompat_ok_iff]
      exact ⟨compat.few, compat.scanned, compat.each, rfl⟩
  | null | bool _ | int _ | float _ | str _ | list _ =>
    simp [validateFrameAnnotationMessageCompat]

end VideoAnalysis.Annotation
