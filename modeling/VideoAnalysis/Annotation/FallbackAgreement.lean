import VideoAnalysis.Annotation.BuiltMessages

/-! # The fallback and the contract

What the fallback takes, the contract takes exactly if it is plain; and of a message of the
builder both make the same, as far as both take it.
-/

namespace VideoAnalysis.Annotation

open Foundation Python Evidence

/-! ## Keys of the builder -/

/-- No key is forbidden, and no dictionary has a key twice. -/
structure Clean (value : Json) : Prop where
  unforbidden : Json.KeysSatisfy Unforbidden value
  distinct : value.distinct = true

namespace Clean

theorem scalar {value : Json} (isScalar : value.isScalar = true) : Clean value where
  unforbidden := Json.keysSatisfy_of_isScalar isScalar
  distinct := by
    cases value with
    | null | bool _ | int _ | float _ | str _ => rfl
    | list _ | dict _ => cases isScalar

theorem list {items : List Json} (each : ∀ item ∈ items, Clean item) : Clean (.list items) where
  unforbidden := Json.keysSatisfy_list.mpr fun item member => (each item member).unforbidden
  distinct := by
    rw [Json.distinct]
    induction items with
    | nil => rfl
    | cons _ _ induction =>
      rw [List.forall_mem_cons] at each
      rw [Json.distinctItems, each.1.distinct, induction each.2]
      rfl

theorem dict {entries : Entries} {names : List String}
    (keys : (entries.map Prod.fst).Sublist (names.map text)) (apart : names.Nodup)
    (allowed : ∀ name ∈ names, Unforbidden (text name))
    (each : ∀ entry ∈ entries, Clean entry.2) : Clean (.dict entries) where
  unforbidden := by
    rw [Json.keysSatisfy_dict]
    intro entry member
    rcases List.mem_map.mp (keys.subset (List.mem_map_of_mem member)) with ⟨name, known, same⟩
    exact ⟨same ▸ allowed name known, (each entry member).unforbidden⟩
  distinct := by
    have nodup : (entries.map Prod.fst).Nodup := keys.nodup (apart.map text_injective)
    rw [Json.distinct, Bool.and_eq_true, decide_eq_true_eq]
    refine ⟨nodup, ?_⟩
    clear keys nodup
    induction entries with
    | nil => rfl
    | cons entry _ induction =>
      rcases entry with ⟨key, value⟩
      rw [List.forall_mem_cons] at each
      rw [Json.distinctEntries, each.1.distinct, induction each.2]
      rfl

end Clean

theorem keys_entryOf (key : String) (value : Option Json) :
    ((entryOf key value).map Prod.fst).Sublist [text key] := by
  cases value with
  | none => exact List.nil_sublist _
  | some => exact List.Sublist.refl _

theorem clean_entryOf {key : String} {value : Option Json}
    (clean : ∀ found, value = some found → Clean found) :
    ∀ entry ∈ entryOf key value, Clean entry.2 := by
  intro entry member
  cases value with
  | none => cases member
  | some found =>
    rw [List.mem_singleton.mp member]
    exact clean found rfl

theorem clean_optionalText (value : Option Text) : Clean (optionalText value) := by
  cases value <;> exact .scalar rfl

theorem clean_optionalNumber (value : Option Int) : Clean (optionalNumber value) := by
  cases value <;> exact .scalar rfl

theorem clean_optionalDouble (value : Option Double) : Clean (optionalDouble value) := by
  cases value <;> exact .scalar rfl

theorem clean_doubles (doubles : List Double) : Clean (.list (doubles.map .float)) := by
  refine .list fun item member => ?_
  rcases List.mem_map.mp member with ⟨_, _, rfl⟩
  exact .scalar rfl

theorem clean_bbox (bbox : List Double) (confidence : Option Double) :
    Clean (.dict (bboxEntries bbox confidence)) := by
  refine @Clean.dict _ ["format", "xyxy", "confidence", "coordinate_space"] (List.Sublist.refl _)
    (by decide) (by decide) ?_
  simp only [bboxEntries, List.forall_mem_cons]
  exact ⟨.scalar rfl, clean_doubles bbox, clean_optionalDouble confidence, .scalar rfl,
    List.forall_mem_nil _⟩

theorem clean_keypoints (mode : Text) (triples : List (Double × Double × Double)) :
    ∀ value, keypointsOf mode triples = some value → Clean value := by
  intro value isValue
  unfold keypointsOf at isValue
  split at isValue
  next =>
    cases isValue
    refine @Clean.dict _ ["format", "coordinate_space", "point_count"] (List.Sublist.refl _)
      (by decide) (by decide) ?_
    simp only [List.forall_mem_cons]
    exact ⟨.scalar rfl, .scalar rfl, .scalar rfl, List.forall_mem_nil _⟩
  next =>
    split at isValue
    next =>
      cases isValue
      refine .list fun item member => ?_
      rcases List.mem_map.mp member with ⟨⟨_, index⟩, _, rfl⟩
      refine @Clean.dict _ ["index", "name", "x", "y", "confidence"] (List.Sublist.refl _)
        (by decide) (by decide) ?_
      simp only [namedKeypoint, List.forall_mem_cons]
      exact ⟨.scalar rfl, .scalar rfl, .scalar rfl, .scalar rfl, .scalar rfl,
        List.forall_mem_nil _⟩
    next => cases isValue

theorem clean_pose (mode : Text) (triples : List (Double × Double × Double)) :
    Clean (.dict (poseSummary mode triples)) := by
  refine @Clean.dict _ ["keypoints_format", "keypoint_coordinate_space", "keypoint_count",
    "visible_keypoint_count", "mean_keypoint_confidence", "keypoints"] ?_ (by decide)
    (by decide) ?_
  · rw [poseSummary, List.map_append]
    exact (List.Sublist.refl _).append (keys_entryOf _ _)
  · rw [poseSummary, List.forall_mem_append]
    refine ⟨?_, clean_entryOf (clean_keypoints mode triples)⟩
    simp only [List.forall_mem_cons]
    exact ⟨.scalar rfl, .scalar rfl, .scalar rfl, .scalar rfl, .scalar rfl,
      List.forall_mem_nil _⟩

theorem clean_landmarks (mode : Text) (points : List Double) :
    Clean (.dict (landmarkEntries mode points)) := by
  refine @Clean.dict _ ["status", "points"] ?_ (by decide) (by decide) ?_
  · exact (keys_entryOf _ _).cons_cons _
  · rw [landmarkEntries, List.forall_mem_cons]
    refine ⟨.scalar rfl, clean_entryOf fun value isValue => ?_⟩
    split at isValue
    next =>
      cases isValue
      exact clean_doubles _
    next => cases isValue

theorem clean_summary (feature : List Double) : Clean (.dict (embeddingSummary feature)) := by
  refine @Clean.dict _ ["embedding_model", "embedding_dim", "embedding_norm", "embedding_status",
    "embedding_included"] (List.Sublist.refl _) (by decide) (by decide) ?_
  simp only [embeddingSummary, List.forall_mem_cons]
  exact ⟨.scalar rfl, .scalar rfl, .scalar rfl, .scalar rfl, .scalar rfl, List.forall_mem_nil _⟩

def personKeys : List String :=
  ["object_id", "object_type", "track_id", "original_object_index", "bbox", "quality", "pose",
    "source_object_fingerprint"]

def faceKeys : List String :=
  ["object_id", "object_type", "track_id", "source_observation_id", "original_object_index",
    "bbox", "quality", "landmarks", "embedding", "source_object_fingerprint"]

theorem clean_person {sha256 : Entries → Text} {trackId : Option Text} {objectIndex : Nat}
    {bbox : List Double} {confidence : Option Double} {pose : Option Json}
    (isPose : ∀ value, pose = some value → ∃ mode triples, value = .dict (poseSummary mode triples)) :
    Clean (withFingerprint sha256 (personEntries trackId objectIndex bbox confidence pose)) := by
  refine @Clean.dict _ personKeys ?_ (by decide) (by decide) ?_
  · rw [personEntries, List.map_append, List.map_append]
    exact ((List.Sublist.refl _).append (keys_entryOf _ _)).append (List.Sublist.refl _)
  · rw [personEntries, List.forall_mem_append, List.forall_mem_append]
    refine ⟨⟨?_, clean_entryOf fun value isValue => ?_⟩, ?_⟩
    · have quality : Clean (.dict [(text "person_confidence", optionalDouble confidence),
          (text "quality_status", .str (text "ok"))]) := by
        refine @Clean.dict _ ["person_confidence", "quality_status"] (List.Sublist.refl _)
          (by decide) (by decide) ?_
        simp only [List.forall_mem_cons]
        exact ⟨clean_optionalDouble confidence, .scalar rfl, List.forall_mem_nil _⟩
      simp only [List.forall_mem_cons]
      exact ⟨.scalar rfl, .scalar rfl, clean_optionalText trackId, .scalar rfl,
        clean_bbox bbox confidence, quality, List.forall_mem_nil _⟩
    · rcases isPose value isValue with ⟨mode, triples, rfl⟩
      exact clean_pose mode triples
    · rw [List.forall_mem_singleton]
      exact .scalar rfl

theorem clean_faceQuality (parts : FaceParts) :
    Clean (.dict ([(text "face_confidence", optionalDouble parts.confidence),
      (text "face_quality", optionalDouble parts.faceQuality)] ++
      entryOf "reid_allowed" (parts.reidAllowed.map .bool) ++
      entryOf "reid_skip_reason" (parts.reidSkipReason.map .str))) := by
  refine @Clean.dict _ ["face_confidence", "face_quality", "reid_allowed", "reid_skip_reason"] ?_
    (by decide) (by decide) ?_
  · rw [List.map_append, List.map_append]
    exact ((List.Sublist.refl _).append (keys_entryOf _ _)).append (keys_entryOf _ _)
  · rw [List.forall_mem_append, List.forall_mem_append]
    refine ⟨⟨?_, clean_entryOf fun value isValue => ?_⟩, clean_entryOf fun value isValue => ?_⟩
    · simp only [List.forall_mem_cons]
      exact ⟨clean_optionalDouble _, clean_optionalDouble _, List.forall_mem_nil _⟩
    · rcases Option.map_eq_some_iff.mp isValue with ⟨_, _, rfl⟩
      exact .scalar rfl
    · rcases Option.map_eq_some_iff.mp isValue with ⟨_, _, rfl⟩
      exact .scalar rfl

theorem clean_face {sha256 : Entries → Text} {parts : FaceParts}
    (isLandmarks : ∀ value, parts.landmarks = some value →
      ∃ mode points, value = .dict (landmarkEntries mode points)) :
    Clean (withFingerprint sha256 (faceEntries parts)) := by
  refine @Clean.dict _ faceKeys ?_ (by decide) (by decide) ?_
  · rw [faceEntries, List.map_append, List.map_append, List.map_append]
    exact (((List.Sublist.refl _).append (keys_entryOf _ _)).append (keys_entryOf _ _)).append
      (List.Sublist.refl _)
  · rw [faceEntries, List.forall_mem_append, List.forall_mem_append, List.forall_mem_append]
    refine ⟨⟨⟨?_, clean_entryOf fun value isValue => ?_⟩,
      clean_entryOf fun value isValue => ?_⟩, ?_⟩
    · simp only [List.forall_mem_cons]
      exact ⟨.scalar rfl, .scalar rfl, clean_optionalText _, clean_optionalText _, .scalar rfl,
        clean_bbox _ _, clean_faceQuality parts, List.forall_mem_nil _⟩
    · rcases isLandmarks value isValue with ⟨mode, points, rfl⟩
      exact clean_landmarks mode points
    · rcases Option.map_eq_some_iff.mp isValue with ⟨feature, _, rfl⟩
      exact clean_summary feature
    · rw [List.forall_mem_singleton]
      exact .scalar rfl

theorem clean_built {sha256 : Entries → Text} {value : Json} (built : BuiltObject sha256 value) :
    Clean value := by
  cases built with
  | person isPose => exact clean_person isPose
  | face isLandmarks => exact clean_face isLandmarks

def messageKeys : List String :=
  ["schema_version", "producer", "message_type", "source_id", "camera_id", "frame_pts",
    "frame_uuid", "keyframe_uuid", "previous_keyframe_uuid", "keyframe_pts", "frame_dts",
    "duration", "time_base", "frame_num", "timestamp_ms", "runtime_epoch_id",
    "stream_session_id", "objects", "ttl_seconds", "created_at"]

theorem clean_message {sha256 : Entries → Text} (fields : FrameFields)
    (config : FrameAnnotationBuildConfig) {objects : List Json}
    (built : ∀ object ∈ objects, BuiltObject sha256 object) :
    Clean (.dict (messageEntries fields config objects)) := by
  refine @Clean.dict _ messageKeys (List.Sublist.refl _) (by decide) (by decide) ?_
  have areClean : Clean (.list objects) := .list fun object member => clean_built (built object member)
  simp only [messageEntries, List.forall_mem_cons]
  exact ⟨.scalar rfl, .scalar rfl, .scalar rfl, .scalar rfl, .scalar rfl, clean_optionalNumber _,
    clean_optionalText _, clean_optionalText _, clean_optionalText _, clean_optionalNumber _,
    clean_optionalNumber _, clean_optionalNumber _, clean_optionalText _, clean_optionalNumber _,
    clean_optionalNumber _, clean_optionalText _, clean_optionalText _, areClean, .scalar rfl,
    .scalar rfl, List.forall_mem_nil _⟩

/-! ## The two validations -/

/-- The message holds nothing that the fallback leaves unchecked and the contract refuses. -/
def Plain (strText : Json → Text) (message : Json) : Prop :=
  ∀ entries, message = .dict entries → PlainMessage strText entries

section Agreement

variable {strText : Json → Text} {maxObjectsPerFrame : Int}

theorem validateShared_ok_iff {found message : Json} :
    validateShared strText maxObjectsPerFrame found = .ok message ↔
      validateFrameAnnotationMessage strText maxObjectsPerFrame found = .ok message := by
  unfold validateShared
  cases validateFrameAnnotationMessage strText maxObjectsPerFrame found with
  | ok => simp [Except.mapError]
  | error => exact iff_of_false nofun nofun

theorem validateShared_returns_iff {entries : Entries}
    (distinct : (Json.dict entries).distinct = true) :
    Returns (validateShared strText maxObjectsPerFrame (.dict entries)) ↔
      ∃ objects, AcceptedMessage strText maxObjectsPerFrame entries objects := by
  rw [← validateFrameAnnotationMessage_returns_iff distinct]
  exact exists_congr fun message => validateShared_ok_iff

theorem shared_returns_iff_plain {payload : Json} (isDistinct : payload.distinct = true)
    (accepted : Returns (validateFrameAnnotationMessageCompat maxObjectsPerFrame payload)) :
    Returns (validateShared strText maxObjectsPerFrame payload) ↔ Plain strText payload := by
  rcases accepted with ⟨_, isMessage⟩
  rcases validateFrameAnnotationMessageCompat_ok_iff.mp isMessage with
    ⟨_, data, objects, rfl, compat⟩
  have plain : Plain strText (.dict data) ↔ PlainMessage strText data := by
    unfold Plain
    simp
  rw [validateShared_returns_iff isDistinct, plain, ← message_iff compat]
  constructor
  · rintro ⟨others, isAccepted⟩
    have same := isAccepted.given
    rw [compat.given] at same
    cases same
    exact isAccepted
  · exact fun isAccepted => ⟨objects, isAccepted⟩

section Building

variable {strOf : Json → Option Text} {sha256 : Entries → Text}

/-- Of a message of the builder the contract makes nothing else, and the fallback takes it if the
contract does. -/
theorem shared_of_built {fields : FrameFields} {config : FrameAnnotationBuildConfig}
    {objects : List Json} (built : ∀ object ∈ objects, BuiltObject sha256 object) {message : Json}
    (accepted : validateShared strText maxObjectsPerFrame
      (.dict (messageEntries fields config objects)) = .ok message) :
    message = .dict (messageEntries fields config objects) ∧
      validateFrameAnnotationMessageCompat maxObjectsPerFrame
        (.dict (messageEntries fields config objects)) = .ok message := by
  have clean := clean_message fields config built
  have given : Json.lookup (messageEntries fields config objects) "objects" =
      some (.list objects) := by simp [messageEntries, Json.lookup_cons]
  have same := message_normal given (fun object member => normalObject_of_built (built object member))
    (validateShared_ok_iff.mp accepted)
  rcases (validateShared_returns_iff clean.distinct).mp ⟨message, accepted⟩ with ⟨others, isAccepted⟩
  exact ⟨same, validateFrameAnnotationMessageCompat_ok_iff.mpr
    ⟨same, _, others, rfl, message_compat isAccepted clean.unforbidden⟩⟩

theorem built_agrees_iff {fields : FrameFields} {config : FrameAnnotationBuildConfig}
    {frameObjects : List FrameObject} :
    (∀ message,
      buildFrameAnnotationMessage strOf sha256 validateFrameAnnotationMessageCompat fields config
          frameObjects = .ok message ↔
        buildFrameAnnotationMessage strOf sha256 (validateShared strText) fields config
          frameObjects = .ok message) ↔
      ∀ message, buildFrameAnnotationMessage strOf sha256 validateFrameAnnotationMessageCompat
        fields config frameObjects = .ok message → Plain strText message := by
  unfold buildFrameAnnotationMessage
  cases areBuilt : buildObjects strOf sha256 fields config 0 0 frameObjects with
  | error => exact iff_of_true (fun message => Iff.rfl) nofun
  | ok =>
    have built := buildObjects_built areBuilt
    have clean := clean_message fields config built
    simp only [bind, Except.bind]
    constructor
    · intro agree message accepted
      have same := (validateFrameAnnotationMessageCompat_ok_iff.mp accepted).1
      rw [same]
      exact (shared_returns_iff_plain clean.distinct ⟨message, accepted⟩).mp
        ⟨message, (agree message).mp accepted⟩
    · intro plain message
      constructor
      · intro accepted
        have same := (validateFrameAnnotationMessageCompat_ok_iff.mp accepted).1
        rcases (shared_returns_iff_plain clean.distinct ⟨message, accepted⟩).mpr
          (same ▸ plain message accepted) with ⟨other, isShared⟩
        rw [(shared_of_built built isShared).1] at isShared
        rw [same]
        exact isShared
      · exact fun accepted => (shared_of_built built accepted).2

end Building

end Agreement

/-- The fallback is as strong as the contract, and both make the same of a message of the
builder, exactly for messages that are plain. -/
theorem fallback_agrees_iff (strText : Json → Text) (maxObjectsPerFrame : Int) (payload : Payload)
    (strOf : Json → Option Text) (sha256 : Entries → Text) (fields : FrameFields)
    (config : FrameAnnotationBuildConfig) (frameObjects : List FrameObject) :
    ((Returns (validateFrameAnnotationMessageCompat maxObjectsPerFrame payload.value) →
        Returns (validateShared strText maxObjectsPerFrame payload.value)) ↔
      (Returns (validateFrameAnnotationMessageCompat maxObjectsPerFrame payload.value) →
        Plain strText payload.value)) ∧
    ((∀ message,
        buildFrameAnnotationMessage strOf sha256 validateFrameAnnotationMessageCompat fields config
            frameObjects = .ok message ↔
          buildFrameAnnotationMessage strOf sha256 (validateShared strText) fields config
            frameObjects = .ok message) ↔
      ∀ message, buildFrameAnnotationMessage strOf sha256 validateFrameAnnotationMessageCompat
        fields config frameObjects = .ok message → Plain strText message) :=
  ⟨imp_congr_right fun accepted => shared_returns_iff_plain payload.isDistinct accepted,
    built_agrees_iff⟩

/-- A person whose detector gave no number as its confidence. -/
def nanPerson : FrameObject where
  label := .str (text "person")
  trackId := .int 7
  confidence := .float .nan
  bbox := .centred (some (.int 50)) (some (.int 40)) (some (.int 20)) (some (.int 30))

def nanFields : FrameFields where
  sourceId := text "cam-1"
  cameraId := text "cam-1"
  framePts := some 400
  createdAt := text "2024-05-01T00:00:00+00:00"

/-- A message without objects whose frame has a text for its number. -/
def textFrameNum : Json :=
  .dict [(text "schema_version", .str (text "1.0")),
    (text "message_type", .str (text "frame_annotation")), (text "source_id", .str (text "cam-1")),
    (text "camera_id", .str (text "cam-1")), (text "frame_pts", .int 400),
    (text "frame_num", .str (text "7")), (text "objects", .list []),
    (text "ttl_seconds", .int 120)]

theorem nan_confidence_only_for_fallback :
    Returns (validateFrameAnnotationMessageCompat 100 textFrameNum) ∧
    ¬Returns (validateShared (fun _ => []) 100 textFrameNum) ∧
    Returns (buildFrameAnnotationMessage (fun _ => none) (fun _ => text "0")
      validateFrameAnnotationMessageCompat nanFields {} [nanPerson]) ∧
    ¬Returns (buildFrameAnnotationMessage (fun _ => none) (fun _ => text "0")
      (validateShared fun _ => []) nanFields {} [nanPerson]) := by
  decide +kernel

end VideoAnalysis.Annotation
