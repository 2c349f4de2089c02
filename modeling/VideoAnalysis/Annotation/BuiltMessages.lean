import VideoAnalysis.Annotation.Builder
import VideoAnalysis.Annotation.Drift

/-! # Messages of the builder

A built message is in normal form: whatever the contract accepts of it, it leaves as it is. Its
keys are those of the builder.
-/

namespace VideoAnalysis.Annotation

open Foundation Python Evidence
open Json (lookup lookup_append lookup_cons lookup_nil)

/-! ## What the builder makes -/

/-- An object as the builder makes it. -/
inductive BuiltObject (sha256 : Entries → Text) : Json → Prop
  | person {trackId : Option Text} {objectIndex : Nat} {bbox : List Double}
      {confidence : Option Double} {pose : Option Json}
      (isPose : ∀ value, pose = some value →
        ∃ mode triples, value = .dict (poseSummary mode triples)) :
      BuiltObject sha256
        (withFingerprint sha256 (personEntries trackId objectIndex bbox confidence pose))
  | face {parts : FaceParts}
      (isLandmarks : ∀ value, parts.landmarks = some value → ∃ mode points,
        value = .dict (landmarkEntries mode points)) :
      BuiltObject sha256 (withFingerprint sha256 (faceEntries parts))

section Building

variable {strOf : Json → Option Text} {sha256 : Entries → Text}

variable {obj : FrameObject} {value : Json}

theorem readPoseSummary_built {includeMode : Text}
    (isPose : readPoseSummary includeMode obj = some value) :
    ∃ mode triples, value = .dict (poseSummary mode triples) := by
  unfold readPoseSummary at isPose
  split at isPose
  next => cases isPose
  next =>
    rcases Option.bind_eq_some_iff.mp isPose with ⟨_, _, isPose⟩
    rcases Option.map_eq_some_iff.mp isPose with ⟨triples, _, rfl⟩
    exact ⟨_, triples, rfl⟩

theorem readLandmarkSummary_built {includeMode : Text}
    (isLandmarks : readLandmarkSummary includeMode obj = .ok (some value)) :
    ∃ mode points, value = .dict (landmarkEntries mode points) := by
  simp only [readLandmarkSummary] at isLandmarks
  split at isLandmarks
  next => cases isLandmarks
  next =>
    split at isLandmarks
    next => cases isLandmarks
    next =>
      rcases bind_eq_ok isLandmarks with ⟨points, _, same⟩
      cases same
      exact ⟨includeMode, points, rfl⟩

variable {config : FrameAnnotationBuildConfig}

theorem buildPersonObject_built {objectIndex : Nat}
    (built : buildPersonObject strOf sha256 obj objectIndex config = .ok (some value)) :
    BuiltObject sha256 value := by
  unfold buildPersonObject at built
  split at built
  next => cases built
  next =>
    rcases bind_eq_ok built with ⟨_, _, same⟩
    cases same
    exact .person fun value isPose => readPoseSummary_built isPose

theorem buildFaceObject_built {objectIndex faceIndex : Nat} {fields : FrameFields}
    (built : buildFaceObject strOf sha256 obj objectIndex faceIndex fields config =
      .ok (some value)) : BuiltObject sha256 value := by
  unfold buildFaceObject at built
  split at built
  next => cases built
  next =>
    rcases bind_eq_ok built with ⟨_, _, built⟩
    rcases bind_eq_ok built with ⟨_, _, built⟩
    rcases bind_eq_ok built with ⟨_, _, built⟩
    rcases bind_eq_ok built with ⟨_, _, built⟩
    rcases bind_eq_ok built with ⟨_, areLandmarks, same⟩
    cases same
    refine .face fun value isLandmarks => ?_
    simp only at isLandmarks
    rw [isLandmarks] at areLandmarks
    exact readLandmarkSummary_built areLandmarks

theorem buildObjects_built {fields : FrameFields} {objectIndex faceIndex : Nat}
    {frameObjects : List FrameObject} {objects : List Json}
    (built : buildObjects strOf sha256 fields config objectIndex faceIndex frameObjects =
      .ok objects) : ∀ object ∈ objects, BuiltObject sha256 object := by
  induction frameObjects generalizing objectIndex faceIndex objects with
  | nil =>
    cases built
    exact List.forall_mem_nil _
  | cons _ _ induction =>
    rcases bind_eq_ok built with ⟨_, _, built⟩
    split at built
    next =>
      rcases bind_eq_ok built with ⟨_, isBuilt, built⟩
      rcases bind_eq_ok built with ⟨_, areBuilt, same⟩
      cases same
      intro object member
      rcases List.mem_append.mp member with isFirst | isOther
      · rw [Option.mem_toList.mp isFirst] at isBuilt
        exact buildPersonObject_built isBuilt
      · exact induction areBuilt object isOther
    next =>
      rcases bind_eq_ok built with ⟨_, _, built⟩
      split at built
      next =>
        rcases bind_eq_ok built with ⟨_, isBuilt, built⟩
        rcases bind_eq_ok built with ⟨_, areBuilt, same⟩
        cases same
        intro object member
        rcases List.mem_append.mp member with isFirst | isOther
        · rw [Option.mem_toList.mp isFirst] at isBuilt
          exact buildFaceObject_built isBuilt
        · exact induction areBuilt object isOther
      next => exact induction built

end Building

/-! ## Normal forms -/

variable {fieldName : String}

theorem normalizeNumber_float {double number : Double}
    (accepted : normalizeNumber fieldName (some (.float double)) = .ok number) :
    number = double := by
  have isNumber := normalizeNumber_ok_iff.mp accepted
  simp only [finiteNumber, Option.ite_none_right_eq_some, Option.some.injEq] at isNumber
  exact isNumber.2.symm

theorem normalizeUnitFloat_float {double number : Double}
    (accepted : normalizeUnitFloat fieldName (some (.float double)) = .ok number) :
    number = double := by
  rcases bind_eq_ok accepted with ⟨_, isNumber, accepted⟩
  split at accepted
  next => cases accepted
  next =>
    cases accepted
    exact normalizeNumber_float isNumber

variable {value : Json}

theorem validateBboxList_floats {bbox : List Double}
    (accepted : validateBboxList fieldName (some (.list (bbox.map .float))) = .ok value) :
    value = .list (bbox.map .float) := by
  unfold validateBboxList at accepted
  split at accepted
  next first second third fourth given =>
    rcases bbox with _ | ⟨x1, _ | ⟨y1, _ | ⟨x2, _ | ⟨y2, _ | ⟨more, others⟩⟩⟩⟩⟩ <;> cases given
    rcases bind_eq_ok accepted with ⟨_, isX1, accepted⟩
    rcases bind_eq_ok accepted with ⟨_, isY1, accepted⟩
    rcases bind_eq_ok accepted with ⟨_, isX2, accepted⟩
    rcases bind_eq_ok accepted with ⟨_, isY2, accepted⟩
    split at accepted
    next => cases accepted
    next =>
      cases accepted
      rw [normalizeNumber_float isX1, normalizeNumber_float isY1, normalizeNumber_float isX2,
        normalizeNumber_float isY2]
      rfl
  next => cases accepted

theorem checked_optionalUnitFloat {key : String} {confidence : Option Double}
    (checked : (optionalUnitFloat key fieldName).check (some (optionalDouble confidence)) =
      .ok (some value)) : value = optionalDouble confidence := by
  cases confidence with
  | none => cases checked
  | some =>
    rcases map_eq_ok checked with ⟨_, isForm, same⟩
    rcases map_eq_ok isForm with ⟨_, isNumber, rfl⟩
    cases same
    rw [normalizeUnitFloat_float isNumber]
    rfl

theorem bbox_normal {bbox : List Double} {confidence : Option Double}
    (accepted : validateBbox (some (.dict (bboxEntries bbox confidence))) = .ok value) :
    value = .dict (bboxEntries bbox confidence) := by
  rcases map_eq_ok accepted with ⟨_, applied, rfl⟩
  refine congrArg Json.dict (applyRules_eq_of_given ?_ applied)
  have corners : lookup (bboxEntries bbox confidence) "xyxy" =
      some (.list (bbox.map .float)) := by simp [bboxEntries, lookup_cons]
  have level : lookup (bboxEntries bbox confidence) "confidence" =
      some (optionalDouble confidence) := by simp [bboxEntries, lookup_cons]
  simp only [bboxRules, List.forall_mem_cons]
  refine ⟨fun _ checked => absurd checked test_stores_nothing,
    fun _ checked => absurd checked test_stores_nothing, ?_, ?_,
    List.forall_mem_nil _⟩
  · intro value checked
    have isForm := required_stores checked
    change validateBboxList "xyxy" (lookup (bboxEntries bbox confidence) "xyxy") = _
      at isForm
    rw [corners] at isForm
    exact corners.trans (congrArg some (validateBboxList_floats isForm).symm)
  · intro value checked
    change (optionalUnitFloat _ _).check (lookup (bboxEntries bbox confidence) "confidence")
      = _ at checked
    rw [level] at checked
    exact level.trans (congrArg some (checked_optionalUnitFloat checked).symm)

theorem embeddingDim_same {found : Json} (accepted : embeddingDim found = .ok value) :
    value = found := by
  rcases bind_eq_ok accepted with ⟨_, isDim, isResult⟩
  cases requireInt_ok isDim
  split at isResult
  next => cases isResult
  next =>
    cases isResult
    rfl

theorem summary_normal {feature : List Double}
    (accepted : validateEmbeddingSummary (.dict (embeddingSummary feature)) = .ok value) :
    value = .dict (embeddingSummary feature) := by
  rcases check_bind_eq_ok_iff.mp accepted with ⟨_, accepted⟩
  rcases check_bind_eq_ok_iff.mp accepted with ⟨_, accepted⟩
  rcases bind_eq_ok accepted with ⟨_, applied, same⟩
  cases same
  refine congrArg Json.dict (applyRules_eq_of_given ?_ applied)
  simp only [summaryRules, List.forall_mem_cons]
  refine ⟨fun _ checked => absurd checked test_stores_nothing, ?_, ?_,
    List.forall_mem_nil _⟩
  · intro value checked
    rcases optional_stores checked with ⟨_, given, isForm⟩
    rw [embeddingDim_same isForm]
    exact given
  · intro value checked
    have norm : lookup (embeddingSummary feature) "embedding_norm" =
        some (.float (sum (feature.map fun value => value.mul value)).sqrt) := by
      simp [embeddingSummary, lookup_cons]
    rcases optional_stores checked with ⟨_, given, isForm⟩
    rcases map_eq_ok isForm with ⟨_, isNumber, rfl⟩
    cases norm.symm.trans given
    rw [normalizeNumber_float isNumber]
    exact given

theorem namedKeypoint_normal {index expected : Nat} {point : Double × Double × Double}
    (accepted : validateNamedKeypoint expected (.dict (namedKeypoint index point)) = .ok value) :
    value = .dict (namedKeypoint index point) := by
  have place : lookup (namedKeypoint index point) "index" = some (.int index) := by
    simp [namedKeypoint, lookup_cons]
  have isNamed : lookup (namedKeypoint index point) "name" =
      some (.str (keypointName index)) := by simp [namedKeypoint, lookup_cons]
  have isX : lookup (namedKeypoint index point) "x" = some (.float point.1) := by
    simp [namedKeypoint, lookup_cons]
  have isY : lookup (namedKeypoint index point) "y" = some (.float point.2.1) := by
    simp [namedKeypoint, lookup_cons]
  have isLevel : lookup (namedKeypoint index point) "confidence" =
      some (.float point.2.2) := by simp [namedKeypoint, lookup_cons]
  simp only [validateNamedKeypoint, place, isNamed, isX, isY, isLevel] at accepted
  rcases bind_eq_ok accepted with ⟨_, isPosition, accepted⟩
  cases requireInt_ok isPosition
  split at accepted
  next => cases accepted
  next =>
    rcases bind_eq_ok accepted with ⟨_, isName, accepted⟩
    cases (requireNonEmptyString_ok isName).1
    split at accepted
    next =>
      rcases bind_eq_ok accepted with ⟨x, toX, accepted⟩
      rcases bind_eq_ok accepted with ⟨y, toY, accepted⟩
      rcases bind_eq_ok accepted with ⟨_, toLevel, same⟩
      cases same
      rw [normalizeNumber_float toX, normalizeNumber_float toY, normalizeUnitFloat_float toLevel]
      rfl
    next => cases accepted

theorem namedKeypoints_normal {triples : List (Double × Double × Double)}
    (accepted : namedKeypoints (some (.list (namedCoco17Keypoints triples))) = .ok value) :
    value = .list (namedCoco17Keypoints triples) ∧ triples.length = 17 := by
  simp only [namedKeypoints] at accepted
  split at accepted
  next => cases accepted
  next length =>
    rcases map_eq_ok accepted with ⟨_, arePoints, rfl⟩
    have same := @eq_map_of_mapM _ _ _ _ Prod.fst _ _ ?_ arePoints
    · rw [List.zipIdx_map_fst] at same
      rw [same]
      refine ⟨rfl, ?_⟩
      rw [not_ne_iff, namedCoco17Keypoints, List.length_map, List.length_zipIdx] at length
      exact length
    · rintro ⟨item, index⟩ member form isForm
      rcases List.mem_map.mp (List.fst_mem_of_mem_zipIdx member) with ⟨⟨_, _⟩, _, rfl⟩
      exact namedKeypoint_normal isForm

theorem pointCount_same {found : Json} (accepted : pointCount found = .ok value) :
    value = found := by
  rcases bind_eq_ok accepted with ⟨_, isCount, isResult⟩
  cases requireInt_ok isCount
  split at isResult
  next => cases isResult
  next =>
    cases isResult
    rfl

theorem described_normal {entries : Entries}
    (accepted : describedKeypoints (some (.dict entries)) = .ok value) :
    value = .dict entries := by
  rcases map_eq_ok accepted with ⟨_, applied, rfl⟩
  refine congrArg Json.dict (applyRules_eq_of_given ?_ applied)
  simp only [describedRules, List.forall_mem_cons]
  refine ⟨?_, fun _ checked => absurd checked test_stores_nothing,
    List.forall_mem_nil _⟩
  intro value checked
  rcases optional_stores checked with ⟨_, given, isForm⟩
  rw [pointCount_same isForm]
  exact given

theorem lookup_entryOf (key : String) (value : Option Json) :
    lookup (entryOf key value) key = value := by
  cases value with
  | none => rfl
  | some => exact if_pos rfl

theorem lookup_entryOf_of_ne {key other : String} (value : Option Json) (different : key ≠ other) :
    lookup (entryOf key value) other = none := by
  cases value with
  | none => rfl
  | some => exact (lookup_cons _ _ _ _).trans (if_neg different)

section Strings

variable {strText : Json → Text}

theorem fallbackField_given {key constant message : String}
    (checked : (fallbackField strText key constant message).check (some (.str (text constant))) =
      .ok (some value)) : value = .str (text constant) := by
  have isForm := required_stores checked
  split at isForm
  next same =>
    cases isForm
    exact congrArg Json.str same
  next => cases isForm

theorem lookup_poseSummary (mode : Text) (triples : List (Double × Double × Double)) :
    lookup (poseSummary mode triples) "keypoints" = keypointsOf mode triples ∧
      lookup (poseSummary mode triples) "keypoints_format" = some (.str (text "coco17")) ∧
      lookup (poseSummary mode triples) "keypoint_coordinate_space" =
        some (.str (text "pixel")) ∧
      lookup (poseSummary mode triples) "keypoint_count" = some (.int triples.length) := by
  simp only [poseSummary, lookup_append, lookup_entryOf]
  simp [lookup_cons, lookup_nil]

theorem poseRules_named {triples : List (Double × Double × Double)}
    {rules : List (FieldRule Invalid)}
    (asked : poseRules strText (some (.list (namedCoco17Keypoints triples))) = .ok rules) :
    rules = namedRules strText := by
  have areDicts : (namedCoco17Keypoints triples).all isDict = true := by
    rw [List.all_eq_true]
    intro item member
    rcases List.mem_map.mp member with ⟨_, _, rfl⟩
    rfl
  simp only [poseRules, areDicts, and_true] at asked
  by_cases inhabited : namedCoco17Keypoints triples ≠ []
  · rw [if_pos inhabited] at asked
    cases asked
    rfl
  · rw [if_neg inhabited, if_neg fun both => inhabited both.1] at asked
    cases asked

theorem pose_normal {mode : Text} {triples : List (Double × Double × Double)}
    (accepted : validatePoseSummary strText (.dict (poseSummary mode triples)) = .ok value) :
    value = .dict (poseSummary mode triples) := by
  rcases lookup_poseSummary mode triples with ⟨keypoints, isFormat, isSpace, isCount⟩
  rcases bind_eq_ok accepted with ⟨_, asked, accepted⟩
  rcases bind_eq_ok accepted with ⟨entries, applied, same⟩
  cases same
  refine congrArg Json.dict (applyRules_eq_of_given ?_ applied)
  rw [keypoints, keypointsOf] at asked
  split at asked
  next compact =>
    cases asked
    rw [keypointsOf, if_pos compact] at keypoints
    rw [List.forall_mem_singleton]
    intro value checked
    have isForm := required_stores checked
    change describedKeypoints (lookup (poseSummary mode triples) "keypoints") = _ at isForm
    rw [keypoints] at isForm
    exact keypoints.trans (congrArg some (described_normal isForm).symm)
  next notCompact =>
    split at asked
    next full =>
      have isNamed := poseRules_named asked
      subst isNamed
      rw [keypointsOf, if_neg notCompact, if_pos full] at keypoints
      have length : triples.length = 17 := by
        have each := (applyRules_returns_iff namedRules_distinct).mp ⟨entries, applied⟩
        rcases returns_map_iff.mp (each _ List.mem_cons_self) with ⟨_, isForm⟩
        change namedKeypoints (lookup (poseSummary mode triples) "keypoints") = _ at isForm
        rw [keypoints] at isForm
        exact (namedKeypoints_normal isForm).2
      simp only [namedRules, List.forall_mem_cons]
      refine ⟨?_, ?_, ?_, ?_, List.forall_mem_nil _⟩
      · intro value checked
        have isForm := required_stores checked
        change namedKeypoints (lookup (poseSummary mode triples) "keypoints") = _ at isForm
        rw [keypoints] at isForm
        exact keypoints.trans (congrArg some (namedKeypoints_normal isForm).1.symm)
      · intro value checked
        cases required_stores checked
        exact isCount.trans (by rw [length]; rfl)
      · intro value checked
        change (fallbackField _ _ _ _).check
          (lookup (poseSummary mode triples) "keypoints_format") = _ at checked
        rw [isFormat] at checked
        exact isFormat.trans (congrArg some (fallbackField_given checked).symm)
      · intro value checked
        change (fallbackField _ _ _ _).check
          (lookup (poseSummary mode triples) "keypoint_coordinate_space") = _ at checked
        rw [isSpace] at checked
        exact isSpace.trans (congrArg some (fallbackField_given checked).symm)
    next =>
      cases asked
      exact List.forall_mem_nil _

/-! ## Objects -/

/-- The fields of an object that is in normal form. -/
structure NormalObject (object : Entries) : Prop where
  bbox : ∃ bbox confidence,
    lookup object "bbox" = some (.dict (bboxEntries bbox confidence))
  quality : ∃ quality, lookup object "quality" = some (.dict quality)
  embedding : ∀ value, lookup object "embedding" = some value →
    ∃ feature, value = .dict (embeddingSummary feature)
  pose : ∀ value, lookup object "pose" = some value →
    ∃ mode triples, value = .dict (poseSummary mode triples)

theorem normalObject_of_built {sha256 : Entries → Text} (built : BuiltObject sha256 value) :
    ∃ object, value = .dict object ∧ NormalObject object := by
  cases built with
  | @person _ _ bbox confidence _ isPose =>
    refine ⟨_, rfl, ⟨bbox, confidence, ?_⟩,
      ⟨[(text "person_confidence", optionalDouble confidence),
        (text "quality_status", .str (text "ok"))], ?_⟩, ?_, ?_⟩
    · simp [personEntries, lookup_cons]
    · simp [personEntries, lookup_cons]
    · intro value given
      simp [personEntries, lookup_append, lookup_cons, lookup_nil,
        lookup_entryOf_of_ne] at given
    · intro value given
      simp [personEntries, lookup_append, lookup_cons, lookup_nil,
        lookup_entryOf] at given
      exact isPose value given
  | @face parts =>
    refine ⟨_, rfl, ⟨parts.bbox, parts.confidence, ?_⟩,
      ⟨[(text "face_confidence", optionalDouble parts.confidence),
        (text "face_quality", optionalDouble parts.faceQuality)] ++
        entryOf "reid_allowed" (parts.reidAllowed.map .bool) ++
        entryOf "reid_skip_reason" (parts.reidSkipReason.map .str), ?_⟩, ?_, ?_⟩
    · simp [faceEntries, lookup_cons]
    · simp [faceEntries, lookup_cons]
    · intro value given
      simp [faceEntries, lookup_append, lookup_cons, lookup_nil,
        lookup_entryOf, lookup_entryOf_of_ne] at given
      rcases given with ⟨feature, _, rfl⟩
      exact ⟨feature, rfl⟩
    · intro value given
      simp [faceEntries, lookup_append, lookup_cons, lookup_nil,
        lookup_entryOf_of_ne] at given

theorem object_normal {object : Entries} {index : Nat} (normal : NormalObject object)
    (accepted : validateFrameObject strText index (.dict object) = .ok value) :
    value = .dict object := by
  rcases validateFrameObject_ok accepted with ⟨_, _, same, rfl, applied, _⟩
  cases same
  refine congrArg Json.dict (applyRules_eq_of_given ?_ applied)
  simp only [objectRules, List.forall_mem_cons]
  refine ⟨fun value => preserves_test _ _ _ value, fun value => preserves_stringField _ _ value,
    fun value => preserves_optionalString _ _ value,
    fun value => preserves_optionalString _ _ value, ?_, ?_, ?_, ?_,
    List.forall_mem_nil _⟩
  · intro value checked
    rcases normal.bbox with ⟨bbox, _, given⟩
    have isForm := required_stores checked
    change validateBbox (lookup object "bbox") = _ at isForm
    rw [given] at isForm
    exact given.trans (congrArg some (bbox_normal isForm).symm)
  · intro value checked
    rcases normal.quality with ⟨quality, given⟩
    have isForm := required_stores checked
    change qualityOf (lookup object "quality") = _ at isForm
    rw [given] at isForm
    cases isForm
    exact given
  · intro value checked
    rcases optional_stores checked with ⟨item, given, isForm⟩
    rcases normal.embedding item given with ⟨_, rfl⟩
    exact given.trans (congrArg some (summary_normal isForm).symm)
  · intro value checked
    rcases optional_stores checked with ⟨item, given, isForm⟩
    rcases normal.pose item given with ⟨_, _, rfl⟩
    exact given.trans (congrArg some (pose_normal isForm).symm)

/-! ## Messages -/

theorem message_normal {payload : Entries} {objects : List Json} {maxObjectsPerFrame : Int}
    {message : Json} (given : lookup payload "objects" = some (.list objects))
    (normal : ∀ value ∈ objects, ∃ object, value = .dict object ∧ NormalObject object)
    (accepted : validateFrameAnnotationMessage strText maxObjectsPerFrame (.dict payload) =
      .ok message) : message = .dict payload := by
  rcases validateFrameAnnotationMessage_ok accepted with ⟨_, _, _, same, rfl, frame⟩
  cases same
  have isObjects := frame.given
  rw [given] at isObjects
  cases isObjects
  have same := @eq_map_of_mapM _ _ _ _ Prod.fst _ _ ?_ frame.each
  · rw [List.zipIdx_map_fst] at same
    rw [same, Json.store_of_lookup given]
  · rintro ⟨item, index⟩ member form isForm
    rcases normal item (List.fst_mem_of_mem_zipIdx member) with ⟨_, rfl, isNormal⟩
    exact object_normal isNormal isForm

end Strings

end VideoAnalysis.Annotation
