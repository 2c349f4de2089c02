import VideoAnalysis.Evidence.Acceptance

/-! # When objects and messages are accepted

The scan for forbidden keys sees an object as validation has normalised it. Here it is told of
the object that was given: what validation builds anew is not scanned.
-/

namespace VideoAnalysis.Evidence

open Foundation Python
open Json (keysSatisfy_of_isScalar lookup truthy)

/-! ## Keys of normal forms -/

def ScannedField (name : Text) (value : Json) : Prop :=
  AllowedKey name ∧ Json.KeysSatisfy AllowedKey value

theorem keysSatisfy_iff_each {entries : Entries} (distinct : Dict.Distinct ⟨entries⟩) :
    Json.KeysSatisfy AllowedKey (.dict entries) ↔ Each ScannedField entries := by
  rw [Json.keysSatisfy_dict, each_iff_forall_mem distinct]
  rfl

/-- The normal form of the field has allowed keys as the field itself has. -/
def KeepsKeys (rule : FieldRule Invalid) : Prop :=
  ∀ found value, rule.check found = .ok (some value) →
    ∃ item, found = some item ∧
      (Json.KeysSatisfy AllowedKey value ↔ Json.KeysSatisfy AllowedKey item)

variable {rule : FieldRule Invalid}

theorem keepsKeys_of_preserves (preserves : Preserves rule) :
    KeepsKeys rule := fun _ _ checked => ⟨_, preserves _ _ checked, Iff.rfl⟩

theorem keepsKeys_of_scalar
    (scalars : ∀ found value, rule.check found = .ok (some value) →
      ∃ item, found = some item ∧ item.isScalar = true ∧ value.isScalar = true) :
    KeepsKeys rule := by
  intro found value checked
  rcases scalars found value checked with ⟨item, isItem, itemScalar, valueScalar⟩
  exact ⟨item, isItem, iff_of_true (keysSatisfy_of_isScalar valueScalar)
    (keysSatisfy_of_isScalar itemScalar)⟩

theorem keysSatisfy_applyRules_iff {rules : List (FieldRule Invalid)} {entries result : Entries}
    (keeps : ∀ rule ∈ rules, KeepsKeys rule) (applied : applyRules rules entries = .ok result) :
    Json.KeysSatisfy AllowedKey (.dict result) ↔ Json.KeysSatisfy AllowedKey (.dict entries) := by
  induction rules generalizing entries with
  | nil =>
    cases applied
    rfl
  | cons _ _ induction =>
    rcases applyRules_cons_ok applied with ⟨next, isFirst, isRest⟩
    rw [List.forall_mem_cons] at keeps
    rw [induction keeps.2 isRest]
    unfold FieldRule.apply at isFirst
    split at isFirst
    next value checked =>
      cases isFirst
      rcases keeps.1 _ value checked with ⟨_, present, same⟩
      exact Json.keysSatisfy_store_iff present same
    next =>
      cases isFirst
      rfl
    next => cases isFirst

variable {value : Json}

theorem isScalar_of_finiteNumber {double : Double}
    (isNumber : finiteNumber (some value) = some double) : value.isScalar = true := by
  cases value with
  | null | bool _ | int _ | float _ | str _ => rfl
  | list _ | dict _ => cases isNumber

theorem isScalar_of_unitNumber (isUnit : unitNumber (some value) = true) :
    value.isScalar = true := by
  rcases unitNumber_iff.mp isUnit with ⟨_, isNumber, _⟩
  exact isScalar_of_finiteNumber isNumber

theorem keepsKeys_optionalUnitFloat (key fieldName : String) :
    KeepsKeys (optionalUnitFloat key fieldName) := by
  apply keepsKeys_of_scalar
  intro found value checked
  rcases optional_stores checked with ⟨item, rfl, isForm⟩
  rcases map_eq_ok isForm with ⟨number, isNumber, rfl⟩
  exact ⟨item, rfl, isScalar_of_unitNumber (normalizeUnitFloat_returns_iff.mp ⟨number, isNumber⟩),
    rfl⟩

theorem keysSatisfy_of_scalars {items : List Json}
    (scalars : ∀ item ∈ items, item.isScalar = true) :
    Json.KeysSatisfy AllowedKey (.list items) := by
  rw [Json.keysSatisfy_list]
  exact fun item member => keysSatisfy_of_isScalar (scalars item member)

theorem keysSatisfy_of_corners (corners : CornerNumbers (some value)) :
    Json.KeysSatisfy AllowedKey value := by
  cases corners with
  | intro isX1 isY1 isX2 isY2 =>
    apply keysSatisfy_of_scalars
    simp only [List.forall_mem_cons, List.not_mem_nil, false_implies, implies_true, and_true]
    exact ⟨isScalar_of_finiteNumber isX1, isScalar_of_finiteNumber isY1,
      isScalar_of_finiteNumber isX2, isScalar_of_finiteNumber isY2⟩

theorem bboxRules_keepKeys : ∀ rule ∈ bboxRules, KeepsKeys rule := by
  simp only [bboxRules, List.forall_mem_cons]
  refine ⟨keepsKeys_of_preserves (preserves_test _ _), keepsKeys_of_preserves (preserves_test _ _),
    ?_, keepsKeys_optionalUnitFloat _ _, List.forall_mem_nil _⟩
  intro found value checked
  have accepted := required_stores checked
  have corners := validateBboxList_returns_iff.mp ⟨value, accepted⟩
  have again := validateBboxList_returns_iff.mp ⟨value, (validateBboxList_again accepted).1⟩
  cases corners with
  | intro isX1 isY1 isX2 isY2 rightwards downwards =>
    exact ⟨_, rfl, iff_of_true (keysSatisfy_of_corners again)
      (keysSatisfy_of_corners (.intro isX1 isY1 isX2 isY2 rightwards downwards))⟩

theorem keepsKeys_bbox (key : String) : KeepsKeys (.required key validateBbox) := by
  intro found value checked
  have accepted := required_stores checked
  unfold validateBbox at accepted
  split at accepted
  next bbox =>
    rcases map_eq_ok accepted with ⟨_, applied, rfl⟩
    exact ⟨.dict bbox, rfl, keysSatisfy_applyRules_iff bboxRules_keepKeys applied⟩
  next => cases accepted

/-! ## Keys of poses -/

theorem keepsKeys_pointCount : KeepsKeys (.optional "point_count" pointCount) := by
  apply keepsKeys_of_scalar
  intro found value checked
  rcases optional_stores checked with ⟨_, rfl, isForm⟩
  rcases bind_eq_ok isForm with ⟨_, isCount, isResult⟩
  cases requireInt_ok isCount
  split at isResult
  next => cases isResult
  next =>
    cases isResult
    exact ⟨_, rfl, rfl, rfl⟩

theorem keepsKeys_described : KeepsKeys (.required "keypoints" describedKeypoints) := by
  intro found value checked
  have accepted := required_stores checked
  unfold describedKeypoints at accepted
  split at accepted
  next keypoints =>
    rcases map_eq_ok accepted with ⟨_, applied, rfl⟩
    refine ⟨.dict keypoints, rfl, keysSatisfy_applyRules_iff ?_ applied⟩
    simp only [describedRules, List.forall_mem_cons]
    exact ⟨keepsKeys_pointCount, keepsKeys_of_preserves (preserves_test _ _),
      List.forall_mem_nil _⟩
  next => cases accepted

/-- The rule stores a value with allowed keys under an allowed key, whatever it finds. -/
structure Rebuilds (rule : FieldRule Invalid) : Prop where
  key : AllowedKey (text rule.key)
  value : ∀ found result, rule.check found = .ok result →
    ∃ value, result = some value ∧ Json.KeysSatisfy AllowedKey value

theorem rebuilds_of_required {key : String} {normalize : Option Json → Except Invalid Json}
    (allowed : AllowedKey (text key))
    (each : ∀ found value, normalize found = .ok value → Json.KeysSatisfy AllowedKey value) :
    Rebuilds (.required key normalize) where
  key := allowed
  value found result checked := by
    rcases map_eq_ok checked with ⟨value, isValue, rfl⟩
    exact ⟨value, rfl, each found value isValue⟩

theorem Rebuilds.leaves (rebuilds : Rebuilds rule)
    {found : Option Json} (returns : Returns (rule.check found))
    (isLeft : rule.leaves found = some value) : ScannedField (text rule.key) value := by
  rcases returns with ⟨result, checked⟩
  rcases rebuilds.value found result checked with ⟨_, rfl, satisfies⟩
  simp only [FieldRule.leaves, checked, Option.some.injEq] at isLeft
  rw [← isLeft]
  exact ⟨rebuilds.key, satisfies⟩

theorem keysSatisfy_rebuilt_iff {rules : List (FieldRule Invalid)} {entries result : Entries}
    (rebuild : ∀ rule ∈ rules, Rebuilds rule) (distinctRules : (rules.map FieldRule.key).Nodup)
    (distinct : Dict.Distinct ⟨entries⟩) (applied : applyRules rules entries = .ok result) :
    Json.KeysSatisfy AllowedKey (.dict result) ↔
      Each (fun name value => AllowedKey name ∧ (name ∉ (rules.map FieldRule.key).map text →
        Json.KeysSatisfy AllowedKey value)) entries := by
  rw [keysSatisfy_iff_each (distinct_applyRules distinct applied)]
  have returns := (applyRules_returns_iff distinctRules).mp ⟨result, applied⟩
  apply each_applyRules_iff distinctRules applied
  · intro name value different
    have isOther : name ∉ (rules.map FieldRule.key).map text := by
      intro member
      rcases List.mem_map.mp member with ⟨_, isKey, same⟩
      rcases List.mem_map.mp isKey with ⟨rule, isRule, rfl⟩
      exact different rule isRule same.symm
    simp only [ScannedField, isOther, not_false_eq_true, true_implies]
  · intro rule member
    have isKey : text rule.key ∈ (rules.map FieldRule.key).map text :=
      List.mem_map_of_mem (List.mem_map_of_mem member)
    refine iff_of_true ?_ fun value _ => ⟨(rebuild rule member).key, absurd isKey⟩
    intro value isLeft
    exact (rebuild rule member).leaves (returns rule member) isLeft

theorem keysSatisfy_namedPoint {index : Nat} {point form : Json}
    (accepted : validateNamedKeypoint index point = .ok form) :
    Json.KeysSatisfy AllowedKey form := by
  cases point with
  | null | bool _ | int _ | float _ | str _ | list _ => cases accepted
  | dict =>
    rcases bind_eq_ok accepted with ⟨_, _, accepted⟩
    split at accepted
    next => cases accepted
    next =>
      rcases bind_eq_ok accepted with ⟨name, _, accepted⟩
      split at accepted
      next =>
        rcases bind_eq_ok accepted with ⟨x, _, accepted⟩
        rcases bind_eq_ok accepted with ⟨y, _, accepted⟩
        rcases bind_eq_ok accepted with ⟨confidence, _, same⟩
        cases same
        have scalars : ∀ key : String, ∀ value : Json, AllowedKey (text key) →
            value.isScalar = true → ScannedField (text key) value :=
          fun key value allowed scalar => ⟨allowed, keysSatisfy_of_isScalar scalar⟩
        rw [Json.keysSatisfy_dict]
        simp only [List.forall_mem_cons]
        exact ⟨scalars "index" _ (by decide) rfl, scalars "name" _ (by decide) rfl,
          scalars "x" _ (by decide) rfl, scalars "y" _ (by decide) rfl,
          scalars "confidence" _ (by decide) rfl, List.forall_mem_nil _⟩
      next => cases accepted

theorem keysSatisfy_listedPoint {point form : Json}
    (accepted : validateListedKeypoint point = .ok (some form)) :
    Json.KeysSatisfy AllowedKey form := by
  unfold validateListedKeypoint at accepted
  split at accepted
  next =>
    rcases bind_eq_ok accepted with ⟨_, _, accepted⟩
    rcases bind_eq_ok accepted with ⟨_, _, accepted⟩
    rcases bind_eq_ok accepted with ⟨_, _, same⟩
    cases same
    apply keysSatisfy_of_scalars
    simp only [List.forall_mem_cons]
    exact ⟨rfl, rfl, rfl, List.forall_mem_nil _⟩
  next => cases accepted

theorem allowedKey_keypoints : AllowedKey (text "keypoints") := by decide

theorem rebuilds_named : Rebuilds (.required "keypoints" namedKeypoints) := by
  apply rebuilds_of_required allowedKey_keypoints
  intro found value accepted
  unfold namedKeypoints at accepted
  split at accepted
  next items =>
    split at accepted
    next => cases accepted
    next =>
      rcases map_eq_ok accepted with ⟨_, arePoints, rfl⟩
      rw [Json.keysSatisfy_list]
      intro point member
      rcases exists_input_of_mapM arePoints member with ⟨⟨_, _⟩, _, isPoint⟩
      exact keysSatisfy_namedPoint isPoint
  next => cases accepted

theorem rebuilds_listed : Rebuilds (.required "keypoints" listedKeypoints) := by
  apply rebuilds_of_required allowedKey_keypoints
  intro found value accepted
  unfold listedKeypoints at accepted
  split at accepted
  next items =>
    split at accepted
    next => cases accepted
    next =>
      rcases bind_eq_ok accepted with ⟨_, arePoints, accepted⟩
      simp only at accepted
      split at accepted
      next => cases accepted
      next =>
        cases accepted
        rw [Json.keysSatisfy_list]
        intro point member
        rcases List.mem_filterMap.mp member with ⟨found, isFound, same⟩
        rcases exists_input_of_mapM arePoints isFound with ⟨_, _, isPoint⟩
        rw [show found = some point from same] at isPoint
        exact keysSatisfy_listedPoint isPoint
  next => cases accepted

section Strings

variable {strOf : Json → Text}

theorem rebuilds_fallback {key constant message : String} (allowed : AllowedKey (text key)) :
    Rebuilds (fallbackField strOf key constant message) := by
  apply rebuilds_of_required allowed
  intro found value accepted
  split at accepted
  next =>
    cases accepted
    exact keysSatisfy_of_isScalar rfl
  next => cases accepted

theorem namedRules_rebuild : ∀ rule ∈ namedRules strOf, Rebuilds rule := by
  simp only [namedRules, List.forall_mem_cons]
  refine ⟨rebuilds_named, ?_, rebuilds_fallback (by decide), rebuilds_fallback (by decide),
    List.forall_mem_nil _⟩
  apply rebuilds_of_required (by decide)
  intro found value accepted
  cases accepted
  exact keysSatisfy_of_isScalar rfl

def rebuiltFields (pose : Entries) : List String :=
  match lookup pose "keypoints" with
  | some (.list items) =>
    if items.all isDict then
      ["keypoints", "keypoint_count", "keypoints_format", "keypoint_coordinate_space"]
    else ["keypoints"]
  | _ => []

def ScannedPose (pose : Entries) : Prop :=
  Each (fun name value => AllowedKey name ∧ (name ∉ (rebuiltFields pose).map text →
    Json.KeysSatisfy AllowedKey value)) pose

theorem scannedPose_of_none {pose : Entries} (distinct : Dict.Distinct ⟨pose⟩)
    (none : rebuiltFields pose = []) :
    ScannedPose pose ↔ Json.KeysSatisfy AllowedKey (.dict pose) := by
  rw [keysSatisfy_iff_each distinct]
  simp only [ScannedPose, none, List.map_nil, List.not_mem_nil, not_false_eq_true, true_implies]
  rfl

theorem notDicts_of_lists {items : List Json} (inhabited : items ≠ [])
    (areLists : items.all isList = true) : items.all isDict = false := by
  rcases List.exists_mem_of_ne_nil items inhabited with ⟨item, member⟩
  have isItem := List.all_eq_true.mp areLists item member
  rw [List.all_eq_false]
  refine ⟨item, member, ?_⟩
  cases item with
  | list => exact Bool.false_ne_true
  | null | bool _ | int _ | float _ | str _ | dict _ => cases isItem

/-- The keys of a normalised pose are allowed exactly if the scan of the given one is clean. -/
theorem normalPose_keys_iff {pose entries : Entries} {rules : List (FieldRule Invalid)}
    (distinct : Dict.Distinct ⟨pose⟩)
    (asked : poseRules strOf (lookup pose "keypoints") = .ok rules)
    (applied : applyRules rules pose = .ok entries) :
    Json.KeysSatisfy AllowedKey (.dict entries) ↔ ScannedPose pose := by
  unfold poseRules at asked
  split at asked
  next missing =>
    cases asked
    cases applied
    rw [scannedPose_of_none distinct (by rw [rebuiltFields, missing])]
  next isNull =>
    cases asked
    cases applied
    rw [scannedPose_of_none distinct (by rw [rebuiltFields, isNull])]
  next keypoints given =>
    cases asked
    rw [scannedPose_of_none distinct (by rw [rebuiltFields, given])]
    apply keysSatisfy_applyRules_iff _ applied
    intro rule member
    rw [List.mem_singleton.mp member]
    exact keepsKeys_described
  next items given =>
    split at asked
    next areDicts =>
      cases asked
      rw [keysSatisfy_rebuilt_iff namedRules_rebuild namedRules_distinct distinct applied]
      have fields : rebuiltFields pose = (namedRules strOf).map FieldRule.key := by
        rw [rebuiltFields, given]
        exact if_pos areDicts.2
      rw [ScannedPose, fields]
    next =>
      split at asked
      next areLists =>
        cases asked
        have rebuild : ∀ rule ∈ [FieldRule.required "keypoints" listedKeypoints],
            Rebuilds rule := by
          intro rule member
          rw [List.mem_singleton.mp member]
          exact rebuilds_listed
        rw [keysSatisfy_rebuilt_iff rebuild (List.nodup_singleton _) distinct applied]
        have fields : rebuiltFields pose = ["keypoints"] := by
          rw [rebuiltFields, given]
          simp only [notDicts_of_lists areLists.1 areLists.2, Bool.false_eq_true, if_false]
        rw [ScannedPose, fields, List.map_singleton, FieldRule.required]
      next => cases asked
  next => cases asked

/-! ## Objects -/

def ScannedOf (name : Text) (value : Json) : Prop :=
  name ≠ text "embedding" → AllowedKey name ∧
    if name = text "pose" then ∀ pose, value = .dict pose → ScannedPose pose
    else Json.KeysSatisfy AllowedKey value

theorem scannedOf_iff {key : String} (notEmbedding : key ≠ "embedding") (notPose : key ≠ "pose")
    {value : Json} : ScannedOf (text key) value ↔ ScannedField (text key) value := by
  have different : text key ≠ text "embedding" := fun same => notEmbedding (text_injective same)
  have other : text key ≠ text "pose" := fun same => notPose (text_injective same)
  simp only [ScannedOf, different, other, ne_eq, not_false_eq_true, true_implies, if_false,
    ScannedField]

/-- A field that is scanned unless it is the summary. -/
def ScannedUnlessSummary (name : Text) (value : Json) : Prop :=
  name ≠ text "embedding" → ScannedField name value

def LeavesScanned (rule : FieldRule Invalid) (found : Option Json) : Prop :=
  (∀ value, rule.leaves found = some value → ScannedUnlessSummary (text rule.key) value) ↔
    ∀ value, found = some value → ScannedOf (text rule.key) value

theorem leavesScanned_of_keepsKeys {rule : FieldRule Invalid} (keeps : KeepsKeys rule)
    (notEmbedding : rule.key ≠ "embedding") (notPose : rule.key ≠ "pose")
    (found : Option Json) : LeavesScanned rule found := by
  have different : text rule.key ≠ text "embedding" := fun same =>
    notEmbedding (text_injective same)
  simp only [LeavesScanned, scannedOf_iff notEmbedding notPose, ScannedUnlessSummary, ne_eq,
    different, not_false_eq_true, true_implies]
  unfold FieldRule.leaves
  split
  next value checked =>
    rcases keeps found value checked with ⟨_, rfl, same⟩
    simp only [Option.some.injEq, forall_eq', ScannedField, same]
  all_goals rfl

variable (found : Option Json)

theorem leavesScanned_quality :
    LeavesScanned (.required "quality" qualityOf) found := by
  cases found with
  | none =>
    refine iff_of_true ?_ nofun
    rintro value isLeft _
    cases isLeft
    refine ⟨by decide, ?_⟩
    rw [Json.keysSatisfy_dict]
    exact List.forall_mem_nil _
  | some value =>
    have left : (FieldRule.required "quality" qualityOf).leaves (some value) = some value := by
      cases value <;> rfl
    have field := fun item => @scannedOf_iff "quality" (by decide) (by decide) item
    simp only [LeavesScanned, left, Option.some.injEq, forall_eq', ScannedUnlessSummary]
    rw [show (FieldRule.required "quality" qualityOf).key = "quality" from rfl, field]
    exact ⟨fun scanned => scanned (by decide), fun scanned _ => scanned⟩

theorem leavesScanned_embedding :
    LeavesScanned (.optional "embedding" validateEmbeddingSummary) found :=
  iff_of_true (fun _ _ isOther => absurd rfl isOther) fun _ _ isOther => absurd rfl isOther

theorem leavesScanned_pose {found : Option Json}
    (returns : Returns ((FieldRule.optional "pose" (validatePoseSummary strOf)).check found))
    (distinct : ∀ pose, found = some (.dict pose) → Dict.Distinct ⟨pose⟩) :
    LeavesScanned (.optional "pose" (validatePoseSummary strOf)) found := by
  have isKey : (FieldRule.optional "pose" (validatePoseSummary strOf)).key = "pose" := rfl
  have allowed : AllowedKey (text "pose") := by decide
  have different : text "pose" ≠ text "embedding" := by decide
  cases found with
  | none => exact iff_of_true nofun nofun
  | some value =>
    simp only [LeavesScanned, isKey, ScannedUnlessSummary, ScannedOf, ScannedField, ne_eq,
      different, not_false_eq_true, true_implies, if_true, allowed, true_and,
      Option.some.injEq, forall_eq']
    cases value with
    | null =>
      refine iff_of_true ?_ nofun
      intro value isLeft
      cases isLeft
      exact keysSatisfy_of_isScalar rfl
    | dict pose =>
      rcases returns with ⟨_, checked⟩
      rcases map_eq_ok checked with ⟨_, accepted, rfl⟩
      rcases bind_eq_ok accepted with ⟨_, asked, accepted⟩
      rcases bind_eq_ok accepted with ⟨_, applied, same⟩
      cases same
      simp only [FieldRule.leaves, checked, Option.some.injEq, forall_eq', Json.dict.injEq]
      exact normalPose_keys_iff (distinct pose rfl) asked applied
    | bool _ | int _ | float _ | str _ | list _ =>
      rcases returns with ⟨_, checked⟩
      cases checked

variable {object : Entries}

theorem objectRules_leaveScanned (distinct : (Json.dict object).distinct = true)
    (returns : ∀ rule ∈ objectRules strOf, Returns (rule.check (lookup object rule.key))) :
    ∀ rule ∈ objectRules strOf, LeavesScanned rule (lookup object rule.key) := by
  simp only [objectRules, List.forall_mem_cons] at returns ⊢
  rcases returns with ⟨_, _, _, _, _, _, _, poseReturns, _⟩
  refine ⟨leavesScanned_of_keepsKeys (keepsKeys_of_preserves (preserves_test _ _)) (by decide)
      (by decide) _,
    leavesScanned_of_keepsKeys (keepsKeys_of_preserves (preserves_stringField _)) (by decide)
      (by decide) _,
    leavesScanned_of_keepsKeys (keepsKeys_of_preserves (preserves_optionalString _)) (by decide)
      (by decide) _,
    leavesScanned_of_keepsKeys (keepsKeys_of_preserves (preserves_optionalString _)) (by decide)
      (by decide) _,
    leavesScanned_of_keepsKeys (keepsKeys_bbox _) (by decide) (by decide) _,
    leavesScanned_quality _, leavesScanned_embedding _, leavesScanned_pose poseReturns ?_,
    List.forall_mem_nil _⟩
  exact fun pose given => Json.nodup_of_distinct (Json.distinct_of_lookup distinct given)

theorem scanNormal_iff {object normalized : Entries} {pathOf : Text → Text}
    (distinct : (Json.dict object).distinct = true)
    (applied : applyRules (objectRules strOf) object = .ok normalized) :
    scanFieldsBut "embedding" pathOf normalized = .ok () ↔ Each ScannedOf object := by
  have returns := (applyRules_returns_iff objectRules_distinct).mp ⟨normalized, applied⟩
  have ruled := objectRules_leaveScanned distinct returns
  have isDistinct := Json.nodup_of_distinct distinct
  have scanned : scanFieldsBut "embedding" pathOf normalized = .ok () ↔
      Each ScannedUnlessSummary normalized := by
    rw [scanFieldsBut_ok_iff, each_iff_forall_mem (distinct_applyRules isDistinct applied)]
    rfl
  rw [scanned]
  apply each_applyRules_iff objectRules_distinct applied _ ruled
  intro name value different
  have isPose : FieldRule.optional "pose" (validatePoseSummary strOf) ∈ objectRules strOf := by
    simp [objectRules]
  have notPose : name ≠ text "pose" := different _ isPose
  simp only [ScannedUnlessSummary, ScannedOf, ScannedField, if_neg notPose]

/-! ## Faces -/

theorem embeddingStatus_eq (object : Entries) :
    embeddingStatus strOf object =
      (strOfValue strOf (lookupIn (lookup object "embedding") "embedding_status")).or
        (strOfValue strOf (lookup object "embedding_status")) := by
  unfold embeddingStatus lookupIn
  cases lookup object "embedding" with
  | none => rfl
  | some value => cases value <;> rfl

/-- A face without a source is neither allowed to be recognised nor said to have an embedding. -/
def Unclaimed (strOf : Json → Text) (object : Entries) : Prop :=
  isText "face" (lookup object "object_type") = true →
    (lookup object "source_observation_id").any truthy = false →
      isTrue (lookupIn (lookup object "quality") "reid_allowed") = false ∧
        embeddingStatus strOf object ≠ some (text "generated")

theorem checkFace_eq (object : Entries) :
    checkFace strOf object =
      if isText "face" (lookup object "object_type") &&
          !(lookup object "source_observation_id").any truthy then
        if isTrue (lookupIn (lookup object "quality") "reid_allowed") then
          invalid "missing_source_observation_id_for_reid_face"
        else if embeddingStatus strOf object = some (text "generated") then
          invalid "missing_source_observation_id_for_generated_embedding"
        else .ok ()
      else .ok () := by
  unfold checkFace isText lookupIn
  cases lookup object "object_type" with
  | none => rfl
  | some kind =>
    cases kind with
    | str =>
      cases lookup object "quality" with
      | none => rfl
      | some quality => cases quality <;> rfl
    | null | bool _ | int _ | float _ | list _ | dict _ => rfl

theorem checkFace_ok_iff :
    checkFace strOf object = .ok () ↔ Unclaimed strOf object := by
  rw [checkFace_eq, Unclaimed]
  cases isText "face" (lookup object "object_type") with
  | false => simp
  | true =>
    cases (lookup object "source_observation_id").any truthy with
    | true => simp
    | false =>
      cases isTrue (lookupIn (lookup object "quality") "reid_allowed") with
      | true => simp [invalid]
      | false =>
        by_cases generated : embeddingStatus strOf object = some (text "generated")
        · simp [generated, invalid]
        · simp [generated]

theorem leaves_of_preserves {rule : FieldRule Invalid} (preserves : Preserves rule)
    (found : Option Json) : rule.leaves found = found := by
  unfold FieldRule.leaves
  split
  next value checked => exact (preserves found value checked).symm
  all_goals rfl

variable {normalized : Entries}

theorem unclaimed_congr
    (sameType : lookup normalized "object_type" = lookup object "object_type")
    (sameSource : lookup normalized "source_observation_id" =
      lookup object "source_observation_id")
    (sameQuality : lookupIn (lookup normalized "quality") "reid_allowed" =
      lookupIn (lookup object "quality") "reid_allowed")
    (sameSummary : lookupIn (lookup normalized "embedding") "embedding_status" =
      lookupIn (lookup object "embedding") "embedding_status")
    (sameStatus : lookup normalized "embedding_status" =
      lookup object "embedding_status") :
    Unclaimed strOf normalized ↔ Unclaimed strOf object := by
  simp only [Unclaimed, embeddingStatus_eq, sameType, sameSource, sameQuality, sameSummary,
    sameStatus]

theorem quality_leaves (key : String) :
    lookupIn ((FieldRule.required "quality" qualityOf).leaves found) key = lookupIn found key := by
  cases found with
  | none => rfl
  | some value => cases value <;> rfl

theorem summary_leaves :
    lookupIn ((FieldRule.optional "embedding" validateEmbeddingSummary).leaves found)
        "embedding_status" = lookupIn found "embedding_status" := by
  unfold FieldRule.leaves
  split
  next value checked =>
    rcases optional_stores checked with ⟨item, rfl, accepted⟩
    cases item with
    | dict =>
      rcases check_bind_eq_ok_iff.mp accepted with ⟨_, accepted⟩
      rcases check_bind_eq_ok_iff.mp accepted with ⟨_, accepted⟩
      rcases bind_eq_ok accepted with ⟨_, applied, same⟩
      cases same
      exact lookup_applyRules applied (by decide)
    | null | bool _ | int _ | float _ | str _ | list _ => cases accepted
  all_goals rfl

theorem normal_unclaimed_iff (applied : applyRules (objectRules strOf) object = .ok normalized) :
    Unclaimed strOf normalized ↔ Unclaimed strOf object := by
  have field {rule : FieldRule Invalid} (member : rule ∈ objectRules strOf) :=
    lookup_of_rule objectRules_distinct applied member
  have status : "embedding_status" ∉ (objectRules strOf).map FieldRule.key := by
    change "embedding_status" ∉ ["object_type", "object_id", "track_id",
      "source_observation_id", "bbox", "quality", "embedding", "pose"]
    decide
  have ofQuality := @field (.required "quality" qualityOf) (by simp [objectRules])
  have ofSummary :=
    @field (.optional "embedding" validateEmbeddingSummary) (by simp [objectRules])
  apply unclaimed_congr
  · have ofType := @field (memberField "object_type" ["person", "face", "behavior_event"]
      "invalid_object_type") (by simp [objectRules])
    exact ofType.trans (leaves_of_preserves (preserves_test _ _) _)
  · have ofSource := @field (optionalString "source_observation_id") (by simp [objectRules])
    exact ofSource.trans (leaves_of_preserves (preserves_optionalString _) _)
  · exact (congrArg (lookupIn · "reid_allowed") ofQuality).trans (quality_leaves _ _)
  · exact (congrArg (lookupIn · "embedding_status") ofSummary).trans (summary_leaves _)
  · exact lookup_applyRules applied status

/-! ## Accepted objects -/

theorem detailRules_return_iff :
    Returns (applyRules detailRules object) ↔
      (absent (lookup object "label") || (lookup object "label").any isDict) = true ∧
        (absent (lookup object "extra") || (lookup object "extra").any isDict) = true := by
  rw [applyRules_returns_iff (by decide)]
  simp only [detailRules, List.forall_mem_cons, List.not_mem_nil, false_implies, implies_true,
    and_true, dictionaryField_returns_iff]
  rfl

theorem qualityOf_returns_iff {found : Option Json} :
    Returns (qualityOf found) ↔ found.all isDict = true := by
  cases found with
  | none => simp [qualityOf, returns_ok]
  | some value => cases value <;> simp [qualityOf, isDict, returns_ok, returns_invalid]

/-- What the contract asks of an object, in terms of the object that is given. -/
structure AcceptedObject (strOf : Json → Text) (object : Entries) : Prop where
  kind : ∃ content ∈ ["person", "face", "behavior_event"].map text,
    lookup object "object_type" = some (.str content)
  id : hasText (lookup object "object_id") = true
  trackId : (absent (lookup object "track_id") ||
    hasText (lookup object "track_id")) = true
  source : (absent (lookup object "source_observation_id") ||
    hasText (lookup object "source_observation_id")) = true
  bbox : Returns (validateBbox (lookup object "bbox"))
  quality : (lookup object "quality").all isDict = true
  embedding : absent (lookup object "embedding") = true ∨
    ∃ value, lookup object "embedding" = some value ∧ Returns (validateEmbeddingSummary value)
  pose : absent (lookup object "pose") = true ∨
    ∃ value, lookup object "pose" = some value ∧ Returns (validatePoseSummary strOf value)
  scanned : Each ScannedOf object
  unclaimed : Unclaimed strOf object
  label : (absent (lookup object "label") || (lookup object "label").any isDict) = true
  extra : (absent (lookup object "extra") || (lookup object "extra").any isDict) = true

theorem objectRules_return_iff :
    Returns (applyRules (objectRules strOf) object) ↔
      (∃ content ∈ ["person", "face", "behavior_event"].map text,
        lookup object "object_type" = some (.str content)) ∧
      hasText (lookup object "object_id") = true ∧
      (absent (lookup object "track_id") ||
        hasText (lookup object "track_id")) = true ∧
      (absent (lookup object "source_observation_id") ||
        hasText (lookup object "source_observation_id")) = true ∧
      Returns (validateBbox (lookup object "bbox")) ∧
      (lookup object "quality").all isDict = true ∧
      (absent (lookup object "embedding") = true ∨
        ∃ value, lookup object "embedding" = some value ∧
          Returns (validateEmbeddingSummary value)) ∧
      (absent (lookup object "pose") = true ∨
        ∃ value, lookup object "pose" = some value ∧
          Returns (validatePoseSummary strOf value)) := by
  rw [applyRules_returns_iff objectRules_distinct]
  simp only [objectRules, List.forall_mem_cons, List.not_mem_nil, false_implies, implies_true,
    and_true, memberField_returns_iff, stringField_returns_iff, optionalString_returns_iff,
    required_returns_iff, optional_returns_iff, qualityOf_returns_iff]
  rfl

theorem details_of_normal (applied : applyRules (objectRules strOf) object = .ok normalized) :
    Returns (applyRules detailRules normalized) ↔ Returns (applyRules detailRules object) := by
  have others : ∀ key ∈ ["label", "extra"],
      lookup normalized key = lookup object key := by
    intro key member
    apply lookup_applyRules applied
    change key ∉ ["object_type", "object_id", "track_id", "source_observation_id", "bbox",
      "quality", "embedding", "pose"]
    revert key
    decide
  rw [detailRules_return_iff, detailRules_return_iff, others "label" (by simp),
    others "extra" (by simp)]

theorem validateFrameObject_returns_iff {index : Nat}
    (distinct : (Json.dict object).distinct = true) :
    Returns (validateFrameObject strOf index (.dict object)) ↔ AcceptedObject strOf object := by
  constructor
  · rintro ⟨value, accepted⟩
    rcases validateFrameObject_ok accepted with
      ⟨_, normalized, same, _, applied, scanned, checked, detailed⟩
    cases same
    rcases objectRules_return_iff.mp ⟨normalized, applied⟩ with
      ⟨kind, id, trackId, source, bbox, quality, embedding, pose⟩
    rcases detailRules_return_iff.mp ((details_of_normal applied).mp ⟨_, detailed⟩) with
      ⟨label, extra⟩
    exact
      { kind, id, trackId, source, bbox, quality, embedding, pose, label, extra
        scanned := (scanNormal_iff distinct applied).mp scanned
        unclaimed := (normal_unclaimed_iff applied).mp (checkFace_ok_iff.mp checked) }
  · intro accepted
    rcases objectRules_return_iff.mpr ⟨accepted.kind, accepted.id, accepted.trackId,
      accepted.source, accepted.bbox, accepted.quality, accepted.embedding, accepted.pose⟩ with
      ⟨normalized, applied⟩
    have scanned := (@scanNormal_iff _ _ _
      (fun key => text "objects" ++ indexText index ++ text "." ++ key) distinct applied).mpr
        accepted.scanned
    have checked := checkFace_ok_iff.mpr ((normal_unclaimed_iff applied).mpr accepted.unclaimed)
    rcases (details_of_normal applied).mpr
      (detailRules_return_iff.mpr ⟨accepted.label, accepted.extra⟩) with ⟨final, detailed⟩
    refine ⟨.dict final, ?_⟩
    simp only [validateFrameObject, bind, Except.bind, applied, scanned, checked, detailed]
    rfl

/-! ## Accepted messages -/

def frameIntFields : List String :=
  ["frame_pts", "keyframe_pts", "frame_dts", "duration", "frame_num", "timestamp_ms"]

def frameTextFields : List String :=
  ["frame_uuid", "keyframe_uuid", "previous_keyframe_uuid", "time_base", "stream_session_id"]

/-- What the contract asks of a message, in terms of the message that is given. -/
structure AcceptedMessage (strOf : Json → Text) (maxObjectsPerFrame : Int) (payload : Entries)
    (objects : List Json) : Prop where
  schema : isText "1.0" (lookup payload "schema_version") = true
  kind : isText "frame_annotation" (lookup payload "message_type") = true
  source : hasText (lookup payload "source_id") = true
  camera : hasText (lookup payload "camera_id") = true
  anchored : (!absent (lookup payload "frame_pts") ||
    hasText (lookup payload "frame_uuid")) = true
  ints : ∀ name ∈ frameIntFields,
    (absent (lookup payload name) || (intOf (lookup payload name)).isSome) = true
  texts : ∀ name ∈ frameTextFields,
    (absent (lookup payload name) || hasText (lookup payload name)) = true
  ttl : (intOf (lookup payload "ttl_seconds")).any
    (fun seconds => 1 ≤ seconds && seconds ≤ 3600) = true
  given : lookup payload "objects" = some (.list objects)
  few : objects.length ≤ maxObjectsPerFrame
  scanned : ∀ entry ∈ payload, entry.1 ≠ text "objects" → ScannedField entry.1 entry.2
  each : ∀ object ∈ objects, ∃ entries, object = .dict entries ∧ AcceptedObject strOf entries

variable {payload : Entries}

theorem headRules_return_iff {messageType : String} :
    Returns (applyRules (headRules messageType) payload) ↔
      isText "1.0" (lookup payload "schema_version") = true ∧
        isText messageType (lookup payload "message_type") = true ∧
        hasText (lookup payload "source_id") = true ∧
        hasText (lookup payload "camera_id") = true := by
  rw [applyRules_returns_iff (by rw [headRules_keys]; decide)]
  simp only [headRules, List.forall_mem_cons, List.not_mem_nil, false_implies, implies_true,
    and_true, constantField_returns_iff, stringField_returns_iff]
  rfl

theorem frameRules_return_iff :
    Returns (applyRules frameRules payload) ↔
      (∀ name ∈ frameIntFields,
        (absent (lookup payload name) || (intOf (lookup payload name)).isSome) = true) ∧
      (∀ name ∈ frameTextFields,
        (absent (lookup payload name) || hasText (lookup payload name)) = true) ∧
      (intOf (lookup payload "ttl_seconds")).any
        (fun seconds => 1 ≤ seconds && seconds ≤ 3600) = true := by
  rw [applyRules_returns_iff (by rw [frameRules_keys]; decide)]
  simp only [frameRules, frameIntFields, frameTextFields, List.forall_mem_cons, List.not_mem_nil,
    false_implies, implies_true, and_true, optionalInt_returns_iff, optionalString_returns_iff,
    ttlField_returns_iff]
  constructor
  · rintro ⟨pts, uuid, keyframe, previous, keyframePts, dts, duration, timeBase, session, number,
      timestamp, ttl⟩
    exact ⟨⟨pts, keyframePts, dts, duration, number, timestamp⟩,
      ⟨uuid, keyframe, previous, timeBase, session⟩, ttl⟩
  · rintro ⟨⟨pts, keyframePts, dts, duration, number, timestamp⟩,
      ⟨uuid, keyframe, previous, timeBase, session⟩, ttl⟩
    exact ⟨pts, uuid, keyframe, previous, keyframePts, dts, duration, timeBase, session, number,
      timestamp, ttl⟩

theorem checkFrameAnchor_ok_iff :
    checkFrameAnchor payload = .ok () ↔
      (!absent (lookup payload "frame_pts") ||
        hasText (lookup payload "frame_uuid")) = true := by
  unfold checkFrameAnchor
  cases lookup payload "frame_pts" with
  | none => cases hasText (lookup payload "frame_uuid") <;> simp [absent, invalid]
  | some value =>
    cases value with
    | null => cases hasText (lookup payload "frame_uuid") <;> simp [absent, invalid]
    | bool _ | int _ | float _ | str _ | list _ | dict _ => simp [absent]

variable {maxObjectsPerFrame : Int}

theorem acceptedMessage_of_frame {objects normalized : List Json}
    (distinct : (Json.dict payload).distinct = true)
    (accepted : AcceptedFrame strOf maxObjectsPerFrame payload objects normalized) :
    AcceptedMessage strOf maxObjectsPerFrame payload objects := by
  rcases headRules_return_iff.mp ⟨payload, accepted.headed⟩ with ⟨schema, kind, source, camera⟩
  rcases frameRules_return_iff.mp ⟨payload, accepted.framed⟩ with ⟨ints, texts, ttl⟩
  exact
    { schema, kind, source, camera, ints, texts, ttl
      anchored := checkFrameAnchor_ok_iff.mp accepted.anchored
      given := accepted.given
      few := not_lt.mp accepted.few
      scanned := scanFieldsBut_ok_iff.mp accepted.scanned
      each := by
        intro object member
        have isDistinct := Json.distinct_of_mem_items
          (Json.distinct_of_lookup distinct accepted.given) member
        rcases List.mem_iff_getElem?.mp member with ⟨index, atIndex⟩
        have isInput : (object, index) ∈ objects.zipIdx := by
          rw [List.mem_zipIdx_iff_getElem?]
          exact atIndex
        rcases exists_output_of_mapM accepted.each isInput with ⟨form, _, isForm⟩
        rcases validateFrameObject_ok isForm with ⟨entries, _, same, _⟩
        simp only at same isForm
        rw [same] at isForm isDistinct
        exact ⟨entries, same, (validateFrameObject_returns_iff isDistinct).mp ⟨form, isForm⟩⟩ }

theorem frame_of_acceptedMessage {objects : List Json}
    (distinct : (Json.dict payload).distinct = true)
    (accepted : AcceptedMessage strOf maxObjectsPerFrame payload objects) :
    ∃ normalized, AcceptedFrame strOf maxObjectsPerFrame payload objects normalized := by
  have each : Returns (objects.zipIdx.mapM fun place =>
      validateFrameObject strOf place.2 place.1) := by
    rw [mapM_returns_iff]
    rintro ⟨object, index⟩ member
    have isObject := List.fst_mem_of_mem_zipIdx member
    rcases accepted.each object isObject with ⟨_, rfl, isAccepted⟩
    exact (validateFrameObject_returns_iff (Json.distinct_of_mem_items
      (Json.distinct_of_lookup distinct accepted.given) isObject)).mpr isAccepted
  rcases each with ⟨normalized, each⟩
  rcases headRules_return_iff.mpr ⟨accepted.schema, accepted.kind, accepted.source,
    accepted.camera⟩ with ⟨identified, headed⟩
  rcases frameRules_return_iff.mpr ⟨accepted.ints, accepted.texts, accepted.ttl⟩ with
    ⟨framed, isFramed⟩
  cases applyRules_eq (headRules_preserve _) headed
  cases applyRules_eq frameRules_preserve isFramed
  have few := accepted.few
  exact ⟨normalized,
    { bounded := by omega
      headed
      anchored := checkFrameAnchor_ok_iff.mpr accepted.anchored
      framed := isFramed
      given := accepted.given
      few := not_lt.mpr few
      scanned := scanFieldsBut_ok_iff.mpr accepted.scanned
      each }⟩

theorem validateFrameAnnotationMessage_returns_iff
    (distinct : (Json.dict payload).distinct = true) :
    Returns (validateFrameAnnotationMessage strOf maxObjectsPerFrame (.dict payload)) ↔
      ∃ objects, AcceptedMessage strOf maxObjectsPerFrame payload objects := by
  constructor
  · rintro ⟨message, isMessage⟩
    rcases validateFrameAnnotationMessage_ok isMessage with ⟨_, objects, _, same, _, accepted⟩
    cases same
    exact ⟨objects, acceptedMessage_of_frame distinct accepted⟩
  · rintro ⟨objects, accepted⟩
    rcases frame_of_acceptedMessage distinct accepted with ⟨_, isFrame⟩
    exact ⟨_, validateFrameAnnotationMessage_of_accepted isFrame⟩

end Strings

end VideoAnalysis.Evidence
