import VideoAnalysis.Evidence.Validation
import VideoAnalysis.Python.JsonTree

/-! # Normal forms of evidence messages

What validation has normalised once, it does not change again: every field rule settles, and
so does what is made of nested parts.
-/

namespace VideoAnalysis.Evidence

open Foundation Python
open FieldRule (optional_settles required_settles test_settles)

/-! ## Simple fields -/

variable {fieldName : String} {found : Option Json}

theorem requireNonEmptyString_ok {content : Text}
    (accepted : requireNonEmptyString fieldName found = .ok content) :
    found = some (.str content) ∧ strip content ≠ [] := by
  unfold requireNonEmptyString at accepted
  split at accepted
  next given =>
    split at accepted
    next => cases accepted
    next notEmpty =>
      cases accepted
      exact ⟨rfl, notEmpty⟩
  next => cases accepted

theorem requireInt_ok {number : Int} (accepted : requireInt fieldName found = .ok number) :
    found = some (.int number) := by
  unfold requireInt at accepted
  split at accepted
  next =>
    cases accepted
    rfl
  next => cases accepted

theorem normalizeNumber_again {number : Double}
    (accepted : normalizeNumber fieldName found = .ok number) :
    normalizeNumber fieldName (some (.float number)) = .ok number := by
  have isFinite : number.isFinite = true := by
    unfold normalizeNumber at accepted
    split at accepted
    next integer =>
      split at accepted
      next double converted =>
        cases accepted
        exact Double.isFinite_of_ofInt converted
      next => cases accepted
    next double =>
      split at accepted
      next isFinite =>
        cases accepted
        exact isFinite
      next => cases accepted
    next => cases accepted
  rw [normalizeNumber, if_pos isFinite]

theorem normalizeUnitFloat_again {number : Double}
    (accepted : normalizeUnitFloat fieldName found = .ok number) :
    normalizeUnitFloat fieldName (some (.float number)) = .ok number := by
  rcases bind_eq_ok accepted with ⟨_, isNumber, isResult⟩
  split at isResult
  next => cases isResult
  next inside =>
    cases isResult
    simp only [normalizeUnitFloat, bind, Except.bind, normalizeNumber_again isNumber, if_neg inside]
    rfl

variable (key : String)

theorem stringField_settles : (stringField key).Settles := by
  apply required_settles
  intro found value accepted
  rcases map_eq_ok accepted with ⟨_, isContent, rfl⟩
  rw [(requireNonEmptyString_ok isContent).1] at isContent
  rw [isContent]
  rfl

theorem optionalString_settles : (optionalString key).Settles := by
  apply optional_settles
  intro found value accepted
  rcases map_eq_ok accepted with ⟨_, isContent, rfl⟩
  rw [(requireNonEmptyString_ok isContent).1] at isContent
  exact ⟨nofun, by rw [isContent]; rfl⟩

theorem optionalInt_settles : (optionalInt key).Settles := by
  apply optional_settles
  intro found value accepted
  rcases map_eq_ok accepted with ⟨_, _, rfl⟩
  exact ⟨nofun, rfl⟩

theorem optionalUnitFloat_settles (fieldName : String) :
    (optionalUnitFloat key fieldName).Settles := by
  apply optional_settles
  intro found value accepted
  rcases map_eq_ok accepted with ⟨_, isNumber, rfl⟩
  exact ⟨nofun, by rw [normalizeUnitFloat_again isNumber]; rfl⟩

theorem ttlField_settles : ttlField.Settles := by
  apply required_settles
  intro found value accepted
  rcases bind_eq_ok accepted with ⟨_, isSeconds, isResult⟩
  split at isResult
  next => cases isResult
  next =>
    cases isResult
    rw [requireInt_ok isSeconds] at accepted
    exact accepted

/-! ## Boxes -/

variable {value : Json}

theorem validateBboxList_again (accepted : validateBboxList fieldName found = .ok value) :
    validateBboxList fieldName (some value) = .ok value ∧
      ∃ x1 y1 x2 y2, value = .list [.float x1, .float y1, .float x2, .float y2] := by
  unfold validateBboxList at accepted
  split at accepted
  next first second third fourth =>
    rcases bind_eq_ok accepted with ⟨x1, isX1, accepted⟩
    rcases bind_eq_ok accepted with ⟨y1, isY1, accepted⟩
    rcases bind_eq_ok accepted with ⟨x2, isX2, accepted⟩
    rcases bind_eq_ok accepted with ⟨y2, isY2, accepted⟩
    split at accepted
    next => cases accepted
    next ordered =>
      cases accepted
      refine ⟨?_, x1, y1, x2, y2, rfl⟩
      simp only [validateBboxList, bind, Except.bind, normalizeNumber_again isX1,
        normalizeNumber_again isY1, normalizeNumber_again isX2, normalizeNumber_again isY2,
        if_neg ordered]
      rfl
  next => cases accepted

theorem bboxRules_settle : ∀ rule ∈ bboxRules, rule.Settles := by
  simp only [bboxRules, List.forall_mem_cons]
  refine ⟨test_settles _ _, test_settles _ _, ?_,
    optionalUnitFloat_settles _ _, List.forall_mem_nil _⟩
  exact required_settles fun found value accepted => (validateBboxList_again accepted).1

theorem validateBbox_again (accepted : validateBbox found = .ok value) :
    validateBbox (some value) = .ok value := by
  unfold validateBbox at accepted
  split at accepted
  next bbox =>
    rcases map_eq_ok accepted with ⟨_, applied, rfl⟩
    rw [validateBbox, applyRules_again bboxRules_settle (by decide) applied]
    rfl
  next => cases accepted

/-! ## The scan -/

/-- A key that is neither a forbidden field nor `embedding`, in any case. -/
def AllowedKey (name : Text) : Prop :=
  lower name ∉ forbiddenImageFields ∧ lower name ∉ forbiddenVectorFields ∧
    lower name ≠ text "embedding"

instance (name : Text) : Decidable (AllowedKey name) :=
  inferInstanceAs (Decidable (_ ∧ _ ∧ _))

theorem checkKey_ok_iff {path key : Text} : checkKey path key = .ok () ↔ AllowedKey key := by
  unfold checkKey AllowedKey
  split
  next image => exact ⟨fun failed => (by cases failed), fun allowed => absurd image allowed.1⟩
  next notImage =>
    split
    next vector =>
      exact ⟨fun failed => (by cases failed), fun allowed => absurd vector allowed.2.1⟩
    next notVector =>
      split
      next embedding =>
        exact ⟨fun failed => (by cases failed), fun allowed => absurd embedding allowed.2.2⟩
      next notEmbedding => exact ⟨fun _ => ⟨notImage, notVector, notEmbedding⟩, fun _ => rfl⟩

mutual

/-- The scan accepts exactly the values all keys of which are allowed. -/
theorem scanForbiddenFields_ok_iff (path : Text) (forbidEmbeddingKey : Bool) :
    (value : Json) → (scanForbiddenFields path forbidEmbeddingKey value = .ok () ↔
      Json.KeysSatisfy AllowedKey value)
  | .dict entries => by
      rw [scanForbiddenFields, Json.keysSatisfy_dict]
      exact scanEntries_ok_iff path forbidEmbeddingKey entries
  | .list items => by
      rw [scanForbiddenFields, Json.keysSatisfy_list]
      exact scanItems_ok_iff path forbidEmbeddingKey 0 items
  | .null | .bool _ | .int _ | .float _ | .str _ => by
      exact ⟨fun _ => Json.keysSatisfy_of_isScalar rfl, fun _ => rfl⟩

theorem scanEntries_ok_iff (path : Text) (forbidEmbeddingKey : Bool) :
    (entries : List (Text × Json)) → (scanEntries path forbidEmbeddingKey entries = .ok () ↔
      ∀ entry ∈ entries, AllowedKey entry.1 ∧ Json.KeysSatisfy AllowedKey entry.2)
  | [] => ⟨fun _ _ member => absurd member List.not_mem_nil, fun _ => rfl⟩
  | (key, child) :: rest => by
      have below := scanForbiddenFields_ok_iff (path ++ text "." ++ key) true child
      have others := scanEntries_ok_iff path forbidEmbeddingKey rest
      have ofKey := @checkKey_ok_iff (path ++ text "." ++ key) key
      rw [List.forall_mem_cons, ← others, ← below, scanEntries]
      split
      next refused =>
        simp only [Bool.and_eq_true, decide_eq_true_eq] at refused
        exact ⟨fun failed => (by cases failed), fun each => absurd refused.1 each.1.1.2.2⟩
      next =>
        rw [andThen_eq_ok_iff, andThen_eq_ok_iff, ofKey, and_assoc]

theorem scanItems_ok_iff (path : Text) (forbidEmbeddingKey : Bool) (position : Nat) :
    (items : List Json) → (scanItems path forbidEmbeddingKey position items = .ok () ↔
      ∀ item ∈ items, Json.KeysSatisfy AllowedKey item)
  | [] => ⟨fun _ _ member => absurd member List.not_mem_nil, fun _ => rfl⟩
  | child :: rest => by
      have below := scanForbiddenFields_ok_iff (path ++ indexText position) forbidEmbeddingKey child
      have others := scanItems_ok_iff path forbidEmbeddingKey (position + 1) rest
      rw [List.forall_mem_cons, ← others, ← below, scanItems, andThen_eq_ok_iff]

end

variable {entries : Entries}

theorem scanFieldsBut_ok_iff {skipped : String} {pathOf : Text → Text} :
    scanFieldsBut skipped pathOf entries = .ok () ↔
      ∀ entry ∈ entries, entry.1 ≠ text skipped →
        AllowedKey entry.1 ∧ Json.KeysSatisfy AllowedKey entry.2 := by
  rw [scanFieldsBut, forM_eq_ok_iff]
  simp only [List.mem_filter, decide_eq_true_eq, and_imp, scanForbiddenField,
    andThen_eq_ok_iff, checkKey_ok_iff, scanForbiddenFields_ok_iff]

/-! ## Embedding summaries -/

def SummaryKeys (entries : Entries) : Prop :=
  ∀ entry ∈ entries, entry.1 ∈ allowedEmbeddingSummaryFields

theorem checkSummaryKeys_ok_iff :
    checkSummaryKeys entries = .ok () ↔ SummaryKeys entries := by
  rw [checkSummaryKeys, forM_eq_ok_iff]
  refine forall₂_congr fun entry _ => ?_
  split
  next known => exact ⟨fun _ => known, fun _ => rfl⟩
  next unknown =>
    split <;> exact ⟨fun failed => (by cases failed), fun known => absurd known unknown⟩

theorem embeddingDim_again {found : Json} (accepted : embeddingDim found = .ok value) :
    value.isScalar = true ∧ value ≠ .null ∧ embeddingDim value = .ok value := by
  rcases bind_eq_ok accepted with ⟨_, isDim, isResult⟩
  cases requireInt_ok isDim
  have again := isResult
  split at isResult
  next => cases isResult
  next =>
    cases isResult
    exact ⟨rfl, nofun, accepted⟩

theorem embeddingNorm_again {found : Json}
    (accepted : (normalizeNumber "embedding_norm" (some found)).map Json.float = .ok value) :
    value.isScalar = true ∧ value ≠ .null ∧
      (normalizeNumber "embedding_norm" (some value)).map Json.float = .ok value := by
  rcases map_eq_ok accepted with ⟨_, isNumber, rfl⟩
  exact ⟨rfl, nofun, by rw [normalizeNumber_again isNumber]; rfl⟩

theorem summaryRules_settle : ∀ rule ∈ summaryRules, rule.Settles := by
  simp only [summaryRules, List.forall_mem_cons]
  exact ⟨test_settles _ _,
    optional_settles fun _ _ accepted => (embeddingDim_again accepted).2,
    optional_settles fun _ _ accepted => (embeddingNorm_again accepted).2,
    List.forall_mem_nil _⟩

theorem optional_stores {key : String} {normalize : Json → Except Invalid Json}
    (checked : (FieldRule.optional key normalize).check found = .ok (some value)) :
    ∃ item, found = some item ∧ normalize item = .ok value := by
  simp only [FieldRule.optional] at checked
  split at checked
  next => cases checked
  next => cases checked
  next item _ =>
    rcases map_eq_ok checked with ⟨_, isForm, same⟩
    cases same
    exact ⟨item, rfl, isForm⟩

theorem test_stores_nothing {key : String} {accept : Option Json → Except Invalid Unit} :
    (FieldRule.test key accept).check found ≠ .ok (some value) := by
  intro checked
  rcases map_eq_ok checked with ⟨_, _, same⟩
  cases same

theorem required_stores {key : String} {normalize : Option Json → Except Invalid Json}
    (checked : (FieldRule.required key normalize).check found = .ok (some value)) :
    normalize found = .ok value := by
  rcases map_eq_ok checked with ⟨_, isForm, same⟩
  cases same
  exact isForm

theorem summaryRules_store : ∀ rule ∈ summaryRules, ∀ found value,
    rule.check found = .ok (some value) →
      text rule.key ∈ allowedEmbeddingSummaryFields ∧ value.isScalar = true := by
  simp only [summaryRules, List.forall_mem_cons]
  refine ⟨?_, ?_, ?_, List.forall_mem_nil _⟩
  · intro found value checked
    exact absurd checked test_stores_nothing
  · intro found value checked
    rcases optional_stores checked with ⟨_, _, isForm⟩
    exact ⟨by decide, (embeddingDim_again isForm).1⟩
  · intro found value checked
    rcases optional_stores checked with ⟨_, _, isForm⟩
    exact ⟨by decide, (embeddingNorm_again isForm).1⟩

theorem allowed_of_summaryKey : ∀ name ∈ allowedEmbeddingSummaryFields, AllowedKey name := by
  decide

def CleanSummary (entries : Entries) : Prop :=
  SummaryKeys entries ∧ Json.KeysSatisfy AllowedKey (.dict entries)

theorem cleanSummary_store {key : String} (clean : CleanSummary entries)
    (isKey : text key ∈ allowedEmbeddingSummaryFields) (scalar : value.isScalar = true) :
    CleanSummary (Json.store entries key value) := by
  refine ⟨?_, Json.keysSatisfy_store clean.2 (allowed_of_summaryKey _ isKey)
    (Json.keysSatisfy_of_isScalar scalar)⟩
  intro entry member
  rcases Dict.mem_entries_set member with same | old
  · rw [same]
    exact isKey
  · exact clean.1 entry old

theorem validateEmbeddingSummary_again {found : Json}
    (accepted : validateEmbeddingSummary found = .ok value) :
    validateEmbeddingSummary value = .ok value ∧
      ∃ entries, value = .dict entries ∧ CleanSummary entries := by
  cases found with
  | null | bool _ | int _ | float _ | str _ | list _ => cases accepted
  | dict summary =>
    rcases bind_eq_ok accepted with ⟨_, keys, accepted⟩
    rcases bind_eq_ok accepted with ⟨_, scanned, accepted⟩
    rcases bind_eq_ok accepted with ⟨entries, applied, same⟩
    cases same
    have start : CleanSummary summary :=
      ⟨checkSummaryKeys_ok_iff.mp keys, (scanForbiddenFields_ok_iff _ _ _).mp scanned⟩
    have clean : CleanSummary entries := by
      apply applyRules_keeps _ start applied
      intro rule member current foundValue value isClean checked
      rcases summaryRules_store rule member _ value checked with ⟨isKey, scalar⟩
      exact cleanSummary_store isClean isKey scalar
    refine ⟨?_, entries, rfl, clean⟩
    simp only [validateEmbeddingSummary, bind, Except.bind, checkSummaryKeys_ok_iff.mpr clean.1,
      (scanForbiddenFields_ok_iff (text "embedding_summary") false _).mpr clean.2,
      applyRules_again summaryRules_settle (by decide) applied]
    rfl

/-! ## Poses -/

theorem pointCount_again {found : Json} (accepted : pointCount found = .ok value) :
    value ≠ .null ∧ pointCount value = .ok value := by
  rcases bind_eq_ok accepted with ⟨_, isCount, isResult⟩
  cases requireInt_ok isCount
  split at isResult
  next => cases isResult
  next =>
    cases isResult
    exact ⟨nofun, accepted⟩

theorem describedRules_settle : ∀ rule ∈ describedRules, rule.Settles := by
  simp only [describedRules, List.forall_mem_cons]
  exact ⟨optional_settles fun _ _ accepted => pointCount_again accepted,
    test_settles _ _, List.forall_mem_nil _⟩

theorem describedKeypoints_again (accepted : describedKeypoints found = .ok value) :
    describedKeypoints (some value) = .ok value ∧ isDict value = true := by
  unfold describedKeypoints at accepted
  split at accepted
  next keypoints =>
    rcases map_eq_ok accepted with ⟨_, applied, rfl⟩
    refine ⟨?_, rfl⟩
    rw [describedKeypoints, applyRules_again describedRules_settle (by decide) applied]
    rfl
  next => cases accepted

theorem validateNamedKeypoint_of_ok {point : Entries} {index : Nat} {name : Text}
    {x y confidence : Double}
    (isIndex : requireInt "pose_keypoint_index" (Json.lookup point "index") = .ok (index : Int))
    (isName : requireNonEmptyString "pose_keypoint_name" (Json.lookup point "name") = .ok name)
    (known : name ∈ coco17KeypointNames)
    (isX : normalizeNumber "pose_keypoint_x" (Json.lookup point "x") = .ok x)
    (isY : normalizeNumber "pose_keypoint_y" (Json.lookup point "y") = .ok y)
    (isConfidence : normalizeUnitFloat "pose_keypoint_confidence"
      (Json.lookup point "confidence") = .ok confidence) :
    validateNamedKeypoint index (.dict point) =
      .ok (.dict [(text "index", .int index), (text "name", .str name), (text "x", .float x),
        (text "y", .float y), (text "confidence", .float confidence)]) := by
  simp only [validateNamedKeypoint, bind, Except.bind, isIndex, isName, if_pos known, isX, isY,
    isConfidence, ne_eq, not_true_eq_false, if_false]
  rfl

theorem validateNamedKeypoint_again {index : Nat} {found value : Json}
    (accepted : validateNamedKeypoint index found = .ok value) :
    validateNamedKeypoint index value = .ok value ∧ isDict value = true := by
  cases found with
  | null | bool _ | int _ | float _ | str _ | list _ => cases accepted
  | dict =>
    rcases bind_eq_ok accepted with ⟨_, _, accepted⟩
    split at accepted
    next => cases accepted
    next expected =>
      rcases bind_eq_ok accepted with ⟨_, isName, accepted⟩
      split at accepted
      next known =>
        rcases bind_eq_ok accepted with ⟨x, isX, accepted⟩
        rcases bind_eq_ok accepted with ⟨y, isY, accepted⟩
        rcases bind_eq_ok accepted with ⟨_, isConfidence, same⟩
        cases same
        cases not_ne_iff.mp expected
        have nameAgain := isName
        rw [(requireNonEmptyString_ok isName).1] at nameAgain
        exact ⟨validateNamedKeypoint_of_ok rfl nameAgain known (normalizeNumber_again isX)
          (normalizeNumber_again isY) (normalizeUnitFloat_again isConfidence), rfl⟩
      next => cases accepted

theorem namedKeypoints_again (accepted : namedKeypoints found = .ok value) :
    namedKeypoints (some value) = .ok value ∧
      ∃ items, value = .list items ∧ items ≠ [] ∧ items.all isDict = true := by
  unfold namedKeypoints at accepted
  split at accepted
  next items =>
    split at accepted
    next => cases accepted
    next length =>
      rcases map_eq_ok accepted with ⟨points, arePoints, rfl⟩
      have again := mapM_zipIdx_again (fun index found value isPoint =>
        (@validateNamedKeypoint_again index found value isPoint).1) arePoints
      have count : points.length = 17 := by
        rw [← (mapM_eq_ok_iff.mp arePoints).length_eq, List.length_zipIdx]
        exact not_ne_iff.mp length
      refine ⟨?_, points, rfl, ?_, ?_⟩
      · rw [namedKeypoints, if_neg (not_ne_iff.mpr count), again]
        rfl
      · rintro rfl
        cases count
      · rw [List.all_eq_true]
        intro point member
        rcases exists_input_of_mapM arePoints member with ⟨⟨_, _⟩, _, isPoint⟩
        exact (validateNamedKeypoint_again isPoint).2
  next => cases accepted

theorem validateListedKeypoint_again {found : Json}
    (accepted : validateListedKeypoint found = .ok (some value)) :
    validateListedKeypoint value = .ok (some value) ∧ isList value = true := by
  unfold validateListedKeypoint at accepted
  split at accepted
  next first second third others =>
    rcases bind_eq_ok accepted with ⟨x, isX, accepted⟩
    rcases bind_eq_ok accepted with ⟨y, isY, accepted⟩
    rcases bind_eq_ok accepted with ⟨_, isConfidence, same⟩
    cases same
    refine ⟨?_, rfl⟩
    simp only [validateListedKeypoint, bind, Except.bind, normalizeNumber_again isX,
      normalizeNumber_again isY, normalizeUnitFloat_again isConfidence]
    rfl
  next => cases accepted

theorem listedKeypoints_again (accepted : listedKeypoints found = .ok value) :
    listedKeypoints (some value) = .ok value ∧
      ∃ items, value = .list items ∧ items ≠ [] ∧ items.all isList = true := by
  unfold listedKeypoints at accepted
  split at accepted
  next items =>
    split at accepted
    next => cases accepted
    next length =>
      rcases bind_eq_ok accepted with ⟨points, arePoints, accepted⟩
      simp only at accepted
      split at accepted
      next => cases accepted
      next count =>
        cases accepted
        have normal : ∀ point ∈ points.reduceOption,
            validateListedKeypoint point = .ok (some point) ∧ isList point = true := by
          intro point member
          rcases List.mem_filterMap.mp member with ⟨found, isFound, same⟩
          rcases exists_input_of_mapM arePoints isFound with ⟨_, _, isPoint⟩
          rw [show found = some point from same] at isPoint
          exact validateListedKeypoint_again isPoint
        have again := mapM_of_eq fun point member => (normal point member).1
        have same : (points.reduceOption.map some).reduceOption = points.reduceOption := by
          rw [List.reduceOption, List.filterMap_map, Function.id_comp, List.filterMap_some]
        refine ⟨?_, points.reduceOption, rfl, ?_, ?_⟩
        · simp only [listedKeypoints, if_neg count, again, bind, Except.bind, same]
          rfl
        · intro empty
          rw [empty] at count
          exact count (by rintro ⟨⟩)
        · exact List.all_eq_true.mpr fun point member => (normal point member).2
  next => cases accepted

section Strings

variable {strOf : Json → Text}

theorem fallbackField_settles (constant message : String) :
    (fallbackField strOf key constant message).Settles := by
  apply required_settles
  intro found value accepted
  split at accepted
  next isConstant =>
    cases accepted
    have again : strOr strOf constant (some (.str (text constant))) = text constant := by
      simp only [strOr]
      split <;> rfl
    rw [isConstant, again, if_pos rfl]
  next => cases accepted

theorem namedRules_settle : ∀ rule ∈ namedRules strOf, rule.Settles := by
  simp only [namedRules, List.forall_mem_cons]
  exact ⟨required_settles fun _ _ accepted => (namedKeypoints_again accepted).1,
    required_settles fun _ _ accepted => accepted, fallbackField_settles _ _ _,
    fallbackField_settles _ _ _, List.forall_mem_nil _⟩

theorem namedRules_distinct : ((namedRules strOf).map FieldRule.key).Nodup := by
  change ["keypoints", "keypoint_count", "keypoints_format", "keypoint_coordinate_space"].Nodup
  decide

theorem lookup_of_settled {key : String} {normalize : Option Json → Except Invalid Json}
    {entries : Entries} (settled : (FieldRule.required key normalize).Settled entries) :
    ∃ value, Json.lookup entries key = some value ∧ normalize (some value) = .ok value := by
  rcases settled with leaves | ⟨value, stores, present⟩
  · rcases map_eq_ok leaves with ⟨_, _, isSome⟩
    cases isSome
  · have isForm := required_stores stores
    exact ⟨value, present, present ▸ isForm⟩

theorem poseRules_dict (isDictionary : isDict value = true) :
    poseRules strOf (some value) = .ok [.required "keypoints" describedKeypoints] := by
  cases value with
  | null | bool _ | int _ | float _ | str _ | list _ => cases isDictionary
  | dict => rfl

theorem poseRules_listed {items : List Json} (inhabited : items ≠ [])
    (areLists : items.all isList = true) :
    poseRules strOf (some (.list items)) = .ok [.required "keypoints" listedKeypoints] := by
  have notDicts : ¬(items ≠ [] ∧ items.all isDict = true) := by
    rintro ⟨_, areDicts⟩
    rcases List.exists_mem_of_ne_nil items inhabited with ⟨item, member⟩
    have itemList := List.all_eq_true.mp areLists item member
    have itemDict := List.all_eq_true.mp areDicts item member
    cases item with
    | dict => cases itemList
    | null | bool _ | int _ | float _ | str _ | list _ => cases itemDict
  simp only [poseRules, if_neg notDicts]
  exact if_pos ⟨inhabited, areLists⟩

theorem keypoints_settle {normalize : Option Json → Except Invalid Json}
    (again : ∀ found value, normalize found = .ok value → normalize (some value) = .ok value) :
    ∀ rule ∈ [FieldRule.required "keypoints" normalize], rule.Settles := by
  intro rule member
  rw [List.mem_singleton.mp member]
  exact required_settles again

theorem poseRules_again {pose entries : Entries} {rules : List (FieldRule Invalid)}
    (asked : poseRules strOf (Json.lookup pose "keypoints") = .ok rules)
    (applied : applyRules rules pose = .ok entries) :
    poseRules strOf (Json.lookup entries "keypoints") = .ok rules ∧
      applyRules rules entries = .ok entries := by
  unfold poseRules at asked
  split at asked
  next missing =>
    cases asked
    cases applied
    exact ⟨by rw [missing, poseRules], rfl⟩
  next isNull =>
    cases asked
    cases applied
    exact ⟨by rw [isNull, poseRules], rfl⟩
  next described _ =>
    cases asked
    have settle := @keypoints_settle describedKeypoints fun _ _ accepted =>
      (describedKeypoints_again accepted).1
    refine ⟨?_, applyRules_again settle (by decide) applied⟩
    have settled := settled_applyRules settle (by decide) applied _ List.mem_cons_self
    rcases lookup_of_settled settled with ⟨_, present, isForm⟩
    rw [present]
    exact poseRules_dict (describedKeypoints_again isForm).2
  next items _ =>
    split at asked
    next =>
      cases asked
      refine ⟨?_, applyRules_again namedRules_settle namedRules_distinct applied⟩
      have settled := settled_applyRules namedRules_settle namedRules_distinct applied _
        List.mem_cons_self
      rcases lookup_of_settled settled with ⟨_, present, isForm⟩
      rcases (namedKeypoints_again isForm).2 with ⟨_, rfl, inhabited, areDicts⟩
      rw [present]
      exact if_pos ⟨inhabited, areDicts⟩
    next =>
      split at asked
      next =>
        cases asked
        have settle := @keypoints_settle listedKeypoints fun _ _ accepted =>
          (listedKeypoints_again accepted).1
        refine ⟨?_, applyRules_again settle (by decide) applied⟩
        have settled := settled_applyRules settle (by decide) applied _ List.mem_cons_self
        rcases lookup_of_settled settled with ⟨_, present, isForm⟩
        rcases (listedKeypoints_again isForm).2 with ⟨_, rfl, inhabited, areLists⟩
        rw [present]
        exact poseRules_listed inhabited areLists
      next => cases asked
  next => cases asked

theorem validatePoseSummary_again {found : Json}
    (accepted : validatePoseSummary strOf found = .ok value) :
    value ≠ .null ∧ validatePoseSummary strOf value = .ok value := by
  cases found with
  | null | bool _ | int _ | float _ | str _ | list _ => cases accepted
  | dict =>
    rcases bind_eq_ok accepted with ⟨_, asked, accepted⟩
    rcases bind_eq_ok accepted with ⟨_, applied, same⟩
    cases same
    rcases poseRules_again asked applied with ⟨askedAgain, appliedAgain⟩
    refine ⟨nofun, ?_⟩
    simp only [validatePoseSummary, bind, Except.bind, askedAgain, appliedAgain]
    rfl

/-! ## Objects -/

theorem qualityOf_again (accepted : qualityOf found = .ok value) :
    qualityOf (some value) = .ok value := by
  unfold qualityOf at accepted
  split at accepted
  next =>
    cases accepted
    rfl
  next =>
    cases accepted
    rfl
  next => cases accepted

theorem objectRules_settle : ∀ rule ∈ objectRules strOf, rule.Settles := by
  simp only [objectRules, List.forall_mem_cons]
  refine ⟨test_settles _ _, stringField_settles _, optionalString_settles _,
    optionalString_settles _, required_settles fun _ _ => validateBbox_again,
    required_settles fun _ _ => qualityOf_again, ?_,
    optional_settles fun _ _ => validatePoseSummary_again,
    List.forall_mem_nil _⟩
  apply optional_settles
  intro found value accepted
  rcases validateEmbeddingSummary_again accepted with ⟨again, _, rfl, _⟩
  exact ⟨nofun, again⟩

end Strings

end VideoAnalysis.Evidence
