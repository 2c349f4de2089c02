import VideoAnalysis.Evidence.NormalForms

/-! # Messages without pixels and vectors

What validation accepts has, at any depth, no key of a forbidden field, and `embedding` only
as the summary of an object; and it is accepted again as it is.
-/

namespace VideoAnalysis.Evidence

open Foundation Python

variable {strOf : Json → Text}

/-! ## Fields that are only looked at -/

def Preserves (rule : FieldRule Invalid) : Prop :=
  ∀ found value, rule.check found = .ok (some value) → found = some value

theorem preserves_test (key : String) (accept : Option Json → Except Invalid Unit) :
    Preserves (.test key accept) := fun _ _ checked => absurd checked test_stores_nothing

theorem preserves_stringField (key : String) : Preserves (stringField key) := by
  intro found value checked
  rcases map_eq_ok (required_stores checked) with ⟨_, isContent, rfl⟩
  exact (requireNonEmptyString_ok isContent).1

theorem preserves_optionalString (key : String) : Preserves (optionalString key) := by
  intro found value checked
  rcases optional_stores checked with ⟨_, rfl, isForm⟩
  rcases map_eq_ok isForm with ⟨_, isContent, rfl⟩
  exact (requireNonEmptyString_ok isContent).1

theorem preserves_optionalInt (key : String) : Preserves (optionalInt key) := by
  intro found value checked
  rcases optional_stores checked with ⟨_, rfl, isForm⟩
  rcases map_eq_ok isForm with ⟨_, isNumber, rfl⟩
  exact requireInt_ok isNumber

theorem preserves_ttlField : Preserves ttlField := by
  intro found value checked
  rcases bind_eq_ok (required_stores checked) with ⟨_, isSeconds, isResult⟩
  split at isResult
  next => cases isResult
  next =>
    cases isResult
    exact requireInt_ok isSeconds

theorem detailRules_preserve : ∀ rule ∈ detailRules, Preserves rule := by
  simp only [detailRules, List.forall_mem_cons]
  exact ⟨preserves_test _ _, preserves_test _ _, List.forall_mem_nil _⟩

theorem headRules_preserve (messageType : String) :
    ∀ rule ∈ headRules messageType, Preserves rule := by
  simp only [headRules, List.forall_mem_cons]
  exact ⟨preserves_test _ _, preserves_test _ _, preserves_stringField _, preserves_stringField _,
    List.forall_mem_nil _⟩

theorem frameRules_preserve : ∀ rule ∈ frameRules, Preserves rule := by
  simp only [frameRules, List.forall_mem_cons]
  exact ⟨preserves_optionalInt _, preserves_optionalString _, preserves_optionalString _,
    preserves_optionalString _, preserves_optionalInt _, preserves_optionalInt _,
    preserves_optionalInt _, preserves_optionalString _, preserves_optionalString _,
    preserves_optionalInt _, preserves_optionalInt _, preserves_ttlField,
    List.forall_mem_nil _⟩

theorem headRules_settle (messageType : String) :
    ∀ rule ∈ headRules messageType, rule.Settles := by
  simp only [headRules, List.forall_mem_cons]
  exact ⟨FieldRule.test_settles _ _, FieldRule.test_settles _ _, stringField_settles _,
    stringField_settles _, List.forall_mem_nil _⟩

theorem frameRules_settle : ∀ rule ∈ frameRules, rule.Settles := by
  simp only [frameRules, List.forall_mem_cons]
  exact ⟨optionalInt_settles _, optionalString_settles _, optionalString_settles _,
    optionalString_settles _, optionalInt_settles _, optionalInt_settles _,
    optionalInt_settles _, optionalString_settles _, optionalString_settles _,
    optionalInt_settles _, optionalInt_settles _, ttlField_settles,
    List.forall_mem_nil _⟩

/-! ## Objects -/

theorem objectRules_distinct : ((objectRules strOf).map FieldRule.key).Nodup := by
  change ["object_type", "object_id", "track_id", "source_observation_id", "bbox", "quality",
    "embedding", "pose"].Nodup
  decide

variable {index : Nat}

theorem validateFrameObject_ok {found value : Json}
    (accepted : validateFrameObject strOf index found = .ok value) :
    ∃ object normalized, found = .dict object ∧ value = .dict normalized ∧
      applyRules (objectRules strOf) object = .ok normalized ∧
      scanFieldsBut "embedding"
        (fun key => text "objects" ++ indexText index ++ text "." ++ key) normalized = .ok () ∧
      checkFace strOf normalized = .ok () ∧
      applyRules detailRules normalized = .ok normalized := by
  cases found with
  | null | bool _ | int _ | float _ | str _ | list _ => cases accepted
  | dict object =>
    rcases bind_eq_ok accepted with ⟨normalized, applied, accepted⟩
    rcases bind_eq_ok accepted with ⟨_, scanned, accepted⟩
    rcases bind_eq_ok accepted with ⟨_, checked, accepted⟩
    rcases bind_eq_ok accepted with ⟨_, detailed, same⟩
    cases applyRules_eq detailRules_preserve detailed
    cases same
    exact ⟨object, normalized, rfl, rfl, applied, scanned, checked, detailed⟩

theorem validateFrameObject_again {found value : Json}
    (accepted : validateFrameObject strOf index found = .ok value) :
    validateFrameObject strOf index value = .ok value := by
  rcases validateFrameObject_ok accepted with
    ⟨_, _, rfl, rfl, applied, scanned, checked, detailed⟩
  simp only [validateFrameObject, bind, Except.bind,
    applyRules_again objectRules_settle objectRules_distinct applied, scanned, checked, detailed]
  rfl

/-- An object has no forbidden key, and `embedding` only as its summary. -/
structure CleanObject (entries : Entries) : Prop where
  others : ∀ entry ∈ entries, entry.1 ≠ text "embedding" →
    AllowedKey entry.1 ∧ Json.KeysSatisfy AllowedKey entry.2
  embedding : ∀ value, (text "embedding", value) ∈ entries →
    value = .null ∨ ∃ summary, value = .dict summary ∧ CleanSummary summary

theorem distinct_applyRules {rules : List (FieldRule Invalid)} {entries result : Entries}
    (distinct : Dict.Distinct ⟨entries⟩) (applied : applyRules rules entries = .ok result) :
    Dict.Distinct ⟨result⟩ :=
  @applyRules_keeps _ rules entries result (fun current => Dict.Distinct ⟨current⟩)
    (fun _ _ _ _ _ isDistinct _ => isDistinct.set _ _) distinct applied

theorem cleanObject_of_validate {object : Entries} {value : Json}
    (distinct : Dict.Distinct ⟨object⟩)
    (accepted : validateFrameObject strOf index (.dict object) = .ok value) :
    ∃ entries, value = .dict entries ∧ CleanObject entries := by
  rcases validateFrameObject_ok accepted with ⟨_, normalized, same, rfl, applied, scanned, _⟩
  cases same
  refine ⟨normalized, rfl, scanFieldsBut_ok_iff.mp scanned, ?_⟩
  intro value member
  have isDistinct := distinct_applyRules distinct applied
  have present : Json.lookup normalized "embedding" = some value :=
    Dict.get_of_mem isDistinct member
  have settled := settled_applyRules objectRules_settle objectRules_distinct applied
    (.optional "embedding" validateEmbeddingSummary) (by simp [objectRules])
  rcases settled with leaves | ⟨form, stores, isForm⟩
  · simp only [FieldRule.optional, present] at leaves
    split at leaves
    next isNone => cases isNone
    next isNull => exact .inl (Option.some.inj isNull)
    next =>
      rcases map_eq_ok leaves with ⟨_, _, isSome⟩
      cases isSome
  · rcases optional_stores stores with ⟨_, _, isSummary⟩
    have sameValue : value = form := Option.some.inj (present.symm.trans isForm)
    rw [sameValue]
    exact .inr (validateEmbeddingSummary_again isSummary).2

/-! ## Frame annotations -/

/-- What an accepted frame annotation is, and what was asked of it. -/
structure AcceptedFrame (strOf : Json → Text) (maxObjectsPerFrame : Int) (payload : Entries)
    (objects normalized : List Json) : Prop where
  bounded : ¬maxObjectsPerFrame < 0
  headed : applyRules (headRules "frame_annotation") payload = .ok payload
  anchored : checkFrameAnchor payload = .ok ()
  framed : applyRules frameRules payload = .ok payload
  given : Json.lookup payload "objects" = some (.list objects)
  few : ¬maxObjectsPerFrame < objects.length
  scanned : scanFieldsBut "objects" id payload = .ok ()
  each : (objects.zipIdx.mapM fun (object, index) => validateFrameObject strOf index object) =
    .ok normalized

variable {found message : Json}

theorem validateFrameAnnotationMessage_ok {maxObjectsPerFrame : Int}
    (accepted : validateFrameAnnotationMessage strOf maxObjectsPerFrame found = .ok message) :
    ∃ payload objects normalized, found = .dict payload ∧
      message = .dict (Json.store payload "objects" (.list normalized)) ∧
      AcceptedFrame strOf maxObjectsPerFrame payload objects normalized := by
  cases found with
  | null | bool _ | int _ | float _ | str _ | list _ => cases accepted
  | dict payload =>
    simp only [validateFrameAnnotationMessage] at accepted
    split at accepted
    next => cases accepted
    next bounded =>
      rcases bind_eq_ok accepted with ⟨_, headed, accepted⟩
      rcases bind_eq_ok accepted with ⟨_, anchored, accepted⟩
      rcases bind_eq_ok accepted with ⟨_, framed, accepted⟩
      cases applyRules_eq (headRules_preserve _) headed
      cases applyRules_eq frameRules_preserve framed
      split at accepted
      next objects given =>
        split at accepted
        next => cases accepted
        next few =>
          rcases bind_eq_ok accepted with ⟨_, scanned, accepted⟩
          rcases bind_eq_ok accepted with ⟨normalized, each, same⟩
          cases same
          exact ⟨payload, objects, normalized, rfl, rfl,
            ⟨bounded, headed, anchored, framed, given, few, scanned, each⟩⟩
      next => cases accepted

theorem validateFrameAnnotationMessage_of_accepted {maxObjectsPerFrame : Int} {payload : Entries}
    {objects normalized : List Json}
    (accepted : AcceptedFrame strOf maxObjectsPerFrame payload objects normalized) :
    validateFrameAnnotationMessage strOf maxObjectsPerFrame (.dict payload) =
      .ok (.dict (Json.store payload "objects" (.list normalized))) := by
  simp only [validateFrameAnnotationMessage, if_neg accepted.bounded, bind, Except.bind,
    accepted.headed, accepted.anchored, accepted.framed, accepted.given, if_neg accepted.few,
    accepted.scanned, accepted.each]
  rfl

/-- Rules for other fields are settled whatever is stored as `objects`. -/
theorem applyRules_storeObjects {rules : List (FieldRule Invalid)} {payload : Entries}
    {objects : Json} (settles : ∀ rule ∈ rules, rule.Settles)
    (distinct : (rules.map FieldRule.key).Nodup) (others : "objects" ∉ rules.map FieldRule.key)
    (applied : applyRules rules payload = .ok payload) :
    applyRules rules (Json.store payload "objects" objects) =
      .ok (Json.store payload "objects" objects) := by
  apply applyRules_of_settled
  intro rule member
  apply (settled_applyRules settles distinct applied rule member).of_lookup
  rw [Json.lookup_store, if_neg]
  rintro same
  exact others (same ▸ List.mem_map_of_mem member)

theorem headRules_keys (messageType : String) : (headRules messageType).map FieldRule.key =
    ["schema_version", "message_type", "source_id", "camera_id"] := rfl

theorem frameRules_keys : frameRules.map FieldRule.key =
    ["frame_pts", "frame_uuid", "keyframe_uuid", "previous_keyframe_uuid", "keyframe_pts",
      "frame_dts", "duration", "time_base", "stream_session_id", "frame_num", "timestamp_ms",
      "ttl_seconds"] := rfl

theorem acceptedFrame_again {maxObjectsPerFrame : Int} {payload : Entries}
    {objects normalized : List Json}
    (accepted : AcceptedFrame strOf maxObjectsPerFrame payload objects normalized) :
    AcceptedFrame strOf maxObjectsPerFrame (Json.store payload "objects" (.list normalized))
      normalized normalized where
  bounded := accepted.bounded
  headed := by
    apply applyRules_storeObjects (headRules_settle _) _ _ accepted.headed <;>
      · rw [headRules_keys]
        decide
  anchored := by
    have anchored := accepted.anchored
    rw [checkFrameAnchor] at anchored ⊢
    have samePts := Json.lookup_store_of_ne payload (.list normalized)
      (show text "frame_pts" ≠ text "objects" by decide)
    have sameUuid := Json.lookup_store_of_ne payload (.list normalized)
      (show text "frame_uuid" ≠ text "objects" by decide)
    rw [samePts, sameUuid]
    exact anchored
  framed := by
    apply applyRules_storeObjects frameRules_settle _ _ accepted.framed <;>
      · rw [frameRules_keys]
        decide
  given := Json.lookup_store_self _ _ _
  few := by
    have length := (mapM_eq_ok_iff.mp accepted.each).length_eq
    rw [List.length_zipIdx] at length
    rw [← length]
    exact accepted.few
  scanned := by
    have scanned := scanFieldsBut_ok_iff.mp accepted.scanned
    rw [scanFieldsBut_ok_iff]
    intro entry member others
    rcases Dict.mem_entries_set member with same | old
    · exact absurd (congrArg Prod.fst same) others
    · exact scanned entry old others
  each := by
    have again := @mapM_zipIdx_again _ _ (validateFrameObject strOf)
      fun _ _ _ isObject => validateFrameObject_again isObject
    exact again accepted.each

def FrameKey (path : List PathStep) (name : Text) : Prop :=
  AllowedKey name ∨ name = text "embedding" ∧
    ∃ index, path = [.key (text "objects"), .index index]

theorem allowedKey_objects : AllowedKey (text "objects") := by decide

theorem CleanObject.key {entries : Entries} (clean : CleanObject entries) {path : List PathStep}
    {name : Text} (isAt : Json.KeyAt (.dict entries) path name) :
    AllowedKey name ∨ name = text "embedding" ∧ path = [] := by
  cases isAt with
  | @here _ name _ member =>
    by_cases isEmbedding : name = text "embedding"
    · exact .inr ⟨isEmbedding, rfl⟩
    · exact .inl (clean.others _ member isEmbedding).1
  | @entry _ key _ value _ member below =>
    by_cases isEmbedding : key = text "embedding"
    · rw [isEmbedding] at member
      rcases clean.embedding value member with rfl | ⟨summary, rfl, isClean⟩
      · cases below
      · exact .inl (isClean.2 _ _ below)
    · exact .inl ((clean.others _ member isEmbedding).2 _ _ below)

section Accepted

variable {maxObjectsPerFrame : Int} {payload : Entries} {objects normalized : List Json}

section

variable (accepted : AcceptedFrame strOf maxObjectsPerFrame payload objects normalized)
  (isDistinct : (Json.dict payload).distinct = true)

include accepted isDistinct

theorem AcceptedFrame.cleanObject {object : Json}
    (member : object ∈ normalized) : ∃ entries, object = .dict entries ∧ CleanObject entries := by
  rcases exists_input_of_mapM accepted.each member with ⟨⟨_, _⟩, isFound, isObject⟩
  have isGiven := List.fst_mem_of_mem_zipIdx isFound
  have foundDistinct := Json.distinct_of_mem_items
    (Json.distinct_of_lookup isDistinct accepted.given) isGiven
  rcases validateFrameObject_ok isObject with ⟨_, _, same, _⟩
  simp only at same isObject foundDistinct
  rw [same] at isObject foundDistinct
  exact cleanObject_of_validate (Json.nodup_of_distinct foundDistinct) isObject

theorem AcceptedFrame.key {path : List PathStep} {name : Text}
    (isAt : Json.KeyAt (.dict (Json.store payload "objects" (.list normalized))) path name) :
    FrameKey path name := by
  have scanned := scanFieldsBut_ok_iff.mp accepted.scanned
  have storedDistinct := (Json.nodup_of_distinct isDistinct).set (text "objects")
    (.list normalized)
  have stored := Json.lookup_store_self payload "objects" (.list normalized)
  cases isAt with
  | @here _ name _ member =>
    by_cases isObjects : name = text "objects"
    · exact .inl (isObjects ▸ allowedKey_objects)
    · rcases Dict.mem_entries_set member with same | old
      · exact absurd (congrArg Prod.fst same) isObjects
      · exact .inl (scanned _ old isObjects).1
  | @entry _ key name value path member below =>
    by_cases isObjects : key = text "objects"
    · rw [isObjects] at member
      have present : Json.lookup (Json.store payload "objects" (.list normalized)) "objects" =
        some value := Dict.get_of_mem storedDistinct member
      cases stored.symm.trans present
      cases below with
      | @item _ position _ _ _ atPosition below =>
        rcases accepted.cleanObject isDistinct (List.mem_of_getElem? atPosition) with
          ⟨_, rfl, clean⟩
        rcases clean.key below with allowed | ⟨isEmbedding, rfl⟩
        · exact .inl allowed
        · exact .inr ⟨isEmbedding, position, by rw [isObjects]⟩
    · rcases Dict.mem_entries_set member with same | old
      · exact absurd (congrArg Prod.fst same) isObjects
      · exact .inl ((scanned _ old isObjects).2 _ _ below)

end

end Accepted

/-- A frame annotation that shows no pixels and no vectors: no key of a forbidden field, and
`embedding` only on an object, where it has no value or is a summary. -/
structure LeakFreeFrame (message : Json) : Prop where
  forbidden : ∀ path name, message.KeyAt path name →
    lower name ∉ forbiddenImageFields ∧ lower name ∉ forbiddenVectorFields
  embedding : ∀ path name, message.KeyAt path name → lower name = text "embedding" →
    name = text "embedding" ∧ ∃ index, path = [.key (text "objects"), .index index]
  summary : ∀ entries objects object value, message = .dict entries →
    Json.lookup entries "objects" = some (.list objects) → .dict object ∈ objects →
      (text "embedding", value) ∈ object →
        value = .null ∨ ∃ summary, value = .dict summary ∧ SummaryKeys summary

theorem AcceptedFrame.leakFree {maxObjectsPerFrame : Int} {payload : Entries}
    {objects normalized : List Json}
    (accepted : AcceptedFrame strOf maxObjectsPerFrame payload objects normalized)
    (isDistinct : (Json.dict payload).distinct = true) :
    LeakFreeFrame (.dict (Json.store payload "objects" (.list normalized))) where
  forbidden path name isAt := by
    rcases accepted.key isDistinct isAt with allowed | ⟨rfl, _⟩
    · exact ⟨allowed.1, allowed.2.1⟩
    · decide
  embedding path name isAt isEmbedding := by
    rcases accepted.key isDistinct isAt with allowed | isSummary
    · exact absurd isEmbedding allowed.2.2
    · exact isSummary
  summary entries others object value same isList member isEmbedding := by
    cases same
    rw [Json.lookup_store_self] at isList
    cases isList
    rcases accepted.cleanObject isDistinct member with ⟨_, same, clean⟩
    cases same
    rcases clean.embedding value isEmbedding with isNull | ⟨summary, isDict, isClean⟩
    · exact .inl isNull
    · exact .inr ⟨summary, isDict, isClean.1⟩

/-! ## Identity patches -/

def StoresAllowed (rule : FieldRule Invalid) : Prop :=
  ∀ found value, rule.check found = .ok (some value) → Json.KeysSatisfy AllowedKey value

theorem storesAllowed_test (key : String) (accept : Option Json → Except Invalid Unit) :
    StoresAllowed (.test key accept) := fun _ _ checked => absurd checked test_stores_nothing

theorem storesAllowed_stringField (key : String) : StoresAllowed (stringField key) := by
  intro found value checked
  rcases map_eq_ok (required_stores checked) with ⟨_, _, rfl⟩
  exact Json.keysSatisfy_of_isScalar rfl

theorem storesAllowed_optionalString (key : String) : StoresAllowed (optionalString key) := by
  intro found value checked
  rcases optional_stores checked with ⟨_, _, isForm⟩
  rcases map_eq_ok isForm with ⟨_, _, rfl⟩
  exact Json.keysSatisfy_of_isScalar rfl

theorem storesAllowed_optionalInt (key : String) : StoresAllowed (optionalInt key) := by
  intro found value checked
  rcases optional_stores checked with ⟨_, _, isForm⟩
  rcases map_eq_ok isForm with ⟨_, _, rfl⟩
  exact Json.keysSatisfy_of_isScalar rfl

theorem storesAllowed_optionalUnitFloat (key fieldName : String) :
    StoresAllowed (optionalUnitFloat key fieldName) := by
  intro found value checked
  rcases optional_stores checked with ⟨_, _, isForm⟩
  rcases map_eq_ok isForm with ⟨_, _, rfl⟩
  exact Json.keysSatisfy_of_isScalar rfl

theorem storesAllowed_bbox : StoresAllowed
    (.optional "bbox" fun value => validateBboxList "bbox" (some value)) := by
  intro found value checked
  rcases optional_stores checked with ⟨_, _, isForm⟩
  rcases (validateBboxList_again isForm).2 with ⟨_, _, _, _, rfl⟩
  rw [Json.keysSatisfy_list]
  simp only [List.forall_mem_cons]
  exact ⟨Json.keysSatisfy_of_isScalar rfl, Json.keysSatisfy_of_isScalar rfl,
    Json.keysSatisfy_of_isScalar rfl, Json.keysSatisfy_of_isScalar rfl,
    List.forall_mem_nil _⟩

theorem patchRules_storeAllowed : ∀ rule ∈ patchRules, StoresAllowed rule := by
  simp only [patchRules, headRules, List.cons_append, List.nil_append, List.forall_mem_cons]
  exact ⟨storesAllowed_test _ _, storesAllowed_test _ _, storesAllowed_stringField _,
    storesAllowed_stringField _, storesAllowed_stringField _, storesAllowed_test _ _,
    storesAllowed_optionalUnitFloat _ _, storesAllowed_optionalUnitFloat _ _,
    storesAllowed_optionalInt _, storesAllowed_optionalInt _, storesAllowed_optionalString _,
    storesAllowed_bbox, List.forall_mem_nil _⟩

theorem bbox_settles : (FieldRule.optional "bbox" fun value =>
    validateBboxList "bbox" (some value)).Settles := by
  apply FieldRule.optional_settles
  intro found value accepted
  rcases validateBboxList_again accepted with ⟨again, _, _, _, _, rfl⟩
  exact ⟨nofun, again⟩

theorem patchRules_settle : ∀ rule ∈ patchRules, rule.Settles := by
  simp only [patchRules, headRules, List.cons_append, List.nil_append, List.forall_mem_cons]
  exact ⟨FieldRule.test_settles _ _, FieldRule.test_settles _ _, stringField_settles _,
    stringField_settles _, stringField_settles _, FieldRule.test_settles _ _,
    optionalUnitFloat_settles _ _, optionalUnitFloat_settles _ _, optionalInt_settles _,
    optionalInt_settles _, optionalString_settles _, bbox_settles,
    List.forall_mem_nil _⟩

theorem patchRules_keys : patchRules.map FieldRule.key =
    ["schema_version", "message_type", "source_id", "camera_id", "source_observation_id",
      "event_type", "similarity", "threshold", "frame_pts", "timestamp_ms", "frame_uuid",
      "bbox"] := rfl

theorem allowedKey_of_patchRule {rule : FieldRule Invalid} (member : rule ∈ patchRules) :
    AllowedKey (text rule.key) := by
  have isKey := List.mem_map_of_mem member (f := FieldRule.key)
  rw [patchRules_keys] at isKey
  have allowed : ∀ key ∈ ["schema_version", "message_type", "source_id", "camera_id",
      "source_observation_id", "event_type", "similarity", "threshold", "frame_pts",
      "timestamp_ms", "frame_uuid", "bbox"], AllowedKey (text key) := by decide
  exact allowed _ isKey

section

variable (accepted : validateIdentityPatchMessage found = .ok message)

include accepted

theorem validateIdentityPatchMessage_ok :
    ∃ payload entries, found = .dict payload ∧ message = .dict entries ∧
      Json.KeysSatisfy AllowedKey (.dict payload) ∧ applyRules patchRules payload = .ok entries := by
  cases found with
  | null | bool _ | int _ | float _ | str _ | list _ => cases accepted
  | dict payload =>
    rcases bind_eq_ok accepted with ⟨_, scanned, accepted⟩
    rcases bind_eq_ok accepted with ⟨entries, applied, same⟩
    cases same
    exact ⟨payload, entries, rfl, rfl, (scanForbiddenFields_ok_iff _ _ _).mp scanned, applied⟩

theorem keysAllowed_of_patch :
    Json.KeysSatisfy AllowedKey message := by
  rcases validateIdentityPatchMessage_ok accepted with ⟨_, _, rfl, rfl, satisfy, applied⟩
  apply @applyRules_keeps _ _ _ _ (fun current => Json.KeysSatisfy AllowedKey (.dict current))
    _ satisfy applied
  intro rule member current found value satisfies checked
  exact Json.keysSatisfy_store satisfies (allowedKey_of_patchRule member)
    (patchRules_storeAllowed rule member found value checked)

theorem validateIdentityPatchMessage_again :
    validateIdentityPatchMessage message = .ok message := by
  have allowed := keysAllowed_of_patch accepted
  rcases validateIdentityPatchMessage_ok accepted with ⟨_, _, rfl, rfl, _, applied⟩
  have distinct : (patchRules.map FieldRule.key).Nodup := by
    rw [patchRules_keys]
    decide
  simp only [validateIdentityPatchMessage, bind, Except.bind,
    (scanForbiddenFields_ok_iff (text "identity_patch") true _).mpr allowed,
    applyRules_again patchRules_settle distinct applied]
  rfl

end

/-! ## Accepted messages -/

/-- A JSON value as it is parsed: no dictionary has a key twice. -/
structure Payload where
  value : Json
  isDistinct : value.distinct = true

/-- What either validation accepts shows no pixels and no vectors, and is accepted again as
it is. -/
theorem accepted_leakFree (strOf : Json → Text) (payload : Payload) :
    (∀ maxObjectsPerFrame message,
      validateFrameAnnotationMessage strOf maxObjectsPerFrame payload.value = .ok message →
        LeakFreeFrame message ∧
          validateFrameAnnotationMessage strOf maxObjectsPerFrame message = .ok message) ∧
      ∀ message, validateIdentityPatchMessage payload.value = .ok message →
        Json.KeysSatisfy AllowedKey message ∧
          validateIdentityPatchMessage message = .ok message := by
  refine ⟨?_, fun message accepted =>
    ⟨keysAllowed_of_patch accepted, validateIdentityPatchMessage_again accepted⟩⟩
  intro maxObjectsPerFrame message accepted
  have isDistinct := payload.isDistinct
  rcases validateFrameAnnotationMessage_ok accepted with
    ⟨entries, objects, normalized, same, rfl, isAccepted⟩
  rw [same] at isDistinct
  have again := validateFrameAnnotationMessage_of_accepted (acceptedFrame_again isAccepted)
  rw [Json.store_of_lookup (Json.lookup_store_self entries "objects" (.list normalized))] at again
  exact ⟨isAccepted.leakFree isDistinct, again⟩

def personFrame : Payload where
  value := .dict
    [(text "schema_version", .str (text "1.0")),
      (text "message_type", .str (text "frame_annotation")),
      (text "source_id", .str (text "gate")), (text "camera_id", .str (text "7")),
      (text "frame_pts", .int 90), (text "ttl_seconds", .int 60),
      (text "objects", .list [.dict
        [(text "object_type", .str (text "person")), (text "object_id", .str (text "p1")),
          (text "bbox", .dict [(text "format", .str (text "xyxy")),
            (text "coordinate_space", .str (text "pixel")),
            (text "xyxy", .list [.int 0, .int 0, .int 4, .int 8])]),
          (text "embedding", .dict
            [(text "embedding_dim", .int 512), (text "embedding_included", .bool false)])]])]
  isDistinct := by decide

def hitPatch : Payload where
  value := .dict
    [(text "schema_version", .str (text "1.0")),
      (text "message_type", .str (text "identity_patch")),
      (text "source_id", .str (text "gate")), (text "camera_id", .str (text "7")),
      (text "source_observation_id", .str (text "f1")),
      (text "event_type", .str (text "watchlist_hit")), (text "similarity", .int 1)]
  isDistinct := by decide

theorem accepted_leakFree_runs :
    (∃ message, validateFrameAnnotationMessage (fun _ => []) 100 personFrame.value = .ok message ∧
      LeakFreeFrame message ∧
        validateFrameAnnotationMessage (fun _ => []) 100 message = .ok message) ∧
      ∃ message, validateIdentityPatchMessage hitPatch.value = .ok message ∧
        Json.KeysSatisfy AllowedKey message ∧
          validateIdentityPatchMessage message = .ok message := by
  have isFrame : (validateFrameAnnotationMessage (fun _ => []) 100 personFrame.value).isOk =
    true := by decide +kernel
  have isPatch : (validateIdentityPatchMessage hitPatch.value).isOk = true := by decide +kernel
  cases ofFrame : validateFrameAnnotationMessage (fun _ => []) 100 personFrame.value with
  | error =>
    rw [ofFrame] at isFrame
    cases isFrame
  | ok message =>
    cases ofPatch : validateIdentityPatchMessage hitPatch.value with
    | error =>
      rw [ofPatch] at isPatch
      cases isPatch
    | ok patch =>
      exact ⟨⟨message, rfl, (accepted_leakFree (fun _ => []) personFrame).1 100 message ofFrame⟩,
        patch, rfl, (accepted_leakFree (fun _ => []) hitPatch).2 patch ofPatch⟩

end VideoAnalysis.Evidence
