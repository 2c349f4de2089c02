import VideoAnalysis.Evidence.LeakFree

/-! # When evidence messages are accepted

What the rules of the contract ask of a field, in terms of the field alone.
-/

namespace VideoAnalysis.Evidence

open Foundation Python
open Json (lookup)

/-! ## Tests of a value -/

/-- `value is None`. -/
def absent : Option Json → Bool
  | none | some .null => true
  | some _ => false

/-- `value == constant`. -/
def isText (constant : String) : Option Json → Bool
  | some (.str content) => content = text constant
  | _ => false

/-- A whole number where the value is one; a truth value is none. -/
def intOf : Option Json → Option Int
  | some (.int number) => some number
  | _ => none

/-- `value is False`. -/
def isFalse : Option Json → Bool
  | some (.bool value) => !value
  | _ => false

/-- `value is True`. -/
def isTrue : Option Json → Bool
  | some (.bool value) => value
  | _ => false

def lookupIn (value : Option Json) (key : String) : Option Json :=
  match value with
  | some (.dict entries) => lookup entries key
  | _ => none

def finiteNumber : Option Json → Option Double
  | some (.int number) => (Double.ofInt number).toOption
  | some (.float double) => if double.isFinite then some double else none
  | _ => none

def unitNumber (value : Option Json) : Bool :=
  (finiteNumber value).any fun double => 0 ≤ numberOf double && numberOf double ≤ 1

theorem unitNumber_iff {value : Option Json} :
    unitNumber value = true ↔
      ∃ double, finiteNumber value = some double ∧ 0 ≤ numberOf double ∧ numberOf double ≤ 1 := by
  simp only [unitNumber, Option.any_eq_true, Bool.and_eq_true, decide_eq_true_eq]

/-! ## Simple fields -/

theorem returns_invalid {Value : Type} {message : String} :
    Returns (invalid message : Except Invalid Value) ↔ False :=
  ⟨fun returns => not_returns_error _ returns, False.elim⟩

variable {fieldName : String}

theorem requireNonEmptyString_returns_iff {found : Option Json} :
    Returns (requireNonEmptyString fieldName found) ↔ hasText found = true := by
  unfold requireNonEmptyString hasText
  split
  next content =>
    split
    next empty => simp [returns_invalid, empty]
    next notEmpty => simp [returns_ok, notEmpty]
  next => simp [returns_invalid]

theorem requireInt_returns_iff {found : Option Json} :
    Returns (requireInt fieldName found) ↔ (intOf found).isSome = true := by
  unfold requireInt intOf
  split
  next => simp [returns_ok]
  next => simp [returns_invalid]

theorem normalizeNumber_ok_iff {found : Option Json} {double : Double} :
    normalizeNumber fieldName found = .ok double ↔ finiteNumber found = some double := by
  unfold normalizeNumber finiteNumber
  split
  next number =>
    cases converted : Double.ofInt number <;> simp [converted, Except.toOption]
  next value =>
    by_cases isFinite : value.isFinite = true
    · simp [isFinite]
    · simp [isFinite, invalid]
  next => simp [invalid]

theorem normalizeNumber_returns_iff {fieldName : String} {found : Option Json} :
    Returns (normalizeNumber fieldName found) ↔ (finiteNumber found).isSome = true := by
  rw [Option.isSome_iff_exists]
  exact exists_congr fun _ => normalizeNumber_ok_iff

theorem normalizeUnitFloat_returns_iff {fieldName : String} {found : Option Json} :
    Returns (normalizeUnitFloat fieldName found) ↔ unitNumber found = true := by
  cases isNumber : normalizeNumber fieldName found with
  | error =>
    have none : finiteNumber found = none := by
      rw [Option.eq_none_iff_forall_ne_some]
      intro double isDouble
      rw [normalizeNumber_ok_iff.mpr isDouble] at isNumber
      cases isNumber
    simp only [normalizeUnitFloat, isNumber, bind, Except.bind, unitNumber, none, Option.any_none]
    simp [not_returns_error]
  | ok =>
    simp only [normalizeUnitFloat, isNumber, bind, Except.bind, unitNumber,
      normalizeNumber_ok_iff.mp isNumber, Option.any_some]
    split
    next outside =>
      simp only [returns_invalid, Bool.and_eq_true, decide_eq_true_eq, false_iff, not_and_or,
        not_le]
      exact outside
    next inside =>
      rw [not_or, not_lt, not_lt] at inside
      simp only [inside, decide_true, Bool.and_true, iff_true]
      exact returns_ok _

section Rules

variable {key : String} {found : Option Json}

theorem test_returns_iff {accept : Option Json → Except Invalid Unit} :
    Returns ((FieldRule.test key accept).check found) ↔ Returns (accept found) :=
  returns_map_iff

theorem required_returns_iff {normalize : Option Json → Except Invalid Json} :
    Returns ((FieldRule.required key normalize).check found) ↔ Returns (normalize found) :=
  returns_map_iff

theorem optional_returns_iff {normalize : Json → Except Invalid Json} :
    Returns ((FieldRule.optional key normalize).check found) ↔
      absent found = true ∨ ∃ value, found = some value ∧ Returns (normalize value) := by
  simp only [FieldRule.optional]
  split
  next => simp [absent, returns_ok]
  next => simp [absent, returns_ok]
  next value notNull =>
    rw [returns_map_iff]
    have present : absent (some value) = false := by
      cases value with
      | null => exact absurd rfl notNull
      | bool _ | int _ | float _ | str _ | list _ | dict _ => rfl
    simp [present]

theorem optional_returns_iff_of {normalize : Json → Except Invalid Json}
    (accepts : Option Json → Bool)
    (each : ∀ value, Returns (normalize value) ↔ accepts (some value) = true) :
    Returns ((FieldRule.optional key normalize).check found) ↔
      (absent found || accepts found) = true := by
  rw [optional_returns_iff, Bool.or_eq_true]
  cases found with
  | none => simp [absent]
  | some => simp [each]

theorem constantField_returns_iff {constant message : String} :
    Returns ((constantField key constant message).check found) ↔ isText constant found = true := by
  rw [constantField, test_returns_iff]
  unfold isText
  split
  next =>
    split
    next same => simp [returns_ok, same]
    next different => simp [returns_invalid, different]
  next => simp [returns_invalid]

theorem stringField_returns_iff :
    Returns ((stringField key).check found) ↔ hasText found = true := by
  rw [stringField, required_returns_iff, returns_map_iff, requireNonEmptyString_returns_iff]

theorem optionalString_returns_iff :
    Returns ((optionalString key).check found) ↔ (absent found || hasText found) = true :=
  optional_returns_iff_of hasText fun _ => returns_map_iff.trans requireNonEmptyString_returns_iff

theorem optionalInt_returns_iff :
    Returns ((optionalInt key).check found) ↔ (absent found || (intOf found).isSome) = true :=
  optional_returns_iff_of (fun found => (intOf found).isSome) fun _ =>
    returns_map_iff.trans requireInt_returns_iff

theorem optionalUnitFloat_returns_iff :
    Returns ((optionalUnitFloat key fieldName).check found) ↔
      (absent found || unitNumber found) = true :=
  optional_returns_iff_of unitNumber fun _ => returns_map_iff.trans normalizeUnitFloat_returns_iff

theorem dictionaryField_returns_iff {message : String} :
    Returns ((dictionaryField key message).check found) ↔
      (absent found || found.any isDict) = true := by
  rw [dictionaryField, test_returns_iff]
  cases found with
  | none => simp [absent, returns_ok]
  | some value => cases value <;> simp [absent, isDict, returns_ok, returns_invalid]

theorem memberField_returns_iff {allowed : List String} {message : String} :
    Returns ((memberField key allowed message).check found) ↔
      ∃ content ∈ allowed.map text, found = some (.str content) := by
  rw [memberField, test_returns_iff]
  cases found with
  | none => simp [returns_invalid]
  | some value =>
    cases value with
    | str content =>
      simp only
      split
      next known => exact iff_of_true (returns_ok _) ⟨content, known, rfl⟩
      next unknown =>
        rw [returns_invalid, false_iff]
        rintro ⟨other, known, same⟩
        cases same
        exact unknown known
    | list _ | dict _ => simp [not_returns_error]
    | null | bool _ | int _ | float _ => simp [returns_invalid]

theorem ttlField_returns_iff :
    Returns (ttlField.check found) ↔
      (intOf found).any (fun seconds => 1 ≤ seconds && seconds ≤ 3600) = true := by
  rw [ttlField, required_returns_iff]
  cases found with
  | none => simp [requireInt, intOf, bind, Except.bind, invalid, not_returns_error]
  | some value =>
    cases value with
    | int =>
      simp only [requireInt, intOf, bind, Except.bind, Option.any_some, Bool.and_eq_true,
        decide_eq_true_eq]
      split
      next outside => exact iff_of_false (returns_invalid.mp) (by omega)
      next inside => exact iff_of_true (returns_ok _) (by omega)
    | null | bool _ | float _ | str _ | list _ | dict _ =>
      simp [requireInt, intOf, bind, Except.bind, invalid, not_returns_error]

end Rules

/-! ## Boxes -/

/-- Four finite numbers, the far corner not before the near one. -/
inductive CornerNumbers : Option Json → Prop
  | intro {first second third fourth : Json} {x1 y1 x2 y2 : Double}
      (isX1 : finiteNumber (some first) = some x1) (isY1 : finiteNumber (some second) = some y1)
      (isX2 : finiteNumber (some third) = some x2) (isY2 : finiteNumber (some fourth) = some y2)
      (rightwards : numberOf x1 ≤ numberOf x2) (downwards : numberOf y1 ≤ numberOf y2) :
      CornerNumbers (some (.list [first, second, third, fourth]))

theorem validateBboxList_returns_iff {found : Option Json} :
    Returns (validateBboxList fieldName found) ↔ CornerNumbers found := by
  constructor
  · rintro ⟨value, accepted⟩
    unfold validateBboxList at accepted
    split at accepted
    next =>
      rcases bind_eq_ok accepted with ⟨_, isX1, accepted⟩
      rcases bind_eq_ok accepted with ⟨_, isY1, accepted⟩
      rcases bind_eq_ok accepted with ⟨_, isX2, accepted⟩
      rcases bind_eq_ok accepted with ⟨_, isY2, accepted⟩
      split at accepted
      next => cases accepted
      next ordered =>
        rw [not_or, not_lt, not_lt] at ordered
        exact .intro (normalizeNumber_ok_iff.mp isX1) (normalizeNumber_ok_iff.mp isY1)
          (normalizeNumber_ok_iff.mp isX2) (normalizeNumber_ok_iff.mp isY2) ordered.1 ordered.2
    next => cases accepted
  · rintro ⟨isX1, isY1, isX2, isY2, rightwards, downwards⟩
    simp only [validateBboxList, bind, Except.bind, normalizeNumber_ok_iff.mpr isX1,
      normalizeNumber_ok_iff.mpr isY1, normalizeNumber_ok_iff.mpr isX2,
      normalizeNumber_ok_iff.mpr isY2]
    rw [if_neg (not_or.mpr ⟨not_lt.mpr rightwards, not_lt.mpr downwards⟩)]
    exact returns_ok _

theorem validateBbox_returns_iff {found : Option Json} :
    Returns (validateBbox found) ↔
      ∃ bbox, found = some (.dict bbox) ∧ isText "xyxy" (lookup bbox "format") = true ∧
        isText "pixel" (lookup bbox "coordinate_space") = true ∧
        CornerNumbers (lookup bbox "xyxy") ∧
        (absent (lookup bbox "confidence") ||
          unitNumber (lookup bbox "confidence")) = true := by
  unfold validateBbox
  split
  next bbox =>
    rw [returns_map_iff, applyRules_returns_iff (by decide)]
    simp only [bboxRules, List.forall_mem_cons, List.not_mem_nil, false_implies, implies_true,
      and_true, constantField_returns_iff, required_returns_iff, validateBboxList_returns_iff,
      optionalUnitFloat_returns_iff]
    constructor
    · exact fun holds => ⟨bbox, rfl, holds⟩
    · rintro ⟨_, same, holds⟩
      cases same
      exact holds
  next notDict =>
    rw [returns_invalid, false_iff]
    rintro ⟨bbox, same, _⟩
    exact notDict bbox same

/-! ## Embedding summaries -/

variable {value : Json}

theorem embeddingDim_returns_iff :
    Returns (embeddingDim value) ↔ (intOf (some value)).any (fun dim => 0 < dim) = true := by
  cases value with
  | int =>
    simp only [embeddingDim, requireInt, intOf, bind, Except.bind, Option.any_some,
      decide_eq_true_eq]
    split
    next notPositive => exact iff_of_false (returns_invalid.mp) (by omega)
    next positive => exact iff_of_true (returns_ok _) (by omega)
  | null | bool _ | float _ | str _ | list _ | dict _ =>
    simp [embeddingDim, requireInt, intOf, bind, Except.bind, invalid, not_returns_error]

theorem summaryRules_return_iff {summary : Entries} :
    Returns (applyRules summaryRules summary) ↔
      isFalse (lookup summary "embedding_included") = true ∧
        (absent (lookup summary "embedding_dim") ||
          (intOf (lookup summary "embedding_dim")).any (fun dim => 0 < dim)) = true ∧
        (absent (lookup summary "embedding_norm") ||
          (finiteNumber (lookup summary "embedding_norm")).isSome) = true := by
  rw [applyRules_returns_iff (by decide)]
  simp only [summaryRules, List.forall_mem_cons, List.not_mem_nil, false_implies, implies_true,
    and_true, test_returns_iff]
  refine and_congr ?_ (and_congr ?_ ?_)
  · dsimp only [FieldRule.test]
    cases lookup summary "embedding_included" with
    | none => simp [isFalse, returns_invalid]
    | some value =>
      cases value with
      | bool value => cases value <;> simp [isFalse, returns_invalid, returns_ok]
      | null | int _ | float _ | str _ | list _ | dict _ => simp [isFalse, returns_invalid]
  · exact optional_returns_iff_of (fun found => (intOf found).any fun dim => 0 < dim) fun _ =>
      embeddingDim_returns_iff
  · exact optional_returns_iff_of (fun found => (finiteNumber found).isSome) fun _ =>
      returns_map_iff.trans normalizeNumber_returns_iff

theorem validateEmbeddingSummary_returns_iff :
    Returns (validateEmbeddingSummary value) ↔
      ∃ summary, value = .dict summary ∧ CleanSummary summary ∧
        Returns (applyRules summaryRules summary) := by
  cases value with
  | dict summary =>
    constructor
    · rintro ⟨value, accepted⟩
      rcases check_bind_eq_ok_iff.mp accepted with ⟨keys, accepted⟩
      rcases check_bind_eq_ok_iff.mp accepted with ⟨scanned, accepted⟩
      rcases bind_eq_ok accepted with ⟨entries, applied, _⟩
      exact ⟨summary, rfl, ⟨checkSummaryKeys_ok_iff.mp keys,
        (scanForbiddenFields_ok_iff _ _ _).mp scanned⟩, entries, applied⟩
    · rintro ⟨_, same, clean, entries, applied⟩
      cases same
      refine ⟨.dict entries, ?_⟩
      simp only [validateEmbeddingSummary, bind, Except.bind,
        checkSummaryKeys_ok_iff.mpr clean.1,
        (scanForbiddenFields_ok_iff (text "embedding_summary") false _).mpr clean.2, applied]
      rfl
  | null | bool _ | int _ | float _ | str _ | list _ =>
    simp [validateEmbeddingSummary, returns_invalid]

/-! ## Poses -/

/-- A keypoint at its place, under its name. -/
structure NamedPoint (index : Nat) (point : Entries) : Prop where
  place : intOf (lookup point "index") = some (index : Int)
  name : ∃ name ∈ coco17KeypointNames, lookup point "name" = some (.str name)
  x : (finiteNumber (lookup point "x")).isSome = true
  y : (finiteNumber (lookup point "y")).isSome = true
  confidence : unitNumber (lookup point "confidence") = true

theorem keypointNames_inhabited : ∀ name ∈ coco17KeypointNames, strip name ≠ [] := by decide

theorem requireInt_ok_iff {found : Option Json} {number : Int} :
    requireInt fieldName found = .ok number ↔ intOf found = some number := by
  constructor
  · intro accepted
    rw [requireInt_ok accepted, intOf]
  · intro isInt
    unfold intOf at isInt
    split at isInt
    next =>
      cases isInt
      rfl
    next => cases isInt

theorem validateNamedKeypoint_returns_iff {index : Nat} :
    Returns (validateNamedKeypoint index value) ↔
      ∃ point, value = .dict point ∧ NamedPoint index point := by
  constructor
  · rintro ⟨normal, accepted⟩
    cases value with
    | null | bool _ | int _ | float _ | str _ | list _ => cases accepted
    | dict point =>
      rcases bind_eq_ok accepted with ⟨_, isPosition, accepted⟩
      split at accepted
      next => cases accepted
      next expected =>
        cases not_ne_iff.mp expected
        rcases bind_eq_ok accepted with ⟨name, isName, accepted⟩
        split at accepted
        next known =>
          rcases bind_eq_ok accepted with ⟨x, isX, accepted⟩
          rcases bind_eq_ok accepted with ⟨y, isY, accepted⟩
          rcases bind_eq_ok accepted with ⟨confidence, isConfidence, _⟩
          exact ⟨point, rfl,
            { place := requireInt_ok_iff.mp isPosition
              name := ⟨name, known, (requireNonEmptyString_ok isName).1⟩
              x := normalizeNumber_returns_iff.mp ⟨x, isX⟩
              y := normalizeNumber_returns_iff.mp ⟨y, isY⟩
              confidence := normalizeUnitFloat_returns_iff.mp ⟨confidence, isConfidence⟩ }⟩
        next => cases accepted
  · rintro ⟨point, rfl, place, ⟨name, known, isName⟩, x, y, confidence⟩
    rcases normalizeNumber_returns_iff.mpr x with ⟨x, isX⟩
    rcases normalizeNumber_returns_iff.mpr y with ⟨y, isY⟩
    rcases normalizeUnitFloat_returns_iff.mpr confidence with ⟨_, isConfidence⟩
    refine ⟨_, validateNamedKeypoint_of_ok (requireInt_ok_iff.mpr place) ?_ known isX isY
      isConfidence⟩
    rw [isName, requireNonEmptyString, if_neg (keypointNames_inhabited name known)]

/-- A keypoint that is a list of two numbers and a number from 0 to 1. -/
inductive ListedPoint : Json → Prop
  | intro {x y confidence : Json} {others : List Json}
      (isX : (finiteNumber (some x)).isSome = true) (isY : (finiteNumber (some y)).isSome = true)
      (isConfidence : unitNumber (some confidence) = true) :
      ListedPoint (.list (x :: y :: confidence :: others))

theorem validateListedKeypoint_ok_some_iff :
    (∃ point, validateListedKeypoint value = .ok (some point)) ↔ ListedPoint value := by
  constructor
  · rintro ⟨point, accepted⟩
    unfold validateListedKeypoint at accepted
    split at accepted
    next =>
      rcases bind_eq_ok accepted with ⟨x, isX, accepted⟩
      rcases bind_eq_ok accepted with ⟨y, isY, accepted⟩
      rcases bind_eq_ok accepted with ⟨confidence, isConfidence, _⟩
      exact .intro (normalizeNumber_returns_iff.mp ⟨x, isX⟩)
        (normalizeNumber_returns_iff.mp ⟨y, isY⟩)
        (normalizeUnitFloat_returns_iff.mp ⟨confidence, isConfidence⟩)
    next => cases accepted
  · rintro ⟨x, y, confidence⟩
    rcases (@normalizeNumber_returns_iff "pose_keypoint_x" _).mpr x with ⟨x, isX⟩
    rcases (@normalizeNumber_returns_iff "pose_keypoint_y" _).mpr y with ⟨y, isY⟩
    rcases (@normalizeUnitFloat_returns_iff "pose_keypoint_confidence" _).mpr confidence with
      ⟨confidence, isConfidence⟩
    refine ⟨.list [.float x, .float y, .float confidence], ?_⟩
    simp only [validateListedKeypoint, bind, Except.bind, isX, isY, isConfidence]
    rfl

theorem listedKeypoints_returns_iff {found : Option Json} :
    Returns (listedKeypoints found) ↔
      ∃ items, found = some (.list items) ∧ items.length = 17 ∧ ∀ item ∈ items, ListedPoint item := by
  constructor
  · rintro ⟨value, accepted⟩
    unfold listedKeypoints at accepted
    split at accepted
    next items =>
      split at accepted
      next => cases accepted
      next length =>
        rcases bind_eq_ok accepted with ⟨points, arePoints, accepted⟩
        simp only at accepted
        split at accepted
        next => cases accepted
        next count =>
          refine ⟨items, rfl, not_ne_iff.mp length, ?_⟩
          have lengths := (mapM_eq_ok_iff.mp arePoints).length_eq
          have allThere : points.reduceOption.length = points.length := by
            rw [not_ne_iff.mp count, ← lengths, not_ne_iff.mp length]
          rw [List.reduceOption_length_eq_iff] at allThere
          intro item member
          rcases exists_output_of_mapM arePoints member with ⟨point, isPoint, accepted⟩
          rcases Option.isSome_iff_exists.mp (allThere point isPoint) with ⟨form, rfl⟩
          exact validateListedKeypoint_ok_some_iff.mp ⟨form, accepted⟩
    next => cases accepted
  · rintro ⟨items, rfl, length, each⟩
    choose! view accepted using fun item member =>
      validateListedKeypoint_ok_some_iff.mpr (each item member)
    have points := @mapM_of_eq _ _ _ validateListedKeypoint (some ∘ view) items accepted
    have same : (items.map (some ∘ view)).reduceOption = items.map view := by
      rw [← List.map_map, List.reduceOption, List.filterMap_map, Function.id_comp,
        List.filterMap_some]
    refine ⟨.list (items.map view), ?_⟩
    simp only [listedKeypoints, if_neg (not_ne_iff.mpr length), points, bind, Except.bind, same,
      List.length_map]
    rfl

theorem namedKeypoints_returns_iff {found : Option Json} :
    Returns (namedKeypoints found) ↔
      ∃ items, found = some (.list items) ∧ items.length = 17 ∧
        ∀ index item, (item, index) ∈ items.zipIdx →
          ∃ point, item = .dict point ∧ NamedPoint index point := by
  cases found with
  | none => simp [namedKeypoints, returns_invalid]
  | some value =>
    cases value with
    | list items =>
      simp only [namedKeypoints]
      split
      next length => simp [returns_invalid, length]
      next length =>
        rw [returns_map_iff, mapM_returns_iff]
        simp only [Prod.forall, validateNamedKeypoint_returns_iff]
        constructor
        · exact fun each => ⟨items, rfl, not_ne_iff.mp length, fun index item => each item index⟩
        · rintro ⟨_, same, _, each⟩
          cases same
          exact fun item index => each index item
    | null | bool _ | int _ | float _ | str _ | dict _ =>
      simp [namedKeypoints, returns_invalid]

theorem pointCount_returns_iff :
    Returns (pointCount value) ↔ (intOf (some value)).any (fun count => count = 17) = true := by
  cases value with
  | int =>
    simp only [pointCount, requireInt, intOf, bind, Except.bind, Option.any_some,
      decide_eq_true_eq]
    split
    next different => exact iff_of_false (returns_invalid.mp) different
    next same => exact iff_of_true (returns_ok _) (not_ne_iff.mp same)
  | null | bool _ | float _ | str _ | list _ | dict _ =>
    simp [pointCount, requireInt, intOf, bind, Except.bind, invalid, not_returns_error]

theorem describedRules_return_iff {keypoints : Entries} :
    Returns (applyRules describedRules keypoints) ↔
      (absent (lookup keypoints "point_count") ||
        (intOf (lookup keypoints "point_count")).any (fun count => count = 17)) = true ∧
        (absent (lookup keypoints "coordinate_space") ||
          isText "pixel" (lookup keypoints "coordinate_space")) = true := by
  rw [applyRules_returns_iff (by decide)]
  simp only [describedRules, List.forall_mem_cons, List.not_mem_nil, false_implies, implies_true,
    and_true, test_returns_iff]
  refine and_congr ?_ ?_
  · exact optional_returns_iff_of (fun found => (intOf found).any fun count => count = 17) fun _ =>
      pointCount_returns_iff
  · dsimp only [FieldRule.test]
    cases lookup keypoints "coordinate_space" with
    | none => simp [absent, returns_ok]
    | some value =>
      cases value with
      | str =>
        simp only [absent, isText, Bool.false_or, decide_eq_true_eq]
        split
        next same => exact iff_of_true (returns_ok _) same
        next different => exact iff_of_false (returns_invalid.mp) different
      | null => simp [absent, returns_ok]
      | bool _ | int _ | float _ | list _ | dict _ => simp [absent, isText, returns_invalid]

section Strings

variable {strOf : Json → Text}

theorem fallbackField_returns_iff {key constant message : String} {found : Option Json} :
    Returns ((fallbackField strOf key constant message).check found) ↔
      strOr strOf constant found = text constant := by
  rw [fallbackField, required_returns_iff]
  split
  next same => exact iff_of_true (returns_ok _) same
  next different => exact iff_of_false (returns_invalid.mp) different

/-- The ways in which a pose may give its keypoints. -/
inductive PoseKeypoints (strOf : Json → Text) (pose : Entries) : Prop
  | missing (isAbsent : absent (lookup pose "keypoints") = true)
  | described {keypoints : Entries}
      (given : lookup pose "keypoints" = some (.dict keypoints))
      (described : Returns (applyRules describedRules keypoints))
  | named {items : List Json} (given : lookup pose "keypoints" = some (.list items))
      (areDicts : items.all isDict = true) (length : items.length = 17)
      (points : ∀ index item, (item, index) ∈ items.zipIdx →
        ∃ point, item = .dict point ∧ NamedPoint index point)
      (format : strOr strOf "coco17" (lookup pose "keypoints_format") = text "coco17")
      (space : strOr strOf "pixel" (lookup pose "keypoint_coordinate_space") = text "pixel")
  | listed {items : List Json} (given : lookup pose "keypoints" = some (.list items))
      (areLists : items.all isList = true) (length : items.length = 17)
      (points : ∀ item ∈ items, ListedPoint item)

variable {pose : Entries}

theorem namedRules_return_iff :
    Returns (applyRules (namedRules strOf) pose) ↔
      Returns (namedKeypoints (lookup pose "keypoints")) ∧
        strOr strOf "coco17" (lookup pose "keypoints_format") = text "coco17" ∧
        strOr strOf "pixel" (lookup pose "keypoint_coordinate_space") = text "pixel" := by
  rw [applyRules_returns_iff namedRules_distinct]
  simp only [namedRules, List.forall_mem_cons, List.not_mem_nil, false_implies, implies_true,
    and_true, required_returns_iff, fallbackField_returns_iff, returns_ok, true_and]
  rfl

theorem keypointsRule_returns_iff {normalize : Option Json → Except Invalid Json} :
    Returns (applyRules [FieldRule.required "keypoints" normalize] pose) ↔
      Returns (normalize (lookup pose "keypoints")) := by
  rw [applyRules_returns_iff (by simp)]
  simp only [List.forall_mem_cons, List.not_mem_nil, false_implies, implies_true, and_true,
    required_returns_iff]
  rfl

theorem inhabited_of_length {items : List Json} (length : items.length = 17) : items ≠ [] := by
  rintro rfl
  cases length

/-- The rules that a pose is asked return exactly in these ways. -/
theorem poseRules_return_iff :
    (∃ rules, poseRules strOf (lookup pose "keypoints") = .ok rules ∧
      Returns (applyRules rules pose)) ↔ PoseKeypoints strOf pose := by
  constructor
  · rintro ⟨rules, asked, returns⟩
    unfold poseRules at asked
    split at asked
    next missing => exact .missing (by rw [missing]; rfl)
    next isNull => exact .missing (by rw [isNull]; rfl)
    next keypoints given =>
      cases asked
      rw [keypointsRule_returns_iff, given, describedKeypoints, returns_map_iff] at returns
      exact .described given returns
    next items given =>
      split at asked
      next areDicts =>
        cases asked
        rw [namedRules_return_iff, given, namedKeypoints_returns_iff] at returns
        rcases returns with ⟨⟨_, same, length, points⟩, format, space⟩
        cases same
        exact .named given areDicts.2 length points format space
      next =>
        split at asked
        next areLists =>
          cases asked
          rw [keypointsRule_returns_iff, given, listedKeypoints_returns_iff] at returns
          rcases returns with ⟨_, same, length, points⟩
          cases same
          exact .listed given areLists.2 length points
        next => cases asked
    next => cases asked
  · rintro (isAbsent | ⟨given, described⟩ | ⟨given, areDicts, length, points, format, space⟩ |
      ⟨given, areLists, length, points⟩)
    · refine ⟨[], ?_, returns_ok _⟩
      unfold absent at isAbsent
      split at isAbsent
      next missing => rw [missing, poseRules]
      next isNull => rw [isNull, poseRules]
      next => cases isAbsent
    · refine ⟨_, by rw [given, poseRules], ?_⟩
      rw [keypointsRule_returns_iff, given, describedKeypoints, returns_map_iff]
      exact described
    · refine ⟨namedRules strOf, ?_, ?_⟩
      · rw [given]
        exact if_pos ⟨inhabited_of_length length, areDicts⟩
      · rw [namedRules_return_iff, given, namedKeypoints_returns_iff]
        exact ⟨⟨_, rfl, length, points⟩, format, space⟩
    · refine ⟨_, by rw [given, poseRules_listed (inhabited_of_length length) areLists], ?_⟩
      rw [keypointsRule_returns_iff, given, listedKeypoints_returns_iff]
      exact ⟨_, rfl, length, points⟩

theorem validatePoseSummary_returns_iff :
    Returns (validatePoseSummary strOf value) ↔
      ∃ pose, value = .dict pose ∧ PoseKeypoints strOf pose := by
  cases value with
  | dict pose =>
    constructor
    · rintro ⟨normal, accepted⟩
      rcases bind_eq_ok accepted with ⟨rules, asked, accepted⟩
      rcases bind_eq_ok accepted with ⟨entries, applied, _⟩
      exact ⟨pose, rfl, poseRules_return_iff.mp ⟨rules, asked, entries, applied⟩⟩
    · rintro ⟨_, same, isPose⟩
      cases same
      rcases poseRules_return_iff.mpr isPose with ⟨_, asked, entries, applied⟩
      refine ⟨.dict entries, ?_⟩
      simp only [validatePoseSummary, bind, Except.bind, asked, applied]
      rfl
  | null | bool _ | int _ | float _ | str _ | list _ =>
    simp [validatePoseSummary, returns_invalid]

end Strings

end VideoAnalysis.Evidence
