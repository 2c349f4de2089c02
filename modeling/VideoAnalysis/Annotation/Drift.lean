import VideoAnalysis.Annotation.Compat

/-! # What the fallback does not look at

The fallback accepts all that the contract accepts, apart from fields that the contract builds
anew. The other way round there are fields it leaves unchecked, and conversions with which it
takes a text or a truth value for a number.
-/

namespace VideoAnalysis.Annotation

open Foundation Python Evidence
open Json (keysSatisfy_dict lookup truthy)

/-! ## Numbers -/

theorem toFloat_of_finiteNumber {value : Json} {double : Double}
    (isNumber : finiteNumber (some value) = some double) :
    value.toFloat = .ok double ∧ double.isFinite = true := by
  cases value with
  | int number =>
    simp only [finiteNumber] at isNumber
    cases converted : Double.ofInt number with
    | error =>
      rw [converted] at isNumber
      cases isNumber
    | ok =>
      rw [converted] at isNumber
      cases isNumber
      exact ⟨converted, Double.isFinite_of_ofInt converted⟩
  | float =>
    simp only [finiteNumber] at isNumber
    split at isNumber
    next isFinite =>
      cases isNumber
      exact ⟨rfl, isFinite⟩
    next => cases isNumber
  | null | bool _ | str _ | list _ | dict _ => cases isNumber

theorem lessThan_iff {first second : Double} (firstFinite : first.isFinite = true)
    (secondFinite : second.isFinite = true) :
    first.lessThan second = true ↔ numberOf first < numberOf second := by
  cases first with
  | finite =>
    cases second with
    | finite => simp [Double.lessThan, numberOf]
    | infinite _ | nan => cases secondFinite
  | infinite _ | nan => cases firstFinite

/-! ## Boxes -/

variable {found : Option Json}

theorem validateCornersCompat_ok (accepted : validateCornersCompat found = .ok ()) :
    ∃ first second third fourth x1 y1 x2 y2,
      found = some (.list [first, second, third, fourth]) ∧
        first.toFloat = .ok x1 ∧ second.toFloat = .ok y1 ∧ third.toFloat = .ok x2 ∧
        fourth.toFloat = .ok y2 ∧
        ([x1, y1, x2, y2].all Double.isFinite && !x2.lessThan x1 && !y2.lessThan y1) = true := by
  unfold validateCornersCompat at accepted
  split at accepted
  next first second third fourth =>
    rcases bind_eq_ok accepted with ⟨x1, isX1, accepted⟩
    rcases bind_eq_ok accepted with ⟨y1, isY1, accepted⟩
    rcases bind_eq_ok accepted with ⟨x2, isX2, accepted⟩
    rcases bind_eq_ok accepted with ⟨y2, isY2, accepted⟩
    exact ⟨first, second, third, fourth, x1, y1, x2, y2, rfl, convert_ok_iff.mp isX1,
      convert_ok_iff.mp isY1, convert_ok_iff.mp isX2, convert_ok_iff.mp isY2,
      require_ok_iff.mp accepted⟩
  next => cases accepted

theorem validateCornersCompat_of_corners (corners : CornerNumbers found) :
    validateCornersCompat found = .ok () := by
  cases corners with
  | intro isX1 isY1 isX2 isY2 rightwards downwards =>
    rcases toFloat_of_finiteNumber isX1 with ⟨toX1, finiteX1⟩
    rcases toFloat_of_finiteNumber isY1 with ⟨toY1, finiteY1⟩
    rcases toFloat_of_finiteNumber isX2 with ⟨toX2, finiteX2⟩
    rcases toFloat_of_finiteNumber isY2 with ⟨toY2, finiteY2⟩
    have notLeft := mt (lessThan_iff finiteX2 finiteX1).mp (not_lt.mpr rightwards)
    have notUp := mt (lessThan_iff finiteY2 finiteY1).mp (not_lt.mpr downwards)
    simp only [validateCornersCompat, toX1, toY1, toX2, toY2, convert, bind, Except.bind,
      require_ok_iff, List.all_cons, List.all_nil, finiteX1, finiteY1, finiteX2, finiteY2,
      Bool.eq_false_of_not_eq_true notLeft, Bool.eq_false_of_not_eq_true notUp]
    rfl

theorem corners_iff (accepted : validateCornersCompat found = .ok ()) :
    CornerNumbers found ↔ ∀ items, found = some (.list items) →
      ∀ item ∈ items, (finiteNumber (some item)).isSome = true := by
  constructor
  · rintro ⟨isX1, isY1, isX2, isY2, _, _⟩ items same
    cases same
    simp only [List.forall_mem_cons, isX1, isY1, isX2, isY2, Option.isSome_some, true_and,
      List.not_mem_nil, false_implies, implies_true]
  · intro numbers
    rcases validateCornersCompat_ok accepted with
      ⟨_, _, _, _, _, _, _, _, rfl, toX1, toY1, toX2, toY2, ordered⟩
    have each := numbers _ rfl
    simp only [List.forall_mem_cons, List.not_mem_nil, false_implies, implies_true,
      and_true] at each
    have number {value : Json} {double : Double} (converted : value.toFloat = .ok double)
        (isNumber : (finiteNumber (some value)).isSome = true) :
        finiteNumber (some value) = some double ∧ double.isFinite = true := by
      rcases Option.isSome_iff_exists.mp isNumber with ⟨_, isOther⟩
      rcases toFloat_of_finiteNumber isOther with ⟨toOther, isFinite⟩
      rw [converted] at toOther
      cases toOther
      exact ⟨isOther, isFinite⟩
    rcases number toX1 each.1 with ⟨isX1, finiteX1⟩
    rcases number toY1 each.2.1 with ⟨isY1, finiteY1⟩
    rcases number toX2 each.2.2.1 with ⟨isX2, finiteX2⟩
    rcases number toY2 each.2.2.2 with ⟨isY2, finiteY2⟩
    simp only [Bool.and_eq_true, Bool.not_eq_true'] at ordered
    refine .intro isX1 isY1 isX2 isY2 ?_ ?_
    · exact not_lt.mp (mt (lessThan_iff finiteX2 finiteX1).mpr (ne_true_of_eq_false ordered.1.2))
    · exact not_lt.mp (mt (lessThan_iff finiteY2 finiteY1).mpr (ne_true_of_eq_false ordered.2))

theorem numberOf_zero : numberOf zero = 0 := rfl

theorem numberOf_one : numberOf one = 1 := rfl

theorem unit_iff {double : Double} (isFinite : double.isFinite = true) :
    (!double.lessThan zero && !one.lessThan double) = true ↔
      0 ≤ numberOf double ∧ numberOf double ≤ 1 := by
  rw [Bool.and_eq_true, Bool.not_eq_true', Bool.not_eq_true', ← Bool.not_eq_true,
    ← Bool.not_eq_true, lessThan_iff isFinite rfl, lessThan_iff rfl isFinite, numberOf_zero,
    numberOf_one, not_lt, not_lt]

theorem confidence_compat (accepted : (absent found || unitNumber found) = true) :
    validateConfidenceCompat found = .ok () := by
  unfold validateConfidenceCompat
  split
  next => rfl
  next present =>
    rw [Bool.eq_false_of_not_eq_true present, Bool.false_or, unitNumber_iff] at accepted
    rcases accepted with ⟨_, isNumber, inside⟩
    cases found with
    | none => exact absurd rfl present
    | some =>
      rcases toFloat_of_finiteNumber isNumber with ⟨converted, isFinite⟩
      simp only [floatOf, converted, convert, bind, Except.bind, require_ok_iff]
      exact (unit_iff isFinite).mpr inside

theorem confidence_iff (accepted : validateConfidenceCompat found = .ok ()) :
    (absent found || unitNumber found) = true ↔
      (absent found || (finiteNumber found).isSome) = true := by
  cases isAbsent : absent found with
  | true => simp
  | false =>
    simp only [validateConfidenceCompat, isAbsent, Bool.false_eq_true, if_false] at accepted
    rcases bind_eq_ok accepted with ⟨_, converted, inside⟩
    rw [convert_ok_iff] at converted
    rw [require_ok_iff] at inside
    simp only [Bool.false_or, unitNumber_iff, Option.isSome_iff_exists]
    refine exists_congr fun other => and_iff_left_of_imp fun isNumber => ?_
    cases found with
    | none => cases isNumber
    | some =>
      rcases toFloat_of_finiteNumber isNumber with ⟨toOther, isFinite⟩
      rw [floatOf, toOther] at converted
      cases converted
      exact (unit_iff isFinite).mp inside

theorem validateBboxCompat_ok_iff :
    validateBboxCompat found = .ok () ↔
      ∃ bbox, found = some (.dict bbox) ∧ isText "xyxy" (lookup bbox "format") = true ∧
        isText "pixel" (lookup bbox "coordinate_space") = true ∧
        validateCornersCompat (lookup bbox "xyxy") = .ok () ∧
        validateConfidenceCompat (lookup bbox "confidence") = .ok () := by
  unfold validateBboxCompat
  split
  next bbox =>
    simp only [check_bind_eq_ok_iff, require_ok_iff, Option.some.injEq, Json.dict.injEq,
      exists_eq_left']
  next notDict =>
    refine iff_of_false nofun ?_
    rintro ⟨bbox, same, _⟩
    exact notDict bbox same

/-- The numbers of a box are given as numbers. -/
structure NumericBox (bbox : Entries) : Prop where
  corners : ∀ items, lookup bbox "xyxy" = some (.list items) →
    ∀ item ∈ items, (finiteNumber (some item)).isSome = true
  confidence : (absent (lookup bbox "confidence") ||
    (finiteNumber (lookup bbox "confidence")).isSome) = true

theorem bbox_compat (accepted : Returns (validateBbox found)) :
    validateBboxCompat found = .ok () := by
  rw [validateBbox_returns_iff] at accepted
  rcases accepted with ⟨bbox, rfl, format, space, corners, confidence⟩
  exact validateBboxCompat_ok_iff.mpr ⟨bbox, rfl, format, space,
    validateCornersCompat_of_corners corners, confidence_compat confidence⟩

theorem bbox_iff (accepted : validateBboxCompat found = .ok ()) :
    Returns (validateBbox found) ↔ ∀ bbox, found = some (.dict bbox) → NumericBox bbox := by
  rcases validateBboxCompat_ok_iff.mp accepted with ⟨_, rfl, format, space, corners, confidence⟩
  rw [validateBbox_returns_iff]
  simp only [Option.some.injEq, Json.dict.injEq, exists_eq_left', forall_eq', format, space,
    true_and, corners_iff corners, confidence_iff confidence]
  exact ⟨fun both => ⟨both.1, both.2⟩, fun numeric => ⟨numeric.corners, numeric.confidence⟩⟩

/-! ## Keys -/

/-- A key that is not `embedding`, in any case. -/
def NoEmbedding (name : Text) : Prop := lower name ≠ text "embedding"

theorem allowedKey_iff {name : Text} : AllowedKey name ↔ Unforbidden name ∧ NoEmbedding name :=
  and_assoc.symm

theorem keysAllowed_iff {value : Json} (unforbidden : Json.KeysSatisfy Unforbidden value) :
    Json.KeysSatisfy AllowedKey value ↔ Json.KeysSatisfy NoEmbedding value :=
  forall₃_congr fun path name isAt =>
    ⟨fun allowed => (allowedKey_iff.mp allowed).2,
      fun noEmbedding => allowedKey_iff.mpr ⟨unforbidden path name isAt, noEmbedding⟩⟩

theorem unforbidden_of_lookup {entries : Entries} {key : String} {value : Json}
    (unforbidden : Json.KeysSatisfy Unforbidden (.dict entries))
    (given : lookup entries key = some value) : Json.KeysSatisfy Unforbidden value :=
  (keysSatisfy_dict.mp unforbidden _ (Dict.mem_of_get given)).2

/-! ## Embedding summaries -/

/-- What the fallback leaves unchecked in a summary. -/
structure PlainSummary (summary : Entries) : Prop where
  dim : (absent (lookup summary "embedding_dim") ||
    (intOf (lookup summary "embedding_dim")).any (fun dim => 0 < dim)) = true
  norm : (absent (lookup summary "embedding_norm") ||
    (finiteNumber (lookup summary "embedding_norm")).isSome) = true
  keys : Json.KeysSatisfy NoEmbedding (.dict summary)

theorem validateEmbeddingCompat_ok_iff :
    validateEmbeddingCompat found = .ok () ↔
      absent found = true ∨ ∃ summary, found = some (.dict summary) ∧
        isFalse (lookup summary "embedding_included") = true ∧ SummaryKeys summary := by
  cases found with
  | none => simp [validateEmbeddingCompat, absent]
  | some value =>
    cases value with
    | dict =>
      simp only [validateEmbeddingCompat, check_bind_eq_ok_iff, require_ok_iff, absent,
        Bool.false_eq_true, false_or, Option.some.injEq, Json.dict.injEq, exists_eq_left',
        List.all_eq_true, decide_eq_true_eq]
      rfl
    | null => simp [validateEmbeddingCompat, absent]
    | bool _ | int _ | float _ | str _ | list _ =>
      simp [validateEmbeddingCompat, absent, refuse]

theorem not_absent_dict {entries : Entries} : ¬absent (some (.dict entries)) = true := nofun

theorem embedding_compat (accepted : absent found = true ∨ ∃ value, found = some value ∧
      Returns (validateEmbeddingSummary value)) : validateEmbeddingCompat found = .ok () := by
  rw [validateEmbeddingCompat_ok_iff]
  rcases accepted with isAbsent | ⟨value, rfl, returns⟩
  · exact .inl isAbsent
  · rcases validateEmbeddingSummary_returns_iff.mp returns with ⟨summary, rfl, clean, rules⟩
    exact .inr ⟨summary, rfl, (summaryRules_return_iff.mp rules).1, clean.1⟩

theorem embedding_iff (accepted : validateEmbeddingCompat found = .ok ())
    (unforbidden : ∀ value, found = some value → Json.KeysSatisfy Unforbidden value) :
    (absent found = true ∨ ∃ value, found = some value ∧
      Returns (validateEmbeddingSummary value)) ↔
      ∀ summary, found = some (.dict summary) → PlainSummary summary := by
  rcases validateEmbeddingCompat_ok_iff.mp accepted with isAbsent | ⟨summary, rfl, included, keys⟩
  · refine iff_of_true (.inl isAbsent) ?_
    rintro summary rfl
    exact absurd isAbsent not_absent_dict
  · simp only [absent, Bool.false_eq_true, false_or, Option.some.injEq, exists_eq_left',
      validateEmbeddingSummary_returns_iff, summaryRules_return_iff, Json.dict.injEq,
      forall_eq', included, true_and, CleanSummary, keys,
      keysAllowed_iff (unforbidden _ rfl)]
    exact ⟨fun rules => { keys := rules.1, dim := rules.2.1, norm := rules.2.2 },
    fun plain => ⟨plain.keys, plain.dim, plain.norm⟩⟩

/-! ## Poses -/

theorem coordinateCompat_ok_iff :
    coordinateCompat found = .ok () ↔
      ∃ double, floatOf found = .ok double ∧ double.isFinite = true := by
  constructor
  · intro accepted
    rcases bind_eq_ok accepted with ⟨double, converted, isFinite⟩
    exact ⟨double, convert_ok_iff.mp converted, require_ok_iff.mp isFinite⟩
  · rintro ⟨double, converted, isFinite⟩
    simp only [coordinateCompat, converted, convert, bind, Except.bind, require_ok_iff, isFinite]

theorem coordinate_compat (isNumber : (finiteNumber found).isSome = true) :
    coordinateCompat found = .ok () := by
  rcases Option.isSome_iff_exists.mp isNumber with ⟨double, isDouble⟩
  cases found with
  | none => cases isDouble
  | some => exact coordinateCompat_ok_iff.mpr ⟨double, toFloat_of_finiteNumber isDouble⟩

theorem isSome_of_unitNumber (isUnit : unitNumber found = true) :
    (finiteNumber found).isSome = true := by
  rcases unitNumber_iff.mp isUnit with ⟨double, isNumber, _⟩
  exact Option.isSome_iff_exists.mpr ⟨double, isNumber⟩

theorem namedPoint_compat {index : Nat} {point : Entries} (inRange : index < 17)
    (isPoint : NamedPoint index point) : namedPointCompat (.dict point) = .ok () := by
  have place : intOrBool (lookup point "index") = some (index : Int) := by
    have isInt := isPoint.place
    unfold intOf at isInt
    split at isInt
    next number given =>
      cases isInt
      rw [given, intOrBool, intOf]
      rintro _ ⟨⟩
    next => cases isInt
  simp only [namedPointCompat, check_bind_eq_ok_iff, require_ok_iff, place, Option.any_some,
    Bool.and_eq_true, decide_eq_true_eq, forM_eq_ok_iff, List.forall_mem_cons,
    coordinate_compat isPoint.x, coordinate_compat isPoint.y,
    coordinate_compat (isSome_of_unitNumber isPoint.confidence), List.not_mem_nil,
    false_implies, implies_true, and_true]
  omega

theorem listedPoint_compat {item : Json} (isPoint : ListedPoint item) :
    listedPointCompat item = .ok () := by
  cases isPoint with
  | intro isX isY isConfidence =>
    have long : ∀ rest : List Json, ¬rest.length + 1 + 1 + 1 < 3 := fun rest => by omega
    simp only [listedPointCompat, List.length_cons, long, if_false, List.take_succ_cons,
      List.take_zero, forM_eq_ok_iff, List.forall_mem_cons, coordinate_compat isX,
      coordinate_compat isY, coordinate_compat (isSome_of_unitNumber isConfidence),
      List.not_mem_nil, false_implies, implies_true, and_true]

theorem keypointListCompat_ok_iff {items : List Json} :
    keypointListCompat items = .ok () ↔ items.length = 17 ∧
      (items.all isDict = true ∧ (∀ item ∈ items, namedPointCompat item = .ok ()) ∨
        items.all isList = true ∧ ∀ item ∈ items, listedPointCompat item = .ok ()) := by
  unfold keypointListCompat
  split
  next areDicts =>
    have notLists : items.all isList ≠ true := fun areLists =>
      absurd areDicts.2 (ne_true_of_eq_false (notDicts_of_lists areDicts.1 areLists))
    simp only [check_bind_eq_ok_iff, require_ok_iff, decide_eq_true_eq, forM_eq_ok_iff,
      areDicts.2, true_and, notLists, Bool.false_eq_true, false_and, or_false]
  next notDicts =>
    split
    next areLists =>
      have notDict := ne_true_of_eq_false (notDicts_of_lists areLists.1 areLists.2)
      simp only [check_bind_eq_ok_iff, require_ok_iff, decide_eq_true_eq, forM_eq_ok_iff,
        areLists.2, true_and, notDict, Bool.false_eq_true, false_and, false_or]
    next notLists =>
      refine iff_of_false nofun ?_
      rintro ⟨length, ⟨areDicts, _⟩ | ⟨areLists, _⟩⟩
      · exact notDicts ⟨inhabited_of_length length, areDicts⟩
      · exact notLists ⟨inhabited_of_length length, areLists⟩

section Strings

variable {strOf : Json → Text}

/-- What the fallback leaves unchecked in the keypoints of a pose. -/
structure PlainKeypoints (strOf : Json → Text) (pose : Entries) : Prop where
  described : ∀ keypoints, lookup pose "keypoints" = some (.dict keypoints) →
    (absent (lookup keypoints "point_count") ||
      (intOf (lookup keypoints "point_count")).any (fun count => count = 17)) = true ∧
    (absent (lookup keypoints "coordinate_space") ||
      isText "pixel" (lookup keypoints "coordinate_space")) = true
  named : ∀ items, lookup pose "keypoints" = some (.list items) → items.all isDict = true →
    (∀ index point, (.dict point, index) ∈ items.zipIdx → NamedPoint index point) ∧
      strOr strOf "coco17" (lookup pose "keypoints_format") = text "coco17" ∧
      strOr strOf "pixel" (lookup pose "keypoint_coordinate_space") = text "pixel"
  listed : ∀ items, lookup pose "keypoints" = some (.list items) →
    items.all isList = true → ∀ item ∈ items, ListedPoint item

theorem poseKeypoints_plain {pose : Entries} (accepted : PoseKeypoints strOf pose) :
    PlainKeypoints strOf pose := by
  cases accepted with
  | missing isAbsent =>
    have nothing : ∀ value, lookup pose "keypoints" = some value → value = .null := by
      intro value given
      rw [given] at isAbsent
      cases value with
      | null => rfl
      | bool _ | int _ | float _ | str _ | list _ | dict _ => cases isAbsent
    exact
      { described := fun _ given => nomatch nothing _ given
        named := fun _ given => nomatch nothing _ given
        listed := fun _ given => nomatch nothing _ given }
  | described given described =>
    have isSame {value : Json} (other : lookup pose "keypoints" = some value) :=
      Option.some.inj (given.symm.trans other)
    refine
      { described := ?_
        named := fun _ other => nomatch isSame other
        listed := fun _ other => nomatch isSame other }
    intro keypoints other
    cases isSame other
    exact describedRules_return_iff.mp described
  | named given areDicts length points format space =>
    have isSame {value : Json} (other : lookup pose "keypoints" = some value) :=
      Option.some.inj (given.symm.trans other)
    refine
      { described := fun _ other => nomatch isSame other
        named := ?_
        listed := ?_ }
    · intro items other _
      cases isSame other
      refine ⟨fun index point member => ?_, format, space⟩
      rcases points index _ member with ⟨_, same, isPoint⟩
      cases same
      exact isPoint
    · intro items other areLists
      cases isSame other
      rw [notDicts_of_lists (inhabited_of_length length) areLists] at areDicts
      cases areDicts
  | listed given areLists length points =>
    have isSame {value : Json} (other : lookup pose "keypoints" = some value) :=
      Option.some.inj (given.symm.trans other)
    refine
      { described := fun _ other => nomatch isSame other
        named := ?_
        listed := ?_ }
    · intro items other areDicts
      cases isSame other
      rw [notDicts_of_lists (inhabited_of_length length) areLists] at areDicts
      cases areDicts
    · intro items other _
      cases isSame other
      exact points

theorem poseKeypoints_of_plain {pose : Entries}
    (accepted : validatePoseCompat (some (.dict pose)) = .ok ())
    (plain : PlainKeypoints strOf pose) : PoseKeypoints strOf pose := by
  simp only [validatePoseCompat] at accepted
  split at accepted
  next missing => exact .missing (by rw [missing]; rfl)
  next isNull => exact .missing (by rw [isNull]; rfl)
  next items given =>
    rcases keypointListCompat_ok_iff.mp accepted with ⟨length, ⟨areDicts, _⟩ | ⟨areLists, _⟩⟩
    · rcases plain.named items given areDicts with ⟨points, format, space⟩
      refine .named given areDicts length (fun index item member => ?_) format space
      have isItem := List.all_eq_true.mp areDicts item (List.fst_mem_of_mem_zipIdx member)
      cases item with
      | dict point => exact ⟨point, rfl, points index point member⟩
      | null | bool _ | int _ | float _ | str _ | list _ => cases isItem
    · exact .listed given areLists length (plain.listed items given areLists)
  next keypoints given =>
    exact .described given (describedRules_return_iff.mpr (plain.described keypoints given))
  next => cases accepted

theorem pointCount_compat
    (accepted : (absent found || (intOf found).any fun count => count = 17) = true) :
    pointCountCompat found = .ok () := by
  cases found with
  | none => rfl
  | some value =>
    cases value with
    | null => rfl
    | int =>
      simp only [absent, intOf, Bool.false_or, Option.any_some, decide_eq_true_eq] at accepted
      simp only [pointCountCompat, Json.toInt, convert, bind, Except.bind, require_ok_iff,
        accepted, decide_true]
    | bool _ | float _ | str _ | list _ | dict _ => simp [absent, intOf] at accepted

theorem pose_compat (accepted : absent found = true ∨ ∃ value, found = some value ∧
      Returns (validatePoseSummary strOf value)) : validatePoseCompat found = .ok () := by
  rcases accepted with isAbsent | ⟨value, rfl, returns⟩
  · cases found with
    | none => rfl
    | some value =>
      cases value with
      | null => rfl
      | bool _ | int _ | float _ | str _ | list _ | dict _ => cases isAbsent
  · rcases validatePoseSummary_returns_iff.mp returns with ⟨_, rfl, isPose⟩
    simp only [validatePoseCompat]
    cases isPose with
    | missing isAbsent =>
      unfold absent at isAbsent
      split at isAbsent
      next missing => rw [missing]
      next isNull => rw [isNull]
      next => cases isAbsent
    | described given described =>
      rw [given]
      exact pointCount_compat (describedRules_return_iff.mp described).1
    | named given areDicts length points =>
      rw [given]
      refine keypointListCompat_ok_iff.mpr ⟨length, .inl ⟨areDicts, fun item member => ?_⟩⟩
      rcases List.mem_iff_getElem?.mp member with ⟨index, atIndex⟩
      have isAt : (item, index) ∈ _ := List.mem_zipIdx_iff_getElem?.mpr atIndex
      rcases points index item isAt with ⟨_, rfl, isPoint⟩
      have inRange := (List.getElem?_eq_some_iff.mp atIndex).1
      exact namedPoint_compat (by omega) isPoint
    | listed given areLists length points =>
      rw [given]
      exact keypointListCompat_ok_iff.mpr
        ⟨length, .inr ⟨areLists, fun item member => listedPoint_compat (points item member)⟩⟩

theorem pose_iff (accepted : validatePoseCompat found = .ok ()) :
    (absent found = true ∨ ∃ value, found = some value ∧
      Returns (validatePoseSummary strOf value)) ↔
      ∀ pose, found = some (.dict pose) → PlainKeypoints strOf pose := by
  simp only [validatePoseSummary_returns_iff]
  constructor
  · rintro isPose pose rfl
    rcases isPose with isAbsent | ⟨value, same, other, rfl, isPose⟩
    · exact absurd isAbsent not_absent_dict
    · cases same
      exact poseKeypoints_plain isPose
  · intro plain
    cases found with
    | none => exact .inl rfl
    | some value =>
      cases value with
      | null => exact .inl rfl
      | dict pose =>
        exact .inr ⟨_, rfl, pose, rfl, poseKeypoints_of_plain accepted (plain pose rfl)⟩
      | bool _ | int _ | float _ | str _ | list _ => cases accepted

/-! ## Objects -/

theorem objectTypeCompat_ok_iff :
    objectTypeCompat found = .ok () ↔
      ∃ content ∈ ["person", "face", "behavior_event"].map text, found = some (.str content) := by
  cases found with
  | none => simp [objectTypeCompat, refuse]
  | some value =>
    cases value with
    | str content =>
      simp only [objectTypeCompat, require_ok_iff, decide_eq_true_eq, Option.some.injEq,
        Json.str.injEq]
      exact ⟨fun known => ⟨content, known, rfl⟩, by rintro ⟨_, known, rfl⟩; exact known⟩
    | null | bool _ | int _ | float _ | list _ | dict _ => simp [objectTypeCompat, refuse]

variable {object : Entries}

theorem checkFaceCompat_ok_iff :
    checkFaceCompat object = .ok () ↔
      (isText "face" (lookup object "object_type") = true →
        (isTrue (lookupIn (lookup object "quality") "reid_allowed") = true →
          hasText (lookup object "source_observation_id") = true) ∧
        (isText "generated" (lookupIn (lookup object "embedding") "embedding_status") = true →
          hasText (lookup object "source_observation_id") = true)) := by
  unfold checkFaceCompat
  split
  next isFace =>
    simp only [check_bind_eq_ok_iff, require_ok_iff, isFace, true_implies, Bool.or_eq_true,
      Bool.not_eq_true', ← Bool.not_eq_true, ← imp_iff_not_or]
  next notFace => simp [notFace]

theorem truthy_of_text (textual : (absent found || hasText found) = true) :
    found.any truthy = hasText found := by
  cases found with
  | none => rfl
  | some value =>
    cases value with
    | null => rfl
    | str content =>
      cases content with
      | nil => rfl
      | cons code rest =>
        have sourced : hasText (some (.str (code :: rest))) = true := by
          simpa only [absent, Bool.false_or] using textual
        rw [sourced]
        rfl
    | bool _ | int _ | float _ | list _ | dict _ => simp [absent, hasText] at textual

theorem face_compat (accepted : AcceptedObject strOf object) :
    checkFaceCompat object = .ok () := by
  rw [checkFaceCompat_ok_iff]
  intro isFace
  have unclaimed := accepted.unclaimed isFace
  rw [truthy_of_text accepted.source] at unclaimed
  cases isSourced : hasText (lookup object "source_observation_id") with
  | true => exact ⟨fun _ => rfl, fun _ => rfl⟩
  | false =>
    rcases unclaimed isSourced with ⟨notAllowed, notGenerated⟩
    refine ⟨fun allowed => absurd allowed (ne_true_of_eq_false notAllowed), fun generated => ?_⟩
    rw [embeddingStatus_eq] at notGenerated
    unfold isText at generated
    split at generated
    next content given =>
      rw [given, of_decide_eq_true generated] at notGenerated
      exact absurd rfl notGenerated
    next => cases generated

theorem object_compat (accepted : AcceptedObject strOf object) :
    CompatObject object where
  kind := objectTypeCompat_ok_iff.mpr accepted.kind
  id := accepted.id
  bbox := bbox_compat accepted.bbox
  embedding := embedding_compat accepted.embedding
  pose := pose_compat accepted.pose
  face := face_compat accepted

/-- A field of an object without a key `embedding` in what the contract scans. -/
def PlainField (name : Text) (value : Json) : Prop :=
  name ≠ text "embedding" → NoEmbedding name ∧
    if name = text "pose" then
      ∀ pose, value = .dict pose → Each (fun field item => NoEmbedding field ∧
        (field ∉ (rebuiltFields pose).map text → Json.KeysSatisfy NoEmbedding item)) pose
    else Json.KeysSatisfy NoEmbedding value

theorem scannedOf_iff_plain (unforbidden : Json.KeysSatisfy Unforbidden (.dict object)) :
    Each ScannedOf object ↔ Each PlainField object := by
  refine forall₃_congr fun name value given => forall_congr' fun _ => ?_
  rcases keysSatisfy_dict.mp unforbidden _ (Dict.mem_of_get given) with ⟨ofName, ofValue⟩
  simp only at ofName ofValue
  refine and_congr (by rw [allowedKey_iff, and_iff_right ofName]) ?_
  split
  next =>
    refine forall₂_congr fun pose same => forall₃_congr fun field item isField => ?_
    rw [same] at ofValue
    rcases keysSatisfy_dict.mp ofValue _ (Dict.mem_of_get isField) with ⟨ofField, ofItem⟩
    exact and_congr (by rw [allowedKey_iff, and_iff_right ofField])
      (imp_congr_right fun _ => keysAllowed_iff ofItem)
  next => exact keysAllowed_iff ofValue

/-- What the fallback leaves unchecked in an object. -/
structure PlainObject (strOf : Json → Text) (object : Entries) : Prop where
  trackId : (absent (lookup object "track_id") ||
    hasText (lookup object "track_id")) = true
  source : (absent (lookup object "source_observation_id") ||
    hasText (lookup object "source_observation_id")) = true
  bbox : ∀ bbox, lookup object "bbox" = some (.dict bbox) → NumericBox bbox
  quality : (lookup object "quality").all isDict = true
  embedding : ∀ summary, lookup object "embedding" = some (.dict summary) →
    PlainSummary summary
  pose : ∀ pose, lookup object "pose" = some (.dict pose) → PlainKeypoints strOf pose
  keys : Each PlainField object
  status : isText "face" (lookup object "object_type") = true →
    (lookup object "source_observation_id").any truthy = false →
      embeddingStatus strOf object ≠ some (text "generated")
  label : (absent (lookup object "label") || (lookup object "label").any isDict) = true
  extra : (absent (lookup object "extra") || (lookup object "extra").any isDict) = true

theorem object_iff (compat : CompatObject object)
    (unforbidden : Json.KeysSatisfy Unforbidden (.dict object)) :
    AcceptedObject strOf object ↔ PlainObject strOf object := by
  have below := fun value given => @unforbidden_of_lookup object "embedding" value unforbidden given
  constructor
  · intro accepted
    exact
      { trackId := accepted.trackId
        source := accepted.source
        bbox := (bbox_iff compat.bbox).mp accepted.bbox
        quality := accepted.quality
        embedding := (embedding_iff compat.embedding below).mp accepted.embedding
        pose := (pose_iff compat.pose).mp accepted.pose
        keys := (scannedOf_iff_plain unforbidden).mp accepted.scanned
        status := fun isFace notSourced => (accepted.unclaimed isFace notSourced).2
        label := accepted.label
        extra := accepted.extra }
  · intro plain
    exact
      { kind := objectTypeCompat_ok_iff.mp compat.kind
        id := compat.id
        trackId := plain.trackId
        source := plain.source
        bbox := (bbox_iff compat.bbox).mpr plain.bbox
        quality := plain.quality
        embedding := (embedding_iff compat.embedding below).mpr plain.embedding
        pose := (pose_iff compat.pose).mpr plain.pose
        scanned := (scannedOf_iff_plain unforbidden).mpr plain.keys
        unclaimed := by
          intro isFace notSourced
          refine ⟨?_, plain.status isFace notSourced⟩
          rw [truthy_of_text plain.source] at notSourced
          rw [← Bool.not_eq_true]
          intro allowed
          have sourced := (checkFaceCompat_ok_iff.mp compat.face isFace).1 allowed
          exact absurd sourced (ne_true_of_eq_false notSourced)
        label := plain.label
        extra := plain.extra }

/-! ## Messages -/

/-- What the fallback leaves unchecked in a message: the fields it does not look at, numbers
that are given as a text or a truth value, a confidence that is no number, and the key
`embedding` away from the summary of an object. -/
structure PlainMessage (strOf : Json → Text) (message : Entries) : Prop where
  uuid : (absent (lookup message "frame_uuid") ||
    hasText (lookup message "frame_uuid")) = true
  ints : ∀ name ∈ ["frame_pts", "frame_num", "timestamp_ms"],
    (absent (lookup message name) || (intOf (lookup message name)).isSome) = true
  ttl : (intOf (lookup message "ttl_seconds")).isSome = true
  keys : ∀ entry ∈ message, entry.1 ≠ text "objects" →
    NoEmbedding entry.1 ∧ Json.KeysSatisfy NoEmbedding entry.2
  each : ∀ objects, lookup message "objects" = some (.list objects) →
    ∀ object, .dict object ∈ objects → PlainObject strOf object

theorem intOrBool_of_isSome (isInt : (intOf found).isSome = true) :
    intOrBool found = intOf found := by
  cases found with
  | none => rfl
  | some value =>
    cases value with
    | int => rfl
    | null | bool _ | float _ | str _ | list _ | dict _ => cases isInt

theorem ttl_iff
    (accepted : (intOrBool found).any (fun seconds => 1 ≤ seconds && seconds ≤ 3600) = true) :
    (intOf found).any (fun seconds => 1 ≤ seconds && seconds ≤ 3600) = true ↔
      (intOf found).isSome = true := by
  constructor
  · exact Option.isSome_of_any
  · intro isInt
    rw [intOrBool_of_isSome isInt] at accepted
    exact accepted

section Messages

variable {maxObjectsPerFrame : Int} {message : Entries} {objects : List Json}

theorem message_compat (accepted : AcceptedMessage strOf maxObjectsPerFrame message objects)
    (unforbidden : Json.KeysSatisfy Unforbidden (.dict message)) :
    CompatMessage maxObjectsPerFrame message objects where
  schema := accepted.schema
  kind := accepted.kind
  source := accepted.source
  camera := accepted.camera
  anchored := accepted.anchored
  texts name member := accepted.texts name (List.mem_cons_of_mem _ member)
  ints name member := by
    apply accepted.ints name
    revert name
    decide
  ttl := by
    rw [intOrBool_of_isSome (Option.isSome_of_any accepted.ttl)]
    exact accepted.ttl
  given := accepted.given
  few := accepted.few
  scanned := unforbidden
  each object member := by
    rcases accepted.each object member with ⟨entries, rfl, isAccepted⟩
    exact ⟨entries, rfl, object_compat isAccepted⟩

theorem unforbidden_of_mem (compat : CompatMessage maxObjectsPerFrame message objects)
    {object : Json} (member : object ∈ objects) : Json.KeysSatisfy Unforbidden object :=
  Json.keysSatisfy_list.mp (unforbidden_of_lookup compat.scanned compat.given) object member

/-- A message that the fallback takes is one of the contract exactly if it is plain. -/
theorem message_iff (compat : CompatMessage maxObjectsPerFrame message objects) :
    AcceptedMessage strOf maxObjectsPerFrame message objects ↔ PlainMessage strOf message := by
  constructor
  · intro accepted
    refine
      { uuid := accepted.texts "frame_uuid" (by decide)
        ints := fun name member => accepted.ints name (by revert name; decide)
        ttl := (ttl_iff compat.ttl).mp accepted.ttl
        keys := fun entry member isOther =>
          ⟨(allowedKey_iff.mp (accepted.scanned entry member isOther).1).2,
            (keysAllowed_iff (keysSatisfy_dict.mp compat.scanned entry member).2).mp
              (accepted.scanned entry member isOther).2⟩
        each := ?_ }
    intro others given object member
    rw [compat.given] at given
    cases given
    rcases accepted.each _ member with ⟨_, same, isAccepted⟩
    rcases compat.each _ member with ⟨_, sameCompat, isCompat⟩
    cases same
    cases sameCompat
    exact (object_iff isCompat (unforbidden_of_mem compat member)).mp isAccepted
  · intro plain
    exact
      { schema := compat.schema
        kind := compat.kind
        source := compat.source
        camera := compat.camera
        anchored := compat.anchored
        ints := by
          simp only [frameIntFields, List.forall_mem_cons, List.not_mem_nil, false_implies,
            implies_true, and_true]
          exact ⟨plain.ints _ (by decide), compat.ints _ (by decide), compat.ints _ (by decide),
            compat.ints _ (by decide), plain.ints _ (by decide), plain.ints _ (by decide)⟩
        texts := by
          intro name member
          rcases List.mem_cons.mp member with rfl | others
          · exact plain.uuid
          · exact compat.texts name others
        ttl := (ttl_iff compat.ttl).mpr plain.ttl
        given := compat.given
        few := compat.few
        scanned := fun entry member isOther =>
          ⟨allowedKey_iff.mpr ⟨(keysSatisfy_dict.mp compat.scanned entry member).1,
              (plain.keys entry member isOther).1⟩,
            (keysAllowed_iff (keysSatisfy_dict.mp compat.scanned entry member).2).mpr
              (plain.keys entry member isOther).2⟩
        each := by
          intro object member
          rcases compat.each _ member with ⟨entries, rfl, isCompat⟩
          exact ⟨entries, rfl, (object_iff isCompat (unforbidden_of_mem compat member)).mpr
            (plain.each _ compat.given entries member)⟩ }

end Messages

end Strings

end VideoAnalysis.Annotation
