import VideoAnalysis.Intake.StreamBatch
import VideoAnalysis.Python.JsonEncode

/-! # The face worker's batch

`_process_batch_pipelined` of the face worker: parsing and validation entry by entry,
then one insert for all entries that passed.
-/

namespace VideoAnalysis.Intake

open Foundation Python

structure FaceConfig where
  recursionLimit : Nat
  strOf : Json → Text
  floatText : Double → Text

/-! ## Parsing and validation -/

def embeddingDim : Nat := 512

/-- `_MIN_EMBEDDING_NORM` and `_MAX_EMBEDDING_NORM`. -/
def minEmbeddingNorm : Double := .ofDecimal false 90 (-2)

def maxEmbeddingNorm : Double := .ofDecimal false 110 (-2)

/-- `_coerce_finite_float` for one element: whether it is a finite number. A whole
number beyond the range of the floats raises. -/
def isFiniteElement : Json → Except PyError Bool
  | .int value => (Double.ofInt value).map Double.isFinite
  | .float value => .ok value.isFinite
  | .null | .bool _ | .str _ | .list _ | .dict _ => .ok false

def allFiniteElements : List Json → Except PyError Bool
  | [] => .ok true
  | element :: rest => do
      if ← isFiniteElement element then allFiniteElements rest else return false

/-- The comparisons of floats that are numbers and not negative. -/
def inRange (low high value : Double) : Bool :=
  match low, high, value with
  | .finite _ low, .finite _ high, .finite false value => low ≤ value && value ≤ high
  | _, _, _ => false

/-- `value` where it is not None. -/
def given : Option Json → Option Json
  | none | some .null => none
  | some value => some value

def validNorm (norm : Json) : Except PyError Bool :=
  match norm.toFloat with
  | .ok norm => .ok (inRange minEmbeddingNorm maxEmbeddingNorm norm)
  | .error error =>
    if error = .typeError || error.isValueError then .ok false else .error error

/-- `_validate_embedding`: whether the embedding is valid. -/
def validateEmbedding (obs : Payload) : Except PyError Bool := do
  match Json.lookup obs "embedding" with
  | some (.list embedding) =>
    if embedding.length ≠ embeddingDim then return false
    else if ← allFiniteElements embedding then
      match given (Json.lookup obs "embedding_dim") with
      | none => return false
      | some dim =>
        if (← dim.toInt) ≠ embeddingDim then return false
        else
          match given (Json.lookup obs "embedding_norm") with
          | none => return false
          | some norm => validNorm norm
    else return false
  | _ => return false

/-! ## insert_observations -/

/-- The parameters of one row. -/
structure ObservationParams where
  sourceObservationId : Json
  cameraId : Json
  sourceId : Json
  trackId : Text
  timestampMs : Int
  capturedAt : Json
  frameNum : Json
  personBbox : Option Text
  faceBbox : Option Text
  landmarks : Option Text
  faceConfidence : Double
  quality : Double
  detectorModel : Json
  embeddingModel : Json
  modelVersion : Json
  embeddingDim : Int
  embedding : List Double
  embeddingNorm : Double
  reidThrottleKey : Json
  associationScore : Option Double
  associationMethod : Json
  cameraConfigResolved : Json
  snapshotPath : Json
  cropPath : Json
  payload : Text

namespace FaceConfig

variable (config : FaceConfig)

def parseObservation (fields : Fields) : Except PyError (Option Payload) :=
  parseEntry config.recursionLimit ["source_observation_id", "camera_id", "track_id"] fields

def toJsonb : Option Json → Except PyError (Option Text)
  | none | some .null => .ok none
  | some (.str content) => .ok (some content)
  | some value => (dumps config.floatText { ensureAscii := false } value).map some

def observationParams (data : Payload) : Except PyError ObservationParams := do
  let get := fun (name : String) (default : Json) => (Json.lookup data name).getD default
  let str := fun value : Json => match value with
    | .str content => content
    | value => config.strOf value
  let embedding ← match Json.lookup data "embedding" with
    | some (.list elements) => elements.mapM Json.toFloat
    | _ => throw .typeError
  let payload := match Json.lookup data "payload" with
    | some (.dict entries) => entries
    | _ => []
  let timestampMs ← (get "timestamp_ms" (.int 0)).toInt
  let personBbox ← config.toJsonb (Json.lookup data "person_bbox")
  let faceBbox ← config.toJsonb (Json.lookup data "face_bbox")
  let landmarks ← config.toJsonb (Json.lookup data "landmarks")
  let faceConfidence ← (get "face_confidence" (.int 0)).toFloat
  let quality ← (get "quality" (.int 0)).toFloat
  let embeddingDim ← (get "embedding_dim" (.int 512)).toInt
  let embeddingNorm ← (get "embedding_norm" (.int 0)).toFloat
  let associationScore ← match get "association_score" .null with
    | .null => pure none
    | score => score.toFloat.map some
  let popped := (Dict.erase ⟨payload⟩ (text "camera_config_resolved")).entries
  let payloadText ← dumps config.floatText { ensureAscii := false } (.dict popped)
  return {
    sourceObservationId := get "source_observation_id" .null
    cameraId := get "camera_id" (.str [])
    sourceId := get "source_id" (.str [])
    trackId := str (get "track_id" (.str []))
    timestampMs
    capturedAt := get "captured_at" .null
    frameNum := get "frame_num" .null
    personBbox
    faceBbox
    landmarks
    faceConfidence
    quality
    detectorModel := get "detector_model" (.str (text "yolov8_face"))
    embeddingModel := get "embedding_model" (.str (text "adaface"))
    modelVersion := get "model_version" .null
    embeddingDim
    embedding
    embeddingNorm
    reidThrottleKey := get "reid_throttle_key" (.str [])
    associationScore
    associationMethod := get "association_method" .null
    cameraConfigResolved :=
      (Json.lookup payload "camera_config_resolved").getD (.bool false)
    snapshotPath := get "snapshot_path" .null
    cropPath := get "crop_path" .null
    payload := payloadText }

/-! ## The batch -/

/-- What the loop over the messages makes of an entry. -/
inductive Parsed
  | refused
  | invalid
  | valid (obs : Payload)

def parse (fields : Fields) : Except PyError Parsed := do
  match ← config.parseObservation fields with
  | none => return .refused
  | some obs => if ← validateEmbedding obs then return .valid obs else return .invalid

variable {State : Type} (table : Table ObservationParams State)

/-- The row of an observation, where its parameters convert and the table takes them. -/
def rowOf (obs : Payload) : Option ObservationParams :=
  match config.observationParams obs with
  | .ok params => if table.accepts params then some params else none
  | .error _ => none

/-- What the loop has parsed before an entry raises. -/
def parseAll : List Fields → List Parsed × Option PyError
  | [] => ([], none)
  | entry :: rest =>
    match config.parse entry with
    | .ok parsed => (parsed :: (parseAll rest).1, (parseAll rest).2)
    | .error error => ([], some error)

def insertAll (state : State) : List ObservationParams → State × List Bool
  | [] => (state, [])
  | row :: rest =>
    let (state, newRow) := table.insert state row
    let (state, newRows) := insertAll state rest
    (state, newRow :: newRows)

/-- Refused entries are acknowledged in the loop; the valid ones take the results of
the insert, one after the other. -/
def outcomesOf : List Parsed → List EntryOutcome → List EntryOutcome
  | [], _ => []
  | .refused :: rest, results => .discarded :: outcomesOf rest results
  | .invalid :: rest, results => .pending :: outcomesOf rest results
  | .valid _ :: rest, result :: results => result :: outcomesOf rest results
  | .valid _ :: rest, [] => .pending :: outcomesOf rest []

def validOf : List Parsed → List Payload
  | [] => []
  | .valid obs :: rest => obs :: validOf rest
  | .refused :: rest | .invalid :: rest => validOf rest

/-- `_process_batch_pipelined`: one transaction for all rows, and none without every
one of them. -/
def processBatch (state : State) (entries : List Fields) : BatchResult State :=
  match config.parseAll entries with
  | (parsed, some error) =>
    ⟨state,
      outcomesOf parsed [] ++ (entries.drop parsed.length).map fun _ => .pending,
      some error⟩
  | (parsed, none) =>
    match (validOf parsed).mapM (config.rowOf table) with
    | none => ⟨state, outcomesOf parsed [], none⟩
    | some rows =>
      let (state, newRows) := insertAll table state rows
      ⟨state, outcomesOf parsed (newRows.map EntryOutcome.persisted), none⟩

end FaceConfig

end VideoAnalysis.Intake
