import VideoAnalysis.Intake.StreamBatch
import VideoAnalysis.Python.JsonEncode

/-! # The event worker's batch

`_process_batch` of the event worker from the bytes of an entry to its acknowledgement.
Only the insert and the publishers are guarded; what the preparation of an event
raises leaves the batch.
-/

namespace VideoAnalysis.Intake

open Foundation Python
open Json (lookup setDefault store truthy)

/-- `value` where it is a dictionary, else an empty one. -/
def dictOr : Option Json → Payload
  | some (.dict entries) => entries
  | _ => []

/-- Seconds of the configuration. -/
structure Seconds where
  value : Int
  fits : ∃ double, Double.ofInt value = .ok double ∧ double.isFinite = true

/-- Of the interpreter and of the configuration: the recursion limit of `json.loads`,
`str` of a value that is not a text, the literal of a float, the recording window and
the runtime epoch. -/
structure EventConfig where
  recursionLimit : Nat
  strOf : Json → Text
  floatText : Double → Text
  preSeconds : Seconds
  postSeconds : Seconds
  runtimeEpochId : Text

namespace EventConfig

variable (config : EventConfig)

def str : Json → Text
  | .str content => content
  | value => config.strOf value

def parseEvent (fields : Fields) : Except PyError (Option Payload) :=
  parseEntry config.recursionLimit ["source_event_id", "event_type", "camera_id"] fields

end EventConfig

/-! ## _apply_default_evidence_policy -/

def behaviorEvidenceEventTypes : List Text :=
  [text "intrusion", text "fall", text "crowd_gathering", text "chasing"]

def isBehaviorType : Json → Except PyError Bool
  | .list _ | .dict _ => .error .typeError
  | .str content => .ok (behaviorEvidenceEventTypes.contains content)
  | .null | .bool _ | .int _ | .float _ => .ok false

variable (event : Payload)

/-- `(event.get("payload") or {}).get("media")`. -/
def payloadMedia : Except PyError (Option Json) :=
  match lookup event "payload" with
  | none => .ok none
  | some (.dict payload) => .ok (lookup payload "media")
  | some value => if value.truthy then .error .attributeError else .ok none

def asksExplicitly (entries : Payload) : Bool :=
  ["snapshot_required", "clip_required"].any fun key => (lookup entries key).isSome

def isTrue (entries : Payload) (key : String) : Bool :=
  ((lookup entries key).map truthy).getD false

def requiresEvidence : Bool :=
  let policy := dictOr (lookup event "evidence_policy")
  isTrue event "snapshot_required" || isTrue event "clip_required" ||
    isTrue policy "snapshot_required" || isTrue policy "clip_required"

/-- `MIDTERM_DEFAULT_EVIDENCE_POLICY`. -/
def defaultEvidencePolicy : Payload :=
  [(text "snapshot_required", .bool true), (text "clip_required", .bool true),
    (text "pre_seconds", .int 5), (text "post_seconds", .int 5)]

/-- `{**entries, **others}`. -/
def merge (entries others : Payload) : Payload :=
  others.foldl (fun merged entry => (Dict.set ⟨merged⟩ entry.1 entry.2).entries) entries

theorem lookup_merge {others : Payload} (distinct : Dict.Distinct ⟨others⟩) (entries : Payload)
    (key : String) :
    lookup (merge entries others) key =
      (lookup others key).or (lookup entries key) := by
  induction others generalizing entries with
  | nil => rfl
  | cons entry rest induction =>
    rcases entry with ⟨name, value⟩
    rcases List.nodup_cons.mp distinct with ⟨fresh, distinctRest⟩
    have step : lookup (merge entries ((name, value) :: rest)) key =
        (lookup rest key).or
          (if text key = name then some value else lookup entries key) := by
      rw [merge, List.foldl_cons]
      refine (induction distinctRest _).trans ?_
      congr 1
      exact Dict.get_set _ _ _ _
    rw [step]
    by_cases same : name = text key
    · have absent : lookup rest key = none := by
        cases found : lookup rest key with
        | none => rfl
        | some other =>
          have member := Dict.mem_of_get found
          exact absurd (List.mem_map_of_mem member) (same ▸ fresh)
      rw [absent, Option.none_or, if_pos same.symm, lookup, Dict.get, Dict.lookup,
        if_pos same, Option.some_or]
    · have skips : lookup ((name, value) :: rest) key = lookup rest key := by
        rw [lookup, Dict.get, Dict.lookup, if_neg same]
        rfl
      rw [if_neg (fun equal => same equal.symm), skips]

theorem distinct_merge {entries others : Payload} (distinct : Dict.Distinct ⟨entries⟩) :
    Dict.Distinct ⟨merge entries others⟩ := by
  induction others generalizing entries with
  | nil => exact distinct
  | cons entry rest induction => exact induction (distinct.set entry.1 entry.2)

def defaultMedia (event media : Payload) : Payload :=
  let media := setDefault media "snapshot_status" (.str (text "not_implemented"))
  let media := setDefault media "clip_status" (.str (text "not_implemented"))
  let media := setDefault media "recording_strategy" (.str (text "reserved"))
  let media := store media "snapshot_required" (.bool true)
  let media := store media "clip_required" (.bool true)
  let media := setDefault media "pre_seconds" (.int 5)
  let media := setDefault media "post_seconds" (.int 5)
  let media := setDefault media "source_id" ((lookup event "source_id").getD (.str []))
  let media := setDefault media "event_ts_ms"
    ((lookup event "event_ts_ms").getD (.int 0))
  let media := setDefault media "frame_uuid" ((lookup event "frame_uuid").getD .null)
  setDefault media "keyframe_uuid" ((lookup event "keyframe_uuid").getD .null)

def withDefaultPolicy : Payload :=
  let event := store event "snapshot_required" (.bool true)
  let event := store event "clip_required" (.bool true)
  let policy := dictOr (lookup event "evidence_policy")
  let event := store event "evidence_policy" (.dict (merge defaultEvidencePolicy policy))
  let payload := dictOr (lookup event "payload")
  let media := defaultMedia event (dictOr (lookup payload "media"))
  store event "payload" (.dict (store payload "media" (.dict media)))

def applyDefaultEvidencePolicy : Except PyError Payload := do
  if ← isBehaviorType ((lookup event "event_type").getD (.str [])) then
    let media ← payloadMedia event
    let policy := dictOr (lookup event "evidence_policy")
    if asksExplicitly event || asksExplicitly policy || asksExplicitly (dictOr media) then
      return event
    else if requiresEvidence event then return event
    else return withDefaultPolicy event
  else return event

/-! ## _apply_recording_window -/

/-- `_has_value`: `str` of a value that is not a text is never blank. -/
def hasValue : Option Json → Bool
  | none | some .null => false
  | some (.str content) => strip content ≠ []
  | some _ => true

/-- `_int_value`. An infinity is no value error. -/
def intValue (value : Json) : Except PyError (Option Int) :=
  match value.toFloat >>= Double.toInt with
  | .ok number => .ok (some (max number 0))
  | .error error =>
    if error = .typeError || error.isValueError then .ok none else .error error

def storeInt (entries : Payload) (field : String) : Option Int → Payload
  | some number => store entries field (.int number)
  | none => entries

/-- A missing field of the policy comes from the media or from the configuration. -/
def fillPolicy (field : String) (configured : Int) (media policy : Payload) :
    Except PyError Payload :=
  if hasValue (lookup policy field) then .ok policy
  else if hasValue (lookup media field) then do
    let number ← intValue ((lookup media field).getD .null)
    return storeInt policy field number
  else if 0 ≤ configured then .ok (store policy field (.int configured))
  else .ok policy

def fillMedia (field : String) (policy media : Payload) : Except PyError Payload :=
  if !hasValue (lookup media field) && hasValue (lookup policy field) then do
    let number ← intValue ((lookup policy field).getD .null)
    return storeInt media field number
  else .ok media

def mediaOf : Payload :=
  dictOr (lookup (dictOr (lookup event "payload")) "media")

def clipRequired : Bool :=
  isTrue event "clip_required" || isTrue (mediaOf event) "clip_required"

namespace EventConfig

variable (config : EventConfig)

def applyRecordingWindow (event : Payload) : Except PyError Payload :=
  if clipRequired event then do
    let policy := dictOr (lookup event "evidence_policy")
    let media := mediaOf event
    let policy ← fillPolicy "pre_seconds" config.preSeconds.value media policy
    let policy ← fillPolicy "post_seconds" config.postSeconds.value media policy
    let media ← fillMedia "pre_seconds" policy media
    let media ← fillMedia "post_seconds" policy media
    let event := store event "evidence_policy" (.dict policy)
    let payload := dictOr (lookup event "payload")
    return store event "payload" (.dict (store payload "media" (.dict media)))
  else return event

/-! ## _apply_runtime_epoch -/

/-- `str(first or second or third or "")`. -/
def firstText (values : List (Option Json)) : Text :=
  match (values.filterMap id).find? truthy with
  | some value => config.str value
  | none => []

def applyRuntimeEpoch (event : Payload) : Payload :=
  let payload := dictOr (lookup event "payload")
  let media := dictOr (lookup payload "media")
  let existing := config.firstText
    [lookup event "runtime_epoch_id", lookup payload "runtime_epoch_id",
      lookup media "runtime_epoch_id"]
  let epoch := if config.runtimeEpochId ≠ [] then config.runtimeEpochId else existing
  let stamp := fun entries : Payload =>
    if epoch = [] then entries else store entries "runtime_epoch_id" (.str epoch)
  let payload := stamp (store payload "media" (.dict (stamp media)))
  stamp (store event "payload" (.dict payload))

/-- What `_handle_event` does to the event before it inserts it. -/
def prepare (event : Payload) : Except PyError Payload := do
  let event ← applyDefaultEvidencePolicy event
  let event ← config.applyRecordingWindow event
  return config.applyRuntimeEpoch event

end EventConfig

/-! ## insert_event -/

/-- The parameters of the insert; a missing value is NULL. -/
structure EventParams where
  sourceEventId : Json
  eventType : Json
  cameraId : Json
  sourceId : Json
  trackId : Text
  personId : Json
  algorithmType : Json
  algorithmVersion : Json
  severity : Json
  confidence : Double
  startTsMs : Int
  endTsMs : Int
  eventTsMs : Int
  frameUuid : Json
  keyframeUuid : Json
  snapshotPath : Json
  clipPath : Json
  snapshotRequired : Bool
  clipRequired : Bool
  evidencePolicy : Text
  recordingStrategy : Json
  mediaStatus : Json
  payload : Text

/-- `event.get(field, default)`. -/
def field (name : String) (default : Json) : Json :=
  (lookup event name).getD default

/-- `event.get(field) or other`. -/
def fieldOr (name : String) (other : Json) : Json :=
  if isTrue event name then field event name .null else other

namespace EventConfig

variable (config : EventConfig)

def insertParams (event : Payload) : Except PyError EventParams := do
  let media := mediaOf event
  let confidence ← (field event "confidence" (.int 0)).toFloat
  let startTsMs ← (field event "start_ts_ms" (.int 0)).toInt
  let endTsMs ← (fieldOr event "end_ts_ms" (field event "start_ts_ms" (.int 0))).toInt
  let eventTsMs ← (field event "event_ts_ms" (.int 0)).toInt
  let evidencePolicy ← dumps config.floatText { ensureAscii := false }
    (field event "evidence_policy" (.dict []))
  let payload ← dumps config.floatText { ensureAscii := false }
    (field event "payload" (.dict []))
  return {
    sourceEventId := field event "source_event_id" (.str [])
    eventType := field event "event_type" (.str [])
    cameraId := field event "camera_id" (.str [])
    sourceId := field event "source_id" (.str [])
    trackId := config.str (field event "track_id" (.str []))
    personId := fieldOr event "person_id" .null
    algorithmType := fieldOr event "algorithm_type" (field event "event_type" (.str []))
    algorithmVersion := field event "algorithm_version" .null
    severity := field event "severity" (.str (text "medium"))
    confidence
    startTsMs
    endTsMs
    eventTsMs
    frameUuid := field event "frame_uuid" .null
    keyframeUuid := field event "keyframe_uuid" .null
    snapshotPath := field media "snapshot_path" .null
    clipPath := field media "clip_path" .null
    snapshotRequired := isTrue event "snapshot_required"
    clipRequired := isTrue event "clip_required"
    evidencePolicy
    recordingStrategy := field media "recording_strategy" (.str (text "reserved"))
    mediaStatus := field media "snapshot_status" (.str (text "not_implemented"))
    payload }

/-! ## _handle_event -/

/-- The time that the evidence gate and the recording gate compare, after the insert. -/
def gateTsMs (event : Payload) : Except PyError Int :=
  (fieldOr event "event_ts_ms" (fieldOr event "start_ts_ms" (.int 0))).toInt

variable {State : Type} (table : Table EventParams State)

/-- The insert is guarded; what comes after it ends in the acknowledgement. -/
def handleEvent (state : State) (event : Payload) : State × EntryOutcome × Option PyError :=
  match config.prepare event with
  | .error error => (state, .pending, some error)
  | .ok event =>
    match config.insertParams event with
    | .error _ => (state, .pending, none)
    | .ok params =>
      if table.accepts params then
        let (state, newRow) := table.insert state params
        match gateTsMs event with
        | .ok _ => (state, .persisted newRow, none)
        | .error error => (state, ⟨newRow, false⟩, some error)
      else (state, .pending, none)

def handleEntry (state : State) (fields : Fields) : State × EntryOutcome × Option PyError :=
  match config.parseEvent fields with
  | .error error => (state, .pending, some error)
  | .ok none => (state, .discarded, none)
  | .ok (some event) => config.handleEvent table state event

/-- `_process_batch`: what raises ends the batch, and the entries behind it are left. -/
def processBatch (state : State) : List Fields → BatchResult State
  | [] => ⟨state, [], none⟩
  | entry :: rest =>
    match config.handleEntry table state entry with
    | (state, outcome, none) =>
      let tail := processBatch state rest
      ⟨tail.state, outcome :: tail.outcomes, tail.raised⟩
    | (state, outcome, some error) =>
      ⟨state, outcome :: rest.map fun _ => .pending, some error⟩

end EventConfig

end VideoAnalysis.Intake
