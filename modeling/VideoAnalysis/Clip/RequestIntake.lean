import VideoAnalysis.Clip.Processor
import VideoAnalysis.Python.JsonEncode

/-! # Reading a record request

What `ClipRequestProcessorV2.__call__` does with the bytes of a delivery before it
asks the database: `parse_json`, then `normalize_record_request`. What one of them
raises leaves the processor.
-/

namespace VideoAnalysis.Clip

open Foundation Python

/-- Of the interpreter and of the configuration: the recursion limit of `json.loads`,
`str` of a value that is not a text, the literal of a float, and the default window. -/
structure IntakeConfig where
  recursionLimit : Nat
  strOf : Json → Text
  floatText : Double → Text
  defaultPreSeconds : Int
  defaultPostSeconds : Int

abbrev StreamFields := List (List Nat × List Nat)

abbrev Request := List (Text × Json)

namespace IntakeConfig

variable (config : IntakeConfig)

def str : Json → Text
  | .str content => content
  | value => config.strOf value

variable (req : Request)

/-- `str(req.get(field) or "")`. -/
def strOr (field : String) : Text :=
  match Json.lookup req field with
  | some value => if value.truthy then config.str value else []
  | none => []

/-- `str(req.get(field, ""))`. -/
def strGet (field : String) : Text :=
  ((Json.lookup req field).map config.str).getD []

/-! ## parse_json -/

def parseJson (fields : StreamFields) : Except PyError (Option Request) :=
  match fields.lookup (text "data") with
  | none | some [] => .ok none
  | some raw =>
    match loads config.recursionLimit (decodeReplacing raw) with
    | .ok (.dict req) => .ok (some req)
    | .ok _ => .ok none
    | .error .jsonDecodeError | .error .typeError => .ok none
    | .error error => .error error

/-! ## normalize_record_request -/

def canonicalJson : Except PyError Text :=
  dumps config.floatText
    { ensureAscii := false, allowNan := false, sortKeys := true,
      itemSeparator := text ",", keySeparator := text ":" }
    (.dict req)

def recordRequestEventType : Text :=
  let eventType := strip (config.strOr req "event_type")
  if eventType ≠ [] then eventType
  else
    let sourceEventId := strip (config.strOr req "source_event_id")
    let sourceEventType := sourceEventId.takeWhile (· ≠ 58)
    if sourceEventType = text "watchlist_hit" || sourceEventType = text "live_search_hit" then
      sourceEventType
    else []

def keyframeFromRequest : Option Text × String :=
  let named := ["anchor_keyframe_uuid", "previous_keyframe_uuid", "keyframe_uuid"].find?
    fun field => ((Json.lookup req field).map Json.truthy).getD false
  match named with
  | some field => ((Json.lookup req field).map config.str, field)
  | none => (none, "missing_keyframe_uuid_and_anchored_lookup_unavailable")

def requestIdentity : Text :=
  config.strGet req "source_event_id" ++ text ":" ++ config.strGet req "strategy"

def isPostSavantMediaRequest : Bool :=
  let field := fun name => strip (config.strOr req name)
  field "replay_source_kind" = text "post_savant" ||
    (field "evidence_topology" = text "post_savant" ||
      field "evidence_topology" = text "post_savant_replay") ||
    field "annotation_source_policy" = text "post_savant_sink_metadata_only" ||
    (field "strategy" = text "savant_replay" && field "metadata_domain" = text "video_frame")

structure NormalizedRecordRequest where
  requestId : Text
  eventId : Text
  sourceEventId : Text
  sourceId : Text
  cameraId : Text
  eventTsMs : Int
  eventType : Text
  strategy : Text
  preSeconds : Int
  postSeconds : Int
  keyframeUuid : Option Text
  keyframeSource : String
  postSavantMediaRequest : Bool
  canonicalJson : Text

/-- `int(raw.get(field, default))`. -/
def intField (field : String) (default : Int) : Except PyError Int :=
  ((Json.lookup req field).map Json.toInt).getD (.ok default)

def normalizeRecordRequest : Except PyError NormalizedRecordRequest := do
  let eventTsMs ← intField req "event_ts_ms" 0
  let preSeconds ← intField req "pre_seconds" config.defaultPreSeconds
  let postSeconds ← intField req "post_seconds" config.defaultPostSeconds
  let canonicalJson ← config.canonicalJson req
  let (keyframeUuid, keyframeSource) := config.keyframeFromRequest req
  return {
    requestId := config.requestIdentity req
    eventId := config.strGet req "event_id"
    sourceEventId := config.strOr req "source_event_id"
    sourceId := config.strOr req "source_id"
    cameraId := config.strOr req "camera_id"
    eventTsMs
    eventType := config.recordRequestEventType req
    strategy := config.strOr req "strategy"
    preSeconds
    postSeconds
    keyframeUuid
    keyframeSource
    postSavantMediaRequest := config.isPostSavantMediaRequest req
    canonicalJson }

end IntakeConfig

/-! ## requested_pts_window -/

def ptsTimeBase : Int := 1000000000

/-- `_int_or_none`. An infinity is no value error. -/
def intOrNone : Option Json → Except PyError (Option Int)
  | none | some .null | some (.bool _) | some (.str []) => .ok none
  | some value =>
    match value.toInt with
    | .ok number => .ok (some number)
    | .error .typeError => .ok none
    | .error error => if error.isValueError then .ok none else .error error

/-- `req.get(field) or req.get(other)`. -/
def getOr (req : Request) (field other : String) : Option Json :=
  match Json.lookup req field with
  | some value => if value.truthy then some value else Json.lookup req other
  | none => Json.lookup req other

def requestedPtsWindow (req : Request) (preSeconds postSeconds : Int) :
    Except PyError (Option Int × Option Int) := do
  let eventFramePts ← intOrNone (getOr req "event_frame_pts" "frame_pts")
  let requestedStartPts ← intOrNone (Json.lookup req "requested_start_pts")
  let requestedEndPts ← intOrNone (Json.lookup req "requested_end_pts")
  match eventFramePts with
  | none => return (requestedStartPts, requestedEndPts)
  | some pts =>
    return (some (requestedStartPts.getD (max 0 (pts - preSeconds * ptsTimeBase))),
      some (requestedEndPts.getD (pts + postSeconds * ptsTimeBase)))

/-! ## The intake -/

/-- What `__call__` makes of the fields. -/
inductive Intake
  | malformed (malformation : Malformation)
  | raises (error : PyError)
  | request (normalized : IntakeConfig.NormalizedRecordRequest)

namespace IntakeConfig

variable (config : IntakeConfig)

def receive (fields : StreamFields) : Intake :=
  match config.parseJson fields with
  | .error error => .raises error
  | .ok none => .malformed .jsonInvalid
  | .ok (some req) =>
    match config.normalizeRecordRequest req with
    | .error error => .raises error
    | .ok normalized =>
      if normalized.eventId = [] then .malformed .missingEventId else .request normalized

end IntakeConfig

end VideoAnalysis.Clip
