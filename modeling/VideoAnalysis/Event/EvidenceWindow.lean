import VideoAnalysis.Clip.RequestIntake

/-! # The evidence window of a record request

`build_record_request` derives the window from an event and writes it into the record;
`requested_pts_window` derives it once more from the record.
-/

namespace VideoAnalysis.Event

open Foundation Python Clip
open Json (lookup lookup_setDefault lookup_store setDefault store)
open IntakeConfig (intField)

/-- A dictionary as `json` makes it. -/
abbrev JsonDict := List (Text × Json)

/-- What the publisher and the interpreter give to a request: its id, the defaults of the
configuration and `str` of a value that is not a text. -/
structure RequestDefaults where
  requestId : Text
  defaultReplaySourceId : Text
  defaultPreSeconds : Int
  defaultPostSeconds : Int
  strOf : Json → Text

/-! ## Reading the event -/

def asDict : Option Json → JsonDict
  | some (.dict entries) => entries
  | _ => []

def payloadOf (event : JsonDict) : JsonDict := asDict (lookup event "payload")
def mediaOf (event : JsonDict) : JsonDict := asDict (lookup (payloadOf event) "media")
def policyOf (event : JsonDict) : JsonDict := asDict (lookup event "evidence_policy")

def notNull : Option Json → Option Json
  | some .null => none
  | value => value

def firstPolicyValue (event : JsonDict) (key : String) : Option Json :=
  [policyOf event, mediaOf event, payloadOf event, event].findSome? fun source =>
    notNull (lookup source key)

/-- `first or second`. -/
def pyOr (first second : Option Json) : Option Json :=
  match first with
  | some value => if value.truthy then some value else second
  | none => second

/-- `value in (None, "")`. -/
def isBlank : Option Json → Bool
  | none | some .null | some (.str []) => true
  | _ => false

namespace RequestDefaults

variable (defaults : RequestDefaults)

def str : Json → Text
  | .str content => content
  | value => defaults.strOf value

/-- `str(value or "")`. -/
def strOr (value : Option Json) : Text :=
  match value with
  | some value => if value.truthy then defaults.str value else []
  | none => []

def resolveSourceId (event : JsonDict) : Text :=
  let mediaSid := (lookup (mediaOf event) "source_id").getD (.str [])
  let mediaText := defaults.str mediaSid
  let eventSid := ((lookup event "source_id").map defaults.str).getD []
  if mediaSid.truthy ∧ mediaText ∉ [[], text "0", text "None", text "null"] then mediaText
  else if eventSid ≠ [] ∧ eventSid ≠ text "0" then eventSid
  else defaults.defaultReplaySourceId

/-! ## Filling the record -/

def isPostSavant (event : JsonDict) : Bool :=
  strip (defaults.strOr (firstPolicyValue event "replay_source_kind")) = text "post_savant" ||
    (strip (defaults.strOr (firstPolicyValue event "evidence_topology")) ∈
      [text "post_savant", text "post_savant_replay"]) ||
    (strip (defaults.strOr (firstPolicyValue event "metadata_source")) = text "video_frame" &&
      (firstPolicyValue event "frame_pts").isSome)

def postSavantKeys : List String :=
  ["frame_pts", "frame_num", "metadata_domain", "event_frame_uuid", "requested_start_pts",
    "requested_end_pts", "event_frame_pts", "anchor_keyframe_uuid", "anchor_keyframe_pts",
    "keyframe_uuid", "previous_keyframe_uuid", "keyframe_pts", "previous_keyframe_pts",
    "time_base", "stream_session_id"]

variable (event record : JsonDict)

def copyValue (key : String) : JsonDict :=
  match firstPolicyValue event key with
  | some value => store record key value
  | none => record

def applyPostSavantPolicy : JsonDict :=
  if defaults.isPostSavant event then
    let topology := pyOr (firstPolicyValue event "evidence_topology")
      (some (.str (text "post_savant")))
    let annotation := pyOr (firstPolicyValue event "annotation_source_policy")
      (some (.str (text "post_savant_sink_metadata_only")))
    let record := store record "replay_source_kind" (.str (text "post_savant"))
    let record := store record "evidence_topology" (.str (defaults.strOr topology))
    let record := store record "annotation_source_policy" (.str (defaults.strOr annotation))
    let record := postSavantKeys.foldl (copyValue event) record
    store record "replay_stop_strategy" (.str (text "event_anchor_pre_seconds_rewind"))
  else record

/-- The PTS of a keyframe of the event, if the record's keyframe is the anchor. -/
def anchorPts (anchor : Json) (uuidKey ptsKey : String) : Except PyError (Option Int) :=
  if defaults.strOr (lookup record uuidKey) = defaults.str anchor then
    intOrNone (firstPolicyValue event ptsKey)
  else return none

def normalizeAnchorKeyframeUuid : Except PyError JsonDict :=
  let explicit := pyOr (lookup record "anchor_keyframe_uuid")
    (firstPolicyValue event "anchor_keyframe_uuid")
  let alarmFrame := pyOr (lookup record "previous_keyframe_uuid")
    (pyOr (firstPolicyValue event "previous_keyframe_uuid")
      (pyOr (lookup record "keyframe_uuid") (firstPolicyValue event "keyframe_uuid")))
  match pyOr explicit alarmFrame with
  | none => return record
  | some anchor =>
    if anchor.truthy then do
      let record := store record "anchor_keyframe_uuid" anchor
      if isBlank (lookup record "anchor_keyframe_pts") then
        let previous ← defaults.anchorPts event record anchor "previous_keyframe_uuid"
          "previous_keyframe_pts"
        match previous with
        | some pts => return store record "anchor_keyframe_pts" (.int pts)
        | none =>
          let own ← defaults.anchorPts event record anchor "keyframe_uuid" "keyframe_pts"
          match own with
          | some pts => return store record "anchor_keyframe_pts" (.int pts)
          | none => return record
      else return record
    else return record

end RequestDefaults

def fillBlank (event record : JsonDict) (key : String) : JsonDict :=
  match firstPolicyValue event key with
  | some value => if isBlank (lookup record key) then store record key value else record
  | none => record

/-- `int or default`. -/
def secondsOr (value : Option Int) (default : Int) : Int :=
  match value with
  | some seconds => if seconds = 0 then default else seconds
  | none => default

def eventFramePts (event record : JsonDict) : Except PyError (Option Int) := do
  match ← intOrNone (lookup record "event_frame_pts") with
  | some pts => return some pts
  | none =>
    match ← intOrNone (firstPolicyValue event "event_frame_pts") with
    | some pts => return some pts
    | none => intOrNone (lookup record "frame_pts")

def fillBlanks (event record : JsonDict) : JsonDict :=
  ["frame_pts", "frame_num", "metadata_domain"].foldl (fillBlank event) record

def applyEventFrameTimeline (event record : JsonDict) : Except PyError JsonDict := do
  let record := fillBlanks event record
  match ← eventFramePts event record with
  | none => return record
  | some pts =>
    let record := setDefault record "event_frame_pts" (.int pts)
    let preSeconds ← intOrNone (lookup record "pre_seconds")
    let postSeconds ← intOrNone (lookup record "post_seconds")
    let record := setDefault record "requested_start_pts"
      (.int (max 0 (pts - secondsOr preSeconds 5 * ptsTimeBase)))
    return setDefault record "requested_end_pts"
      (.int (pts + secondsOr postSeconds 5 * ptsTimeBase))

namespace RequestDefaults

variable (defaults : RequestDefaults)

def orNull (value : Option Json) : Json := value.getD .null

/-- The value if it is neither absent nor blank, as a text. -/
def copyText (event record : JsonDict) (key : String) : JsonDict :=
  match firstPolicyValue event key with
  | some value =>
    if strip (defaults.str value) ≠ [] then
      store record key (.str (defaults.str value))
    else record
  | none => record

def initialRecord (event : JsonDict) (eventId sourceId : Text)
    (eventTsMs preSeconds postSeconds : Int) : JsonDict :=
  [(text "request_id", .str defaults.requestId),
    (text "event_id", .str eventId),
    (text "source_event_id", (lookup event "source_event_id").getD (.str [])),
    (text "event_type", (lookup event "event_type").getD (.str [])),
    (text "camera_id", (lookup event "camera_id").getD (.str [])),
    (text "source_id", .str sourceId),
    (text "event_ts_ms", .int eventTsMs),
    (text "frame_uuid", orNull (lookup event "frame_uuid")),
    (text "event_frame_uuid", orNull (pyOr (lookup event "event_frame_uuid")
      (lookup event "frame_uuid"))),
    (text "keyframe_uuid", orNull (pyOr (lookup event "keyframe_uuid")
      (lookup (mediaOf event) "keyframe_uuid"))),
    (text "anchor_keyframe_uuid", orNull (lookup event "anchor_keyframe_uuid")),
    (text "previous_keyframe_uuid", orNull (pyOr (lookup event "previous_keyframe_uuid")
      (lookup (mediaOf event) "previous_keyframe_uuid"))),
    (text "pre_seconds", .int preSeconds),
    (text "post_seconds", .int postSeconds),
    (text "strategy", .str (text "savant_replay")),
    (text "status", .str (text "pending"))]

def shardKeys : List String :=
  ["runtime_epoch_id", "stream_session_id", "record_request_shard_id", "replay_shard_id",
    "shard_mapping_version", "replay_shard_mapping_version"]

def buildRecordRequest (event : JsonDict) (eventId : Text) :
    Except PyError (Option JsonDict) := do
  let sourceId := defaults.resolveSourceId event
  if sourceId = [] then return none
  let eventTsMs ← intField event "event_ts_ms" 0
  let preSeconds ← intField (policyOf event) "pre_seconds"
    defaults.defaultPreSeconds
  let postSeconds ← intField (policyOf event) "post_seconds"
    defaults.defaultPostSeconds
  let record := defaults.initialRecord event eventId sourceId eventTsMs preSeconds postSeconds
  let record := shardKeys.foldl (defaults.copyText event) record
  let record := defaults.applyPostSavantPolicy event record
  let record ← defaults.normalizeAnchorKeyframeUuid event record
  let record ← applyEventFrameTimeline event record
  return some record

end RequestDefaults

/-! ## The clip worker -/

/-- The record without the window that its producer wrote. -/
def withoutWindow (record : JsonDict) : JsonDict :=
  ((Dict.erase ⟨record⟩ (text "requested_start_pts")).erase (text "requested_end_pts")).entries

/-- `requested_pts_window` with the seconds that `normalize_record_request` reads. -/
def consumerWindow (config : IntakeConfig) (record : JsonDict) :
    Except PyError (Option Int × Option Int) := do
  let preSeconds ← intField record "pre_seconds" config.defaultPreSeconds
  let postSeconds ← intField record "post_seconds" config.defaultPostSeconds
  requestedPtsWindow record preSeconds postSeconds

/-- The event's frame PTS: its `event_frame_pts`, else its `frame_pts`. -/
def framePtsOf (event : JsonDict) : Except PyError (Option Int) := do
  match ← intOrNone (firstPolicyValue event "event_frame_pts") with
  | some pts => return some pts
  | none => intOrNone (firstPolicyValue event "frame_pts")

/-- Both services compute the window around the PTS, as many seconds before and after it. -/
structure SameWindow (config : IntakeConfig) (record : JsonDict)
    (pts preSeconds postSeconds : Int) : Prop where
  produced : lookup record "requested_start_pts" =
      some (.int (max 0 (pts - preSeconds * ptsTimeBase))) ∧
    lookup record "requested_end_pts" = some (.int (pts + postSeconds * ptsTimeBase))
  consumed : consumerWindow config (withoutWindow record) =
    .ok (some (max 0 (pts - preSeconds * ptsTimeBase)), some (pts + postSeconds * ptsTimeBase))

/-- The clip worker reads the PTS that the event worker read. -/
structure SamePts (defaults : RequestDefaults) (event : JsonDict) (pts : Int) : Prop where
  copied : defaults.isPostSavant event = true → ∀ value,
    firstPolicyValue event "event_frame_pts" = some value → value.truthy = true →
      intOrNone (some value) = .ok (some pts)
  zero : pts = 0 →
    (defaults.isPostSavant event = true → ∀ value,
      firstPolicyValue event "event_frame_pts" = some value → value.truthy = false) →
    intOrNone (firstPolicyValue event "frame_pts") = .ok (some 0)

/-! ## What the record holds -/

theorem lookup_foldl {write : JsonDict → String → JsonDict} {keys : List String}
    {key : String} (fresh : key ∉ keys)
    (frame : ∀ record other, key ≠ other → lookup (write record other) key =
      lookup record key) (record : JsonDict) :
    lookup (keys.foldl write record) key = lookup record key := by
  induction keys generalizing record with
  | nil => rfl
  | cons other _ induction =>
    rcases List.ne_and_not_mem_of_not_mem_cons fresh with ⟨different, freshRest⟩
    rw [List.foldl_cons, induction freshRest, frame record other different]

theorem lookup_copyValue (event record : JsonDict) (key other : String) :
    lookup (RequestDefaults.copyValue event record key) other =
      if other = key then (firstPolicyValue event key).or (lookup record key)
      else lookup record other := by
  unfold RequestDefaults.copyValue
  cases firstPolicyValue event key with
  | none =>
    by_cases same : other = key
    · rw [if_pos same, same]
      rfl
    · rw [if_neg same]
  | some => simp only [lookup_store, Option.some_or]

theorem lookup_foldl_copyValue (event record : JsonDict) {keys : List String} {key : String}
    (copied : key ∈ keys) :
    lookup (keys.foldl (RequestDefaults.copyValue event) record) key =
      (firstPolicyValue event key).or (lookup record key) := by
  induction keys generalizing record with
  | nil => cases copied
  | cons other rest induction =>
    rw [List.foldl_cons]
    by_cases later : key ∈ rest
    · rw [induction _ later, lookup_copyValue]
      by_cases same : key = other
      · rw [if_pos same, same]
        cases firstPolicyValue event other <;> rfl
      · rw [if_neg same]
    · have same : key = other := (List.mem_cons.mp copied).resolve_right later
      rw [lookup_foldl later fun record third different => by
        rw [lookup_copyValue, if_neg different], lookup_copyValue, if_pos same, same]

theorem lookup_copyText (defaults : RequestDefaults) (event record : JsonDict)
    {key other : String} (different : key ≠ other) :
    lookup (defaults.copyText event record other) key = lookup record key := by
  unfold RequestDefaults.copyText
  cases firstPolicyValue event other with
  | none => rfl
  | some =>
    dsimp only
    split
    · rw [lookup_store, if_neg different]
    · rfl

theorem lookup_fillBlank (event record : JsonDict) {key other : String} (different : key ≠ other) :
    lookup (fillBlank event record other) key = lookup record key := by
  unfold fillBlank
  cases firstPolicyValue event other with
  | none => rfl
  | some =>
    dsimp only
    split
    · rw [lookup_store, if_neg different]
    · rfl

theorem lookup_applyPostSavantPolicy (defaults : RequestDefaults) (event record : JsonDict)
    {key : String} (own : key ∉ ["replay_source_kind", "evidence_topology",
      "annotation_source_policy", "replay_stop_strategy"]) :
    lookup (defaults.applyPostSavantPolicy event record) key =
      if defaults.isPostSavant event = true ∧ key ∈ RequestDefaults.postSavantKeys then
        (firstPolicyValue event key).or (lookup record key)
      else lookup record key := by
  unfold RequestDefaults.applyPostSavantPolicy
  simp only [List.mem_cons, List.not_mem_nil, or_false, not_or] at own
  rcases own with ⟨kind, topology, annotation, strategy⟩
  by_cases postSavant : defaults.isPostSavant event = true
  · rw [if_pos postSavant]
    dsimp only
    rw [lookup_store, if_neg strategy]
    by_cases copied : key ∈ RequestDefaults.postSavantKeys
    · rw [if_pos ⟨postSavant, copied⟩, lookup_foldl_copyValue _ _ copied, lookup_store,
        if_neg annotation, lookup_store, if_neg topology, lookup_store, if_neg kind]
    · rw [if_neg fun both => copied both.2, lookup_foldl copied fun record third different => by
        rw [lookup_copyValue, if_neg different], lookup_store,
        if_neg annotation, lookup_store, if_neg topology, lookup_store, if_neg kind]
  · rw [if_neg postSavant, if_neg fun both => postSavant both.1]

theorem lookup_normalizeAnchor {defaults : RequestDefaults} {event record normalized : JsonDict}
    (normalizes : defaults.normalizeAnchorKeyframeUuid event record = .ok normalized)
    {key : String} (uuid : key ≠ "anchor_keyframe_uuid") (pts : key ≠ "anchor_keyframe_pts") :
    lookup normalized key = lookup record key := by
  simp only [RequestDefaults.normalizeAnchorKeyframeUuid] at normalizes
  split at normalizes
  next =>
    cases normalizes
    rfl
  next anchor _ =>
    split at normalizes
    next =>
      split at normalizes
      next =>
        simp only [bind, Except.bind, pure, Except.pure] at normalizes
        split at normalizes
        next => cases normalizes
        next previous _ =>
          split at normalizes
          next =>
            cases normalizes
            rw [lookup_store, if_neg pts, lookup_store, if_neg uuid]
          next =>
            split at normalizes
            next => cases normalizes
            next own _ =>
              split at normalizes
              next =>
                cases normalizes
                rw [lookup_store, if_neg pts, lookup_store, if_neg uuid]
              next =>
                cases normalizes
                rw [lookup_store, if_neg uuid]
      next =>
        cases normalizes
        rw [lookup_store, if_neg uuid]
    next =>
      cases normalizes
      rfl

/-- The record before the timeline, as far as the window depends on it. -/
structure BeforeTimeline (defaults : RequestDefaults) (event record : JsonDict)
    (preSeconds postSeconds : Int) : Prop where
  preField : lookup record "pre_seconds" = some (.int preSeconds)
  postField : lookup record "post_seconds" = some (.int postSeconds)
  eventField : lookup record "event_frame_pts" =
    if defaults.isPostSavant event = true then firstPolicyValue event "event_frame_pts" else none
  frameField : lookup record "frame_pts" =
    if defaults.isPostSavant event = true then firstPolicyValue event "frame_pts" else none
  startField : lookup record "requested_start_pts" =
    if defaults.isPostSavant event = true then firstPolicyValue event "requested_start_pts"
    else none
  endField : lookup record "requested_end_pts" =
    if defaults.isPostSavant event = true then firstPolicyValue event "requested_end_pts"
    else none

theorem lookup_before {defaults : RequestDefaults} {event : JsonDict} {eventId : Text}
    {eventTsMs preSeconds postSeconds : Int} {before : JsonDict}
    (normalizes : defaults.normalizeAnchorKeyframeUuid event
      (defaults.applyPostSavantPolicy event (RequestDefaults.shardKeys.foldl
        (defaults.copyText event) (defaults.initialRecord event eventId
          (defaults.resolveSourceId event) eventTsMs preSeconds postSeconds))) = .ok before)
    {key : String} (own : key ∉ ["replay_source_kind", "evidence_topology",
      "annotation_source_policy", "replay_stop_strategy", "anchor_keyframe_uuid",
      "anchor_keyframe_pts"])
    (shard : key ∉ RequestDefaults.shardKeys) :
    lookup before key =
      if defaults.isPostSavant event = true ∧ key ∈ RequestDefaults.postSavantKeys then
        (firstPolicyValue event key).or (lookup (defaults.initialRecord event eventId
          (defaults.resolveSourceId event) eventTsMs preSeconds postSeconds) key)
      else lookup (defaults.initialRecord event eventId
        (defaults.resolveSourceId event) eventTsMs preSeconds postSeconds) key := by
  simp only [List.mem_cons, List.not_mem_nil, or_false, not_or] at own
  rcases own with ⟨kind, topology, annotation, strategy, uuid, pts⟩
  rw [lookup_normalizeAnchor normalizes uuid pts, lookup_applyPostSavantPolicy,
    lookup_foldl shard fun record other different => lookup_copyText _ _ _ different]
  simp only [List.mem_cons, List.not_mem_nil, or_false, not_or]
  exact ⟨kind, topology, annotation, strategy⟩

theorem beforeTimeline_of_build {defaults : RequestDefaults} {event : JsonDict} {eventId : Text}
    {record : JsonDict} (built : defaults.buildRecordRequest event eventId = .ok (some record)) :
    ∃ preSeconds postSeconds before,
      intField (policyOf event) "pre_seconds" defaults.defaultPreSeconds =
        .ok preSeconds ∧
      intField (policyOf event) "post_seconds" defaults.defaultPostSeconds =
        .ok postSeconds ∧
      BeforeTimeline defaults event before preSeconds postSeconds ∧
      applyEventFrameTimeline event before = .ok record := by
  simp only [RequestDefaults.buildRecordRequest, bind, Except.bind, pure, Except.pure] at built
  split at built
  next => cases built
  split at built
  next => cases built
  next eventTsMs _ =>
    split at built
    next => cases built
    next preSeconds preRead =>
      split at built
      next => cases built
      next postSeconds postRead =>
        split at built
        next => cases built
        next before normalizes =>
          split at built
          next => cases built
          next final applied =>
            cases built
            refine ⟨preSeconds, postSeconds, before, preRead, postRead, ?_, applied⟩
            have stages := fun key => @lookup_before defaults event eventId eventTsMs preSeconds
              postSeconds before normalizes key
            constructor
            · rw [stages _ (by decide) (by decide), if_neg fun both => absurd both.2 (by decide)]
              rfl
            · rw [stages _ (by decide) (by decide), if_neg fun both => absurd both.2 (by decide)]
              rfl
            all_goals
              rw [stages _ (by decide) (by decide)]
              split
              next both => rw [if_pos both.1]; exact Option.or_none
              next neither =>
                rw [if_neg fun postSavant => neither ⟨postSavant, by decide⟩]
                rfl

theorem lookup_fillBlanks (event record : JsonDict)
    (present : lookup record "frame_pts" = none ∨
      lookup record "frame_pts" = firstPolicyValue event "frame_pts") :
    lookup (fillBlanks event record) "frame_pts" = firstPolicyValue event "frame_pts" := by
  rw [fillBlanks, List.foldl_cons, lookup_foldl (by decide) fun record other different =>
    lookup_fillBlank _ _ different]
  unfold fillBlank
  cases found : firstPolicyValue event "frame_pts" with
  | none =>
    rw [found] at present
    exact present.elim id id
  | some =>
    dsimp only
    split
    next => rw [lookup_store, if_pos rfl]
    next filled =>
      rcases present with none | same
      · rw [none] at filled
        exact absurd rfl filled
      · rw [same, found]

theorem eventFramePts_eq {event record : JsonDict} {copied : Bool}
    (own : lookup record "event_frame_pts" =
      if copied = true then firstPolicyValue event "event_frame_pts" else none)
    (framePts : lookup record "frame_pts" = firstPolicyValue event "frame_pts") :
    eventFramePts event record = framePtsOf event := by
  simp only [eventFramePts, framePtsOf, own, framePts]
  cases copied with
  | false => rfl
  | true =>
    rw [if_pos rfl]
    cases intOrNone (firstPolicyValue event "event_frame_pts") with
    | error => rfl
    | ok read => cases read <;> rfl

/-- The record as far as the window depends on it. -/
structure WindowRecord (defaults : RequestDefaults) (event record : JsonDict)
    (pts preSeconds postSeconds : Int) : Prop where
  preField : lookup record "pre_seconds" = some (.int preSeconds)
  postField : lookup record "post_seconds" = some (.int postSeconds)
  eventField : lookup record "event_frame_pts" =
    some ((if defaults.isPostSavant event = true then firstPolicyValue event "event_frame_pts"
      else none).getD (.int pts))
  frameField : lookup record "frame_pts" = firstPolicyValue event "frame_pts"
  startField : lookup record "requested_start_pts" =
    some (.int (max 0 (pts - secondsOr (some preSeconds) 5 * ptsTimeBase)))
  endField : lookup record "requested_end_pts" =
    some (.int (pts + secondsOr (some postSeconds) 5 * ptsTimeBase))

theorem windowRecord_of_timeline {defaults : RequestDefaults} {event before record : JsonDict}
    {pts preSeconds postSeconds : Int}
    (known : BeforeTimeline defaults event before preSeconds postSeconds)
    (given : framePtsOf event = .ok (some pts))
    (noStart : firstPolicyValue event "requested_start_pts" = none)
    (noEnd : firstPolicyValue event "requested_end_pts" = none)
    (applied : applyEventFrameTimeline event before = .ok record) :
    WindowRecord defaults event record pts preSeconds postSeconds := by
  have frame : ∀ key ∉ ["frame_pts", "frame_num", "metadata_domain"],
      lookup (fillBlanks event before) key = lookup before key := fun key fresh =>
    lookup_foldl fresh (fun record other different => lookup_fillBlank _ _ different) before
  have frameField : lookup (fillBlanks event before) "frame_pts" =
      firstPolicyValue event "frame_pts" := by
    apply lookup_fillBlanks
    rw [known.frameField]
    split
    · exact .inr rfl
    · exact .inl rfl
  have eventField := (frame "event_frame_pts" (by decide)).trans known.eventField
  have preField := (frame "pre_seconds" (by decide)).trans known.preField
  have postField := (frame "post_seconds" (by decide)).trans known.postField
  have startField := (frame "requested_start_pts" (by decide)).trans known.startField
  have endField := (frame "requested_end_pts" (by decide)).trans known.endField
  rw [noStart, ite_self] at startField
  rw [noEnd, ite_self] at endField
  have read := (eventFramePts_eq eventField frameField).trans given
  unfold applyEventFrameTimeline at applied
  generalize fillBlanks event before = filled at *
  have preLater : lookup (setDefault filled "event_frame_pts" (.int pts))
      "pre_seconds" = some (.int preSeconds) := by
    rw [lookup_setDefault, if_neg (by decide), preField]
  have postLater : lookup (setDefault filled "event_frame_pts" (.int pts))
      "post_seconds" = some (.int postSeconds) := by
    rw [lookup_setDefault, if_neg (by decide), postField]
  have preRead : intOrNone (some (.int preSeconds)) = .ok (some preSeconds) := rfl
  have postRead : intOrNone (some (.int postSeconds)) = .ok (some postSeconds) := rfl
  simp only [read, bind, Except.bind, pure, Except.pure, preLater, postLater, preRead, postRead,
    Except.ok.injEq] at applied
  subst applied
  have others : ∀ key, key ≠ "requested_start_pts" → key ≠ "requested_end_pts" →
      ∀ startPts endPts, lookup (setDefault (setDefault (setDefault filled
        "event_frame_pts" (.int pts)) "requested_start_pts" startPts) "requested_end_pts" endPts)
          key = lookup (setDefault filled "event_frame_pts" (.int pts)) key := by
    intro key notStart notEnd startPts endPts
    rw [lookup_setDefault, if_neg notEnd, lookup_setDefault, if_neg notStart]
  constructor
  · rw [others _ (by decide) (by decide), preLater]
  · rw [others _ (by decide) (by decide), postLater]
  · rw [others _ (by decide) (by decide), lookup_setDefault, if_pos rfl, eventField]
  · rw [others _ (by decide) (by decide), lookup_setDefault, if_neg (by decide), frameField]
  · rw [lookup_setDefault, if_neg (by decide), lookup_setDefault, if_pos rfl,
      lookup_setDefault, if_neg (by decide), startField]
    rfl
  · rw [lookup_setDefault, if_pos rfl, lookup_setDefault,
      if_neg (by decide), lookup_setDefault, if_neg (by decide), endField]
    rfl

/-! ## The two windows -/

theorem lookup_withoutWindow (record : JsonDict) {key : String}
    (notStart : key ≠ "requested_start_pts") (notEnd : key ≠ "requested_end_pts") :
    lookup (withoutWindow record) key = lookup record key := by
  rw [lookup, withoutWindow, Dict.get_erase_of_ne _ fun same => notEnd (text_injective same),
    Dict.get_erase_of_ne _ fun same => notStart (text_injective same)]
  rfl

theorem lookup_withoutWindow_start (record : JsonDict) :
    lookup (withoutWindow record) "requested_start_pts" = none := by
  rw [lookup, withoutWindow, Dict.get_erase_of_ne _ (by decide), Dict.get_erase_self]

theorem lookup_withoutWindow_end (record : JsonDict) :
    lookup (withoutWindow record) "requested_end_pts" = none := by
  rw [lookup, withoutWindow, Dict.get_erase_self]

def chosenValue (defaults : RequestDefaults) (event : JsonDict) (pts : Int) : Option Json :=
  let own := (if defaults.isPostSavant event = true then
    firstPolicyValue event "event_frame_pts" else none).getD (.int pts)
  if own.truthy then some own else firstPolicyValue event "frame_pts"

section

variable {defaults : RequestDefaults} {event record : JsonDict} {pts preSeconds postSeconds : Int}
  (config : IntakeConfig) (known : WindowRecord defaults event record pts preSeconds postSeconds)

include defaults event record pts preSeconds postSeconds config known

theorem consumerWindow_eq :
    consumerWindow config (withoutWindow record) =
      (intOrNone (chosenValue defaults event pts)).map fun read =>
        (read.map fun chosen => max 0 (chosen - preSeconds * ptsTimeBase),
          read.map fun chosen => chosen + postSeconds * ptsTimeBase) := by
  have pre : lookup (withoutWindow record) "pre_seconds" = some (.int preSeconds) := by
    rw [lookup_withoutWindow record (by decide) (by decide), known.preField]
  have post : lookup (withoutWindow record) "post_seconds" = some (.int postSeconds) := by
    rw [lookup_withoutWindow record (by decide) (by decide), known.postField]
  have chosen : getOr (withoutWindow record) "event_frame_pts" "frame_pts" =
      chosenValue defaults event pts := by
    rw [getOr, lookup_withoutWindow record (by decide) (by decide), known.eventField,
      lookup_withoutWindow record (by decide) (by decide), known.frameField]
    rfl
  have absent : intOrNone none = .ok none := rfl
  have number : ∀ value, Json.toInt (.int value) = .ok value := fun _ => rfl
  simp only [consumerWindow, intField, pre, post, Option.map_some, Option.getD_some,
    number, bind, Except.bind, requestedPtsWindow, chosen, lookup_withoutWindow_start,
    lookup_withoutWindow_end, absent, pure, Except.pure]
  cases intOrNone (chosenValue defaults event pts) with
  | error => rfl
  | ok read => cases read <;> rfl

theorem consumerWindow_exact_iff :
    consumerWindow config (withoutWindow record) =
        .ok (some (max 0 (pts - preSeconds * ptsTimeBase)),
          some (pts + postSeconds * ptsTimeBase)) ↔
      intOrNone (chosenValue defaults event pts) = .ok (some pts) := by
  rw [consumerWindow_eq config known]
  cases intOrNone (chosenValue defaults event pts) with
  | error => simp only [Except.map, reduceCtorEq]
  | ok read =>
    cases read with
    | none => simp only [Except.map, Option.map_none, Except.ok.injEq, Prod.mk.injEq,
        reduceCtorEq, and_self]
    | some =>
      simp only [Except.map, Option.map_some, Except.ok.injEq, Prod.mk.injEq, Option.some.injEq]
      constructor
      · rintro ⟨_, sameEnd⟩
        omega
      · rintro rfl
        exact ⟨rfl, rfl⟩

end

theorem intOrNone_falsy {value : Json} (falsy : value.truthy = false) :
    intOrNone (some value) = .ok none ∨ intOrNone (some value) = .ok (some 0) := by
  cases value with
  | null | bool => exact .inl rfl
  | int value =>
    have zero : value = 0 := by simpa [Json.truthy] using falsy
    rw [zero]
    exact .inr rfl
  | float value =>
    cases value with
    | finite negative magnitude =>
      have zero : magnitude = 0 := by simpa [Json.truthy] using falsy
      rw [zero]
      cases negative <;> exact .inr rfl
    | infinite | nan => cases falsy
  | str content =>
    have empty : content = [] := by simpa [Json.truthy] using falsy
    rw [empty]
    exact .inl rfl
  | list | dict => exact .inl rfl

theorem intOrNone_int (value : Int) : intOrNone (some (.int value)) = .ok (some value) := rfl

theorem truthy_int {value : Int} : (Json.int value).truthy = true ↔ value ≠ 0 := by
  simp [Json.truthy]

theorem intOrNone_number_or {pts : Int} {other : Option Json} :
    intOrNone (if (Json.int pts).truthy = true then some (.int pts) else other) =
        .ok (some pts) ↔
      (pts = 0 → intOrNone other = .ok (some 0)) := by
  by_cases zero : pts = 0
  · rw [zero]
    exact ⟨fun read _ => read, fun read => read rfl⟩
  · rw [if_pos (truthy_int.mpr zero), intOrNone_int]
    exact ⟨fun _ isZero => absurd isZero zero, fun _ => rfl⟩

theorem chosenValue_exact_iff {defaults : RequestDefaults} {event : JsonDict} {pts : Int}
    (given : framePtsOf event = .ok (some pts)) :
    intOrNone (chosenValue defaults event pts) = .ok (some pts) ↔
      SamePts defaults event pts := by
  unfold chosenValue
  by_cases copied : defaults.isPostSavant event = true
  · rw [if_pos copied]
    cases found : firstPolicyValue event "event_frame_pts" with
    | none =>
      have unset : ∀ value, firstPolicyValue event "event_frame_pts" ≠ some value := by
        intro value isSome
        rw [found] at isSome
        cases isSome
      refine intOrNone_number_or.trans ⟨?_, ?_⟩
      · intro read
        exact ⟨fun _ value isSome => absurd isSome (unset value), fun zero _ => read zero⟩
      · intro same zero
        exact same.zero zero fun _ value isSome => absurd isSome (unset value)
    | some value =>
      rw [Option.getD_some]
      dsimp only
      cases truth : value.truthy with
      | true =>
        rw [if_pos rfl]
        constructor
        · intro read
          refine ⟨?_, ?_⟩
          · intro _ other isSome _
            rw [Option.some.inj (found.symm.trans isSome)] at read
            exact read
          · intro _ allFalsy
            rw [allFalsy copied value found] at truth
            cases truth
        · intro same
          exact same.copied copied value found truth
      | false =>
        rw [if_neg Bool.false_ne_true]
        have falsy : ∀ other, firstPolicyValue event "event_frame_pts" = some other →
            other.truthy = false := by
          intro other isSome
          rw [← Option.some.inj (found.symm.trans isSome)]
          exact truth
        have reads : SamePts defaults event pts ↔
            (pts = 0 → intOrNone (firstPolicyValue event "frame_pts") = .ok (some 0)) := by
          constructor
          · intro same zero
            exact same.zero zero fun _ other isSome => falsy other isSome
          · intro read
            refine ⟨?_, fun zero _ => read zero⟩
            intro _ other isSome truthy
            rw [falsy other isSome] at truthy
            cases truthy
        rw [reads]
        by_cases zero : pts = 0
        · rw [zero]
          exact ⟨fun read _ => read, fun read => read rfl⟩
        · refine ⟨fun _ isZero => absurd isZero zero, fun _ => ?_⟩
          rcases intOrNone_falsy truth with none | isZero
          · simpa only [framePtsOf, found, none, bind, Except.bind] using given
          · simp only [framePtsOf, found, isZero, bind, Except.bind, pure, Except.pure,
              Except.ok.injEq, Option.some.injEq] at given
            exact absurd given.symm zero
  · rw [if_neg copied]
    refine intOrNone_number_or.trans ⟨?_, ?_⟩
    · intro read
      exact ⟨fun isCopied => absurd isCopied copied, fun zero _ => read zero⟩
    · intro same zero
      exact same.zero zero fun isCopied => absurd isCopied copied

/-- The two services agree on the window exactly if no number of seconds falls back to the
default and the clip worker reads the event worker's PTS. -/
theorem sameWindow_iff (config : IntakeConfig) (defaults : RequestDefaults) {event : JsonDict}
    {eventId : Text} {record : JsonDict} {pts preSeconds postSeconds : Int}
    (built : defaults.buildRecordRequest event eventId = .ok (some record))
    (given : framePtsOf event = .ok (some pts))
    (noStart : firstPolicyValue event "requested_start_pts" = none)
    (noEnd : firstPolicyValue event "requested_end_pts" = none)
    (preRead : intField (policyOf event) "pre_seconds" defaults.defaultPreSeconds =
      .ok preSeconds)
    (postRead : intField (policyOf event) "post_seconds"
      defaults.defaultPostSeconds = .ok postSeconds) :
    SameWindow config record pts preSeconds postSeconds ↔
      (preSeconds ≠ 0 ∨ pts ≤ 0) ∧ postSeconds ≠ 0 ∧ SamePts defaults event pts := by
  rcases beforeTimeline_of_build built with ⟨_, _, _, pre_eq, post_eq, known, applied⟩
  cases pre_eq.symm.trans preRead
  cases post_eq.symm.trans postRead
  have window := windowRecord_of_timeline known given noStart noEnd applied
  have start : lookup record "requested_start_pts" =
        some (.int (max 0 (pts - preSeconds * ptsTimeBase))) ↔ preSeconds ≠ 0 ∨ pts ≤ 0 := by
    rw [window.startField, Option.some.injEq, Json.int.injEq]
    simp only [secondsOr, ptsTimeBase]
    split <;> omega
  have ending : lookup record "requested_end_pts" =
        some (.int (pts + postSeconds * ptsTimeBase)) ↔ postSeconds ≠ 0 := by
    rw [window.endField, Option.some.injEq, Json.int.injEq]
    simp only [secondsOr, ptsTimeBase]
    split <;> omega
  have consumed := (consumerWindow_exact_iff config window).trans (chosenValue_exact_iff given)
  constructor
  · intro same
    exact ⟨start.mp same.produced.1, ending.mp same.produced.2, consumed.mp same.consumed⟩
  · rintro ⟨startOk, endOk, samePts⟩
    exact ⟨⟨start.mpr startOk, ending.mpr endOk⟩, consumed.mpr samePts⟩

/-! ## An event with and without seconds before it -/

def plainDefaults : RequestDefaults :=
  { requestId := [], defaultReplaySourceId := text "a", defaultPreSeconds := 5
    defaultPostSeconds := 5, strOf := fun _ => [] }

def plainConfig : IntakeConfig :=
  { recursionLimit := 100, strOf := fun _ => [], floatText := fun _ => []
    defaultPreSeconds := 5, defaultPostSeconds := 5 }

def framedEvent (preSeconds : Int) : JsonDict :=
  [(text "event_frame_pts", .int 20000000000),
    (text "evidence_policy", .dict [(text "pre_seconds", .int preSeconds)])]

def builtRecord (preSeconds : Int) : JsonDict :=
  match plainDefaults.buildRecordRequest (framedEvent preSeconds) [] with
  | .ok (some record) => record
  | _ => []

theorem sameWindow_three_seconds :
    SameWindow plainConfig (builtRecord 3) 20000000000 3 5 := by
  refine (@sameWindow_iff plainConfig plainDefaults (framedEvent 3) [] _ _ _ _
    rfl rfl rfl rfl rfl rfl).mpr ⟨.inl (by decide), by decide, ?_, ?_⟩
  · intro postSavant
    cases postSavant
  · intro zero
    cases zero

/-- Without seconds before the event the producer falls back to five. -/
theorem zero_seconds_differ :
    lookup (builtRecord 0) "requested_start_pts" = some (.int 15000000000) ∧
      consumerWindow plainConfig (withoutWindow (builtRecord 0)) =
        .ok (some 20000000000, some 25000000000) ∧
      ¬SameWindow plainConfig (builtRecord 0) 20000000000 0 5 := by
  have produced : lookup (builtRecord 0) "requested_start_pts" =
      some (.int 15000000000) := rfl
  refine ⟨produced, rfl, ?_⟩
  intro same
  have start := same.produced.1
  rw [produced, Option.some.injEq, Json.int.injEq] at start
  revert start
  decide

end VideoAnalysis.Event
