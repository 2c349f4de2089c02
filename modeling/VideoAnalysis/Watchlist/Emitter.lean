import VideoAnalysis.Foundation.CallOutcome
import VideoAnalysis.Foundation.Machine
import VideoAnalysis.Intake.FaceObservations

/-! # The watchlist in the face worker's batch

`_process_batch_pipelined` with `emit_for_observation`, one step for each call that
leaves the process. Rules, cameras and gallery stay as they are. Times are milliseconds.
-/

namespace VideoAnalysis.Watchlist

open Foundation Python Intake

structure WatchlistRule where
  ruleId : Text
  threshold : ℚ
  topK : Int
  cooldown : Int
  /-- `_resolved_target_person_ids`. -/
  targets : List Int

structure GalleryMatch where
  personId : Int
  similarity : ℚ

/-- The messages of the stream and what the database answers. -/
structure WatchWorld where
  face : FaceConfig
  stream : List Fields
  isUuidText : Text → Bool
  cameraBySource : Text → Option Text
  cameraRule : Text → Option WatchlistRule
  envRule : Option WatchlistRule
  /-- The gallery rows of active persons, most similar first. -/
  ranked : List Double → List GalleryMatch

namespace WatchWorld

variable (world : WatchWorld)

variable (obs : Payload)

def textField (field : String) : Text :=
  match Json.lookup obs field with
  | none => []
  | some (.str content) => content
  | some value => if value.truthy then world.face.strOf value else []

/-- The identity of an observation, in a column of texts. -/
def keyOf : Text := world.textField obs "source_observation_id"

def givenCamera : Text := world.textField obs "camera_id"

/-- `_normalize_observation_camera_id`, when the camera of the source can be looked up. -/
def cameraOf : Text :=
  let camera := world.givenCamera obs
  if camera = [] || world.isUuidText camera then camera
  else
    let source := world.textField obs "source_id"
    match world.cameraBySource (if source = [] then camera else source) with
    | none => camera
    | some resolved => if resolved = [] then camera else resolved

/-- `_current_rules_for_observation`: at most one rule. -/
def ruleFor (camera : Text) : Option WatchlistRule :=
  if camera = [] then world.envRule
  else
    match world.cameraRule camera with
    | some rule => some rule
    | none => world.envRule

def embeddingOf : List Double :=
  match Json.lookup obs "embedding" with
  | some (.list elements) => elements.filterMap fun element => element.toFloat.toOption
  | _ => []

/-- The rows above the threshold of a rule that belong to its targets. -/
def candidates (rule : WatchlistRule) : List GalleryMatch :=
  (world.ranked (embeddingOf obs)).filter fun row =>
    rule.threshold ≤ row.similarity && row.personId ∈ rule.targets

/-- `search_gallery` with the number of rows it is asked for. -/
def search (rule : WatchlistRule) : List GalleryMatch :=
  (world.candidates obs rule).take (max 1 (min (max rule.topK 1) 100)).toNat

end WatchWorld

/-! ## The worker -/

structure Hit where
  source : Text
  camera : Text
  ruleId : Text
  personId : Int
  time : Nat
  cooldown : Int

structure StoredRow where
  obs : Payload
  storedAt : Nat

/-- Where the worker is in its batch. -/
inductive Stage where
  | idle
  | persist (batch : List (Nat × Payload))
  | acknowledge (messages : List Nat) (inserted : List Payload)
  | emit (obs : Payload) (waiting : List Payload)
  | search (obs : Payload) (camera : Text) (rule : WatchlistRule) (waiting : List Payload)
  | consider (obs : Payload) (camera : Text) (rule : WatchlistRule)
      (results : List GalleryMatch) (seen : List Int) (waiting : List Payload)

def Stage.pending : Stage → List Payload
  | .idle | .persist _ => []
  | .acknowledge _ inserted => inserted
  | .emit obs waiting | .search obs _ _ waiting | .consider obs _ _ _ _ waiting =>
    obs :: waiting

/-- The next observation of the loop over the new rows. -/
def Stage.next : List Payload → Stage
  | [] => .idle
  | obs :: waiting => .emit obs waiting

abbrev CooldownKey := Text × Text × Int

structure WatchState where
  acknowledged : List Nat := []
  rows : Dict Text StoredRow := ∅
  hits : List Hit := []
  cooldowns : Dict CooldownKey Int := ∅
  stage : Stage := .idle
  now : Nat := 0

inductive PersistOutcome where
  | commits
  | fails
  | commitLost
deriving DecidableEq

/-- How the rule of an observation is found. A failed look at the cameras leaves the
camera as it is given; other failures raise. -/
inductive LookupOutcome where
  | resolved
  | unresolved
  | raises
deriving DecidableEq

inductive WatchLabel where
  | wait (milliseconds : Nat)
  | deliver (messages : List Nat) (acks : Bool)
  | persist (outcome : PersistOutcome)
  | acknowledge (arrived : Bool)
  | lookup (outcome : LookupOutcome)
  | search (raises : Bool)
  | consider (outcome : CallOutcome)
  | crash

/-- `insert_observations`: a row whose identity is taken is none. -/
def insertRows (world : WatchWorld) (now : Nat) : List (Nat × Payload) → Dict Text StoredRow →
    Dict Text StoredRow × List Payload
  | [], rows => (rows, [])
  | (_, obs) :: rest, rows =>
    match rows.get (world.keyOf obs) with
    | some _ => insertRows world now rest rows
    | none =>
      let inserted := insertRows world now rest (rows.set (world.keyOf obs) ⟨obs, now⟩)
      (inserted.1, obs :: inserted.2)

def validIn : List Nat → List FaceConfig.Parsed → List (Nat × Payload)
  | message :: messages, .valid obs :: rest => (message, obs) :: validIn messages rest
  | _ :: messages, .refused :: rest | _ :: messages, .invalid :: rest =>
    validIn messages rest
  | [], _ | _, [] => []

def refusedIn : List Nat → List FaceConfig.Parsed → List Nat
  | message :: messages, .refused :: rest => message :: refusedIn messages rest
  | _ :: messages, .valid _ :: rest | _ :: messages, .invalid :: rest =>
    refusedIn messages rest
  | [], _ | _, [] => []

namespace WatchState

variable (world : WatchWorld) (state : WatchState)

def deliver (messages : List Nat) (acks : Bool) : Option WatchState :=
  match state.stage with
  | .idle =>
    if messages.Nodup ∧ (∀ message ∈ messages,
        message < world.stream.length ∧ message ∉ state.acknowledged) then
      let parsed := world.face.parseAll (messages.filterMap fun message =>
        world.stream[message]?)
      let valid := validIn messages parsed.1
      some
        { state with
          acknowledged :=
            if acks then state.acknowledged ++ refusedIn messages parsed.1
            else state.acknowledged
          stage := if parsed.2.isSome || valid.isEmpty then .idle else .persist valid }
    else none
  | _ => none

def persist (outcome : PersistOutcome) : Option WatchState :=
  match state.stage with
  | .persist batch =>
    let inserted := insertRows world state.now batch state.rows
    if outcome = .fails then some { state with stage := .idle }
    else if batch.all fun entry => (world.face.observationParams entry.2).toOption.isSome then
      some
        { state with
          rows := inserted.1
          stage :=
            if outcome = .commits then .acknowledge (batch.map Prod.fst) inserted.2
            else .idle }
    else none
  | _ => none

def acknowledge (arrived : Bool) : Option WatchState :=
  match state.stage with
  | .acknowledge messages inserted =>
    some
      { state with
        acknowledged :=
          if arrived then state.acknowledged ++ messages else state.acknowledged
        stage := .next inserted }
  | _ => none

def lookup (outcome : LookupOutcome) : Option WatchState :=
  match state.stage with
  | .emit obs waiting =>
    let camera :=
      if outcome = .unresolved then world.givenCamera obs else world.cameraOf obs
    if outcome = .raises then some { state with stage := .next waiting }
    else
      match world.ruleFor camera with
      | none => some { state with stage := .next waiting }
      | some rule => some { state with stage := .search obs camera rule waiting }
  | _ => none

def search (raises : Bool) : Option WatchState :=
  match state.stage with
  | .search obs camera rule waiting =>
    if rule.targets = [] || raises then some { state with stage := .next waiting }
    else
      some { state with stage := .consider obs camera rule (world.search obs rule) [] waiting }
  | _ => none

def hitOf (obs : Payload) (camera : Text) (rule : WatchlistRule) (personId : Int) : Hit where
  source := world.keyOf obs
  camera := camera
  ruleId := rule.ruleId
  personId := personId
  time := state.now
  cooldown := max rule.cooldown 0

/-- One turn of the loop over the results. -/
def consider (outcome : CallOutcome) : Option WatchState :=
  match state.stage with
  | .consider _ _ _ [] _ waiting => some { state with stage := .next waiting }
  | .consider obs camera rule (row :: results) seen waiting =>
    let key := (camera, rule.ruleId, row.personId)
    let rest := Stage.consider obs camera rule results (row.personId :: seen) waiting
    if row.personId ∈ seen then
      some { state with stage := .consider obs camera rule results seen waiting }
    else if state.now < (state.cooldowns.get key).getD 0 then some { state with stage := rest }
    else
      let hit := state.hitOf world obs camera rule row.personId
      let published :=
        if outcome.arrived then { state with hits := state.hits ++ [hit] } else state
      if outcome = .ok then
        some
          { published with
            cooldowns := state.cooldowns.set key (hit.time + hit.cooldown)
            stage := rest }
      else some { published with stage := .next waiting }
  | _ => none

def step : WatchLabel → Option WatchState
  | .wait milliseconds => some { state with now := state.now + milliseconds }
  | .deliver messages acks => state.deliver world messages acks
  | .persist outcome => state.persist world outcome
  | .acknowledge arrived => state.acknowledge arrived
  | .lookup outcome => state.lookup world outcome
  | .search raises => state.search world raises
  | .consider outcome => state.consider world outcome
  | .crash => some { state with cooldowns := ∅, stage := .idle }

end WatchState

def watchMachine (world : WatchWorld) : Machine WatchState WatchLabel where
  initial state := state = {}
  step := WatchState.step world

end VideoAnalysis.Watchlist
