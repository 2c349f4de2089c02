import VideoAnalysis.Foundation.Dict
import VideoAnalysis.Python.Number

/-! # The topology plan

A plan spreads the enabled cameras over one branch or two, and writes for the adapters which
branch a source goes to and for the replay which sources a branch has.
-/

namespace VideoAnalysis.Topology

open Foundation
open Python (Text text strip intOfText)

inductive TopologyMode
  | auto
  | single
  | dualSameGpu
  | dualDualGpu

inductive EffectiveMode
  | single
  | dualAuto
  | dualSameGpu
  | dualDualGpu

inductive ShardStrategy
  | balanced
  | gpuId
  | manual

inductive BranchId
  | single
  | a
  | b
deriving DecidableEq

def BranchId.text : BranchId → String
  | single => "single"
  | a => "a"
  | b => "b"

/-- A normalized configuration; the two numbers are the GPUs of the branches. -/
structure TopologyConfig where
  topologyMode : TopologyMode := .auto
  shardStrategy : ShardStrategy := .balanced
  streamsPerBranch : Nat := 30
  manualAssignments : Dict String BranchId := ∅
  gpuA : Int := 0
  gpuB : Int := 1

structure Camera where
  id : String
  sourceId : String
  rtspUrl : String
  name : Option String := none
  enabled : Option Bool := none
  gpuId : Option Int := none

def Camera.isEnabled (camera : Camera) : Bool := camera.enabled.getD true

def Camera.gpu (camera : Camera) : Int := camera.gpuId.getD 0

structure BranchConfig where
  branchId : BranchId
  gpuId : Int

variable (config : TopologyConfig)

def effectiveMode (enabledCount : Nat) : EffectiveMode :=
  match config.topologyMode with
  | .auto => if enabledCount ≤ config.streamsPerBranch then .single else .dualAuto
  | .single => .single
  | .dualSameGpu => .dualSameGpu
  | .dualDualGpu => .dualDualGpu

def EffectiveMode.dual : EffectiveMode → Bool
  | single => false
  | _ => true

def parsedGpus (availableGpus : List String) : List Int :=
  availableGpus.filterMap fun raw => (intOfText (strip (text raw))).toOption

def autoBranchGpuIds (availableGpus : List String) : Int × Int :=
  match parsedGpus availableGpus with
  | first :: second :: _ => (first, second)
  | [only] => (only, only)
  | [] => (config.gpuA, config.gpuA)

def branchConfigs (mode : EffectiveMode) (availableGpus : List String) : List BranchConfig :=
  match mode with
  | .single => [⟨.single, config.gpuA⟩]
  | .dualAuto =>
    let (first, second) := autoBranchGpuIds config availableGpus
    [⟨.a, first⟩, ⟨.b, second⟩]
  | .dualSameGpu => [⟨.a, config.gpuA⟩, ⟨.b, config.gpuA⟩]
  | .dualDualGpu => [⟨.a, config.gpuA⟩, ⟨.b, config.gpuB⟩]

/-- The branch that the place of a camera in the list gives it. -/
def turn (branches : List BranchConfig) (index : Nat) : BranchId :=
  ((branches.map BranchConfig.branchId)[index % branches.length]?).getD .single

def gpuToBranch (branches : List BranchConfig) : Dict Int BranchId :=
  Dict.ofPairs (branches.map fun branch => (branch.gpuId, branch.branchId))

def assignedBranch (branches : List BranchConfig) (index : Nat) (camera : Camera) : BranchId :=
  match config.shardStrategy with
  | .manual =>
    let branchId := (config.manualAssignments.get camera.sourceId).getD (turn branches index)
    if (branches.map BranchConfig.branchId).contains branchId then branchId
    else turn branches index
  | .gpuId => ((gpuToBranch branches).get camera.gpu).getD (turn branches index)
  | .balanced => turn branches index

def assignCameras (branches : List BranchConfig) (dual : Bool) (cameras : List Camera) :
    List (BranchId × List Camera) :=
  branches.map fun branch =>
    (branch.branchId,
      if dual then
        (cameras.zipIdx.filter fun place =>
          assignedBranch config branches place.2 place.1 == branch.branchId).map Prod.fst
      else cameras)

structure BranchRow where
  branchId : BranchId
  gpuId : Int
  sourceCount : Nat
  sourceIds : List String
  cameraNames : List String

structure SourceDoc where
  cameraId : String
  sourceId : String
  uri : String
  enabled : Bool
  adapterType : String := "gstreamer"
  zmqEndpoint : String
  replayShardId : String
  cameraName : String

structure ReplayShard where
  shardId : String
  replayApiUrl : String
  inStreamEndpoint : String
  replayJobSinkUrl : String
  sourceIds : List String

def defaultZmqEndpoint : String := "dealer+connect:tcp://replay-service:5555"

def branchRow (branch : BranchConfig) (cameras : List Camera) : BranchRow where
  branchId := branch.branchId
  gpuId := branch.gpuId
  sourceCount := cameras.length
  sourceIds := cameras.map Camera.sourceId
  cameraNames := cameras.map fun camera =>
    (camera.name.filter (· ≠ "")).getD camera.sourceId

def sourceBranch (assignments : List (BranchId × List Camera)) : Dict String BranchId :=
  Dict.ofPairs (assignments.flatMap fun entry =>
    entry.2.map fun camera => (camera.sourceId, entry.1))

def sourceDoc (assignments : List (BranchId × List Camera)) (dual : Bool) (camera : Camera)
    (sourceId : String) : SourceDoc :=
  let branchId := ((sourceBranch assignments).get sourceId).getD .single
  { cameraId := camera.id
    sourceId
    uri := camera.rtspUrl
    enabled := camera.isEnabled
    zmqEndpoint :=
      if dual then s!"dealer+connect:tcp://replay-{branchId.text}:5555" else defaultZmqEndpoint
    replayShardId := if dual then s!"replay-{branchId.text}" else "default"
    cameraName := camera.name.getD "" }

def sourcesDoc (validateSourceId : String → Option String)
    (assignments : List (BranchId × List Camera)) (dual : Bool) (cameras : List Camera) :
    Option (Dict String SourceDoc) := do
  let rows ← cameras.mapM fun camera => do
    let sourceId ← validateSourceId camera.sourceId
    return (camera.id, sourceDoc assignments dual camera sourceId)
  return Dict.ofPairs rows

def replayShard (branch : BranchRow) : ReplayShard where
  shardId := s!"replay-{branch.branchId.text}"
  replayApiUrl := s!"http://replay-{branch.branchId.text}:8080"
  inStreamEndpoint := s!"dealer+connect:tcp://replay-{branch.branchId.text}:5555"
  replayJobSinkUrl := s!"dealer+connect:tcp://video-file-sink-{branch.branchId.text}:6666"
  sourceIds := branch.sourceIds

structure ReplayShards where
  defaultShardId : String := "replay-a"
  shards : List ReplayShard

def replayShardsDoc (branches : List BranchRow) : ReplayShards where
  shards := branches.map replayShard

structure TopologyPlan where
  requestedMode : TopologyMode
  effectiveMode : EffectiveMode
  dual : Bool
  shardStrategy : ShardStrategy
  streamsPerBranch : Nat
  enabledSourceCount : Nat
  totalCameraCount : Nat
  availableGpus : List String
  branches : List BranchRow
  replayShards : Option ReplayShards
  sources : Dict String SourceDoc

/-- A source id that is not accepted leaves no plan. -/
def buildTopologyPlan (validateSourceId : String → Option String) (config : TopologyConfig)
    (cameras : List Camera) (availableGpus : List String) : Option TopologyPlan := do
  let enabledCameras := cameras.filter Camera.isEnabled
  let mode := effectiveMode config enabledCameras.length
  let branches := branchConfigs config mode availableGpus
  let assignments := assignCameras config branches mode.dual enabledCameras
  let branchRows := branches.map fun branch =>
    branchRow branch ((Dict.lookup branch.branchId assignments).getD [])
  let sources ← sourcesDoc validateSourceId assignments mode.dual enabledCameras
  return {
    requestedMode := config.topologyMode
    effectiveMode := mode
    dual := mode.dual
    shardStrategy := config.shardStrategy
    streamsPerBranch := config.streamsPerBranch
    enabledSourceCount := enabledCameras.length
    totalCameraCount := cameras.length
    availableGpus
    branches := branchRows
    replayShards := if mode.dual then some (replayShardsDoc branchRows) else none
    sources }

/-! ## What a plan should be -/

/-- A configuration, the GPUs there are, and cameras with ids of their own. -/
structure PlanInput where
  validateSourceId : String → Option String
  config : TopologyConfig
  cameras : List Camera
  availableGpus : List String
  distinctIds : (cameras.map Camera.id).Nodup
  distinctSources : (cameras.map Camera.sourceId).Nodup
  accepted : ∀ camera ∈ cameras, validateSourceId camera.sourceId = some camera.sourceId

namespace PlanInput

def enabled (input : PlanInput) : List Camera := input.cameras.filter Camera.isEnabled

def mode (input : PlanInput) : EffectiveMode := effectiveMode input.config input.enabled.length

def branches (input : PlanInput) : List BranchConfig :=
  branchConfigs input.config input.mode input.availableGpus

def plan (input : PlanInput) : Option TopologyPlan :=
  buildTopologyPlan input.validateSourceId input.config input.cameras input.availableGpus

end PlanInput

/-- The documents of a plan agree on a source: one shard lists it, and the row sends it there. -/
def SourceDoc.Agrees (row : SourceDoc) (shards : List ReplayShard) : Prop :=
  ∃ shard ∈ shards, row.sourceId ∈ shard.sourceIds ∧
    (∀ other ∈ shards, row.sourceId ∈ other.sourceIds → other = shard) ∧
      row.zmqEndpoint = shard.inStreamEndpoint ∧ row.replayShardId = shard.shardId

structure PlanAgrees (input : PlanInput) (plan : TopologyPlan) : Prop where
  partition : (plan.branches.flatMap BranchRow.sourceIds).Perm
    (input.enabled.map Camera.sourceId)
  documents : ∀ camera ∈ input.enabled, ∃ row, plan.sources.get camera.id = some row ∧
    row.sourceId = camera.sourceId ∧ ∀ doc, plan.replayShards = some doc → row.Agrees doc.shards
  replayed : plan.dual = true → plan.replayShards.isSome = true
  balanced : input.config.shardStrategy = .balanced → ∀ branch ∈ plan.branches,
    ∀ other ∈ plan.branches, branch.sourceIds.length ≤ other.sourceIds.length + 1
  manual : input.config.shardStrategy = .manual → ∀ camera ∈ input.enabled, ∀ branchId,
    input.config.manualAssignments.get camera.sourceId = some branchId →
      ∀ branch ∈ plan.branches, branch.branchId = branchId → camera.sourceId ∈ branch.sourceIds
  ownGpu : input.config.shardStrategy = .gpuId → ∀ camera ∈ input.enabled,
    ∀ branch ∈ plan.branches, branch.gpuId = camera.gpu →
      (∀ other ∈ plan.branches, other.gpuId = camera.gpu → other = branch) →
        camera.sourceId ∈ branch.sourceIds
  sharedGpu : input.config.shardStrategy = .gpuId → ∀ branch ∈ plan.branches,
    branch.sourceIds = [] → ∀ other ∈ plan.branches,
      (input.enabled.filter fun camera => decide (camera.sourceId ∈ other.sourceIds) &&
        camera.gpu == branch.gpuId && camera.gpu == other.gpuId).length < 2

/-- Both branches share the GPU of two cameras or more, and no camera with another GPU has its
turn in the first branch. -/
def PlanInput.Crowded (input : PlanInput) : Prop :=
  input.mode.dual = true ∧ input.config.shardStrategy = .gpuId ∧
    ∃ gpu, (∀ branch ∈ input.branches, branch.gpuId = gpu) ∧
      2 ≤ (input.enabled.filter fun camera => camera.gpu == gpu).length ∧
        ∀ place ∈ input.enabled.zipIdx, place.1.gpu ≠ gpu → place.2 % 2 = 1

end VideoAnalysis.Topology
