import VideoAnalysis.Behavior.Track
import Mathlib.Data.List.Sort

/-! # Behaviour rules

Each rule looks at tracks and decides when its conditions are met; the shared
cooldown then decides whether an event goes out. The tests on boxes, speeds and
postures compare floating-point values and enter as functions on bodies.
-/

namespace VideoAnalysis.Behavior

open VideoAnalysis.Foundation

inductive EventType
  | intrusion | loitering | crowdGathering | running | chasing | fall
deriving DecidableEq

def EventType.text : EventType → String
  | .intrusion => "intrusion"
  | .loitering => "loitering"
  | .crowdGathering => "crowd_gathering"
  | .running => "running"
  | .chasing => "chasing"
  | .fall => "fall"

structure SecurityEvent where
  eventType : EventType
  cameraId : String
  trackId : Int
  startTsMs : Nat
  endTsMs : Nat
  zone : String
  ruleName : String
  memberTrackIds : List Int := []
deriving DecidableEq

def buildSourceEventId (producer cameraId : String) (trackId : Int) (eventType : EventType)
    (startTsMs : Nat) : String :=
  let trackPart := if 0 < trackId then toString trackId else "none"
  s!"{producer}:{cameraId}:{trackPart}:{eventType.text}:{startTsMs}"

/-! ## Cooldown -/

abbrev CooldownTracker := Dict String Int

namespace CooldownTracker

def canEmit (cooldown : CooldownTracker) (key : String) (nowMs : Nat) : Bool :=
  match cooldown.get key with
  | none => true
  | some expiry => expiry ≤ (nowMs : Int)

def recordEmit (cooldown : CooldownTracker) (key : String) (cooldownS : Int) (nowMs : Nat) :
    CooldownTracker :=
  cooldown.set key (nowMs + cooldownS * 1000)

end CooldownTracker

/-- What a rule would report, before the cooldown is asked. -/
structure Finding where
  key : String
  cooldownS : Int
  event : SecurityEvent

/-- The tail that all rules share: ask the cooldown at the end time of the event. -/
def CooldownTracker.report (cooldown : CooldownTracker) (finding : Finding) :
    CooldownTracker × Option SecurityEvent :=
  if cooldown.canEmit finding.key finding.event.endTsMs then
    (cooldown.recordEmit finding.key finding.cooldownS finding.event.endTsMs, some finding.event)
  else (cooldown, none)

/-! ## Configuration -/

structure RuleConfig where
  name : String
  enabled : Bool := true
  minInsideMs : Int := 1000
  cooldownS : Int := 30

/-- `inside` is `point_in_polygon` at the foot point of the box. -/
structure ZoneConfig (Body : Type) where
  name : String
  hasPolygon : Bool := true
  inside : Body → Bool

variable {Body : Type}

/-- `BehaviorRule.cooldown_key`. -/
def trackCooldownKey (zone : ZoneConfig Body) (track : TrackState Body)
    (current : Observation Body) : String :=
  s!"{current.cameraId}:{track.trackId}:{zone.name}"

/-- The index where the unbroken run of observations that ends in the last one
starts. The last observation itself is not tested. -/
def firstContinuousIndex (test : Observation Body → Bool)
    (observations : List (Observation Body)) : Nat :=
  observations.length - 1 - (observations.dropLast.reverse.takeWhile test).length

/-! ## Intrusion -/

structure IntrusionRule (Body : Type) where
  config : RuleConfig
  zone : ZoneConfig Body

namespace IntrusionRule

def continuousInside (rule : IntrusionRule Body) (track : TrackState Body) : Int × Nat :=
  match track.observations.getLast? with
  | none => (0, 0)
  | some last =>
    if rule.zone.inside last.body then
      let first := firstContinuousIndex (fun observation => rule.zone.inside observation.body)
        track.observations
      let firstTs := (track.observations[first]?.getD last).timestampMs
      (max ((last.timestampMs : Int) - firstTs) 0, firstTs)
    else (0, 0)

def finding (rule : IntrusionRule Body) (track : TrackState Body) : Option Finding :=
  if rule.config.enabled then
    match track.observations.getLast? with
    | none => none
    | some last =>
      let (insideMs, firstInsideTs) := rule.continuousInside track
      if insideMs < rule.config.minInsideMs then none
      else some
        { key := trackCooldownKey rule.zone track last
          cooldownS := rule.config.cooldownS
          event :=
            { eventType := .intrusion
              cameraId := last.cameraId
              trackId := track.trackId
              startTsMs := firstInsideTs
              endTsMs := track.lastSeenMs
              zone := rule.zone.name
              ruleName := rule.config.name } }
  else none

end IntrusionRule

/-! ## Loitering -/

/-- `lowMotion` holds of the observations inside the zone when neither their
average speed nor their displacement is above its limit. -/
structure LoiteringConfig (Body : Type) where
  minDurationMs : Int := 60000
  minObservationCount : Int := 2
  cooldownS : Int := 60
  lowMotion : List (Observation Body) → Bool

structure LoiteringRule (Body : Type) where
  config : RuleConfig
  zone : ZoneConfig Body
  params : LoiteringConfig Body

namespace LoiteringRule

def firstContinuousInsideIndex (rule : LoiteringRule Body)
    (observations : List (Observation Body)) : Nat :=
  if rule.zone.hasPolygon then
    firstContinuousIndex (fun observation => rule.zone.inside observation.body) observations
  else 0

def finding (rule : LoiteringRule Body) (track : TrackState Body) : Option Finding :=
  match track.observations.getLast? with
  | none => none
  | some current =>
    let first := rule.firstContinuousInsideIndex track.observations
    let insideObservations := track.observations.drop first
    let startTsMs := (insideObservations.head?.getD current).timestampMs
    if !rule.config.enabled then none
    else if rule.zone.hasPolygon && !rule.zone.inside current.body then none
    else if (insideObservations.length : Int) < rule.params.minObservationCount then none
    else if (current.timestampMs : Int) - startTsMs < rule.params.minDurationMs then none
    else if !rule.params.lowMotion insideObservations then none
    else some
      { key := trackCooldownKey rule.zone track current
        cooldownS := rule.params.cooldownS
        event :=
          { eventType := .loitering
            cameraId := current.cameraId
            trackId := track.trackId
            startTsMs
            endTsMs := track.lastSeenMs
            zone := rule.zone.name
            ruleName := rule.config.name } }

end LoiteringRule

/-! ## Running -/

/-- The two observations between which a speed is measured. -/
structure Kinematics (Body : Type) where
  trackId : Int
  start : Observation Body
  last : Observation Body

def trackKinematics (track : TrackState Body) (windowMs : Int) : Option (Kinematics Body) :=
  match track.observations, track.observations.getLast? with
  | first :: _ :: _, some last =>
    let cutoff := (last.timestampMs : Int) - max windowMs 1
    let start := (track.observations.find? fun observation =>
      cutoff ≤ (observation.timestampMs : Int)).getD first
    if (last.timestampMs : Int) - start.timestampMs ≤ 0 then none
    else some { trackId := track.trackId, start, last }
  | _, _ => none

structure RunningConfig (Body : Type) where
  minDurationMs : Int := 500
  velocityWindowMs : Int := 700
  cooldownS : Int := 20
  passesSpeedThresholds : Kinematics Body → Bool

structure RunningRule (Body : Type) where
  config : RuleConfig
  zone : ZoneConfig Body
  params : RunningConfig Body
  runningSince : Dict (String × Int) Nat := ∅

namespace RunningRule

def fast (rule : RunningRule Body) (track : TrackState Body) : Bool :=
  match trackKinematics track rule.params.velocityWindowMs with
  | none => false
  | some kinematics => rule.params.passesSpeedThresholds kinematics

def observe (rule : RunningRule Body) (track : TrackState Body) :
    RunningRule Body × Option Finding :=
  match track.observations.getLast? with
  | none => (rule, none)
  | some current =>
    let trackKey := (current.cameraId, track.trackId)
    let stopped := { rule with runningSince := rule.runningSince.erase trackKey }
    if !rule.config.enabled then (rule, none)
    else if rule.zone.hasPolygon && !rule.zone.inside current.body then (stopped, none)
    else if !rule.fast track then (stopped, none)
    else
      let started := (rule.runningSince.get trackKey).getD track.lastSeenMs
      let running :=
        { rule with runningSince := rule.runningSince.set trackKey started }
      if (track.lastSeenMs : Int) - started < rule.params.minDurationMs then (running, none)
      else (running, some
        { key := trackCooldownKey rule.zone track current
          cooldownS := rule.params.cooldownS
          event :=
            { eventType := .running
              cameraId := current.cameraId
              trackId := track.trackId
              startTsMs := started
              endTsMs := track.lastSeenMs
              zone := rule.zone.name
              ruleName := rule.config.name } })

end RunningRule

/-! ## Fall -/

/-- `isLying` and `isUpright` are the verdicts of `posture_signals`;
`visibleKeypointCount` counts at the configured threshold. -/
structure FallConfig (Body : Type) where
  minDownMs : Int := 1500
  cooldownS : Int := 60
  requireTransition : Bool := true
  transitionWindowMs : Int := 1500
  minVisibleKeypoints : Int := 0
  visibleKeypointCount : Body → Nat
  isLying : Body → Bool
  isUpright : Body → Bool

structure FallRule (Body : Type) where
  config : RuleConfig
  zone : ZoneConfig Body
  params : FallConfig Body

namespace FallRule

def firstContinuousLyingIndex (rule : FallRule Body) (observations : List (Observation Body)) :
    Nat :=
  firstContinuousIndex (fun observation => rule.params.isLying observation.body) observations

def hadUprightBefore (rule : FallRule Body) (observations : List (Observation Body))
    (firstLying lyingStartTs : Nat) : Bool :=
  ((observations.take firstLying).reverse.takeWhile fun observation =>
      (lyingStartTs : Int) - observation.timestampMs ≤ rule.params.transitionWindowMs).any
    fun observation => rule.params.isUpright observation.body

def finding (rule : FallRule Body) (track : TrackState Body) : Option Finding :=
  match track.observations.getLast? with
  | none => none
  | some current =>
    let first := rule.firstContinuousLyingIndex track.observations
    let startTsMs := (track.observations[first]?.getD current).timestampMs
    if !rule.config.enabled then none
    else if rule.zone.hasPolygon && !rule.zone.inside current.body then none
    else if (rule.params.visibleKeypointCount current.body : Int) <
        rule.params.minVisibleKeypoints then none
    else if !rule.params.isLying current.body then none
    else if (current.timestampMs : Int) - startTsMs < rule.params.minDownMs then none
    else if rule.params.requireTransition &&
        !rule.hadUprightBefore track.observations first startTsMs then none
    else some
      { key := trackCooldownKey rule.zone track current
        cooldownS := rule.params.cooldownS
        event :=
          { eventType := .fall
            cameraId := current.cameraId
            trackId := track.trackId
            startTsMs
            endTsMs := track.lastSeenMs
            zone := rule.zone.name
            ruleName := rule.config.name } }

end FallRule

/-! ## Single-track rules -/

inductive SingleTrackRule (Body : Type)
  | intrusion (rule : IntrusionRule Body)
  | loitering (rule : LoiteringRule Body)
  | running (rule : RunningRule Body)
  | fall (rule : FallRule Body)

namespace SingleTrackRule

/-- The rule up to the cooldown: what it remembers next, and what it would report. -/
def observe (track : TrackState Body) : SingleTrackRule Body → SingleTrackRule Body × Option Finding
  | .intrusion rule => (.intrusion rule, rule.finding track)
  | .loitering rule => (.loitering rule, rule.finding track)
  | .running rule => ((.running (rule.observe track).1), (rule.observe track).2)
  | .fall rule => (.fall rule, rule.finding track)

def evaluate (cooldown : CooldownTracker) (track : TrackState Body)
    (rule : SingleTrackRule Body) :
    SingleTrackRule Body × CooldownTracker × Option SecurityEvent :=
  match rule.observe track with
  | (next, none) => (next, cooldown, none)
  | (next, some finding) => (next, cooldown.report finding)

end SingleTrackRule

/-! ## Frame rules -/

def presentTracks (tracks : List (TrackState Body)) (frameTsMs : Nat) (maxTrackAgeMs : Int) :
    List (TrackState Body) :=
  if maxTrackAgeMs ≤ 0 || frameTsMs = 0 then tracks.filter (!·.observations.isEmpty)
  else tracks.filter fun track =>
    !track.observations.isEmpty && (frameTsMs : Int) - track.lastSeenMs ≤ maxTrackAgeMs

def newestSeen (tracks : List (TrackState Body)) : Nat :=
  tracks.foldl (fun newest track => max newest track.lastSeenMs) 0

/-- `_frame_identity`. -/
def frameCameraId : List (TrackState Body) → String
  | [] => ""
  | track :: rest =>
    match track.observations.getLast? with
    | some current => current.cameraId
    | none => frameCameraId rest

def reportEach {State Item : Type} (step : State → Item → State × Option Finding) (state : State)
    (cooldown : CooldownTracker) : List Item → State × CooldownTracker × List SecurityEvent
  | [] => (state, cooldown, [])
  | item :: rest =>
    match step state item with
    | (next, none) => reportEach step next cooldown rest
    | (next, some finding) =>
      let (cooldown, event) := cooldown.report finding
      let (final, cooldown, events) := reportEach step next cooldown rest
      (final, cooldown, event.toList ++ events)

/-! ## Crowd gathering -/

/-- `linked` compares the foot points of two boxes with the configured distance. -/
structure CrowdConfig (Body : Type) where
  minPersonCount : Int := 5
  exitPersonCount : Int := 3
  minDurationMs : Int := 2000
  requireInZone : Bool := true
  cooldownS : Int := 60
  maxTrackAgeMs : Int := 1000
  linked : Body → Body → Bool

structure ClusterState where
  members : List Int
  isCrowd : Bool
  sinceTs : Nat
deriving DecidableEq

structure CrowdGatheringRule (Body : Type) where
  config : RuleConfig
  zone : ZoneConfig Body
  params : CrowdConfig Body
  clusters : Dict Nat ClusterState := ∅
  nextClusterId : Nat := 1

section Clusters

variable {Point : Type} (linked : Point → Point → Bool)

def linkedTo (point : Point) (unvisited : List Point) : List Point :=
  unvisited.filter (linked point)

def notLinkedTo (point : Point) (unvisited : List Point) : List Point :=
  unvisited.filter (!linked point ·)

theorem length_linkedTo_add (point : Point) (unvisited : List Point) :
    (linkedTo linked point unvisited).length + (notLinkedTo linked point unvisited).length =
      unvisited.length :=
  (unvisited.length_eq_length_filter_add (linked point)).symm

/-- One connected component: pop a point, push the unvisited points linked to it. -/
def component (stack unvisited : List Point) : List Point × List Point :=
  match stack with
  | [] => ([], unvisited)
  | point :: stack =>
    let (members, rest) := component
      ((linkedTo linked point unvisited).reverse ++ stack) (notLinkedTo linked point unvisited)
    (point :: members, rest)
termination_by stack.length + unvisited.length
decreasing_by
  have split := length_linkedTo_add linked point unvisited
  simp only [List.length_append, List.length_reverse, List.length_cons]
  omega

theorem component_rest_length (stack unvisited : List Point) :
    (component linked stack unvisited).2.length ≤ unvisited.length := by
  fun_induction component linked stack unvisited with
  | case1 unvisited => exact Nat.le_refl _
  | case2 unvisited point stack members rest equation induction =>
    simp only [equation] at induction
    exact induction.trans (List.length_filter_le ..)

/-- `_cluster_by_proximity`. -/
def clusterByProximity : List Point → List (List Point)
  | [] => []
  | start :: points =>
    (component linked [start] points).1 :: clusterByProximity (component linked [start] points).2
termination_by points => points.length
decreasing_by
  have shorter := component_rest_length linked [start] points
  simp only [List.length_cons]
  omega

end Clusters

namespace CrowdGatheringRule

variable (rule : CrowdGatheringRule Body)

/-- `find_crowd_clusters`: the member ids of each cluster. -/
def findCrowdClusters (tracks : List (TrackState Body)) (frameTsMs : Nat) : List (List Int) :=
  let points := (presentTracks tracks frameTsMs rule.params.maxTrackAgeMs).filterMap fun track =>
    match track.observations.getLast? with
    | none => none
    | some current =>
      if rule.params.requireInZone && rule.zone.hasPolygon && !rule.zone.inside current.body
      then none
      else some (track.trackId, current.body)
  (clusterByProximity (fun first second => rule.params.linked first.2 second.2) points).map
    fun cluster => cluster.map Prod.fst

def matchCluster (members : List Int) (alreadyMatched : List Nat) : Option Nat :=
  (rule.clusters.entries.foldl
    (fun (best : Option Nat × Nat) entry =>
      if alreadyMatched.contains entry.1 then best
      else
        let overlap := (members.filter entry.2.members.contains).length
        if best.2 < overlap then (some entry.1, overlap) else best)
    (none, 0)).1

def nextState (frameTsMs : Nat) (members : List Int) (state : ClusterState) : ClusterState :=
  let count : Int := members.length
  if !state.isCrowd && rule.params.minPersonCount ≤ count then ⟨members, true, frameTsMs⟩
  else if state.isCrowd && count ≤ rule.params.exitPersonCount then ⟨members, false, frameTsMs⟩
  else { state with members }

/-- The cluster that continues in these members, or a new one, with the next free id. -/
def continued (frameTsMs : Nat) (members : List Int) (matched : List Nat) :
    Nat × ClusterState × Nat :=
  match rule.matchCluster members matched with
  | some clusterId =>
    (clusterId, (rule.clusters.get clusterId).getD ⟨[], false, frameTsMs⟩, rule.nextClusterId)
  | none => (rule.nextClusterId, ⟨[], false, frameTsMs⟩, rule.nextClusterId + 1)

def clusterStep (frameTsMs : Nat) (cameraId : String)
    (state : CrowdGatheringRule Body × List Nat) (members : List Int) :
    (CrowdGatheringRule Body × List Nat) × Option Finding :=
  let (rule, matched) := state
  let (clusterId, known, nextClusterId) := rule.continued frameTsMs members matched
  let cluster := rule.nextState frameTsMs members known
  let next :=
    { rule with clusters := rule.clusters.set clusterId cluster, nextClusterId }
  if cluster.isCrowd &&
      decide (rule.params.minDurationMs ≤ (frameTsMs : Int) - cluster.sinceTs) then
    ((next, clusterId :: matched), some
      { key := s!"{cameraId}:crowd_gathering:{rule.zone.name}"
        cooldownS := rule.params.cooldownS
        event :=
          { eventType := .crowdGathering
            cameraId
            trackId := 0
            startTsMs := cluster.sinceTs
            endTsMs := frameTsMs
            zone := rule.zone.name
            ruleName := rule.config.name
            memberTrackIds := members.insertionSort (· ≤ ·) } })
  else ((next, clusterId :: matched), none)

def forgetUnmatched (matched : List Nat) : CrowdGatheringRule Body :=
  { rule with clusters := rule.clusters.keep fun entry => matched.contains entry.1 }

def frameTime (tracks : List (TrackState Body)) (frameTsMs : Nat) : Nat :=
  if frameTsMs = 0 then newestSeen tracks else frameTsMs

def evaluateFrame (cooldown : CooldownTracker) (tracks : List (TrackState Body))
    (frameTsMs : Nat) : CrowdGatheringRule Body × CooldownTracker × List SecurityEvent :=
  if tracks.isEmpty then ({ rule with clusters := ∅ }, cooldown, [])
  else if !rule.config.enabled then (rule, cooldown, [])
  else
    let frameTsMs := frameTime tracks frameTsMs
    let ((rule, matched), cooldown, events) :=
      reportEach (clusterStep frameTsMs (frameCameraId tracks)) (rule, []) cooldown
        (rule.findCrowdClusters tracks frameTsMs)
    (rule.forgetUnmatched matched, cooldown, events)

end CrowdGatheringRule

/-! ## Chasing -/

/-- `fastEnough` compares one speed with its limits; `chase` compares two
kinematics and tells, for a chase, whether the right one leads. -/
structure ChasingConfig (Body : Type) where
  velocityWindowMs : Int := 700
  minPairDurationMs : Int := 1500
  cooldownS : Int := 30
  maxTrackAgeMs : Int := 1000
  pairGapToleranceMs : Int := 500
  fastEnough : Kinematics Body → Bool
  chase : Kinematics Body → Kinematics Body → Option Bool

structure ChasePair where
  leaderTrackId : Int
  followerTrackId : Int

structure ChasingRule (Body : Type) where
  config : RuleConfig
  zone : ZoneConfig Body
  params : ChasingConfig Body
  pairSince : Dict (Int × Int) Nat := ∅
  pairMissingSince : Dict (Int × Int) Nat := ∅

def pairKey (first second : Int) : Int × Int :=
  if first ≤ second then (first, second) else (second, first)

namespace ChasingRule

def pairsFrom (rule : ChasingRule Body) : List (Kinematics Body) → List ChasePair
  | [] => []
  | left :: rest =>
    (rest.filterMap fun right =>
      (rule.params.chase left right).map fun rightLeads =>
        if rightLeads then ⟨right.trackId, left.trackId⟩ else ⟨left.trackId, right.trackId⟩) ++
      pairsFrom rule rest

def detectChasePairs (rule : ChasingRule Body) (tracks : List (TrackState Body)) :
    List ChasePair :=
  rule.pairsFrom (tracks.filterMap fun track =>
    (trackKinematics track rule.params.velocityWindowMs).filter rule.params.fastEnough)

def presentPairTracks (rule : ChasingRule Body) (tracks : List (TrackState Body))
    (frameTsMs : Nat) : List (TrackState Body) :=
  if rule.params.maxTrackAgeMs ≤ 0 || frameTsMs = 0 then tracks
  else presentTracks tracks frameTsMs rule.params.maxTrackAgeMs

def zoneTracks (rule : ChasingRule Body) (tracks : List (TrackState Body)) :
    List (TrackState Body) :=
  if rule.zone.hasPolygon then
    tracks.filter fun track =>
      match track.observations.getLast? with
      | none => false
      | some current => rule.zone.inside current.body
  else tracks

/-- A pair keeps its start unless it was missing for longer than the tolerance. -/
def pairStart (rule : ChasingRule Body) (frameTsMs : Nat) (key : Int × Int) : Nat :=
  let lapsed := match rule.pairMissingSince.get key with
    | none => false
    | some missingSince =>
      decide (rule.params.pairGapToleranceMs < (frameTsMs : Int) - missingSince)
  match rule.pairSince.get key with
  | none => frameTsMs
  | some since => if lapsed then frameTsMs else since

def pairStep (frameTsMs : Nat) (cameraId : String) (rule : ChasingRule Body) (pair : ChasePair) :
    ChasingRule Body × Option Finding :=
  let key := pairKey pair.leaderTrackId pair.followerTrackId
  let started := rule.pairStart frameTsMs key
  let next :=
    { rule with
      pairSince := rule.pairSince.set key started
      pairMissingSince := rule.pairMissingSince.erase key }
  if (frameTsMs : Int) - started < rule.params.minPairDurationMs then (next, none)
  else (next, some
    { key := s!"{cameraId}:chasing:{rule.zone.name}:{key.1}:{key.2}"
      cooldownS := rule.params.cooldownS
      event :=
        { eventType := .chasing
          cameraId
          trackId := pair.followerTrackId
          startTsMs := started
          endTsMs := frameTsMs
          zone := rule.zone.name
          ruleName := rule.config.name
          memberTrackIds := [key.1, key.2] } })

/-- The pairs that were not seen in this frame are remembered for a while. -/
def missPair (frameTsMs : Nat) (active : List (Int × Int)) (rule : ChasingRule Body)
    (key : Int × Int) : ChasingRule Body :=
  if active.contains key then rule
  else
    let missingSince := (rule.pairMissingSince.get key).getD frameTsMs
    if rule.params.pairGapToleranceMs < (frameTsMs : Int) - missingSince then
      { rule with
        pairSince := rule.pairSince.erase key
        pairMissingSince := rule.pairMissingSince.erase key }
    else { rule with pairMissingSince := rule.pairMissingSince.set key missingSince }

def evaluateFrame (rule : ChasingRule Body) (cooldown : CooldownTracker)
    (tracks : List (TrackState Body)) (frameTsMs : Nat) :
    ChasingRule Body × CooldownTracker × List SecurityEvent :=
  if tracks.isEmpty then ({ rule with pairSince := ∅, pairMissingSince := ∅ }, cooldown, [])
  else if !rule.config.enabled then (rule, cooldown, [])
  else
    let frameTsMs := CrowdGatheringRule.frameTime tracks frameTsMs
    let zoneTracks := rule.zoneTracks (rule.presentPairTracks tracks frameTsMs)
    let pairs := rule.detectChasePairs zoneTracks
    let cameraId := frameCameraId (if zoneTracks.isEmpty then tracks else zoneTracks)
    let active := pairs.map fun pair => pairKey pair.leaderTrackId pair.followerTrackId
    let (rule, cooldown, events) :=
      reportEach (pairStep frameTsMs cameraId) rule cooldown pairs
    (rule.pairSince.keys.foldl (missPair frameTsMs active) rule, cooldown, events)

end ChasingRule

inductive FrameRule (Body : Type)
  | crowdGathering (rule : CrowdGatheringRule Body)
  | chasing (rule : ChasingRule Body)

namespace FrameRule

def evaluateFrame (cooldown : CooldownTracker) (tracks : List (TrackState Body))
    (frameTsMs : Nat) : FrameRule Body → FrameRule Body × CooldownTracker × List SecurityEvent
  | .crowdGathering rule =>
    let (rule, outcome) := rule.evaluateFrame cooldown tracks frameTsMs
    (.crowdGathering rule, outcome)
  | .chasing rule =>
    let (rule, outcome) := rule.evaluateFrame cooldown tracks frameTsMs
    (.chasing rule, outcome)

end FrameRule

end VideoAnalysis.Behavior
