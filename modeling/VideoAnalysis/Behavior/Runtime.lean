import VideoAnalysis.Behavior.Rules

/-! # The runtime of one camera

Single-track rules run once for each active track, frame rules once for each
frame, all over one track store and one cooldown tracker.
-/

namespace VideoAnalysis.Behavior

open VideoAnalysis.Foundation

variable {Body : Type}

/-! ## Configuration -/

inductive RuleEntry (Body : Type)
  | intrusion (config : RuleConfig) (zone : ZoneConfig Body)
  | loitering (config : RuleConfig) (zone : ZoneConfig Body) (params : LoiteringConfig Body)
  | running (config : RuleConfig) (zone : ZoneConfig Body) (params : RunningConfig Body)
  | fall (config : RuleConfig) (zone : ZoneConfig Body) (params : FallConfig Body)
  | crowdGathering (config : RuleConfig) (zone : ZoneConfig Body) (params : CrowdConfig Body)
  | chasing (config : RuleConfig) (zone : ZoneConfig Body) (params : ChasingConfig Body)

namespace RuleEntry

def config : RuleEntry Body → RuleConfig
  | .intrusion config _ | .loitering config _ _ | .running config _ _ | .fall config _ _
  | .crowdGathering config _ _ | .chasing config _ _ => config

def withConfig (config : RuleConfig) : RuleEntry Body → RuleEntry Body
  | .intrusion _ zone => .intrusion config zone
  | .loitering _ zone params => .loitering config zone params
  | .running _ zone params => .running config zone params
  | .fall _ zone params => .fall config zone params
  | .crowdGathering _ zone params => .crowdGathering config zone params
  | .chasing _ zone params => .chasing config zone params

def disable (entry : RuleEntry Body) : RuleEntry Body :=
  entry.withConfig { entry.config with enabled := false }

def singleTrackRule : RuleEntry Body → Option (SingleTrackRule Body)
  | .intrusion config zone => some (.intrusion { config, zone })
  | .loitering config zone params => some (.loitering { config, zone, params })
  | .running config zone params => some (.running { config, zone, params })
  | .fall config zone params => some (.fall { config, zone, params })
  | .crowdGathering .. | .chasing .. => none

def frameRule : RuleEntry Body → Option (FrameRule Body)
  | .crowdGathering config zone params => some (.crowdGathering { config, zone, params })
  | .chasing config zone params => some (.chasing { config, zone, params })
  | .intrusion .. | .loitering .. | .running .. | .fall .. => none

@[simp] theorem withConfig_config (entry : RuleEntry Body) (config : RuleConfig) :
    (entry.withConfig config).config = config := by
  cases entry <;> rfl

end RuleEntry

/-- A camera with its rules, which are keyed by their names. -/
structure CameraEntry (Body : Type) where
  cameraId : String
  rules : List (RuleEntry Body)
  distinct : (rules.map fun rule => rule.config.name).Nodup

structure SourceRuntime (Body : Type) where
  cameraId : String
  singleTrackRules : List (SingleTrackRule Body)
  frameRules : List (FrameRule Body)
  store : TrackStateStore Body := {}

namespace CameraEntry

def enabledRules (camera : CameraEntry Body) : List (RuleEntry Body) :=
  camera.rules.filter (·.config.enabled)

/-- `build_per_source_runtime` with its default window and timeout. -/
def build (camera : CameraEntry Body) : SourceRuntime Body where
  cameraId := camera.cameraId
  singleTrackRules := camera.enabledRules.filterMap RuleEntry.singleTrackRule
  frameRules := camera.enabledRules.filterMap RuleEntry.frameRule

def only (camera : CameraEntry Body) (name : String) : CameraEntry Body where
  cameraId := camera.cameraId
  rules := camera.rules.map fun rule => if rule.config.name = name then rule else rule.disable
  distinct := by
    have sameNames : (camera.rules.map fun rule =>
        if rule.config.name = name then rule else rule.disable).map (·.config.name) =
        camera.rules.map (·.config.name) := by
      rw [List.map_map]
      apply List.map_congr_left
      intro rule _
      simp only [Function.comp]
      split
      · rfl
      · simp [RuleEntry.disable]
    rw [sameNames]
    exact camera.distinct

end CameraEntry

/-! ## One frame -/

def evaluateTrack (cooldown : CooldownTracker) (track : TrackState Body) :
    List (SingleTrackRule Body) →
      List (SingleTrackRule Body) × CooldownTracker × List SecurityEvent
  | [] => ([], cooldown, [])
  | rule :: rest =>
    let (rule, cooldown, event) := rule.evaluate cooldown track
    let (rest, cooldown, events) := evaluateTrack cooldown track rest
    (rule :: rest, cooldown, event.toList ++ events)

def evaluateTracks (rules : List (SingleTrackRule Body)) (cooldown : CooldownTracker) :
    List (TrackState Body) → List (SingleTrackRule Body) × CooldownTracker × List SecurityEvent
  | [] => (rules, cooldown, [])
  | track :: tracks =>
    let (rules, cooldown, events) := evaluateTrack cooldown track rules
    let (rules, cooldown, later) := evaluateTracks rules cooldown tracks
    (rules, cooldown, events ++ later)

def evaluateFrameRules (cooldown : CooldownTracker) (tracks : List (TrackState Body))
    (frameTsMs : Nat) : List (FrameRule Body) →
      List (FrameRule Body) × CooldownTracker × List SecurityEvent
  | [] => ([], cooldown, [])
  | rule :: rest =>
    let (rule, cooldown, events) := rule.evaluateFrame cooldown tracks frameTsMs
    let (rest, cooldown, later) := evaluateFrameRules cooldown tracks frameTsMs rest
    (rule :: rest, cooldown, events ++ later)

def resolveFrameTs (observations : List (Observation Body)) (frameTsMs : Option Nat)
    (tracks : List (TrackState Body)) : Nat :=
  let resolved := frameTsMs.getD (TrackStateStore.latest observations)
  if resolved = 0 then newestSeen tracks else resolved

def evaluateRuntimeFrame (runtime : SourceRuntime Body) (cooldown : CooldownTracker)
    (observations : List (Observation Body)) (frameTsMs : Option Nat) :
    SourceRuntime Body × CooldownTracker × List SecurityEvent :=
  let store := runtime.store.update observations frameTsMs
  let tracks := store.activeTracks
  let (singleTrackRules, cooldown, events) :=
    evaluateTracks runtime.singleTrackRules cooldown tracks
  let (frameRules, cooldown, later) :=
    evaluateFrameRules cooldown tracks (resolveFrameTs observations frameTsMs tracks)
      runtime.frameRules
  ({ runtime with singleTrackRules, frameRules, store }, cooldown, events ++ later)

/-! ## Runs of frames -/

structure CameraState (Body : Type) where
  runtime : SourceRuntime Body
  cooldown : CooldownTracker := ∅

/-- `_process_frame_impl` up to enrichment: a zero time counts as no time. -/
def CameraState.processFrame (state : CameraState Body) (frame : Frame Body) :
    CameraState Body × List SecurityEvent :=
  let (runtime, cooldown, events) :=
    evaluateRuntimeFrame state.runtime state.cooldown
      (frame.observations state.runtime.cameraId)
      (if frame.timestampMs = 0 then none else some frame.timestampMs)
  ({ runtime, cooldown }, events)

def CameraState.events (state : CameraState Body) : List (Frame Body) → List SecurityEvent
  | [] => []
  | frame :: frames => (state.processFrame frame).2 ++ (state.processFrame frame).1.events frames

def CameraState.advance (state : CameraState Body) (frames : List (Frame Body)) :
    CameraState Body :=
  frames.foldl (fun state frame => (state.processFrame frame).1) state

def CameraEntry.start (camera : CameraEntry Body) : CameraState Body :=
  { runtime := camera.build }

def CameraEntry.events (camera : CameraEntry Body) (frames : List (Frame Body)) :
    List SecurityEvent := camera.start.events frames

def Nondecreasing (frames : List (Frame Body)) : Prop :=
  frames.Pairwise fun first second => first.timestampMs ≤ second.timestampMs

end VideoAnalysis.Behavior
