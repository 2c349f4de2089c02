import VideoAnalysis.Behavior.Runtime
import VideoAnalysis.Foundation.RateLimit

/-! # Findings and the cooldown

What a rule finds depends on the frames alone; the cooldown only decides which
findings go out as events. A run is therefore one list of findings that passes
one rate limit.
-/

namespace VideoAnalysis.Behavior

open VideoAnalysis.Foundation

variable {Body : Type}

def cooldownLimit : RateLimit Finding String where
  slot finding := finding.key
  time finding := finding.event.endTsMs
  hold finding := finding.cooldownS * 1000

/-! ## The cooldown as a rate limit -/

def CooldownTracker.reportAll (cooldown : CooldownTracker) :
    List Finding → CooldownTracker × List SecurityEvent
  | [] => (cooldown, [])
  | finding :: rest =>
    let (cooldown, event) := cooldown.report finding
    let (cooldown, events) := cooldown.reportAll rest
    (cooldown, event.toList ++ events)

namespace CooldownTracker

variable (cooldown : CooldownTracker) (finding : Finding)

theorem canEmit_eq_free :
    cooldown.canEmit finding.key finding.event.endTsMs =
      cooldownLimit.free cooldown.get finding := by
  unfold canEmit RateLimit.free cooldownLimit
  cases cooldown.get finding.key <;> rfl

theorem recordEmit_get :
    (cooldown.recordEmit finding.key finding.cooldownS finding.event.endTsMs).get =
      cooldownLimit.reserve cooldown.get finding := by
  funext key
  simp only [recordEmit, Dict.get_set, RateLimit.reserve, cooldownLimit, Function.update_apply]

theorem report_get :
    (cooldown.report finding).1.get = cooldownLimit.after cooldown.get [finding] := by
  simp only [report, canEmit_eq_free, RateLimit.after]
  split
  · exact recordEmit_get cooldown finding
  · rfl

theorem report_event :
    (cooldown.report finding).2.toList =
      (cooldownLimit.passed cooldown.get [finding]).map Finding.event := by
  simp only [report, canEmit_eq_free, RateLimit.passed]
  split <;> rfl

theorem reportAll_get (findings : List Finding) :
    (cooldown.reportAll findings).1.get = cooldownLimit.after cooldown.get findings := by
  induction findings generalizing cooldown with
  | nil => rfl
  | cons finding rest induction =>
    simp only [reportAll, induction, report_get]
    exact (cooldownLimit.after_append cooldown.get [finding] rest).symm

theorem reportAll_events (findings : List Finding) :
    (cooldown.reportAll findings).2 =
      (cooldownLimit.passed cooldown.get findings).map Finding.event := by
  induction findings generalizing cooldown with
  | nil => rfl
  | cons finding rest induction =>
    simp only [reportAll, induction, report_get, report_event]
    rw [← List.map_append]
    exact congrArg (List.map Finding.event)
      (cooldownLimit.passed_append cooldown.get [finding] rest).symm

theorem reportAll_append (first second : List Finding) :
    cooldown.reportAll (first ++ second) =
      (((cooldown.reportAll first).1.reportAll second).1,
        (cooldown.reportAll first).2 ++ ((cooldown.reportAll first).1.reportAll second).2) := by
  induction first generalizing cooldown with
  | nil => rfl
  | cons _ _ induction =>
    simp only [List.cons_append, reportAll, induction, List.append_assoc]

end CooldownTracker

/-! ## Rules without the cooldown -/

def collectEach {State Item : Type} (step : State → Item → State × Option Finding)
    (state : State) : List Item → State × List Finding
  | [] => (state, [])
  | item :: rest =>
    let (next, finding) := step state item
    let (final, findings) := collectEach step next rest
    (final, finding.toList ++ findings)

theorem reportEach_eq {State Item : Type} (step : State → Item → State × Option Finding)
    (state : State) (cooldown : CooldownTracker) (items : List Item) :
    reportEach step state cooldown items =
      ((collectEach step state items).1,
        cooldown.reportAll (collectEach step state items).2) := by
  induction items generalizing state cooldown with
  | nil => rfl
  | cons item _ induction =>
    rcases stepped : step state item with ⟨_, finding⟩
    cases finding with
    | none => simp only [reportEach, collectEach, stepped, induction, Option.toList_none,
        List.nil_append]
    | some =>
      simp only [reportEach, collectEach, stepped, induction, Option.toList_some,
        List.singleton_append, CooldownTracker.reportAll]

theorem SingleTrackRule.evaluate_eq (rule : SingleTrackRule Body) (cooldown : CooldownTracker)
    (track : TrackState Body) :
    rule.evaluate cooldown track =
      ((rule.observe track).1,
        (cooldown.reportAll (rule.observe track).2.toList).1,
        (rule.evaluate cooldown track).2.2) ∧
      (rule.evaluate cooldown track).2.2.toList =
        (cooldown.reportAll (rule.observe track).2.toList).2 := by
  rcases observed : rule.observe track with ⟨_, finding⟩
  cases finding with
  | none | some => simp [evaluate, observed, CooldownTracker.reportAll]

def CrowdGatheringRule.observeFrame (rule : CrowdGatheringRule Body)
    (tracks : List (TrackState Body)) (frameTsMs : Nat) :
    CrowdGatheringRule Body × List Finding :=
  if tracks.isEmpty then ({ rule with clusters := ∅ }, [])
  else if !rule.config.enabled then (rule, [])
  else
    let frameTsMs := frameTime tracks frameTsMs
    let ((rule, matched), findings) :=
      collectEach (clusterStep frameTsMs (frameCameraId tracks)) (rule, [])
        (rule.findCrowdClusters tracks frameTsMs)
    (rule.forgetUnmatched matched, findings)

def ChasingRule.observeFrame (rule : ChasingRule Body) (tracks : List (TrackState Body))
    (frameTsMs : Nat) : ChasingRule Body × List Finding :=
  if tracks.isEmpty then ({ rule with pairSince := ∅, pairMissingSince := ∅ }, [])
  else if !rule.config.enabled then (rule, [])
  else
    let frameTsMs := CrowdGatheringRule.frameTime tracks frameTsMs
    let zoneTracks := rule.zoneTracks (rule.presentPairTracks tracks frameTsMs)
    let pairs := rule.detectChasePairs zoneTracks
    let cameraId := frameCameraId (if zoneTracks.isEmpty then tracks else zoneTracks)
    let active := pairs.map fun pair => pairKey pair.leaderTrackId pair.followerTrackId
    let (rule, findings) := collectEach (pairStep frameTsMs cameraId) rule pairs
    (rule.pairSince.keys.foldl (missPair frameTsMs active) rule, findings)

def FrameRule.observeFrame (tracks : List (TrackState Body)) (frameTsMs : Nat) :
    FrameRule Body → FrameRule Body × List Finding
  | .crowdGathering rule =>
    (.crowdGathering (rule.observeFrame tracks frameTsMs).1,
      (rule.observeFrame tracks frameTsMs).2)
  | .chasing rule =>
    (.chasing (rule.observeFrame tracks frameTsMs).1, (rule.observeFrame tracks frameTsMs).2)

variable (cooldown : CooldownTracker) (tracks : List (TrackState Body)) (frameTsMs : Nat)

theorem CrowdGatheringRule.evaluateFrame_eq (rule : CrowdGatheringRule Body) :
    rule.evaluateFrame cooldown tracks frameTsMs =
      ((rule.observeFrame tracks frameTsMs).1,
        cooldown.reportAll (rule.observeFrame tracks frameTsMs).2) := by
  unfold evaluateFrame observeFrame
  split
  · rfl
  · split
    · rfl
    · simp only [reportEach_eq]

theorem ChasingRule.evaluateFrame_eq (rule : ChasingRule Body) :
    rule.evaluateFrame cooldown tracks frameTsMs =
      ((rule.observeFrame tracks frameTsMs).1,
        cooldown.reportAll (rule.observeFrame tracks frameTsMs).2) := by
  unfold evaluateFrame observeFrame
  split
  · rfl
  · split
    · rfl
    · simp only [reportEach_eq]

theorem FrameRule.evaluateFrame_eq (rule : FrameRule Body) :
    rule.evaluateFrame cooldown tracks frameTsMs =
      ((rule.observeFrame tracks frameTsMs).1,
        cooldown.reportAll (rule.observeFrame tracks frameTsMs).2) := by
  cases rule with
  | crowdGathering rule | chasing rule =>
    simp only [FrameRule.evaluateFrame, FrameRule.observeFrame, rule.evaluateFrame_eq]

/-! ## Frames without the cooldown -/

def observeTrack (rules : List (SingleTrackRule Body)) (track : TrackState Body) :
    List (SingleTrackRule Body) × List Finding :=
  (rules.map fun rule => (rule.observe track).1,
    rules.flatMap fun rule => (rule.observe track).2.toList)

def observeTracks (rules : List (SingleTrackRule Body)) :
    List (TrackState Body) → List (SingleTrackRule Body) × List Finding
  | [] => (rules, [])
  | track :: tracks =>
    let (rules, findings) := observeTrack rules track
    let (rules, later) := observeTracks rules tracks
    (rules, findings ++ later)

def observeFrameRules (rules : List (FrameRule Body)) (tracks : List (TrackState Body))
    (frameTsMs : Nat) : List (FrameRule Body) × List Finding :=
  (rules.map fun rule => (rule.observeFrame tracks frameTsMs).1,
    rules.flatMap fun rule => (rule.observeFrame tracks frameTsMs).2)

theorem evaluateTrack_eq (rules : List (SingleTrackRule Body)) (cooldown : CooldownTracker)
    (track : TrackState Body) :
    evaluateTrack cooldown track rules =
      ((observeTrack rules track).1, cooldown.reportAll (observeTrack rules track).2) := by
  induction rules generalizing cooldown with
  | nil => rfl
  | cons rule _ induction =>
    have evaluated := rule.evaluate_eq cooldown track
    simp only [observeTrack] at induction
    simp only [evaluateTrack, observeTrack, List.map_cons, List.flatMap_cons,
      CooldownTracker.reportAll_append]
    rw [evaluated.1, induction]
    simp only [evaluated.2]

theorem evaluateTracks_eq (rules : List (SingleTrackRule Body)) (cooldown : CooldownTracker)
    (tracks : List (TrackState Body)) :
    evaluateTracks rules cooldown tracks =
      ((observeTracks rules tracks).1, cooldown.reportAll (observeTracks rules tracks).2) := by
  induction tracks generalizing rules cooldown with
  | nil => rfl
  | cons _ _ induction =>
    simp only [evaluateTracks, observeTracks, evaluateTrack_eq, induction,
      CooldownTracker.reportAll_append]

theorem evaluateFrameRules_eq (rules : List (FrameRule Body)) (cooldown : CooldownTracker)
    (tracks : List (TrackState Body)) (frameTsMs : Nat) :
    evaluateFrameRules cooldown tracks frameTsMs rules =
      ((observeFrameRules rules tracks frameTsMs).1,
        cooldown.reportAll (observeFrameRules rules tracks frameTsMs).2) := by
  induction rules generalizing cooldown with
  | nil => rfl
  | cons rule _ induction =>
    simp only [observeFrameRules] at induction
    simp only [evaluateFrameRules, observeFrameRules, rule.evaluateFrame_eq, induction,
      List.map_cons, List.flatMap_cons, CooldownTracker.reportAll_append]

namespace SourceRuntime

variable (runtime : SourceRuntime Body) (frame : Frame Body)

def storeAt : TrackStateStore Body :=
  runtime.store.update (frame.observations runtime.cameraId)
    (if frame.timestampMs = 0 then none else some frame.timestampMs)

def frameTs : Nat :=
  resolveFrameTs (frame.observations runtime.cameraId)
    (if frame.timestampMs = 0 then none else some frame.timestampMs)
    (runtime.storeAt frame).activeTracks

def observe : SourceRuntime Body × List Finding :=
  let tracks := (runtime.storeAt frame).activeTracks
  ({ runtime with
      singleTrackRules := (observeTracks runtime.singleTrackRules tracks).1
      frameRules := (observeFrameRules runtime.frameRules tracks (runtime.frameTs frame)).1
      store := runtime.storeAt frame },
    (observeTracks runtime.singleTrackRules tracks).2 ++
      (observeFrameRules runtime.frameRules tracks (runtime.frameTs frame)).2)

def findings (runtime : SourceRuntime Body) : List (Frame Body) → List Finding
  | [] => []
  | frame :: frames => (runtime.observe frame).2 ++ (runtime.observe frame).1.findings frames

end SourceRuntime

theorem CameraState.processFrame_eq (state : CameraState Body) (frame : Frame Body) :
    state.processFrame frame =
      ({ runtime := (state.runtime.observe frame).1
         cooldown := (state.cooldown.reportAll (state.runtime.observe frame).2).1 },
        (state.cooldown.reportAll (state.runtime.observe frame).2).2) := by
  simp only [processFrame, evaluateRuntimeFrame, SourceRuntime.observe, evaluateTracks_eq,
    evaluateFrameRules_eq, CooldownTracker.reportAll_append]
  rfl

theorem CameraState.events_eq (state : CameraState Body) (frames : List (Frame Body)) :
    state.events frames =
      (cooldownLimit.passed state.cooldown.get (state.runtime.findings frames)).map
        Finding.event := by
  induction frames generalizing state with
  | nil => rfl
  | cons _ _ induction =>
    simp only [events, SourceRuntime.findings, induction, processFrame_eq,
      CooldownTracker.reportAll_events, CooldownTracker.reportAll_get,
      RateLimit.passed_append, List.map_append]

def CameraEntry.findings (camera : CameraEntry Body) (frames : List (Frame Body)) :
    List Finding := camera.build.findings frames

theorem CameraEntry.events_eq (camera : CameraEntry Body) (frames : List (Frame Body)) :
    camera.events frames =
      (cooldownLimit.passed (fun _ => none) (camera.findings frames)).map Finding.event :=
  CameraState.events_eq camera.start frames

end VideoAnalysis.Behavior
