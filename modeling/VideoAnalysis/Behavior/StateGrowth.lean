import VideoAnalysis.Behavior.StateSize
import VideoAnalysis.Behavior.StepBack

/-! # How the per-track state grows

The store, the pairs and the face throttle stay within a bound. The cooldown,
the person throttle and the starts of running tracks are never pruned: they grow
with the persons that the run has shown.
-/

namespace VideoAnalysis.Behavior

open VideoAnalysis.Foundation

variable {Body : Type}

/-! ## The process -/

/-- A frame with the faces that the gate has let through. -/
structure MonitoredFrame (Body : Type) where
  frame : Frame Body
  faceTimeMs : Nat
  faces : List Face

structure ModuleState (Body : Type) where
  camera : CameraState Body
  personThrottle : PersonObservationThrottleMap
  exportThrottle : ReIDThrottleMap

structure ModuleConfig (Body : Type) where
  camera : CameraEntry Body
  sourceId : String
  personIntervalMs : Nat := 1000
  exportIntervalMs : Int := 1000
  exportTtlMs : Int := 60000

namespace ModuleConfig

def start (config : ModuleConfig Body) : ModuleState Body where
  camera := config.camera.start
  personThrottle := { minIntervalMs := config.personIntervalMs }
  exportThrottle := .create config.exportIntervalMs config.exportTtlMs

def processFrame (config : ModuleConfig Body) (state : ModuleState Body)
    (monitored : MonitoredFrame Body) : ModuleState Body where
  camera := (state.camera.processFrame monitored.frame).1
  personThrottle :=
    state.personThrottle.exportPersons 0
      (monitored.frame.observations state.camera.runtime.cameraId)
  exportThrottle :=
    monitored.faces.foldl
      (ReIDThrottleMap.exportFace config.camera.cameraId config.sourceId monitored.faceTimeMs)
      state.exportThrottle

def advance (config : ModuleConfig Body) (frames : List (MonitoredFrame Body)) :
    ModuleState Body :=
  frames.foldl config.processFrame config.start

end ModuleConfig

namespace FrameRule

def pairEntries : FrameRule Body → Nat
  | .chasing rule => rule.pairSince.size + rule.pairMissingSince.size
  | .crowdGathering _ => 0

def pairGapMs : FrameRule Body → Int
  | .chasing rule => rule.params.pairGapToleranceMs
  | .crowdGathering _ => 0

end FrameRule

def ModuleState.entries (state : ModuleState Body) : Nat :=
  state.camera.runtime.store.tracks.size + state.camera.cooldown.size +
    (state.camera.runtime.singleTrackRules.map (·.since.size)).sum +
    (state.camera.runtime.frameRules.map FrameRule.pairEntries).sum +
    state.personThrottle.lastExported.size +
    (state.exportThrottle.trackedCount + state.exportThrottle.lastPruneMs.size)

def MonitoredFrame.trackIds (monitored : MonitoredFrame Body) : Finset Int :=
  ((monitored.frame.persons.map Person.trackId).filter isValidTrackId ++
    (monitored.faces.map Face.trackId).filter (0 < ·)).toFinset

/-- Times increase, and no frame has more than `k` track ids. -/
structure Regime (k : Nat) (frames : List (MonitoredFrame Body)) : Prop where
  increasing : frames.Pairwise fun first second =>
    first.frame.timestampMs < second.frame.timestampMs
  faceTimes : frames.Pairwise fun first second => first.faceTimeMs < second.faceTimeMs
  few : ∀ monitored ∈ frames, monitored.trackIds.card ≤ k

theorem few_at_time {k : Nat} {frames : List (MonitoredFrame Body)}
    {time : MonitoredFrame Body → Nat}
    (increasing : frames.Pairwise fun first second => time first < time second)
    (few : ∀ monitored ∈ frames, monitored.trackIds.card ≤ k) (moment : Nat) :
    ∃ trackIds : Finset Int, trackIds.card ≤ k ∧ ∀ monitored ∈ frames,
      time monitored = moment → monitored.trackIds ⊆ trackIds := by
  by_cases exists_frame : ∃ monitored ∈ frames, time monitored = moment
  · rcases exists_frame with ⟨monitored, member, _⟩
    refine ⟨monitored.trackIds, few monitored member, ?_⟩
    intro other inFrames sameMoment
    have same : other = monitored := by
      rcases List.append_of_mem member with ⟨_, _, split⟩
      rw [split] at increasing inFrames
      rcases List.pairwise_append.mp increasing with ⟨_, after, cross⟩
      rcases List.mem_append.mp inFrames with earlier | later
      · have early := cross other earlier monitored List.mem_cons_self
        omega
      · rcases List.mem_cons.mp later with same | inRest
        · exact same
        · have late := (List.pairwise_cons.mp after).1 other inRest
          omega
    rw [same]
  · refine ⟨∅, Nat.zero_le _, ?_⟩
    intro monitored member isMoment
    exact absurd ⟨monitored, member, isMoment⟩ exists_frame

theorem ModuleConfig.advance_concat (config : ModuleConfig Body)
    (frames : List (MonitoredFrame Body)) (monitored : MonitoredFrame Body) :
    config.advance (frames ++ [monitored]) =
      config.processFrame (config.advance frames) monitored := by
  simp [advance]

theorem ModuleConfig.advance_camera (config : ModuleConfig Body)
    (frames : List (MonitoredFrame Body)) :
    (config.advance frames).camera =
      config.camera.start.advance (frames.map MonitoredFrame.frame) := by
  induction frames using List.reverseRecOn with
  | nil => rfl
  | append_singleton _ _ induction =>
    rw [advance_concat, List.map_append, List.map_singleton, CameraState.advance_concat,
      ← induction]
    rfl

/-! ## What a run shows -/

def personKeys (cameraId : String) (frames : List (Frame Body)) : List String :=
  frames.flatMap fun frame => personThrottleKeys 0 (frame.observations cameraId)

/-- The keys under which the persons of a run are throttled, each counted once. -/
def personCount (cameraId : String) (frames : List (Frame Body)) : Nat :=
  (personKeys cameraId frames).toFinset.card

def shownTracks (frames : List (Frame Body)) : Finset Int :=
  (frames.flatMap fun frame =>
    (frame.persons.map Person.trackId).filter isValidTrackId).toFinset

theorem mem_shownTracks {frames : List (Frame Body)} {trackId : Int} :
    trackId ∈ shownTracks frames ↔ SeenIn frames trackId := by
  simp only [shownTracks, List.mem_toFinset, List.mem_flatMap, List.mem_filter, List.mem_map,
    SeenIn, Frame.Shows]
  constructor
  · rintro ⟨frame, member, ⟨person, inPersons, isTrack⟩, valid⟩
    exact ⟨frame, member, valid, person, inPersons, isTrack⟩
  · rintro ⟨frame, member, valid, person, inPersons, isTrack⟩
    exact ⟨frame, member, ⟨person, inPersons, isTrack⟩, valid⟩

theorem mem_personThrottleKeys (index : Nat) {observations : List (Observation Body)}
    {observation : Observation Body} (member : observation ∈ observations)
    (valid : isValidTrackId observation.trackId = true) :
    observation.cameraId ++ ":" ++ toString observation.trackId ∈
      personThrottleKeys index observations := by
  induction observations generalizing index with
  | nil => cases member
  | cons _ _ induction =>
    rw [personThrottleKeys]
    rcases List.mem_cons.mp member with rfl | inRest
    · rw [personThrottleKey, if_pos valid]
      exact List.mem_cons_self
    · exact List.mem_cons_of_mem _ (induction (index + 1) inRest)

theorem card_shownTracks_le (cameraId : String) (frames : List (Frame Body)) :
    (shownTracks frames).card ≤ personCount cameraId frames := by
  have injective : Function.Injective fun trackId : Int =>
      cameraId ++ ":" ++ toString trackId := by
    intro first second same
    exact intText_inj ((String.append_right_inj _).mp same)
  rw [← Finset.card_image_of_injective _ injective]
  apply Finset.card_le_card
  intro key member
  rcases Finset.mem_image.mp member with ⟨_, seen, rfl⟩
  rcases mem_shownTracks.mp seen with ⟨frame, inFrames, valid, _, inPersons, rfl⟩
  rw [List.mem_toFinset, personKeys, List.mem_flatMap]
  refine ⟨frame, inFrames, ?_⟩
  exact mem_personThrottleKeys 0 (List.mem_map_of_mem inPersons) valid

/-! ## Cooldown keys -/

def Finding.About (trackIds : Finset Int) (finding : Finding) : Prop :=
  (finding.event.eventType.isSingleTrack = true → finding.event.trackId ∈ trackIds) ∧
    (finding.event.eventType = .chasing →
      ∀ trackId ∈ finding.event.memberTrackIds, trackId ∈ trackIds)

def RuleFace.keyOn (face : RuleFace) (cameraId : String) (tracks : Int × Int) : String :=
  SecurityEvent.cooldownKey
    { eventType := face.eventType
      cameraId
      trackId := tracks.1
      startTsMs := 0
      endTsMs := 0
      zone := face.zone
      ruleName := face.name
      memberTrackIds := [tracks.1, tracks.2] }

theorem RuleFace.Makes.key_mem {face : RuleFace} {cameraId : String} {timeMs : Nat}
    {finding : Finding} {trackIds : Finset Int} (makes : face.Makes cameraId timeMs finding)
    (about : finding.About trackIds) :
    finding.key ∈ (insert 0 trackIds ×ˢ insert 0 trackIds).image (face.keyOn cameraId) := by
  rw [Finset.mem_image, makes.key]
  cases kind : face.eventType with
  | crowdGathering =>
    refine ⟨(0, 0), by simp, ?_⟩
    simp only [keyOn, SecurityEvent.cooldownKey, kind, makes.eventType, makes.cameraId, makes.zone]
  | chasing =>
    have isChase := makes.eventType.trans kind
    rcases makes.shaped isChase with ⟨first, second, members⟩
    have known := about.2 isChase
    rw [members, List.forall_mem_cons, List.forall_mem_singleton] at known
    refine ⟨(first, second), by simp [known], ?_⟩
    simp only [keyOn, SecurityEvent.cooldownKey, kind, isChase, members, makes.cameraId, makes.zone]
  | intrusion | loitering | running | fall =>
    have isSingle := makes.eventType.trans kind
    refine ⟨(finding.event.trackId, finding.event.trackId), ?_, ?_⟩
    · have known := about.1 (by rw [isSingle]; rfl)
      simp [known]
    · simp only [keyOn, SecurityEvent.cooldownKey, kind, isSingle, makes.cameraId, makes.zone]

/-! ## Only shown tracks -/

/-- The runtime has these rules and knows no other tracks. -/
structure SourceRuntime.Among (cameraId : String) (faces : List RuleFace)
    (trackIds : Finset Int) (runtime : SourceRuntime Body) : Prop where
  camera : runtime.cameraId = cameraId
  faces : runtime.singleTrackFaces ++ runtime.frameFaces = faces
  wellFormed : runtime.store.WellFormed runtime.cameraId
  stored : ∀ trackId track, runtime.store.tracks.get trackId = some track → trackId ∈ trackIds
  rules : ∀ rule ∈ runtime.singleTrackRules, rule.Knows runtime.cameraId trackIds

namespace SourceRuntime

variable {cameraId : String} {faces : List RuleFace} {trackIds : Finset Int}
  {runtime : SourceRuntime Body} {frame : Frame Body}

section

variable (among : runtime.Among cameraId faces trackIds)
  (shown : ∀ trackId, frame.Shows trackId → trackId ∈ trackIds)

include among shown

theorem Among.storeAt :
    ∀ trackId track, (runtime.storeAt frame).tracks.get trackId = some track →
      trackId ∈ trackIds := by
  intro trackId track found
  have spec := (storeAt_get among.wellFormed found).2
  by_cases shows : frame.Shows trackId
  · exact shown trackId shows
  · rw [if_neg shows] at spec
    exact among.stored trackId track spec

/-- The step lemma: a frame that shows no other tracks. -/
theorem Among.observe :
    (runtime.observe frame).1.Among cameraId faces trackIds := by
  have stored := among.storeAt shown
  have wellFormed := storeAt_wellFormed among.wellFormed frame
  refine ⟨among.camera, ?_, wellFormed, stored, ?_⟩
  · rw [observe_singleTrackFaces among.wellFormed, observe_frameFaces among.wellFormed]
    exact among.faces
  · intro rule member
    simp only [SourceRuntime.observe, observeTracks_rules, List.mem_map] at member
    rcases member with ⟨before, inRules, rfl⟩
    exact (among.rules before inRules).lookAt wellFormed.activeTracks fun track inTracks =>
      stored _ track (wellFormed.get_of_mem inTracks)

theorem Among.findings_of_frame {finding : Finding}
    (member : finding ∈ (runtime.observe frame).2) :
    ∃ face ∈ faces, (∃ timeMs, face.Makes cameraId timeMs finding) ∧
      finding.About trackIds := by
  have stored := among.storeAt shown
  have wellFormed := storeAt_wellFormed among.wellFormed frame
  rcases makes_of_mem among.wellFormed member with ⟨face, inFaces, timeMs, makes⟩
  rw [among.faces] at inFaces
  refine ⟨face, inFaces, ⟨timeMs, among.camera ▸ makes⟩, ?_, ?_⟩
  · intro single
    rcases SourceRuntime.findings_of_frame among.wellFormed member with onTrack | inFrame
    · rcases onTrack.makes with ⟨_, _, _, track, found, _⟩
      exact stored _ track found
    · rcases inFrame with ⟨_, _, notSingle, made⟩
      rw [made.eventType, notSingle] at single
      cases single
  · intro isChase trackId inMembers
    simp only [SourceRuntime.observe, List.mem_append] at member
    rcases member with onTrack | inFrame
    · rcases (findsOn_of_mem among.wellFormed onTrack).makes with ⟨_, _, single, _, _, made⟩
      rw [← made.eventType, isChase] at single
      cases single
    · simp only [observeFrameRules, List.mem_flatMap] at inFrame
      rcases inFrame with ⟨rule, _, inRule⟩
      cases rule with
      | crowdGathering rule =>
        have made := (FrameRule.observeFrame_spec wellFormed.activeTracks _
          (.crowdGathering rule)).2 finding inRule
        rw [made.eventType] at isChase
        cases isChase
      | chasing =>
        rcases List.mem_map.mp (ChasingRule.members_of_finding inRule trackId inMembers) with
          ⟨track, inTracks, rfl⟩
        exact stored _ track (wellFormed.get_of_mem inTracks)

end

/-- The run lemma. -/
theorem Among.findings (among : runtime.Among cameraId faces trackIds)
    {frames : List (Frame Body)} (shown : ∀ trackId, SeenIn frames trackId → trackId ∈ trackIds)
    {finding : Finding} (member : finding ∈ runtime.findings frames) :
    ∃ face ∈ faces, (∃ timeMs, face.Makes cameraId timeMs finding) ∧
      finding.About trackIds := by
  induction frames generalizing runtime with
  | nil => cases member
  | cons frame _ induction =>
    have inFrame : ∀ trackId, frame.Shows trackId → trackId ∈ trackIds := fun trackId shows =>
      shown trackId ⟨frame, List.mem_cons_self, shows⟩
    rw [SourceRuntime.findings, List.mem_append] at member
    rcases member with now | later
    · exact among.findings_of_frame inFrame now
    · apply induction (among.observe inFrame) _ later
      rintro trackId ⟨other, inRest, shows⟩
      exact shown trackId ⟨other, List.mem_cons_of_mem _ inRest, shows⟩

end SourceRuntime

theorem CameraState.advance_among {cameraId : String} {faces : List RuleFace}
    {trackIds : Finset Int} {state : CameraState Body}
    (among : state.runtime.Among cameraId faces trackIds) {frames : List (Frame Body)}
    (shown : ∀ trackId, SeenIn frames trackId → trackId ∈ trackIds) :
    (state.advance frames).runtime.Among cameraId faces trackIds := by
  induction frames using List.reverseRecOn with
  | nil => exact among
  | append_singleton _ frame induction =>
    rw [advance_concat, processFrame_runtime]
    apply SourceRuntime.Among.observe
    · apply induction
      rintro trackId ⟨other, member, shows⟩
      exact shown trackId ⟨other, List.mem_append_left _ member, shows⟩
    · intro trackId shows
      exact shown trackId ⟨frame, by simp, shows⟩

namespace CameraEntry

variable (camera : CameraEntry Body)

def faces : List RuleFace := camera.build.singleTrackFaces ++ camera.build.frameFaces

theorem build_among (trackIds : Finset Int) :
    camera.build.Among camera.cameraId camera.faces trackIds := by
  refine ⟨rfl, rfl, camera.build_wellFormed, ?_, ?_⟩
  · intro trackId track found
    exact absurd found (by simp [build])
  · intro rule member
    rcases List.mem_filterMap.mp member with ⟨entry, _, isRule⟩
    have fresh : rule.since = ∅ := by
      cases entry with
      | intrusion | loitering | running | fall =>
        rw [← Option.some.inj isRule]
        rfl
      | crowdGathering | chasing =>
        exact absurd isRule (by simp [RuleEntry.singleTrackRule])
    refine ⟨fresh ▸ Dict.distinct_empty, ?_⟩
    intro key started found
    rw [fresh] at found
    exact absurd found (by simp)

theorem findingKeys_le (frames : List (Frame Body)) :
    ((camera.findings frames).map Finding.key).toFinset.card ≤
      camera.faces.length * ((shownTracks frames).card + 1) ^ 2 := by
  let keysOf (face : RuleFace) : Finset String :=
    (insert 0 (shownTracks frames) ×ˢ insert 0 (shownTracks frames)).image
      (face.keyOn camera.cameraId)
  have few : ∀ face, (keysOf face).card ≤ ((shownTracks frames).card + 1) ^ 2 := by
    intro face
    apply Finset.card_image_le.trans
    have oneMore := Finset.card_insert_le 0 (shownTracks frames)
    rw [Finset.card_product, sq]
    exact Nat.mul_le_mul oneMore oneMore
  have within : ((camera.findings frames).map Finding.key).toFinset ⊆
      (camera.faces.flatMap fun face => (keysOf face).toList).toFinset := by
    intro key member
    rw [List.mem_toFinset, List.mem_map] at member
    rcases member with ⟨_, found, rfl⟩
    rcases (camera.build_among _).findings (fun _ => mem_shownTracks.mpr) found with
      ⟨face, inFaces, ⟨_, makes⟩, about⟩
    rw [List.mem_toFinset, List.mem_flatMap]
    exact ⟨face, inFaces, Finset.mem_toList.mpr (makes.key_mem about)⟩
  apply (Finset.card_le_card within).trans
  apply (List.toFinset_card_le _).trans
  rw [List.length_flatMap]
  induction camera.faces with
  | nil => simp
  | cons face =>
    have first := few face
    rw [List.map_cons, List.sum_cons, List.length_cons, Nat.succ_mul, Finset.length_toList]
    omega

end CameraEntry

end VideoAnalysis.Behavior
