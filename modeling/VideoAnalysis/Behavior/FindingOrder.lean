import VideoAnalysis.Behavior.TrackInvariant
import VideoAnalysis.Foundation.FieldText

/-! # The order of findings

Each finding carries the identity of its rule and the cooldown key of its event.
In a run whose frames do not step back, findings with one key come in the order
of their times.
-/

namespace VideoAnalysis.Behavior

open VideoAnalysis.Foundation

variable {Body : Type}

/-! ## Cooldown keys -/

def EventType.isSingleTrack : EventType → Bool
  | .intrusion | .loitering | .running | .fall => true
  | .crowdGathering | .chasing => false

variable (event : SecurityEvent)

/-- The cooldown key that the rules compose, read off the event. -/
def SecurityEvent.cooldownKey : String :=
  match event.eventType, event.memberTrackIds with
  | .crowdGathering, _ => s!"{event.cameraId}:crowd_gathering:{event.zone}"
  | .chasing, [first, second] => s!"{event.cameraId}:chasing:{event.zone}:{first}:{second}"
  | _, _ => s!"{event.cameraId}:{event.trackId}:{event.zone}"

def SecurityEvent.keyField : String :=
  match event.eventType with
  | .crowdGathering => "crowd_gathering"
  | .chasing => "chasing"
  | _ => toString event.trackId

def SecurityEvent.keyRest : String :=
  match event.eventType, event.memberTrackIds with
  | .chasing, [first, second] => s!"{event.zone}:{first}:{second}"
  | _, _ => event.zone

def SecurityEvent.Shaped : Prop :=
  event.eventType = .chasing → ∃ first second, event.memberTrackIds = [first, second]

theorem SecurityEvent.keyField_noColon (event : SecurityEvent) : NoColon event.keyField := by
  unfold keyField
  split
  · decide
  · decide
  · exact intText_noColon _

theorem SecurityEvent.cooldownKey_eq {event : SecurityEvent} (shaped : event.Shaped) :
    event.cooldownKey = event.cameraId ++ ":" ++ (event.keyField ++ ":" ++ event.keyRest) := by
  cases kind : event.eventType with
  | chasing =>
    rcases shaped kind with ⟨_, _, members⟩
    have label : ":chasing:" = ":" ++ "chasing" ++ ":" := by decide
    simp only [cooldownKey, keyField, keyRest, kind, members, label, toString,
      String.append_assoc]
  | crowdGathering =>
    have label : ":crowd_gathering:" = ":" ++ "crowd_gathering" ++ ":" := by decide
    simp only [cooldownKey, keyField, keyRest, kind, label, toString, String.append_assoc]
  | intrusion | loitering | running | fall =>
    simp only [cooldownKey, keyField, keyRest, kind, toString, String.append_assoc]

theorem SecurityEvent.key_fields {first second : SecurityEvent} (firstShaped : first.Shaped)
    (secondShaped : second.Shaped) (sameCamera : first.cameraId = second.cameraId)
    (sameKey : first.cooldownKey = second.cooldownKey) :
    first.keyField = second.keyField ∧ first.keyRest = second.keyRest := by
  rw [cooldownKey_eq firstShaped, cooldownKey_eq secondShaped, sameCamera,
    String.append_right_inj] at sameKey
  exact colonField_eq first.keyField_noColon second.keyField_noColon sameKey

theorem SecurityEvent.keyField_single {event : SecurityEvent}
    (single : event.eventType.isSingleTrack = true) :
    event.keyField = toString event.trackId := by
  unfold keyField
  split
  · next kind => rw [kind] at single; exact absurd single (by decide)
  · next kind => rw [kind] at single; exact absurd single (by decide)
  · rfl

/-- Two single-track events with one key are about one track and one zone, and
no other event has their key. -/
theorem SecurityEvent.single_of_key {first second : SecurityEvent} (firstShaped : first.Shaped)
    (secondShaped : second.Shaped) (sameCamera : first.cameraId = second.cameraId)
    (sameKey : first.cooldownKey = second.cooldownKey)
    (single : second.eventType.isSingleTrack = true) :
    first.eventType.isSingleTrack = true ∧ first.trackId = second.trackId := by
  have fields := (key_fields firstShaped secondShaped sameCamera sameKey).1
  rw [keyField_single single] at fields
  cases kind : first.eventType with
  | crowdGathering | chasing =>
    simp only [keyField, kind] at fields
    exact absurd fields.symm (intText_ne 'c' (by decide) (by decide) (by decide))
  | intrusion | loitering | running | fall =>
    simp only [keyField, kind] at fields
    exact ⟨rfl, intText_inj fields⟩

/-! ## What a rule puts into its findings -/

/-- The parts of a rule that never change. -/
structure RuleFace where
  eventType : EventType
  name : String
  zone : String
  cooldownS : Int

structure RuleFace.Makes (face : RuleFace) (cameraId : String) (timeMs : Nat)
    (finding : Finding) : Prop where
  key : finding.key = finding.event.cooldownKey
  cooldownS : finding.cooldownS = face.cooldownS
  eventType : finding.event.eventType = face.eventType
  cameraId : finding.event.cameraId = cameraId
  endTsMs : finding.event.endTsMs = timeMs
  zone : finding.event.zone = face.zone
  ruleName : finding.event.ruleName = face.name
  shaped : finding.event.Shaped

namespace SingleTrackRule

def face : SingleTrackRule Body → RuleFace
  | .intrusion rule => ⟨.intrusion, rule.config.name, rule.zone.name, rule.config.cooldownS⟩
  | .loitering rule => ⟨.loitering, rule.config.name, rule.zone.name, rule.params.cooldownS⟩
  | .running rule => ⟨.running, rule.config.name, rule.zone.name, rule.params.cooldownS⟩
  | .fall rule => ⟨.fall, rule.config.name, rule.zone.name, rule.params.cooldownS⟩

theorem face_isSingleTrack (rule : SingleTrackRule Body) :
    rule.face.eventType.isSingleTrack = true := by
  cases rule <;> rfl

theorem observe_face (rule : SingleTrackRule Body) (track : TrackState Body) :
    (rule.observe track).1.face = rule.face := by
  cases rule with
  | running =>
    simp only [observe, RunningRule.observe]
    split
    · rfl
    · simp only [face]
      split
      · rfl
      · split
        · rfl
        · split
          · rfl
          · split <;> rfl
  | intrusion | loitering | fall => rfl

end SingleTrackRule

/-- The finding of a single-track rule on a track with a current observation. -/
def RuleFace.trackFinding (face : RuleFace) (cameraId : String) (trackId : Int)
    (startTsMs endTsMs : Nat) : Finding where
  key := s!"{cameraId}:{trackId}:{face.zone}"
  cooldownS := face.cooldownS
  event :=
    { eventType := face.eventType
      cameraId
      trackId
      startTsMs
      endTsMs
      zone := face.zone
      ruleName := face.name }

theorem RuleFace.trackFinding_makes {face : RuleFace}
    (single : face.eventType.isSingleTrack = true) (cameraId : String) (trackId : Int)
    (startTsMs endTsMs : Nat) :
    face.Makes cameraId endTsMs (face.trackFinding cameraId trackId startTsMs endTsMs) := by
  refine ⟨?_, rfl, rfl, rfl, rfl, rfl, rfl, ?_⟩
  · rcases face with ⟨eventType, _⟩
    cases eventType with
    | crowdGathering | chasing => exact absurd single Bool.false_ne_true
    | intrusion | loitering | running | fall => rfl
  · intro kind
    simp only [trackFinding] at kind
    rw [kind] at single
    exact absurd single (by decide)

namespace SingleTrackRule

/-- The spec of a single-track rule: its findings differ in their start only. -/
theorem observe_finding {rule : SingleTrackRule Body} {track : TrackState Body}
    {cameraId : String} (wellFormed : track.WellFormed cameraId) {finding : Finding}
    (found : (rule.observe track).2 = some finding) :
    ∃ startTsMs, finding =
      rule.face.trackFinding cameraId track.trackId startTsMs track.lastSeenMs := by
  rcases wellFormed.current with ⟨_, isCurrent, rfl⟩
  cases rule with
  | intrusion =>
    simp only [observe, IntrusionRule.finding, isCurrent] at found
    split at found
    · split at found
      · exact absurd found (by simp)
      · exact ⟨_, (Option.some.inj found).symm⟩
    · exact absurd found (by simp)
  | loitering =>
    simp only [observe, LoiteringRule.finding, isCurrent] at found
    repeat' split at found
    all_goals cases found
    exact ⟨_, rfl⟩
  | running =>
    simp only [observe, RunningRule.observe, isCurrent] at found
    repeat' split at found
    all_goals cases found
    exact ⟨_, rfl⟩
  | fall =>
    simp only [observe, FallRule.finding, isCurrent] at found
    repeat' split at found
    all_goals cases found
    exact ⟨_, rfl⟩

end SingleTrackRule

/-! ## Frame rules -/

theorem presentTracks_subset (tracks : List (TrackState Body)) (frameTsMs : Nat)
    (maxTrackAgeMs : Int) : presentTracks tracks frameTsMs maxTrackAgeMs ⊆ tracks := by
  unfold presentTracks
  split
  all_goals exact List.filter_sublist.subset

variable (rule : ChasingRule Body)

theorem ChasingRule.presentPairTracks_subset (tracks : List (TrackState Body)) (frameTsMs : Nat) :
    rule.presentPairTracks tracks frameTsMs ⊆ tracks := by
  unfold presentPairTracks
  split
  · exact List.Subset.refl _
  · exact presentTracks_subset _ _ _

theorem ChasingRule.zoneTracks_subset (tracks : List (TrackState Body)) :
    rule.zoneTracks tracks ⊆ tracks := by
  unfold zoneTracks
  split
  · exact List.filter_sublist.subset
  · exact List.Subset.refl _

theorem collectEach_invariant {State Item : Type}
    (step : State → Item → State × Option Finding) (valid : State → Prop)
    {makes : Finding → Prop} (keeps : ∀ state item, valid state → valid (step state item).1)
    (finds : ∀ state item finding, valid state → (step state item).2 = some finding →
      makes finding) {state : State} (start : valid state) (items : List Item) :
    valid (collectEach step state items).1 ∧
      ∀ finding ∈ (collectEach step state items).2, makes finding := by
  induction items generalizing state with
  | nil => exact ⟨start, List.forall_mem_nil _⟩
  | cons item _ induction =>
    rcases induction (keeps state item start) with ⟨final, later⟩
    refine ⟨final, fun finding member => ?_⟩
    simp only [collectEach, List.mem_append, Option.mem_toList] at member
    rcases member with now | afterwards
    · exact finds state item finding start now
    · exact later finding afterwards

namespace FrameRule

def face : FrameRule Body → RuleFace
  | .crowdGathering rule =>
    ⟨.crowdGathering, rule.config.name, rule.zone.name, rule.params.cooldownS⟩
  | .chasing rule => ⟨.chasing, rule.config.name, rule.zone.name, rule.params.cooldownS⟩

theorem face_isSingleTrack (rule : FrameRule Body) :
    rule.face.eventType.isSingleTrack = false := by
  cases rule <;> rfl

end FrameRule

variable {cameraId : String} {tracks : List (TrackState Body)}

theorem frameCameraId_eq (nonempty : tracks ≠ [])
    (wellFormed : ∀ track ∈ tracks, track.WellFormed cameraId) :
    frameCameraId tracks = cameraId := by
  cases tracks with
  | nil => exact absurd rfl nonempty
  | cons track =>
    rcases (wellFormed track List.mem_cons_self).current with ⟨_, isCurrent, same⟩
    simp only [frameCameraId, isCurrent, same]

variable (frameTsMs : Nat)

theorem CrowdGatheringRule.clusterStep_face (cameraId : String)
    (state : CrowdGatheringRule Body × List Nat) (members : List Int) :
    (FrameRule.crowdGathering (clusterStep frameTsMs cameraId state members).1.1).face =
      (FrameRule.crowdGathering state.1).face := by
  rcases state with ⟨rule, matched⟩
  simp only [clusterStep]
  split <;> rfl

theorem CrowdGatheringRule.clusterStep_finding {frameTsMs : Nat}
    {state : CrowdGatheringRule Body × List Nat} {members : List Int} {finding : Finding}
    (found : (clusterStep frameTsMs cameraId state members).2 = some finding) :
    (FrameRule.crowdGathering state.1).face.Makes cameraId frameTsMs finding := by
  rcases state with ⟨rule, matched⟩
  simp only [clusterStep] at found
  split at found
  · rw [Option.some.injEq] at found
    subst found
    refine ⟨rfl, rfl, rfl, rfl, rfl, rfl, rfl, ?_⟩
    intro kind
    exact absurd kind (by simp)
  · exact absurd found (by simp)

theorem ChasingRule.pairStep_face (cameraId : String) (rule : ChasingRule Body)
    (pair : ChasePair) :
    (FrameRule.chasing (pairStep frameTsMs cameraId rule pair).1).face =
      (FrameRule.chasing rule).face := by
  simp only [pairStep]
  split <;> rfl

theorem ChasingRule.pairStep_finding {frameTsMs : Nat} {rule : ChasingRule Body}
    {pair : ChasePair} {finding : Finding}
    (found : (pairStep frameTsMs cameraId rule pair).2 = some finding) :
    (FrameRule.chasing rule).face.Makes cameraId frameTsMs finding := by
  simp only [pairStep] at found
  split at found
  · exact absurd found (by simp)
  · rw [Option.some.injEq] at found
    subst found
    exact ⟨rfl, rfl, rfl, rfl, rfl, rfl, rfl, fun _ => ⟨_, _, rfl⟩⟩

theorem ChasingRule.missPair_face (active keys : List (Int × Int)) (rule : ChasingRule Body) :
    (FrameRule.chasing (keys.foldl (missPair frameTsMs active) rule)).face =
      (FrameRule.chasing rule).face := by
  induction keys generalizing rule with
  | nil => rfl
  | cons _ _ induction =>
    rw [List.foldl_cons, induction]
    simp only [missPair]
    split
    · rfl
    · split <;> rfl

section

variable (wellFormed : ∀ track ∈ tracks, track.WellFormed cameraId)

include wellFormed

theorem FrameRule.observeFrame_spec (frameTsMs : Nat) (rule : FrameRule Body) :
    (rule.observeFrame tracks frameTsMs).1.face = rule.face ∧
      ∀ finding ∈ (rule.observeFrame tracks frameTsMs).2,
        rule.face.Makes cameraId (CrowdGatheringRule.frameTime tracks frameTsMs) finding := by
  cases rule with
  | crowdGathering rule =>
    by_cases empty : tracks.isEmpty = true
    · simp [observeFrame, CrowdGatheringRule.observeFrame, empty, face]
    · have nonempty : tracks ≠ [] := by
        rintro rfl
        exact empty rfl
      by_cases enabled : rule.config.enabled = true
      · rcases collectEach_invariant
          (CrowdGatheringRule.clusterStep (CrowdGatheringRule.frameTime tracks frameTsMs)
            (frameCameraId tracks))
          (fun state => (FrameRule.crowdGathering state.1).face =
            (FrameRule.crowdGathering rule).face)
          (fun state item same =>
            (CrowdGatheringRule.clusterStep_face _ _ state item).trans same)
          (fun state item finding same found =>
            same ▸ CrowdGatheringRule.clusterStep_finding found)
          (Eq.refl (FrameRule.crowdGathering (rule, ([] : List Nat)).1).face)
          (rule.findCrowdClusters tracks (CrowdGatheringRule.frameTime tracks frameTsMs))
          with ⟨sameFace, makes⟩
        rw [frameCameraId_eq nonempty wellFormed] at sameFace makes
        simp only [observeFrame, CrowdGatheringRule.observeFrame, empty, enabled,
          Bool.not_true, Bool.false_eq_true, if_false,
          frameCameraId_eq nonempty wellFormed]
        exact ⟨sameFace, makes⟩
      · simp [observeFrame, CrowdGatheringRule.observeFrame, empty, enabled]
  | chasing rule =>
    by_cases empty : tracks.isEmpty = true
    · simp [observeFrame, ChasingRule.observeFrame, empty, face]
    · have nonempty : tracks ≠ [] := by
        rintro rfl
        exact empty rfl
      by_cases enabled : rule.config.enabled = true
      · have camera : ∀ zoneTracks : List (TrackState Body),
            (∀ track ∈ zoneTracks, track ∈ tracks) →
            frameCameraId (if zoneTracks.isEmpty then tracks else zoneTracks) =
              cameraId := by
          intro zoneTracks within
          split
          · exact frameCameraId_eq nonempty wellFormed
          · next present =>
              apply frameCameraId_eq
              · rintro rfl
                exact present rfl
              · exact fun track member => wellFormed track (within track member)
        have within : ∀ track ∈ rule.zoneTracks (rule.presentPairTracks tracks
            (CrowdGatheringRule.frameTime tracks frameTsMs)), track ∈ tracks := by
          intro track member
          have inPresent : track ∈ rule.presentPairTracks tracks
              (CrowdGatheringRule.frameTime tracks frameTsMs) := by
            unfold ChasingRule.zoneTracks at member
            split at member
            · exact (List.mem_filter.mp member).1
            · exact member
          unfold ChasingRule.presentPairTracks at inPresent
          split at inPresent
          · exact inPresent
          · unfold presentTracks at inPresent
            split at inPresent
            all_goals exact (List.mem_filter.mp inPresent).1
        rcases collectEach_invariant
          (ChasingRule.pairStep (CrowdGatheringRule.frameTime tracks frameTsMs) cameraId)
          (fun state => (FrameRule.chasing state).face = (FrameRule.chasing rule).face)
          (fun state item same => (ChasingRule.pairStep_face _ _ state item).trans same)
          (fun state item finding same found => same ▸ ChasingRule.pairStep_finding found)
          (Eq.refl (FrameRule.chasing rule).face)
          (rule.detectChasePairs (rule.zoneTracks (rule.presentPairTracks tracks
            (CrowdGatheringRule.frameTime tracks frameTsMs))))
          with ⟨sameFace, makes⟩
        simp only [observeFrame, ChasingRule.observeFrame, empty, enabled,
          Bool.not_true, Bool.false_eq_true, if_false, camera _ within]
        exact ⟨(ChasingRule.missPair_face _ _ _ _).trans sameFace, makes⟩
      · simp [observeFrame, ChasingRule.observeFrame, empty, enabled]

/-! ## Findings of a frame -/

theorem observeTracks_spec (rules : List (SingleTrackRule Body)) :
    (observeTracks rules tracks).1.map SingleTrackRule.face = rules.map SingleTrackRule.face ∧
      ∀ finding ∈ (observeTracks rules tracks).2,
        ∃ face ∈ rules.map SingleTrackRule.face, ∃ track ∈ tracks, ∃ startTsMs,
          finding = face.trackFinding cameraId track.trackId startTsMs track.lastSeenMs := by
  induction tracks generalizing rules with
  | nil => exact ⟨rfl, List.forall_mem_nil _⟩
  | cons track _ induction =>
    have sameFaces : (observeTrack rules track).1.map SingleTrackRule.face =
        rules.map SingleTrackRule.face := by
      simp only [observeTrack, List.map_map]
      apply List.map_congr_left
      intro rule _
      exact rule.observe_face track
    rcases induction (fun other member => wellFormed other (List.mem_cons_of_mem _ member))
      (observeTrack rules track).1 with ⟨laterFaces, laterFindings⟩
    refine ⟨laterFaces.trans sameFaces, ?_⟩
    intro finding member
    simp only [observeTracks, List.mem_append] at member
    rcases member with now | later
    · simp only [observeTrack, List.mem_flatMap, Option.mem_toList] at now
      rcases now with ⟨rule, inRules, found⟩
      rcases SingleTrackRule.observe_finding (wellFormed track List.mem_cons_self) found with
        ⟨startTsMs, isFinding⟩
      exact ⟨rule.face, List.mem_map_of_mem inRules, track, List.mem_cons_self, startTsMs,
        isFinding⟩
    · rcases laterFindings finding later with ⟨face, inFaces, other, inRest, made⟩
      rw [sameFaces] at inFaces
      exact ⟨face, inFaces, other, List.mem_cons_of_mem _ inRest, made⟩

theorem observeFrameRules_spec (frameTsMs : Nat) (rules : List (FrameRule Body)) :
    (observeFrameRules rules tracks frameTsMs).1.map FrameRule.face =
        rules.map FrameRule.face ∧
      ∀ finding ∈ (observeFrameRules rules tracks frameTsMs).2,
        ∃ face ∈ rules.map FrameRule.face,
          face.Makes cameraId (CrowdGatheringRule.frameTime tracks frameTsMs) finding := by
  constructor
  · simp only [observeFrameRules, List.map_map]
    apply List.map_congr_left
    intro rule _
    exact (FrameRule.observeFrame_spec wellFormed frameTsMs rule).1
  · intro finding member
    simp only [observeFrameRules, List.mem_flatMap] at member
    rcases member with ⟨rule, inRules, found⟩
    exact ⟨rule.face, List.mem_map_of_mem inRules,
      (FrameRule.observeFrame_spec wellFormed frameTsMs rule).2 finding found⟩

end

theorem TrackStateStore.WellFormed.get_of_mem {store : TrackStateStore Body}
    (wellFormed : store.WellFormed cameraId) {track : TrackState Body}
    (member : track ∈ store.activeTracks) :
    store.tracks.get track.trackId = some track := by
  simp only [TrackStateStore.activeTracks, Dict.values, List.mem_map] at member
  rcases member with ⟨⟨trackId, _⟩, inEntries, rfl⟩
  have found := Dict.get_of_mem wellFormed.distinct inEntries
  rw [(wellFormed.named trackId _ found).1]
  exact found

theorem TrackStateStore.WellFormed.activeTracks {store : TrackStateStore Body}
    (wellFormed : store.WellFormed cameraId) :
    ∀ track ∈ store.activeTracks, track.WellFormed cameraId := fun track member =>
  wellFormed.tracks track.trackId track (wellFormed.get_of_mem member)

namespace SourceRuntime

def singleTrackFaces (runtime : SourceRuntime Body) : List RuleFace :=
  runtime.singleTrackRules.map SingleTrackRule.face

def frameFaces (runtime : SourceRuntime Body) : List RuleFace :=
  runtime.frameRules.map FrameRule.face

def frameTime (runtime : SourceRuntime Body) (frame : Frame Body) : Nat :=
  CrowdGatheringRule.frameTime (runtime.storeAt frame).activeTracks (runtime.frameTs frame)

variable {runtime : SourceRuntime Body}

theorem observe_singleTrackFaces (wellFormed : runtime.store.WellFormed runtime.cameraId)
    (frame : Frame Body) :
    (runtime.observe frame).1.singleTrackFaces = runtime.singleTrackFaces :=
  (observeTracks_spec (storeAt_wellFormed wellFormed frame).activeTracks _).1

theorem observe_frameFaces (wellFormed : runtime.store.WellFormed runtime.cameraId)
    (frame : Frame Body) : (runtime.observe frame).1.frameFaces = runtime.frameFaces :=
  (observeFrameRules_spec (storeAt_wellFormed wellFormed frame).activeTracks _ _).1

def FindsOn (runtime : SourceRuntime Body) (frame : Frame Body) (finding : Finding) : Prop :=
  ∃ face ∈ runtime.singleTrackFaces, face.eventType.isSingleTrack = true ∧
    ∃ trackId track startTsMs, (runtime.storeAt frame).tracks.get trackId = some track ∧
      finding = face.trackFinding runtime.cameraId trackId startTsMs track.lastSeenMs

def FindsIn (runtime : SourceRuntime Body) (frame : Frame Body) (finding : Finding) : Prop :=
  ∃ face ∈ runtime.frameFaces, face.eventType.isSingleTrack = false ∧
    face.Makes runtime.cameraId (runtime.frameTime frame) finding

variable {frame : Frame Body} {finding : Finding}

section

variable (wellFormed : runtime.store.WellFormed runtime.cameraId)

include wellFormed

theorem findsOn_of_mem (member : finding ∈ (observeTracks runtime.singleTrackRules
      (runtime.storeAt frame).activeTracks).2) : runtime.FindsOn frame finding := by
  have stored := storeAt_wellFormed wellFormed frame
  rcases (observeTracks_spec stored.activeTracks _).2 finding member with
    ⟨_, inFaces, track, inTracks, startTsMs, made⟩
  rcases List.mem_map.mp inFaces with ⟨rule, _, rfl⟩
  exact ⟨_, inFaces, rule.face_isSingleTrack, track.trackId, track, startTsMs,
    stored.get_of_mem inTracks, made⟩

theorem findsIn_of_mem (member : finding ∈ (observeFrameRules runtime.frameRules
      (runtime.storeAt frame).activeTracks (runtime.frameTs frame)).2) :
    runtime.FindsIn frame finding := by
  have stored := storeAt_wellFormed wellFormed frame
  rcases (observeFrameRules_spec stored.activeTracks _ _).2 finding member with
    ⟨_, inFaces, makes⟩
  rcases List.mem_map.mp inFaces with ⟨rule, _, rfl⟩
  exact ⟨_, inFaces, rule.face_isSingleTrack, makes⟩

theorem findings_of_frame (member : finding ∈ (runtime.observe frame).2) :
    runtime.FindsOn frame finding ∨ runtime.FindsIn frame finding := by
  simp only [observe, List.mem_append] at member
  exact member.imp (findsOn_of_mem wellFormed) (findsIn_of_mem wellFormed)

end

theorem FindsOn.makes (finds : runtime.FindsOn frame finding) :
    ∃ face ∈ runtime.singleTrackFaces, face.eventType.isSingleTrack = true ∧ ∃ track,
      (runtime.storeAt frame).tracks.get finding.event.trackId = some track ∧
        face.Makes runtime.cameraId track.lastSeenMs finding := by
  rcases finds with ⟨face, inFaces, single, trackId, track, startTsMs, found, rfl⟩
  exact ⟨face, inFaces, single, track, found,
    RuleFace.trackFinding_makes single runtime.cameraId trackId startTsMs track.lastSeenMs⟩

theorem makes_of_mem (wellFormed : runtime.store.WellFormed runtime.cameraId)
    (member : finding ∈ (runtime.observe frame).2) :
    ∃ face ∈ runtime.singleTrackFaces ++ runtime.frameFaces, ∃ timeMs,
      face.Makes runtime.cameraId timeMs finding := by
  rcases findings_of_frame wellFormed member with onTrack | inFrame
  · rcases onTrack.makes with ⟨face, inFaces, _, _, _, makes⟩
    exact ⟨face, List.mem_append_left _ inFaces, _, makes⟩
  · rcases inFrame with ⟨face, inFaces, _, makes⟩
    exact ⟨face, List.mem_append_right _ inFaces, _, makes⟩

end SourceRuntime

/-! ## Times that do not step back -/

def TrackStateStore.SeenBy (store : TrackStateStore Body) (nowMs : Nat) : Prop :=
  ∀ trackId track, store.tracks.get trackId = some track → track.lastSeenMs ≤ nowMs

namespace SourceRuntime

variable {runtime : SourceRuntime Body}

variable {frame : Frame Body}

theorem storeAt_seenBy (wellFormed : runtime.store.WellFormed runtime.cameraId)
    (seen : runtime.store.SeenBy frame.timestampMs) :
    (runtime.storeAt frame).SeenBy frame.timestampMs := by
  intro trackId track found
  have spec := (storeAt_get wellFormed found).2
  by_cases shows : frame.Shows trackId
  · rw [if_pos shows] at spec
    rw [spec.2]
    apply max_le _ (Nat.le_refl _)
    cases old : runtime.store.tracks.get trackId with
    | none => exact Nat.zero_le _
    | some before => exact seen trackId before old
  · rw [if_neg shows] at spec
    exact seen trackId track spec

theorem frameTime_eq (wellFormed : runtime.store.WellFormed runtime.cameraId)
    (seen : runtime.store.SeenBy frame.timestampMs) :
    runtime.frameTime frame = frame.timestampMs := by
  have stored := storeAt_wellFormed wellFormed frame
  have newest : newestSeen (runtime.storeAt frame).activeTracks ≤ frame.timestampMs := by
    apply foldl_max_le _ 0 (Nat.zero_le _)
    intro track member
    exact storeAt_seenBy wellFormed seen _ track (stored.get_of_mem member)
  by_cases zero : frame.timestampMs = 0
  · have latest : TrackStateStore.latest (frame.observations runtime.cameraId) ≤ 0 := by
      apply foldl_max_le _ 0 (Nat.le_refl _)
      intro observation member
      exact ((frame.observations_stamped runtime.cameraId observation member).2.trans zero).le
    have noneLatest : TrackStateStore.latest (frame.observations runtime.cameraId) = 0 := by
      omega
    simp only [frameTime, CrowdGatheringRule.frameTime, frameTs, resolveFrameTs, if_pos zero,
      Option.getD_none, noneLatest, if_true]
    split <;> omega
  · simp only [frameTime, CrowdGatheringRule.frameTime, frameTs, resolveFrameTs, if_neg zero,
      Option.getD_some]

/-- What the findings so far say about the store: none is later than the last
frame, and none about a stored track is later than the track. -/
structure Covers (store : TrackStateStore Body) (cameraId : String) (nowMs : Nat)
    (earlier : List Finding) : Prop where
  past : ∀ finding ∈ earlier, finding.event.endTsMs ≤ nowMs
  tracks : ∀ finding ∈ earlier, finding.event.eventType.isSingleTrack = true → ∀ track,
    store.tracks.get finding.event.trackId = some track →
      finding.event.endTsMs ≤ track.lastSeenMs
  keys : ∀ finding ∈ earlier, finding.key = finding.event.cooldownKey ∧
    finding.event.Shaped ∧ finding.event.cameraId = cameraId

variable {earlier : List Finding} {nowMs : Nat}

theorem Covers.storeAt (wellFormed : runtime.store.WellFormed runtime.cameraId)
    (covers : Covers runtime.store runtime.cameraId nowMs earlier)
    (later : nowMs ≤ frame.timestampMs) :
    Covers (runtime.storeAt frame) runtime.cameraId frame.timestampMs earlier := by
  refine ⟨fun finding member => (covers.past finding member).trans later, ?_, covers.keys⟩
  intro finding member single track found
  have spec := (storeAt_get wellFormed found).2
  by_cases shows : frame.Shows finding.event.trackId
  · rw [if_pos shows] at spec
    have past := covers.past finding member
    omega
  · rw [if_neg shows] at spec
    exact covers.tracks finding member single track spec

theorem covers_observe (wellFormed : runtime.store.WellFormed runtime.cameraId)
    (seen : runtime.store.SeenBy frame.timestampMs) :
    Covers (runtime.storeAt frame) runtime.cameraId frame.timestampMs
      (runtime.observe frame).2 := by
  refine ⟨?_, ?_, ?_⟩
  · intro finding member
    rcases findings_of_frame wellFormed member with onTrack | inFrame
    · rcases onTrack.makes with ⟨_, _, _, track, found, makes⟩
      rw [makes.endTsMs]
      exact storeAt_seenBy wellFormed seen _ track found
    · rcases inFrame with ⟨_, _, _, makes⟩
      rw [makes.endTsMs, frameTime_eq wellFormed seen]
  · intro finding member single track found
    rcases findings_of_frame wellFormed member with onTrack | inFrame
    · rcases onTrack.makes with ⟨_, _, _, _, isOther, makes⟩
      rw [isOther, Option.some.injEq] at found
      rw [makes.endTsMs, found]
    · rcases inFrame with ⟨_, _, notSingle, makes⟩
      rw [makes.eventType, notSingle] at single
      exact absurd single Bool.false_ne_true
  · intro finding member
    rcases makes_of_mem wellFormed member with ⟨_, _, _, makes⟩
    exact ⟨makes.key, makes.shaped, makes.cameraId⟩

theorem Covers.append {store : TrackStateStore Body} {first second : List Finding}
    (coversFirst : Covers store cameraId nowMs first)
    (coversSecond : Covers store cameraId nowMs second) :
    Covers store cameraId nowMs (first ++ second) := by
  refine ⟨?_, ?_, ?_⟩
  · intro finding member
    exact (List.mem_append.mp member).elim (coversFirst.past finding) (coversSecond.past finding)
  · intro finding member
    exact (List.mem_append.mp member).elim (coversFirst.tracks finding)
      (coversSecond.tracks finding)
  · intro finding member
    exact (List.mem_append.mp member).elim (coversFirst.keys finding) (coversSecond.keys finding)

theorem Covers.le_of_key {first second : Finding}
    (wellFormed : runtime.store.WellFormed runtime.cameraId)
    (seen : runtime.store.SeenBy frame.timestampMs)
    (covers : Covers (runtime.storeAt frame) runtime.cameraId frame.timestampMs earlier)
    (inEarlier : first ∈ earlier) (inFrame : second ∈ (runtime.observe frame).2)
    (sameKey : first.key = second.key) : first.event.endTsMs ≤ second.event.endTsMs := by
  rcases covers.keys first inEarlier with ⟨firstKey, firstShaped, firstCamera⟩
  rcases findings_of_frame wellFormed inFrame with onTrack | onFrame
  · rcases onTrack.makes with ⟨_, _, single, track, found, makes⟩
    rw [← makes.eventType] at single
    rw [firstKey, makes.key] at sameKey
    rcases SecurityEvent.single_of_key firstShaped makes.shaped
      (firstCamera.trans makes.cameraId.symm) sameKey single with ⟨firstSingle, sameTrack⟩
    rw [← sameTrack] at found
    rw [makes.endTsMs]
    exact covers.tracks first inEarlier firstSingle track found
  · rcases onFrame with ⟨_, _, _, makes⟩
    rw [makes.endTsMs, frameTime_eq wellFormed seen]
    exact covers.past first inEarlier

theorem ordered_append {frames : List (Frame Body)}
    (wellFormed : runtime.store.WellFormed runtime.cameraId)
    (covers : Covers runtime.store runtime.cameraId nowMs earlier)
    (seen : runtime.store.SeenBy nowMs) (later : ∀ frame ∈ frames, nowMs ≤ frame.timestampMs)
    (sorted : Nondecreasing frames) (ordered : cooldownLimit.Ordered earlier) :
    cooldownLimit.Ordered (earlier ++ runtime.findings frames) := by
  induction frames generalizing runtime earlier nowMs with
  | nil =>
    simp only [findings, List.append_nil]
    exact ordered
  | cons frame _ induction =>
    have afterNow := later frame List.mem_cons_self
    have seenNow : runtime.store.SeenBy frame.timestampMs := fun trackId track found =>
      (seen trackId track found).trans afterNow
    have coversNow := covers.storeAt wellFormed afterNow
    have both := coversNow.append (covers_observe wellFormed seenNow)
    rcases List.pairwise_cons.mp sorted with ⟨laterFrames, sortedRest⟩
    rw [findings, ← List.append_assoc]
    apply @induction (runtime.observe frame).1 (earlier ++ (runtime.observe frame).2)
      frame.timestampMs
    · exact storeAt_wellFormed wellFormed frame
    · exact both
    · exact storeAt_seenBy wellFormed seenNow
    · exact laterFrames
    · exact sortedRest
    · apply List.pairwise_append.mpr
      refine ⟨ordered, ?_, ?_⟩
      · apply List.pairwise_of_forall_mem_list
        intro first inFirst second inSecond sameKey
        have inOrder := (covers_observe wellFormed seenNow).le_of_key wellFormed seenNow
          inFirst inSecond sameKey
        simp only [cooldownLimit]
        omega
      · intro first inFirst second inSecond sameKey
        have inOrder := coversNow.le_of_key wellFormed seenNow inFirst inSecond sameKey
        simp only [cooldownLimit]
        omega

end SourceRuntime

namespace CameraEntry

theorem build_wellFormed (camera : CameraEntry Body) :
    camera.build.store.WellFormed camera.build.cameraId :=
  TrackStateStore.wellFormed_empty camera.cameraId 5000 10000

/-- The run lemma: with one key, findings come in the order of their times. -/
theorem findings_ordered (camera : CameraEntry Body) {frames : List (Frame Body)}
    (sorted : Nondecreasing frames) : cooldownLimit.Ordered (camera.findings frames) := by
  have none : ∀ finding : Finding, finding ∉ ([] : List Finding) := fun _ => List.not_mem_nil
  apply @SourceRuntime.ordered_append _ _ [] 0 frames camera.build_wellFormed
  · exact ⟨fun finding member => absurd member (none finding),
      fun finding member => absurd member (none finding),
      fun finding member => absurd member (none finding)⟩
  · intro trackId track found
    exact absurd found (by simp [CameraEntry.build])
  · exact fun _ _ => Nat.zero_le _
  · exact sorted
  · exact List.Pairwise.nil

end CameraEntry

end VideoAnalysis.Behavior
