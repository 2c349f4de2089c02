import VideoAnalysis.Behavior.FindingOrder

/-! # Events of people who have left

The store keeps a track for some time after its person has left, and the
single-track rules go on looking at it. What they find there they found before;
a positive cooldown keeps it from going out again.
-/

namespace VideoAnalysis.Behavior

open VideoAnalysis.Foundation

variable {Body : Type}

/-! ## Looking again at a track -/

variable {track : TrackState Body}

theorem RunningRule.observe_congr {rule : RunningRule Body} {since : Dict (String × Int) Nat}
    (same : ∀ cameraId, since.get (cameraId, track.trackId) =
      rule.runningSince.get (cameraId, track.trackId)) :
    ({ rule with runningSince := since }.observe track).2 = (rule.observe track).2 := by
  simp only [observe, same]
  split
  · rfl
  · have fast : fast { rule with runningSince := since } track = rule.fast track := rfl
    rw [fast]
    repeat' split
    all_goals rfl

theorem RunningRule.observe_since (rule : RunningRule Body) (track : TrackState Body) :
    ∃ since, (rule.observe track).1 = { rule with runningSince := since } ∧
      ∀ cameraId trackId, trackId ≠ track.trackId →
        since.get (cameraId, trackId) = rule.runningSince.get (cameraId, trackId) := by
  have other : ∀ cameraId current trackId, trackId ≠ track.trackId →
      ((cameraId, trackId) : String × Int) ≠ (current, track.trackId) := by
    intro cameraId current trackId different same
    exact different (congrArg Prod.snd same)
  simp only [observe]
  split
  · exact ⟨_, rfl, fun _ _ _ => rfl⟩
  · next current _ =>
      have erased : ∀ cameraId trackId, trackId ≠ track.trackId →
          (rule.runningSince.erase (current.cameraId, track.trackId)).get (cameraId, trackId) =
            rule.runningSince.get (cameraId, trackId) := fun cameraId trackId different =>
        Dict.get_erase_of_ne _ (other cameraId current.cameraId trackId different)
      split
      · exact ⟨_, rfl, fun _ _ _ => rfl⟩
      · split
        · exact ⟨_, rfl, erased⟩
        · split
          · exact ⟨_, rfl, erased⟩
          · split <;>
              exact ⟨_, rfl, fun cameraId trackId different => Dict.get_set_of_ne _ _
                (other cameraId current.cameraId trackId different)⟩

theorem RunningRule.observe_again (rule : RunningRule Body) (track : TrackState Body) :
    ((rule.observe track).1.observe track).2 = (rule.observe track).2 := by
  cases last : track.observations.getLast? with
  | none => simp only [observe, last]
  | some current =>
    by_cases enabled : rule.config.enabled = true
    · by_cases outside : (rule.zone.hasPolygon && !rule.zone.inside current.body) = true
      · simp [observe, last, enabled, outside]
      · by_cases fast : rule.fast track = true
        · have still : ∀ since, RunningRule.fast { rule with runningSince := since } track =
              true := fun _ => fast
          by_cases short : (track.lastSeenMs : Int) -
              (rule.runningSince.get (current.cameraId, track.trackId)).getD
                track.lastSeenMs < rule.params.minDurationMs
          all_goals simp [observe, last, enabled, outside, fast, still, short]
        · have still : ∀ since, RunningRule.fast { rule with runningSince := since } track =
              rule.fast track := fun _ => rfl
          simp [observe, last, enabled, outside, fast, still]
    · simp [observe, last, enabled]

namespace SingleTrackRule

theorem observe_again (rule : SingleTrackRule Body) (track : TrackState Body) :
    ((rule.observe track).1.observe track).2 = (rule.observe track).2 := by
  cases rule with
  | running rule => exact rule.observe_again track
  | intrusion | loitering | fall => rfl

theorem observe_other (rule : SingleTrackRule Body) {first second : TrackState Body}
    (different : first.trackId ≠ second.trackId) :
    ((rule.observe second).1.observe first).2 = (rule.observe first).2 := by
  cases rule with
  | running rule =>
    rcases rule.observe_since second with ⟨_, remembered, same⟩
    simp only [observe, remembered]
    exact RunningRule.observe_congr fun cameraId => same cameraId first.trackId different
  | intrusion | loitering | fall => rfl

def lookAt (rule : SingleTrackRule Body) (tracks : List (TrackState Body)) :
    SingleTrackRule Body :=
  tracks.foldl (fun rule track => (rule.observe track).1) rule

theorem lookAt_append (rule : SingleTrackRule Body) (before rest : List (TrackState Body))
    (track : TrackState Body) :
    rule.lookAt (before ++ track :: rest) =
      (((rule.lookAt before).observe track).1).lookAt rest := by
  simp only [lookAt, List.foldl_append, List.foldl_cons]

theorem lookAt_others (rule : SingleTrackRule Body) {tracks : List (TrackState Body)}
    (others : ∀ other ∈ tracks, track.trackId ≠ other.trackId) :
    ((rule.lookAt tracks).observe track).2 = (rule.observe track).2 := by
  induction tracks generalizing rule with
  | nil => rfl
  | cons other _ induction =>
    rw [lookAt, List.foldl_cons]
    exact (induction (rule.observe other).1
      fun next member => others next (List.mem_cons_of_mem _ member)).trans
      (rule.observe_other (others other List.mem_cons_self))

end SingleTrackRule

theorem observeTracks_rules (rules : List (SingleTrackRule Body))
    (tracks : List (TrackState Body)) :
    (observeTracks rules tracks).1 = rules.map fun rule => rule.lookAt tracks := by
  induction tracks generalizing rules with
  | nil => exact (List.map_id rules).symm
  | cons _ _ induction =>
    simp only [observeTracks, observeTrack, induction, List.map_map]
    rfl

variable {rules : List (SingleTrackRule Body)} {tracks : List (TrackState Body)}
  {finding : Finding}

theorem mem_observeTracks :
    finding ∈ (observeTracks rules tracks).2 ↔
      ∃ before track rest, tracks = before ++ track :: rest ∧
        ∃ rule ∈ rules, ((rule.lookAt before).observe track).2 = some finding := by
  induction tracks generalizing rules with
  | nil => simp [observeTracks]
  | cons track rest induction =>
    simp only [observeTracks, observeTrack, List.mem_append, List.mem_flatMap,
      Option.mem_toList, induction]
    constructor
    · rintro (⟨rule, inRules, found⟩ | ⟨before, next, after, split, rule, inRules, found⟩)
      · exact ⟨[], track, rest, rfl, rule, inRules, found⟩
      · rcases List.mem_map.mp inRules with ⟨original, inOriginal, rfl⟩
        exact ⟨track :: before, next, after, by rw [split]; rfl, original, inOriginal, found⟩
    · rintro ⟨before, next, after, split, rule, inRules, found⟩
      cases before with
      | nil =>
        rcases List.cons.inj split with ⟨rfl, rfl⟩
        exact Or.inl ⟨rule, inRules, found⟩
      | cons _ before =>
        rcases List.cons.inj split with ⟨rfl, rfl⟩
        exact Or.inr ⟨before, next, after, rfl, _, List.mem_map_of_mem inRules, found⟩

def DistinctTracks (tracks : List (TrackState Body)) : Prop :=
  tracks.Pairwise fun first second => first.trackId ≠ second.trackId

theorem DistinctTracks.around {before rest : List (TrackState Body)}
    (distinct : DistinctTracks (before ++ track :: rest)) :
    (∀ other ∈ before, track.trackId ≠ other.trackId) ∧
      ∀ other ∈ rest, track.trackId ≠ other.trackId := by
  rcases List.pairwise_append.mp distinct with ⟨_, tail, cross⟩
  exact ⟨fun other member => (cross other member track List.mem_cons_self).symm,
    (List.pairwise_cons.mp tail).1⟩

theorem finding_of_track (distinct : DistinctTracks tracks)
    (member : finding ∈ (observeTracks rules tracks).2) :
    ∃ track ∈ tracks, ∃ rule ∈ rules, (rule.observe track).2 = some finding := by
  rcases mem_observeTracks.mp member with ⟨_, track, _, rfl, rule, inRules, found⟩
  rw [rule.lookAt_others distinct.around.1] at found
  exact ⟨track, by simp, rule, inRules, found⟩

/-- The converse: what a rule finds on a track of the frame is found in the frame. -/
theorem finding_mem (distinct : DistinctTracks tracks) (inTracks : track ∈ tracks)
    {rule : SingleTrackRule Body} (inRules : rule ∈ rules)
    (found : (rule.observe track).2 = some finding) :
    finding ∈ (observeTracks rules tracks).2 := by
  rcases List.append_of_mem inTracks with ⟨before, rest, rfl⟩
  apply mem_observeTracks.mpr
  refine ⟨before, track, rest, rfl, rule, inRules, ?_⟩
  rw [rule.lookAt_others distinct.around.1]
  exact found

theorem found_again (distinct : DistinctTracks tracks) (inTracks : track ∈ tracks)
    {rule : SingleTrackRule Body} (inRules : rule ∈ (observeTracks rules tracks).1)
    (found : (rule.observe track).2 = some finding) :
    finding ∈ (observeTracks rules tracks).2 := by
  rw [observeTracks_rules] at inRules
  rcases List.mem_map.mp inRules with ⟨original, inOriginal, rfl⟩
  rcases List.append_of_mem inTracks with ⟨before, rest, rfl⟩
  apply mem_observeTracks.mpr
  refine ⟨before, track, rest, rfl, original, inOriginal, ?_⟩
  have later := SingleTrackRule.lookAt_others
    (((original.lookAt before).observe track).1) distinct.around.2
  rw [SingleTrackRule.lookAt_append, later, SingleTrackRule.observe_again] at found
  exact found

theorem TrackStateStore.WellFormed.distinctTracks {cameraId : String}
    {store : TrackStateStore Body} (wellFormed : store.WellFormed cameraId) :
    DistinctTracks store.activeTracks := by
  have names : ∀ entry ∈ store.tracks.entries, entry.2.trackId = entry.1 := by
    rintro ⟨trackId, track⟩ member
    exact (wellFormed.named trackId track (Dict.get_of_mem wellFormed.distinct member)).1
  have distinct := wellFormed.distinct
  simp only [Dict.Distinct, Dict.keys] at distinct
  simp only [DistinctTracks, TrackStateStore.activeTracks, Dict.values, List.pairwise_map]
  rw [List.Nodup, List.pairwise_map] at distinct
  apply List.Pairwise.imp_of_mem _ distinct
  intro first second inFirst inSecond different
  rw [names first inFirst, names second inSecond]
  exact different

/-! ## Quiet tracks -/

/-- What the rules with a positive cooldown still find on the stored tracks, they
may not report at the time the track was last seen. -/
def CameraState.Quiet (state : CameraState Body) : Prop :=
  ∀ trackId track, state.runtime.store.tracks.get trackId = some track →
    ∀ rule ∈ state.runtime.singleTrackRules, ∀ finding,
      (rule.observe track).2 = some finding → 0 < finding.cooldownS →
        RateLimit.Held state.cooldown.get finding.key track.lastSeenMs

theorem mem_activeTracks {store : TrackStateStore Body} {trackId : Int}
    (found : store.tracks.get trackId = some track) : track ∈ store.activeTracks := by
  simp only [TrackStateStore.activeTracks, Dict.values, List.mem_map]
  exact ⟨(trackId, track), Dict.mem_of_get found, rfl⟩

namespace CameraState

variable {state : CameraState Body} {frame : Frame Body}

section

variable (wellFormed : state.runtime.store.WellFormed state.runtime.cameraId)
  (seen : state.runtime.store.SeenBy frame.timestampMs)

include wellFormed seen

theorem key_bound (member : finding ∈ (state.runtime.observe frame).2) :
    ∀ other ∈ (state.runtime.observe frame).2,
      cooldownLimit.slot other = cooldownLimit.slot finding →
        cooldownLimit.time other ≤ cooldownLimit.time finding := by
  intro other inFrame sameKey
  have inOrder := (SourceRuntime.covers_observe wellFormed seen).le_of_key wellFormed seen
    inFrame member sameKey
  simp only [cooldownLimit]
  omega

theorem quiet_processFrame :
    (state.processFrame frame).1.Quiet := by
  have stored := SourceRuntime.storeAt_wellFormed wellFormed frame
  intro trackId track found rule inRules finding again positive
  rw [processFrame_eq] at found inRules ⊢
  have inTracks := mem_activeTracks found
  have inFindings := found_again stored.distinctTracks inTracks inRules again
  have member : finding ∈ (state.runtime.observe frame).2 := List.mem_append_left _ inFindings
  rcases SingleTrackRule.observe_finding (stored.tracks trackId track found) again with ⟨_, rfl⟩
  simp only [CooldownTracker.reportAll_get]
  apply @RateLimit.held_after _ _ _ cooldownLimit _ _ _ member
  · simp only [cooldownLimit]
    omega
  · exact key_bound wellFormed seen member

theorem no_event_of_quiet (quiet : state.Quiet)
    (single : finding.event.eventType.isSingleTrack = true)
    (hidden : ¬frame.Shows finding.event.trackId) (positive : 0 < finding.cooldownS) :
    finding ∉ cooldownLimit.passed state.cooldown.get (state.runtime.observe frame).2 := by
  intro passed
  have stored := SourceRuntime.storeAt_wellFormed wellFormed frame
  have member := (cooldownLimit.passed_sublist _ _).subset passed
  have onTracks : finding ∈ (observeTracks state.runtime.singleTrackRules
      (state.runtime.storeAt frame).activeTracks).2 := by
    simp only [SourceRuntime.observe, List.mem_append] at member
    rcases member with onTrack | onFrame
    · exact onTrack
    · rcases SourceRuntime.findsIn_of_mem wellFormed onFrame with ⟨_, _, notSingle, makes⟩
      rw [makes.eventType, notSingle] at single
      exact absurd single Bool.false_ne_true
  rcases finding_of_track stored.distinctTracks onTracks with
    ⟨track, inTracks, rule, inRules, found⟩
  have isStored := stored.get_of_mem inTracks
  rcases SingleTrackRule.observe_finding (stored.activeTracks track inTracks) found with
    ⟨_, isFinding⟩
  have sameTrack : finding.event.trackId = track.trackId := by rw [isFinding]; rfl
  have sameTime : (finding.event.endTsMs : Int) = track.lastSeenMs := by rw [isFinding]; rfl
  have unchanged := (SourceRuntime.storeAt_get wellFormed isStored).2
  rw [sameTrack] at hidden
  rw [if_neg hidden] at unchanged
  have held := quiet track.trackId track unchanged rule inRules finding found positive
  rw [← sameTime] at held
  exact @RateLimit.not_mem_passed_of_held _ _ _ cooldownLimit _ _ _ held
    (key_bound wellFormed seen member) passed

end

end CameraState

/-! ## Anchored events -/

/-- The frame shows the person of the event and is the end of it. -/
def Frame.Anchors (frame : Frame Body) (event : SecurityEvent) : Prop :=
  frame.Shows event.trackId ∧ event.endTsMs = frame.timestampMs

namespace CameraState

variable {state : CameraState Body} {frame : Frame Body}

theorem anchored_of_quiet
    (wellFormed : state.runtime.store.WellFormed state.runtime.cameraId)
    (seen : state.runtime.store.SeenBy frame.timestampMs) (quiet : state.Quiet)
    (cooling : ∀ finding ∈ (state.runtime.observe frame).2,
      finding.event.eventType.isSingleTrack = true → ¬frame.Shows finding.event.trackId →
        0 < finding.cooldownS) :
    ∀ event ∈ (state.processFrame frame).2, event.eventType.isSingleTrack = true →
      frame.Anchors event := by
  intro event reported single
  rw [processFrame_eq] at reported
  simp only [CooldownTracker.reportAll_events, List.mem_map] at reported
  rcases reported with ⟨finding, passed, rfl⟩
  have member := (cooldownLimit.passed_sublist _ _).subset passed
  have shows : frame.Shows finding.event.trackId := by
    by_contra hidden
    exact no_event_of_quiet wellFormed seen quiet single hidden
      (cooling finding member single hidden) passed
  refine ⟨shows, ?_⟩
  rcases SourceRuntime.findings_of_frame wellFormed member with onTrack | inFrame
  · rcases onTrack.makes with ⟨_, _, _, track, found, makes⟩
    have spec := (SourceRuntime.storeAt_get wellFormed found).2
    rw [if_pos shows] at spec
    have bound := SourceRuntime.storeAt_seenBy wellFormed seen _ track found
    rw [makes.endTsMs]
    omega
  · rcases inFrame with ⟨_, _, notSingle, makes⟩
    rw [makes.eventType, notSingle] at single
    exact absurd single Bool.false_ne_true

end CameraState

namespace CameraEntry

/-- Whenever the conditions of a single-track rule are met on a track that the
frame does not show, the cooldown of the rule is positive. -/
def LingerersCoolDown (camera : CameraEntry Body) (frames : List (Frame Body)) : Prop :=
  ∀ before frame rest, frames = before ++ frame :: rest →
    ∀ finding ∈ ((camera.start.advance before).runtime.observe frame).2,
      finding.event.eventType.isSingleTrack = true → ¬frame.Shows finding.event.trackId →
        0 < finding.cooldownS

/-- Every single-track event of the run is anchored to the frame that reports it. -/
def Anchored (camera : CameraEntry Body) (frames : List (Frame Body)) : Prop :=
  ∀ before frame rest, frames = before ++ frame :: rest →
    ∀ event ∈ ((camera.start.advance before).processFrame frame).2,
      event.eventType.isSingleTrack = true → frame.Anchors event

/-- What holds after some frames of a run. -/
structure RunsTo (camera : CameraEntry Body) (state : CameraState Body) (nowMs : Nat) :
    Prop where
  wellFormed : state.runtime.store.WellFormed state.runtime.cameraId
  seen : state.runtime.store.SeenBy nowMs
  faces : state.runtime.singleTrackFaces = camera.build.singleTrackFaces

theorem runsTo_start (camera : CameraEntry Body) : camera.RunsTo camera.start 0 := by
  refine ⟨camera.build_wellFormed, ?_, rfl⟩
  intro trackId track found
  exact absurd found (by simp [start, build])

theorem RunsTo.processFrame {camera : CameraEntry Body} {state : CameraState Body} {nowMs : Nat}
    {frame : Frame Body} (runs : camera.RunsTo state nowMs) (later : nowMs ≤ frame.timestampMs) :
    camera.RunsTo (state.processFrame frame).1 frame.timestampMs := by
  have seen : state.runtime.store.SeenBy frame.timestampMs := fun trackId track found =>
    (runs.seen trackId track found).trans later
  rw [CameraState.processFrame_eq]
  exact ⟨SourceRuntime.storeAt_wellFormed runs.wellFormed frame,
    SourceRuntime.storeAt_seenBy runs.wellFormed seen,
    (SourceRuntime.observe_singleTrackFaces runs.wellFormed frame).trans runs.faces⟩

/-- The run lemma: each state of a run is reached with its tracks in the past
and quiet. -/
theorem advance_runsTo (camera : CameraEntry Body) {before : List (Frame Body)}
    (sorted : Nondecreasing before) :
    ∃ nowMs, camera.RunsTo (camera.start.advance before) nowMs ∧
      (camera.start.advance before).Quiet ∧
      (nowMs = 0 ∨ ∃ frame ∈ before, frame.timestampMs = nowMs) := by
  induction before using List.reverseRecOn with
  | nil =>
    refine ⟨0, camera.runsTo_start, ?_, Or.inl rfl⟩
    intro trackId track found
    exact absurd found (by simp [CameraState.advance, start, build])
  | append_singleton before frame induction =>
    rcases List.pairwise_append.mp sorted with ⟨sortedBefore, _, inOrder⟩
    rcases induction sortedBefore with ⟨nowMs, runs, _, reached⟩
    have later : nowMs ≤ frame.timestampMs := by
      rcases reached with zero | ⟨earlier, member, same⟩
      · omega
      · exact same ▸ inOrder earlier member frame (List.mem_singleton_self _)
    have step : camera.start.advance (before ++ [frame]) =
        ((camera.start.advance before).processFrame frame).1 := by
      simp [CameraState.advance]
    rw [step]
    refine ⟨frame.timestampMs, runs.processFrame later, ?_, Or.inr ⟨frame, by simp, rfl⟩⟩
    apply CameraState.quiet_processFrame runs.wellFormed
    intro trackId track found
    exact (runs.seen trackId track found).trans later

theorem lingerersCoolDown_of_positive (camera : CameraEntry Body) {frames : List (Frame Body)}
    (sorted : Nondecreasing frames)
    (positive : ∀ face ∈ camera.build.singleTrackFaces, 0 < face.cooldownS) :
    camera.LingerersCoolDown frames := by
  intro before frame rest split finding member single _
  rw [split] at sorted
  rcases camera.advance_runsTo (List.pairwise_append.mp sorted).1 with ⟨_, runs, _⟩
  rcases SourceRuntime.findings_of_frame runs.wellFormed member with onTrack | inFrame
  · rcases onTrack.makes with ⟨face, inFaces, _, _, _, makes⟩
    rw [runs.faces] at inFaces
    rw [makes.cooldownS]
    exact positive face inFaces
  · rcases inFrame with ⟨_, _, notSingle, makes⟩
    rw [makes.eventType, notSingle] at single
    exact absurd single Bool.false_ne_true

end CameraEntry

/-- A run whose lingering tracks only meet rules that cool down reports people
in frames that show them. -/
theorem single_track_events_anchored (camera : CameraEntry Body) (frames : List (Frame Body))
    (sorted : Nondecreasing frames) (cooling : camera.LingerersCoolDown frames) :
    camera.Anchored frames := by
  intro before frame rest split
  rw [split] at sorted
  rcases List.pairwise_append.mp sorted with ⟨sortedBefore, _, inOrder⟩
  rcases camera.advance_runsTo sortedBefore with ⟨nowMs, runs, quiet, reached⟩
  have later : nowMs ≤ frame.timestampMs := by
    rcases reached with zero | ⟨earlier, member, same⟩
    · omega
    · exact same ▸ inOrder earlier member frame List.mem_cons_self
  apply CameraState.anchored_of_quiet runs.wellFormed _ quiet (cooling before frame rest split)
  intro trackId track found
  exact (runs.seen trackId track found).trans later

/-! ## A person who leaves a guarded zone -/

def wholeFrame : ZoneConfig Unit where
  name := "perimeter"
  inside _ := true

def intrusionCamera (cooldownS : Int) : CameraEntry Unit where
  cameraId := "cam_001"
  rules := [.intrusion { name := "intrusion", cooldownS } wholeFrame]
  distinct := List.nodup_singleton _

def shortVisit : List (Frame Unit) :=
  [⟨1000, [⟨1, ()⟩]⟩, ⟨2000, [⟨1, ()⟩]⟩, ⟨2500, []⟩]

theorem shortVisit_sorted : Nondecreasing shortVisit := by
  simp [Nondecreasing, shortVisit]

theorem short_visit_anchored : (intrusionCamera 30).Anchored shortVisit := by
  apply single_track_events_anchored _ _ shortVisit_sorted
  apply CameraEntry.lingerersCoolDown_of_positive _ shortVisit_sorted
  decide

/-- Without a cooldown the intrusion goes out again with a frame that no longer
shows the person. -/
theorem zero_cooldown_reports_absent_person :
    ¬∀ (camera : CameraEntry Unit) (frames : List (Frame Unit)),
      frames.Pairwise (fun first second => first.timestampMs < second.timestampMs) →
        camera.Anchored frames := by
  intro claim
  have anchored := claim (intrusionCamera 0) shortVisit (by simp [shortVisit])
    [⟨1000, [⟨1, ()⟩]⟩, ⟨2000, [⟨1, ()⟩]⟩] ⟨2500, []⟩ [] rfl
  revert anchored
  unfold Frame.Anchors
  decide +kernel

end VideoAnalysis.Behavior
