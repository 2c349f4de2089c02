import VideoAnalysis.Behavior.Anchoring
import VideoAnalysis.Behavior.WindowDecisions

/-! # After the timestamps step back

An adapter that restarts makes the timestamps of a camera step back once. Nobody
tells the store and the cooldown, which go on comparing with what they kept from
before: the last times of the tracks, their observations, and the ends of the
cooldowns.
-/

namespace VideoAnalysis.Behavior

open VideoAnalysis.Foundation

variable {Body : Type}

/-! ## What the state keeps -/

namespace TrackStateStore

def stored (store : TrackStateStore Body) (trackId : Int) : List (Observation Body) :=
  ((store.tracks.get trackId).map (·.observations)).getD []

def lastSeen (store : TrackStateStore Body) (trackId : Int) : Nat :=
  ((store.tracks.get trackId).map (·.lastSeenMs)).getD 0

end TrackStateStore

namespace CameraState

variable {state : CameraState Body}

theorem advance_concat (state : CameraState Body) (frames : List (Frame Body))
    (frame : Frame Body) :
    state.advance (frames ++ [frame]) = ((state.advance frames).processFrame frame).1 := by
  simp [advance]

theorem processFrame_runtime (state : CameraState Body) (frame : Frame Body) :
    (state.processFrame frame).1.runtime = (state.runtime.observe frame).1 := by
  rw [processFrame_eq]

def reported (state : CameraState Body) (frames : List (Frame Body)) : List Finding :=
  cooldownLimit.passed state.cooldown.get (state.runtime.findings frames)

theorem findings_concat (state : CameraState Body) (frames : List (Frame Body))
    (frame : Frame Body) :
    state.runtime.findings (frames ++ [frame]) =
      state.runtime.findings frames ++
        ((state.advance frames).runtime.observe frame).2 := by
  induction frames generalizing state with
  | nil => simp [SourceRuntime.findings, advance]
  | cons first _ induction =>
    have tail := induction (state.processFrame first).1
    rw [processFrame_runtime] at tail
    rw [List.cons_append, SourceRuntime.findings, SourceRuntime.findings, tail,
      List.append_assoc]
    rfl

theorem advance_cooldown (state : CameraState Body) (frames : List (Frame Body)) :
    (state.advance frames).cooldown.get =
      cooldownLimit.after state.cooldown.get (state.runtime.findings frames) := by
  induction frames using List.reverseRecOn with
  | nil => rfl
  | append_singleton _ _ induction =>
    rw [advance_concat, findings_concat, RateLimit.after_append, ← induction, processFrame_eq]
    exact CooldownTracker.reportAll_get _ _

theorem intrusion_mem_advance {rule : IntrusionRule Body} (frames : List (Frame Body))
    (member : .intrusion rule ∈ state.runtime.singleTrackRules) :
    .intrusion rule ∈ (state.advance frames).runtime.singleTrackRules := by
  have still : ∀ tracks : List (TrackState Body),
      (SingleTrackRule.intrusion rule).lookAt tracks = .intrusion rule := by
    intro tracks
    induction tracks with
    | nil => rfl
    | cons _ _ induction => exact induction
  induction frames using List.reverseRecOn with
  | nil => exact member
  | append_singleton _ _ induction =>
    rw [advance_concat, processFrame_runtime]
    simp only [SourceRuntime.observe, observeTracks_rules]
    exact List.mem_map.mpr ⟨_, induction, still _⟩

end CameraState

/-! ## Tracks that are gone -/

def FrameRule.counted (tracks : List (TrackState Body)) (frameTsMs : Nat) :
    FrameRule Body → List (TrackState Body)
  | .crowdGathering rule =>
    presentTracks tracks (CrowdGatheringRule.frameTime tracks frameTsMs)
      rule.params.maxTrackAgeMs
  | .chasing rule =>
    rule.zoneTracks
      (rule.presentPairTracks tracks (CrowdGatheringRule.frameTime tracks frameTsMs))

theorem FrameRule.counted_subset (rule : FrameRule Body) (tracks : List (TrackState Body))
    (frameTsMs : Nat) : rule.counted tracks frameTsMs ⊆ tracks := by
  cases rule with
  | crowdGathering => exact presentTracks_subset _ _ _
  | chasing rule =>
    exact List.Subset.trans (rule.zoneTracks_subset _) (rule.presentPairTracks_subset _ _)

def SeenIn (frames : List (Frame Body)) (trackId : Int) : Prop :=
  ∃ frame ∈ frames, frame.Shows trackId

def restartMs (frames : List (Frame Body)) : Nat :=
  (frames.head?.map (·.timestampMs)).getD 0

namespace CameraState

variable {drop : CameraState Body}

/-- Once the timeout has passed, the tracks of a frame are tracks that the frames
since the drop have shown, and so are the tracks that the frame rules count. -/
def Departs (drop : CameraState Body) (frames : List (Frame Body)) : Prop :=
  ∀ before frame rest, frames = before ++ frame :: rest →
    restartMs frames + drop.runtime.store.trackTimeoutMs < frame.timestampMs →
      let runtime := (drop.advance before).runtime
      let tracks := (runtime.storeAt frame).activeTracks
      (∀ track ∈ tracks, SeenIn (before ++ [frame]) track.trackId) ∧
        ∀ rule ∈ runtime.frameRules, ∀ track ∈ rule.counted tracks (runtime.frameTs frame),
          SeenIn (before ++ [frame]) track.trackId

/-- A track that is stored at the drop and not shown later was last seen more
than a timeout before each frame that comes a timeout after the drop. -/
def Fades (drop : CameraState Body) (frames : List (Frame Body)) : Prop :=
  ∀ before frame rest, frames = before ++ frame :: rest →
    restartMs frames + drop.runtime.store.trackTimeoutMs < frame.timestampMs →
      ∀ trackId track, drop.runtime.store.tracks.get trackId = some track →
        ¬SeenIn (before ++ [frame]) trackId →
          track.lastSeenMs + drop.runtime.store.trackTimeoutMs < frame.timestampMs

theorem advance_wellFormed (frames : List (Frame Body))
    (wellFormed : drop.runtime.store.WellFormed drop.runtime.cameraId) :
    (drop.advance frames).runtime.cameraId = drop.runtime.cameraId ∧
      (drop.advance frames).runtime.store.trackTimeoutMs = drop.runtime.store.trackTimeoutMs ∧
      (drop.advance frames).runtime.store.WellFormed drop.runtime.cameraId := by
  induction frames using List.reverseRecOn with
  | nil => exact ⟨rfl, rfl, wellFormed⟩
  | append_singleton _ frame induction =>
    rcases induction with ⟨sameCamera, sameTimeout, before⟩
    rw [advance_concat, processFrame_runtime]
    refine ⟨sameCamera, sameTimeout, ?_⟩
    rw [← sameCamera] at before ⊢
    exact SourceRuntime.storeAt_wellFormed before frame

theorem advance_get_hidden {frames : List (Frame Body)} {trackId : Int} {track : TrackState Body}
    (wellFormed : drop.runtime.store.WellFormed drop.runtime.cameraId)
    (hidden : ¬SeenIn frames trackId) :
    (drop.advance frames).runtime.store.tracks.get trackId = some track ↔
      drop.runtime.store.tracks.get trackId = some track ∧
        ∀ frame ∈ frames,
          frame.timestampMs ≤ track.lastSeenMs + drop.runtime.store.trackTimeoutMs := by
  induction frames using List.reverseRecOn with
  | nil => simp [advance]
  | append_singleton frames frame induction =>
    rcases advance_wellFormed frames wellFormed with
      ⟨sameCamera, sameTimeout, before⟩
    have hiddenBefore : ¬SeenIn frames trackId := by
      rintro ⟨other, member, shows⟩
      exact hidden ⟨other, List.mem_append_left _ member, shows⟩
    have hiddenNow : ¬frame.Shows trackId := fun shows =>
      hidden ⟨frame, by simp, shows⟩
    rw [← sameCamera] at before
    rw [advance_concat, processFrame_runtime]
    simp only [SourceRuntime.observe]
    rw [SourceRuntime.storeAt_get_hidden before hiddenNow, Option.filter_eq_some_iff,
      induction hiddenBefore, sameTimeout, decide_eq_true_eq]
    simp only [List.mem_append, List.mem_singleton]
    constructor
    · rintro ⟨⟨found, kept⟩, now⟩
      refine ⟨found, ?_⟩
      rintro other (member | rfl)
      · exact kept other member
      · exact now
    · rintro ⟨found, kept⟩
      exact ⟨⟨found, fun other member => kept other (Or.inl member)⟩,
        kept frame (Or.inr rfl)⟩

/-- The departed tracks are gone exactly when the drop leaves none that outlasts
the timeout. -/
theorem departs_iff {frames : List (Frame Body)}
    (wellFormed : drop.runtime.store.WellFormed drop.runtime.cameraId)
    (sorted : Nondecreasing frames) : drop.Departs frames ↔ drop.Fades frames := by
  have storeAfter : ∀ before frame, (drop.advance (before ++ [frame])).runtime.store =
      (drop.advance before).runtime.storeAt frame := by
    intro before frame
    rw [advance_concat, processFrame_runtime]
    rfl
  constructor
  · intro departs before frame rest split timedOut trackId track found hidden
    by_contra lasting
    rw [not_lt] at lasting
    have inPast : ∀ other ∈ before ++ [frame], other.timestampMs ≤ frame.timestampMs := by
      rw [split] at sorted
      intro other member
      rcases List.mem_append.mp member with earlier | isLast
      · exact (List.pairwise_append.mp sorted).2.2 other earlier frame List.mem_cons_self
      · exact (congrArg Frame.timestampMs (List.mem_singleton.mp isLast)).le
    have remains := (advance_get_hidden wellFormed hidden).mpr
      ⟨found, fun other member => (inPast other member).trans lasting⟩
    rw [storeAfter] at remains
    have shown := (departs before frame rest split timedOut).1 track (mem_activeTracks remains)
    rw [(wellFormed.named trackId track found).1] at shown
    exact hidden shown
  · intro fades before frame rest split timedOut
    have shown : ∀ track ∈
        ((drop.advance before).runtime.storeAt frame).activeTracks,
          SeenIn (before ++ [frame]) track.trackId := by
      intro track member
      by_contra hidden
      rcases advance_wellFormed (before ++ [frame]) wellFormed with ⟨_, _, after⟩
      rw [← storeAfter] at member
      rcases (advance_get_hidden wellFormed hidden).mp (after.get_of_mem member) with
        ⟨found, kept⟩
      have gone := fades before frame rest split timedOut track.trackId track found hidden
      have late := kept frame (by simp)
      omega
    exact ⟨shown, fun rule _ track member => shown track (rule.counted_subset _ _ member)⟩

end CameraState

/-! ## Intrusions since the drop -/

/-- The key of `BehaviorRule.cooldown_key` for a track of the camera. -/
def IntrusionRule.cooldownKey (rule : IntrusionRule Body) (cameraId : String)
    (trackId : Int) : String := s!"{cameraId}:{trackId}:{rule.zone.name}"

namespace CameraState

variable {drop : CameraState Body}

/-- An intrusion that has lasted long enough since the drop is reported with the
frame, unless an event with its key was reported since then and still cools down. A cooldown
runs from the end time of its event, not from the time of the frame. -/
def ReportsIntrusions (drop : CameraState Body) (frames : List (Frame Body)) : Prop :=
  ∀ before frame rest, frames = before ++ frame :: rest →
    ∀ rule, SingleTrackRule.intrusion rule ∈ drop.runtime.singleTrackRules →
      ∀ trackId, frame.Shows trackId →
        let cameraId := drop.runtime.cameraId
        let since := history cameraId trackId (before ++ [frame])
        ∀ current, since.getLast? = some current → rule.StayedInside current since →
          (∃ event ∈ ((drop.advance before).processFrame frame).2,
            event.eventType = .intrusion ∧ event.trackId = trackId ∧
              event.zone = rule.zone.name ∧ event.ruleName = rule.config.name) ∨
          ∃ earlier ∈ drop.reported (before ++ [frame]),
            earlier.key = rule.cooldownKey cameraId trackId ∧
              (frame.timestampMs : Int) < earlier.event.endTsMs + earlier.cooldownS * 1000

/-- The observations in the window before a time: those stored at the drop, then
those of the frames since. -/
def keptSince (drop : CameraState Body) (frames : List (Frame Body)) (trackId : Int)
    (seenMs : Nat) : List (Observation Body) :=
  (drop.runtime.store.stored trackId ++
    history drop.runtime.cameraId trackId frames).filter (inWindow 5000 seenMs)

/-- Whenever an intrusion has lasted long enough since the drop, the window before
the time at which the track was seen last, before or after the drop, shows that it
has, and the cooldown that the drop left behind has ended by that time. -/
def Heeds (drop : CameraState Body) (frames : List (Frame Body)) : Prop :=
  ∀ before frame rest, frames = before ++ frame :: rest →
    ∀ rule, SingleTrackRule.intrusion rule ∈ drop.runtime.singleTrackRules →
      ∀ trackId, frame.Shows trackId →
        let cameraId := drop.runtime.cameraId
        let since := history cameraId trackId (before ++ [frame])
        let seenMs := max (drop.runtime.store.lastSeen trackId) frame.timestampMs
        let kept := drop.keptSince (before ++ [frame]) trackId seenMs
        ∀ current, since.getLast? = some current → rule.StayedInside current since →
          (∃ last, kept.getLast? = some last ∧ rule.StayedInside last kept) ∧
            ∀ ends, drop.cooldown.get (rule.cooldownKey cameraId trackId) = some ends →
              ends ≤ seenMs

variable {cameraId : String}

theorem Knows.restart {nowMs : Nat} {past : Int → List (Observation Body)}
    (known : drop.Knows cameraId nowMs past) :
    drop.Knows cameraId 0 drop.runtime.store.stored := by
  refine ⟨known.wellFormed, known.sameCamera, known.window, known.timeout, ?_⟩
  intro trackId valid
  constructor
  · intro track found
    have recent := (known.remembers trackId valid).recent track found
    have stored : drop.runtime.store.stored trackId = track.observations := by
      rw [TrackStateStore.stored, found]
      rfl
    rw [stored]
    constructor
    · rw [recent.1, List.filter_filter]
      simp only [Bool.and_self]
    · intro observation member
      rw [recent.1] at member
      exact recent.2 observation (List.mem_filter.mp member).1
  · intro missing observation member
    rw [TrackStateStore.stored, missing] at member
    exact absurd member List.not_mem_nil

theorem mem_history {trackId : Int} {frames : List (Frame Body)}
    {observation : Observation Body} (member : observation ∈ history cameraId trackId frames) :
    ∃ frame ∈ frames, observation.timestampMs = frame.timestampMs := by
  rcases List.mem_flatMap.mp member with ⟨frame, inFrames, shown⟩
  exact ⟨frame, inFrames, SourceRuntime.shown_times frame cameraId trackId observation shown⟩

theorem lastSeen_eq {nowMs : Nat}
    (dropKnown : drop.Knows cameraId 0 drop.runtime.store.stored)
    {before : List (Frame Body)} {frame : Frame Body}
    (sorted : Nondecreasing (before ++ [frame]))
    (known : (drop.advance (before ++ [frame])).Knows cameraId nowMs fun trackId =>
      drop.runtime.store.stored trackId ++ history cameraId trackId (before ++ [frame]))
    {trackId : Int} (shows : frame.Shows trackId) {track : TrackState Body}
    (found : (drop.advance (before ++ [frame])).runtime.store.tracks.get trackId = some track) :
    track.lastSeenMs = max (drop.runtime.store.lastSeen trackId) frame.timestampMs := by
  have recent := (known.remembers trackId shows.1).recent track found
  have visible := ((frame.shows_iff cameraId trackId).mp shows).2
  have reachesFrame : frame.timestampMs ≤ track.lastSeenMs := by
    rcases List.exists_mem_of_ne_nil _ visible with ⟨observation, member⟩
    have bound := recent.2 observation (by
      rw [history_append]
      exact List.mem_append_right _ (List.mem_append_right _ member))
    have now := SourceRuntime.shown_times frame cameraId trackId observation member
    omega
  have reachesDrop : drop.runtime.store.lastSeen trackId ≤ track.lastSeenMs := by
    cases stored : drop.runtime.store.tracks.get trackId with
    | none => simp [TrackStateStore.lastSeen, stored]
    | some old =>
      rcases (dropKnown.wellFormed.tracks trackId old stored).newest with ⟨newest, member, _⟩
      have bound := recent.2 newest (by
        apply List.mem_append_left
        simpa [TrackStateStore.stored, stored] using member)
      simp only [TrackStateStore.lastSeen, stored, Option.map_some, Option.getD_some]
      omega
  rcases (known.wellFormed.tracks trackId track found).newest with ⟨newest, member, _⟩
  rw [recent.1, List.mem_filter] at member
  rcases List.mem_append.mp member.1 with old | new
  · cases stored : drop.runtime.store.tracks.get trackId with
    | none =>
      rw [TrackStateStore.stored, stored] at old
      exact absurd old List.not_mem_nil
    | some track =>
      rw [TrackStateStore.stored, stored] at old
      have bound := (dropKnown.wellFormed.tracks trackId track stored).bounded newest old
      simp only [TrackStateStore.lastSeen, stored, Option.map_some, Option.getD_some]
        at reachesDrop ⊢
      omega
  · rcases mem_history new with ⟨other, inFrames, _⟩
    have inPast : other.timestampMs ≤ frame.timestampMs := by
      rcases List.mem_append.mp inFrames with earlier | isLast
      · exact (List.pairwise_append.mp sorted).2.2 other earlier frame
          (List.mem_singleton_self _)
      · exact (congrArg Frame.timestampMs (List.mem_singleton.mp isLast)).le
    omega

/-- A finding of the next frame goes out with it, or its key is held: from before
the drop, or by a report since. -/
theorem event_or_held {before : List (Frame Body)} {frame : Frame Body} {finding : Finding}
    (member : finding ∈ ((drop.advance before).runtime.observe frame).2) :
    finding.event ∈ ((drop.advance before).processFrame frame).2 ∨
      (∃ ends, drop.cooldown.get finding.key = some ends ∧
        (finding.event.endTsMs : Int) < ends) ∨
      ∃ earlier ∈ drop.reported (before ++ [frame]), earlier.key = finding.key ∧
        (finding.event.endTsMs : Int) <
          earlier.event.endTsMs + earlier.cooldownS * 1000 := by
  rcases List.append_of_mem member with ⟨first, later, split⟩
  have reported : drop.reported (before ++ [frame]) =
      drop.reported before ++ cooldownLimit.passed (drop.advance before).cooldown.get
        (first ++ finding :: later) := by
    rw [CameraState.reported, findings_concat, RateLimit.passed_append, ← advance_cooldown,
      split]
    rfl
  rw [reported, processFrame_eq, CooldownTracker.reportAll_events, split]
  rcases cooldownLimit.mem_passed_or_held (drop.advance before).cooldown.get first finding
    later with passed | ⟨ends, held, blocks⟩ | ⟨earlier, inFrame, _, sameKey, blocks⟩
  · exact Or.inl (List.mem_map_of_mem passed)
  · right
    rw [advance_cooldown] at held
    rcases cooldownLimit.after_eq_some held with kept | ⟨earlier, passed, sameKey, holds⟩
    · exact Or.inl ⟨ends, kept, blocks⟩
    · right
      rw [← holds] at blocks
      exact ⟨earlier, List.mem_append_left _ passed, sameKey, blocks⟩
  · exact Or.inr (Or.inr ⟨earlier, List.mem_append_right _ inFrame, sameKey, blocks⟩)

theorem reportsIntrusions_of_heeds
    (known : drop.Knows drop.runtime.cameraId 0 drop.runtime.store.stored)
    {frames : List (Frame Body)} (sorted : Nondecreasing frames) (heeds : drop.Heeds frames) :
    drop.ReportsIntrusions frames := by
  intro before frame rest split rule inRules trackId shows cameraId since current isLast stayed
  rcases heeds before frame rest split rule inRules trackId shows current isLast stayed with
    ⟨⟨_, isLastKept, stays⟩, ended⟩
  have sortedPrefix : Nondecreasing (before ++ [frame]) := by
    apply List.Pairwise.sublist _ sorted
    rw [split]
    exact (List.sublist_append_left [frame] rest).append_left before
  rcases known.advance (fun _ _ => Nat.zero_le _) sortedPrefix with ⟨_, after, _⟩
  rcases advance_wellFormed before known.wellFormed with ⟨sameCamera, _, stored⟩
  rw [← sameCamera] at stored
  rcases SourceRuntime.storeAt_get_shown stored shows with ⟨track, found⟩
  have storeAfter : (drop.advance (before ++ [frame])).runtime.store =
      (drop.advance before).runtime.storeAt frame := by
    rw [advance_concat, processFrame_runtime]
    rfl
  rw [← storeAfter] at found
  have seenLast := lastSeen_eq known sortedPrefix after shows found
  have kept : track.observations = drop.keptSince (before ++ [frame]) trackId
      (max (drop.runtime.store.lastSeen trackId) frame.timestampMs) := by
    have recent := ((after.remembers trackId shows.1).recent track found).1
    rw [after.window, seenLast] at recent
    exact recent
  rw [← kept] at isLastKept stays
  have sees := (rule.finding_isSome track isLastKept).mpr stays
  rcases Option.isSome_iff_exists.mp sees with ⟨finding, isFinding⟩
  have trackId_eq := (after.wellFormed.named trackId track found).1
  have wellFormed := after.wellFormed.tracks trackId track found
  rw [after.sameCamera] at wellFormed
  have shape := @SingleTrackRule.observe_finding _ (.intrusion rule) _ _ wellFormed _ isFinding
  rcases shape with ⟨_, isShape⟩
  rw [storeAfter] at found
  have inFrame := List.mem_append_left
    (observeFrameRules (drop.advance before).runtime.frameRules
      ((drop.advance before).runtime.storeAt frame).activeTracks
      ((drop.advance before).runtime.frameTs frame)).2
    (finding_mem (SourceRuntime.storeAt_wellFormed stored frame).distinctTracks
      (mem_activeTracks found) (intrusion_mem_advance before inRules) isFinding)
  have key : finding.key = rule.cooldownKey cameraId trackId := by
    rw [isShape, trackId_eq]
    rfl
  have endTime : finding.event.endTsMs =
      max (drop.runtime.store.lastSeen trackId) frame.timestampMs := by
    rw [isShape]
    exact seenLast
  rcases event_or_held inFrame with out | ⟨ends, held, blocks⟩ | ⟨earlier, reported, sameKey,
    blocks⟩
  · left
    refine ⟨finding.event, out, ?_⟩
    rw [isShape, trackId_eq]
    exact ⟨rfl, rfl, rfl, rfl⟩
  · rw [key] at held
    have past := ended ends held
    omega
  · right
    refine ⟨earlier, reported, sameKey.trans key, ?_⟩
    omega

end CameraState

/-- Recovery from a drop: the departed tracks go, and intrusions are reported. -/
structure CameraState.Recovers (drop : CameraState Body) (frames : List (Frame Body)) :
    Prop where
  departs : drop.Departs frames
  reportsIntrusions : drop.ReportsIntrusions frames

/-- A drop from which a camera recovers: no departed track outlasts the timeout,
which is necessary as well, and no intrusion meets what the drop left behind. -/
theorem step_back_recovers (camera : CameraEntry Body) (before frames : List (Frame Body))
    (sortedBefore : Nondecreasing before) (sorted : Nondecreasing frames) :
    let drop := camera.start.advance before
    (drop.Departs frames ↔ drop.Fades frames) ∧
      (drop.Fades frames → drop.Heeds frames → drop.Recovers frames) := by
  intro drop
  rcases camera.advance_knows sortedBefore with ⟨_, known⟩
  have atDrop : drop.Knows drop.runtime.cameraId 0 drop.runtime.store.stored := by
    have sameCamera : drop.runtime.cameraId = camera.cameraId := known.sameCamera
    rw [sameCamera]
    exact known.restart
  have departs := CameraState.departs_iff atDrop.wellFormed sorted
  refine ⟨departs, fun fades heeds => ?_⟩
  exact ⟨departs.mpr fades, CameraState.reportsIntrusions_of_heeds atDrop sorted heeds⟩

/-! ## An adapter that restarts -/

/-- One person is reported and another is seen before the drop. -/
def beforeRestart : List (Frame Unit) :=
  [⟨100000, [⟨1, ()⟩, ⟨2, ()⟩]⟩, ⟨101000, [⟨1, ()⟩, ⟨2, ()⟩]⟩]

def afterRestart : List (Frame Unit) :=
  [⟨1000, [⟨1, ()⟩]⟩, ⟨2000, [⟨1, ()⟩]⟩, ⟨20000, [⟨1, ()⟩]⟩]

/-- The camera in the state in which the timestamps step back. -/
def atRestart : CameraState Unit := (intrusionCamera 30).start.advance beforeRestart

def perimeterIntrusion : IntrusionRule Unit where
  config := { name := "intrusion", cooldownS := 30 }
  zone := wholeFrame

theorem atRestart_rule :
    .intrusion perimeterIntrusion ∈ atRestart.runtime.singleTrackRules :=
  CameraState.intrusion_mem_advance beforeRestart (List.mem_singleton.mpr rfl)

/-- The second person is active twenty seconds after the restart, and the first is
not reported again. -/
theorem restart_keeps_departed_and_silences :
    ¬atRestart.Departs afterRestart ∧ ¬atRestart.ReportsIntrusions afterRestart := by
  constructor
  · intro departs
    have shown := (departs [⟨1000, [⟨1, ()⟩]⟩, ⟨2000, [⟨1, ()⟩]⟩] ⟨20000, [⟨1, ()⟩]⟩ [] rfl
      (by decide +kernel)).1
    revert shown
    unfold SeenIn
    decide +kernel
  · intro reports
    have reported := reports [⟨1000, [⟨1, ()⟩]⟩] ⟨2000, [⟨1, ()⟩]⟩ [⟨20000, [⟨1, ()⟩]⟩] rfl
      perimeterIntrusion atRestart_rule 1 (by decide) ⟨"cam_001", 1, 2000, ()⟩ rfl
      ⟨rfl, by decide +kernel⟩
    have noEvent : ((atRestart.advance [⟨1000, [⟨1, ()⟩]⟩]).processFrame
        ⟨2000, [⟨1, ()⟩]⟩).2 = [] := by decide +kernel
    have noReport : atRestart.reported ([⟨1000, [⟨1, ()⟩]⟩] ++ [⟨2000, [⟨1, ()⟩]⟩]) = [] := by
      decide +kernel
    rw [noEvent, noReport] at reported
    simp at reported

/-! ## A short step back -/

def beforeStep : List (Frame Unit) := [⟨1000, [⟨1, ()⟩]⟩, ⟨2000, []⟩]

def afterStep : List (Frame Unit) := [⟨1500, [⟨2, ()⟩]⟩, ⟨2500, [⟨2, ()⟩]⟩, ⟨12600, []⟩]

def atStep : CameraState Unit := (intrusionCamera 30).start.advance beforeStep

theorem atStep_fades : atStep.Fades afterStep := by
  intro before frame rest split timedOut trackId track found hidden
  have early : ∀ entry ∈ atStep.runtime.store.tracks.entries, entry.2.lastSeenMs ≤ 1000 := by
    decide +kernel
  have bound := early (trackId, track) (Dict.mem_of_get found)
  have restart : restartMs afterStep = 1500 := rfl
  have timeout : atStep.runtime.store.trackTimeoutMs = 10000 := rfl
  simp only at bound
  omega

/-- The newcomer is inside long enough in the second frame, and nothing is left
of the first person then. -/
theorem atStep_heeds : atStep.Heeds afterStep := by
  have rules : atStep.runtime.singleTrackRules = [.intrusion perimeterIntrusion] := rfl
  intro before frame rest split rule inRules trackId shows cameraId since seenMs kept current
    isLast stayed
  rw [rules, List.mem_singleton] at inRules
  injection inRules with isRule
  subst isRule
  rcases before with _ | ⟨first, _ | ⟨second, _ | ⟨third, before⟩⟩⟩
  · cases split
    have isNew : 2 = trackId := by simpa using shows.2
    subst isNew
    injection isLast with isCurrent
    subst isCurrent
    exact absurd stayed.2 (by decide +kernel)
  · cases split
    have isNew : 2 = trackId := by simpa using shows.2
    subst isNew
    refine ⟨⟨⟨"cam_001", 2, 2500, ()⟩, rfl, rfl, by decide +kernel⟩, ?_⟩
    intro ends held
    have unused : atStep.cooldown.get
        (perimeterIntrusion.cooldownKey atStep.runtime.cameraId 2) = none := by
      decide +kernel
    rw [unused] at held
    exact absurd held (by simp)
  · cases split
    exact absurd shows.2 (by simp)
  · exact absurd split (by simp [afterStep])

theorem short_step_recovers : atStep.Recovers afterStep := by
  apply (step_back_recovers (intrusionCamera 30) beforeStep afterStep
    (by simp [Nondecreasing, beforeStep]) (by simp [Nondecreasing, afterStep])).2 atStep_fades
  exact atStep_heeds

end VideoAnalysis.Behavior
