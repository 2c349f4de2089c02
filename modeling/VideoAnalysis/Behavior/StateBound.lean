import VideoAnalysis.Behavior.StateGrowth

/-! # The size of the per-track state

The entries of a run are bounded by the number of track ids per frame, the timeouts
and the tolerances, and by the number of persons that the run has shown.
-/

namespace VideoAnalysis.Behavior

open VideoAnalysis.Foundation

variable {Body : Type}

/-! ## Stored tracks -/

def Increasing (frames : List (Frame Body)) : Prop :=
  frames.Pairwise fun first second => first.timestampMs < second.timestampMs

def FewShown (k : Nat) (frames : List (Frame Body)) : Prop :=
  ∀ moment, ∃ trackIds : Finset Int, trackIds.card ≤ k ∧ ∀ frame ∈ frames,
    frame.timestampMs = moment → ∀ trackId, frame.Shows trackId → trackId ∈ trackIds

/-- What a camera has stored after some frames. -/
structure CameraEntry.Stored (camera : CameraEntry Body) (state : CameraState Body)
    (frames : List (Frame Body)) : Prop where
  sameCamera : state.runtime.cameraId = camera.cameraId
  sameTimeout : state.runtime.store.trackTimeoutMs = camera.build.store.trackTimeoutMs
  wellFormed : state.runtime.store.WellFormed camera.cameraId
  shown : ∀ trackId track, state.runtime.store.tracks.get trackId = some track →
    ∃ frame ∈ frames, frame.timestampMs = track.lastSeenMs ∧ frame.Shows trackId
  recent : ∀ trackId track, state.runtime.store.tracks.get trackId = some track →
    ∀ frame ∈ frames, frame.timestampMs ≤ track.lastSeenMs + camera.build.store.trackTimeoutMs

namespace CameraEntry

variable {camera : CameraEntry Body} {state : CameraState Body} {frames : List (Frame Body)}

theorem stored_start (camera : CameraEntry Body) : camera.Stored camera.start [] := by
  refine ⟨rfl, rfl, camera.build_wellFormed, ?_, ?_⟩
  all_goals
    intro trackId track found
    exact absurd found (by simp [start, build])

theorem Stored.seenBy (stored : camera.Stored state frames) {nowMs : Nat}
    (later : ∀ frame ∈ frames, frame.timestampMs ≤ nowMs) :
    state.runtime.store.SeenBy nowMs := by
  intro trackId track found
  rcases stored.shown trackId track found with ⟨frame, member, isTime, _⟩
  exact isTime ▸ later frame member

theorem Stored.processFrame (stored : camera.Stored state frames) {frame : Frame Body}
    (later : ∀ other ∈ frames, other.timestampMs < frame.timestampMs) :
    camera.Stored (state.processFrame frame).1 (frames ++ [frame]) := by
  have wellFormed := stored.wellFormed
  rw [← stored.sameCamera] at wellFormed
  rw [CameraState.processFrame_eq]
  refine ⟨stored.sameCamera, stored.sameTimeout, ?_, ?_, ?_⟩
  · rw [← stored.sameCamera]
    exact SourceRuntime.storeAt_wellFormed wellFormed frame
  · intro trackId track found
    have spec := (SourceRuntime.storeAt_get wellFormed found).2
    by_cases shows : frame.Shows trackId
    · rw [if_pos shows] at spec
      refine ⟨frame, by simp, ?_, shows⟩
      rw [spec.2]
      cases old : state.runtime.store.tracks.get trackId with
      | none => simp
      | some before =>
        have past := stored.seenBy (fun other member => (later other member).le)
          trackId before old
        rw [Option.getD_some]
        omega
    · rw [if_neg shows] at spec
      rcases stored.shown trackId track spec with ⟨other, member, isTime, shown⟩
      exact ⟨other, List.mem_append_left _ member, isTime, shown⟩
  · intro trackId track found other member
    have kept := (SourceRuntime.storeAt_get wellFormed found).1
    rw [stored.sameTimeout] at kept
    rcases List.mem_append.mp member with earlier | isLast
    · exact (later other earlier).le.trans kept
    · rw [List.mem_singleton.mp isLast]
      exact kept

theorem Stored.size_le (stored : camera.Stored state frames) {k : Nat}
    (increasing : Increasing frames) (few : FewShown k frames) :
    state.runtime.store.tracks.size ≤ k * (camera.build.store.trackTimeoutMs + 1) := by
  rcases frames.eq_nil_or_concat' with rfl | ⟨before, frame, rfl⟩
  · have empty : state.runtime.store.tracks.size ≤ (∅ : Finset Int).card := by
      apply Dict.size_le_of_domain stored.wellFormed.distinct
      intro trackId track found
      rcases stored.shown trackId track found with ⟨_, member, _⟩
      exact absurd member List.not_mem_nil
    exact empty.trans (Nat.zero_le _)
  · have past := (List.pairwise_append.mp increasing).2.2
    have seen : state.runtime.store.SeenBy frame.timestampMs := by
      apply stored.seenBy
      intro other member
      rcases List.mem_append.mp member with earlier | isLast
      · exact (past other earlier frame (List.mem_singleton_self _)).le
      · exact (congrArg Frame.timestampMs (List.mem_singleton.mp isLast)).le
    have bound := Dict.size_le_of_times stored.wellFormed.distinct
      (fun track => (track.lastSeenMs : Int))
      ((frame.timestampMs : Int) - camera.build.store.trackTimeoutMs) frame.timestampMs k ?_ ?_
    · have width : ((frame.timestampMs : Int) + 1 -
          ((frame.timestampMs : Int) - camera.build.store.trackTimeoutMs)).toNat =
            camera.build.store.trackTimeoutMs + 1 := by
        omega
      rw [width] at bound
      exact bound
    · intro trackId track found
      have notLater := seen trackId track found
      have kept := stored.recent trackId track found frame (by simp)
      omega
    · intro moment
      rcases few moment.toNat with ⟨trackIds, small, covers⟩
      refine ⟨trackIds, small, ?_⟩
      intro trackId track found isMoment
      rcases stored.shown trackId track found with ⟨other, member, _, shows⟩
      exact covers other member (by omega) trackId shows

end CameraEntry

/-! ## What the rules have remembered -/

/-- A frame rule has kept few pairs since it was built. -/
structure FrameRule.Kept (limit : Nat) (frames : List (Frame Body))
    (base rule : FrameRule Body) : Prop where
  sameGap : rule.pairGapMs = base.pairGapMs
  pairs : ∀ chasing, rule = .chasing chasing →
    chasing.config.enabled = true ∧ (∃ nowMs, chasing.PairsKept nowMs limit) ∧
      ∀ key missingSince, chasing.pairMissingSince.get key = some missingSince →
        ∃ frame ∈ frames, missingSince ≤ frame.timestampMs

def FrameRule.pairBound (limit : Nat) (rule : FrameRule Body) : Nat :=
  limit + 2 * (limit * (rule.pairGapMs + 1).toNat)

theorem FrameRule.Kept.pairEntries_le {limit : Nat} {frames : List (Frame Body)}
    {base rule : FrameRule Body} (kept : FrameRule.Kept limit frames base rule) :
    rule.pairEntries ≤ base.pairBound limit := by
  rw [pairBound, ← kept.sameGap]
  cases rule with
  | crowdGathering => exact Nat.zero_le _
  | chasing rule =>
    rcases (kept.pairs rule rfl).2.1 with ⟨_, pairsKept⟩
    exact pairsKept.size_le

/-- The step lemma of a frame rule. -/
theorem FrameRule.Kept.observeFrame {limit : Nat} {frames : List (Frame Body)}
    {base rule : FrameRule Body} (kept : FrameRule.Kept limit frames base rule)
    {tracks : List (TrackState Body)} {frameTsMs : Nat} {frame : Frame Body}
    (isTime : CrowdGatheringRule.frameTime tracks frameTsMs = frame.timestampMs)
    (later : ∀ other ∈ frames, other.timestampMs < frame.timestampMs)
    (few : tracks.length * tracks.length ≤ limit) :
    FrameRule.Kept limit (frames ++ [frame]) base
      (rule.observeFrame tracks frameTsMs).1 := by
  cases rule with
  | crowdGathering =>
    refine ⟨kept.sameGap, ?_⟩
    intro chasing isChasing
    exact absurd isChasing (by simp [FrameRule.observeFrame])
  | chasing rule =>
    rcases kept.pairs rule rfl with ⟨enabled, ⟨_, pairsKept⟩, inPast⟩
    have missingLater : ∀ key missingSince,
        rule.pairMissingSince.get key = some missingSince →
          missingSince < frame.timestampMs := by
      intro key missingSince found
      rcases inPast key missingSince found with ⟨other, member, bound⟩
      exact bound.trans_lt (later other member)
    rcases pairsKept.observeFrame enabled isTime missingLater few with ⟨next, same⟩
    refine ⟨?_, ?_⟩
    · rw [← kept.sameGap]
      exact congrArg ChasingConfig.pairGapToleranceMs same.params
    · intro chasing isChasing
      rw [FrameRule.observeFrame, FrameRule.chasing.injEq] at isChasing
      rw [← isChasing]
      refine ⟨?_, ⟨frame.timestampMs, next⟩, ?_⟩
      · rcases same with ⟨_, _, equation⟩
        rw [equation]
        exact enabled
      · intro key missingSince found
        exact ⟨frame, by simp, (next.times key missingSince found).1⟩

namespace CameraEntry

variable {camera : CameraEntry Body} {state : CameraState Body} {frames : List (Frame Body)}

def storeBound (camera : CameraEntry Body) (k : Nat) : Nat :=
  k * (camera.build.store.trackTimeoutMs + 1)

def Remembered (camera : CameraEntry Body) (k : Nat) (state : CameraState Body)
    (frames : List (Frame Body)) : Prop :=
  List.Forall₂ (FrameRule.Kept (camera.storeBound k * camera.storeBound k) frames)
    camera.build.frameRules state.runtime.frameRules

theorem remembered_start (camera : CameraEntry Body) (k : Nat) :
    camera.Remembered k camera.start [] := by
  apply List.forall₂_same.mpr
  intro rule member
  refine ⟨rfl, ?_⟩
  intro chasing isChasing
  rcases List.mem_filterMap.mp member with ⟨entry, inRules, isRule⟩
  have enabled := (List.mem_filter.mp inRules).2
  rw [isChasing] at isRule
  cases entry with
  | chasing config zone params =>
    have same : chasing = { config, zone, params } :=
      (FrameRule.chasing.inj (Option.some.inj isRule)).symm
    rw [same]
    have empty := ChasingRule.pairsKept_empty { config, zone, params } 0
      (camera.storeBound k * camera.storeBound k)
    refine ⟨enabled, ⟨0, empty⟩, ?_⟩
    intro key missingSince found
    exact absurd found (by simp)
  | crowdGathering | intrusion | loitering | running | fall =>
    exact absurd isRule (by simp [RuleEntry.frameRule])

theorem Remembered.processFrame {k : Nat} (remembered : camera.Remembered k state frames)
    (stored : camera.Stored state frames) {frame : Frame Body}
    (increasing : Increasing (frames ++ [frame])) (few : FewShown k (frames ++ [frame])) :
    camera.Remembered k (state.processFrame frame).1 (frames ++ [frame]) := by
  have later : ∀ other ∈ frames, other.timestampMs < frame.timestampMs := fun other member =>
    (List.pairwise_append.mp increasing).2.2 other member frame (List.mem_singleton_self _)
  have wellFormed := stored.wellFormed
  rw [← stored.sameCamera] at wellFormed
  have next := stored.processFrame later
  unfold Remembered
  rw [CameraState.processFrame_runtime]
  simp only [SourceRuntime.observe, observeFrameRules]
  rw [List.forall₂_map_right_iff]
  apply remembered.imp
  intro base rule kept
  apply kept.observeFrame _ later
  · have small := next.size_le increasing few
    rw [CameraState.processFrame_runtime] at small
    have short : (state.runtime.storeAt frame).activeTracks.length ≤
        camera.storeBound k := by
      rw [TrackStateStore.activeTracks, Dict.values, List.length_map]
      exact small
    exact Nat.mul_le_mul short short
  · exact SourceRuntime.frameTime_eq wellFormed
      (stored.seenBy fun other member => (later other member).le)

/-- The run lemma of a camera. -/
theorem advance_remembered (camera : CameraEntry Body) {k : Nat} {frames : List (Frame Body)}
    (increasing : Increasing frames) (few : FewShown k frames) :
    camera.Stored (camera.start.advance frames) frames ∧
      camera.Remembered k (camera.start.advance frames) frames := by
  induction frames using List.reverseRecOn with
  | nil => exact ⟨camera.stored_start, camera.remembered_start k⟩
  | append_singleton frames frame induction =>
    rcases List.pairwise_append.mp increasing with ⟨earlier, _, past⟩
    have fewBefore : FewShown k frames := by
      intro moment
      rcases few moment with ⟨trackIds, small, covers⟩
      exact ⟨trackIds, small, fun other member =>
        covers other (List.mem_append_left _ member)⟩
    rcases induction earlier fewBefore with ⟨stored, remembered⟩
    rw [CameraState.advance_concat]
    exact ⟨stored.processFrame fun other member =>
        past other member frame (List.mem_singleton_self _),
      remembered.processFrame stored increasing few⟩

end CameraEntry

/-! ## What is never pruned -/

theorem CooldownTracker.reportAll_distinct {cooldown : CooldownTracker}
    (distinct : cooldown.Distinct) (findings : List Finding) :
    (cooldown.reportAll findings).1.Distinct := by
  induction findings generalizing cooldown with
  | nil => exact distinct
  | cons _ _ induction =>
    simp only [CooldownTracker.reportAll]
    apply induction
    unfold CooldownTracker.report
    split
    · exact distinct.set _ _
    · exact distinct

theorem CameraEntry.cooldown_distinct (camera : CameraEntry Body) (frames : List (Frame Body)) :
    (camera.start.advance frames).cooldown.Distinct := by
  induction frames using List.reverseRecOn with
  | nil => exact Dict.distinct_empty
  | append_singleton _ _ induction =>
    rw [CameraState.advance_concat, CameraState.processFrame_eq]
    exact CooldownTracker.reportAll_distinct induction _

theorem CameraEntry.cooldown_size (camera : CameraEntry Body) (frames : List (Frame Body)) :
    (camera.start.advance frames).cooldown.size =
      ((camera.findings frames).map Finding.key).toFinset.card := by
  rw [Dict.size_eq_card (camera.cooldown_distinct frames)]
  apply congrArg
  ext key
  have known := @RateLimit.after_isSome _ _ _ cooldownLimit key (fun _ => none)
    (camera.findings frames)
  rw [Dict.mem_domain, CameraState.advance_cooldown, List.mem_toFinset, List.mem_map]
  apply known.trans
  simp [cooldownLimit]

namespace ModuleConfig

variable (config : ModuleConfig Body)

theorem personThrottle_size (frames : List (MonitoredFrame Body)) :
    (config.advance frames).personThrottle.lastExported.size =
      personCount config.camera.cameraId (frames.map MonitoredFrame.frame) := by
  have kept : (config.advance frames).personThrottle.lastExported.Distinct ∧
      (config.advance frames).camera.runtime.cameraId = config.camera.cameraId ∧
      (config.advance frames).personThrottle.lastExported.domain =
        (personKeys config.camera.cameraId
          (frames.map MonitoredFrame.frame)).toFinset := by
    induction frames using List.reverseRecOn with
    | nil => exact ⟨Dict.distinct_empty, rfl, rfl⟩
    | append_singleton _ _ induction =>
      rcases induction with ⟨distinct, sameCamera, domain⟩
      rw [advance_concat]
      refine ⟨PersonObservationThrottleMap.exportPersons_distinct distinct _ _, ?_, ?_⟩
      · simp only [processFrame]
        rw [CameraState.processFrame_runtime]
        exact sameCamera
      · simp only [processFrame]
        rw [PersonObservationThrottleMap.exportPersons_domain, domain, sameCamera]
        simp [personKeys]
  rw [Dict.size_eq_card kept.1, kept.2.2, personCount]

/-! ## Faces -/

/-- The face throttle records a tracked face of a frame at the time of the frame. -/
def FaceExported (frames : List (MonitoredFrame Body)) (throttleKey : String)
    (moment : Nat) : Prop :=
  ∃ monitored ∈ frames, monitored.faceTimeMs = moment ∧
    ∃ face ∈ monitored.faces, 0 < face.trackId ∧
      faceThrottleKey config.camera.cameraId config.sourceId face.trackId = throttleKey

theorem exportThrottle_recent {frames : List (MonitoredFrame Body)}
    (faceTimes : frames.Pairwise fun first second => first.faceTimeMs < second.faceTimeMs) :
    let throttle := (config.advance frames).exportThrottle
    throttle.stateTtlMs = config.start.exportThrottle.stateTtlMs ∧
      ∃ nowMs, (nowMs = 0 ∨ ∃ monitored ∈ frames, monitored.faceTimeMs = nowMs) ∧
        throttle.Recent s!"{config.camera.cameraId}:{config.sourceId}" nowMs
          (config.FaceExported frames) := by
  induction frames using List.reverseRecOn with
  | nil => exact ⟨rfl, 0, Or.inl rfl, ReIDThrottleMap.recent_create _ _ _ _ _⟩
  | append_singleton frames monitored induction =>
    rcases List.pairwise_append.mp faceTimes with ⟨earlier, _, past⟩
    rcases induction earlier with ⟨sameTtl, nowMs, reached, recent⟩
    have positive : 0 < (config.advance frames).exportThrottle.stateTtlMs := by
      rw [sameTtl]
      simp only [start, ReIDThrottleMap.create]
      omega
    have later : nowMs ≤ monitored.faceTimeMs := by
      rcases reached with zero | ⟨other, member, isNow⟩
      · omega
      · have before := past other member monitored (List.mem_singleton_self _)
        omega
    have more : (config.advance frames).exportThrottle.Recent
        s!"{config.camera.cameraId}:{config.sourceId}" nowMs
        (config.FaceExported (frames ++ [monitored])) := by
      apply recent.mono (Nat.le_refl nowMs)
      rintro key moment ⟨other, member, rest⟩
      exact ⟨other, List.mem_append_left _ member, rest⟩
    rcases more.exportFaces positive later monitored.faces fun face member tracked =>
      ⟨monitored, by simp, rfl, face, member, tracked, rfl⟩ with ⟨nextTtl, next⟩
    rw [advance_concat]
    exact ⟨nextTtl.trans sameTtl, monitored.faceTimeMs, Or.inr ⟨monitored, by simp, rfl⟩,
      next⟩

theorem exportThrottle_size {k : Nat} {frames : List (MonitoredFrame Body)}
    (regime : Regime k frames) :
    (config.advance frames).exportThrottle.trackedCount +
      (config.advance frames).exportThrottle.lastPruneMs.size ≤
        k * (2 * config.start.exportThrottle.stateTtlMs) + 1 := by
  rcases config.exportThrottle_recent regime.faceTimes with ⟨sameTtl, _, _, recent⟩
  have fewKeys : ∀ moment, ∃ keys : Finset String, keys.card ≤ k ∧
      ∀ key, config.FaceExported frames key moment → key ∈ keys := by
    intro moment
    rcases few_at_time regime.faceTimes regime.few moment with ⟨trackIds, few, covers⟩
    refine ⟨trackIds.image (faceThrottleKey config.camera.cameraId config.sourceId),
      Finset.card_image_le.trans few, ?_⟩
    rintro key ⟨monitored, member, isMoment, face, inFaces, tracked, rfl⟩
    apply Finset.mem_image_of_mem
    apply covers monitored member isMoment
    rw [MonitoredFrame.trackIds, List.mem_toFinset, List.mem_append]
    apply Or.inr
    rw [List.mem_filter]
    exact ⟨List.mem_map_of_mem inFaces, by simpa using tracked⟩
  have small := recent.trackedCount_le fewKeys
  rw [sameTtl] at small
  omega

/-! ## All entries -/

/-- The cooldown keys and the starts that so many tracks can leave behind. -/
def leftBehind (tracks : Nat) : Nat :=
  config.camera.faces.length * (tracks + 1) ^ 2 + config.camera.faces.length * tracks

theorem leftBehind_mono {tracks more : Nat} (fewer : tracks ≤ more) :
    config.leftBehind tracks ≤ config.leftBehind more :=
  Nat.add_le_add
    (Nat.mul_le_mul_left _ (Nat.pow_le_pow_left (Nat.add_le_add_right fewer 1) 2))
    (Nat.mul_le_mul_left _ fewer)

/-- What the number of track ids per frame, the timeouts and the tolerances allow, with
what the persons of a run leave behind. -/
def entriesBound (k persons : Nat) : Nat :=
  let stored := config.camera.storeBound k
  stored + (config.camera.build.frameRules.map (FrameRule.pairBound (stored * stored))).sum +
    (k * (2 * config.start.exportThrottle.stateTtlMs) + 1) + config.leftBehind persons + persons

theorem increasing_of_regime {k : Nat} {frames : List (MonitoredFrame Body)}
    (regime : Regime k frames) :
    Increasing (frames.map MonitoredFrame.frame) ∧
      FewShown k (frames.map MonitoredFrame.frame) := by
  constructor
  · exact List.pairwise_map.mpr regime.increasing
  · intro moment
    rcases few_at_time regime.increasing regime.few moment with ⟨trackIds, few, covers⟩
    refine ⟨trackIds, few, ?_⟩
    intro frame member isMoment trackId shows
    rcases List.mem_map.mp member with ⟨monitored, inFrames, rfl⟩
    apply covers monitored inFrames isMoment
    rcases shows with ⟨valid, _, inPersons, rfl⟩
    rw [MonitoredFrame.trackIds, List.mem_toFinset, List.mem_append]
    apply Or.inl
    rw [List.mem_filter]
    exact ⟨List.mem_map_of_mem inPersons, valid⟩

theorem personCount_le_entries (frames : List (MonitoredFrame Body)) :
    personCount config.camera.cameraId (frames.map MonitoredFrame.frame) ≤
      (config.advance frames).entries := by
  have persons := config.personThrottle_size frames
  unfold ModuleState.entries
  omega

theorem entries_le {k : Nat} {frames : List (MonitoredFrame Body)} (regime : Regime k frames) :
    (config.advance frames).entries ≤ config.entriesBound k
      (personCount config.camera.cameraId (frames.map MonitoredFrame.frame)) := by
  have persons := config.personThrottle_size frames
  have faces := config.exportThrottle_size regime
  have camera := config.advance_camera frames
  rcases increasing_of_regime regime with ⟨increasing, few⟩
  generalize frames.map MonitoredFrame.frame = seen at *
  rcases config.camera.advance_remembered increasing few with ⟨stored, remembered⟩
  have among : (config.camera.start.advance seen).runtime.Among config.camera.cameraId
      config.camera.faces (shownTracks seen) :=
    CameraState.advance_among (config.camera.build_among _) fun _ => mem_shownTracks.mpr
  have store := stored.size_le increasing few
  have cooldown := config.camera.cooldown_size seen
  rw [← camera] at among remembered store cooldown
  have keys := config.camera.findingKeys_le seen
  have starts : ((config.advance frames).camera.runtime.singleTrackRules.map
      (·.since.size)).sum ≤ config.camera.faces.length * (shownTracks seen).card := by
    have rules := among.rules
    rw [← among.faces, List.length_append, SourceRuntime.singleTrackFaces, List.length_map,
      Nat.add_mul]
    apply Nat.le_add_right_of_le
    generalize (config.advance frames).camera.runtime.singleTrackRules = known at rules
    induction known with
    | nil => simp
    | cons _ _ induction =>
      rw [List.forall_mem_cons] at rules
      have first := rules.1.size_le
      have others := induction rules.2
      rw [List.map_cons, List.sum_cons, List.length_cons, Nat.succ_mul]
      omega
  have pairs : ((config.advance frames).camera.runtime.frameRules.map
      FrameRule.pairEntries).sum ≤
        (config.camera.build.frameRules.map
          (FrameRule.pairBound
            (config.camera.storeBound k * config.camera.storeBound k))).sum := by
    apply List.Forall₂.sum_le_sum
    rw [List.forall₂_map_left_iff, List.forall₂_map_right_iff]
    exact remembered.flip.imp fun _ _ kept => kept.pairEntries_le
  have left := config.leftBehind_mono (card_shownTracks_le config.camera.cameraId seen)
  simp only [ModuleState.entries, entriesBound, leftBehind] at left ⊢
  unfold CameraEntry.storeBound at *
  omega

end ModuleConfig

/-- Over any set of runs, the per-track state is bounded exactly when the runs show a
bounded number of persons. -/
theorem state_bounded_iff (config : ModuleConfig Body) (k : Nat)
    (runs : Set (List (MonitoredFrame Body))) (regime : ∀ run ∈ runs, Regime k run) :
    (∃ bound, ∀ run ∈ runs, (config.advance run).entries ≤ bound) ↔
      ∃ bound, ∀ run ∈ runs,
        personCount config.camera.cameraId (run.map MonitoredFrame.frame) ≤ bound := by
  constructor
  · rintro ⟨bound, holds⟩
    exact ⟨bound, fun run member =>
      (config.personCount_le_entries run).trans (holds run member)⟩
  · rintro ⟨bound, few⟩
    refine ⟨config.entriesBound k bound, ?_⟩
    intro run member
    apply (config.entries_le (regime run member)).trans
    exact Nat.add_le_add (Nat.add_le_add_left (config.leftBehind_mono (few run member)) _)
      (few run member)

/-! ## One visitor, and many -/

def emptyGate : IntrusionRule Unit where
  config := { name := "intrusion_gate" }
  zone := { name := "gate", inside := fun _ => false }

def gateConfig : ModuleConfig Unit where
  camera :=
    { cameraId := "cam", rules := [.intrusion emptyGate.config emptyGate.zone],
      distinct := by simp }
  sourceId := "src"

def visits (trackOf : Nat → Int) (count : Nat) : List (MonitoredFrame Unit) :=
  (List.range count).map fun index =>
    { frame := ⟨1000 * index, [⟨trackOf index, ()⟩]⟩, faceTimeMs := index, faces := [] }

theorem visits_regime (trackOf : Nat → Int) (count : Nat) :
    Regime 1 (visits trackOf count) := by
  refine ⟨?_, ?_, ?_⟩
  · apply List.pairwise_map.mpr
    apply List.pairwise_lt_range.imp
    intro first second before
    simp only
    omega
  · exact List.pairwise_map.mpr List.pairwise_lt_range
  · intro monitored member
    rcases List.mem_map.mp member with ⟨_, _, rfl⟩
    apply (List.toFinset_card_le _).trans
    simp only [List.map_nil, List.filter_nil, List.append_nil]
    exact List.length_filter_le _ _

theorem visits_personKeys (trackOf : Nat → Int)
    (valid : ∀ index, isValidTrackId (trackOf index) = true) (count : Nat) :
    personKeys gateConfig.camera.cameraId ((visits trackOf count).map MonitoredFrame.frame) =
      (List.range count).map fun index => "cam:" ++ toString (trackOf index) := by
  have label : gateConfig.camera.cameraId ++ ":" = "cam:" := by decide
  simp only [personKeys, visits, List.map_map, List.flatMap_map, Function.comp,
    Frame.observations, List.map_cons, List.map_nil, personThrottleKeys, personThrottleKey,
    valid, if_true, toString, label]
  exact List.flatMap_pure_eq_map _ _

theorem one_visitor_bounded :
    ∃ bound, ∀ run ∈ Set.range (visits fun _ => 1),
      (gateConfig.advance run).entries ≤ bound := by
  apply (state_bounded_iff gateConfig 1 (Set.range (visits fun _ => 1)) _).mpr
  · refine ⟨1, ?_⟩
    rintro run ⟨count, rfl⟩
    rw [personCount, visits_personKeys _ (fun _ => by decide)]
    apply Finset.card_le_one.mpr
    intro first inFirst second inSecond
    rw [List.mem_toFinset, List.mem_map] at inFirst inSecond
    rcases inFirst with ⟨_, _, rfl⟩
    rcases inSecond with ⟨_, _, rfl⟩
    rfl
  · rintro run ⟨count, rfl⟩
    exact visits_regime _ count

/-- A track that a frame no longer shows does not come back. -/
def NeverReused (frames : List (MonitoredFrame Body)) : Prop :=
  ∀ before monitored rest, frames = before ++ monitored :: rest → ∀ trackId,
    SeenIn (before.map MonitoredFrame.frame) trackId → ¬monitored.frame.Shows trackId →
      ¬SeenIn (rest.map MonitoredFrame.frame) trackId

def newcomers (count : Nat) : List (MonitoredFrame Unit) :=
  visits (fun index => 2 * index + 2) count

theorem newcomers_neverReused (count : Nat) : NeverReused (newcomers count) := by
  have apart : (newcomers count).Pairwise fun first second =>
      ∀ trackId, first.frame.Shows trackId → ¬second.frame.Shows trackId := by
    apply List.pairwise_map.mpr
    apply List.pairwise_lt_range.imp
    intro first second before trackId showsFirst showsSecond
    rcases showsFirst with ⟨_, _, isFirst, rfl⟩
    rcases showsSecond with ⟨_, _, isSecond, same⟩
    rw [List.mem_singleton.mp isFirst, List.mem_singleton.mp isSecond] at same
    simp only at same
    omega
  rintro before monitored rest split trackId ⟨_, member, shows⟩ _ ⟨_, later, again⟩
  rcases List.mem_map.mp member with ⟨first, inBefore, rfl⟩
  rcases List.mem_map.mp later with ⟨second, inRest, rfl⟩
  rw [split] at apart
  exact (List.pairwise_append.mp apart).2.2 first inBefore second
    (List.mem_cons_of_mem _ inRest) trackId shows again

/-- The person throttle keeps every visitor. -/
theorem state_grows_with_visitors :
    ¬∃ bound, ∀ run, Regime 1 run → NeverReused run →
      (gateConfig.advance run).entries ≤ bound := by
  rintro ⟨bound, holds⟩
  have regime := visits_regime (fun index => 2 * index + 2) (bound + 1)
  have small := holds (newcomers (bound + 1)) regime (newcomers_neverReused _)
  have kept := gateConfig.personCount_le_entries (newcomers (bound + 1))
  have valid : ∀ index : Nat, isValidTrackId (2 * (index : Int) + 2) = true := by
    intro index
    simp only [isValidTrackId, uint64Max, Bool.and_eq_true, decide_eq_true_eq, bne_iff_ne]
    omega
  rw [personCount, newcomers, visits_personKeys _ valid, List.toFinset_card_of_nodup,
    List.length_map, List.length_range] at kept
  · unfold newcomers at small
    omega
  · apply List.Nodup.map _ List.nodup_range
    intro first second same
    have sameText := intText_inj ((String.append_right_inj "cam:").mp same)
    omega

end VideoAnalysis.Behavior
