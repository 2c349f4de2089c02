import VideoAnalysis.Behavior.Findings

/-! # What the track store keeps

Every stored track has the newest of its observations, and a frame changes only
the tracks that it shows.
-/

namespace VideoAnalysis.Behavior

open VideoAnalysis.Foundation

variable {Body : Type}

structure TrackState.WellFormed (cameraId : String) (track : TrackState Body) : Prop where
  stamped : ∀ observation ∈ track.observations, observation.cameraId = cameraId
  newest : ∃ observation ∈ track.observations, observation.timestampMs = track.lastSeenMs
  bounded : ∀ observation ∈ track.observations, observation.timestampMs ≤ track.lastSeenMs

structure TrackStateStore.WellFormed (cameraId : String) (store : TrackStateStore Body) :
    Prop where
  distinct : store.tracks.Distinct
  named : ∀ trackId track, store.tracks.get trackId = some track →
    track.trackId = trackId ∧ isValidTrackId trackId = true
  tracks : ∀ trackId track, store.tracks.get trackId = some track → track.WellFormed cameraId

theorem TrackState.WellFormed.current {cameraId : String} {track : TrackState Body}
    (wellFormed : track.WellFormed cameraId) :
    ∃ current, track.observations.getLast? = some current ∧ current.cameraId = cameraId := by
  rcases wellFormed.newest with ⟨_, member, _⟩
  have nonempty : track.observations ≠ [] := List.ne_nil_of_mem member
  exact ⟨_, List.getLast?_eq_some_getLast nonempty,
    wellFormed.stamped _ (List.getLast_mem nonempty)⟩

theorem TrackState.addObservation_wellFormed {cameraId : String} {track : TrackState Body}
    {observation : Observation Body} {windowMs : Nat}
    (before : track.WellFormed cameraId ∨ track.observations = [] ∧ track.lastSeenMs = 0)
    (stamp : observation.cameraId = cameraId) :
    (track.addObservation observation windowMs).WellFormed cameraId := by
  have lastSeen := track.addObservation_lastSeenMs observation windowMs
  have kept : ∀ other, other ∈ track.observations ++ [observation] →
      other.timestampMs = max track.lastSeenMs observation.timestampMs →
      other ∈ (track.addObservation observation windowMs).observations := by
    intro other member isNewest
    simp only [TrackState.addObservation, TrackState.trim, List.mem_filter, decide_eq_true_eq]
    refine ⟨member, ?_⟩
    split <;> omega
  constructor
  · intro other member
    rcases TrackState.mem_addObservation member with old | new
    · rcases before with wellFormed | ⟨empty, _⟩
      · exact wellFormed.stamped other old
      · rw [empty] at old
        exact absurd old List.not_mem_nil
    · exact new ▸ stamp
  · rw [lastSeen]
    by_cases later : track.lastSeenMs ≤ observation.timestampMs
    · exact ⟨observation, kept _ (by simp) (by omega), by omega⟩
    · rcases before with wellFormed | ⟨_, zero⟩
      · rcases wellFormed.newest with ⟨other, member, _⟩
        exact ⟨other, kept _ (List.mem_append_left _ member) (by omega), by omega⟩
      · omega
  · intro other member
    rw [lastSeen]
    rcases TrackState.mem_addObservation member with old | new
    · rcases before with wellFormed | ⟨empty, _⟩
      · have bound := wellFormed.bounded other old
        omega
      · rw [empty] at old
        exact absurd old List.not_mem_nil
    · rw [new]
      omega

namespace TrackStateStore

theorem addTo_get (windowMs : Nat) (tracks : Dict Int (TrackState Body))
    (observation : Observation Body) (trackId : Int) :
    (addTo windowMs tracks observation).get trackId =
      if isValidTrackId trackId ∧ observation.trackId = trackId then
        some (((tracks.get trackId).getD { trackId }).addObservation observation windowMs)
      else tracks.get trackId := by
  unfold addTo
  by_cases same : observation.trackId = trackId
  · rw [← same]
    by_cases valid : isValidTrackId observation.trackId = true
    all_goals simp [valid]
  · have hidden : ¬(isValidTrackId trackId = true ∧ observation.trackId = trackId) :=
      fun shown => same shown.2
    rw [if_neg hidden]
    split
    · exact Dict.get_set_of_ne tracks _ (Ne.symm same)
    · rfl

theorem addTo_distinct {windowMs : Nat} {tracks : Dict Int (TrackState Body)}
    (distinct : tracks.Distinct) (observation : Observation Body) :
    (addTo windowMs tracks observation).Distinct := by
  unfold addTo
  split
  · exact distinct.set _ _
  · exact distinct

variable {cameraId : String} {store : TrackStateStore Body}

theorem addTo_wellFormed (wellFormed : store.WellFormed cameraId)
    {observation : Observation Body} (stamp : observation.cameraId = cameraId) :
    { store with
      tracks := addTo store.observationWindowMs store.tracks observation }.WellFormed
        cameraId := by
  refine ⟨addTo_distinct wellFormed.distinct observation, ?_, ?_⟩
  · intro trackId track found
    rw [addTo_get] at found
    split at found
    · next shown =>
        rw [Option.some.injEq] at found
        rw [← found]
        refine ⟨?_, shown.1⟩
        rw [TrackState.addObservation_trackId]
        cases old : store.tracks.get trackId with
        | none => rfl
        | some before => exact (wellFormed.named trackId before old).1
    · exact wellFormed.named trackId track found
  · intro trackId track found
    rw [addTo_get] at found
    split at found
    · rw [Option.some.injEq] at found
      rw [← found]
      apply TrackState.addObservation_wellFormed _ stamp
      cases old : store.tracks.get trackId with
      | none => exact Or.inr ⟨rfl, rfl⟩
      | some before => exact Or.inl (wellFormed.tracks trackId before old)
    · exact wellFormed.tracks trackId track found

theorem foldl_addTo_wellFormed (wellFormed : store.WellFormed cameraId)
    {observations : List (Observation Body)}
    (stamps : ∀ observation ∈ observations, observation.cameraId = cameraId) :
    { store with
      tracks := observations.foldl (addTo store.observationWindowMs) store.tracks }.WellFormed
        cameraId := by
  induction observations generalizing store with
  | nil => exact wellFormed
  | cons observation _ induction =>
    exact induction (addTo_wellFormed wellFormed (stamps observation List.mem_cons_self))
      fun other member => stamps other (List.mem_cons_of_mem _ member)

theorem evict_get (distinct : store.tracks.Distinct) (nowMs : Nat) (trackId : Int) :
    (store.evict nowMs).tracks.get trackId =
      (store.tracks.get trackId).filter fun track =>
        nowMs ≤ track.lastSeenMs + store.trackTimeoutMs :=
  Dict.get_keep distinct _ trackId

theorem evict_wellFormed (wellFormed : store.WellFormed cameraId) (nowMs : Nat) :
    (store.evict nowMs).WellFormed cameraId := by
  have kept : ∀ trackId track, (store.evict nowMs).tracks.get trackId = some track →
      store.tracks.get trackId = some track := by
    intro trackId track found
    rw [evict_get wellFormed.distinct, Option.filter_eq_some_iff] at found
    exact found.1
  exact ⟨wellFormed.distinct.keep _,
    fun trackId track found => wellFormed.named trackId track (kept trackId track found),
    fun trackId track found => wellFormed.tracks trackId track (kept trackId track found)⟩

theorem update_wellFormed (wellFormed : store.WellFormed cameraId)
    {observations : List (Observation Body)}
    (stamps : ∀ observation ∈ observations, observation.cameraId = cameraId)
    (nowMs : Option Nat) : (store.update observations nowMs).WellFormed cameraId :=
  evict_wellFormed (foldl_addTo_wellFormed wellFormed stamps) _

theorem wellFormed_empty (cameraId : String) (windowMs timeoutMs : Nat) :
    ({ observationWindowMs := windowMs, trackTimeoutMs := timeoutMs } :
      TrackStateStore Body).WellFormed cameraId := by
  refine ⟨List.nodup_nil, ?_, ?_⟩
  all_goals
    intro trackId track found
    exact absurd found (by simp)

def addAll (windowMs : Nat) (track : TrackState Body) (observations : List (Observation Body)) :
    TrackState Body :=
  observations.foldl (fun track observation => track.addObservation observation windowMs) track

def shown (observations : List (Observation Body)) (trackId : Int) : List (Observation Body) :=
  observations.filter fun observation => observation.trackId = trackId

theorem foldl_addTo_get (windowMs : Nat) (tracks : Dict Int (TrackState Body))
    (observations : List (Observation Body)) (trackId : Int) :
    (observations.foldl (addTo windowMs) tracks).get trackId =
      if isValidTrackId trackId ∧ shown observations trackId ≠ [] then
        some (addAll windowMs ((tracks.get trackId).getD { trackId })
          (shown observations trackId))
      else tracks.get trackId := by
  induction observations generalizing tracks with
  | nil => simp [shown]
  | cons observation rest induction =>
    rw [List.foldl_cons, induction, addTo_get]
    by_cases valid : isValidTrackId trackId = true
    · by_cases same : observation.trackId = trackId
      · have head : shown (observation :: rest) trackId =
            observation :: shown rest trackId := by
          simp [shown, same]
        by_cases more : shown rest trackId = []
        all_goals simp [valid, same, head, more, addAll]
      · have tail : shown (observation :: rest) trackId = shown rest trackId := by
          simp [shown, same]
        simp [valid, same, tail]
    · simp [valid]

theorem addAll_lastSeenMs {windowMs nowMs : Nat} (track : TrackState Body)
    {observations : List (Observation Body)} (nonempty : observations ≠ [])
    (times : ∀ observation ∈ observations, observation.timestampMs = nowMs) :
    (addAll windowMs track observations).lastSeenMs = max track.lastSeenMs nowMs := by
  induction observations generalizing track with
  | nil => exact absurd rfl nonempty
  | cons observation rest induction =>
    have now := times observation List.mem_cons_self
    have lastSeen := track.addObservation_lastSeenMs observation windowMs
    by_cases more : rest = []
    · rw [more]
      simp only [addAll, List.foldl_cons, List.foldl_nil, lastSeen, now]
    · have tail := induction (track.addObservation observation windowMs) more
        fun other member => times other (List.mem_cons_of_mem _ member)
      simp only [addAll, List.foldl_cons] at tail ⊢
      rw [tail, lastSeen, now]
      omega

theorem mem_shown {observations : List (Observation Body)} {trackId : Int}
    {observation : Observation Body} :
    observation ∈ shown observations trackId ↔
      observation ∈ observations ∧ observation.trackId = trackId := by
  simp [shown]

end TrackStateStore

theorem foldl_max_le {Item : Type} {items : List Item} {time : Item → Nat} {nowMs : Nat}
    (bounded : ∀ item ∈ items, time item ≤ nowMs) (start : Nat) (bound : start ≤ nowMs) :
    items.foldl (fun newest item => max newest (time item)) start ≤ nowMs := by
  induction items generalizing start with
  | nil => exact bound
  | cons item _ induction =>
    apply induction fun other member => bounded other (List.mem_cons_of_mem _ member)
    exact max_le bound (bounded item List.mem_cons_self)

/-! ## One frame -/

namespace Frame

theorem observations_stamped (frame : Frame Body) (cameraId : String) :
    ∀ observation ∈ frame.observations cameraId, observation.cameraId = cameraId ∧
      observation.timestampMs = frame.timestampMs := by
  intro observation member
  simp only [Frame.observations, List.mem_map] at member
  rcases member with ⟨_, _, rfl⟩
  exact ⟨rfl, rfl⟩

end Frame

theorem evictTime_eq (frame : Frame Body) (cameraId : String) :
    max (TrackStateStore.latest (frame.observations cameraId))
      ((if frame.timestampMs = 0 then none else some frame.timestampMs).getD 0) =
        frame.timestampMs := by
  have bound := foldl_max_le
    (fun observation member => (frame.observations_stamped cameraId observation member).2.le)
    0 (Nat.zero_le _)
  have latest : TrackStateStore.latest (frame.observations cameraId) ≤ frame.timestampMs := bound
  by_cases zero : frame.timestampMs = 0
  · rw [if_pos zero]
    simp only [Option.getD_none]
    omega
  · rw [if_neg zero]
    simp only [Option.getD_some]
    omega

def Frame.Shows (frame : Frame Body) (trackId : Int) : Prop :=
  isValidTrackId trackId = true ∧ ∃ person ∈ frame.persons, person.trackId = trackId

instance (frame : Frame Body) (trackId : Int) : Decidable (frame.Shows trackId) :=
  inferInstanceAs (Decidable (_ ∧ ∃ person ∈ frame.persons, person.trackId = trackId))

theorem Frame.shows_iff (frame : Frame Body) (cameraId : String) (trackId : Int) :
    frame.Shows trackId ↔ isValidTrackId trackId ∧
      TrackStateStore.shown (frame.observations cameraId) trackId ≠ [] := by
  apply and_congr_right
  intro _
  constructor
  · rintro ⟨person, member, same⟩
    apply List.ne_nil_of_mem
    exact TrackStateStore.mem_shown.mpr ⟨List.mem_map_of_mem member, same⟩
  · intro nonempty
    rcases List.exists_mem_of_ne_nil _ nonempty with ⟨_, member⟩
    rcases TrackStateStore.mem_shown.mp member with ⟨inFrame, same⟩
    rcases List.mem_map.mp inFrame with ⟨person, inPersons, rfl⟩
    exact ⟨person, inPersons, same⟩

namespace SourceRuntime

variable {runtime : SourceRuntime Body}

theorem storeAt_wellFormed (wellFormed : runtime.store.WellFormed runtime.cameraId)
    (frame : Frame Body) :
    (runtime.storeAt frame).WellFormed runtime.cameraId :=
  TrackStateStore.update_wellFormed wellFormed
    (fun observation member =>
      (frame.observations_stamped runtime.cameraId observation member).1) _

section

variable
  (wellFormed : runtime.store.WellFormed runtime.cameraId) {frame : Frame Body} {trackId : Int}

include wellFormed frame trackId

theorem storeAt_tracks : (runtime.storeAt frame).tracks.get trackId =
    (((frame.observations runtime.cameraId).foldl
      (TrackStateStore.addTo runtime.store.observationWindowMs) runtime.store.tracks).get
        trackId).filter fun track =>
          frame.timestampMs ≤ track.lastSeenMs + runtime.store.trackTimeoutMs := by
  have grown := TrackStateStore.foldl_addTo_wellFormed wellFormed
    (fun observation member =>
      (frame.observations_stamped runtime.cameraId observation member).1)
  simp only [storeAt, TrackStateStore.update, evictTime_eq]
  exact TrackStateStore.evict_get grown.distinct frame.timestampMs trackId

theorem storeAt_get_hidden (hidden : ¬frame.Shows trackId) :
    (runtime.storeAt frame).tracks.get trackId =
      (runtime.store.tracks.get trackId).filter fun track =>
        frame.timestampMs ≤ track.lastSeenMs + runtime.store.trackTimeoutMs := by
  rw [storeAt_tracks wellFormed, TrackStateStore.foldl_addTo_get,
    if_neg fun visible => hidden ((frame.shows_iff runtime.cameraId trackId).mpr visible)]

theorem storeAt_get_shown (shows : frame.Shows trackId) :
    ∃ track, (runtime.storeAt frame).tracks.get trackId = some track := by
  have visible := (frame.shows_iff runtime.cameraId trackId).mp shows
  rw [storeAt_tracks wellFormed, TrackStateStore.foldl_addTo_get, if_pos visible]
  refine ⟨_, Option.filter_eq_some_iff.mpr ⟨rfl, ?_⟩⟩
  have lastSeen := @TrackStateStore.addAll_lastSeenMs _ runtime.store.observationWindowMs _
    ((runtime.store.tracks.get trackId).getD { trackId }) _ visible.2
    fun observation member => (frame.observations_stamped runtime.cameraId observation
      (TrackStateStore.mem_shown.mp member).1).2
  rw [decide_eq_true_eq, lastSeen]
  omega

/-- The spec of a store update: a stored track that the frame does not show is
as it was, and one that it shows has at least the time of the frame. -/
theorem storeAt_get {track : TrackState Body}
    (found : (runtime.storeAt frame).tracks.get trackId = some track) :
    frame.timestampMs ≤ track.lastSeenMs + runtime.store.trackTimeoutMs ∧
      if frame.Shows trackId then
        track = TrackStateStore.addAll runtime.store.observationWindowMs
            ((runtime.store.tracks.get trackId).getD { trackId })
            (TrackStateStore.shown (frame.observations runtime.cameraId) trackId) ∧
          track.lastSeenMs =
            max ((runtime.store.tracks.get trackId).getD { trackId }).lastSeenMs
              frame.timestampMs
      else runtime.store.tracks.get trackId = some track := by
  rw [storeAt_tracks wellFormed, Option.filter_eq_some_iff] at found
  rcases found with ⟨found, kept⟩
  refine ⟨by simpa using kept, ?_⟩
  rw [TrackStateStore.foldl_addTo_get] at found
  by_cases shows : frame.Shows trackId
  · have visible := (frame.shows_iff runtime.cameraId trackId).mp shows
    rw [if_pos visible, Option.some.injEq] at found
    rw [if_pos shows]
    refine ⟨found.symm, ?_⟩
    rw [← found]
    apply TrackStateStore.addAll_lastSeenMs _ visible.2
    intro observation member
    exact (frame.observations_stamped runtime.cameraId observation
      (TrackStateStore.mem_shown.mp member).1).2
  · rw [if_neg fun visible =>
      shows ((frame.shows_iff runtime.cameraId trackId).mpr visible)] at found
    rw [if_neg shows]
    exact found

end

end SourceRuntime

end VideoAnalysis.Behavior
