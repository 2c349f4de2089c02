import VideoAnalysis.Behavior.FindingOrder
import VideoAnalysis.Foundation.FinalRun

/-! # What the observation window leaves of a track

The store keeps the observations of the last few seconds. The rules that look
back over a track are compared on what is kept and on the whole history.
-/

namespace VideoAnalysis.Behavior

open VideoAnalysis.Foundation
open TrackStateStore (addAll mem_shown shown)

variable {Body : Type}

/-! ## The stored part of a history -/

def history (cameraId : String) (trackId : Int) (frames : List (Frame Body)) :
    List (Observation Body) :=
  frames.flatMap fun frame =>
    shown (frame.observations cameraId) trackId

def inWindow (windowMs lastSeenMs : Nat) (observation : Observation Body) : Bool :=
  lastSeenMs ≤ observation.timestampMs + windowMs

/-- The observations come in the order of their times. -/
def InOrder (observations : List (Observation Body)) : Prop :=
  observations.Pairwise fun first second => first.timestampMs ≤ second.timestampMs

theorem inWindow_keepsEnd {observations : List (Observation Body)}
    (inOrder : InOrder observations) (windowMs lastSeenMs : Nat) :
    KeepsEnd (inWindow windowMs lastSeenMs) observations := by
  apply List.Pairwise.imp _ inOrder
  intro first second before kept
  simp only [inWindow, decide_eq_true_eq] at kept ⊢
  omega

theorem addAll_observations {windowMs nowMs : Nat} (track : TrackState Body)
    {observations : List (Observation Body)} (nonempty : observations ≠ [])
    (times : ∀ observation ∈ observations, observation.timestampMs = nowMs) :
    (addAll windowMs track observations).observations =
      (track.observations ++ observations).filter
        (inWindow windowMs (max track.lastSeenMs nowMs)) := by
  induction observations generalizing track with
  | nil => exact absurd rfl nonempty
  | cons observation rest induction =>
    have now := times observation List.mem_cons_self
    have added : (track.addObservation observation windowMs).observations =
        (track.observations ++ [observation]).filter
          (inWindow windowMs (max track.lastSeenMs nowMs)) := by
      have lastSeen := track.addObservation_lastSeenMs observation windowMs
      rw [now] at lastSeen
      rw [← lastSeen]
      rfl
    by_cases more : rest = []
    · rw [more]
      exact added
    · have tail := induction (track.addObservation observation windowMs) more
        fun other member => times other (List.mem_cons_of_mem _ member)
      have sameTime : max (track.addObservation observation windowMs).lastSeenMs nowMs =
          max track.lastSeenMs nowMs := by
        rw [track.addObservation_lastSeenMs, now]
        omega
      simp only [addAll, List.foldl_cons] at tail ⊢
      rw [tail, sameTime, added, List.filter_append, List.filter_filter]
      simp only [Bool.and_self, ← List.filter_append, List.append_assoc, List.singleton_append]

/-- The store has the recent part of the history of each track, and has lost only
tracks whose history is older than the timeout. -/
structure Remembers (store : TrackStateStore Body) (trackId : Int) (nowMs : Nat)
    (past : List (Observation Body)) : Prop where
  recent : ∀ track, store.tracks.get trackId = some track →
    track.observations = past.filter (inWindow store.observationWindowMs track.lastSeenMs) ∧
      ∀ observation ∈ past, observation.timestampMs ≤ track.lastSeenMs
  lost : store.tracks.get trackId = none → ∀ observation ∈ past,
    observation.timestampMs + store.trackTimeoutMs < nowMs

namespace SourceRuntime

variable {runtime : SourceRuntime Body}

theorem shown_times (frame : Frame Body) (cameraId : String) (trackId : Int) :
    ∀ observation ∈ shown (frame.observations cameraId) trackId,
      observation.timestampMs = frame.timestampMs := fun observation member =>
  (frame.observations_stamped cameraId observation (mem_shown.mp member).1).2

variable {frame : Frame Body} {trackId : Int}

theorem shown_empty {cameraId : String}
    (valid : isValidTrackId trackId = true) (hidden : ¬frame.Shows trackId) :
    shown (frame.observations cameraId) trackId = [] := by
  by_contra nonempty
  exact hidden ((frame.shows_iff cameraId trackId).mpr ⟨valid, nonempty⟩)

theorem grown_observations (wellFormed : runtime.store.WellFormed runtime.cameraId) {nowMs : Nat}
    {past : List (Observation Body)} (later : nowMs ≤ frame.timestampMs)
    (window : runtime.store.observationWindowMs ≤ runtime.store.trackTimeoutMs)
    (remembers : Remembers runtime.store trackId nowMs past) {track : TrackState Body}
    (found : (runtime.storeAt frame).tracks.get trackId = some track)
    (shows : frame.Shows trackId) :
    track.observations =
        (past ++ shown (frame.observations runtime.cameraId) trackId).filter
          (inWindow runtime.store.observationWindowMs track.lastSeenMs) := by
  have spec := (storeAt_get wellFormed found).2
  have nonempty := ((frame.shows_iff runtime.cameraId trackId).mp shows).2
  rw [if_pos shows] at spec
  have grown := congrArg TrackState.observations spec.1
  rw [addAll_observations _ nonempty (shown_times frame runtime.cameraId trackId), ← spec.2]
    at grown
  rw [grown, List.filter_append, List.filter_append]
  congr 1
  cases old : runtime.store.tracks.get trackId with
  | none =>
    have outside : past.filter
        (inWindow runtime.store.observationWindowMs track.lastSeenMs) = [] := by
      rw [List.filter_eq_nil_iff]
      intro observation member kept
      have gone := remembers.lost old observation member
      simp only [inWindow, decide_eq_true_eq] at kept
      omega
    rw [outside]
    rfl
  | some before =>
    rw [Option.getD_some, (remembers.recent before old).1, List.filter_filter]
    apply List.filter_congr
    intro observation _
    have lastSeen := spec.2
    rw [old, Option.getD_some] at lastSeen
    simp only [inWindow, Bool.and_eq_left_iff_imp, decide_eq_true_eq]
    omega

/-- The step lemma for one track. -/
theorem remembers_storeAt (wellFormed : runtime.store.WellFormed runtime.cameraId) {nowMs : Nat}
    {past : List (Observation Body)} (valid : isValidTrackId trackId = true)
    (later : nowMs ≤ frame.timestampMs)
    (window : runtime.store.observationWindowMs ≤ runtime.store.trackTimeoutMs)
    (remembers : Remembers runtime.store trackId nowMs past) :
    Remembers (runtime.storeAt frame) trackId frame.timestampMs
      (past ++ shown (frame.observations runtime.cameraId) trackId) := by
  constructor
  · intro track found
    by_cases shows : frame.Shows trackId
    · have grown := grown_observations wellFormed later window remembers found shows
      have lastSeen := (storeAt_get wellFormed found).2
      rw [if_pos shows] at lastSeen
      refine ⟨grown, ?_⟩
      intro observation member
      rw [lastSeen.2]
      rcases List.mem_append.mp member with old | new
      · cases stored : runtime.store.tracks.get trackId with
        | none =>
          have gone := remembers.lost stored observation old
          omega
        | some before =>
          have bound := (remembers.recent before stored).2 observation old
          rw [Option.getD_some]
          omega
      · have now := shown_times frame runtime.cameraId trackId observation new
        omega
    · have spec := (storeAt_get wellFormed found).2
      rw [if_neg shows] at spec
      rw [shown_empty valid shows, List.append_nil]
      exact remembers.recent track spec
  · intro missing observation member
    have hidden : ¬frame.Shows trackId := by
      intro shows
      rcases storeAt_get_shown wellFormed shows with ⟨track, found⟩
      rw [missing] at found
      exact absurd found (by simp)
    rw [shown_empty valid hidden, List.append_nil] at member
    rw [storeAt_get_hidden wellFormed hidden, Option.filter_eq_none_iff] at missing
    change observation.timestampMs + runtime.store.trackTimeoutMs < frame.timestampMs
    cases stored : runtime.store.tracks.get trackId with
    | none =>
      have gone := remembers.lost stored observation member
      omega
    | some before =>
      have bound := (remembers.recent before stored).2 observation member
      have evicted := missing before stored
      rw [decide_eq_true_eq] at evicted
      omega

end SourceRuntime

theorem history_append (cameraId : String) (trackId : Int) (before : List (Frame Body))
    (frame : Frame Body) :
    history cameraId trackId (before ++ [frame]) = history cameraId trackId before ++
      shown (frame.observations cameraId) trackId := by
  simp [history]

theorem history_nil (cameraId : String) (trackId : Int) :
    history cameraId trackId ([] : List (Frame Body)) = [] := rfl

/-- What is known of a state in a run: its store remembers a past of each track. -/
structure CameraState.Knows (state : CameraState Body) (cameraId : String) (nowMs : Nat)
    (past : Int → List (Observation Body)) : Prop where
  wellFormed : state.runtime.store.WellFormed state.runtime.cameraId
  sameCamera : state.runtime.cameraId = cameraId
  window : state.runtime.store.observationWindowMs = 5000
  timeout : state.runtime.store.trackTimeoutMs = 10000
  remembers : ∀ trackId, isValidTrackId trackId = true →
    Remembers state.runtime.store trackId nowMs (past trackId)

theorem CameraState.Knows.processFrame {state : CameraState Body} {cameraId : String}
    {nowMs : Nat} {past : Int → List (Observation Body)} {frame : Frame Body}
    (known : state.Knows cameraId nowMs past) (later : nowMs ≤ frame.timestampMs) :
    (state.processFrame frame).1.Knows cameraId frame.timestampMs fun trackId =>
      past trackId ++ shown (frame.observations cameraId) trackId := by
  rw [processFrame_eq]
  refine ⟨SourceRuntime.storeAt_wellFormed known.wellFormed frame, known.sameCamera,
    known.window, known.timeout, ?_⟩
  intro trackId valid
  rw [← known.sameCamera]
  apply SourceRuntime.remembers_storeAt known.wellFormed valid later _
    (known.remembers trackId valid)
  rw [known.window, known.timeout]
  decide

/-- The run lemma of the store. -/
theorem CameraState.Knows.advance {state : CameraState Body} {cameraId : String}
    {nowMs : Nat} {past : Int → List (Observation Body)} {frames : List (Frame Body)}
    (known : state.Knows cameraId nowMs past)
    (later : ∀ frame ∈ frames, nowMs ≤ frame.timestampMs) (sorted : Nondecreasing frames) :
    ∃ lastMs, (state.advance frames).Knows cameraId lastMs
        (fun trackId => past trackId ++ history cameraId trackId frames) ∧
      (lastMs = nowMs ∨ ∃ frame ∈ frames, frame.timestampMs = lastMs) := by
  induction frames using List.reverseRecOn with
  | nil =>
    refine ⟨nowMs, ?_, Or.inl rfl⟩
    simp only [history_nil, List.append_nil]
    exact known
  | append_singleton before frame induction =>
    rcases List.pairwise_append.mp sorted with ⟨sortedBefore, _, inOrder⟩
    rcases induction (fun other member => later other (List.mem_append_left _ member))
      sortedBefore with ⟨lastMs, knownBefore, reached⟩
    have afterLast : lastMs ≤ frame.timestampMs := by
      rcases reached with same | ⟨earlier, member, same⟩
      · exact same ▸ later frame (by simp)
      · exact same ▸ inOrder earlier member frame (List.mem_singleton_self _)
    have step : state.advance (before ++ [frame]) =
        ((state.advance before).processFrame frame).1 := by
      simp [CameraState.advance]
    rw [step]
    refine ⟨frame.timestampMs, ?_, Or.inr ⟨frame, by simp, rfl⟩⟩
    simp only [history_append, ← List.append_assoc]
    exact knownBefore.processFrame afterLast

theorem CameraEntry.start_knows (camera : CameraEntry Body) :
    camera.start.Knows camera.cameraId 0 fun _ => [] := by
  have noTrack : ∀ trackId, camera.start.runtime.store.tracks.get trackId = none :=
    fun trackId => Dict.get_empty trackId
  refine ⟨camera.build_wellFormed, rfl, rfl, rfl, ?_⟩
  intro trackId _
  constructor
  · intro track found
    rw [noTrack] at found
    exact absurd found (by simp)
  · intro _ observation member
    exact absurd member List.not_mem_nil

theorem CameraEntry.advance_knows (camera : CameraEntry Body) {frames : List (Frame Body)}
    (sorted : Nondecreasing frames) :
    ∃ nowMs, (camera.start.advance frames).Knows camera.cameraId nowMs
      fun trackId => history camera.cameraId trackId frames := by
  rcases camera.start_knows.advance (fun _ _ => Nat.zero_le _) sorted with ⟨nowMs, known, _⟩
  exact ⟨nowMs, known⟩

end VideoAnalysis.Behavior
