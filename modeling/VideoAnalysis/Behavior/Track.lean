import VideoAnalysis.Foundation.Dict

/-! # Track states

The store keeps one state per tracked person of a camera: the observations of
the last few seconds and the time of the last one. `Body` is what the detector
reports about a person beside identity and time (box, confidence, keypoints).
Times are milliseconds since the epoch.
-/

namespace VideoAnalysis.Behavior

open VideoAnalysis.Foundation

structure Observation (Body : Type) where
  cameraId : String
  trackId : Int
  timestampMs : Nat
  body : Body

def uint64Max : Int := 18446744073709551615

def isValidTrackId (trackId : Int) : Bool := 0 < trackId && trackId != uint64Max

structure TrackState (Body : Type) where
  trackId : Int
  observations : List (Observation Body) := []
  firstSeenMs : Nat := 0
  lastSeenMs : Nat := 0

variable {Body : Type}

namespace TrackState

def trim (track : TrackState Body) (windowMs : Nat) : TrackState Body :=
  { track with
    observations := track.observations.filter fun observation =>
      track.lastSeenMs ≤ observation.timestampMs + windowMs }

def addObservation (track : TrackState Body) (observation : Observation Body)
    (windowMs : Nat) : TrackState Body :=
  let seen := observation.timestampMs
  trim
    { track with
      observations := track.observations ++ [observation]
      firstSeenMs :=
        if track.firstSeenMs = 0 || seen < track.firstSeenMs then seen else track.firstSeenMs
      lastSeenMs := if track.lastSeenMs < seen then seen else track.lastSeenMs }
    windowMs

@[simp] theorem addObservation_trackId (track : TrackState Body)
    (observation : Observation Body) (windowMs : Nat) :
    (track.addObservation observation windowMs).trackId = track.trackId := rfl

theorem addObservation_lastSeenMs (track : TrackState Body)
    (observation : Observation Body) (windowMs : Nat) :
    (track.addObservation observation windowMs).lastSeenMs =
      max track.lastSeenMs observation.timestampMs := by
  simp only [addObservation, trim]
  split <;> omega

theorem mem_addObservation {track : TrackState Body} {observation other : Observation Body}
    {windowMs : Nat} (member : other ∈ (track.addObservation observation windowMs).observations) :
    other ∈ track.observations ∨ other = observation := by
  simp only [addObservation, trim, List.mem_filter, List.mem_append, List.mem_singleton] at member
  exact member.1

end TrackState

structure TrackStateStore (Body : Type) where
  observationWindowMs : Nat := 5000
  trackTimeoutMs : Nat := 10000
  tracks : Dict Int (TrackState Body) := ∅

namespace TrackStateStore

def addTo (windowMs : Nat) (tracks : Dict Int (TrackState Body))
    (observation : Observation Body) : Dict Int (TrackState Body) :=
  if isValidTrackId observation.trackId then
    tracks.set observation.trackId
      (((tracks.get observation.trackId).getD { trackId := observation.trackId }).addObservation
        observation windowMs)
  else tracks

def latest (observations : List (Observation Body)) : Nat :=
  observations.foldl (fun newest observation => max newest observation.timestampMs) 0

def evict (store : TrackStateStore Body) (nowMs : Nat) : TrackStateStore Body :=
  { store with
    tracks := store.tracks.keep fun entry => nowMs ≤ entry.2.lastSeenMs + store.trackTimeoutMs }

def update (store : TrackStateStore Body) (observations : List (Observation Body))
    (nowMs : Option Nat) : TrackStateStore Body :=
  evict
    { store with
      tracks := observations.foldl (addTo store.observationWindowMs) store.tracks }
    (max (latest observations) (nowMs.getD 0))

def activeTracks (store : TrackStateStore Body) : List (TrackState Body) := store.tracks.values

end TrackStateStore

/-! ## Frames -/

/-- One accepted person of a frame. -/
structure Person (Body : Type) where
  trackId : Int
  body : Body

structure Frame (Body : Type) where
  timestampMs : Nat
  persons : List (Person Body)

/-- The adapter stamps all observations of a frame with the configured camera
and the time of the frame. -/
def Frame.observations (frame : Frame Body) (cameraId : String) : List (Observation Body) :=
  frame.persons.map fun person =>
    { cameraId, trackId := person.trackId, timestampMs := frame.timestampMs, body := person.body }

end VideoAnalysis.Behavior
