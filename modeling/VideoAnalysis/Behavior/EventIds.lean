import VideoAnalysis.Behavior.FindingOrder

/-! # Source event ids

The id of an exported event names the producer, the camera, the track, the type
and the start. Events that agree in these are one event for the event table,
which keeps the first and drops the others.
-/

namespace VideoAnalysis.Behavior

open VideoAnalysis.Foundation

variable {Body : Type}

/-- The id that `_enrich_and_export` gives to an event of the camera. -/
def SecurityEvent.sourceEventId (producer cameraId : String) (event : SecurityEvent) : String :=
  buildSourceEventId producer cameraId event.trackId event.eventType event.startTsMs

def trackPart (trackId : Int) : String := if 0 < trackId then toString trackId else "none"

/-- What the ids of two events of one camera can differ in. -/
def SecurityEvent.identity (event : SecurityEvent) : String × EventType × Nat :=
  (trackPart event.trackId, event.eventType, event.startTsMs)

theorem trackPart_noColon (trackId : Int) : NoColon (trackPart trackId) := by
  unfold trackPart
  split
  · exact intText_noColon trackId
  · decide

theorem EventType.text_noColon (eventType : EventType) : NoColon eventType.text := by
  cases eventType <;> decide

theorem EventType.text_inj {first second : EventType} (same : first.text = second.text) :
    first = second := by
  revert same
  cases first <;> cases second <;> decide

theorem buildSourceEventId_eq (producer cameraId : String) (trackId : Int)
    (eventType : EventType) (startTsMs : Nat) :
    buildSourceEventId producer cameraId trackId eventType startTsMs =
      producer ++ ":" ++ (cameraId ++ ":" ++ (trackPart trackId ++ ":" ++
        (eventType.text ++ ":" ++ toString startTsMs))) := by
  simp only [buildSourceEventId, trackPart, toString, String.append_assoc]

theorem SecurityEvent.identity_of_id {producer cameraId : String} {first second : SecurityEvent}
    (same : first.sourceEventId producer cameraId = second.sourceEventId producer cameraId) :
    first.identity = second.identity := by
  simp only [sourceEventId, buildSourceEventId_eq] at same
  rw [String.append_right_inj, String.append_right_inj] at same
  rcases colonField_eq (trackPart_noColon _) (trackPart_noColon _) same with ⟨sameTrack, rest⟩
  rcases colonField_eq (EventType.text_noColon _) (EventType.text_noColon _) rest with
    ⟨sameType, sameStart⟩
  simp only [identity, sameTrack, EventType.text_inj sameType, natText_inj sameStart]

namespace CameraEntry

/-- Two findings that agree in track, type and start share their cooldown key, and
the later falls into the cooldown counted from the earlier. -/
def MomentsApart (camera : CameraEntry Body) (frames : List (Frame Body)) : Prop :=
  (camera.findings frames).Pairwise fun first second =>
    first.event.identity = second.event.identity →
      first.key = second.key ∧
        (second.event.endTsMs : Int) < first.event.endTsMs + first.cooldownS * 1000

instance (camera : CameraEntry Body) (frames : List (Frame Body)) :
    Decidable (camera.MomentsApart frames) :=
  inferInstanceAs (Decidable (List.Pairwise _ _))

end CameraEntry

/-- Every event of such a run has an id of its own. -/
theorem source_event_ids_distinct (camera : CameraEntry Body) (producer : String)
    (frames : List (Frame Body)) (sorted : Nondecreasing frames)
    (apart : camera.MomentsApart frames) :
    ((camera.events frames).map
      (SecurityEvent.sourceEventId producer camera.cameraId)).Nodup := by
  have spaced := RateLimit.passed_spaced (camera.findings_ordered sorted)
  have kept := List.Pairwise.sublist (cooldownLimit.passed_sublist (fun _ => none) _) apart
  rw [camera.events_eq, List.map_map, List.Nodup, List.pairwise_map]
  apply (spaced.and kept).imp
  rintro first second ⟨space, together⟩ sameId
  rcases together (SecurityEvent.identity_of_id sameId) with ⟨sameKey, within⟩
  have beyond := space sameKey
  simp only [cooldownLimit] at beyond
  omega

/-- Reports of one key are a cooldown apart, and every other finding falls into the cooldown of
a report before it. -/
structure CameraEntry.Reports (camera : CameraEntry Body) (frames : List (Frame Body))
    (reported : List Finding) : Prop where
  events : camera.events frames = reported.map Finding.event
  inOrder : reported.Sublist (camera.findings frames)
  spaced : reported.Pairwise fun first second => first.key = second.key →
    (first.event.endTsMs : Int) + first.cooldownS * 1000 ≤ second.event.endTsMs
  others : ∀ before finding rest, camera.findings frames = before ++ finding :: rest →
    finding ∈ reported ∨ ∃ other ∈ reported, other ∈ before ∧ other.key = finding.key ∧
      other.event.endTsMs ≤ finding.event.endTsMs ∧
      (finding.event.endTsMs : Int) < other.event.endTsMs + other.cooldownS * 1000

theorem findings_reported (camera : CameraEntry Body) (frames : List (Frame Body))
    (sorted : Nondecreasing frames) : ∃ reported, camera.Reports frames reported := by
  refine ⟨_, camera.events_eq frames, cooldownLimit.passed_sublist _ _,
    RateLimit.passed_spaced (camera.findings_ordered sorted), ?_⟩
  intro before finding rest split
  have ordered := camera.findings_ordered sorted
  rw [split] at ordered ⊢
  rcases cooldownLimit.mem_passed_or_held (fun _ => none) before finding rest with
    passed | ⟨_, found, _⟩ | ⟨other, passed, earlier, sameKey, held⟩
  · exact .inl passed
  · cases found
  · have inOrder := (List.pairwise_append.mp ordered).2.2 other earlier finding
      List.mem_cons_self sameKey
    exact .inr ⟨other, passed, earlier, sameKey, Int.ofNat_le.mp inOrder, held⟩

/-! ## A person in two zones -/

def zoneNamed (name : String) : ZoneConfig Unit where
  name
  inside _ := true

def twoZoneCamera : CameraEntry Unit where
  cameraId := "cam_001"
  rules :=
    [.intrusion { name := "intrusion_hall" } (zoneNamed "hall"),
      .intrusion { name := "intrusion_door" } (zoneNamed "door")]
  distinct := by decide

def hallCamera : CameraEntry Unit := twoZoneCamera.only "intrusion_hall"

def walkIn : List (Frame Unit) := [⟨1000, [⟨1, ()⟩]⟩, ⟨2000, [⟨1, ()⟩]⟩, ⟨2500, [⟨1, ()⟩]⟩]

theorem walkIn_sorted : Nondecreasing walkIn := by
  simp [Nondecreasing, walkIn]

theorem hall_ids_distinct :
    ((hallCamera.events walkIn).map
      (SecurityEvent.sourceEventId "savant_security" hallCamera.cameraId)).Nodup :=
  source_event_ids_distinct hallCamera "savant_security" walkIn walkIn_sorted (by decide +kernel)

theorem hall_findings_reported : ∃ reported, hallCamera.Reports walkIn reported :=
  findings_reported hallCamera walkIn walkIn_sorted

/-- Both zones report the person under one id. -/
theorem two_zones_share_id :
    ¬∀ (camera : CameraEntry Unit) (producer : String) (frames : List (Frame Unit)),
      Nondecreasing frames →
        ((camera.events frames).map
          (SecurityEvent.sourceEventId producer camera.cameraId)).Nodup := by
  intro claim
  have distinct := claim twoZoneCamera "savant_security" walkIn walkIn_sorted
  revert distinct
  decide +kernel

end VideoAnalysis.Behavior
