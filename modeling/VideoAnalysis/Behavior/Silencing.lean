import VideoAnalysis.Behavior.FindingOrder

/-! # Rules that share a cooldown key

All rules of a camera ask one cooldown tracker, and the single-track rules ask it
under a key that does not name the rule. A run with all rules is compared with the
runs in which one rule is enabled alone.
-/

namespace VideoAnalysis.Behavior

open VideoAnalysis.Foundation

variable {Body : Type}

/-! ## One rule alone -/

theorem flatMap_filter_eq {α β : Type*} {rules : List α} {find : α → List β}
    {rule : α → Bool} {finding : β → Bool}
    (agree : ∀ item ∈ rules, ∀ found ∈ find item, finding found = rule item) :
    (rules.filter rule).flatMap find = (rules.flatMap find).filter finding := by
  induction rules with
  | nil => rfl
  | cons item _ induction =>
    have tail := induction fun other member => agree other (List.mem_cons_of_mem _ member)
    have head := agree item List.mem_cons_self
    rw [List.flatMap_cons, List.filter_append, ← tail]
    by_cases kept : rule item = true
    · have all : (find item).filter finding = find item := by
        rw [List.filter_eq_self]
        intro found member
        rw [head found member, kept]
      rw [List.filter_cons_of_pos kept, List.flatMap_cons, all]
    · have none : (find item).filter finding = [] := by
        rw [List.filter_eq_nil_iff]
        intro found member
        rw [head found member]
        exact kept
      rw [List.filter_cons_of_neg kept, none, List.nil_append]

theorem map_filter_eq {α : Type*} {rules : List α} {advance : α → α} {rule : α → Bool}
    (agree : ∀ item, rule (advance item) = rule item) :
    (rules.filter rule).map advance = (rules.map advance).filter rule := by
  rw [List.filter_map]
  congr 2
  funext item
  exact (agree item).symm

namespace SourceRuntime

def onlyRule (runtime : SourceRuntime Body) (name : String) : SourceRuntime Body :=
  { runtime with
    singleTrackRules := runtime.singleTrackRules.filter (·.face.name = name)
    frameRules := runtime.frameRules.filter (·.face.name = name) }

end SourceRuntime

def Finding.rule (finding : Finding) : String := finding.event.ruleName

variable {cameraId : String}

theorem observeTrack_onlyRule {track : TrackState Body} (wellFormed : track.WellFormed cameraId)
    (rules : List (SingleTrackRule Body)) (name : String) :
    observeTrack (rules.filter (·.face.name = name)) track =
      ((observeTrack rules track).1.filter (·.face.name = name),
        RateLimit.own Finding.rule name (observeTrack rules track).2) := by
  simp only [observeTrack, RateLimit.own]
  congr 1
  · apply map_filter_eq
    intro rule
    rw [rule.observe_face track]
  · apply flatMap_filter_eq
    intro rule _ finding found
    rw [Option.mem_toList] at found
    rcases SingleTrackRule.observe_finding wellFormed found with ⟨_, rfl⟩
    rfl

theorem observeTracks_onlyRule {tracks : List (TrackState Body)}
    (wellFormed : ∀ track ∈ tracks, track.WellFormed cameraId)
    (rules : List (SingleTrackRule Body)) (name : String) :
    observeTracks (rules.filter (·.face.name = name)) tracks =
      ((observeTracks rules tracks).1.filter (·.face.name = name),
        RateLimit.own Finding.rule name (observeTracks rules tracks).2) := by
  induction tracks generalizing rules with
  | nil => rfl
  | cons track _ induction =>
    have tail := induction fun other member => wellFormed other (List.mem_cons_of_mem _ member)
    simp only [observeTracks, observeTrack_onlyRule (wellFormed track List.mem_cons_self),
      tail, RateLimit.own_append]

theorem observeFrameRules_onlyRule {tracks : List (TrackState Body)}
    (wellFormed : ∀ track ∈ tracks, track.WellFormed cameraId) (frameTsMs : Nat)
    (rules : List (FrameRule Body)) (name : String) :
    observeFrameRules (rules.filter (·.face.name = name)) tracks frameTsMs =
      ((observeFrameRules rules tracks frameTsMs).1.filter (·.face.name = name),
        RateLimit.own Finding.rule name (observeFrameRules rules tracks frameTsMs).2) := by
  simp only [observeFrameRules, RateLimit.own]
  congr 1
  · apply map_filter_eq
    intro rule
    rw [(FrameRule.observeFrame_spec wellFormed frameTsMs rule).1]
  · apply flatMap_filter_eq
    intro rule _ finding found
    have makes := (FrameRule.observeFrame_spec wellFormed frameTsMs rule).2 finding found
    rw [Finding.rule, makes.ruleName]

namespace SourceRuntime

variable {runtime : SourceRuntime Body}

section

variable (wellFormed : runtime.store.WellFormed runtime.cameraId)

include wellFormed

theorem observe_onlyRule (frame : Frame Body) (name : String) :
    (runtime.onlyRule name).observe frame =
      ((runtime.observe frame).1.onlyRule name,
        RateLimit.own Finding.rule name (runtime.observe frame).2) := by
  have stored := (storeAt_wellFormed wellFormed frame).activeTracks
  have sameStore : (runtime.onlyRule name).storeAt frame = runtime.storeAt frame := rfl
  have sameTime : (runtime.onlyRule name).frameTs frame = runtime.frameTs frame := rfl
  simp only [observe, sameStore, sameTime]
  simp only [onlyRule, observeTracks_onlyRule stored, observeFrameRules_onlyRule stored,
    RateLimit.own_append]

theorem findings_onlyRule (frames : List (Frame Body)) (name : String) :
    (runtime.onlyRule name).findings frames =
      RateLimit.own Finding.rule name (runtime.findings frames) := by
  induction frames generalizing runtime with
  | nil => rfl
  | cons frame _ induction =>
    rw [findings, observe_onlyRule wellFormed, findings, RateLimit.own_append]
    congr 1
    exact @induction (runtime.observe frame).1 (storeAt_wellFormed wellFormed frame)

theorem rule_mem {frames : List (Frame Body)} {finding : Finding}
    (member : finding ∈ runtime.findings frames) :
    ∃ face ∈ runtime.singleTrackFaces ++ runtime.frameFaces, face.name = finding.rule := by
  induction frames generalizing runtime with
  | nil => exact absurd member List.not_mem_nil
  | cons frame _ induction =>
    rw [findings, List.mem_append] at member
    rcases member with now | later
    · rcases makes_of_mem wellFormed now with ⟨face, inFaces, _, makes⟩
      exact ⟨face, inFaces, makes.ruleName.symm⟩
    · have found := @induction (runtime.observe frame).1
        (storeAt_wellFormed wellFormed frame) later
      rw [observe_singleTrackFaces wellFormed, observe_frameFaces wellFormed] at found
      exact found

end

end SourceRuntime

namespace RuleEntry

theorem singleTrackRule_name {entry : RuleEntry Body} {rule : SingleTrackRule Body}
    (built : entry.singleTrackRule = some rule) : rule.face.name = entry.config.name := by
  cases entry <;> simp only [singleTrackRule, Option.some.injEq, reduceCtorEq] at built <;>
    rw [← built] <;> rfl

theorem frameRule_name {entry : RuleEntry Body} {rule : FrameRule Body}
    (built : entry.frameRule = some rule) : rule.face.name = entry.config.name := by
  cases entry <;> simp only [frameRule, Option.some.injEq, reduceCtorEq] at built <;>
    rw [← built] <;> rfl

end RuleEntry

theorem filterMap_filter_eq {α β : Type*} {entries : List α} {build : α → Option β}
    {entry : α → Bool} {rule : β → Bool}
    (agree : ∀ item built, build item = some built → rule built = entry item) :
    (entries.filter entry).filterMap build = (entries.filterMap build).filter rule := by
  rw [List.filterMap_filter, List.filter_filterMap]
  congr 1
  funext item
  cases built : build item with
  | none => exact ite_self none
  | some value => rw [Option.filter_some, agree item value built]

namespace CameraEntry

variable (camera : CameraEntry Body) (name : String)

theorem only_enabledRules :
    (camera.only name).enabledRules =
      camera.enabledRules.filter (·.config.name = name) := by
  simp only [enabledRules, only]
  induction camera.rules with
  | nil => rfl
  | cons rule _ induction =>
    rw [List.map_cons]
    by_cases same : rule.config.name = name
    · rw [if_pos same]
      by_cases enabled : rule.config.enabled = true
      · simp [enabled, same, induction]
      · simp [enabled, induction]
    · have disabled : rule.disable.config.enabled = false := by simp [RuleEntry.disable]
      rw [if_neg same]
      by_cases enabled : rule.config.enabled = true
      · simp [enabled, disabled, same, induction]
      · simp [enabled, disabled, induction]

theorem only_build :
    (camera.only name).build = camera.build.onlyRule name := by
  simp only [build, SourceRuntime.onlyRule, only_enabledRules]
  congr 1
  · apply filterMap_filter_eq
    intro entry rule built
    rw [RuleEntry.singleTrackRule_name built]
  · apply filterMap_filter_eq
    intro entry rule built
    rw [RuleEntry.frameRule_name built]

variable (frames : List (Frame Body))

theorem only_findings (name : String) :
    (camera.only name).findings frames =
      RateLimit.own Finding.rule name (camera.findings frames) := by
  rw [findings, only_build]
  exact SourceRuntime.findings_onlyRule camera.build_wellFormed frames name

def eventsOf (camera : CameraEntry Body) (name : String) (frames : List (Frame Body)) :
    List SecurityEvent :=
  (camera.events frames).filter (·.ruleName = name)

theorem eventsOf_eq :
    camera.eventsOf name frames =
      (RateLimit.own Finding.rule name
        (cooldownLimit.passed (fun _ => none) (camera.findings frames))).map Finding.event := by
  rw [eventsOf, events_eq, List.filter_map]
  rfl

theorem only_events :
    (camera.only name).events frames =
      (cooldownLimit.passed (fun _ => none)
        (RateLimit.own Finding.rule name (camera.findings frames))).map Finding.event := by
  rw [events_eq, only_findings]

theorem rule_of_finding {frames : List (Frame Body)} {finding : Finding}
    (member : finding ∈ camera.findings frames) :
    ∃ rule ∈ camera.rules, rule.config.name = finding.rule := by
  rcases SourceRuntime.rule_mem camera.build_wellFormed member with ⟨_, inFaces, named⟩
  rcases List.mem_append.mp inFaces with single | frame
  · simp only [SourceRuntime.singleTrackFaces, build, List.mem_map, List.mem_filterMap]
      at single
    rcases single with ⟨_, ⟨entry, enabled, built⟩, rfl⟩
    refine ⟨entry, (List.mem_filter.mp enabled).1, ?_⟩
    rw [← named, RuleEntry.singleTrackRule_name built]
  · simp only [SourceRuntime.frameFaces, build, List.mem_map, List.mem_filterMap] at frame
    rcases frame with ⟨_, ⟨entry, enabled, built⟩, rfl⟩
    refine ⟨entry, (List.mem_filter.mp enabled).1, ?_⟩
    rw [← named, RuleEntry.frameRule_name built]

/-- Every rule of the camera reports what it reports when it is enabled alone. -/
def Unsilenced (camera : CameraEntry Body) (frames : List (Frame Body)) : Prop :=
  ∀ rule ∈ camera.rules,
    camera.eventsOf rule.config.name frames = (camera.only rule.config.name).events frames

/-- Whenever the conditions of a rule are met under some key, no other rule that
reports under the key alone is in the cooldown of such a report, unless the rule
is in the cooldown of a report of its own. -/
def Undisturbed (camera : CameraEntry Body) (frames : List (Frame Body)) : Prop :=
  cooldownLimit.Undisturbed Finding.rule (camera.findings frames)

theorem unsilenced_iff_separate :
    camera.Unsilenced frames ↔
      cooldownLimit.Separate Finding.rule Finding.event (camera.findings frames) := by
  simp only [Unsilenced, RateLimit.Separate, eventsOf_eq, only_events]
  constructor
  · intro unsilenced name
    by_cases named : ∃ rule ∈ camera.rules, rule.config.name = name
    · rcases named with ⟨rule, member, rfl⟩
      exact unsilenced rule member
    · have missing : ∀ findings : List Finding, findings.Sublist (camera.findings frames) →
          RateLimit.own Finding.rule name findings = [] := by
        intro findings sublist
        rw [RateLimit.own, List.filter_eq_nil_iff]
        intro finding member same
        rcases camera.rule_of_finding (sublist.subset member) with ⟨rule, inRules, ruleName⟩
        exact named ⟨rule, inRules, ruleName.trans (by simpa using same)⟩
      rw [missing _ (cooldownLimit.passed_sublist _ _), missing _ (List.Sublist.refl _)]
      rfl
  · intro separate rule _
    exact separate rule.config.name

theorem findings_telling {frames : List (Frame Body)} :
    cooldownLimit.Telling Finding.rule Finding.event (camera.findings frames) := by
  have keyed : ∀ finding ∈ camera.findings frames,
      finding.key = finding.event.cooldownKey := by
    suffices keyed : ∀ (runtime : SourceRuntime Body),
        runtime.store.WellFormed runtime.cameraId →
        ∀ finding ∈ runtime.findings frames, finding.key = finding.event.cooldownKey from
      keyed camera.build camera.build_wellFormed
    induction frames with
    | nil => exact fun _ _ finding member => absurd member List.not_mem_nil
    | cons frame _ induction =>
      intro runtime wellFormed finding member
      rw [SourceRuntime.findings, List.mem_append] at member
      rcases member with now | later
      · rcases SourceRuntime.makes_of_mem wellFormed now with ⟨_, _, _, makes⟩
        exact makes.key
      · exact induction _ (SourceRuntime.storeAt_wellFormed wellFormed frame) finding later
  intro first inFirst second inSecond _ sameEvent
  simp only [cooldownLimit]
  rw [keyed first inFirst, keyed second inSecond, sameEvent]
  exact ⟨rfl, rfl⟩

end CameraEntry

/-- The rules of a camera do not silence each other exactly in the undisturbed runs. -/
theorem rules_unsilenced_iff (camera : CameraEntry Body) (frames : List (Frame Body))
    (sorted : Nondecreasing frames) :
    camera.Unsilenced frames ↔ camera.Undisturbed frames := by
  rw [camera.unsilenced_iff_separate]
  exact RateLimit.separate_iff_undisturbed (camera.findings_ordered sorted)
    camera.findings_telling

/-! ## A fall in a guarded zone -/

def guardedZone : ZoneConfig Bool where
  name := "perimeter"
  inside _ := true

def guardedCamera : CameraEntry Bool where
  cameraId := "cam_001"
  rules :=
    [.intrusion { name := "intrusion" } guardedZone,
      .fall { name := "fall" } guardedZone
        { visibleKeypointCount := fun _ => 17, isLying := id, isUpright := not }]
  distinct := by decide

def personAt (timestampMs : Nat) (lying : Bool) : Frame Bool where
  timestampMs
  persons := [{ trackId := 1, body := lying }]

def fallInZone : List (Frame Bool) :=
  [personAt 1000 false, personAt 2000 false, personAt 2500 true, personAt 4000 true]

theorem fallInZone_sorted : Nondecreasing fallInZone := by
  simp [Nondecreasing, fallInZone, personAt]

theorem fall_in_zone_unsilenced_iff :
    guardedCamera.Unsilenced fallInZone ↔ guardedCamera.Undisturbed fallInZone :=
  rules_unsilenced_iff guardedCamera fallInZone fallInZone_sorted

/-- The intrusion event keeps the fall from being reported. -/
theorem intrusion_silences_fall :
    ¬∀ (camera : CameraEntry Bool) (frames : List (Frame Bool)), Nondecreasing frames →
      camera.Unsilenced frames := by
  intro claim
  have unsilenced := claim guardedCamera fallInZone fallInZone_sorted
  have fall := unsilenced (.fall { name := "fall" } guardedZone
    { visibleKeypointCount := fun _ => 17, isLying := id, isUpright := not })
    (List.mem_cons_of_mem _ List.mem_cons_self)
  revert fall
  decide +kernel

end VideoAnalysis.Behavior
