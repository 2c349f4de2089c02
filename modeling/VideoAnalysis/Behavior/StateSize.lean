import VideoAnalysis.Behavior.Anchoring
import VideoAnalysis.Behavior.Throttles

/-! # What the rules keep about tracks

A running rule keeps starts of the tracks it has seen and never drops the start of a
track that is gone. A chasing rule keeps its pairs for the tolerance at most.
-/

namespace VideoAnalysis.Behavior

open VideoAnalysis.Foundation

variable {Body : Type}

/-! ## Running -/

namespace SingleTrackRule

def since : SingleTrackRule Body → Dict (String × Int) Nat
  | .running rule => rule.runningSince
  | .intrusion _ | .loitering _ | .fall _ => ∅

/-- The starts that the rule keeps belong to the given tracks of the camera. -/
structure Knows (cameraId : String) (trackIds : Finset Int) (rule : SingleTrackRule Body) :
    Prop where
  distinct : rule.since.Distinct
  keys : ∀ key started, rule.since.get key = some started → key.1 = cameraId ∧ key.2 ∈ trackIds

variable {cameraId : String} {trackIds : Finset Int} {rule : SingleTrackRule Body}

/-- The step lemma: a look at a known track. -/
theorem Knows.observe (knows : rule.Knows cameraId trackIds) {track : TrackState Body}
    (wellFormed : track.WellFormed cameraId) (known : track.trackId ∈ trackIds) :
    (rule.observe track).1.Knows cameraId trackIds := by
  rcases wellFormed.current with ⟨current, isLast, rfl⟩
  cases rule with
  | running rule =>
    have stopped : Knows current.cameraId trackIds (.running { rule with
        runningSince := rule.runningSince.erase (current.cameraId, track.trackId) }) := by
      refine ⟨knows.distinct.erase _, ?_⟩
      intro key started found
      simp only [since, Dict.get_erase] at found
      split at found
      · cases found
      · exact knows.keys key started found
    have running : ∀ moment, Knows current.cameraId trackIds (.running { rule with
        runningSince := rule.runningSince.set (current.cameraId, track.trackId) moment }) := by
      intro moment
      refine ⟨knows.distinct.set _ _, ?_⟩
      intro key started found
      simp only [since, Dict.get_set] at found
      split at found
      · next same =>
          rw [same]
          exact ⟨rfl, known⟩
      · exact knows.keys key started found
    simp only [SingleTrackRule.observe, RunningRule.observe, isLast]
    split
    · exact knows
    · split
      · exact stopped
      · split
        · exact stopped
        · split
          · exact running _
          · exact running _
  | intrusion | loitering | fall => exact knows

theorem Knows.lookAt (knows : rule.Knows cameraId trackIds) {tracks : List (TrackState Body)}
    (wellFormed : ∀ track ∈ tracks, track.WellFormed cameraId)
    (known : ∀ track ∈ tracks, track.trackId ∈ trackIds) :
    (rule.lookAt tracks).Knows cameraId trackIds := by
  induction tracks generalizing rule with
  | nil => exact knows
  | cons _ _ induction =>
    rw [List.forall_mem_cons] at wellFormed known
    exact induction (knows.observe wellFormed.1 known.1) wellFormed.2 known.2

theorem Knows.size_le (knows : rule.Knows cameraId trackIds) :
    rule.since.size ≤ trackIds.card := by
  have within := Dict.size_le_of_domain knows.distinct
    (trackIds.image fun trackId => (cameraId, trackId)) fun key started found => by
      rcases knows.keys key started found with ⟨rfl, known⟩
      exact Finset.mem_image_of_mem _ known
  exact within.trans Finset.card_image_le

end SingleTrackRule

/-! ## Chasing -/

namespace ChasingRule

def Same (first second : ChasingRule Body) : Prop :=
  ∃ since missing, first = { second with pairSince := since, pairMissingSince := missing }

theorem Same.refl (rule : ChasingRule Body) : Same rule rule :=
  ⟨rule.pairSince, rule.pairMissingSince, rfl⟩

theorem Same.trans {first second third : ChasingRule Body} (left : Same first second)
    (right : Same second third) : Same first third := by
  rcases left with ⟨firstSince, firstMissing, rfl⟩
  rcases right with ⟨_, _, rfl⟩
  exact ⟨firstSince, firstMissing, rfl⟩

theorem Same.params {first second : ChasingRule Body} (same : Same first second) :
    first.params = second.params := by
  rcases same with ⟨_, _, rfl⟩
  rfl

def keyOf (pair : ChasePair) : Int × Int := pairKey pair.leaderTrackId pair.followerTrackId

def DistinctPairs (rule : ChasingRule Body) : Prop :=
  rule.pairSince.Distinct ∧ rule.pairMissingSince.Distinct

theorem pairStep_keeps (frameTsMs : Nat) (cameraId : String) (rule : ChasingRule Body)
    (pair : ChasePair) :
    let next := (pairStep frameTsMs cameraId rule pair).1
    Same next rule ∧ (rule.DistinctPairs → next.DistinctPairs) ∧
      (∀ key, next.pairSince.get key =
        if key = keyOf pair then some (rule.pairStart frameTsMs (keyOf pair))
        else rule.pairSince.get key) ∧
      ∀ key, next.pairMissingSince.get key =
        if key = keyOf pair then none else rule.pairMissingSince.get key := by
  have equation : (pairStep frameTsMs cameraId rule pair).1 =
      { rule with
        pairSince := rule.pairSince.set (keyOf pair) (rule.pairStart frameTsMs (keyOf pair))
        pairMissingSince := rule.pairMissingSince.erase (keyOf pair) } := by
    simp only [pairStep, keyOf]
    split <;> rfl
  simp only [equation]
  refine ⟨⟨_, _, rfl⟩, fun distinct => ⟨distinct.1.set _ _, distinct.2.erase _⟩, ?_, ?_⟩
  · intro key
    exact Dict.get_set _ _ _ _
  · intro key
    exact Dict.get_erase _ _ _

theorem pairSteps_keep (frameTsMs : Nat) (cameraId : String) (rule : ChasingRule Body)
    (pairs : List ChasePair) :
    let next := (collectEach (pairStep frameTsMs cameraId) rule pairs).1
    Same next rule ∧ (rule.DistinctPairs → next.DistinctPairs) ∧
      (∀ key, (∃ since, next.pairSince.get key = some since) ↔
        key ∈ pairs.map keyOf ∨ ∃ since, rule.pairSince.get key = some since) ∧
      ∀ key, next.pairMissingSince.get key =
        if key ∈ pairs.map keyOf then none else rule.pairMissingSince.get key := by
  induction pairs generalizing rule with
  | nil =>
    refine ⟨Same.refl rule, id, ?_, ?_⟩
    all_goals simp [collectEach]
  | cons pair _ induction =>
    rcases pairStep_keeps frameTsMs cameraId rule pair with ⟨same, distinct, since, missing⟩
    rcases induction (pairStep frameTsMs cameraId rule pair).1 with
      ⟨restSame, restDistinct, restSince, restMissing⟩
    simp only [collectEach]
    refine ⟨restSame.trans same, fun start => restDistinct (distinct start), ?_, ?_⟩
    · intro key
      rw [restSince, since]
      by_cases here : key = keyOf pair
      all_goals simp [here]
    · intro key
      rw [restMissing, missing]
      by_cases here : key = keyOf pair
      all_goals simp [here]

def missingFrom (rule : ChasingRule Body) (frameTsMs : Nat) (key : Int × Int) : Nat :=
  (rule.pairMissingSince.get key).getD frameTsMs

/-- The pair has been missing for longer than the tolerance. -/
def Lapsed (rule : ChasingRule Body) (frameTsMs : Nat) (key : Int × Int) : Prop :=
  rule.params.pairGapToleranceMs < (frameTsMs : Int) - rule.missingFrom frameTsMs key

instance (rule : ChasingRule Body) (frameTsMs : Nat) (key : Int × Int) :
    Decidable (rule.Lapsed frameTsMs key) := inferInstanceAs (Decidable (_ < _))

theorem missPair_keeps (frameTsMs : Nat) (active : List (Int × Int)) (rule : ChasingRule Body)
    (key : Int × Int) :
    let next := missPair frameTsMs active rule key
    Same next rule ∧ (rule.DistinctPairs → next.DistinctPairs) ∧
      (∀ other, next.pairSince.get other =
        if other = key ∧ key ∉ active ∧ rule.Lapsed frameTsMs key then none
        else rule.pairSince.get other) ∧
      ∀ other, next.pairMissingSince.get other =
        if other = key ∧ key ∉ active then
          if rule.Lapsed frameTsMs key then none else some (rule.missingFrom frameTsMs key)
        else rule.pairMissingSince.get other := by
  by_cases inFrame : key ∈ active
  · have equation : missPair frameTsMs active rule key = rule :=
      if_pos (List.contains_iff_mem.mpr inFrame)
    simp only [equation]
    refine ⟨Same.refl rule, id, ?_, ?_⟩
    all_goals simp [inFrame]
  · have missing : ¬active.contains key = true := fun contained =>
      inFrame (List.contains_iff_mem.mp contained)
    by_cases lapsed : rule.Lapsed frameTsMs key
    · have equation : missPair frameTsMs active rule key =
          { rule with
            pairSince := rule.pairSince.erase key
            pairMissingSince := rule.pairMissingSince.erase key } :=
        (if_neg missing).trans (if_pos lapsed)
      simp only [equation]
      refine ⟨⟨_, _, rfl⟩, fun distinct => ⟨distinct.1.erase _, distinct.2.erase _⟩, ?_, ?_⟩
      all_goals
        intro other
        simp [Dict.get_erase, inFrame, lapsed]
    · have equation : missPair frameTsMs active rule key =
          { rule with
            pairMissingSince :=
              rule.pairMissingSince.set key (rule.missingFrom frameTsMs key) } :=
        (if_neg missing).trans (if_neg lapsed)
      simp only [equation]
      refine ⟨⟨_, _, rfl⟩, fun distinct => ⟨distinct.1, distinct.2.set _ _⟩, ?_, ?_⟩
      · intro other
        simp [lapsed]
      · intro other
        simp [Dict.get_set, inFrame, lapsed]

theorem missPairs_keep (frameTsMs : Nat) (active : List (Int × Int)) (rule : ChasingRule Body)
    {keys : List (Int × Int)} (once : keys.Nodup) :
    let next := keys.foldl (missPair frameTsMs active) rule
    Same next rule ∧ (rule.DistinctPairs → next.DistinctPairs) ∧
      (∀ key, next.pairSince.get key =
        if key ∈ keys ∧ key ∉ active ∧ rule.Lapsed frameTsMs key then none
        else rule.pairSince.get key) ∧
      ∀ key, next.pairMissingSince.get key =
        if key ∈ keys ∧ key ∉ active then
          if rule.Lapsed frameTsMs key then none else some (rule.missingFrom frameTsMs key)
        else rule.pairMissingSince.get key := by
  induction keys generalizing rule with
  | nil =>
    refine ⟨Same.refl rule, id, ?_, ?_⟩
    all_goals simp
  | cons first _ induction =>
    rcases List.nodup_cons.mp once with ⟨apart, restOnce⟩
    rcases missPair_keeps frameTsMs active rule first with ⟨same, distinct, since, missing⟩
    rcases induction (missPair frameTsMs active rule first) restOnce with
      ⟨restSame, restDistinct, restSince, restMissing⟩
    have others : ∀ key, key ≠ first →
        (missPair frameTsMs active rule first).missingFrom frameTsMs key =
          rule.missingFrom frameTsMs key := by
      intro key different
      rw [missingFrom, missing, if_neg fun both => different both.1]
      rfl
    have lapses : ∀ key, key ≠ first →
        ((missPair frameTsMs active rule first).Lapsed frameTsMs key ↔
          rule.Lapsed frameTsMs key) := by
      intro key different
      rw [Lapsed, Lapsed, others key different, same.params]
    simp only [List.foldl_cons]
    refine ⟨restSame.trans same, fun start => restDistinct (distinct start), ?_, ?_⟩
    · intro key
      rw [restSince, since]
      by_cases here : key = first
      · subst here
        simp [apart]
      · simp [here, lapses key here]
    · intro key
      rw [restMissing, missing]
      by_cases here : key = first
      · subst here
        simp [apart]
      · simp [here, lapses key here, others key here]

/-- The pairs that are not missing are few, and so are those missing from one
time on; nothing is missing for longer than the tolerance. -/
structure PairsKept (rule : ChasingRule Body) (nowMs limit : Nat) : Prop where
  distinct : rule.DistinctPairs
  known : ∀ key missingSince, rule.pairMissingSince.get key = some missingSince →
    ∃ since, rule.pairSince.get key = some since
  times : ∀ key missingSince, rule.pairMissingSince.get key = some missingSince →
    missingSince ≤ nowMs ∧ (nowMs : Int) - missingSince ≤ rule.params.pairGapToleranceMs
  present : ∃ keys : Finset (Int × Int), keys.card ≤ limit ∧ ∀ key since,
    rule.pairSince.get key = some since → rule.pairMissingSince.get key = none → key ∈ keys
  groups : ∀ moment : Nat, ∃ keys : Finset (Int × Int), keys.card ≤ limit ∧
    ∀ key, rule.pairMissingSince.get key = some moment → key ∈ keys

theorem pairsKept_empty (rule : ChasingRule Body) (nowMs limit : Nat) :
    PairsKept { rule with pairSince := ∅, pairMissingSince := ∅ } nowMs limit := by
  have noKeys : (∅ : Finset (Int × Int)).card ≤ limit := Nat.zero_le _
  refine ⟨⟨Dict.distinct_empty, Dict.distinct_empty⟩, ?_, ?_, ⟨∅, noKeys, ?_⟩,
    fun moment => ⟨∅, noKeys, ?_⟩⟩
  · intro key missingSince found
    exact absurd found (by simp)
  · intro key missingSince found
    exact absurd found (by simp)
  · intro key since found
    exact absurd found (by simp)
  · intro key found
    exact absurd found (by simp)

variable {rule : ChasingRule Body}

theorem PairsKept.size_le {nowMs limit : Nat} (kept : rule.PairsKept nowMs limit) :
    rule.pairSince.size + rule.pairMissingSince.size ≤
      limit + 2 * (limit * (rule.params.pairGapToleranceMs + 1).toNat) := by
  have missing : rule.pairMissingSince.size ≤
      limit * (rule.params.pairGapToleranceMs + 1).toNat := by
    have bound := Dict.size_le_of_times kept.distinct.2 (fun seen => (seen : Int))
      ((nowMs : Int) - rule.params.pairGapToleranceMs) nowMs limit ?_ ?_
    · have width : ((nowMs : Int) + 1 -
          ((nowMs : Int) - rule.params.pairGapToleranceMs)).toNat =
            (rule.params.pairGapToleranceMs + 1).toNat := by
        omega
      rw [width] at bound
      exact bound
    · intro key missingSince found
      have within := kept.times key missingSince found
      omega
    · intro moment
      rcases kept.groups moment.toNat with ⟨keys, few, covers⟩
      refine ⟨keys, few, ?_⟩
      intro key missingSince found same
      apply covers
      rw [found, ← same]
      rfl
  have since : rule.pairSince.size ≤ limit + rule.pairMissingSince.size := by
    rcases kept.present with ⟨keys, _, covers⟩
    have within := Dict.size_le_of_domain kept.distinct.1
      (keys ∪ rule.pairMissingSince.domain) fun key since found => by
        rw [Finset.mem_union]
        cases gone : rule.pairMissingSince.get key with
        | none => exact Or.inl (covers key since found gone)
        | some missingSince => exact Or.inr (Dict.mem_domain.mpr ⟨missingSince, gone⟩)
    have union := Finset.card_union_le keys rule.pairMissingSince.domain
    have domain := rule.pairMissingSince.card_domain_le
    omega
  omega

theorem pairsFrom_mem {tracks : List (Kinematics Body)}
    {pair : ChasePair} (member : pair ∈ rule.pairsFrom tracks) :
    (∃ track ∈ tracks, track.trackId = pair.leaderTrackId) ∧
      ∃ track ∈ tracks, track.trackId = pair.followerTrackId := by
  induction tracks with
  | nil => exact absurd member List.not_mem_nil
  | cons left _ induction =>
    rw [pairsFrom, List.mem_append, List.mem_filterMap] at member
    rcases member with ⟨right, inRest, found⟩ | later
    · rcases Option.map_eq_some_iff.mp found with ⟨rightLeads, _, isPair⟩
      rw [← isPair]
      cases rightLeads with
      | true =>
        exact ⟨⟨right, List.mem_cons_of_mem _ inRest, rfl⟩, ⟨left, List.mem_cons_self, rfl⟩⟩
      | false =>
        exact ⟨⟨left, List.mem_cons_self, rfl⟩, ⟨right, List.mem_cons_of_mem _ inRest, rfl⟩⟩
    · rcases induction later with ⟨⟨leader, inLeaders, isLeader⟩, follower, inFollowers,
        isFollower⟩
      exact ⟨⟨leader, List.mem_cons_of_mem _ inLeaders, isLeader⟩,
        ⟨follower, List.mem_cons_of_mem _ inFollowers, isFollower⟩⟩

theorem trackKinematics_trackId {track : TrackState Body} {windowMs : Int}
    {kinematics : Kinematics Body} (found : trackKinematics track windowMs = some kinematics) :
    kinematics.trackId = track.trackId := by
  unfold trackKinematics at found
  split at found
  · simp only at found
    split at found
    · exact absurd found (by simp)
    · rw [← Option.some.inj found]
  · exact absurd found (by simp)

theorem mem_detectChasePairs {tracks : List (TrackState Body)} {pair : ChasePair}
    (member : pair ∈ rule.detectChasePairs tracks) :
    (keyOf pair).1 ∈ tracks.map (·.trackId) ∧ (keyOf pair).2 ∈ tracks.map (·.trackId) := by
  have named : ∀ trackId, (∃ kinematics ∈ tracks.filterMap fun track =>
      (trackKinematics track rule.params.velocityWindowMs).filter rule.params.fastEnough,
        kinematics.trackId = trackId) → trackId ∈ tracks.map (·.trackId) := by
    rintro trackId ⟨kinematics, inKinematics, rfl⟩
    rcases List.mem_filterMap.mp inKinematics with ⟨_, inTracks, found⟩
    rw [trackKinematics_trackId (Option.filter_eq_some_iff.mp found).1]
    exact List.mem_map_of_mem inTracks
  rcases pairsFrom_mem member with ⟨leader, follower⟩
  rw [keyOf, pairKey]
  split
  · exact ⟨named _ leader, named _ follower⟩
  · exact ⟨named _ follower, named _ leader⟩

theorem detectChasePairs_few (rule : ChasingRule Body) {tracks zoneTracks : List (TrackState Body)}
    (within : zoneTracks ⊆ tracks) :
    ∃ keys : Finset (Int × Int), keys.card ≤ tracks.length * tracks.length ∧
      ∀ key ∈ (rule.detectChasePairs zoneTracks).map keyOf, key ∈ keys := by
  refine ⟨(tracks.map (·.trackId)).toFinset ×ˢ (tracks.map (·.trackId)).toFinset, ?_, ?_⟩
  · have few := List.toFinset_card_le (tracks.map (·.trackId))
    rw [List.length_map] at few
    rw [Finset.card_product]
    exact Nat.mul_le_mul few few
  · intro key member
    rcases List.mem_map.mp member with ⟨_, inPairs, rfl⟩
    have inTracks := mem_detectChasePairs inPairs
    rw [Finset.mem_product, List.mem_toFinset, List.mem_toFinset]
    exact ⟨List.map_subset _ within inTracks.1, List.map_subset _ within inTracks.2⟩

theorem members_of_finding {tracks : List (TrackState Body)} {frameTsMs : Nat}
    {finding : Finding} (member : finding ∈ (rule.observeFrame tracks frameTsMs).2) :
    ∀ trackId ∈ finding.event.memberTrackIds, trackId ∈ tracks.map (·.trackId) := by
  have found : ∀ moment cameraId pairs (other : ChasingRule Body),
      finding ∈ (collectEach (pairStep moment cameraId) other pairs).2 →
        ∃ pair ∈ pairs, finding.event.memberTrackIds = [(keyOf pair).1, (keyOf pair).2] := by
    intro moment cameraId pairs
    induction pairs with
    | nil =>
      intro other inNone
      cases inNone
    | cons pair _ induction =>
      intro other inPairs
      simp only [collectEach, List.mem_append, Option.mem_toList] at inPairs
      rcases inPairs with now | later
      · refine ⟨pair, List.mem_cons_self, ?_⟩
        simp only [pairStep] at now
        split at now
        · cases now
        · rw [← Option.some.inj now]
          rfl
      · rcases induction _ later with ⟨made, inRest, members⟩
        exact ⟨made, List.mem_cons_of_mem _ inRest, members⟩
  unfold observeFrame at member
  split at member
  · cases member
  · split at member
    · cases member
    · rcases found _ _ _ _ member with ⟨_, inPairs, members⟩
      have inZone := mem_detectChasePairs inPairs
      have within := List.map_subset (·.trackId) (List.Subset.trans (rule.zoneTracks_subset _)
        (rule.presentPairTracks_subset tracks (CrowdGatheringRule.frameTime tracks frameTsMs)))
      rw [members, List.forall_mem_cons, List.forall_mem_singleton]
      exact ⟨within inZone.1, within inZone.2⟩

/-- The step lemma: a frame that comes later keeps the pairs few. -/
theorem PairsKept.observeFrame {nowMs limit : Nat}
    (kept : rule.PairsKept nowMs limit) (enabled : rule.config.enabled = true)
    {tracks : List (TrackState Body)} {frameTsMs laterMs : Nat}
    (isTime : CrowdGatheringRule.frameTime tracks frameTsMs = laterMs)
    (later : ∀ key missingSince, rule.pairMissingSince.get key = some missingSince →
      missingSince < laterMs) (few : tracks.length * tracks.length ≤ limit) :
    (rule.observeFrame tracks frameTsMs).1.PairsKept laterMs limit ∧
      Same (rule.observeFrame tracks frameTsMs).1 rule := by
  unfold ChasingRule.observeFrame
  by_cases empty : tracks.isEmpty
  · rw [if_pos empty]
    exact ⟨pairsKept_empty rule laterMs limit, ⟨_, _, rfl⟩⟩
  rw [if_neg empty]
  have goesOn : ¬(!rule.config.enabled) = true := by simp [enabled]
  rw [if_neg goesOn]
  simp only [isTime]
  have within : rule.zoneTracks (rule.presentPairTracks tracks laterMs) ⊆ tracks :=
    List.Subset.trans (rule.zoneTracks_subset _) (rule.presentPairTracks_subset _ _)
  rcases rule.detectChasePairs_few within with ⟨activeKeys, small, covers⟩
  generalize rule.detectChasePairs
    (rule.zoneTracks (rule.presentPairTracks tracks laterMs)) = pairs at covers ⊢
  generalize frameCameraId _ = cameraId
  rcases pairSteps_keep laterMs cameraId rule pairs with ⟨same, distinct, since, missing⟩
  generalize (collectEach (pairStep laterMs cameraId) rule pairs).1 = known at *
  have isDistinct := distinct kept.distinct
  rcases missPairs_keep laterMs (pairs.map keyOf) known isDistinct.1 with
    ⟨finalSame, finalDistinct, finalSince, finalMissing⟩
  change PairsKept (known.pairSince.keys.foldl (missPair laterMs (pairs.map keyOf)) known)
    laterMs limit ∧ Same (known.pairSince.keys.foldl (missPair laterMs (pairs.map keyOf))
      known) rule
  generalize known.pairSince.keys.foldl (missPair laterMs (pairs.map keyOf)) known = final at *
  have inKnown : ∀ key value, known.pairSince.get key = some value →
      key ∈ known.pairSince.keys := fun key value found =>
    List.mem_map_of_mem (f := Prod.fst) (Dict.mem_of_get found)
  have stillMissing : ∀ key moment, final.pairMissingSince.get key = some moment →
      key ∈ known.pairSince.keys ∧ key ∉ pairs.map keyOf ∧ ¬known.Lapsed laterMs key ∧
        known.missingFrom laterMs key = moment := by
    intro key moment found
    rw [finalMissing] at found
    split at found
    · next both =>
        split at found
        · exact absurd found (by simp)
        · next lasting => exact ⟨both.1, both.2, lasting, Option.some.inj found⟩
    · next neither =>
        rw [missing] at found
        split at found
        · exact absurd found (by simp)
        · next absent =>
            rcases kept.known key moment found with ⟨value, isSince⟩
            rcases (since key).mpr (Or.inr ⟨value, isSince⟩) with ⟨other, inSince⟩
            exact absurd ⟨inKnown key other inSince, absent⟩ neither
  have missingFrom : ∀ key, key ∉ pairs.map keyOf → known.missingFrom laterMs key =
      (rule.pairMissingSince.get key).getD laterMs := by
    intro key absent
    rw [ChasingRule.missingFrom, missing, if_neg absent]
  refine ⟨⟨finalDistinct isDistinct, ?_, ?_, ⟨activeKeys, small.trans few, ?_⟩, ?_⟩,
    finalSame.trans same⟩
  · intro key moment found
    rcases stillMissing key moment found with ⟨inKeys, _, lasting, _⟩
    rw [finalSince, if_neg fun lapsed => lasting lapsed.2.2]
    exact Dict.exists_get_of_mem inKeys
  · intro key moment found
    rcases stillMissing key moment found with ⟨_, absent, lasting, isMoment⟩
    rw [Lapsed, isMoment, same.params, not_lt] at lasting
    rw [finalSame.params, same.params]
    refine ⟨?_, lasting⟩
    rw [missingFrom key absent] at isMoment
    cases old : rule.pairMissingSince.get key with
    | none =>
      rw [old] at isMoment
      exact isMoment.ge
    | some before =>
      rw [old] at isMoment
      exact isMoment ▸ (later key before old).le
  · intro key value found gone
    apply covers
    by_contra absent
    rw [finalSince] at found
    split at found
    · exact absurd found (by simp)
    · next lasting =>
        have inKeys := inKnown key value found
        rw [finalMissing, if_pos ⟨inKeys, absent⟩,
          if_neg fun lapsed => lasting ⟨inKeys, absent, lapsed⟩] at gone
        exact absurd gone (by simp)
  · intro moment
    by_cases isNow : moment = laterMs
    · rcases kept.present with ⟨keys, small, covers⟩
      refine ⟨keys, small, ?_⟩
      intro key found
      rcases stillMissing key moment found with ⟨inKeys, absent, _, isMoment⟩
      rw [missingFrom key absent] at isMoment
      have present : rule.pairMissingSince.get key = none := by
        cases old : rule.pairMissingSince.get key with
        | none => rfl
        | some before =>
          have past := later key before old
          rw [old, Option.getD_some] at isMoment
          omega
      rcases (since key).mp (Dict.exists_get_of_mem inKeys) with inPairs | ⟨value, isSince⟩
      · exact absurd inPairs absent
      · exact covers key value isSince present
    · rcases kept.groups moment with ⟨keys, small, covers⟩
      refine ⟨keys, small, ?_⟩
      intro key found
      rcases stillMissing key moment found with ⟨_, absent, _, isMoment⟩
      rw [missingFrom key absent] at isMoment
      apply covers
      cases old : rule.pairMissingSince.get key with
      | none =>
        rw [old, Option.getD_none] at isMoment
        exact absurd isMoment.symm isNow
      | some =>
        rw [old, Option.getD_some] at isMoment
        rw [isMoment]

end ChasingRule

end VideoAnalysis.Behavior
