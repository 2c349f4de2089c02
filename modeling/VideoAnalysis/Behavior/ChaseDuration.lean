import VideoAnalysis.Behavior.StateSize
import VideoAnalysis.Foundation.GapWatch

/-! # How long a chase lasts

The rule remembers since when each pair is chasing and since when it is missing. What it reports
are the stretches of frames with the pair that no lasting gap and no empty frame breaks.
-/

namespace VideoAnalysis.Behavior

open VideoAnalysis.Foundation

variable {Body : Type}

/-- A frame as the rule gets it, and the cooldown as other rules left it. -/
structure ChaseFrame (Body : Type) where
  tracks : List (TrackState Body)
  tsMs : Nat
  cooldown : CooldownTracker

namespace ChasingRule

def framePairs (rule : ChasingRule Body) (frame : ChaseFrame Body) : List ChasePair :=
  if frame.tracks.isEmpty || !rule.config.enabled then []
  else rule.detectChasePairs (rule.zoneTracks (rule.presentPairTracks frame.tracks frame.tsMs))

def detects (rule : ChasingRule Body) (key : Int × Int) (frame : ChaseFrame Body) : Bool :=
  decide (key ∈ (rule.framePairs frame).map keyOf)

def pairWatch (rule : ChasingRule Body) (key : Int × Int) : GapWatch (ChaseFrame Body) where
  time := ChaseFrame.tsMs
  seen := rule.detects key
  cleared frame := frame.tracks.isEmpty
  tolerance := rule.params.pairGapToleranceMs

def afterFrames (rule : ChasingRule Body) (frames : List (ChaseFrame Body)) : ChasingRule Body :=
  frames.foldl (fun rule frame => (rule.evaluateFrame frame.cooldown frame.tracks frame.tsMs).1)
    rule

def memory (rule : ChasingRule Body) (key : Int × Int) : GapWatch.Memory :=
  (rule.pairSince.get key).map fun since => (since, rule.pairMissingSince.get key)

/-- A chase of the pair: an unbroken stretch that lasts. -/
structure Chase (rule : ChasingRule Body) (key : Int × Int) (first : ChaseFrame Body)
    (later : List (ChaseFrame Body)) : Prop
    extends (rule.pairWatch key).Unbroken first later where
  lasts : rule.params.minPairDurationMs ≤
    (((first :: later).getLast (List.cons_ne_nil _ _)).tsMs : Int) - first.tsMs

/-! ## One frame -/

theorem Same.pairsFrom {first second : ChasingRule Body} (same : Same first second)
    (tracks : List (Kinematics Body)) : first.pairsFrom tracks = second.pairsFrom tracks := by
  induction tracks with
  | nil => rfl
  | cons _ _ induction => rw [ChasingRule.pairsFrom, ChasingRule.pairsFrom, induction,
      same.params]

theorem Same.pairWatch {first second : ChasingRule Body} (same : Same first second)
    (key : Int × Int) : first.pairWatch key = second.pairWatch key := by
  have pairs : ∀ tracks, first.detectChasePairs tracks = second.detectChasePairs tracks := by
    intro tracks
    rw [detectChasePairs, detectChasePairs, same.params, same.pairsFrom]
  have detected : first.detects key = second.detects key := by
    funext frame
    unfold detects framePairs
    simp only [pairs]
    rcases same with ⟨_, _, rfl⟩
    rfl
  unfold ChasingRule.pairWatch
  rw [detected, same.params]

theorem found_memory (rule : ChasingRule Body) (frameTsMs : Nat) (key : Int × Int) :
    (rule.pairWatch key).found frameTsMs (rule.memory key) =
      some (rule.pairStart frameTsMs key, none) := by
  unfold memory pairStart
  cases rule.pairSince.get key with
  | none => rfl
  | some =>
    cases isMissing : rule.pairMissingSince.get key with
    | none => rfl
    | some missingSince =>
      by_cases lapsed : (rule.pairWatch key).Lapsed frameTsMs missingSince
      · have isLapsed : decide (rule.params.pairGapToleranceMs <
            (frameTsMs : Int) - missingSince) = true := decide_eq_true lapsed
        simp only [Option.map_some, GapWatch.found, if_pos lapsed, isLapsed, if_true]
      · have notLapsed : decide (rule.params.pairGapToleranceMs <
            (frameTsMs : Int) - missingSince) = false := decide_eq_false lapsed
        simp only [Option.map_some, GapWatch.found, if_neg lapsed, notLapsed,
          Bool.false_eq_true, if_false]

def pairFinding (rule : ChasingRule Body) (frameTsMs : Nat) (cameraId : String)
    (pair : ChasePair) : Finding where
  key := s!"{cameraId}:chasing:{rule.zone.name}:{(keyOf pair).1}:{(keyOf pair).2}"
  cooldownS := rule.params.cooldownS
  event :=
    { eventType := .chasing
      cameraId
      trackId := pair.followerTrackId
      startTsMs := rule.pairStart frameTsMs (keyOf pair)
      endTsMs := frameTsMs
      zone := rule.zone.name
      ruleName := rule.config.name
      memberTrackIds := [(keyOf pair).1, (keyOf pair).2] }

def HasLasted (rule : ChasingRule Body) (frameTsMs : Nat) (key : Int × Int) : Prop :=
  rule.params.minPairDurationMs ≤ (frameTsMs : Int) - rule.pairStart frameTsMs key

variable {rule : ChasingRule Body}

theorem mem_pairStep_finding {frameTsMs : Nat} {cameraId : String}
    {pair : ChasePair} {finding : Finding} :
    finding ∈ (pairStep frameTsMs cameraId rule pair).2.toList ↔
      rule.HasLasted frameTsMs (keyOf pair) ∧
        finding = rule.pairFinding frameTsMs cameraId pair := by
  unfold pairStep HasLasted
  simp only
  split
  next short =>
    have notLasted : ¬rule.params.minPairDurationMs ≤
        (frameTsMs : Int) - rule.pairStart frameTsMs (keyOf pair) := Int.not_le.mpr short
    simp only [Option.toList_none, List.not_mem_nil, notLasted, false_and]
  next long =>
    have lasted : rule.params.minPairDurationMs ≤
        (frameTsMs : Int) - rule.pairStart frameTsMs (keyOf pair) := Int.not_lt.mp long
    simp only [Option.toList_some, List.mem_singleton, lasted, true_and]
    rfl

theorem pairStep_memory (rule : ChasingRule Body) (frameTsMs : Nat) (cameraId : String)
    (pair : ChasePair) (key : Int × Int) :
    (pairStep frameTsMs cameraId rule pair).1.memory key =
      if key = keyOf pair then (rule.pairWatch key).found frameTsMs (rule.memory key)
      else rule.memory key := by
  rcases pairStep_keeps frameTsMs cameraId rule pair with ⟨_, _, since, missing⟩
  rw [memory, since, missing]
  by_cases here : key = keyOf pair
  · rw [if_pos here, if_pos here, if_pos here, found_memory, here]
    rfl
  · rw [if_neg here, if_neg here, if_neg here]
    rfl

theorem pairStep_start (rule : ChasingRule Body) (frameTsMs : Nat) (cameraId : String)
    (pair : ChasePair) (key : Int × Int) :
    (pairStep frameTsMs cameraId rule pair).1.pairStart frameTsMs key =
      rule.pairStart frameTsMs key := by
  have same := (pairStep_keeps frameTsMs cameraId rule pair).1
  have next := found_memory (pairStep frameTsMs cameraId rule pair).1 frameTsMs key
  rw [same.pairWatch, pairStep_memory] at next
  have before := found_memory rule frameTsMs key
  split at next
  all_goals
    rw [before] at next
    exact (congrArg Prod.fst (Option.some.inj next)).symm

theorem collect_pairs (rule : ChasingRule Body) (frameTsMs : Nat) (cameraId : String)
    (pairs : List ChasePair) :
    let outcome := collectEach (pairStep frameTsMs cameraId) rule pairs
    (∀ key, outcome.1.memory key =
      if key ∈ pairs.map keyOf then (rule.pairWatch key).found frameTsMs (rule.memory key)
      else rule.memory key) ∧
      ∀ finding, finding ∈ outcome.2 ↔ ∃ pair ∈ pairs,
        rule.HasLasted frameTsMs (keyOf pair) ∧
          finding = rule.pairFinding frameTsMs cameraId pair := by
  induction pairs generalizing rule with
  | nil => exact ⟨fun key => (if_neg List.not_mem_nil).symm, fun finding => by simp [collectEach]⟩
  | cons pair _ induction =>
    have same := (pairStep_keeps frameTsMs cameraId rule pair).1
    rcases induction (pairStep frameTsMs cameraId rule pair).1 with ⟨memories, findings⟩
    simp only [collectEach]
    constructor
    · intro key
      rw [memories, same.pairWatch, pairStep_memory, found_memory]
      by_cases here : key = keyOf pair
      · simp only [List.map_cons, List.mem_cons, here, true_or, if_true]
        split
        all_goals rfl
      · simp only [List.map_cons, List.mem_cons, here, if_false, false_or, found_memory]
    · intro finding
      have sameFinding : ∀ other,
          (pairStep frameTsMs cameraId rule pair).1.pairFinding frameTsMs cameraId other =
            rule.pairFinding frameTsMs cameraId other := by
        intro other
        have start := pairStep_start rule frameTsMs cameraId pair (keyOf other)
        rcases same with ⟨_, _, equation⟩
        unfold pairFinding
        rw [start, equation]
      have sameLasted : ∀ key,
          (pairStep frameTsMs cameraId rule pair).1.HasLasted frameTsMs key ↔
            rule.HasLasted frameTsMs key := by
        intro key
        rw [HasLasted, HasLasted, pairStep_start, same.params]
      simp only [List.mem_append, mem_pairStep_finding, findings, sameFinding, sameLasted,
        List.exists_mem_cons_iff]

theorem missPairs_memory (distinct : rule.DistinctPairs)
    (frameTsMs : Nat) (active : List (Int × Int)) (key : Int × Int) :
    (rule.pairSince.keys.foldl (missPair frameTsMs active) rule).memory key =
      if key ∈ active then rule.memory key
      else (rule.pairWatch key).missed frameTsMs (rule.memory key) := by
  rcases missPairs_keep frameTsMs active rule distinct.1 with ⟨_, _, since, missing⟩
  rw [memory, since, missing]
  by_cases inFrame : key ∈ active
  · simp only [inFrame, not_true_eq_false, false_and, and_false, if_false, if_true]
    rfl
  · simp only [inFrame, not_false_eq_true, true_and, and_true, if_false, memory]
    cases known : rule.pairSince.get key with
    | none =>
      simp only [ite_self, Option.map_none]
      rfl
    | some =>
      have isKey : key ∈ rule.pairSince.keys :=
        List.mem_map_of_mem (Dict.mem_of_get known)
      simp only [isKey, true_and, if_true, Option.map_some]
      by_cases lapsed : rule.Lapsed frameTsMs key
      · rw [if_pos lapsed, if_pos lapsed, GapWatch.missed]
        exact (if_pos lapsed).symm
      · rw [if_neg lapsed, if_neg lapsed, GapWatch.missed]
        exact (if_neg lapsed).symm

/-! ## Runs -/

/-- After these frames the rule remembers of every pair what its watch does. -/
structure Followed (start rule : ChasingRule Body) (frames : List (ChaseFrame Body)) : Prop where
  same : Same rule start
  distinct : rule.DistinctPairs
  idle : start.config.enabled = false → ∀ key, rule.memory key = none
  memory : ∀ key, rule.memory key = (start.pairWatch key).after frames

variable {frame : ChaseFrame Body}

theorem observeFrame_pairs (positive : 0 < frame.tsMs) (enabled : rule.config.enabled = true)
    (present : frame.tracks.isEmpty = false) :
    ∃ cameraId,
      let outcome := collectEach (pairStep frame.tsMs cameraId) rule (rule.framePairs frame)
      rule.observeFrame frame.tracks frame.tsMs =
        (outcome.1.pairSince.keys.foldl
          (missPair frame.tsMs ((rule.framePairs frame).map keyOf)) outcome.1, outcome.2) := by
  have isTime : CrowdGatheringRule.frameTime frame.tracks frame.tsMs = frame.tsMs :=
    if_neg positive.ne'
  have pairs : rule.framePairs frame = rule.detectChasePairs
      (rule.zoneTracks (rule.presentPairTracks frame.tracks frame.tsMs)) := by
    simp only [framePairs, present, enabled, Bool.not_true, Bool.or_self, Bool.false_eq_true,
      if_false]
  simp only [observeFrame, present, enabled, isTime, Bool.not_true, Bool.false_eq_true,
    if_false, ← pairs]
  exact ⟨_, rfl⟩

theorem detects_idle
    (idle : rule.config.enabled = false) (key : Int × Int) : rule.detects key frame = false := by
  simp only [detects, framePairs, idle, Bool.not_false, Bool.or_true, if_true, List.map_nil,
    List.not_mem_nil, decide_false]

theorem Followed.start {start : ChasingRule Body} (noneSince : start.pairSince = ∅)
    (noneMissing : start.pairMissingSince = ∅) : Followed start start [] where
  same := Same.refl start
  distinct := by
    rw [DistinctPairs, noneSince, noneMissing]
    exact ⟨List.nodup_nil, List.nodup_nil⟩
  idle := by
    intro _ key
    rw [ChasingRule.memory, noneSince]
    rfl
  memory := by
    intro key
    rw [ChasingRule.memory, noneSince]
    rfl

/-- The step lemma: a frame does to the memory of each pair what it does to its watch. -/
theorem Followed.observeFrame {start rule : ChasingRule Body} {frames : List (ChaseFrame Body)}
    (followed : Followed start rule frames) (positive : 0 < frame.tsMs) :
    Followed start (rule.observeFrame frame.tracks frame.tsMs).1 (frames ++ [frame]) := by
  have watches : ∀ key, start.pairWatch key = rule.pairWatch key := fun key =>
    (followed.same.pairWatch key).symm
  have sameEnabled : rule.config.enabled = start.config.enabled := by
    rcases followed.same with ⟨_, _, equation⟩
    rw [equation]
  cases isEmpty : frame.tracks.isEmpty with
  | true =>
    simp only [ChasingRule.observeFrame, isEmpty, if_true]
    refine ⟨Same.trans ⟨_, _, rfl⟩ followed.same, ⟨List.nodup_nil, List.nodup_nil⟩,
      fun _ _ => rfl, ?_⟩
    intro key
    rw [GapWatch.after_snoc, GapWatch.step, if_pos (show (start.pairWatch key).cleared frame = true
      from isEmpty)]
    rfl
  | false =>
    have notCleared : ∀ key, ¬(start.pairWatch key).cleared frame = true := by
      intro key cleared
      rw [show (start.pairWatch key).cleared frame = false from isEmpty] at cleared
      cases cleared
    cases isEnabled : rule.config.enabled with
    | false =>
      simp only [ChasingRule.observeFrame, isEmpty, isEnabled, Bool.not_false, if_true,
        Bool.false_eq_true, if_false]
      refine ⟨followed.same, followed.distinct, followed.idle, ?_⟩
      intro key
      have forgotten := followed.idle (sameEnabled ▸ isEnabled) key
      have unseen : ¬(start.pairWatch key).seen frame = true := by
        rw [watches]
        exact Bool.not_eq_true _ ▸ detects_idle isEnabled key
      rw [GapWatch.after_snoc, ← followed.memory, GapWatch.step, if_neg (notCleared key),
        if_neg unseen, forgotten]
      rfl
    | true =>
      rcases observeFrame_pairs positive isEnabled isEmpty with ⟨cameraId, observed⟩
      rcases pairSteps_keep frame.tsMs cameraId rule (rule.framePairs frame) with
        ⟨same, distinct, _⟩
      rcases collect_pairs rule frame.tsMs cameraId (rule.framePairs frame) with
        ⟨memories, _⟩
      have missedSame := missPairs_keep frame.tsMs ((rule.framePairs frame).map keyOf)
        (collectEach (pairStep frame.tsMs cameraId) rule (rule.framePairs frame)).1
        (distinct followed.distinct).1
      rw [observed]
      refine ⟨(missedSame.1.trans same).trans followed.same,
        missedSame.2.1 (distinct followed.distinct), fun idle => ?_, ?_⟩
      · rw [← sameEnabled, isEnabled] at idle
        cases idle
      intro key
      rw [missPairs_memory (distinct followed.distinct), memories, same.pairWatch,
        GapWatch.after_snoc, ← followed.memory, GapWatch.step, if_neg (notCleared key), watches]
      by_cases inFrame : key ∈ (rule.framePairs frame).map keyOf
      · have seen : (rule.pairWatch key).seen frame = true := decide_eq_true inFrame
        rw [if_pos inFrame, if_pos inFrame, if_pos seen]
        rfl
      · have unseen : ¬(rule.pairWatch key).seen frame = true := by
          intro seen
          exact inFrame (of_decide_eq_true seen)
        rw [if_neg inFrame, if_neg inFrame, if_neg unseen]
        rfl

theorem afterFrames_snoc (rule : ChasingRule Body) (frames : List (ChaseFrame Body))
    (frame : ChaseFrame Body) :
    rule.afterFrames (frames ++ [frame]) =
      ((rule.afterFrames frames).observeFrame frame.tracks frame.tsMs).1 := by
  simp only [afterFrames, List.foldl_append, List.foldl_cons, List.foldl_nil, evaluateFrame_eq]

theorem followed_afterFrames {start : ChasingRule Body} (built : Followed start start [])
    {frames : List (ChaseFrame Body)} (positive : ∀ frame ∈ frames, 0 < frame.tsMs) :
    Followed start (start.afterFrames frames) frames := by
  induction frames using List.reverseRecOn with
  | nil => exact built
  | append_singleton _ frame induction =>
    rw [afterFrames_snoc]
    have earlier := induction fun other member => positive other (List.mem_append_left _ member)
    exact earlier.observeFrame (positive frame (List.mem_append_right _ List.mem_cons_self))

theorem mem_findings (positive : 0 < frame.tsMs) :
    ∃ cameraId, ∀ finding,
      finding ∈ (rule.observeFrame frame.tracks frame.tsMs).2 ↔
        ∃ pair ∈ rule.framePairs frame, rule.HasLasted frame.tsMs (keyOf pair) ∧
          finding = rule.pairFinding frame.tsMs cameraId pair := by
  cases isEmpty : frame.tracks.isEmpty with
  | true =>
    refine ⟨"", fun finding => ?_⟩
    simp only [observeFrame, framePairs, isEmpty, Bool.true_or, if_true, List.not_mem_nil,
      false_and, exists_false]
  | false =>
    cases isEnabled : rule.config.enabled with
    | false =>
      refine ⟨"", fun finding => ?_⟩
      simp only [observeFrame, framePairs, isEmpty, isEnabled, Bool.not_false, Bool.or_true,
        Bool.false_eq_true, if_true, if_false, List.not_mem_nil, false_and, exists_false]
    | true =>
      rcases observeFrame_pairs positive isEnabled isEmpty with ⟨cameraId, observed⟩
      refine ⟨cameraId, fun finding => ?_⟩
      rw [observed]
      exact (collect_pairs rule frame.tsMs cameraId (rule.framePairs frame)).2 finding

end ChasingRule

/-- A run of a rule as it is built, up to one frame. -/
structure ChaseRun (Body : Type) where
  config : RuleConfig
  zone : ZoneConfig Body
  params : ChasingConfig Body
  earlier : List (ChaseFrame Body)
  frame : ChaseFrame Body
  positive : ∀ other ∈ earlier ++ [frame], 0 < other.tsMs
  increasing : (earlier ++ [frame]).Pairwise fun other next => other.tsMs < next.tsMs

namespace ChaseRun

variable (run : ChaseRun Body)

def start : ChasingRule Body := { config := run.config, zone := run.zone, params := run.params }

def frames : List (ChaseFrame Body) := run.earlier ++ [run.frame]

def rule : ChasingRule Body := run.start.afterFrames run.earlier

def events : List SecurityEvent :=
  (run.rule.evaluateFrame run.frame.cooldown run.frame.tracks run.frame.tsMs).2.2

/-- What the rule hands to the cooldown in the last frame. -/
def findings : List Finding := (run.rule.observeFrame run.frame.tracks run.frame.tsMs).2

/-- An event as a chase of the pair from the first of these frames makes it. -/
def Reports (event : SecurityEvent) (key : Int × Int) (first : ChaseFrame Body) : Prop :=
  event.eventType = .chasing ∧ event.memberTrackIds = [key.1, key.2] ∧
    event.startTsMs = first.tsMs ∧ event.endTsMs = run.frame.tsMs

theorem built : ChasingRule.Followed run.start run.start [] :=
  ChasingRule.Followed.start rfl rfl

theorem followed : ChasingRule.Followed run.start run.rule run.earlier :=
  ChasingRule.followed_afterFrames run.built fun other member =>
    run.positive other (List.mem_append_left _ member)

theorem frame_positive : 0 < run.frame.tsMs :=
  run.positive run.frame (List.mem_append_right _ List.mem_cons_self)

variable {run}

theorem seen_of_pair {pair : ChasePair} (isPair : pair ∈ run.rule.framePairs run.frame) :
    (run.start.pairWatch (ChasingRule.keyOf pair)).seen run.frame = true := by
  rw [← run.followed.same.pairWatch]
  exact decide_eq_true (List.mem_map_of_mem isPair)

theorem pairStart_eq {key : Int × Int} {since : Nat}
    (seen : (run.start.pairWatch key).seen run.frame = true)
    (kept : (run.start.pairWatch key).cleared run.frame = false)
    (known : (run.start.pairWatch key).after run.frames = some (since, none)) :
    run.rule.pairStart run.frame.tsMs key = since := by
  have found := ChasingRule.found_memory run.rule run.frame.tsMs key
  rw [run.followed.same.pairWatch, run.followed.memory] at found
  rw [frames, GapWatch.after_snoc, GapWatch.step, if_neg (by simp [kept]), if_pos seen] at known
  have same := found.symm.trans known
  exact congrArg Prod.fst (Option.some.inj same)

theorem getLast_of_split {before later : List (ChaseFrame Body)} {first : ChaseFrame Body}
    (split : run.frames = before ++ first :: later) :
    (first :: later).getLast (List.cons_ne_nil _ _) = run.frame := by
  have lasts := congrArg List.getLast? split
  rw [frames, List.getLast?_concat, List.getLast?_append_of_ne_nil _ (List.cons_ne_nil _ _),
    List.getLast?_eq_getLast_of_ne_nil (List.cons_ne_nil _ _)] at lasts
  exact (Option.some.inj lasts).symm

theorem kept_of_pair {pair : ChasePair} (isPair : pair ∈ run.rule.framePairs run.frame) :
    run.frame.tracks.isEmpty = false := by
  cases isEmpty : run.frame.tracks.isEmpty with
  | false => rfl
  | true =>
    rw [ChasingRule.framePairs, isEmpty] at isPair
    cases isPair

end ChaseRun

/-- Every event tells of a chase up to its frame, and every chase up to a frame is reported there
unless the cooldown holds it back. -/
theorem chase_durations_honest (run : ChaseRun Body) :
    (∀ event ∈ run.events, ∃ key before first later, run.frames = before ++ first :: later ∧
      run.Reports event key first ∧ run.start.Chase key first later) ∧
    run.events = (run.frame.cooldown.reportAll run.findings).2 ∧
    ∀ key before first later, run.frames = before ++ first :: later →
      run.start.Chase key first later →
        ∃ finding ∈ run.findings, ∃ earliest ∈ run.frames,
          earliest.tsMs ≤ first.tsMs ∧ run.Reports finding.event key earliest := by
  have isEvents : run.events = (run.frame.cooldown.reportAll run.findings).2 := by
    rw [ChaseRun.events, ChasingRule.evaluateFrame_eq]
    rfl
  rcases @ChasingRule.mem_findings _ run.rule run.frame run.frame_positive with ⟨_, isFinding⟩
  refine ⟨?_, isEvents, ?_⟩
  · intro event isEvent
    rw [isEvents, CooldownTracker.reportAll_events] at isEvent
    rcases List.mem_map.mp isEvent with ⟨finding, passed, rfl⟩
    rcases (isFinding finding).mp ((cooldownLimit.passed_sublist _ _).subset passed) with
      ⟨pair, isPair, lasted, rfl⟩
    have seen := ChaseRun.seen_of_pair isPair
    have kept := ChaseRun.kept_of_pair isPair
    rcases @GapWatch.unbroken_of_seen _ _ run.earlier _ seen kept with
      ⟨before, first, later, split, known, unbroken⟩
    have isStart := ChaseRun.pairStart_eq seen kept known
    refine ⟨ChasingRule.keyOf pair, before, first, later, split, ⟨rfl, rfl, isStart, rfl⟩,
      unbroken, ?_⟩
    rw [ChaseRun.getLast_of_split split]
    rw [ChasingRule.HasLasted, isStart, run.followed.same.params] at lasted
    exact lasted
  · intro key before first later split chase
    have isLast := ChaseRun.getLast_of_split split
    have seen := chase.ends
    have kept := chase.kept _ (List.getLast_mem (List.cons_ne_nil first later))
    have lasts := chase.lasts
    rw [isLast] at seen kept lasts
    have increasing := run.increasing
    have isFrames : run.earlier ++ [run.frame] = before ++ first :: (later ++ []) := by
      rw [List.append_nil]
      exact split
    rw [isFrames] at increasing
    have unbroken : (run.start.pairWatch key).Unbroken first (later ++ []) := by
      rw [List.append_nil]
      exact chase.toUnbroken
    rcases GapWatch.after_of_unbroken increasing unbroken with ⟨_, isOld, known⟩
    have noGap : (run.start.pairWatch key).openGap (first :: later) = none := by
      rw [← List.dropLast_append_getLast (List.cons_ne_nil first later), isLast]
      exact GapWatch.openGap_seen _ seen
    rw [noGap, ← split] at known
    rcases GapWatch.goesOn_of_after known with ⟨_, earliest, _, isStart, rfl, _⟩
    have isPair : run.rule.detects key run.frame = true := by
      rw [← run.followed.same.pairWatch] at seen
      exact seen
    rcases List.mem_map.mp (of_decide_eq_true isPair) with ⟨pair, inFrame, rfl⟩
    have started := ChaseRun.pairStart_eq seen kept known
    refine ⟨_, (isFinding _).mpr ⟨pair, inFrame, ?_, rfl⟩, earliest, ?_, isOld,
      rfl, rfl, started, rfl⟩
    · rw [ChasingRule.HasLasted, started, run.followed.same.params]
      change (earliest.tsMs : Nat) ≤ first.tsMs at isOld
      change _ ≤ (run.frame.tsMs : Int) - earliest.tsMs
      omega
    · rw [isStart]
      exact List.mem_append_right _ List.mem_cons_self

/-- Two tracks that have just moved; the body tells whether they move as in a chase. -/
def pairFrame (chasing : Bool) (tsMs : Nat) : ChaseFrame Bool where
  tracks := [1, 2].map fun trackId =>
    { trackId
      observations := [tsMs - 200, tsMs].map fun timestampMs =>
        { trackId, timestampMs, cameraId := "cam1", body := chasing }
      lastSeenMs := tsMs }
  tsMs
  cooldown := ∅

def interruptedChase : ChaseRun Bool where
  config := { name := "chasing" }
  zone := { name := "yard", inside := fun _ => true }
  params :=
    { fastEnough := fun kinematics => kinematics.last.body
      chase := fun _ _ => some false }
  earlier := [pairFrame true 1000, pairFrame false 1400, pairFrame true 1800, pairFrame true 2200]
  frame := pairFrame true 2600
  positive := by decide
  increasing := by decide

theorem interrupted_chase_honest :
    interruptedChase.events.map (fun event => (event.startTsMs, event.endTsMs)) =
        [(1000, 2600)] ∧
      ∀ event ∈ interruptedChase.events, ∃ key before first later,
        interruptedChase.frames = before ++ first :: later ∧
          interruptedChase.Reports event key first ∧
            interruptedChase.start.Chase key first later :=
  ⟨by decide +kernel, (chase_durations_honest interruptedChase).1⟩

end VideoAnalysis.Behavior
