import VideoAnalysis.Behavior.ObservationWindow

/-! # Decisions on the window and on the whole history

For each rule that looks back, the exact histories on which the observation
window does not change its decision.
-/

namespace VideoAnalysis.Behavior

open VideoAnalysis.Foundation

variable {Body : Type}

/-- The track holds the observations of the whole history that are in the window. -/
structure Windowed (windowMs : Nat) (track : TrackState Body)
    (whole : List (Observation Body)) : Prop where
  kept : track.observations = whole.filter (inWindow windowMs track.lastSeenMs)
  inOrder : InOrder whole
  last : ∃ current, whole.getLast? = some current ∧ current.timestampMs = track.lastSeenMs

/-- The track as it would be without trimming. -/
def TrackState.untrimmed (track : TrackState Body) (whole : List (Observation Body)) :
    TrackState Body :=
  { track with observations := whole }

theorem mem_of_suffix {items run : List (Observation Body)} {current : Observation Body}
    (suffix : run <:+ items) (nonempty : run ≠ []) (isLast : items.getLast? = some current) :
    current ∈ run := by
  rcases suffix with ⟨_, rfl⟩
  rw [List.getLast?_append_of_ne_nil _ nonempty] at isLast
  exact List.mem_of_getLast? isLast

variable {windowMs : Nat} {track : TrackState Body} {whole : List (Observation Body)}
  {test : Observation Body → Bool} {current : Observation Body}

section

variable (windowed : Windowed windowMs track whole)

include windowed

theorem Windowed.keepsEnd :
    KeepsEnd (inWindow windowMs track.lastSeenMs) whole :=
  inWindow_keepsEnd windowed.inOrder _ _

theorem Windowed.isCurrent (isLast : whole.getLast? = some current) :
    track.observations.getLast? = some current ∧ current.timestampMs = track.lastSeenMs := by
  rcases windowed.last with ⟨_, isOther, sameTime⟩
  rw [isLast, Option.some.injEq] at isOther
  subst isOther
  refine ⟨?_, sameTime⟩
  rcases List.getLast?_eq_some_iff.mp isLast with ⟨_, split⟩
  have inside : inWindow windowMs track.lastSeenMs current = true := by
    simp only [inWindow, decide_eq_true_eq]
    omega
  have kept : [current].filter (inWindow windowMs track.lastSeenMs) = [current] :=
    List.filter_cons_of_pos inside
  rw [windowed.kept, split, List.filter_append, kept]
  exact List.getLast?_concat

theorem Windowed.ne_nil : whole ≠ [] := by
  rcases windowed.last with ⟨_, isLast, _⟩
  rintro rfl
  exact absurd isLast (by simp)

theorem Windowed.run (test : Observation Body → Bool) :
    finalRun test track.observations =
      (finalRun test whole).filter (inWindow windowMs track.lastSeenMs) := by
  rw [windowed.kept, finalRun_filter windowed.keepsEnd]

theorem Windowed.current_mem_run (isLast : whole.getLast? = some current) :
    current ∈ finalRun test whole :=
  mem_of_suffix (finalRun_suffix test whole) (finalRun_ne_nil windowed.ne_nil) isLast

theorem Windowed.mem_run_or_kept (test : Observation Body → Bool)
    {observation : Observation Body} (member : observation ∈ whole)
    (inside : inWindow windowMs track.lastSeenMs observation = true) :
    observation ∈ finalRun test whole ∨
      ∀ other ∈ finalRun test whole, inWindow windowMs track.lastSeenMs other = true := by
  have split := whole.take_append_drop (finalRunIndex test whole)
  have keepsEnd := windowed.keepsEnd
  rw [← split] at member
  rcases List.mem_append.mp member with before | inRun
  · right
    intro other inRun
    rw [← split] at keepsEnd
    exact (List.pairwise_append.mp keepsEnd).2.2 observation before other inRun inside
  · exact Or.inl inRun

end

/-- The first time of a run that is not empty. -/
def startOf (fallback : Observation Body) (run : List (Observation Body)) : Nat :=
  (run.head?.getD fallback).timestampMs

theorem startOf_spec {run : List (Observation Body)} (nonempty : run ≠ [])
    (inOrder : InOrder run) (fallback : Observation Body) :
    (∃ first ∈ run, first.timestampMs = startOf fallback run) ∧
      ∀ other ∈ run, startOf fallback run ≤ other.timestampMs := by
  cases run with
  | nil => exact absurd rfl nonempty
  | cons first =>
    refine ⟨⟨first, List.mem_cons_self, rfl⟩, ?_⟩
    intro other member
    rcases List.mem_cons.mp member with rfl | inRest
    · exact Nat.le_refl _
    · exact (List.pairwise_cons.mp inOrder).1 other inRest

/-- What the start of the whole run and of its kept part say about each other. -/
structure Starts (windowMs lastSeenMs : Nat) (whole : List (Observation Body))
    (startWhole startKept : Nat) : Prop where
  le : startWhole ≤ startKept
  first : ∃ observation ∈ whole, inWindow windowMs lastSeenMs observation = true ∧
    observation.timestampMs = startKept
  reaches : ∀ observation ∈ whole, inWindow windowMs lastSeenMs observation = true →
    startKept ≤ max observation.timestampMs startWhole

theorem Windowed.starts (windowed : Windowed windowMs track whole)
    (isLast : whole.getLast? = some current) (test : Observation Body → Bool) :
    Starts windowMs track.lastSeenMs whole
      (startOf current (finalRun test whole))
      (startOf current (finalRun test track.observations)) := by
  have ordered : InOrder (finalRun test whole) :=
    List.Pairwise.sublist (finalRun_suffix test whole).sublist windowed.inOrder
  have wholeSpec := startOf_spec (finalRun_ne_nil windowed.ne_nil) ordered current
  have keptOrdered : InOrder ((finalRun test whole).filter
      (inWindow windowMs track.lastSeenMs)) :=
    List.Pairwise.sublist List.filter_sublist ordered
  have currentKept : current ∈ (finalRun test whole).filter
      (inWindow windowMs track.lastSeenMs) := by
    rw [List.mem_filter]
    refine ⟨windowed.current_mem_run isLast, ?_⟩
    have time := (windowed.isCurrent isLast).2
    simp only [inWindow, decide_eq_true_eq]
    omega
  have keptSpec := startOf_spec (List.ne_nil_of_mem currentKept) keptOrdered current
  rw [windowed.run]
  refine ⟨?_, ?_, ?_⟩
  · rcases keptSpec.1 with ⟨first, member, same⟩
    rw [← same]
    exact wholeSpec.2 first (List.mem_filter.mp member).1
  · rcases keptSpec.1 with ⟨first, member, same⟩
    exact ⟨first, (finalRun_suffix test whole).subset (List.mem_filter.mp member).1,
      (List.mem_filter.mp member).2, same⟩
  · intro observation member inside
    rcases windowed.mem_run_or_kept test member inside with inRun | allKept
    · have early := keptSpec.2 observation (List.mem_filter.mpr ⟨inRun, inside⟩)
      omega
    · rw [List.filter_eq_self.mpr allKept]
      omega

/-- Some observation in the window is old enough for the rule. -/
def OldEnough (windowMs lastSeenMs : Nat) (minMs : Int) (whole : List (Observation Body)) :
    Prop :=
  ∃ observation ∈ whole, inWindow windowMs lastSeenMs observation = true ∧
    (observation.timestampMs : Int) + minMs ≤ lastSeenMs

/-! ## Intrusion -/

namespace IntrusionRule

variable (rule : IntrusionRule Body)

def insideRun (observations : List (Observation Body)) : List (Observation Body) :=
  finalRun (fun observation => rule.zone.inside observation.body) observations

/-- Someone has been inside without a break for long enough. -/
def StayedInside (current : Observation Body) (observations : List (Observation Body)) : Prop :=
  rule.config.enabled = true ∧ rule.config.minInsideMs ≤
    if rule.zone.inside current.body then
      max ((current.timestampMs : Int) - startOf current (rule.insideRun observations)) 0
    else 0

theorem finding_isSome (track : TrackState Body)
    (isLast : track.observations.getLast? = some current) :
    (rule.finding track).isSome = true ↔ rule.StayedInside current track.observations := by
  have start : (track.observations[firstContinuousIndex
      (fun observation => rule.zone.inside observation.body) track.observations]?.getD
        current).timestampMs = startOf current (rule.insideRun track.observations) := by
    rw [startOf, insideRun, finalRun, List.head?_drop]
    rfl
  simp only [finding, isLast, continuousInside, StayedInside]
  by_cases enabled : rule.config.enabled = true
  · by_cases inside : rule.zone.inside current.body = true
    · simp only [enabled, inside, start, if_true, true_and]
      split
      · next short => simpa using short
      · next long =>
          rw [not_lt] at long
          exact iff_of_true rfl long
    · simp only [enabled, inside, if_true, true_and, Bool.false_eq_true, if_false]
      split
      · next short => simpa using short
      · next long => simpa using long
  · simp [enabled]

/-- What has to be in the window when someone has been inside for long enough. -/
def Survives (windowMs lastSeenMs : Nat) (current : Observation Body)
    (whole : List (Observation Body)) : Prop :=
  rule.StayedInside current whole → OldEnough windowMs lastSeenMs rule.config.minInsideMs whole

theorem decision_iff (windowed : Windowed windowMs track whole)
    (isLast : whole.getLast? = some current) :
    (rule.finding track).isSome = (rule.finding (track.untrimmed whole)).isSome ↔
      rule.Survives windowMs track.lastSeenMs current whole := by
  have sameTime := (windowed.isCurrent isLast).2
  have kept := rule.finding_isSome track (windowed.isCurrent isLast).1
  have full := rule.finding_isSome (track.untrimmed whole) isLast
  have starts := windowed.starts isLast fun observation => rule.zone.inside observation.body
  rw [Bool.eq_iff_iff, kept, full]
  have inWindowNow : inWindow windowMs track.lastSeenMs current = true := by
    simp only [inWindow, decide_eq_true_eq]
    omega
  have currentMember := List.mem_of_getLast? isLast
  have currentLate := starts.reaches current currentMember inWindowNow
  simp only [Survives, StayedInside, insideRun, TrackState.untrimmed]
  by_cases inside : rule.zone.inside current.body = true
  · simp only [inside, if_true]
    have ordered := starts.le
    constructor
    · rintro same ⟨enabled, long⟩
      have keptLong := (same.mpr ⟨enabled, long⟩).2
      rcases starts.first with ⟨first, member, firstKept, _⟩
      by_cases positive : rule.config.minInsideMs ≤ 0
      · exact ⟨current, currentMember, inWindowNow, by omega⟩
      · exact ⟨first, member, firstKept, by omega⟩
    · intro survives
      constructor
      · rintro ⟨enabled, long⟩
        exact ⟨enabled, by omega⟩
      · rintro ⟨enabled, long⟩
        rcases survives ⟨enabled, long⟩ with ⟨observation, member, observationKept, _⟩
        have reached := starts.reaches observation member observationKept
        exact ⟨enabled, by omega⟩
  · simp only [inside, Bool.false_eq_true, if_false]
    constructor
    · rintro _ ⟨enabled, short⟩
      exact ⟨current, currentMember, inWindowNow, by omega⟩
    · intro _
      trivial

end IntrusionRule

/-! ## Loitering -/

namespace LoiteringRule

variable (rule : LoiteringRule Body)

def stay (observations : List (Observation Body)) : List (Observation Body) :=
  observations.drop (rule.firstContinuousInsideIndex observations)

def Applies (current : Observation Body) : Prop :=
  rule.config.enabled = true ∧ ¬(rule.zone.hasPolygon && !rule.zone.inside current.body) = true

def LongStay (current : Observation Body) (stay : List (Observation Body)) : Prop :=
  rule.params.minObservationCount ≤ (stay.length : Int) ∧
    rule.params.minDurationMs ≤ (current.timestampMs : Int) - startOf current stay

theorem finding_isSome (track : TrackState Body)
    (isLast : track.observations.getLast? = some current) :
    (rule.finding track).isSome = true ↔ rule.Applies current ∧
      rule.LongStay current (rule.stay track.observations) ∧
      rule.params.lowMotion (rule.stay track.observations) = true := by
  simp only [finding, isLast, Applies, LongStay, stay, startOf]
  repeat' split
  all_goals simp_all

theorem stay_filter (windowed : Windowed windowMs track whole) :
    rule.stay track.observations =
      (rule.stay whole).filter (inWindow windowMs track.lastSeenMs) := by
  unfold stay firstContinuousInsideIndex
  by_cases polygon : rule.zone.hasPolygon = true
  · rw [if_pos polygon, if_pos polygon]
    exact windowed.run fun observation => rule.zone.inside observation.body
  · rw [if_neg polygon, if_neg polygon, List.drop_zero, List.drop_zero, windowed.kept]

section

variable (windowed : Windowed windowMs track whole) (isLast : whole.getLast? = some current)

include windowed isLast

theorem current_mem_stay : current ∈ rule.stay whole := by
  unfold stay firstContinuousInsideIndex
  split
  · exact windowed.current_mem_run isLast
  · exact List.mem_of_getLast? isLast

/-- The stay is long enough as far as the window shows it: the observations in the window
are enough, and one of them is old enough. -/
def LongInWindow (windowMs lastSeenMs : Nat) (stay : List (Observation Body)) : Prop :=
  rule.params.minObservationCount ≤
      ((stay.filter (inWindow windowMs lastSeenMs)).length : Int) ∧
    OldEnough windowMs lastSeenMs rule.params.minDurationMs stay

theorem longStay_window :
    (rule.LongStay current ((rule.stay whole).filter (inWindow windowMs track.lastSeenMs)) ↔
        rule.LongInWindow windowMs track.lastSeenMs (rule.stay whole)) ∧
      (rule.LongInWindow windowMs track.lastSeenMs (rule.stay whole) →
        rule.LongStay current (rule.stay whole)) := by
  have time := (windowed.isCurrent isLast).2
  have inStay := rule.current_mem_stay windowed isLast
  have inPart : current ∈ (rule.stay whole).filter (inWindow windowMs track.lastSeenMs) := by
    rw [List.mem_filter, inWindow, decide_eq_true_eq]
    exact ⟨inStay, by omega⟩
  have ordered : InOrder (rule.stay whole) :=
    List.Pairwise.sublist (List.drop_suffix _ _).sublist windowed.inOrder
  have stayed := startOf_spec (List.ne_nil_of_mem inStay) ordered current
  have shown := startOf_spec (List.ne_nil_of_mem inPart)
    (List.Pairwise.sublist List.filter_sublist ordered) current
  constructor
  · apply and_congr_right
    intro enough
    constructor
    · intro long
      rcases shown.1 with ⟨first, member, _⟩
      rcases List.mem_filter.mp member with ⟨inFirst, kept⟩
      exact ⟨first, inFirst, kept, by omega⟩
    · rintro ⟨observation, member, kept, old⟩
      have start := shown.2 observation (List.mem_filter.mpr ⟨member, kept⟩)
      omega
  · rintro ⟨enough, observation, member, kept, old⟩
    have start := stayed.2 observation member
    have shorter := List.length_filter_le (inWindow windowMs track.lastSeenMs) (rule.stay whole)
    exact ⟨by omega, by omega⟩

/-- What has to be in the window when someone has stayed for long enough: a stay that is
long enough and moves as the whole; without it the whole has to fail the motion test. -/
def Survives (windowMs lastSeenMs : Nat) (current : Observation Body)
    (whole : List (Observation Body)) : Prop :=
  let stay := rule.stay whole
  rule.Applies current → rule.LongStay current stay →
    (rule.LongInWindow windowMs lastSeenMs stay → rule.params.lowMotion stay =
      rule.params.lowMotion (stay.filter (inWindow windowMs lastSeenMs))) ∧
    (¬rule.LongInWindow windowMs lastSeenMs stay → rule.params.lowMotion stay = false)

theorem decision_iff :
    (rule.finding track).isSome = (rule.finding (track.untrimmed whole)).isSome ↔
      rule.Survives windowMs track.lastSeenMs current whole := by
  have kept := rule.finding_isSome track (windowed.isCurrent isLast).1
  have full := rule.finding_isSome (track.untrimmed whole) isLast
  rcases rule.longStay_window windowed isLast with ⟨part, longer⟩
  rw [rule.stay_filter windowed, part] at kept
  rw [Bool.eq_iff_iff, kept, full]
  simp only [Survives, TrackState.untrimmed]
  constructor
  · intro same applies long
    constructor
    · intro partLong
      rw [Bool.eq_iff_iff]
      constructor
      · intro low
        exact (same.mpr ⟨applies, long, low⟩).2.2
      · intro low
        exact (same.mp ⟨applies, partLong, low⟩).2.2
    · intro partShort
      by_contra moving
      exact partShort (same.mpr ⟨applies, long, by simpa using moving⟩).2.1
  · intro survives
    constructor
    · rintro ⟨applies, partLong, low⟩
      have long := longer partLong
      exact ⟨applies, long, ((survives applies long).1 partLong).trans low⟩
    · rintro ⟨applies, long, low⟩
      rcases survives applies long with ⟨sameMotion, fails⟩
      by_cases partLong : rule.LongInWindow windowMs track.lastSeenMs (rule.stay whole)
      · exact ⟨applies, partLong, (sameMotion partLong).symm.trans low⟩
      · exact absurd low (by rw [fails partLong]; exact Bool.false_ne_true)

end

end LoiteringRule

/-! ## Fall -/

namespace FallRule

variable (rule : FallRule Body)

def lyingRun (observations : List (Observation Body)) : List (Observation Body) :=
  finalRun (fun observation => rule.params.isLying observation.body) observations

def beforeLying (observations : List (Observation Body)) : List (Observation Body) :=
  observations.take (rule.firstContinuousLyingIndex observations)

def Applies (current : Observation Body) : Prop :=
  rule.config.enabled = true ∧
    ¬(rule.zone.hasPolygon && !rule.zone.inside current.body) = true ∧
    rule.params.minVisibleKeypoints ≤ (rule.params.visibleKeypointCount current.body : Int) ∧
    rule.params.isLying current.body = true

def UprightBefore (startTs : Nat) (observations : List (Observation Body)) : Prop :=
  ∃ observation ∈ observations,
    (startTs : Int) - observation.timestampMs ≤ rule.params.transitionWindowMs ∧
      rule.params.isUpright observation.body = true

theorem hadUprightBefore_iff {observations : List (Observation Body)}
    (inOrder : InOrder observations) (startTs : Nat) :
    rule.hadUprightBefore observations (rule.firstContinuousLyingIndex observations) startTs =
      true ↔ rule.UprightBefore startTs (rule.beforeLying observations) := by
  have falling : (observations.take
      (rule.firstContinuousLyingIndex observations)).reverse.Pairwise fun first second =>
        decide ((startTs : Int) - second.timestampMs ≤ rule.params.transitionWindowMs) = true →
        decide ((startTs : Int) - first.timestampMs ≤ rule.params.transitionWindowMs) =
          true := by
    rw [List.pairwise_reverse]
    apply (List.Pairwise.sublist (List.take_sublist _ _) inOrder).imp
    intro first second before close
    rw [decide_eq_true_eq] at close ⊢
    omega
  rw [hadUprightBefore, takeWhile_eq_filter falling, List.any_eq_true]
  simp only [List.mem_filter, List.mem_reverse, decide_eq_true_eq, UprightBefore, beforeLying,
    and_assoc]

/-- Someone has been lying for long enough, after an upright posture if that is
required. -/
def HasFallen (current : Observation Body) (observations : List (Observation Body)) : Prop :=
  rule.Applies current ∧
    rule.params.minDownMs ≤ (current.timestampMs : Int) -
      startOf current (rule.lyingRun observations) ∧
    (rule.params.requireTransition = true →
      rule.UprightBefore (startOf current (rule.lyingRun observations))
        (rule.beforeLying observations))

theorem finding_isSome (track : TrackState Body) {current : Observation Body}
    (inOrder : InOrder track.observations)
    (isLast : track.observations.getLast? = some current) :
    (rule.finding track).isSome = true ↔ rule.HasFallen current track.observations := by
  have start : (track.observations[rule.firstContinuousLyingIndex
      track.observations]?.getD current).timestampMs =
        startOf current (rule.lyingRun track.observations) := by
    rw [startOf, lyingRun, finalRun, List.head?_drop]
    rfl
  unfold HasFallen
  rw [← rule.hadUprightBefore_iff inOrder]
  simp only [finding, isLast, Applies, start]
  repeat' split
  all_goals simp_all

/-- What has to be in the window when someone has fallen: the upright posture
before, or without a required transition an observation that is old enough. -/
def Survives (windowMs lastSeenMs : Nat) (current : Observation Body)
    (whole : List (Observation Body)) : Prop :=
  rule.HasFallen current whole →
    if rule.params.requireTransition then
      rule.UprightBefore (startOf current (rule.lyingRun whole))
        ((rule.beforeLying whole).filter (inWindow windowMs lastSeenMs))
    else OldEnough windowMs lastSeenMs rule.params.minDownMs whole

theorem beforeLying_filter (windowed : Windowed windowMs track whole) :
    rule.beforeLying track.observations =
      (rule.beforeLying whole).filter (inWindow windowMs track.lastSeenMs) := by
  rw [beforeLying, beforeLying, windowed.kept]
  exact take_finalRunIndex_filter windowed.keepsEnd

theorem lyingRun_eq_of_before (windowed : Windowed windowMs track whole)
    {observation : Observation Body}
    (member : observation ∈ (rule.beforeLying whole).filter
      (inWindow windowMs track.lastSeenMs)) :
    rule.lyingRun track.observations = rule.lyingRun whole := by
  rcases List.mem_filter.mp member with ⟨before, kept⟩
  have split := whole.take_append_drop (rule.firstContinuousLyingIndex whole)
  have keepsEnd := windowed.keepsEnd
  rw [← split] at keepsEnd
  rw [lyingRun, windowed.run]
  apply List.filter_eq_self.mpr
  intro other inRun
  exact (List.pairwise_append.mp keepsEnd).2.2 observation before other inRun kept

theorem decision_iff (windowed : Windowed windowMs track whole)
    (isLast : whole.getLast? = some current) :
    (rule.finding track).isSome = (rule.finding (track.untrimmed whole)).isSome ↔
      rule.Survives windowMs track.lastSeenMs current whole := by
  have keptOrder : InOrder track.observations := by
    rw [windowed.kept]
    exact List.Pairwise.sublist List.filter_sublist windowed.inOrder
  have kept := rule.finding_isSome track keptOrder (windowed.isCurrent isLast).1
  have full := rule.finding_isSome (track.untrimmed whole) windowed.inOrder isLast
  have starts : Starts windowMs track.lastSeenMs whole
      (startOf current (rule.lyingRun whole))
      (startOf current (rule.lyingRun track.observations)) :=
    windowed.starts isLast fun observation => rule.params.isLying observation.body
  have sameTime := (windowed.isCurrent isLast).2
  have ordered := starts.le
  rw [Bool.eq_iff_iff, kept, full]
  simp only [Survives, HasFallen, TrackState.untrimmed, rule.beforeLying_filter windowed]
  by_cases transition : rule.params.requireTransition = true
  · rw [if_pos transition]
    constructor
    · rintro same ⟨applies, long, upright⟩
      rcases (same.mpr ⟨applies, long, upright⟩).2.2 transition with
        ⟨observation, member, close, stands⟩
      rw [rule.lyingRun_eq_of_before windowed member] at close
      exact ⟨observation, member, close, stands⟩
    · intro survives
      constructor
      · rintro ⟨applies, long, upright⟩
        rcases upright transition with ⟨observation, member, close, stands⟩
        rw [rule.lyingRun_eq_of_before windowed member] at long close
        exact ⟨applies, long, fun _ =>
          ⟨observation, (List.mem_filter.mp member).1, close, stands⟩⟩
      · rintro ⟨applies, long, upright⟩
        rcases survives ⟨applies, long, upright⟩ with ⟨observation, member, close, stands⟩
        rw [rule.lyingRun_eq_of_before windowed member]
        exact ⟨applies, long, fun _ => ⟨observation, member, close, stands⟩⟩
  · rw [if_neg transition]
    constructor
    · rintro same ⟨applies, long, upright⟩
      have keptLong := (same.mpr ⟨applies, long, fun required =>
        absurd required transition⟩).2.1
      rcases starts.first with ⟨first, member, firstKept, _⟩
      exact ⟨first, member, firstKept, by omega⟩
    · intro survives
      constructor
      · rintro ⟨applies, long, _⟩
        exact ⟨applies, by omega, fun required => absurd required transition⟩
      · rintro ⟨applies, long, upright⟩
        rcases survives ⟨applies, long, upright⟩ with ⟨observation, member, observationKept, _⟩
        have reached := starts.reaches observation member observationKept
        exact ⟨applies, by omega, fun required => absurd required transition⟩

end FallRule

/-! ## The tracks of a run -/

theorem history_inOrder (cameraId : String) (trackId : Int) {frames : List (Frame Body)}
    (sorted : Nondecreasing frames) : InOrder (history cameraId trackId frames) := by
  have times := fun frame : Frame Body => SourceRuntime.shown_times frame cameraId trackId
  rw [InOrder, history, List.pairwise_flatMap]
  constructor
  · intro frame _
    apply List.pairwise_of_forall_mem_list
    intro first inFirst second inSecond
    rw [times frame first inFirst, times frame second inSecond]
  · apply sorted.imp
    intro earlier later before first inFirst second inSecond
    rw [times earlier first inFirst, times later second inSecond]
    exact before

theorem CameraState.Knows.windowed {state : CameraState Body} {cameraId : String} {nowMs : Nat}
    {past : Int → List (Observation Body)} (known : state.Knows cameraId nowMs past)
    {trackId : Int} {track : TrackState Body}
    (stored : state.runtime.store.tracks.get trackId = some track)
    (inOrder : InOrder (past trackId)) : Windowed 5000 track (past trackId) := by
  have valid := (known.wellFormed.named trackId track stored).2
  have recent := (known.remembers trackId valid).recent track stored
  rw [known.window] at recent
  refine ⟨recent.1, inOrder, ?_⟩
  rcases (known.wellFormed.tracks trackId track stored).newest with ⟨newest, member, sameTime⟩
  rw [recent.1, List.mem_filter] at member
  have nonempty := List.ne_nil_of_mem member.1
  rcases List.eq_nil_or_concat (past trackId) with empty | ⟨init, current, split⟩
  · exact absurd empty nonempty
  · rw [List.concat_eq_append] at split
    rw [split] at inOrder member recent ⊢
    refine ⟨current, List.getLast?_concat, ?_⟩
    have bound := recent.2 current (by simp)
    rcases List.mem_append.mp member.1 with inInit | isLast
    · have before := (List.pairwise_append.mp inOrder).2.2 newest inInit current (by simp)
      omega
    · rw [List.mem_singleton.mp isLast] at sameTime
      exact sameTime

theorem CameraEntry.windowed (camera : CameraEntry Body) {frames : List (Frame Body)}
    (sorted : Nondecreasing frames) {trackId : Int} {track : TrackState Body}
    (stored : (camera.start.advance frames).runtime.store.tracks.get trackId = some track) :
    Windowed 5000 track (history camera.cameraId trackId frames) := by
  rcases camera.advance_knows sorted with ⟨_, known⟩
  exact known.windowed stored (history_inOrder camera.cameraId trackId sorted)

/-- The exact histories on which the window leaves the decisions of the rules as
they are: an intrusion needs an old enough observation in the window, a stay has
to survive the cut, and a fall needs its upright posture in the window. -/
theorem window_decisions_iff (camera : CameraEntry Body) (frames : List (Frame Body))
    (sorted : Nondecreasing frames) (trackId : Int) (track : TrackState Body)
    (stored : (camera.start.advance frames).runtime.store.tracks.get trackId = some track) :
    let whole := history camera.cameraId trackId frames
    ∃ current, whole.getLast? = some current ∧
      (∀ rule : IntrusionRule Body,
        (rule.finding track).isSome = (rule.finding (track.untrimmed whole)).isSome ↔
          rule.Survives 5000 track.lastSeenMs current whole) ∧
      (∀ rule : LoiteringRule Body,
        (rule.finding track).isSome = (rule.finding (track.untrimmed whole)).isSome ↔
          rule.Survives 5000 track.lastSeenMs current whole) ∧
      ∀ rule : FallRule Body,
        (rule.finding track).isSome = (rule.finding (track.untrimmed whole)).isSome ↔
          rule.Survives 5000 track.lastSeenMs current whole := by
  have windowed := camera.windowed sorted stored
  rcases windowed.last with ⟨current, isLast, _⟩
  exact ⟨current, isLast, fun rule => rule.decision_iff windowed isLast,
    fun rule => rule.decision_iff windowed isLast,
    fun rule => rule.decision_iff windowed isLast⟩

/-! ## A minute in a zone -/

def quietZone : ZoneConfig Unit where
  name := "courtyard"
  inside _ := true

def defaultLoitering : LoiteringRule Unit where
  config := { name := "loitering" }
  zone := quietZone
  params := { lowMotion := fun _ => true }

def courtyardCamera : CameraEntry Unit where
  cameraId := "cam_001"
  rules := [.loitering { name := "loitering" } quietZone { lowMotion := fun _ => true }]
  distinct := List.nodup_singleton _

def standing (frames : Nat) : List (Frame Unit) :=
  (List.range frames).map fun index => ⟨1000 + 2000 * index, [⟨1, ()⟩]⟩

theorem standing_sorted (frames : Nat) : Nondecreasing (standing frames) := by
  rw [Nondecreasing, standing, List.pairwise_map]
  apply List.pairwise_lt_range.imp
  intro first second before
  simp only
  omega

theorem standing_stored (frames : Nat)
    (present : ((courtyardCamera.start.advance (standing frames)).runtime.store.tracks.get
      1).isSome = true) :
    ∃ track, (courtyardCamera.start.advance (standing frames)).runtime.store.tracks.get 1 =
      some track := Option.isSome_iff_exists.mp present

theorem short_stay_decisions : ∃ track, ∃ current,
    (history "cam_001" 1 (standing 3)).getLast? = some current ∧
      ((defaultLoitering.finding track).isSome =
          (defaultLoitering.finding
            (track.untrimmed (history "cam_001" 1 (standing 3)))).isSome ↔
        defaultLoitering.Survives 5000 track.lastSeenMs current
          (history "cam_001" 1 (standing 3))) := by
  rcases standing_stored 3 (by decide +kernel) with ⟨track, stored⟩
  rcases window_decisions_iff courtyardCamera (standing 3) (standing_sorted 3) 1 track
    stored with ⟨current, isLast, _, loitering, _⟩
  exact ⟨track, current, isLast, loitering defaultLoitering⟩

/-- After a minute the whole history is loitering, and the window never is. -/
theorem window_hides_loitering :
    ¬∀ (camera : CameraEntry Unit) (frames : List (Frame Unit)) (trackId : Int)
      (track : TrackState Unit), Nondecreasing frames →
      (camera.start.advance frames).runtime.store.tracks.get trackId = some track →
      ∀ rule : LoiteringRule Unit, (rule.finding track).isSome =
        (rule.finding (track.untrimmed (history camera.cameraId trackId frames))).isSome := by
  intro claim
  rcases standing_stored 31 (by decide +kernel) with ⟨track, stored⟩
  have same := claim courtyardCamera (standing 31) 1 track (standing_sorted 31) stored
    defaultLoitering
  have verdicts : ((courtyardCamera.start.advance (standing 31)).runtime.store.tracks.get
      1).map (fun track => ((defaultLoitering.finding track).isSome,
        (defaultLoitering.finding
          (track.untrimmed (history "cam_001" 1 (standing 31)))).isSome)) =
            some (false, true) := by
    decide +kernel
  rw [stored, Option.map_some, Option.some.injEq, Prod.mk.injEq] at verdicts
  exact Bool.false_ne_true (verdicts.1.symm.trans (same.trans verdicts.2))

end VideoAnalysis.Behavior
