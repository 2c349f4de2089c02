import VideoAnalysis.Session.StreamSession
import Mathlib.Data.List.Induction

/-! # Stages that share a tracker

The stages of one process ask one tracker about the frames of the sources. Each
stage sees the frames of a source in order, but stages may lag behind each other.
-/

namespace VideoAnalysis.Session

open VideoAnalysis.Foundation

/-- A stage asks about a frame of a source. -/
structure Sighting (Stage : Type) where
  stage : Stage
  sourceId : String
  index : Nat
deriving DecidableEq

variable {Stage : Type} [DecidableEq Stage]

def Sighting.source (sighting : Sighting Stage) : String := sourceKey sighting.sourceId

/-! ## Schedules -/

def reach : List (Sighting Stage) → Nat
  | [] => 0
  | sighting :: rest => max (sighting.index + 1) (reach rest)

def lead (sightings : List (Sighting Stage)) (source : String) : Nat :=
  reach (sightings.filter fun sighting => sighting.source = source)

def progress (sightings : List (Sighting Stage)) (stage : Stage) (source : String) : Nat :=
  reach (sightings.filter fun sighting =>
    sighting.source = source && sighting.stage = stage)

/-- Each stage sees the frames of each source in order; it may ask again about
the frame it is at. -/
def InOrder (frames : String → Timeline) (schedule : List (Sighting Stage)) : Prop :=
  ∀ before sighting rest, schedule = before ++ sighting :: rest →
    sighting.index < (frames sighting.source).length ∧
      sighting.index ≤ progress before sighting.stage sighting.source ∧
      progress before sighting.stage sighting.source ≤ sighting.index + 1

/-- The stages that lag stay in the session of the newest frame and within the
tolerance of its highest PTS. -/
def KeepsUp (toleranceNs : Nat) (frames : String → Timeline)
    (schedule : List (Sighting Stage)) : Prop :=
  ∀ before sighting rest, schedule = before ++ sighting :: rest →
    let timeline := frames sighting.source
    let newest := lead before sighting.source
    sighting.index < newest →
      ¬timeline.Restarts toleranceNs sighting.index (newest - 1) ∧
        ¬Drops toleranceNs (timeline.highestPts toleranceNs newest)
          (timeline.ptsAt sighting.index)

omit [DecidableEq Stage] in
theorem reach_concat (sightings : List (Sighting Stage)) (sighting : Sighting Stage) :
    reach (sightings ++ [sighting]) = max (reach sightings) (sighting.index + 1) := by
  induction sightings with
  | nil => simp [reach]
  | cons _ _ induction =>
    rw [List.cons_append, reach, induction, reach]
    omega

omit [DecidableEq Stage] in
theorem reach_mono {fewer sightings : List (Sighting Stage)}
    (sublist : fewer.Sublist sightings) : reach fewer ≤ reach sightings := by
  induction sublist with
  | slnil => exact Nat.le_refl _
  | cons =>
    rw [reach]
    omega
  | cons_cons =>
    rw [reach, reach]
    omega

omit [DecidableEq Stage] in
theorem lead_concat_same (sightings : List (Sighting Stage)) (sighting : Sighting Stage) :
    lead (sightings ++ [sighting]) sighting.source =
      max (lead sightings sighting.source) (sighting.index + 1) := by
  have kept : [sighting].filter (fun other => other.source = sighting.source) =
      [sighting] := by
    simp
  rw [lead, List.filter_append, kept, reach_concat]
  rfl

omit [DecidableEq Stage] in
theorem lead_concat_other (sightings : List (Sighting Stage)) {sighting : Sighting Stage}
    {source : String} (different : source ≠ sighting.source) :
    lead (sightings ++ [sighting]) source = lead sightings source := by
  have dropped : [sighting].filter (fun other => other.source = source) = [] := by
    simp [Ne.symm different]
  rw [lead, List.filter_append, dropped, List.append_nil]
  rfl

theorem progress_le_lead (sightings : List (Sighting Stage)) (stage : Stage)
    (source : String) : progress sightings stage source ≤ lead sightings source := by
  apply reach_mono
  have narrower : (fun sighting : Sighting Stage =>
      decide (sighting.source = source) && decide (sighting.stage = stage)) =
      fun sighting => decide (sighting.stage = stage) && decide (sighting.source = source) := by
    funext sighting
    exact Bool.and_comm _ _
  rw [narrower, ← List.filter_filter]
  exact List.filter_sublist

omit [DecidableEq Stage] in
theorem KeepsUp.prefix {toleranceNs : Nat} {frames : String → Timeline}
    {before rest : List (Sighting Stage)} (keepsUp : KeepsUp toleranceNs frames (before ++ rest)) :
    KeepsUp toleranceNs frames before := by
  intro earlier sighting later split
  apply keepsUp earlier sighting (later ++ rest)
  rw [split, List.append_assoc, List.cons_append]

theorem InOrder.prefix {frames : String → Timeline} {before rest : List (Sighting Stage)}
    (inOrder : InOrder frames (before ++ rest)) : InOrder frames before := by
  intro earlier sighting later split
  apply inOrder earlier sighting (later ++ rest)
  rw [split, List.append_assoc, List.cons_append]

/-! ## Runs -/

/-- A sighting and the session id that the tracker answered. -/
abbrev Answer (Stage : Type) := Sighting Stage × SessionId

def answers (frames : String → Timeline) (tracker : StreamSessionTracker) :
    List (Sighting Stage) → StreamSessionTracker × List (Answer Stage)
  | [] => (tracker, [])
  | sighting :: rest =>
    let (next, sessionId) := tracker.sessionIdForFrame sighting.sourceId
      ((frames sighting.source).ptsAt sighting.index)
    let (final, later) := answers frames next rest
    (final, (sighting, sessionId) :: later)

omit [DecidableEq Stage] in
theorem answers_concat (frames : String → Timeline) (tracker : StreamSessionTracker)
    (schedule : List (Sighting Stage)) (sighting : Sighting Stage) :
    let earlier := answers frames tracker schedule
    let call := earlier.1.sessionIdForFrame sighting.sourceId
      ((frames sighting.source).ptsAt sighting.index)
    answers frames tracker (schedule ++ [sighting]) =
      (call.1, earlier.2 ++ [(sighting, call.2)]) := by
  induction schedule generalizing tracker with
  | nil => rfl
  | cons _ _ induction =>
    simp only [List.cons_append, answers]
    rw [induction]

/-- All stages obtain one id for a frame, and ids of frames before and after a
restart differ. -/
structure OneSession (toleranceNs : Nat) (frames : String → Timeline)
    (answers : List (Answer Stage)) : Prop where
  agree : ∀ first ∈ answers, ∀ second ∈ answers, first.1.source = second.1.source →
    first.1.index = second.1.index → first.2 = second.2
  apart : ∀ first ∈ answers, ∀ second ∈ answers, first.1.source = second.1.source →
    (frames first.1.source).Restarts toleranceNs first.1.index second.1.index →
      first.2 ≠ second.2

/-- What the tracker knows after a schedule whose stages keep up. -/
structure Tracks (toleranceNs : Nat) (frames : String → Timeline)
    (schedule : List (Sighting Stage)) (tracker : StreamSessionTracker)
    (answers : List (Answer Stage)) : Prop where
  tolerance : tracker.ptsRollbackToleranceNs = toleranceNs
  named : tracker.Named
  missing : ∀ source, lead schedule source = 0 → tracker.stateBySource.get source = none
  current : ∀ source, 0 < lead schedule source →
    ∃ state, tracker.stateBySource.get source = some state ∧
      state.lastPts = (frames source).highestPts toleranceNs (lead schedule source) ∧
      ∀ answer ∈ answers, answer.1.source = source →
        (answer.2 = state.sessionId ↔
          ¬(frames source).Restarts toleranceNs answer.1.index (lead schedule source - 1))
  bounded : ∀ answer ∈ answers, answer.1.index < lead schedule answer.1.source
  issued : ∀ answer ∈ answers, answer.2.serial < tracker.issued
  covered : ∀ source index, index < lead schedule source →
    ∃ answer ∈ answers, answer.1.source = source ∧ answer.1.index = index
  sessions : ∀ first ∈ answers, ∀ second ∈ answers, first.1.source = second.1.source →
    first.1.index ≤ second.1.index →
      (first.2 = second.2 ↔
        ¬(frames first.1.source).Restarts toleranceNs first.1.index second.1.index)

omit [DecidableEq Stage] in
theorem tracks_start (toleranceNs : Nat) (frames : String → Timeline) :
    Tracks toleranceNs frames ([] : List (Sighting Stage))
      { ptsRollbackToleranceNs := toleranceNs } [] := by
  refine ⟨rfl, ?_, fun source _ => Dict.get_empty source, ?_, ?_, ?_, ?_, ?_⟩
  · intro source state found
    exact absurd found (by simp)
  · intro source positive
    exact absurd positive (Nat.lt_irrefl 0)
  · intro answer member
    exact absurd member List.not_mem_nil
  · intro answer member
    exact absurd member List.not_mem_nil
  · intro source index beyond
    exact absurd beyond (Nat.not_lt_zero index)
  · intro answer member
    exact absurd member List.not_mem_nil

/-- What one call does: it answers with the id of the state it leaves, and only
the source of the frame is touched. -/
structure Called (toleranceNs : Nat) (frames : String → Timeline)
    (schedule : List (Sighting Stage)) (answers : List (Answer Stage))
    (tracker next : StreamSessionTracker) (sighting : Sighting Stage) (sessionId : SessionId) :
    Prop where
  tolerance : next.ptsRollbackToleranceNs = tracker.ptsRollbackToleranceNs
  grows : tracker.issued ≤ next.issued
  issued : sessionId.serial < next.issued
  others : ∀ source, source ≠ sighting.source →
    next.stateBySource.get source = tracker.stateBySource.get source
  state : ∃ state, next.stateBySource.get sighting.source = some state ∧
    state.sourceId = sighting.source ∧ state.sessionId = sessionId ∧
    state.lastPts = (frames sighting.source).highestPts toleranceNs
      (max (lead schedule sighting.source) (sighting.index + 1))
  keeps : ¬(frames sighting.source).Restarts toleranceNs sighting.index
    (max (lead schedule sighting.source) (sighting.index + 1) - 1)
  sessions : ∀ answer ∈ answers, answer.1.source = sighting.source →
    (answer.2 = sessionId ↔ ¬(frames sighting.source).Restarts toleranceNs answer.1.index
      (max (lead schedule sighting.source) (sighting.index + 1) - 1))

section Calls

variable {toleranceNs : Nat} {frames : String → Timeline} {schedule : List (Sighting Stage)}
  {earlier : List (Answer Stage)} {tracker : StreamSessionTracker}
  {sighting : Sighting Stage}

omit [DecidableEq Stage] in
theorem called_of_start (tracks : Tracks toleranceNs frames schedule tracker earlier)
    (isNext : sighting.index = lead schedule sighting.source) {bumpCount : Nat}
    (opens : raise toleranceNs
      ((frames sighting.source).highestPts toleranceNs sighting.index)
      ((frames sighting.source).ptsAt sighting.index) =
        (frames sighting.source).ptsAt sighting.index)
    (restarts : ∀ answer ∈ earlier, answer.1.source = sighting.source →
      (frames sighting.source).RestartsAt toleranceNs sighting.index) :
    Called toleranceNs frames schedule earlier tracker
      (tracker.startSession sighting.source ((frames sighting.source).ptsAt sighting.index)
        bumpCount).1 sighting ⟨sighting.source, tracker.issued⟩ := by
  have leads : max (lead schedule sighting.source) (sighting.index + 1) =
      sighting.index + 1 := by
    omega
  refine ⟨rfl, Nat.le_succ _, Nat.lt_succ_self _, ?_, ?_, ?_, ?_⟩
  · intro source different
    rw [StreamSessionTracker.startSession_get, if_neg different]
  · refine ⟨⟨sighting.source, ⟨sighting.source, tracker.issued⟩,
      (frames sighting.source).ptsAt sighting.index, bumpCount⟩, ?_, rfl, rfl, ?_⟩
    · rw [StreamSessionTracker.startSession_get, if_pos rfl]
    · rw [leads]
      exact opens.symm
  · rw [leads]
    exact Timeline.not_restarts_self sighting.index
  · intro answer member sameSource
    have older := tracks.issued answer member
    have before := tracks.bounded answer member
    rw [sameSource, ← isNext] at before
    rw [leads]
    constructor
    · intro same
      rw [same] at older
      exact absurd older (Nat.lt_irrefl _)
    · intro steady
      exact absurd ⟨sighting.index, before, Nat.le_refl _, restarts answer member sameSource⟩
        steady

omit [DecidableEq Stage] in
/-- The spec of a call for a frame of a stage that keeps up. -/
theorem called (tracks : Tracks toleranceNs frames schedule tracker earlier)
    (inReach : sighting.index ≤ lead schedule sighting.source)
    (keepsUp : sighting.index < lead schedule sighting.source →
      ¬(frames sighting.source).Restarts toleranceNs sighting.index
          (lead schedule sighting.source - 1) ∧
        ¬Drops toleranceNs
          ((frames sighting.source).highestPts toleranceNs (lead schedule sighting.source))
          ((frames sighting.source).ptsAt sighting.index)) :
    Called toleranceNs frames schedule earlier tracker
      (tracker.sessionIdForFrame sighting.sourceId
        ((frames sighting.source).ptsAt sighting.index)).1 sighting
      (tracker.sessionIdForFrame sighting.sourceId
        ((frames sighting.source).ptsAt sighting.index)).2 := by
  rcases Nat.eq_zero_or_pos (lead schedule sighting.source) with unseen | seen
  · have missing := tracks.missing sighting.source unseen
    rw [StreamSessionTracker.sessionIdForFrame_new missing]
    have isFirst : sighting.index = 0 := by omega
    apply called_of_start tracks (by omega)
    · rw [isFirst]
      exact raise_first _ _
    · intro answer member sameSource
      have beyond := tracks.bounded answer member
      rw [sameSource, unseen] at beyond
      exact absurd beyond (Nat.not_lt_zero _)
  · rcases tracks.current sighting.source seen with ⟨state, found, lastPts, ids⟩
    have tolerance := tracks.tolerance
    by_cases drops : Drops tracker.ptsRollbackToleranceNs state.lastPts
        ((frames sighting.source).ptsAt sighting.index)
    · have isNext : sighting.index = lead schedule sighting.source := by
        by_contra lags
        apply (keepsUp (by omega)).2
        rw [← lastPts, ← tolerance]
        exact drops
      rw [StreamSessionTracker.sessionIdForFrame_drop found drops]
      rw [lastPts, tolerance, ← isNext] at drops
      exact called_of_start tracks isNext (raise_drop drops) fun _ _ _ => drops
    · rcases StreamSessionTracker.sessionIdForFrame_stay tracks.named found drops with
        ⟨sameId, sameIssued, sameTolerance, states⟩
      rw [lastPts, tolerance] at drops states
      have newestId : state.sessionId.serial < tracker.issued := by
        rcases tracks.covered sighting.source (lead schedule sighting.source - 1) (by omega)
          with ⟨newest, member, sameSource, isNewest⟩
        have same := (ids newest member sameSource).mpr (isNewest ▸ Timeline.not_restarts_self _)
        exact same ▸ tracks.issued newest member
      rw [sameId]
      refine ⟨sameTolerance, sameIssued.ge, sameIssued ▸ newestId, ?_, ?_, ?_, ?_⟩
      · intro source different
        rw [states source]
        exact if_neg different
      · refine ⟨_, (states sighting.source).trans (if_pos rfl),
          (tracks.named sighting.source state found : state.sourceId = _), rfl, ?_⟩
        rcases Nat.eq_or_lt_of_le inReach with isNext | lags
        · rw [← isNext, max_eq_right (Nat.le_succ _)]
          rfl
        · rw [max_eq_left lags]
          apply raise_within drops
          intro pts known
          exact Timeline.highestPts_ge known lags (keepsUp lags).1
      · rcases Nat.eq_or_lt_of_le inReach with isNext | lags
        · rw [← isNext, max_eq_right (Nat.le_succ _)]
          exact Timeline.not_restarts_self _
        · rw [max_eq_left lags]
          exact (keepsUp lags).1
      · intro answer member sameSource
        rw [ids answer member sameSource]
        rcases Nat.eq_or_lt_of_le inReach with isNext | lags
        · have before := tracks.bounded answer member
          rw [sameSource] at before
          have steady : ¬(frames sighting.source).RestartsAt toleranceNs
              (lead schedule sighting.source - 1 + 1) := by
            rw [Nat.sub_add_cancel seen, Timeline.RestartsAt]
            rw [isNext] at drops
            exact drops
          have one_more := Timeline.restarts_succ (frames sighting.source) toleranceNs
            (Nat.le_sub_one_of_lt before)
          rw [isNext, max_eq_right (Nat.le_succ _), Nat.succ_sub_one]
          rw [Nat.sub_add_cancel seen] at one_more steady
          rw [one_more]
          simp only [steady, or_false]
        · rw [max_eq_left lags]

omit [DecidableEq Stage] in
/-- The step lemma: a call for a frame in reach keeps what the tracker knows. -/
theorem Tracks.concat {next : StreamSessionTracker} {sessionId : SessionId}
    (tracks : Tracks toleranceNs frames schedule tracker earlier)
    (inReach : sighting.index ≤ lead schedule sighting.source)
    (called : Called toleranceNs frames schedule earlier tracker next sighting sessionId) :
    Tracks toleranceNs frames (schedule ++ [sighting]) next
      (earlier ++ [(sighting, sessionId)]) := by
  have leadHere := lead_concat_same schedule sighting
  have leadOther := fun source (different : source ≠ sighting.source) =>
    lead_concat_other schedule different
  rcases called.state with ⟨state, found, isNamed, sameId, lastPts⟩
  have grown : ∀ source, lead schedule source ≤ lead (schedule ++ [sighting]) source := by
    intro source
    by_cases same : source = sighting.source
    · rw [same, leadHere]
      exact le_max_left _ _
    · rw [leadOther source same]
  have withNew : ∀ answer ∈ earlier, answer.1.source = sighting.source →
      answer.1.index ≤ sighting.index →
        (answer.2 = sessionId ↔ ¬(frames sighting.source).Restarts toleranceNs
          answer.1.index sighting.index) := by
    intro answer member sameSource upTo
    rw [called.sessions answer member sameSource,
      Timeline.restarts_split _ _ upTo (show sighting.index ≤ _ by omega)]
    simp only [called.keeps, or_false]
  have newWith : ∀ answer ∈ earlier, answer.1.source = sighting.source →
      sighting.index ≤ answer.1.index →
        (sessionId = answer.2 ↔ ¬(frames sighting.source).Restarts toleranceNs
          sighting.index answer.1.index) := by
    intro answer member sameSource upTo
    have bound := tracks.bounded answer member
    rw [sameSource] at bound
    have split := Timeline.restarts_split (frames sighting.source) toleranceNs upTo
      (show answer.1.index ≤ max (lead schedule sighting.source) (sighting.index + 1) - 1
        by omega)
    have apart := called.keeps
    rw [split, not_or] at apart
    rw [eq_comm, called.sessions answer member sameSource]
    exact iff_of_true apart.2 apart.1
  refine ⟨called.tolerance.trans tracks.tolerance, ?_, ?_, ?_, ?_, ?_, ?_, ?_⟩
  · intro source other isOther
    by_cases same : source = sighting.source
    · rw [same, found, Option.some.injEq] at isOther
      rw [same, ← isOther, isNamed]
    · rw [called.others source same] at isOther
      exact tracks.named source other isOther
  · intro source unseen
    by_cases same : source = sighting.source
    · rw [same, leadHere] at unseen
      omega
    · rw [leadOther source same] at unseen
      rw [called.others source same]
      exact tracks.missing source unseen
  · intro source seen
    by_cases same : source = sighting.source
    · subst same
      rw [leadHere]
      refine ⟨state, found, lastPts, ?_⟩
      intro answer member sameSource
      rw [sameId]
      rcases List.mem_append.mp member with old | new
      · exact called.sessions answer old sameSource
      · rw [List.mem_singleton.mp new]
        exact iff_of_true rfl called.keeps
    · rw [leadOther source same] at seen ⊢
      rcases tracks.current source seen with ⟨other, isOther, otherPts, ids⟩
      refine ⟨other, (called.others source same).trans isOther, otherPts, ?_⟩
      intro answer member sameSource
      rcases List.mem_append.mp member with old | new
      · exact ids answer old sameSource
      · rw [List.mem_singleton.mp new] at sameSource
        exact absurd sameSource.symm same
  · intro answer member
    rcases List.mem_append.mp member with old | new
    · exact (tracks.bounded answer old).trans_le (grown _)
    · rw [List.mem_singleton.mp new, leadHere]
      exact Nat.lt_of_lt_of_le (Nat.lt_succ_self sighting.index) (le_max_right _ _)
  · intro answer member
    rcases List.mem_append.mp member with old | new
    · exact (tracks.issued answer old).trans_le called.grows
    · rw [List.mem_singleton.mp new]
      exact called.issued
  · intro source index within
    by_cases already : index < lead schedule source
    · rcases tracks.covered source index already with ⟨answer, member, isAnswer⟩
      exact ⟨answer, List.mem_append_left _ member, isAnswer⟩
    · by_cases same : source = sighting.source
      · subst same
        rw [leadHere] at within
        have isNext : sighting.index = index := by omega
        exact ⟨(sighting, sessionId), by simp, rfl, isNext⟩
      · rw [leadOther source same] at within
        exact absurd within already
  · intro first inFirst second inSecond sameSource upTo
    rcases List.mem_append.mp inFirst with oldFirst | newFirst
    · rcases List.mem_append.mp inSecond with oldSecond | newSecond
      · exact tracks.sessions first oldFirst second oldSecond sameSource upTo
      · rw [List.mem_singleton.mp newSecond] at sameSource upTo ⊢
        rw [sameSource]
        exact withNew first oldFirst sameSource upTo
    · rw [List.mem_singleton.mp newFirst] at sameSource upTo ⊢
      rcases List.mem_append.mp inSecond with oldSecond | newSecond
      · exact newWith second oldSecond sameSource.symm upTo
      · rw [List.mem_singleton.mp newSecond]
        exact iff_of_true rfl (Timeline.not_restarts_self _)

end Calls

/-- The run lemma: a schedule whose stages keep up. -/
theorem tracks_of_keepsUp {toleranceNs : Nat} {frames : String → Timeline}
    {schedule : List (Sighting Stage)} (inOrder : InOrder frames schedule)
    (keepsUp : KeepsUp toleranceNs frames schedule) :
    Tracks toleranceNs frames schedule
      (answers frames { ptsRollbackToleranceNs := toleranceNs } schedule).1
      (answers frames { ptsRollbackToleranceNs := toleranceNs } schedule).2 := by
  induction schedule using List.reverseRecOn with
  | nil => exact tracks_start toleranceNs frames
  | append_singleton before sighting induction =>
    have tracks := induction inOrder.prefix keepsUp.prefix
    have place := inOrder before sighting [] rfl
    have inReach := place.2.1.trans (progress_le_lead before _ _)
    rw [answers_concat]
    exact tracks.concat inReach (called tracks inReach (keepsUp before sighting [] rfl))

omit [DecidableEq Stage] in
theorem Tracks.oneSession {toleranceNs : Nat} {frames : String → Timeline}
    {schedule : List (Sighting Stage)} {tracker : StreamSessionTracker}
    {answers : List (Answer Stage)}
    (tracks : Tracks toleranceNs frames schedule tracker answers) :
    OneSession toleranceNs frames answers := by
  constructor
  · intro first inFirst second inSecond sameSource sameIndex
    apply (tracks.sessions first inFirst second inSecond sameSource sameIndex.le).mpr
    rw [sameIndex]
    exact Timeline.not_restarts_self _
  · intro first inFirst second inSecond sameSource restarts same
    have before : first.1.index ≤ second.1.index := by
      rcases restarts with ⟨between, after, upTo, _⟩
      omega
    exact (tracks.sessions first inFirst second inSecond sameSource before).mp same restarts

omit [DecidableEq Stage] in
theorem OneSession.prefix {toleranceNs : Nat} {frames : String → Timeline}
    {earlier later : List (Answer Stage)}
    (oneSession : OneSession toleranceNs frames (earlier ++ later)) :
    OneSession toleranceNs frames earlier :=
  ⟨fun first inFirst second inSecond =>
      oneSession.agree first (List.mem_append_left _ inFirst) second
        (List.mem_append_left _ inSecond),
    fun first inFirst second inSecond =>
      oneSession.apart first (List.mem_append_left _ inFirst) second
        (List.mem_append_left _ inSecond)⟩

omit [DecidableEq Stage] in
theorem keepsUp_of_agree {toleranceNs : Nat} {frames : String → Timeline}
    {schedule : List (Sighting Stage)} {tracker : StreamSessionTracker}
    {earlier : List (Answer Stage)} {sighting : Sighting Stage}
    (tracks : Tracks toleranceNs frames schedule tracker earlier)
    (lags : sighting.index < lead schedule sighting.source)
    (agree : ∀ answer ∈ earlier, answer.1.source = sighting.source →
      answer.1.index = sighting.index →
        answer.2 = (tracker.sessionIdForFrame sighting.sourceId
          ((frames sighting.source).ptsAt sighting.index)).2) :
    ¬(frames sighting.source).Restarts toleranceNs sighting.index
        (lead schedule sighting.source - 1) ∧
      ¬Drops toleranceNs
        ((frames sighting.source).highestPts toleranceNs (lead schedule sighting.source))
        ((frames sighting.source).ptsAt sighting.index) := by
  rcases tracks.covered sighting.source sighting.index lags with
    ⟨answer, member, sameSource, sameIndex⟩
  have same := agree answer member sameSource sameIndex
  rcases tracks.current sighting.source (Nat.zero_lt_of_lt lags) with
    ⟨state, found, lastPts, ids⟩
  by_cases drops : Drops tracker.ptsRollbackToleranceNs state.lastPts
      ((frames sighting.source).ptsAt sighting.index)
  · rw [StreamSessionTracker.sessionIdForFrame_drop found drops] at same
    have older := tracks.issued answer member
    rw [same] at older
    exact absurd older (Nat.lt_irrefl _)
  · have stays := StreamSessionTracker.sessionIdForFrame_stay tracks.named found drops
    rw [stays.1, ids answer member sameSource, sameIndex] at same
    rw [lastPts, tracks.tolerance] at drops
    exact ⟨same, drops⟩

/-- The stages of a process see one session for each frame, and new ones after
restarts, exactly when the stages that lag keep up. -/
theorem one_session_iff (toleranceNs : Nat) (frames : String → Timeline)
    (schedule : List (Sighting Stage)) (inOrder : InOrder frames schedule) :
    OneSession toleranceNs frames
        (answers frames { ptsRollbackToleranceNs := toleranceNs } schedule).2 ↔
      KeepsUp toleranceNs frames schedule := by
  constructor
  · intro oneSession
    induction schedule using List.reverseRecOn with
    | nil =>
      intro before sighting rest split
      exact absurd split (by simp)
    | append_singleton _ _ induction =>
      rw [answers_concat] at oneSession
      have keepsUp := induction inOrder.prefix oneSession.prefix
      have tracks := tracks_of_keepsUp inOrder.prefix keepsUp
      intro earlier other rest split
      rcases List.eq_nil_or_concat rest with isLast | ⟨init, last, isConcat⟩
      · rw [isLast] at split
        rcases List.append_inj' split rfl with ⟨rfl, isSame⟩
        rw [← List.cons.inj isSame |>.1]
        intro timeline newest lags
        apply keepsUp_of_agree tracks lags
        intro answer member sameSource sameIndex
        exact oneSession.agree answer (List.mem_append_left _ member) _
          (List.mem_append_right _ (List.mem_singleton_self _)) sameSource sameIndex
      · apply keepsUp earlier other init
        rw [isConcat, List.concat_eq_append, ← List.cons_append, ← List.append_assoc] at split
        exact (List.append_inj' split rfl).1
  · intro keepsUp
    exact (tracks_of_keepsUp inOrder keepsUp).oneSession

/-! ## Two stages and a restart -/

def restarting (_ : String) : Timeline := [some 60000000000, some 0]

def inStep : List (Sighting Bool) :=
  [⟨false, "cam", 0⟩, ⟨true, "cam", 0⟩, ⟨false, "cam", 1⟩, ⟨true, "cam", 1⟩]

/-- The second stage sees the first frame after the first stage has seen the second. -/
def oneBehind : List (Sighting Bool) :=
  [⟨false, "cam", 0⟩, ⟨false, "cam", 1⟩, ⟨true, "cam", 0⟩, ⟨true, "cam", 1⟩]

theorem inStep_inOrder : InOrder restarting inStep := by
  intro before sighting rest split
  rcases before with _ | ⟨first, _ | ⟨second, _ | ⟨third, _ | ⟨fourth, before⟩⟩⟩⟩
  · cases split
    decide
  · cases split
    decide
  · cases split
    decide
  · cases split
    decide
  · exact absurd split (by simp [inStep])

theorem oneBehind_inOrder : InOrder restarting oneBehind := by
  intro before sighting rest split
  rcases before with _ | ⟨first, _ | ⟨second, _ | ⟨third, _ | ⟨fourth, before⟩⟩⟩⟩
  · cases split
    decide
  · cases split
    decide
  · cases split
    decide
  · cases split
    decide
  · exact absurd split (by simp [oneBehind])

theorem inStep_keepsUp : KeepsUp 5000000000 restarting inStep := by
  intro before sighting rest split timeline newest lags
  rcases before with _ | ⟨first, _ | ⟨second, _ | ⟨third, _ | ⟨fourth, before⟩⟩⟩⟩
  · cases split
    exact absurd lags (by decide)
  · cases split
    exact ⟨Timeline.not_restarts_self 0, by decide⟩
  · cases split
    exact absurd lags (by decide)
  · cases split
    exact ⟨Timeline.not_restarts_self 1, by decide⟩
  · exact absurd split (by simp [inStep])

theorem in_step_one_session : OneSession 5000000000 restarting
    (answers restarting { ptsRollbackToleranceNs := 5000000000 } inStep).2 :=
  (one_session_iff 5000000000 restarting inStep inStep_inOrder).mpr inStep_keepsUp

/-- A stage that is one frame behind at a restart gets the new session for a
frame from before it. -/
theorem one_behind_shares_session :
    ¬∀ (frames : String → Timeline) (schedule : List (Sighting Bool)),
      InOrder frames schedule →
        OneSession 5000000000 frames
          (answers frames { ptsRollbackToleranceNs := 5000000000 } schedule).2 := by
  intro claim
  have oneSession := claim restarting oneBehind oneBehind_inOrder
  have restart : (restarting "cam").Restarts 5000000000 0 1 :=
    ⟨1, Nat.zero_lt_one, Nat.le_refl 1, by decide⟩
  exact oneSession.apart (⟨true, "cam", 0⟩, ⟨"cam", 1⟩) (by decide)
    (⟨false, "cam", 1⟩, ⟨"cam", 1⟩) (by decide) rfl restart rfl

end VideoAnalysis.Session
