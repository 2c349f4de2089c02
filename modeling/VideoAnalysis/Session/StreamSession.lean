import VideoAnalysis.Foundation.Dict
import Mathlib.Algebra.Order.Ring.Int

/-! # Stream sessions

A tracker gives each source a session id and starts a new session when the PTS
of a frame drops by more than a tolerance. The timeline of a source, its frames
in order, says where such drops are.
-/

namespace VideoAnalysis.Session

open VideoAnalysis.Foundation

/-! ## The tracker -/

/-- Every new session draws a random id; `serial` counts the draws. -/
structure SessionId where
  source : String
  serial : Nat
deriving DecidableEq

structure StreamSessionState where
  sourceId : String
  sessionId : SessionId
  lastPts : Option Int
  bumpCount : Nat

structure StreamSessionTracker where
  ptsRollbackToleranceNs : Nat := 5000000000
  stateBySource : Dict String StreamSessionState := ∅
  issued : Nat := 0

def sourceKey (sourceId : String) : String :=
  if sourceId = "" then "__unknown_source__" else sourceId

namespace StreamSessionTracker

def startSession (tracker : StreamSessionTracker) (source : String) (pts : Option Int)
    (bumpCount : Nat) : StreamSessionTracker × SessionId :=
  let sessionId : SessionId := ⟨source, tracker.issued⟩
  ({ tracker with
      stateBySource :=
        tracker.stateBySource.set source
          { sourceId := source, sessionId, lastPts := pts, bumpCount }
      issued := tracker.issued + 1 },
    sessionId)

/-- A PTS that is not below the last one is remembered. -/
def remember (tracker : StreamSessionTracker) (state : StreamSessionState)
    (pts : Option Int) : StreamSessionTracker × SessionId :=
  if pts.isSome && pts != state.lastPts then
    ({ tracker with
        stateBySource :=
          tracker.stateBySource.set state.sourceId { state with lastPts := pts } },
      state.sessionId)
  else (tracker, state.sessionId)

/-- `framePts` has passed `_int_or_none`. -/
def sessionIdForFrame (tracker : StreamSessionTracker) (sourceId : String)
    (framePts : Option Int) : StreamSessionTracker × SessionId :=
  let source := sourceKey sourceId
  match tracker.stateBySource.get source with
  | none => tracker.startSession source framePts 0
  | some state =>
    match framePts, state.lastPts with
    | some pts, some lastPts =>
      if pts < lastPts then
        if lastPts - pts ≤ tracker.ptsRollbackToleranceNs then (tracker, state.sessionId)
        else tracker.startSession source framePts (state.bumpCount + 1)
      else tracker.remember state framePts
    | _, _ => tracker.remember state framePts

end StreamSessionTracker

/-! ## Timelines -/

/-- The PTS of the frames of a source, in order; a frame may have none. -/
abbrev Timeline := List (Option Int)

/-- The PTS is more than the tolerance below the highest one of the session. -/
def Drops (toleranceNs : Nat) (highest pts : Option Int) : Prop :=
  match pts, highest with
  | some pts, some highest => pts + toleranceNs < highest
  | _, _ => False

instance (toleranceNs : Nat) (highest pts : Option Int) :
    Decidable (Drops toleranceNs highest pts) := by
  unfold Drops
  split <;> infer_instance

/-- The highest PTS of the session after one more frame. -/
def raise (toleranceNs : Nat) (highest pts : Option Int) : Option Int :=
  if Drops toleranceNs highest pts then pts
  else match pts, highest with
    | some pts, some highest => some (max pts highest)
    | some pts, none => some pts
    | none, highest => highest

section Raise

variable {toleranceNs : Nat}

theorem raise_none (toleranceNs : Nat) (highest : Option Int) :
    raise toleranceNs highest none = highest := by
  cases highest with
  | none | some => rfl

theorem raise_fresh (toleranceNs : Nat) (pts : Int) :
    raise toleranceNs none (some pts) = some pts := rfl

theorem raise_first (toleranceNs : Nat) (pts : Option Int) :
    raise toleranceNs none pts = pts := by
  cases pts with
  | none | some => rfl

theorem raise_steady {highest pts : Int}
    (steady : ¬Drops toleranceNs (some highest) (some pts)) :
    raise toleranceNs (some highest) (some pts) = some (max pts highest) := if_neg steady

theorem raise_within {highest pts : Option Int} (steady : ¬Drops toleranceNs highest pts)
    (below : ∀ framePts, pts = some framePts → ∃ top, highest = some top ∧ framePts ≤ top) :
    raise toleranceNs highest pts = highest := by
  cases pts with
  | none => exact raise_none _ _
  | some pts =>
    rcases below pts rfl with ⟨top, rfl, le⟩
    rw [raise_steady steady, max_eq_right le]

theorem raise_drop {highest pts : Option Int} (drops : Drops toleranceNs highest pts) :
    raise toleranceNs highest pts = pts := if_pos drops

theorem raise_ge {highest : Option Int} {pts : Int} (toleranceNs : Nat) :
    ∃ next, raise toleranceNs highest (some pts) = some next ∧ pts ≤ next := by
  unfold raise
  split
  · exact ⟨pts, rfl, le_refl _⟩
  · cases highest with
    | none => exact ⟨pts, rfl, le_refl _⟩
    | some highest => exact ⟨max pts highest, rfl, le_max_left _ _⟩

theorem raise_mono {highest : Int} {pts : Option Int}
    (steady : ¬Drops toleranceNs (some highest) pts) :
    ∃ next, raise toleranceNs (some highest) pts = some next ∧ highest ≤ next := by
  unfold raise
  rw [if_neg steady]
  cases pts with
  | none => exact ⟨highest, rfl, le_refl _⟩
  | some pts => exact ⟨max pts highest, rfl, le_max_right _ _⟩

end Raise

namespace Timeline

variable (timeline : Timeline) (toleranceNs : Nat)

def ptsAt (index : Nat) : Option Int := (timeline[index]?).getD none

/-- The highest PTS of the session that the first frames end in. -/
def highestPts : Nat → Option Int
  | 0 => none
  | count + 1 => raise toleranceNs (highestPts count) (timeline.ptsAt count)

def RestartsAt (index : Nat) : Prop :=
  Drops toleranceNs (timeline.highestPts toleranceNs index) (timeline.ptsAt index)

instance (index : Nat) : Decidable (timeline.RestartsAt toleranceNs index) :=
  inferInstanceAs (Decidable (Drops _ _ _))

/-- A session starts after the first frame and not after the second. -/
def Restarts (first second : Nat) : Prop :=
  ∃ index, first < index ∧ index ≤ second ∧ timeline.RestartsAt toleranceNs index

variable {timeline toleranceNs}

theorem not_restarts_self (index : Nat) : ¬timeline.Restarts toleranceNs index index := by
  rintro ⟨between, after, upTo, _⟩
  omega

theorem Restarts.mono {first second last : Nat} (le : second ≤ last)
    (restarts : timeline.Restarts toleranceNs first second) :
    timeline.Restarts toleranceNs first last := by
  rcases restarts with ⟨between, after, upTo, restart⟩
  exact ⟨between, after, upTo.trans le, restart⟩

theorem restarts_succ (timeline : Timeline) (toleranceNs : Nat) {first last : Nat}
    (le : first ≤ last) :
    timeline.Restarts toleranceNs first (last + 1) ↔
      timeline.Restarts toleranceNs first last ∨
        timeline.RestartsAt toleranceNs (last + 1) := by
  constructor
  · rintro ⟨between, after, upTo, restart⟩
    rcases Nat.lt_or_ge last between with beyond | within
    · have isLast : between = last + 1 := by omega
      rw [isLast] at restart
      exact Or.inr restart
    · exact Or.inl ⟨between, after, within, restart⟩
  · rintro (restarts | restart)
    · exact restarts.mono (Nat.le_succ last)
    · exact ⟨last + 1, by omega, Nat.le_refl _, restart⟩

theorem restarts_split (timeline : Timeline) (toleranceNs : Nat) {first middle last : Nat}
    (firstLe : first ≤ middle) (middleLe : middle ≤ last) :
    timeline.Restarts toleranceNs first last ↔
      timeline.Restarts toleranceNs first middle ∨
        timeline.Restarts toleranceNs middle last := by
  constructor
  · rintro ⟨between, after, upTo, restart⟩
    rcases Nat.lt_or_ge middle between with beyond | within
    · exact Or.inr ⟨between, beyond, upTo, restart⟩
    · exact Or.inl ⟨between, after, within, restart⟩
  · rintro (restarts | ⟨between, after, upTo, restart⟩)
    · exact restarts.mono middleLe
    · exact ⟨between, by omega, upTo, restart⟩

theorem highestPts_ge {index count : Nat} {pts : Int} (known : timeline.ptsAt index = some pts)
    (later : index < count) (steady : ¬timeline.Restarts toleranceNs index (count - 1)) :
    ∃ highest, timeline.highestPts toleranceNs count = some highest ∧ pts ≤ highest := by
  induction count with
  | zero => omega
  | succ count induction =>
    rw [highestPts]
    rcases Nat.eq_or_lt_of_le (Nat.le_of_lt_succ later) with isLast | before
    · rw [← isLast, known]
      exact raise_ge toleranceNs
    · have le : count - 1 ≤ count := Nat.sub_le _ _
      rcases induction before fun restarts => steady (restarts.mono le) with
        ⟨highest, isHighest, above⟩
      have steadyHere : ¬timeline.RestartsAt toleranceNs count := fun restart =>
        steady ⟨count, before, Nat.le_refl _, restart⟩
      rw [RestartsAt, isHighest] at steadyHere
      rw [isHighest]
      rcases raise_mono steadyHere with ⟨next, isNext, grows⟩
      exact ⟨next, isNext, above.trans grows⟩

end Timeline

/-! ## One call -/

namespace StreamSessionTracker

variable {tracker : StreamSessionTracker} {sourceId : String} {framePts : Option Int}

def Named (tracker : StreamSessionTracker) : Prop :=
  ∀ source state, tracker.stateBySource.get source = some state → state.sourceId = source

theorem sessionIdForFrame_new (missing : tracker.stateBySource.get (sourceKey sourceId) = none) :
    tracker.sessionIdForFrame sourceId framePts =
      tracker.startSession (sourceKey sourceId) framePts 0 := by
  simp only [sessionIdForFrame, missing]

variable {state : StreamSessionState}

theorem sessionIdForFrame_drop
    (found : tracker.stateBySource.get (sourceKey sourceId) = some state)
    (drops : Drops tracker.ptsRollbackToleranceNs state.lastPts framePts) :
    tracker.sessionIdForFrame sourceId framePts =
      tracker.startSession (sourceKey sourceId) framePts (state.bumpCount + 1) := by
  cases framePts with
  | none => exact drops.elim
  | some pts =>
    cases last : state.lastPts with
    | none =>
      rw [last] at drops
      exact drops.elim
    | some lastPts =>
      rw [last] at drops
      have below : pts < lastPts := by simp only [Drops] at drops; omega
      have beyond : ¬lastPts - pts ≤ (tracker.ptsRollbackToleranceNs : Int) := by
        simp only [Drops] at drops
        omega
      simp only [sessionIdForFrame, found, last, below, beyond, if_true, if_false]

theorem remember_get
    (found : tracker.stateBySource.get state.sourceId = some state) (source : String) :
    (tracker.remember state framePts).1.stateBySource.get source =
      if source = state.sourceId then
        some { state with lastPts := if framePts.isSome then framePts else state.lastPts }
      else tracker.stateBySource.get source := by
  unfold remember
  by_cases same : source = state.sourceId
  · rw [same, if_pos rfl]
    split
    · next changed =>
        rw [Bool.and_eq_true] at changed
        simp [changed.1]
    · next unchanged =>
        rw [found]
        congr 1
        cases framePts with
        | none => rfl
        | some pts =>
          have equal : some pts = state.lastPts := by simpa using unchanged
          rw [equal]
          split <;> rfl
  · rw [if_neg same]
    split
    · exact Dict.get_set_of_ne _ _ same
    · rfl

theorem sessionIdForFrame_stay (named : tracker.Named)
    (found : tracker.stateBySource.get (sourceKey sourceId) = some state)
    (steady : ¬Drops tracker.ptsRollbackToleranceNs state.lastPts framePts) :
    (tracker.sessionIdForFrame sourceId framePts).2 = state.sessionId ∧
      (tracker.sessionIdForFrame sourceId framePts).1.issued = tracker.issued ∧
      (tracker.sessionIdForFrame sourceId framePts).1.ptsRollbackToleranceNs =
        tracker.ptsRollbackToleranceNs ∧
      ∀ source, (tracker.sessionIdForFrame sourceId framePts).1.stateBySource.get source =
        if source = sourceKey sourceId then
          some { state with
            lastPts := raise tracker.ptsRollbackToleranceNs state.lastPts framePts }
        else tracker.stateBySource.get source := by
  have isNamed := named _ _ found
  have atKey : tracker.stateBySource.get state.sourceId = some state := by
    rw [isNamed]
    exact found
  have remembered : (tracker.remember state framePts).2 = state.sessionId ∧
      (tracker.remember state framePts).1.issued = tracker.issued ∧
      (tracker.remember state framePts).1.ptsRollbackToleranceNs =
        tracker.ptsRollbackToleranceNs := by
    unfold remember
    split <;> exact ⟨rfl, rfl, rfl⟩
  by_cases kept : (if framePts.isSome then framePts else state.lastPts) =
      raise tracker.ptsRollbackToleranceNs state.lastPts framePts ∧
        tracker.sessionIdForFrame sourceId framePts = tracker.remember state framePts
  · rw [kept.2]
    refine ⟨remembered.1, remembered.2.1, remembered.2.2, ?_⟩
    intro source
    rw [remember_get atKey, kept.1, isNamed]
  · -- only a small step back is not remembered
    cases framePts with
    | none => exact absurd ⟨(raise_none _ _).symm, by simp only [sessionIdForFrame, found]⟩ kept
    | some pts =>
      cases last : state.lastPts with
      | none =>
        rw [last] at kept
        exact absurd ⟨(raise_fresh _ _).symm, by simp only [sessionIdForFrame, found, last]⟩ kept
      | some lastPts =>
        rw [last] at steady kept
        have raised := raise_steady steady
        by_cases below : pts < lastPts
        · have within : lastPts - pts ≤ (tracker.ptsRollbackToleranceNs : Int) := by
            simp only [Drops] at steady
            omega
          have unchanged : tracker.sessionIdForFrame sourceId (some pts) =
              (tracker, state.sessionId) := by
            simp only [sessionIdForFrame, found, last, below, within, if_true]
          rw [unchanged]
          refine ⟨rfl, rfl, rfl, ?_⟩
          intro source
          rw [raised, max_eq_right below.le, ← last]
          by_cases same : source = sourceKey sourceId
          · rw [if_pos same, same, found]
          · rw [if_neg same]
        · refine absurd ⟨?_, ?_⟩ kept
          · rw [raised, max_eq_left (not_lt.mp below)]
            rfl
          · simp only [sessionIdForFrame, found, last, below, if_false]

theorem startSession_get (source : String) (bumpCount : Nat) (other : String) :
    (tracker.startSession source framePts bumpCount).1.stateBySource.get other =
      if other = source then
        some ⟨source, ⟨source, tracker.issued⟩, framePts, bumpCount⟩
      else tracker.stateBySource.get other :=
  Dict.get_set _ _ _ _

end StreamSessionTracker

end VideoAnalysis.Session
