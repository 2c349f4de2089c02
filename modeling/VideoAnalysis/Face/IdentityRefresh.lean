import VideoAnalysis.Behavior.Throttles
import VideoAnalysis.Foundation.ScopedDict

/-! # The identity refresh policy

A track is recognised when its face is first seen, and then again when the refresh interval has
passed or a clear face follows an unclear one. What is remembered of a track is forgotten when it
has not been recognised for a while, scope by scope.
-/

namespace VideoAnalysis.Face

open VideoAnalysis.Behavior VideoAnalysis.Foundation

/-- A configuration as `from_env` builds it. -/
structure IdentityRefreshConfig where
  minIntervalMs : Nat
  refreshMs : Nat
  stateTtlMs : Nat
  remembers : max refreshMs minIntervalMs ≤ stateTtlMs

namespace IdentityRefreshConfig

def fromEnv (minIntervalMs refreshMs stateTtlMs : Int) : IdentityRefreshConfig where
  minIntervalMs := minIntervalMs.toNat
  refreshMs := refreshMs.toNat
  stateTtlMs := max (max stateTtlMs.toNat (2 * max refreshMs.toNat minIntervalMs.toNat)) 1
  remembers := by omega

/-- Without a refresh interval every track is recognised once per minimum interval. -/
def refreshEnabled (config : IdentityRefreshConfig) : Prop := 0 < config.refreshMs

instance (config : IdentityRefreshConfig) : Decidable config.refreshEnabled :=
  inferInstanceAs (Decidable (0 < config.refreshMs))

def effectiveRefreshMs (config : IdentityRefreshConfig) : Nat :=
  if config.refreshEnabled then max config.refreshMs config.minIntervalMs
  else config.minIntervalMs

theorem min_le_effective (config : IdentityRefreshConfig) :
    config.minIntervalMs ≤ config.effectiveRefreshMs := by
  unfold effectiveRefreshMs
  split
  · exact Nat.le_max_right _ _
  · exact Nat.le_refl _

theorem effective_eq_max (config : IdentityRefreshConfig) :
    config.effectiveRefreshMs = max config.refreshMs config.minIntervalMs := by
  unfold effectiveRefreshMs
  split
  · rfl
  · next disabled =>
      rw [refreshEnabled] at disabled
      omega

end IdentityRefreshConfig

structure TrackIdentityState where
  lastRecognizedMs : Nat
  lastClear : Bool

inductive RefreshReason
  | firstSighting
  | timeReset
  | minInterval
  | minIntervalElapsed
  | refreshWait
  | refreshNotClear
  | refresh
  | clearUpgrade
  | unclearRefresh
  | awaitClear

structure RefreshDecision where
  allowed : Bool
  reason : RefreshReason
  nextAllowedAtMs : Option Nat := none

/-- What `decide` answers about a track from what is remembered of it. -/
def refreshDecision (config : IdentityRefreshConfig) (timestampMs : Nat) (clear : Bool) :
    Option TrackIdentityState → RefreshDecision
  | none => ⟨true, .firstSighting, none⟩
  | some state =>
    if timestampMs < state.lastRecognizedMs then ⟨true, .timeReset, none⟩
    else
      let elapsed := timestampMs - state.lastRecognizedMs
      if elapsed < config.minIntervalMs then
        ⟨false, .minInterval, some (state.lastRecognizedMs + config.minIntervalMs)⟩
      else if ¬ config.refreshEnabled then ⟨true, .minIntervalElapsed, none⟩
      else
        let refreshAt := state.lastRecognizedMs + config.effectiveRefreshMs
        if state.lastClear then
          if elapsed < config.effectiveRefreshMs then ⟨false, .refreshWait, some refreshAt⟩
          else if ¬ clear then ⟨false, .refreshNotClear, none⟩
          else ⟨true, .refresh, none⟩
        else if clear then ⟨true, .clearUpgrade, none⟩
        else if config.effectiveRefreshMs ≤ elapsed then ⟨true, .unclearRefresh, none⟩
        else ⟨false, .awaitClear, some refreshAt⟩

section Decisions

variable {config : IdentityRefreshConfig} {timestampMs : Nat} {clear : Bool}
  {state : TrackIdentityState}

theorem elapsed_of_allowed (forward : state.lastRecognizedMs ≤ timestampMs)
    (allowed : (refreshDecision config timestampMs clear (some state)).allowed = true) :
    state.lastRecognizedMs + config.minIntervalMs ≤ timestampMs := by
  rw [refreshDecision, if_neg (Nat.not_lt.mpr forward)] at allowed
  by_contra early
  rw [if_pos (by omega)] at allowed
  exact Bool.noConfusion allowed

theorem allowed_of_elapsed
    (elapsed : state.lastRecognizedMs + config.effectiveRefreshMs ≤ timestampMs) :
    (refreshDecision config timestampMs true (some state)).allowed = true := by
  have enough := config.min_le_effective
  rw [refreshDecision, if_neg (by omega)]
  dsimp only
  rw [if_neg (by omega)]
  split
  · rfl
  split
  · rw [if_neg (by omega)]
    rfl
  · rfl

theorem allowed_of_reset (reset : timestampMs < state.lastRecognizedMs) :
    (refreshDecision config timestampMs clear (some state)).allowed = true := by
  rw [refreshDecision, if_pos reset]

end Decisions

/-! ## What is remembered -/

structure IdentityRefreshPolicy where
  tracks : ScopedDict String String TrackIdentityState := ∅
  lastPruneMs : Dict String Nat := ∅

namespace IdentityRefreshPolicy

open ReIDThrottleMap (scope)

def maybePrune (config : IdentityRefreshConfig) (policy : IdentityRefreshPolicy)
    (scope : String) (timestampMs : Nat) : IdentityRefreshPolicy :=
  match policy.lastPruneMs.get scope with
  | none => { policy with lastPruneMs := policy.lastPruneMs.set scope timestampMs }
  | some last =>
    if ((timestampMs : Int) - last).natAbs < config.stateTtlMs then policy
    else
      { tracks := policy.tracks.prune scope fun state =>
          ((timestampMs : Int) - state.lastRecognizedMs).natAbs ≤ config.stateTtlMs
        lastPruneMs := policy.lastPruneMs.set scope timestampMs }

def stateOf (policy : IdentityRefreshPolicy) (key : String) : Option TrackIdentityState :=
  policy.tracks.find (scope key) key

/-- `IdentityRefreshPolicy.decide`. -/
def decideRecognition (config : IdentityRefreshConfig) (policy : IdentityRefreshPolicy)
    (key : String) (timestampMs : Nat) (clear : Bool) :
    IdentityRefreshPolicy × RefreshDecision :=
  let policy := policy.maybePrune config (scope key) timestampMs
  (policy, refreshDecision config timestampMs clear (policy.stateOf key))

def record (config : IdentityRefreshConfig) (policy : IdentityRefreshPolicy) (key : String)
    (timestampMs : Nat) (clear : Bool) : IdentityRefreshPolicy :=
  let policy := policy.maybePrune config (scope key) timestampMs
  { policy with tracks := policy.tracks.put (scope key) key ⟨timestampMs, clear⟩ }

def Once (policy : IdentityRefreshPolicy) : Prop := policy.tracks.Once

variable {config : IdentityRefreshConfig} {policy : IdentityRefreshPolicy}
  {name key other : String} {timestampMs : Nat} {clear : Bool}

theorem Once.maybePrune (once : policy.Once) :
    (policy.maybePrune config name timestampMs).Once := by
  rw [Once, IdentityRefreshPolicy.maybePrune]
  split
  · exact once
  split
  · exact once
  · exact ScopedDict.Once.prune once _

theorem Once.record (once : policy.Once) :
    (policy.record config key timestampMs clear).Once :=
  ScopedDict.Once.put once.maybePrune _

theorem stateOf_maybePrune (once : policy.Once) (key : String) :
    (policy.maybePrune config name timestampMs).stateOf key = policy.stateOf key ∨
      scope key = name ∧ (policy.maybePrune config name timestampMs).stateOf key = none ∧
        ∃ state, policy.stateOf key = some state ∧
          config.stateTtlMs < ((timestampMs : Int) - state.lastRecognizedMs).natAbs := by
  rw [maybePrune]
  split
  · exact Or.inl rfl
  split
  · exact Or.inl rfl
  simp only [stateOf, ScopedDict.find_prune once]
  split
  · next same =>
      cases known : ScopedDict.find policy.tracks (scope key) key with
      | none => exact Or.inl rfl
      | some state =>
        by_cases kept : ((timestampMs : Int) - state.lastRecognizedMs).natAbs ≤ config.stateTtlMs
        · exact Or.inl (by simp only [Option.filter, kept, decide_true, if_true])
        · refine Or.inr ⟨same, ?_, state, rfl, by omega⟩
          simp only [Option.filter, kept, decide_false, Bool.false_eq_true, if_false]
  · exact Or.inl rfl

theorem stateOf_record :
    (policy.record config key timestampMs clear).stateOf other =
      if other = key then some ⟨timestampMs, clear⟩
      else (policy.maybePrune config (scope key) timestampMs).stateOf other := by
  rw [stateOf, record, ScopedDict.find_put]
  by_cases same : other = key
  · rw [if_pos ⟨congrArg scope same, same⟩, if_pos same]
  · rw [if_neg (fun both => same both.2), if_neg same]
    rfl

theorem allowed_maybePrune (once : policy.Once)
    (allowed : (refreshDecision config timestampMs clear (policy.stateOf key)).allowed = true) :
    (policy.decideRecognition config key timestampMs clear).2.allowed = true := by
  rw [decideRecognition]
  rcases stateOf_maybePrune once key with same | ⟨_, forgotten, _⟩
  · rw [same]
    exact allowed
  · rw [forgotten]
    rfl

end IdentityRefreshPolicy

end VideoAnalysis.Face
