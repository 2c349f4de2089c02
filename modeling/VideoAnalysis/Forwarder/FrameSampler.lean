import VideoAnalysis.Foundation.CreditGate
import VideoAnalysis.Foundation.Dict
import VideoAnalysis.Python.FloatArithmetic

/-! # Sampling frames by their PTS

The sampler in front of the analysis admits frames source by source. PTS with a time base
are converted in doubles; the books of accepted frames, which no decision reads, are left out.
-/

namespace VideoAnalysis.Forwarder

open Foundation Python

/-- A video frame as the filters read it: the ids as texts, the keyframe flag and the fraction
of the time base as far as they can be read. -/
structure VideoFrame where
  sourceId : Text
  contentIsNone : Bool := false
  pts : Option Int
  timeBase : Option ℚ := none
  keyframe : Option Bool := none
  uuid : Option Text := none
  keyframeUuid : Option Text := none
deriving DecidableEq

def nanosPerSecond : Double := .finite false 1000000000

namespace VideoFrame

variable (frame : VideoFrame)

/-- `_source_key`. -/
def sourceKey : Text :=
  if frame.sourceId = [] then text "_unknown_source" else frame.sourceId

/-- `_time_base_to_seconds`, which is `None` beyond the doubles. -/
def timeBaseToSeconds : Option Double :=
  frame.timeBase.bind fun fraction =>
    let scale := Double.ofRat fraction
    if scale.isFinite then some scale else none

/-- `_frame_pts_ns`. -/
def framePtsNs : Except PyError (Option Int) :=
  match frame.pts with
  | none => .ok none
  | some pts =>
    match frame.timeBaseToSeconds with
    | none => .ok (some pts)
    | some scale => do
      let converted ← Double.ofInt pts
      let ptsNs ← ((converted.mul scale).mul nanosPerSecond).round
      return some ptsNs

/-- `_text_or_none`. -/
def textOrNone (value : Option Text) : Option Text :=
  value.filter fun content =>
    strip content ≠ [] && content ≠ text "None" && content ≠ text "null"

/-- `_is_keyframe`. -/
def isKeyframe : Bool :=
  if frame.keyframe = some true then true
  else
    match textOrNone frame.uuid, textOrNone frame.keyframeUuid with
    | some frameUuid, some keyframeUuid => frameUuid = keyframeUuid
    | _, _ => false

end VideoFrame

/-! ## The rate limit that both filters apply -/

/-- Without a limit the interval is zero. -/
structure FrameRate where
  enabled : Bool
  minIntervalNs : Int
  unlimited : enabled = false → minIntervalNs = 0
deriving DecidableEq

namespace FrameRate

/-- `__init__` with `max_fps` as it is parsed. -/
def create (enabled : Bool) (maxFps : Double) : Except PyError FrameRate :=
  if limited : enabled = true ∧ Double.lessThan (.finite false 0) maxFps = true then
    (nanosPerSecond.div maxFps).round.map fun interval =>
      { enabled, minIntervalNs := interval
        unlimited := fun disabled => absurd limited.1 (by rw [disabled]; decide) }
  else .ok { enabled, minIntervalNs := 0, unlimited := fun _ => rfl }

variable (rate : FrameRate)

def ptsQuantizationSlackNs : Int := min 1000000 (rate.minIntervalNs / 1000)

def maxCreditNs : Int := rate.minIntervalNs * 2

end FrameRate

/-- What a filter remembers of each source. -/
structure FilterState where
  lastObservedPtsNs : Dict Text Int := ∅
  creditNs : Dict Text Int := ∅

namespace FilterState

def observe (state : FilterState) (sourceKey : Text) (ptsNs creditNs : Int) : FilterState where
  lastObservedPtsNs := state.lastObservedPtsNs.set sourceKey ptsNs
  creditNs := state.creditNs.set sourceKey creditNs

def creditOf (state : FilterState) (sourceKey : Text) : Credit where
  last := state.lastObservedPtsNs.get sourceKey
  amount := (state.creditNs.get sourceKey).getD 0

end FilterState

namespace FrameRate

variable (rate : FrameRate) (state : FilterState)

/-- `_admit_pts`. -/
def admitPts (sourceKey : Text) (ptsNs : Int) (force : Bool) : FilterState × Bool :=
  let fresh := (state.observe sourceKey ptsNs 0, true)
  match state.lastObservedPtsNs.get sourceKey with
  | none => fresh
  | some lastObservedPtsNs =>
    if ptsNs ≤ lastObservedPtsNs then fresh
    else
      let creditNs := min rate.maxCreditNs
        ((state.creditNs.get sourceKey).getD 0 + (ptsNs - lastObservedPtsNs))
      let spent := state.observe sourceKey ptsNs (max 0 (creditNs - rate.minIntervalNs))
      if force then (spent, true)
      else if creditNs + rate.ptsQuantizationSlackNs < rate.minIntervalNs then
        (state.observe sourceKey ptsNs creditNs, false)
      else (spent, true)

/-- What both filters do with a frame. A PTS that cannot be converted raises. -/
def filterFrame (frame : VideoFrame) : FilterState × Except PyError Bool :=
  if frame.contentIsNone then (state, .ok false)
  else
    match frame.framePtsNs with
    | .error error => (state, .error error)
    | .ok ptsNs =>
      if !rate.enabled || rate.minIntervalNs ≤ 0 then (state, .ok true)
      else
        match ptsNs with
        | none => (state, .ok true)
        | some ptsNs =>
          let admitted := rate.admitPts state frame.sourceKey ptsNs frame.isKeyframe
          (admitted.1, .ok admitted.2)

end FrameRate

/-- `AnalysisFrameSampler.admit`. -/
def AnalysisFrameSampler.admitFrame (rate : FrameRate) (state : FilterState) (frame : VideoFrame) :
    FilterState × Except PyError Bool :=
  rate.filterFrame state frame

/-! ## Runs of a filter -/

section Run

variable {State : Type} (filter : State → VideoFrame → State × Except PyError Bool)

/-- A frame goes on where the filter returns true; it does not where the filter raises. -/
def goesOn (decision : Except PyError Bool) : Bool := decision = .ok true

/-- The frames of a run with the decisions about them. -/
def outcomes : State → List VideoFrame → List (VideoFrame × Bool)
  | _, [] => []
  | state, frame :: rest =>
    (frame, goesOn (filter state frame).2) :: outcomes (filter state frame).1 rest

def stateAfter (state : State) (frames : List VideoFrame) : State :=
  frames.foldl (fun state frame => (filter state frame).1) state

def delivered (state : State) (frames : List VideoFrame) : List VideoFrame :=
  ((outcomes filter state frames).filter Prod.snd).map Prod.fst

end Run

/-! ## What one source sees -/

def VideoFrame.offer (frame : VideoFrame) : Option Offer :=
  if frame.contentIsNone then none
  else
    match frame.framePtsNs with
    | .ok (some ptsNs) => some ⟨ptsNs, frame.isKeyframe⟩
    | .ok none | .error _ => none

theorem VideoFrame.of_offer {frame : VideoFrame} {offered : Offer}
    (isOffer : frame.offer = some offered) :
    frame.contentIsNone = false ∧ frame.framePtsNs = .ok (some offered.point) := by
  unfold VideoFrame.offer at isOffer
  split at isOffer
  next => cases isOffer
  next content =>
    split at isOffer
    next ptsNs converted =>
      cases isOffer
      exact ⟨Bool.eq_false_iff.mpr content, converted⟩
    all_goals cases isOffer

def observed (sourceKey : Text) (frames : List VideoFrame) : List Offer :=
  (frames.filter fun frame => frame.sourceKey = sourceKey).filterMap VideoFrame.offer

def ratedOutcomes (sourceKey : Text) (outcomes : List (VideoFrame × Bool)) :
    List (Offer × Bool) :=
  (outcomes.filter fun outcome => outcome.1.sourceKey = sourceKey).filterMap fun outcome =>
    outcome.1.offer.map fun offered => (offered, outcome.2)

namespace FrameRate

variable (rate : FrameRate)

def gate : CreditGate where
  interval := rate.minIntervalNs
  slack := rate.ptsQuantizationSlackNs
  cap := rate.maxCreditNs

theorem gate_sound (positive : 0 < rate.minIntervalNs) : rate.gate.Sound where
  slack_nonneg := by
    simp only [gate, ptsQuantizationSlackNs]
    omega
  slack_lt := by
    simp only [gate, ptsQuantizationSlackNs]
    omega
  cap_eq := rfl

theorem enabled_of_positive (positive : 0 < rate.minIntervalNs) : rate.enabled = true := by
  by_contra disabled
  have zero := rate.unlimited (Bool.eq_false_iff.mpr disabled)
  omega

variable {rate} {state : FilterState} {frame : VideoFrame}

theorem creditOf_observe (sourceKey other : Text) (ptsNs creditNs : Int) :
    (state.observe sourceKey ptsNs creditNs).creditOf other =
      if other = sourceKey then ⟨some ptsNs, creditNs⟩ else state.creditOf other := by
  simp only [FilterState.creditOf, FilterState.observe, Dict.get_set]
  split <;> rfl

theorem admitPts_eq (rate : FrameRate) (state : FilterState) (sourceKey : Text) (ptsNs : Int)
    (force : Bool) :
    rate.admitPts state sourceKey ptsNs force =
      (state.observe sourceKey ptsNs
          (rate.gate.offer (state.creditOf sourceKey) ⟨ptsNs, force⟩).1.amount,
        (rate.gate.offer (state.creditOf sourceKey) ⟨ptsNs, force⟩).2) := by
  rcases rate.gate.offer_cases (state.creditOf sourceKey) ⟨ptsNs, force⟩ with
    ⟨fresh, same⟩ | ⟨last, isLast, later, ⟨plain, short, same⟩ | ⟨enough, same⟩⟩
  · rw [same]
    unfold admitPts
    split
    next => rfl
    next last isLast => exact if_pos (fresh last isLast)
  · have observedLast : state.lastObservedPtsNs.get sourceKey = some last := isLast
    simp only at plain later
    rw [same]
    simp only [admitPts, observedLast, if_neg (not_le.mpr later), plain, Bool.false_eq_true,
      if_false]
    exact if_pos short
  · have observedLast : state.lastObservedPtsNs.get sourceKey = some last := isLast
    simp only at later enough
    rw [same]
    simp only [admitPts, observedLast, if_neg (not_le.mpr later)]
    cases force with
    | true => rfl
    | false => exact if_neg (not_lt.mpr (enough.resolve_left Bool.false_ne_true))

theorem offer_eq_none (unrated : frame.offer = none) : frame.contentIsNone = true ∨
    frame.framePtsNs = .ok none ∨ ∃ error, frame.framePtsNs = .error error := by
  unfold VideoFrame.offer at unrated
  split at unrated
  next content => exact .inl content
  next =>
    right
    split at unrated
    next => cases unrated
    next noPts => exact .inl noPts
    next error raised => exact .inr ⟨error, raised⟩

theorem filterFrame_of_no_offer (unrated : frame.offer = none) :
    (rate.filterFrame state frame).1 = state ∧
      ∀ other, (rate.filterFrame other frame).2 = (rate.filterFrame state frame).2 := by
  rcases offer_eq_none unrated with content | noPts | ⟨error, raised⟩
  · simp [filterFrame, content]
  · simp only [filterFrame, noPts]
    split
    · exact ⟨rfl, fun _ => rfl⟩
    · split <;> exact ⟨rfl, fun _ => rfl⟩
  · simp only [filterFrame, raised]
    split <;> exact ⟨rfl, fun _ => rfl⟩

section

variable (positive : 0 < rate.minIntervalNs)

include positive

theorem filterFrame_of_offer {offered : Offer} (isOffer : frame.offer = some offered) :
    (rate.filterFrame state frame).1 =
        (rate.admitPts state frame.sourceKey offered.point offered.forced).1 ∧
      goesOn (rate.filterFrame state frame).2 =
        (rate.admitPts state frame.sourceKey offered.point offered.forced).2 := by
  rcases VideoFrame.of_offer isOffer with ⟨content, converted⟩
  have isForced : offered.forced = frame.isKeyframe := by
    simp only [VideoFrame.offer, content, converted, Bool.false_eq_true, if_false,
      Option.some.injEq] at isOffer
    rw [← isOffer]
  have limited : (!rate.enabled || decide (rate.minIntervalNs ≤ 0)) = false := by
    simp [rate.enabled_of_positive positive, positive]
  simp [filterFrame, content, limited, converted, goesOn, isForced]

theorem creditOf_filterFrame (sourceKey : Text) :
    (rate.filterFrame state frame).1.creditOf sourceKey =
      if sourceKey = frame.sourceKey then
        (frame.offer.elim (state.creditOf sourceKey) fun offered =>
          (rate.gate.offer (state.creditOf sourceKey) offered).1)
      else state.creditOf sourceKey := by
  cases isOffer : frame.offer with
  | none =>
    rw [(filterFrame_of_no_offer isOffer).1]
    simp
  | some offered =>
    rw [(filterFrame_of_offer positive isOffer).1, admitPts_eq]
    simp only [creditOf_observe, Option.elim_some]
    by_cases same : sourceKey = frame.sourceKey
    · have isLast := rate.gate.offer_last (state.creditOf sourceKey) offered
      rw [if_pos same, if_pos same, ← same]
      generalize rate.gate.offer (state.creditOf sourceKey) offered = spent at isLast ⊢
      rcases spent with ⟨⟨_, _⟩, _⟩
      simp only at isLast
      rw [isLast]
    · rw [if_neg same, if_neg same]

theorem creditOf_stateAfter (state : FilterState) (sourceKey : Text) (frames : List VideoFrame) :
    (stateAfter rate.filterFrame state frames).creditOf sourceKey =
      rate.gate.after (state.creditOf sourceKey) (observed sourceKey frames) := by
  induction frames generalizing state with
  | nil => rfl
  | cons frame rest induction =>
    have step := @creditOf_filterFrame rate state frame positive sourceKey
    have later := induction (rate.filterFrame state frame).1
    rw [step] at later
    have unfolded : stateAfter rate.filterFrame state (frame :: rest) =
        stateAfter rate.filterFrame (rate.filterFrame state frame).1 rest := rfl
    rw [unfolded, later]
    by_cases same : frame.sourceKey = sourceKey
    · cases isOffer : frame.offer with
      | none => simp [observed, same, isOffer]
      | some => simp [observed, same, isOffer, CreditGate.after]
    · simp [observed, same, Ne.symm same]

theorem ratedOutcomes_outcomes (state : FilterState) (sourceKey : Text)
    (frames : List VideoFrame) :
    ratedOutcomes sourceKey (outcomes rate.filterFrame state frames) =
      (observed sourceKey frames).zip
        (rate.gate.decisions (state.creditOf sourceKey) (observed sourceKey frames)) := by
  induction frames generalizing state with
  | nil => rfl
  | cons frame _ induction =>
    have step := @creditOf_filterFrame rate state frame positive sourceKey
    have later := induction (rate.filterFrame state frame).1
    rw [step] at later
    rw [outcomes]
    by_cases same : frame.sourceKey = sourceKey
    · cases isOffer : frame.offer with
      | none =>
        simp only [same, isOffer, if_true, Option.elim_none] at later
        simpa [ratedOutcomes, observed, same, isOffer] using later
      | some offered =>
        have decided : goesOn (rate.filterFrame state frame).2 =
            (rate.gate.offer (state.creditOf sourceKey) offered).2 := by
          rw [(filterFrame_of_offer positive isOffer).2, admitPts_eq, same]
        simp only [same, isOffer, if_true, Option.elim_some] at later
        simp only [ratedOutcomes, observed] at later ⊢
        simp [same, isOffer, decided, CreditGate.decisions, later]
    · simp only [if_neg (Ne.symm same)] at later
      simpa [ratedOutcomes, observed, same] using later

theorem filterFrame_congr {other : FilterState}
    (same : state.creditOf frame.sourceKey = other.creditOf frame.sourceKey) :
    goesOn (rate.filterFrame state frame).2 = goesOn (rate.filterFrame other frame).2 := by
  cases isOffer : frame.offer with
  | none => rw [(filterFrame_of_no_offer isOffer).2 other]
  | some =>
    rw [(filterFrame_of_offer positive isOffer).2, (filterFrame_of_offer positive isOffer).2,
      admitPts_eq, admitPts_eq, same]

theorem outcomes_filter (sourceKey : Text) (frames : List VideoFrame) {other : FilterState}
    (same : state.creditOf sourceKey = other.creditOf sourceKey) :
    (outcomes rate.filterFrame state frames).filter
        (fun outcome => outcome.1.sourceKey = sourceKey) =
      outcomes rate.filterFrame other
        (frames.filter fun frame => frame.sourceKey = sourceKey) := by
  induction frames generalizing state other with
  | nil => rfl
  | cons frame _ induction =>
    have step := @creditOf_filterFrame rate state frame positive sourceKey
    by_cases own : frame.sourceKey = sourceKey
    · have otherStep :=
        @creditOf_filterFrame rate other frame positive sourceKey
      rw [same, ← otherStep] at step
      have later := induction step
      have decided : goesOn (rate.filterFrame state frame).2 =
          goesOn (rate.filterFrame other frame).2 := by
        apply filterFrame_congr positive
        rw [own, same]
      simp [outcomes, own, decided, later]
    · rw [if_neg (Ne.symm own), same] at step
      have later := induction step
      simp [outcomes, own, later]

end

end FrameRate

/-- The frames of a source that are neither keyframes nor start a new rate domain are not
admitted faster than the rate allows; a steady stretch loses at most one interval; and
no source depends on the others. -/
theorem sampler_keeps_rate (rate : FrameRate) (positive : 0 < rate.minIntervalNs) :
    (∀ sourceKey frames,
      (CreditGate.paced none
          (ratedOutcomes sourceKey (outcomes (AnalysisFrameSampler.admitFrame rate) {} frames)) : ℚ) ≤
        (rate.minIntervalNs + CreditGate.advance none (observed sourceKey frames) : ℚ) /
          (rate.minIntervalNs - rate.ptsQuantizationSlackNs)) ∧
    (∀ sourceKey before last stretch, (observed sourceKey before).getLast? = some last →
      rate.gate.Steady last.point (observed sourceKey stretch) →
        (CreditGate.advance (some last.point) (observed sourceKey stretch) : ℚ) /
            rate.minIntervalNs - 1 ≤
          (ratedOutcomes sourceKey (outcomes (AnalysisFrameSampler.admitFrame rate)
            (stateAfter (AnalysisFrameSampler.admitFrame rate) {} before) stretch)).countP Prod.snd) ∧
    ∀ sourceKey frames,
      (outcomes (AnalysisFrameSampler.admitFrame rate) {} frames).filter
          (fun outcome => outcome.1.sourceKey = sourceKey) =
        outcomes (AnalysisFrameSampler.admitFrame rate) {}
          (frames.filter fun frame => frame.sourceKey = sourceKey) := by
  have sound := rate.gate_sound positive
  have isAdmit : AnalysisFrameSampler.admitFrame rate = rate.filterFrame := rfl
  have slack_lt : rate.ptsQuantizationSlackNs < rate.minIntervalNs := sound.slack_lt
  rw [isAdmit]
  refine ⟨?_, ?_, fun sourceKey frames => FrameRate.outcomes_filter positive sourceKey frames rfl⟩
  · intro sourceKey frames
    have bound := sound.paced_le (observed sourceKey frames)
    have below : (0 : ℚ) < rate.minIntervalNs - rate.ptsQuantizationSlackNs := by
      exact_mod_cast Int.sub_pos.mpr slack_lt
    rw [FrameRate.ratedOutcomes_outcomes positive, le_div_iff₀ below]
    exact_mod_cast bound
  · intro sourceKey before last stretch isLast steady
    have started : ((stateAfter rate.filterFrame {} before).creditOf sourceKey).last =
        some last.point := by
      rw [FrameRate.creditOf_stateAfter positive]
      exact rate.gate.after_last isLast
    have kept : rate.gate.Kept ((stateAfter rate.filterFrame {} before).creditOf sourceKey) := by
      rw [FrameRate.creditOf_stateAfter positive]
      exact sound.kept_after sound.kept_empty _
    have bound := sound.steady_count kept started steady
    have interval : (0 : ℚ) < rate.minIntervalNs := by exact_mod_cast positive
    rw [FrameRate.ratedOutcomes_outcomes positive]
    rw [CreditGate.countP_zip_decisions, sub_le_iff_le_add, div_le_iff₀ interval, add_mul,
      one_mul, ← sub_le_iff_le_add]
    exact_mod_cast bound

def eightFps : FrameRate :=
  { enabled := true, minIntervalNs := 125000000, unlimited := fun disabled => by cases disabled }

def frameAt (milliseconds : Int) : VideoFrame :=
  { sourceId := text "camera-a", pts := some (milliseconds * 1000000) }

/-- Four frames of a camera with 25 frames a second and what is admitted of them. -/
theorem sampler_keeps_eight_fps :
    FrameRate.create true (.finite false 8) = .ok eightFps ∧
      ratedOutcomes (text "camera-a")
          (outcomes (AnalysisFrameSampler.admitFrame eightFps) {} ([0, 40, 80, 125].map frameAt)) =
        [(⟨0, false⟩, true), (⟨40000000, false⟩, false), (⟨80000000, false⟩, false),
          (⟨125000000, false⟩, true)] ∧
      (CreditGate.paced none (ratedOutcomes (text "camera-a")
          (outcomes (AnalysisFrameSampler.admitFrame eightFps) {}
            ([0, 40, 80, 125].map frameAt))) : ℚ) ≤
        (eightFps.minIntervalNs +
            CreditGate.advance none (observed (text "camera-a") ([0, 40, 80, 125].map frameAt)) :
              ℚ) / (eightFps.minIntervalNs - eightFps.ptsQuantizationSlackNs) := by
  have positive : 0 < eightFps.minIntervalNs := by decide
  refine ⟨by decide +kernel, by decide +kernel, ?_⟩
  exact (sampler_keeps_rate eightFps positive).1 (text "camera-a") _

end VideoAnalysis.Forwarder
