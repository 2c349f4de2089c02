import VideoAnalysis.Foundation.CreditCascade
import VideoAnalysis.Forwarder.FrameSampler

/-! # The gate behind the sampler

The analysis has a gate of its own that rates the frames which the sampler lets through
once more. It prints its counts and decides as the sampler does.
-/

namespace VideoAnalysis.Forwarder

open Foundation Python
open AnalysisFrameSampler (admitFrame)

structure PtsFpsGate where
  filter : FilterState := {}
  framesSeen : Dict Text Nat := ∅
  framesAccepted : Dict Text Nat := ∅

namespace PtsFpsGate

def count (counts : Dict Text Nat) (sourceKey : Text) : Dict Text Nat :=
  counts.set sourceKey ((counts.get sourceKey).getD 0 + 1)

/-- `__call__`. -/
def call (rate : FrameRate) (gate : PtsFpsGate) (frame : VideoFrame) :
    PtsFpsGate × Except PyError Bool :=
  let filtered := rate.filterFrame gate.filter frame
  ({ filter := filtered.1
     framesSeen := count gate.framesSeen frame.sourceKey
     framesAccepted :=
       if goesOn filtered.2 then count gate.framesAccepted frame.sourceKey
       else gate.framesAccepted },
    filtered.2)

theorem outcomes_call (rate : FrameRate) (gate : PtsFpsGate) (frames : List VideoFrame) :
    outcomes (call rate) gate frames = outcomes rate.filterFrame gate.filter frames := by
  induction frames generalizing gate with
  | nil => rfl
  | cons _ _ induction =>
    rw [outcomes, outcomes, induction]
    rfl

end PtsFpsGate

/-! ## Which frames pass -/

section Run

variable {State : Type} {filter : State → VideoFrame → State × Except PyError Bool}

theorem map_fst_outcomes (state : State) (frames : List VideoFrame) :
    (outcomes filter state frames).map Prod.fst = frames := by
  induction frames generalizing state with
  | nil => rfl
  | cons _ _ induction => rw [outcomes, List.map_cons, induction]

theorem delivered_eq_self_iff {state : State} {frames : List VideoFrame} :
    delivered filter state frames = frames ↔
      ∀ outcome ∈ outcomes filter state frames, outcome.2 = true := by
  constructor
  · intro same
    have length := congrArg List.length same
    rw [delivered, List.length_map] at length
    have whole : (outcomes filter state frames).length = frames.length := by
      rw [← List.length_map (f := Prod.fst), map_fst_outcomes]
    exact List.length_filter_eq_length_iff.mp (length.trans whole.symm)
  · intro all
    rw [delivered, List.filter_eq_self.mpr all, map_fst_outcomes]

theorem outcome_spec {state : State} {frames : List VideoFrame} {outcome : VideoFrame × Bool}
    (member : outcome ∈ outcomes filter state frames) :
    outcome.1 ∈ frames ∧ ∃ reached, outcome.2 = goesOn (filter reached outcome.1).2 := by
  induction frames generalizing state with
  | nil => cases member
  | cons _ _ induction =>
    rw [outcomes, List.mem_cons] at member
    rcases member with rfl | inRest
    · exact ⟨List.mem_cons_self, state, rfl⟩
    · rcases induction inRest with ⟨isFrame, reached⟩
      exact ⟨List.mem_cons_of_mem _ isFrame, reached⟩

end Run

section Rated

variable {rate : FrameRate} {state : FilterState}

/-- A frame with content whose PTS can be converted. -/
structure VideoFrame.Readable (frame : VideoFrame) : Prop where
  content : frame.contentIsNone = false
  converts : ∃ ptsNs, frame.framePtsNs = .ok ptsNs

variable {frame : VideoFrame}

theorem readable_of_goesOn
    (passes : goesOn (rate.filterFrame state frame).2 = true) : frame.Readable := by
  rw [goesOn, decide_eq_true_eq, FrameRate.filterFrame] at passes
  split at passes
  next => cases passes
  next content =>
    refine ⟨Bool.eq_false_iff.mpr content, ?_⟩
    cases converted : frame.framePtsNs with
    | error =>
      rw [converted] at passes
      cases passes
    | ok ptsNs => exact ⟨ptsNs, rfl⟩

theorem readable_of_delivered (state : FilterState) (frames : List VideoFrame) :
    ∀ frame ∈ delivered rate.filterFrame state frames, frame.Readable := by
  intro frame member
  rcases List.mem_map.mp member with ⟨_, passed, rfl⟩
  rcases List.mem_filter.mp passed with ⟨inOutcomes, passes⟩
  rcases outcome_spec inOutcomes with ⟨_, _, decided⟩
  exact readable_of_goesOn (decided.symm.trans passes)

theorem passes_of_unrated (readable : frame.Readable)
    (unrated : frame.offer = none) : goesOn (rate.filterFrame state frame).2 = true := by
  rcases FrameRate.offer_eq_none unrated with content | noPts | ⟨error, raised⟩
  · rw [readable.content] at content
    cases content
  · simp [FrameRate.filterFrame, readable.content, noPts, goesOn]
  · rcases readable.converts with ⟨_, converted⟩
    rw [raised] at converted
    cases converted

theorem observed_delivered (positive : 0 < rate.minIntervalNs) (state : FilterState)
    (sourceKey : Text) (frames : List VideoFrame) :
    observed sourceKey (delivered rate.filterFrame state frames) =
      rate.gate.admitted (state.creditOf sourceKey) (observed sourceKey frames) := by
  induction frames generalizing state with
  | nil => rfl
  | cons frame _ induction =>
    have step := @FrameRate.creditOf_filterFrame rate state frame positive sourceKey
    have later := induction (rate.filterFrame state frame).1
    rw [step] at later
    simp only [delivered, outcomes, List.filter_cons] at later ⊢
    by_cases own : frame.sourceKey = sourceKey
    · cases isOffer : frame.offer with
      | none =>
        simp only [own, isOffer, if_true, Option.elim_none] at later
        split
        all_goals simpa [observed, own, isOffer] using later
      | some offered =>
        have decided : goesOn (rate.filterFrame state frame).2 =
            (rate.gate.offer (state.creditOf sourceKey) offered).2 := by
          rw [(FrameRate.filterFrame_of_offer positive isOffer).2, FrameRate.admitPts_eq, own]
        simp only [own, isOffer, if_true, Option.elim_some] at later
        simp only [observed] at later ⊢
        cases passes : (rate.gate.offer (state.creditOf sourceKey) offered).2 with
        | false | true => simp [own, isOffer, decided, passes, CreditGate.admitted, later]
    · simp only [if_neg (Ne.symm own)] at later
      split
      all_goals simpa [observed, own] using later

theorem all_pass_iff {frames : List VideoFrame} (readable : ∀ frame ∈ frames, frame.Readable) :
    (∀ outcome ∈ outcomes rate.filterFrame state frames, outcome.2 = true) ↔
      ∀ sourceKey, ∀ outcome ∈ ratedOutcomes sourceKey (outcomes rate.filterFrame state frames),
        outcome.2 = true := by
  constructor
  · intro all sourceKey rated member
    rcases List.mem_filterMap.mp member with ⟨outcome, inOutcomes, isRated⟩
    rcases Option.map_eq_some_iff.mp isRated with ⟨_, _, rfl⟩
    exact all outcome (List.mem_of_mem_filter inOutcomes)
  · intro rated outcome member
    rcases outcome_spec member with ⟨isFrame, _, decided⟩
    cases isOffer : outcome.1.offer with
    | none =>
      rw [decided]
      exact passes_of_unrated (readable outcome.1 isFrame) isOffer
    | some offered =>
      apply rated outcome.1.sourceKey (offered, outcome.2)
      apply List.mem_filterMap.mpr
      refine ⟨outcome, List.mem_filter.mpr ⟨member, by simp⟩, ?_⟩
      rw [isOffer, Option.map_some]

theorem passes_of_unlimited (unlimited : rate.minIntervalNs ≤ 0)
    (readable : frame.Readable) : goesOn (rate.filterFrame state frame).2 = true := by
  rcases readable.converts with ⟨_, converted⟩
  simp [FrameRate.filterFrame, readable.content, converted, unlimited, goesOn]

theorem rated_of_unlimited (unlimited : rate.minIntervalNs ≤ 0) (sourceKey : Text)
    (frames : List VideoFrame) :
    ∀ outcome ∈ ratedOutcomes sourceKey (outcomes rate.filterFrame state frames),
      outcome.2 = true := by
  intro rated member
  rcases List.mem_filterMap.mp member with ⟨_, inOutcomes, isRated⟩
  rcases Option.map_eq_some_iff.mp isRated with ⟨_, isOffer, rfl⟩
  rcases outcome_spec (List.mem_of_mem_filter inOutcomes) with ⟨_, _, decided⟩
  rw [decided]
  apply passes_of_unlimited unlimited
  rcases VideoFrame.of_offer isOffer with ⟨content, converted⟩
  exact ⟨content, _, converted⟩

end Rated

/-! ## PTS that do not step back -/

theorem signed_mono {size : ℚ → ℚ} (nonneg : ∀ number, 0 ≤ number → 0 ≤ size number)
    (mono : ∀ first second, 0 ≤ first → first ≤ second → size first ≤ size second)
    {first second : Int} (le : first ≤ second) :
    Double.signed (first < 0) (size |(first : ℚ)|) ≤
      Double.signed (second < 0) (size |(second : ℚ)|) := by
  have ordered : (first : ℚ) ≤ second := by exact_mod_cast le
  have atFirst := nonneg _ (abs_nonneg (first : ℚ))
  have atSecond := nonneg _ (abs_nonneg (second : ℚ))
  simp only [Double.signed, decide_eq_true_eq]
  by_cases firstNegative : first < 0
  · have belowZero : (first : ℚ) < 0 := by exact_mod_cast firstNegative
    rw [if_pos firstNegative]
    by_cases secondNegative : second < 0
    · have alsoBelow : (second : ℚ) < 0 := by exact_mod_cast secondNegative
      rw [if_pos secondNegative]
      apply neg_le_neg
      apply mono _ _ (abs_nonneg _)
      rw [abs_of_neg belowZero, abs_of_neg alsoBelow]
      exact neg_le_neg ordered
    · rw [if_neg secondNegative]
      linarith
  · have notBelow : (0 : ℚ) ≤ first := by exact_mod_cast not_lt.mp firstNegative
    rw [if_neg firstNegative, if_neg (by omega)]
    apply mono _ _ (abs_nonneg _)
    rw [abs_of_nonneg notBelow, abs_of_nonneg (notBelow.trans ordered)]
    exact ordered

def scaledSize (scale number : ℚ) : ℚ :=
  Double.rounded (Double.rounded (Double.rounded number * scale) * 1000000000)

variable {scale : ℚ}

theorem scaledSize_nonneg (nonneg : 0 ≤ scale) {number : ℚ} (positive : 0 ≤ number) :
    0 ≤ scaledSize scale number := by
  apply Double.rounded_nonneg
  apply mul_nonneg _ (by norm_num)
  apply Double.rounded_nonneg
  exact mul_nonneg (Double.rounded_nonneg positive) nonneg

theorem scaledSize_mono (nonneg : 0 ≤ scale) {first second : ℚ} (positive : 0 ≤ first)
    (le : first ≤ second) : scaledSize scale first ≤ scaledSize scale second := by
  have products : 0 ≤ Double.rounded first * scale :=
    mul_nonneg (Double.rounded_nonneg positive) nonneg
  apply Double.rounded_mono (mul_nonneg (Double.rounded_nonneg products) (by norm_num))
  apply mul_le_mul_of_nonneg_right _ (by norm_num)
  apply Double.rounded_mono products
  exact mul_le_mul_of_nonneg_right (Double.rounded_mono positive le) nonneg

theorem mul_eq_finite {negative : Bool} {magnitude size : ℚ} (magnitudeNonneg : 0 ≤ magnitude)
    (sizeNonneg : 0 ≤ size) :
    (Double.finite negative magnitude).mul (.finite false size) = .infinite negative ∨
      (Double.finite negative magnitude).mul (.finite false size) =
        .finite negative (Double.rounded (magnitude * size)) := by
  have sign : (negative != false) = negative := by cases negative <;> rfl
  simp only [Double.mul, sign, Double.nearest_eq (mul_nonneg magnitudeNonneg sizeNonneg)]
  split
  · exact .inl rfl
  · exact .inr rfl

theorem converted_eq {pts ptsNs : Int} (nonneg : 0 ≤ scale) {seconds : Double}
    (isSeconds : Double.ofInt pts = .ok seconds)
    (converted : ((seconds.mul (.finite false scale)).mul nanosPerSecond).round = .ok ptsNs) :
    ptsNs = Double.roundHalfEven
      (Double.signed (pts < 0) (scaledSize scale |(pts : ℚ)|)) := by
  have inRange : Double.InRange pts := by
    by_contra outside
    rw [Double.ofInt_of_not_inRange outside] at isSeconds
    cases isSeconds
  rw [Double.ofInt_of_inRange inRange] at isSeconds
  cases isSeconds
  have size := Double.rounded_nonneg (abs_nonneg (pts : ℚ))
  rcases @mul_eq_finite (pts < 0) _ _ size nonneg with large | product
  · rw [large] at converted
    cases converted
  · rw [product] at converted
    have productSize := Double.rounded_nonneg (mul_nonneg size nonneg)
    rcases @mul_eq_finite (pts < 0) _ 1000000000 productSize (by norm_num) with large | isFinite
    · rw [nanosPerSecond, large] at converted
      cases converted
    · rw [nanosPerSecond, isFinite] at converted
      cases converted
      rfl

theorem timeBase_finite {frame : VideoFrame}
    (nonneg : ∀ fraction, frame.timeBase = some fraction → 0 ≤ fraction) {scale : Double}
    (scaled : frame.timeBaseToSeconds = some scale) :
    ∃ size, 0 ≤ size ∧ scale = .finite false size := by
  rw [VideoFrame.timeBaseToSeconds, Option.bind_eq_some_iff] at scaled
  rcases scaled with ⟨fraction, isFraction, found⟩
  have plain : decide (fraction < 0) = false :=
    decide_eq_false (not_lt.mpr (nonneg fraction isFraction))
  simp only [Double.ofRat, plain, Double.nearest_eq (abs_nonneg fraction)] at found
  by_cases large : (2 : ℚ) ^ 1024 ≤ Double.rounded |fraction|
  · rw [if_pos large] at found
    cases found
  · rw [if_neg large] at found
    exact ⟨_, Double.rounded_nonneg (abs_nonneg fraction), (Option.some.inj found).symm⟩

theorem framePtsNs_mono {first second : VideoFrame} (sameBase : second.timeBase = first.timeBase)
    (nonneg : ∀ fraction, first.timeBase = some fraction → 0 ≤ fraction)
    (forward : ∀ pts later, first.pts = some pts → second.pts = some later → pts ≤ later)
    {ptsNs laterNs : Int} (converted : first.framePtsNs = .ok (some ptsNs))
    (laterConverted : second.framePtsNs = .ok (some laterNs)) : ptsNs ≤ laterNs := by
  have sameScale : second.timeBaseToSeconds = first.timeBaseToSeconds := by
    rw [VideoFrame.timeBaseToSeconds, VideoFrame.timeBaseToSeconds, sameBase]
  rw [VideoFrame.framePtsNs, sameScale] at laterConverted
  rw [VideoFrame.framePtsNs] at converted
  cases isPts : first.pts with
  | none =>
    rw [isPts] at converted
    cases converted
  | some pts =>
    cases isLater : second.pts with
    | none =>
      rw [isLater] at laterConverted
      cases laterConverted
    | some later =>
      have le := forward pts later isPts isLater
      rw [isPts] at converted
      rw [isLater] at laterConverted
      cases scaled : first.timeBaseToSeconds with
      | none =>
        rw [scaled] at converted laterConverted
        cases converted
        cases laterConverted
        exact le
      | some =>
        rw [scaled] at converted laterConverted
        rcases ok_of_bind converted with ⟨_, isSeconds, rest⟩
        rcases ok_of_bind rest with ⟨_, isWhole, same⟩
        cases same
        rcases ok_of_bind laterConverted with ⟨_, isLaterSeconds, laterRest⟩
        rcases ok_of_bind laterRest with ⟨_, isLaterWhole, laterSame⟩
        cases laterSame
        rcases timeBase_finite nonneg scaled with ⟨_, sizeNonneg, rfl⟩
        rw [converted_eq sizeNonneg isSeconds isWhole,
          converted_eq sizeNonneg isLaterSeconds isLaterWhole]
        exact Double.roundHalfEven_mono (signed_mono (fun _ => scaledSize_nonneg sizeNonneg)
          (fun _ _ => scaledSize_mono sizeNonneg) le)

theorem observed_forward {frames : List VideoFrame} {sourceKey : Text}
    (oneBase : frames.Pairwise fun first second => first.sourceKey = second.sourceKey →
      second.timeBase = first.timeBase)
    (nonneg : ∀ frame ∈ frames, ∀ fraction, frame.timeBase = some fraction → 0 ≤ fraction)
    (forward : frames.Pairwise fun first second => first.sourceKey = second.sourceKey →
      ∀ pts later, first.pts = some pts → second.pts = some later → pts ≤ later) :
    ((observed sourceKey frames).map Offer.point).Pairwise (· ≤ ·) := by
  rw [List.pairwise_map, observed, List.pairwise_filterMap, List.pairwise_filter]
  refine (oneBase.and forward).imp_of_mem ?_
  intro first second isFirst _ both firstKey secondKey offered isOffered later isLater
  rw [decide_eq_true_eq] at firstKey secondKey
  have sameKey := firstKey.trans secondKey.symm
  exact framePtsNs_mono (both.1 sameKey) (nonneg first isFirst) (both.2 sameKey)
    (VideoFrame.of_offer isOffered).2 (VideoFrame.of_offer isLater).2

/-! ## Both stages -/

/-- The gate behind the sampler delivers everything again exactly if, of no source whose
converted PTS never steps back, a plain frame repeats the PTS of the frame before it that the
sampler dropped. -/
theorem gate_delivers_again_iff (rate : FrameRate) (frames : List VideoFrame)
    (forward : ∀ sourceKey, ((observed sourceKey frames).map Offer.point).Pairwise (· ≤ ·)) :
    delivered (PtsFpsGate.call rate) {}
        (delivered (admitFrame rate) {} frames) =
          delivered (admitFrame rate) {} frames ↔
      ∀ sourceKey, ¬CreditGate.RepeatsRefused
        (ratedOutcomes sourceKey (outcomes (admitFrame rate) {} frames)) := by
  have isAdmit : admitFrame rate = rate.filterFrame := rfl
  have again : ∀ others, delivered (PtsFpsGate.call rate) {} others =
      delivered rate.filterFrame {} others := by
    intro others
    rw [delivered, PtsFpsGate.outcomes_call, delivered]
  rw [isAdmit, again, delivered_eq_self_iff, all_pass_iff (readable_of_delivered {} frames)]
  by_cases positive : 0 < rate.minIntervalNs
  · apply forall_congr'
    intro sourceKey
    rw [FrameRate.ratedOutcomes_outcomes positive, FrameRate.ratedOutcomes_outcomes positive,
      observed_delivered positive]
    exact CreditGate.admitsAgain_iff_zip.symm.trans
      ((rate.gate_sound positive).admitsAgain_iff (forward sourceKey))
  · rw [not_lt] at positive
    constructor
    · intro _ sourceKey
      exact CreditGate.not_repeatsRefused (rated_of_unlimited positive sourceKey frames)
    · intro _ sourceKey
      exact rated_of_unlimited positive sourceKey _

theorem frameAt_forward {milliseconds : List Int} (sorted : milliseconds.Pairwise (· ≤ ·))
    (sourceKey : Text) :
    ((observed sourceKey (milliseconds.map frameAt)).map Offer.point).Pairwise (· ≤ ·) := by
  apply observed_forward
  · exact List.pairwise_map.mpr (sorted.imp fun _ _ => rfl)
  · intro frame member fraction isFraction
    rcases List.mem_map.mp member with ⟨_, _, rfl⟩
    cases isFraction
  · refine List.pairwise_map.mpr (sorted.imp ?_)
    intro earlier later before _ pts laterPts isPts isLater
    cases isPts
    cases isLater
    omega

theorem thinned_delivered_again :
    delivered (admitFrame eightFps) {} ([0, 60, 125].map frameAt) =
        [0, 125].map frameAt ∧
      ∀ sourceKey, ¬CreditGate.RepeatsRefused (ratedOutcomes sourceKey
        (outcomes (admitFrame eightFps) {} ([0, 60, 125].map frameAt))) := by
  refine ⟨by decide +kernel, ?_⟩
  have again : delivered (PtsFpsGate.call eightFps) {}
      (delivered (admitFrame eightFps) {} ([0, 60, 125].map frameAt)) =
        delivered (admitFrame eightFps) {} ([0, 60, 125].map frameAt) := by
    decide +kernel
  exact (gate_delivers_again_iff eightFps _ (frameAt_forward (by decide))).mp again

/-- A source whose PTS stands still. -/
theorem repeated_pts_dropped :
    ¬∀ frames : List VideoFrame,
      (∀ sourceKey, ((observed sourceKey frames).map Offer.point).Pairwise (· ≤ ·)) →
        delivered (PtsFpsGate.call eightFps) {}
            (delivered (admitFrame eightFps) {} frames) =
          delivered (admitFrame eightFps) {} frames := by
  intro all
  have dropped : delivered (PtsFpsGate.call eightFps) {}
      (delivered (admitFrame eightFps) {} ([0, 60, 60].map frameAt)) ≠
        delivered (admitFrame eightFps) {} ([0, 60, 60].map frameAt) := by
    decide +kernel
  exact dropped (all _ (frameAt_forward (by decide)))

end VideoAnalysis.Forwarder
