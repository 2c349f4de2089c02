import VideoAnalysis.Foundation.Fallible
import VideoAnalysis.Python.FloatArithmetic

/-! # Times of a clip

A distance in PTS, which counts nanoseconds, as milliseconds and as seconds.
-/

namespace VideoAnalysis.Timeline

open Foundation Python

def nanosPerSecond : Double := .finite false 1000000000

def nanosPerMilli : Double := .finite false 1000000

def ptsTimeBaseSeconds : Double := Double.div (.finite false 1) nanosPerSecond

/-- `int(round(elapsed / 1_000_000.0))`. -/
def clipMillis (elapsed : Int) : Except PyError Int := do
  let nanos ← Double.ofInt elapsed
  (Double.div nanos nanosPerMilli).round

/-- `round(elapsed * PTS_TIME_BASE_SECONDS, 9)`. -/
def clipSeconds (elapsed : Int) : Except PyError Double := do
  let nanos ← Double.ofInt elapsed
  return (Double.mul nanos ptsTimeBaseSeconds).roundTo 9

/-! ## Milliseconds -/

def millis (elapsed : Int) : Int :=
  Double.roundHalfEven (Double.signed (elapsed < 0)
    (Double.rounded (Double.rounded |(elapsed : ℚ)| / 1000000)))

variable {elapsed : Int}

theorem clipMillis_of_inRange (inRange : Double.InRange elapsed) :
    clipMillis elapsed = .ok (millis elapsed) := by
  have nonneg : 0 ≤ Double.rounded |(elapsed : ℚ)| / 1000000 :=
    div_nonneg (Double.rounded_nonneg (abs_nonneg _)) (by norm_num)
  have small : Double.rounded |(elapsed : ℚ)| / 1000000 ≤ 2 ^ 1023 := by
    rw [div_le_iff₀ (by norm_num)]
    apply inRange.le.trans
    have half : (2 : ℚ) ^ 1024 = 2 ^ 1023 * 2 := pow_succ 2 1023
    rw [half]
    exact mul_le_mul_of_nonneg_left (by norm_num) (by positivity)
  simp only [clipMillis, bind, Except.bind, Double.ofInt_of_inRange inRange, nanosPerMilli,
    Double.div_eq nonneg small]
  rfl

theorem clipMillis_returns_iff :
    Returns (clipMillis elapsed) ↔ Double.InRange elapsed := by
  constructor
  · rintro ⟨milliseconds, ran⟩
    by_contra outside
    rw [clipMillis, Double.ofInt_of_not_inRange outside] at ran
    cases ran
  · intro inRange
    exact ⟨_, clipMillis_of_inRange inRange⟩

theorem clipSeconds_returns_iff :
    Returns (clipSeconds elapsed) ↔ Double.InRange elapsed := by
  constructor
  · rintro ⟨seconds, ran⟩
    by_contra outside
    rw [clipSeconds, Double.ofInt_of_not_inRange outside] at ran
    cases ran
  · intro inRange
    rw [clipSeconds, Double.ofInt_of_inRange inRange]
    exact ⟨_, rfl⟩

theorem millis_mono {first second : Int} (le : first ≤ second) : millis first ≤ millis second := by
  have scale {low high : ℚ} (nonneg : 0 ≤ low) (le : low ≤ high) :
      Double.rounded (Double.rounded low / 1000000) ≤
        Double.rounded (Double.rounded high / 1000000) :=
    Double.rounded_mono (div_nonneg (Double.rounded_nonneg nonneg) (by norm_num))
      (div_le_div_of_nonneg_right (Double.rounded_mono nonneg le) (by norm_num))
  have scaleNonneg (number : ℚ) : 0 ≤ Double.rounded (Double.rounded |number| / 1000000) :=
    Double.rounded_nonneg (div_nonneg (Double.rounded_nonneg (abs_nonneg _)) (by norm_num))
  apply Double.roundHalfEven_mono
  have cast : (first : ℚ) ≤ second := by exact_mod_cast le
  by_cases firstNegative : first < 0
  · have firstCast : (first : ℚ) < 0 := by exact_mod_cast firstNegative
    by_cases secondNegative : second < 0
    · have secondCast : (second : ℚ) < 0 := by exact_mod_cast secondNegative
      simp only [Double.signed, firstNegative, secondNegative, decide_true, if_true,
        abs_of_neg firstCast, abs_of_neg secondCast, neg_le_neg_iff]
      exact scale (by linarith) (by linarith)
    · simp only [Double.signed, firstNegative, secondNegative, decide_true, decide_false,
        if_true, Bool.false_eq_true, if_false]
      exact (neg_nonpos.mpr (scaleNonneg _)).trans (scaleNonneg _)
  · have secondNonneg : ¬second < 0 := by omega
    have firstCast : (0 : ℚ) ≤ first := by exact_mod_cast not_lt.mp firstNegative
    simp only [Double.signed, firstNegative, secondNonneg, decide_false, Bool.false_eq_true,
      if_false, abs_of_nonneg firstCast, abs_of_nonneg (firstCast.trans cast)]
    exact scale firstCast cast

theorem millis_nonneg_iff : 0 ≤ millis elapsed ↔ -500000 ≤ elapsed := by
  constructor
  · intro nonneg
    by_contra before
    have less : millis elapsed ≤ millis (-500001) := millis_mono (by omega)
    have atBound : millis (-500001) = -1 := by decide +kernel
    omega
  · intro notBefore
    have atBound : millis (-500000) = 0 := by decide +kernel
    exact atBound.ge.trans (millis_mono notBefore)

end VideoAnalysis.Timeline
