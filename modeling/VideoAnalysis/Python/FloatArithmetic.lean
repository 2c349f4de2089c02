import VideoAnalysis.Python.Number
import Mathlib.Algebra.Order.Field.Power
import Mathlib.Data.Int.Log
import Mathlib.Tactic.Positivity

/-! # Arithmetic on doubles

Each operation is the exact one, rounded to the nearest double. Rounding keeps the order
of numbers.
-/

namespace VideoAnalysis.Python

namespace Double

def signed (negative : Bool) (magnitude : ℚ) : ℚ := if negative then -magnitude else magnitude

def ofRat (number : ℚ) : Double := nearest (number < 0) |number|

def neg : Double → Double
  | finite negative magnitude => finite (!negative) magnitude
  | infinite negative => infinite (!negative)
  | nan => nan

/-- Only two negative numbers add up to a negative zero. -/
def add : Double → Double → Double
  | nan, _ | _, nan => nan
  | infinite negative, infinite other => if negative = other then infinite negative else nan
  | infinite negative, finite _ _ | finite _ _, infinite negative => infinite negative
  | finite negative magnitude, finite other size =>
    if negative = other then nearest negative (magnitude + size)
    else ofRat (signed negative magnitude + signed other size)

def sub (first second : Double) : Double := add first (neg second)

def mul : Double → Double → Double
  | nan, _ | _, nan => nan
  | infinite negative, infinite other => infinite (negative != other)
  | infinite negative, finite other size | finite other size, infinite negative =>
    if size = 0 then nan else infinite (negative != other)
  | finite negative magnitude, finite other size =>
    nearest (negative != other) (magnitude * size)

/-- A quotient by what is not zero. -/
def div : Double → Double → Double
  | nan, _ | _, nan | infinite _, infinite _ => nan
  | infinite negative, finite other _ => infinite (negative != other)
  | finite negative _, infinite other => finite (negative != other) 0
  | finite negative magnitude, finite other size =>
    nearest (negative != other) (magnitude / size)

/-- The square root of a number to 1200 binary places, and half a place more where it is not
exact, which lies on the same side of every double. -/
def rootOf (number : ℚ) : ℚ :=
  let scaled := number * 2 ^ 2400
  let root := scaled.floor.toNat.sqrt
  if ((root * root : ℕ) : ℚ) = scaled then root / 2 ^ 1200 else (root + 1 / 2) / 2 ^ 1200

/-- `math.sqrt` of what is not negative. -/
def sqrt : Double → Double
  | finite _ magnitude => nearest false (rootOf magnitude)
  | infinite negative => infinite negative
  | nan => nan

/-- `double <= 0`. -/
def notPositive : Double → Bool
  | finite negative magnitude => negative || magnitude = 0
  | infinite negative => negative
  | nan => false

/-- `first < second`; nothing is less than a NaN, and a NaN is less than nothing. -/
def lessThan : Double → Double → Bool
  | nan, _ | _, nan => false
  | infinite negative, infinite other => negative && !other
  | infinite negative, finite _ _ => negative
  | finite _ _, infinite other => !other
  | finite negative magnitude, finite other size =>
    signed negative magnitude < signed other size

/-- `round(double)`. -/
def round : Double → Except PyError Int
  | finite negative magnitude => .ok (roundHalfEven (signed negative magnitude))
  | infinite _ => .error .overflowError
  | nan => .error .valueError

/-- `round(double, digits)`. -/
def roundTo (digits : Nat) : Double → Double
  | finite negative magnitude =>
    nearest negative (roundHalfEven (magnitude * 10 ^ digits) / 10 ^ digits)
  | infinite negative => infinite negative
  | nan => nan

/-! ## Rounding to whole numbers -/

theorem roundHalfEven_cases (number : ℚ) :
    roundHalfEven number = ⌊number⌋ ∧ number ≤ ⌊number⌋ + 1 / 2 ∨
      roundHalfEven number = ⌊number⌋ + 1 ∧ ⌊number⌋ + 1 / 2 ≤ number := by
  have isFloor : number.floor = ⌊number⌋ := rfl
  simp only [roundHalfEven, isFloor]
  split
  next low => exact .inl ⟨rfl, by linarith⟩
  next notLow =>
    split
    next high => exact .inr ⟨rfl, by linarith⟩
    next notHigh =>
      have half : number = ⌊number⌋ + 1 / 2 := by linarith
      split
      next even => exact .inl ⟨rfl, half.le⟩
      next odd => exact .inr ⟨rfl, half.ge⟩

theorem roundHalfEven_intCast (number : Int) : roundHalfEven (number : ℚ) = number := by
  rcases roundHalfEven_cases (number : ℚ) with ⟨isFloor, _⟩ | ⟨_, above⟩
  · rw [isFloor, Int.floor_intCast]
  · rw [Int.floor_intCast] at above
    linarith

variable {first second : ℚ}

theorem roundHalfEven_mono (le : first ≤ second) :
    roundHalfEven first ≤ roundHalfEven second := by
  have floors := Int.floor_le_floor le
  rcases floors.lt_or_eq with less | same
  · rcases roundHalfEven_cases first with ⟨isFirst, _⟩ | ⟨isFirst, _⟩ <;>
      rcases roundHalfEven_cases second with ⟨isSecond, _⟩ | ⟨isSecond, _⟩ <;>
      omega
  · rcases roundHalfEven_cases first with ⟨isFirst, _⟩ | ⟨isFirst, above⟩
    · rcases roundHalfEven_cases second with ⟨isSecond, _⟩ | ⟨isSecond, _⟩ <;> omega
    · rcases roundHalfEven_cases second with ⟨isSecond, below⟩ | ⟨isSecond, _⟩
      · have equal : first = second := by
          rw [same] at above
          linarith
        rw [equal]
      · omega

theorem roundHalfEven_nonneg {number : ℚ} (nonneg : 0 ≤ number) : 0 ≤ roundHalfEven number := by
  have mono := roundHalfEven_mono nonneg
  rwa [← Int.cast_zero, roundHalfEven_intCast] at mono

/-! ## Rounding to doubles -/

theorem powerOfTwo_eq (exponent : Int) : powerOfTwo exponent = 2 ^ exponent := by
  unfold powerOfTwo
  split
  next nonneg =>
    rw [Nat.cast_pow, ← zpow_natCast, Int.toNat_of_nonneg nonneg]
    norm_num
  next negative =>
    rw [Nat.cast_pow, ← zpow_natCast, Int.toNat_of_nonneg (by omega), one_div, ← zpow_neg,
      neg_neg]
    norm_num

theorem quotient_bounds {numerator denominator : ℕ} (isPositive : numerator ≠ 0)
    (nonzero : denominator ≠ 0) :
    (2 : ℚ) ^ ((numerator.log2 : Int) - denominator.log2 - 1) ≤ (numerator : ℚ) / denominator ∧
      (numerator : ℚ) / denominator < 2 ^ ((numerator.log2 : Int) - denominator.log2 + 1) := by
  have numLow : (2 : ℚ) ^ numerator.log2 ≤ numerator := by
    exact_mod_cast Nat.log2_self_le isPositive
  have numHigh : (numerator : ℚ) < 2 ^ (numerator.log2 + 1) := by
    exact_mod_cast Nat.lt_log2_self
  have denLow : (2 : ℚ) ^ denominator.log2 ≤ denominator := by
    exact_mod_cast Nat.log2_self_le nonzero
  have denHigh : (denominator : ℚ) < 2 ^ (denominator.log2 + 1) := by
    exact_mod_cast Nat.lt_log2_self
  have positive : (0 : ℚ) < denominator := by exact_mod_cast Nat.pos_of_ne_zero nonzero
  have power (high low : ℕ) : (2 : ℚ) ^ ((high : Int) - low) = 2 ^ high / 2 ^ low := by
    rw [zpow_sub₀ two_ne_zero, zpow_natCast, zpow_natCast]
  constructor
  · have same : (numerator.log2 : Int) - denominator.log2 - 1 =
        (numerator.log2 : Int) - (denominator.log2 + 1 : ℕ) := by omega
    rw [same, power, div_le_div_iff₀ (by positivity) positive]
    exact mul_le_mul numLow denHigh.le positive.le (by positivity)
  · have same : (numerator.log2 : Int) - denominator.log2 + 1 =
        (numerator.log2 + 1 : ℕ) - (denominator.log2 : Int) := by omega
    rw [same, power, div_lt_div_iff₀ positive (by positivity)]
    exact mul_lt_mul_of_nonneg_of_pos numHigh denLow (by positivity) (by positivity)

variable {magnitude : ℚ}

theorem binaryExponent_eq (positive : 0 < magnitude) :
    binaryExponent magnitude = Int.log 2 magnitude := by
  have two : (1 : ℕ) < 2 := by decide
  have numPositive : 0 < magnitude.num := Rat.num_pos.mpr positive
  have bounds := quotient_bounds (Int.natAbs_ne_zero.mpr numPositive.ne') magnitude.den_nz
  have isNumerator : ((magnitude.num.natAbs : ℕ) : ℚ) = magnitude.num := by
    rw [← Int.cast_natCast, Int.natAbs_of_nonneg numPositive.le]
  rw [isNumerator, Rat.num_div_den] at bounds
  simp only [binaryExponent, powerOfTwo_eq]
  generalize (magnitude.num.natAbs.log2 : Int) - magnitude.den.log2 = guess at bounds
  have notBelow : guess - 1 ≤ Int.log 2 magnitude :=
    (Int.zpow_le_iff_le_log two positive).mp bounds.1
  have notAbove : Int.log 2 magnitude < guess + 1 :=
    (Int.lt_zpow_iff_log_lt two positive).mp bounds.2
  split
  next reaches =>
    have atLeast : guess ≤ Int.log 2 magnitude :=
      (Int.zpow_le_iff_le_log two positive).mp reaches
    omega
  next misses =>
    have less : Int.log 2 magnitude < guess :=
      (Int.lt_zpow_iff_log_lt two positive).mp (lt_of_not_ge misses)
    omega

def spacingExponent (magnitude : ℚ) : Int := max (Int.log 2 magnitude - 52) (-1074)

/-- The multiple of the spacing that a number is rounded to. -/
def rounded (magnitude : ℚ) : ℚ :=
  roundHalfEven (magnitude / 2 ^ spacingExponent magnitude) * 2 ^ spacingExponent magnitude

theorem rounded_zero : rounded 0 = 0 := by
  have atZero := roundHalfEven_intCast 0
  rw [Int.cast_zero] at atZero
  rw [rounded, zero_div, atZero, Int.cast_zero, zero_mul]

theorem nearest_eq {negative : Bool} (nonneg : 0 ≤ magnitude) :
    nearest negative magnitude =
      if 2 ^ 1024 ≤ rounded magnitude then infinite negative
      else finite negative (rounded magnitude) := by
  rcases nonneg.lt_or_eq with positive | rfl
  · simp only [nearest, if_neg positive.ne', powerOfTwo_eq, binaryExponent_eq positive]
    rfl
  · rw [rounded_zero, if_neg (by norm_num)]
    rfl

theorem rounded_nonneg (nonneg : 0 ≤ magnitude) : 0 ≤ rounded magnitude := by
  have scaled : 0 ≤ magnitude / 2 ^ spacingExponent magnitude := by positivity
  have whole : (0 : ℚ) ≤ roundHalfEven (magnitude / 2 ^ spacingExponent magnitude) := by
    exact_mod_cast roundHalfEven_nonneg scaled
  exact mul_nonneg whole (by positivity)

variable {exponent : Int}

theorem power_multiple (notBelow : spacingExponent magnitude ≤ exponent) :
    ∃ multiple : Int, (2 : ℚ) ^ exponent = multiple * 2 ^ spacingExponent magnitude := by
  rcases Int.eq_ofNat_of_zero_le (Int.sub_nonneg.mpr notBelow) with ⟨steps, _⟩
  refine ⟨2 ^ steps, ?_⟩
  push_cast
  rw [← zpow_natCast, ← zpow_add₀ two_ne_zero]
  congr 1
  omega

theorem rounded_le_power
    (notBelow : spacingExponent magnitude ≤ exponent) (le : magnitude ≤ 2 ^ exponent) :
    rounded magnitude ≤ 2 ^ exponent := by
  rcases power_multiple notBelow with ⟨_, power⟩
  rw [power] at le ⊢
  have scaled := roundHalfEven_mono ((div_le_iff₀ (by positivity)).mpr le)
  rw [roundHalfEven_intCast] at scaled
  exact mul_le_mul_of_nonneg_right (by exact_mod_cast scaled) (by positivity)

theorem power_le_rounded
    (notBelow : spacingExponent magnitude ≤ exponent) (le : 2 ^ exponent ≤ magnitude) :
    2 ^ exponent ≤ rounded magnitude := by
  rcases power_multiple notBelow with ⟨_, power⟩
  rw [power] at le ⊢
  have scaled := roundHalfEven_mono ((le_div_iff₀ (by positivity)).mpr le)
  rw [roundHalfEven_intCast] at scaled
  exact mul_le_mul_of_nonneg_right (by exact_mod_cast scaled) (by positivity)

theorem rounded_mono_of_pos (positive : 0 < first) (le : first ≤ second) :
    rounded first ≤ rounded second := by
  have logs := @Int.log_mono_right ℚ _ _ _ _ 2 _ _ positive le
  have spacings : spacingExponent first ≤ spacingExponent second := by
    unfold spacingExponent
    omega
  rcases spacings.lt_or_eq with less | same
  · -- a power of two stands between the two, and both are rounded towards it
    have reaches : (2 : ℚ) ^ Int.log 2 second ≤ second :=
      Int.zpow_log_le_self (by decide) (positive.trans_le le)
    have below : first ≤ 2 ^ Int.log 2 second := by
      have misses : first < 2 ^ (Int.log 2 first + 1) :=
        Int.lt_zpow_succ_log_self (by decide) first
      apply misses.le.trans
      apply zpow_le_zpow_right₀ one_le_two
      unfold spacingExponent at less
      omega
    calc rounded first ≤ 2 ^ Int.log 2 second := by
          apply rounded_le_power _ below
          unfold spacingExponent at less ⊢
          omega
      _ ≤ rounded second := by
          apply power_le_rounded _ reaches
          unfold spacingExponent at less ⊢
          omega
  · have scaled : first / 2 ^ spacingExponent first ≤ second / 2 ^ spacingExponent first :=
      div_le_div_of_nonneg_right le (by positivity)
    unfold rounded
    rw [← same]
    exact mul_le_mul_of_nonneg_right (by exact_mod_cast roundHalfEven_mono scaled)
      (by positivity)

theorem rounded_mono (nonneg : 0 ≤ first) (le : first ≤ second) :
    rounded first ≤ rounded second := by
  rcases nonneg.lt_or_eq with positive | rfl
  · exact rounded_mono_of_pos positive le
  · rw [rounded_zero]
    exact rounded_nonneg le

theorem div_eq {negative : Bool} {magnitude size : ℚ} (nonneg : 0 ≤ magnitude / size)
    (inRange : magnitude / size ≤ 2 ^ 1023) :
    div (finite negative magnitude) (finite false size) =
      finite negative (rounded (magnitude / size)) := by
  have small : rounded (magnitude / size) ≤ 2 ^ 1023 := by
    have spacing : spacingExponent (magnitude / size) ≤ 1023 := by
      rcases nonneg.lt_or_eq with positive | zero
      · have two : (1 : ℕ) < 2 := by decide
        have log : Int.log 2 (magnitude / size) < 1024 := by
          apply (Int.lt_zpow_iff_log_lt two positive).mp
          have wider : (2 : ℚ) ^ 1023 < 2 ^ 1024 := pow_lt_pow_right₀ one_lt_two (by decide)
          exact_mod_cast inRange.trans_lt wider
        unfold spacingExponent
        omega
      · rw [← zero, spacingExponent, Int.log_zero_right]
        decide
    exact @rounded_le_power _ 1023 spacing inRange
  have sign : (negative != false) = negative := by cases negative <;> rfl
  have notLarge : ¬(2 : ℚ) ^ 1024 ≤ rounded (magnitude / size) := by
    rw [not_le]
    apply small.trans_lt
    exact pow_lt_pow_right₀ one_lt_two (by decide)
  simp only [div, sign, nearest_eq nonneg, if_neg notLarge]

def InRange (number : Int) : Prop := rounded |(number : ℚ)| < 2 ^ 1024

variable {number : Int}

theorem ofInt_of_inRange (inRange : InRange number) :
    ofInt number = .ok (finite (number < 0) (rounded |(number : ℚ)|)) := by
  have magnitude : ((number.natAbs : ℕ) : ℚ) = |(number : ℚ)| := by
    rw [Nat.cast_natAbs, Int.cast_abs]
  have notLarge : ¬(2 : ℚ) ^ 1024 ≤ rounded |(number : ℚ)| := not_le.mpr inRange
  simp only [ofInt, magnitude, nearest_eq (abs_nonneg _), if_neg notLarge]

theorem ofInt_of_not_inRange (outside : ¬InRange number) :
    ofInt number = .error .overflowError := by
  have magnitude : ((number.natAbs : ℕ) : ℚ) = |(number : ℚ)| := by
    rw [Nat.cast_natAbs, Int.cast_abs]
  have large : (2 : ℚ) ^ 1024 ≤ rounded |(number : ℚ)| := not_lt.mp outside
  simp only [ofInt, magnitude, nearest_eq (abs_nonneg _), if_pos large]

theorem isFinite_of_ofInt {double : Double}
    (converted : ofInt number = .ok double) : double.isFinite = true := by
  by_cases inRange : InRange number
  · rw [ofInt_of_inRange inRange] at converted
    cases converted
    rfl
  · rw [ofInt_of_not_inRange inRange] at converted
    cases converted

end Double

end VideoAnalysis.Python
