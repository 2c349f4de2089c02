import VideoAnalysis.Python.Text
import Mathlib.Data.Rat.Floor

/-! # Numbers

Whole numbers of any size, and double-precision floats: a literal becomes the
nearest double, ties to even, and an infinity beyond the range.
-/

namespace VideoAnalysis.Python

/-- The exceptions that conversions raise. -/
inductive PyError
  | attributeError
  | jsonDecodeError
  | overflowError
  | recursionError
  | typeError
  | unicodeDecodeError
  | valueError
deriving DecidableEq

def PyError.isValueError : PyError → Bool
  | .jsonDecodeError | .unicodeDecodeError | .valueError => true
  | .attributeError | .overflowError | .recursionError | .typeError => false

theorem ok_of_bind {α β : Type} {first : Except PyError α} {next : α → Except PyError β}
    {result : β} (returned : (first >>= next) = .ok result) :
    ∃ value, first = .ok value ∧ next value = .ok result := by
  cases first with
  | error error => exact absurd returned (by simp [bind, Except.bind])
  | ok value => exact ⟨value, rfl, returned⟩

theorem bind_returns_iff {α β : Type} {first : Except PyError α} {next : α → Except PyError β} :
    (∃ result, (first >>= next) = .ok result) ↔
      ∃ value, first = .ok value ∧ ∃ result, next value = .ok result := by
  constructor
  · rintro ⟨result, returned⟩
    rcases ok_of_bind returned with ⟨value, isFirst, isNext⟩
    exact ⟨value, isFirst, result, isNext⟩
  · rintro ⟨value, rfl, result, isNext⟩
    exact ⟨result, isNext⟩

/-! ## Doubles -/

inductive Double
  | finite (negative : Bool) (magnitude : ℚ)
  | infinite (negative : Bool)
  | nan
deriving DecidableEq

namespace Double

def isFinite : Double → Bool
  | finite _ _ => true
  | infinite _ | nan => false

def roundHalfEven (number : ℚ) : Int :=
  let low := number.floor
  if number - low < 1 / 2 then low
  else if 1 / 2 < number - low then low + 1
  else if low % 2 = 0 then low
  else low + 1

def powerOfTwo (exponent : Int) : ℚ :=
  if 0 ≤ exponent then (2 ^ exponent.toNat : Nat) else 1 / (2 ^ (-exponent).toNat : Nat)

/-- The exponent of the largest power of two that is not larger. -/
def binaryExponent (magnitude : ℚ) : Int :=
  let guess : Int := (magnitude.num.natAbs.log2 : Int) - magnitude.den.log2
  if powerOfTwo guess ≤ magnitude then guess else guess - 1

def nearest (negative : Bool) (magnitude : ℚ) : Double :=
  if magnitude = 0 then finite negative 0
  else
    let spacing := powerOfTwo (max (binaryExponent magnitude - 52) (-1074))
    let rounded := roundHalfEven (magnitude / spacing) * spacing
    if powerOfTwo 1024 ≤ rounded then infinite negative else finite negative rounded

def ofDecimal (negative : Bool) (digits : Nat) (exponent : Int) : Double :=
  nearest negative
    (if 0 ≤ exponent then (digits * 10 ^ exponent.toNat : Nat)
    else (digits : ℚ) / (10 ^ (-exponent).toNat : Nat))

/-- `float` of a whole number. -/
def ofInt (number : Int) : Except PyError Double :=
  match nearest (number < 0) number.natAbs with
  | infinite _ => .error .overflowError
  | double => .ok double

theorem ofInt_error {number : Int} {error : PyError} (raised : ofInt number = .error error) :
    error = .overflowError := by
  unfold ofInt at raised
  split at raised
  · exact (Except.error.inj raised).symm
  · exact absurd raised (by simp)

/-- `int` of a float. -/
def toInt : Double → Except PyError Int
  | finite negative magnitude => .ok (if negative then -magnitude.floor else magnitude.floor)
  | infinite _ => .error .overflowError
  | nan => .error .valueError

end Double

/-! ## Text -/

def digitsOf (afterDigit : Bool) : Text → Option (List Nat)
  | [] => if afterDigit then some [] else none
  | code :: rest =>
    match digitValue code with
    | some digit => (digitsOf true rest).map (digit :: ·)
    | none => if code = 95 && afterDigit then digitsOf false rest else none

def ofDigits (digits : List Nat) : Nat := digits.foldl (fun value digit => value * 10 + digit) 0

def splitSign : Text → Bool × Text
  | 45 :: rest => (true, rest)
  | 43 :: rest => (false, rest)
  | content => (false, content)

/-- The limit of `sys.set_int_max_str_digits`. -/
def maxIntDigits : Nat := 4300

/-- `int` of a text. -/
def intOfText (content : Text) : Except PyError Int :=
  let (negative, body) := splitSign (strip content)
  match digitsOf false body with
  | none => .error .valueError
  | some digits =>
    if maxIntDigits < digits.length then .error .valueError
    else .ok (if negative then -(ofDigits digits : Int) else ofDigits digits)

/-- The digits of a number with at most one point, and how many are behind it. -/
def mantissaOf (content : Text) : Option (List Nat × Nat) :=
  let whole := content.takeWhile (· ≠ 46)
  match content.drop whole.length with
  | [] => (digitsOf false whole).map fun digits => (digits, 0)
  | _ :: fraction =>
    if whole = [] && fraction = [] then none
    else do
      let wholeDigits ← if whole = [] then some [] else digitsOf false whole
      let fractionDigits ← if fraction = [] then some [] else digitsOf false fraction
      some (wholeDigits ++ fractionDigits, fractionDigits.length)

def exponentOf (content : Text) : Option Int :=
  let (negative, body) := splitSign content
  (digitsOf false body).map fun digits =>
    if negative then -(ofDigits digits : Int) else ofDigits digits

def decimalOf (negative : Bool) (content : Text) : Option Double :=
  let mantissa := content.takeWhile fun code => code ≠ 101 && code ≠ 69
  match mantissaOf mantissa, content.drop mantissa.length with
  | some (digits, behind), [] => some (.ofDecimal negative (ofDigits digits) (-behind))
  | some (digits, behind), _ :: exponent =>
    (exponentOf exponent).map fun exponent =>
      .ofDecimal negative (ofDigits digits) (exponent - behind)
  | none, _ => none

/-- `float` of a text. -/
def floatOfText (content : Text) : Except PyError Double :=
  let (negative, body) := splitSign (strip content)
  let lower := body.map asciiLower
  if lower = text "inf" || lower = text "infinity" then .ok (.infinite negative)
  else if lower = text "nan" then .ok .nan
  else match decimalOf negative body with
    | some double => .ok double
    | none => .error .valueError

theorem floatOfText_error {content : Text} {error : PyError}
    (raised : floatOfText content = .error error) : error = .valueError := by
  simp only [floatOfText] at raised
  split at raised
  · exact absurd raised (by simp)
  · split at raised
    · exact absurd raised (by simp)
    · split at raised
      · exact absurd raised (by simp)
      · exact (Except.error.inj raised).symm

end VideoAnalysis.Python
