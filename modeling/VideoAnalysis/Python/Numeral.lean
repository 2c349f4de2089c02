import VideoAnalysis.Foundation.SelfSize
import VideoAnalysis.Python.JsonEncode

/-! # Numerals

What a number is written as, and that the scanner of JSON reads it again.
-/

namespace VideoAnalysis.Python

/-! ## Digits -/

def digitsText (number : Nat) : Text := (Nat.toDigits 10 number).map Char.toNat

theorem intText_eq (value : Int) :
    intText value = (if value < 0 then [45] else []) ++ digitsText value.natAbs := by
  unfold intText text digitsText
  rw [Int.toString_eq_repr, Int.repr_eq_if]
  by_cases negative : value < 0
  · rw [if_neg (by omega), if_pos negative, String.toList_append, List.map_append,
      Nat.toList_repr]
    have same : (-value).toNat = value.natAbs := by omega
    rw [same]
    rfl
  · rw [if_pos (by omega), if_neg negative, Nat.toList_repr]
    have same : value.toNat = value.natAbs := by omega
    rw [same, List.nil_append]

theorem digitsText_isDigit (number : Nat) : ∀ code ∈ digitsText number, isDigit code = true := by
  intro code member
  rcases List.mem_map.1 member with ⟨_, isChar, rfl⟩
  have digit := Nat.isDigit_of_mem_toDigits (by decide) (by decide) isChar
  simp only [Char.isDigit, Bool.and_eq_true, decide_eq_true_eq] at digit
  simp only [isDigit, Bool.and_eq_true, decide_eq_true_eq]
  exact digit

theorem digitsText_ne_nil (number : Nat) : digitsText number ≠ [] := by
  simp [digitsText, Nat.toDigits_ne_nil]

theorem ofDigits_digitsText (number : Nat) :
    ofDigits ((digitsText number).map (· - 48)) = number := by
  have read := Nat.ofDigitChars_ten_toDigits (n := number)
  rw [Nat.ofDigitChars_eq_foldl] at read
  unfold ofDigits digitsText
  rw [List.map_map, List.foldl_map]
  simpa [Nat.mul_comm] using read

theorem digitsText_head {number : Nat} (positive : 0 < number) :
    ∃ first rest, digitsText number = first :: rest ∧ first ≠ 48 := by
  induction number using Nat.strongRecOn with
  | ind number induction =>
    by_cases small : number < 10
    · refine ⟨48 + number, [], ?_, by omega⟩
      simp [digitsText, Nat.toDigits_of_lt_base small, Nat.toNat_digitChar_of_lt_ten small]
    · rcases induction (number / 10) (by omega) (by omega) with ⟨first, rest, isHead, nonzero⟩
      refine ⟨first, rest ++ [(number % 10).digitChar.toNat], ?_, nonzero⟩
      have split := Nat.toDigits_of_base_le (b := 10) (n := number) (by decide) (by omega)
      unfold digitsText at isHead ⊢
      rw [split, List.map_append, isHead]
      rfl

theorem length_digitsText_le_iff {number length : Nat} (positive : 0 < length) :
    (digitsText number).length ≤ length ↔ number < 10 ^ length := by
  rw [digitsText, List.length_map]
  exact Nat.length_toDigits_le_iff (by decide) positive

theorem lt_ten_pow_digits (number : Nat) : number < 10 ^ (digitsText number).length :=
  (length_digitsText_le_iff (List.length_pos_of_ne_nil (digitsText_ne_nil number))).mp le_rfl

def decimalWidth : Foundation.NumberWidth where
  width number := (digitsText number).length
  zero := rfl
  monotone small large le :=
    (length_digitsText_le_iff (List.length_pos_of_ne_nil (digitsText_ne_nil large))).mpr
      (le.trans_lt (lt_ten_pow_digits large))
  slow number := by
    refine (length_digitsText_le_iff (Nat.succ_pos _)).mpr ?_
    have isLess := lt_ten_pow_digits number
    have small : (digitsText number).length < 10 ^ (digitsText number).length :=
      Nat.lt_pow_self (by decide)
    rw [pow_succ]
    omega

/-! ## Numerals -/

/-- A number as JSON writes it, its digits as code points. -/
structure Numeral where
  negative : Bool := false
  whole : Text
  fraction : Text := []
  exponentSign : Text := []
  exponent : Text := []

namespace Numeral

def fractionText (numeral : Numeral) : Text :=
  if numeral.fraction = [] then [] else 46 :: numeral.fraction

def exponentText (numeral : Numeral) : Text :=
  if numeral.exponent = [] then [] else 101 :: (numeral.exponentSign ++ numeral.exponent)

def text (numeral : Numeral) : Text :=
  (if numeral.negative then [45] else []) ++
    (numeral.whole ++ (numeral.fractionText ++ numeral.exponentText))

structure WellFormed (numeral : Numeral) : Prop where
  whole : numeral.whole ≠ []
  wholeDigits : ∀ code ∈ numeral.whole, isDigit code = true
  noLeadingZero : numeral.whole.head? = some 48 → numeral.whole = [48]
  fractionDigits : ∀ code ∈ numeral.fraction, isDigit code = true
  exponentSign : numeral.exponentSign ∈ [[], [43], [45]]
  exponentDigits : ∀ code ∈ numeral.exponent, isDigit code = true

def valueOf (digits : Text) : Nat := ofDigits (digits.map (· - 48))

/-- The power of ten by which the digits before and behind the point are multiplied. -/
def shift (numeral : Numeral) : Int :=
  (if numeral.exponentSign = [45] then -(valueOf numeral.exponent : Int)
    else valueOf numeral.exponent) - numeral.fraction.length

def double (numeral : Numeral) : Double :=
  .ofDecimal numeral.negative (valueOf (numeral.whole ++ numeral.fraction)) numeral.shift

end Numeral

def Delimited : Text → Prop
  | [] => True
  | code :: _ => isDigit code = false ∧ code ≠ 46 ∧ code ≠ 101 ∧ code ≠ 69

/-! ## Reading numerals -/

/-- The steps of `parseNumber`. -/
def signOf (content : Text) : Bool × Text :=
  match content with
  | 45 :: rest => (true, rest)
  | _ => (false, content)

def wholeOf (body : Text) : Text :=
  match body with
  | 48 :: _ => [48]
  | _ => body.takeWhile isDigit

def fractionOf (afterWhole : Text) : Text :=
  match afterWhole with
  | 46 :: rest => rest.takeWhile isDigit
  | _ => []

def exponentSignOf (afterFraction : Text) : Nat × Bool :=
  match afterFraction with
  | _ :: 45 :: _ => (1, true)
  | _ :: 43 :: _ => (1, false)
  | _ => (0, false)

def exponentDigits (afterFraction : Text) (signLength : Nat) : Text :=
  match afterFraction with
  | code :: rest =>
    if code = 101 || code = 69 then (rest.drop signLength).takeWhile isDigit else []
  | [] => []

theorem parseNumber_eq (content : Text) :
    parseNumber content =
      let negative := (signOf content).1
      let body := (signOf content).2
      let whole := wholeOf body
      if whole = [] then .error .jsonDecodeError
      else
        let afterWhole := body.drop whole.length
        let fraction := fractionOf afterWhole
        let afterFraction :=
          if fraction = [] then afterWhole else afterWhole.drop (fraction.length + 1)
        let signLength := (exponentSignOf afterFraction).1
        let exponent := exponentDigits afterFraction signLength
        let rest :=
          if exponent = [] then afterFraction
          else afterFraction.drop (1 + signLength + exponent.length)
        let value := fun digits : Text => ofDigits (digits.map (· - 48))
        if fraction = [] && exponent = [] then
          if maxIntDigits < whole.length then .error .valueError
          else .ok (.int (if negative then -(value whole : Int) else value whole), rest)
        else
          let shift : Int :=
            if (exponentSignOf afterFraction).2 then -(value exponent : Int) else value exponent
          .ok (.float (.ofDecimal negative (value (whole ++ fraction)) (shift - fraction.length)),
            rest) := by
  rfl

theorem takeWhile_digits {digits rest : Text} (areDigits : ∀ code ∈ digits, isDigit code = true)
    (ends : ∀ code, rest.head? = some code → isDigit code = false) :
    (digits ++ rest).takeWhile isDigit = digits := by
  rw [List.takeWhile_append_of_pos areDigits]
  cases rest with
  | nil => simp
  | cons code => simp [ends code rfl]

namespace Numeral

variable {numeral : Numeral} {rest : Text}

theorem exponent_ends (delimited : Delimited rest) :
    ∀ code, (numeral.exponentText ++ rest).head? = some code →
      isDigit code = false ∧ code ≠ 46 := by
  intro code isHead
  unfold exponentText at isHead
  split at isHead
  next =>
    cases rest with
    | nil => cases isHead
    | cons =>
      cases isHead
      exact ⟨delimited.1, delimited.2.1⟩
  next =>
    cases isHead
    exact ⟨rfl, by decide⟩

theorem fraction_ends (delimited : Delimited rest) :
    ∀ code, (numeral.fractionText ++ (numeral.exponentText ++ rest)).head? = some code →
      isDigit code = false := by
  intro code isHead
  unfold fractionText at isHead
  split at isHead
  next => exact (exponent_ends delimited code isHead).1
  next =>
    cases isHead
    rfl

theorem sign_read (wellFormed : numeral.WellFormed) :
    signOf (numeral.text ++ rest) =
      (numeral.negative,
        numeral.whole ++ (numeral.fractionText ++ (numeral.exponentText ++ rest))) := by
  cases isNegative : numeral.negative with
  | true => simp [text, isNegative, signOf]
  | false =>
    have unsigned : numeral.text ++ rest =
        numeral.whole ++ (numeral.fractionText ++ (numeral.exponentText ++ rest)) := by
      simp [text, isNegative]
    rw [unsigned]
    unfold signOf
    split
    next more split =>
      cases isWhole : numeral.whole with
      | nil => exact absurd isWhole wellFormed.whole
      | cons first =>
        rw [isWhole, List.cons_append] at split
        have isDigits := wellFormed.wholeDigits first (by simp [isWhole])
        rw [(List.cons.inj split).1] at isDigits
        cases isDigits
    next => rfl

theorem whole_read (wellFormed : numeral.WellFormed) {others : Text}
    (ends : ∀ code, others.head? = some code → isDigit code = false) :
    wholeOf (numeral.whole ++ others) = numeral.whole := by
  have taken := takeWhile_digits wellFormed.wholeDigits ends
  have noZero := wellFormed.noLeadingZero
  unfold wholeOf
  split
  next more split =>
    cases isWhole : numeral.whole with
    | nil => exact absurd isWhole wellFormed.whole
    | cons =>
      rw [isWhole, List.cons_append] at split
      rw [isWhole, (List.cons.inj split).1] at noZero
      rw [(List.cons.inj split).1, noZero rfl]
  next => exact taken

theorem fraction_read (wellFormed : numeral.WellFormed) (delimited : Delimited rest) :
    fractionOf (numeral.fractionText ++ (numeral.exponentText ++ rest)) = numeral.fraction := by
  have ends := @exponent_ends numeral rest delimited
  by_cases whole : numeral.fraction = []
  · rw [fractionText, if_pos whole, List.nil_append, whole]
    unfold fractionOf
    split
    next split => exact absurd rfl (ends 46 (by rw [split]; rfl)).2
    next => rfl
  · rw [fractionText, if_neg whole]
    exact takeWhile_digits wellFormed.fractionDigits fun code isHead => (ends code isHead).1

theorem afterFraction (tail : Text) :
    (if numeral.fraction = [] then numeral.fractionText ++ tail
      else (numeral.fractionText ++ tail).drop (numeral.fraction.length + 1)) = tail := by
  by_cases whole : numeral.fraction = []
  · rw [if_pos whole, fractionText, if_pos whole, List.nil_append]
  · rw [if_neg whole, fractionText, if_neg whole]
    simp

theorem exponentSign_read (wellFormed : numeral.WellFormed) (scaled : numeral.exponent ≠ []) :
    exponentSignOf (numeral.exponentText ++ rest) =
      (numeral.exponentSign.length, decide (numeral.exponentSign = [45])) := by
  have signs := wellFormed.exponentSign
  simp only [List.mem_cons, List.not_mem_nil, or_false] at signs
  rw [exponentText, if_neg scaled]
  rcases signs with none | plus | minus
  · cases isExponent : numeral.exponent with
    | nil => exact absurd isExponent scaled
    | cons first =>
      have isDigits := wellFormed.exponentDigits first (by simp [isExponent])
      simp only [none, List.nil_append, List.cons_append, exponentSignOf]
      split
      next split =>
        cases split
        cases isDigits
      next split =>
        cases split
        cases isDigits
      next => rfl
  · rw [plus]
    rfl
  · rw [minus]
    rfl

theorem exponent_read (wellFormed : numeral.WellFormed) (delimited : Delimited rest)
    {signLength : Nat}
    (isLength : numeral.exponent ≠ [] → signLength = numeral.exponentSign.length) :
    exponentDigits (numeral.exponentText ++ rest) signLength = numeral.exponent := by
  by_cases plain : numeral.exponent = []
  · rw [exponentText, if_pos plain, List.nil_append, plain]
    cases rest with
    | nil => rfl
    | cons code =>
      have notExponent : ¬(code = 101 || code = 69) = true := by
        simp [delimited.2.2.1, delimited.2.2.2]
      exact if_neg notExponent
  · rw [exponentText, if_neg plain, isLength plain, List.cons_append, List.append_assoc]
    simp only [exponentDigits, decide_true, Bool.true_or, if_true, List.drop_left]
    refine takeWhile_digits wellFormed.exponentDigits fun code isHead => ?_
    cases rest with
    | nil => cases isHead
    | cons =>
      cases isHead
      exact delimited.1

theorem afterExponent {signLength : Nat}
    (isLength : numeral.exponent ≠ [] → signLength = numeral.exponentSign.length) :
    (if numeral.exponent = [] then numeral.exponentText ++ rest
      else (numeral.exponentText ++ rest).drop (1 + signLength + numeral.exponent.length)) =
      rest := by
  by_cases plain : numeral.exponent = []
  · rw [if_pos plain, exponentText, if_pos plain, List.nil_append]
  · have length : 1 + signLength + numeral.exponent.length = numeral.exponentText.length := by
      rw [exponentText, if_neg plain, isLength plain, List.length_cons, List.length_append]
      omega
    rw [if_neg plain, length, List.drop_left]

theorem parseNumber_text (wellFormed : numeral.WellFormed) (delimited : Delimited rest) :
    parseNumber (numeral.text ++ rest) =
      if numeral.fraction = [] && numeral.exponent = [] then
        if maxIntDigits < numeral.whole.length then .error .valueError
        else
          .ok (.int (if numeral.negative then -(valueOf numeral.whole : Int)
            else valueOf numeral.whole), rest)
      else .ok (.float numeral.double, rest) := by
  have isLength : numeral.exponent ≠ [] →
      (exponentSignOf (numeral.exponentText ++ rest)).1 = numeral.exponentSign.length :=
    fun scaled => congrArg Prod.fst (exponentSign_read wellFormed scaled)
  rw [parseNumber_eq, sign_read wellFormed]
  simp only [whole_read wellFormed (fraction_ends delimited), wellFormed.whole, if_false,
    List.drop_left, fraction_read wellFormed delimited, afterFraction,
    exponent_read wellFormed delimited isLength, afterExponent isLength]
  by_cases scaled : numeral.exponent = []
  · have noShift : ∀ sign : Prop, [Decidable sign] →
        (if sign then -(ofDigits [] : Int) else (ofDigits [] : Int)) = 0 := by
      intro sign _
      split <;> rfl
    simp only [scaled, decide_true, Bool.and_true, List.map_nil, noShift, double, shift, valueOf]
  · simp only [scaled, decide_false, Bool.and_false, exponentSign_read wellFormed scaled,
      decide_eq_true_eq]
    rfl

end Numeral

def intNumeral (value : Int) : Numeral where
  negative := value < 0
  whole := digitsText value.natAbs

theorem intNumeral_text (value : Int) : (intNumeral value).text = intText value := by
  rw [intText_eq]
  simp [intNumeral, Numeral.text, Numeral.fractionText, Numeral.exponentText]

theorem intNumeral_wellFormed (value : Int) : (intNumeral value).WellFormed where
  whole := digitsText_ne_nil _
  wholeDigits := digitsText_isDigit _
  noLeadingZero := by
    intro isZero
    change (digitsText value.natAbs).head? = some 48 at isZero
    change digitsText value.natAbs = [48]
    by_cases positive : 0 < value.natAbs
    · rcases digitsText_head positive with ⟨_, _, isHead, nonzero⟩
      rw [isHead] at isZero
      exact absurd (Option.some.inj isZero) nonzero
    · rw [show value.natAbs = 0 by omega]
      rfl
  fractionDigits := List.forall_mem_nil _
  exponentSign := by simp [intNumeral]
  exponentDigits := List.forall_mem_nil _

theorem parseNumber_intText {value : Int} {rest : Text}
    (short : (digitsText value.natAbs).length ≤ maxIntDigits) (delimited : Delimited rest) :
    parseNumber (intText value ++ rest) = .ok (.int value, rest) := by
  have read := Numeral.parseNumber_text (intNumeral_wellFormed value) delimited
  rw [intNumeral_text] at read
  have isShort : ¬maxIntDigits < (intNumeral value).whole.length := Nat.not_lt.mpr short
  have isValue : (if (intNumeral value).negative = true then
      -(Numeral.valueOf (intNumeral value).whole : Int)
      else Numeral.valueOf (intNumeral value).whole) = value := by
    simp only [intNumeral, Numeral.valueOf, ofDigits_digitsText, decide_eq_true_eq]
    split
    next negative => omega
    next => omega
  rw [read, if_neg isShort, isValue]
  rfl

/-- The text is a literal of the double, as `repr` makes one: a numeral with a fraction or an
exponent that is read as the double. -/
def IsLiteral (content : Text) (double : Double) : Prop :=
  ∃ numeral : Numeral, numeral.WellFormed ∧ numeral.text = content ∧
    (numeral.fraction ≠ [] ∨ numeral.exponent ≠ []) ∧ numeral.double = double

theorem parseNumber_literal {content rest : Text} {double : Double}
    (literal : IsLiteral content double) (delimited : Delimited rest) :
    parseNumber (content ++ rest) = .ok (.float double, rest) := by
  rcases literal with ⟨numeral, wellFormed, rfl, scaled, rfl⟩
  have notInt : ¬(numeral.fraction = [] && numeral.exponent = []) = true := by
    simp only [Bool.and_eq_true, decide_eq_true_eq, not_and_or]
    exact scaled
  rw [Numeral.parseNumber_text wellFormed delimited, if_neg notInt]

end VideoAnalysis.Python
