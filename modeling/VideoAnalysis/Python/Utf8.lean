import VideoAnalysis.Python.Text

/-! # Encoding UTF-8

What `str.encode` makes of a text, the decoders of bytes read again; and the lines of bytes.
-/

namespace VideoAnalysis.Python

/-- `str.encode("utf-8")`, which refuses surrogates. -/
def encodeUtf8 (content : Text) : Option (List Nat) :=
  (content.mapM fun code =>
    if code < 128 then some [code]
    else if code < 2048 then some [192 + code / 64, 128 + code % 64]
    else if 55296 ≤ code && code < 57344 then none
    else if code < 65536 then
      some [224 + code / 4096, 128 + code / 64 % 64, 128 + code % 64]
    else
      some [240 + code / 262144, 128 + code / 4096 % 64, 128 + code / 64 % 64,
        128 + code % 64]).map List.flatten

/-- `bytes.decode("utf-8")`. -/
def decodeStrict (bytes : List Nat) : Option Text :=
  (utf8Characters false {} bytes).mapM id

def isSurrogate (code : Nat) : Bool := 55296 ≤ code && code < 57344

def utf8Bytes (code : Nat) : List Nat :=
  if code < 128 then [code]
  else if code < 2048 then [192 + code / 64, 128 + code % 64]
  else if code < 65536 then
    [224 + code / 4096, 128 + code / 64 % 64, 128 + code % 64]
  else
    [240 + code / 262144, 128 + code / 4096 % 64, 128 + code / 64 % 64, 128 + code % 64]

theorem encodeUtf8_cons (code : Nat) (rest : Text) :
    encodeUtf8 (code :: rest) =
      if isSurrogate code then none else (encodeUtf8 rest).map (utf8Bytes code ++ ·) := by
  have split : ∀ first : Option (List Nat), ∀ others : Option (List (List Nat)),
      ((first.bind fun bytes => others.bind fun more => some (bytes :: more)).map List.flatten) =
        first.bind fun bytes => (others.map List.flatten).map (bytes ++ ·) := by
    intro first others
    cases first <;> cases others <;> rfl
  unfold encodeUtf8
  rw [List.mapM_cons]
  refine (split _ _).trans ?_
  unfold isSurrogate utf8Bytes
  by_cases one : code < 128
  · have notSurrogate : ¬55296 ≤ code := by omega
    simp [one, notSurrogate]
  · by_cases two : code < 2048
    · have notSurrogate : ¬55296 ≤ code := by omega
      simp [one, two, notSurrogate]
    · by_cases surrogate : (55296 ≤ code && code < 57344) = true
      · simp [one, two, surrogate]
      · by_cases three : code < 65536
        · simp only [one, two, three, surrogate, if_false, if_true]
          rfl
        · simp only [one, two, three, surrogate, if_false]
          rfl

theorem encodeUtf8_eq (content : Text) :
    encodeUtf8 content =
      if content.any isSurrogate then none else some (content.flatMap utf8Bytes) := by
  induction content with
  | nil => rfl
  | cons code rest induction =>
    rw [encodeUtf8_cons, induction]
    by_cases surrogate : isSurrogate code = true
    · simp [surrogate]
    · by_cases others : rest.any isSurrogate = true
      all_goals simp [surrogate, others]

/-! ## Decoding what was encoded -/

theorem utf8Characters_cons (surrogates : Bool) (state : Utf8State) (byte : Nat)
    (rest : List Nat) :
    utf8Characters surrogates state (byte :: rest) =
      (state.step surrogates byte).2 ++
        utf8Characters surrogates (state.step surrogates byte).1 rest := rfl

variable {surrogates : Bool}

theorem step_middle {state : Utf8State} {missing byte : Nat}
    (isMissing : state.missing = missing + 2) (low : state.low ≤ byte)
    (high : byte ≤ state.high) :
    state.step surrogates byte =
      ({ missing := missing + 1, code := state.code * 64 + (byte - 128) }, []) := by
  simp [Utf8State.step, isMissing, low, high]

theorem step_last {state : Utf8State} {byte : Nat}
    (isMissing : state.missing = 1) (low : state.low ≤ byte) (high : byte ≤ state.high) :
    state.step surrogates byte = ({}, [some (state.code * 64 + (byte - 128))]) := by
  simp [Utf8State.step, isMissing, low, high]

variable {code : Nat}

theorem start_three (large : 2048 ≤ code)
    (small : code < 65536) (notSurrogate : isSurrogate code = false) :
    ∃ low high, Utf8State.start surrogates (224 + code / 4096) =
        ({ missing := 2, low, high, code := code / 4096 }, []) ∧
      low ≤ 128 + code / 64 % 64 ∧ 128 + code / 64 % 64 ≤ high := by
  simp only [isSurrogate, Bool.and_eq_false_iff, decide_eq_false_iff_not] at notSurrogate
  have one : ¬224 + code / 4096 < 128 := by omega
  have two : ¬224 + code / 4096 < 224 := by omega
  have three : 224 + code / 4096 < 240 := by omega
  by_cases first : code / 4096 = 0
  · refine ⟨160, 191, ?_, by omega, by omega⟩
    simp [Utf8State.start, first]
  · by_cases thirteenth : code / 4096 = 13 ∧ surrogates = false
    · have isThirteenth : code / 64 / 64 = 13 := by
        rw [Nat.div_div_eq_div_mul]
        exact thirteenth.1
      refine ⟨128, 159, ?_, by omega, by omega⟩
      simp [Utf8State.start, thirteenth.1, thirteenth.2]
    · refine ⟨128, 191, ?_, by omega, by omega⟩
      have more : 225 ≤ 224 + code / 4096 := by omega
      simp [Utf8State.start, one, two, three, first, more]
      intro isThirteenth
      have : code / 4096 = 13 := by omega
      cases surrogates
      · exact absurd ⟨this, rfl⟩ thirteenth
      · rfl

theorem start_four (large : 65536 ≤ code) (inRange : code < 1114112) :
    ∃ low high, Utf8State.start surrogates (240 + code / 262144) =
        ({ missing := 3, low, high, code := code / 262144 }, []) ∧
      low ≤ 128 + code / 4096 % 64 ∧ 128 + code / 4096 % 64 ≤ high := by
  by_cases first : code / 262144 = 0
  · refine ⟨144, 191, ?_, by omega, by omega⟩
    simp [Utf8State.start, first]
  · by_cases fourth : code / 262144 = 4
    · refine ⟨128, 143, ?_, by omega, by omega⟩
      simp [Utf8State.start, fourth]
    · refine ⟨128, 191, ?_, by omega, by omega⟩
      have between : code / 262144 = 1 ∨ code / 262144 = 2 ∨ code / 262144 = 3 := by omega
      rcases between with one | two | three
      · simp [Utf8State.start, one]
      · simp [Utf8State.start, two]
      · simp [Utf8State.start, three]

theorem utf8Characters_bytes {rest : List Nat}
    (inRange : code < 1114112) (notSurrogate : isSurrogate code = false) :
    utf8Characters surrogates {} (utf8Bytes code ++ rest) =
      some code :: utf8Characters surrogates {} rest := by
  unfold utf8Bytes
  by_cases one : code < 128
  · simp [one, utf8Characters_cons, Utf8State.step, Utf8State.start]
  · by_cases two : code < 2048
    · have large : 194 ≤ 192 + code / 64 := by omega
      have small : 192 + code / 64 < 224 := by omega
      have notOne : ¬192 + code / 64 < 128 := by omega
      have isStart : Utf8State.start surrogates (192 + code / 64) =
          ({ missing := 1, code := code / 64 }, []) := by
        simp [Utf8State.start, notOne, large, small]
      have whole : code / 64 * 64 + code % 64 = code := by omega
      simp only [one, two, if_false, if_true, List.cons_append, List.nil_append,
        utf8Characters_cons]
      rw [show Utf8State.step surrogates {} (192 + code / 64) = _ from isStart,
        step_last rfl (by simp) (by simp; omega)]
      simp [whole]
    · by_cases three : code < 65536
      · rcases @start_three surrogates code (by omega) three notSurrogate with
          ⟨_, _, isStart, isLow, isHigh⟩
        have whole : (code / 4096 * 64 + code / 64 % 64) * 64 + code % 64 = code := by omega
        simp only [one, two, three, if_false, if_true, List.cons_append, List.nil_append,
          utf8Characters_cons]
        rw [show Utf8State.step surrogates {} (224 + code / 4096) = _ from isStart,
          step_middle rfl isLow isHigh, step_last rfl (by simp) (by simp; omega)]
        simp [whole]
      · rcases @start_four surrogates code (by omega) inRange with ⟨_, _, isStart, isLow, isHigh⟩
        have whole : ((code / 262144 * 64 + code / 4096 % 64) * 64 + code / 64 % 64) * 64 +
            code % 64 = code := by omega
        simp only [one, two, three, if_false, List.cons_append, List.nil_append,
          utf8Characters_cons]
        rw [show Utf8State.step surrogates {} (240 + code / 262144) = _ from isStart,
          step_middle rfl isLow isHigh, step_middle rfl (by simp) (by simp; omega),
          step_last rfl (by simp) (by simp; omega)]
        simp [whole]

section

variable {content : Text} {bytes : List Nat} (inRange : ∀ code ∈ content, code < 1114112)
  (encoded : encodeUtf8 content = some bytes)

include content bytes inRange encoded

theorem utf8Characters_encoded :
    utf8Characters surrogates {} bytes = content.map some := by
  rw [encodeUtf8_eq] at encoded
  split at encoded
  next => cases encoded
  next noSurrogate =>
    cases encoded
    induction content with
    | nil => rfl
    | cons code _ induction =>
      rw [List.any_cons, Bool.or_eq_true, not_or, Bool.not_eq_true] at noSurrogate
      rw [List.flatMap_cons, utf8Characters_bytes (inRange code List.mem_cons_self)
        noSurrogate.1, induction (fun other member =>
          inRange other (List.mem_cons_of_mem code member)) noSurrogate.2]
      rfl

theorem decodeStrict_encoded :
    decodeStrict bytes = some content := by
  have each : ∀ codes : Text, (codes.map some).mapM id = some codes := by
    intro codes
    induction codes with
    | nil => rfl
    | cons _ _ induction =>
      rw [List.map_cons, List.mapM_cons, induction]
      rfl
  rw [decodeStrict, utf8Characters_encoded inRange encoded, each]

end

theorem le_of_mem_utf8Bytes {code byte : Nat} (printed : 32 ≤ code)
    (member : byte ∈ utf8Bytes code) : 32 ≤ byte := by
  unfold utf8Bytes at member
  split at member
  · simp only [List.mem_singleton] at member
    omega
  · split at member
    · simp only [List.mem_cons, List.not_mem_nil, or_false] at member
      omega
    · split at member
      all_goals
        simp only [List.mem_cons, List.not_mem_nil, or_false] at member
        omega

/-! ## Lines -/

/-- The lines of some bytes, at newlines and carriage returns. -/
def splitLines : List Nat → List (List Nat)
  | [] => []
  | 13 :: 10 :: rest => [] :: splitLines rest
  | byte :: rest =>
    if byte = 10 || byte = 13 then [] :: splitLines rest
    else
      match splitLines rest with
      | [] => [[byte]]
      | line :: lines => (byte :: line) :: lines

theorem splitLines_cons {byte : Nat} (printed : 32 ≤ byte) (rest : List Nat) :
    splitLines (byte :: rest) =
      match splitLines rest with
      | [] => [[byte]]
      | line :: lines => (byte :: line) :: lines := by
  have noEnd : ¬(byte = 10 || byte = 13) = true := by
    simp only [Bool.or_eq_true, decide_eq_true_eq]
    omega
  rw [splitLines]
  · exact if_neg noEnd
  · intro more same
    omega

theorem splitLines_line {line : List Nat} (printed : ∀ byte ∈ line, 32 ≤ byte)
    (rest : List Nat) : splitLines (line ++ 10 :: rest) = line :: splitLines rest := by
  induction line with
  | nil => rfl
  | cons byte _ induction =>
    rw [List.cons_append, splitLines_cons (printed byte List.mem_cons_self),
      induction fun other member => printed other (List.mem_cons_of_mem byte member)]

end VideoAnalysis.Python
