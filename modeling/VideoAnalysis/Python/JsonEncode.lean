import VideoAnalysis.Python.Json

/-! # Encoding JSON

`json.dumps`. The shortest literal of a float enters as a function.
-/

namespace VideoAnalysis.Python

structure JsonStyle where
  ensureAscii : Bool := true
  allowNan : Bool := true
  sortKeys : Bool := false
  itemSeparator : Text := text ", "
  keySeparator : Text := text ": "

def hexDigit (value : Nat) : Nat := if value < 10 then 48 + value else 87 + value

def hexEscape (code : Nat) : Text :=
  text "\\u" ++
    [hexDigit (code / 4096 % 16), hexDigit (code / 256 % 16), hexDigit (code / 16 % 16),
      hexDigit (code % 16)]

def escapeCode (ensureAscii : Bool) (code : Nat) : Text :=
  if code = 34 then text "\\\""
  else if code = 92 then text "\\\\"
  else if code = 8 then text "\\b"
  else if code = 12 then text "\\f"
  else if code = 10 then text "\\n"
  else if code = 13 then text "\\r"
  else if code = 9 then text "\\t"
  else if code < 32 then hexEscape code
  else if ensureAscii && 126 < code then
    if code < 65536 then hexEscape code
    else
      hexEscape (55296 + (code - 65536) / 1024) ++ hexEscape (56320 + (code - 65536) % 1024)
  else [code]

def encodeText (ensureAscii : Bool) (content : Text) : Text :=
  [34] ++ content.flatMap (escapeCode ensureAscii) ++ [34]

def intText (value : Int) : Text := text (toString value)

def textLe : Text → Text → Bool
  | [], _ => true
  | _ :: _, [] => false
  | first :: rest, other :: others =>
    first < other || (first == other && textLe rest others)

theorem textLe_total (first second : Text) : textLe first second || textLe second first := by
  induction first generalizing second with
  | nil => rfl
  | cons code _ induction =>
    cases second with
    | nil => rfl
    | cons other others =>
      rcases lt_trichotomy code other with less | rfl | more
      · simp [textLe, less]
      · simpa [textLe] using induction others
      · simp [textLe, more]

theorem textLe_trans {first second third : Text} (le : textLe first second = true)
    (le' : textLe second third = true) : textLe first third = true := by
  induction first generalizing second third with
  | nil => rfl
  | cons _ _ induction =>
    cases second with
    | nil => cases le
    | cons =>
      cases third with
      | nil => cases le'
      | cons =>
        simp only [textLe, Bool.or_eq_true, decide_eq_true_eq, Bool.and_eq_true,
          beq_iff_eq] at le le' ⊢
        rcases le with less | ⟨rfl, le⟩
        · rcases le' with less' | ⟨rfl, _⟩
          · exact Or.inl (less.trans less')
          · exact Or.inl less
        · rcases le' with less' | ⟨rfl, le'⟩
          · exact Or.inl less'
          · exact Or.inr ⟨rfl, induction le le'⟩

def joinTexts (separator : Text) (parts : List Text) : Text :=
  (parts.intersperse separator).flatten

variable (floatText : Double → Text) (style : JsonStyle)

mutual

def encode : Json → Text
  | .null => text "null"
  | .bool value => if value then text "true" else text "false"
  | .int value => intText value
  | .float (.finite negative magnitude) => floatText (.finite negative magnitude)
  | .float (.infinite negative) => if negative then text "-Infinity" else text "Infinity"
  | .float .nan => text "NaN"
  | .str value => encodeText style.ensureAscii value
  | .list items => text "[" ++ joinTexts style.itemSeparator (encodeItems items) ++ text "]"
  | .dict entries =>
    let encoded := encodeEntries entries
    let ordered :=
      if style.sortKeys then encoded.mergeSort fun first second => textLe first.1 second.1
      else encoded
    text "\x7b" ++ joinTexts style.itemSeparator (ordered.map Prod.snd) ++ text "\x7d"

def encodeItems : List Json → List Text
  | [] => []
  | item :: rest => encode item :: encodeItems rest

def encodeEntries : List (Text × Json) → List (Text × Text)
  | [] => []
  | (key, value) :: rest =>
    (key, encodeText style.ensureAscii key ++ style.keySeparator ++ encode value) ::
      encodeEntries rest

end

/-- `json.dumps`. -/
def dumps (value : Json) : Except PyError Text :=
  if !style.allowNan && !value.finite then .error .valueError
  else .ok (encode floatText style value)

end VideoAnalysis.Python
