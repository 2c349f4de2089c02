import VideoAnalysis.Python.JsonRead
import VideoAnalysis.Python.Utf8

/-! # JSON lines

A value that is written as one line of UTF-8 is read from the line again.
-/

namespace VideoAnalysis.Python

open VideoAnalysis.Foundation

namespace Json

mutual

/-- A surrogate stands in a key or a text of the value. -/
def hasSurrogate : Json → Bool
  | str content => content.any isSurrogate
  | list items => itemsHaveSurrogate items
  | dict entries => entriesHaveSurrogate entries
  | null | bool _ | int _ | float _ => false

def itemsHaveSurrogate : List Json → Bool
  | [] => false
  | item :: rest => item.hasSurrogate || itemsHaveSurrogate rest

def entriesHaveSurrogate : List (Text × Json) → Bool
  | [] => false
  | (key, value) :: rest =>
    key.any isSurrogate || value.hasSurrogate || entriesHaveSurrogate rest

end

end Json

/-- `json.loads(line.decode("utf-8"))`. -/
def loadsLine (recursionLimit : Nat) (line : List Nat) : Except PyError Json :=
  match decodeStrict line with
  | none => .error .unicodeDecodeError
  | some content => loads recursionLimit content

variable {floatText : Double → Text}

/-! ## Characters that are written -/

def Printable (code : Nat) : Prop := 32 ≤ code ∧ code < 127

theorem escape_printable : ∀ code < 93, code < 32 ∨ code = 34 ∨ code = 92 →
    ∀ other ∈ escapeCode false code, 32 ≤ other ∧ other < 127 := by decide

/-- A character that is written as it is, and the surrogates among the characters. -/
structure Written (content : Text) (surrogate : Bool) : Prop where
  inRange : ∀ code ∈ content, 32 ≤ code ∧ code < 1114112
  any : content.any isSurrogate = surrogate

namespace Written

theorem nil : Written [] false := ⟨List.forall_mem_nil _, rfl⟩

theorem append {first second : Text} {one other : Bool} (firstWritten : Written first one)
    (secondWritten : Written second other) : Written (first ++ second) (one || other) where
  inRange code member := by
    rcases List.mem_append.mp member with isFirst | isSecond
    · exact firstWritten.inRange code isFirst
    · exact secondWritten.inRange code isSecond
  any := by rw [List.any_append, firstWritten.any, secondWritten.any]

theorem of_printable {content : Text} (printable : ∀ code ∈ content, Printable code) :
    Written content false where
  inRange code member := by
    have isPrintable := printable code member
    unfold Printable at isPrintable
    omega
  any := by
    rw [List.any_eq_false]
    intro code member
    have isPrintable := printable code member
    simp only [Printable] at isPrintable
    simp only [isSurrogate, Bool.and_eq_true, decide_eq_true_eq]
    omega

theorem escape {code : Nat} (inRange : code < 1114112) :
    Written (escapeCode false code) (isSurrogate code) := by
  by_cases special : code < 32 ∨ code = 34 ∨ code = 92
  · have notSurrogate : isSurrogate code = false := by
      simp only [isSurrogate, Bool.and_eq_false_iff, decide_eq_false_iff_not]
      omega
    rw [notSurrogate]
    exact of_printable (escape_printable code (by omega) special)
  · have same : escapeCode false code = [code] := by
      have others : ∀ other < 32, code ≠ other := fun other small equal => special (by omega)
      simp only [escapeCode, others _ (show 8 < 32 by decide), others _ (show 12 < 32 by decide),
        others _ (show 10 < 32 by decide), others _ (show 13 < 32 by decide),
        others _ (show 9 < 32 by decide), Bool.false_and, Bool.false_eq_true, if_false]
      rw [if_neg (by omega), if_neg (by omega), if_neg (by omega)]
    rw [same]
    refine ⟨?_, by simp⟩
    intro other member
    rw [List.mem_singleton] at member
    omega

theorem flatMap {Item : Type} {write : Item → Text} {surrogate : Item → Bool} {items : List Item}
    (each : ∀ item ∈ items, Written (write item) (surrogate item)) :
    Written (items.flatMap write) (items.any surrogate) := by
  induction items with
  | nil => exact nil
  | cons item _ induction =>
    rw [List.flatMap_cons, List.any_cons]
    exact (each item List.mem_cons_self).append
      (induction fun other member => each other (List.mem_cons_of_mem item member))

theorem quoted {content : Text} (inRange : ∀ code ∈ content, code < 1114112) :
    Written (encodeText false content) (content.any isSurrogate) := by
  have quote : Written [34] false := of_printable (by simp [Printable])
  have written := (quote.append (flatMap fun code member => escape (inRange code member))).append
    quote
  rw [Bool.false_or, Bool.or_false] at written
  exact written

end Written

theorem numeral_printable {numeral : Numeral} (wellFormed : numeral.WellFormed) :
    ∀ code ∈ numeral.text, Printable code := by
  have digits : ∀ code, isDigit code = true → Printable code := by
    intro code digit
    simp only [isDigit, Bool.and_eq_true, decide_eq_true_eq] at digit
    unfold Printable
    omega
  have signs : ∀ code ∈ numeral.exponentSign, Printable code := by
    have sign := wellFormed.exponentSign
    simp only [List.mem_cons, List.not_mem_nil, or_false] at sign
    rcases sign with none | plus | minus
    · simp [none]
    · simp [plus, Printable]
    · simp [minus, Printable]
  intro code member
  simp only [Numeral.text, Numeral.fractionText, Numeral.exponentText, List.mem_append] at member
  rcases member with sign | whole | fraction | exponent
  · split at sign
    next =>
      rw [List.mem_singleton.mp sign]
      exact ⟨by decide, by decide⟩
    next => cases sign
  · exact digits code (wellFormed.wholeDigits code whole)
  · split at fraction
    next => cases fraction
    next =>
      rcases List.mem_cons.mp fraction with rfl | digit
      · exact ⟨by decide, by decide⟩
      · exact digits code (wellFormed.fractionDigits code digit)
  · split at exponent
    next => cases exponent
    next =>
      rcases List.mem_cons.mp exponent with rfl | others
      · exact ⟨by decide, by decide⟩
      · rcases List.mem_append.mp others with sign | digit
        · exact signs code sign
        · exact digits code (wellFormed.exponentDigits code digit)

theorem Json.itemsHaveSurrogate_eq (items : List Json) :
    itemsHaveSurrogate items = items.any hasSurrogate := by
  induction items with
  | nil => rfl
  | cons _ _ induction =>
    rw [List.any_cons, ← induction]
    rfl

theorem Json.entriesHaveSurrogate_eq (entries : List (Text × Json)) :
    entriesHaveSurrogate entries =
      entries.any fun entry => entry.1.any isSurrogate || entry.2.hasSurrogate := by
  induction entries with
  | nil => rfl
  | cons _ _ induction =>
    rw [List.any_cons, ← induction]
    rfl

theorem written_text {literal : String}
    (printable : ∀ code ∈ text literal, 32 ≤ code ∧ code < 127) : Written (text literal) false :=
  .of_printable printable

theorem written_entry {entry : Text × Json} (keyInRange : ∀ code ∈ entry.1, code < 1114112)
    (value : Written (encode floatText .compact entry.2) entry.2.hasSurrogate) :
    Written (entryText floatText entry) (entry.1.any isSurrogate || entry.2.hasSurrogate) := by
  have colon : Written [58] false := @written_text ":" (by decide)
  have behind := colon.append value
  rw [Bool.false_or] at behind
  exact (Written.quoted keyInRange).append behind

theorem written_encode {value : Json} (sound : value.Sound floatText) :
    Written (encode floatText .compact value) value.hasSurrogate := by
  have comma : Written [44] false := @written_text "," (by decide)
  induction sound with
  | null => exact @written_text "null" (by decide)
  | bool value =>
    cases value with
    | true => exact @written_text "true" (by decide)
    | false => exact @written_text "false" (by decide)
  | int value =>
    have printable := numeral_printable (intNumeral_wellFormed value)
    rw [intNumeral_text] at printable
    exact .of_printable printable
  | finite literal =>
    rcases literal with ⟨_, wellFormed, same, _⟩
    have printable := numeral_printable wellFormed
    rw [same] at printable
    exact .of_printable printable
  | infinite negative =>
    cases negative with
    | true => exact @written_text "-Infinity" (by decide)
    | false => exact @written_text "Infinity" (by decide)
  | nan => exact @written_text "NaN" (by decide)
  | str inRange => exact .quoted inRange
  | @list items _ written =>
    cases items with
    | nil => exact @written_text "[]" (by decide)
    | cons item others =>
      have same := @encode_list floatText item others []
      have behind := Written.flatMap fun other member =>
        comma.append (written other (List.mem_cons_of_mem item member))
      have whole := (@written_text "[" (by decide)).append
        ((written item List.mem_cons_self).append
          (behind.append (@written_text "]" (by decide))))
      rw [List.append_nil] at same
      rw [same, Json.hasSurrogate, Json.itemsHaveSurrogate_eq, List.any_cons]
      simp only [Bool.false_or, Bool.or_false] at whole
      exact whole
  | @dict entries _ keysInRange _ written =>
    cases entries with
    | nil => exact @written_text "\x7b\x7d" (by decide)
    | cons entry others =>
      have same := @encode_dict floatText entry others []
      have entryWritten := fun other member =>
        written_entry (keysInRange other member) (written other member)
      have behind := Written.flatMap fun other member =>
        comma.append (entryWritten other (List.mem_cons_of_mem entry member))
      have whole := (@written_text "\x7b" (by decide)).append
        ((entryWritten entry List.mem_cons_self).append
          (behind.append (@written_text "\x7d" (by decide))))
      rw [List.append_nil] at same
      rw [same, Json.hasSurrogate, Json.entriesHaveSurrogate_eq, List.any_cons]
      simp only [Bool.false_or, Bool.or_false] at whole
      exact whole

theorem loadsLine_encoded {depth : Nat} {value : Json} {bytes : List Nat}
    (sound : value.Sound floatText) (writes : value.dumpsError depth = none)
    (encoded : encodeUtf8 (encode floatText .compact value) = some bytes) :
    loadsLine depth bytes = .ok value := by
  have written := written_encode sound
  have begins := begins_encode sound
  have read := parseValue_encoded sound writes [] trivial
  have decoded := decodeStrict_encoded (fun code member => (written.inRange code member).2) encoded
  have blank := @skipSpace_begins _ [] begins
  rw [List.append_nil] at read blank
  have noMark : ∀ more, encode floatText .compact value ≠ 65279 :: more := by
    intro more same
    rw [same] at begins
    exact absurd begins.2.2 (by decide)
  simp only [loadsLine, decoded]
  unfold loads
  split
  next same => exact absurd same (noMark _)
  next =>
    rw [blank, read]
    rfl

end VideoAnalysis.Python
