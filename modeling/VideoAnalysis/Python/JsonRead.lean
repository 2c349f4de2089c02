import VideoAnalysis.Python.JsonSorted
import VideoAnalysis.Python.JsonTree
import VideoAnalysis.Python.Numeral

/-! # Reading JSON again

`json.loads` of what `json.dumps` writes without blanks and without escaping other characters
than it must.
-/

namespace VideoAnalysis.Python

open VideoAnalysis.Foundation

/-- `separators=(",", ":")` and `ensure_ascii=False`. -/
def JsonStyle.compact : JsonStyle where
  ensureAscii := false
  itemSeparator := text ","
  keySeparator := text ":"

namespace Json

mutual

/-- What `json.dumps` raises: a number has too many digits, or a value is nested deeper than
what is left of the recursion limit. -/
def dumpsError : Nat → Json → Option PyError
  | _, int value =>
    if maxIntDigits < (digitsText value.natAbs).length then some .valueError else none
  | 0, list _ | 0, dict _ => some .recursionError
  | depth + 1, list items => itemsError depth items
  | depth + 1, dict entries => entriesError depth entries
  | _, null | _, bool _ | _, float _ | _, str _ => none

def itemsError : Nat → List Json → Option PyError
  | _, [] => none
  | depth, item :: rest => (dumpsError depth item).or (itemsError depth rest)

def entriesError : Nat → List (Text × Json) → Option PyError
  | _, [] => none
  | depth, (_, value) :: rest => (dumpsError depth value).or (entriesError depth rest)

end

/-- A value as Python has it: no dictionary has a key twice, characters are code points, and
`floatText` makes literals of its floats. -/
inductive Sound (floatText : Double → Text) : Json → Prop
  | null : Sound floatText null
  | bool (value : Bool) : Sound floatText (bool value)
  | int (value : Int) : Sound floatText (int value)
  | finite {negative : Bool} {magnitude : ℚ}
      (literal : IsLiteral (floatText (.finite negative magnitude)) (.finite negative magnitude)) :
      Sound floatText (float (.finite negative magnitude))
  | infinite (negative : Bool) : Sound floatText (float (.infinite negative))
  | nan : Sound floatText (float .nan)
  | str {content : Text} (inRange : ∀ code ∈ content, code < 1114112) :
      Sound floatText (str content)
  | list {items : List Json} (each : ∀ item ∈ items, Sound floatText item) :
      Sound floatText (list items)
  | dict {entries : List (Text × Json)} (distinctKeys : (entries.map Prod.fst).Nodup)
      (keysInRange : ∀ entry ∈ entries, ∀ code ∈ entry.1, code < 1114112)
      (each : ∀ entry ∈ entries, Sound floatText entry.2) : Sound floatText (dict entries)

end Json

/-! ## Texts -/

theorem hexValue_hexDigit : ∀ digit < 16, hexValue (hexDigit digit) = some digit := by decide

theorem hexCode_hexDigits {code : Nat} (small : code < 65536) :
    hexCode (hexDigit (code / 4096 % 16)) (hexDigit (code / 256 % 16))
      (hexDigit (code / 16 % 16)) (hexDigit (code % 16)) = some code := by
  have whole : ((code / 4096 % 16 * 16 + code / 256 % 16) * 16 + code / 16 % 16) * 16 +
      code % 16 = code := by omega
  simp only [hexCode, hexValue_hexDigit _ (Nat.mod_lt _ (by decide)), bind, Option.bind, whole]
  rfl

theorem stringStep_escape (code : Nat) (rest : Text) :
    stringStep (escapeCode false code ++ rest) = .code code rest ∨
      stringStep (escapeCode false code ++ rest) = .escaped code rest ∧ code < 32 := by
  unfold escapeCode
  split
  next isCode => exact .inl (isCode ▸ rfl)
  split
  next isCode => exact .inl (isCode ▸ rfl)
  split
  next isCode => exact .inl (isCode ▸ rfl)
  split
  next isCode => exact .inl (isCode ▸ rfl)
  split
  next isCode => exact .inl (isCode ▸ rfl)
  split
  next isCode => exact .inl (isCode ▸ rfl)
  split
  next isCode => exact .inl (isCode ▸ rfl)
  split
  next control =>
    refine .inr ⟨?_, control⟩
    have isCode := @hexCode_hexDigits code (by omega)
    have escape : hexEscape code ++ rest = 92 :: 117 :: _ :: _ :: _ :: _ :: rest := rfl
    simp only [escape, stringStep, isCode]
  next notQuote notBackslash _ _ _ _ _ printable =>
    left
    simp only [Bool.false_and, Bool.false_eq_true, if_false, List.singleton_append]
    unfold stringStep
    split
    next same => cases same
    next same => exact absurd (List.cons.inj same).1 notQuote
    next same => exact absurd (List.cons.inj same).1 notBackslash
    next same => exact absurd (List.cons.inj same).1 notBackslash
    next same =>
      cases same
      simp [printable, notBackslash]

variable {content rest : Text}

theorem parseString_escaped {fuel : Nat} (enough : content.length < fuel) :
    parseString fuel (content.flatMap (escapeCode false) ++ 34 :: rest) = .ok (content, rest) := by
  induction content generalizing fuel with
  | nil =>
    cases fuel with
    | zero => cases enough
    | succ => rfl
  | cons code others induction =>
    cases fuel with
    | zero => cases enough
    | succ fuel =>
      have read := @induction fuel (Nat.lt_of_succ_lt_succ enough)
      rw [List.flatMap_cons, List.append_assoc]
      rcases stringStep_escape code (others.flatMap (escapeCode false) ++ 34 :: rest) with
        plain | ⟨escaped, control⟩
      · simp only [parseString, plain, read]
        rfl
      · have notHigh : isHighSurrogate code = false := by
          simp only [isHighSurrogate, Bool.and_eq_false_iff, decide_eq_false_iff_not]
          omega
        simp only [parseString, escaped, notHigh, read]
        rfl

theorem escapeCode_inhabited (code : Nat) : 1 ≤ (escapeCode false code).length := by
  simp only [escapeCode, Bool.false_and, Bool.false_eq_true, if_false]
  repeat' split
  all_goals first | decide | simp [hexEscape]

theorem parseString_encoded (content rest : Text) :
    parseString ((content.flatMap (escapeCode false) ++ 34 :: rest).length + 1)
      (content.flatMap (escapeCode false) ++ 34 :: rest) = .ok (content, rest) := by
  have long : content.length ≤ (content.flatMap (escapeCode false)).length := by
    induction content with
    | nil => exact Nat.le_refl 0
    | cons code =>
      have more := escapeCode_inhabited code
      rw [List.flatMap_cons, List.length_append, List.length_cons]
      omega
  refine parseString_escaped ?_
  rw [List.length_append]
  omega

/-! ## Values -/

theorem joinTexts_cons (separator first : Text) (others : List Text) :
    joinTexts separator (first :: others) =
      first ++ others.flatMap (separator ++ ·) := by
  induction others generalizing first with
  | nil => simp [joinTexts]
  | cons second _ induction =>
    have rest := induction second
    unfold joinTexts at rest ⊢
    rw [List.intersperse_cons_cons, List.flatten_cons, List.flatten_cons, rest]
    simp [List.flatMap_cons]

variable {floatText : Double → Text}

theorem joinTexts_around (separator : Text) (first last : List Text) :
    ∃ before after, ∀ part, joinTexts separator (first ++ part :: last) =
      before ++ part ++ after := by
  cases first with
  | nil => exact ⟨[], last.flatMap (separator ++ ·), fun part => joinTexts_cons separator part last⟩
  | cons start others =>
    refine ⟨start ++ others.flatMap (separator ++ ·) ++ separator,
      last.flatMap (separator ++ ·), fun part => ?_⟩
    rw [List.cons_append, joinTexts_cons, List.flatMap_append, List.flatMap_cons]
    simp only [List.append_assoc]

variable {numeral : Numeral}

theorem numeral_head (wellFormed : numeral.WellFormed) :
    (∃ first rest, numeral.text = first :: rest ∧ isDigit first = true) ∨
      ∃ first rest, numeral.text = 45 :: first :: rest ∧ isDigit first = true := by
  cases isWhole : numeral.whole with
  | nil => exact absurd isWhole wellFormed.whole
  | cons first =>
    have isDigits := wellFormed.wholeDigits first (by simp [isWhole])
    cases isNegative : numeral.negative with
    | false => exact .inl ⟨first, _, by simp [Numeral.text, isNegative, isWhole]; rfl, isDigits⟩
    | true => exact .inr ⟨first, _, by simp [Numeral.text, isNegative, isWhole]; rfl, isDigits⟩

theorem literal_begins : ∀ literal ∈ literals, ∃ first second rest,
    literal.1 = first :: second :: rest ∧ isDigit first = false ∧
      (first = 45 → isDigit second = false) := by
  simp only [literals, List.forall_mem_cons]
  exact ⟨⟨_, _, _, rfl, rfl, nofun⟩, ⟨_, _, _, rfl, rfl, nofun⟩, ⟨_, _, _, rfl, rfl, nofun⟩,
    ⟨_, _, _, rfl, rfl, nofun⟩, ⟨_, _, _, rfl, rfl, nofun⟩, ⟨_, _, _, rfl, rfl, fun _ => rfl⟩,
    List.forall_mem_nil _⟩

theorem parseLiteral_numeral (wellFormed : numeral.WellFormed)
    (rest : Text) : parseLiteral (numeral.text ++ rest) = none := by
  have noLiteral : ∀ literal ∈ literals,
      ¬literal.1.isPrefixOf (numeral.text ++ rest) = true := by
    intro literal member isStart
    rcases literal_begins literal member with ⟨_, _, _, isLiteral, notDigit, signed⟩
    rw [isLiteral] at isStart
    rcases numeral_head wellFormed with ⟨first, more, isText, digit⟩ | ⟨first, more, isText, digit⟩
    · rw [isText, List.cons_append, List.isPrefixOf_cons_cons, Bool.and_eq_true,
        beq_iff_eq] at isStart
      rw [isStart.1, digit] at notDigit
      cases notDigit
    · rw [isText, List.cons_append, List.cons_append, List.isPrefixOf_cons_cons,
        List.isPrefixOf_cons_cons, Bool.and_eq_true, Bool.and_eq_true, beq_iff_eq,
        beq_iff_eq] at isStart
      have second := signed isStart.1
      rw [isStart.2.1, digit] at second
      cases second
  rw [parseLiteral, List.find?_eq_none.mpr noLiteral]
  rfl

theorem parseValue_scalar {first : Nat} {rest : Text} (depth : Nat) (notText : first ≠ 34)
    (notList : first ≠ 91) (notDict : first ≠ 123) :
    parseValue depth (first :: rest) =
      match parseLiteral (first :: rest) with
      | some found => .ok found
      | none => parseNumber (first :: rest) := by
  unfold parseValue
  split
  next same => exact absurd (List.cons.inj same).1 notText
  next same => exact absurd (List.cons.inj same).1 notList
  next same => exact absurd (List.cons.inj same).1 notDict
  next same => exact absurd (List.cons.inj same).1 notList
  next same => exact absurd (List.cons.inj same).1 notDict
  next => rfl

theorem parseValue_numeral (wellFormed : numeral.WellFormed) (depth : Nat) (rest : Text) :
    parseValue depth (numeral.text ++ rest) = parseNumber (numeral.text ++ rest) := by
  have noLiteral := parseLiteral_numeral wellFormed rest
  have scalar : ∃ first more, numeral.text = first :: more ∧ first ≠ 34 ∧ first ≠ 91 ∧
      first ≠ 123 := by
    rcases numeral_head wellFormed with ⟨first, more, isText, digit⟩ | ⟨first, more, isText, _⟩
    · simp only [isDigit, Bool.and_eq_true, decide_eq_true_eq] at digit
      exact ⟨first, more, isText, by omega, by omega, by omega⟩
    · exact ⟨45, first :: more, isText, by decide, by decide, by decide⟩
  rcases scalar with ⟨_, _, isText, notText, notList, notDict⟩
  rw [isText] at noLiteral ⊢
  rw [List.cons_append] at noLiteral ⊢
  rw [parseValue_scalar depth notText notList notDict, noLiteral]

/-- How a value begins: with no blank, not like the end of a list, and in ASCII. -/
def Begins : Text → Prop
  | [] => False
  | first :: _ => isJsonSpace first = false ∧ first ≠ 93 ∧ first < 127

theorem begins_numeral (wellFormed : numeral.WellFormed) :
    Begins numeral.text := by
  rcases numeral_head wellFormed with ⟨first, more, isText, digit⟩ | ⟨first, more, isText, _⟩
  · rw [isText]
    simp only [isDigit, Bool.and_eq_true, decide_eq_true_eq] at digit
    refine ⟨?_, by omega, by omega⟩
    simp only [isJsonSpace, Bool.or_eq_false_iff, beq_eq_false_iff_ne]
    omega
  · rw [isText]
    exact ⟨rfl, by decide, by decide⟩

theorem skipSpace_begins (begins : Begins content) :
    skipSpace (content ++ rest) = content ++ rest := by
  cases content with
  | nil => cases begins
  | cons => simp [skipSpace, begins.1]

variable {floatText : Double → Text}

variable {value : Json}

theorem begins_encode (sound : value.Sound floatText) :
    Begins (encode floatText .compact value) := by
  cases sound with
  | null => exact ⟨rfl, by decide, by decide⟩
  | bool value => cases value <;> exact ⟨rfl, by decide, by decide⟩
  | int value =>
    have begins := begins_numeral (intNumeral_wellFormed value)
    rw [intNumeral_text] at begins
    exact begins
  | finite literal =>
    rcases literal with ⟨_, wellFormed, same, _⟩
    have begins := begins_numeral wellFormed
    rw [same] at begins
    exact begins
  | infinite negative => cases negative <;> exact ⟨rfl, by decide, by decide⟩
  | nan | str | list | dict => exact ⟨rfl, by decide, by decide⟩

/-! ## Lists and dictionaries -/

/-- Every item is read again, whatever may stand behind it. -/
def ReadAgain (floatText : Double → Text) (depth : Nat) (value : Json) : Prop :=
  ∀ rest, Delimited rest →
    parseValue depth (encode floatText .compact value ++ rest) = .ok (value, rest)

theorem skipSpace_cons {first : Nat} (rest : Text) (printed : isJsonSpace first = false) :
    skipSpace (first :: rest) = first :: rest := by
  simp [skipSpace, printed]

theorem delimited_comma (rest : Text) : Delimited (44 :: rest) := ⟨rfl, by decide⟩

theorem parseItems_encoded {depth fuel : Nat} {item : Json} {others : List Json} {rest : Text}
    (sound : ∀ value ∈ item :: others, value.Sound floatText)
    (read : ∀ value ∈ item :: others, ReadAgain floatText depth value)
    (enough : others.length < fuel) :
    parseItems (parseValue depth) fuel (encode floatText .compact item ++
      ((others.flatMap fun other => 44 :: encode floatText .compact other) ++ 93 :: rest)) =
      .ok (item :: others, rest) := by
  induction others generalizing item fuel with
  | nil =>
    cases fuel with
    | zero => cases enough
    | succ =>
      have first := read item List.mem_cons_self (93 :: rest) ⟨rfl, by decide⟩
      simp only [parseItems, List.flatMap_nil, List.nil_append, first, bind, Except.bind]
      rfl
  | cons second _ induction =>
    cases fuel with
    | zero => cases enough
    | succ fuel =>
      have more := @induction fuel second
        (fun value member => sound value (List.mem_cons_of_mem item member))
        (fun value member => read value (List.mem_cons_of_mem item member))
        (Nat.lt_of_succ_lt_succ enough)
      have begins := begins_encode (sound second (by simp))
      rw [List.flatMap_cons, List.append_assoc, List.cons_append, parseItems,
        read item List.mem_cons_self _ (delimited_comma _)]
      simp only [bind, Except.bind, skipSpace_cons _ (show isJsonSpace 44 = false from rfl),
        skipSpace_begins begins, more]
      rfl

def entryText (floatText : Double → Text) (entry : Text × Json) : Text :=
  encodeText false entry.1 ++ 58 :: encode floatText .compact entry.2

theorem parseEntries_encoded {depth fuel : Nat} {entry : Text × Json}
    {others : List (Text × Json)} {rest : Text}
    (sound : ∀ each ∈ entry :: others, each.2.Sound floatText)
    (read : ∀ each ∈ entry :: others, ReadAgain floatText depth each.2)
    (enough : others.length < fuel) :
    parseEntries (parseValue depth) fuel (entryText floatText entry ++
      ((others.flatMap fun other => 44 :: entryText floatText other) ++ 125 :: rest)) =
      .ok (entry :: others, rest) := by
  have keyRead : ∀ (each : Text × Json) (tail : Text), entryText floatText each ++ tail =
      34 :: (each.1.flatMap (escapeCode false) ++
        34 :: 58 :: (encode floatText .compact each.2 ++ tail)) := by
    intro each tail
    simp [entryText, encodeText]
  induction others generalizing entry fuel with
  | nil =>
    cases fuel with
    | zero => cases enough
    | succ =>
      have value := read entry List.mem_cons_self (125 :: rest) ⟨rfl, by decide⟩
      have begins := begins_encode (sound entry List.mem_cons_self)
      rw [keyRead, parseEntries, parseString_encoded]
      simp only [bind, Except.bind, skipSpace_cons _ (show isJsonSpace 58 = false from rfl),
        skipSpace_begins begins, List.flatMap_nil, List.nil_append, value]
      rfl
  | cons second _ induction =>
    cases fuel with
    | zero => cases enough
    | succ fuel =>
      have more := @induction fuel second
        (fun each member => sound each (List.mem_cons_of_mem entry member))
        (fun each member => read each (List.mem_cons_of_mem entry member))
        (Nat.lt_of_succ_lt_succ enough)
      have begins := begins_encode (sound entry List.mem_cons_self)
      have quoted : ∀ tail, skipSpace (entryText floatText second ++ tail) =
          entryText floatText second ++ tail := by
        intro tail
        rw [keyRead]
        exact skipSpace_cons _ rfl
      rw [keyRead, parseEntries, parseString_encoded]
      simp only [bind, Except.bind, skipSpace_cons _ (show isJsonSpace 58 = false from rfl),
        skipSpace_begins begins, List.flatMap_cons, List.append_assoc, List.cons_append,
        read entry List.mem_cons_self _ (delimited_comma _),
        skipSpace_cons _ (show isJsonSpace 44 = false from rfl), quoted, more]
      rfl

theorem length_le_flatMap {Item : Type} (mark : Nat) (write : Item → Text) (items : List Item) :
    items.length ≤ (items.flatMap fun item => mark :: write item).length := by
  induction items with
  | nil => exact Nat.le_refl 0
  | cons =>
    rw [List.flatMap_cons, List.length_append, List.length_cons, List.length_cons]
    omega

theorem encodeItems_eq_map (style : JsonStyle) (items : List Json) :
    encodeItems floatText style items = items.map (encode floatText style) := by
  induction items with
  | nil => rfl
  | cons _ _ induction =>
    rw [List.map_cons, ← induction]
    rfl

theorem encode_list (item : Json) (others : List Json) (rest : Text) :
    encode floatText .compact (.list (item :: others)) ++ rest =
      91 :: (encode floatText .compact item ++
        ((others.flatMap fun other => 44 :: encode floatText .compact other) ++ 93 :: rest)) := by
  have separated : ∀ items : List Json,
      (items.map (encode floatText .compact)).flatMap (text "," ++ ·) =
        items.flatMap fun other => 44 :: encode floatText .compact other := by
    intro items
    rw [List.flatMap_map]
    rfl
  simp only [encode, encodeItems_eq_map, List.map_cons, joinTexts_cons, JsonStyle.compact] at *
  rw [separated]
  simp [text]

theorem encode_entries (entries : List (Text × Json)) :
    encode floatText .compact (.dict entries) =
      text "\x7b" ++ joinTexts (text ",") (entries.map (entryText floatText)) ++ text "\x7d" := by
  have written : (encodeEntries floatText .compact entries).map Prod.snd =
      entries.map (entryText floatText) := by
    rw [encodeEntries_eq_map, List.map_map]
    exact List.map_congr_left fun other _ => List.append_assoc _ _ _
  rw [← written]
  simp only [encode]
  rfl

theorem encode_dict (entry : Text × Json) (others : List (Text × Json)) (rest : Text) :
    encode floatText .compact (.dict (entry :: others)) ++ rest =
      123 :: (entryText floatText entry ++
        ((others.flatMap fun other => 44 :: entryText floatText other) ++ 125 :: rest)) := by
  have separated : ∀ entries : List (Text × Json),
      (entries.map (entryText floatText)).flatMap (text "," ++ ·) =
        entries.flatMap fun other => 44 :: entryText floatText other := by
    intro entries
    rw [List.flatMap_map]
    rfl
  rw [encode_entries, List.map_cons, joinTexts_cons, separated]
  simp [text]

/-! ## Errors -/

namespace Json

theorem dumpsError_of_mem {depth : Nat} {items : List Json} {item : Json}
    (writes : itemsError depth items = none) (member : item ∈ items) :
    dumpsError depth item = none := by
  induction items with
  | nil => cases member
  | cons _ _ induction =>
    rw [itemsError, Option.or_eq_none_iff] at writes
    rcases List.mem_cons.mp member with rfl | inRest
    · exact writes.1
    · exact induction writes.2 inRest

theorem dumpsError_of_entry {depth : Nat} {entries : List (Text × Json)} {entry : Text × Json}
    (writes : entriesError depth entries = none) (member : entry ∈ entries) :
    dumpsError depth entry.2 = none := by
  induction entries with
  | nil => cases member
  | cons first _ induction =>
    rcases first with ⟨key, value⟩
    rw [entriesError, Option.or_eq_none_iff] at writes
    rcases List.mem_cons.mp member with rfl | inRest
    · exact writes.1
    · exact induction writes.2 inRest

theorem dumpsError_mono {depth more : Nat} {value : Json} (le : depth ≤ more)
    (writes : dumpsError depth value = none) : dumpsError more value = none := by
  induction depth generalizing more value with
  | zero =>
    cases value with
    | null | bool _ | int _ | float _ | str _ =>
      rw [← writes]
      cases more <;> rfl
    | list _ | dict _ => cases writes
  | succ _ induction =>
    cases more with
    | zero => cases le
    | succ more =>
      have below := fun value => @induction more value (Nat.le_of_succ_le_succ le)
      cases value with
      | null | bool _ | int _ | float _ | str _ => exact writes
      | list items =>
        rw [dumpsError] at writes ⊢
        induction items with
        | nil => rfl
        | cons item _ others =>
          rw [itemsError, Option.or_eq_none_iff] at writes ⊢
          exact ⟨below item writes.1, others writes.2⟩
      | dict entries =>
        rw [dumpsError] at writes ⊢
        induction entries with
        | nil => rfl
        | cons entry _ others =>
          rcases entry with ⟨_, value⟩
          rw [entriesError, Option.or_eq_none_iff] at writes ⊢
          exact ⟨below value writes.1, others writes.2⟩

end Json

/-! ## What was written -/

theorem parseValue_literal (depth : Nat)
    (plain : ∃ first more, content = first :: more ∧ first ≠ 34 ∧ first ≠ 91 ∧ first ≠ 123)
    (literal : parseLiteral (content ++ rest) = some (value, rest)) :
    parseValue depth (content ++ rest) = .ok (value, rest) := by
  rcases plain with ⟨_, _, rfl, notText, notList, notDict⟩
  rw [List.cons_append] at literal ⊢
  rw [parseValue_scalar depth notText notList notDict, literal]

variable {depth : Nat}

theorem readAgain_scalar (sound : value.Sound floatText)
    (writes : value.dumpsError depth = none) (scalar : value.isScalar = true) :
    ReadAgain floatText depth value := by
  intro rest delimited
  cases sound with
  | null => exact parseValue_literal depth ⟨_, _, rfl, by decide, by decide, by decide⟩ rfl
  | bool value =>
    cases value with
    | true | false =>
      exact parseValue_literal depth ⟨_, _, rfl, by decide, by decide, by decide⟩ rfl
  | int value =>
    have short : (digitsText value.natAbs).length ≤ maxIntDigits := by
      simp only [Json.dumpsError] at writes
      split at writes
      next => cases writes
      next short => exact Nat.not_lt.mp short
    have numeral := parseValue_numeral (intNumeral_wellFormed value) depth rest
    rw [intNumeral_text, parseNumber_intText short delimited] at numeral
    exact numeral
  | @finite _ _ literal =>
    have isNumber := parseNumber_literal literal delimited
    rcases literal with ⟨_, wellFormed, same, _⟩
    have read := parseValue_numeral wellFormed depth rest
    rw [same, isNumber] at read
    exact read
  | infinite negative =>
    cases negative with
    | true | false =>
      exact parseValue_literal depth ⟨_, _, rfl, by decide, by decide, by decide⟩ rfl
  | nan => exact parseValue_literal depth ⟨_, _, rfl, by decide, by decide, by decide⟩ rfl
  | @str content =>
    have quoted : encode floatText .compact (.str content) ++ rest =
        34 :: (content.flatMap (escapeCode false) ++ 34 :: rest) := by
      simp [encode, encodeText, JsonStyle.compact]
    rw [quoted]
    unfold parseValue
    simp only [parseString_encoded, bind, Except.bind]
    rfl
  | list | dict => cases scalar

theorem readAgain_list {items : List Json} (sound : ∀ item ∈ items, item.Sound floatText)
    (read : ∀ item ∈ items, ReadAgain floatText depth item) :
    ReadAgain floatText (depth + 1) (.list items) := by
  intro rest _
  cases items with
  | nil => rfl
  | cons item others =>
    have begins := begins_encode (sound item List.mem_cons_self)
    have first : ∀ tail more, encode floatText .compact item ++ tail ≠ 93 :: more := by
      intro tail more same
      cases isText : encode floatText .compact item with
      | nil =>
        rw [isText] at begins
        cases begins
      | cons =>
        rw [isText] at begins same
        exact begins.2.1 (List.cons.inj same).1
    rw [encode_list]
    unfold parseValue
    simp only [skipSpace_begins begins]
    split
    next same => exact absurd same (first _ _)
    next =>
      have enough := length_le_flatMap 44 (encode floatText .compact) others
      rw [parseItems_encoded sound read (by simp only [List.length_append]; omega)]
      rfl

theorem readAgain_dict {entries : List (Text × Json)}
    (sound : (Json.dict entries).Sound floatText)
    (read : ∀ entry ∈ entries, ReadAgain floatText depth entry.2) :
    ReadAgain floatText (depth + 1) (.dict entries) := by
  intro rest _
  cases entries with
  | nil => rfl
  | cons entry others =>
    cases sound with
    | dict distinctKeys _ each =>
      have same : entriesOf (entry :: others) = entry :: others :=
        Dict.entries_ofPairs distinctKeys
      rw [encode_dict]
      unfold parseValue
      have quoted : ∀ tail, skipSpace (entryText floatText entry ++ tail) =
          entryText floatText entry ++ tail := fun tail => skipSpace_cons _ rfl
      simp only [quoted]
      split
      next same => cases (List.cons.inj same).1
      next =>
        have enough := length_le_flatMap 44 (entryText floatText) others
        rw [parseEntries_encoded each read (by simp only [List.length_append]; omega)]
        simp only [bind, Except.bind, same]
        rfl

theorem parseValue_encoded (sound : value.Sound floatText)
    (writes : value.dumpsError depth = none) : ReadAgain floatText depth value := by
  induction depth generalizing value with
  | zero =>
    refine readAgain_scalar sound writes ?_
    cases value with
    | null | bool _ | int _ | float _ | str _ => rfl
    | list _ | dict _ => cases writes
  | succ _ induction =>
    cases value with
    | null | bool _ | int _ | float _ | str _ => exact readAgain_scalar sound writes rfl
    | list =>
      cases sound with
      | list each =>
        exact readAgain_list each fun item member =>
          induction (each item member) (Json.dumpsError_of_mem writes member)
    | dict =>
      cases sound with
      | dict distinctKeys keysInRange each =>
        exact readAgain_dict (.dict distinctKeys keysInRange each) fun entry member =>
          induction (each entry member) (Json.dumpsError_of_entry writes member)

end VideoAnalysis.Python
