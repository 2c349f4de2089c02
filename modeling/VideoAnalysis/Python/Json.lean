import VideoAnalysis.Foundation.Dict
import VideoAnalysis.Python.Number

/-! # JSON values

The values that `json.loads` makes, what the built-in conversions do with them, and
`json.loads` itself.
-/

namespace VideoAnalysis.Python

open VideoAnalysis.Foundation

inductive Json
  | null
  | bool (value : Bool)
  | int (value : Int)
  | float (value : Double)
  | str (value : Text)
  | list (items : List Json)
  | dict (entries : List (Text × Json))

namespace Json

/-- `value.get(key)` of a dictionary. -/
def lookup (entries : List (Text × Json)) (key : String) : Option Json :=
  Dict.get ⟨entries⟩ (text key)

/-- `value[key] = item` of a dictionary. -/
def store (entries : List (Text × Json)) (key : String) (item : Json) : List (Text × Json) :=
  (Dict.set ⟨entries⟩ (text key) item).entries

/-- `value.setdefault(key, item)`. -/
def setDefault (entries : List (Text × Json)) (key : String) (item : Json) :
    List (Text × Json) :=
  if (lookup entries key).isSome then entries else store entries key item

/-- `bool(value)`. -/
def truthy : Json → Bool
  | null => false
  | bool value => value
  | int value => value ≠ 0
  | float (.finite _ magnitude) => magnitude ≠ 0
  | float (.infinite _) | float .nan => true
  | str value => !value.isEmpty
  | list items => !items.isEmpty
  | dict entries => !entries.isEmpty

/-- `int(value)`. -/
def toInt : Json → Except PyError Int
  | bool value => .ok (if value then 1 else 0)
  | int value => .ok value
  | float value => value.toInt
  | str value => intOfText value
  | null | list _ | dict _ => .error .typeError

/-- `float(value)`. -/
def toFloat : Json → Except PyError Double
  | bool value => .ok (.finite false (if value then 1 else 0))
  | int value => Double.ofInt value
  | float value => .ok value
  | str value => floatOfText value
  | null | list _ | dict _ => .error .typeError

mutual

/-- No float in the value is an infinity or not a number. -/
def finite : Json → Bool
  | float value => value.isFinite
  | list items => finiteItems items
  | dict entries => finiteEntries entries
  | null | bool _ | int _ | str _ => true

def finiteItems : List Json → Bool
  | [] => true
  | item :: rest => item.finite && finiteItems rest

def finiteEntries : List (Text × Json) → Bool
  | [] => true
  | (_, value) :: rest => value.finite && finiteEntries rest

end

variable {value : Json}

theorem finite_of_lookup {entries : List (Text × Json)} {key : String}
    (isFinite : (dict entries).finite = true) (found : lookup entries key = some value) :
    value.finite = true := by
  simp only [finite] at isFinite
  simp only [lookup, Dict.get] at found
  induction entries with
  | nil => exact absurd found (by simp [Dict.lookup])
  | cons entry _ induction =>
    rcases entry with ⟨name, _⟩
    simp only [finiteEntries, Bool.and_eq_true] at isFinite
    by_cases same : name = text key
    · simp only [Dict.lookup, same, if_true] at found
      rw [← Option.some.inj found]
      exact isFinite.1
    · simp only [Dict.lookup, same, if_false] at found
      exact induction isFinite.2 found

variable (entries : List (Text × Json)) (key : String) (item : Json)

theorem lookup_store_self :
    lookup (store entries key item) key = some item :=
  Dict.get_set_self _ _ _

theorem lookup_store_of_ne {key other : String} (different : text other ≠ text key) :
    lookup (store entries key item) other = lookup entries other :=
  Dict.get_set_of_ne _ _ different

theorem lookup_store (other : String) (item : Json) :
    lookup (store entries key item) other =
      if other = key then some item else lookup entries other := by
  by_cases same : other = key
  · rw [if_pos same, same, lookup_store_self]
  · rw [if_neg same, lookup_store_of_ne _ _ fun equal => same (text_injective equal)]

theorem lookup_nil : lookup [] key = none := rfl

theorem lookup_cons (name key : String) (item : Json) :
    lookup ((text name, item) :: entries) key =
      if name = key then some item else lookup entries key := by
  by_cases same : name = key
  · rw [if_pos same, same]
    exact if_pos rfl
  · rw [if_neg same]
    exact if_neg fun equal => same (text_injective equal)

theorem lookup_append (first second : List (Text × Json)) (key : String) :
    lookup (first ++ second) key = (lookup first key).or (lookup second key) := by
  induction first with
  | nil => rfl
  | cons entry _ induction =>
    rcases entry with ⟨name, item⟩
    simp only [lookup, Dict.get, List.cons_append, Dict.lookup] at induction ⊢
    split
    next => rfl
    next => exact induction

theorem store_of_lookup {entries : List (Text × Json)} {key : String} {item : Json}
    (present : lookup entries key = some item) : store entries key item = entries := by
  simp only [lookup, Dict.get] at present
  simp only [store, Dict.set]
  induction entries with
  | nil => cases present
  | cons entry _ induction =>
    rcases entry with ⟨name, _⟩
    by_cases same : name = text key
    · simp only [Dict.lookup, if_pos same, Option.some.injEq] at present
      simp only [Dict.insert, if_pos same, present]
    · simp only [Dict.lookup, if_neg same] at present
      simp only [Dict.insert, if_neg same, induction present]

theorem lookup_setDefault (other : String) (item : Json) :
    lookup (setDefault entries key item) other =
      if other = key then some ((lookup entries key).getD item) else lookup entries other := by
  unfold setDefault
  cases present : lookup entries key with
  | none =>
    simp only [Option.isSome_none, Bool.false_eq_true, if_false, lookup_store, Option.getD_none]
  | some =>
    simp only [Option.isSome_some, if_true, Option.getD_some]
    by_cases same : other = key
    · rw [if_pos same, same, present]
    · rw [if_neg same]

theorem toInt_error (isFinite : value.finite = true) {error : PyError}
    (raised : value.toInt = .error error) : error = .typeError ∨ error = .valueError := by
  cases value with
  | null => exact Or.inl (Except.error.inj raised).symm
  | bool | int => exact absurd raised (by simp [toInt])
  | float value =>
    cases value with
    | finite => exact absurd raised (by simp [toInt, Double.toInt])
    | infinite => exact absurd isFinite (by simp [finite, Double.isFinite])
    | nan => exact Or.inr (Except.error.inj raised).symm
  | str =>
    simp only [toInt, intOfText] at raised
    split at raised
    · exact Or.inr (Except.error.inj raised).symm
    · split at raised
      · exact Or.inr (Except.error.inj raised).symm
      · exact absurd raised (by simp)
  | list | dict => exact Or.inl (Except.error.inj raised).symm

theorem toFloat_error {error : PyError} (raised : value.toFloat = .error error) :
    error = .typeError ∨ error = .valueError ∨ error = .overflowError := by
  cases value with
  | null => exact Or.inl (Except.error.inj raised).symm
  | bool => exact absurd raised (by simp [toFloat])
  | int => exact Or.inr (Or.inr (Double.ofInt_error raised))
  | float => exact absurd raised (by simp [toFloat])
  | str => exact Or.inr (Or.inl (floatOfText_error raised))
  | list | dict => exact Or.inl (Except.error.inj raised).symm

end Json

/-! ## Decoding -/

abbrev Parse (α : Type) := Text → Except PyError (α × Text)

def isJsonSpace (code : Nat) : Bool := code == 32 || code == 9 || code == 10 || code == 13

def skipSpace (content : Text) : Text := content.dropWhile isJsonSpace

def isDigit (code : Nat) : Bool := 48 ≤ code && code ≤ 57

def hexValue (code : Nat) : Option Nat :=
  if isDigit code then some (code - 48)
  else if 97 ≤ asciiLower code && asciiLower code ≤ 102 then some (asciiLower code - 87)
  else none

def hexCode (first second third fourth : Nat) : Option Nat := do
  let first ← hexValue first
  let second ← hexValue second
  let third ← hexValue third
  let fourth ← hexValue fourth
  return ((first * 16 + second) * 16 + third) * 16 + fourth

def simpleEscape (code : Nat) : Option Nat :=
  if code = 34 || code = 92 || code = 47 then some code
  else if code = 98 then some 8
  else if code = 102 then some 12
  else if code = 110 then some 10
  else if code = 114 then some 13
  else if code = 116 then some 9
  else none

/-- The next character of a text: a quote ends it, a control character is refused. -/
inductive StringStep
  | finished (rest : Text)
  | code (code : Nat) (rest : Text)
  | escaped (code : Nat) (rest : Text)
  | broken

def stringStep : Text → StringStep
  | [] => .broken
  | 34 :: rest => .finished rest
  | 92 :: 117 :: first :: second :: third :: fourth :: rest =>
    match hexCode first second third fourth with
    | some code => .escaped code rest
    | none => .broken
  | 92 :: escape :: rest =>
    match simpleEscape escape with
    | some code => .code code rest
    | none => .broken
  | code :: rest => if code < 32 || code = 92 then .broken else .code code rest

def isHighSurrogate (code : Nat) : Bool := 55296 ≤ code && code ≤ 56319

def isLowSurrogate (code : Nat) : Bool := 56320 ≤ code && code ≤ 57343

/-- The text behind its opening quote. An escaped high surrogate takes an escaped low
one that follows it. -/
def parseString : Nat → Parse Text
  | 0, _ => .error .jsonDecodeError
  | fuel + 1, content =>
    match stringStep content with
    | .broken => .error .jsonDecodeError
    | .finished rest => .ok ([], rest)
    | .code code rest => do
        let (codes, rest) ← parseString fuel rest
        return (code :: codes, rest)
    | .escaped code rest =>
      if isHighSurrogate code then
        match stringStep rest with
        | .escaped low after =>
          if isLowSurrogate low then do
            let (codes, after) ← parseString fuel after
            return ((65536 + (code - 55296) * 1024 + (low - 56320)) :: codes, after)
          else do
            let (codes, rest) ← parseString fuel rest
            return (code :: codes, rest)
        | _ => do
            let (codes, rest) ← parseString fuel rest
            return (code :: codes, rest)
      else do
        let (codes, rest) ← parseString fuel rest
        return (code :: codes, rest)

/-- A number: its whole part has no leading zero, and a fraction or an exponent that
does not go on with digits is not part of it. -/
def parseNumber (content : Text) : Except PyError (Json × Text) :=
  let (negative, body) := match content with
    | 45 :: rest => (true, rest)
    | _ => (false, content)
  let whole := match body with
    | 48 :: _ => [48]
    | _ => body.takeWhile isDigit
  if whole = [] then .error .jsonDecodeError
  else
    let afterWhole := body.drop whole.length
    let fraction := match afterWhole with
      | 46 :: rest => rest.takeWhile isDigit
      | _ => []
    let afterFraction :=
      if fraction = [] then afterWhole else afterWhole.drop (fraction.length + 1)
    let (signLength, exponentNegative) := match afterFraction with
      | _ :: 45 :: _ => (1, true)
      | _ :: 43 :: _ => (1, false)
      | _ => (0, false)
    let exponent := match afterFraction with
      | code :: rest =>
        if code = 101 || code = 69 then (rest.drop signLength).takeWhile isDigit else []
      | [] => []
    let rest :=
      if exponent = [] then afterFraction
      else afterFraction.drop (1 + signLength + exponent.length)
    let value := fun digits : Text => ofDigits (digits.map (· - 48))
    if fraction = [] && exponent = [] then
      if maxIntDigits < whole.length then .error .valueError
      else .ok (.int (if negative then -(value whole : Int) else value whole), rest)
    else
      let shift : Int := if exponentNegative then -(value exponent : Int) else value exponent
      .ok (.float (.ofDecimal negative (value (whole ++ fraction)) (shift - fraction.length)),
        rest)

def literals : List (Text × Json) :=
  [(text "null", .null), (text "true", .bool true), (text "false", .bool false),
    (text "NaN", .float .nan), (text "Infinity", .float (.infinite false)),
    (text "-Infinity", .float (.infinite true))]

def parseLiteral (content : Text) : Option (Json × Text) :=
  (literals.find? fun literal => literal.1.isPrefixOf content).map fun literal =>
    (literal.2, content.drop literal.1.length)

def parseItems (value : Parse Json) : Nat → Parse (List Json)
  | 0, _ => .error .jsonDecodeError
  | fuel + 1, content => do
      let (item, rest) ← value content
      match skipSpace rest with
      | 44 :: more => do
          let (items, rest) ← parseItems value fuel (skipSpace more)
          return (item :: items, rest)
      | 93 :: rest => return ([item], rest)
      | _ => throw .jsonDecodeError

def parseEntries (value : Parse Json) : Nat → Parse (List (Text × Json))
  | 0, _ => .error .jsonDecodeError
  | fuel + 1, content =>
    match content with
    | 34 :: rest => do
        let (key, rest) ← parseString (rest.length + 1) rest
        match skipSpace rest with
        | 58 :: rest => do
            let (item, rest) ← value (skipSpace rest)
            match skipSpace rest with
            | 44 :: more => do
                let (entries, rest) ← parseEntries value fuel (skipSpace more)
                return ((key, item) :: entries, rest)
            | 125 :: rest => return ([(key, item)], rest)
            | _ => throw .jsonDecodeError
        | _ => throw .jsonDecodeError
    | _ => throw .jsonDecodeError

def entriesOf (entries : List (Text × Json)) : List (Text × Json) :=
  (entries.foldl (fun dict entry => dict.set entry.1 entry.2) (∅ : Dict Text Json)).entries

/-- `depth` is what is left of the recursion limit. -/
def parseValue : Nat → Parse Json
  | _, 34 :: rest => do
      let (codes, rest) ← parseString (rest.length + 1) rest
      return (.str codes, rest)
  | 0, 91 :: _ | 0, 123 :: _ => .error .recursionError
  | depth + 1, 91 :: rest =>
    match skipSpace rest with
    | 93 :: rest => .ok (.list [], rest)
    | content => do
        let (items, rest) ← parseItems (parseValue depth) (content.length + 1) content
        return (.list items, rest)
  | depth + 1, 123 :: rest =>
    match skipSpace rest with
    | 125 :: rest => .ok (.dict [], rest)
    | content => do
        let (entries, rest) ← parseEntries (parseValue depth) (content.length + 1) content
        return (.dict (entriesOf entries), rest)
  | _, content =>
    match parseLiteral content with
    | some found => .ok found
    | none => parseNumber content

/-- `json.loads` of a text. -/
def loads (recursionLimit : Nat) (content : Text) : Except PyError Json :=
  match content with
  | 65279 :: _ => .error .jsonDecodeError
  | _ => do
      let (value, rest) ← parseValue recursionLimit (skipSpace content)
      if skipSpace rest = [] then return value else throw .jsonDecodeError

/-- `json.loads` of bytes. -/
def loadsBytes (recursionLimit : Nat) (bytes : List Nat) : Except PyError Json :=
  match decodeDetecting bytes with
  | none => .error .unicodeDecodeError
  | some content => do
      let (value, rest) ← parseValue recursionLimit (skipSpace content)
      if skipSpace rest = [] then return value else throw .jsonDecodeError

end VideoAnalysis.Python
