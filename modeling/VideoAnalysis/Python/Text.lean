import Mathlib.Data.List.Basic

/-! # Text and bytes

A text is a list of code points, lone surrogates among them; bytes are numbers
below 256. The decoders follow the codecs of the standard library.
-/

namespace VideoAnalysis.Python

abbrev Text := List Nat

instance : LawfulBEq Text := inferInstance

def text (literal : String) : Text := literal.toList.map Char.toNat

theorem text_injective : Function.Injective text := by
  intro first second same
  apply String.toList_inj.mp
  exact List.map_injective_iff.mpr (fun _ _ => Char.toNat_inj.mp) same

/-- `str.isspace` for one character. -/
def isSpace (code : Nat) : Bool :=
  (9 ≤ code && code ≤ 13) || (28 ≤ code && code ≤ 32) || code == 133 || code == 160 ||
    code == 5760 || (8192 ≤ code && code ≤ 8202) || code == 8232 || code == 8233 ||
    code == 8239 || code == 8287 || code == 12288

def strip (content : Text) : Text :=
  ((content.dropWhile isSpace).reverse.dropWhile isSpace).reverse

def decimalZeros : List Nat :=
  [48, 1632, 1776, 1984, 2406, 2534, 2662, 2790, 2918, 3046, 3174, 3302, 3430, 3558, 3664,
    3792, 3872, 4160, 4240, 6112, 6160, 6470, 6608, 6784, 6800, 6992, 7088, 7232, 7248, 42528,
    43216, 43264, 43472, 43504, 43600, 44016, 65296, 66720, 68912, 69734, 69872, 69942, 70096,
    70384, 70736, 70864, 71248, 71360, 71472, 71904, 72016, 72784, 73040, 73120, 73552, 92768,
    92864, 93008, 120782, 120792, 120802, 120812, 120822, 123200, 123632, 124144, 125264,
    130032]

def digitValue (code : Nat) : Option Nat :=
  (decimalZeros.find? fun first => first ≤ code && code < first + 10).map (code - ·)

def asciiLower (code : Nat) : Nat := if 65 ≤ code && code ≤ 90 then code + 32 else code

/-! ## UTF-8 -/

/-- What is still to come of a character: how many bytes, between which bounds the
next one, and what the bytes so far say. -/
structure Utf8State where
  missing : Nat := 0
  low : Nat := 128
  high : Nat := 191
  code : Nat := 0

namespace Utf8State

/-- The first byte of a character, and `none` for a byte that starts none. With
`surrogates`, the three bytes of a surrogate are a character. -/
def start (surrogates : Bool) (byte : Nat) : Utf8State × List (Option Nat) :=
  if byte < 128 then ({}, [some byte])
  else if 194 ≤ byte && byte < 224 then ({ missing := 1, code := byte - 192 }, [])
  else if byte == 224 then ({ missing := 2, low := 160, code := 0 }, [])
  else if byte == 237 && !surrogates then ({ missing := 2, high := 159, code := 13 }, [])
  else if 225 ≤ byte && byte < 240 then ({ missing := 2, code := byte - 224 }, [])
  else if byte == 240 then ({ missing := 3, low := 144, code := 0 }, [])
  else if 241 ≤ byte && byte < 244 then ({ missing := 3, code := byte - 240 }, [])
  else if byte == 244 then ({ missing := 3, high := 143, code := 4 }, [])
  else ({}, [none])

/-- A byte that does not go on with the character ends it and is looked at again. -/
def step (surrogates : Bool) (state : Utf8State) (byte : Nat) : Utf8State × List (Option Nat) :=
  match state.missing with
  | 0 => start surrogates byte
  | missing + 1 =>
    if state.low ≤ byte && byte ≤ state.high then
      let code := state.code * 64 + (byte - 128)
      if missing = 0 then ({}, [some code]) else ({ missing, code }, [])
    else
      let (next, decoded) := start surrogates byte
      (next, none :: decoded)

end Utf8State

/-- The characters of the bytes, `none` for each broken one. -/
def utf8Characters (surrogates : Bool) : Utf8State → List Nat → List (Option Nat)
  | state, [] => if state.missing = 0 then [] else [none]
  | state, byte :: rest =>
    let (next, decoded) := state.step surrogates byte
    decoded ++ utf8Characters surrogates next rest

/-- `bytes.decode("utf-8", errors="replace")`. -/
def decodeReplacing (bytes : List Nat) : Text :=
  (utf8Characters false {} bytes).map (·.getD 65533)

/-- `bytes.decode("utf-8", errors="surrogatepass")`. -/
def decodeUtf8 (bytes : List Nat) : Option Text :=
  (utf8Characters true {} bytes).mapM id

/-! ## UTF-16 and UTF-32 -/

def joinSurrogates : List Nat → Text
  | high :: low :: rest =>
    if 55296 ≤ high && high < 56320 && 56320 ≤ low && low < 57344 then
      (65536 + (high - 55296) * 1024 + (low - 56320)) :: joinSurrogates rest
    else high :: joinSurrogates (low :: rest)
  | codes => codes

def decodeUtf16 (bigEndian : Bool) : List Nat → Option Text
  | [] => some []
  | [_] => none
  | first :: second :: rest =>
    let unit := if bigEndian then first * 256 + second else second * 256 + first
    (decodeUtf16 bigEndian rest).map (unit :: ·)

def decodeUtf32 (bigEndian : Bool) : List Nat → Option Text
  | [] => some []
  | first :: second :: third :: fourth :: rest =>
    let code :=
      if bigEndian then ((first * 256 + second) * 256 + third) * 256 + fourth
      else ((fourth * 256 + third) * 256 + second) * 256 + first
    if code < 1114112 then (decodeUtf32 bigEndian rest).map (code :: ·) else none
  | _ => none

/-- The decoding that `json.loads` applies to bytes. -/
def decodeDetecting : List Nat → Option Text
  | 0 :: 0 :: 254 :: 255 :: rest => decodeUtf32 true rest
  | 255 :: 254 :: 0 :: 0 :: rest => decodeUtf32 false rest
  | 254 :: 255 :: rest => (decodeUtf16 true rest).map joinSurrogates
  | 255 :: 254 :: rest => (decodeUtf16 false rest).map joinSurrogates
  | 239 :: 187 :: 191 :: rest => decodeUtf8 rest
  | [first, second] =>
    if first = 0 then (decodeUtf16 true [first, second]).map joinSurrogates
    else if second = 0 then (decodeUtf16 false [first, second]).map joinSurrogates
    else decodeUtf8 [first, second]
  | first :: second :: third :: fourth :: rest =>
    let bytes := first :: second :: third :: fourth :: rest
    if first = 0 then
      if second = 0 then decodeUtf32 true bytes
      else (decodeUtf16 true bytes).map joinSurrogates
    else if second = 0 then
      if third = 0 && fourth = 0 then decodeUtf32 false bytes
      else (decodeUtf16 false bytes).map joinSurrogates
    else decodeUtf8 bytes
  | bytes => decodeUtf8 bytes

end VideoAnalysis.Python
