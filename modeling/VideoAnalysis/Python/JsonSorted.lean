import VideoAnalysis.Foundation.Sorting
import VideoAnalysis.Python.JsonEncode

/-! # Sorted keys

`json.dumps` with `sort_keys` writes what it writes without of the value whose
dictionaries are sorted first.
-/

namespace VideoAnalysis.Python

open Foundation

namespace Json

def keyLe {Value : Type} (first second : Text × Value) : Bool := textLe first.1 second.1

mutual

/-- The value with each dictionary in the order of its keys. -/
def sorted : Json → Json
  | list items => list (sortedItems items)
  | dict entries =>
    dict ((sortedEntries entries).insertionSort fun first second => keyLe first second = true)
  | value => value

def sortedItems : List Json → List Json
  | [] => []
  | item :: rest => item.sorted :: sortedItems rest

def sortedEntries : List (Text × Json) → List (Text × Json)
  | [] => []
  | (key, value) :: rest => (key, value.sorted) :: sortedEntries rest

end

end Json

theorem keyLe_trans {Value : Type} (first second third : Text × Value)
    (le : Json.keyLe first second = true) (le' : Json.keyLe second third = true) :
    Json.keyLe first third = true := textLe_trans le le'

theorem keyLe_total {Value : Type} (first second : Text × Value) :
    (Json.keyLe first second || Json.keyLe second first) = true := textLe_total _ _

section

variable (floatText : Double → Text) (style : JsonStyle)

def JsonStyle.unsorted : JsonStyle := { style with sortKeys := false }

theorem encodeEntries_eq_map (entries : List (Text × Json)) :
    encodeEntries floatText style entries = entries.map fun entry =>
      (entry.1, encodeText style.ensureAscii entry.1 ++ style.keySeparator ++
        encode floatText style entry.2) := by
  induction entries with
  | nil => rfl
  | cons entry rest induction =>
    rw [List.map_cons, ← induction]
    rfl

variable {style}

mutual

theorem encode_sorted (sorts : style.sortKeys = true) : ∀ value : Json,
    encode floatText style value = encode floatText style.unsorted value.sorted
  | .null => rfl
  | .bool _ => rfl
  | .int _ => rfl
  | .float (.finite _ _) => rfl
  | .float (.infinite _) => rfl
  | .float .nan => rfl
  | .str _ => rfl
  | .list items => by
      simp only [encode, Json.sorted, encodeItems_sorted sorts items]
      rfl
  | .dict entries => by
      have sorted : (encodeEntries floatText style entries).mergeSort
          (fun first second => textLe first.1 second.1) =
            encodeEntries floatText style.unsorted ((Json.sortedEntries entries).insertionSort
              fun first second => Json.keyLe first second = true) := by
        change (encodeEntries floatText style entries).mergeSort Json.keyLe = _
        rw [mergeSort_eq_insertionSort keyLe_trans keyLe_total,
          encodeEntries_sorted sorts entries, encodeEntries_eq_map, encodeEntries_eq_map]
        symm
        apply List.map_insertionSort
        exact fun _ _ _ _ => Iff.rfl
      simp only [encode, Json.sorted, sorts, if_true, sorted]
      rfl

theorem encodeItems_sorted (sorts : style.sortKeys = true) : ∀ items : List Json,
    encodeItems floatText style items =
      encodeItems floatText style.unsorted (Json.sortedItems items)
  | [] => rfl
  | item :: rest => by
      simp only [encodeItems, Json.sortedItems, encode_sorted sorts item,
        encodeItems_sorted sorts rest]

theorem encodeEntries_sorted (sorts : style.sortKeys = true) :
    ∀ entries : List (Text × Json), encodeEntries floatText style entries =
      encodeEntries floatText style.unsorted (Json.sortedEntries entries)
  | [] => rfl
  | (key, value) :: rest => by
      simp only [encodeEntries, Json.sortedEntries, encode_sorted sorts value,
        encodeEntries_sorted sorts rest]
      rfl

end

theorem dumps_sorted (sorts : style.sortKeys = true) (allows : style.allowNan = true)
    (value : Json) :
    dumps floatText style value = dumps floatText style.unsorted value.sorted := by
  have unsortedAllows : style.unsorted.allowNan = true := allows
  simp only [dumps, allows, unsortedAllows, Bool.not_true, Bool.false_and, Bool.false_eq_true,
    if_false]
  rw [encode_sorted floatText sorts value]

end

end VideoAnalysis.Python
