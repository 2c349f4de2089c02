import Mathlib.Data.List.Basic

/-! # How a text starts

A literal is its list of characters by unification, so two texts whose literal parts
differ early are told apart without decoding either of them.
-/

namespace VideoAnalysis.Foundation

def Starts (text : String) (lead : List Char) : Prop := lead <+: text.toList

theorem starts_ofList (lead : List Char) : Starts (String.ofList lead) lead := by
  exact ⟨[], by rw [List.append_nil, String.toList_ofList]⟩

theorem Starts.append {text : String} {lead : List Char} (starts : Starts text lead)
    (rest : String) : Starts (text ++ rest) lead := by
  rw [Starts, String.toList_append]
  exact starts.trans (List.prefix_append _ _)

theorem Starts.char {text : String} {lead : List Char} (starts : Starts text lead)
    (position : Nat) {char : Char} (found : lead[position]? = some char) :
    text.toList[position]? = some char := by
  rcases starts with ⟨rest, split⟩
  rw [← split, List.getElem?_append_left (List.getElem?_eq_some_iff.mp found).1]
  exact found

theorem ne_of_char {first second : String} {position : Nat} {firstChar secondChar : Char}
    (atFirst : first.toList[position]? = some firstChar)
    (atSecond : second.toList[position]? = some secondChar) (differ : firstChar ≠ secondChar) :
    first ≠ second := by
  rintro rfl
  exact differ (Option.some.inj (atFirst.symm.trans atSecond))

end VideoAnalysis.Foundation
