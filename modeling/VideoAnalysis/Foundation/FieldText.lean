import Mathlib.Data.List.TakeWhile
import Std.Data.String.ToInt

/-! # Texts of fields between separators

A field without the separator can be read back from a text that joins it to the
rest.
-/

namespace VideoAnalysis.Foundation

theorem takeWhile_ne_append_cons {α : Type*} [DecidableEq α] {separator : α} {field : List α}
    (absent : separator ∉ field) (rest : List α) :
    (field ++ separator :: rest).takeWhile (· ≠ separator) = field := by
  rw [List.takeWhile_append_of_pos]
  · simp
  · intro item member
    have different : item ≠ separator := fun same => absent (same ▸ member)
    simpa using different

theorem field_eq_of_append {α : Type*} {separator : α} {first second restFirst restSecond : List α}
    (absentFirst : separator ∉ first) (absentSecond : separator ∉ second)
    (same : first ++ separator :: restFirst = second ++ separator :: restSecond) :
    first = second ∧ restFirst = restSecond := by
  classical
  have sameField : first = second := by
    rw [← takeWhile_ne_append_cons absentFirst restFirst, same,
      takeWhile_ne_append_cons absentSecond]
  rw [sameField, List.append_cancel_left_eq, List.cons_inj_right] at same
  exact ⟨sameField, same⟩

def NoColon (text : String) : Prop := ':' ∉ text.toList

instance (text : String) : Decidable (NoColon text) :=
  inferInstanceAs (Decidable (':' ∉ text.toList))

theorem colonField_eq {first second restFirst restSecond : String}
    (absentFirst : NoColon first) (absentSecond : NoColon second)
    (same : first ++ ":" ++ restFirst = second ++ ":" ++ restSecond) :
    first = second ∧ restFirst = restSecond := by
  have lists := congrArg String.toList same
  simp only [String.toList_append, List.append_assoc] at lists
  have colon : ":".toList = [':'] := by decide
  rw [colon, List.singleton_append, List.singleton_append] at lists
  rcases field_eq_of_append absentFirst absentSecond lists with ⟨sameField, sameRest⟩
  exact ⟨String.toList_inj.mp sameField, String.toList_inj.mp sameRest⟩

theorem lastColonField_eq {first second lastFirst lastSecond : String}
    (absentFirst : NoColon lastFirst) (absentSecond : NoColon lastSecond)
    (same : first ++ ":" ++ lastFirst = second ++ ":" ++ lastSecond) :
    first = second ∧ lastFirst = lastSecond := by
  have lists := congrArg (fun text => text.toList.reverse) same
  have colon : ":".toList = [':'] := by decide
  simp only [String.toList_append, colon, List.reverse_append, List.reverse_singleton,
    List.singleton_append] at lists
  rcases field_eq_of_append (fun member => absentFirst (List.mem_reverse.mp member))
    (fun member => absentSecond (List.mem_reverse.mp member)) lists with ⟨sameLast, sameFirst⟩
  exact ⟨String.toList_inj.mp (List.reverse_inj.mp sameFirst),
    String.toList_inj.mp (List.reverse_inj.mp sameLast)⟩

theorem natText_isDigit (value : Nat) : ∀ char ∈ value.repr.toList, char.isDigit = true := by
  intro char member
  rw [Nat.toList_repr] at member
  exact Nat.isDigit_of_mem_toDigits (by decide) (by decide) member

theorem intText_char (value : Int) :
    ∀ char ∈ (toString value).toList, char.isDigit = true ∨ char = '-' := by
  intro char member
  rw [Int.toString_eq_repr, Int.repr_eq_if] at member
  split at member
  · exact Or.inl (natText_isDigit _ char member)
  · rw [String.toList_append] at member
    rcases List.mem_append.mp member with sign | digits
    · exact Or.inr (by simpa using sign)
    · exact Or.inl (natText_isDigit _ char digits)

theorem intText_noColon (value : Int) : NoColon (toString value) := by
  intro member
  rcases intText_char value _ member with digit | sign
  · exact absurd digit (by decide)
  · exact absurd sign (by decide)

theorem intText_inj {first second : Int} (same : toString first = toString second) :
    first = second := by
  rw [Int.toString_eq_repr, Int.toString_eq_repr] at same
  exact Int.repr_injective same

theorem natText_inj {first second : Nat} (same : toString first = toString second) :
    first = second := Nat.repr_injective same

theorem intText_ne {value : Int} {word : String} (letter : Char) (member : letter ∈ word.toList)
    (notDigit : letter.isDigit = false) (notMinus : letter ≠ '-') : toString value ≠ word := by
  intro same
  rw [← same] at member
  rcases intText_char value letter member with digit | sign
  · rw [notDigit] at digit
    exact Bool.false_ne_true digit
  · exact notMinus sign

end VideoAnalysis.Foundation
