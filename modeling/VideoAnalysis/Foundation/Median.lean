import Mathlib.Data.Finset.Max
import Mathlib.Data.List.Sort

/-! # Medians of lists

The values of a list in ascending order, and what leaving one of them out does to
the value at a position.
-/

namespace VideoAnalysis.Foundation

variable {Value : Type*} [LinearOrder Value]

def ascending (values : List Value) : List Value :=
  values.mergeSort fun first second => decide (first ≤ second)

theorem pairwise_ascending (values : List Value) : (ascending values).Pairwise (· ≤ ·) := by
  have sorted := @List.pairwise_mergeSort _ (fun first second : Value =>
    decide (first ≤ second))
    (by
      intro first second third
      simp only [decide_eq_true_eq]
      exact le_trans)
    (by
      intro first second
      simp only [Bool.or_eq_true, decide_eq_true_eq]
      exact le_total first second) values
  simpa only [ascending, decide_eq_true_eq] using sorted

theorem ascending_perm (values : List Value) : (ascending values).Perm values :=
  List.mergeSort_perm _ _

theorem length_ascending (values : List Value) : (ascending values).length = values.length :=
  (ascending_perm values).length_eq

theorem ascending_eq {values sorted : List Value} (ordered : sorted.Pairwise (· ≤ ·))
    (same : sorted.Perm values) : ascending values = sorted :=
  ((ascending_perm values).trans same.symm).eq_of_pairwise (fun _ _ _ _ => le_antisymm)
    (pairwise_ascending values) ordered

theorem ascending_of_pairwise {values : List Value} (ordered : values.Pairwise (· ≤ ·)) :
    ascending values = values :=
  ascending_eq ordered (List.Perm.refl values)

theorem ascending_remove (left right : List Value) (value : Value) :
    ascending (left ++ right) = (ascending (left ++ value :: right)).erase value := by
  apply ascending_eq
  · exact (pairwise_ascending _).sublist List.erase_sublist
  · have erased := (ascending_perm (left ++ value :: right)).erase value
    have middle := (@List.perm_middle _ value left right).erase value
    rw [List.erase_cons_head] at middle
    exact erased.trans middle

theorem getElem?_ascending_remove_le {left right : List Value} {value kept before : Value}
    {position : Nat} (atRest : (ascending (left ++ right))[position]? = some kept)
    (atAll : (ascending (left ++ value :: right))[position]? = some before) : before ≤ kept := by
  have ordered := pairwise_ascending (left ++ value :: right)
  rw [ascending_remove left right value, List.erase_eq_eraseIdx] at atRest
  split at atRest
  · rw [atAll] at atRest
    exact (Option.some.inj atRest).le
  next index _ =>
    rw [List.getElem?_eraseIdx] at atRest
    split at atRest
    · rw [atAll] at atRest
      exact (Option.some.inj atRest).le
    · rcases List.getElem?_eq_some_iff.mp atRest with ⟨inRest, rfl⟩
      rcases List.getElem?_eq_some_iff.mp atAll with ⟨inAll, rfl⟩
      exact List.pairwise_iff_getElem.mp ordered _ _ inAll inRest (Nat.lt_succ_self position)

theorem ascending_remove_largest {left right : List Value} {value : Value}
    (largest : ∀ other ∈ left ++ right, other ≤ value) :
    ascending (left ++ value :: right) = ascending (left ++ right) ++ [value] := by
  apply ascending_eq
  · rw [List.pairwise_append]
    refine ⟨pairwise_ascending _, List.pairwise_singleton _ _, ?_⟩
    intro first inRest second isValue
    rw [List.mem_singleton.mp isValue]
    exact largest first ((ascending_perm _).mem_iff.mp inRest)
  · have moved := List.perm_append_singleton value (ascending (left ++ right))
    have rest := (ascending_perm (left ++ right)).cons value
    exact (moved.trans rest).trans List.perm_middle.symm

theorem exists_largest {values : List Value} (inhabited : values ≠ []) :
    ∃ left value right, values = left ++ value :: right ∧
      ∀ other ∈ left ++ right, other ≤ value := by
  rcases Multiset.exists_max_image id (mt (Multiset.coe_eq_zero _).mp inhabited) with
    ⟨value, member, largest⟩
  rcases List.append_of_mem (Multiset.mem_coe.mp member) with ⟨left, right, rfl⟩
  refine ⟨left, value, right, rfl, fun other isOther => largest other ?_⟩
  rcases List.mem_append.mp isOther with inLeft | inRight
  · exact List.mem_append_left _ inLeft
  · exact List.mem_append_right _ (List.mem_cons_of_mem _ inRight)

end VideoAnalysis.Foundation
