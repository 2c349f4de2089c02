import Mathlib.Data.List.Sort

/-! # Stable sorting by insertion

`List.mergeSort` is stable also where distinct elements compare equal. It then
agrees with sorting by insertion, which evaluates.
-/

namespace VideoAnalysis.Foundation

theorem orderedInsert_append {α : Type} {le : α → α → Bool} {element : α}
    {before after : List α} (larger : ∀ other ∈ before, le element other = false)
    (least : ∀ other ∈ after.head?, le element other = true) :
    (before ++ after).orderedInsert (fun first second => le first second = true) element =
      before ++ element :: after := by
  induction before with
  | nil =>
    cases after with
    | nil => rfl
    | cons other =>
      exact if_pos (least other rfl)
  | cons other _ induction =>
    have notLe : ¬ le element other = true := by
      rw [larger other List.mem_cons_self]
      exact Bool.false_ne_true
    rw [List.cons_append, List.orderedInsert_cons, if_neg notLe,
      induction fun later member => larger later (List.mem_cons_of_mem _ member)]
    rfl

theorem mergeSort_eq_insertionSort {α : Type} {le : α → α → Bool}
    (trans : ∀ first second third, le first second → le second third → le first third)
    (total : ∀ first second, le first second || le second first) (elements : List α) :
    elements.mergeSort le =
      elements.insertionSort fun first second => le first second = true := by
  induction elements with
  | nil => rw [List.mergeSort_nil, List.insertionSort_nil]
  | cons element elements induction =>
    rcases List.mergeSort_cons trans total element elements with ⟨_, after, sorted, rest, larger⟩
    have pairwise := List.pairwise_mergeSort trans total (element :: elements)
    rw [sorted] at pairwise
    have least : ∀ other ∈ after.head?, le element other = true := by
      intro other atHead
      have tail := (List.pairwise_append.mp pairwise).2.1
      exact (List.pairwise_cons.mp tail).1 other (List.mem_of_head? atHead)
    have inserted := orderedInsert_append (fun other member =>
      Bool.eq_false_of_not_eq_true' (larger other member)) least
    rw [List.insertionSort_cons, ← induction, rest, inserted, sorted]

theorem mergeSort_stable {α : Type} (le : α → α → Bool)
    (trans : ∀ first second third, le first second → le second third → le first third)
    (total : ∀ first second, le first second || le second first) {place : α → Nat}
    {elements : List α}
    (placed : elements.Pairwise fun first second => place first < place second) :
    (elements.mergeSort le).Pairwise fun first second =>
      le first second = true ∧ (le second first = true → place first < place second) := by
  induction elements with
  | nil =>
    rw [List.mergeSort_nil]
    exact List.Pairwise.nil
  | cons element elements induction =>
    rw [List.pairwise_cons] at placed
    rcases List.mergeSort_cons trans total element elements with ⟨_, _, sorted, rest, larger⟩
    have ordered := List.pairwise_mergeSort trans total (element :: elements)
    have others := induction placed.2
    rw [sorted] at ordered ⊢
    rw [rest] at others
    rw [List.pairwise_append, List.pairwise_cons] at ordered ⊢
    rw [List.pairwise_append] at others
    refine ⟨others.1, ⟨fun later member => ?_, others.2.1⟩, fun first inBefore second inRest => ?_⟩
    · have inElements : later ∈ elements :=
        List.mem_mergeSort.mp (rest ▸ List.mem_append_right _ member)
      exact ⟨ordered.2.1.1 later member, fun _ => placed.1 later inElements⟩
    · rcases List.mem_cons.mp inRest with rfl | inAfter
      · have notLe := larger first inBefore
        refine ⟨ordered.2.2 first inBefore _ List.mem_cons_self, fun isLe => ?_⟩
        rw [isLe] at notLe
        cases notLe
      · exact others.2.2 first inBefore second inAfter

end VideoAnalysis.Foundation
