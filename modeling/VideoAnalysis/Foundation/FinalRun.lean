import Mathlib.Data.List.TakeWhile

/-! # The unbroken run at the end of a list

A run ends in the last item, whatever that is, and goes back as long as the
items satisfy a test. A cut that keeps the end of the list cuts the run alike.
-/

namespace VideoAnalysis.Foundation

variable {α : Type*}

def finalRunIndex (test : α → Bool) (items : List α) : Nat :=
  items.length - 1 - (items.dropLast.reverse.takeWhile test).length

def finalRun (test : α → Bool) (items : List α) : List α :=
  items.drop (finalRunIndex test items)

variable {test keep : α → Bool}

theorem takeWhile_length_le (test : α → Bool) (items : List α) :
    (items.dropLast.reverse.takeWhile test).length ≤ items.length - 1 := by
  have short := (List.takeWhile_sublist (l := items.dropLast.reverse) test).length_le
  rw [List.length_reverse, List.length_dropLast] at short
  exact short

variable {items : List α}

theorem length_finalRun (nonempty : items ≠ []) :
    (finalRun test items).length = (items.dropLast.reverse.takeWhile test).length + 1 := by
  have positive : 0 < items.length := List.length_pos_iff.mpr nonempty
  have short := takeWhile_length_le test items
  rw [finalRun, finalRunIndex, List.length_drop]
  omega

theorem finalRun_suffix (test : α → Bool) (items : List α) : finalRun test items <:+ items :=
  List.drop_suffix _ _

theorem finalRun_eq_of_length {items other : List α} (suffix : other <:+ items)
    (same : (finalRun test items).length = other.length) : finalRun test items = other :=
  (List.suffix_of_suffix_length_le (finalRun_suffix test items) suffix same.le).eq_of_length same

variable {rest : List α}

theorem length_takeWhile_cons {item : α} (nonempty : rest ≠ []) :
    ((item :: rest).dropLast.reverse.takeWhile test).length =
      if (rest.dropLast.reverse.takeWhile test).length = rest.length - 1 then
        rest.length - 1 + if test item then 1 else 0
      else (rest.dropLast.reverse.takeWhile test).length := by
  rw [List.dropLast_cons_of_ne_nil nonempty, List.reverse_cons, List.takeWhile_append,
    List.length_reverse, List.length_dropLast]
  split
  · rw [List.length_append, List.length_reverse, List.length_dropLast]
    by_cases passes : test item = true
    all_goals simp [passes]
  · rfl

/-- The step lemma: an earlier item joins the run when the run is all there is. -/
theorem finalRun_cons_of_joins {item : α} (nonempty : rest ≠ [])
    (whole : finalRun test rest = rest) (passes : test item = true) :
    finalRun test (item :: rest) = item :: rest := by
  apply finalRun_eq_of_length List.suffix_rfl
  have positive : 0 < rest.length := List.length_pos_iff.mpr nonempty
  have full := @length_finalRun _ test _ nonempty
  rw [whole] at full
  rw [length_finalRun (List.cons_ne_nil _ _), length_takeWhile_cons nonempty,
    if_pos (by omega), if_pos passes, List.length_cons]
  omega

theorem finalRun_cons_of_not_joins {item : α} (nonempty : rest ≠ [])
    (apart : ¬(finalRun test rest = rest ∧ test item = true)) :
    finalRun test (item :: rest) = finalRun test rest := by
  apply finalRun_eq_of_length ((finalRun_suffix test rest).trans (List.suffix_cons _ _))
  have positive : 0 < rest.length := List.length_pos_iff.mpr nonempty
  rw [length_finalRun (List.cons_ne_nil _ _), length_takeWhile_cons nonempty,
    length_finalRun nonempty]
  by_cases full : (rest.dropLast.reverse.takeWhile test).length = rest.length - 1
  · have whole : finalRun test rest = rest := by
      apply finalRun_eq_of_length List.suffix_rfl
      rw [length_finalRun nonempty]
      omega
    have fails : ¬test item = true := fun passes => apart ⟨whole, passes⟩
    rw [if_pos full, if_neg fails]
    omega
  · rw [if_neg full]

theorem finalRun_ne_nil (nonempty : items ≠ []) :
    finalRun test items ≠ [] := by
  apply List.ne_nil_of_length_pos
  rw [length_finalRun nonempty]
  omega

def KeepsEnd (keep : α → Bool) (items : List α) : Prop :=
  items.Pairwise fun first second => keep first = true → keep second = true

theorem finalRun_filter (keepsEnd : KeepsEnd keep items) :
    finalRun test (items.filter keep) = (finalRun test items).filter keep := by
  induction items with
  | nil => rfl
  | cons item rest induction =>
    rcases List.pairwise_cons.mp keepsEnd with ⟨kept, keepsRest⟩
    have tail := induction keepsRest
    by_cases keepsItem : keep item = true
    · have all : ∀ other ∈ item :: rest, keep other = true := by
        intro other member
        rcases List.mem_cons.mp member with rfl | inRest
        · exact keepsItem
        · exact kept other inRest keepsItem
      have runKept : ∀ other ∈ finalRun test (item :: rest), keep other = true :=
        fun other member => all other ((finalRun_suffix test _).subset member)
      rw [List.filter_eq_self.mpr all, List.filter_eq_self.mpr runKept]
    · rw [List.filter_cons_of_neg keepsItem]
      by_cases nonempty : rest = []
      · subst nonempty
        simp [finalRun, finalRunIndex, keepsItem]
      · by_cases joins : finalRun test rest = rest ∧ test item = true
        · rw [tail, finalRun_cons_of_joins nonempty joins.1 joins.2,
            List.filter_cons_of_neg keepsItem, joins.1]
        · rw [tail, finalRun_cons_of_not_joins nonempty joins]

theorem take_finalRunIndex_filter (keepsEnd : KeepsEnd keep items) :
    (items.filter keep).take (finalRunIndex test (items.filter keep)) =
      (items.take (finalRunIndex test items)).filter keep := by
  have cut := (items.filter keep).take_append_drop (finalRunIndex test (items.filter keep))
  have whole := items.take_append_drop (finalRunIndex test items)
  have filtered : (items.take (finalRunIndex test items)).filter keep ++
      finalRun test (items.filter keep) = items.filter keep := by
    rw [finalRun_filter keepsEnd, ← List.filter_append, finalRun, whole]
  exact List.append_cancel_right (cut.trans filtered.symm)

theorem takeWhile_eq_filter
    (falling : items.Pairwise fun first second => test second = true → test first = true) :
    items.takeWhile test = items.filter test := by
  induction items with
  | nil => rfl
  | cons item rest induction =>
    rcases List.pairwise_cons.mp falling with ⟨head, tail⟩
    by_cases passes : test item = true
    · rw [List.takeWhile_cons_of_pos passes, List.filter_cons_of_pos passes, induction tail]
    · have none : rest.filter test = [] := by
        rw [List.filter_eq_nil_iff]
        intro other member passesOther
        exact passes (head other member passesOther)
      rw [List.takeWhile_cons_of_neg passes, List.filter_cons_of_neg passes, none]

end VideoAnalysis.Foundation
