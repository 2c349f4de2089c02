import Mathlib.Data.List.Sort

/-! # The best rows of a list

A search returns the rows of highest score up to a limit. Where rows have equal scores
the order, and the choice at the limit, is up to the search: two searches of the same
rows agree up to that.
-/

namespace VideoAnalysis.Foundation

variable {Row Other Score : Type*} [LinearOrder Score]

def Falling (score : Row → Score) (rows : List Row) : Prop :=
  rows.Pairwise fun first second => score second ≤ score first

def IsTop (score : Row → Score) (limit : Nat) (rows result : List Row) : Prop :=
  ∃ order : List Row, order.Perm rows ∧ Falling score order ∧ result = order.take limit

/-- The same rows, up to the order and the choice among equal scores. -/
structure SameUpToTies (score : Row → Score) (limit : Nat) (first second : List Row) :
    Prop where
  scores : first.map score = second.map score
  above : ∀ row low, low ∈ first → score low < score row → (row ∈ first ↔ row ∈ second)
  whole : first.length < limit → first.Perm second

section

variable {score : Row → Score} {limit : Nat} {rows result : List Row}

theorem IsTop.perm {others : List Row} (isTop : IsTop score limit rows result)
    (same : rows.Perm others) : IsTop score limit others result := by
  rcases isTop with ⟨order, isOrder, falling, isTake⟩
  exact ⟨order, isOrder.trans same, falling, isTake⟩

theorem IsTop.subset (isTop : IsTop score limit rows result) : result ⊆ rows := by
  rcases isTop with ⟨_, isOrder, _, rfl⟩
  exact fun row member => isOrder.mem_iff.mp (List.mem_of_mem_take member)

theorem IsTop.whole (isTop : IsTop score limit rows result) (short : result.length < limit) :
    result.Perm rows := by
  rcases isTop with ⟨_, _, _, rfl⟩
  rw [List.length_take] at short
  rwa [List.take_of_length_le (by omega)]

theorem IsTop.mem_of_lt (isTop : IsTop score limit rows result) {row low : Row}
    (isRow : row ∈ rows) (isLow : low ∈ result) (above : score low < score row) :
    row ∈ result := by
  rcases isTop with ⟨order, isOrder, falling, rfl⟩
  have member : row ∈ order.take limit ++ order.drop limit := by
    rw [List.take_append_drop]
    exact isOrder.mem_iff.mpr isRow
  rcases List.mem_append.mp member with taken | dropped
  · exact taken
  · rw [Falling, ← List.take_append_drop limit order] at falling
    have below := (List.pairwise_append.mp falling).2.2 low isLow row dropped
    exact absurd above (not_lt_of_ge below)

theorem IsTop.sameUpToTies {other : List Row} (first : IsTop score limit rows result)
    (second : IsTop score limit rows other) : SameUpToTies score limit result other := by
  have scores : result.map score = other.map score := by
    rcases first with ⟨order, isOrder, falling, rfl⟩
    rcases second with ⟨otherOrder, isOther, otherFalling, rfl⟩
    have same : order.map score = otherOrder.map score := by
      have sorted : (order.map score).Pairwise (· ≥ ·) := List.pairwise_map.mpr falling
      have otherSorted : (otherOrder.map score).Pairwise (· ≥ ·) :=
        List.pairwise_map.mpr otherFalling
      have permuted := (isOrder.trans isOther.symm).map score
      exact permuted.eq_of_pairwise (fun _ _ _ _ ge le => le_antisymm le ge) sorted otherSorted
    rw [List.map_take, List.map_take, same]
  have sameLength : result.length = other.length := by
    simpa using congrArg List.length scores
  refine ⟨scores, fun row low isLow above => ?_, fun short => ?_⟩
  · constructor
    · intro member
      have isRow := first.subset member
      have low_score : score low ∈ other.map score := scores ▸ List.mem_map_of_mem isLow
      rcases List.mem_map.mp low_score with ⟨_, isOtherLow, sameScore⟩
      exact second.mem_of_lt isRow isOtherLow (sameScore ▸ above)
    · intro member
      exact first.mem_of_lt (second.subset member) isLow above
  · exact (first.whole short).trans (second.whole (sameLength ▸ short)).symm

theorem isTop_mergeSort (score : Row → Score) (limit : Nat) (rows : List Row) :
    IsTop score limit rows
      ((rows.mergeSort fun first second => decide (score second ≤ score first)).take limit) := by
  generalize isBelow : (fun first second => decide (score second ≤ score first)) = below
  have trans : ∀ first second third, below first second → below second third →
      below first third := by
    intro first second third
    simp only [← isBelow, decide_eq_true_eq]
    exact fun ge ge' => ge'.trans ge
  have total : ∀ first second, below first second || below second first := by
    intro first second
    simp only [← isBelow, Bool.or_eq_true, decide_eq_true_eq]
    exact le_total _ _
  refine ⟨rows.mergeSort below, List.mergeSort_perm _ _, ?_, rfl⟩
  have sorted := List.pairwise_mergeSort trans total rows
  simpa [Falling, ← isBelow] using sorted

theorem IsTop.map {score' : Other → Score} (change : Row → Other)
    (sameScore : ∀ row ∈ rows, score' (change row) = score row)
    (isTop : IsTop score limit rows result) :
    IsTop score' limit (rows.map change) (result.map change) := by
  rcases isTop with ⟨order, isOrder, falling, rfl⟩
  refine ⟨order.map change, isOrder.map change, ?_, List.map_take⟩
  apply List.pairwise_map.mpr
  apply falling.imp_of_mem
  intro first second isFirst isSecond below
  rwa [sameScore first (isOrder.mem_iff.mp isFirst), sameScore second (isOrder.mem_iff.mp isSecond)]

def Upward (score : Row → Score) (test : Row → Bool) : Prop :=
  ∀ low high, score low ≤ score high → test low = true → test high = true

theorem filter_take_of_falling {order : List Row} {test : Row → Bool}
    (falling : Falling score order) (upward : Upward score test) (limit : Nat) :
    (order.take limit).filter test = (order.filter test).take limit := by
  induction order generalizing limit with
  | nil => simp
  | cons row rest induction =>
    cases limit with
    | zero => simp
    | succ limit =>
      rcases List.pairwise_cons.mp falling with ⟨below, falls⟩
      rw [List.take_succ_cons]
      by_cases meets : test row = true
      · simp [meets, induction falls]
      · have none : rest.filter test = [] := by
          rw [List.filter_eq_nil_iff]
          exact fun other member isMet => meets (upward other row (below other member) isMet)
        have noneTaken : (rest.take limit).filter test = [] := by
          rw [induction falls, none, List.take_nil]
        simp [meets, none, noneTaken]

/-- A larger selection, filtered from above and selected from once more, is a selection
of all the rows that meet the test. -/
theorem IsTop.rerank {preselected : Nat} {test : Row → Bool} {reranked : List Row}
    (isTop : IsTop score preselected rows result) (enough : limit ≤ preselected)
    (upward : Upward score test) (again : IsTop score limit (result.filter test) reranked) :
    IsTop score limit (rows.filter test) reranked := by
  rcases isTop with ⟨order, isOrder, falling, rfl⟩
  rcases again with ⟨sorted, isSorted, sortedFalling, rfl⟩
  rw [filter_take_of_falling falling upward] at isSorted
  refine ⟨sorted ++ (order.filter test).drop preselected, ?_, ?_, ?_⟩
  · refine (isSorted.append_right _).trans ?_
    rw [List.take_append_drop]
    exact isOrder.filter _
  · have whole := falling.filter test
    rw [← List.take_append_drop preselected (order.filter test)] at whole
    rcases List.pairwise_append.mp whole with ⟨_, dropped, across⟩
    apply List.pairwise_append.mpr
    exact ⟨sortedFalling, dropped, fun row member => across row (isSorted.mem_iff.mp member)⟩
  · by_cases short : (order.filter test).length ≤ preselected
    · rw [List.drop_of_length_le short, List.append_nil]
    · have long : limit ≤ sorted.length := by
        rw [isSorted.length_eq, List.length_take]
        omega
      rw [List.take_append_of_le_length long]

end

end VideoAnalysis.Foundation
