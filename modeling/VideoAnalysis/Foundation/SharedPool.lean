import Mathlib.Algebra.Order.BigOperators.Group.Finset
import Mathlib.Tactic.Linarith

/-! # Reserved places and a shared pool

The holders of places are listed with repetition. Every owner has some places of
its own; what it holds beyond them is charged to a pool that all owners share.
-/

namespace VideoAnalysis.Foundation

variable {Owner : Type} [DecidableEq Owner]

theorem sum_map_dedup (value : Owner → Nat) (holders : List Owner) :
    (holders.dedup.map value).sum = ∑ owner ∈ holders.toFinset, value owner := by
  have sameSet : holders.dedup.toFinset = holders.toFinset := by
    ext owner
    rw [List.mem_toFinset, List.mem_toFinset, List.mem_dedup]
  rw [← sameSet, List.sum_toFinset _ holders.nodup_dedup]

def poolUsed (own : Owner → Nat) (holders : List Owner) : Nat :=
  (holders.dedup.map fun owner => holders.count owner - own owner).sum

theorem poolUsed_eq_sum (own : Owner → Nat) (holders : List Owner) {owners : Finset Owner}
    (covers : ∀ owner ∈ holders, owner ∈ owners) :
    poolUsed own holders = ∑ owner ∈ owners, (holders.count owner - own owner) := by
  have within : holders.toFinset ⊆ owners := by
    intro owner member
    exact covers owner (List.mem_toFinset.mp member)
  have listed : poolUsed own holders =
      ∑ owner ∈ holders.toFinset, (holders.count owner - own owner) := by
    exact sum_map_dedup _ holders
  rw [listed]
  apply Finset.sum_subset within
  intro owner _ absent
  rw [List.count_eq_zero_of_not_mem fun member => absent (List.mem_toFinset.mpr member)]
  exact Nat.zero_sub _

theorem poolUsed_mono {own : Owner → Nat} {fewer holders : List Owner}
    (subset : fewer.Sublist holders) : poolUsed own fewer ≤ poolUsed own holders := by
  have covers : ∀ owner ∈ fewer, owner ∈ holders.toFinset := fun owner member =>
    List.mem_toFinset.mpr (subset.subset member)
  rw [poolUsed_eq_sum own fewer covers,
    poolUsed_eq_sum own holders fun owner member => List.mem_toFinset.mpr member]
  apply Finset.sum_le_sum
  intro owner _
  have counts := subset.count_le owner
  omega

theorem count_concat_of_ne {owner other : Owner} {holders : List Owner}
    (different : owner ≠ other) : (holders ++ [owner]).count other = holders.count other := by
  rw [List.count_append, List.count_singleton, if_neg (by simpa using different), Nat.add_zero]

theorem count_concat_self (owner : Owner) (holders : List Owner) :
    (holders ++ [owner]).count owner = holders.count owner + 1 := by
  rw [List.count_append, List.count_singleton_self]

theorem poolUsed_concat_le (own : Owner → Nat) (owner : Owner) (holders : List Owner) :
    poolUsed own (holders ++ [owner]) ≤ poolUsed own holders + 1 := by
  have covers : ∀ other ∈ holders ++ [owner], other ∈ (holders ++ [owner]).toFinset :=
    fun other member => List.mem_toFinset.mpr member
  have ownerIn : owner ∈ (holders ++ [owner]).toFinset :=
    covers owner (List.mem_append_right _ (List.mem_singleton_self owner))
  rw [poolUsed_eq_sum own _ covers,
    poolUsed_eq_sum own holders fun other member => covers other (List.mem_append_left _ member),
    ← Finset.add_sum_erase _ _ ownerIn, ← Finset.add_sum_erase _ _ ownerIn]
  have others : ∑ other ∈ (holders ++ [owner]).toFinset.erase owner,
        ((holders ++ [owner]).count other - own other) =
      ∑ other ∈ (holders ++ [owner]).toFinset.erase owner, (holders.count other - own other) := by
    apply Finset.sum_congr rfl
    intro other member
    rw [count_concat_of_ne (Finset.ne_of_mem_erase member).symm]
  rw [others, count_concat_self]
  omega

theorem poolUsed_concat_of_lt {own : Owner → Nat} {owner : Owner} {holders : List Owner}
    (room : holders.count owner < own owner) :
    poolUsed own (holders ++ [owner]) = poolUsed own holders := by
  have covers : ∀ other ∈ holders ++ [owner], other ∈ (holders ++ [owner]).toFinset :=
    fun other member => List.mem_toFinset.mpr member
  rw [poolUsed_eq_sum own _ covers,
    poolUsed_eq_sum own holders fun other member => covers other (List.mem_append_left _ member)]
  apply Finset.sum_congr rfl
  intro other _
  by_cases same : owner = other
  · subst same
    rw [count_concat_self]
    omega
  · rw [count_concat_of_ne same]

theorem length_le_poolUsed (roster : List Owner) (places : Nat) (holders : List Owner) :
    holders.length ≤
      poolUsed (fun owner => if owner ∈ roster then places else 0) holders +
        places * roster.length := by
  rw [poolUsed_eq_sum _ holders fun owner member => List.mem_toFinset.mpr member,
    ← List.sum_map_count_dedup_eq_length, sum_map_dedup]
  have split : ∑ owner ∈ holders.toFinset, holders.count owner ≤
      ∑ owner ∈ holders.toFinset,
        ((holders.count owner - if owner ∈ roster then places else 0) +
          if owner ∈ roster then places else 0) := by
    apply Finset.sum_le_sum
    intro owner _
    omega
  rw [Finset.sum_add_distrib] at split
  have reserved : ∑ owner ∈ holders.toFinset, (if owner ∈ roster then places else 0) ≤
      places * roster.length := by
    rw [← Finset.sum_filter, Finset.sum_const_nat fun _ _ => rfl, Nat.mul_comm]
    apply Nat.mul_le_mul_left
    have within : holders.toFinset.filter (· ∈ roster) ⊆ roster.toFinset := by
      intro owner member
      exact List.mem_toFinset.mpr (Finset.mem_filter.mp member).2
    exact (Finset.card_le_card within).trans (List.toFinset_card_le roster)
  omega

end VideoAnalysis.Foundation
