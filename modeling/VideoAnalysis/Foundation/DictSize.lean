import VideoAnalysis.Foundation.Dict
import Mathlib.Algebra.Order.BigOperators.Group.Finset
import Mathlib.Data.Int.Interval

/-! # Sizes of dictionaries

A dictionary has as many entries as keys. Where each value carries a time, the
size is bounded by the number of times and the number of keys of one time.
-/

namespace VideoAnalysis.Foundation

namespace Dict

variable {Key Value : Type*} [DecidableEq Key] {dict : Dict Key Value}

def size (dict : Dict Key Value) : Nat := dict.entries.length

def domain (dict : Dict Key Value) : Finset Key := dict.keys.toFinset

omit [DecidableEq Key] in

omit [DecidableEq Key] in
theorem distinct_empty : (∅ : Dict Key Value).Distinct := List.nodup_nil

theorem size_eq_card (distinct : dict.Distinct) : dict.size = dict.domain.card := by
  rw [domain, List.toFinset_card_of_nodup distinct, keys, List.length_map, size]

theorem card_domain_le (dict : Dict Key Value) : dict.domain.card ≤ dict.size := by
  apply (List.toFinset_card_le dict.keys).trans
  rw [keys, List.length_map, size]

theorem get_eq_none {key : Key} (missing : key ∉ dict.keys) : dict.get key = none := by
  cases found : dict.get key with
  | none => rfl
  | some =>
    exact absurd (List.mem_map_of_mem (f := Prod.fst) (mem_of_get found)) missing

theorem exists_get_of_mem {key : Key} (member : key ∈ dict.keys) :
    ∃ value, dict.get key = some value := by
  simp only [keys, get] at member ⊢
  revert member
  induction dict.entries with
  | nil => simp
  | cons entry _ induction =>
    intro member
    by_cases same : entry.1 = key
    · exact ⟨entry.2, by simp [lookup, same]⟩
    · rw [List.map_cons, List.mem_cons] at member
      rcases member with isFirst | inRest
      · exact absurd isFirst.symm same
      · rcases induction inRest with ⟨value, found⟩
        exact ⟨value, by simpa [lookup, same] using found⟩

theorem mem_domain {key : Key} : key ∈ dict.domain ↔ ∃ value, dict.get key = some value := by
  rw [domain, List.mem_toFinset]
  constructor
  · exact exists_get_of_mem
  · rintro ⟨value, found⟩
    exact List.mem_map_of_mem (f := Prod.fst) (mem_of_get found)

theorem Distinct.erase (distinct : dict.Distinct) (key : Key) : (dict.erase key).Distinct :=
  List.Nodup.sublist (List.filter_sublist.map Prod.fst) distinct

theorem get_erase (dict : Dict Key Value) (key other : Key) :
    (dict.erase key).get other = if other = key then none else dict.get other := by
  by_cases same : other = key
  · rw [if_pos same, same, get_erase_self]
  · rw [if_neg same, get_erase_of_ne dict same]

theorem size_le_of_domain (distinct : dict.Distinct) (keys : Finset Key)
    (subset : ∀ key value, dict.get key = some value → key ∈ keys) :
    dict.size ≤ keys.card := by
  rw [size_eq_card distinct]
  apply Finset.card_le_card
  intro key member
  rcases mem_domain.mp member with ⟨value, found⟩
  exact subset key value found

theorem size_le_of_times (distinct : dict.Distinct) (time : Value → Int) (low high : Int)
    (perTime : Nat) (times : ∀ key value, dict.get key = some value →
      low ≤ time value ∧ time value ≤ high)
    (few : ∀ moment, ∃ keys : Finset Key, keys.card ≤ perTime ∧
      ∀ key value, dict.get key = some value → time value = moment → key ∈ keys) :
    dict.size ≤ perTime * (high + 1 - low).toNat := by
  classical
  rw [size_eq_card distinct, ← Int.card_Icc]
  apply Finset.card_le_mul_card_image_of_maps_to
    (f := fun key => ((dict.get key).map time).getD low)
  · intro key member
    rcases mem_domain.mp member with ⟨value, found⟩
    simp only [found, Option.map_some, Option.getD_some]
    exact Finset.mem_Icc.mpr (times key value found)
  · intro moment _
    rcases few moment with ⟨_, bound, covers⟩
    apply (Finset.card_le_card _).trans bound
    intro key member
    rw [Finset.mem_filter] at member
    rcases mem_domain.mp member.1 with ⟨value, found⟩
    apply covers key value found
    simpa [found] using member.2

end Dict

end VideoAnalysis.Foundation
