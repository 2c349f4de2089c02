import Mathlib.Data.List.Sort
import Mathlib.Data.List.Pairwise

/-! # Sorting by two keys

Items in the order of one key and, where that is equal, of a second one. The second key
alone ascends as well exactly if the two never disagree.
-/

namespace VideoAnalysis.Foundation

section TwoKeys

variable {Item Key Value : Type*} [LinearOrder Key] [LinearOrder Value]
  (key : Item → Key) (value : Item → Value)

def NotAfter (first second : Item) : Prop :=
  key first < key second ∨ key first = key second ∧ value first ≤ value second

instance : DecidableRel (NotAfter key value) := fun first second =>
  inferInstanceAs (Decidable
    (key first < key second ∨ key first = key second ∧ value first ≤ value second))

instance : Std.Total (NotAfter key value) where
  total first second := by
    rcases lt_trichotomy (key first) (key second) with less | same | more
    · exact .inl (.inl less)
    · rcases le_total (value first) (value second) with le | ge
      · exact .inl (.inr ⟨same, le⟩)
      · exact .inr (.inr ⟨same.symm, ge⟩)
    · exact .inr (.inl more)

instance : IsTrans Item (NotAfter key value) where
  trans first second third := by
    rintro (less | ⟨same, le⟩) (less' | ⟨same', le'⟩)
    · exact .inl (less.trans less')
    · exact .inl (same' ▸ less)
    · exact .inl (same ▸ less')
    · exact .inr ⟨same.trans same', le.trans le'⟩

def sortByKeys (items : List Item) : List Item := items.insertionSort (NotAfter key value)

theorem sortByKeys_perm (items : List Item) : (sortByKeys key value items).Perm items :=
  List.perm_insertionSort _ items

theorem sortByKeys_pairwise (items : List Item) :
    (sortByKeys key value items).Pairwise (NotAfter key value) :=
  List.pairwise_insertionSort _ items

theorem sortByKeys_of_ascending {items : List Item}
    (ascending : items.Pairwise fun first second => key first < key second) :
    sortByKeys key value items = items :=
  (ascending.imp Or.inl).insertionSort_eq

/-- No item has a smaller first key and a larger second one. -/
def KeysAgree (items : List Item) : Prop :=
  ∀ first ∈ items, ∀ second ∈ items, key first < key second → value first ≤ value second

variable {key value}

theorem sortByKeys_ascends_iff {items : List Item} :
    ((sortByKeys key value items).map value).Pairwise (· ≤ ·) ↔ KeysAgree key value items := by
  have perm := sortByKeys_perm key value items
  have sorted := sortByKeys_pairwise key value items
  rw [List.pairwise_map]
  constructor
  · intro ascends first isFirst second isSecond less
    have both := sorted.and ascends
    have ordered : (NotAfter key value first second ∧ value first ≤ value second) ∨
        (NotAfter key value second first ∧ value second ≤ value first) := by
      have symmetric : Std.Symm fun first second : Item =>
          (NotAfter key value first second ∧ value first ≤ value second) ∨
            (NotAfter key value second first ∧ value second ≤ value first) := ⟨fun _ _ => Or.symm⟩
      have either := both.imp fun {first second} pair =>
        (Or.inl pair : _ ∨ (NotAfter key value second first ∧ value second ≤ value first))
      exact either.forall_of_forall (fun _ _ => .inl ⟨.inr ⟨rfl, le_refl _⟩, le_refl _⟩)
        (perm.mem_iff.mpr isFirst) (perm.mem_iff.mpr isSecond)
    rcases ordered with before | ⟨after, _⟩
    · exact before.2
    · rcases after with more | ⟨same, _⟩
      · exact absurd more less.not_gt
      · exact absurd same less.ne'
  · intro agree
    apply sorted.imp_of_mem
    rintro first second isFirst isSecond (less | ⟨_, le⟩)
    · exact agree first (perm.mem_iff.mp isFirst) second (perm.mem_iff.mp isSecond) less
    · exact le

end TwoKeys

end VideoAnalysis.Foundation
