import Mathlib.Data.List.Basic

/-! # Counting the entries of a table

The entries of a table that meet a test, counted as an integer, and what one
concatenated or replaced entry does to the count.
-/

namespace VideoAnalysis.Foundation

variable {Entry : Type*}

def tally (test : Entry → Bool) (entries : List Entry) : Int := entries.countP test

@[simp] theorem tally_nil (test : Entry → Bool) : tally test [] = 0 := rfl

theorem tally_nonneg (test : Entry → Bool) (entries : List Entry) : 0 ≤ tally test entries :=
  Int.natCast_nonneg _

theorem tally_concat (test : Entry → Bool) (entries : List Entry) (added : Entry) :
    tally test (entries ++ [added]) = tally test entries + if test added then 1 else 0 := by
  simp only [tally, List.countP_append, List.countP_cons, List.countP_nil]
  split <;> simp

variable {entries : List Entry}

theorem tally_set (test : Entry → Bool) {index : Nat} {before : Entry}
    (found : entries[index]? = some before) (after : Entry) :
    tally test (entries.set index after) =
      tally test entries - (if test before then 1 else 0) + if test after then 1 else 0 := by
  rcases List.getElem?_eq_some_iff.mp found with ⟨bound, same⟩
  have counted : (if test before then 1 else 0) ≤ entries.countP test := by
    split
    next meets =>
      apply List.countP_pos_iff.mpr
      exact ⟨before, List.mem_of_getElem? found, meets⟩
    next => omega
  simp only [tally, List.countP_set bound, same]
  cases holdsBefore : test before <;> cases holdsAfter : test after <;>
    simp only [holdsBefore, Bool.false_eq_true, if_true, if_false] at counted ⊢ <;> omega

theorem tally_pos {test : Entry → Bool} {index : Nat} {entry : Entry}
    (found : entries[index]? = some entry) (meets : test entry = true) :
    1 ≤ tally test entries := by
  have positive : 0 < entries.countP test :=
    List.countP_pos_iff.mpr ⟨entry, List.mem_of_getElem? found, meets⟩
  simp only [tally]
  omega

theorem tally_congr {first second : Entry → Bool}
    (agree : ∀ entry ∈ entries, first entry = second entry) :
    tally first entries = tally second entries := by
  simp only [tally]
  rw [List.countP_congr]
  intro entry member
  rw [agree entry member]

theorem tally_mono {first second : Entry → Bool} (entries : List Entry)
    (implied : ∀ entry ∈ entries, first entry = true → second entry = true) :
    tally first entries ≤ tally second entries := by
  simp only [tally]
  have counts := List.countP_mono_left implied
  omega

/-- Entries that meet exactly one of two tests. -/
theorem tally_split {first second third : Entry → Bool}
    (split : ∀ entry ∈ entries, third entry = (first entry || second entry))
    (apart : ∀ entry ∈ entries, first entry = true → second entry = false) :
    tally third entries = tally first entries + tally second entries := by
  induction entries with
  | nil => rfl
  | cons entry rest induction =>
    have tail := induction (fun other member => split other (List.mem_cons_of_mem _ member))
      fun other member => apart other (List.mem_cons_of_mem _ member)
    have headSplit := split entry List.mem_cons_self
    have headApart := apart entry List.mem_cons_self
    simp only [tally, List.countP_cons] at tail ⊢
    cases holdsFirst : first entry <;> cases holdsSecond : second entry <;> simp_all <;> omega

end VideoAnalysis.Foundation
