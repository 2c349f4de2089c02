import Mathlib.Algebra.BigOperators.Group.List.Basic
import Mathlib.Algebra.Order.Group.Multiset

/-! # Totals over a pool of threads

A pool is a list of thread states addressed by position. A measure of single
threads adds up over the pool, and a step of one thread changes the total by
what it changes in that thread.
-/

namespace VideoAnalysis.Foundation

variable {Thread Amount : Type*} [AddCommMonoid Amount]

def total (measure : Thread → Amount) (threads : List Thread) : Amount :=
  (threads.map measure).sum

section

variable (measure : Thread → Amount)

include measure

@[simp] theorem total_nil : total measure [] = 0 := rfl

@[simp] theorem total_cons (thread : Thread) (threads : List Thread) :
    total measure (thread :: threads) = measure thread + total measure threads := by
  simp [total]

@[simp] theorem total_append (first second : List Thread) :
    total measure (first ++ second) = total measure first + total measure second := by
  simp [total]

theorem total_set {threads : List Thread} {index : Nat} {before : Thread}
    (occupied : threads[index]? = some before) (after : Thread) :
    total measure (threads.set index after) + measure before =
      total measure threads + measure after := by
  induction threads generalizing index with
  | nil => simp at occupied
  | cons _ _ induction =>
    cases index with
    | zero =>
      simp only [List.getElem?_cons_zero, Option.some.injEq] at occupied
      subst occupied
      simp only [List.set_cons_zero, total_cons]
      ac_rfl
    | succ =>
      simp only [List.getElem?_cons_succ] at occupied
      simp only [List.set_cons_succ, total_cons, add_assoc]
      rw [induction occupied]

theorem total_split {threads : List Thread} {index : Nat} {thread : Thread}
    (occupied : threads[index]? = some thread) :
    ∃ others, total measure threads = measure thread + others := by
  rcases List.getElem?_eq_some_iff.mp occupied with ⟨bound, rfl⟩
  have same := ((List.getElem_cons_eraseIdx_perm bound).map measure).sum_eq
  rw [List.map_cons, List.sum_cons] at same
  exact ⟨_, same.symm⟩

end

end VideoAnalysis.Foundation
