import Mathlib.Order.Iterate

/-! # Sizes that count themselves

What states its own size is made again with the size it had, until the two agree.
-/

namespace VideoAnalysis.Foundation

/-- How long a number is written: longer numbers are not shorter, and adding its own length to
a number makes it at most one longer. -/
structure NumberWidth where
  width : Nat → Nat
  zero : width 0 = 1
  monotone : Monotone width
  slow : ∀ number, width (number + width number) ≤ width number + 1

namespace NumberWidth

variable (numbers : NumberWidth)

/-- The size of something that states `size` and holds `base` more. -/
def next (base size : Nat) : Nat := base + numbers.width size

theorem next_monotone (base : Nat) : Monotone (numbers.next base) :=
  fun _ _ le => Nat.add_le_add_left (numbers.monotone le) base

theorem le_next_iterate (base attempts : Nat) :
    (numbers.next base)^[attempts] 0 ≤ (numbers.next base)^[attempts + 1] 0 :=
  (numbers.next_monotone base).monotone_iterate_of_le_map (Nat.zero_le _) (Nat.le_succ attempts)

theorem iterate_le_of_next_eq {base size : Nat} (right : numbers.next base size = size)
    (attempts : Nat) : (numbers.next base)^[attempts] 0 ≤ size := by
  induction attempts with
  | zero => exact Nat.zero_le size
  | succ attempts induction =>
    rw [Function.iterate_succ_apply']
    calc numbers.next base ((numbers.next base)^[attempts] 0)
        ≤ numbers.next base size := numbers.next_monotone base induction
      _ = size := right

theorem next_third (base : Nat) :
    numbers.next base ((numbers.next base)^[3] 0) = (numbers.next base)^[3] 0 := by
  -- The first size is `base + 1`; the second has at most one digit more, and so has the third.
  have first : (numbers.next base)^[1] 0 = base + 1 := congrArg (base + ·) numbers.zero
  have second : (numbers.next base)^[2] 0 = base + numbers.width (base + 1) := by
    rw [Function.iterate_succ_apply', first]
    rfl
  have third : (numbers.next base)^[3] 0 =
      base + numbers.width (base + numbers.width (base + 1)) := by
    rw [Function.iterate_succ_apply', second]
    rfl
  have grows : numbers.width (base + 1) ≤ numbers.width (base + numbers.width (base + 1)) := by
    have le := numbers.le_next_iterate base 1
    rw [first, second] at le
    exact numbers.monotone le
  have growsAgain := numbers.le_next_iterate base 2
  rw [second, third] at growsAgain
  have slow := numbers.slow (base + 1)
  have atMost : numbers.width (base + numbers.width (base + 1)) ≤
      numbers.width (base + 1 + numbers.width (base + 1)) := numbers.monotone (by omega)
  rw [third]
  unfold next
  by_cases same : numbers.width (base + numbers.width (base + 1)) = numbers.width (base + 1)
  · rw [same, same]
  · have oneMore : numbers.width (base + numbers.width (base + 1)) =
        numbers.width (base + 1) + 1 := by omega
    have sum : base + (numbers.width (base + 1) + 1) =
        base + 1 + numbers.width (base + 1) := by omega
    rw [oneMore, sum] at growsAgain ⊢
    have least := numbers.monotone growsAgain
    omega

end NumberWidth

end VideoAnalysis.Foundation
