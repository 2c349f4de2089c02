import VideoAnalysis.Scheduler.BudgetBooks

/-! # Runs of the work budget

Every call keeps the books, whatever the order of the calls' parts.
-/

namespace VideoAnalysis.Scheduler

open Foundation

namespace BudgetState

variable {state next : BudgetState}

variable {index : Nat}

theorem unlocked_eq_some {permit : WorkPermit} (free : state.unlocked index = some permit) :
    state.permits[index]? = some permit ∧ permit.move = none := by
  simp only [unlocked] at free
  split at free
  next found same =>
    split at free
    next idle =>
      cases free
      exact ⟨same, idle⟩
    next => cases free
  next => cases free

section

variable (books : Books state.budget state.permits)

include books

theorem step_clamp (label : BudgetLabel) :
    state.step (max 0) label = state.step id label := by
  cases label with
  | budgetMove =>
    simp only [step, budgetMove]
    split
    next => rfl
    next permit found =>
      split
      next => rfl
      next move moving =>
        split
        next => rfl
        next before =>
          rw [books.move_clamp found moving (by simpa using before)]
  | budgetRelease =>
    simp only [step, budgetRelease]
    split
    next => rfl
    next permit found =>
      split
      next => rfl
      next lane releasing =>
        rw [books.release_clamp found (by simp [releasing])]
  | _ => rfl

theorem releasePermit_books (stepped : state.releasePermit index = some next) :
    Books next.budget next.permits := by
  simp only [releasePermit] at stepped
  split at stepped
  next => cases stepped
  next permit free =>
    rcases unlocked_eq_some free with ⟨found, idle⟩
    cases stepped
    have valid := books.valid _ _ found
    simp only [setPermit, WorkPermit.release]
    split
    next => exact books.replace_same found valid rfl rfl
    next kept =>
      have held : permit.released = false := by simpa using kept
      apply books.replace_same found
      · exact ⟨fun moving => absurd idle moving, fun _ => rfl⟩
      · rfl
      · simp [WorkPermit.entry, WorkPermit.unreleased, WorkPermit.countedLane, idle, held]

theorem moveTo_books {lane : Python.Text} {owner : Option Python.Text}
    (stepped : state.moveTo index lane owner = some next) :
    Books next.budget next.permits := by
  simp only [moveTo] at stepped
  split at stepped
  next => cases stepped
  next permit free =>
    rcases unlocked_eq_some free with ⟨found, idle⟩
    have valid := books.valid _ _ found
    split at stepped
    next =>
      cases stepped
      exact books
    next moving accepted =>
      cases stepped
      simp only [WorkPermit.moveTo] at accepted
      split at accepted
      next => cases accepted
      next kept =>
        have held : permit.released = false := by simpa using kept
        split at accepted
        next =>
          cases accepted
          apply books.replace_same found
          · exact ⟨fun _ => held, valid.releasing⟩
          · rfl
          · simp [WorkPermit.entry, WorkPermit.unreleased, WorkPermit.countedLane, idle, held]
        next =>
          cases accepted
          exact books.replace_same found ⟨valid.moving, valid.releasing⟩ rfl rfl

theorem budgetMove_books (stepped : state.budgetMove id index = some next) :
    Books next.budget next.permits := by
  simp only [budgetMove] at stepped
  split at stepped
  next => cases stepped
  next permit found =>
    split at stepped
    next => cases stepped
    next move moving =>
      split at stepped
      next => cases stepped
      next before =>
        have early : move.atBudget = false := by simpa using before
        have ran := books.move_eq found moving early id
        rw [ran] at stepped
        cases stepped
        exact books.moved found moving early ran

theorem moved_books (stepped : state.moved index = some next) : Books next.budget next.permits := by
  simp only [moved] at stepped
  split at stepped
  next => cases stepped
  next permit found =>
    split at stepped
    next => cases stepped
    next move moving =>
      split at stepped
      next atBudget =>
        cases stepped
        have valid := books.valid _ _ found
        have held := valid.moving (by simp [moving])
        apply books.replace_same found
        · exact ⟨fun absent => absurd rfl absent, valid.releasing⟩
        · rfl
        · simp [WorkPermit.entry, WorkPermit.unreleased, WorkPermit.countedLane, moving, held, atBudget]
      next => cases stepped

theorem budgetRelease_books (stepped : state.budgetRelease id index = some next) :
    Books next.budget next.permits := by
  simp only [budgetRelease] at stepped
  split at stepped
  next => cases stepped
  next permit found =>
    split at stepped
    next => cases stepped
    next lane releasing =>
      cases stepped
      exact books.returned found (by simp [releasing])

theorem step_books {label : BudgetLabel} (stepped : state.step (max 0) label = some next) :
    Books next.budget next.permits := by
  rw [step_clamp books] at stepped
  cases label with
  | tryAcquire =>
    cases stepped
    simp only [tryAcquire]
    split
    next => exact books
    next permit budget took => exact books.acquired took
  | acquire =>
    cases stepped
    simp only [acquire]
    split
    next => exact books
    next permit budget took => exact books.acquired took
  | keepPermit =>
    simp only [step, keepPermit] at stepped
    split at stepped
    next =>
      cases stepped
      exact books
    next => cases stepped
  | release =>
    cases stepped
    simp only [release]
    split
    all_goals exact books
  | releaseReturned =>
    simp only [step, releaseReturned] at stepped
    split at stepped
    next =>
      apply releasePermit_books _ stepped
      exact books
    next => cases stepped
  | moveTo => exact moveTo_books books stepped
  | budgetMove => exact budgetMove_books books stepped
  | moved => exact moved_books books stepped
  | releasePermit => exact releasePermit_books books stepped
  | budgetRelease => exact budgetRelease_books books stepped

end

end BudgetState

/-! ## The image lane -/

def ImageBound (budget : WorkBudget) : Prop :=
  budget.byLane .image ≤ budget.maxActive - budget.reservedNonImage

variable {permit : WorkPermit} {permits : List WorkPermit}

theorem ImageBound.acquired {budget changed : WorkBudget} (books : Books budget permits)
    (bound : ImageBound budget) {lane : Lane} {owner : Python.Text}
    (took : budget.tryAcquire lane owner = some (permit, changed)) : ImageBound changed := by
  have images := books.lane_le_active .image
  have reserved := books.reserved
  simp only [WorkBudget.tryAcquire] at took
  split at took
  next => cases took
  next room =>
    split at took
    next => cases took
    next admitted =>
      cases took
      simp only [ImageBound, WorkBudget.setCount] at bound ⊢
      split
      next isImage =>
        subst isImage
        simp only [true_and, not_and, Int.not_le] at admitted
        omega
      next => exact bound

theorem ImageBound.moved {budget changed : WorkBudget} (books : Books budget permits)
    (bound : ImageBound budget) {index : Nat} {move : Move}
    (found : permits[index]? = some permit) (moving : permit.move = some move)
    (before : move.atBudget = false) (elsewhere : move.lane ≠ .image)
    (ran : budget.move id permit.permitId permit.lane move.lane = .ok changed) :
    ImageBound changed := by
  rw [books.move_eq found moving before] at ran
  cases ran
  simp only [ImageBound, WorkBudget.setCount, id, Ne.symm elsewhere, if_false] at bound ⊢
  split
  next isImage =>
    rw [← isImage]
    omega
  next => exact bound

theorem ImageBound.returned {budget : WorkBudget} (books : Books budget permits)
    (bound : ImageBound budget) {index : Nat} (found : permits[index]? = some permit)
    (releasing : permit.releasing.isSome) :
    ImageBound (budget.release id permit.permitId) := by
  rcases books.entry_of_releasing found releasing with ⟨_, _, entry⟩
  rw [books.release_eq found entry]
  simp only [ImageBound, WorkBudget.setCount, id] at bound ⊢
  split
  next isImage =>
    rw [← isImage]
    omega
  next => exact bound

namespace BudgetState

/-- A step that moves a permit into the image lane. -/
def movesIntoImage (state : BudgetState) : BudgetLabel → Bool
  | .budgetMove index =>
    match state.permits[index]? with
    | some permit =>
      match permit.move with
      | some move => move.lane == .image
      | none => false
    | none => false
  | _ => false

variable {state next : BudgetState}

variable {index : Nat}

theorem releasePermit_budget (stepped : state.releasePermit index = some next) :
    next.budget = state.budget := by
  simp only [releasePermit] at stepped
  split at stepped
  next => cases stepped
  next =>
    cases stepped
    rfl

theorem moveTo_budget {lane : Python.Text} {owner : Option Python.Text}
    (stepped : state.moveTo index lane owner = some next) : next.budget = state.budget := by
  simp only [moveTo] at stepped
  split at stepped
  next => cases stepped
  next =>
    split at stepped
    all_goals
      cases stepped
      rfl

theorem moved_budget (stepped : state.moved index = some next) :
    next.budget = state.budget := by
  simp only [moved] at stepped
  split at stepped
  next => cases stepped
  next =>
    split at stepped
    next => cases stepped
    next =>
      split at stepped
      next =>
        cases stepped
        rfl
      next => cases stepped

theorem step_imageBound (books : Books state.budget state.permits)
    (bound : ImageBound state.budget) {label : BudgetLabel}
    (elsewhere : state.movesIntoImage label = false)
    (stepped : state.step (max 0) label = some next) : ImageBound next.budget := by
  rw [step_clamp books] at stepped
  cases label with
  | tryAcquire =>
    cases stepped
    simp only [tryAcquire]
    split
    next => exact bound
    next permit budget took => exact bound.acquired books took
  | acquire =>
    cases stepped
    simp only [acquire]
    split
    next => exact bound
    next permit budget took => exact bound.acquired books took
  | keepPermit =>
    simp only [step, keepPermit] at stepped
    split at stepped
    next =>
      cases stepped
      exact bound
    next => cases stepped
  | release =>
    cases stepped
    simp only [release]
    split
    all_goals exact bound
  | releaseReturned =>
    simp only [step, releaseReturned] at stepped
    split at stepped
    next =>
      rw [releasePermit_budget stepped]
      exact bound
    next => cases stepped
  | moveTo =>
    rw [moveTo_budget stepped]
    exact bound
  | budgetMove =>
    simp only [step, budgetMove] at stepped
    simp only [movesIntoImage] at elsewhere
    split at stepped
    next => cases stepped
    next permit found =>
      split at stepped
      next => cases stepped
      next move moving =>
        split at stepped
        next => cases stepped
        next before =>
          have early : move.atBudget = false := by simpa using before
          simp only [found, moving, beq_eq_false_iff_ne] at elsewhere
          have ran := books.move_eq found moving early id
          rw [ran] at stepped
          cases stepped
          exact bound.moved books found moving early elsewhere ran
  | moved =>
    rw [moved_budget stepped]
    exact bound
  | releasePermit =>
    rw [releasePermit_budget stepped]
    exact bound
  | budgetRelease =>
    simp only [step, budgetRelease] at stepped
    split at stepped
    next => cases stepped
    next permit found =>
      split at stepped
      next => cases stepped
      next lane releasing =>
        cases stepped
        exact bound.returned books found (by simp [releasing])

end BudgetState

section Runs

variable {maxActive reservedNonImage : Int}

theorem books_invariant :
    (budgetMachine (max 0) maxActive reservedNonImage).Invariant
      fun state => Books state.budget state.permits where
  initially := by
    intro state initial
    subst initial
    exact Books.create _ _
  preserved := by
    intro current label next _ books stepped
    exact BudgetState.step_books books stepped

theorem books_of_reachable {state : BudgetState}
    (reached : (budgetMachine (max 0) maxActive reservedNonImage).Reachable state) :
    Books state.budget state.permits := books_invariant.holds reached

theorem imageBound_invariant :
    ((budgetMachine (max 0) maxActive reservedNonImage).restrict fun state label =>
      state.movesIntoImage label = false).Invariant fun state => ImageBound state.budget where
  initially := by
    intro state initial
    have fits := (Books.create maxActive reservedNonImage).reservedLe
    subst initial
    simp only [ImageBound]
    exact Int.sub_nonneg_of_le fits
  preserved := by
    intro current label next reached bound stepped
    rcases Machine.restrict_step_eq_some.mp stepped with ⟨elsewhere, ran⟩
    have books := books_of_reachable reached.of_restrict
    exact BudgetState.step_imageBound books bound elsewhere ran

end Runs

end VideoAnalysis.Scheduler
