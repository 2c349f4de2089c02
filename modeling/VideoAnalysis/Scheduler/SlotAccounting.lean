import VideoAnalysis.Scheduler.BudgetRuns
import VideoAnalysis.Scheduler.SourceSlots

/-! # The accounts of permits

What the counts of the budget and of the source registry say of the permits, after
any interleaving of calls.
-/

namespace VideoAnalysis.Scheduler

open Foundation

/-- The last two fields are about states in which no release, or no release and no
move, stands between its two locks. -/
structure BudgetExact (state : BudgetState) : Prop where
  active : state.budget.active = tally (·.unreleased) state.permits
  sum : state.budget.active =
    state.budget.byLane .image + state.budget.byLane .remux + state.budget.byLane .finalizer +
      state.budget.byLane .other
  bounded : state.budget.active ≤ state.budget.maxActive
  lanes : ∀ lane, state.budget.byLane lane =
    tally (fun permit => permit.unreleased && permit.countedLane == lane) state.permits
  clamps : ∀ label, state.step (max 0) label = state.step id label
  activeAtRest : (∀ permit ∈ state.permits, permit.releasing = none) →
    state.budget.active = tally (fun permit => !permit.released) state.permits
  lanesAtRest :
    (∀ permit ∈ state.permits, permit.releasing = none ∧ permit.move = none) →
    ∀ lane, state.budget.byLane lane =
      tally (fun permit => !permit.released && permit.lane == lane) state.permits

theorem budgetExact_of_books {state : BudgetState} (books : Books state.budget state.permits) :
    BudgetExact state where
  active := by
    rw [books.active]
    apply tally_congr
    intro permit _
    exact permit.entry_isSome
  sum := books.active_eq_lanes
  bounded := books.bounded
  lanes := by
    intro lane
    rw [books.lanes]
    apply tally_congr
    intro permit _
    exact permit.holds_eq lane
  clamps := BudgetState.step_clamp books
  activeAtRest := by
    intro atRest
    rw [books.active]
    apply tally_congr
    intro permit member
    simp [permit.entry_isSome, WorkPermit.unreleased, atRest permit member]
  lanesAtRest := by
    intro atRest lane
    rw [books.lanes]
    apply tally_congr
    intro permit member
    rcases atRest permit member with ⟨settled, idle⟩
    simp [permit.holds_eq, WorkPermit.unreleased, WorkPermit.countedLane, settled, idle]

structure SourceExact (state : SourceState) : Prop where
  active : ∀ sourceId, state.registry.activeOf sourceId =
    tally (fun permit => permit.sourceId == sourceId &&
      (!permit.released || permit.releasing)) state.permits
  bounded : ∀ sourceId, state.registry.activeOf sourceId ≤ state.registry.perSourceLimit
  clamps : ∀ label, state.step (max 0) label = state.step id label
  activeAtRest : (∀ permit ∈ state.permits, permit.releasing = false) →
    ∀ sourceId, state.registry.activeOf sourceId =
      tally (fun permit => permit.sourceId == sourceId && !permit.released) state.permits

theorem sourceExact_of_books {state : SourceState} (books : SourceBooks state) :
    SourceExact state where
  active := books.active
  bounded := books.bounded
  clamps := SourceState.step_clamp books
  activeAtRest := by
    intro atRest sourceId
    rw [books.active]
    apply tally_congr
    intro permit member
    simp [SourcePermit.holds, atRest permit member]

theorem slots_accounted :
    (∀ maxActive reservedNonImage state,
      (budgetMachine (max 0) maxActive reservedNonImage).Reachable state → BudgetExact state) ∧
    (∀ maxActive reservedNonImage state,
      ((budgetMachine (max 0) maxActive reservedNonImage).restrict fun state label =>
        state.movesIntoImage label = false).Reachable state →
        state.budget.byLane .image ≤ state.budget.maxActive - state.budget.reservedNonImage) ∧
    (∀ perSourceLimit state, (sourceMachine (max 0) perSourceLimit).Reachable state →
      SourceExact state) := by
  refine ⟨?_, ?_, ?_⟩
  · intro maxActive reservedNonImage state reached
    exact budgetExact_of_books (books_of_reachable reached)
  · intro maxActive reservedNonImage state reached
    exact imageBound_invariant.holds reached
  · intro perSourceLimit state reached
    exact sourceExact_of_books ((sourceBooks_invariant perSourceLimit).holds reached)

def halfReleased : List BudgetLabel :=
  [.tryAcquire (Python.text "Image") [], .acquire, .keepPermit 1, .release,
    .moveTo 0 (Python.text "remux") none, .budgetMove 0, .releaseReturned 1]

theorem slots_accounted_halfReleased :
    (∃ state, (budgetMachine (max 0) 3 1).run { budget := .create 3 1 } halfReleased =
        some state ∧ state.budget.active = 2 ∧ BudgetExact state ∧
        state.budget.byLane .image ≤ state.budget.maxActive - state.budget.reservedNonImage) ∧
    ∃ state, (sourceMachine (max 0) 1).run { registry := .create 1 }
        [.tryAcquire "a", .tryAcquire "a", .releasePermit 0, .releasePermit 0] = some state ∧
        state.registry.activeOf "a" = 1 ∧ SourceExact state := by
  have ran : (budgetMachine (max 0) 3 1).run { budget := .create 3 1 } halfReleased =
      some _ := rfl
  have ranElsewhere : ((budgetMachine (max 0) 3 1).restrict fun state label =>
      state.movesIntoImage label = false).run { budget := .create 3 1 } halfReleased =
      some _ := rfl
  have ranSource : (sourceMachine (max 0) 1).run { registry := .create 1 }
      [.tryAcquire "a", .tryAcquire "a", .releasePermit 0, .releasePermit 0] = some _ := rfl
  refine ⟨⟨_, ran, rfl, ?_, ?_⟩, ⟨_, ranSource, rfl, ?_⟩⟩
  · exact slots_accounted.1 3 1 _ (Machine.Reachable.run (.start rfl) ran)
  · exact slots_accounted.2.1 3 1 _ (Machine.Reachable.run (.start rfl) ranElsewhere)
  · exact slots_accounted.2.2 1 _ (Machine.Reachable.run (.start rfl) ranSource)

end VideoAnalysis.Scheduler
