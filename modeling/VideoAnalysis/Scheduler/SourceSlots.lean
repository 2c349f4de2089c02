import VideoAnalysis.Foundation.Dict
import VideoAnalysis.Foundation.Machine
import VideoAnalysis.Foundation.Tally

/-! # Source slots

Keyed counts of slots that are kept for the life of the process. As with the
budget, a release is two steps: one under the permit's lock, one under the
registry's.
-/

namespace VideoAnalysis.Scheduler

open Foundation

structure SourcePermit where
  sourceId : String
  generation : Int
  released : Bool := false
  releasing : Bool := false

structure SourceSlotRegistry where
  perSourceLimit : Int
  active : Dict String Int := ∅
  generation : Dict String Int := ∅

namespace SourceSlotRegistry

def create (perSourceLimit : Int) : SourceSlotRegistry where
  perSourceLimit := max 1 perSourceLimit

def activeOf (registry : SourceSlotRegistry) (sourceId : String) : Int :=
  (registry.active.get sourceId).getD 0

def keyOf (sourceId : String) : String := if sourceId = "" then "__unknown__" else sourceId

def tryAcquire (registry : SourceSlotRegistry) (sourceId : String) :
    Option (SourcePermit × SourceSlotRegistry) :=
  let key := keyOf sourceId
  if registry.perSourceLimit ≤ registry.activeOf key then none
  else
    let generation := (registry.generation.get key).getD 0 + 1
    some
      ({ sourceId := key, generation },
        { registry with
          generation := registry.generation.set key generation
          active := registry.active.set key (registry.activeOf key + 1) })

def release (clamp : Int → Int) (registry : SourceSlotRegistry) (sourceId : String) :
    SourceSlotRegistry :=
  { registry with
    active := registry.active.set sourceId (clamp (registry.activeOf sourceId - 1)) }

end SourceSlotRegistry

structure SourceState where
  registry : SourceSlotRegistry
  permits : List SourcePermit := []

inductive SourceLabel where
  | tryAcquire (sourceId : String)
  | releasePermit (index : Nat)
  | registryRelease (index : Nat)

namespace SourceState

def tryAcquire (state : SourceState) (sourceId : String) : SourceState :=
  match state.registry.tryAcquire sourceId with
  | none => state
  | some (permit, registry) => { registry, permits := state.permits ++ [permit] }

def releasePermit (state : SourceState) (index : Nat) : Option SourceState :=
  match state.permits[index]? with
  | none => none
  | some permit =>
    if permit.released then some state
    else
      some { state with
        permits := state.permits.set index { permit with released := true, releasing := true } }

def registryRelease (clamp : Int → Int) (state : SourceState) (index : Nat) :
    Option SourceState :=
  match state.permits[index]? with
  | none => none
  | some permit =>
    if permit.releasing then
      some
        { registry := state.registry.release clamp permit.sourceId
          permits := state.permits.set index { permit with releasing := false } }
    else none

def step (clamp : Int → Int) (state : SourceState) : SourceLabel → Option SourceState
  | .tryAcquire sourceId => some (state.tryAcquire sourceId)
  | .releasePermit index => state.releasePermit index
  | .registryRelease index => state.registryRelease clamp index

end SourceState

def sourceMachine (clamp : Int → Int) (perSourceLimit : Int) :
    Machine SourceState SourceLabel where
  initial state := state = { registry := .create perSourceLimit }
  step := SourceState.step clamp

namespace SourcePermit

/-- A permit of a source whose release has not reached the registry. -/
def holds (sourceId : String) (permit : SourcePermit) : Bool :=
  permit.sourceId == sourceId && (!permit.released || permit.releasing)

end SourcePermit

/-- The counts of the registry are the counts of the permits it has not taken back. -/
structure SourceBooks (state : SourceState) : Prop where
  releasing : ∀ permit ∈ state.permits, permit.releasing = true → permit.released = true
  active : ∀ sourceId, state.registry.activeOf sourceId = tally (·.holds sourceId) state.permits
  bounded : ∀ sourceId, state.registry.activeOf sourceId ≤ state.registry.perSourceLimit
  limit : 1 ≤ state.registry.perSourceLimit
  distinct : state.registry.active.Distinct

namespace SourceSlotRegistry

theorem activeOf_set (registry : SourceSlotRegistry) (sourceId asked : String) (count : Int)
    (generation : Dict String Int) :
    activeOf ⟨registry.perSourceLimit, registry.active.set sourceId count, generation⟩ asked =
      if asked = sourceId then count else registry.activeOf asked := by
  simp only [activeOf, Dict.get_set]
  split <;> rfl

end SourceSlotRegistry

namespace SourceBooks

variable {state next : SourceState}

theorem acquired (books : SourceBooks state) (sourceId : String) :
    SourceBooks (state.tryAcquire sourceId) := by
  simp only [SourceState.tryAcquire]
  split
  next => exact books
  next permit registry took =>
    simp only [SourceSlotRegistry.tryAcquire] at took
    split at took
    next => cases took
    next full =>
      cases took
      have room := Int.not_le.mp full
      constructor
      · intro permit member releasing
        rcases List.mem_append.mp member with old | fresh
        · exact books.releasing permit old releasing
        · rw [List.mem_singleton.mp fresh] at releasing
          cases releasing
      · intro asked
        rw [SourceSlotRegistry.activeOf_set, tally_concat, ← books.active]
        split
        next same => simp [SourcePermit.holds, same]
        next different => simp [SourcePermit.holds, Ne.symm different]
      · intro asked
        rw [SourceSlotRegistry.activeOf_set]
        split
        next => exact room
        next => exact books.bounded asked
      · exact books.limit
      · exact books.distinct.set _ _

variable {index : Nat}

theorem released (books : SourceBooks state)
    (stepped : state.releasePermit index = some next) : SourceBooks next := by
  simp only [SourceState.releasePermit] at stepped
  split at stepped
  next => cases stepped
  next permit found =>
    split at stepped
    next =>
      cases stepped
      exact books
    next kept =>
      cases stepped
      have held : permit.released = false := by simpa using kept
      constructor
      · intro changed member releasing
        rcases List.mem_or_eq_of_mem_set member with old | rfl
        · exact books.releasing changed old releasing
        · rfl
      · intro asked
        rw [books.active, tally_set _ found]
        have same : SourcePermit.holds asked { permit with released := true, releasing := true } =
            permit.holds asked := by
          simp [SourcePermit.holds, held]
        rw [same, Int.sub_add_cancel]
      · exact books.bounded
      · exact books.limit
      · exact books.distinct

section

variable (books : SourceBooks state) {permit : SourcePermit}
  (found : state.permits[index]? = some permit) (releasing : permit.releasing = true)

include books permit found releasing

theorem counted :
    1 ≤ state.registry.activeOf permit.sourceId := by
  rw [books.active]
  apply tally_pos found
  simp [SourcePermit.holds, releasing]

theorem release_clamp :
    state.registry.release (max 0) permit.sourceId =
      state.registry.release id permit.sourceId := by
  have counted := books.counted found releasing
  have same : max 0 (state.registry.activeOf permit.sourceId - 1) =
      id (state.registry.activeOf permit.sourceId - 1) := by
    simp only [id]
    omega
  simp only [SourceSlotRegistry.release, same]

end

theorem returned (books : SourceBooks state)
    (stepped : state.registryRelease id index = some next) : SourceBooks next := by
  simp only [SourceState.registryRelease] at stepped
  split at stepped
  next => cases stepped
  next permit found =>
    split at stepped
    next releasing =>
      cases stepped
      have released := books.releasing permit (List.mem_of_getElem? found) releasing
      have bounded := books.bounded permit.sourceId
      constructor
      · intro changed member still
        rcases List.mem_or_eq_of_mem_set member with old | rfl
        · exact books.releasing changed old still
        · cases still
      · intro asked
        simp only [SourceSlotRegistry.release]
        rw [SourceSlotRegistry.activeOf_set, tally_set _ found, ← books.active]
        split
        next same => simp [SourcePermit.holds, released, releasing, same]
        next different => simp [SourcePermit.holds, Ne.symm different]
      · intro asked
        simp only [SourceSlotRegistry.release]
        rw [SourceSlotRegistry.activeOf_set]
        split
        next =>
          simp only [id]
          omega
        next => exact books.bounded asked
      · exact books.limit
      · exact books.distinct.set _ _
    next => cases stepped

end SourceBooks

namespace SourceState

variable {state next : SourceState}

theorem step_clamp (books : SourceBooks state) (label : SourceLabel) :
    state.step (max 0) label = state.step id label := by
  cases label with
  | registryRelease =>
    simp only [step, registryRelease]
    split
    next => rfl
    next permit found =>
      split
      next releasing => rw [books.release_clamp found releasing]
      next => rfl
  | _ => rfl

theorem step_books (books : SourceBooks state) {label : SourceLabel}
    (stepped : state.step (max 0) label = some next) : SourceBooks next := by
  rw [step_clamp books] at stepped
  cases label with
  | tryAcquire sourceId =>
    cases stepped
    exact books.acquired sourceId
  | releasePermit => exact books.released stepped
  | registryRelease => exact books.returned stepped

end SourceState

theorem sourceBooks_invariant (perSourceLimit : Int) :
    (sourceMachine (max 0) perSourceLimit).Invariant SourceBooks where
  initially := by
    intro state initial
    subst initial
    have limit : 1 ≤ max 1 perSourceLimit := Int.le_max_left _ _
    constructor
    · simp
    · exact fun _ => rfl
    · intro asked
      exact Int.le_trans (by decide : (0 : Int) ≤ 1) limit
    · exact limit
    · exact List.nodup_nil
  preserved := by
    intro current label next _ books stepped
    exact SourceState.step_books books stepped

end VideoAnalysis.Scheduler
