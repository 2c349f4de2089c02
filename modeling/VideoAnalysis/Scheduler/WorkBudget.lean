import VideoAnalysis.Foundation.Dict
import VideoAnalysis.Foundation.Machine
import VideoAnalysis.Foundation.Tally
import VideoAnalysis.Python.Text

/-! # The work budget

One process-wide count of materialization slots. A permit and the budget have a
lock each; a step is what one thread does under one of them.
-/

namespace VideoAnalysis.Scheduler

open Foundation Python

inductive Lane where
  | image
  | remux
  | finalizer
  | other
deriving DecidableEq

/-- No letter outside A to Z is lowered to a letter of the three names. -/
def normaliseLane (lane : Text) : Lane :=
  let value := (strip (if lane = [] then text "other" else lane)).map asciiLower
  if value = text "image" then .image
  else if value = text "remux" then .remux
  else if value = text "finalizer" then .finalizer
  else .other

/-- A `move_to` that holds the lock of its permit. -/
structure Move where
  lane : Lane
  owner : Option Text
  atBudget : Bool

/-- `releasing` is the lane a `release` has read and not yet given back. -/
structure WorkPermit where
  permitId : Nat
  lane : Lane
  owner : Text
  released : Bool := false
  move : Option Move := none
  releasing : Option Lane := none

namespace WorkPermit

/-- `move_to` up to the call of the budget; a move to the same lane makes none. -/
def moveTo (permit : WorkPermit) (lane : Lane) (owner : Option Text) :
    Except String WorkPermit :=
  if permit.released then .error "cannot move a released work permit"
  else if permit.lane ≠ lane then .ok { permit with move := some ⟨lane, owner, false⟩ }
  else .ok { permit with owner := owner.getD permit.owner }

def release (permit : WorkPermit) : WorkPermit :=
  if permit.released then permit
  else { permit with released := true, releasing := some permit.lane }

end WorkPermit

structure WorkBudget where
  maxActive : Int
  reservedNonImage : Int
  active : Int := 0
  byLane : Lane → Int := fun _ => 0
  permitLanes : Dict Nat Lane := ∅
  nextPermitId : Nat := 1

namespace WorkBudget

def create (maxActive reservedNonImage : Int) : WorkBudget where
  maxActive := max 0 maxActive
  reservedNonImage :=
    if 2 ≤ max 0 maxActive then min (max 0 reservedNonImage) (max 0 maxActive - 1) else 0

def setCount (byLane : Lane → Int) (lane : Lane) (count : Int) : Lane → Int :=
  fun asked => if asked = lane then count else byLane asked

def tryAcquire (budget : WorkBudget) (lane : Lane) (owner : Text) :
    Option (WorkPermit × WorkBudget) :=
  if budget.maxActive ≤ 0 ∨ budget.maxActive ≤ budget.active then none
  else if lane = .image ∧ 0 < budget.reservedNonImage ∧
      budget.maxActive - budget.reservedNonImage ≤ budget.active then none
  else
    some
      ({ permitId := budget.nextPermitId, lane, owner },
        { budget with
          nextPermitId := budget.nextPermitId + 1
          active := budget.active + 1
          byLane := setCount budget.byLane lane (budget.byLane lane + 1)
          permitLanes := budget.permitLanes.set budget.nextPermitId lane })

/-- `_move`; `clamp` is applied to each lowered count. -/
def move (clamp : Int → Int) (budget : WorkBudget) (permitId : Nat) (oldLane newLane : Lane) :
    Except String WorkBudget :=
  match budget.permitLanes.get permitId with
  | none => .error "work permit is no longer active"
  | some current =>
    if current ≠ oldLane then .error "work permit lane ownership changed"
    else
      let lowered := setCount budget.byLane oldLane (clamp (budget.byLane oldLane - 1))
      .ok { budget with
        byLane := setCount lowered newLane (lowered newLane + 1)
        permitLanes := budget.permitLanes.set permitId newLane }

/-- `_release`, which goes by the lane in the budget's own table. -/
def release (clamp : Int → Int) (budget : WorkBudget) (permitId : Nat) : WorkBudget :=
  match budget.permitLanes.get permitId with
  | none => budget
  | some current =>
    { budget with
      active := clamp (budget.active - 1)
      byLane := setCount budget.byLane current (clamp (budget.byLane current - 1))
      permitLanes := budget.permitLanes.erase permitId }

end WorkBudget

/-- The budget, every permit made from it and the compatibility calls between two
locks: those of `acquire` with their permit in hand, those of `release` likewise. -/
structure BudgetState where
  budget : WorkBudget
  permits : List WorkPermit := []
  compatibilityPermits : List Nat := []
  acquiring : List Nat := []
  returning : List Nat := []

inductive BudgetLabel where
  | tryAcquire (lane owner : Text)
  | acquire
  | keepPermit (index : Nat)
  | release
  | releaseReturned (index : Nat)
  | moveTo (index : Nat) (lane : Text) (owner : Option Text)
  | budgetMove (index : Nat)
  | moved (index : Nat)
  | releasePermit (index : Nat)
  | budgetRelease (index : Nat)

namespace BudgetState

variable (state : BudgetState) (index : Nat)

def setPermit (permit : WorkPermit) : BudgetState :=
  { state with permits := state.permits.set index permit }

def unlocked : Option WorkPermit :=
  match state.permits[index]? with
  | some permit => if permit.move = none then some permit else none
  | none => none

def tryAcquire (state : BudgetState) (lane owner : Text) : BudgetState :=
  match state.budget.tryAcquire (normaliseLane lane) owner with
  | none => state
  | some (permit, budget) => { state with budget, permits := state.permits ++ [permit] }

def acquire (state : BudgetState) : BudgetState :=
  match state.budget.tryAcquire (normaliseLane (text "finalizer")) (text "legacy-guard") with
  | none => state
  | some (permit, budget) =>
    { state with
      budget
      permits := state.permits ++ [permit]
      acquiring := state.acquiring ++ [state.permits.length] }

def keepPermit : Option BudgetState :=
  if index ∈ state.acquiring then
    some { state with
      acquiring := state.acquiring.erase index
      compatibilityPermits := state.compatibilityPermits ++ [index] }
  else none

def release (state : BudgetState) : BudgetState :=
  match state.compatibilityPermits.getLast? with
  | none => state
  | some index =>
    { state with
      compatibilityPermits := state.compatibilityPermits.dropLast
      returning := state.returning ++ [index] }

def releasePermit : Option BudgetState :=
  match state.unlocked index with
  | none => none
  | some permit => some (state.setPermit index permit.release)

def releaseReturned : Option BudgetState :=
  if index ∈ state.returning then
    { state with returning := state.returning.erase index }.releasePermit index
  else none

/-- A move that raises gives the lock back. -/
def moveTo (lane : Text) (owner : Option Text) : Option BudgetState :=
  match state.unlocked index with
  | none => none
  | some permit =>
    match permit.moveTo (normaliseLane lane) owner with
    | .error _ => some state
    | .ok moving => some (state.setPermit index moving)

def budgetMove (clamp : Int → Int) (state : BudgetState) (index : Nat) : Option BudgetState :=
  match state.permits[index]? with
  | none => none
  | some permit =>
    match permit.move with
    | none => none
    | some move =>
      if move.atBudget then none
      else
        match state.budget.move clamp permit.permitId permit.lane move.lane with
        | .error _ => some (state.setPermit index { permit with move := none })
        | .ok budget =>
          some ({ state with budget }.setPermit index
            { permit with move := some { move with atBudget := true } })

def moved : Option BudgetState :=
  match state.permits[index]? with
  | none => none
  | some permit =>
    match permit.move with
    | none => none
    | some move =>
      if move.atBudget then
        some (state.setPermit index
          { permit with
            lane := move.lane
            owner := move.owner.getD permit.owner
            move := none })
      else none

def budgetRelease (clamp : Int → Int) (state : BudgetState) (index : Nat) : Option BudgetState :=
  match state.permits[index]? with
  | none => none
  | some permit =>
    match permit.releasing with
    | none => none
    | some _ =>
      some ({ state with budget := state.budget.release clamp permit.permitId }.setPermit
        index { permit with releasing := none })

def step (clamp : Int → Int) (state : BudgetState) : BudgetLabel → Option BudgetState
  | .tryAcquire lane owner => some (state.tryAcquire lane owner)
  | .acquire => some state.acquire
  | .keepPermit index => state.keepPermit index
  | .release => some state.release
  | .releaseReturned index => state.releaseReturned index
  | .moveTo index lane owner => state.moveTo index lane owner
  | .budgetMove index => state.budgetMove clamp index
  | .moved index => state.moved index
  | .releasePermit index => state.releasePermit index
  | .budgetRelease index => state.budgetRelease clamp index

end BudgetState

/-- Every interleaving of calls on one budget. The source's counts are clamped by
`max 0`. -/
def budgetMachine (clamp : Int → Int) (maxActive reservedNonImage : Int) :
    Machine BudgetState BudgetLabel where
  initial state := state = { budget := .create maxActive reservedNonImage }
  step := BudgetState.step clamp

end VideoAnalysis.Scheduler
