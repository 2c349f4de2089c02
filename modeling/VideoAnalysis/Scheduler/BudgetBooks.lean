import VideoAnalysis.Scheduler.WorkBudget

/-! # The books of the work budget

The budget's table has an entry for each permit whose release has not reached it,
and its counts are the counts of these permits.
-/

namespace VideoAnalysis.Scheduler

open Foundation

namespace WorkPermit

/-- A permit whose release has not reached the budget. -/
def unreleased (permit : WorkPermit) : Bool := !permit.released || permit.releasing.isSome

/-- The lane a permit counts for: the new one as soon as a move has reached the budget. -/
def countedLane (permit : WorkPermit) : Lane :=
  match permit.move with
  | some move => if move.atBudget then move.lane else permit.lane
  | none => permit.lane

def entry (permit : WorkPermit) : Option Lane :=
  if permit.unreleased then some permit.countedLane else none

def holds (lane : Lane) (permit : WorkPermit) : Bool := permit.entry == some lane

/-- A permit that is being moved keeps its lock, so it is not released meanwhile. -/
structure Valid (permit : WorkPermit) : Prop where
  moving : permit.move ≠ none → permit.released = false
  releasing : permit.releasing ≠ none → permit.released = true

theorem entry_of_move {permit : WorkPermit} (valid : permit.Valid) {move : Move}
    (moving : permit.move = some move) :
    permit.entry = some (if move.atBudget then move.lane else permit.lane) := by
  have kept := valid.moving (by simp [moving])
  simp [entry, unreleased, countedLane, kept, moving]

theorem entry_of_idle {permit : WorkPermit} (idle : permit.move = none) :
    permit.entry = if permit.unreleased then some permit.lane else none := by
  simp [entry, countedLane, idle]

theorem entry_isSome (permit : WorkPermit) : permit.entry.isSome = permit.unreleased := by
  simp only [entry]
  split
  next held => simp [held]
  next given => simpa using given

theorem holds_eq (lane : Lane) (permit : WorkPermit) :
    permit.holds lane = (permit.unreleased && permit.countedLane == lane) := by
  simp only [holds, entry]
  split
  next held => simp [held]
  next given => simp [given]

end WorkPermit

structure Books (budget : WorkBudget) (permits : List WorkPermit) : Prop where
  numbered : ∀ (index : Nat) permit, permits[index]? = some permit → permit.permitId = index + 1
  nextId : budget.nextPermitId = permits.length + 1
  valid : ∀ (index : Nat) (permit : WorkPermit), permits[index]? = some permit → permit.Valid
  entries : ∀ (index : Nat) permit, permits[index]? = some permit →
    budget.permitLanes.get (index + 1) = permit.entry
  active : budget.active = tally (fun permit => permit.entry.isSome) permits
  lanes : ∀ lane, budget.byLane lane = tally (·.holds lane) permits
  bounded : budget.active ≤ budget.maxActive
  reserved : 0 ≤ budget.reservedNonImage
  reservedLe : budget.reservedNonImage ≤ budget.maxActive

namespace Books

variable {budget : WorkBudget} {permits : List WorkPermit}

theorem create (maxActive reservedNonImage : Int) :
    Books (.create maxActive reservedNonImage) [] where
  numbered := by simp
  nextId := rfl
  valid := by simp
  entries := by simp
  active := rfl
  lanes := fun _ => rfl
  bounded := by
    simp only [WorkBudget.create]
    omega
  reserved := by
    simp only [WorkBudget.create]
    split <;> omega
  reservedLe := by
    simp only [WorkBudget.create]
    split <;> omega

variable {index : Nat} {permit : WorkPermit}

theorem lookup (books : Books budget permits) (found : permits[index]? = some permit) :
    budget.permitLanes.get permit.permitId = permit.entry := by
  rw [books.numbered index permit found]
  exact books.entries index permit found

variable {lane : Lane}

theorem counted (books : Books budget permits) (found : permits[index]? = some permit)
    (entry : permit.entry = some lane) :
    1 ≤ budget.active ∧ 1 ≤ budget.byLane lane := by
  rw [books.active, books.lanes]
  constructor
  · apply tally_pos found
    simp [entry]
  · apply tally_pos found
    simp [WorkPermit.holds, entry]

theorem lane_le_active (books : Books budget permits) (lane : Lane) :
    budget.byLane lane ≤ budget.active := by
  rw [books.active, books.lanes]
  apply tally_mono
  intro permit _ holds
  simp only [WorkPermit.holds, beq_iff_eq] at holds
  simp [holds]

theorem active_eq_lanes (books : Books budget permits) :
    budget.active = budget.byLane .image + budget.byLane .remux + budget.byLane .finalizer +
      budget.byLane .other := by
  rw [books.active, books.lanes, books.lanes, books.lanes, books.lanes]
  have images : tally (·.holds .image) permits + tally (·.holds .remux) permits =
      tally (fun permit => permit.holds .image || permit.holds .remux) permits := by
    symm
    apply tally_split (fun _ _ => rfl)
    intro permit _ holds
    simp only [WorkPermit.holds, beq_iff_eq] at holds
    simp [WorkPermit.holds, holds]
  have others : tally (·.holds .finalizer) permits + tally (·.holds .other) permits =
      tally (fun permit => permit.holds .finalizer || permit.holds .other) permits := by
    symm
    apply tally_split (fun _ _ => rfl)
    intro permit _ holds
    simp only [WorkPermit.holds, beq_iff_eq] at holds
    simp [WorkPermit.holds, holds]
  rw [images, Int.add_assoc, others]
  apply tally_split
  · intro permit _
    simp only [WorkPermit.holds]
    cases permit.entry with
    | none => rfl
    | some lane => cases lane <;> rfl
  · intro permit _ holds
    simp only [WorkPermit.holds, Bool.or_eq_true, beq_iff_eq] at holds
    rcases holds with holds | holds <;> simp [WorkPermit.holds, holds]

variable {changed : WorkBudget}

section

variable (books : Books budget permits) {before after : WorkPermit}
  (found : permits[index]? = some before) (validAfter : after.Valid)
  (sameId : after.permitId = before.permitId)

include books before after found validAfter sameId

theorem replace (sameNext : changed.nextPermitId = budget.nextPermitId)
    (sameMax : changed.maxActive = budget.maxActive)
    (sameReserved : changed.reservedNonImage = budget.reservedNonImage)
    (entry : changed.permitLanes.get (index + 1) = after.entry)
    (otherEntries : ∀ number, number ≠ index + 1 →
      changed.permitLanes.get number = budget.permitLanes.get number) (active : changed.active =
      budget.active - (if before.entry.isSome then 1 else 0) +
        if after.entry.isSome then 1 else 0) (lanes : ∀ lane, changed.byLane lane =
      budget.byLane lane - (if before.holds lane then 1 else 0) +
        if after.holds lane then 1 else 0) (bounded : changed.active ≤ budget.maxActive) :
    Books changed (permits.set index after) := by
  have bound : index < permits.length := (List.getElem?_eq_some_iff.mp found).1
  have each : ∀ (position : Nat) permit, (permits.set index after)[position]? = some permit →
      (position = index ∧ permit = after) ∨
        (position ≠ index ∧ permits[position]? = some permit) := by
    intro position permit located
    by_cases same : position = index
    · subst same
      rw [List.getElem?_set_self bound] at located
      exact Or.inl ⟨rfl, (Option.some.inj located).symm⟩
    · rw [List.getElem?_set_ne (Ne.symm same)] at located
      exact Or.inr ⟨same, located⟩
  constructor
  · intro position permit located
    rcases each position permit located with ⟨rfl, rfl⟩ | ⟨_, elsewhere⟩
    · rw [sameId]
      exact books.numbered _ _ found
    · exact books.numbered _ _ elsewhere
  · rw [sameNext, List.length_set]
    exact books.nextId
  · intro position permit located
    rcases each position permit located with ⟨rfl, rfl⟩ | ⟨_, elsewhere⟩
    · exact validAfter
    · exact books.valid _ _ elsewhere
  · intro position permit located
    rcases each position permit located with ⟨rfl, rfl⟩ | ⟨different, elsewhere⟩
    · exact entry
    · rw [otherEntries _ (by omega)]
      exact books.entries _ _ elsewhere
  · rw [active, books.active, tally_set _ found]
  · intro lane
    rw [lanes, books.lanes, tally_set _ found]
  · rw [sameMax]
    exact bounded
  · rw [sameReserved]
    exact books.reserved
  · rw [sameReserved, sameMax]
    exact books.reservedLe

/-- A permit may change whatever its entry does not depend on. -/
theorem replace_same (sameEntry : after.entry = before.entry) :
    Books budget (permits.set index after) := by
  apply books.replace found validAfter sameId rfl rfl rfl
  · rw [sameEntry]
    exact books.entries _ _ found
  · intro number _
    rfl
  · rw [sameEntry, Int.sub_add_cancel]
  · intro lane
    have same : after.holds lane = before.holds lane := by
      simp only [WorkPermit.holds, sameEntry]
    rw [same, Int.sub_add_cancel]
  · exact books.bounded

end

theorem acquired (books : Books budget permits) {owner : Python.Text}
    (took : budget.tryAcquire lane owner = some (permit, changed)) :
    Books changed (permits ++ [permit]) := by
  simp only [WorkBudget.tryAcquire] at took
  split at took
  next => cases took
  next room =>
    split at took
    next => cases took
    next =>
      simp only [Option.some.injEq, Prod.mk.injEq] at took
      rcases took with ⟨rfl, rfl⟩
      have each : ∀ (position : Nat) found,
          (permits ++ [{ permitId := budget.nextPermitId, lane, owner : WorkPermit }])[position]?
            = some found →
          permits[position]? = some found ∨
            (position = permits.length ∧
              found = { permitId := budget.nextPermitId, lane, owner }) := by
        intro position found located
        rcases Nat.lt_or_ge position permits.length with old | fresh
        · rw [List.getElem?_append_left old] at located
          exact Or.inl located
        · rw [List.getElem?_append_right fresh, List.getElem?_singleton] at located
          split at located
          next first => exact Or.inr ⟨by omega, (Option.some.inj located).symm⟩
          next => cases located
      constructor
      · intro position found located
        rcases each position found located with old | ⟨rfl, rfl⟩
        · exact books.numbered _ _ old
        · exact books.nextId
      · simp [books.nextId]
      · intro position found located
        rcases each position found located with old | ⟨rfl, rfl⟩
        · exact books.valid _ _ old
        · exact ⟨by simp, by simp⟩
      · intro position found located
        rcases each position found located with old | ⟨rfl, rfl⟩
        · have bound := (List.getElem?_eq_some_iff.mp old).1
          rw [Dict.get_set_of_ne _ _ (by rw [books.nextId]; omega)]
          exact books.entries _ _ old
        · rw [books.nextId, Dict.get_set_self]
          rfl
      · simp only [tally_concat, ← books.active]
        rfl
      · intro asked
        simp only [tally_concat, ← books.lanes, WorkBudget.setCount]
        split
        next same => simp [same, WorkPermit.holds_eq, WorkPermit.unreleased, WorkPermit.countedLane]
        next different =>
          simp [WorkPermit.holds_eq, WorkPermit.countedLane, Ne.symm different]
      · simp only
        omega
      · exact books.reserved
      · exact books.reservedLe

variable {move : Move}

section

variable (books : Books budget permits) (found : permits[index]? = some permit)

include books found

theorem move_eq (moving : permit.move = some move) (before : move.atBudget = false)
    (clamp : Int → Int) :
    budget.move clamp permit.permitId permit.lane move.lane =
      .ok { budget with
        byLane :=
          let lowered := WorkBudget.setCount budget.byLane permit.lane
            (clamp (budget.byLane permit.lane - 1))
          WorkBudget.setCount lowered move.lane (lowered move.lane + 1)
        permitLanes := budget.permitLanes.set permit.permitId move.lane } := by
  have entry : permit.entry = some permit.lane := by
    rw [WorkPermit.entry_of_move (books.valid _ _ found) moving, before]
    rfl
  simp [WorkBudget.move, books.lookup found, entry]

theorem release_eq (entry : permit.entry = some lane) (clamp : Int → Int) :
    budget.release clamp permit.permitId =
      { budget with
        active := clamp (budget.active - 1)
        byLane := WorkBudget.setCount budget.byLane lane (clamp (budget.byLane lane - 1))
        permitLanes := budget.permitLanes.erase permit.permitId } := by
  simp [WorkBudget.release, books.lookup found, entry]

theorem entry_of_releasing (releasing : permit.releasing.isSome) :
    permit.move = none ∧ permit.released = true ∧ permit.entry = some permit.lane := by
  have valid := books.valid _ _ found
  have released : permit.released = true := by
    apply valid.releasing
    intro absent
    simp [absent] at releasing
  have idle : permit.move = none := by
    by_contra moving
    rw [valid.moving moving] at released
    cases released
  refine ⟨idle, released, ?_⟩
  rw [WorkPermit.entry_of_idle idle]
  simp [WorkPermit.unreleased, releasing]

theorem move_clamp (moving : permit.move = some move) (before : move.atBudget = false) :
    budget.move (max 0) permit.permitId permit.lane move.lane =
      budget.move id permit.permitId permit.lane move.lane := by
  have entry : permit.entry = some permit.lane := by
    rw [WorkPermit.entry_of_move (books.valid _ _ found) moving, before]
    rfl
  have counted := books.counted found entry
  have same : max 0 (budget.byLane permit.lane - 1) = id (budget.byLane permit.lane - 1) := by
    simp only [id]
    omega
  rw [books.move_eq found moving before, books.move_eq found moving before, same]

theorem release_clamp (releasing : permit.releasing.isSome) :
    budget.release (max 0) permit.permitId = budget.release id permit.permitId := by
  rcases books.entry_of_releasing found releasing with ⟨_, _, entry⟩
  have counted := books.counted found entry
  have sameActive : max 0 (budget.active - 1) = id (budget.active - 1) := by
    simp only [id]
    omega
  have sameLane : max 0 (budget.byLane permit.lane - 1) =
      id (budget.byLane permit.lane - 1) := by
    simp only [id]
    omega
  rw [books.release_eq found entry, books.release_eq found entry, sameActive, sameLane]

theorem moved (moving : permit.move = some move) (before : move.atBudget = false)
    (ran : budget.move id permit.permitId permit.lane move.lane = .ok changed) :
    Books changed
      (permits.set index { permit with move := some { move with atBudget := true } }) := by
  have valid := books.valid _ _ found
  have kept := valid.moving (by simp [moving])
  have entry : permit.entry = some permit.lane := by
    rw [WorkPermit.entry_of_move valid moving, before]
    rfl
  have validAfter :
      WorkPermit.Valid { permit with move := some { move with atBudget := true } } :=
    ⟨fun _ => kept, valid.releasing⟩
  have entryAfter :
      WorkPermit.entry { permit with move := some { move with atBudget := true } } =
        some move.lane := WorkPermit.entry_of_move validAfter rfl
  rw [books.move_eq found moving before] at ran
  cases ran
  apply books.replace found validAfter
  · rfl
  · rfl
  · rfl
  · rfl
  · rw [entryAfter, books.numbered _ _ found, Dict.get_set_self]
  · intro number different
    rw [books.numbered _ _ found]
    exact Dict.get_set_of_ne _ _ different
  · rw [entry, entryAfter]
    simp
  · intro lane
    simp only [WorkPermit.holds, entry, entryAfter, WorkBudget.setCount, id, beq_iff_eq,
      Option.some.injEq]
    rcases eq_or_ne permit.lane lane with rfl | elsewhere
    · rcases eq_or_ne move.lane permit.lane with same | different
      · simp [same]
      · simp [different, Ne.symm different]
    · rcases eq_or_ne move.lane lane with rfl | different
      · simp [elsewhere, Ne.symm elsewhere]
      · simp [elsewhere, Ne.symm elsewhere, different, Ne.symm different]
  · exact books.bounded

theorem returned (releasing : permit.releasing.isSome) :
    Books (budget.release id permit.permitId)
      (permits.set index { permit with releasing := none }) := by
  rcases books.entry_of_releasing found releasing with ⟨idle, released, entry⟩
  have entryAfter : WorkPermit.entry { permit with releasing := none } = none := by
    simp [WorkPermit.entry, WorkPermit.unreleased, released]
  have counted := books.counted found entry
  have bounded := books.bounded
  have validAfter : WorkPermit.Valid { permit with releasing := none } :=
    ⟨fun moving => absurd idle moving, fun _ => released⟩
  rw [books.release_eq found entry]
  apply books.replace found validAfter
  · rfl
  · rfl
  · rfl
  · rfl
  · rw [entryAfter, books.numbered _ _ found, Dict.get_erase_self]
  · intro number different
    rw [books.numbered _ _ found]
    exact Dict.get_erase_of_ne _ different
  · rw [entry, entryAfter]
    simp
  · intro lane
    simp only [WorkPermit.holds, entry, entryAfter, WorkBudget.setCount, id]
    by_cases here : permit.lane = lane
    · simp [here]
    · simp [here, Ne.symm here]
  · simp only [id]
    omega

end

end Books

end VideoAnalysis.Scheduler
