import VideoAnalysis.Scheduler.LaneBooks

/-! # Runs of the executor lane

What the counts say after every interleaving in which `cancel` comes before the
submission or after the release, and what becomes of them otherwise.
-/

namespace VideoAnalysis.Scheduler

open Foundation
open LaneTicket (exiting_unseen holdsSlot isReserved)

namespace LaneTicket.Valid

variable {ticket : LaneTicket}

theorem countSubmitted (valid : ticket.Valid) (marked : ticket.call = .marked) :
    Valid { ticket with call := .counted } ∧ ticket.released = false ∧
      ticket.started = false := by
  rcases valid with ⟨submitted, started, accepted, released, past, settled, stage⟩
  refine ⟨?_, ?_, ?_⟩
  · constructor <;> grind -ring -linarith
  all_goals grind -ring -linarith

theorem countStarted (valid : ticket.Valid) (starting : ticket.work = .starting) :
    Valid { ticket with work := .running } ∧ ticket.released = false ∧
      ticket.started = true ∧ ticket.submitCounted = true := by
  rcases valid with ⟨submitted, started, accepted, released, past, settled, stage⟩
  refine ⟨?_, ?_, ?_, ?_⟩
  · constructor <;> grind -ring -linarith
  · grind -ring -linarith
  · grind -ring -linarith
  · grind -ring -linarith [submitCounted]

theorem releaseLane (valid : ticket.Valid) {submitted started : Bool}
    (stage : ticket.releasing = some (.lane submitted started)) :
    Valid { ticket with releasing := some .slot } ∧ ticket.released = true ∧
      submitted = ticket.submitCounted ∧ started = ticket.startCounted := by
  rcases valid with ⟨_, _, _, _, _, _, flags⟩
  rcases flags _ _ stage with ⟨rfl, rfl⟩
  have set : ticket.released = true := by grind -ring -linarith
  refine ⟨?_, set, ?_, ?_⟩
  · constructor <;> grind -ring -linarith
  · grind -ring -linarith [submitCounted]
  · grind -ring -linarith [startCounted]

theorem releaseSlot (valid : ticket.Valid) (stage : ticket.releasing = some .slot) :
    Valid { ticket with releasing := none } ∧ ticket.released = true := by
  rcases valid with ⟨submitted, started, accepted, released, past, settled, flags⟩
  constructor
  · constructor <;> grind -ring -linarith
  · grind -ring -linarith

end LaneTicket.Valid

namespace LaneBooks

variable {lane : ExecutorLane} {holding : Nat} {tickets : List LaneTicket} {index : Nat}
  {ticket : LaneTicket}

section

variable (books : LaneBooks lane holding tickets)

include books

theorem countSubmitted (found : tickets[index]? = some ticket) (marked : ticket.call = .marked) :
    LaneBooks lane.markSubmitted holding
      (tickets.set index { ticket with call := .counted }) := by
  rcases (books.valid _ _ found).countSubmitted marked with ⟨validAfter, kept, unstarted⟩
  apply books.replace found validAfter
  · rfl
  · exact (Int.add_sub_cancel _ _).symm
  · exact books.free
  · exact (Int.sub_add_cancel _ _).symm
  · simp [ExecutorLane.markSubmitted, LaneTicket.isQueued, isReserved,
      LaneTicket.submitCounted, LaneTicket.startCounted, marked, kept, unstarted]
  · exact (Int.sub_add_cancel _ _).symm

theorem countStarted (found : tickets[index]? = some ticket) (starting : ticket.work = .starting) :
    LaneBooks lane.markStarted holding
      (tickets.set index { ticket with work := .running }) := by
  rcases (books.valid _ _ found).countStarted starting with
    ⟨validAfter, kept, started, submitted⟩
  have queued : ticket.isQueued = true := by
    simp [LaneTicket.isQueued, isReserved, LaneTicket.startCounted, kept, submitted,
      starting]
  have counted : 1 ≤ lane.queued := by
    rw [books.queued]
    exact tally_pos found queued
  apply books.replace found validAfter
  · rfl
  · exact (Int.add_sub_cancel _ _).symm
  · exact books.free
  · exact (Int.sub_add_cancel _ _).symm
  · simp [ExecutorLane.markStarted, LaneTicket.isQueued, isReserved,
      LaneTicket.startCounted, kept, started, starting] at queued ⊢
    simp only [queued, if_true]
    omega
  · simp [ExecutorLane.markStarted, LaneTicket.isActive, isReserved,
      LaneTicket.startCounted, kept, started, starting]

theorem releaseLane (found : tickets[index]? = some ticket) {submitted started : Bool}
    (stage : ticket.releasing = some (.lane submitted started)) :
    LaneBooks (lane.releaseTicket submitted started) holding
      (tickets.set index { ticket with releasing := some .slot }) := by
  rcases (books.valid _ _ found).releaseLane stage with
    ⟨validAfter, released, sameSubmitted, sameStarted⟩
  have reserved : ticket.isReserved = true := by
    simp [isReserved, LaneTicket.leaving, stage]
  have countedReserved : 1 ≤ lane.reserved := by
    rw [books.reserved]
    exact tally_pos found reserved
  have isQueued : ticket.isQueued = (submitted && !started) := by
    simp [LaneTicket.isQueued, reserved, sameSubmitted, sameStarted]
  have isActive : ticket.isActive = started := by
    simp [LaneTicket.isActive, reserved, sameStarted]
  have gone : isReserved { ticket with releasing := some .slot } = false := by
    simp [isReserved, LaneTicket.leaving, released]
  have goneQueued : LaneTicket.isQueued { ticket with releasing := some .slot } = false := by
    simp only [LaneTicket.isQueued, gone, Bool.false_and]
  have goneActive : LaneTicket.isActive { ticket with releasing := some .slot } = false := by
    simp only [LaneTicket.isActive, gone, Bool.false_and]
  apply books.replace found validAfter
  · rfl
  · have same : holdsSlot { ticket with releasing := some .slot } =
        ticket.holdsSlot := by
      simp [holdsSlot, stage]
    rw [same, Int.add_sub_cancel]
    rfl
  · exact books.free
  · simp only [ExecutorLane.releaseTicket, reserved, gone]
    simp
    omega
  · rw [isQueued, goneQueued]
    simp only [ExecutorLane.releaseTicket]
    cases waits : submitted && !started with
    | false => simp
    | true =>
      have counted : 1 ≤ lane.queued := by
        rw [books.queued]
        exact tally_pos found (isQueued.trans waits)
      simp only [if_true, Bool.false_eq_true, if_false]
      omega
  · rw [isActive, goneActive]
    simp only [ExecutorLane.releaseTicket]
    cases runs : started with
    | false => simp
    | true =>
      have counted : 1 ≤ lane.active := by
        rw [books.active]
        exact tally_pos found (isActive.trans runs)
      simp only [if_true, Bool.false_eq_true, if_false]
      omega

theorem giveSlot_of_held (held : 1 ≤ holding + tally (·.holdsSlot) tickets) :
    lane.giveSlot = .ok { lane with free := lane.free + 1 } := by
  have slots := books.slots
  simp only [ExecutorLane.giveSlot]
  rw [if_neg (by omega)]

theorem releaseSlot (found : tickets[index]? = some ticket)
    (stage : ticket.releasing = some .slot) :
    LaneBooks { lane with free := lane.free + 1 } holding
      (tickets.set index { ticket with releasing := none }) := by
  rcases (books.valid _ _ found).releaseSlot stage with ⟨validAfter, released⟩
  have alike : isReserved { ticket with releasing := none } =
      ticket.isReserved := by
    simp [isReserved, LaneTicket.leaving, stage]
  have free := books.free
  apply books.replace found validAfter
  · rfl
  · simp [holdsSlot, released, stage]
  · simp only
    omega
  · rw [alike, Int.sub_add_cancel]
  · simp only [LaneTicket.isQueued, alike]
    exact (Int.sub_add_cancel _ _).symm
  · simp only [LaneTicket.isActive, alike]
    exact (Int.sub_add_cancel _ _).symm

theorem congr {changed : ExecutorLane} (capacity : changed.capacity = lane.capacity)
    (free : changed.free = lane.free) (reserved : changed.reserved = lane.reserved)
    (queued : changed.queued = lane.queued) (active : changed.active = lane.active) :
    LaneBooks changed holding tickets where
  valid := books.valid
  slots := by
    rw [capacity, free]
    exact books.slots
  free := by
    rw [free]
    exact books.free
  reserved := reserved.trans books.reserved
  queued := queued.trans books.queued
  active := active.trans books.active

end

theorem reserve (books : LaneBooks lane (holding + 1) tickets) :
    LaneBooks { lane with reserved := lane.reserved + 1 } holding (tickets ++ [({} : LaneTicket)]) where
  valid := by
    intro position found located
    rcases Nat.lt_or_ge position tickets.length with old | fresh
    · rw [List.getElem?_append_left old] at located
      exact books.valid _ _ located
    · rw [List.getElem?_append_right fresh, List.getElem?_singleton] at located
      split at located
      next =>
        cases located
        constructor <;> simp
      next => cases located
  slots := by
    have slots := books.slots
    rw [tally_concat]
    have held : holdsSlot {} = true := rfl
    rw [if_pos held]
    simp only
    omega
  free := books.free
  reserved := by
    rw [tally_concat, ← books.reserved]
    rfl
  queued := by
    rw [tally_concat, ← books.queued]
    exact (Int.add_zero _).symm
  active := by
    rw [tally_concat, ← books.active]
    exact (Int.add_zero _).symm

end LaneBooks

namespace LaneState

/-- No `cancel`, from `__exit__` or elsewhere, reaches a ticket between the begin of its
submission and its release. -/
def cancelsEarly (state : LaneState) : LaneLabel → Bool
  | .cancel index | .exitCancel index =>
    match state.tickets[index]? with
    | some ticket => ticket.released || !ticket.submitted
    | none => true
  | _ => true

abbrev Booked (state : LaneState) : Prop := LaneBooks state.lane state.holding state.tickets

variable {state next : LaneState}

theorem update_eq_some {index : Nat} {test : LaneTicket → Prop} [DecidablePred test]
    {lane : LaneTicket → ExecutorLane} {change : LaneTicket → LaneTicket}
    (stepped : state.update index test lane change = some next) :
    ∃ ticket, state.tickets[index]? = some ticket ∧ test ticket ∧
      next = { state with
        lane := lane ticket
        tickets := state.tickets.set index (change ticket) } := by
  simp only [update] at stepped
  split at stepped
  next => cases stepped
  next ticket found =>
    split at stepped
    next meets =>
      cases stepped
      exact ⟨ticket, found, meets, rfl⟩
    next => cases stepped

section

variable (booked : state.Booked)

include booked

theorem updateTicket_booked {index : Nat} {test : LaneTicket → Prop}
    [DecidablePred test] {change : LaneTicket → LaneTicket}
    (unseen : ∀ ticket, state.tickets[index]? = some ticket → ticket.Valid → test ticket →
      (change ticket).Valid ∧ (change ticket).Alike ticket)
    (stepped : state.updateTicket index test change = some next) : next.Booked := by
  rcases update_eq_some stepped with ⟨ticket, found, meets, rfl⟩
  rcases unseen ticket found (booked.valid _ _ found) meets with ⟨validAfter, alike⟩
  exact booked.replace_alike found validAfter alike

theorem takeSlot_booked (stepped : state.takeSlot = some next) :
    next.Booked := by
  simp only [takeSlot] at stepped
  split at stepped
  next => cases stepped
  next =>
    split at stepped
    next =>
      cases stepped
      exact booked
    next room =>
      cases stepped
      have slots := booked.slots
      have free := booked.free
      constructor
      · exact booked.valid
      · simp only
        omega
      · simp only
        omega
      · exact booked.reserved
      · exact booked.queued
      · exact booked.active

theorem reserve_booked (stepped : state.reserve = some next) :
    next.Booked := by
  simp only [reserve] at stepped
  split at stepped
  next => cases stepped
  next waiting =>
    rcases Nat.exists_eq_succ_of_ne_zero waiting with ⟨_, holding⟩
    simp only [Booked] at booked
    rw [holding] at booked
    have slots := booked.slots
    have held := tally_nonneg (·.holdsSlot) state.tickets
    have given := booked.giveSlot_of_held (by omega)
    split at stepped
    next =>
      rw [given] at stepped
      cases stepped
      have free := booked.free
      constructor
      · exact booked.valid
      · simp only [ExecutorLane.reject, holding]
        omega
      · simp only [ExecutorLane.reject]
        omega
      · exact booked.reserved
      · exact booked.queued
      · exact booked.active
    next =>
      cases stepped
      simp only [Booked, holding]
      exact booked.reserve

theorem releaseLane_booked {index : Nat} (stepped : state.releaseLane index = some next) :
    next.Booked := by
  simp only [releaseLane] at stepped
  split at stepped
  next => cases stepped
  next ticket found =>
    split at stepped
    next submitted started stage =>
      cases stepped
      exact booked.releaseLane found stage
    next => cases stepped

theorem releaseSlot_booked {index : Nat} (stepped : state.releaseSlot index = some next) :
    next.Booked := by
  rcases update_eq_some stepped with ⟨_, found, stage, rfl⟩
  have held : 1 ≤ tally (·.holdsSlot) state.tickets := by
    apply tally_pos found
    simp [holdsSlot, stage]
  simp only [Booked]
  rw [booked.giveSlot_of_held (by omega)]
  exact booked.releaseSlot found stage

theorem release_unseen {index : Nat} {label : LaneLabel}
    (early : state.cancelsEarly label = true)
    (cancels : label = .cancel index ∨ label = .exitCancel index) {ticket : LaneTicket}
    (found : state.tickets[index]? = some ticket) :
    ticket.release.Valid ∧ ticket.release.Alike ticket := by
  apply LaneTicket.release_unseen ticket (booked.valid _ _ found)
  rcases cancels with rfl | rfl <;> simpa [cancelsEarly, found] using early

theorem step_booked {label : LaneLabel} (early : state.cancelsEarly label = true)
    (stepped : state.step label = some next) :
    next.Booked := by
  cases label with
  | tryReserve =>
    cases stepped
    simp only [tryReserve]
    split
    next => exact booked.congr rfl rfl rfl rfl rfl
    next => exact booked
  | takeSlot => exact takeSlot_booked booked stepped
  | reject =>
    simp only [step, reject] at stepped
    split at stepped
    next => cases stepped
    next =>
      cases stepped
      exact booked.congr rfl rfl rfl rfl rfl
  | reserve => exact reserve_booked booked stepped
  | submit =>
    exact updateTicket_booked booked (fun ticket _ => LaneTicket.submit_unseen ticket) stepped
  | countSubmitted =>
    rcases update_eq_some stepped with ⟨_, found, marked, rfl⟩
    exact booked.countSubmitted found marked
  | checkMode =>
    apply updateTicket_booked booked _ stepped
    intro ticket _ valid counted
    have unseen := LaneTicket.checkMode_unseen (decide (state.lane.mode = .running)) ticket
      valid counted
    simpa only [decide_eq_true_eq] using unseen
  | executorSubmit =>
    exact updateTicket_booked booked
      (fun ticket _ => LaneTicket.executorSubmit_unseen state.executorOpen ticket) stepped
  | raiseSubmit =>
    exact updateTicket_booked booked (fun ticket _ => LaneTicket.raiseSubmit_unseen ticket)
      stepped
  | attach =>
    exact updateTicket_booked booked (fun ticket _ => LaneTicket.attach_unseen ticket) stepped
  | start =>
    exact updateTicket_booked booked (fun ticket _ => LaneTicket.start_unseen ticket) stepped
  | markStarted =>
    exact updateTicket_booked booked (fun ticket _ => LaneTicket.markStarted_unseen ticket)
      stepped
  | countStarted =>
    rcases update_eq_some stepped with ⟨_, found, starting, rfl⟩
    exact booked.countStarted found starting
  | returned =>
    exact updateTicket_booked booked (fun ticket _ => LaneTicket.returned_unseen ticket) stepped
  | finish =>
    exact updateTicket_booked booked (fun ticket _ => LaneTicket.finish_unseen ticket) stepped
  | cancelFuture =>
    exact updateTicket_booked booked (fun ticket _ => LaneTicket.cancelFuture_unseen ticket)
      stepped
  | callback =>
    exact updateTicket_booked booked (fun ticket _ => LaneTicket.callback_unseen ticket) stepped
  | cancel =>
    apply updateTicket_booked booked _ stepped
    intro ticket found _ _
    exact release_unseen booked early (Or.inl rfl) found
  | exit =>
    apply updateTicket_booked booked _ stepped
    intro ticket found valid _
    split
    next => exact ⟨valid, .refl _⟩
    next => exact exiting_unseen ticket valid _
  | exitCancel =>
    apply updateTicket_booked booked _ stepped
    intro ticket found valid _
    rcases release_unseen booked early (Or.inr rfl) found with ⟨validAfter, alike⟩
    rcases exiting_unseen ticket.release validAfter (ticket.exiting - 1) with
      ⟨validLast, same⟩
    exact ⟨validLast, same.trans alike⟩
  | releaseLane => exact releaseLane_booked booked stepped
  | releaseSlot => exact releaseSlot_booked booked stepped
  | close =>
    cases stepped
    simp only [close]
    split
    next => exact booked
    next => exact booked.congr rfl rfl rfl rfl rfl
  | shutdown =>
    simp only [step, shutdown] at stepped
    split at stepped
    next => cases stepped
    next =>
      cases stepped
      exact booked
  | closed =>
    simp only [step, closed] at stepped
    split at stepped
    next => cases stepped
    next =>
      cases stepped
      exact booked.congr rfl rfl rfl rfl rfl

end

end LaneState

/-- The counts of a lane, and what they come to once no call stands between two locks
or every ticket has been released. -/
structure LaneExact (state : LaneState) : Prop where
  slots : state.lane.capacity - state.lane.free =
    state.lane.reserved + state.holding + tally (·.releasing = some .slot) state.tickets
  slotsAtRest : state.holding = 0 → (∀ ticket ∈ state.tickets, ticket.releasing = none) →
    state.lane.capacity - state.lane.free = state.lane.reserved
  slotsBounded : 0 ≤ state.lane.free
  bounded : state.lane.reserved ≤ state.lane.capacity
  counts : state.lane.queued + state.lane.active ≤ state.lane.reserved
  functions : tally (·.unfinished) state.tickets ≤ state.lane.capacity
  allReleased :
    (∀ ticket ∈ state.tickets, ticket.released = true ∧ ticket.leaving = false) →
    state.lane.reserved = 0 ∧ state.lane.queued = 0 ∧ state.lane.active = 0

theorem holdsSlot_split {tickets : List LaneTicket} (valid : ∀ ticket ∈ tickets, ticket.Valid) :
    tally (·.holdsSlot) tickets =
      tally (·.isReserved) tickets + tally (·.releasing = some .slot) tickets := by
  apply tally_split
  · intro ticket member
    have settled := (valid ticket member).settled
    simp only [holdsSlot, isReserved, LaneTicket.leaving]
    cases releasing : ticket.releasing with
    | none => simp
    | some stage => cases stage <;> simp
  · intro ticket member reserved
    have settled := (valid ticket member).settled
    simp only [isReserved, LaneTicket.leaving, Bool.or_eq_true,
      Bool.not_eq_true'] at reserved
    rcases reserved with kept | leaving
    · simp [settled kept]
    · split at leaving
      next stage => simp [stage]
      next => cases leaving

theorem laneExact_of_booked {state : LaneState} (booked : state.Booked) : LaneExact state := by
  have valid : ∀ ticket ∈ state.tickets, ticket.Valid := by
    intro ticket member
    rcases List.getElem?_of_mem member with ⟨_, found⟩
    exact booked.valid _ _ found
  have slots : state.lane.capacity - state.lane.free = state.lane.reserved + state.holding +
      tally (·.releasing = some .slot) state.tickets := by
    rw [booked.slots, booked.reserved, holdsSlot_split valid]
    omega
  have reservedLe := booked.reserved_le
  have free := booked.free
  constructor
  · exact slots
  · intro noneHolding settled
    have noneLeaving : tally (·.releasing = some .slot) state.tickets =
        tally (fun _ => false) state.tickets := by
      apply tally_congr
      intro ticket member
      simp [settled ticket member]
    rw [slots, noneHolding, noneLeaving]
    simp [tally]
  · exact free
  · omega
  · exact booked.queued_active_le
  · exact booked.unfinished_le
  · intro released
    apply booked.counts_of_released
    intro ticket member
    rcases released ticket member with ⟨set, gone⟩
    simp [isReserved, set, gone]

section Runs

variable {maxWorkers queueCapacity : Int}

theorem booked_invariant :
    ((laneMachine maxWorkers queueCapacity).restrict fun state label =>
      state.cancelsEarly label = true).Invariant LaneState.Booked where
  initially := by
    intro state initial
    subst initial
    constructor
    · simp
    · simp [ExecutorLane.create]
    · simp only [ExecutorLane.create]
      omega
    all_goals rfl
  preserved := by
    intro current label next _ booked stepped
    rcases Machine.restrict_step_eq_some.mp stepped with ⟨early, ran⟩
    exact LaneState.step_booked booked early ran

end Runs

theorem lane_counts_of_cancelsEarly (maxWorkers queueCapacity : Int) (state : LaneState)
    (reached : ((laneMachine maxWorkers queueCapacity).restrict fun state label =>
      state.cancelsEarly label = true).Reachable state) : LaneExact state :=
  laneExact_of_booked (booked_invariant.holds reached)

/-- A lane with one place, closed while its second ticket's function is queued. -/
def closedWhileQueued : List LaneLabel :=
  [.tryReserve, .takeSlot, .reserve, .cancel 0, .releaseLane 0, .releaseSlot 0,
    .tryReserve, .takeSlot, .reserve, .submit 1, .countSubmitted 1, .checkMode 1,
    .executorSubmit 1, .attach 1, .close, .shutdown, .cancelFuture 1, .callback 1]

theorem lane_counts_closedWhileQueued :
    ∃ state, ((laneMachine 1 0).restrict fun state label =>
        state.cancelsEarly label = true).run { lane := .create 1 0 } closedWhileQueued =
        some state ∧ state.lane.queued = 1 ∧ LaneExact state := by
  have ran : ((laneMachine 1 0).restrict fun state label =>
      state.cancelsEarly label = true).run { lane := .create 1 0 } closedWhileQueued =
      some _ := rfl
  refine ⟨_, ran, rfl, ?_⟩
  exact lane_counts_of_cancelsEarly 1 0 _ (Machine.Reachable.run (.start rfl) ran)

/-- The cancelling thread runs between the two halves of `mark_submitted`. -/
def cancelledWhileMarked : List LaneLabel :=
  [.tryReserve, .takeSlot, .reserve, .submit 0, .cancel 0, .releaseLane 0, .releaseSlot 0,
    .countSubmitted 0, .checkMode 0, .executorSubmit 0, .attach 0]

def toTheEnd : List LaneLabel := [.start 0, .markStarted 0, .returned 0, .finish 0]

def secondTicket : List LaneLabel :=
  [.tryReserve, .takeSlot, .reserve, .submit 1, .countSubmitted 1, .checkMode 1,
    .executorSubmit 1, .attach 1]

/-- Once all is over the queue still counts one; before that, two functions are
submitted to a lane of one place. -/
theorem cancelledWhileMarked_breaks_counts :
    (∃ state, (laneMachine 1 0).run { lane := .create 1 0 }
        (cancelledWhileMarked ++ toTheEnd) = some state ∧
      (∀ ticket ∈ state.tickets, ticket.released = true ∧ ticket.releasing = none ∧
        ticket.work = .finished) ∧
      state.lane.reserved = 0 ∧ state.lane.queued = 1) ∧
    ∃ state, (laneMachine 1 0).run { lane := .create 1 0 }
        (cancelledWhileMarked ++ secondTicket) = some state ∧
      state.lane.capacity = 1 ∧ tally (·.unfinished) state.tickets = 2 :=
  ⟨⟨_, rfl, by decide, rfl, rfl⟩, ⟨_, rfl, rfl, rfl⟩⟩

end VideoAnalysis.Scheduler
