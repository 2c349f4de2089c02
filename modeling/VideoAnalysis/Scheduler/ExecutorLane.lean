import VideoAnalysis.Foundation.Machine
import VideoAnalysis.Foundation.Tally

/-! # The bounded executor lane

A ticket changes its flags under its own lock and the lane's counts under the lane's
lock afterwards; the slots are those of a bounded semaphore. A step is what one
thread does under one lock or in one call of the semaphore or the executor.
-/

namespace VideoAnalysis.Scheduler

open Foundation

/-- How far the `submit` of a ticket has come. -/
inductive SubmitCall where
  | idle
  | marked
  | counted
  | admitted
  | refused
  | raised
  | accepted
  | attached
deriving DecidableEq

/-- The future of a ticket. A worker thread goes from `entered` through the two halves
of `mark_started` to the function and from its end to the release; `dropped` is a
cancelled future whose callback has run. -/
inductive Work where
  | absent
  | pending
  | entered
  | starting
  | running
  | returned
  | finished
  | cancelled
  | dropped
deriving DecidableEq

/-- What is left of a `release` once the ticket's flag is set. -/
inductive ReleaseStage where
  | lane (submitted started : Bool)
  | slot
deriving DecidableEq

/-- `exiting` counts the `__exit__` calls that have seen the ticket unsubmitted. -/
structure LaneTicket where
  submitted : Bool := false
  started : Bool := false
  released : Bool := false
  call : SubmitCall := .idle
  work : Work := .absent
  releasing : Option ReleaseStage := none
  exiting : Nat := 0

namespace LaneTicket

def markSubmitted (ticket : LaneTicket) : Except String LaneTicket :=
  if ticket.released then .error "lane reservation already released"
  else if ticket.submitted then .error "lane reservation already submitted"
  else .ok { ticket with submitted := true, call := .marked }

/-- A released ticket is not marked, and its function runs all the same. -/
def markStarted (ticket : LaneTicket) : LaneTicket :=
  if ticket.released then { ticket with work := .running }
  else { ticket with started := true, work := .starting }

def release (ticket : LaneTicket) : LaneTicket :=
  if ticket.released then ticket
  else
    { ticket with
      released := true
      releasing := some (.lane ticket.submitted ticket.started) }

end LaneTicket

inductive LaneMode where
  | running
  | closing
  | closed
deriving DecidableEq

/-- `free` is the value of the semaphore. -/
structure ExecutorLane where
  maxWorkers : Int
  queueCapacity : Int
  capacity : Int
  free : Int
  mode : LaneMode := .running
  reserved : Int := 0
  queued : Int := 0
  active : Int := 0
  submittedTotal : Int := 0
  rejectedTotal : Int := 0

namespace ExecutorLane

def create (maxWorkers queueCapacity : Int) : ExecutorLane where
  maxWorkers := max 1 maxWorkers
  queueCapacity := max 0 queueCapacity
  capacity := max 1 maxWorkers + max 0 queueCapacity
  free := max 1 maxWorkers + max 0 queueCapacity

def reject (lane : ExecutorLane) : ExecutorLane :=
  { lane with rejectedTotal := lane.rejectedTotal + 1 }

def markSubmitted (lane : ExecutorLane) : ExecutorLane :=
  { lane with queued := lane.queued + 1, submittedTotal := lane.submittedTotal + 1 }

def markStarted (lane : ExecutorLane) : ExecutorLane :=
  { lane with queued := max 0 (lane.queued - 1), active := lane.active + 1 }

def releaseTicket (submitted started : Bool) (lane : ExecutorLane) : ExecutorLane :=
  { lane with
    reserved := max 0 (lane.reserved - 1)
    queued := if submitted && !started then max 0 (lane.queued - 1) else lane.queued
    active := if started then max 0 (lane.active - 1) else lane.active }

def giveSlot (lane : ExecutorLane) : Except String ExecutorLane :=
  if lane.capacity ≤ lane.free then .error "Semaphore released too many times"
  else .ok { lane with free := lane.free + 1 }

end ExecutorLane

/-- The calls of `try_reserve` are counted between their first test, the semaphore and
the lane's lock, those of `close` before and after the executor's shutdown. -/
structure LaneState where
  lane : ExecutorLane
  tickets : List LaneTicket := []
  asking : Nat := 0
  holding : Nat := 0
  refusing : Nat := 0
  executorOpen : Bool := true
  closing : Nat := 0
  shutting : Nat := 0

inductive LaneLabel where
  | tryReserve
  | takeSlot
  | reject
  | reserve
  | submit (index : Nat)
  | countSubmitted (index : Nat)
  | checkMode (index : Nat)
  | executorSubmit (index : Nat)
  | raiseSubmit (index : Nat)
  | attach (index : Nat)
  | start (index : Nat)
  | markStarted (index : Nat)
  | countStarted (index : Nat)
  | returned (index : Nat)
  | finish (index : Nat)
  | cancelFuture (index : Nat)
  | callback (index : Nat)
  | cancel (index : Nat)
  | exit (index : Nat)
  | exitCancel (index : Nat)
  | releaseLane (index : Nat)
  | releaseSlot (index : Nat)
  | close
  | shutdown
  | closed

namespace LaneState

variable (state : LaneState) (index : Nat)

/-- Change a ticket that meets a test, and the lane with it. -/
def update (test : LaneTicket → Prop) [DecidablePred test] (lane : LaneTicket → ExecutorLane)
    (change : LaneTicket → LaneTicket) : Option LaneState :=
  match state.tickets[index]? with
  | none => none
  | some ticket =>
    if test ticket then
      some { state with
        lane := lane ticket
        tickets := state.tickets.set index (change ticket) }
    else none

def updateTicket (test : LaneTicket → Prop) [DecidablePred test]
    (change : LaneTicket → LaneTicket) : Option LaneState :=
  state.update index test (fun _ => state.lane) change

def tryReserve (state : LaneState) : LaneState :=
  if state.lane.mode ≠ .running then { state with lane := state.lane.reject }
  else { state with asking := state.asking + 1 }

def takeSlot (state : LaneState) : Option LaneState :=
  if state.asking = 0 then none
  else if state.lane.free ≤ 0 then
    some { state with asking := state.asking - 1, refusing := state.refusing + 1 }
  else
    some { state with
      asking := state.asking - 1
      holding := state.holding + 1
      lane := { state.lane with free := state.lane.free - 1 } }

def reject (state : LaneState) : Option LaneState :=
  if state.refusing = 0 then none
  else some { state with refusing := state.refusing - 1, lane := state.lane.reject }

def reserve (state : LaneState) : Option LaneState :=
  if state.holding = 0 then none
  else if state.lane.mode ≠ .running then
    match state.lane.giveSlot with
    | .error _ => some { state with holding := state.holding - 1 }
    | .ok lane => some { state with holding := state.holding - 1, lane := lane.reject }
  else
    some { state with
      holding := state.holding - 1
      lane := { state.lane with reserved := state.lane.reserved + 1 }
      tickets := state.tickets ++ [{}] }

/-- A `submit` that raises leaves the ticket as it is. -/
def submit : Option LaneState :=
  state.updateTicket index (fun _ => True) fun ticket =>
    match ticket.markSubmitted with
    | .error _ => ticket
    | .ok marked => marked

def countSubmitted : Option LaneState :=
  state.update index (·.call = .marked) (fun _ => state.lane.markSubmitted)
    ({ · with call := .counted })

def checkMode : Option LaneState :=
  state.updateTicket index (·.call = .counted) fun ticket =>
    { ticket with call := if state.lane.mode = .running then .admitted else .refused }

def executorSubmit : Option LaneState :=
  state.updateTicket index (·.call = .admitted) fun ticket =>
    if state.executorOpen then { ticket with call := .accepted, work := .pending }
    else { ticket with call := .refused }

def raiseSubmit : Option LaneState :=
  state.updateTicket index (·.call = .refused) fun ticket =>
    { ticket.release with call := .raised }

def attach : Option LaneState :=
  state.updateTicket index (·.call = .accepted) ({ · with call := .attached })

def start : Option LaneState :=
  state.updateTicket index (·.work = .pending) ({ · with work := .entered })

def markStarted : Option LaneState :=
  state.updateTicket index (·.work = .entered) (·.markStarted)

def countStarted : Option LaneState :=
  state.update index (·.work = .starting) (fun _ => state.lane.markStarted)
    ({ · with work := .running })

def returned : Option LaneState :=
  state.updateTicket index (·.work = .running) ({ · with work := .returned })

def finish : Option LaneState :=
  state.updateTicket index (·.work = .returned) fun ticket =>
    { ticket.release with work := .finished }

/-- `Future.cancel`, called by a holder of the future or by the executor's shutdown. -/
def cancelFuture : Option LaneState :=
  state.updateTicket index (·.work = .pending) ({ · with work := .cancelled })

/-- `release_cancelled`, which a finished future runs to no effect. -/
def callback : Option LaneState :=
  state.updateTicket index (fun ticket => ticket.work = .cancelled ∧ ticket.call = .attached)
    fun ticket => { ticket.release with work := .dropped }

def cancel : Option LaneState :=
  state.updateTicket index (fun _ => True) (·.release)

def exit : Option LaneState :=
  state.updateTicket index (fun _ => True) fun ticket =>
    if ticket.submitted then ticket else { ticket with exiting := ticket.exiting + 1 }

def exitCancel : Option LaneState :=
  state.updateTicket index (·.exiting ≠ 0) fun ticket =>
    { ticket.release with exiting := ticket.exiting - 1 }

def releaseLane : Option LaneState :=
  match state.tickets[index]? with
  | none => none
  | some ticket =>
    match ticket.releasing with
    | some (.lane submitted started) =>
      some { state with
        lane := state.lane.releaseTicket submitted started
        tickets := state.tickets.set index { ticket with releasing := some .slot } }
    | _ => none

def releaseSlot : Option LaneState :=
  state.update index (·.releasing = some .slot)
    (fun _ =>
      match state.lane.giveSlot with
      | .error _ => state.lane
      | .ok lane => lane)
    ({ · with releasing := none })

def close (state : LaneState) : LaneState :=
  if state.lane.mode = .closed then state
  else
    { state with lane := { state.lane with mode := .closing }, closing := state.closing + 1 }

def shutdown (state : LaneState) : Option LaneState :=
  if state.closing = 0 then none
  else
    some { state with
      closing := state.closing - 1
      shutting := state.shutting + 1
      executorOpen := false }

def closed (state : LaneState) : Option LaneState :=
  if state.shutting = 0 then none
  else
    some { state with
      shutting := state.shutting - 1
      lane := { state.lane with mode := .closed } }

def step (state : LaneState) : LaneLabel → Option LaneState
  | .tryReserve => some state.tryReserve
  | .takeSlot => state.takeSlot
  | .reject => state.reject
  | .reserve => state.reserve
  | .submit index => state.submit index
  | .countSubmitted index => state.countSubmitted index
  | .checkMode index => state.checkMode index
  | .executorSubmit index => state.executorSubmit index
  | .raiseSubmit index => state.raiseSubmit index
  | .attach index => state.attach index
  | .start index => state.start index
  | .markStarted index => state.markStarted index
  | .countStarted index => state.countStarted index
  | .returned index => state.returned index
  | .finish index => state.finish index
  | .cancelFuture index => state.cancelFuture index
  | .callback index => state.callback index
  | .cancel index => state.cancel index
  | .exit index => state.exit index
  | .exitCancel index => state.exitCancel index
  | .releaseLane index => state.releaseLane index
  | .releaseSlot index => state.releaseSlot index
  | .close => some state.close
  | .shutdown => state.shutdown
  | .closed => state.closed

end LaneState

def laneMachine (maxWorkers queueCapacity : Int) : Machine LaneState LaneLabel where
  initial state := state = { lane := .create maxWorkers queueCapacity }
  step := LaneState.step

end VideoAnalysis.Scheduler
