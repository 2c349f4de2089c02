import VideoAnalysis.Foundation.Dict
import VideoAnalysis.Foundation.Machine

/-! # Lease heartbeats

A tick works through a copy of the registered handles without the supervisor's
lock. A step is what one thread does under one lock, a test it makes without one, or
the begin or the end of a callback. Times are in milliseconds.
-/

namespace VideoAnalysis.Scheduler

open Foundation

variable {Payload : Type}

structure LeaseHeartbeatHandle (Payload : Type) where
  key : String
  payload : Payload
  leaseMs : Int
  startedAt : Int
  nextDueAt : Int
  lastHeartbeatAt : Option Int := none
  lost : Bool := false
  expired : Bool := false
  unregistered : Bool := false

namespace LeaseHeartbeatHandle

variable (handle : LeaseHeartbeatHandle Payload)

def healthy : Bool :=
  !(handle.lost || handle.expired || handle.unregistered)

def markHeartbeat (now nextDueAt : Int) : LeaseHeartbeatHandle Payload :=
  if handle.lost || handle.expired || handle.unregistered then handle
  else { handle with lastHeartbeatAt := some now, nextDueAt }

def markLost : LeaseHeartbeatHandle Payload :=
  { handle with lost := true }

def markExpired : LeaseHeartbeatHandle Payload :=
  { handle with expired := true }

def markUnregistered : LeaseHeartbeatHandle Payload :=
  { handle with unregistered := true }

end LeaseHeartbeatHandle

structure HeartbeatSettings where
  intervalMs : Int
  maxAttemptAgeMs : Int

def HeartbeatSettings.create (intervalMs maxAttemptAgeMs : Int) : HeartbeatSettings where
  intervalMs := max 100 intervalMs
  maxAttemptAgeMs := max (max 100 intervalMs) maxAttemptAgeMs

/-- What a tick does next for the handle it is at. -/
inductive Turn where
  | check
  | expire
  | countExpired
  | due
  | call
  | countError
  | lose
  | countLost
  | beat
  | countBeat
  | remove
  | interrupted
deriving DecidableEq

/-- How a callback ends. What is not an `Exception` ends the tick too. -/
inductive Answer where
  | truthy
  | falsy
  | exception
  | interrupt

/-- A call of `tick_once`: the copied handles and the position of its loop. -/
structure Tick where
  now : Int
  handles : List Nat
  position : Nat := 0
  turn : Turn := .check

def Tick.current (tick : Tick) : Option Nat := tick.handles[tick.position]?

def Tick.next (tick : Tick) : Tick := { tick with position := tick.position + 1, turn := .check }

/-- Handles are known by their place in `handles`; `table` is the supervisor's
dictionary, `unmarked` the handles that `unregister` or `close` has taken from it and
not yet marked. -/
structure Supervisor (Payload : Type) where
  handles : List (LeaseHeartbeatHandle Payload) := []
  table : Dict String Nat := ∅
  ticks : List Tick := []
  unmarked : List Nat := []
  stopped : Bool := false
  heartbeatTotal : Int := 0
  lostTotal : Int := 0
  expiredTotal : Int := 0
  errorTotal : Int := 0

/-- Each label carries the clock its call has read. -/
inductive SupervisorLabel (Payload : Type) where
  | register (key : String) (payload : Payload) (leaseMs now : Int)
  | unregister (handle : Nat)
  | mark (handle : Nat)
  | beginTick (now : Int)
  | tick (tick : Nat) (answer : Answer)
  | close

namespace Supervisor

def modifyHandle (state : Supervisor Payload) (handle : Nat)
    (change : LeaseHeartbeatHandle Payload → LeaseHeartbeatHandle Payload) :
    Supervisor Payload :=
  { state with handles := state.handles.modify handle change }

def setTick (state : Supervisor Payload) (index : Nat) (tick : Tick) : Supervisor Payload :=
  { state with ticks := state.ticks.set index tick }

/-- `_remove`, and the first half of `unregister`. -/
def removeHandle (state : Supervisor Payload) (key : String) (handle : Nat) :
    Supervisor Payload :=
  if state.table.get key = some handle then { state with table := state.table.erase key }
  else state

variable (settings : HeartbeatSettings) (state : Supervisor Payload)

def register (key : String) (payload : Payload) (leaseMs now : Int) : Supervisor Payload :=
  let marked :=
    match state.table.get key with
    | some previous => state.modifyHandle previous (·.markUnregistered)
    | none => state
  { marked with
    handles := marked.handles ++
      [{ key, payload
         leaseMs := max 1000 leaseMs
         startedAt := now
         nextDueAt := now + settings.intervalMs }]
    table := (state.table.erase key).set key state.handles.length }

def unregister (state : Supervisor Payload) (handle : Nat) : Option (Supervisor Payload) :=
  match state.handles[handle]? with
  | none => none
  | some found =>
    some { state.removeHandle found.key handle with unmarked := handle :: state.unmarked }

def mark (state : Supervisor Payload) (handle : Nat) : Option (Supervisor Payload) :=
  if handle ∈ state.unmarked then
    some { state.modifyHandle handle (·.markUnregistered) with
      unmarked := state.unmarked.erase handle }
  else none

def beginTick (state : Supervisor Payload) (now : Int) : Supervisor Payload :=
  { state with ticks := state.ticks ++ [{ now, handles := state.table.values }] }

/-- One step of a tick that is at a handle. -/
def turnOf (index : Nat) (tick : Tick) (handle : Nat) (found : LeaseHeartbeatHandle Payload)
    (answer : Answer) : Option (Supervisor Payload) :=
  let go (turn : Turn) := { tick with turn }
  match tick.turn with
  | .check =>
    if !found.healthy then some (state.setTick index (go .remove))
    else if settings.maxAttemptAgeMs ≤ tick.now - found.startedAt then
      some (state.setTick index (go .expire))
    else some (state.setTick index (go .due))
  | .expire =>
    some ((state.modifyHandle handle (·.markExpired)).setTick index (go .countExpired))
  | .countExpired =>
    some ({ state with expiredTotal := state.expiredTotal + 1 }.setTick index (go .remove))
  | .due =>
    if tick.now < found.nextDueAt then some (state.setTick index tick.next)
    else some (state.setTick index (go .call))
  | .call =>
    match answer with
    | .truthy => some (state.setTick index (go .beat))
    | .falsy => some (state.setTick index (go .lose))
    | .exception => some (state.setTick index (go .countError))
    | .interrupt => some (state.setTick index (go .interrupted))
  | .countError =>
    some ({ state with errorTotal := state.errorTotal + 1 }.setTick index (go .lose))
  | .lose => some ((state.modifyHandle handle (·.markLost)).setTick index (go .countLost))
  | .countLost =>
    some ({ state with lostTotal := state.lostTotal + 1 }.setTick index (go .remove))
  | .beat =>
    some ((state.modifyHandle handle
      (·.markHeartbeat tick.now (tick.now + settings.intervalMs))).setTick index (go .countBeat))
  | .countBeat =>
    some ({ state with heartbeatTotal := state.heartbeatTotal + 1 }.setTick index tick.next)
  | .remove => some ((state.removeHandle found.key handle).setTick index tick.next)
  | .interrupted => none

def advance (index : Nat) (answer : Answer) : Option (Supervisor Payload) :=
  match state.ticks[index]? with
  | none => none
  | some tick =>
    match tick.current with
    | none => none
    | some handle =>
      match state.handles[handle]? with
      | none => none
      | some found => state.turnOf settings index tick handle found answer

/-- `close` up to its loop over the handles it has taken. -/
def close (state : Supervisor Payload) : Supervisor Payload :=
  { state with stopped := true, table := ∅, unmarked := state.table.values ++ state.unmarked }

def step : SupervisorLabel Payload → Option (Supervisor Payload)
  | .register key payload leaseMs now =>
    some (state.register settings key payload leaseMs now)
  | .unregister handle => state.unregister handle
  | .mark handle => state.mark handle
  | .beginTick now => some (state.beginTick now)
  | .tick index answer => state.advance settings index answer
  | .close => some state.close

end Supervisor

def supervisorMachine (Payload : Type) (settings : HeartbeatSettings) :
    Machine (Supervisor Payload) (SupervisorLabel Payload) where
  initial state := state = {}
  step := Supervisor.step settings

end VideoAnalysis.Scheduler
