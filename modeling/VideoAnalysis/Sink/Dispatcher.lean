import VideoAnalysis.Foundation.Machine

/-! # The bounded publication dispatcher

`BoundedPublicationDispatcher`: callers of `submit` take a capacity slot,
register under the state lock and put their task into the queue of its shard;
one worker thread a shard gathers a group, stages, commits and reports every
task of it, and `close` refuses new tasks, waits for the idle event and stops
the workers. One label is one thread doing what it does between two points where
another thread may run; its Boolean says whether the operation it calls out to
raises (or, for `close`, whether its timeout has passed).
-/

namespace VideoAnalysis.Sink.Dispatcher

/-! ## Shards -/

def crc32Bit (crc : UInt32) : UInt32 :=
  if crc &&& 1 = 1 then (crc >>> 1) ^^^ 0xEDB88320 else crc >>> 1

def crc32Byte (crc : UInt32) (byte : UInt8) : UInt32 :=
  (crc32Bit ∘ crc32Bit ∘ crc32Bit ∘ crc32Bit ∘ crc32Bit ∘ crc32Bit ∘ crc32Bit ∘ crc32Bit)
    (crc ^^^ byte.toUInt32)

/-- `zlib.crc32`. -/
def crc32 (data : List UInt8) : UInt32 :=
  (data.foldl crc32Byte 0xFFFFFFFF) ^^^ 0xFFFFFFFF

/-! ## Configuration -/

def maxFinalParentGroupLimit : Nat := 32

def maxWorkers : Nat := 4

structure Config where
  capacity : Nat
  prepareGroupLimit : Nat
  finalParentGroupLimit : Nat
  workerCount : Nat
  capacityPos : 0 < capacity
  workerCountPos : 0 < workerCount
  groupedPreparesSingly : 1 < finalParentGroupLimit → prepareGroupLimit ≤ 1
  groupedHasOneWorker : 1 < finalParentGroupLimit → workerCount ≤ 1

def Config.init (capacity prepareGroupLimit finalParentGroupLimit workerCount : Int) :
    Except String Config :=
  let bounded := (max 1 capacity).toNat
  let prepareLimit := min bounded (max 1 prepareGroupLimit).toNat
  let groupLimit := min bounded finalParentGroupLimit.toNat
  if ¬(1 ≤ finalParentGroupLimit ∧ finalParentGroupLimit ≤ maxFinalParentGroupLimit) then
    .error s!"final_parent_group_limit must be between 1 and {maxFinalParentGroupLimit}, got {finalParentGroupLimit}"
  else if workers : ¬(1 ≤ workerCount ∧ workerCount ≤ maxWorkers) then
    .error s!"worker_count must be between 1 and {maxWorkers}, got {workerCount}"
  else if prepares : 1 < groupLimit ∧ 1 < prepareLimit then
    .error "final_parent_group_limit cannot be combined with prepare_group_limit > 1"
  else if oneWorker : 1 < groupLimit ∧ 1 < workerCount then
    .error "final_parent_group_limit cannot be combined with worker_count > 1"
  else
    .ok {
      capacity := bounded
      prepareGroupLimit := prepareLimit
      finalParentGroupLimit := groupLimit
      workerCount := workerCount.toNat
      capacityPos := by omega
      workerCountPos := by omega
      groupedPreparesSingly := by omega
      groupedHasOneWorker := by omega }

variable (config : Config)

/-- `_commit_final_parent_group` takes the groups. -/
def Config.grouped : Bool := decide (1 < config.finalParentGroupLimit)

def Config.groupLimit : Nat :=
  if config.grouped then config.finalParentGroupLimit else config.prepareGroupLimit

def Config.workerIndex (sourceId : String) : Nat :=
  (crc32 sourceId.toUTF8.toList).toNat % config.workerCount

theorem Config.workerIndex_lt (config : Config) (sourceId : String) :
    config.workerIndex sourceId < config.workerCount :=
  Nat.mod_lt _ config.workerCountPos

/-! ## Tasks -/

/-- The arguments of one `submit`. `phased` and `splitPublication` say which
methods the publisher has; a callback may be absent. -/
structure Request where
  sourceId : String
  finalParent : String
  phased : Bool
  splitPublication : Bool
  onPublished : Bool
  onPublishError : Bool
  deriving DecidableEq

structure Task where
  call : Nat
  workerIndex : Nat
  request : Request
  deriving DecidableEq

inductive Item
  | task (queued : Task)
  | stop
  deriving DecidableEq

def Item.task? : Item → Option Task
  | .task queued => some queued
  | .stop => none

/-- `_PreparedPublication` and `_FinalParentGroupWork`. A work whose commit was
never begun has failed. -/
structure Work where
  task : Task
  failed : Bool
  deriving DecidableEq

structure CommitTurn where
  task : Task
  committed : Bool
  deriving DecidableEq

inductive Callback
  | onPublished
  | onPublishError
  deriving DecidableEq

/-- A task was reported; the callback that was called is absent if the caller
gave none for that outcome. -/
structure Outcome where
  task : Task
  failed : Bool
  callback : Option Callback
  deriving DecidableEq

def Outcome.of (work : Work) : Outcome where
  task := work.task
  failed := work.failed
  callback :=
    if work.failed then
      if work.task.request.onPublishError then some .onPublishError else none
    else if work.task.request.onPublished then some .onPublished else none

/-! ## Threads -/

inductive SubmitError
  | closed
  | put
  | overRelease
  deriving DecidableEq

inductive CallPhase
  | requested
  | waiting
  | acquired
  | registered
  | putFailed
  | releasing
  | accepted
  | raised (error : SubmitError)
  deriving DecidableEq

structure Call where
  request : Request
  phase : CallPhase
  deriving DecidableEq

inductive WorkerPhase
  | waiting
  | gathering (group : List Task)
  | activating (group : List Task)
  | staging (done : List Work) (todo : List Task)
  | replacing (done todo : List Work)
  | fencing (works : List Work) (parents : List String)
  | journaling (done todo : List Work)
  | committing (works : List Work)
  | reporting (work : Work) (rest : List Work)
  | accounting (task : Task) (failed : Bool) (rest : List Work)
  | releasing (rest : List Work)
  | retiring
  | stopped
  | crashed
  deriving DecidableEq

structure Worker where
  queue : List Item
  phase : WorkerPhase
  deriving DecidableEq

def Worker.alive (worker : Worker) : Bool :=
  match worker.phase with
  | .stopped | .crashed => false
  | _ => true

inductive CloserPhase
  | requested
  | waiting
  | surveying (next : Nat) (live : List Nat)
  | stopping (next : Nat) (live : List Nat)
  | joining (live : List Nat)
  | returned (result : Bool)
  deriving DecidableEq

/-- `entered`, `commits` and `outcomes` record the puts, the commit turns and the
reports in the order they happen. -/
structure State where
  accepting : Bool
  outstanding : Int
  submittedTotal : Int
  completedTotal : Int
  failedTotal : Int
  active : Int
  idle : Bool
  free : Nat
  calls : List Call
  workers : List Worker
  closers : List CloserPhase
  entered : List Task
  commits : List CommitTurn
  outcomes : List Outcome
  deriving DecidableEq

def initialState : State where
  accepting := true
  outstanding := 0
  submittedTotal := 0
  completedTotal := 0
  failedTotal := 0
  active := 0
  idle := true
  free := config.capacity
  calls := []
  workers := List.replicate config.workerCount { queue := [], phase := .waiting }
  closers := []
  entered := []
  commits := []
  outcomes := []

variable (state : State) (index : Nat)

def State.setCall (call : Call) (phase : CallPhase) : State :=
  { state with calls := state.calls.set index { call with phase := phase } }

/-! ## submit -/

def taskOf (index : Nat) (request : Request) : Task where
  call := index
  workerIndex := config.workerIndex request.sourceId
  request := request

/-- `put_nowait` of a task; nothing is put when the queue is full. -/
def putNowait (state : State) (task : Task) : Option State :=
  match state.workers[task.workerIndex]? with
  | none => none
  | some worker =>
    if worker.queue.length < config.capacity then
      some { state with
        workers := state.workers.set task.workerIndex
          { worker with queue := worker.queue ++ [.task task] }
        entered := state.entered ++ [task] }
    else none

def submitStep (call : Call) (raises : Bool) : Option State :=
  match call.phase with
  | .requested =>
    if state.accepting then some (state.setCall index call .waiting)
    else some (state.setCall index call (.raised .closed))
  | .waiting =>
    if 0 < state.free then
      some ({ state with free := state.free - 1 }.setCall index call .acquired)
    else none
  | .acquired =>
    if state.accepting then
      some ({ state with
        outstanding := state.outstanding + 1
        submittedTotal := state.submittedTotal + 1
        idle := false }.setCall index call .registered)
    else if state.free < config.capacity then
      some ({ state with free := state.free + 1 }.setCall index call (.raised .closed))
    else some (state.setCall index call (.raised .overRelease))
  | .registered =>
    if raises then some (state.setCall index call .putFailed)
    else
      match putNowait config state (taskOf config index call.request) with
      | some next => some (next.setCall index call .accepted)
      | none => some (state.setCall index call .putFailed)
  | .putFailed =>
    some ({ state with
      outstanding := state.outstanding - 1
      submittedTotal := state.submittedTotal - 1
      idle := state.idle || decide (state.outstanding - 1 = 0) }.setCall index call .releasing)
  | .releasing =>
    if state.free < config.capacity then
      some ({ state with free := state.free + 1 }.setCall index call (.raised .put))
    else some (state.setCall index call (.raised .overRelease))
  | .accepted => none
  | .raised _ => none

/-! ## The worker threads -/

inductive Effect
  | quiet
  | activate
  | commit (turn : CommitTurn)
  | report (outcome : Outcome)
  | account (failed : Bool)
  | release
  | retire

/-- The parents that `_commit_final_parent_group` fences, in first-seen order. -/
def fencedParents (works : List Work) : List String :=
  ((works.filter fun work => !work.failed).map fun work =>
    work.task.request.finalParent).eraseDups

def Work.fence (parent : String) (raises : Bool) (work : Work) : Work :=
  if raises && !work.failed && work.task.request.finalParent = parent then
    { work with failed := true }
  else work

def stage (task : Task) (raises : Bool) : Work :=
  if config.grouped then { task := task, failed := !task.request.phased || raises }
  else { task := task, failed := task.request.splitPublication && raises }

def workerStep (worker : Worker) (raises : Bool) : Option (Worker × Effect) :=
  match worker.phase with
  | .waiting =>
    match worker.queue with
    | [] => none
    | .stop :: queue => some ({ queue := queue, phase := .stopped }, .quiet)
    | .task queued :: queue => some ({ queue := queue, phase := .gathering [queued] }, .quiet)
  | .gathering group =>
    if group.length < config.groupLimit then
      match worker.queue with
      | [] => some ({ worker with phase := .activating group }, .quiet)
      | .stop :: queue => some ({ queue := queue, phase := .crashed }, .quiet)
      | .task queued :: queue =>
        some ({ queue := queue, phase := .gathering (group ++ [queued]) }, .quiet)
    else some ({ worker with phase := .activating group }, .quiet)
  | .activating group => some ({ worker with phase := .staging [] group }, .activate)
  | .staging done (task :: todo) =>
    some ({ worker with phase := .staging (done ++ [stage config task raises]) todo }, .quiet)
  | .staging done [] =>
    if config.grouped then some ({ worker with phase := .replacing [] done }, .quiet)
    else some ({ worker with phase := .committing done }, .quiet)
  | .replacing done (work :: todo) =>
    let renamed := { work with failed := work.failed || raises }
    some ({ worker with phase := .replacing (done ++ [renamed]) todo },
      .commit { task := work.task, committed := !renamed.failed })
  | .replacing done [] =>
    some ({ worker with phase := .fencing done (fencedParents done) }, .quiet)
  | .fencing works (parent :: parents) =>
    some ({ worker with phase := .fencing (works.map (Work.fence parent raises)) parents },
      .quiet)
  | .fencing works [] => some ({ worker with phase := .journaling [] works }, .quiet)
  | .journaling done (work :: todo) =>
    some ({ worker with phase := .journaling (done ++ [work]) todo }, .quiet)
  | .journaling done [] => some ({ worker with phase := .committing done }, .quiet)
  | .committing [] => some ({ worker with phase := .retiring }, .quiet)
  | .committing (work :: rest) =>
    let finished := { work with failed := work.failed || raises }
    if config.grouped then
      some ({ worker with phase := .reporting finished rest }, .quiet)
    else
      some ({ worker with phase := .reporting finished rest },
        .commit { task := work.task, committed := !finished.failed })
  | .reporting work rest =>
    let outcome := Outcome.of work
    let failed := work.failed || (outcome.callback.isSome && raises)
    some ({ worker with phase := .accounting work.task failed rest }, .report outcome)
  | .accounting _ failed rest =>
    some ({ worker with phase := .releasing rest }, .account failed)
  | .releasing rest => some ({ worker with phase := .committing rest }, .release)
  | .retiring => some ({ worker with phase := .waiting }, .retire)
  | .stopped => none
  | .crashed => none

def settle (worker : Worker) : Effect → State
  | .quiet => { state with workers := state.workers.set index worker }
  | .activate =>
    { state with
      workers := state.workers.set index worker
      active := state.active + 1 }
  | .commit turn =>
    { state with
      workers := state.workers.set index worker
      commits := state.commits ++ [turn] }
  | .report outcome =>
    { state with
      workers := state.workers.set index worker
      outcomes := state.outcomes ++ [outcome] }
  | .account failed =>
    { state with
      workers := state.workers.set index worker
      outstanding := max 0 (state.outstanding - 1)
      completedTotal := if failed then state.completedTotal else state.completedTotal + 1
      failedTotal := if failed then state.failedTotal + 1 else state.failedTotal
      idle := state.idle || decide (max 0 (state.outstanding - 1) = 0) }
  | .release =>
    if state.free < config.capacity then
      { state with
        workers := state.workers.set index worker
        free := state.free + 1 }
    else
      { state with workers := state.workers.set index { worker with phase := .crashed } }
  | .retire =>
    { state with
      workers := state.workers.set index worker
      active := max 0 (state.active - 1) }

/-! ## close -/

def closerStep (phase : CloserPhase) (expired : Bool) : Option State :=
  let move (next : CloserPhase) : State :=
    { state with closers := state.closers.set index next }
  match phase with
  | .requested =>
    some { state with accepting := false, closers := state.closers.set index .waiting }
  | .waiting =>
    if expired then some (move (.returned false))
    else if state.idle then some (move (.surveying 0 []))
    else none
  | .surveying next live =>
    match state.workers[next]? with
    | some worker =>
      some (move (.surveying (next + 1) (if worker.alive then live ++ [next] else live)))
    | none =>
      if live = [] then some (move (.returned true))
      else some (move (.stopping 0 live))
  | .stopping next live =>
    match state.workers[next]? with
    | none => some (move (.joining live))
    | some worker =>
      if worker.alive then
        if worker.queue.length < config.capacity then
          some { state with
            workers := state.workers.set next { worker with queue := worker.queue ++ [.stop] }
            closers := state.closers.set index (.stopping (next + 1) live) }
        else some (move (.returned false))
      else some (move (.stopping (next + 1) live))
  | .joining live =>
    if live.all fun position => (state.workers[position]?).all fun worker => !worker.alive then
      some (move (.returned true))
    else if expired then some (move (.returned false))
    else none
  | .returned _ => none

/-! ## The dispatcher as a machine -/

inductive Label
  | call (request : Request)
  | submit (index : Nat) (raises : Bool)
  | work (index : Nat) (raises : Bool)
  | close
  | closer (index : Nat) (expired : Bool)

def step (state : State) : Label → Option State
  | .call request =>
    some { state with calls := state.calls ++ [{ request := request, phase := .requested }] }
  | .submit index raises =>
    match state.calls[index]? with
    | some call => submitStep config state index call raises
    | none => none
  | .work index raises =>
    match state.workers[index]? with
    | some worker =>
      match workerStep config worker raises with
      | some (next, effect) => some (settle config state index next effect)
      | none => none
    | none => none
  | .close => some { state with closers := state.closers ++ [.requested] }
  | .closer index expired =>
    match state.closers[index]? with
    | some phase => closerStep config state index phase expired
    | none => none

def machine : Foundation.Machine State Label where
  initial state := state = initialState config
  step := step config

end VideoAnalysis.Sink.Dispatcher
