import VideoAnalysis.Foundation.ThreadPool
import VideoAnalysis.Sink.Dispatcher

/-! # The books of the dispatcher

Every thread holds a known share of the counters, of the capacity slots and of
the three logs. A step of one thread changes the state by what it changes in
that thread's share, so the sums over all threads stay equal to the counters.
-/

namespace VideoAnalysis.Sink.Dispatcher

open Foundation (total total_set total_split total_cons)

/-! ## Shares of the callers -/

/-- The call counts in `_submitted_total`. -/
@[simp] def CallPhase.registrations : CallPhase → Nat
  | .registered | .putFailed | .accepted => 1
  | _ => 0

/-- The call counts in `_outstanding` with a task that is in no queue. -/
@[simp] def CallPhase.unsent : CallPhase → Nat
  | .registered | .putFailed => 1
  | _ => 0

/-- The call is between `acquire` and its registration. -/
@[simp] def CallPhase.acquiring : CallPhase → Nat
  | .acquired => 1
  | _ => 0

/-- The call took its registration back and still has its slot. -/
@[simp] def CallPhase.rollingBack : CallPhase → Nat
  | .releasing => 1
  | _ => 0

def State.registrations (state : State) : Nat :=
  total (fun call => call.phase.registrations) state.calls

def State.unsent (state : State) : Nat :=
  total (fun call => call.phase.unsent) state.calls

def State.acquiring (state : State) : Nat :=
  total (fun call => call.phase.acquiring) state.calls

def State.rollingBack (state : State) : Nat :=
  total (fun call => call.phase.rollingBack) state.calls

/-! ## Shares of the workers -/

def tasks (works : List Work) : List Task := works.map Work.task

@[simp] theorem tasks_nil : tasks [] = [] := rfl

@[simp] theorem tasks_cons (work : Work) (works : List Work) :
    tasks (work :: works) = work.task :: tasks works := rfl

@[simp] theorem tasks_append (first second : List Work) :
    tasks (first ++ second) = tasks first ++ tasks second :=
  List.map_append

theorem Work.fence_task (parent : String) (raises : Bool) (work : Work) :
    (work.fence parent raises).task = work.task := by
  simp only [Work.fence]
  split <;> rfl

@[simp] theorem tasks_fence (parent : String) (raises : Bool) (works : List Work) :
    tasks (works.map (Work.fence parent raises)) = tasks works := by
  simp only [tasks, List.map_map]
  apply List.map_congr_left
  intro work _
  exact work.fence_task parent raises

@[simp] theorem stage_task (config : Config) (task : Task) (raises : Bool) :
    (stage config task raises).task = task := by
  simp only [stage]
  split <;> rfl

/-- The tasks in the worker's hands that it has not taken off `_outstanding`. -/
@[simp] def WorkerPhase.hand : WorkerPhase → List Task
  | .gathering group | .activating group => group
  | .staging done todo => tasks done ++ todo
  | .replacing done todo | .journaling done todo => tasks done ++ tasks todo
  | .fencing works _ | .committing works => tasks works
  | .reporting work rest => work.task :: tasks rest
  | .accounting task _ rest => task :: tasks rest
  | .releasing rest => tasks rest
  | .waiting | .retiring | .stopped | .crashed => []

@[simp] def WorkerPhase.unreported : WorkerPhase → List Task
  | .accounting _ _ rest => tasks rest
  | phase => phase.hand

@[simp] def WorkerPhase.uncommitted (grouped : Bool) : WorkerPhase → List Task
  | .replacing _ todo => tasks todo
  | .fencing _ _ | .journaling _ _ => []
  | .committing works => if grouped then [] else tasks works
  | .reporting _ rest | .accounting _ _ rest | .releasing rest =>
    if grouped then [] else tasks rest
  | phase => phase.hand

@[simp] def WorkerPhase.settling : WorkerPhase → Nat
  | .releasing _ => 1
  | _ => 0

@[simp] def WorkerPhase.suits (grouped : Bool) : WorkerPhase → Prop
  | .replacing _ _ | .fencing _ _ | .journaling _ _ => grouped = true
  | _ => True

def queued (queue : List Item) : List Task := queue.filterMap Item.task?

@[simp] theorem queued_nil : queued [] = [] := rfl

@[simp] theorem queued_task (task : Task) (queue : List Item) :
    queued (.task task :: queue) = task :: queued queue := rfl

@[simp] theorem queued_stop (queue : List Item) : queued (.stop :: queue) = queued queue := rfl

@[simp] theorem queued_append (first second : List Item) :
    queued (first ++ second) = queued first ++ queued second :=
  List.filterMap_append

def Worker.load (worker : Worker) : Nat :=
  worker.phase.hand.length + (queued worker.queue).length

def Worker.unreported (worker : Worker) : List Task :=
  worker.phase.unreported ++ queued worker.queue

def Worker.uncommitted (grouped : Bool) (worker : Worker) : List Task :=
  worker.phase.uncommitted grouped ++ queued worker.queue

/-- The worker has met the stop item or has it in its queue. -/
def Worker.closing (worker : Worker) : Prop :=
  worker.alive = false ∨ Item.stop ∈ worker.queue

def State.load (state : State) : Nat := total Worker.load state.workers

def State.settling (state : State) : Nat :=
  total (fun worker => worker.phase.settling) state.workers

/-! ## What one step of a worker moves -/

@[simp] def Effect.accounted : Effect → Nat
  | .account _ => 1
  | _ => 0

@[simp] def Effect.released : Effect → Nat
  | .release => 1
  | _ => 0

@[simp] def Effect.turns : Effect → List CommitTurn
  | .commit turn => [turn]
  | _ => []

@[simp] def Effect.reports : Effect → List Outcome
  | .report outcome => [outcome]
  | _ => []

structure WorkerMove (config : Config) (worker next : Worker) (effect : Effect) : Prop where
  load : next.load + effect.accounted = worker.load
  settling : next.phase.settling + effect.released = worker.phase.settling + effect.accounted
  unreported : effect.reports.map Outcome.task ++ next.unreported = worker.unreported
  uncommitted : effect.turns.map CommitTurn.task ++ next.uncommitted config.grouped =
    worker.uncommitted config.grouped
  closing : next.closing → worker.closing
  suits : next.phase.suits config.grouped

variable {config : Config} {worker : Worker} {raises : Bool} {effect : Effect}

attribute [local simp] Worker.load Worker.unreported Worker.uncommitted Worker.closing
  Worker.alive in
theorem workerStep_move {next : Worker} (suits : worker.phase.suits config.grouped)
    (emptyHanded : worker.closing → worker.load = 0)
    (step : workerStep config worker raises = some (next, effect)) :
    WorkerMove config worker next effect := by
  rcases worker with ⟨queue, phase⟩
  cases phase with
  | waiting =>
    cases queue with
    | nil => simp [workerStep] at step
    | cons item =>
      cases item with
      | stop =>
        cases step
        constructor <;> simp
      | task =>
        cases step
        constructor <;> simp [Nat.add_comm]
  | gathering =>
    simp only [workerStep] at step
    split at step
    · cases queue with
      | nil =>
        cases step
        constructor <;> simp
      | cons item =>
        cases item with
        | stop =>
          have empty := emptyHanded (.inr (by simp))
          simp only [Worker.load, WorkerPhase.hand, queued_stop, Nat.add_eq_zero_iff,
            List.length_eq_zero_iff] at empty
          cases step
          rcases empty with ⟨rfl, _⟩
          constructor <;> simp
        | task =>
          cases step
          constructor <;> simp [Nat.add_assoc, Nat.add_comm]
    · cases step
      constructor <;> simp
  | activating =>
    cases step
    constructor <;> simp
  | staging done todo =>
    cases todo with
    | cons =>
      cases step
      constructor <;> simp [Nat.add_assoc, Nat.add_comm, Nat.add_left_comm]
    | nil =>
      simp only [workerStep] at step
      split at step
      · rename_i grouped
        cases step
        constructor <;> simp [grouped]
      · rename_i plain
        cases step
        constructor <;> simp [plain]
  | replacing _ todo =>
    simp only [WorkerPhase.suits] at suits
    cases todo with
    | cons =>
      cases step
      constructor <;> simp [suits, Nat.add_comm, Nat.add_left_comm]
    | nil =>
      cases step
      constructor <;> simp [suits]
  | fencing _ parents =>
    simp only [WorkerPhase.suits] at suits
    cases parents with
    | cons | nil =>
      cases step
      constructor <;> simp [suits]
  | journaling _ todo =>
    simp only [WorkerPhase.suits] at suits
    cases todo with
    | cons =>
      cases step
      constructor <;> simp [suits, Nat.add_comm, Nat.add_left_comm]
    | nil =>
      cases step
      constructor <;> simp [suits]
  | committing works =>
    cases works with
    | nil =>
      cases step
      constructor <;> simp
    | cons work rest =>
      simp only [workerStep] at step
      split at step
      · rename_i grouped
        cases step
        constructor <;> simp [grouped]
      · rename_i plain
        cases step
        constructor <;> simp [plain]
  | reporting =>
    cases step
    constructor <;> simp [Outcome.of]
  | accounting =>
    cases step
    constructor <;> simp [Nat.add_comm, Nat.add_left_comm]
  | releasing | retiring =>
    cases step
    constructor <;> simp
  | stopped | crashed => simp [workerStep] at step

/-! ## The books -/

def shard (index : Nat) (tasks : List Task) : List Task :=
  tasks.filter fun task => decide (task.workerIndex = index)

@[simp] theorem shard_nil (index : Nat) : shard index [] = [] := rfl

@[simp] theorem shard_append (index : Nat) (first second : List Task) :
    shard index (first ++ second) = shard index first ++ shard index second :=
  List.filter_append ..

variable {index : Nat}

theorem shard_eq_self {tasks : List Task} (own : ∀ task ∈ tasks, task.workerIndex = index) :
    shard index tasks = tasks := by
  apply List.filter_eq_self.mpr
  intro task member
  simpa using own task member

theorem shard_eq_nil {other : Nat} {tasks : List Task}
    (own : ∀ task ∈ tasks, task.workerIndex = other) (distinct : other ≠ index) :
    shard index tasks = [] := by
  apply List.filter_eq_nil_iff.mpr
  intro task member
  simpa [own task member] using distinct

def CloserPhase.pastIdle : CloserPhase → Prop
  | .surveying _ _ | .stopping _ _ | .joining _ | .returned true => True
  | _ => False

structure Closed (state : State) : Prop where
  refusing : ∀ closer ∈ state.closers, closer ≠ .requested → state.accepting = false
  drained : ∀ closer ∈ state.closers, closer.pastIdle →
    state.accepting = false ∧ state.outstanding = 0
  stopping : ∀ worker ∈ state.workers, worker.closing →
    state.accepting = false ∧ state.outstanding = 0

structure Counted (config : Config) (state : State) : Prop where
  submitted : state.submittedTotal = state.registrations
  outstanding : state.outstanding = state.unsent + state.load
  balance : state.outstanding + state.completedTotal + state.failedTotal = state.submittedTotal
  slots : state.free + state.unsent + state.load + state.acquiring + state.rollingBack +
    state.settling = config.capacity
  idle : state.idle = decide (state.outstanding = 0)

structure Logged (config : Config) (state : State) : Prop where
  reported : ∀ index worker, state.workers[index]? = some worker →
    shard index state.entered =
      shard index (state.outcomes.map Outcome.task) ++ worker.unreported
  committed : ∀ index worker, state.workers[index]? = some worker →
    shard index state.entered =
      shard index (state.commits.map CommitTurn.task) ++ worker.uncommitted config.grouped

structure Entered (config : Config) (state : State) : Prop where
  distinct : (state.entered.map Task.call).Nodup
  accepted : ∀ task, task ∈ state.entered ↔
    ∃ call, state.calls[task.call]? = some call ∧ call.phase = .accepted ∧
      task = taskOf config task.call call.request

structure Books (config : Config) (state : State) : Prop where
  workers : state.workers.length = config.workerCount
  suits : ∀ worker ∈ state.workers, worker.phase.suits config.grouped
  closed : Closed state
  counted : Counted config state
  logged : Logged config state
  entered : Entered config state

theorem total_replicate_zero {Thread : Type*} (measure : Thread → Nat) (thread : Thread)
    (zero : measure thread = 0) (count : Nat) :
    total measure (List.replicate count thread) = 0 := by
  induction count with
  | zero => rfl
  | succ _ induction =>
    rw [List.replicate_succ, total_cons, zero, induction]

theorem Books.initial (config : Config) : Books config (initialState config) where
  workers := by simp [initialState]
  suits := by
    intro worker member
    rw [List.eq_of_mem_replicate member]
    trivial
  closed := {
    refusing := by simp [initialState]
    drained := by simp [initialState]
    stopping := by
      intro worker member closing
      rw [List.eq_of_mem_replicate member] at closing
      simp [Worker.closing, Worker.alive] at closing }
  counted := by
    have noLoad := total_replicate_zero Worker.load
      { queue := [], phase := .waiting } rfl config.workerCount
    have noSettling := total_replicate_zero (fun worker : Worker => worker.phase.settling)
      { queue := [], phase := .waiting } rfl config.workerCount
    constructor <;> simp [initialState, State.registrations, State.unsent, State.load,
      State.acquiring, State.rollingBack, State.settling, noLoad, noSettling,
      -WorkerPhase.settling]
  logged := by
    constructor <;>
    · intro index worker occupied
      have same := List.eq_of_mem_replicate (List.mem_of_getElem? occupied)
      simp [same, initialState, Worker.unreported, Worker.uncommitted]
  entered := {
    distinct := List.nodup_nil
    accepted := by simp [initialState] }

/-! ## Steps of the callers -/

variable {state next : State}

theorem Entered.moveCall {call : Call} {phase : CallPhase} (entered : Entered config state)
    (occupied : state.calls[index]? = some call) (before : call.phase ≠ .accepted)
    (after : phase ≠ .accepted) (sameEntered : next.entered = state.entered)
    (calls : next.calls = state.calls.set index { call with phase := phase }) :
    Entered config next := by
  constructor
  · rw [sameEntered]
    exact entered.distinct
  · intro task
    rw [sameEntered, entered.accepted task, calls]
    have bound := (List.getElem?_eq_some_iff.mp occupied).1
    by_cases same : index = task.call
    · subst same
      simp [occupied, before, after, List.getElem?_set_self bound]
    · rw [List.getElem?_set_ne same]

theorem Books.moveCall {call : Call} (books : Books config state)
    (occupied : state.calls[index]? = some call) {phase : CallPhase}
    {outstanding submitted : Int} {idle : Bool} {free : Nat} (before : call.phase ≠ .accepted)
    (after : phase ≠ .accepted) (outstandingMoves : outstanding + call.phase.unsent =
      state.outstanding + phase.unsent) (submittedMoves : submitted + call.phase.registrations =
      state.submittedTotal + phase.registrations)
    (balanced : outstanding - submitted = state.outstanding - state.submittedTotal)
    (slotsMove : free + phase.unsent + phase.acquiring + phase.rollingBack =
      state.free + call.phase.unsent + call.phase.acquiring + call.phase.rollingBack)
    (idleMoves : idle = decide (outstanding = 0))
    (registers : state.accepting = true ∨ outstanding ≤ state.outstanding) :
    Books config ({ state with
      outstanding := outstanding
      submittedTotal := submitted
      idle := idle
      free := free }.setCall index call phase) := by
  have registrations := total_set (fun call => call.phase.registrations) occupied
    { call with phase := phase }
  have unsent := total_set (fun call => call.phase.unsent) occupied
    { call with phase := phase }
  have acquiring := total_set (fun call => call.phase.acquiring) occupied
    { call with phase := phase }
  have rollingBack := total_set (fun call => call.phase.rollingBack) occupied
    { call with phase := phase }
  have submittedTotal := books.counted.submitted
  have outstandingTotal := books.counted.outstanding
  have balance := books.counted.balance
  have slots := books.counted.slots
  simp only [State.registrations, State.unsent, State.acquiring, State.rollingBack,
    State.load, State.settling] at *
  have stays (drained : state.accepting = false ∧ state.outstanding = 0) :
      outstanding = 0 := by
    rcases registers with accepting | decreases
    · simp [accepting] at drained
    · omega
  constructor
  · exact books.workers
  · exact books.suits
  · constructor
    · exact books.closed.refusing
    · intro closer member past
      have drained := books.closed.drained closer member past
      exact ⟨drained.1, stays drained⟩
    · intro worker member closing
      have drained := books.closed.stopping worker member closing
      exact ⟨drained.1, stays drained⟩
  · constructor <;>
      simp only [State.setCall, State.registrations, State.unsent, State.acquiring,
        State.rollingBack, State.load, State.settling]
    · omega
    · omega
    · omega
    · omega
    · exact idleMoves
  · exact ⟨books.logged.reported, books.logged.committed⟩
  · exact books.entered.moveCall occupied before after rfl rfl

theorem Worker.load_put (worker : Worker) (item : Item) :
    Worker.load { worker with queue := worker.queue ++ [item] } =
      worker.load + (queued [item]).length := by
  simp only [Worker.load, queued_append, List.length_append, Nat.add_assoc]

theorem Logged.put (logged : Logged config state) (entered : List Task) (item : Item)
    (running : state.workers[index]? = some worker)
    (enters : ∀ position, shard position entered =
      shard position state.entered ++ if index = position then queued [item] else []) :
    Logged config { state with
      workers := state.workers.set index { worker with queue := worker.queue ++ [item] }
      entered := entered } := by
  have was (position : Nat) (other : Worker)
      (now : (state.workers.set index
        { worker with queue := worker.queue ++ [item] })[position]? = some other) :
      ∃ before, state.workers[position]? = some before ∧
        other.unreported = before.unreported ++
          (if index = position then queued [item] else []) ∧
        other.uncommitted config.grouped = before.uncommitted config.grouped ++
          if index = position then queued [item] else [] := by
    by_cases same : index = position
    · subst same
      rw [List.getElem?_set_self (List.getElem?_eq_some_iff.mp running).1, Option.some.injEq] at now
      subst now
      exact ⟨worker, running, by simp [Worker.unreported], by simp [Worker.uncommitted]⟩
    · rw [List.getElem?_set_ne same] at now
      exact ⟨other, now, by simp [same], by simp [same]⟩
  constructor
  · intro position other now
    rcases was position other now with ⟨before, found, unreported, -⟩
    rw [enters, unreported, logged.reported position before found, List.append_assoc]
  · intro position other now
    rcases was position other now with ⟨before, found, -, uncommitted⟩
    rw [enters, uncommitted, logged.committed position before found, List.append_assoc]

theorem Books.put {call : Call} (books : Books config state)
    (occupied : state.calls[index]? = some call) (registered : call.phase = .registered)
    (running : state.workers[(taskOf config index call.request).workerIndex]? = some worker) :
    Books config ({ state with
      workers := state.workers.set (taskOf config index call.request).workerIndex
        { worker with queue :=
          worker.queue ++ [Item.task (taskOf config index call.request)] }
      entered := state.entered ++ [taskOf config index call.request] }.setCall
        index call .accepted) := by
  generalize isTask : taskOf config index call.request = task at *
  have taskCall : task.call = index := by rw [← isTask]; rfl
  have registrations := total_set (fun call => call.phase.registrations) occupied
    { call with phase := .accepted }
  have unsent := total_set (fun call => call.phase.unsent) occupied
    { call with phase := .accepted }
  have acquiring := total_set (fun call => call.phase.acquiring) occupied
    { call with phase := .accepted }
  have rollingBack := total_set (fun call => call.phase.rollingBack) occupied
    { call with phase := .accepted }
  have load := total_set Worker.load running
    { worker with queue := worker.queue ++ [Item.task task] }
  have settling := total_set (fun worker => worker.phase.settling) running
    { worker with queue := worker.queue ++ [Item.task task] }
  have oneMore : _ = worker.load + 1 := worker.load_put (.task task)
  have before : call.phase.registrations = 1 ∧ call.phase.unsent = 1 ∧
      call.phase.acquiring = 0 ∧ call.phase.rollingBack = 0 := by
    simp [registered]
  have after : CallPhase.accepted.registrations = 1 ∧ CallPhase.accepted.unsent = 0 ∧
      CallPhase.accepted.acquiring = 0 ∧ CallPhase.accepted.rollingBack = 0 :=
    ⟨rfl, rfl, rfl, rfl⟩
  have submittedTotal := books.counted.submitted
  have outstandingTotal := books.counted.outstanding
  have balance := books.counted.balance
  have slots := books.counted.slots
  simp only [State.registrations, State.unsent, State.acquiring, State.rollingBack,
    State.load, State.settling] at *
  have outstandingPos : state.outstanding ≠ 0 := by omega
  constructor
  · simpa [State.setCall] using books.workers
  · intro other member
    rcases List.mem_or_eq_of_mem_set member with old | rfl
    · exact books.suits other old
    · exact books.suits worker (List.mem_of_getElem? running)
  · constructor
    · exact books.closed.refusing
    · exact books.closed.drained
    · intro other member closing
      rcases List.mem_or_eq_of_mem_set member with old | rfl
      · exact books.closed.stopping other old closing
      · apply books.closed.stopping worker (List.mem_of_getElem? running)
        simpa [Worker.closing, Worker.alive] using closing
  · constructor <;>
      simp only [State.setCall, State.registrations, State.unsent, State.acquiring,
        State.rollingBack, State.load, State.settling]
    · omega
    · omega
    · omega
    · omega
    · exact books.counted.idle
  · have logged := books.logged.put (state.entered ++ [task]) (.task task) running fun position => by
      rw [shard_append]
      by_cases same : task.workerIndex = position <;> simp [shard, same]
    exact ⟨logged.reported, logged.committed⟩
  · have bound := (List.getElem?_eq_some_iff.mp occupied).1
    constructor
    · simp only [State.setCall, List.map_append, List.map_cons, List.map_nil]
      rw [List.nodup_append]
      refine ⟨books.entered.distinct, List.nodup_singleton _, ?_⟩
      intro first firstMember second secondMember same
      rcases List.mem_map.mp firstMember with ⟨old, oldMember, rfl⟩
      rcases (books.entered.accepted old).mp oldMember with ⟨_, found, accepted, -⟩
      rw [List.mem_singleton] at secondMember
      rw [same, secondMember, taskCall, occupied] at found
      simp only [Option.some.injEq] at found
      subst found
      simp [registered] at accepted
    · intro other
      simp only [State.setCall, List.mem_append, List.mem_singleton]
      rw [books.entered.accepted other]
      by_cases same : index = other.call
      · subst same
        simp only [occupied, List.getElem?_set_self bound, Option.some.injEq,
          exists_eq_left', registered, reduceCtorEq, false_and, false_or, true_and, isTask]
      · rw [List.getElem?_set_ne same]
        have differs : other ≠ task := by
          intro equal
          exact same (by rw [equal, taskCall])
        simp [differs]

theorem putNowait_eq_some {task : Task} :
    putNowait config state task = some next ↔
      ∃ worker, state.workers[task.workerIndex]? = some worker ∧
        worker.queue.length < config.capacity ∧
        { state with
          workers := state.workers.set task.workerIndex
            { worker with queue := worker.queue ++ [Item.task task] }
          entered := state.entered ++ [task] } = next := by
  simp only [putNowait]
  cases state.workers[task.workerIndex]? with
  | none | some => simp

theorem Books.submit {call : Call} (books : Books config state)
    (occupied : state.calls[index]? = some call)
    (step : submitStep config state index call raises = some next) : Books config next := by
  have slots := books.counted.slots
  have outstanding := books.counted.outstanding
  have unsent := total_split (fun call => call.phase.unsent) occupied
  have acquiring := total_split (fun call => call.phase.acquiring) occupied
  have rollingBack := total_split (fun call => call.phase.rollingBack) occupied
  simp only [State.unsent, State.acquiring, State.rollingBack] at slots outstanding
  rcases call with ⟨request, phase⟩
  cases phase with
  | requested =>
    simp only [submitStep] at step
    split at step
    all_goals
      cases step
      exact books.moveCall occupied (by simp) (by simp) (by simp) (by simp) rfl (by simp)
        books.counted.idle (.inr (Int.le_refl _))
  | waiting =>
    simp only [submitStep] at step
    split at step
    · cases step
      exact books.moveCall occupied (by simp) (by simp) (by simp) (by simp) rfl
        (by simp; omega) books.counted.idle (.inr (Int.le_refl _))
    · cases step
  | acquired =>
    simp only [submitStep] at step
    split at step
    · rename_i accepting
      cases step
      have positive : state.outstanding + 1 ≠ 0 := by omega
      exact books.moveCall occupied (by simp) (by simp) (by simp) (by simp) (by omega)
        (by simp) (by simpa using positive) (.inl accepting)
    · split at step
      · cases step
        exact books.moveCall occupied (by simp) (by simp) (by simp) (by simp) rfl (by simp)
          books.counted.idle (.inr (Int.le_refl _))
      · rename_i full
        rcases acquiring with ⟨_, split⟩
        rw [split] at slots
        simp at slots
        omega
  | registered =>
    simp only [submitStep] at step
    split at step
    · cases step
      exact books.moveCall occupied (by simp) (by simp) (by simp) (by simp) rfl (by simp)
        books.counted.idle (.inr (Int.le_refl _))
    · split at step
      · rename_i put
        rcases putNowait_eq_some.mp put with ⟨_, running, -, rfl⟩
        cases step
        have put := books.put occupied rfl running
        exact put
      · cases step
        exact books.moveCall occupied (by simp) (by simp) (by simp) (by simp) rfl (by simp)
          books.counted.idle (.inr (Int.le_refl _))
  | putFailed =>
    simp only [submitStep, Option.some.injEq] at step
    subst step
    rcases unsent with ⟨_, split⟩
    have positive : state.outstanding ≠ 0 := by
      rw [split] at outstanding
      simp at outstanding
      omega
    have busy : state.idle = false := by
      rw [books.counted.idle]
      simpa using positive
    exact books.moveCall occupied (by simp) (by simp) (by simp) (by simp) (by omega)
      (by simp) (by simp [busy]) (.inr (by omega))
  | releasing =>
    simp only [submitStep] at step
    split at step
    · cases step
      exact books.moveCall occupied (by simp) (by simp) (by simp) (by simp) rfl (by simp)
        books.counted.idle (.inr (Int.le_refl _))
    · rename_i full
      rcases rollingBack with ⟨_, split⟩
      rw [split] at slots
      simp at slots
      omega
  | accepted | raised => cases step

theorem Books.call {config : Config} {state : State} (books : Books config state)
    (request : Request) :
    Books config { state with
      calls := state.calls ++ [{ request := request, phase := .requested }] } := by
  have counted := books.counted
  constructor
  · exact books.workers
  · exact books.suits
  · exact ⟨books.closed.refusing, books.closed.drained, books.closed.stopping⟩
  · constructor
    · simpa [State.registrations] using counted.submitted
    · simpa [State.unsent, State.load] using counted.outstanding
    · exact counted.balance
    · simpa [State.unsent, State.load, State.acquiring, State.rollingBack,
        State.settling] using counted.slots
    · exact counted.idle
  · exact ⟨books.logged.reported, books.logged.committed⟩
  · constructor
    · exact books.entered.distinct
    · intro task
      rw [books.entered.accepted task]
      by_cases old : task.call < state.calls.length
      · rw [List.getElem?_append_left old]
      · have new := Nat.le_of_not_lt old
        rw [List.getElem?_eq_none new, List.getElem?_append_right new]
        constructor
        · rintro ⟨call, found, -⟩
          cases found
        · rintro ⟨call, found, accepted, -⟩
          rw [List.getElem?_singleton] at found
          split at found
          · cases found
            cases accepted
          · cases found

/-! ## Steps of the workers -/

theorem own_of_shard {entered logged pending : List Task}
    (shards : shard index entered = logged ++ pending) {task : Task} (member : task ∈ pending) :
    task.workerIndex = index := by
  have inShard : task ∈ shard index entered := by
    rw [shards]
    exact List.mem_append_right _ member
  simpa [shard] using (List.mem_filter.mp inShard).2

theorem logged_moveWorker {workers : List Worker} {next : Worker}
    {entered logged front : List Task} {pending : Worker → List Task}
    (running : workers[index]? = some worker)
    (before : ∀ position other, workers[position]? = some other →
      shard position entered = shard position logged ++ pending other)
    (moved : front ++ pending next = pending worker)
    (own : ∀ task ∈ front, task.workerIndex = index) (position : Nat) (other : Worker)
    (now : (workers.set index next)[position]? = some other) :
    shard position entered = shard position (logged ++ front) ++ pending other := by
  by_cases same : index = position
  · subst same
    rw [List.getElem?_set_self (List.getElem?_eq_some_iff.mp running).1] at now
    simp only [Option.some.injEq] at now
    subst now
    rw [shard_append, shard_eq_self own, List.append_assoc, moved]
    exact before index worker running
  · rw [List.getElem?_set_ne same] at now
    rw [shard_append, shard_eq_nil own same, List.append_nil]
    exact before position other now

theorem settle_calls : (settle config state index worker effect).calls = state.calls := by
  cases effect with
  | release => simp only [settle]; split <;> rfl
  | _ => rfl

theorem settle_entered : (settle config state index worker effect).entered = state.entered := by
  cases effect with
  | release => simp only [settle]; split <;> rfl
  | _ => rfl

theorem settle_closers : (settle config state index worker effect).closers = state.closers := by
  cases effect with
  | release => simp only [settle]; split <;> rfl
  | _ => rfl

theorem settle_accepting :
    (settle config state index worker effect).accepting = state.accepting := by
  cases effect with
  | release => simp only [settle]; split <;> rfl
  | _ => rfl

theorem settle_commits :
    (settle config state index worker effect).commits = state.commits ++ effect.turns := by
  cases effect with
  | release => simp only [settle]; split <;> simp
  | _ => simp [settle]

theorem settle_outcomes :
    (settle config state index worker effect).outcomes =
      state.outcomes ++ effect.reports := by
  cases effect with
  | release => simp only [settle]; split <;> simp
  | _ => simp [settle]

theorem settle_workers (index : Nat) (worker : Worker)
    (held : effect.released ≤ config.capacity - state.free) :
    (settle config state index worker effect).workers = state.workers.set index worker := by
  cases effect with
  | release =>
    simp only [Effect.released] at held
    have free : state.free < config.capacity := by omega
    simp only [settle, free, ↓reduceIte]
  | _ => rfl

theorem settle_free (index : Nat) (worker : Worker)
    (held : effect.released ≤ config.capacity - state.free) :
    (settle config state index worker effect).free = state.free + effect.released := by
  cases effect with
  | release =>
    simp only [Effect.released] at held
    have free : state.free < config.capacity := by omega
    simp only [settle, free, ↓reduceIte, Effect.released]
  | _ => rfl

theorem settle_counters (counted : (effect.accounted : Int) ≤ state.outstanding)
    (idle : state.idle = decide (state.outstanding = 0)) :
    (settle config state index worker effect).outstanding =
        state.outstanding - effect.accounted ∧
      (settle config state index worker effect).submittedTotal = state.submittedTotal ∧
      (settle config state index worker effect).completedTotal +
          (settle config state index worker effect).failedTotal =
        state.completedTotal + state.failedTotal + effect.accounted ∧
      (settle config state index worker effect).idle =
        decide (state.outstanding - effect.accounted = 0) := by
  cases effect with
  | account failed =>
    simp only [Effect.accounted] at counted
    have decrement : max 0 (state.outstanding - 1) = state.outstanding - 1 := by omega
    have busy : state.idle = false := by
      rw [idle, decide_eq_false_iff_not]
      omega
    refine ⟨decrement, rfl, ?_, ?_⟩
    · cases failed with
      | true => simp [settle, Int.add_assoc]
      | false => simp [settle, Int.add_right_comm]
    · simp only [settle, decrement, busy, Bool.false_or]
      rfl
  | release =>
    simp only [settle, Effect.accounted]
    split <;> simp [idle]
  | _ => simp [settle, idle]

section

variable {moved : Worker} (books : Books config state)
  (running : state.workers[index]? = some worker) (step : workerStep config worker raises = some
  (moved, effect))

include moved books running step

theorem Books.move :
    WorkerMove config worker moved effect := by
  have present := List.mem_of_getElem? running
  apply workerStep_move (books.suits worker present) _ step
  intro closing
  have drained := (books.closed.stopping worker present closing).2
  have outstanding := books.counted.outstanding
  rcases total_split Worker.load running with ⟨_, split⟩
  simp only [State.load, split] at outstanding
  omega

theorem Books.held :
    effect.released ≤ config.capacity - state.free := by
  have settling := (books.move running step).settling
  have load := (books.move running step).load
  have slots := books.counted.slots
  rcases total_split (fun worker => worker.phase.settling) running with ⟨_, split⟩
  rcases total_split Worker.load running with ⟨_, splitLoad⟩
  simp only [State.settling, State.load, split, splitLoad] at slots
  omega

theorem Books.work :
    Books config (settle config state index moved effect) := by
  have present := List.mem_of_getElem? running
  have slots := books.counted.slots
  have outstanding := books.counted.outstanding
  have balance := books.counted.balance
  have load := total_set Worker.load running moved
  have settling := total_set (fun worker => worker.phase.settling) running moved
  have move := books.move running step
  have loadMove := move.load
  have settlingMove := move.settling
  simp only [State.load, State.settling] at slots outstanding
  have held := books.held running step
  rcases @settle_counters config moved effect index state (by omega) books.counted.idle with
    ⟨outstandingNow, submittedNow, _, idleNow⟩
  have stays (drained : state.accepting = false ∧ state.outstanding = 0) :
      (settle config state index moved effect).accepting = false ∧
        (settle config state index moved effect).outstanding = 0 := by
    rw [settle_accepting, outstandingNow]
    exact ⟨drained.1, by omega⟩
  constructor
  · rw [settle_workers index moved held]
    simpa using books.workers
  · intro other member
    rw [settle_workers index moved held] at member
    rcases List.mem_or_eq_of_mem_set member with old | rfl
    · exact books.suits other old
    · exact move.suits
  · constructor
    · rw [settle_closers, settle_accepting]
      exact books.closed.refusing
    · intro closer member past
      rw [settle_closers] at member
      exact stays (books.closed.drained closer member past)
    · intro other member closing
      rw [settle_workers index moved held] at member
      rcases List.mem_or_eq_of_mem_set member with old | rfl
      · exact stays (books.closed.stopping other old closing)
      · exact stays (books.closed.stopping worker present (move.closing closing))
  · constructor
    · rw [submittedNow]
      simpa only [State.registrations, settle_calls] using books.counted.submitted
    · rw [outstandingNow]
      simp only [State.unsent, State.load, settle_calls, settle_workers index moved held]
      simp only [State.unsent] at outstanding
      omega
    · rw [submittedNow, outstandingNow]
      omega
    · simp only [State.unsent, State.load, State.acquiring, State.rollingBack,
        State.settling, settle_calls, settle_workers index moved held,
        settle_free index moved held]
      simp only [State.unsent, State.acquiring, State.rollingBack] at slots
      omega
    · rw [idleNow, outstandingNow]
  · constructor
    · intro position other now
      rw [settle_workers index moved held] at now
      rw [settle_entered, settle_outcomes, List.map_append]
      apply logged_moveWorker running books.logged.reported move.unreported _ position other now
      intro task member
      apply own_of_shard (books.logged.reported index worker running)
      rw [← move.unreported]
      exact List.mem_append_left _ member
    · intro position other now
      rw [settle_workers index moved held] at now
      rw [settle_entered, settle_commits, List.map_append]
      apply logged_moveWorker running books.logged.committed move.uncommitted _ position
        other now
      intro task member
      apply own_of_shard (books.logged.committed index worker running)
      rw [← move.uncommitted]
      exact List.mem_append_left _ member
  · constructor
    · rw [settle_entered]
      exact books.entered.distinct
    · intro task
      rw [settle_entered, settle_calls]
      exact books.entered.accepted task

end

/-! ## Steps of the closers -/

theorem Books.withClosers {accepting : Bool} {closers : List CloserPhase}
    (books : Books config state) (closed : Closed { state with accepting, closers }) :
    Books config { state with accepting, closers } :=
  ⟨books.workers, books.suits, closed,
    ⟨books.counted.submitted, books.counted.outstanding, books.counted.balance,
      books.counted.slots, books.counted.idle⟩,
    ⟨books.logged.reported, books.logged.committed⟩,
    ⟨books.entered.distinct, books.entered.accepted⟩⟩

theorem Books.moveCloser {phase next : CloserPhase} (books : Books config state)
    (occupied : state.closers[index]? = some phase) (begun : phase ≠ .requested)
    (past : next.pastIdle → phase.pastIdle ∨ state.idle = true) :
    Books config { state with closers := state.closers.set index next } := by
  have present := List.mem_of_getElem? occupied
  have refusing := books.closed.refusing phase present begun
  apply books.withClosers
  constructor
  · intro closer member started
    rcases List.mem_or_eq_of_mem_set member with old | rfl
    · exact books.closed.refusing closer old started
    · exact refusing
  · intro closer member reached
    rcases List.mem_or_eq_of_mem_set member with old | rfl
    · exact books.closed.drained closer old reached
    · rcases past reached with earlier | idle
      · exact books.closed.drained phase present earlier
      · refine ⟨refusing, ?_⟩
        rw [books.counted.idle] at idle
        exact of_decide_eq_true idle
  · exact books.closed.stopping

theorem Books.refuse (books : Books config state) :
    Books config { state with
      accepting := false
      closers := state.closers.set index .waiting } := by
  apply books.withClosers
  constructor
  · intro closer member started
    rfl
  · intro closer member reached
    rcases List.mem_or_eq_of_mem_set member with old | rfl
    · exact ⟨rfl, (books.closed.drained closer old reached).2⟩
    · cases reached
  · intro worker member closing
    exact ⟨rfl, (books.closed.stopping worker member closing).2⟩

theorem Books.putStop (books : Books config state)
    (running : state.workers[index]? = some worker)
    (drained : state.accepting = false ∧ state.outstanding = 0) :
    Books config { state with
      workers := state.workers.set index
        { worker with queue := worker.queue ++ [.stop] } } := by
  have load := total_set Worker.load running { worker with queue := worker.queue ++ [Item.stop] }
  have settling := total_set (fun worker => worker.phase.settling) running
    { worker with queue := worker.queue ++ [Item.stop] }
  have sameLoad : _ = worker.load := worker.load_put .stop
  have outstanding := books.counted.outstanding
  have slots := books.counted.slots
  simp only [State.load, State.settling] at outstanding slots settling
  constructor
  · simpa using books.workers
  · intro other present
    rcases List.mem_or_eq_of_mem_set present with old | rfl
    · exact books.suits other old
    · exact books.suits worker (List.mem_of_getElem? running)
  · constructor
    · exact books.closed.refusing
    · exact books.closed.drained
    · intro other present closing
      exact drained
  · constructor
    · exact books.counted.submitted
    · simp only [State.unsent, State.load]
      simp only [State.unsent] at outstanding
      omega
    · exact books.counted.balance
    · simp only [State.unsent, State.load, State.acquiring, State.rollingBack, State.settling]
      simp only [State.unsent, State.acquiring, State.rollingBack] at slots
      omega
    · exact books.counted.idle
  · exact books.logged.put _ .stop running fun position => by simp
  · exact ⟨books.entered.distinct, books.entered.accepted⟩

theorem Books.closer {phase : CloserPhase} {expired : Bool} (books : Books config state)
    (occupied : state.closers[index]? = some phase)
    (step : closerStep config state index phase expired = some next) :
    Books config next := by
  cases phase with
  | requested =>
    simp only [closerStep, Option.some.injEq] at step
    subst step
    exact books.refuse
  | waiting =>
    simp only [closerStep] at step
    split at step
    · cases step
      apply books.moveCloser occupied (by simp)
      simp [CloserPhase.pastIdle]
    · split at step
      · rename_i idle
        cases step
        exact books.moveCloser occupied (by simp) fun _ => .inr idle
      · cases step
  | surveying =>
    simp only [closerStep] at step
    split at step
    · cases step
      exact books.moveCloser occupied (by simp) fun _ => .inl trivial
    · split at step <;>
      · cases step
        exact books.moveCloser occupied (by simp) fun _ => .inl trivial
  | stopping position live =>
    simp only [closerStep] at step
    split at step
    · cases step
      exact books.moveCloser occupied (by simp) fun _ => .inl trivial
    · rename_i worker running
      split at step
      · split at step
        · cases step
          have drained := books.closed.drained _ (List.mem_of_getElem? occupied) trivial
          have moved : Books config { state with
              closers := state.closers.set index (.stopping (position + 1) live) } :=
            books.moveCloser occupied (by simp) fun _ => .inl trivial
          exact moved.putStop running drained
        · cases step
          apply books.moveCloser occupied (by simp)
          simp [CloserPhase.pastIdle]
      · cases step
        exact books.moveCloser occupied (by simp) fun _ => .inl trivial
  | joining =>
    simp only [closerStep] at step
    split at step
    · cases step
      exact books.moveCloser occupied (by simp) fun _ => .inl trivial
    · split at step
      · cases step
        apply books.moveCloser occupied (by simp)
        simp [CloserPhase.pastIdle]
      · cases step
  | returned => cases step

theorem Books.close (books : Books config state) :
    Books config { state with closers := state.closers ++ [.requested] } := by
  apply books.withClosers
  constructor
  · intro closer member started
    rcases List.mem_append.mp member with old | new
    · exact books.closed.refusing closer old started
    · rw [List.mem_singleton] at new
      exact absurd new started
  · intro closer member reached
    rcases List.mem_append.mp member with old | new
    · exact books.closed.drained closer old reached
    · rw [List.mem_singleton] at new
      rw [new] at reached
      cases reached
  · exact books.closed.stopping

/-! ## Every run -/

theorem Books.step {config : Config} {state next : State} {label : Label}
    (books : Books config state) (step : step config state label = some next) :
    Books config next := by
  cases label with
  | call request =>
    cases step
    exact books.call request
  | submit index raises =>
    simp only [Dispatcher.step] at step
    split at step
    · rename_i call occupied
      exact books.submit occupied step
    · cases step
  | work index raises =>
    simp only [Dispatcher.step] at step
    split at step
    · rename_i worker running
      split at step
      · rename_i moved effect stepped
        cases step
        exact books.work running stepped
      · cases step
    · cases step
  | close =>
    cases step
    exact books.close
  | closer index expired =>
    simp only [Dispatcher.step] at step
    split at step
    · rename_i phase occupied
      exact books.closer occupied step
    · cases step

theorem books_invariant (config : Config) : (machine config).Invariant (Books config) where
  initially := by
    intro state initial
    rw [initial]
    exact Books.initial config
  preserved := by
    intro current label next _ books step
    exact books.step step

end VideoAnalysis.Sink.Dispatcher
