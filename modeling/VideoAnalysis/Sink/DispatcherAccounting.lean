import VideoAnalysis.Sink.DispatcherBooks

/-! # Accounting and order of the dispatcher

The books hold in every reachable state. From them follow the counters, the
slots and the exactly-once reports; the logs only grow, which gives the commit
order; and a measure of the work left bounds how long a task stays unreported.
-/

namespace VideoAnalysis.Sink.Dispatcher

open Foundation (total total_set total_split total_cons)

/-! ## What a step keeps -/

variable {config : Config} {state next : State} {index : Nat}

theorem closerStep_logs {phase : CloserPhase} {expired : Bool}
    (step : closerStep config state index phase expired = some next) :
    next.calls = state.calls ∧ next.entered = state.entered ∧
      next.outcomes = state.outcomes ∧ next.commits = state.commits := by
  cases phase with
  | requested =>
    cases step
    exact ⟨rfl, rfl, rfl, rfl⟩
  | waiting =>
    simp only [closerStep] at step
    split at step
    · cases step
      exact ⟨rfl, rfl, rfl, rfl⟩
    · split at step
      · cases step
        exact ⟨rfl, rfl, rfl, rfl⟩
      · cases step
  | surveying =>
    simp only [closerStep] at step
    split at step
    · cases step
      exact ⟨rfl, rfl, rfl, rfl⟩
    · split at step <;>
      · cases step
        exact ⟨rfl, rfl, rfl, rfl⟩
  | stopping =>
    simp only [closerStep] at step
    split at step
    · cases step
      exact ⟨rfl, rfl, rfl, rfl⟩
    · split at step
      · split at step <;>
        · cases step
          exact ⟨rfl, rfl, rfl, rfl⟩
      · cases step
        exact ⟨rfl, rfl, rfl, rfl⟩
  | joining =>
    simp only [closerStep] at step
    split at step
    · cases step
      exact ⟨rfl, rfl, rfl, rfl⟩
    · split at step
      · cases step
        exact ⟨rfl, rfl, rfl, rfl⟩
      · cases step
  | returned => cases step

/-- What one step of a caller may do to its own call and to the logs. -/
structure CallMove (config : Config) (state next : State) (index : Nat) (call : Call) :
    Prop where
  phase : ∃ phase, next.calls = state.calls.set index { call with phase := phase } ∧
    (next.entered = state.entered ∨
      next.entered = state.entered ++ [taskOf config index call.request]) ∧
    (phase ≠ .accepted → next.entered = state.entered ∧ next.workers = state.workers ∧
      next.outstanding + call.phase.unsent = state.outstanding + phase.unsent ∧
      next.submittedTotal + call.phase.registrations =
        state.submittedTotal + phase.registrations ∧
      next.free + phase.unsent + phase.acquiring + phase.rollingBack =
        state.free + call.phase.unsent + call.phase.acquiring + call.phase.rollingBack)
  outcomes : next.outcomes = state.outcomes
  commits : next.commits = state.commits
  completed : next.completedTotal = state.completedTotal
  failed : next.failedTotal = state.failedTotal

variable {raises : Bool}

theorem submitStep_move {call : Call} (books : Books config state)
    (occupied : state.calls[index]? = some call)
    (step : submitStep config state index call raises = some next) :
    CallMove config state next index call := by
  have slots := books.counted.slots
  have acquiring := total_split (fun call => call.phase.acquiring) occupied
  have rollingBack := total_split (fun call => call.phase.rollingBack) occupied
  simp only [State.acquiring, State.rollingBack] at slots
  rcases call with ⟨request, phase⟩
  cases phase with
  | requested =>
    simp only [submitStep] at step
    split at step
    · cases step
      exact ⟨⟨.waiting, rfl, .inl rfl, fun _ => by simp [State.setCall]⟩, rfl, rfl, rfl, rfl⟩
    · cases step
      exact ⟨⟨.raised .closed, rfl, .inl rfl, fun _ => by simp [State.setCall]⟩,
        rfl, rfl, rfl, rfl⟩
  | waiting =>
    simp only [submitStep] at step
    split at step
    · cases step
      exact ⟨⟨.acquired, rfl, .inl rfl, fun _ => by simp [State.setCall]; omega⟩,
        rfl, rfl, rfl, rfl⟩
    · cases step
  | acquired =>
    simp only [submitStep] at step
    split at step
    · cases step
      exact ⟨⟨.registered, rfl, .inl rfl, fun _ => by simp [State.setCall]⟩,
        rfl, rfl, rfl, rfl⟩
    · split at step
      · cases step
        exact ⟨⟨.raised .closed, rfl, .inl rfl, fun _ => by simp [State.setCall]⟩,
          rfl, rfl, rfl, rfl⟩
      · rcases acquiring with ⟨_, split⟩
        rw [split] at slots
        simp at slots
        omega
  | registered =>
    simp only [submitStep] at step
    split at step
    · cases step
      exact ⟨⟨.putFailed, rfl, .inl rfl, fun _ => by simp [State.setCall]⟩,
        rfl, rfl, rfl, rfl⟩
    · split at step
      · rename_i put
        rcases putNowait_eq_some.mp put with ⟨_, _, -, rfl⟩
        cases step
        exact ⟨⟨.accepted, rfl, .inr rfl, fun differs => absurd rfl differs⟩,
          rfl, rfl, rfl, rfl⟩
      · cases step
        exact ⟨⟨.putFailed, rfl, .inl rfl, fun _ => by simp [State.setCall]⟩,
          rfl, rfl, rfl, rfl⟩
  | putFailed =>
    simp only [submitStep, Option.some.injEq] at step
    subst step
    exact ⟨⟨.releasing, rfl, .inl rfl, fun _ => by simp [State.setCall]⟩,
      rfl, rfl, rfl, rfl⟩
  | releasing =>
    simp only [submitStep] at step
    split at step
    · cases step
      exact ⟨⟨.raised .put, rfl, .inl rfl, fun _ => by simp [State.setCall]⟩,
        rfl, rfl, rfl, rfl⟩
    · rcases rollingBack with ⟨_, split⟩
      rw [split] at slots
      simp at slots
      omega
  | accepted | raised => cases step

variable {worker : Worker}

variable {effect : Effect}

theorem workerStep_reports {next : Worker}
    (step : workerStep config worker raises = some (next, effect)) :
    ∀ outcome ∈ effect.reports,
      outcome = Outcome.of { task := outcome.task, failed := outcome.failed } := by
  intro outcome member
  cases effect with
  | report =>
    simp only [Effect.reports, List.mem_singleton] at member
    subst member
    simp only [workerStep] at step
    (repeat' split at step) <;> simp at step
    rw [← step.2]
    rfl
  | _ => simp at member

/-- The history of the dispatcher only grows. -/
structure Grows (state next : State) : Prop where
  entered : state.entered <+: next.entered
  calls : ∀ (index : Nat) (call : Call), state.calls[index]? = some call →
    ∃ phase, next.calls[index]? = some { call with phase := phase }

theorem Grows.refl (state : State) : Grows state state where
  entered := List.prefix_rfl
  calls := fun _ call found => ⟨call.phase, found⟩

theorem Grows.trans {first second third : State} (left : Grows first second)
    (right : Grows second third) : Grows first third where
  entered := left.entered.trans right.entered
  calls := by
    intro index call found
    rcases left.calls index call found with ⟨_, foundMiddle⟩
    rcases right.calls index _ foundMiddle with ⟨last, foundLast⟩
    exact ⟨last, foundLast⟩

theorem CallMove.grows {call : Call} (move : CallMove config state next index call)
    (occupied : state.calls[index]? = some call) : Grows state next := by
  rcases move.phase with ⟨phase, calls, entered, -⟩
  constructor
  · rcases entered with same | put
    · exact ⟨[], by rw [List.append_nil, same]⟩
    · rw [put]
      exact List.prefix_append _ _
  · intro position other found
    rw [calls]
    by_cases same : index = position
    · subst same
      rw [occupied, Option.some.injEq] at found
      subst found
      exact ⟨phase, by rw [List.getElem?_set_self (List.getElem?_eq_some_iff.mp occupied).1]⟩
    · exact ⟨other.phase, by rw [List.getElem?_set_ne same]; exact found⟩

theorem step_grows {label : Label} (books : Books config state)
    (step : step config state label = some next) :
    Grows state next := by
  cases label with
  | call =>
    cases step
    constructor
    · exact List.prefix_rfl
    · intro index call found
      have bound := (List.getElem?_eq_some_iff.mp found).1
      exact ⟨call.phase, by rw [List.getElem?_append_left bound]; exact found⟩
  | submit index raises =>
    simp only [Dispatcher.step] at step
    split at step
    · rename_i call occupied
      exact (submitStep_move books occupied step).grows occupied
    · cases step
  | work =>
    simp only [Dispatcher.step] at step
    split at step
    · split at step
      · cases step
        constructor
        · exact ⟨[], by rw [List.append_nil, settle_entered]⟩
        · intro position call found
          exact ⟨call.phase, by rw [settle_calls]; exact found⟩
      · cases step
    · cases step
  | close =>
    cases step
    exact ⟨List.prefix_rfl, fun _ call found => ⟨call.phase, found⟩⟩
  | closer =>
    simp only [Dispatcher.step] at step
    split at step
    · rcases closerStep_logs step with ⟨calls, entered, -⟩
      constructor
      · exact ⟨[], by rw [List.append_nil, entered]⟩
      · intro position call found
        exact ⟨call.phase, by rw [calls]; exact found⟩
    · cases step

variable {final : State} {labels : List Label}

theorem run_grows (reached : (machine config).Reachable state)
    (ran : (machine config).run state labels = some final) : Grows state final := by
  apply (machine config).run_relation Grows.refl (fun _ _ _ => Grows.trans) _ reached ran
  intro current label next currentReached step
  exact step_grows ((books_invariant config).holds currentReached) step

/-- Every report calls the one callback that its outcome selects, and every log
entry is about a task that was put. -/
structure Recorded (state : State) : Prop where
  selected : ∀ outcome ∈ state.outcomes,
    outcome = Outcome.of { task := outcome.task, failed := outcome.failed }
  reported : ∀ outcome ∈ state.outcomes, outcome.task ∈ state.entered
  committed : ∀ turn ∈ state.commits, turn.task ∈ state.entered

theorem Recorded.of_same (recorded : Recorded state) (grows : Grows state next)
    (outcomes : next.outcomes = state.outcomes) (commits : next.commits = state.commits) :
    Recorded next where
  selected := by
    rw [outcomes]
    exact recorded.selected
  reported := by
    rw [outcomes]
    intro outcome member
    exact grows.entered.subset (recorded.reported outcome member)
  committed := by
    rw [commits]
    intro turn member
    exact grows.entered.subset (recorded.committed turn member)

theorem Recorded.work {moved : Worker} (recorded : Recorded state)
    (books : Books config state) (running : state.workers[index]? = some worker)
    (step : workerStep config worker raises = some (moved, effect)) :
    Recorded (settle config state index moved effect) := by
  have move := books.move running step
  constructor
  · rw [settle_outcomes]
    intro outcome member
    rcases List.mem_append.mp member with old | new
    · exact recorded.selected outcome old
    · exact workerStep_reports step outcome new
  · rw [settle_outcomes, settle_entered]
    intro outcome member
    rcases List.mem_append.mp member with old | new
    · exact recorded.reported outcome old
    · have pending : outcome.task ∈ worker.unreported := by
        rw [← move.unreported]
        exact List.mem_append_left _ (List.mem_map_of_mem new)
      have inShard : outcome.task ∈ shard index state.entered := by
        rw [books.logged.reported index worker running]
        exact List.mem_append_right _ pending
      exact (List.mem_filter.mp inShard).1
  · rw [settle_commits, settle_entered]
    intro turn member
    rcases List.mem_append.mp member with old | new
    · exact recorded.committed turn old
    · have pending : turn.task ∈ worker.uncommitted config.grouped := by
        rw [← move.uncommitted]
        exact List.mem_append_left _ (List.mem_map_of_mem new)
      have inShard : turn.task ∈ shard index state.entered := by
        rw [books.logged.committed index worker running]
        exact List.mem_append_right _ pending
      exact (List.mem_filter.mp inShard).1

theorem recorded_invariant (config : Config) : (machine config).Invariant Recorded where
  initially := by
    intro state initial
    rw [initial]
    constructor <;> simp [initialState]
  preserved := by
    intro current label next reached recorded step
    have books := (books_invariant config).holds reached
    have grows := step_grows books step
    cases label with
    | call =>
      cases step
      exact recorded.of_same grows rfl rfl
    | submit index raises =>
      simp only [machine, Dispatcher.step] at step
      split at step
      · rename_i call occupied
        have move := submitStep_move books occupied step
        exact recorded.of_same grows move.outcomes move.commits
      · cases step
    | work index raises =>
      simp only [machine, Dispatcher.step] at step
      split at step
      · rename_i worker running
        split at step
        · rename_i moved effect stepped
          cases step
          exact recorded.work books running stepped
        · cases step
      · cases step
    | close =>
      cases step
      exact recorded.of_same grows rfl rfl
    | closer =>
      simp only [machine, Dispatcher.step] at step
      split at step
      · rcases closerStep_logs step with ⟨-, -, outcomes, commits⟩
        exact recorded.of_same grows outcomes commits
      · cases step

/-! ## The work left -/

/-- A bound on the steps the worker takes until it waits on an empty queue. -/
def WorkerPhase.remaining : WorkerPhase → Nat
  | .waiting | .stopped | .crashed => 0
  | .gathering group => 8 * group.length + 8
  | .activating group => 8 * group.length + 7
  | .staging done todo => todo.length + 7 * (done.length + todo.length) + 6
  | .replacing done todo => todo.length + 6 * (done.length + todo.length) + 5
  | .fencing works parents => parents.length + 5 * works.length + 4
  | .journaling done todo => todo.length + 4 * (done.length + todo.length) + 3
  | .committing works => 4 * works.length + 2
  | .reporting _ rest => 4 * rest.length + 5
  | .accounting _ _ rest => 4 * rest.length + 4
  | .releasing rest => 4 * rest.length + 3
  | .retiring => 1

def Worker.remaining (worker : Worker) : Nat :=
  worker.phase.remaining + 17 * worker.queue.length

def State.remaining (state : State) : Nat := total Worker.remaining state.workers

theorem length_eraseDups_le {Element : Type*} [BEq Element] (elements : List Element) :
    elements.eraseDups.length ≤ elements.length := by
  match elements with
  | [] => simp
  | element :: elements =>
    rw [List.eraseDups_cons]
    have filtered := List.length_filter_le (fun other => !other == element) elements
    have rest := length_eraseDups_le (elements.filter fun other => !other == element)
    simp only [List.length_cons]
    omega
termination_by elements.length
decreasing_by exact Nat.lt_succ_of_le (List.length_filter_le _ elements)

theorem length_fencedParents_le (works : List Work) :
    (fencedParents works).length ≤ works.length := by
  have distinct := length_eraseDups_le
    ((works.filter fun work => !work.failed).map fun work => work.task.request.finalParent)
  have filtered := List.length_filter_le (fun work : Work => !work.failed) works
  simp only [List.length_map] at distinct
  simp only [fencedParents]
  omega

theorem workerStep_remaining {next : Worker}
    (step : workerStep config worker raises = some (next, effect)) :
    next.remaining < worker.remaining := by
  rcases worker with ⟨queue, phase⟩
  simp only [workerStep] at step
  repeat' split at step
  all_goals cases step
  all_goals simp [Worker.remaining, WorkerPhase.remaining]
  all_goals try omega
  next done =>
    have fewer := length_fencedParents_le done
    omega

theorem work_remaining (books : Books config state)
    (step : step config state (.work index raises) = some next) :
    next.remaining < state.remaining := by
  simp only [Dispatcher.step] at step
  split at step
  · rename_i worker running
    split at step
    · rename_i moved effect stepped
      cases step
      have less := workerStep_remaining stepped
      have sum := total_set Worker.remaining running moved
      simp only [State.remaining, settle_workers index moved (books.held running stepped)]
      omega
    · cases step
  · cases step

theorem run_remaining (books : Books config state)
    (ran : (machine config).run state labels = some final)
    (workers : ∀ label ∈ labels, ∃ index raises, label = .work index raises) :
    labels.length + final.remaining ≤ state.remaining := by
  induction labels generalizing state with
  | nil =>
    simp only [Foundation.Machine.run_nil, Option.some.injEq] at ran
    simp [ran]
  | cons label _ induction =>
    rcases (machine config).run_cons_eq_some.mp ran with ⟨middle, step, rest⟩
    rcases workers label (by simp) with ⟨index, raises, rfl⟩
    have stepped : Dispatcher.step config state (.work index raises) = some middle := step
    have less := work_remaining books stepped
    have later := induction (books.step stepped) rest
      (fun label member => workers label (by simp [member]))
    simp only [List.length_cons]
    omega

theorem workerStep_enabled (config : Config) (alive : worker.alive = true)
    (busy : worker.load ≠ 0) (raises : Bool) :
    ∃ next effect, workerStep config worker raises = some (next, effect) := by
  rcases worker with ⟨queue, phase⟩
  cases phase with
  | waiting =>
    cases queue with
    | nil => simp [Worker.load] at busy
    | cons item =>
      cases item with
      | stop | task => exact ⟨_, _, rfl⟩
  | gathering =>
    simp only [workerStep]
    split
    · split <;> exact ⟨_, _, rfl⟩
    · exact ⟨_, _, rfl⟩
  | staging _ todo =>
    cases todo with
    | nil =>
      simp only [workerStep]
      split <;> exact ⟨_, _, rfl⟩
    | cons => exact ⟨_, _, rfl⟩
  | replacing _ todo =>
    cases todo with
    | nil | cons => exact ⟨_, _, rfl⟩
  | fencing _ parents =>
    cases parents with
    | nil | cons => exact ⟨_, _, rfl⟩
  | journaling _ todo =>
    cases todo with
    | nil | cons => exact ⟨_, _, rfl⟩
  | committing works =>
    cases works with
    | nil => exact ⟨_, _, rfl⟩
    | cons =>
      simp only [workerStep]
      split <;> exact ⟨_, _, rfl⟩
  | stopped | crashed => simp [Worker.alive] at alive
  | _ => exact ⟨_, _, rfl⟩

/-! ## What the books say about the callers -/

def State.acceptedCall (state : State) (index : Nat) (request : Request) : Prop :=
  state.calls[index]? = some { request := request, phase := .accepted }

def State.reported (state : State) (index : Nat) : Prop :=
  ∃ outcome ∈ state.outcomes, outcome.task.call = index

/-- The calls of one source in the order in which their tasks were put. -/
def State.enteredOf (state : State) (sourceId : String) : List Nat :=
  (state.entered.filter fun task => decide (task.request.sourceId = sourceId)).map Task.call

/-- The calls of one source in the order of their commit turns. -/
def State.committedOf (state : State) (sourceId : String) : List Nat :=
  (state.commits.filter fun turn => decide (turn.task.request.sourceId = sourceId)).map
    fun turn => turn.task.call

variable {request : Request}

theorem Books.mem_entered (books : Books config state) :
    taskOf config index request ∈ state.entered ↔ state.acceptedCall index request := by
  rw [books.entered.accepted]
  constructor
  · rintro ⟨call, found, accepted, same⟩
    have sameRequest : request = call.request := congrArg Task.request same
    rcases call with ⟨callRequest, phase⟩
    simp only at accepted sameRequest
    subst accepted sameRequest
    exact found
  · intro accepted
    exact ⟨_, accepted, rfl, rfl⟩

theorem Books.task_eq (books : Books config state) {task : Task} (member : task ∈ state.entered) :
    task = taskOf config task.call task.request := by
  rcases (books.entered.accepted task).mp member with ⟨call, -, -, same⟩
  have sameRequest : task.request = call.request := congrArg Task.request same
  rw [sameRequest]
  exact same

theorem Books.call_lt (books : Books config state) {task : Task} (member : task ∈ state.entered) :
    task.call < state.calls.length := by
  rcases (books.entered.accepted task).mp member with ⟨_, found, -, -⟩
  exact (List.getElem?_eq_some_iff.mp found).1

theorem unreported_length_le (phase : WorkerPhase) :
    phase.unreported.length ≤ phase.hand.length := by
  cases phase with
  | accounting => simp
  | _ => exact Nat.le_refl _

theorem Books.worker_of (books : Books config state) (sourceId : String) :
    ∃ worker, state.workers[config.workerIndex sourceId]? = some worker := by
  have bound := config.workerIndex_lt sourceId
  rw [← books.workers] at bound
  exact ⟨_, List.getElem?_eq_getElem bound⟩

theorem Books.reported_or_busy (books : Books config state)
    (accepted : state.acceptedCall index request) :
    state.reported index ∨ ∃ worker,
      state.workers[config.workerIndex request.sourceId]? = some worker ∧
        worker.load ≠ 0 := by
  rcases books.worker_of request.sourceId with ⟨worker, running⟩
  have member := books.mem_entered.mpr accepted
  have inShard : taskOf config index request ∈
      shard (config.workerIndex request.sourceId) state.entered :=
    List.mem_filter.mpr ⟨member, by simp [taskOf]⟩
  rw [books.logged.reported _ worker running] at inShard
  rcases List.mem_append.mp inShard with logged | pending
  · rcases List.mem_map.mp (List.mem_filter.mp logged).1 with ⟨outcome, present, same⟩
    exact .inl ⟨outcome, present, by rw [same]; rfl⟩
  · refine .inr ⟨worker, running, ?_⟩
    have nonempty := List.length_pos_of_mem pending
    have fewer := unreported_length_le worker.phase
    simp only [Worker.unreported, List.length_append] at nonempty
    simp only [Worker.load]
    omega

theorem Books.load_le (books : Books config state)
    (running : state.workers[index]? = some worker) :
    (worker.load : Int) ≤ state.outstanding := by
  have outstanding := books.counted.outstanding
  rcases total_split Worker.load running with ⟨_, split⟩
  simp only [State.load, split] at outstanding
  omega

theorem Books.alive_of_busy (books : Books config state)
    (running : state.workers[index]? = some worker) (busy : worker.load ≠ 0) :
    worker.alive = true := by
  cases alive : worker.alive with
  | true => rfl
  | false =>
    have drained := books.closed.stopping worker (List.mem_of_getElem? running) (.inl alive)
    have load := books.load_le running
    omega

theorem filter_shard {tasks : List Task} (sourceId : String)
    (shaped : ∀ task ∈ tasks, task = taskOf config task.call task.request) :
    (shard (config.workerIndex sourceId) tasks).filter
        (fun task => decide (task.request.sourceId = sourceId)) =
      tasks.filter fun task => decide (task.request.sourceId = sourceId) := by
  simp only [shard, List.filter_filter]
  apply List.filter_congr
  intro task member
  by_cases same : task.request.sourceId = sourceId
  · have index : task.workerIndex = config.workerIndex task.request.sourceId := by
      rw [shaped task member]
      rfl
    simp [same, index]
  · simp [same]

theorem Books.committedOf_prefix (books : Books config state) (recorded : Recorded state)
    (sourceId : String) :
    state.committedOf sourceId <+: state.enteredOf sourceId := by
  rcases books.worker_of sourceId with ⟨worker, running⟩
  have logged := books.logged.committed _ worker running
  have turns : ∀ task ∈ state.commits.map CommitTurn.task,
      task = taskOf config task.call task.request := by
    intro task member
    rcases List.mem_map.mp member with ⟨turn, present, rfl⟩
    exact books.task_eq (recorded.committed turn present)
  have filtered := congrArg
    (List.filter fun task => decide (task.request.sourceId = sourceId)) logged
  rw [List.filter_append, filter_shard sourceId fun task member => books.task_eq member,
    filter_shard sourceId turns] at filtered
  have committed : state.committedOf sourceId =
      ((state.commits.map CommitTurn.task).filter
        fun task => decide (task.request.sourceId = sourceId)).map Task.call := by
    simp only [State.committedOf, List.filter_map, List.map_map]
    rfl
  rw [committed, State.enteredOf, filtered, List.map_append]
  exact List.prefix_append _ _

theorem Books.outcomes_nodup (books : Books config state) (recorded : Recorded state) :
    (state.outcomes.map fun outcome => outcome.task.call).Nodup := by
  have distinctTasks : state.entered.Nodup := books.entered.distinct.of_map
  have once : (state.outcomes.map Outcome.task).Nodup := by
    rw [List.nodup_iff_count_le_one]
    intro task
    by_cases member : task ∈ state.outcomes.map Outcome.task
    · rcases List.mem_map.mp member with ⟨outcome, present, same⟩
      have entered : task ∈ state.entered := same ▸ recorded.reported outcome present
      have index : task.workerIndex = config.workerIndex task.request.sourceId := by
        rw [books.task_eq entered]
        rfl
      rcases books.worker_of task.request.sourceId with ⟨worker, running⟩
      have logged := books.logged.reported _ worker running
      have counted := congrArg (List.count task) logged
      simp only [shard, List.count_append] at counted
      rw [List.count_filter (by simp [index]), List.count_filter (by simp [index])] at counted
      have atMost := List.nodup_iff_count_le_one.mp distinctTasks task
      omega
    · rw [List.count_eq_zero_of_not_mem member]
      exact Nat.zero_le 1
  have mapped := once.map_on (f := Task.call) (by
    intro first firstMember second secondMember same
    rcases List.mem_map.mp firstMember with ⟨_, firstPresent, rfl⟩
    rcases List.mem_map.mp secondMember with ⟨_, secondPresent, rfl⟩
    exact List.inj_on_of_nodup_map books.entered.distinct
      (recorded.reported _ firstPresent) (recorded.reported _ secondPresent) same)
  rw [List.map_map] at mapped
  exact mapped

/-! ## Raising submits -/

theorem raised_restores {call last : Call} (books : Books config state)
    (ran : (machine config).run state labels = some final)
    (alone : ∀ label ∈ labels, ∃ raises, label = .submit index raises)
    (occupied : state.calls[index]? = some call) (occupiedLast : final.calls[index]? = some last)
    (refused : last.phase ≠ .accepted) :
    final.outstanding + call.phase.unsent = state.outstanding + last.phase.unsent ∧
      final.submittedTotal + call.phase.registrations =
        state.submittedTotal + last.phase.registrations ∧
      final.free + last.phase.unsent + last.phase.acquiring + last.phase.rollingBack =
        state.free + call.phase.unsent + call.phase.acquiring + call.phase.rollingBack ∧
      final.completedTotal = state.completedTotal ∧ final.failedTotal = state.failedTotal ∧
      final.workers = state.workers := by
  induction labels generalizing state call with
  | nil =>
    simp only [Foundation.Machine.run_nil, Option.some.injEq] at ran
    subst ran
    rw [occupied, Option.some.injEq] at occupiedLast
    subst occupiedLast
    exact ⟨rfl, rfl, rfl, rfl, rfl, rfl⟩
  | cons label labels induction =>
    rcases (machine config).run_cons_eq_some.mp ran with ⟨middle, step, rest⟩
    rcases alone label (by simp) with ⟨raises, rfl⟩
    have stepped : Dispatcher.step config state (.submit index raises) = some middle := step
    have nextBooks := books.step stepped
    simp only [Dispatcher.step, occupied] at stepped
    have move := submitStep_move books occupied stepped
    rcases move.phase with ⟨phase, calls, -, shares⟩
    have bound := (List.getElem?_eq_some_iff.mp occupied).1
    have occupiedMiddle : middle.calls[index]? = some { call with phase := phase } := by
      rw [calls, List.getElem?_set_self bound]
    have laterAlone : ∀ label ∈ labels, ∃ raises, label = .submit index raises :=
      fun label member => alone label (by simp [member])
    have unaccepted : phase ≠ .accepted := by
      intro accepted
      subst accepted
      cases labels with
      | nil =>
        simp only [Foundation.Machine.run_nil, Option.some.injEq] at rest
        subst rest
        rw [occupiedMiddle, Option.some.injEq] at occupiedLast
        subst occupiedLast
        exact refused rfl
      | cons label =>
        rcases (machine config).run_cons_eq_some.mp rest with ⟨after, stuck, -⟩
        rcases laterAlone label (by simp) with ⟨again, rfl⟩
        have impossible :
            Dispatcher.step config middle (.submit index again) = some after := stuck
        simp only [Dispatcher.step, occupiedMiddle, submitStep] at impossible
        cases impossible
    rcases shares unaccepted with ⟨-, workers, _⟩
    rcases induction nextBooks rest laterAlone occupiedMiddle with
      ⟨outstandingLater, submittedLater, slotsLater, completedLater, failedLater, workersLater⟩
    simp only at outstandingLater submittedLater slotsLater
    refine ⟨by omega, by omega, by omega, ?_, ?_, ?_⟩
    · rw [completedLater, move.completed]
    · rw [failedLater, move.failed]
    · rw [workersLater, workers]

/-! ## The account of every run -/

def State.held (config : Config) (state : State) : Int := config.capacity - state.free

structure Accounted (config : Config) (state : State) : Prop where
  outstanding : state.outstanding =
    state.submittedTotal - state.completedTotal - state.failedTotal
  bounded : state.outstanding ≤ config.capacity
  registered : state.submittedTotal = state.registrations
  slots : state.held config =
    state.outstanding + state.acquiring + (state.rollingBack + state.settling)
  reportedOnce : (state.outcomes.map fun outcome => outcome.task.call).Nodup
  reportedAccepted : ∀ outcome ∈ state.outcomes,
    state.acceptedCall outcome.task.call outcome.task.request
  selected : ∀ outcome ∈ state.outcomes,
    outcome = Outcome.of { task := outcome.task, failed := outcome.failed }
  pending : ∀ index request, state.acceptedCall index request →
    state.reported index ∨
      ∀ raises, ∃ next,
        step config state (.work (config.workerIndex request.sourceId) raises) = some next
  ordered : ∀ sourceId, state.committedOf sourceId <+: state.enteredOf sourceId
  closed : .returned true ∈ state.closers →
    state.outstanding = 0 ∧
      ∀ index request, state.acceptedCall index request → state.reported index

/-- What a run from a reachable state adds. -/
structure Continued (config : Config) (state : State) (labels : List Label)
    (final : State) : Prop where
  ordered : ∀ sourceId first request second, request.sourceId = sourceId →
    state.acceptedCall first request → state.calls.length ≤ second →
    second ∈ final.committedOf sourceId →
    List.Sublist [first, second] (final.committedOf sourceId)
  restored : ∀ index request error,
    (∀ label ∈ labels, ∃ raises, label = .submit index raises) →
    state.calls[index]? = some { request := request, phase := .requested } →
    final.calls[index]? = some { request := request, phase := .raised error } →
    final.outstanding = state.outstanding ∧ final.submittedTotal = state.submittedTotal ∧
      final.completedTotal = state.completedTotal ∧ final.failedTotal = state.failedTotal ∧
      final.idle = state.idle ∧ final.free = state.free ∧ final.workers = state.workers
  drains : (∀ label ∈ labels, ∃ index raises, label = .work index raises) →
    labels.length + final.remaining ≤ state.remaining

theorem Books.accounted (books : Books config state) (recorded : Recorded state) :
    Accounted config state where
  outstanding := by
    have balance := books.counted.balance
    omega
  bounded := by
    have outstanding := books.counted.outstanding
    have slots := books.counted.slots
    omega
  registered := books.counted.submitted
  slots := by
    have outstanding := books.counted.outstanding
    have slots := books.counted.slots
    simp only [State.held]
    omega
  reportedOnce := books.outcomes_nodup recorded
  reportedAccepted := by
    intro outcome member
    have entered := recorded.reported outcome member
    rw [books.task_eq entered] at entered
    exact books.mem_entered.mp entered
  selected := recorded.selected
  pending := by
    intro index request accepted
    rcases books.reported_or_busy accepted with reported | ⟨worker, running, busy⟩
    · exact .inl reported
    · right
      intro raises
      have alive := books.alive_of_busy running busy
      rcases workerStep_enabled config alive busy raises with ⟨next, effect, step⟩
      exact ⟨settle config state (config.workerIndex request.sourceId) next effect, by
        simp only [Dispatcher.step, running, step]⟩
  ordered := books.committedOf_prefix recorded
  closed := by
    intro returned
    have drained := (books.closed.drained _ returned trivial).2
    refine ⟨drained, ?_⟩
    intro index request accepted
    rcases books.reported_or_busy accepted with reported | ⟨worker, running, busy⟩
    · exact reported
    · have load := books.load_le running
      omega

theorem pair_sublist_of_prefix {Element : Type*} {first second : Element}
    {log earlier later : List Element} (isPrefix : log <+: earlier ++ later)
    (firstEarlier : first ∈ earlier) (secondLogged : second ∈ log)
    (secondLater : second ∉ earlier) : List.Sublist [first, second] log := by
  rcases List.prefix_or_prefix_of_prefix isPrefix (List.prefix_append earlier later) with
    short | long
  · exact absurd (short.subset secondLogged) secondLater
  · rcases long with ⟨rest, rfl⟩
    have inRest : second ∈ rest := by
      rcases List.mem_append.mp secondLogged with early | late
      · exact absurd early secondLater
      · exact late
    exact (List.singleton_sublist.mpr firstEarlier).append (List.singleton_sublist.mpr inRest)

theorem Books.ordered_calls (books : Books config state) (finalBooks : Books config final)
    (recorded : Recorded final) (grows : Grows state final) {first second : Nat}
    (accepted : state.acceptedCall first request) (later : state.calls.length ≤ second)
    (committed : second ∈ final.committedOf request.sourceId) :
    List.Sublist [first, second] (final.committedOf request.sourceId) := by
  have order := finalBooks.committedOf_prefix recorded request.sourceId
  rcases grows.entered with ⟨_, entered⟩
  simp only [State.enteredOf, ← entered, List.filter_append, List.map_append] at order
  apply pair_sublist_of_prefix order
  · apply List.mem_map.mpr
    refine ⟨taskOf config first request, ?_, rfl⟩
    exact List.mem_filter.mpr ⟨books.mem_entered.mpr accepted, by simp [taskOf]⟩
  · exact committed
  · intro early
    rcases List.mem_map.mp early with ⟨_, member, rfl⟩
    have bound := books.call_lt (List.mem_filter.mp member).1
    omega

theorem Books.continued (books : Books config state) (finalBooks : Books config final)
    (recorded : Recorded final) (grows : Grows state final)
    (ran : (machine config).run state labels = some final) :
    Continued config state labels final where
  ordered := by
    intro sourceId first request second same accepted later committed
    subst same
    exact books.ordered_calls finalBooks recorded grows accepted later committed
  restored := by
    intro index request error alone occupied occupiedLast
    have restored := raised_restores books ran alone occupied occupiedLast (by simp)
    simp only [CallPhase.unsent, CallPhase.registrations, CallPhase.acquiring,
      CallPhase.rollingBack] at restored
    rcases restored with ⟨_, _, _, completed, failed, workers⟩
    have sameOutstanding : final.outstanding = state.outstanding := by omega
    refine ⟨sameOutstanding, by omega, completed, failed, ?_, by omega, workers⟩
    rw [finalBooks.counted.idle, books.counted.idle, sameOutstanding]
  drains := run_remaining books ran

/-- Counters, slots, reports and commit order of the dispatcher in every
interleaving. -/
theorem dispatcher_accounts (config : Config) {state : State}
    (reached : (machine config).Reachable state) :
    Accounted config state ∧
      ∀ labels final, (machine config).run state labels = some final →
        Continued config state labels final := by
  have books := (books_invariant config).holds reached
  refine ⟨books.accounted ((recorded_invariant config).holds reached), ?_⟩
  intro labels final ran
  have reachedFinal := reached.run ran
  exact books.continued ((books_invariant config).holds reachedFinal)
    ((recorded_invariant config).holds reachedFinal) (run_grows reached ran) ran

/-! ## One publication -/

def singleSlot : Config where
  capacity := 1
  prepareGroupLimit := 1
  finalParentGroupLimit := 1
  workerCount := 1
  capacityPos := by decide
  workerCountPos := by decide
  groupedPreparesSingly := by decide
  groupedHasOneWorker := by decide

def cameraRequest : Request where
  sourceId := "cam-1"
  finalParent := "segments"
  phased := true
  splitPublication := true
  onPublished := true
  onPublishError := true

/-- One task is submitted and published up to the state-lock section that takes it
off the outstanding count. -/
def publishedLabels : List Label :=
  [.call cameraRequest, .submit 0 false, .submit 0 false, .submit 0 false, .submit 0 false,
    .work 0 false, .work 0 false, .work 0 false, .work 0 false, .work 0 false,
    .work 0 false, .work 0 false, .work 0 false]

def publishedState : State :=
  ((machine singleSlot).run (initialState singleSlot) publishedLabels).getD
    (initialState singleSlot)

theorem publishedState_run :
    (machine singleSlot).run (initialState singleSlot) publishedLabels =
      some publishedState := by
  decide +kernel

theorem publishedState_accounts :
    (machine singleSlot).Reachable publishedState ∧
      Accounted singleSlot publishedState ∧
      ∀ labels final, (machine singleSlot).run publishedState labels = some final →
        Continued singleSlot publishedState labels final := by
  have reached : (machine singleSlot).Reachable publishedState :=
    Foundation.Machine.Reachable.run (.start rfl) publishedState_run
  exact ⟨reached, dispatcher_accounts singleSlot reached⟩

/-- The worker took its task off the outstanding count and still holds its slot,
with no submitter between `acquire` and registration. -/
theorem settlingWorker_holds_slot :
    ∃ state, (machine singleSlot).Reachable state ∧
      state.held singleSlot ≠ state.outstanding + state.acquiring := by
  refine ⟨publishedState, Foundation.Machine.Reachable.run (.start rfl) publishedState_run, ?_⟩
  decide +kernel

end VideoAnalysis.Sink.Dispatcher
