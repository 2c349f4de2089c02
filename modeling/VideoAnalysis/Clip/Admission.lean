import VideoAnalysis.Clip.ReplayFence

/-! # Admission limits

Any number of workers call `try_acquire_fenced_replay_slot` on one table. A call
reads the snapshot of its statement's start, waits for the advisory lock inside the
statement, and re-reads only the row it writes.
-/

namespace VideoAnalysis.Clip

open Foundation Lifecycle

/-- The limits of one call; zero means no limit. -/
structure AdmissionLimits where
  maxGlobal : Nat
  maxPerShard : Nat
  maxPerSource : Nat

/-- `COALESCE(replay_source_id, source_id)`. -/
def ClipTask.source (task : ClipTask) : Option String :=
  task.lifecycle.replaySourceId <|> task.lifecycle.sourceId

def ClipTask.countsAt (now : Int) (task : ClipTask) : Bool :=
  decide (task.slot.status = .active ∧ ¬columnLe task.slot.deadlineAt now)

def countIn (scope : ClipTask → Bool) (now : Int) (rows : List ClipTask) : Nat :=
  rows.countP fun task => task.countsAt now && scope task

def everywhere (_ : ClipTask) : Bool := true

def onShard (shardId : String) (task : ClipTask) : Bool :=
  decide (task.slot.shardId = some shardId)

def ofSource (sourceId : String) (task : ClipTask) : Bool :=
  decide (task.source = some sourceId)

structure AdmissionCall where
  eventId : String
  request : AcquireRequest
  now : Int
  snapshot : List ClipTask
  deriving DecidableEq

def reaches (limit count : Nat) : Bool := decide (0 < limit ∧ limit ≤ count)

def capacityReason (limits : AdmissionLimits) (call : AdmissionCall) : Option CapacityLimit :=
  if reaches limits.maxGlobal (countIn everywhere call.now call.snapshot) then
    some .total
  else if reaches limits.maxPerShard
      (countIn (onShard call.request.shardId) call.now call.snapshot) then
    some .perShard
  else if reaches limits.maxPerSource
      (countIn (ofSource call.request.sourceId) call.now call.snapshot) then
    some .perSource
  else none

def isTarget (eventId : String) (task : ClipTask) : Bool :=
  decide (task.lifecycle.eventId = eventId)

def updateRow (rows : List ClipTask) (eventId : String) (write : ClipTask → ClipTask) :
    List ClipTask :=
  match rows.findIdx? (isTarget eventId) with
  | some index => rows.modify index write
  | none => rows

def admittedTask (limits : AdmissionLimits) (call : AdmissionCall) (task : ClipTask) :
    ClipTask :=
  (acquireSlot call.now { task := some task, event := none } call.request
    (capacityReason limits call)).1.task.getD task

def applyAdmission (limits : AdmissionLimits) (rows : List ClipTask) (call : AdmissionCall) :
    List ClipTask :=
  if call.snapshot.any (isTarget call.eventId) then
    updateRow rows call.eventId (admittedTask limits call)
  else rows

def timedOutTask (now : Int) (task : ClipTask) : ClipTask :=
  (releaseTimedOut now { task := some task, event := none }).task.getD task

/-- `release_replay_slot`. -/
def releasedTask (reason : String) (task : ClipTask) : ClipTask :=
  if task.slot.status = .active then
    { task with slot := { task.slot with status := .released, releaseReason := some reason } }
  else task

inductive AdmissionPhase
  | idle
  | waiting (call : AdmissionCall)
  | holding (call : AdmissionCall)
  deriving DecidableEq

def AdmissionPhase.call : AdmissionPhase → Option AdmissionCall
  | .idle => none
  | .waiting call | .holding call => some call

def AdmissionPhase.holds : AdmissionPhase → Bool
  | .holding _ => true
  | _ => false

structure AdmissionWorld where
  clock : Int
  rows : List ClipTask
  workers : List AdmissionPhase

inductive AdmissionLabel
  | tick (elapsed : Nat)
  | insert (task : ClipTask)
  | start (worker : Nat) (eventId : String) (request : AcquireRequest)
  | lock (worker : Nat)
  | finish (worker : Nat)
  | crash (worker : Nat)
  | timeOut (age : Nat)
  | release (eventId reason : String)

def admissionStep (limits : AdmissionLimits) (world : AdmissionWorld) :
    AdmissionLabel → Option AdmissionWorld
  | .tick elapsed => some { world with clock := world.clock + elapsed }
  | .insert task =>
    if task.slot.status = .absent ∧ !world.rows.any (isTarget task.lifecycle.eventId) then
      some { world with rows := world.rows ++ [task] }
    else none
  | .start worker eventId request =>
    match world.workers[worker]? with
    | some .idle => some { world with
        workers := world.workers.set worker
          (.waiting { eventId, request, now := world.clock, snapshot := world.rows }) }
    | _ => none
  | .lock worker =>
    match world.workers[worker]? with
    | some (.waiting call) =>
      if world.workers.any (·.holds) then none
      else some { world with workers := world.workers.set worker (.holding call) }
    | _ => none
  | .finish worker =>
    match world.workers[worker]? with
    | some (.holding call) => some { world with
        rows := applyAdmission limits world.rows call
        workers := world.workers.set worker .idle }
    | _ => none
  | .crash worker => some { world with workers := world.workers.set worker .idle }
  | .timeOut age => some { world with
      rows := world.rows.map (timedOutTask (world.clock - age)) }
  | .release eventId reason => some { world with
      rows := updateRow world.rows eventId (releasedTask reason) }

def Within (limit count : Nat) : Prop := 0 < limit → count ≤ limit

structure WithinLimits (limits : AdmissionLimits) (now : Int) (rows : List ClipTask) :
    Prop where
  total : Within limits.maxGlobal (countIn everywhere now rows)
  shard : ∀ shardId, Within limits.maxPerShard (countIn (onShard shardId) now rows)
  source : ∀ sourceId, Within limits.maxPerSource (countIn (ofSource sourceId) now rows)

/-- A table within the limits, one row a key, and workers that have not begun. -/
def admissionMachine (limits : AdmissionLimits) : Machine AdmissionWorld AdmissionLabel where
  initial world :=
    (world.rows.map (·.lifecycle.eventId)).Nodup ∧
      WithinLimits limits world.clock world.rows ∧ ∀ phase ∈ world.workers, phase = .idle
  step := admissionStep limits

/-! ## Counting -/

variable {now later : Int}

theorem countIn_le_of_seen {scope : ClipTask → Bool} {rows snapshot : List ClipTask}
    (distinct : rows.Nodup) (seen : ∀ task ∈ rows, task.countsAt later = true → task ∈ snapshot ∧
      task.countsAt now = true) :
    countIn scope later rows ≤ countIn scope now snapshot := by
  simp only [countIn, List.countP_eq_length_filter]
  apply List.Subperm.length_le
  apply (distinct.filter _).subperm
  intro task member
  rcases List.mem_filter.mp member with ⟨inside, counts⟩
  rw [Bool.and_eq_true] at counts
  have early := seen task inside counts.1
  rw [List.mem_filter, early.2, counts.2]
  exact ⟨early.1, rfl⟩

variable {task : ClipTask}

theorem ClipTask.countsAt_earlier (order : now ≤ later) (counts : task.countsAt later = true) :
    task.countsAt now = true := by
  have facts := of_decide_eq_true counts
  apply decide_eq_true
  refine ⟨facts.1, ?_⟩
  rintro ⟨deadline, stored, passed⟩
  exact facts.2 ⟨deadline, stored, passed.trans order⟩

def KeepsCounted (now : Int) (write : ClipTask → ClipTask) : Prop :=
  ∀ task, (write task).countsAt now = true → write task = task

variable {write : ClipTask → ClipTask}

theorem countIn_map_le (keeps : KeepsCounted now write)
    (scope : ClipTask → Bool) (rows : List ClipTask) :
    countIn scope now (rows.map write) ≤ countIn scope now rows := by
  simp only [countIn, List.countP_map]
  apply List.countP_mono_left
  intro task _ counts
  simp only [Function.comp_apply, Bool.and_eq_true] at counts ⊢
  rw [keeps task counts.1] at counts
  exact counts

variable (rows : List ClipTask)

theorem updateRow_cases (eventId : String) (write : ClipTask → ClipTask) :
    updateRow rows eventId write = rows ∨
      ∃ before after task, rows = before ++ task :: after ∧ task.lifecycle.eventId = eventId ∧
        updateRow rows eventId write = before ++ write task :: after := by
  simp only [updateRow]
  split
  · rename_i index found
    rcases List.findIdx?_eq_some_iff_getElem.mp found with ⟨inside, target, _⟩
    refine .inr ⟨rows.take index, rows.drop (index + 1), rows[index], ?_, ?_, ?_⟩
    · rw [List.getElem_cons_drop, List.take_append_drop]
    · exact of_decide_eq_true target
    · rw [List.modify_eq_take_cons_drop inside]
  · exact .inl rfl

/-! ## One reservation -/

def reservedTask (call : AdmissionCall) (task : ClipTask) : ClipTask :=
  { task with
    slot := reservedSlot call.now task.slot call.request
    lifecycle := { task.lifecycle with replaySourceId := nullIf call.request.sourceId } }

theorem admittedTask_cases (limits : AdmissionLimits) (call : AdmissionCall) (task : ClipTask) :
    admittedTask limits call task = task ∨
      capacityReason limits call = none ∧ admittedTask limits call task = reservedTask call task
    := by
  simp only [admittedTask, acquireSlot]
  split
  · exact .inl rfl
  · cases denied : denyReason (some task) (capacityReason limits call) with
    | some => exact .inl rfl
    | none =>
      right
      refine ⟨?_, rfl⟩
      simp only [denyReason] at denied
      split at denied
      · cases denied
      · cases denied
      · cases denied
      · exact Option.map_eq_none_iff.mp denied

theorem countIn_replace_le (scope : ClipTask → Bool) (now : Int) (before after : List ClipTask)
    (task written : ClipTask) :
    countIn scope now (before ++ written :: after) ≤
      countIn scope now (before ++ task :: after) + (if scope written then 1 else 0) := by
  simp only [countIn, List.countP_append, List.countP_cons]
  cases scope written with
  | true =>
    simp only [if_true]
    split
    all_goals omega
  | false => simp

theorem Within.join {limit : Nat} {scope : ClipTask → Bool}
    {before after snapshot : List ClipTask} {written : ClipTask}
    (within : Within limit (countIn scope later (before ++ task :: after)))
    (seen : countIn scope later (before ++ task :: after) ≤ countIn scope now snapshot)
    (fits : scope written = true → reaches limit (countIn scope now snapshot) = false) :
    Within limit (countIn scope later (before ++ written :: after)) := by
  intro positive
  have bound := countIn_replace_le scope later before after task written
  have old := within positive
  cases joins : scope written with
  | false =>
    rw [joins, if_neg Bool.false_ne_true] at bound
    exact Nat.le_trans bound old
  | true =>
    have below := of_decide_eq_false (fits joins)
    rw [joins, if_pos rfl] at bound
    omega

variable {call : AdmissionCall}

theorem reserved_onShard {shardId : String}
    (joins : onShard shardId (reservedTask call task) = true) :
    call.request.shardId = shardId := by
  have shard : nullIf call.request.shardId = some shardId := of_decide_eq_true joins
  simp only [nullIf] at shard
  split at shard
  · cases shard
  · exact Option.some.inj shard

def NamesSource (request : AcquireRequest) (task : ClipTask) : Prop :=
  request.sourceId ≠ "" ∨ task.lifecycle.sourceId = none ∨ task.lifecycle.sourceId = some ""

instance (request : AcquireRequest) (task : ClipTask) : Decidable (NamesSource request task) := by
  unfold NamesSource
  infer_instance

theorem reserved_ofSource {sourceId : String} (names : NamesSource call.request task)
    (joins : ofSource sourceId (reservedTask call task) = true) :
    call.request.sourceId = sourceId := by
  have source : (nullIf call.request.sourceId <|> task.lifecycle.sourceId) = some sourceId :=
    of_decide_eq_true joins
  by_cases empty : call.request.sourceId = ""
  · have own : task.lifecycle.sourceId = some sourceId := by
      simp only [nullIf, empty, if_true] at source
      exact source
    rcases names with named | unknown | blank
    · exact absurd empty named
    · rw [unknown] at own
      cases own
    · rw [blank, Option.some.injEq] at own
      exact empty.trans own
  · simp only [nullIf, empty, if_false] at source
    exact Option.some.inj source

/-- What a call has to know when its statement decides: the reservations of the table,
and a source for its own row. -/
structure SeesReservations (limits : AdmissionLimits) (rows : List ClipTask)
    (call : AdmissionCall) : Prop where
  snapshot : ∀ task ∈ rows, task.slot.status = .active → task ∈ call.snapshot
  source : limits.maxPerSource = 0 ∨
    ∀ task ∈ rows, task.lifecycle.eventId = call.eventId → NamesSource call.request task

variable {limits : AdmissionLimits}

theorem capacityReason_none (room : capacityReason limits call = none) :
    reaches limits.maxGlobal (countIn everywhere call.now call.snapshot) = false ∧
      reaches limits.maxPerShard
        (countIn (onShard call.request.shardId) call.now call.snapshot) = false ∧
      reaches limits.maxPerSource
        (countIn (ofSource call.request.sourceId) call.now call.snapshot) = false := by
  simp only [capacityReason] at room
  split at room
  · cases room
  · rename_i globalRoom
    split at room
    · cases room
    · rename_i shardRoom
      split at room
      · cases room
      · rename_i sourceRoom
        exact ⟨Bool.eq_false_iff.mpr globalRoom, Bool.eq_false_iff.mpr shardRoom,
          Bool.eq_false_iff.mpr sourceRoom⟩

theorem WithinLimits.join {rows : List ClipTask} (within : WithinLimits limits now rows)
    (past : call.now ≤ now) (distinct : rows.Nodup) (sees : SeesReservations limits rows call) :
    WithinLimits limits now (applyAdmission limits rows call) := by
  have seen (scope : ClipTask → Bool) :
      countIn scope now rows ≤ countIn scope call.now call.snapshot := by
    apply countIn_le_of_seen distinct
    intro task inside counts
    exact ⟨sees.snapshot task inside (of_decide_eq_true counts).1,
      ClipTask.countsAt_earlier past counts⟩
  simp only [applyAdmission]
  split
  · rcases updateRow_cases rows call.eventId (admittedTask limits call) with
      same | ⟨before, after, task, rfl, target, written⟩
    · rw [same]
      exact within
    · rw [written]
      rcases admittedTask_cases limits call task with same | ⟨room, reserved⟩
      · rw [same]
        exact within
      · rw [reserved]
        rcases capacityReason_none room with ⟨globalRoom, shardRoom, sourceRoom⟩
        refine ⟨?_, ?_, ?_⟩
        · exact within.total.join (seen _) fun _ => globalRoom
        · intro shardId
          apply (within.shard shardId).join (seen _)
          intro joins
          rw [← reserved_onShard joins]
          exact shardRoom
        · intro sourceId positive
          apply (within.source sourceId).join (seen _) _ positive
          intro joins
          rcases sees.source with unlimited | names
          · rw [unlimited] at positive
            exact absurd positive (Nat.lt_irrefl 0)
          · have named := names task (by simp) target
            rw [← reserved_ofSource named joins]
            exact sourceRoom
  · exact within

/-! ## Whole runs -/

theorem WithinLimits.mono {rows after : List ClipTask} (within : WithinLimits limits now rows)
    (fewer : ∀ scope, countIn scope later after ≤ countIn scope now rows) :
    WithinLimits limits later after where
  total positive := (fewer _).trans (within.total positive)
  shard shardId positive := (fewer _).trans (within.shard shardId positive)
  source sourceId positive := (fewer _).trans (within.source sourceId positive)

theorem timedOutTask_keepsCounted (now later : Int) : KeepsCounted later (timedOutTask now) := by
  intro task counts
  have active := (of_decide_eq_true counts).1
  simp only [timedOutTask, releaseTimedOut, casTask] at active ⊢
  split
  · rename_i expired
    rw [if_pos expired] at active
    cases active
  · rfl

theorem releasedTask_keepsCounted (reason : String) (now : Int) :
    KeepsCounted now (releasedTask reason) := by
  intro task counts
  have active := (of_decide_eq_true counts).1
  simp only [releasedTask] at active ⊢
  split
  · rename_i held
    rw [if_pos held] at active
    cases active
  · rfl

theorem countIn_updateRow_le (keeps : KeepsCounted now write)
    (scope : ClipTask → Bool) (rows : List ClipTask) (eventId : String) :
    countIn scope now (updateRow rows eventId write) ≤ countIn scope now rows := by
  rcases updateRow_cases rows eventId write with same | ⟨before, after, task, rfl, _, written⟩
  · rw [same]
  · rw [written]
    cases counts : (write task).countsAt now with
    | true => rw [keeps task counts]
    | false =>
      simp only [countIn, List.countP_append, List.countP_cons, counts, Bool.false_and,
        Bool.false_eq_true, if_false]
      omega

def KeepsKey (write : ClipTask → ClipTask) : Prop :=
  ∀ task, (write task).lifecycle.eventId = task.lifecycle.eventId

theorem updateRow_keys (keeps : KeepsKey write) (rows : List ClipTask) (eventId : String) :
    (updateRow rows eventId write).map (·.lifecycle.eventId) =
      rows.map (·.lifecycle.eventId) := by
  rcases updateRow_cases rows eventId write with same | ⟨before, after, task, rfl, _, written⟩
  · rw [same]
  · rw [written]
    simp only [List.map_append, List.map_cons, keeps task]

theorem timedOutTask_keepsKey (now : Int) : KeepsKey (timedOutTask now) := by
  intro task
  simp only [timedOutTask, releaseTimedOut, casTask]
  split
  · rfl
  · rfl

theorem releasedTask_keepsKey (reason : String) : KeepsKey (releasedTask reason) := by
  intro task
  simp only [releasedTask]
  split
  · rfl
  · rfl

theorem admittedTask_keepsKey (limits : AdmissionLimits) (call : AdmissionCall) :
    KeepsKey (admittedTask limits call) := by
  intro task
  rcases admittedTask_cases limits call task with same | ⟨_, reserved⟩
  · rw [same]
  · rw [reserved]
    rfl

structure AdmissionInvariant (limits : AdmissionLimits) (world : AdmissionWorld) : Prop where
  keys : (world.rows.map (·.lifecycle.eventId)).Nodup
  past : ∀ phase ∈ world.workers, ∀ call, phase.call = some call → call.now ≤ world.clock
  within : WithinLimits limits world.clock world.rows

/-- The condition on a step: a statement that decides sees what was reserved meanwhile. -/
def decidesOnCurrent (limits : AdmissionLimits) (world : AdmissionWorld) : AdmissionLabel → Prop
  | .finish worker =>
    ∀ phase ∈ world.workers[worker]?, ∀ call ∈ phase.call,
      SeesReservations limits world.rows call
  | _ => True

instance (limits : AdmissionLimits) (rows : List ClipTask) (call : AdmissionCall) :
    Decidable (SeesReservations limits rows call) :=
  decidable_of_iff
    ((∀ task ∈ rows, task.slot.status = .active → task ∈ call.snapshot) ∧
      (limits.maxPerSource = 0 ∨
        ∀ task ∈ rows, task.lifecycle.eventId = call.eventId → NamesSource call.request task))
    ⟨fun facts => ⟨facts.1, facts.2⟩, fun sees => ⟨sees.1, sees.2⟩⟩

instance (limits : AdmissionLimits) (world : AdmissionWorld) (label : AdmissionLabel) :
    Decidable (decidesOnCurrent limits world label) :=
  match label with
  | .finish worker =>
    inferInstanceAs (Decidable (∀ phase ∈ world.workers[worker]?, ∀ call ∈ phase.call,
      SeesReservations limits world.rows call))
  | .tick _ | .insert _ | .start .. | .lock _ | .crash _ | .timeOut _ | .release .. =>
    isTrue trivial

theorem AdmissionInvariant.setWorker {world : AdmissionWorld}
    (invariant : AdmissionInvariant limits world) (worker : Nat) {phase : AdmissionPhase}
    (past : ∀ call, phase.call = some call → call.now ≤ world.clock) :
    AdmissionInvariant limits { world with workers := world.workers.set worker phase } where
  keys := invariant.keys
  past other member call calls := by
    rcases List.mem_or_eq_of_mem_set member with old | rfl
    · exact invariant.past other old call calls
    · exact past call calls
  within := invariant.within

theorem admissionStep_preserves {world next : AdmissionWorld} {label : AdmissionLabel}
    (invariant : AdmissionInvariant limits world) (current : decidesOnCurrent limits world label)
    (step : admissionStep limits world label = some next) : AdmissionInvariant limits next := by
  cases label with
  | tick =>
    cases step
    refine ⟨invariant.keys, ?_, ?_⟩
    · intro phase member call calls
      have old := invariant.past phase member call calls
      simp only
      omega
    · apply invariant.within.mono
      intro scope
      simp only [countIn]
      apply List.countP_mono_left
      intro task _ counts
      rw [Bool.and_eq_true] at counts ⊢
      exact ⟨ClipTask.countsAt_earlier (by omega) counts.1, counts.2⟩
  | insert task =>
    simp only [admissionStep] at step
    split at step
    · rename_i fresh
      cases step
      refine ⟨?_, invariant.past, ?_⟩
      · simp only [List.map_append, List.map_cons, List.map_nil]
        apply invariant.keys.append (List.nodup_singleton _)
        intro key inside new
        rw [List.mem_singleton] at new
        subst new
        rcases List.mem_map.mp inside with ⟨other, member, same⟩
        have absent := fresh.2
        rw [Bool.not_eq_true', List.any_eq_false] at absent
        exact absent other member (decide_eq_true same)
      · apply invariant.within.mono
        intro scope
        have free : task.countsAt world.clock = false := by
          apply decide_eq_false
          rintro ⟨active, _⟩
          rw [fresh.1] at active
          cases active
        simp only [countIn, List.countP_append, List.countP_cons, List.countP_nil, free,
          Bool.false_and, Bool.false_eq_true, if_false]
        omega
    · cases step
  | start =>
    simp only [admissionStep] at step
    split at step
    · cases step
      apply invariant.setWorker
      intro call calls
      cases calls
      exact le_refl _
    · cases step
  | lock worker =>
    simp only [admissionStep] at step
    split at step
    · rename_i call occupied
      split at step
      · cases step
      · cases step
        apply invariant.setWorker
        intro other calls
        exact invariant.past _ (List.mem_of_getElem? occupied) other calls
    · cases step
  | finish worker =>
    simp only [admissionStep] at step
    split at step
    · rename_i call occupied
      cases step
      have past := invariant.past _ (List.mem_of_getElem? occupied) call rfl
      have sees : SeesReservations limits world.rows call := by
        simp only [decidesOnCurrent, occupied] at current
        exact current _ rfl call rfl
      have settled : AdmissionInvariant limits
          { world with rows := applyAdmission limits world.rows call } := by
        refine ⟨?_, invariant.past, ?_⟩
        · simp only [applyAdmission]
          split
          · rw [updateRow_keys (admittedTask_keepsKey limits call)]
            exact invariant.keys
          · exact invariant.keys
        · exact invariant.within.join past (List.Nodup.of_map _ invariant.keys) sees
      exact settled.setWorker worker fun _ none => nomatch none
    · cases step
  | crash worker =>
    cases step
    exact invariant.setWorker worker fun _ none => nomatch none
  | timeOut age =>
    cases step
    refine ⟨?_, invariant.past, ?_⟩
    · have same : (world.rows.map (timedOutTask (world.clock - age))).map
          (·.lifecycle.eventId) = world.rows.map (·.lifecycle.eventId) := by
        rw [List.map_map]
        apply List.map_congr_left
        intro task _
        exact timedOutTask_keepsKey _ task
      rw [same]
      exact invariant.keys
    · exact invariant.within.mono fun scope =>
        countIn_map_le (timedOutTask_keepsCounted _ _) scope world.rows
  | release eventId reason =>
    cases step
    refine ⟨?_, invariant.past, ?_⟩
    · rw [updateRow_keys (releasedTask_keepsKey reason)]
      exact invariant.keys
    · exact invariant.within.mono fun scope =>
        countIn_updateRow_le (releasedTask_keepsCounted reason _) scope world.rows eventId

theorem admissionInvariant_invariant (limits : AdmissionLimits) :
    ((admissionMachine limits).restrict (decidesOnCurrent limits)).Invariant
      (AdmissionInvariant limits) where
  initially := by
    intro world initial
    refine ⟨initial.1, ?_, initial.2.1⟩
    intro phase member call calls
    rw [initial.2.2 phase member] at calls
    cases calls
  preserved := by
    intro world label next _ invariant step
    have allowed := Machine.restrict_step_eq_some.mp step
    exact admissionStep_preserves invariant allowed.1 allowed.2

/-- The limits hold as long as no statement decides on counts that miss a reservation. -/
theorem admission_limits_hold (limits : AdmissionLimits) {world : AdmissionWorld}
    (reached : ((admissionMachine limits).restrict (decidesOnCurrent limits)).Reachable world) :
    WithinLimits limits world.clock world.rows :=
  ((admissionInvariant_invariant limits).holds reached).within

def twoFreeTasks : AdmissionWorld where
  clock := 0
  rows := ["left", "right"].map fun eventId =>
    { freshReplayTask with lifecycle := { freshReplayTask.lifecycle with eventId } }
  workers := [.idle, .idle]

def oneSlot : AdmissionLimits where
  maxGlobal := 1
  maxPerShard := 0
  maxPerSource := 0

def admissionRequest (owner : String) : AcquireRequest :=
  (sampleRequest owner false).acquireRequest

theorem twoFreeTasks_initial : (admissionMachine oneSlot).initial twoFreeTasks := by
  refine ⟨by decide, ⟨fun _ => by decide, fun _ none => ?_, fun _ none => ?_⟩, by decide⟩
  all_goals exact absurd none (Nat.lt_irrefl 0)

def callsInTurn : List AdmissionLabel :=
  [.start 0 "left" (admissionRequest "first"), .lock 0, .finish 0,
    .start 1 "right" (admissionRequest "second"), .lock 1, .finish 1]

theorem calls_in_turn_hold :
    ∃ world, ((admissionMachine oneSlot).restrict (decidesOnCurrent oneSlot)).run twoFreeTasks
        callsInTurn = some world ∧
      countIn everywhere world.clock world.rows = 1 ∧
      WithinLimits oneSlot world.clock world.rows := by
  have ran : (((admissionMachine oneSlot).restrict (decidesOnCurrent oneSlot)).run twoFreeTasks
      callsInTurn).map (fun world => countIn everywhere world.clock world.rows) = some 1 := by
    decide +kernel
  rcases Option.map_eq_some_iff.mp ran with ⟨world, final, count⟩
  have begins : ((admissionMachine oneSlot).restrict (decidesOnCurrent oneSlot)).Reachable
      twoFreeTasks := .start twoFreeTasks_initial
  exact ⟨world, final, count, admission_limits_hold oneSlot (begins.run final)⟩

def overlappingCalls : List AdmissionLabel :=
  [.start 0 "left" (admissionRequest "first"), .start 1 "right" (admissionRequest "second"),
    .lock 0, .finish 0, .lock 1, .finish 1]

theorem overlapping_calls_exceed_limit :
    ∃ world, (admissionMachine oneSlot).Reachable world ∧
      ¬WithinLimits oneSlot world.clock world.rows := by
  have ran : ((admissionMachine oneSlot).run twoFreeTasks overlappingCalls).map
      (fun world => countIn everywhere world.clock world.rows) = some 2 := by
    decide +kernel
  rcases Option.map_eq_some_iff.mp ran with ⟨world, final, count⟩
  refine ⟨world, (Machine.Reachable.start twoFreeTasks_initial).run final, ?_⟩
  intro within
  have bound := within.total (by decide)
  rw [count] at bound
  exact absurd bound (by decide)

end VideoAnalysis.Clip
