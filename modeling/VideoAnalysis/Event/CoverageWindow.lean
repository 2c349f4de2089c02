import VideoAnalysis.Event.Coverage

/-! # What a covered event may rely on

A task created as covered relies on a live parent whose window contains its own.
Each worker carries that fact from its locked read to its link as long as no
other step takes it away.
-/

namespace VideoAnalysis.Event

open Foundation
open Lifecycle (MaterializationStatus MaterializationPhase)

/-- Neither failed, expired, skipped nor itself deferred. -/
def isLive : MaterializationStatus → Bool
  | .failed | .expired | .skipped | .deferred => false
  | _ => true

/-- The window of a parent at `tsMs` contains the event's own interval. -/
def WindowContains (tsMs preSeconds postSeconds : Int) (event : CoverageEvent) : Prop :=
  tsMs - preSeconds * 1000 ≤ event.eventTsMs - event.preSeconds * 1000 ∧
    event.eventTsMs + event.postSeconds * 1000 ≤ tsMs + postSeconds * 1000

instance (tsMs preSeconds postSeconds : Int) (event : CoverageEvent) :
    Decidable (WindowContains tsMs preSeconds postSeconds event) := by
  unfold WindowContains
  infer_instance

def CoverageTask.Covers (task : CoverageTask) (event : CoverageEvent) : Prop :=
  isLive task.status = true ∧
    WindowContains task.eventTsMs task.preSeconds task.postSeconds event

instance (task : CoverageTask) (event : CoverageEvent) : Decidable (task.Covers event) := by
  unfold CoverageTask.Covers
  infer_instance

def CoverageState.Covers (state : CoverageState) (event : CoverageEvent) (bundle : String) :
    Prop :=
  ∃ task, state.task bundle = some task ∧ task.Covers event

/-- The event and the bundle of a step that creates a covered task or its link. -/
def coveredBy (state : CoverageState) : CoverageLabel → Option (CoverageEvent × String)
  | .insertTask worker _ _ =>
    match state.workers[worker]? with
    | some (.inserting event (some parent)) => some (event, parent)
    | _ => none
  | .upsertLink worker =>
    match state.workers[worker]? with
    | some (.linking event parent) => some (event, parent)
    | _ => none
  | _ => none

/-- No window of a task becomes shorter on either side. -/
def Widens (before after : CoverageState) : Prop :=
  ∀ eventId task, before.task eventId = some task →
    ∃ later, after.task eventId = some later ∧
      task.preSeconds ≤ later.preSeconds ∧ task.postSeconds ≤ later.postSeconds

/-! ## The window arithmetic -/

theorem requiredPre_contains (parent : CoverageTask) (event : CoverageEvent) :
    parent.eventTsMs - requiredPre parent event * 1000 ≤
      event.eventTsMs - event.preSeconds * 1000 := by
  simp only [requiredPre]
  omega

theorem requiredPost_contains (parent : CoverageTask) (event : CoverageEvent) :
    event.eventTsMs + event.postSeconds * 1000 ≤
      parent.eventTsMs + requiredPost parent event * 1000 := by
  simp only [requiredPost]
  omega

theorem extensionDecision_extend {config : CoverageConfig} {event : CoverageEvent}
    {row : Option CoverageTask} {preSeconds postSeconds : Int}
    (decided : extensionDecision config event row = .extend preSeconds postSeconds) :
    ∃ parent, row = some parent ∧
      WindowContains parent.eventTsMs preSeconds postSeconds event := by
  cases row with
  | none => cases decided
  | some parent =>
    refine ⟨parent, rfl, ?_⟩
    simp only [extensionDecision] at decided
    repeat' split at decided
    all_goals cases decided
    exact ⟨requiredPre_contains parent event, requiredPost_contains parent event⟩

theorem extensionDecision_alreadyCovered {config : CoverageConfig} {event : CoverageEvent}
    {row : Option CoverageTask}
    (decided : extensionDecision config event row = .refused .alreadyCovered) :
    ∃ parent, row = some parent ∧ parent.Covers event := by
  cases row with
  | none => cases decided
  | some parent =>
    refine ⟨parent, rfl, ?_⟩
    simp only [extensionDecision] at decided
    split at decided
    · cases decided
    · rename_i claimable
      repeat' split at decided
      all_goals cases decided
      rename_i same
      refine ⟨?_, ?_⟩
      · cases status : parent.status <;> simp [status, MaterializationStatus.claimable, isLive]
          at claimable ⊢
      · rw [← same.1, ← same.2]
        exact ⟨requiredPre_contains parent event, requiredPost_contains parent event⟩

/-! ## What the statements do to a row -/

section Rows

variable {state : CoverageState}

theorem task_update {eventId : String} {task : CoverageTask}
    (found : state.task eventId = some task) (target : String) (guard : CoverageTask → Bool)
    (write : CoverageTask → CoverageTask)
    (sameId : ∀ task, (write task).eventId = task.eventId) :
    (state.update target guard write).task eventId =
      some (if eventId = target ∧ guard task = true then write task else task) := by
  simp only [CoverageState.update, CoverageState.task] at found ⊢
  generalize state.tasks = tasks at found ⊢
  induction tasks with
  | nil => cases found
  | cons head _ induction =>
    simp only [List.map_cons, List.find?_cons] at found ⊢
    have headId : (if head.eventId = target ∧ guard head = true then write head
        else head).eventId = head.eventId := by
      split
      · exact sameId head
      · rfl
    rw [headId]
    by_cases here : head.eventId = eventId
    · simp only [here, decide_true, Option.some.injEq] at found ⊢
      rw [← found]
    · simp only [here, decide_false] at found ⊢
      exact induction found

theorem task_insert {inserted : CoverageTask} {eventId : String} {task : CoverageTask}
    (found : state.task eventId = some task) :
    (state.insert inserted).task eventId = some task := by
  simp only [CoverageState.insert]
  split
  · exact found
  · simp only [CoverageState.task, List.find?_append] at found ⊢
    rw [found]
    rfl

end Rows

theorem insert_workers (state : CoverageState) (inserted : CoverageTask) :
    (state.insert inserted).workers = state.workers := by
  simp only [CoverageState.insert]
  split
  · rfl
  · rfl

/-- The rows keep their time and widen their window, and those in `kept` stay live. -/
def Follows (kept : String → Prop) (before after : CoverageState) : Prop :=
  ∀ eventId task, before.task eventId = some task →
    ∃ later, after.task eventId = some later ∧ later.eventTsMs = task.eventTsMs ∧
      task.preSeconds ≤ later.preSeconds ∧ task.postSeconds ≤ later.postSeconds ∧
      (kept eventId → isLive task.status = true → isLive later.status = true)

variable {before after : CoverageState} {kept : String → Prop}

theorem Follows.widens (follows : Follows kept before after) : Widens before after := by
  intro eventId task found
  rcases follows eventId task found with ⟨later, stored, _, pre, post, _⟩
  exact ⟨later, stored, pre, post⟩

theorem Follows.of_same
    (same : ∀ eventId task, before.task eventId = some task → after.task eventId = some task) :
    Follows kept before after := by
  intro eventId task found
  exact ⟨task, same eventId task found, rfl, Int.le_refl _, Int.le_refl _, fun _ live => live⟩

theorem Follows.covers (follows : Follows kept before after) {event : CoverageEvent}
    {bundle : String} (stays : kept bundle) (covers : before.Covers event bundle) :
    after.Covers event bundle := by
  rcases covers with ⟨task, found, live, early, late⟩
  rcases follows bundle task found with ⟨later, stored, sameTs, pre, post, alive⟩
  refine ⟨later, stored, alive stays live, ?_, ?_⟩
  all_goals
    rw [sameTs]
    omega

/-! ## The fact a worker carries -/

/-- The bundle a worker is about to link, if it is past its locked read. -/
def CreatorPhase.reliesOn : CreatorPhase → Option String
  | .inserting _ parent => parent
  | .linking _ parent => some parent
  | _ => none

def Carries (state : CoverageState) : CreatorPhase → Prop
  | .extending event parent preSeconds postSeconds =>
    ∃ task, state.task parent = some task ∧
      WindowContains task.eventTsMs preSeconds postSeconds event
  | .inserting event (some parent) => state.Covers event parent
  | .linking event parent => state.Covers event parent
  | _ => True

def AllCarry (state : CoverageState) : Prop := ∀ phase ∈ state.workers, Carries state phase

theorem Follows.carries (follows : Follows kept before after) {phase : CreatorPhase}
    (stays : ∀ parent, phase.reliesOn = some parent → kept parent)
    (carries : Carries before phase) : Carries after phase := by
  cases phase with
  | idle | lookingUp | locking => trivial
  | extending _ parent =>
    rcases carries with ⟨task, found, contains⟩
    rcases follows parent task found with ⟨later, stored, sameTs, _⟩
    exact ⟨later, stored, sameTs ▸ contains⟩
  | inserting _ parent =>
    cases parent with
    | none => trivial
    | some parent => exact follows.covers (stays parent rfl) carries
  | linking _ parent => exact follows.covers (stays parent rfl) carries

theorem AllCarry.goto {state : CoverageState} (carry : AllCarry state) {worker : Nat}
    {phase : CreatorPhase} (carries : Carries state phase) :
    AllCarry (state.goto worker phase) := by
  intro other member
  rcases List.mem_or_eq_of_mem_set member with old | rfl
  · exact carry other old
  · exact carries

/-! ## The steps that keep it -/

/-- The steps after which a covered child is rightly covered. The locked row must be one
that waits, that is too far away, or that already covers the child; its window may be
replaced by no shorter one; and once a worker has decided for a parent the media worker
must not give that parent up. -/
def coverageKept (config : CoverageConfig) (state : CoverageState) : CoverageLabel → Bool
  | .lockParent worker =>
    match state.workers[worker]? with
    | some (.locking event parent) =>
      match extensionDecision config event (state.task parent) with
      | .extend .. | .refused .parentMaxDurationExceeded | .refused .alreadyCovered => true
      | .refused _ => (state.task parent).any fun task => decide (task.Covers event)
    | _ => true
  | .extendParent worker =>
    match state.workers[worker]? with
    | some (.extending event parent preSeconds postSeconds) =>
      (state.task parent).any fun task =>
        if task.extendable then
          decide (task.preSeconds ≤ preSeconds ∧ task.postSeconds ≤ postSeconds)
        else decide (task.Covers event)
    | _ => true
  | .mediaWorker eventId status _ _ =>
    isLive status || state.workers.all fun phase => decide (phase.reliesOn ≠ some eventId)
  | _ => true

section Steps

variable {config : CoverageConfig} {current next : CoverageState}

variable {event : CoverageEvent} {parent : String}

theorem covers_of_any
    (any : (current.task parent).any (fun task => decide (task.Covers event)) = true) :
    current.Covers event parent := by
  cases found : current.task parent with
  | none =>
    rw [found] at any
    cases any
  | some task =>
    rw [found] at any
    exact ⟨task, found, of_decide_eq_true any⟩

variable {worker : Nat}

theorem lockedPhase_carries (locking : current.workers[worker]? = some (.locking event parent))
    (kept : coverageKept config current (.lockParent worker) = true) :
    Carries current (lockedPhase config event parent (current.task parent)) := by
  simp only [coverageKept, locking] at kept
  simp only [lockedPhase]
  cases decided : extensionDecision config event (current.task parent) with
  | extend =>
    rcases extensionDecision_extend decided with ⟨task, found, contains⟩
    exact ⟨task, found, contains⟩
  | refused reason =>
    rw [decided] at kept
    cases reason with
    | parentMaxDurationExceeded => trivial
    | alreadyCovered =>
      rcases extensionDecision_alreadyCovered decided with ⟨task, found, covers⟩
      exact ⟨task, found, covers⟩
    | parentMissing | parentNotWaiting | parentAlreadyLeased | parentMissingEventTsMs =>
      exact covers_of_any kept

section

variable {preSeconds postSeconds : Int} (extending : current.workers[worker]? = some
  (.extending event parent preSeconds postSeconds))

include preSeconds postSeconds extending

theorem extend_follows (kept : coverageKept config current (.extendParent worker) = true) :
    Follows (fun _ => True) current
      (current.update parent CoverageTask.extendable (·.withWindow preSeconds postSeconds)) := by
  intro eventId task found
  refine ⟨_, task_update found parent _ _ (fun _ => rfl), ?_⟩
  split
  · rename_i written
    rcases written with ⟨rfl, extendable⟩
    simp only [coverageKept, extending, found, Option.any_some, extendable, if_true,
      decide_eq_true_eq] at kept
    exact ⟨rfl, kept.1, kept.2, fun _ live => live⟩
  · exact ⟨rfl, Int.le_refl _, Int.le_refl _, fun _ live => live⟩

theorem extend_covers (kept : coverageKept config current (.extendParent worker) = true)
    (carries : Carries current (.extending event parent preSeconds postSeconds)) :
    (current.update parent CoverageTask.extendable
      (·.withWindow preSeconds postSeconds)).Covers event parent := by
  rcases carries with ⟨task, found, contains⟩
  simp only [coverageKept, extending, found, Option.any_some] at kept
  refine ⟨_, task_update found parent _ _ (fun _ => rfl), ?_⟩
  cases extendable : task.extendable with
  | true =>
    have waiting := ((Bool.and_eq_true _ _).mp extendable).1
    have claimable := ((Bool.and_eq_true _ _).mp waiting).1
    simp only [and_self, if_true]
    refine ⟨?_, contains⟩
    show isLive task.status = true
    cases status : task.status <;>
      simp [status, MaterializationStatus.claimable, isLive] at claimable ⊢
  | false =>
    simp only [extendable, Bool.false_eq_true, if_false, decide_eq_true_eq] at kept ⊢
    exact kept

end

theorem mediaWorker_follows {eventId : String} {status : MaterializationStatus}
    {phase : MaterializationPhase} {leaseToken : Option String} :
    Follows (fun target => isLive status = true ∨ target ≠ eventId) current
      (current.update eventId (fun task => !task.status.isTerminal)
        fun task => { task with status, phase, leaseToken }) := by
  intro target task found
  refine ⟨_, task_update found eventId _ _ (fun _ => rfl), ?_⟩
  split
  · rename_i written
    refine ⟨rfl, Int.le_refl _, Int.le_refl _, fun stays live => ?_⟩
    rcases stays with alive | other
    · exact alive
    · exact absurd written.1 other
  · exact ⟨rfl, Int.le_refl _, Int.le_refl _, fun _ live => live⟩

theorem AllCarry.of_phase (carry : AllCarry current) {phase : CreatorPhase}
    (standing : current.workers[worker]? = some phase) : Carries current phase :=
  carry phase (List.mem_of_getElem? standing)

theorem AllCarry.advance (carry : AllCarry current) {phase : CreatorPhase}
    {written : CoverageState} (sameWorkers : written.workers = current.workers)
    (follows : Follows (fun _ => True) current written) (carries : Carries written phase) :
    AllCarry (written.goto worker phase) := by
  apply AllCarry.goto _ carries
  intro other member
  rw [sameWorkers] at member
  exact follows.carries (fun _ _ => trivial) (carry other member)

end Steps

/-- A step that is sound: windows only grow, and a covered child is rightly covered. -/
def CoversSoundly (current : CoverageState) (label : CoverageLabel) (next : CoverageState) :
    Prop :=
  Widens current next ∧
    ∀ event bundle, coveredBy current label = some (event, bundle) → next.Covers event bundle

theorem coverageStep_sound {config : CoverageConfig} {current next : CoverageState}
    {label : CoverageLabel} (carry : AllCarry current)
    (kept : coverageKept config current label = true)
    (step : coverageStep config current label = some next) :
    AllCarry next ∧ CoversSoundly current label next := by
  have unchanged : Follows (fun _ => True) current current := .of_same fun _ _ found => found
  cases label with
  | begin =>
    simp only [coverageStep] at step
    split at step
    · cases step
      exact ⟨carry.advance rfl unchanged trivial, unchanged.widens, by rintro _ _ ⟨⟩⟩
    · cases step
  | lookUp =>
    simp only [coverageStep] at step
    split at step
    · split at step
      · split at step
        all_goals
          cases step
          exact ⟨carry.advance rfl unchanged trivial, unchanged.widens, by rintro _ _ ⟨⟩⟩
      · cases step
    · cases step
  | lockParent worker =>
    simp only [coverageStep] at step
    split at step
    · rename_i event parent locking
      cases step
      exact ⟨carry.advance rfl unchanged (lockedPhase_carries locking kept),
        unchanged.widens, by rintro _ _ ⟨⟩⟩
    · cases step
  | extendParent worker =>
    simp only [coverageStep] at step
    split at step
    · rename_i event parent preSeconds postSeconds extending
      cases step
      have follows := extend_follows extending kept
      have covers := extend_covers extending kept (carry.of_phase extending)
      exact ⟨carry.advance rfl follows covers, follows.widens, by rintro _ _ ⟨⟩⟩
    · cases step
  | insertTask worker admitted createdAt =>
    simp only [coverageStep] at step
    split at step
    · rename_i event inserting
      cases step
      have follows : Follows (fun _ => True) current
          (current.insert (newTask event false admitted createdAt)) :=
        .of_same fun _ _ found => task_insert found
      refine ⟨carry.advance (insert_workers _ _) follows trivial, follows.widens, ?_⟩
      intro event bundle covered
      simp only [coveredBy, inserting, reduceCtorEq] at covered
    · rename_i event parent inserting
      cases step
      have follows : Follows (fun _ => True) current
          (current.insert (newTask event true admitted createdAt)) :=
        .of_same fun _ _ found => task_insert found
      have covers := follows.covers trivial (carry.of_phase inserting)
      refine ⟨carry.advance (insert_workers _ _) follows covers, follows.widens, ?_⟩
      intro child bundle covered
      simp only [coveredBy, inserting, Option.some.injEq, Prod.mk.injEq] at covered
      rcases covered with ⟨rfl, rfl⟩
      exact covers
    · cases step
  | upsertLink worker =>
    simp only [coverageStep] at step
    split at step
    · rename_i event parent linking
      split at step
      · cases step
        have follows : Follows (fun _ => True) current
            (current.upsertLink event.eventId parent) := .of_same fun _ _ found => found
        refine ⟨carry.advance rfl follows trivial, follows.widens, ?_⟩
        intro child bundle covered
        simp only [coveredBy, linking, Option.some.injEq, Prod.mk.injEq] at covered
        rcases covered with ⟨rfl, rfl⟩
        exact follows.covers trivial (carry.of_phase linking)
      · cases step
    · cases step
  | abandon =>
    simp only [coverageStep] at step
    split at step
    · cases step
      exact ⟨carry.advance rfl unchanged trivial, unchanged.widens, by rintro _ _ ⟨⟩⟩
    · cases step
  | mediaWorker =>
    cases step
    refine ⟨?_, mediaWorker_follows.widens, by rintro _ _ ⟨⟩⟩
    intro other member
    apply mediaWorker_follows.carries _ (carry other member)
    intro parent relies
    rcases (Bool.or_eq_true _ _).mp kept with alive | unrelied
    · exact .inl alive
    · have apart := of_decide_eq_true (List.all_eq_true.mp unrelied other member)
      exact .inr fun same => apart (same ▸ relies)

/-- Along every run whose steps are all kept, covered means covered and windows grow. -/
theorem covered_means_covered (config : CoverageConfig) (current next : CoverageState)
    (label : CoverageLabel)
    (reached : ((coverageMachine config).restrict fun state label =>
      coverageKept config state label = true).Reachable current)
    (step : ((coverageMachine config).restrict fun state label =>
      coverageKept config state label = true).step current label = some next) :
    CoversSoundly current label next := by
  have carry : AllCarry current := by
    apply Machine.Invariant.holds ⟨?_, ?_⟩ reached
    · intro state idle phase member
      rw [idle phase member]
      trivial
    · intro before taken after _ carry moved
      have parts := Machine.restrict_step_eq_some.mp moved
      exact (coverageStep_sound carry parts.1 parts.2).1
  have parts := Machine.restrict_step_eq_some.mp step
  exact (coverageStep_sound carry parts.1 parts.2).2

section Runs

def mergeConfig : CoverageConfig where
  mergeEnabled := true
  eventTypes := ["fall"]
  windowMs := 30000
  parentMaxDurationSeconds := 60

def fallEvent (eventId : String) (eventTsMs : Int) : CoverageEvent where
  eventId
  sourceId := "s"
  eventType := "fall"
  eventTsMs
  preSeconds := 5
  postSeconds := 5
  initialStatus := .pending
  hasRuntimeEpoch := true

def oneWorker : CoverageState := { tasks := [], links := [], workers := [.idle] }

theorem oneWorker_initial : ∀ phase ∈ oneWorker.workers, phase = .idle := by decide

def firstTask : CoverageTask := newTask (fallEvent "a" 1000000) false true 0

/-- The second event is 20 seconds later, beyond the first one's post-roll. -/
def secondLookup : List CoverageLabel :=
  [.begin 0 (fallEvent "a" 1000000), .lookUp 0 none, .insertTask 0 true 0,
    .begin 0 (fallEvent "b" 1020000), .lookUp 0 (some firstTask)]

def extendedState : CoverageState where
  tasks := [firstTask.withWindow 5 25]
  links := []
  workers := [.inserting (fallEvent "b" 1020000) (some "a")]

def linkingState : CoverageState where
  tasks := [firstTask.withWindow 5 25, newTask (fallEvent "b" 1020000) true true 1]
  links := []
  workers := [.linking (fallEvent "b" 1020000) "a"]

theorem extendedState_reached :
    ((coverageMachine mergeConfig).restrict fun state label =>
      coverageKept mergeConfig state label = true).Reachable extendedState := by
  have ran : ((coverageMachine mergeConfig).restrict fun state label =>
      coverageKept mergeConfig state label = true).run oneWorker
        (secondLookup ++ [.lockParent 0, .extendParent 0]) = some extendedState := by
    decide +kernel
  exact (Machine.Reachable.start oneWorker_initial).run ran

theorem extended_parent_covers :
    CoversSoundly extendedState (.insertTask 0 true 1) linkingState :=
  covered_means_covered mergeConfig extendedState linkingState (.insertTask 0 true 1)
    extendedState_reached (by decide +kernel)

def claimedParent : CoverageTask :=
  { firstTask with status := .running, phase := .remuxRunning, leaseToken := some "t" }

def uncoveredState : CoverageState where
  tasks := [claimedParent]
  links := []
  workers := [.inserting (fallEvent "b" 1020000) (some "a")]

/-- The media worker claims the parent before the second event's worker locks the row: the
window is not extended, and the second event is linked to it all the same. -/
theorem claimed_parent_is_linked :
    ¬ ∀ (config : CoverageConfig) (current next : CoverageState) (label : CoverageLabel),
      (coverageMachine config).Reachable current →
        (coverageMachine config).step current label = some next →
          CoversSoundly current label next := by
  intro claimed
  have reached : (coverageMachine mergeConfig).Reachable uncoveredState := by
    have ran : (coverageMachine mergeConfig).run oneWorker (secondLookup ++
        [.mediaWorker "a" .running .remuxRunning (some "t"), .lockParent 0]) =
          some uncoveredState := by
      decide +kernel
    exact (Machine.Reachable.start oneWorker_initial).run ran
  have sound := claimed mergeConfig uncoveredState
    { uncoveredState with
      tasks := [claimedParent, newTask (fallEvent "b" 1020000) true true 1]
      workers := [.linking (fallEvent "b" 1020000) "a"] }
    (.insertTask 0 true 1) reached (by decide +kernel)
  rcases sound.2 (fallEvent "b" 1020000) "a" rfl with ⟨task, found, covers⟩
  have same : claimedParent = task := Option.some.inj (Eq.trans rfl found)
  subst same
  exact absurd covers (by decide)

end Runs

end VideoAnalysis.Event
