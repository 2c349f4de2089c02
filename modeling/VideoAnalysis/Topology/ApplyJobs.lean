import VideoAnalysis.Foundation.Machine
import Mathlib.Logic.Function.Basic

/-! # Jobs that apply the runtime topology

One process runs the jobs and answers for their status through a file. A step is one read of the
file, one write of it or one test of the job's thread. The answer to a status call writes too: it
takes a job for interrupted when it finds no thread.
-/

namespace VideoAnalysis.Topology

open Foundation

inductive StatusText
  | running
  | succeeded
  | failed
  | stopped
deriving DecidableEq

structure StatusError where
  message : String
  statusCode : Nat
deriving DecidableEq

/-- The status file; a job of another process has no number here. -/
structure ApplyStatus where
  jobId : Option Nat
  status : StatusText
  phase : String
  percent : Int
  message : String
  workerPid : Nat
  error : Option StatusError
deriving DecidableEq

/-- How a job's work may raise. -/
inductive ApplyRaise
  | topology (message : String) (statusCode : Nat)
  | unexpected (message : String)
deriving DecidableEq

def queuedStatus (pid jobId : Nat) : ApplyStatus where
  jobId := some jobId
  status := .running
  phase := "queued"
  percent := 1
  message := "启动任务已进入后台队列"
  workerPid := pid
  error := none

def progressStatus (pid jobId : Nat) (phase : String) (percent : Int) (message : String) :
    ApplyStatus where
  jobId := some jobId
  status := .running
  phase
  percent
  message
  workerPid := pid
  error := none

def succeededStatus (pid jobId : Nat) : ApplyStatus where
  jobId := some jobId
  status := .succeeded
  phase := "complete"
  percent := 100
  message := "完整双分支、rolling-cache 和 evidence 链已就绪"
  workerPid := pid
  error := none

def failedStatus (pid jobId : Nat) (percent : Int) : ApplyRaise → ApplyStatus
  | .topology message statusCode =>
    { jobId := some jobId
      status := .failed
      phase := "failed"
      percent
      message
      workerPid := pid
      error := some { message, statusCode } }
  | .unexpected message =>
    { jobId := some jobId
      status := .failed
      phase := "failed"
      percent
      message := s!"unexpected topology apply error: {message}"
      workerPid := pid
      error := some { message, statusCode := 500 } }

def stoppedStatus : ApplyStatus where
  jobId := none
  status := .stopped
  phase := "stopped"
  percent := 0
  message := "摄像头采集与双分支推理已停止；已产生的 evidence 继续收尾"
  workerPid := 0
  error := none

def ApplyStatus.interrupted (status : ApplyStatus) : ApplyStatus :=
  { status with
    status := .failed
    phase := "failed"
    message := "API 在启动过程中重启，后台任务已中断，请核对运行状态后重试"
    error := some { message := "runtime topology apply worker was interrupted", statusCode := 503 } }

/-- What the thread of a job does next. -/
inductive JobPhase
  | applying
  | returned
  | raised (error : ApplyRaise)
  | failing (error : ApplyRaise) (percent : Int)
  | written
deriving DecidableEq

structure Worker where
  jobId : Nat
  phase : JobPhase

/-- What the start that holds the lock does next. -/
inductive Starter
  | free
  | admitted
  | announced (jobId : Nat)
  | published (jobId : Nat)
deriving DecidableEq

/-- A status call that has read a running job, and one that has found no thread for it. -/
inductive StatusCall
  | read (status : ApplyStatus)
  | doomed (status : ApplyStatus)

/-- Two fields are about the run: `raised` lists the jobs whose work has raised, and `final` is
the status that the last job wrote at its end, until the next start or stop. -/
structure ApplyState where
  file : Option ApplyStatus
  starter : Starter := .free
  activeThread : Option Nat := none
  worker : Option Worker := none
  nextJob : Nat := 0
  calls : Nat → Option StatusCall := fun _ => none
  raised : List Nat := []
  final : Option ApplyStatus := none

/-- The thread that is published has been started and has not ended. -/
def ApplyState.threadAlive (state : ApplyState) : Bool :=
  match state.activeThread, state.worker with
  | some active, some worker => active == worker.jobId
  | _, _ => false

inductive ApplyStep
  | enterStart
  | writeQueued
  | publishThread
  | startThread
  | progress (phase : String) (percent : Int) (message : String)
  | applyReturns
  | applyRaises (error : ApplyRaise)
  | writeSucceeded
  | readPercent
  | writeFailed
  | threadEnds
  | stop
  | readStatus (call : Nat)
  | testThread (call : Nat)
  | writeInterrupted (call : Nat)

namespace ApplyState

def startStep (pid : Nat) (state : ApplyState) : ApplyStep → Option ApplyState
  | .enterStart =>
    if state.starter = .free ∧ state.threadAlive = false then
      some { state with starter := .admitted }
    else none
  | .writeQueued =>
    if state.starter = .admitted then
      some
        { state with
          file := some (queuedStatus pid state.nextJob)
          starter := .announced state.nextJob
          nextJob := state.nextJob + 1
          final := none }
    else none
  | .publishThread =>
    match state.starter with
    | .announced jobId =>
      some { state with activeThread := some jobId, starter := .published jobId }
    | _ => none
  | .startThread =>
    match state.starter with
    | .published jobId =>
      some { state with worker := some ⟨jobId, .applying⟩, starter := .free }
    | _ => none
  | _ => none

def jobStep (pid : Nat) (state : ApplyState) (worker : Worker) : ApplyStep → Option ApplyState
  | .progress phase percent message =>
    if worker.phase = .applying then
      some { state with file := some (progressStatus pid worker.jobId phase percent message) }
    else none
  | .applyReturns =>
    if worker.phase = .applying then
      some { state with worker := some { worker with phase := .returned } }
    else none
  | .applyRaises error =>
    if worker.phase = .applying then
      some
        { state with
          worker := some { worker with phase := .raised error }
          raised := worker.jobId :: state.raised }
    else none
  | .writeSucceeded =>
    if worker.phase = .returned then
      some
        { state with
          file := some (succeededStatus pid worker.jobId)
          worker := some { worker with phase := .written }
          final := some (succeededStatus pid worker.jobId) }
    else none
  | .readPercent =>
    match worker.phase with
    | .raised error =>
      let percent := (state.file.map ApplyStatus.percent).getD 0
      some { state with worker := some { worker with phase := .failing error percent } }
    | _ => none
  | .writeFailed =>
    match worker.phase with
    | .failing error percent =>
      let status := failedStatus pid worker.jobId percent error
      some
        { state with
          file := some status
          worker := some { worker with phase := .written }
          final := some status }
    | _ => none
  | .threadEnds =>
    if worker.phase = .written then some { state with worker := none } else none
  | _ => none

/-- A status call ends at once where no job is running; otherwise it looks for the thread. -/
def callStep (pid : Nat) (state : ApplyState) : ApplyStep → Option ApplyState
  | .readStatus call =>
    match state.calls call, state.file with
    | none, some status =>
      if status.status = .running then
        some { state with calls := Function.update state.calls call (some (.read status)) }
      else some state
    | none, none => some state
    | some _, _ => none
  | .testThread call =>
    match state.calls call with
    | some (.read status) =>
      if state.threadAlive && status.workerPid == pid then
        some { state with calls := Function.update state.calls call none }
      else some { state with calls := Function.update state.calls call (some (.doomed status)) }
    | _ => none
  | .writeInterrupted call =>
    match state.calls call with
    | some (.doomed status) =>
      some
        { state with
          file := some status.interrupted
          calls := Function.update state.calls call none }
    | _ => none
  | _ => none

def applyStep (pid : Nat) (state : ApplyState) (step : ApplyStep) : Option ApplyState :=
  match step with
  | .enterStart | .writeQueued | .publishThread | .startThread => state.startStep pid step
  | .stop => some { state with file := some stoppedStatus, final := none }
  | .readStatus _ | .testThread _ | .writeInterrupted _ => state.callStep pid step
  | _ => state.worker.bind fun worker => state.jobStep pid worker step

end ApplyState

/-- The file may tell of a job that an earlier process has left. -/
def applyMachine (pid : Nat) : Machine ApplyState ApplyStep where
  initial state := ∃ file : Option ApplyStatus,
    (∀ status, file = some status → status.jobId = none) ∧ state = { file }
  step := ApplyState.applyStep pid

namespace ApplyState

/-- No job is called failed before its work has raised, and what a job has written at its end
stays until the next start or stop. -/
def Honest (state : ApplyState) : Prop :=
  (∀ status jobId, state.file = some status → status.status = .failed →
    status.jobId = some jobId → jobId ∈ state.raised) ∧
  ∀ status, state.final = some status → state.threadAlive = false → state.file = some status

/-- A status call that has read a job of this process tests its thread while one is alive, and
one that has read a job of an earlier process writes before this process has announced one. -/
def inTime (state : ApplyState) : ApplyStep → Bool
  | .testThread call =>
    match state.calls call with
    | some (.read status) => status.jobId.isNone || state.threadAlive
    | _ => true
  | .writeInterrupted call =>
    match state.calls call with
    | some (.doomed status) => status.jobId.isSome || state.nextJob == 0
    | _ => true
  | _ => true

end ApplyState

/-! ## Status calls in time -/

namespace ApplyState

/-- What holds along a run whose status calls are in time. -/
structure Sound (pid : Nat) (state : ApplyState) : Prop where
  worker : ∀ worker, state.worker = some worker →
    state.activeThread = some worker.jobId ∧ state.starter = .free ∧ 0 < state.nextJob
  announced : ∀ jobId, state.starter = .announced jobId → 0 < state.nextJob
  published : ∀ jobId, state.starter = .published jobId →
    state.activeThread = some jobId ∧ 0 < state.nextJob
  mine : ∀ status, state.file = some status → status.jobId ≠ none → status.workerPid = pid
  reads : ∀ call status, state.calls call = some (.read status) → status.jobId ≠ none →
    status.workerPid = pid
  calls : ∀ call status, state.calls call = some (.doomed status) → status.jobId = none
  told : ∀ status jobId, state.file = some status → status.status = .failed →
    status.jobId = some jobId → jobId ∈ state.raised
  raised : ∀ worker error, state.worker = some worker →
    (worker.phase = .raised error ∨ ∃ percent, worker.phase = .failing error percent) →
      worker.jobId ∈ state.raised
  final : ∀ status, state.final = some status → state.file = some status ∧
    0 < state.nextJob ∧ (∀ worker, state.worker = some worker → worker.phase = .written) ∧
      (state.starter = .free ∨ state.starter = .admitted)

theorem Sound.honest {pid : Nat} {state : ApplyState} (sound : state.Sound pid) : state.Honest :=
  ⟨sound.told, fun status isFinal _ => (sound.final status isFinal).1⟩

section Step

variable {pid : Nat} {state next : ApplyState} {step : ApplyStep}

section

variable (sound : state.Sound pid)

include sound

theorem Sound.alive_of_worker {worker : Worker} (isWorker : state.worker = some worker) :
    state.threadAlive = true := by
  simp only [threadAlive, isWorker, (sound.worker worker isWorker).1, BEq.rfl]

theorem Sound.idle_of_starter (busy : state.starter ≠ .free) :
    state.worker = none := by
  cases isWorker : state.worker with
  | none => rfl
  | some worker => exact absurd (sound.worker worker isWorker).2.1 busy

theorem Sound.final_of_starter (busy : state.starter ≠ .free)
    (announced : state.starter ≠ .admitted) : state.final = none := by
  cases isFinal : state.final with
  | none => rfl
  | some status => exact absurd (sound.final status isFinal).2.2.2 (not_or.mpr ⟨busy, announced⟩)

theorem Sound.startStep (stepped : state.startStep pid step = some next) : next.Sound pid := by
  cases step with
  | enterStart =>
    simp only [ApplyState.startStep, Option.ite_none_right_eq_some, Option.some.injEq] at stepped
    rcases stepped with ⟨⟨_, notAlive⟩, rfl⟩
    refine { sound with worker := ?_, announced := nofun, published := nofun, final := ?_ }
    · intro worker isWorker
      rw [sound.alive_of_worker isWorker] at notAlive
      cases notAlive
    · intro status isFinal
      rcases sound.final status isFinal with ⟨written, started, ended, _⟩
      exact ⟨written, started, ended, .inr rfl⟩
  | writeQueued =>
    simp only [ApplyState.startStep, Option.ite_none_right_eq_some, Option.some.injEq] at stepped
    rcases stepped with ⟨isAdmitted, rfl⟩
    have noWorker := sound.idle_of_starter (by rw [isAdmitted]; nofun)
    refine { sound with
      worker := ?_, announced := ?_, published := nofun, mine := ?_, told := ?_,
      final := nofun }
    · intro worker isWorker
      rw [noWorker] at isWorker
      cases isWorker
    · exact fun _ _ => Nat.succ_pos _
    · intro status isFile _
      cases isFile
      rfl
    · intro status jobId isFile failed
      cases isFile
      cases failed
  | publishThread =>
    simp only [ApplyState.startStep] at stepped
    split at stepped
    next jobId isAnnounced =>
      cases stepped
      have noWorker := sound.idle_of_starter (by rw [isAnnounced]; nofun)
      have noFinal := sound.final_of_starter (by rw [isAnnounced]; nofun)
        (by rw [isAnnounced]; nofun)
      refine { sound with worker := ?_, announced := nofun, published := ?_, final := ?_ }
      · intro worker isWorker
        rw [noWorker] at isWorker
        cases isWorker
      · intro other same
        cases same
        exact ⟨rfl, sound.announced jobId isAnnounced⟩
      · intro status isFinal
        rw [noFinal] at isFinal
        cases isFinal
    next => cases stepped
  | startThread =>
    simp only [ApplyState.startStep] at stepped
    split at stepped
    next jobId isPublished =>
      cases stepped
      have noFinal := sound.final_of_starter (by rw [isPublished]; nofun)
        (by rw [isPublished]; nofun)
      refine { sound with
        worker := ?_, announced := nofun, published := nofun, raised := ?_, final := ?_ }
      · intro worker same
        cases same
        rcases sound.published jobId isPublished with ⟨isActive, begun⟩
        exact ⟨isActive, rfl, begun⟩
      · intro worker error same phase
        cases same
        rcases phase with isRaised | ⟨percent, isFailing⟩
        · cases isRaised
        · cases isFailing
      · intro status isFinal
        rw [noFinal] at isFinal
        cases isFinal
    next => cases stepped
  | _ => cases stepped

section

variable {worker : Worker} (isWorker : state.worker = some worker)

include worker isWorker

theorem Sound.unwritten (unwritten : worker.phase ≠ .written) :
    state.final = none := by
  cases isFinal : state.final with
  | none => rfl
  | some status => exact absurd ((sound.final status isFinal).2.2.1 worker isWorker) unwritten

theorem Sound.working (unwritten : worker.phase ≠ .written)
    {file : Option ApplyStatus} {phase : JobPhase} {raised : List Nat}
    (mine : ∀ status, file = some status → status.jobId ≠ none → status.workerPid = pid)
    (told : ∀ status jobId, file = some status → status.status = .failed →
      status.jobId = some jobId → jobId ∈ state.raised)
    (more : ∀ jobId ∈ state.raised, jobId ∈ raised)
    (isRaised : ∀ error, (phase = .raised error ∨ ∃ percent, phase = .failing error percent) →
      worker.jobId ∈ raised) :
    Sound pid { state with file, worker := some { worker with phase }, raised } where
  worker := by
    intro other same
    cases same
    exact sound.worker worker isWorker
  announced := sound.announced
  published := sound.published
  mine := mine
  reads := sound.reads
  calls := sound.calls
  told := fun status jobId isFile failed isJob =>
    more jobId (told status jobId isFile failed isJob)
  raised := by
    intro other error same phases
    cases same
    exact isRaised error phases
  final := by
    intro status isFinal
    rw [sound.unwritten isWorker unwritten] at isFinal
    cases isFinal

theorem Sound.finishes {status : ApplyStatus}
    (mine : status.workerPid = pid)
    (told : status.status = .failed → ∀ jobId, status.jobId = some jobId →
      jobId ∈ state.raised) :
    Sound pid { state with
      file := some status
      worker := some { worker with phase := .written }
      final := some status } where
  worker := by
    intro other same
    cases same
    exact sound.worker worker isWorker
  announced := sound.announced
  published := sound.published
  mine := by
    intro other isFile _
    cases isFile
    exact mine
  reads := sound.reads
  calls := sound.calls
  told := by
    intro other jobId isFile failed isJob
    cases isFile
    exact told failed jobId isJob
  raised := by
    rintro other error same (isRaised | ⟨percent, isFailing⟩)
    · cases same
      cases isRaised
    · cases same
      cases isFailing
  final := by
    intro other isFinal
    cases isFinal
    rcases sound.worker worker isWorker with ⟨_, isFree, begun⟩
    refine ⟨rfl, begun, ?_, .inl isFree⟩
    intro last same
    cases same
    rfl

theorem Sound.jobStep (stepped : state.jobStep pid worker step = some next) : next.Sound pid := by
  cases step with
  | progress phase percent message =>
    simp only [ApplyState.jobStep, Option.ite_none_right_eq_some, Option.some.injEq] at stepped
    rcases stepped with ⟨isApplying, rfl⟩
    have goesOn := @Sound.working pid state sound worker isWorker (by rw [isApplying]; nofun)
      (some (progressStatus pid worker.jobId phase percent message)) worker.phase state.raised
      (fun status isFile _ => by cases isFile; rfl)
      (fun status jobId isFile failed _ => by cases isFile; cases failed) (fun _ => id)
      (fun error phases => sound.raised worker error isWorker phases)
    rw [← isWorker] at goesOn
    exact goesOn
  | applyReturns =>
    simp only [ApplyState.jobStep, Option.ite_none_right_eq_some, Option.some.injEq] at stepped
    rcases stepped with ⟨isApplying, rfl⟩
    apply sound.working isWorker (by rw [isApplying]; nofun) sound.mine sound.told fun _ => id
    rintro error (isRaised | ⟨percent, isFailing⟩)
    · cases isRaised
    · cases isFailing
  | applyRaises =>
    simp only [ApplyState.jobStep, Option.ite_none_right_eq_some, Option.some.injEq] at stepped
    rcases stepped with ⟨isApplying, rfl⟩
    exact sound.working isWorker (by rw [isApplying]; nofun) sound.mine sound.told
      (fun _ => List.mem_cons_of_mem _) (fun _ _ => List.mem_cons_self)
  | writeSucceeded =>
    simp only [ApplyState.jobStep, Option.ite_none_right_eq_some, Option.some.injEq] at stepped
    rcases stepped with ⟨_, rfl⟩
    exact sound.finishes isWorker rfl fun failed => by cases failed
  | readPercent =>
    simp only [ApplyState.jobStep] at stepped
    split at stepped
    next error isRaised =>
      cases stepped
      exact sound.working isWorker (by rw [isRaised]; nofun) sound.mine sound.told (fun _ => id)
        (fun _ _ => sound.raised worker error isWorker (.inl isRaised))
    next => cases stepped
  | writeFailed =>
    simp only [ApplyState.jobStep] at stepped
    split at stepped
    next error percent isFailing =>
      cases stepped
      apply sound.finishes isWorker (by cases error <;> rfl)
      intro _ jobId isJob
      have mine := sound.raised worker error isWorker (.inr ⟨percent, isFailing⟩)
      cases error <;> cases isJob <;> exact mine
    next => cases stepped
  | threadEnds =>
    simp only [ApplyState.jobStep, Option.ite_none_right_eq_some, Option.some.injEq] at stepped
    rcases stepped with ⟨_, rfl⟩
    refine { sound with worker := nofun, raised := nofun, final := ?_ }
    intro status isFinal
    rcases sound.final status isFinal with ⟨written, begun, _, starter⟩
    exact ⟨written, begun, nofun, starter⟩
  | _ => cases stepped

end

theorem Sound.withCall (call : Nat) {value : Option StatusCall}
    (reads : ∀ status, value = some (.read status) → status.jobId ≠ none →
      status.workerPid = pid)
    (foreign : ∀ status, value = some (.doomed status) → status.jobId = none) :
    Sound pid { state with calls := Function.update state.calls call value } := by
  refine { sound with reads := ?_, calls := ?_ }
  · intro other found isRead
    change Function.update state.calls call value other = _ at isRead
    rw [Function.update_apply] at isRead
    split at isRead
    · exact reads found isRead
    · exact sound.reads other found isRead
  · intro other found isDoomed
    change Function.update state.calls call value other = _ at isDoomed
    rw [Function.update_apply] at isDoomed
    split at isDoomed
    · exact foreign found isDoomed
    · exact sound.calls other found isDoomed

theorem Sound.callStep (timely : state.inTime step = true)
    (stepped : state.callStep pid step = some next) : next.Sound pid := by
  cases step with
  | readStatus call =>
    simp only [ApplyState.callStep] at stepped
    split at stepped
    next status _ isFile =>
      split at stepped
      next =>
        cases stepped
        refine sound.withCall call ?_ fun _ same => by cases same
        intro other same
        cases same
        exact sound.mine status isFile
      next =>
        cases stepped
        exact sound
    next =>
      cases stepped
      exact sound
    next => cases stepped
  | testThread call =>
    simp only [ApplyState.callStep] at stepped
    split at stepped
    next status isRead =>
      split at stepped
      next =>
        cases stepped
        exact sound.withCall call nofun nofun
      next notMine =>
        cases stepped
        refine sound.withCall call (fun _ same => by cases same) ?_
        intro other same
        cases same
        cases isJob : status.jobId with
        | none => rfl
        | some =>
          have isMine := sound.reads call status isRead (by rw [isJob]; nofun)
          simp only [inTime, isRead, isJob, Option.isNone_some, Bool.false_or] at timely
          simp only [timely, isMine, BEq.rfl, Bool.and_true, not_true_eq_false] at notMine
    next => cases stepped
  | writeInterrupted call =>
    simp only [ApplyState.callStep] at stepped
    split at stepped
    next status isDoomed =>
      cases stepped
      have foreign := sound.calls call status isDoomed
      have unbegun : state.nextJob = 0 := by
        simp only [inTime, isDoomed, foreign, Option.isSome_none, Bool.false_or,
          beq_iff_eq] at timely
        exact timely
      have sound := @Sound.withCall pid state sound call none nofun nofun
      refine { sound with mine := ?_, told := ?_, final := ?_ }
      · intro other same isJob
        cases same
        exact absurd foreign isJob
      · intro other jobId same _ isJob
        cases same
        rw [show status.interrupted.jobId = status.jobId from rfl, foreign] at isJob
        cases isJob
      · intro other isFinal
        have begun : 0 < state.nextJob := (sound.final other isFinal).2.1
        omega
    next => cases stepped
  | _ => cases stepped

/-- The step lemma: in time, a step leaves every told outcome true. -/
theorem Sound.applyStep (timely : state.inTime step = true)
    (stepped : state.applyStep pid step = some next) : next.Sound pid := by
  cases step with
  | enterStart => exact @Sound.startStep pid state next .enterStart sound stepped
  | writeQueued => exact @Sound.startStep pid state next .writeQueued sound stepped
  | publishThread => exact @Sound.startStep pid state next .publishThread sound stepped
  | startThread => exact @Sound.startStep pid state next .startThread sound stepped
  | stop =>
    cases stepped
    refine { sound with mine := ?_, told := ?_, final := nofun }
    · intro status isFile isJob
      cases isFile
      exact absurd rfl isJob
    · intro status jobId isFile failed
      cases isFile
      cases failed
  | readStatus call => exact @Sound.callStep pid state next (.readStatus call) sound timely stepped
  | testThread call => exact @Sound.callStep pid state next (.testThread call) sound timely stepped
  | writeInterrupted call =>
    exact @Sound.callStep pid state next (.writeInterrupted call) sound timely stepped
  | _ =>
    rcases Option.bind_eq_some_iff.mp stepped with ⟨worker, isWorker, stepped⟩
    exact @Sound.jobStep pid state next _ sound worker isWorker stepped

end

end Step

end ApplyState

/-- While the status calls are in time, no outcome of a job is told wrong. -/
theorem apply_outcomes_honest (pid : Nat) {state : ApplyState}
    (reached : ((applyMachine pid).restrict fun current step =>
      current.inTime step = true).Reachable state) : state.Honest := by
  have invariant : ((applyMachine pid).restrict fun current step =>
      current.inTime step = true).Invariant (ApplyState.Sound pid) := by
    constructor
    · rintro state ⟨file, foreign, rfl⟩
      refine ⟨nofun, nofun, nofun, ?_, nofun, nofun, ?_, nofun, nofun⟩
      · intro status isFile isJob
        exact absurd (foreign status isFile) isJob
      · intro status jobId isFile _ isJob
        rw [foreign status isFile] at isJob
        cases isJob
    · intro current step next _ sound stepped
      rcases Machine.restrict_step_eq_some.mp stepped with ⟨timely, stepped⟩
      exact sound.applyStep timely stepped
  exact (invariant.holds reached).honest

/-- A start, a job that succeeds, and a status call that looks for the thread while it runs. -/
def calledInTime : List ApplyStep :=
  [.enterStart, .writeQueued, .publishThread, .startThread, .readStatus 0,
    .progress "apply" 50 "", .testThread 0, .applyReturns, .writeSucceeded, .threadEnds]

/-- A status call between the announcement of a job and the start of its thread. -/
def calledEarly : List ApplyStep :=
  [.enterStart, .writeQueued, .readStatus 0, .testThread 0, .publishThread, .startThread,
    .writeInterrupted 0]

/-- A status call that reads a running job and looks for its thread after its end. -/
def calledLate : List ApplyStep :=
  [.enterStart, .writeQueued, .publishThread, .startThread, .readStatus 0, .applyReturns,
    .writeSucceeded, .threadEnds, .testThread 0, .writeInterrupted 0]

theorem fresh_initial (pid : Nat) : (applyMachine pid).initial { file := none } :=
  ⟨none, nofun, rfl⟩

theorem apply_outcomes_honest_in_time :
    ∃ state, ((applyMachine 7).restrict fun current step =>
      current.inTime step = true).run { file := none } calledInTime = some state ∧
        state.Honest ∧ state.final = some (succeededStatus 7 0) := by
  have start : ((applyMachine 7).restrict fun current step =>
      current.inTime step = true).Reachable { file := none } := .start (fresh_initial 7)
  rcases ran : ((applyMachine 7).restrict fun current step =>
      current.inTime step = true).run { file := none } calledInTime with _ | state
  · exact absurd ran nofun
  · refine ⟨state, rfl, apply_outcomes_honest 7 (start.run ran), ?_⟩
    cases ran
    rfl

theorem status_calls_fail_jobs :
    (∃ state, (applyMachine 7).run { file := none } calledEarly = some state ∧ ¬state.Honest) ∧
      ∃ state, (applyMachine 7).run { file := none } calledLate = some state ∧ ¬state.Honest := by
  constructor
  · refine ⟨_, rfl, ?_⟩
    intro honest
    exact absurd (honest.1 _ 0 rfl rfl rfl) List.not_mem_nil
  · refine ⟨_, rfl, ?_⟩
    intro honest
    exact absurd (honest.2 _ rfl rfl) (by decide)

end VideoAnalysis.Topology
