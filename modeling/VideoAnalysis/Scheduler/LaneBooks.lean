import VideoAnalysis.Scheduler.ExecutorLane

/-! # The books of the executor lane

As long as no `cancel` reaches a ticket whose submission has begun, every ticket
follows one course, and the lane's counts are the counts of the tickets at each
point of it.
-/

namespace VideoAnalysis.Scheduler

open Foundation

namespace LaneTicket

variable (ticket : LaneTicket)

def holdsSlot : Bool := !ticket.released || ticket.releasing.isSome

/-- A release that has set the ticket's flag and not reached the lane. -/
def leaving : Bool :=
  match ticket.releasing with
  | some (.lane _ _) => true
  | _ => false

def isReserved : Bool := !ticket.released || ticket.leaving

def submitCounted : Bool :=
  ticket.call ≠ .idle && ticket.call ≠ .marked

def startCounted : Bool := ticket.started && ticket.work ≠ .starting

def isQueued : Bool :=
  ticket.isReserved && ticket.submitCounted && !ticket.startCounted

def isActive : Bool := ticket.isReserved && ticket.startCounted

/-- The executor has the function, and it has neither returned nor been cancelled. -/
def unfinished : Bool :=
  ticket.work = .pending || ticket.work = .entered || ticket.work = .starting ||
    ticket.work = .running

/-- The course of a ticket: it is released before its submission begins, when that
fails, when its function has ended or when its future is cancelled. -/
structure Valid (ticket : LaneTicket) : Prop where
  submitted : ticket.submitted = true ↔ ticket.call ≠ .idle
  started : ticket.started = true ↔ ticket.work = .starting ∨ ticket.work = .running ∨
    ticket.work = .returned ∨ ticket.work = .finished
  accepted : ticket.work ≠ .absent ↔ ticket.call = .accepted ∨ ticket.call = .attached
  released : ticket.released = true → ticket.call = .idle ∨ ticket.call = .raised ∨
    ticket.work = .finished ∨ ticket.work = .dropped
  past : ticket.call = .raised ∨ ticket.work = .finished ∨ ticket.work = .dropped →
    ticket.released = true
  settled : ticket.released = false → ticket.releasing = none
  stage : ∀ submitted started, ticket.releasing = some (.lane submitted started) →
    submitted = ticket.submitted ∧ started = ticket.started

attribute [grind cases] Valid

/-- The lane counts both tickets alike. -/
structure Alike (after before : LaneTicket) : Prop where
  slot : after.holdsSlot = before.holdsSlot
  reserved : after.isReserved = before.isReserved
  queued : after.isQueued = before.isQueued
  active : after.isActive = before.isActive

def Unseen (test : LaneTicket → Prop) (change : LaneTicket → LaneTicket) : Prop :=
  ∀ ticket, ticket.Valid → test ticket → (change ticket).Valid ∧ (change ticket).Alike ticket

theorem Alike.refl (ticket : LaneTicket) : Alike ticket ticket := ⟨rfl, rfl, rfl, rfl⟩

theorem Alike.trans {first second third : LaneTicket} (left : Alike first second)
    (right : Alike second third) : Alike first third :=
  ⟨left.slot.trans right.slot, left.reserved.trans right.reserved,
    left.queued.trans right.queued, left.active.trans right.active⟩

theorem Alike.of_counted {after before : LaneTicket}
    (released : after.released = before.released)
    (releasing : after.releasing = before.releasing)
    (submitted : after.submitCounted = before.submitCounted)
    (started : after.startCounted = before.startCounted) : Alike after before := by
  have leaving : after.leaving = before.leaving := by simp only [LaneTicket.leaving, releasing]
  have reserved : after.isReserved = before.isReserved := by
    simp only [isReserved, released, leaving]
  constructor
  · simp only [holdsSlot, released, releasing]
  · exact reserved
  · simp only [isQueued, reserved, submitted, started]
  · simp only [isActive, reserved, started]

theorem release_alike (ticket : LaneTicket) : Alike ticket.release ticket := by
  simp only [release]
  split
  next => exact .refl _
  next kept =>
    have held : ticket.released = false := by simpa using kept
    constructor <;>
      simp [holdsSlot, isReserved, leaving, isQueued, isActive, submitCounted, startCounted, held]

theorem release_work (ticket : LaneTicket) : ticket.release.work = ticket.work := by
  unfold release
  split <;> rfl

/-! ## Changes the lane does not see -/

theorem submit_unseen :
    Unseen (fun _ => True) fun ticket =>
      match ticket.markSubmitted with
      | .error _ => ticket
      | .ok marked => marked := by
  intro ticket valid _
  beta_reduce
  split
  next => exact ⟨valid, .refl _⟩
  next marked accepted =>
    simp only [markSubmitted] at accepted
    split at accepted
    next => cases accepted
    next kept =>
      split at accepted
      next => cases accepted
      next fresh =>
        cases accepted
        have idle : ticket.call = .idle := by grind -ring -linarith
        refine ⟨?_, .of_counted rfl rfl ?_ rfl⟩
        · constructor <;> grind -ring -linarith
        · simp [submitCounted, idle]

theorem checkMode_unseen (admitted : Bool) :
    Unseen (·.call = .counted) fun ticket =>
      { ticket with call := if admitted then .admitted else .refused } := by
  intro ticket valid counted
  refine ⟨?_, .of_counted rfl rfl ?_ rfl⟩
  · constructor <;> grind -ring -linarith
  · cases admitted <;> simp [submitCounted, counted]

theorem executorSubmit_unseen (isOpen : Bool) :
    Unseen (·.call = .admitted) fun ticket =>
      if isOpen then { ticket with call := .accepted, work := .pending }
      else { ticket with call := .refused } := by
  intro ticket valid admitted
  have absent : ticket.work = .absent := by grind -ring -linarith
  beta_reduce
  split
  · refine ⟨?_, .of_counted rfl rfl ?_ ?_⟩
    · constructor <;> grind -ring -linarith
    · simp [submitCounted, admitted]
    · simp [startCounted, absent]
  · refine ⟨?_, .of_counted rfl rfl ?_ rfl⟩
    · constructor <;> grind -ring -linarith
    · simp [submitCounted, admitted]

theorem raiseSubmit_unseen :
    Unseen (·.call = .refused) fun ticket => { ticket.release with call := .raised } := by
  intro ticket valid refused
  have sameCall : ticket.release.call = .refused := by
    simp only [release]
    split <;> exact refused
  refine ⟨?_, Alike.trans ?_ (release_alike ticket)⟩
  · constructor <;> grind -ring -linarith [release]
  · apply Alike.of_counted
    · rfl
    · rfl
    · simp [submitCounted, sameCall]
    · rfl

theorem attach_unseen : Unseen (·.call = .accepted) ({ · with call := .attached }) := by
  intro ticket valid called
  refine ⟨?_, .of_counted rfl rfl ?_ rfl⟩
  · constructor <;> grind -ring -linarith
  · simp [submitCounted, called]

theorem start_unseen : Unseen (·.work = .pending) ({ · with work := .entered }) := by
  intro ticket valid pending
  refine ⟨?_, .of_counted rfl rfl rfl ?_⟩
  · constructor <;> grind -ring -linarith
  · simp [startCounted, pending]

theorem markStarted_unseen : Unseen (·.work = .entered) (·.markStarted) := by
  intro ticket valid entered
  have kept : ticket.released = false := by grind -ring -linarith
  have unstarted : ticket.started = false := by grind -ring -linarith
  simp only [markStarted, kept, Bool.false_eq_true, if_false]
  refine ⟨?_, .of_counted kept.symm rfl rfl ?_⟩
  · constructor <;> grind -ring -linarith
  · simp [startCounted, unstarted]

theorem returned_unseen : Unseen (·.work = .running) ({ · with work := .returned }) := by
  intro ticket valid running
  refine ⟨?_, .of_counted rfl rfl rfl ?_⟩
  · constructor <;> grind -ring -linarith
  · simp [startCounted, running]

theorem finish_unseen :
    Unseen (·.work = .returned) fun ticket => { ticket.release with work := .finished } := by
  intro ticket valid returned
  refine ⟨?_, Alike.trans ?_ (release_alike ticket)⟩
  · constructor <;> grind -ring -linarith [release]
  · apply Alike.of_counted
    · rfl
    · rfl
    · rfl
    · simp [startCounted, release_work, returned]

theorem cancelFuture_unseen : Unseen (·.work = .pending) ({ · with work := .cancelled }) := by
  intro ticket valid pending
  refine ⟨?_, .of_counted rfl rfl rfl ?_⟩
  · constructor <;> grind -ring -linarith
  · simp [startCounted, pending]

theorem callback_unseen :
    Unseen (fun ticket => ticket.work = .cancelled ∧ ticket.call = .attached) fun ticket =>
      { ticket.release with work := .dropped } := by
  intro ticket valid cancelled
  refine ⟨?_, Alike.trans ?_ (release_alike ticket)⟩
  · constructor <;> grind -ring -linarith [release]
  · apply Alike.of_counted
    · rfl
    · rfl
    · rfl
    · simp [startCounted, release_work, cancelled.1]

theorem release_unseen :
    Unseen (fun ticket => ticket.released = true ∨ ticket.submitted = false) (·.release) := by
  intro ticket valid early
  refine ⟨?_, release_alike ticket⟩
  constructor <;> grind -ring -linarith [release]

theorem exiting_unseen (ticket : LaneTicket) (valid : ticket.Valid) (exiting : Nat) :
    Valid { ticket with exiting } ∧ Alike { ticket with exiting } ticket := by
  rcases valid with ⟨submitted, started, accepted, released, past, settled, stage⟩
  exact ⟨⟨submitted, started, accepted, released, past, settled, stage⟩, ⟨rfl, rfl, rfl, rfl⟩⟩

end LaneTicket

structure LaneBooks (lane : ExecutorLane) (holding : Nat) (tickets : List LaneTicket) : Prop where
  valid : ∀ (index : Nat) (ticket : LaneTicket), tickets[index]? = some ticket → ticket.Valid
  slots : lane.capacity - lane.free = holding + tally (·.holdsSlot) tickets
  free : 0 ≤ lane.free
  reserved : lane.reserved = tally (·.isReserved) tickets
  queued : lane.queued = tally (·.isQueued) tickets
  active : lane.active = tally (·.isActive) tickets

namespace LaneBooks

variable {lane : ExecutorLane} {holding : Nat} {tickets : List LaneTicket}

section

variable (books : LaneBooks lane holding tickets)

include books

theorem replace {index : Nat}
    {before after : LaneTicket} (found : tickets[index]? = some before)
    (validAfter : after.Valid) {changed : ExecutorLane}
    (sameCapacity : changed.capacity = lane.capacity)
    (free : changed.free = lane.free + (if before.holdsSlot then 1 else 0) -
      if after.holdsSlot then 1 else 0)
    (nonneg : 0 ≤ changed.free)
    (reserved : changed.reserved = lane.reserved - (if before.isReserved then 1 else 0) +
      if after.isReserved then 1 else 0)
    (queued : changed.queued = lane.queued - (if before.isQueued then 1 else 0) +
      if after.isQueued then 1 else 0)
    (active : changed.active = lane.active - (if before.isActive then 1 else 0) +
      if after.isActive then 1 else 0) :
    LaneBooks changed holding (tickets.set index after) := by
  have bound : index < tickets.length := (List.getElem?_eq_some_iff.mp found).1
  constructor
  · intro position ticket located
    by_cases same : position = index
    · subst same
      rw [List.getElem?_set_self bound] at located
      cases located
      exact validAfter
    · rw [List.getElem?_set_ne (Ne.symm same)] at located
      exact books.valid _ _ located
  · rw [sameCapacity, free, tally_set _ found]
    have slots := books.slots
    omega
  · exact nonneg
  · rw [reserved, books.reserved, tally_set _ found]
  · rw [queued, books.queued, tally_set _ found]
  · rw [active, books.active, tally_set _ found]

theorem replace_alike {index : Nat} {before after : LaneTicket}
    (found : tickets[index]? = some before) (validAfter : after.Valid)
    (alike : after.Alike before) :
    LaneBooks lane holding (tickets.set index after) := by
  apply books.replace found validAfter rfl
  · rw [alike.slot, Int.add_sub_cancel]
  · exact books.free
  · rw [alike.reserved, Int.sub_add_cancel]
  · rw [alike.queued, Int.sub_add_cancel]
  · rw [alike.active, Int.sub_add_cancel]

theorem reserved_le :
    lane.reserved + holding ≤ lane.capacity - lane.free := by
  have within : tally (·.isReserved) tickets ≤ tally (·.holdsSlot) tickets := by
    apply tally_mono
    intro ticket _ reserved
    simp only [LaneTicket.isReserved, LaneTicket.leaving, Bool.or_eq_true] at reserved
    simp only [LaneTicket.holdsSlot, Bool.or_eq_true]
    rcases reserved with kept | leaving
    · exact Or.inl kept
    · right
      split at leaving
      next stage => simp [stage]
      next => cases leaving
  rw [books.reserved, books.slots]
  omega

theorem queued_active_le :
    lane.queued + lane.active ≤ lane.reserved := by
  rw [books.queued, books.active, books.reserved,
    ← tally_split (fun _ _ => rfl : ∀ ticket ∈ tickets,
      (ticket.isQueued || ticket.isActive) = (ticket.isQueued || ticket.isActive))]
  · apply tally_mono
    intro ticket _ counted
    simp only [LaneTicket.isQueued, LaneTicket.isActive, Bool.or_eq_true,
      Bool.and_eq_true] at counted
    rcases counted with ⟨⟨reserved, _⟩, _⟩ | ⟨reserved, _⟩ <;> exact reserved
  · intro ticket _ queued
    simp only [LaneTicket.isQueued, Bool.and_eq_true, Bool.not_eq_true'] at queued
    simp [LaneTicket.isActive, queued.2]

theorem unfinished_le :
    tally (·.unfinished) tickets ≤ lane.capacity := by
  have within : tally (·.unfinished) tickets ≤ tally (·.holdsSlot) tickets := by
    apply tally_mono
    intro ticket member unfinished
    rcases List.getElem?_of_mem member with ⟨index, found⟩
    have valid := books.valid _ _ found
    have kept : ticket.released = false := by
      grind -ring -linarith [LaneTicket.unfinished]
    simp [LaneTicket.holdsSlot, kept]
  have slots := books.slots
  have free := books.free
  omega

theorem counts_of_released (released : ∀ ticket ∈ tickets, ticket.isReserved = false) :
    lane.reserved = 0 ∧ lane.queued = 0 ∧ lane.active = 0 := by
  have none : tally (·.isReserved) tickets = 0 := by
    have counted : tickets.countP (·.isReserved) = 0 := by
      apply List.countP_eq_zero.mpr
      intro ticket member
      simp [released ticket member]
    simp [tally, counted]
  have queued := tally_nonneg (·.isQueued) tickets
  have active := tally_nonneg (·.isActive) tickets
  have within := books.queued_active_le
  rw [← books.queued] at queued
  rw [← books.active] at active
  rw [← books.reserved] at none
  omega

end

end LaneBooks

end VideoAnalysis.Scheduler
