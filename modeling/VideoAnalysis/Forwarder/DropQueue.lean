import VideoAnalysis.Foundation.Places

/-! # The queue in front of the analysis

A queue that never blocks its producer: when it is full, a keyframe or a control message
takes the place of the first plain frame, and everything else is turned away.
-/

namespace VideoAnalysis.Forwarder

open Foundation

/-- A message for the analysis; `Content` is what the queue does not look at. -/
structure ForwarderMessage (Content : Type) where
  content : Content
  keyframe : Bool := false
  videoFrame : Bool := true

structure PushResult (Content : Type) where
  accepted : Bool
  dropped : Option (ForwarderMessage Content) := none
  reason : String := ""

structure BoundedDropQueue (Content : Type) where
  maxSize : Nat
  items : List (ForwarderMessage Content) := []

variable {Content : Type}

def ForwarderMessage.plain (item : ForwarderMessage Content) : Bool :=
  item.videoFrame && !item.keyframe

namespace BoundedDropQueue

def ofSize (maxSize : Int) : BoundedDropQueue Content where
  maxSize := (max maxSize 1).toNat

def append (queue : BoundedDropQueue Content) (item : ForwarderMessage Content) :
    BoundedDropQueue Content :=
  { queue with items := queue.items ++ [item] }

def delete (queue : BoundedDropQueue Content) (index : Nat) : BoundedDropQueue Content :=
  { queue with items := queue.items.eraseIdx index }

def push (queue : BoundedDropQueue Content) (item : ForwarderMessage Content) :
    BoundedDropQueue Content × PushResult Content :=
  if queue.items.length < queue.maxSize then (queue.append item, { accepted := true })
  else
    let refused := (queue, { accepted := false, dropped := some item, reason := "queue_full" })
    if item.keyframe || !item.videoFrame then
      match queue.items.findIdx? ForwarderMessage.plain with
      | some index =>
        ((queue.delete index).append item,
          { accepted := true
            dropped := queue.items[index]?
            reason := "evicted_non_keyframe" })
      | none => refused
    else refused

/-- `pop`, with nothing where the time runs out first. -/
def pop (queue : BoundedDropQueue Content) :
    BoundedDropQueue Content × Option (ForwarderMessage Content) :=
  match queue.items with
  | [] => (queue, none)
  | item :: rest => ({ queue with items := rest }, some item)

end BoundedDropQueue

/-! ## Runs -/

inductive QueueCall (Content : Type)
  | push (item : ForwarderMessage Content)
  | pop

/-- The queue with what went in and what came out of it so far, in order. -/
structure QueueHistory (Content : Type) where
  queue : BoundedDropQueue Content
  pushed : List (ForwarderMessage Content) := []
  popped : List (ForwarderMessage Content) := []
  dropped : List (ForwarderMessage Content) := []

namespace QueueHistory

def call (history : QueueHistory Content) : QueueCall Content → QueueHistory Content
  | .push item =>
    { history with
      queue := (history.queue.push item).1
      pushed := history.pushed ++ [item]
      dropped := history.dropped ++ (history.queue.push item).2.dropped.toList }
  | .pop =>
    { history with
      queue := history.queue.pop.1
      popped := history.popped ++ history.queue.pop.2.toList }

def run (maxSize : Int) (calls : List (QueueCall Content)) : QueueHistory Content :=
  calls.foldl call { queue := .ofSize maxSize }

end QueueHistory

/-! ## What a push does -/

namespace BoundedDropQueue

variable {queue : BoundedDropQueue Content} {item : ForwarderMessage Content}

theorem push_of_room (item : ForwarderMessage Content)
    (room : queue.items.length < queue.maxSize) :
    queue.push item = (queue.append item, { accepted := true }) := if_pos room

/-- A plain frame is turned away from a full queue, and so is any other message that finds
no plain frame in it; else the first of these gives way. -/
theorem push_of_full (item : ForwarderMessage Content)
    (full : queue.maxSize ≤ queue.items.length) :
    (queue.push item =
        (queue, { accepted := false, dropped := some item, reason := "queue_full" }) ∧
      (item.plain = true ∨ ∀ queued ∈ queue.items, queued.plain = false)) ∨
    ∃ index evicted, queue.items[index]? = some evicted ∧ evicted.plain = true ∧
      queue.push item = ((queue.delete index).append item,
        { accepted := true, dropped := some evicted, reason := "evicted_non_keyframe" }) := by
  unfold push
  rw [if_neg (Nat.not_lt.mpr full)]
  by_cases heeded : (item.keyframe || !item.videoFrame) = true
  · rw [if_pos heeded]
    split
    next index found =>
      rcases List.findIdx?_eq_some_iff_getElem.mp found with ⟨bound, isPlain, _⟩
      have isEvicted : queue.items[index]? = some queue.items[index] :=
        List.getElem?_eq_getElem bound
      exact .inr ⟨index, _, isEvicted, isPlain, by rw [isEvicted]⟩
    next missing =>
      exact .inl ⟨rfl, .inr (List.findIdx?_eq_none_iff.mp missing)⟩
  · rw [if_neg heeded]
    refine .inl ⟨rfl, .inl ?_⟩
    rw [Bool.not_eq_true, Bool.or_eq_false_iff, Bool.not_eq_false'] at heeded
    simp only [ForwarderMessage.plain, heeded.1, heeded.2, Bool.not_false, Bool.and_true]

theorem pop_of_ne_nil (inhabited : queue.items ≠ []) :
    ∃ first, queue.pop.2 = some first ∧ queue.items = first :: queue.pop.1.items := by
  unfold pop
  split
  next empty => exact absurd empty inhabited
  next first rest items => exact ⟨first, rfl, items⟩

theorem push_maxSize : (queue.push item).1.maxSize = queue.maxSize := by
  rcases Nat.lt_or_ge queue.items.length queue.maxSize with room | full
  · rw [push_of_room item room]
    rfl
  · rcases push_of_full item full with ⟨pushed, _⟩ | ⟨index, evicted, _, _, pushed⟩
    · rw [pushed]
    · rw [pushed]
      rfl

theorem push_length_le (within : queue.items.length ≤ queue.maxSize) :
    (queue.push item).1.items.length ≤ queue.maxSize := by
  rcases Nat.lt_or_ge queue.items.length queue.maxSize with room | full
  · rw [push_of_room item room]
    simp only [append, List.length_append, List.length_singleton]
    omega
  · rcases push_of_full item full with ⟨pushed, _⟩ | ⟨index, evicted, found, _, pushed⟩
    · rw [pushed]
      exact within
    · have bound := (List.getElem?_eq_some_iff.mp found).1
      rw [pushed]
      simp only [append, delete, List.length_append, List.length_singleton,
        List.length_eraseIdx_of_lt bound]
      omega

theorem push_drops_heeded {dropped : ForwarderMessage Content}
    (isDropped : (queue.push item).2.dropped = some dropped) (heeded : dropped.plain = false) :
    queue.maxSize ≤ queue.items.length ∧ ∀ queued ∈ queue.items, queued.plain = false := by
  rcases Nat.lt_or_ge queue.items.length queue.maxSize with room | full
  · rw [push_of_room item room] at isDropped
    cases isDropped
  · rcases push_of_full item full with
      ⟨pushed, isPlain | nonePlain⟩ | ⟨index, evicted, _, isPlain, pushed⟩
    · rw [pushed] at isDropped
      cases isDropped
      rw [isPlain] at heeded
      cases heeded
    · exact ⟨full, nonePlain⟩
    · rw [pushed] at isDropped
      cases isDropped
      rw [isPlain] at heeded
      cases heeded

end BoundedDropQueue

/-! ## Conservation -/

namespace QueueHistory

variable {history : QueueHistory Content}

/-- Every pushed item is in one place, and those not dropped are in the order of the
pushes. -/
structure Placed (history : QueueHistory Content) (poppedAt queuedAt droppedAt : List Nat) :
    Prop where
  each : (poppedAt ++ queuedAt ++ droppedAt).Perm (List.range history.pushed.length)
  popped : AtPlaces history.pushed poppedAt history.popped
  queued : AtPlaces history.pushed queuedAt history.queue.items
  dropped : AtPlaces history.pushed droppedAt history.dropped
  ordered : (poppedAt ++ queuedAt).Pairwise (· < ·)

def Conserved (history : QueueHistory Content) : Prop :=
  ∃ poppedAt queuedAt droppedAt, history.Placed poppedAt queuedAt droppedAt

variable {poppedAt queuedAt droppedAt : List Nat}

section

variable (placed : history.Placed poppedAt queuedAt droppedAt)

include placed

theorem Placed.lt_length :
    ∀ place ∈ poppedAt ++ queuedAt, place < history.pushed.length := by
  intro place member
  rcases List.mem_append.mp member with inPopped | inQueued
  · exact placed.popped.lt_length place inPopped
  · exact placed.queued.lt_length place inQueued

theorem Placed.ordered_concat {kept : List Nat}
    (within : (poppedAt ++ kept).Sublist (poppedAt ++ queuedAt)) :
    (poppedAt ++ (kept ++ [history.pushed.length])).Pairwise (· < ·) := by
  rw [← List.append_assoc, List.pairwise_append]
  refine ⟨placed.ordered.sublist within, List.pairwise_singleton _ _, ?_⟩
  intro place member last isLast
  rw [List.mem_singleton.mp isLast]
  exact placed.lt_length place (within.subset member)

theorem Placed.push_room {item : ForwarderMessage Content}
    (room : history.queue.items.length < history.queue.maxSize) :
    (history.call (.push item)).Placed poppedAt (queuedAt ++ [history.pushed.length])
      droppedAt := by
  have pushed := BoundedDropQueue.push_of_room item room
  constructor
  · rw [call, List.length_append, List.length_singleton, List.range_succ]
    apply List.Perm.trans _ (placed.each.append_right [history.pushed.length])
    rw [← List.append_assoc, List.append_assoc, List.append_assoc (poppedAt ++ queuedAt)]
    exact List.perm_append_comm.append_left _
  · exact placed.popped.grow [item]
  · simp only [call, pushed, BoundedDropQueue.append]
    exact (placed.queued.grow [item]).append (AtPlaces.last _ item)
  · simp only [call, pushed, Option.toList_none, List.append_nil]
    exact placed.dropped.grow [item]
  · exact placed.ordered_concat (List.Sublist.refl _)

theorem Placed.push_refused {item : ForwarderMessage Content}
    (pushed : history.queue.push item =
      (history.queue, { accepted := false, dropped := some item, reason := "queue_full" })) :
    (history.call (.push item)).Placed poppedAt queuedAt
      (droppedAt ++ [history.pushed.length]) := by
  constructor
  · rw [call, List.length_append, List.length_singleton, List.range_succ, ← List.append_assoc]
    exact placed.each.append_right _
  · exact placed.popped.grow [item]
  · simp only [call, pushed]
    exact placed.queued.grow [item]
  · simp only [call, pushed, Option.toList_some]
    exact (placed.dropped.grow [item]).append (AtPlaces.last _ item)
  · exact placed.ordered

theorem Placed.push_evicts {item evicted : ForwarderMessage Content} {index place : Nat}
    (isPlace : queuedAt[index]? = some place) (isEvicted : history.pushed[place]? = some evicted)
    (pushed : history.queue.push item = ((history.queue.delete index).append item,
      { accepted := true, dropped := some evicted, reason := "evicted_non_keyframe" })) :
    (history.call (.push item)).Placed poppedAt
      (queuedAt.eraseIdx index ++ [history.pushed.length]) (droppedAt ++ [place]) := by
  constructor
  · rw [call, List.length_append, List.length_singleton, List.range_succ]
    apply List.Perm.trans _ (placed.each.append_right [history.pushed.length])
    rcases List.getElem?_eq_some_iff.mp isPlace with ⟨bound, isItem⟩
    have moved := isItem ▸ List.getElem_cons_eraseIdx_perm bound
    apply List.perm_iff_count.mpr
    intro other
    have counted := List.perm_iff_count.mp moved other
    simp only [List.count_append, List.count_cons, List.count_nil] at counted ⊢
    omega
  · exact placed.popped.grow [item]
  · simp only [call, pushed, BoundedDropQueue.append, BoundedDropQueue.delete]
    exact ((placed.queued.eraseIdx index).grow [item]).append (AtPlaces.last _ item)
  · simp only [call, pushed, Option.toList_some]
    exact (placed.dropped.append (AtPlaces.single isEvicted)).grow [item]
  · exact placed.ordered_concat ((List.eraseIdx_sublist _ _).append_left _)

end

theorem Placed.pop {place : Nat} {others : List Nat} {item : ForwarderMessage Content}
    {rest : List (ForwarderMessage Content)}
    (placed : history.Placed poppedAt (place :: others) droppedAt)
    (isFirst : history.queue.items = item :: rest)
    (atPlace : AtPlaces history.pushed [place] [item])
    (restPlaces : AtPlaces history.pushed others rest) :
    (history.call .pop).Placed (poppedAt ++ [place]) others droppedAt := by
  have popped : history.queue.pop = ({ history.queue with items := rest }, some item) := by
    rw [BoundedDropQueue.pop, isFirst]
  constructor
  · rw [List.append_assoc poppedAt]
    exact placed.each
  · simp only [call, popped, Option.toList_some]
    exact placed.popped.append atPlace
  · simp only [call, popped]
    exact restPlaces
  · exact placed.dropped
  · rw [List.append_assoc]
    exact placed.ordered

theorem Conserved.call (conserved : history.Conserved) (label : QueueCall Content) :
    (history.call label).Conserved := by
  rcases conserved with ⟨_, _, _, placed⟩
  cases label with
  | push item =>
    rcases Nat.lt_or_ge history.queue.items.length history.queue.maxSize with room | full
    · exact ⟨_, _, _, placed.push_room room⟩
    · rcases BoundedDropQueue.push_of_full item full with
        ⟨pushed, _⟩ | ⟨index, evicted, found, _, pushed⟩
      · exact ⟨_, _, _, placed.push_refused pushed⟩
      · rcases placed.queued.exists_place found with ⟨_, isPlace, isEvicted⟩
        exact ⟨_, _, _, placed.push_evicts isPlace isEvicted pushed⟩
  | pop =>
    cases isFirst : history.queue.items with
    | nil =>
      have same : history.call .pop = history := by
        simp [QueueHistory.call, BoundedDropQueue.pop, isFirst]
      rw [same]
      exact ⟨_, _, _, placed⟩
    | cons =>
      have queued := placed.queued
      rw [isFirst] at queued
      rcases queued.cons_inv with ⟨_, _, rfl, atPlace, restPlaces⟩
      exact ⟨_, _, _, placed.pop isFirst atPlace restPlaces⟩

theorem call_maxSize (label : QueueCall Content) :
    (history.call label).queue.maxSize = history.queue.maxSize := by
  cases label with
  | push => exact BoundedDropQueue.push_maxSize
  | pop =>
    simp only [call, BoundedDropQueue.pop]
    split <;> rfl

theorem call_length_le (within : history.queue.items.length ≤ history.queue.maxSize)
    (label : QueueCall Content) :
    (history.call label).queue.items.length ≤ history.queue.maxSize := by
  cases label with
  | push => exact BoundedDropQueue.push_length_le within
  | pop =>
    simp only [call, BoundedDropQueue.pop]
    split
    next => exact within
    next item rest isFirst =>
      rw [isFirst, List.length_cons] at within
      exact Nat.le_of_succ_le within

section

variable (maxSize : Int) (calls : List (QueueCall Content))

include maxSize calls

theorem run_append (label : QueueCall Content) :
    run maxSize (calls ++ [label]) = (run maxSize calls).call label := by
  rw [run, List.foldl_append]
  rfl

theorem run_maxSize :
    (run maxSize calls).queue.maxSize = (max maxSize 1).toNat := by
  induction calls using List.reverseRecOn with
  | nil => rfl
  | append_singleton _ _ induction => rw [run_append, call_maxSize, induction]

theorem run_length_le :
    (run maxSize calls).queue.items.length ≤ (max maxSize 1).toNat := by
  induction calls using List.reverseRecOn with
  | nil => exact Nat.zero_le _
  | append_singleton calls label induction =>
    rw [← run_maxSize maxSize calls] at induction ⊢
    rw [run_append]
    exact call_length_le induction label

theorem run_conserved :
    (run maxSize calls).Conserved := by
  induction calls using List.reverseRecOn with
  | nil =>
    refine ⟨[], [], [], List.Perm.refl _, AtPlaces.nil _, AtPlaces.nil _, AtPlaces.nil _, ?_⟩
    exact List.Pairwise.nil
  | append_singleton _ label induction =>
    rw [run_append]
    exact induction.call label

end

end QueueHistory

/-- Over every run the queue stays within its size, every pushed item is popped, queued or
reported as dropped, in the order of the pushes where it is not dropped, and only plain
frames are dropped while there are any. -/
theorem dropQueue_conserves (maxSize : Int) (calls : List (QueueCall Content)) :
    (QueueHistory.run maxSize calls).queue.items.length ≤ (max maxSize 1).toNat ∧
      (QueueHistory.run maxSize calls).Conserved ∧
      ∀ before item after dropped, calls = before ++ .push item :: after →
        ((QueueHistory.run maxSize before).queue.push item).2.dropped = some dropped →
        dropped.keyframe = true ∨ dropped.videoFrame = false →
          (QueueHistory.run maxSize before).queue.items.length = (max maxSize 1).toNat ∧
            ∀ queued ∈ (QueueHistory.run maxSize before).queue.items,
              queued.keyframe = true ∨ queued.videoFrame = false := by
  have plain_iff : ∀ item : ForwarderMessage Content,
      item.plain = false ↔ item.keyframe = true ∨ item.videoFrame = false := by
    intro item
    cases frame : item.videoFrame <;> simp [ForwarderMessage.plain, frame]
  refine ⟨QueueHistory.run_length_le maxSize calls, QueueHistory.run_conserved maxSize calls, ?_⟩
  intro before item after dropped _ isDropped heeded
  rcases BoundedDropQueue.push_drops_heeded isDropped ((plain_iff dropped).mpr heeded) with
    ⟨full, nonePlain⟩
  rw [QueueHistory.run_maxSize] at full
  refine ⟨Nat.le_antisymm (QueueHistory.run_length_le maxSize before) full, ?_⟩
  intro queued member
  exact (plain_iff queued).mp (nonePlain queued member)

end VideoAnalysis.Forwarder
