import VideoAnalysis.Foundation.RedisStream

/-! # Recovering pending messages

`RedisStreamConsumer.read_pending` lists the first `count` pending entries, keeps those
that are idle and claims them.
-/

namespace VideoAnalysis.Intake

open Foundation

variable {Fields : Type}

/-- `_recover_missing_group`: the stream is read from its beginning again. -/
def recoverMissingGroup (server : StreamServer Fields) : StreamServer Fields :=
  server.createGroup (streamId 0 0)

variable (server : StreamServer Fields) (minIdleMs : ℕ)

def IsStale (entry : PendingEntry) : Prop :=
  minIdleMs ≤ entry.idleMs server.nowMs

instance (server : StreamServer Fields) (minIdleMs : ℕ) :
    DecidablePred (IsStale server minIdleMs) := fun _ => Nat.decLe _ _

def staleIds (pending : List PendingEntry) : List StreamId :=
  (pending.filter (IsStale server minIdleMs)).map (·.id)

/-- Between the listing and the claim `passedMs` milliseconds go by. -/
def readPending (consumer : String) (passedMs count minIdleMs : ℕ)
    (server : StreamServer Fields) : List (StreamId × Fields) × StreamServer Fields :=
  match server.xpendingRange count with
  | .error .noGroup => ([], recoverMissingGroup server)
  | .ok pending =>
    if pending = [] then ([], server)
    else if staleIds server minIdleMs pending = [] then ([], server)
    else
      let later := server.elapse passedMs
      match later.xclaim consumer minIdleMs (staleIds server minIdleMs pending) with
      | .error .noGroup => ([], recoverMissingGroup later)
      | .ok claimed => claimed

/-- The number of entries idle for at least `minIdleMs`. -/
def staleCount : ℕ :=
  server.pending.countP (IsStale server minIdleMs)

/-- The stale entries among the first `count` are still in the stream, and they are all of
the stale entries or all of the first `count`. -/
structure StaleWithinReach (server : StreamServer Fields) (count minIdleMs : ℕ) : Prop where
  kept : ∀ entry ∈ server.pending.take count, IsStale server minIdleMs entry →
    (server.fieldsOf entry.id).isSome = true
  reached : (∀ entry ∈ server.pending.drop count, ¬IsStale server minIdleMs entry) ∨
    ∀ entry ∈ server.pending.take count, IsStale server minIdleMs entry

theorem mem_staleIds {server : StreamServer Fields} {minIdleMs : ℕ} {pending : List PendingEntry}
    {id : StreamId} :
    id ∈ staleIds server minIdleMs pending ↔
      ∃ entry ∈ pending, IsStale server minIdleMs entry ∧ entry.id = id := by
  simp only [staleIds, List.mem_map, List.mem_filter, decide_eq_true_eq, and_assoc]

theorem nodup_staleIds_take (server : StreamServer Fields) (minIdleMs count : ℕ)
    (group : StreamGroup) : (staleIds server minIdleMs (group.pending.take count)).Nodup := by
  have ids : (staleIds server minIdleMs (group.pending.take count)).Sublist
      (group.pending.map (·.id)) :=
    (List.filter_sublist.trans (List.take_sublist _ _)).map _
  exact (group.sorted.imp fun less => less.ne).sublist ids

theorem readPending_messages (consumer : String) (passedMs count minIdleMs : ℕ)
    (server : StreamServer Fields) :
    (readPending consumer passedMs count minIdleMs server).1 =
      (staleIds server minIdleMs (server.pending.take count)).filterMap
        fun id => (server.fieldsOf id).map fun fields => (id, fields) := by
  cases present : server.group with
  | none =>
    have empty : server.pending = [] := by simp only [StreamServer.pending, present]; rfl
    simp only [readPending, StreamServer.xpendingRange, present, empty, List.take_nil,
      staleIds, List.filter_nil, List.map_nil, List.filterMap_nil]
  | some group =>
    have listed : server.pending = group.pending := by
      simp only [StreamServer.pending, present]
      rfl
    rw [listed]
    simp only [readPending, StreamServer.xpendingRange, present]
    by_cases none : staleIds server minIdleMs (group.pending.take count) = []
    · simp only [none, if_true, ite_self, List.filterMap_nil]
    · have some : group.pending.take count ≠ [] := by
        intro empty
        rw [empty] at none
        exact none rfl
      have grouped : (server.elapse passedMs).group = Option.some group := present
      simp only [if_neg some, if_neg none, StreamServer.xclaim, grouped]
      apply StreamServer.claimEach_eq _ _ _ (nodup_staleIds_take _ _ _ _)
      intro id member
      rcases mem_staleIds.mp member with ⟨entry, inListing, stale, same⟩
      refine ⟨entry, List.mem_of_mem_take inListing, same, le_trans stale ?_⟩
      exact Nat.sub_le_sub_right (Nat.le_add_right _ _) _

theorem length_readPending (consumer : String) (passedMs count minIdleMs : ℕ)
    (server : StreamServer Fields) :
    (readPending consumer passedMs count minIdleMs server).1.length =
      ((server.pending.take count).filter (IsStale server minIdleMs)).countP
        fun entry => (server.fieldsOf entry.id).isSome := by
  rw [readPending_messages, staleIds, List.filterMap_map, List.length_filterMap_eq_countP]
  apply List.countP_congr
  intro entry _
  simp only [Function.comp_apply, Option.isSome_map]

/-- All stale entries that fit into a batch are returned exactly if none of them is hidden
behind the listing or gone from the stream. -/
theorem readPending_length_iff (consumer : String) (passedMs count minIdleMs : ℕ)
    (server : StreamServer Fields) :
    (readPending consumer passedMs count minIdleMs server).1.length =
        min count (staleCount server minIdleMs) ↔
      StaleWithinReach server count minIdleMs := by
  rw [length_readPending]
  have total : staleCount server minIdleMs =
      (server.pending.take count).countP (IsStale server minIdleMs) +
        (server.pending.drop count).countP (IsStale server minIdleMs) := by
    rw [← List.countP_append, List.take_append_drop]
    rfl
  have listed : ((server.pending.take count).filter (IsStale server minIdleMs)).length =
      (server.pending.take count).countP (IsStale server minIdleMs) :=
    List.countP_eq_length_filter.symm
  have returned : ((server.pending.take count).filter (IsStale server minIdleMs)).countP
      (fun entry => (server.fieldsOf entry.id).isSome) ≤
        ((server.pending.take count).filter (IsStale server minIdleMs)).length :=
    List.countP_le_length
  have stale : (server.pending.take count).countP (IsStale server minIdleMs) ≤
      (server.pending.take count).length := List.countP_le_length
  have taken := @List.length_take _ count server.pending
  have left := @List.length_drop _ count server.pending
  have behind : (server.pending.drop count).countP (IsStale server minIdleMs) ≤
      (server.pending.drop count).length := List.countP_le_length
  constructor
  · intro all
    refine ⟨?_, ?_⟩
    · have full := List.countP_eq_length.mp (le_antisymm returned (by omega))
      intro entry inListing isStale
      exact full entry (List.mem_filter.mpr ⟨inListing, decide_eq_true isStale⟩)
    · by_cases hidden : (server.pending.drop count).countP (IsStale server minIdleMs) = 0
      · left
        intro entry inRest isStale
        exact List.countP_eq_zero.mp hidden entry inRest (decide_eq_true isStale)
      · right
        have full := List.countP_eq_length.mp (le_antisymm stale (by omega))
        intro entry inListing
        exact of_decide_eq_true (full entry inListing)
  · rintro ⟨kept, reached⟩
    have full : ((server.pending.take count).filter (IsStale server minIdleMs)).countP
        (fun entry => (server.fieldsOf entry.id).isSome) =
          ((server.pending.take count).filter (IsStale server minIdleMs)).length := by
      apply List.countP_eq_length.mpr
      intro entry member
      rcases List.mem_filter.mp member with ⟨inListing, isStale⟩
      exact kept entry inListing (of_decide_eq_true isStale)
    rcases reached with noneBehind | allListed
    · have hidden : (server.pending.drop count).countP (IsStale server minIdleMs) = 0 := by
        apply List.countP_eq_zero.mpr
        intro entry inRest isStale
        exact noneBehind entry inRest (of_decide_eq_true isStale)
      omega
    · have all : (server.pending.take count).countP (IsStale server minIdleMs) =
          (server.pending.take count).length := by
        apply List.countP_eq_length.mpr
        intro entry inListing
        exact decide_eq_true (allListed entry inListing)
      omega

/-- One entry was claimed again just now, a later one was left a minute ago. -/
def retriedFirst : StreamServer Unit :=
  { entries := [(streamId 1 0, ()), (streamId 2 0, ())]
    group := some
      { lastDelivered := streamId 2 0
        pending := [⟨streamId 1 0, "worker", 60000, 7⟩, ⟨streamId 2 0, "crashed", 0, 1⟩] }
    nowMs := 60000 }

theorem stale_entry_hidden :
    staleCount retriedFirst 60000 = 1 ∧ (readPending "worker" 0 1 60000 retriedFirst).1 = [] ∧
      (readPending "worker" 0 1 60000 retriedFirst).1.length ≠
        min 1 (staleCount retriedFirst 60000) := by
  decide

end VideoAnalysis.Intake
