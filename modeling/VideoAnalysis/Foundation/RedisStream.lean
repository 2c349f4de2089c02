import VideoAnalysis.Foundation.StreamLog

/-! # The consumer group of a stream

A consumer group keeps the entries that were delivered and not acknowledged, each with its
consumer, its last delivery and the number of deliveries. Times are milliseconds.
-/

namespace VideoAnalysis.Foundation

structure PendingEntry where
  id : StreamId
  consumer : String
  deliveredAtMs : ℕ
  deliveries : ℕ

def PendingEntry.idleMs (entry : PendingEntry) (nowMs : ℕ) : ℕ := nowMs - entry.deliveredAtMs

def PendingEntry.claimedBy (entry : PendingEntry) (consumer : String) (nowMs : ℕ) :
    PendingEntry :=
  { entry with consumer, deliveredAtMs := nowMs, deliveries := entry.deliveries + 1 }

structure StreamGroup where
  lastDelivered : StreamId
  pending : List PendingEntry
  sorted : (pending.map (·.id)).Pairwise (· < ·) := by decide

namespace StreamGroup

def find (group : StreamGroup) (id : StreamId) : Option PendingEntry :=
  group.pending.find? (·.id = id)

def erase (group : StreamGroup) (id : StreamId) : StreamGroup where
  lastDelivered := group.lastDelivered
  pending := group.pending.filter (·.id ≠ id)
  sorted := group.sorted.sublist (List.filter_sublist.map _)

theorem map_claimedBy_id (pending : List PendingEntry) (id : StreamId) (consumer : String)
    (nowMs : ℕ) :
    (pending.map fun entry => if entry.id = id then entry.claimedBy consumer nowMs else entry).map
      (·.id) = pending.map (·.id) := by
  rw [List.map_map]
  apply List.map_congr_left
  intro entry _
  simp only [Function.comp_apply]
  split <;> rfl

def claim (group : StreamGroup) (id : StreamId) (consumer : String) (nowMs : ℕ) :
    StreamGroup where
  lastDelivered := group.lastDelivered
  pending := group.pending.map fun entry =>
    if entry.id = id then entry.claimedBy consumer nowMs else entry
  sorted := by
    rw [map_claimedBy_id]
    exact group.sorted

variable {group : StreamGroup}

theorem eq_of_mem_of_id {first second : PendingEntry} (inFirst : first ∈ group.pending)
    (inSecond : second ∈ group.pending) (same : first.id = second.id) : first = second := by
  have nodup : (group.pending.map (·.id)).Nodup := group.sorted.imp fun less => less.ne
  exact List.inj_on_of_nodup_map nodup inFirst inSecond same

variable {id : StreamId} {entry : PendingEntry}

theorem id_of_find (found : group.find id = some entry) : entry.id = id := by
  simpa only [decide_eq_true_eq] using List.find?_some found

theorem find_eq_some (member : entry ∈ group.pending) : group.find entry.id = some entry := by
  cases found : group.find entry.id with
  | none =>
    have absent := List.find?_eq_none.mp found entry member
    exact absurd (decide_eq_true rfl) absent
  | some =>
    have same := id_of_find found
    rw [eq_of_mem_of_id (List.mem_of_find?_eq_some found) member same]

theorem mem_erase (member : entry ∈ group.pending) (other : entry.id ≠ id) :
    entry ∈ (group.erase id).pending := by
  exact List.mem_filter.mpr ⟨member, decide_eq_true other⟩

variable (consumer : String) (nowMs : ℕ)

theorem mem_claim (member : entry ∈ group.pending) (other : entry.id ≠ id) :
    entry ∈ (group.claim id consumer nowMs).pending := by
  exact List.mem_map.mpr ⟨entry, member, if_neg other⟩

/-- The deliveries of an entry that `XPENDING` reports, none if it is not pending. -/
def deliveriesOf (group : StreamGroup) (id : StreamId) : ℕ :=
  ((group.find id).map (·.deliveries)).getD 0

theorem find_claim (group : StreamGroup) (id other : StreamId) (consumer : String) (nowMs : ℕ) :
    (group.claim id consumer nowMs).find other =
      (group.find other).map fun entry =>
        if entry.id = id then entry.claimedBy consumer nowMs else entry := by
  rw [find, claim, List.find?_map, find]
  congr 2
  funext entry
  simp only [Function.comp_apply]
  split <;> rfl

theorem deliveriesOf_claim_self (pending : (group.find id).isSome = true) :
    (group.claim id consumer nowMs).deliveriesOf id = group.deliveriesOf id + 1 := by
  rcases Option.isSome_iff_exists.mp pending with ⟨_, found⟩
  have same := id_of_find found
  rw [deliveriesOf, deliveriesOf, find_claim, found, Option.map_some, if_pos same]
  rfl

theorem deliveriesOf_claim_of_ne (group : StreamGroup) {other : StreamId} (consumer : String)
    (nowMs : ℕ) (different : other ≠ id) :
    (group.claim id consumer nowMs).deliveriesOf other = group.deliveriesOf other := by
  rw [deliveriesOf, deliveriesOf, find_claim]
  cases found : group.find other with
  | none => rfl
  | some =>
    have same := id_of_find found
    rw [Option.map_some, if_neg (same ▸ different)]

theorem isSome_find_claim (group : StreamGroup) (id other : StreamId) (consumer : String)
    (nowMs : ℕ) :
    ((group.claim id consumer nowMs).find other).isSome = (group.find other).isSome := by
  rw [find_claim, Option.isSome_map]

theorem find_erase_of_ne (group : StreamGroup) {other : StreamId} (different : other ≠ id) :
    (group.erase id).find other = group.find other := by
  rw [find, erase, List.find?_filter, find]
  congr 1
  funext entry
  by_cases same : entry.id = other
  · simp only [same, different, ne_eq, not_false_eq_true, decide_true, and_self]
  · simp only [same, decide_false, Bool.false_eq_true, and_false]

theorem deliveriesOf_erase_of_ne (group : StreamGroup) {other : StreamId}
    (different : other ≠ id) :
    (group.erase id).deliveriesOf other = group.deliveriesOf other := by
  rw [deliveriesOf, find_erase_of_ne group different, deliveriesOf]

end StreamGroup

/-- A stream whose group may be missing. -/
structure StreamServer (Fields : Type) extends StreamLog Fields where
  group : Option StreamGroup
  nowMs : ℕ

inductive StreamError where
  | noGroup

namespace StreamServer

variable {Fields : Type}

def pending (server : StreamServer Fields) : List PendingEntry :=
  (server.group.map (·.pending)).getD []

def elapse (server : StreamServer Fields) (passedMs : ℕ) : StreamServer Fields :=
  { server with nowMs := server.nowMs + passedMs }

/-- `XGROUP CREATE`. -/
def createGroup (server : StreamServer Fields) (start : StreamId) : StreamServer Fields :=
  match server.group with
  | some _ => server
  | none => { server with group := some { lastDelivered := start, pending := [] } }

/-- `XPENDING - + count`. -/
def xpendingRange (server : StreamServer Fields) (count : ℕ) :
    Except StreamError (List PendingEntry) :=
  match server.group with
  | none => .error .noGroup
  | some group => .ok (group.pending.take count)

/-- One id of `XCLAIM`: an entry that is gone from the stream leaves the group, one that
is not idle for long enough stays with its consumer. -/
def claimOne (server : StreamServer Fields) (consumer : String) (minIdleMs : ℕ)
    (group : StreamGroup) (id : StreamId) : Option (StreamId × Fields) × StreamGroup :=
  match group.find id with
  | none => (none, group)
  | some entry =>
    match server.fieldsOf id with
    | none => (none, group.erase id)
    | some fields =>
      if entry.idleMs server.nowMs < minIdleMs then (none, group)
      else (some (id, fields), group.claim id consumer server.nowMs)

def claimEach (server : StreamServer Fields) (consumer : String) (minIdleMs : ℕ) :
    StreamGroup → List StreamId → List (StreamId × Fields) × StreamGroup
  | group, [] => ([], group)
  | group, id :: ids =>
    let first := server.claimOne consumer minIdleMs group id
    let rest := server.claimEach consumer minIdleMs first.2 ids
    (first.1.toList ++ rest.1, rest.2)

/-- `XCLAIM`. -/
def xclaim (server : StreamServer Fields) (consumer : String) (minIdleMs : ℕ)
    (ids : List StreamId) : Except StreamError (List (StreamId × Fields) × StreamServer Fields) :=
  match server.group with
  | none => .error .noGroup
  | some group =>
    let claimed := server.claimEach consumer minIdleMs group ids
    .ok (claimed.1, { server with group := some claimed.2 })

/-- The scan of `XAUTOCLAIM`: every entry costs an attempt. An entry that is gone from the
stream leaves the group and counts, one that is not idle for long enough is passed. -/
def autoclaimEach (server : StreamServer Fields) (consumer : String) (minIdleMs : ℕ) :
    ℕ → ℕ → StreamGroup → List PendingEntry → List (StreamId × Fields) × StreamGroup
  | attempts + 1, count + 1, group, entry :: rest =>
    match server.fieldsOf entry.id with
    | none => server.autoclaimEach consumer minIdleMs attempts count (group.erase entry.id) rest
    | some fields =>
      if entry.idleMs server.nowMs < minIdleMs then
        server.autoclaimEach consumer minIdleMs attempts (count + 1) group rest
      else
        let claimed := server.autoclaimEach consumer minIdleMs attempts count
          (group.claim entry.id consumer server.nowMs) rest
        ((entry.id, fields) :: claimed.1, claimed.2)
  | _, _, group, _ => ([], group)

/-- `XAUTOCLAIM 0-0 COUNT count`, which looks at ten entries for each that it may return. -/
def xautoclaim (server : StreamServer Fields) (consumer : String) (minIdleMs count : ℕ) :
    Except StreamError (List (StreamId × Fields) × StreamServer Fields) :=
  match server.group with
  | none => .error .noGroup
  | some group =>
    let claimed := server.autoclaimEach consumer minIdleMs (count * 10) count group group.pending
    .ok (claimed.1, { server with group := some claimed.2 })

/-- The deliveries of an entry that `XPENDING` reports. -/
def deliveriesOf (server : StreamServer Fields) (id : StreamId) : ℕ :=
  (server.group.map (·.deliveriesOf id)).getD 0

/-- What a claim does to the deliveries: one more for what it returns, nothing outside the
ids it is about. -/
structure CountsClaims (group after : StreamGroup) (ids : List StreamId)
    (claimed : List (StreamId × Fields)) : Prop where
  counted : ∀ entry ∈ claimed, after.deliveriesOf entry.1 = group.deliveriesOf entry.1 + 1
  about : ∀ entry ∈ claimed, entry.1 ∈ ids
  others : ∀ id, id ∉ ids → after.deliveriesOf id = group.deliveriesOf id

variable {group : StreamGroup} {ids : List StreamId}

theorem CountsClaims.erased {after : StreamGroup} {id : StreamId}
    {claimed : List (StreamId × Fields)} (fresh : id ∉ ids)
    (rest : CountsClaims (group.erase id) after ids claimed) :
    CountsClaims group after (id :: ids) claimed := by
  have kept : ∀ other, other ≠ id →
      (group.erase id).deliveriesOf other = group.deliveriesOf other :=
    fun other => group.deliveriesOf_erase_of_ne
  refine ⟨?_, fun entry member => List.mem_cons_of_mem _ (rest.about entry member), ?_⟩
  · intro entry member
    rw [rest.counted entry member, kept]
    exact fun same => fresh (same ▸ rest.about entry member)
  · intro other outside
    rcases List.ne_and_not_mem_of_not_mem_cons outside with ⟨different, notInRest⟩
    rw [rest.others other notInRest, kept other different]

theorem CountsClaims.passed {after : StreamGroup} {id : StreamId}
    {claimed : List (StreamId × Fields)} (rest : CountsClaims group after ids claimed) :
    CountsClaims group after (id :: ids) claimed where
  counted := rest.counted
  about := fun entry member => List.mem_cons_of_mem _ (rest.about entry member)
  others := fun other outside => rest.others other (List.not_mem_of_not_mem_cons outside)

theorem CountsClaims.claimed {group after : StreamGroup} {id : StreamId} {ids : List StreamId}
    {claimed : List (StreamId × Fields)} {consumer : String} {nowMs : ℕ} (fields : Fields)
    (fresh : id ∉ ids) (pending : (group.find id).isSome = true)
    (rest : CountsClaims (group.claim id consumer nowMs) after ids claimed) :
    CountsClaims group after (id :: ids) ((id, fields) :: claimed) := by
  have kept : ∀ other, other ≠ id →
      (group.claim id consumer nowMs).deliveriesOf other = group.deliveriesOf other :=
    fun other => group.deliveriesOf_claim_of_ne consumer nowMs
  refine ⟨?_, ?_, ?_⟩
  · intro entry member
    rcases List.mem_cons.mp member with rfl | inRest
    · rw [rest.others _ fresh, StreamGroup.deliveriesOf_claim_self consumer nowMs pending]
    · rw [rest.counted entry inRest, kept]
      exact fun same => fresh (same ▸ rest.about entry inRest)
  · intro entry member
    rcases List.mem_cons.mp member with rfl | inRest
    · exact List.mem_cons_self
    · exact List.mem_cons_of_mem _ (rest.about entry inRest)
  · intro other outside
    rcases List.ne_and_not_mem_of_not_mem_cons outside with ⟨different, notInRest⟩
    rw [rest.others other notInRest, kept other different]

theorem CountsClaims.none (group : StreamGroup) (ids : List StreamId) :
    CountsClaims group group ids ([] : List (StreamId × Fields)) where
  counted := List.forall_mem_nil _
  about := List.forall_mem_nil _
  others := fun _ _ => rfl

section

variable (server : StreamServer Fields) (consumer : String) (minIdleMs : ℕ)

include server consumer minIdleMs

theorem autoclaimEach_counts {entries : List PendingEntry} (attempts count : ℕ)
    (distinct : (entries.map (·.id)).Nodup)
    (pending : ∀ entry ∈ entries, (group.find entry.id).isSome = true) :
    CountsClaims group
      (server.autoclaimEach consumer minIdleMs attempts count group entries).2
      (entries.map (·.id))
      (server.autoclaimEach consumer minIdleMs attempts count group entries).1 := by
  induction entries generalizing attempts count group with
  | nil =>
    have stops : server.autoclaimEach consumer minIdleMs attempts count group [] =
        ([], group) := by
      cases attempts <;> cases count <;> rfl
    rw [stops]
    exact .none group _
  | cons entry rest induction =>
    rcases List.nodup_cons.mp distinct with ⟨fresh, distinctRest⟩
    have pendingRest : ∀ other ∈ rest, (group.find other.id).isSome = true :=
      fun other member => pending other (List.mem_cons_of_mem _ member)
    cases attempts with
    | zero => exact .none group _
    | succ attempts =>
      cases count with
      | zero => exact .none group _
      | succ count =>
        rw [autoclaimEach, List.map_cons]
        cases stored : server.fieldsOf entry.id with
        | none =>
          apply CountsClaims.erased fresh
          apply induction attempts count distinctRest
          intro other member
          rw [group.find_erase_of_ne]
          · exact pendingRest other member
          · exact fun same => fresh (same ▸ List.mem_map_of_mem member)
        | some fields =>
          by_cases busy : entry.idleMs server.nowMs < minIdleMs
          · simp only [if_pos busy]
            exact (induction attempts (count + 1) distinctRest pendingRest).passed
          · simp only [if_neg busy]
            apply CountsClaims.claimed fields fresh (pending entry List.mem_cons_self)
            apply induction attempts count distinctRest
            intro other member
            rw [group.isSome_find_claim]
            exact pendingRest other member

theorem claimEach_counts (distinct : ids.Nodup) :
    CountsClaims group (server.claimEach consumer minIdleMs group ids).2 ids
      (server.claimEach consumer minIdleMs group ids).1 := by
  induction ids generalizing group with
  | nil => exact .none group []
  | cons id _ induction =>
    rcases List.nodup_cons.mp distinct with ⟨fresh, distinctRest⟩
    rw [claimEach]
    cases found : group.find id with
    | none =>
      simp only [claimOne, found, Option.toList_none, List.nil_append]
      exact (induction distinctRest).passed
    | some entry =>
      cases stored : server.fieldsOf id with
      | none =>
        simp only [claimOne, found, stored, Option.toList_none, List.nil_append]
        exact .erased fresh (induction distinctRest)
      | some fields =>
        by_cases busy : entry.idleMs server.nowMs < minIdleMs
        · simp only [claimOne, found, stored, if_pos busy, Option.toList_none,
            List.nil_append]
          exact (induction distinctRest).passed
        · simp only [claimOne, found, stored, if_neg busy, Option.toList_some,
            List.singleton_append]
          exact .claimed fields fresh (by rw [found]; rfl) (induction distinctRest)

theorem claimEach_eq (distinct : ids.Nodup)
    (idle : ∀ id ∈ ids, ∃ entry ∈ group.pending, entry.id = id ∧
      minIdleMs ≤ entry.idleMs server.nowMs) :
    (server.claimEach consumer minIdleMs group ids).1 =
      ids.filterMap fun id => (server.fieldsOf id).map fun fields => (id, fields) := by
  induction ids generalizing group with
  | nil => rfl
  | cons id _ induction =>
    rcases List.nodup_cons.mp distinct with ⟨fresh, distinctRest⟩
    rcases idle id List.mem_cons_self with ⟨entry, member, rfl, isIdle⟩
    have found := StreamGroup.find_eq_some member
    rw [claimEach, List.filterMap_cons]
    cases stored : server.fieldsOf entry.id with
    | none =>
      simp only [claimOne, found, stored, Option.toList_none, List.nil_append, Option.map_none]
      apply induction distinctRest
      intro other inRest
      rcases idle other (List.mem_cons_of_mem _ inRest) with ⟨kept, inPending, rfl, keptIdle⟩
      exact ⟨kept, StreamGroup.mem_erase inPending (fun same => fresh (same ▸ inRest)), rfl,
        keptIdle⟩
    | some =>
      simp only [claimOne, found, stored, if_neg (not_lt.mpr isIdle), Option.toList_some,
        List.singleton_append, Option.map_some, List.cons.injEq, true_and]
      apply induction distinctRest
      intro other inRest
      rcases idle other (List.mem_cons_of_mem _ inRest) with ⟨kept, inPending, rfl, keptIdle⟩
      exact ⟨kept, StreamGroup.mem_claim _ _ inPending (fun same => fresh (same ▸ inRest)),
        rfl, keptIdle⟩

end

end StreamServer

end VideoAnalysis.Foundation
