import VideoAnalysis.Foundation.RedisStream

/-! # Redelivered record requests

`RequestConsumer.reclaim` lists the first pending entries with their delivery counts, then
claims idle entries wherever they are.
-/

namespace VideoAnalysis.Clip

open Foundation

variable {Fields : Type}

structure ConsumerSettings where
  consumer : String
  pendingClaimMinIdleMs : Int
  pendingClaimCount : Int

structure DeliveryEnvelope (Fields : Type) where
  consumer : String
  messageId : StreamId
  fields : Fields
  deliveryCount : ℕ
  reclaimed : Bool
deriving DecidableEq

namespace ConsumerSettings

variable (settings : ConsumerSettings)

variable (listed : Option (StreamServer Fields))

/-- What `XPENDING` answers; a server that cannot be asked or has no group answers nothing. -/
def pendingListing : List PendingEntry :=
  match listed with
  | none => []
  | some server =>
    match server.xpendingRange (max 1 settings.pendingClaimCount).toNat with
    | .error .noGroup => []
    | .ok pending => pending

def pendingDeliveryCounts : List (StreamId × ℕ) :=
  (settings.pendingListing listed).map fun entry => (entry.id, max 1 entry.deliveries)

def minIdleMs : ℕ := settings.pendingClaimMinIdleMs.toNat

/-- For a client without `XAUTOCLAIM`. -/
def claimFallback (deliveryCounts : List (StreamId × ℕ)) (server : StreamServer Fields) :
    List (StreamId × Fields) × StreamServer Fields :=
  if deliveryCounts = [] then ([], server)
  else
    let messageIds := (deliveryCounts.map Prod.fst).take settings.pendingClaimCount.toNat
    match server.xclaim settings.consumer settings.minIdleMs messageIds with
    | .error .noGroup => ([], server)
    | .ok claimed => claimed

def claim (hasAutoclaim : Bool) (deliveryCounts : List (StreamId × ℕ))
    (server : StreamServer Fields) : List (StreamId × Fields) × StreamServer Fields :=
  if hasAutoclaim then
    match server.xautoclaim settings.consumer settings.minIdleMs
      settings.pendingClaimCount.toNat with
    | .error .noGroup => ([], server)
    | .ok claimed => claimed
  else settings.claimFallback deliveryCounts server

def envelope (deliveryCounts : List (StreamId × ℕ)) (entry : StreamId × Fields) :
    DeliveryEnvelope Fields where
  consumer := settings.consumer
  messageId := entry.1
  fields := entry.2
  deliveryCount := (deliveryCounts.lookup entry.1).getD 1
  reclaimed := true

/-- The entries that Redis hands over; the listing was taken from an earlier server. -/
def handedOver (hasAutoclaim : Bool) (listed : Option (StreamServer Fields))
    (server : StreamServer Fields) : List (StreamId × Fields) × StreamServer Fields :=
  if settings.pendingClaimCount ≤ 0 ∨ settings.pendingClaimMinIdleMs < 0 then ([], server)
  else settings.claim hasAutoclaim (settings.pendingDeliveryCounts listed) server

def reclaim (hasAutoclaim : Bool) (listed : Option (StreamServer Fields))
    (server : StreamServer Fields) : List (DeliveryEnvelope Fields) × StreamServer Fields :=
  let handedOver := settings.handedOver hasAutoclaim listed server
  (handedOver.1.map (settings.envelope (settings.pendingDeliveryCounts listed)), handedOver.2)

/-- The listing has the count that Redis has, or the message is not listed and was delivered
once. -/
def CountListed (server : StreamServer Fields) (id : StreamId) : Prop :=
  (∃ entry ∈ settings.pendingListing listed, entry.id = id ∧
      max 1 entry.deliveries = server.deliveriesOf id) ∨
    (∀ entry ∈ settings.pendingListing listed, entry.id ≠ id) ∧ server.deliveriesOf id = 1

/-! ## The counts of envelopes -/

theorem nodup_listing (listed : Option (StreamServer Fields)) :
    ((settings.pendingListing listed).map (·.id)).Nodup := by
  cases listed with
  | none => exact List.nodup_nil
  | some server =>
    simp only [pendingListing, StreamServer.xpendingRange]
    cases server.group with
    | none => exact List.nodup_nil
    | some group =>
      have nodup := group.sorted.imp fun {first second} (less : first < second) => less.ne
      exact nodup.sublist ((List.take_sublist _ _).map _)

theorem lookup_counts {entries : List PendingEntry} (distinct : (entries.map (·.id)).Nodup)
    {entry : PendingEntry} (member : entry ∈ entries) :
    (entries.map fun entry => (entry.id, max 1 entry.deliveries)).lookup entry.id =
      some (max 1 entry.deliveries) := by
  induction entries with
  | nil => cases member
  | cons first rest induction =>
    rcases List.nodup_cons.mp distinct with ⟨fresh, distinctRest⟩
    rw [List.map_cons, List.lookup_cons]
    rcases List.mem_cons.mp member with rfl | inRest
    · rw [beq_self_eq_true]
    · have different : (entry.id == first.id) = false :=
        beq_false_of_ne fun same => fresh (List.mem_map.mpr ⟨entry, inRest, same⟩)
      rw [different]
      exact induction distinctRest inRest

theorem lookup_counts_none {entries : List PendingEntry} {id : StreamId}
    (absent : ∀ entry ∈ entries, entry.id ≠ id) :
    (entries.map fun entry => (entry.id, max 1 entry.deliveries)).lookup id = none := by
  apply List.lookup_eq_none_iff.mpr
  intro entry member
  rcases List.mem_map.mp member with ⟨listed, inListing, rfl⟩
  exact bne_iff_ne.mpr fun same => absent listed inListing same.symm

/-- An envelope has the count that Redis has exactly if the listing told it. -/
theorem envelope_count_iff (listed : Option (StreamServer Fields)) (server : StreamServer Fields)
    (entry : StreamId × Fields) :
    (settings.envelope (settings.pendingDeliveryCounts listed) entry).deliveryCount =
        server.deliveriesOf entry.1 ↔
      settings.CountListed listed server entry.1 := by
  by_cases isListed : ∃ listedEntry ∈ settings.pendingListing listed, listedEntry.id = entry.1
  · rcases isListed with ⟨listedEntry, member, same⟩
    have found := lookup_counts (settings.nodup_listing listed) member
    rw [same] at found
    simp only [envelope, pendingDeliveryCounts, found, Option.getD_some]
    constructor
    · intro equal
      exact .inl ⟨listedEntry, member, same, equal⟩
    · rintro (⟨other, inListing, sameId, equal⟩ | ⟨absent, _⟩)
      · have twice := lookup_counts (settings.nodup_listing listed) inListing
        rw [sameId, found] at twice
        exact (Option.some.inj twice).trans equal
      · exact absurd same (absent listedEntry member)
  · have absent : ∀ listedEntry ∈ settings.pendingListing listed, listedEntry.id ≠ entry.1 :=
      fun listedEntry member same => isListed ⟨listedEntry, member, same⟩
    simp only [envelope, pendingDeliveryCounts, lookup_counts_none absent, Option.getD_none]
    constructor
    · intro equal
      exact .inr ⟨absent, equal.symm⟩
    · rintro (⟨other, inListing, sameId, _⟩ | ⟨_, once⟩)
      · exact absurd sameId (absent other inListing)
      · exact once.symm

theorem handedOver_counts (hasAutoclaim : Bool) (listed : Option (StreamServer Fields))
    (server : StreamServer Fields) :
    ∀ entry ∈ (settings.handedOver hasAutoclaim listed server).1,
      (settings.handedOver hasAutoclaim listed server).2.deliveriesOf entry.1 =
        server.deliveriesOf entry.1 + 1 := by
  intro entry
  simp only [handedOver]
  split
  next => exact fun member => absurd member List.not_mem_nil
  next =>
    simp only [claim, claimFallback, StreamServer.xautoclaim, StreamServer.xclaim]
    cases grouped : server.group with
    | none =>
      simp only [ite_self]
      exact fun member => absurd member List.not_mem_nil
    | some group =>
      have distinct : (group.pending.map (·.id)).Nodup :=
        group.sorted.imp fun less => less.ne
      have pending : ∀ entry ∈ group.pending, (group.find entry.id).isSome = true := by
        intro entry member
        rw [StreamGroup.find_eq_some member]
        rfl
      cases hasAutoclaim with
      | true =>
        intro member
        have counts := server.autoclaimEach_counts settings.consumer settings.minIdleMs
          (settings.pendingClaimCount.toNat * 10) settings.pendingClaimCount.toNat distinct
          pending
        simp only [StreamServer.deliveriesOf, grouped]
        exact counts.counted entry member
      | false =>
        simp only [Bool.false_eq_true, if_false]
        split
        next => exact fun member => absurd member List.not_mem_nil
        next =>
          intro member
          have listedIds : (settings.pendingDeliveryCounts listed).map Prod.fst =
              (settings.pendingListing listed).map (·.id) := by
            rw [pendingDeliveryCounts, List.map_map]
            rfl
          have distinctIds := (settings.nodup_listing listed).sublist
            (List.take_sublist settings.pendingClaimCount.toNat _)
          rw [← listedIds] at distinctIds
          have counts : StreamServer.CountsClaims group _ _ _ :=
            server.claimEach_counts settings.consumer settings.minIdleMs distinctIds
          simp only [StreamServer.deliveriesOf, grouped]
          exact counts.counted entry member

/-- All envelopes have the counts that Redis has exactly if the listing told the count of
each message that is handed over; after the call Redis counts one more. -/
theorem reclaim_counts_iff (hasAutoclaim : Bool) (listed : Option (StreamServer Fields))
    (server : StreamServer Fields) :
    ((∀ envelope ∈ (settings.reclaim hasAutoclaim listed server).1,
        envelope.deliveryCount = server.deliveriesOf envelope.messageId) ↔
      ∀ entry ∈ (settings.handedOver hasAutoclaim listed server).1,
        settings.CountListed listed server entry.1) ∧
    ∀ envelope ∈ (settings.reclaim hasAutoclaim listed server).1,
      (settings.reclaim hasAutoclaim listed server).2.deliveriesOf envelope.messageId =
        server.deliveriesOf envelope.messageId + 1 := by
  simp only [reclaim, List.forall_mem_map]
  refine ⟨?_, settings.handedOver_counts hasAutoclaim listed server⟩
  apply forall₂_congr
  intro entry _
  exact settings.envelope_count_iff listed server entry

end ConsumerSettings

end VideoAnalysis.Clip
