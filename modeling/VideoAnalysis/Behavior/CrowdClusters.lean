import VideoAnalysis.Behavior.Rules
import Mathlib.Data.List.Perm.Basic
import Mathlib.Algebra.Order.Field.Rat

/-! # Crowd clusters

The search from one start point finds all points that are linked to it, directly or through
others; so the clusters of a frame are the connected components of its distance graph.
-/

namespace VideoAnalysis.Behavior

open VideoAnalysis.Foundation

section Graph

variable {Point : Type} (linked : Point → Point → Bool)

/-- A chain of the points from the first to the last, each linked to the next. -/
def Chained (points : List Point) : Point → Point → Prop :=
  Relation.ReflTransGen fun first second => second ∈ points ∧ linked first second = true

/-- The clusters are the connected components of the graph of the links. -/
structure Components (points : List Point) (clusters : List (List Point)) : Prop where
  inhabited : ∀ cluster ∈ clusters, cluster ≠ []
  covers : clusters.flatten.Perm points
  connected : ∀ cluster ∈ clusters, ∀ point ∈ cluster, ∀ other,
    other ∈ cluster ↔ other ∈ points ∧ Chained linked points point other

variable {linked}

variable {first last : Point}

theorem Chained.mono {points others : List Point}
    (within : ∀ point ∈ points, point ∈ others) (chained : Chained linked points first last) :
    Chained linked others first last := by
  induction chained with
  | refl => exact .refl
  | tail _ step induction => exact induction.tail ⟨within _ step.1, step.2⟩

theorem Chained.mem {points : List Point} (member : first ∈ points)
    (chained : Chained linked points first last) : last ∈ points := by
  cases chained with
  | refl => exact member
  | tail _ step => exact step.1

theorem Chained.symm {points : List Point}
    (symmetric : ∀ left right, linked left right = linked right left) (member : first ∈ points)
    (chained : Chained linked points first last) : Chained linked points last first := by
  induction chained with
  | refl => exact .refl
  | tail before step induction =>
    exact .head ⟨Chained.mem member before, (symmetric _ _).trans step.2⟩ induction

/-! ## One search -/

theorem linkedTo_perm (point : Point) (unvisited : List Point) :
    (linkedTo linked point unvisited ++ notLinkedTo linked point unvisited).Perm unvisited :=
  List.filter_append_perm _ _

theorem component_perm (stack unvisited : List Point) :
    ((component linked stack unvisited).1 ++ (component linked stack unvisited).2).Perm
      (stack ++ unvisited) := by
  fun_induction component linked stack unvisited with
  | case1 unvisited => exact .refl _
  | case2 unvisited point stack members rest equation induction =>
    simp only [equation] at induction
    have reordered : ((linkedTo linked point unvisited).reverse ++ stack).Perm
        (stack ++ linkedTo linked point unvisited) :=
      .trans (.append_right _ (List.reverse_perm _)) List.perm_append_comm
    have pushed := reordered.append_right (notLinkedTo linked point unvisited)
    rw [List.append_assoc stack] at pushed
    have joined := pushed.trans ((linkedTo_perm point unvisited).append_left stack)
    exact .cons point (induction.trans joined)

theorem component_rest_mem {stack unvisited : List Point} {point : Point}
    (member : point ∈ (component linked stack unvisited).2) : point ∈ unvisited := by
  fun_induction component linked stack unvisited with
  | case1 unvisited => exact member
  | case2 unvisited top stack members rest equation induction =>
    simp only [equation] at induction
    exact List.mem_of_mem_filter (induction member)

theorem component_closed {stack unvisited : List Point} {member other : Point}
    (isMember : member ∈ (component linked stack unvisited).1)
    (isOther : other ∈ (component linked stack unvisited).2) : linked member other = false := by
  fun_induction component linked stack unvisited with
  | case1 unvisited => cases isMember
  | case2 unvisited point stack members rest equation induction =>
    have left := @component_rest_mem _ linked ((linkedTo linked point unvisited).reverse ++ stack)
      (notLinkedTo linked point unvisited) other
    simp only [equation] at induction left
    rcases List.mem_cons.mp isMember with rfl | found
    · have notLinked := (List.mem_filter.mp (left isOther)).2
      rw [Bool.not_eq_true'] at notLinked
      exact notLinked
    · exact induction found isOther

theorem component_chained {points stack unvisited : List Point} {member : Point}
    (within : ∀ point ∈ unvisited, point ∈ points)
    (isMember : member ∈ (component linked stack unvisited).1) :
    ∃ start ∈ stack, Chained linked points start member := by
  fun_induction component linked stack unvisited with
  | case1 unvisited => cases isMember
  | case2 unvisited point stack members rest equation induction =>
    simp only [equation] at induction
    rcases List.mem_cons.mp isMember with rfl | found
    · exact ⟨member, List.mem_cons_self, .refl⟩
    · have stillWithin : ∀ other ∈ notLinkedTo linked point unvisited, other ∈ points :=
        fun other isOther => within other (List.mem_of_mem_filter isOther)
      rcases induction stillWithin found with ⟨start, isStart, chained⟩
      rcases List.mem_append.mp isStart with isPushed | onStack
      · have isLinked := List.mem_filter.mp (List.mem_reverse.mp isPushed)
        exact ⟨point, List.mem_cons_self, .head ⟨within _ isLinked.1, isLinked.2⟩ chained⟩
      · exact ⟨start, List.mem_cons_of_mem _ onStack, chained⟩

/-! ## All searches -/

section Split

variable {points members rest : List Point}

theorem Chained.of_closed (symmetric : ∀ left right, linked left right = linked right left)
    (covers : (members ++ rest).Perm points)
    (closed : ∀ member ∈ members, ∀ other ∈ rest, linked member other = false)
    {first last : Point} (member : first ∈ rest) (chained : Chained linked points first last) :
    last ∈ rest ∧ Chained linked rest first last := by
  induction chained with
  | refl => exact ⟨member, .refl⟩
  | @tail middle last _ step induction =>
    rcases List.mem_append.mp (covers.mem_iff.mpr step.1) with isMember | inRest
    · have notLinked := closed last isMember middle induction.1
      rw [symmetric, step.2] at notLinked
      cases notLinked
    · exact ⟨inRest, induction.2.tail ⟨inRest, step.2⟩⟩

theorem Chained.stays (covers : (members ++ rest).Perm points)
    (closed : ∀ member ∈ members, ∀ other ∈ rest, linked member other = false)
    {first last : Point} (member : first ∈ members) (chained : Chained linked points first last) :
    last ∈ members := by
  induction chained with
  | refl => exact member
  | @tail middle last _ step induction =>
    rcases List.mem_append.mp (covers.mem_iff.mpr step.1) with isMember | inRest
    · exact isMember
    · have notLinked := closed middle induction last inRest
      rw [step.2] at notLinked
      cases notLinked

theorem Components.cons {start : Point} {clusters : List (List Point)}
    (symmetric : ∀ left right, linked left right = linked right left)
    (covers : (members ++ rest).Perm points)
    (closed : ∀ member ∈ members, ∀ other ∈ rest, linked member other = false)
    (isStart : start ∈ points) (inhabited : members ≠ [])
    (chained : ∀ member ∈ members, Chained linked points start member)
    (components : Components linked rest clusters) :
    Components linked points (members :: clusters) where
  inhabited := List.forall_mem_cons.mpr ⟨inhabited, components.inhabited⟩
  covers := (components.covers.append_left members).trans covers
  connected := by
    rw [List.forall_mem_cons]
    constructor
    · intro point isPoint other
      constructor
      · intro isOther
        exact ⟨covers.mem_iff.mp (List.mem_append_left _ isOther),
          ((chained point isPoint).symm symmetric isStart).trans (chained other isOther)⟩
      · rintro ⟨_, isChained⟩
        exact isChained.stays covers closed isPoint
    · intro cluster isCluster point isPoint other
      have inRest := ((components.connected cluster isCluster point isPoint point).mp isPoint).1
      rw [components.connected cluster isCluster point isPoint other]
      have within : ∀ point ∈ rest, point ∈ points := fun point isRest =>
        covers.mem_iff.mp (List.mem_append_right _ isRest)
      constructor
      · rintro ⟨isOther, isChained⟩
        exact ⟨within other isOther, isChained.mono within⟩
      · rintro ⟨_, isChained⟩
        exact isChained.of_closed symmetric covers closed inRest

end Split

theorem component_inhabited (start : Point) (unvisited : List Point) :
    (component linked [start] unvisited).1 ≠ [] := by
  rw [component]
  exact List.cons_ne_nil _ _

theorem clusterByProximity_components
    (symmetric : ∀ left right, linked left right = linked right left) (points : List Point) :
    Components linked points (clusterByProximity linked points) := by
  fun_induction clusterByProximity linked points with
  | case1 => exact ⟨nofun, .nil, nofun⟩
  | case2 start points induction =>
    refine Components.cons symmetric (component_perm [start] points)
      (fun _ isMember _ isOther => component_closed isMember isOther) List.mem_cons_self
      (component_inhabited start points) ?_ induction
    intro member isMember
    rcases component_chained (fun _ isPoint => List.mem_cons_of_mem start isPoint) isMember with
      ⟨_, isStart, chained⟩
    rw [List.mem_singleton.mp isStart] at chained
    exact chained

end Graph

/-! ## Links -/

/-- The foot point and the height of a box, in exact numbers. -/
structure FootBox where
  x : ℚ
  y : ℚ
  height : ℚ

/-- The link of `_cluster_by_proximity`: a distance relative to the heights, or a fixed one. -/
def footLinked (epsPx epsHeightRatio : ℚ) (first second : FootBox) : Bool :=
  let distance2 := (first.x - second.x) ^ 2 + (first.y - second.y) ^ 2
  if 0 < epsHeightRatio then
    let link := epsHeightRatio * (max first.height 0 + max second.height 0) / 2
    distance2 ≤ link * link
  else distance2 ≤ epsPx * epsPx

theorem footLinked_comm (epsPx epsHeightRatio : ℚ) (first second : FootBox) :
    footLinked epsPx epsHeightRatio first second = footLinked epsPx epsHeightRatio second first := by
  have sameX : (first.x - second.x) ^ 2 = (second.x - first.x) ^ 2 := sub_sq_comm _ _
  have sameY : (first.y - second.y) ^ 2 = (second.y - first.y) ^ 2 := sub_sq_comm _ _
  simp only [footLinked, sameX, sameY, add_comm (max first.height 0)]

/-! ## The clusters of a frame -/

namespace CrowdGatheringRule

variable {Body : Type}

/-- The present tracks that the rule looks at: those in the zone, where it asks for that. -/
def crowdPoints (rule : CrowdGatheringRule Body) (tracks : List (TrackState Body))
    (frameTsMs : Nat) : List (Int × Body) :=
  (presentTracks tracks frameTsMs rule.params.maxTrackAgeMs).filterMap fun track =>
    match track.observations.getLast? with
    | none => none
    | some current =>
      if rule.params.requireInZone && rule.zone.hasPolygon && !rule.zone.inside current.body
      then none
      else some (track.trackId, current.body)

def linkedPoints (rule : CrowdGatheringRule Body) (first second : Int × Body) : Bool :=
  rule.params.linked first.2 second.2

theorem findCrowdClusters_eq (rule : CrowdGatheringRule Body) (tracks : List (TrackState Body))
    (frameTsMs : Nat) :
    rule.findCrowdClusters tracks frameTsMs =
      (clusterByProximity rule.linkedPoints (rule.crowdPoints tracks frameTsMs)).map
        fun cluster => cluster.map Prod.fst := rfl

theorem tracks_of_cluster {rule : CrowdGatheringRule Body} {tracks : List (TrackState Body)}
    {frameTsMs : Nat} {members : List Int}
    (isCluster : members ∈ rule.findCrowdClusters tracks frameTsMs) : tracks ≠ [] := by
  rintro rfl
  rw [findCrowdClusters_eq] at isCluster
  have noPoints : rule.crowdPoints [] frameTsMs = [] := by
    unfold crowdPoints presentTracks
    split <;> rfl
  rw [noPoints, clusterByProximity] at isCluster
  cases isCluster

end CrowdGatheringRule

end VideoAnalysis.Behavior
