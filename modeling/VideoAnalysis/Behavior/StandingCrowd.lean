import VideoAnalysis.Behavior.CrowdClusters
import VideoAnalysis.Behavior.FindingOrder
import Mathlib.Data.Finset.Card

/-! # Standing crowds

The clusters of a frame are matched to remembered ones one after the other. A crowd that stays
together is reported in time where no other cluster takes over what is remembered of it.
-/

namespace VideoAnalysis.Behavior

open VideoAnalysis.Foundation

variable {Body : Type}

namespace CrowdGatheringRule

/-! ## Matching -/

def unmatched (rule : CrowdGatheringRule Body) (matched : List Nat) : Dict Nat ClusterState :=
  rule.clusters.keep fun entry => !matched.contains entry.1

def better (members : List Int) (best : Option Nat × Nat) (entry : Nat × ClusterState) :
    Option Nat × Nat :=
  let overlap := (members.filter entry.2.members.contains).length
  if best.2 < overlap then (some entry.1, overlap) else best

theorem matchCluster_eq (rule : CrowdGatheringRule Body) (members : List Int)
    (matched : List Nat) :
    rule.matchCluster members matched =
      ((rule.unmatched matched).entries.foldl (better members) (none, 0)).1 := by
  simp only [matchCluster, unmatched, Dict.keep, List.foldl_filter]
  congr 2
  funext best entry
  by_cases isMatched : matched.contains entry.1 = true
  · simp only [isMatched, if_true, Bool.not_true, Bool.false_eq_true, if_false]
  · rw [Bool.not_eq_true] at isMatched
    simp only [isMatched, Bool.not_false, Bool.false_eq_true, if_false, if_true, better]

theorem key_of_best {members : List Int} {entries : List (Nat × ClusterState)}
    {best : Option Nat × Nat} {id : Nat}
    (isBest : (entries.foldl (better members) best).1 = some id) :
    best.1 = some id ∨ id ∈ entries.map Prod.fst := by
  induction entries generalizing best with
  | nil => exact .inl isBest
  | cons _ _ induction =>
    rw [List.foldl_cons] at isBest
    rw [List.map_cons, List.mem_cons]
    rcases induction isBest with isNext | inRest
    · simp only [better] at isNext
      split at isNext
      next =>
        cases isNext
        exact .inr (.inl rfl)
      next => exact .inl isNext
    · exact .inr (.inr inRest)

theorem matchCluster_key {rule : CrowdGatheringRule Body} {members : List Int}
    {matched : List Nat} {id : Nat} (found : rule.matchCluster members matched = some id) :
    id ∈ rule.clusters.keys ∧ matched.contains id = false := by
  rw [matchCluster_eq] at found
  rcases key_of_best found with isNone | isKey
  · cases isNone
  · rcases List.mem_map.mp isKey with ⟨_, isEntry, rfl⟩
    have kept := List.mem_filter.mp isEntry
    exact ⟨List.mem_map_of_mem kept.1, (Bool.not_eq_true' _).mp kept.2⟩

/-- The remembered clusters that the clusters of a frame are matched to, as they are listed. -/
def matchEach (rule : CrowdGatheringRule Body) (matched : List Nat) :
    List (List Int) → List (List Int × Option Nat)
  | [] => []
  | members :: rest =>
    let found := rule.matchCluster members matched
    (members, found) :: rule.matchEach (found.toList ++ matched) rest

def knownState (rule : CrowdGatheringRule Body) (frameTsMs : Nat) : Option Nat → ClusterState
  | some id => (rule.clusters.get id).getD ⟨[], false, frameTsMs⟩
  | none => ⟨[], false, frameTsMs⟩

/-- Within a frame: what is not matched yet is what was remembered before it. -/
structure Follows (base current : CrowdGatheringRule Body) (matched taken : List Nat) : Prop where
  params : current.params = base.params
  unmatched : current.unmatched matched = base.unmatched taken
  fresh : ∀ id ∈ (base.unmatched taken).keys, id < current.nextClusterId

section Frame

variable {base current : CrowdGatheringRule Body} {matched taken : List Nat}

theorem Follows.matchCluster (follows : Follows base current matched taken)
    (members : List Int) :
    current.matchCluster members matched = base.matchCluster members taken := by
  rw [matchCluster_eq, matchCluster_eq, follows.unmatched]

theorem Follows.get (follows : Follows base current matched taken) {id : Nat}
    (notMatched : matched.contains id = false) (notTaken : taken.contains id = false) :
    current.clusters.get id = base.clusters.get id := by
  have ofCurrent := Dict.get_keepKeys current.clusters (fun id => !matched.contains id) id
  have ofBase := Dict.get_keepKeys base.clusters (fun id => !taken.contains id) id
  simp only [notMatched, notTaken, Bool.not_false, if_true] at ofCurrent ofBase
  rw [← ofCurrent, ← ofBase]
  exact congrArg (Dict.get · id) follows.unmatched

theorem nextState_of_params (same : current.params = base.params) (frameTsMs : Nat)
    (members : List Int) (state : ClusterState) :
    current.nextState frameTsMs members state = base.nextState frameTsMs members state := by
  simp only [nextState, same]

theorem keys_keep_sub {dict : Dict Nat ClusterState} {test : Nat × ClusterState → Bool}
    {id : Nat} (isKey : id ∈ (dict.keep test).keys) : id ∈ dict.keys := by
  rcases List.mem_map.mp isKey with ⟨_, isEntry, rfl⟩
  exact List.mem_map_of_mem (List.mem_of_mem_filter isEntry)

theorem unmatched_cons (rule : CrowdGatheringRule Body) (id : Nat) (matched : List Nat) :
    rule.unmatched (id :: matched) =
      (rule.unmatched matched).keep fun entry => !(entry.1 == id) := by
  simp only [unmatched, Dict.keep, List.filter_filter, List.contains_cons, Bool.not_or]

theorem unmatched_set (rule : CrowdGatheringRule Body) (id nextClusterId : Nat)
    (state : ClusterState) (matched : List Nat) :
    unmatched { rule with clusters := rule.clusters.set id state, nextClusterId } (id :: matched) =
      rule.unmatched (id :: matched) := by
  have isMatched : (fun key => !(id :: matched).contains key) id = false := by
    simp only [List.contains_cons, BEq.rfl, Bool.true_or, Bool.not_true]
  exact @Dict.keepKeys_set _ _ _ id rule.clusters (fun key => !(id :: matched).contains key) state
    isMatched

theorem keep_of_fresh {dict : Dict Nat ClusterState} {id : Nat}
    (fresh : ∀ key ∈ dict.keys, key < id) : (dict.keep fun entry => !(entry.1 == id)) = dict := by
  simp only [Dict.keep]
  have all : dict.entries.filter (fun entry => !(entry.1 == id)) = dict.entries := by
    apply List.filter_eq_self.mpr
    intro entry member
    have less := fresh entry.1 (List.mem_map_of_mem member)
    rw [Bool.not_eq_true', beq_eq_false_iff_ne]
    exact less.ne
  rw [all]

def Reports (finding : Finding) (members : List Int) : Prop :=
  finding.event.eventType = .crowdGathering ∧
    finding.event.memberTrackIds = members.insertionSort (· ≤ ·)

theorem clusterStep_of_continued (sameParams : current.params = base.params) {frameTsMs : Nat}
    {members : List Int} {id nextClusterId : Nat} {known : ClusterState} (cameraId : String)
    (continues : current.continued frameTsMs members matched = (id, known, nextClusterId)) :
    let cluster := base.nextState frameTsMs members known
    (clusterStep frameTsMs cameraId (current, matched) members).1 =
      ({ current with clusters := current.clusters.set id cluster, nextClusterId },
        id :: matched) ∧
    (cluster.isCrowd = true →
      base.params.minDurationMs ≤ (frameTsMs : Int) - cluster.sinceTs →
        ∃ finding, (clusterStep frameTsMs cameraId (current, matched) members).2 = some finding ∧
          Reports finding members) := by
  intro cluster
  have sameState := nextState_of_params sameParams frameTsMs members known
  simp only [clusterStep, continues, sameState, sameParams]
  by_cases lasted : (cluster.isCrowd &&
    decide (base.params.minDurationMs ≤ (frameTsMs : Int) - cluster.sinceTs)) = true
  · rw [if_pos lasted]
    exact ⟨rfl, fun _ _ => ⟨_, rfl, rfl, rfl⟩⟩
  · rw [if_neg lasted]
    rw [Bool.and_eq_true, decide_eq_true_eq] at lasted
    exact ⟨rfl, fun isCrowd long => absurd ⟨isCrowd, long⟩ lasted⟩

/-- What one cluster does in a frame: it goes on from the remembered cluster that it is matched
to, and reports a crowd that has lasted. -/
theorem Follows.step (follows : Follows base current matched taken) (frameTsMs : Nat)
    (cameraId : String) (members : List Int) :
    let found := base.matchCluster members taken
    let cluster := base.nextState frameTsMs members (base.knownState frameTsMs found)
    ∃ id nextClusterId,
      (clusterStep frameTsMs cameraId (current, matched) members).1 =
        ({ current with clusters := current.clusters.set id cluster, nextClusterId },
          id :: matched) ∧
      Follows base { current with clusters := current.clusters.set id cluster, nextClusterId }
        (id :: matched) (found.toList ++ taken) ∧
      (cluster.isCrowd = true →
        base.params.minDurationMs ≤ (frameTsMs : Int) - cluster.sinceTs →
          ∃ finding, (clusterStep frameTsMs cameraId (current, matched) members).2 = some finding ∧
            Reports finding members) := by
  intro found cluster
  have sameMatch := follows.matchCluster members
  cases isFound : found with
  | none =>
    have continues : current.continued frameTsMs members matched =
        (current.nextClusterId, base.knownState frameTsMs found, current.nextClusterId + 1) := by
      rw [continued, sameMatch, show base.matchCluster members taken = none from isFound]
      simp only [isFound, knownState]
    rcases clusterStep_of_continued follows.params cameraId continues with ⟨stepped, finds⟩
    refine ⟨_, _, stepped, ⟨follows.params, ?_, ?_⟩, finds⟩
    · rw [unmatched_set, unmatched_cons, follows.unmatched, keep_of_fresh follows.fresh]
      rfl
    · exact fun id isKey => (follows.fresh id isKey).trans (Nat.lt_succ_self _)
  | some id =>
    have isMatch : base.matchCluster members taken = some id := isFound
    have continues : current.continued frameTsMs members matched =
        (id, base.knownState frameTsMs found, current.nextClusterId) := by
      rw [continued, sameMatch, isMatch]
      have notMatched := (matchCluster_key (sameMatch.trans isMatch)).2
      have notTaken := (matchCluster_key isMatch).2
      simp only [isFound, knownState, follows.get notMatched notTaken]
    rcases clusterStep_of_continued follows.params cameraId continues with ⟨stepped, finds⟩
    refine ⟨_, _, stepped, ⟨follows.params, ?_, ?_⟩, finds⟩
    · rw [unmatched_set, unmatched_cons, follows.unmatched, ← unmatched_cons]
      rfl
    · intro key isKey
      rw [Option.toList_some, List.singleton_append, unmatched_cons] at isKey
      exact follows.fresh key (keys_keep_sub isKey)

theorem Follows.collect (follows : Follows base current matched taken) (frameTsMs : Nat)
    (cameraId : String) (clusters : List (List Int)) :
    let outcome := collectEach (clusterStep frameTsMs cameraId) (current, matched) clusters
    (∀ id state, outcome.1.2.contains id = true → outcome.1.1.clusters.get id = some state →
      (matched.contains id = true ∧ current.clusters.get id = some state) ∨
        ∃ pair ∈ base.matchEach taken clusters,
          state = base.nextState frameTsMs pair.1 (base.knownState frameTsMs pair.2)) ∧
      ∀ pair ∈ base.matchEach taken clusters,
        let cluster := base.nextState frameTsMs pair.1 (base.knownState frameTsMs pair.2)
        cluster.isCrowd = true → base.params.minDurationMs ≤ (frameTsMs : Int) - cluster.sinceTs →
          ∃ finding ∈ outcome.2, Reports finding pair.1 := by
  induction clusters generalizing current matched taken with
  | nil => exact ⟨fun id state isMatched found => .inl ⟨isMatched, found⟩, nofun⟩
  | cons members _ induction =>
    rcases follows.step frameTsMs cameraId members with ⟨id, _, stepped, next, reports⟩
    rcases induction next with ⟨states, laterReports⟩
    simp only [collectEach, stepped, matchEach]
    constructor
    · intro other state isMatched found
      rcases states other state isMatched found with ⟨wasMatched, stored⟩ | fromRest
      · rw [Dict.get_set] at stored
        by_cases same : other = id
        · rw [if_pos same] at stored
          cases stored
          exact .inr ⟨_, List.mem_cons_self, rfl⟩
        · rw [if_neg same] at stored
          rw [List.contains_cons, Bool.or_eq_true, beq_iff_eq] at wasMatched
          exact .inl ⟨wasMatched.resolve_left same, stored⟩
      · rcases fromRest with ⟨pair, inRest, same⟩
        exact .inr ⟨pair, List.mem_cons_of_mem _ inRest, same⟩
    · intro pair isPair isCrowd long
      rcases List.mem_cons.mp isPair with rfl | inRest
      · rcases reports isCrowd long with ⟨finding, isFinding, isReport⟩
        rw [isFinding]
        exact ⟨finding, List.mem_append_left _ List.mem_cons_self, isReport⟩
      · rcases laterReports pair inRest isCrowd long with ⟨finding, isFinding, isReport⟩
        exact ⟨finding, List.mem_append_right _ isFinding, isReport⟩

end Frame

def FreshIds (rule : CrowdGatheringRule Body) : Prop :=
  ∀ id ∈ rule.clusters.keys, id < rule.nextClusterId

theorem follows_self {rule : CrowdGatheringRule Body} (fresh : rule.FreshIds) :
    Follows rule rule [] [] :=
  ⟨rfl, rfl, fun id isKey => fresh id (keys_keep_sub isKey)⟩

section

variable {rule : CrowdGatheringRule Body} {tracks : List (TrackState Body)}
  (enabled : rule.config.enabled = true) (present : tracks ≠ [])

include rule tracks enabled present

theorem observeFrame_eq (frameTsMs : Nat) :
    let time := frameTime tracks frameTsMs
    let outcome := collectEach (clusterStep time (frameCameraId tracks)) (rule, [])
      (rule.findCrowdClusters tracks time)
    rule.observeFrame tracks frameTsMs =
      (outcome.1.1.forgetUnmatched outcome.1.2, outcome.2) := by
  have notEmpty : ¬tracks.isEmpty = true := by
    rw [List.isEmpty_iff]
    exact present
  simp only [observeFrame, if_neg notEmpty, enabled, Bool.not_true, Bool.false_eq_true, if_false]

theorem observeFrame_clusters (fresh : rule.FreshIds)
    (frameTsMs : Nat) :
    let time := frameTime tracks frameTsMs
    let pairs := rule.matchEach [] (rule.findCrowdClusters tracks time)
    (∀ id state, (rule.observeFrame tracks frameTsMs).1.clusters.get id = some state →
      ∃ pair ∈ pairs, state = rule.nextState time pair.1 (rule.knownState time pair.2)) ∧
      ∀ pair ∈ pairs,
        let cluster := rule.nextState time pair.1 (rule.knownState time pair.2)
        cluster.isCrowd = true → rule.params.minDurationMs ≤ (time : Int) - cluster.sinceTs →
          ∃ finding ∈ (rule.observeFrame tracks frameTsMs).2, Reports finding pair.1 := by
  intro time pairs
  rcases (follows_self fresh).collect time (frameCameraId tracks)
    (rule.findCrowdClusters tracks time) with ⟨states, reports⟩
  rw [observeFrame_eq enabled present]
  refine ⟨?_, reports⟩
  intro id state found
  simp only [forgetUnmatched] at found
  rw [Dict.get_keepKeys] at found
  split at found
  next isMatched =>
    rcases states id state isMatched found with ⟨wasMatched, _⟩ | fromCluster
    · cases wasMatched
    · exact fromCluster
  next => cases found

end

/-! ## What stays -/

/-- The configuration of the rule is the same. -/
structure SameSetup (rule other : CrowdGatheringRule Body) : Prop where
  config : other.config = rule.config
  zone : other.zone = rule.zone
  params : other.params = rule.params

theorem SameSetup.findCrowdClusters {rule other : CrowdGatheringRule Body}
    (same : SameSetup rule other) (tracks : List (TrackState Body)) (frameTsMs : Nat) :
    other.findCrowdClusters tracks frameTsMs = rule.findCrowdClusters tracks frameTsMs := by
  simp only [CrowdGatheringRule.findCrowdClusters, same.zone, same.params]

theorem clusterStep_setup (frameTsMs : Nat) (cameraId : String)
    (state : CrowdGatheringRule Body × List Nat) (members : List Int) :
    SameSetup state.1 (clusterStep frameTsMs cameraId state members).1.1 := by
  rcases state with ⟨rule, matched⟩
  simp only [clusterStep]
  split <;> exact ⟨rfl, rfl, rfl⟩

theorem clusterStep_fresh {frameTsMs : Nat} {cameraId : String}
    {state : CrowdGatheringRule Body × List Nat} {members : List Int}
    (fresh : state.1.FreshIds) : (clusterStep frameTsMs cameraId state members).1.1.FreshIds := by
  rcases state with ⟨rule, matched⟩
  have grows : (rule.continued frameTsMs members matched).1 <
      (rule.continued frameTsMs members matched).2.2 ∧
      rule.nextClusterId ≤ (rule.continued frameTsMs members matched).2.2 := by
    unfold continued
    split
    next id isMatch => exact ⟨fresh id (matchCluster_key isMatch).1, Nat.le_refl _⟩
    next => exact ⟨Nat.lt_succ_self _, Nat.le_succ _⟩
  have stored : ∀ cluster, FreshIds { rule with
      clusters := rule.clusters.set (rule.continued frameTsMs members matched).1 cluster
      nextClusterId := (rule.continued frameTsMs members matched).2.2 } := by
    intro cluster id isKey
    rcases Dict.mem_keys_set.mp isKey with same | old
    · rw [same]
      exact grows.1
    · exact (fresh id old).trans_le grows.2
  simp only [clusterStep]
  split <;> exact stored _

/-- What is true of every rule of a run. -/
structure Kept (start rule : CrowdGatheringRule Body) : Prop where
  setup : SameSetup start rule
  fresh : rule.FreshIds

theorem Kept.observeFrame {start rule : CrowdGatheringRule Body} (kept : Kept start rule)
    (tracks : List (TrackState Body)) (frameTsMs : Nat) :
    Kept start (rule.observeFrame tracks frameTsMs).1 := by
  have keeps : ∀ (state : CrowdGatheringRule Body × List Nat) members, Kept start state.1 →
      Kept start (clusterStep (frameTime tracks frameTsMs) (frameCameraId tracks) state
        members).1.1 := by
    intro state members isKept
    have same := clusterStep_setup (frameTime tracks frameTsMs) (frameCameraId tracks) state members
    exact ⟨⟨same.config.trans isKept.setup.config, same.zone.trans isKept.setup.zone,
      same.params.trans isKept.setup.params⟩, clusterStep_fresh isKept.fresh⟩
  have each := (@collectEach_invariant _ _ _ (fun state => Kept start state.1) (fun _ => True)
    keeps (fun _ _ _ _ _ => trivial) (rule, []) kept
    (rule.findCrowdClusters tracks (frameTime tracks frameTsMs))).1
  unfold CrowdGatheringRule.observeFrame
  split
  · exact ⟨⟨kept.setup.config, kept.setup.zone, kept.setup.params⟩, nofun⟩
  · split
    · exact kept
    · exact ⟨⟨each.setup.config, each.setup.zone, each.setup.params⟩,
        fun id isKey => each.fresh id (keys_keep_sub isKey)⟩

/-! ## One cluster -/

theorem nextState_members (rule : CrowdGatheringRule Body) (frameTsMs : Nat) (members : List Int)
    (known : ClusterState) :
    (rule.nextState frameTsMs members known).members = members := by
  simp only [nextState]
  split
  · rfl
  · split <;> rfl

theorem nextState_sinceTs (rule : CrowdGatheringRule Body) (frameTsMs : Nat) (members : List Int)
    (known : ClusterState) :
    (rule.nextState frameTsMs members known).sinceTs = known.sinceTs ∨
      (rule.nextState frameTsMs members known).sinceTs = frameTsMs := by
  simp only [nextState]
  split
  · exact .inr rfl
  · split
    · exact .inr rfl
    · exact .inl rfl

theorem nextState_large {rule : CrowdGatheringRule Body} {frameTsMs : Nat} {members : List Int}
    {known : ClusterState} (hysteresis : rule.params.exitPersonCount < rule.params.minPersonCount)
    (large : rule.params.minPersonCount ≤ (members.length : Int)) :
    (rule.nextState frameTsMs members known).isCrowd = true ∧
      (rule.nextState frameTsMs members known).sinceTs =
        if known.isCrowd then known.sinceTs else frameTsMs := by
  have notSmall : ¬(members.length : Int) ≤ rule.params.exitPersonCount := by omega
  cases isCrowd : known.isCrowd with
  | false =>
    have entered : rule.nextState frameTsMs members known = ⟨members, true, frameTsMs⟩ := by
      simp only [nextState, isCrowd, Bool.not_false, Bool.true_and, decide_eq_true_eq,
        if_pos large]
    rw [entered]
    exact ⟨rfl, rfl⟩
  | true =>
    have stayed : rule.nextState frameTsMs members known = { known with members } := by
      simp only [nextState, isCrowd, Bool.not_true, Bool.false_and, Bool.true_and,
        decide_eq_true_eq, if_neg notSmall, Bool.false_eq_true, if_false]
    rw [stayed]
    exact ⟨isCrowd, rfl⟩

theorem large_of_subset {set : Finset Int} {members : List Int} {minimum : Int}
    (enough : minimum ≤ (set.card : Int)) (within : ∀ id ∈ set, id ∈ members) :
    minimum ≤ (members.length : Int) := by
  have sub : set ⊆ members.toFinset := fun id member => List.mem_toFinset.mpr (within id member)
  have card := (Finset.card_le_card sub).trans members.toFinset_card_le
  omega

theorem map_fst_matchEach (rule : CrowdGatheringRule Body) (matched : List Nat)
    (clusters : List (List Int)) : (rule.matchEach matched clusters).map Prod.fst = clusters := by
  induction clusters generalizing matched with
  | nil => rfl
  | cons _ _ induction => rw [matchEach, List.map_cons, induction]

end CrowdGatheringRule

/-! ## Runs -/

/-- A frame as the rule gets it: every track once, and the cooldown as other rules left it. -/
structure CrowdFrame (Body : Type) where
  tracks : List (TrackState Body)
  tsMs : Nat
  cooldown : CooldownTracker
  distinct : (tracks.map TrackState.trackId).Nodup

/-- The time of a frame: its timestamp, or the newest observation where it has none. -/
def CrowdFrame.time (frame : CrowdFrame Body) : Nat :=
  CrowdGatheringRule.frameTime frame.tracks frame.tsMs

namespace CrowdGatheringRule

def afterFrames (rule : CrowdGatheringRule Body) (frames : List (CrowdFrame Body)) :
    CrowdGatheringRule Body :=
  frames.foldl (fun rule frame => (rule.evaluateFrame frame.cooldown frame.tracks frame.tsMs).1)
    rule

def Together (rule : CrowdGatheringRule Body) (set : Finset Int) (frame : CrowdFrame Body) : Prop :=
  ∃ members ∈ rule.findCrowdClusters frame.tracks frame.time, ∀ id ∈ set, id ∈ members

/-- The rule reaches the cooldown with an event whose members include the set. -/
def Emits (rule : CrowdGatheringRule Body) (set : Finset Int) (frame : CrowdFrame Body) : Prop :=
  (rule.evaluateFrame frame.cooldown frame.tracks frame.tsMs).2 =
      frame.cooldown.reportAll (rule.observeFrame frame.tracks frame.tsMs).2 ∧
    ∃ finding ∈ (rule.observeFrame frame.tracks frame.tsMs).2,
      finding.event.eventType = .crowdGathering ∧ ∀ id ∈ set, id ∈ finding.event.memberTrackIds

/-- The cluster with the set goes on from a remembered cluster with the set: no cluster listed
before it has taken that one over, and no other remembered cluster is preferred. -/
def GoesOn (rule : CrowdGatheringRule Body) (set : Finset Int) (frame : CrowdFrame Body) : Prop :=
  ∀ pair ∈ rule.matchEach [] (rule.findCrowdClusters frame.tracks frame.time),
    (∀ id ∈ set, id ∈ pair.1) →
      ∃ id state, pair.2 = some id ∧ rule.clusters.get id = some state ∧
        ∀ id ∈ set, id ∈ state.members

def Remembers (rule : CrowdGatheringRule Body) (set : Finset Int) (sinceTs : Nat) : Prop :=
  ∀ id state, rule.clusters.get id = some state → (∀ id ∈ set, id ∈ state.members) →
    state.isCrowd = true ∧ state.sinceTs ≤ sinceTs

def NotAfter (rule : CrowdGatheringRule Body) (timeMs : Nat) : Prop :=
  ∀ id state, rule.clusters.get id = some state → state.sinceTs ≤ timeMs

theorem afterFrames_append (rule : CrowdGatheringRule Body)
    (first second : List (CrowdFrame Body)) :
    rule.afterFrames (first ++ second) = (rule.afterFrames first).afterFrames second :=
  List.foldl_append

theorem afterFrames_single (rule : CrowdGatheringRule Body) (frame : CrowdFrame Body) :
    rule.afterFrames [frame] = (rule.observeFrame frame.tracks frame.tsMs).1 := by
  simp only [afterFrames, List.foldl_cons, List.foldl_nil, evaluateFrame_eq]

section Run

variable {start rule : CrowdGatheringRule Body}

theorem Kept.afterFrames (kept : Kept start rule) (frames : List (CrowdFrame Body)) :
    Kept start (rule.afterFrames frames) := by
  induction frames generalizing rule with
  | nil => exact kept
  | cons frame _ induction =>
    have next := kept.observeFrame frame.tracks frame.tsMs
    rw [← afterFrames_single] at next
    exact induction next

theorem enabled_of_kept (kept : Kept start rule) (enabled : start.config.enabled = true) :
    rule.config.enabled = true := by
  rw [kept.setup.config]
  exact enabled

theorem NotAfter.known {timeMs frameTsMs : Nat} (notAfter : rule.NotAfter timeMs)
    (inTime : frameTsMs ≤ timeMs) (found : Option Nat) :
    (rule.knownState frameTsMs found).sinceTs ≤ timeMs := by
  cases found with
  | none => exact inTime
  | some id =>
    cases isState : rule.clusters.get id with
    | none =>
      simp only [knownState, isState, Option.getD_none]
      exact inTime
    | some state =>
      simp only [knownState, isState, Option.getD_some]
      exact notAfter id state isState

section

variable (kept : Kept start rule) (enabled : start.config.enabled = true)

include kept enabled

theorem NotAfter.frame {timeMs : Nat} (notAfter : rule.NotAfter timeMs) {frame : CrowdFrame Body}
    (inTime : frame.time ≤ timeMs) : (rule.afterFrames [frame]).NotAfter timeMs := by
  rw [afterFrames_single]
  by_cases empty : frame.tracks = []
  · intro id state found
    simp only [CrowdGatheringRule.observeFrame, empty, List.isEmpty_nil, if_true] at found
    cases found
  · intro id state found
    rcases (observeFrame_clusters (enabled_of_kept kept enabled) empty kept.fresh
      frame.tsMs).1 id state found with ⟨pair, _, rfl⟩
    rcases nextState_sinceTs rule frame.time pair.1 (rule.knownState frame.time pair.2) with
      same | isNow
    · exact same.trans_le (notAfter.known inTime pair.2)
    · exact isNow.trans_le inTime

theorem NotAfter.afterFrames {timeMs : Nat} (notAfter : rule.NotAfter timeMs)
    {frames : List (CrowdFrame Body)} (inTime : ∀ frame ∈ frames, frame.time ≤ timeMs) :
    (rule.afterFrames frames).NotAfter timeMs := by
  induction frames generalizing rule with
  | nil => exact notAfter
  | cons frame _ induction =>
    rw [List.forall_mem_cons] at inTime
    have next := NotAfter.frame kept enabled notAfter inTime.1
    exact induction (Kept.afterFrames kept [frame]) next inTime.2

theorem together_frame (hysteresis : start.params.exitPersonCount < start.params.minPersonCount)
    {set : Finset Int} (enough : start.params.minPersonCount ≤ (set.card : Int))
    {frame : CrowdFrame Body} (together : start.Together set frame) {sinceTs : Nat}
    (since : ∀ pair ∈ rule.matchEach [] (rule.findCrowdClusters frame.tracks frame.time),
      (∀ id ∈ set, id ∈ pair.1) →
        (if (rule.knownState frame.time pair.2).isCrowd then
          (rule.knownState frame.time pair.2).sinceTs else frame.time) ≤ sinceTs) :
    (rule.afterFrames [frame]).Remembers set sinceTs ∧
      (start.params.minDurationMs ≤ (frame.time : Int) - sinceTs → rule.Emits set frame) := by
  rcases together with ⟨_, isCluster, within⟩
  rw [← kept.setup.findCrowdClusters] at isCluster
  rcases observeFrame_clusters (enabled_of_kept kept enabled) (tracks_of_cluster isCluster)
    kept.fresh frame.tsMs with ⟨states, reports⟩
  have crowds : ∀ pair ∈ rule.matchEach [] (rule.findCrowdClusters frame.tracks frame.time),
      (∀ id ∈ set, id ∈ pair.1) →
        (rule.nextState frame.time pair.1 (rule.knownState frame.time pair.2)).isCrowd = true ∧
          (rule.nextState frame.time pair.1
            (rule.knownState frame.time pair.2)).sinceTs ≤ sinceTs := by
    intro pair isPair hasSet
    have large := large_of_subset enough hasSet
    rw [← kept.setup.params] at hysteresis large
    rcases @nextState_large _ rule frame.time pair.1 (rule.knownState frame.time pair.2)
      hysteresis large with ⟨isCrowd, start⟩
    rw [start]
    exact ⟨isCrowd, since pair isPair hasSet⟩
  constructor
  · intro id state found hasSet
    rw [afterFrames_single] at found
    rcases states id state found with ⟨pair, isPair, rfl⟩
    rw [nextState_members] at hasSet
    exact crowds pair isPair hasSet
  · intro long
    rw [← map_fst_matchEach rule [] (rule.findCrowdClusters frame.tracks frame.time)] at isCluster
    rcases List.mem_map.mp isCluster with ⟨pair, isPair, rfl⟩
    rcases crowds pair isPair within with ⟨isCrowd, _⟩
    have lasted : rule.params.minDurationMs ≤ (frame.time : Int) -
        (rule.nextState frame.time pair.1 (rule.knownState frame.time pair.2)).sinceTs := by
      rw [kept.setup.params]
      omega
    rcases reports pair isPair isCrowd lasted with ⟨finding, isFinding, isEvent, hasMembers⟩
    refine ⟨by rw [evaluateFrame_eq], finding, isFinding, isEvent, ?_⟩
    intro id inSet
    rw [hasMembers, List.mem_insertionSort]
    exact within id inSet

end

theorem afterFrames_snoc (rule : CrowdGatheringRule Body) (frames : List (CrowdFrame Body))
    (frame : CrowdFrame Body) :
    rule.afterFrames (frames ++ [frame]) = (rule.afterFrames frames).afterFrames [frame] :=
  afterFrames_append rule frames [frame]

theorem GoesOn.since {set : Finset Int} {frame : CrowdFrame Body} {sinceTs : Nat}
    (goesOn : rule.GoesOn set frame) (remembers : rule.Remembers set sinceTs) :
    ∀ pair ∈ rule.matchEach [] (rule.findCrowdClusters frame.tracks frame.time),
      (∀ id ∈ set, id ∈ pair.1) →
        (if (rule.knownState frame.time pair.2).isCrowd then
          (rule.knownState frame.time pair.2).sinceTs else frame.time) ≤ sinceTs := by
  intro pair isPair hasSet
  rcases goesOn pair isPair hasSet with ⟨id, state, isMatch, found, stateHasSet⟩
  rcases remembers id state found stateHasSet with ⟨isCrowd, isOld⟩
  simp only [isMatch, knownState, found, Option.getD_some, isCrowd, if_true]
  exact isOld

theorem NotAfter.since {set : Finset Int} {frame : CrowdFrame Body}
    (notAfter : rule.NotAfter frame.time) :
    ∀ pair ∈ rule.matchEach [] (rule.findCrowdClusters frame.tracks frame.time),
      (∀ id ∈ set, id ∈ pair.1) →
        (if (rule.knownState frame.time pair.2).isCrowd then
          (rule.knownState frame.time pair.2).sinceTs else frame.time) ≤ frame.time := by
  intro pair _ _
  split
  · exact notAfter.known (Nat.le_refl _) pair.2
  · exact Nat.le_refl _

end Run

/-! ## Stretches -/

/-- A run up to the end of a stretch in which a large enough set stays together. -/
structure StandingCrowd (start : CrowdGatheringRule Body) (set : Finset Int) where
  earlier : List (CrowdFrame Body)
  first : CrowdFrame Body
  later : List (CrowdFrame Body)
  increasing : (earlier ++ first :: later).Pairwise fun frame next => frame.time < next.time
  enough : start.params.minPersonCount ≤ (set.card : Int)
  together : ∀ frame ∈ first :: later, start.Together set frame

namespace StandingCrowd

variable {start : CrowdGatheringRule Body} {set : Finset Int}

def last (crowd : StandingCrowd start set) : CrowdFrame Body :=
  (crowd.first :: crowd.later).getLast (List.cons_ne_nil _ _)

/-- The rule as the last frame of the stretch finds it. -/
def beforeLast (crowd : StandingCrowd start set) : CrowdGatheringRule Body :=
  start.afterFrames (crowd.earlier ++ (crowd.first :: crowd.later).dropLast)

/-- In every frame after the first the cluster with the set goes on from a remembered one with
the set. -/
def Undisturbed (crowd : StandingCrowd start set) : Prop :=
  ∀ before frame after, crowd.later = before ++ frame :: after →
    (start.afterFrames (crowd.earlier ++ crowd.first :: before)).GoesOn set frame

section Stretch

variable (crowd : StandingCrowd start set) (built : start.clusters = ∅)
  (enabled : start.config.enabled = true)
  (hysteresis : start.params.exitPersonCount < start.params.minPersonCount)

include built

theorem kept_start : Kept start start where
  setup := ⟨rfl, rfl, rfl⟩
  fresh := by
    rw [FreshIds, built]
    exact nofun

include enabled

theorem notAfter_first : (start.afterFrames crowd.earlier).NotAfter crowd.first.time := by
  have start_notAfter : start.NotAfter crowd.first.time := by
    intro id state found
    rw [built] at found
    cases found
  apply start_notAfter.afterFrames (kept_start built) enabled
  intro frame member
  have increasing := List.pairwise_append.mp crowd.increasing
  exact (increasing.2.2 frame member crowd.first List.mem_cons_self).le

include hysteresis

theorem first_frame : (start.afterFrames (crowd.earlier ++ [crowd.first])).Remembers set
      crowd.first.time ∧
    (start.params.minDurationMs ≤ (crowd.first.time : Int) - crowd.first.time →
      (start.afterFrames crowd.earlier).Emits set crowd.first) := by
  rw [afterFrames_snoc]
  exact together_frame ((kept_start built).afterFrames _) enabled hysteresis crowd.enough
    (crowd.together _ List.mem_cons_self) (notAfter_first crowd built enabled).since

/-- After every frame of an undisturbed stretch the crowd is remembered since its first. -/
theorem later_frames {before : List (CrowdFrame Body)} (undisturbed : crowd.Undisturbed)
    (isBefore : ∃ after, crowd.later = before ++ after) :
    (start.afterFrames (crowd.earlier ++ crowd.first :: before)).Remembers set
      crowd.first.time := by
  induction before using List.reverseRecOn with
  | nil => exact (first_frame crowd built enabled hysteresis).1
  | append_singleton before frame induction =>
    rcases isBefore with ⟨after, isLater⟩
    rw [List.append_assoc] at isLater
    have remembers := induction ⟨_, isLater⟩
    have goesOn := undisturbed before frame after isLater
    have isFrame : frame ∈ crowd.first :: crowd.later := by
      rw [isLater]
      exact List.mem_cons_of_mem _ (List.mem_append_right _ List.mem_cons_self)
    have next := (together_frame ((kept_start built).afterFrames _) enabled hysteresis
      crowd.enough (crowd.together frame isFrame) (goesOn.since remembers)).1
    rw [← afterFrames_snoc, List.append_assoc, List.cons_append] at next
    exact next

theorem emits_last (undisturbed : crowd.Undisturbed)
    (long : start.params.minDurationMs ≤ (crowd.last.time : Int) - crowd.first.time) :
    crowd.beforeLast.Emits set crowd.last := by
  unfold last at long ⊢
  unfold beforeLast
  rcases List.eq_nil_or_concat crowd.later with isNil | ⟨before, frame, isLater⟩
  · simp only [isNil, List.getLast_singleton, List.dropLast_singleton, List.append_nil] at long ⊢
    exact (first_frame crowd built enabled hysteresis).2 long
  · rw [List.concat_eq_append] at isLater
    have remembers := later_frames crowd built enabled hysteresis undisturbed ⟨[frame], isLater⟩
    have goesOn := undisturbed before frame [] isLater
    have isFrame : frame ∈ crowd.first :: crowd.later := by
      rw [isLater]
      exact List.mem_cons_of_mem _ (List.mem_append_right _ List.mem_cons_self)
    have asWhole : crowd.first :: (before ++ [frame]) = (crowd.first :: before) ++ [frame] := rfl
    simp only [isLater, asWhole, List.getLast_append_singleton, List.dropLast_concat] at long ⊢
    exact (together_frame ((kept_start built).afterFrames _) enabled hysteresis
      crowd.enough (crowd.together frame isFrame) (goesOn.since remembers)).2 long

end Stretch

end StandingCrowd

/-- A crowd that stays together is reported by the end of every undisturbed stretch of the
minimum duration; and in every frame of a run the clusters are the connected components of the
links between the present tracks. -/
theorem standingCrowd_reported (start : CrowdGatheringRule Body) (built : start.clusters = ∅)
    (enabled : start.config.enabled = true)
    (symmetric : ∀ first second, start.params.linked first second =
      start.params.linked second first)
    (hysteresis : start.params.exitPersonCount < start.params.minPersonCount) :
    (∀ set (crowd : StandingCrowd start set), crowd.Undisturbed →
      start.params.minDurationMs ≤ (crowd.last.time : Int) - crowd.first.time →
        crowd.beforeLast.Emits set crowd.last) ∧
      ∀ (frames : List (CrowdFrame Body)) (frame : CrowdFrame Body), ∃ clusters,
        (start.afterFrames frames).findCrowdClusters frame.tracks frame.time =
          clusters.map (fun cluster => cluster.map Prod.fst) ∧
        Components start.linkedPoints (start.crowdPoints frame.tracks frame.time) clusters := by
  constructor
  · intro set crowd undisturbed long
    exact crowd.emits_last built enabled hysteresis undisturbed long
  · intro frames frame
    have kept := (StandingCrowd.kept_start built).afterFrames frames
    refine ⟨clusterByProximity start.linkedPoints (start.crowdPoints frame.tracks frame.time), ?_,
      clusterByProximity_components (fun left right => symmetric left.2 right.2) _⟩
    rw [kept.setup.findCrowdClusters, findCrowdClusters_eq]

/-! ## A yard -/

/-- The rule with its defaults, for a zone that holds every foot point. -/
def yardRule : CrowdGatheringRule FootBox where
  config := { name := "crowd" }
  zone := { name := "yard", inside := fun _ => true }
  params := { linked := footLinked 180 0 }

def standingAt (tsMs : Nat) (person : Int × ℚ) : TrackState FootBox where
  trackId := person.1
  observations := [⟨"gate", person.1, tsMs, ⟨person.2, 0, 170⟩⟩]
  firstSeenMs := tsMs
  lastSeenMs := tsMs

def fiveStanding : List (Int × ℚ) := [(1, 0), (2, 100), (3, 200), (4, 300), (5, 400)]

def yardFrame (tsMs : Nat) (sixth : ℚ) : CrowdFrame FootBox where
  tracks := ((9, sixth) :: fiveStanding).map (standingAt tsMs)
  tsMs
  cooldown := ∅
  distinct := by
    simp only [fiveStanding, List.map_cons, List.map_nil, standingAt]
    decide

def five : Finset Int := {1, 2, 3, 4, 5}

instance (rule : CrowdGatheringRule Body) (set : Finset Int) (frame : CrowdFrame Body) :
    Decidable (rule.Together set frame) :=
  inferInstanceAs (Decidable (∃ members ∈ _, ∀ id ∈ set, id ∈ members))

def sixCrowd : StandingCrowd yardRule five where
  earlier := []
  first := yardFrame 1000 (-100)
  later := [yardFrame 3000 (-100)]
  increasing := by decide
  enough := by decide
  together := by decide +kernel

theorem standingCrowd_reported_six : sixCrowd.beforeLast.Emits five sixCrowd.last ∧
    ∃ clusters, (yardRule.afterFrames []).findCrowdClusters (yardFrame 1000 (-100)).tracks
        (yardFrame 1000 (-100)).time = clusters.map (fun cluster => cluster.map Prod.fst) ∧
      Components yardRule.linkedPoints
        (yardRule.crowdPoints (yardFrame 1000 (-100)).tracks (yardFrame 1000 (-100)).time)
        clusters := by
  have reported := standingCrowd_reported yardRule rfl rfl
    (fun first second => footLinked_comm 180 0 first second) (by decide)
  refine ⟨reported.1 five sixCrowd ?_ (by decide), reported.2 [] (yardFrame 1000 (-100))⟩
  intro before frame after isLater
  cases before with
  | cons _ rest =>
    cases rest <;> cases isLater
  | nil =>
    cases isLater
    intro pair isPair _
    have pairs : (yardRule.afterFrames [yardFrame 1000 (-100)]).matchEach []
        ((yardRule.afterFrames [yardFrame 1000 (-100)]).findCrowdClusters
          (yardFrame 3000 (-100)).tracks (yardFrame 3000 (-100)).time) =
        [([9, 1, 2, 3, 4, 5], some 1)] := by decide +kernel
    have remembered : (yardRule.afterFrames [yardFrame 1000 (-100)]).clusters.get 1 =
        some ⟨[9, 1, 2, 3, 4, 5], true, 1000⟩ := by decide +kernel
    rw [show pair = ([9, 1, 2, 3, 4, 5], some 1) from List.mem_singleton.mp (pairs ▸ isPair)]
    exact ⟨1, _, rfl, remembered, by decide⟩

/-- The sixth person leaves the five after the first frame. -/
def splitCrowd : StandingCrowd yardRule five where
  earlier := []
  first := yardFrame 1000 (-100)
  later := [yardFrame 2000 (-1000), yardFrame 3000 (-1000)]
  increasing := by decide
  enough := by decide
  together := by decide +kernel

/-- The one who leaves is listed first and takes over what is remembered of the crowd: the five
stand together for the minimum duration, and no frame reports them. -/
theorem splinter_restarts_crowd : yardRule.config.enabled = true ∧
    yardRule.params.exitPersonCount < yardRule.params.minPersonCount ∧
    yardRule.params.minDurationMs ≤ (splitCrowd.last.time : Int) - splitCrowd.first.time ∧
    ∀ before frame after, splitCrowd.first :: splitCrowd.later = before ++ frame :: after →
      ¬(yardRule.afterFrames before).Emits five frame := by
  have silent : ∀ index < 3, ∀ frame ∈ (splitCrowd.first :: splitCrowd.later)[index]?,
      ((yardRule.afterFrames ((splitCrowd.first :: splitCrowd.later).take index)).observeFrame
        frame.tracks frame.tsMs).2 = [] := by decide +kernel
  refine ⟨rfl, by decide, by decide, ?_⟩
  rintro before frame after isStretch ⟨_, finding, isFinding, _⟩
  have short : before.length < 3 := by
    have three : (splitCrowd.first :: splitCrowd.later).length = 3 := rfl
    rw [isStretch, List.length_append, List.length_cons] at three
    omega
  have atIndex : frame ∈ (splitCrowd.first :: splitCrowd.later)[before.length]? := by
    rw [isStretch, List.getElem?_append_right (Nat.le_refl _), Nat.sub_self]
    rfl
  have isBefore : (splitCrowd.first :: splitCrowd.later).take before.length = before := by
    rw [isStretch, List.take_left']
    rfl
  have noFinding := silent before.length short frame atIndex
  rw [isBefore] at noFinding
  rw [noFinding] at isFinding
  cases isFinding

end CrowdGatheringRule

end VideoAnalysis.Behavior
