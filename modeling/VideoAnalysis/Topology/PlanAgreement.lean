import VideoAnalysis.Topology.Plan
import Mathlib.Data.List.Nodup

/-! # Plans that agree with themselves

Every enabled camera is in one branch, and the documents say which. What a strategy promises of
the branches holds too, except that cameras of a GPU that both branches share all go to one.
-/

namespace VideoAnalysis.Topology

open Foundation

/-! ## Two branches -/

def twoBranches (gpuA gpuB : Int) : List BranchConfig := [⟨.a, gpuA⟩, ⟨.b, gpuB⟩]

theorem turn_twoBranches (gpuA gpuB : Int) (index : Nat) :
    turn (twoBranches gpuA gpuB) index = if index % 2 = 0 then .a else .b := by
  have small : index % 2 = 0 ∨ index % 2 = 1 := by omega
  rcases small with even | odd
  · simp [turn, twoBranches, even]
  · simp [turn, twoBranches, odd]

theorem gpuToBranch_twoBranches (gpuA gpuB gpu : Int) :
    (gpuToBranch (twoBranches gpuA gpuB)).get gpu =
      if gpu = gpuB then some .b else if gpu = gpuA then some .a else none := by
  simp only [gpuToBranch, twoBranches, Dict.ofPairs, List.map_cons, List.map_nil,
    List.foldl_cons, List.foldl_nil, Dict.get_set, Dict.get_empty]

section Two

variable (config : TopologyConfig) (gpuA gpuB : Int)

theorem assignedBranch_twoBranches (index : Nat) (camera : Camera) :
    assignedBranch config (twoBranches gpuA gpuB) index camera = .a ∨
      assignedBranch config (twoBranches gpuA gpuB) index camera = .b := by
  have turns : turn (twoBranches gpuA gpuB) index = .a ∨
      turn (twoBranches gpuA gpuB) index = .b := by
    rw [turn_twoBranches]
    split
    · exact .inl rfl
    · exact .inr rfl
  unfold assignedBranch
  cases config.shardStrategy with
  | balanced => exact turns
  | gpuId =>
    simp only [gpuToBranch_twoBranches]
    split
    · exact .inr rfl
    · split
      · exact .inl rfl
      · exact turns
  | manual =>
    simp only
    split
    next listed =>
      have member := List.contains_iff_mem.mp listed
      simp only [twoBranches, List.map_cons, List.map_nil, List.mem_cons, List.not_mem_nil,
        or_false] at member
      exact member
    next => exact turns

def members (cameras : List Camera) (branchId : BranchId) : List Camera :=
  (cameras.zipIdx.filter fun place =>
    assignedBranch config (twoBranches gpuA gpuB) place.2 place.1 == branchId).map Prod.fst

variable {config gpuA gpuB} {cameras : List Camera}

theorem members_partition :
    (members config gpuA gpuB cameras .a ++ members config gpuA gpuB cameras .b).Perm cameras := by
  have others : (fun place : Camera × Nat =>
      assignedBranch config (twoBranches gpuA gpuB) place.2 place.1 == .b) =
      fun place => !(assignedBranch config (twoBranches gpuA gpuB) place.2 place.1 == .a) := by
    funext place
    rcases assignedBranch_twoBranches config gpuA gpuB place.2 place.1 with isA | isB
    · rw [isA]
      rfl
    · rw [isB]
      rfl
  rw [members, members, ← List.map_append, others]
  have places := (List.filter_append_perm (fun place : Camera × Nat =>
    assignedBranch config (twoBranches gpuA gpuB) place.2 place.1 == .a) cameras.zipIdx).map
      Prod.fst
  rw [List.zipIdx_map_fst] at places
  exact places

theorem mem_members_of_place {place : Camera × Nat} (isPlace : place ∈ cameras.zipIdx) :
    place.1 ∈ members config gpuA gpuB cameras
      (assignedBranch config (twoBranches gpuA gpuB) place.2 place.1) :=
  List.mem_map_of_mem (List.mem_filter.mpr ⟨isPlace, BEq.rfl⟩)

theorem place_of_mem {camera : Camera} (member : camera ∈ cameras) :
    ∃ place ∈ cameras.zipIdx, place.1 = camera := by
  rw [← List.zipIdx_map_fst 0 cameras, List.mem_map] at member
  exact member

theorem members_eq_nil_iff {branchId : BranchId} :
    members config gpuA gpuB cameras branchId = [] ↔ ∀ place ∈ cameras.zipIdx,
      assignedBranch config (twoBranches gpuA gpuB) place.2 place.1 ≠ branchId := by
  rw [members, List.map_eq_nil_iff, List.filter_eq_nil_iff]
  simp only [beq_iff_eq, ne_eq]

theorem source_mem_members_iff (distinct : (cameras.map Camera.sourceId).Nodup)
    {place : Camera × Nat} (isPlace : place ∈ cameras.zipIdx) {branchId : BranchId} :
    place.1.sourceId ∈ (members config gpuA gpuB cameras branchId).map Camera.sourceId ↔
      assignedBranch config (twoBranches gpuA gpuB) place.2 place.1 = branchId := by
  constructor
  · intro listed
    rcases List.mem_map.mp listed with ⟨_, isMember, sameSource⟩
    rcases List.mem_map.mp isMember with ⟨_, inBranch, rfl⟩
    rcases List.mem_filter.mp inBranch with ⟨isOther, isBranch⟩
    have once : (cameras.zipIdx.map fun place => place.1.sourceId).Nodup := by
      rw [← List.zipIdx_map_fst 0 cameras, List.map_map] at distinct
      exact distinct
    rw [← List.inj_on_of_nodup_map once isOther isPlace sameSource]
    exact beq_iff_eq.mp isBranch
  · intro isBranch
    rw [← isBranch]
    exact List.mem_map_of_mem (mem_members_of_place isPlace)

/-! ## Balanced branches -/

theorem length_filter_even {α : Type} (items : List α) (start : Nat) :
    ((items.zipIdx start).filter fun place => place.2 % 2 == 0).length =
      (items.length + (start + 1) % 2) / 2 := by
  induction items generalizing start with
  | nil =>
    simp only [List.zipIdx_nil, List.filter_nil, List.length_nil]
    omega
  | cons _ _ induction =>
    rw [List.zipIdx_cons, List.filter_cons]
    split
    next even =>
      have even := beq_iff_eq.mp even
      rw [List.length_cons, List.length_cons, induction]
      omega
    next odd =>
      rw [beq_iff_eq] at odd
      rw [List.length_cons, induction]
      omega

theorem length_members (isBalanced : config.shardStrategy = .balanced) :
    (members config gpuA gpuB cameras .a).length = (cameras.length + 1) / 2 ∧
      (members config gpuA gpuB cameras .b).length = cameras.length / 2 := by
  have first : (members config gpuA gpuB cameras .a).length = (cameras.length + 1) / 2 := by
    have even : (fun place : Camera × Nat =>
        assignedBranch config (twoBranches gpuA gpuB) place.2 place.1 == .a) =
        fun place => place.2 % 2 == 0 := by
      funext place
      simp only [assignedBranch, isBalanced, turn_twoBranches]
      by_cases isEven : place.2 % 2 = 0
      · rw [if_pos isEven, isEven]
        rfl
      · rw [if_neg isEven, beq_eq_false_iff_ne.mpr isEven]
        rfl
    rw [members, List.length_map, even, length_filter_even]
  have all := (@members_partition config gpuA gpuB cameras).length_eq
  rw [List.length_append, first] at all
  exact ⟨first, by omega⟩

end Two

/-! ## The documents -/

section Documents

variable (input : PlanInput)

theorem enabled_sources : (input.enabled.map Camera.sourceId).Nodup :=
  (List.filter_sublist.map Camera.sourceId).nodup input.distinctSources

theorem enabled_ids : (input.enabled.map Camera.id).Nodup :=
  (List.filter_sublist.map Camera.id).nodup input.distinctIds

def assignments : List (BranchId × List Camera) :=
  assignCameras input.config input.branches input.mode.dual input.enabled

theorem mapM_of_each {α β : Type} {view : α → Option β} {result : α → β} {items : List α}
    (each : ∀ item ∈ items, view item = some (result item)) :
    items.mapM view = some (items.map result) := by
  induction items with
  | nil => rfl
  | cons _ _ induction =>
    rw [List.forall_mem_cons] at each
    rw [List.mapM_cons, each.1, induction each.2]
    rfl

theorem sourcesDoc_eq :
    sourcesDoc input.validateSourceId (assignments input) input.mode.dual input.enabled =
      some (Dict.ofPairs (input.enabled.map fun camera =>
        (camera.id, sourceDoc (assignments input) input.mode.dual camera camera.sourceId))) := by
  have rows : (input.enabled.mapM fun camera => do
      let sourceId ← input.validateSourceId camera.sourceId
      return (camera.id, sourceDoc (assignments input) input.mode.dual camera sourceId)) =
      some (input.enabled.map fun camera =>
        (camera.id, sourceDoc (assignments input) input.mode.dual camera camera.sourceId)) := by
    apply mapM_of_each
    intro camera isEnabled
    rw [input.accepted camera (List.mem_of_mem_filter isEnabled)]
    rfl
  simp only [sourcesDoc, rows]
  rfl

def rows : List BranchRow :=
  input.branches.map fun branch =>
    branchRow branch ((Dict.lookup branch.branchId (assignments input)).getD [])

def docs : Dict String SourceDoc :=
  Dict.ofPairs (input.enabled.map fun camera =>
    (camera.id, sourceDoc (assignments input) input.mode.dual camera camera.sourceId))

def madePlan : TopologyPlan where
  requestedMode := input.config.topologyMode
  effectiveMode := input.mode
  dual := input.mode.dual
  shardStrategy := input.config.shardStrategy
  streamsPerBranch := input.config.streamsPerBranch
  enabledSourceCount := input.enabled.length
  totalCameraCount := input.cameras.length
  availableGpus := input.availableGpus
  branches := rows input
  replayShards := if input.mode.dual then some (replayShardsDoc (rows input)) else none
  sources := docs input

theorem plan_eq : input.plan = some (madePlan input) := by
  have made := sourcesDoc_eq input
  unfold PlanInput.plan buildTopologyPlan
  simp only [assignments, PlanInput.branches, PlanInput.mode, PlanInput.enabled] at made
  simp only [made]
  rfl

variable {camera : Camera}

theorem docs_get (isEnabled : camera ∈ input.enabled) :
    (docs input).get camera.id =
      some (sourceDoc (assignments input) input.mode.dual camera camera.sourceId) := by
  have distinct := enabled_ids input
  apply Dict.get_ofPairs
  · rw [List.map_map]
    exact distinct
  · exact List.mem_map_of_mem isEnabled

variable {input}

theorem branches_of_single (single : input.mode.dual = false) :
    input.branches = [⟨.single, input.config.gpuA⟩] := by
  unfold PlanInput.branches
  cases isMode : input.mode with
  | single => rfl
  | dualAuto | dualSameGpu | dualDualGpu =>
    rw [isMode] at single
    cases single

theorem branches_of_dual (dual : input.mode.dual = true) :
    ∃ gpuA gpuB, input.branches = twoBranches gpuA gpuB := by
  unfold PlanInput.branches
  cases isMode : input.mode with
  | single =>
    rw [isMode] at dual
    cases dual
  | dualAuto | dualSameGpu | dualDualGpu => exact ⟨_, _, rfl⟩

theorem rows_of_single (single : input.mode.dual = false) :
    rows input = [branchRow ⟨.single, input.config.gpuA⟩ input.enabled] := by
  simp only [rows, assignments, branches_of_single single, single, assignCameras]
  rfl

theorem rows_of_dual (dual : input.mode.dual = true) {gpuA gpuB : Int}
    (two : input.branches = twoBranches gpuA gpuB) :
    rows input = [branchRow ⟨.a, gpuA⟩ (members input.config gpuA gpuB input.enabled .a),
      branchRow ⟨.b, gpuB⟩ (members input.config gpuA gpuB input.enabled .b)] := by
  simp only [rows, assignments, two, dual, assignCameras]
  rfl

variable {place : Camera × Nat}

section

variable (dual : input.mode.dual = true) {gpuA gpuB : Int}
  (two : input.branches = twoBranches gpuA gpuB) (isPlace : place ∈ input.enabled.zipIdx)

include dual gpuA gpuB two isPlace

theorem sourceBranch_get :
    (sourceBranch (assignments input)).get place.1.sourceId =
      some (assignedBranch input.config (twoBranches gpuA gpuB) place.2 place.1) := by
  have listed : assignments input =
      [(.a, members input.config gpuA gpuB input.enabled .a),
        (.b, members input.config gpuA gpuB input.enabled .b)] := by
    simp only [assignments, two, dual, assignCameras]
    rfl
  have sources := enabled_sources input
  have parts := (@members_partition input.config gpuA gpuB input.enabled).map Camera.sourceId
  rw [List.map_append] at parts
  have member := @mem_members_of_place input.config gpuA gpuB input.enabled place isPlace
  rw [listed]
  apply Dict.get_ofPairs
  · simp only [List.flatMap_cons, List.flatMap_nil, List.append_nil, List.map_append,
      List.map_map]
    exact parts.nodup_iff.mpr sources
  · simp only [List.flatMap_cons, List.flatMap_nil, List.append_nil, List.mem_append,
      List.mem_map, Prod.mk.injEq]
    rcases assignedBranch_twoBranches input.config gpuA gpuB place.2 place.1 with isA | isB
    · rw [isA] at member ⊢
      exact .inl ⟨_, member, rfl, rfl⟩
    · rw [isB] at member ⊢
      exact .inr ⟨_, member, rfl, rfl⟩

theorem agrees_of_place :
    (sourceDoc (assignments input) input.mode.dual place.1 place.1.sourceId).Agrees
      ((rows input).map replayShard) := by
  have sources := enabled_sources input
  have listed := fun branchId =>
    @source_mem_members_iff input.config gpuA gpuB input.enabled sources place isPlace branchId
  have isBranch := sourceBranch_get dual two isPlace
  rw [rows_of_dual dual two, SourceDoc.Agrees]
  simp only [sourceDoc, isBranch, Option.getD_some, dual, if_true, List.map_cons, List.map_nil,
    List.mem_cons, List.not_mem_nil, or_false, exists_eq_or_imp, exists_eq_left, forall_eq_or_imp,
    forall_eq, replayShard, branchRow, listed]
  rcases assignedBranch_twoBranches input.config gpuA gpuB place.2 place.1 with isA | isB
  · rw [isA]
    exact .inl ⟨rfl, ⟨fun _ => trivial, by rintro ⟨⟩⟩, rfl, rfl⟩
  · rw [isB]
    exact .inr ⟨rfl, ⟨by rintro ⟨⟩, fun _ => trivial⟩, rfl, rfl⟩

end

/-! ## What a strategy promises -/

theorem manual_kept {gpuA gpuB : Int} (isManual : input.config.shardStrategy = .manual)
    {branchId : BranchId}
    (assigned : input.config.manualAssignments.get place.1.sourceId = some branchId)
    (isBranch : branchId = .a ∨ branchId = .b) :
    assignedBranch input.config (twoBranches gpuA gpuB) place.2 place.1 = branchId := by
  have known : ((twoBranches gpuA gpuB).map BranchConfig.branchId).contains branchId = true := by
    rcases isBranch with rfl | rfl
    all_goals rfl
  simp only [assignedBranch, isManual, assigned, Option.getD_some, known, if_true]

theorem assignedBranch_gpu {gpuA gpuB : Int} (isGpu : input.config.shardStrategy = .gpuId)
    (place : Camera × Nat) :
    assignedBranch input.config (twoBranches gpuA gpuB) place.2 place.1 =
      if place.1.gpu = gpuB then .b else if place.1.gpu = gpuA then .a
      else if place.2 % 2 = 0 then .a else .b := by
  simp only [assignedBranch, isGpu, gpuToBranch_twoBranches, turn_twoBranches]
  split
  · rfl
  · split
    all_goals rfl

theorem partition_holds :
    ((rows input).flatMap BranchRow.sourceIds).Perm (input.enabled.map Camera.sourceId) := by
  cases dual : input.mode.dual with
  | false =>
    rw [rows_of_single dual, List.flatMap_singleton]
    exact List.Perm.refl _
  | true =>
    rcases branches_of_dual dual with ⟨gpuA, gpuB, two⟩
    have parts := (@members_partition input.config gpuA gpuB input.enabled).map Camera.sourceId
    rw [List.map_append] at parts
    rw [rows_of_dual dual two, List.flatMap_cons, List.flatMap_singleton]
    exact parts

theorem balanced_holds (isBalanced : input.config.shardStrategy = .balanced) :
    ∀ branch ∈ rows input, ∀ other ∈ rows input,
      branch.sourceIds.length ≤ other.sourceIds.length + 1 := by
  cases dual : input.mode.dual with
  | false =>
    rw [rows_of_single dual]
    intro branch isBranch other isOther
    rw [List.mem_singleton.mp isBranch, List.mem_singleton.mp isOther]
    exact Nat.le_succ _
  | true =>
    rcases branches_of_dual dual with ⟨gpuA, gpuB, two⟩
    rcases @length_members input.config gpuA gpuB input.enabled isBalanced with ⟨first, second⟩
    rw [rows_of_dual dual two]
    simp only [List.mem_cons, List.not_mem_nil, or_false, forall_eq_or_imp, forall_eq,
      branchRow, List.length_map, first, second]
    omega

theorem manual_holds (isManual : input.config.shardStrategy = .manual)
    (isEnabled : camera ∈ input.enabled) {branchId : BranchId}
    (assigned : input.config.manualAssignments.get camera.sourceId = some branchId) :
    ∀ branch ∈ rows input, branch.branchId = branchId → camera.sourceId ∈ branch.sourceIds := by
  cases dual : input.mode.dual with
  | false =>
    rw [rows_of_single dual]
    intro branch isBranch _
    rw [List.mem_singleton.mp isBranch]
    exact List.mem_map_of_mem isEnabled
  | true =>
    rcases branches_of_dual dual with ⟨gpuA, gpuB, two⟩
    rcases place_of_mem isEnabled with ⟨place, isPlace, rfl⟩
    have listed := fun branchId =>
      @source_mem_members_iff input.config gpuA gpuB input.enabled (enabled_sources input) place
        isPlace branchId
    rw [rows_of_dual dual two]
    simp only [List.mem_cons, List.not_mem_nil, or_false, forall_eq_or_imp, forall_eq,
      branchRow, listed]
    exact ⟨fun same => manual_kept isManual (same ▸ assigned) (.inl rfl),
      fun same => manual_kept isManual (same ▸ assigned) (.inr rfl)⟩

theorem ownGpu_holds (isGpu : input.config.shardStrategy = .gpuId)
    (isEnabled : camera ∈ input.enabled) :
    ∀ branch ∈ rows input, branch.gpuId = camera.gpu →
      (∀ other ∈ rows input, other.gpuId = camera.gpu → other = branch) →
        camera.sourceId ∈ branch.sourceIds := by
  cases dual : input.mode.dual with
  | false =>
    rw [rows_of_single dual]
    intro branch isBranch _ _
    rw [List.mem_singleton.mp isBranch]
    exact List.mem_map_of_mem isEnabled
  | true =>
    rcases branches_of_dual dual with ⟨gpuA, gpuB, two⟩
    rcases place_of_mem isEnabled with ⟨place, isPlace, rfl⟩
    have listed := fun branchId =>
      @source_mem_members_iff input.config gpuA gpuB input.enabled (enabled_sources input) place
        isPlace branchId
    rw [rows_of_dual dual two]
    simp only [List.mem_cons, List.not_mem_nil, or_false, forall_eq_or_imp, forall_eq,
      branchRow, listed, assignedBranch_gpu isGpu, BranchRow.mk.injEq]
    constructor
    · intro isA only
      rw [if_neg, if_pos isA.symm]
      intro isB
      cases (only.2 isB.symm).1
    · intro isB _
      rw [if_pos isB.symm]

def sharers (cameras : List Camera) (branch other : BranchRow) : List Camera :=
  cameras.filter fun camera => decide (camera.sourceId ∈ other.sourceIds) &&
    camera.gpu == branch.gpuId && camera.gpu == other.gpuId

theorem mem_sharers {cameras : List Camera} {branch other : BranchRow} :
    camera ∈ sharers cameras branch other ↔ camera ∈ cameras ∧
      camera.sourceId ∈ other.sourceIds ∧ camera.gpu = branch.gpuId ∧
        camera.gpu = other.gpuId := by
  simp only [sharers, List.mem_filter, Bool.and_eq_true, decide_eq_true_eq, beq_iff_eq,
    and_assoc]

theorem sharers_few {cameras : List Camera} {branch other : BranchRow}
    (none : ∀ camera, camera ∉ sharers cameras branch other) :
    (sharers cameras branch other).length < 2 := by
  rw [List.eq_nil_iff_forall_not_mem.mpr none]
  exact Nat.zero_lt_two

theorem shared_in_later {gpu : Int} (isGpu : input.config.shardStrategy = .gpuId)
    (same : place.1.gpu = gpu) :
    assignedBranch input.config (twoBranches gpu gpu) place.2 place.1 = .b := by
  rw [assignedBranch_gpu isGpu, if_pos same]

theorem first_empty_iff {gpu : Int} (isGpu : input.config.shardStrategy = .gpuId) :
    members input.config gpu gpu input.enabled .a = [] ↔
      ∀ place ∈ input.enabled.zipIdx, place.1.gpu ≠ gpu → place.2 % 2 = 1 := by
  rw [members_eq_nil_iff]
  apply forall_congr'
  intro place
  apply forall_congr'
  intro _
  rw [assignedBranch_gpu isGpu]
  by_cases same : place.1.gpu = gpu
  · simp [same]
  · have parity : place.2 % 2 = 0 ∨ place.2 % 2 = 1 := by omega
    rcases parity with even | odd
    · simp [same, even]
    · simp [same, odd]

theorem sharedGpu_iff :
    (input.config.shardStrategy = .gpuId → ∀ branch ∈ rows input, branch.sourceIds = [] →
      ∀ other ∈ rows input, (sharers input.enabled branch other).length < 2) ↔
      ¬input.Crowded := by
  have itself : ∀ branch : BranchRow, branch.sourceIds = [] →
      (sharers input.enabled branch branch).length < 2 := by
    intro branch isEmpty
    apply sharers_few
    intro camera member
    have listed := (mem_sharers.mp member).2.1
    rw [isEmpty] at listed
    exact absurd listed List.not_mem_nil
  cases dual : input.mode.dual with
  | false =>
    have notCrowded : ¬input.Crowded := by
      rintro ⟨isDual, _⟩
      rw [dual] at isDual
      cases isDual
    refine ⟨fun _ => notCrowded, fun _ _ => ?_⟩
    rw [rows_of_single dual]
    intro branch isBranch isEmpty other isOther
    rw [List.mem_singleton] at isBranch isOther
    rw [isOther, ← isBranch]
    exact itself branch isEmpty
  | true =>
    rcases branches_of_dual dual with ⟨gpuA, gpuB, two⟩
    have listed := fun place isPlace branchId =>
      @source_mem_members_iff input.config gpuA gpuB input.enabled (enabled_sources input) place
        isPlace branchId
    rw [rows_of_dual dual two]
    constructor
    · rintro shares ⟨_, isGpu, gpu, same, many, turns⟩
      rw [two] at same
      have isA : gpuA = gpu := same ⟨.a, gpuA⟩ List.mem_cons_self
      have isB : gpuB = gpu := same ⟨.b, gpuB⟩ (List.mem_cons_of_mem _ List.mem_cons_self)
      subst isA isB
      have isEmpty := (first_empty_iff isGpu).mpr turns
      have few := shares isGpu _ List.mem_cons_self (by rw [isEmpty]; rfl) _
        (List.mem_cons_of_mem _ List.mem_cons_self)
      have all : sharers input.enabled
          (branchRow ⟨.a, gpuB⟩ (members input.config gpuB gpuB input.enabled .a))
          (branchRow ⟨.b, gpuB⟩ (members input.config gpuB gpuB input.enabled .b)) =
          input.enabled.filter fun camera => camera.gpu == gpuB := by
        apply List.filter_congr
        intro camera isEnabled
        rcases place_of_mem isEnabled with ⟨place, isPlace, rfl⟩
        by_cases same : place.1.gpu = gpuB
        · have inLater := (listed place isPlace .b).mpr (shared_in_later isGpu same)
          rw [branchRow, branchRow, decide_eq_true inLater, same]
          simp
        · simp [branchRow, same]
      rw [all] at few
      omega
    · intro notCrowded isGpu branch isBranch isEmpty other isOther
      have cases : ∀ {row : BranchRow}, row ∈
          [branchRow ⟨.a, gpuA⟩ (members input.config gpuA gpuB input.enabled .a),
            branchRow ⟨.b, gpuB⟩ (members input.config gpuA gpuB input.enabled .b)] →
          row = branchRow ⟨.a, gpuA⟩ (members input.config gpuA gpuB input.enabled .a) ∨
            row = branchRow ⟨.b, gpuB⟩ (members input.config gpuA gpuB input.enabled .b) := by
        intro row isRow
        simpa using isRow
      rcases cases isBranch with rfl | rfl
      · rcases cases isOther with rfl | rfl
        · exact itself _ isEmpty
        · rw [← Nat.not_le]
          intro many
          rcases List.exists_mem_of_length_pos (Nat.zero_lt_two.trans_le many) with
            ⟨camera, member⟩
          rcases mem_sharers.mp member with ⟨_, _, isA, isB⟩
          have oneGpu : gpuA = gpuB := isA.symm.trans isB
          subst oneGpu
          have noneFirst := List.map_eq_nil_iff.mp isEmpty
          apply notCrowded
          refine ⟨dual, isGpu, gpuA, ?_, ?_, (first_empty_iff isGpu).mp noneFirst⟩
          · rw [two]
            simp [twoBranches]
          · apply many.trans
            apply List.Sublist.length_le
            apply List.monotone_filter_right
            intro camera shares
            simp only [branchRow, Bool.and_eq_true] at shares
            exact shares.2
      · rcases cases isOther with rfl | rfl
        · apply sharers_few
          intro camera member
          rcases mem_sharers.mp member with ⟨isEnabled, _, isB, isA⟩
          have oneGpu : gpuA = gpuB := isA.symm.trans isB
          subst oneGpu
          rcases place_of_mem isEnabled with ⟨place, isPlace, rfl⟩
          have inLater := (listed place isPlace .b).mpr (shared_in_later isGpu isA)
          rw [List.map_eq_nil_iff.mp isEmpty] at inLater
          exact absurd inLater List.not_mem_nil
        · exact itself _ isEmpty

theorem documents_hold (isEnabled : camera ∈ input.enabled) :
    ∃ row, (docs input).get camera.id = some row ∧ row.sourceId = camera.sourceId ∧
      ∀ doc, (madePlan input).replayShards = some doc → row.Agrees doc.shards := by
  refine ⟨_, docs_get input isEnabled, rfl, ?_⟩
  intro doc isDoc
  cases dual : input.mode.dual with
  | false =>
    simp only [madePlan, dual, Bool.false_eq_true, if_false] at isDoc
    cases isDoc
  | true =>
    simp only [madePlan, dual, if_true, Option.some.injEq] at isDoc
    rcases branches_of_dual dual with ⟨_, _, two⟩
    rcases place_of_mem isEnabled with ⟨_, isPlace, rfl⟩
    have agrees := agrees_of_place dual two isPlace
    rw [dual] at agrees
    rw [← isDoc]
    exact agrees

end Documents

/-- There is a plan, and it is as it should be unless two cameras or more crowd into the later of
two branches on one GPU. -/
theorem plan_agrees_iff (input : PlanInput) :
    ∃ plan, input.plan = some plan ∧ (PlanAgrees input plan ↔ ¬input.Crowded) := by
  refine ⟨madePlan input, plan_eq input, ?_⟩
  constructor
  · exact fun agrees => sharedGpu_iff.mp agrees.sharedGpu
  · intro notCrowded
    exact {
      partition := partition_holds
      documents := fun camera isEnabled => documents_hold isEnabled
      replayed := fun dual => by
        have isDual : input.mode.dual = true := dual
        simp only [madePlan, isDual, if_true, Option.isSome_some]
      balanced := balanced_holds
      manual := fun isManual camera isEnabled branchId assigned =>
        manual_holds isManual isEnabled assigned
      ownGpu := fun isGpu camera isEnabled => ownGpu_holds isGpu isEnabled
      sharedGpu := sharedGpu_iff.mpr notCrowded }

/-- Two branches on GPU 0 and two cameras for GPU 0, to be spread by GPU. -/
def oneGpuInput : PlanInput where
  validateSourceId := some
  config := { topologyMode := .dualSameGpu, shardStrategy := .gpuId }
  cameras :=
    [{ id := "cam1", sourceId := "camera_01", rtspUrl := "rtsp://host/1", gpuId := some 0 },
      { id := "cam2", sourceId := "camera_02", rtspUrl := "rtsp://host/2", gpuId := some 0 }]
  availableGpus := ["0"]
  distinctIds := by decide
  distinctSources := by decide
  accepted := fun _ _ => rfl

theorem one_gpu_leaves_a_branch_empty :
    ∃ plan, oneGpuInput.plan = some plan ∧
      plan.branches.map BranchRow.sourceIds = [[], ["camera_01", "camera_02"]] ∧
        ¬PlanAgrees oneGpuInput plan := by
  refine ⟨madePlan oneGpuInput, plan_eq oneGpuInput, by decide +kernel, ?_⟩
  intro agrees
  have few := agrees.sharedGpu rfl _ List.mem_cons_self (by decide +kernel) _
    (List.mem_cons_of_mem _ List.mem_cons_self)
  revert few
  decide +kernel

end VideoAnalysis.Topology
