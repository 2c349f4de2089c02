import VideoAnalysis.Retention.Cleanup
import Mathlib.Data.List.Pairwise

/-! # What one cleanup deletes

The candidates that have expired go, and of the others the oldest as far as the quota asks
for it. Segments that lie apart do not lose anything by the deletion of one another.
-/

namespace VideoAnalysis.Retention

open Foundation

/-- Segments below the root, none within another one. -/
structure Separate (candidates : List SegmentCandidate) : Prop where
  pairwise : candidates.Pairwise fun first second => Apart first.directory second.directory
  belowRoot : ∀ candidate ∈ candidates, candidate.directory ≠ []

namespace Separate

variable {candidates : List SegmentCandidate}

theorem distinct (separate : Separate candidates) :
    (candidates.map SegmentCandidate.directory).Nodup :=
  List.pairwise_map.mpr (separate.pairwise.imp Apart.ne)

theorem eq_of_directory (separate : Separate candidates) {first second : SegmentCandidate}
    (isFirst : first ∈ candidates) (isSecond : second ∈ candidates)
    (same : first.directory = second.directory) : first = second :=
  List.inj_on_of_nodup_map separate.distinct isFirst isSecond same

theorem apart (separate : Separate candidates) {first second : SegmentCandidate}
    (isFirst : first ∈ candidates) (isSecond : second ∈ candidates)
    (different : first.directory ≠ second.directory) :
    Apart first.directory second.directory := by
  have symmetric : Std.Symm fun first second : SegmentCandidate =>
      first.directory ≠ second.directory → Apart first.directory second.directory :=
    ⟨fun _ _ apart differs => (apart differs.symm).symm⟩
  have all : candidates.Pairwise fun first second =>
      first.directory ≠ second.directory → Apart first.directory second.directory := by
    apply separate.pairwise.imp
    intro one other apart _
    exact apart
  have reflexive : ∀ one ∈ candidates,
      one.directory ≠ one.directory → Apart one.directory one.directory :=
    fun one _ differs => absurd rfl differs
  exact all.forall_of_forall reflexive isFirst isSecond different

end Separate

namespace Cleanup

/-- Between two candidates: what is not deleted is as it was, what is deleted is gone. -/
structure Sound (limits : Limits) (now : Int) (candidates : List SegmentCandidate)
    (cleanup : Cleanup) : Prop where
  intact : ∀ candidate ∈ candidates, candidate.directory ∉ cleanup.deletedPaths →
    isUnchangedAndStable cleanup.tree limits.stabilityAge now candidate = true
  gone : ∀ directory ∈ cleanup.deletedPaths, ∀ path, directory <+: path →
    cleanup.tree.stat path = none
  bytes : cleanup.deletedBytes =
    bytesWhere (fun directory => cleanup.deletedPaths.contains directory) candidates

/-- Whether the visit to a candidate that has not changed deletes it. -/
def takes (limits : Limits) (now : Int) (loaded : LoadedPins) (pass : Pass) (cleanup : Cleanup)
    (candidate : SegmentCandidate) : Bool :=
  cleanup.wants limits now pass candidate && !loaded.pins candidate

variable {limits : Limits} {now : Int} (loaded : LoadedPins)
  {candidates : List SegmentCandidate} {cleanup : Cleanup} {candidate : SegmentCandidate}

theorem visit_of_not_takes {pass : Pass}
    (passes : cleanup.takes limits now loaded pass candidate = false) :
    ∃ next, cleanup.visit limits now loaded pass candidate = some next ∧
      next.tree = cleanup.tree ∧ next.deletedPaths = cleanup.deletedPaths ∧
      next.deletedBytes = cleanup.deletedBytes ∧
      next.remainingBytes = cleanup.remainingBytes := by
  unfold visit
  cases wanted : cleanup.wants limits now pass candidate with
  | false => exact ⟨cleanup, rfl, rfl, rfl, rfl, rfl⟩
  | true =>
    rw [takes, wanted, Bool.true_and, Bool.not_eq_false'] at passes
    rw [passes]
    exact ⟨_, rfl, rfl, rfl, rfl, rfl⟩

theorem Sound.visit_of_takes {pass : Pass} (sound : Sound limits now candidates cleanup)
    (separate : Separate candidates) (wet : limits.dryRun = false)
    (member : candidate ∈ candidates) (fresh : candidate.directory ∉ cleanup.deletedPaths)
    (taken : cleanup.takes limits now loaded pass candidate = true) :
    ∃ tree, cleanup.visit limits now loaded pass candidate =
        some (cleanup.count pass candidate tree) ∧
      Sound limits now candidates (cleanup.count pass candidate tree) := by
  rw [takes, Bool.and_eq_true, Bool.not_eq_true'] at taken
  have unchanged := sound.intact candidate member fresh
  have isDeleted : deleteSegment cleanup.tree candidate.directory =
      some (removeEmptyParents (cleanup.tree.rmtree candidate.directory)
        candidate.directory.length candidate.directory.dropLast) :=
    if_neg (separate.belowRoot candidate member)
  generalize removeEmptyParents _ _ _ = tree at isDeleted
  refine ⟨tree, ?_, ?_, ?_, ?_⟩
  · simp [visit, taken, unchanged, deleted, wet, isDeleted]
  · intro other isOther notDeleted
    rw [count, List.mem_cons, not_or] at notDeleted
    have apart := separate.apart member isOther (Ne.symm notDeleted.1)
    rw [count, unchanged_apart isDeleted apart]
    exact sound.intact other isOther notDeleted.2
  · intro directory isGone path below
    rw [count, stat_deleteSegment isDeleted]
    rcases List.mem_cons.mp isGone with rfl | earlier
    · exact if_pos below
    · rw [sound.gone directory earlier path below, ite_self]
  · rw [count, bytesWhere_insert separate.distinct member fresh, ← sound.bytes]
    exact Nat.add_comm _ _

section

variable (sound : Sound limits now candidates cleanup) (separate : Separate candidates)
  (wet : limits.dryRun = false)

include sound separate wet

theorem Sound.visit (pass : Pass) (member : candidate ∈ candidates)
    (fresh : candidate.directory ∉ cleanup.deletedPaths) :
    ∃ next, cleanup.visit limits now loaded pass candidate = some next ∧
      Sound limits now candidates next ∧
      (∀ directory, directory ∈ next.deletedPaths ↔
        directory ∈ cleanup.deletedPaths ∨ (directory = candidate.directory ∧
          cleanup.takes limits now loaded pass candidate = true)) ∧
      (cleanup.remainingBytes = totalBytes candidates - cleanup.deletedBytes →
        next.remainingBytes = totalBytes candidates - next.deletedBytes) := by
  cases taken : cleanup.takes limits now loaded pass candidate with
  | false =>
    rcases visit_of_not_takes loaded taken with ⟨next, visited, sameTree, samePaths, sameBytes, same⟩
    refine ⟨next, visited, ⟨?_, ?_, ?_⟩, ?_, ?_⟩
    · rw [sameTree, samePaths]
      exact sound.intact
    · rw [sameTree, samePaths]
      exact sound.gone
    · rw [sameBytes, samePaths]
      exact sound.bytes
    · simp [samePaths]
    · rw [same, sameBytes]
      exact id
  | true =>
    rcases sound.visit_of_takes loaded separate wet member fresh taken with ⟨_, visited, next⟩
    refine ⟨_, visited, next, ?_, ?_⟩
    · intro directory
      rw [count, List.mem_cons, or_comm]
      simp
    · intro remaining
      simp only [count]
      omega

/-! ## The two passes -/

def Free (loaded : LoadedPins) (candidate : SegmentCandidate) : Prop :=
  loaded.pins candidate = false

theorem Sound.retentionPass {visits : List SegmentCandidate}
    (members : ∀ candidate ∈ visits, candidate ∈ candidates)
    (fresh : ∀ candidate ∈ visits, candidate.directory ∉ cleanup.deletedPaths)
    (distinct : (visits.map SegmentCandidate.directory).Nodup) :
    ∃ next, cleanup.retentionPass limits now loaded visits = some next ∧
      Sound limits now candidates next ∧
      ∀ directory, directory ∈ next.deletedPaths ↔
        directory ∈ cleanup.deletedPaths ∨ ∃ candidate ∈ visits,
          candidate.directory = directory ∧ candidate.newestMtime < now - limits.retention ∧
            Free loaded candidate := by
  induction visits generalizing cleanup with
  | nil => exact ⟨cleanup, rfl, sound, by simp⟩
  | cons candidate rest induction =>
    rw [List.forall_mem_cons] at members fresh
    rw [List.map_cons, List.nodup_cons] at distinct
    rcases sound.visit loaded separate wet .retention members.1 fresh.1 with
      ⟨middle, visited, soundMiddle, paths, _⟩
    have freshRest : ∀ other ∈ rest, other.directory ∉ middle.deletedPaths := by
      intro other isOther isGone
      rcases (paths other.directory).mp isGone with earlier | ⟨same, _⟩
      · exact fresh.2 other isOther earlier
      · exact distinct.1 (same ▸ List.mem_map_of_mem isOther)
    rcases induction soundMiddle members.2 freshRest distinct.2 with
      ⟨next, passed, soundNext, later⟩
    refine ⟨next, ?_, soundNext, ?_⟩
    · rw [Cleanup.retentionPass, List.foldlM_cons, visited]
      exact passed
    · intro directory
      have taken : cleanup.takes limits now loaded .retention candidate = true ↔
          candidate.newestMtime < now - limits.retention ∧ Free loaded candidate := by
        simp only [takes, wants, Bool.and_eq_true, decide_eq_true_eq, Bool.not_eq_true', Free]
      have same : directory = candidate.directory ↔ candidate.directory = directory := eq_comm
      rw [later, paths, taken, same]
      simp only [List.mem_cons, exists_eq_or_imp, or_assoc]

theorem Sound.quotaPass
    (remaining : cleanup.remainingBytes = totalBytes candidates - cleanup.deletedBytes)
    {visits : List SegmentCandidate} (members : ∀ candidate ∈ visits, candidate ∈ candidates) :
    ∃ next visited unvisited, visits = visited ++ unvisited ∧
      cleanup.quotaPass limits now loaded visits = some next ∧
      Sound limits now candidates next ∧
      next.remainingBytes = totalBytes candidates - next.deletedBytes ∧
      (unvisited = [] ∨ next.remainingBytes ≤ limits.maxBytes) ∧
      ∀ directory, directory ∈ next.deletedPaths ↔
        directory ∈ cleanup.deletedPaths ∨ ∃ candidate ∈ visited,
          candidate.directory = directory ∧ Free loaded candidate := by
  induction visits generalizing cleanup with
  | nil => exact ⟨cleanup, [], [], rfl, rfl, sound, remaining, .inl rfl, by simp⟩
  | cons candidate rest induction =>
    rw [List.forall_mem_cons] at members
    rw [Cleanup.quotaPass]
    by_cases within : cleanup.remainingBytes ≤ limits.maxBytes
    · rw [if_pos within]
      exact ⟨cleanup, [], candidate :: rest, rfl, rfl, sound, remaining, .inr within, by simp⟩
    · rw [if_neg within]
      have visited : ∃ middle, cleanup.visit limits now loaded .quota candidate = some middle ∧
          Sound limits now candidates middle ∧
          middle.remainingBytes = totalBytes candidates - middle.deletedBytes ∧
          ∀ directory, directory ∈ middle.deletedPaths ↔
            directory ∈ cleanup.deletedPaths ∨
              (candidate.directory = directory ∧ Free loaded candidate) := by
        by_cases gone : candidate.directory ∈ cleanup.deletedPaths
        · refine ⟨cleanup, ?_, sound, remaining, ?_⟩
          · simp [Cleanup.visit, wants, gone]
          · intro directory
            refine ⟨.inl, ?_⟩
            rintro (earlier | ⟨rfl, _⟩)
            · exact earlier
            · exact gone
        · rcases sound.visit loaded separate wet .quota members.1 gone with
            ⟨middle, isMiddle, soundMiddle, paths, left⟩
          have taken : cleanup.takes limits now loaded .quota candidate = true ↔
              Free loaded candidate := by
            simp only [takes, wants, gone, not_false_eq_true, decide_true, Bool.true_and,
              Bool.not_eq_true', Free]
          refine ⟨middle, isMiddle, soundMiddle, left remaining, ?_⟩
          intro directory
          have same : directory = candidate.directory ↔ candidate.directory = directory :=
            eq_comm
          rw [paths, taken, same]
      rcases visited with ⟨_, isMiddle, soundMiddle, left, paths⟩
      rcases induction soundMiddle left members.2 with
        ⟨next, before, after, split, passed, soundNext, remains, stops, later⟩
      refine ⟨next, candidate :: before, after, by rw [split, List.cons_append], ?_, soundNext,
        remains, stops, ?_⟩
      · rw [isMiddle]
        exact passed
      · intro directory
        rw [later, paths]
        simp only [List.mem_cons, exists_eq_or_imp, or_assoc]

end

end Cleanup

/-! ## The whole sweep -/

section Sweep

variable {limits : Limits} {now : Int} (loaded : LoadedPins) {tree : Tree}
  {candidates : List SegmentCandidate}

theorem mem_sortedByAge {candidate : SegmentCandidate} :
    candidate ∈ sortedByAge candidates ↔ candidate ∈ candidates :=
  (List.mergeSort_perm _ _).mem_iff

theorem sortedByAge_sorted (candidates : List SegmentCandidate) :
    (sortedByAge candidates).Pairwise fun first second =>
      first.newestMtime ≤ second.newestMtime := by
  apply List.Pairwise.imp of_decide_eq_true
  apply List.pairwise_mergeSort
  · intro first second third isFirst isSecond
    exact decide_eq_true ((of_decide_eq_true isFirst).trans (of_decide_eq_true isSecond))
  · intro first second
    rw [Bool.or_eq_true, decide_eq_true_eq, decide_eq_true_eq]
    exact le_total first.newestMtime second.newestMtime

def Expired (limits : Limits) (now : Int) (candidate : SegmentCandidate) : Prop :=
  0 < limits.retention ∧ candidate.newestMtime < now - limits.retention

section

variable (separate : Separate candidates) (wet : limits.dryRun = false)
  (unchanged : ∀ candidate ∈ candidates,
    isUnchangedAndStable tree limits.stabilityAge now candidate = true)

include separate wet unchanged

theorem retain_spec :
    ∃ retained, Cleanup.retain limits now loaded tree candidates = some retained ∧
      Cleanup.Sound limits now candidates retained ∧
      ∀ candidate ∈ candidates, candidate.directory ∈ retained.deletedPaths ↔
        Cleanup.Free loaded candidate ∧ Expired limits now candidate := by
  have start : Cleanup.Sound limits now candidates { tree } := {
    intact := fun candidate member _ => unchanged candidate member
    gone := fun _ isGone => absurd isGone List.not_mem_nil
    bytes := by simp [bytesWhere, totalBytes] }
  rw [Cleanup.retain]
  by_cases isOn : 0 < limits.retention
  · rw [if_pos isOn]
    have members : ∀ candidate ∈ sortedByAge candidates, candidate ∈ candidates :=
      fun _ => mem_sortedByAge.mp
    have distinct : ((sortedByAge candidates).map SegmentCandidate.directory).Nodup :=
      ((List.mergeSort_perm _ _).map _).nodup_iff.mpr separate.distinct
    rcases start.retentionPass loaded separate wet members
      (fun _ _ => List.not_mem_nil) distinct with ⟨retained, passed, sound, paths⟩
    refine ⟨retained, passed, sound, ?_⟩
    intro candidate member
    rw [paths]
    constructor
    · rintro (isGone | ⟨other, isOther, same, expired, free⟩)
      · cases isGone
      · rw [separate.eq_of_directory (members other isOther) member same] at expired free
        exact ⟨free, isOn, expired⟩
    · rintro ⟨free, _, expired⟩
      exact .inr ⟨candidate, mem_sortedByAge.mpr member, rfl, expired, free⟩
  · rw [if_neg isOn]
    refine ⟨_, rfl, start, ?_⟩
    intro candidate _
    constructor
    · intro isGone
      cases isGone
    · rintro ⟨_, wanted, _⟩
      exact absurd wanted isOn

/-- The first pass takes what has expired, the second one a part of the rest from the oldest
on; both leave what is pinned. -/
theorem sweep_spec :
    ∃ final visited unvisited, Cleanup.sweep limits now loaded tree candidates = some final ∧
      Cleanup.Sound limits now candidates final ∧
      sortedByAge candidates = visited ++ unvisited ∧
      (0 < limits.maxBytes → unvisited = [] ∨
        totalBytes candidates - final.deletedBytes ≤ limits.maxBytes) ∧
      ∀ candidate ∈ candidates, candidate.directory ∈ final.deletedPaths ↔
        Cleanup.Free loaded candidate ∧ (Expired limits now candidate ∨ candidate ∈ visited) := by
  rcases retain_spec loaded separate wet unchanged with
    ⟨retained, isRetained, sound, expired⟩
  have settled : Cleanup.Sound limits now candidates
      { retained with remainingBytes := totalBytes candidates - retained.deletedBytes } :=
    ⟨sound.intact, sound.gone, sound.bytes⟩
  have members : ∀ candidate ∈ sortedByAge candidates, candidate ∈ candidates :=
    fun _ => mem_sortedByAge.mp
  rw [Cleanup.sweep, isRetained, Option.bind_some, Cleanup.restrict]
  by_cases tooMany : 0 < limits.maxBytes ∧
      limits.maxBytes < totalBytes candidates - retained.deletedBytes
  · rw [if_pos tooMany]
    rcases settled.quotaPass loaded separate wet rfl members with
      ⟨final, visited, unvisited, split, passed, soundFinal, remaining, stops, paths⟩
    refine ⟨final, visited, unvisited, passed, soundFinal, split, ?_, ?_⟩
    · intro _
      rw [← remaining]
      exact stops
    · intro candidate member
      rw [paths]
      simp only [expired candidate member, and_or_left]
      apply or_congr_right
      constructor
      · rintro ⟨other, isOther, same, free⟩
        have inSorted : other ∈ sortedByAge candidates := by
          rw [split]
          exact List.mem_append_left _ isOther
        rw [separate.eq_of_directory (members other inSorted) member same] at isOther free
        exact ⟨free, isOther⟩
      · rintro ⟨free, isVisited⟩
        exact ⟨candidate, isVisited, rfl, free⟩
  · rw [if_neg tooMany]
    refine ⟨_, [], sortedByAge candidates, rfl, settled, rfl, ?_, ?_⟩
    · intro limited
      rw [not_and, not_lt] at tooMany
      exact .inr (tooMany limited)
    · intro candidate member
      rw [expired candidate member]
      simp

end

end Sweep

/-! ## One cleanup -/

def survives (tree : Tree) (candidate : SegmentCandidate) : Bool :=
  (tree.stat candidate.metadataPath).isSome

theorem metadata_of_unchanged {tree : Tree} {stabilityAge now : Int}
    {candidate : SegmentCandidate}
    (unchanged : isUnchangedAndStable tree stabilityAge now candidate = true) :
    survives tree candidate = true := by
  rw [survives]
  unfold isUnchangedAndStable at unchanged
  split at unchanged
  next metadata _ isMetadata _ => rw [isMetadata, Option.isSome_some]
  next => cases unchanged

namespace Cleanup

variable {limits : Limits} {now : Int} {candidates : List SegmentCandidate} {cleanup : Cleanup}

theorem Sound.survives_iff (sound : Sound limits now candidates cleanup)
    {candidate : SegmentCandidate} (member : candidate ∈ candidates) :
    survives cleanup.tree candidate = true ↔ candidate.directory ∉ cleanup.deletedPaths := by
  constructor
  · intro isThere isGone
    rw [survives, sound.gone _ isGone _ candidate.metadataPath_below] at isThere
    cases isThere
  · intro notDeleted
    exact metadata_of_unchanged (sound.intact candidate member notDeleted)

theorem Sound.remaining (sound : Sound limits now candidates cleanup) :
    totalBytes candidates - cleanup.deletedBytes =
        totalBytes (candidates.filter (survives cleanup.tree)) ∧
      cleanup.deletedBytes ≤ totalBytes candidates := by
  have split := bytesWhere_add
    (fun directory => cleanup.deletedPaths.contains directory) candidates
  have left : candidates.filter (survives cleanup.tree) =
      candidates.filter fun candidate => !cleanup.deletedPaths.contains candidate.directory := by
    apply List.filter_congr
    intro candidate member
    have survivor := sound.survives_iff member
    rw [Bool.eq_iff_iff, survivor]
    simp
  rw [bytesWhere, bytesWhere, ← left] at split
  have bytes := sound.bytes
  rw [bytesWhere] at bytes
  omega

end Cleanup

/-- A cleanup deletes what has expired and, where there is a quota, the oldest of the rest
until the others fit or all are pinned; segments are left whole or gone. -/
theorem cleanup_deletes_oldest (limits : Limits) (now : Int) (markers : List (Token × Marker))
    (tree : Tree) (wet : limits.dryRun = false)
    (separate : Separate (discoverSegments tree now limits.stabilityAge))
    (readable : (loadActiveReadPins (max oneSecond limits.readPinTtl) now markers).raised =
      false) :
    let candidates := discoverSegments tree now limits.stabilityAge
    let loaded := loadActiveReadPins (max oneSecond limits.readPinTtl) now markers
    ∃ cleaned, cleanupOnce limits now markers tree = some cleaned ∧
      (∀ candidate ∈ candidates,
        if survives cleaned.tree candidate then
          isUnchangedAndStable cleaned.tree limits.stabilityAge now candidate = true
        else ∀ path, candidate.directory <+: path → cleaned.tree.stat path = none) ∧
      (0 < limits.retention → ∀ candidate ∈ candidates, loaded.pins candidate = false →
        candidate.newestMtime < now - limits.retention →
          survives cleaned.tree candidate = false) ∧
      (0 < limits.maxBytes → cleaned.report.remainingBytes ≤ limits.maxBytes ∨
        ∀ candidate ∈ candidates, survives cleaned.tree candidate = true →
          loaded.pins candidate = true) ∧
      (∀ older ∈ candidates, ∀ newer ∈ candidates, loaded.pins older = false →
        loaded.pins newer = false → older.newestMtime < newer.newestMtime →
          survives cleaned.tree newer = false → survives cleaned.tree older = false) ∧
      cleaned.report.deletedBytes + cleaned.report.remainingBytes = cleaned.report.bytesSeen ∧
      cleaned.report.remainingBytes =
        totalBytes (candidates.filter (survives cleaned.tree)) := by
  intro candidates loaded
  rcases sweep_spec loaded separate wet discoverSegments_unchanged with
    ⟨final, visited, _, swept, sound, split, stops, paths⟩
  have isCleaned : cleanupOnce limits now markers tree =
      some ⟨final.tree, loaded.markers, final.report loaded candidates⟩ := by
    rw [cleanupOnce]
    simp only [readable, Bool.false_eq_true, if_false]
    rw [swept]
    rfl
  have gone : ∀ candidate ∈ candidates, survives final.tree candidate = false ↔
      Cleanup.Free loaded candidate ∧
        (Expired limits now candidate ∨ candidate ∈ visited) := by
    intro candidate member
    rw [← paths candidate member, ← Bool.not_eq_true, sound.survives_iff member, not_not]
  refine ⟨_, isCleaned, ?_, ?_, ?_, ?_, ?_, sound.remaining.1⟩
  · intro candidate member
    split
    next isThere => exact sound.intact candidate member ((sound.survives_iff member).mp isThere)
    next isGone =>
      rw [sound.survives_iff member, not_not] at isGone
      exact sound.gone candidate.directory isGone
  · intro isOn candidate member free expired
    exact (gone candidate member).mpr ⟨free, .inl ⟨isOn, expired⟩⟩
  · intro limited
    refine (stops limited).symm.imp id ?_
    intro all candidate member isThere
    by_contra notPinned
    rw [Bool.not_eq_true] at notPinned
    have isVisited : candidate ∈ visited := by
      rw [all, List.append_nil] at split
      rw [← split]
      exact mem_sortedByAge.mpr member
    rw [(gone candidate member).mpr ⟨notPinned, .inr isVisited⟩] at isThere
    cases isThere
  · intro older isOlder newer isNewer olderFree _ before newerGone
    refine (gone older isOlder).mpr ⟨olderFree, ?_⟩
    rcases ((gone newer isNewer).mp newerGone).2 with expired | isVisited
    · exact .inl ⟨expired.1, before.trans expired.2⟩
    · have sorted := sortedByAge_sorted candidates
      have inSorted : older ∈ sortedByAge candidates := mem_sortedByAge.mpr isOlder
      rw [split] at sorted inSorted
      refine .inr ((List.mem_append.mp inSorted).resolve_right ?_)
      intro notVisited
      have after := (List.pairwise_append.mp sorted).2.2 newer isVisited older notVisited
      exact absurd before (not_lt.mpr after)
  · have enough : final.deletedBytes ≤ totalBytes candidates := sound.remaining.2
    exact Nat.add_sub_cancel' enough

def segmentFiles (directory : Path) (mtimeNs : Int) : List (Path × Node FileIdentity) :=
  [(directory, .directory), (directory ++ ["video.mov"], .file ⟨1, 1, 10, mtimeNs⟩),
    (directory ++ [metadataFile], .file ⟨1, 2, 5, mtimeNs⟩)]

def twoSegments : Tree :=
  ⟨⟨segmentFiles ["camera", "0001"] 0 ++ segmentFiles ["camera", "0002"] (100 * oneSecond)⟩⟩

def olderSegment : SegmentCandidate where
  directory := ["camera", "0001"]
  videoPath := ["camera", "0001", "video.mov"]
  sizeBytes := 15
  newestMtime := 0

def retaining (retention : Int) : Limits where
  retention := retention
  maxBytes := 0
  readPinTtl := 600 * oneSecond
  stabilityAge := 5 * oneSecond
  dryRun := false

theorem twoSegments_separate :
    Separate (discoverSegments twoSegments (200 * oneSecond) (5 * oneSecond)) where
  pairwise := by
    unfold Apart
    decide +kernel
  belowRoot := by decide +kernel

theorem older_segment_expires :
    olderSegment ∈ discoverSegments twoSegments (200 * oneSecond) (5 * oneSecond) ∧
      ∃ cleaned, cleanupOnce (retaining (150 * oneSecond)) (200 * oneSecond) [] twoSegments =
          some cleaned ∧ survives cleaned.tree olderSegment = false := by
  have member : olderSegment ∈
      discoverSegments twoSegments (200 * oneSecond) (5 * oneSecond) := by decide +kernel
  rcases cleanup_deletes_oldest (retaining (150 * oneSecond)) (200 * oneSecond) [] twoSegments
    rfl twoSegments_separate rfl with ⟨cleaned, isCleaned, _, expired, _⟩
  exact ⟨member, cleaned, isCleaned, expired (by decide) olderSegment member rfl (by decide)⟩

/-- Without a retention nothing expires. -/
theorem no_retention_keeps_segment :
    ¬∀ (limits : Limits) (now : Int) (markers : List (Token × Marker)) (tree : Tree),
      limits.dryRun = false →
      Separate (discoverSegments tree now limits.stabilityAge) →
      (loadActiveReadPins (max oneSecond limits.readPinTtl) now markers).raised = false →
        ∃ cleaned, cleanupOnce limits now markers tree = some cleaned ∧
          ∀ candidate ∈ discoverSegments tree now limits.stabilityAge,
            (loadActiveReadPins (max oneSecond limits.readPinTtl) now markers).pins candidate =
                false →
              candidate.newestMtime < now - limits.retention →
                survives cleaned.tree candidate = false := by
  intro all
  rcases all (retaining 0) (200 * oneSecond) [] twoSegments rfl twoSegments_separate rfl with
    ⟨cleaned, isCleaned, expired⟩
  have kept : (cleanupOnce (retaining 0) (200 * oneSecond) [] twoSegments).map
      (fun cleaned => survives cleaned.tree olderSegment) = some true := by decide +kernel
  rw [isCleaned, Option.map_some] at kept
  have gone := expired olderSegment (by decide +kernel) rfl (by decide)
  rw [gone] at kept
  cases kept

end VideoAnalysis.Retention
