import VideoAnalysis.Retention.PinSafety
import Mathlib.Data.List.Find

/-! # One cleanup

`cleanup_once` while nothing else touches the cache: the whole discovery, the pins, the
pass for the retention and the one for the quota. The lock file and the generation file,
which stand in the root itself, are left out, and so are the durations.
-/

namespace VideoAnalysis.Retention

open Foundation

/-- `discover_segments`, in the order of the tree. -/
def discoverSegments (tree : Tree) (now stabilityAge : Int) : List SegmentCandidate :=
  (tree.paths.filter fun path => path.getLast? = some metadataFile).filterMap fun path =>
    candidateAt tree stabilityAge now path.dropLast

/-- The variables of `cleanup_once` between two candidates, with the tree. -/
structure Cleanup where
  tree : Tree
  deletedBytes : Nat := 0
  remainingBytes : Nat := 0
  retentionDeleted : Nat := 0
  quotaDeleted : Nat := 0
  skippedPinned : Nat := 0
  deletedPaths : List Path := []

structure CleanupReport where
  segmentsSeen : Nat
  bytesSeen : Nat
  retentionDeleted : Nat
  quotaDeleted : Nat
  deletedBytes : Nat
  remainingBytes : Nat
  skippedPinned : Nat
  conservativeBlockAll : Bool

def totalBytes (candidates : List SegmentCandidate) : Nat :=
  (candidates.map SegmentCandidate.sizeBytes).sum

def sortedByAge (candidates : List SegmentCandidate) : List SegmentCandidate :=
  candidates.mergeSort fun first second => first.newestMtime ≤ second.newestMtime

def LoadedPins.pins (loaded : LoadedPins) (candidate : SegmentCandidate) : Bool :=
  loaded.blockAll || loaded.active.contains candidate.directory

namespace Cleanup

variable (limits : Limits) (now : Int) (loaded : LoadedPins)

/-- What becomes of the tree when a candidate is deleted, where that raises nothing. -/
def deleted (cleanup : Cleanup) (candidate : SegmentCandidate) : Option Tree :=
  if limits.dryRun then some cleanup.tree else deleteSegment cleanup.tree candidate.directory

def count (cleanup : Cleanup) (pass : Pass) (candidate : SegmentCandidate) (tree : Tree) :
    Cleanup :=
  { cleanup with
    tree
    deletedBytes := cleanup.deletedBytes + candidate.sizeBytes
    remainingBytes := cleanup.remainingBytes - candidate.sizeBytes
    retentionDeleted := cleanup.retentionDeleted + if pass = .retention then 1 else 0
    quotaDeleted := cleanup.quotaDeleted + if pass = .quota then 1 else 0
    deletedPaths := candidate.directory :: cleanup.deletedPaths }

def wants (cleanup : Cleanup) (pass : Pass) (candidate : SegmentCandidate) : Bool :=
  match pass with
  | .retention => candidate.newestMtime < now - limits.retention
  | .quota => candidate.directory ∉ cleanup.deletedPaths

/-- The body of both loops; none where `_delete_segment` raises. -/
def visit (pass : Pass) (cleanup : Cleanup) (candidate : SegmentCandidate) : Option Cleanup :=
  if !cleanup.wants limits now pass candidate then some cleanup
  else if loaded.pins candidate then
    some { cleanup with skippedPinned := cleanup.skippedPinned + 1 }
  else if !isUnchangedAndStable cleanup.tree limits.stabilityAge now candidate then some cleanup
  else (cleanup.deleted limits candidate).map (cleanup.count pass candidate)

def retentionPass (cleanup : Cleanup) (candidates : List SegmentCandidate) : Option Cleanup :=
  candidates.foldlM (visit limits now loaded .retention) cleanup

def quotaPass (cleanup : Cleanup) : List SegmentCandidate → Option Cleanup
  | [] => some cleanup
  | candidate :: rest =>
    if cleanup.remainingBytes ≤ limits.maxBytes then some cleanup
    else (visit limits now loaded .quota cleanup candidate).bind fun next => quotaPass next rest

def report (cleanup : Cleanup) (candidates : List SegmentCandidate) : CleanupReport where
  segmentsSeen := candidates.length
  bytesSeen := totalBytes candidates
  retentionDeleted := cleanup.retentionDeleted
  quotaDeleted := cleanup.quotaDeleted
  deletedBytes := cleanup.deletedBytes
  remainingBytes := totalBytes candidates - cleanup.deletedBytes
  skippedPinned := cleanup.skippedPinned
  conservativeBlockAll := loaded.blockAll

def retain (tree : Tree) (candidates : List SegmentCandidate) : Option Cleanup :=
  if 0 < limits.retention then
    retentionPass limits now loaded { tree } (sortedByAge candidates)
  else some { tree }

/-- The pass for the quota, where it is exceeded. -/
def restrict (candidates : List SegmentCandidate) (retained : Cleanup) : Option Cleanup :=
  let cleanup :=
    { retained with remainingBytes := totalBytes candidates - retained.deletedBytes }
  if 0 < limits.maxBytes ∧ limits.maxBytes < cleanup.remainingBytes then
    quotaPass limits now loaded cleanup (sortedByAge candidates)
  else some cleanup

def sweep (tree : Tree) (candidates : List SegmentCandidate) : Option Cleanup :=
  (retain limits now loaded tree candidates).bind (restrict limits now loaded candidates)

end Cleanup

/-- What `cleanup_once` leaves and returns. -/
structure Cleaned where
  tree : Tree
  markers : List (Token × Marker)
  report : CleanupReport

/-- `cleanup_once`; none where an exception leaves it. -/
def cleanupOnce (limits : Limits) (now : Int) (markers : List (Token × Marker)) (tree : Tree) :
    Option Cleaned :=
  let candidates := discoverSegments tree now limits.stabilityAge
  let loaded := loadActiveReadPins (max oneSecond limits.readPinTtl) now markers
  if loaded.raised then none
  else
    (Cleanup.sweep limits now loaded tree candidates).map fun cleanup =>
      { tree := cleanup.tree
        markers := loaded.markers
        report := cleanup.report loaded candidates }

/-! ## The visits of a cleanup one after the other -/

/-- The visits of a sweep with nothing in between, to the last one. -/
inductive Sweep.Ends (limits : Limits) : Tree → Sweep → Tree → Prop
  | last {tree sweep after} (visited : sweep.visit limits tree = (after, none)) :
      Ends limits tree sweep after
  | more {tree sweep between next after} (visited : sweep.visit limits tree = (between, some next))
      (ends : Ends limits between next after) : Ends limits tree sweep after

section Visits

variable {limits : Limits} {now : Int} {loaded : LoadedPins} {cleanup : Cleanup}
  {sweep : Sweep} {candidates : List SegmentCandidate}

/-- A sweep and the variables of the loop over the same candidates. -/
structure Cleanup.Follows (now : Int) (loaded : LoadedPins) (candidates : List SegmentCandidate)
    (cleanup : Cleanup) (sweep : Sweep) : Prop where
  now : sweep.now = now
  pinned : sweep.pinned = loaded.active
  blockAll : sweep.blockAll = loaded.blockAll
  candidates : sweep.candidates = sortedByAge candidates
  bytes : sweep.deletedBytes = cleanup.deletedBytes
  paths : sweep.deletedPaths = cleanup.deletedPaths

theorem Cleanup.Follows.takes_eq (limits : Limits)
    (follows : cleanup.Follows now loaded candidates sweep) (candidate : SegmentCandidate) :
    sweep.takes limits cleanup.tree candidate =
      (cleanup.wants limits now sweep.pass candidate && !loaded.pins candidate &&
        isUnchangedAndStable cleanup.tree limits.stabilityAge now candidate) := by
  cases pass : sweep.pass <;>
    simp only [Sweep.takes, Sweep.wants, Cleanup.wants, LoadedPins.pins, pass, follows.now,
      follows.pinned, follows.blockAll, follows.paths, Bool.not_or, Bool.and_assoc]

variable {next : Cleanup}

theorem Cleanup.Follows.skip (follows : cleanup.Follows now loaded candidates sweep)
    (bytes : cleanup.deletedBytes = next.deletedBytes)
    (paths : cleanup.deletedPaths = next.deletedPaths) (rest : List SegmentCandidate) :
    next.Follows now loaded candidates { sweep with todo := rest } :=
  ⟨follows.now, follows.pinned, follows.blockAll, follows.candidates, follows.bytes.trans bytes,
    follows.paths.trans paths⟩

theorem Cleanup.Follows.visit (follows : cleanup.Follows now loaded candidates sweep)
    {candidate : SegmentCandidate} {rest : List SegmentCandidate}
    (todo : sweep.todo = candidate :: rest)
    (goesOn : ¬(sweep.pass = .quota ∧ sweep.remainingBytes ≤ limits.maxBytes))
    (visited : cleanup.visit limits now loaded sweep.pass candidate = some next) :
    ∃ later, sweep.visit limits cleanup.tree = (next.tree, some later) ∧ later.todo = rest ∧
      later.pass = sweep.pass ∧ next.Follows now loaded candidates later ∧
      (cleanup.remainingBytes = totalBytes candidates - cleanup.deletedBytes →
        next.remainingBytes = totalBytes candidates - next.deletedBytes) := by
  have takes := Cleanup.Follows.takes_eq limits follows candidate
  unfold Cleanup.visit at visited
  split at visited
  next unwanted =>
    rw [Bool.not_eq_true'] at unwanted
    cases visited
    refine ⟨{ sweep with todo := rest }, ?_, rfl, rfl, follows.skip (by rfl) (by rfl) rest, id⟩
    simp only [Sweep.visit, todo, if_neg goesOn, takes, unwanted, Bool.false_and,
      Bool.false_eq_true, if_false]
  next wanted =>
    split at visited
    next isPinned =>
      cases visited
      refine ⟨{ sweep with todo := rest }, ?_, rfl, rfl, follows.skip (by rfl) (by rfl) rest, id⟩
      simp only [Sweep.visit, todo, if_neg goesOn, takes, isPinned, Bool.not_true, Bool.and_false,
        Bool.false_and, Bool.false_eq_true, if_false]
    next notPinned =>
      split at visited
      next changed =>
        rw [Bool.not_eq_true'] at changed
        cases visited
        refine ⟨{ sweep with todo := rest }, ?_, rfl, rfl, follows.skip (by rfl) (by rfl) rest, id⟩
        simp only [Sweep.visit, todo, if_neg goesOn, takes, changed, Bool.and_false,
          Bool.false_eq_true, if_false]
      next unchanged =>
        rw [Bool.not_eq_true', Bool.not_eq_false] at wanted unchanged
        rw [Bool.not_eq_true] at notPinned
        rcases Option.map_eq_some_iff.mp visited with ⟨_, isDeleted, rfl⟩
        refine ⟨{ sweep.count candidate with todo := rest }, ?_, rfl, rfl,
          ⟨follows.now, follows.pinned, follows.blockAll, follows.candidates,
            congrArg (· + candidate.sizeBytes) follows.bytes,
            congrArg (candidate.directory :: ·) follows.paths⟩, ?_⟩
        · simp only [Sweep.visit, todo, if_neg goesOn, takes, wanted, notPinned, unchanged,
            Bool.not_false, Bool.and_self, if_true]
          unfold Cleanup.deleted at isDeleted
          split at isDeleted
          next dry =>
            cases isDeleted
            rw [if_pos dry]
            rfl
          next wet =>
            rw [if_neg wet, isDeleted]
            rfl
        · intro same
          simp only [Cleanup.count]
          omega

theorem Cleanup.Follows.retentionPass {visits : List SegmentCandidate}
    (follows : cleanup.Follows now loaded candidates sweep) (todo : sweep.todo = visits)
    (pass : sweep.pass = .retention)
    (passed : cleanup.retentionPass limits now loaded visits = some next) :
    ∃ later, later.todo = [] ∧ later.pass = .retention ∧ next.Follows now loaded candidates later ∧
      ∀ after, Sweep.Ends limits next.tree later after → Sweep.Ends limits cleanup.tree sweep after := by
  induction visits generalizing cleanup sweep with
  | nil =>
    cases passed
    exact ⟨sweep, todo, pass, follows, fun _ ends => ends⟩
  | cons _ _ induction =>
    rw [Cleanup.retentionPass, List.foldlM_cons] at passed
    rcases Option.bind_eq_some_iff.mp passed with ⟨_, visited, others⟩
    rw [← pass] at visited
    have goesOn : ¬(sweep.pass = .quota ∧ sweep.remainingBytes ≤ limits.maxBytes) := by
      rintro ⟨isQuota, _⟩
      rw [pass] at isQuota
      cases isQuota
    rcases follows.visit todo goesOn visited with ⟨_, moved, restTodo, samePass, follows, _⟩
    rcases induction follows restTodo (samePass.trans pass) others with
      ⟨later, noTodo, isPass, laterFollows, ends⟩
    exact ⟨later, noTodo, isPass, laterFollows, fun after end_ => .more moved (ends after end_)⟩

theorem Cleanup.Follows.remaining (follows : cleanup.Follows now loaded candidates sweep)
    (remaining : cleanup.remainingBytes = totalBytes candidates - cleanup.deletedBytes) :
    sweep.remainingBytes = cleanup.remainingBytes := by
  have sorted := (List.mergeSort_perm candidates fun first second =>
    decide (first.newestMtime ≤ second.newestMtime)).map SegmentCandidate.sizeBytes
  rw [remaining, Sweep.remainingBytes, follows.candidates, follows.bytes, sortedByAge,
    sorted.sum_nat, totalBytes]

theorem Cleanup.Follows.quotaPass {visits : List SegmentCandidate}
    (follows : cleanup.Follows now loaded candidates sweep) (todo : sweep.todo = visits)
    (pass : sweep.pass = .quota)
    (remaining : cleanup.remainingBytes = totalBytes candidates - cleanup.deletedBytes)
    (passed : cleanup.quotaPass limits now loaded visits = some next) :
    Sweep.Ends limits cleanup.tree sweep next.tree := by
  induction visits generalizing cleanup sweep with
  | nil =>
    cases passed
    apply Sweep.Ends.last
    simp [Sweep.visit, todo, pass]
  | cons _ _ induction =>
    rw [Cleanup.quotaPass, ← follows.remaining remaining] at passed
    split at passed
    next enough =>
      cases passed
      apply Sweep.Ends.last
      simp [Sweep.visit, todo, pass, enough]
    next notEnough =>
      rcases Option.bind_eq_some_iff.mp passed with ⟨_, visited, others⟩
      rw [← pass] at visited
      rcases follows.visit todo (fun stops => notEnough stops.2) visited with
        ⟨_, moved, restTodo, samePass, laterFollows, laterRemaining⟩
      exact .more moved (induction laterFollows restTodo (samePass.trans pass)
        (laterRemaining remaining) others)

theorem Cleanup.sweep_ends {tree : Tree} {final : Cleanup}
    (swept : Cleanup.sweep limits now loaded tree candidates = some final) :
    Sweep.Ends limits tree (Sweep.start limits now candidates loaded) final.tree := by
  rcases Option.bind_eq_some_iff.mp swept with ⟨retained, isRetained, restricted⟩
  have start : ({ tree } : Cleanup).Follows now loaded candidates
      (Sweep.start limits now candidates loaded) := ⟨rfl, rfl, rfl, rfl, rfl, rfl⟩
  have firstPass : ∃ later, later.todo = [] ∧ later.pass = .retention ∧
      retained.Follows now loaded candidates later ∧
      ∀ after, Sweep.Ends limits retained.tree later after →
        Sweep.Ends limits tree (Sweep.start limits now candidates loaded) after := by
    unfold Cleanup.retain at isRetained
    split at isRetained
    next retains => exact start.retentionPass (if_pos retains) rfl isRetained
    next retainsNot =>
      cases isRetained
      exact ⟨_, if_neg retainsNot, rfl, start, fun _ ends => ends⟩
  rcases firstPass with ⟨later, noTodo, isPass, follows, ends⟩
  apply ends
  have counted : ({ retained with
      remainingBytes := totalBytes candidates - retained.deletedBytes } : Cleanup).Follows now
        loaded candidates later :=
    ⟨follows.now, follows.pinned, follows.blockAll, follows.candidates, follows.bytes,
      follows.paths⟩
  have remaining := counted.remaining rfl
  simp only [Cleanup.restrict] at restricted
  split at restricted
  next exceeded =>
    have onward : later.visit limits retained.tree =
        (retained.tree, some { later with pass := .quota, todo := later.candidates }) := by
      simp only [Sweep.visit, noTodo, isPass, remaining]
      rw [if_pos ⟨trivial, exceeded⟩]
    have restFollows : ({ retained with
        remainingBytes := totalBytes candidates - retained.deletedBytes } : Cleanup).Follows now
          loaded candidates { later with pass := .quota, todo := later.candidates } :=
      ⟨follows.now, follows.pinned, follows.blockAll, follows.candidates, follows.bytes,
        follows.paths⟩
    exact .more onward (restFollows.quotaPass follows.candidates rfl rfl restricted)
  next enough =>
    cases restricted
    apply Sweep.Ends.last
    simp only [Sweep.visit, noTodo, isPass, remaining]
    rw [if_neg fun stops => enough stops.2]

end Visits
/-! ## A deletion leaves the other segments alone -/

def Apart (first second : Path) : Prop := ¬first <+: second ∧ ¬second <+: first

namespace Apart

variable {first second : Path}

theorem symm (apart : Apart first second) : Apart second first := ⟨apart.2, apart.1⟩

theorem ne (apart : Apart first second) : first ≠ second := by
  rintro rfl
  exact apart.1 (List.prefix_refl _)

theorem not_below (apart : Apart first second) {path : Path} (below : second <+: path) :
    ¬first <+: path := by
  intro alsoBelow
  rcases List.prefix_or_prefix_of_prefix alsoBelow below with inSecond | inFirst
  · exact apart.1 inSecond
  · exact apart.2 inFirst

end Apart

variable {tree : Tree} {directory : Path}

theorem names_of_kept {other : Tree} (test : Path → Bool)
    (isFiltered : other.paths = tree.paths.filter test)
    (kept : ∀ name, test (directory ++ [name]) = true) :
    other.names directory = tree.names directory := by
  rw [FileTree.names, FileTree.names, isFiltered, List.filterMap_filter]
  apply List.filterMap_congr
  intro path _
  cases isLast : path.getLast? with
  | none => simp
  | some name =>
    by_cases isChild : path = directory ++ [name]
    · rw [isChild, kept name, if_pos rfl]
    · simp [isChild]

theorem paths_rmtree (tree : Tree) (directory : Path) :
    (tree.rmtree directory).paths = tree.paths.filter fun path => ¬directory <+: path := by
  rw [FileTree.paths, FileTree.rmtree, Dict.keep, Dict.keys, FileTree.paths, Dict.keys,
    List.filter_map]
  rfl

theorem names_rmdir {without : Tree} {parent : Path} (removed : tree.rmdir parent = some without)
    (outside : ¬directory <+: parent) :
    without.names directory = tree.names directory := by
  unfold FileTree.rmdir at removed
  split at removed
  next =>
    rw [← Option.some.inj removed]
    apply names_of_kept fun path => path ≠ parent
    · rw [FileTree.paths, Dict.erase, Dict.keys, FileTree.paths, Dict.keys, List.filter_map]
      rfl
    · intro name
      apply decide_eq_true
      rintro rfl
      exact outside (List.prefix_append _ _)
  next => cases removed

theorem names_removeEmptyParents (tree : Tree) (depth : Nat) {parent : Path}
    (outside : ¬directory <+: parent) :
    (removeEmptyParents tree depth parent).names directory = tree.names directory := by
  induction depth generalizing tree parent with
  | zero => rfl
  | succ _ induction =>
    unfold removeEmptyParents
    split
    · rfl
    · split
      next without removed =>
        have outer : ¬directory <+: parent.dropLast :=
          fun below => outside (below.trans (List.dropLast_prefix parent))
        rw [induction without outer, names_rmdir removed outside]
      next => rfl

variable {deleted : Tree}

theorem names_deleteSegment {other : Path}
    (isDeleted : deleteSegment tree directory = some deleted) (apart : Apart directory other) :
    deleted.names other = tree.names other := by
  unfold deleteSegment at isDeleted
  split at isDeleted
  next => cases isDeleted
  next =>
    have outside : ¬other <+: directory.dropLast :=
      fun below => apart.2 (below.trans (List.dropLast_prefix directory))
    rw [← Option.some.inj isDeleted, names_removeEmptyParents _ _ outside]
    apply names_of_kept _ (paths_rmtree tree directory)
    intro name
    exact decide_eq_true (apart.not_below (List.prefix_append other [name]))

theorem stat_apart {other path : Path} (isDeleted : deleteSegment tree directory = some deleted)
    (apart : Apart directory other) (below : other <+: path) :
    deleted.stat path = tree.stat path := by
  rw [stat_deleteSegment isDeleted, if_neg (apart.not_below below)]

theorem findVideo_below {videoPath : Path} (found : findVideo tree directory = some videoPath) :
    directory <+: videoPath := by
  have member := List.mem_of_find?_eq_some found
  simp only [List.mem_append, List.mem_map, List.mem_flatMap] at member
  rcases member with ⟨name, _, rfl⟩ | ⟨_, _, name, _, rfl⟩
  all_goals exact List.prefix_append _ _

theorem findVideo_apart {other : Path} (isDeleted : deleteSegment tree directory = some deleted)
    (apart : Apart directory other) :
    findVideo deleted other = findVideo tree other := by
  rw [findVideo, findVideo, names_deleteSegment isDeleted apart]
  apply List.find?_congr
  intro path member
  have below : other <+: path := by
    simp only [List.mem_append, List.mem_map, List.mem_flatMap] at member
    rcases member with ⟨name, _, rfl⟩ | ⟨_, _, name, _, rfl⟩
    all_goals exact List.prefix_append _ _
  rw [isVideo, isVideo, stat_apart isDeleted apart below]

variable {candidate : SegmentCandidate}

theorem unchanged_apart (isDeleted : deleteSegment tree directory = some deleted)
    (apart : Apart directory candidate.directory) (stabilityAge now : Int) :
    isUnchangedAndStable deleted stabilityAge now candidate =
      isUnchangedAndStable tree stabilityAge now candidate := by
  have metadata := stat_apart isDeleted apart candidate.metadataPath_below
  rw [isUnchangedAndStable, isUnchangedAndStable, metadata, findVideo_apart isDeleted apart]
  cases tree.stat candidate.metadataPath with
  | none => rfl
  | some =>
    cases found : findVideo tree candidate.directory with
    | none => rfl
    | some =>
      simp only [stat_apart isDeleted apart (findVideo_below found)]

/-! ## The candidates -/

theorem candidateAt_directory {stabilityAge now : Int}
    (found : candidateAt tree stabilityAge now directory = some candidate) :
    candidate.directory = directory ∧
      isUnchangedAndStable tree stabilityAge now candidate = true := by
  unfold candidateAt at found
  split at found
  next => cases found
  next =>
    split at found
    next videoPath metadata isVideo isMetadata =>
      split at found
      next video isStat =>
        dsimp only at found
        split at found
        next => cases found
        next stable =>
          rw [← Option.some.inj found]
          refine ⟨rfl, ?_⟩
          simp only [isUnchangedAndStable, SegmentCandidate.metadataPath, isMetadata, isVideo,
            isStat]
          simpa using stable
      next => cases found
    next => cases found

theorem discoverSegments_unchanged {now stabilityAge : Int} :
    ∀ candidate ∈ discoverSegments tree now stabilityAge,
      isUnchangedAndStable tree stabilityAge now candidate = true := by
  intro candidate member
  rcases List.mem_filterMap.mp member with ⟨_, _, found⟩
  exact (candidateAt_directory found).2

theorem totalBytes_cons (candidate : SegmentCandidate) (rest : List SegmentCandidate) :
    totalBytes (candidate :: rest) = candidate.sizeBytes + totalBytes rest := List.sum_cons

def bytesWhere (test : Path → Bool) (candidates : List SegmentCandidate) : Nat :=
  totalBytes (candidates.filter fun candidate => test candidate.directory)

theorem bytesWhere_add (test : Path → Bool) (candidates : List SegmentCandidate) :
    bytesWhere test candidates + bytesWhere (fun directory => !test directory) candidates =
      totalBytes candidates := by
  induction candidates with
  | nil => rfl
  | cons candidate _ induction =>
    rw [bytesWhere, bytesWhere] at induction ⊢
    rw [totalBytes_cons, List.filter_cons, List.filter_cons]
    cases test candidate.directory with
    | true =>
      simp only [if_true, Bool.not_true, Bool.false_eq_true, if_false, totalBytes_cons]
      omega
    | false =>
      simp only [Bool.false_eq_true, if_false, Bool.not_false, if_true, totalBytes_cons]
      omega

theorem bytesWhere_insert {candidates : List SegmentCandidate}
    (distinct : (candidates.map SegmentCandidate.directory).Nodup)
    (member : candidate ∈ candidates) {paths : List Path} (fresh : candidate.directory ∉ paths) :
    bytesWhere (fun directory => (candidate.directory :: paths).contains directory) candidates =
      candidate.sizeBytes + bytesWhere (fun directory => paths.contains directory) candidates := by
  induction candidates with
  | nil => cases member
  | cons first rest induction =>
    rw [List.map_cons, List.nodup_cons] at distinct
    rw [bytesWhere, bytesWhere] at induction ⊢
    rw [List.filter_cons, List.filter_cons]
    rcases List.mem_cons.mp member with rfl | inRest
    · have others : rest.filter (fun other =>
          (candidate.directory :: paths).contains other.directory) =
            rest.filter fun other => paths.contains other.directory := by
        apply List.filter_congr
        intro other isOther
        have differs : other.directory ≠ candidate.directory := by
          intro same
          exact distinct.1 (same ▸ List.mem_map_of_mem isOther)
        simp [differs]
      rw [others]
      simp [fresh, totalBytes_cons]
    · have differs : first.directory ≠ candidate.directory := by
        intro same
        exact distinct.1 (same ▸ List.mem_map_of_mem inRest)
      have later := induction distinct.2 inRest
      have sameTest : (candidate.directory :: paths).contains first.directory =
          paths.contains first.directory := by simp [differs]
      rw [sameTest]
      cases paths.contains first.directory with
      | true =>
        simp only [if_true, totalBytes_cons]
        omega
      | false =>
        simp only [Bool.false_eq_true, if_false]
        exact later

end VideoAnalysis.Retention
