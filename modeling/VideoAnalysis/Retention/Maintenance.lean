import VideoAnalysis.Foundation.FileTree
import Mathlib.Algebra.GroupWithZero.Nat
import Mathlib.Data.List.Sort

/-! # Retention of the rolling cache

`cleanup_once` in the steps that other processes can come between: the discovery of
one segment after the other, the read pins, and the visit to one candidate after the
other. Paths are below the cache root; times and ages are in nanoseconds.
-/

namespace VideoAnalysis.Retention

open Foundation

abbrev Path := List String

instance : LawfulBEq Path := inferInstance

structure FileIdentity where
  device : Nat
  inode : Nat
  size : Nat
  mtimeNs : Int
deriving DecidableEq

abbrev Tree := FileTree String FileIdentity

def readPinDir : String := ".read-pins"

def metadataFile : String := "metadata.json"

def videoNames : List String :=
  ["video.mov", "raw_clip.mov", "video.mp4", "raw_clip.mp4", "video.mkv"]

structure Limits where
  retention : Int
  maxBytes : Nat
  readPinTtl : Int
  stabilityAge : Int
  dryRun : Bool

/-! ## Discovery -/

structure SegmentCandidate where
  directory : Path
  videoPath : Path
  sizeBytes : Nat
  newestMtime : Int
deriving DecidableEq

def SegmentCandidate.metadataPath (candidate : SegmentCandidate) : Path :=
  candidate.directory ++ [metadataFile]

def isVideo (tree : Tree) (path : Path) : Bool :=
  match tree.stat path with
  | some identity => 0 < identity.size
  | none => false

/-- `_find_video`: one of the names in their order, else by suffix. -/
def findVideo (tree : Tree) (directory : Path) : Option Path :=
  let named := videoNames.map fun name => directory ++ [name]
  let matching := [".mov", ".mp4", ".mkv", ".webm"].flatMap fun suffix =>
    ((tree.names directory).filter fun name => name.endsWith suffix).map fun name =>
      directory ++ [name]
  (named ++ matching).find? (isVideo tree)

def directorySize (tree : Tree) (directory : Path) : Nat :=
  ((tree.files directory).map FileIdentity.size).sum

/-- What `discover_segments` makes of one directory with a metadata file. -/
def candidateAt (tree : Tree) (stabilityAge now : Int) (directory : Path) :
    Option SegmentCandidate :=
  if readPinDir ∈ directory ∨ "materialized" ∈ directory then none
  else
    match findVideo tree directory, tree.stat (directory ++ [metadataFile]) with
    | some videoPath, some metadata =>
      match tree.stat videoPath with
      | some video =>
        let newest := max metadata.mtimeNs video.mtimeNs
        if now - newest < stabilityAge then none
        else some ⟨directory, videoPath, directorySize tree directory, newest⟩
      | none => none
    | _, _ => none

/-! ## load_active_read_pins -/

/-- What an entry of a marker resolves to: an empty one or one that is not a text is
passed over. -/
inductive PinnedPath
  | skipped
  | outside
  | inside (path : Path)
deriving DecidableEq

/-- The content of a marker file: one that cannot be read or has no list of segments,
one that is no object, or a pin. -/
inductive Marker
  | unreadable (mtime : Int)
  | noObject
  | pin (expiresAt : Int) (segments : List PinnedPath)

abbrev Token := Nat

structure LoadedPins where
  active : List Path
  blockAll : Bool
  markers : List (Token × Marker)
  raised : Bool

def oneSecond : Int := 1000000000

def insidePaths (segments : List PinnedPath) : List Path :=
  segments.filterMap fun
    | .inside path => some path
    | .skipped | .outside => none

/-- `load_active_read_pins`, with the markers that it leaves. -/
def loadActiveReadPins (corruptPinTtl now : Int) : List (Token × Marker) → LoadedPins
  | [] => ⟨[], false, [], false⟩
  | (token, .noObject) :: rest => ⟨[], false, (token, .noObject) :: rest, true⟩
  | (token, .unreadable mtime) :: rest =>
    let loaded := loadActiveReadPins corruptPinTtl now rest
    if corruptPinTtl ≤ max 0 (now - mtime) then loaded
    else
      { loaded with
        blockAll := true
        markers := (token, .unreadable mtime) :: loaded.markers }
  | (token, .pin expiresAt segments) :: rest =>
    let loaded := loadActiveReadPins corruptPinTtl now rest
    if expiresAt ≤ now then loaded
    else
      { loaded with
        active := insidePaths segments ++ loaded.active
        blockAll := loaded.blockAll || segments.contains .outside
        markers := (token, .pin expiresAt segments) :: loaded.markers }

/-! ## Deletion -/

/-- `_candidate_is_unchanged_and_stable`. -/
def isUnchangedAndStable (tree : Tree) (stabilityAge now : Int) (candidate : SegmentCandidate) :
    Bool :=
  match tree.stat candidate.metadataPath, findVideo tree candidate.directory with
  | some metadata, some videoPath =>
    match tree.stat videoPath with
    | some video =>
      let newest := max metadata.mtimeNs video.mtimeNs
      videoPath = candidate.videoPath && newest = candidate.newestMtime &&
        decide (stabilityAge ≤ now - newest)
    | none => false
  | _, _ => false

/-- The empty directories above a deleted one go, up to the first that stays. -/
def removeEmptyParents (tree : Tree) : Nat → Path → Tree
  | 0, _ => tree
  | depth + 1, parent =>
    if parent = [] ∨ parent.getLast? = some readPinDir then tree
    else
      match tree.rmdir parent with
      | some without => removeEmptyParents without depth parent.dropLast
      | none => tree

/-- `_delete_segment`: the root is refused. -/
def deleteSegment (tree : Tree) (directory : Path) : Option Tree :=
  if directory = [] then none
  else
    some (removeEmptyParents (tree.rmtree directory) directory.length directory.dropLast)

inductive Pass
  | retention
  | quota
deriving DecidableEq

/-- `cleanup_once` between two candidates, with the lock held and the pins loaded. -/
structure Sweep where
  now : Int
  pinned : List Path
  blockAll : Bool
  candidates : List SegmentCandidate
  pass : Pass
  todo : List SegmentCandidate
  deletedBytes : Nat
  deletedPaths : List Path

namespace Sweep

/-- The candidates from the oldest on, in the first pass where there is a retention. -/
def start (limits : Limits) (now : Int) (candidates : List SegmentCandidate)
    (loaded : LoadedPins) : Sweep :=
  let sorted := candidates.mergeSort fun first second =>
    first.newestMtime ≤ second.newestMtime
  { now
    pinned := loaded.active
    blockAll := loaded.blockAll
    candidates := sorted
    pass := .retention
    todo := if 0 < limits.retention then sorted else []
    deletedBytes := 0
    deletedPaths := [] }

def remainingBytes (sweep : Sweep) : Nat :=
  (sweep.candidates.map SegmentCandidate.sizeBytes).sum - sweep.deletedBytes

/-- Whether the pass is for a candidate that is not pinned and has not changed. -/
def wants (limits : Limits) (sweep : Sweep) (candidate : SegmentCandidate) : Bool :=
  match sweep.pass with
  | .retention => candidate.newestMtime < sweep.now - limits.retention
  | .quota => candidate.directory ∉ sweep.deletedPaths

variable (limits : Limits) (tree : Tree) (sweep : Sweep)

/-- Whether the visit to a candidate counts it as deleted. -/
def takes (candidate : SegmentCandidate) : Bool :=
  sweep.wants limits candidate && !sweep.blockAll && !sweep.pinned.contains candidate.directory &&
    isUnchangedAndStable tree limits.stabilityAge sweep.now candidate

/-- The candidate that the next visit removes from the disk. -/
def deletes : Option SegmentCandidate :=
  match sweep.todo with
  | [] => none
  | candidate :: _ =>
    if sweep.pass = .quota ∧ sweep.remainingBytes ≤ limits.maxBytes then none
    else if sweep.takes limits tree candidate ∧ limits.dryRun = false ∧
        candidate.directory ≠ [] then
      some candidate
    else none

def count (sweep : Sweep) (candidate : SegmentCandidate) : Sweep :=
  { sweep with
    deletedBytes := sweep.deletedBytes + candidate.sizeBytes
    deletedPaths := candidate.directory :: sweep.deletedPaths }

/-- One visit: the tree after it, and the sweep where it goes on. -/
def visit : Tree × Option Sweep :=
  match sweep.todo with
  | [] =>
    if sweep.pass = .retention ∧ 0 < limits.maxBytes ∧
        limits.maxBytes < sweep.remainingBytes then
      (tree, some { sweep with pass := .quota, todo := sweep.candidates })
    else (tree, none)
  | candidate :: rest =>
    if sweep.pass = .quota ∧ sweep.remainingBytes ≤ limits.maxBytes then (tree, none)
    else if sweep.takes limits tree candidate then
      if limits.dryRun then (tree, some { sweep.count candidate with todo := rest })
      else
        match deleteSegment tree candidate.directory with
        | some deleted => (deleted, some { sweep.count candidate with todo := rest })
        | none => (tree, none)
    else (tree, some { sweep with todo := rest })

end Sweep

end VideoAnalysis.Retention
