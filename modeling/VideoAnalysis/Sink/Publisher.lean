import Mathlib.Logic.Function.Basic

/-! # The atomic segment publisher

`AtomicSegmentPublisher` stages one fragment and commits it by one directory
rename between two fences. The disk keeps what the two share: the contents of
the staging directories, the final directories, the journals, and a trace of the
renames, parent fences, journal records and callbacks. What the operating system
answers to one item is part of the item; whether a parent directory can be
fsynced is a matter of the directory.
-/

namespace VideoAnalysis.Sink.Publishing

/-! ## Fragments -/

/-- One value of a metadata row under `int(value)`. -/
inductive Field
  | absent
  | null
  | number (value : Int)
  | other

def Field.toInt? : Field → Option Int
  | .number value => some value
  | _ => none

structure Row where
  rollingCacheMuxPts : Field
  pts : Field
  framePts : Field

/-- `row.get("pts", row.get("frame_pts"))`. -/
def Row.ptsValue (row : Row) : Field :=
  match row.pts with
  | .absent => row.framePts
  | value => value

def Row.sourceRowPts (row : Row) : Option Int := row.ptsValue.toInt?

def Row.rowPts (row : Row) : Option Int :=
  match row.rollingCacheMuxPts with
  | .absent | .null => row.ptsValue.toInt?
  | value => value.toInt?

structure FinalDir where
  parent : String
  name : String
  deriving DecidableEq

structure Fragment where
  segmentId : String
  stagingDir : String
  finalDir : FinalDir
  videoFile : String
  rows : List Row

inductive MetadataLayout
  | split
  | singleInode
  | metadataOnly
  deriving DecidableEq

def MetadataLayout.schemaVersion : MetadataLayout → String
  | .split => "rolling-segment-manifest-v1"
  | .singleInode => "rolling-segment-manifest-v2"
  | .metadataOnly => "rolling-segment-manifest-v3"

structure Publisher where
  sourceId : String
  runtimeEpochId : String
  metadataLayout : MetadataLayout
  commitSlotCount : Nat

structure Stat where
  device : Nat
  inode : Nat
  size : Nat
  mtimeNs : Int

structure Manifest where
  schemaVersion : String
  segmentId : String
  sourceId : String
  runtimeEpochId : String
  videoFile : String
  metadataFile : String
  firstPts : Int
  lastPts : Int
  frameCount : Nat
  sourceFirstPts : Option Int
  sourceLastPts : Option Int
  videoSizeBytes : Nat
  metadataSizeBytes : Nat

structure StagedPublication where
  fragment : Fragment
  manifest : Manifest
  manifestStat : Stat
  metadataStat : Stat
  videoStat : Stat

/-- What the operating system does for one item: the operations that raise, and
the stat of the metadata and manifest files it writes. -/
structure Environment where
  encodeRaises : Bool
  metadataWriteRaises : Bool
  manifestWriteRaises : Bool
  metadataSyncRaises : Bool
  manifestSyncRaises : Bool
  stagingSyncRaises : Bool
  parentPrepareRaises : Bool
  renameRaises : Bool
  journalRaises : Bool
  metadataStat : Stat
  manifestStat : Stat

inductive Operation
  | encode
  | metadataOpen
  | metadataWrite
  | manifestOpen
  | manifestWrite
  | metadataSync
  | manifestSync
  | stagingSync
  | parentPrepare
  | rename
  | parentSync

inductive PublishError
  | runtime (text : String)
  | collision (text : String)
  | os (operation : Operation)

def videoMissing (segmentId : String) : PublishError :=
  .runtime ("rolling_segment_video_missing:" ++ segmentId)

def metadataHasNoPts (segmentId : String) : PublishError :=
  .runtime ("rolling_segment_metadata_has_no_pts:" ++ segmentId)

def finalCollision (segmentId : String) : PublishError :=
  .collision ("rolling_segment_final_collision:" ++ segmentId)

def groupWithSlots : PublishError :=
  .runtime "final_parent_group_limit cannot be combined with commit slots"

/-! ## The disk -/

structure Staging where
  video : Option Stat
  hasMetadata : Bool
  hasManifest : Bool

structure Record where
  manifest : Manifest
  manifestStat : Stat
  metadataStat : Stat
  videoStat : Stat

inductive Event
  | renamed (finalDir : FinalDir)
  | fenced (parent : String)
  | journaled (finalDir : FinalDir)
  | published (fragment : Fragment) (finalDir : FinalDir)
  | publishError (fragment : Fragment)

structure Disk where
  staging : String → Option Staging
  finals : List FinalDir
  journal : List (String × Record)
  trace : List Event

variable (disk : Disk)

def Disk.log (event : Event) : Disk :=
  { disk with trace := disk.trace ++ [event] }

def Disk.setStaging (directory : String) (contents : Option Staging) : Disk :=
  { disk with staging := Function.update disk.staging directory contents }

structure Item where
  publisher : Publisher
  fragment : Fragment
  environment : Environment

/-! ## stage_publication -/

def minimum (first : Int) (rest : List Int) : Int := rest.foldl min first

def maximum (first : Int) (rest : List Int) : Int := rest.foldl max first

def minimum? : List Int → Option Int
  | [] => none
  | first :: rest => some (minimum first rest)

def maximum? : List Int → Option Int
  | [] => none
  | first :: rest => some (maximum first rest)

def stagedManifest (item : Item) (video : Stat) (first : Int) (rest : List Int) : Manifest where
  schemaVersion := item.publisher.metadataLayout.schemaVersion
  segmentId := item.fragment.segmentId
  sourceId := item.publisher.sourceId
  runtimeEpochId := item.publisher.runtimeEpochId
  videoFile := item.fragment.videoFile
  metadataFile := "metadata.json"
  firstPts := minimum first rest
  lastPts := maximum first rest
  frameCount := rest.length + 1
  sourceFirstPts := minimum? (item.fragment.rows.filterMap Row.sourceRowPts)
  sourceLastPts := maximum? (item.fragment.rows.filterMap Row.sourceRowPts)
  videoSizeBytes := video.size
  metadataSizeBytes := item.environment.metadataStat.size

/-- `stage_publication` on the contents of the staging directory. A file that was
created before an error stays there. -/
def stagePublication (item : Item) (contents : Option Staging) :
    Except PublishError StagedPublication × Option Staging :=
  match contents with
  | none => (.error (videoMissing item.fragment.segmentId), contents)
  | some staging =>
    match staging.video with
    | none => (.error (videoMissing item.fragment.segmentId), contents)
    | some video =>
      if video.size = 0 then (.error (videoMissing item.fragment.segmentId), contents)
      else
        match item.fragment.rows.filterMap Row.rowPts with
        | [] => (.error (metadataHasNoPts item.fragment.segmentId), contents)
        | first :: rest =>
          if item.environment.encodeRaises then (.error (.os .encode), contents)
          else if staging.hasMetadata then (.error (.os .metadataOpen), contents)
          else
            let written := { staging with hasMetadata := true }
            let linked := { written with hasManifest := true }
            let staged (manifestStat : Stat) : StagedPublication := {
              fragment := item.fragment
              manifest := stagedManifest item video first rest
              manifestStat := manifestStat
              metadataStat := item.environment.metadataStat
              videoStat := video }
            if item.environment.metadataWriteRaises then
              (.error (.os .metadataWrite), some written)
            else
              match item.publisher.metadataLayout with
              | .metadataOnly => (.ok (staged item.environment.metadataStat), some written)
              | .singleInode =>
                if staging.hasManifest || item.environment.manifestWriteRaises then
                  (.error (.os .manifestOpen), some written)
                else (.ok (staged item.environment.manifestStat), some linked)
              | .split =>
                if staging.hasManifest then (.error (.os .manifestOpen), some written)
                else if item.environment.manifestWriteRaises then
                  (.error (.os .manifestWrite), some linked)
                else (.ok (staged item.environment.manifestStat), some linked)

def Disk.stage (item : Item) : Except PublishError StagedPublication × Disk :=
  let result := stagePublication item (disk.staging item.fragment.stagingDir)
  (result.1, disk.setStaging item.fragment.stagingDir result.2)

/-! ## The commit phases

`commit_publication` and the phased methods `_begin_final_parent_commit` to
`_finish_final_parent_commit` run the same file operations.
-/

def fenceStaged (item : Item) (contents : Option Staging) : Except PublishError Unit :=
  match contents with
  | none => .error (.os .metadataSync)
  | some staging =>
    if !staging.hasMetadata || item.environment.metadataSyncRaises then
      .error (.os .metadataSync)
    else if item.publisher.metadataLayout = .split &&
        (!staging.hasManifest || item.environment.manifestSyncRaises) then
      .error (.os .manifestSync)
    else if item.environment.stagingSyncRaises then .error (.os .stagingSync)
    else .ok ()

/-- `mkdir` of the final parent and the check for a collision. -/
def prepareParent (item : Item) (finals : List FinalDir) : Except PublishError Unit :=
  if item.environment.parentPrepareRaises then .error (.os .parentPrepare)
  else if item.fragment.finalDir ∈ finals then
    .error (finalCollision item.fragment.segmentId)
  else .ok ()

/-- `os.replace` of the staging directory. A published directory is not empty, so
nothing replaces it. -/
def Disk.replace (item : Item) : Except PublishError Unit × Disk :=
  if item.environment.renameRaises then (.error (.os .rename), disk)
  else if disk.staging item.fragment.stagingDir = none then (.error (.os .rename), disk)
  else if item.fragment.finalDir ∈ disk.finals then (.error (.os .rename), disk)
  else
    (.ok (), { disk with
      staging := Function.update disk.staging item.fragment.stagingDir none
      finals := disk.finals ++ [item.fragment.finalDir]
      trace := disk.trace ++ [.renamed item.fragment.finalDir] })

variable (parentRaises : String → Bool)

/-- `_fsync_directory` of a final parent. -/
def Disk.fenceParent (parent : String) : Except PublishError Unit × Disk :=
  if parentRaises parent then (.error (.os .parentSync), disk)
  else (.ok (), disk.log (.fenced parent))

def StagedPublication.record (staged : StagedPublication) : Record where
  manifest := staged.manifest
  manifestStat := staged.manifestStat
  metadataStat := staged.metadataStat
  videoStat := staged.videoStat

/-- `_append_publication_record`; an exception is logged and dropped. -/
def Disk.appendJournal (item : Item) (staged : StagedPublication) : Disk :=
  if item.environment.journalRaises then disk
  else
    { disk with
      journal := disk.journal ++ [(staged.fragment.finalDir.parent, staged.record)]
      trace := disk.trace ++ [.journaled staged.fragment.finalDir] }

def prepareFinalParentCommit (item : Item) (disk : Disk) : Except PublishError Unit :=
  match fenceStaged item (disk.staging item.fragment.stagingDir) with
  | .error error => .error error
  | .ok () => prepareParent item disk.finals

/-- `commit_publication` of a publisher without commit slots. -/
def Disk.commitPublication (item : Item) (staged : StagedPublication) :
    Except PublishError FinalDir × Disk :=
  match fenceStaged item (disk.staging item.fragment.stagingDir) with
  | .error error => (.error error, disk)
  | .ok () =>
    match prepareParent item disk.finals with
    | .error error => (.error error, disk)
    | .ok () =>
      match disk.replace item with
      | (.error error, disk) => (.error error, disk)
      | (.ok (), disk) =>
        match disk.fenceParent parentRaises item.fragment.finalDir.parent with
        | (.error error, disk) => (.error error, disk)
        | (.ok (), disk) => (.ok item.fragment.finalDir, disk.appendJournal item staged)

/-! ## One after another -/

/-- `commit_publication(stage_publication(fragment))` and the callback for its
outcome. -/
def Disk.publish (disk : Disk) (item : Item) : Disk :=
  match disk.stage item with
  | (.error _, disk) => disk.log (.publishError item.fragment)
  | (.ok staged, disk) =>
    match disk.commitPublication parentRaises item staged with
    | (.error _, disk) => disk.log (.publishError item.fragment)
    | (.ok finalDir, disk) => disk.log (.published item.fragment finalDir)

def Disk.publishAll (batch : List Item) : Disk :=
  batch.foldl (Disk.publish parentRaises) disk

/-! ## As one group -/

/-- `_FinalParentGroupWork`. -/
structure Work where
  item : Item
  commit : Option StagedPublication
  error : Option PublishError

def Work.live (work : Work) : Bool := work.error.isNone && work.commit.isSome

/-- The staging loop of `_commit_final_parent_group` for one item. -/
def Disk.begin (item : Item) : Work × Disk :=
  match disk.stage item with
  | (.error error, disk) => ({ item := item, commit := none, error := some error }, disk)
  | (.ok staged, disk) =>
    if item.publisher.commitSlotCount ≠ 0 then
      ({ item := item, commit := none, error := some groupWithSlots }, disk)
    else
      match prepareFinalParentCommit item disk with
      | .error error =>
        ({ item := item, commit := some staged, error := some error }, disk)
      | .ok () => ({ item := item, commit := some staged, error := none }, disk)

def Disk.beginAll (batch : List Item) : List Work × Disk :=
  batch.foldl
    (fun progress item =>
      let begun := progress.2.begin item
      (progress.1 ++ [begun.1], begun.2))
    ([], disk)

def Disk.renameWork (work : Work) : Work × Disk :=
  if work.live then
    match disk.replace work.item with
    | (.error error, disk) => ({ work with error := some error }, disk)
    | (.ok (), disk) => (work, disk)
  else (work, disk)

def Disk.renameAll (works : List Work) : List Work × Disk :=
  works.foldl
    (fun progress work =>
      let renamed := progress.2.renameWork work
      (progress.1 ++ [renamed.1], renamed.2))
    ([], disk)

def Work.parent (work : Work) : String := work.item.fragment.finalDir.parent

/-- The keys of the `parents` dictionary. -/
def liveParents (works : List Work) : List String :=
  ((works.filter Work.live).map Work.parent).eraseDups

def Work.failParent (parent : String) (error : PublishError) (work : Work) : Work :=
  if work.live ∧ work.parent = parent then { work with error := some error } else work

def Disk.fenceWorks (progress : List Work × Disk) (parent : String) : List Work × Disk :=
  match progress.2.fenceParent parentRaises parent with
  | (.error error, disk) => (progress.1.map (Work.failParent parent error), disk)
  | (.ok (), disk) => (progress.1, disk)

def Disk.fenceAll (works : List Work) : List Work × Disk :=
  (liveParents works).foldl (Disk.fenceWorks parentRaises) (works, disk)

def Disk.journalWork (work : Work) : Disk :=
  match work.error, work.commit with
  | none, some staged => disk.appendJournal work.item staged
  | _, _ => disk

/-- `_finish_final_parent_commit` and the callback. -/
def Disk.finishWork (work : Work) : Disk :=
  if work.live then disk.log (.published work.item.fragment work.item.fragment.finalDir)
  else disk.log (.publishError work.item.fragment)

def Disk.commitFinalParentGroup (batch : List Item) : Disk :=
  let begun := disk.beginAll batch
  let renamed := begun.2.renameAll begun.1
  let fenced := renamed.2.fenceAll parentRaises renamed.1
  let journaled := fenced.1.foldl Disk.journalWork fenced.2
  fenced.1.foldl Disk.finishWork journaled

/-! ## The guard of the sink -/

/-- `RollingCacheSink.__init__` refuses a grouped dispatcher over publishers with
commit slots. -/
def sinkInit (finalParentGroupLimit commitSlots : Nat) : Except String Unit :=
  if finalParentGroupLimit > 1 ∧ commitSlots > 0 then
    .error
      "publication_final_parent_group_limit cannot be combined with publication_commit_slots > 0"
  else .ok ()

end VideoAnalysis.Sink.Publishing
