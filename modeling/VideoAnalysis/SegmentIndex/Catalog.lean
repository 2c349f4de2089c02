import VideoAnalysis.SegmentIndex.Manifest

/-! # The catalog of a source and an epoch

The three maps of a catalog and what one look at a catalog file, or one record of a
publication journal, does to them. A path is the list of its names, free of links.
-/

namespace VideoAnalysis.SegmentIndex

open Foundation Python

abbrev FilePath := List Text

def FilePath.name (path : FilePath) : Text := path.getLast?.getD []

def FilePath.parent (path : FilePath) : FilePath := path.dropLast

structure RollingSegment where
  segmentId : Text
  sourceId : Text
  runtimeEpochId : Text
  directory : FilePath
  videoPath : FilePath
  metadataPath : FilePath
  firstPts : Int
  lastPts : Int
  frameCount : Int
  sizeBytes : Int
  sourceFirstPts : Option Int
  sourceLastPts : Option Int

structure IndexedSegment where
  segment : RollingSegment
  manifestIdentity : FileIdentity
  metadataIdentity : FileIdentity
  videoIdentity : FileIdentity

structure PublicationCursor where
  device : Int
  inode : Int
  offset : Nat

structure Catalog where
  sourceId : Text
  runtimeEpochId : Text
  entries : Dict FilePath IndexedSegment := ∅
  pending : List FilePath := []
  failedIdentities : Dict FilePath FileIdentity := ∅
  containers : Dict FilePath Int := ∅
  initialized : Bool := false
  publicationCursors : Dict FilePath PublicationCursor := ∅

structure IndexConfig where
  root : FilePath
  minVideoBytes : Int
  maxScanEntries : Nat
  maxScanDepth : Nat
  recursionLimit : Nat
  floatText : Double → Text

/-- The part behind the first `epochs`. -/
def runtimeEpochFromPath : FilePath → Text
  | part :: next :: rest =>
    if part = text "epochs" then next else runtimeEpochFromPath (next :: rest)
  | _ => []

/-! ## Reading a manifest -/

def firstLine (content : List Nat) : List Nat :=
  let line := content.takeWhile (· ≠ 10)
  if line.length < content.length then line ++ [10] else line

/-- `bytes.decode("utf-8")`. -/
def decodeStrict (bytes : List Nat) : Option Text := (utf8Characters false {} bytes).mapM id

def isByteSpace (byte : Nat) : Bool := (9 ≤ byte && byte ≤ 13) || byte = 32

def isFirstSchema : Json → Bool
  | .dict payload =>
    (textField payload "schema_version").bind manifestSchema = some .separate
  | _ => false

/-- What `_parse_manifest` decodes of the content of a file. -/
def parseManifest (config : IndexConfig) (content : List Nat) : Option Json := do
  let firstRecord := firstLine content
  guard (!firstRecord.isEmpty && firstRecord.length ≤ maxSegmentManifestBytes)
  let decoded ← decodeStrict firstRecord
  let payload ← (loads config.recursionLimit decoded).toOption
  guard !(isFirstSchema payload && (maxSegmentManifestBytes < content.length ||
    !(content.drop firstRecord.length).all isByteSpace))
  return payload

/-- `_is_metadata_only_catalog_candidate`, by the first record of a file that can be
read; none where an exception leaves it. -/
def isMetadataOnlyCatalogCandidate (config : IndexConfig) : Option (List Nat) → Option Bool
  | none => some false
  | some content =>
    let firstRecord := firstLine content
    if firstRecord.isEmpty || maxSegmentManifestBytes < firstRecord.length then some false
    else
      match decodeStrict firstRecord with
      | none => some false
      | some decoded =>
        match loads config.recursionLimit decoded with
        | .ok (.dict payload) =>
          some ((textField payload "schema_version").bind manifestSchema = some .metadataOnly)
        | .ok _ | .error .jsonDecodeError => some false
        | .error _ => none

/-! ## The maps -/

namespace Catalog

variable (catalog : Catalog) (path : FilePath)

def addPending : Catalog := { catalog with pending := catalog.pending.insert path }

def discardPending : Catalog :=
  { catalog with pending := catalog.pending.filter fun other => other ≠ path }

def setFailed (identity : FileIdentity) : Catalog :=
  { catalog with failedIdentities := catalog.failedIdentities.set path identity }

def popFailed : Catalog :=
  { catalog with failedIdentities := catalog.failedIdentities.erase path }

def removeEntry : Catalog := { catalog with entries := catalog.entries.erase path }

def setEntry (entry : IndexedSegment) : Catalog :=
  { catalog with entries := catalog.entries.set path entry }

def known : List FilePath := catalog.entries.keys ++ catalog.pending

/-- `pending.discard`, `failed_identities.pop` and `_remove_entry` in a row. -/
def forget : Catalog := ((catalog.discardPending path).popFailed path).removeEntry path

end Catalog

/-! ## _refresh_candidate -/

/-- What the file system says during a call, each file at its own time: nothing of one
that cannot be read. -/
structure CandidateReads where
  manifestIdentity : Option FileIdentity
  manifestStable : Bool
  content : Option (List Nat)
  metadataIdentity : Option FileIdentity
  metadataStable : Bool
  videoIdentity : Option FileIdentity
  videoStable : Bool

inductive Verdict where
  | gone
  | unstable
  | stillFailed
  | unreadable
  | unchanged
  | rejected (identity : FileIdentity)
  | incomplete
  | accepted (entry : IndexedSegment)

section

variable (config : IndexConfig) (catalog : Catalog) (path : FilePath) (reads : CandidateReads)

def IndexedSegment.ofManifest (manifest : SegmentManifest) (directory : FilePath)
    (manifestIdentity metadataIdentity videoIdentity : FileIdentity) : IndexedSegment where
  segment :=
    { segmentId := manifest.segmentId
      sourceId := manifest.sourceId
      runtimeEpochId := manifest.runtimeEpochId
      directory := directory
      videoPath := directory ++ [manifest.videoFile]
      metadataPath := directory ++ [manifest.metadataFile]
      firstPts := manifest.firstPts
      lastPts := manifest.lastPts
      frameCount := manifest.frameCount
      sizeBytes := videoIdentity.size
      sourceFirstPts := manifest.sourceFirstPts
      sourceLastPts := manifest.sourceLastPts }
  manifestIdentity := manifestIdentity
  metadataIdentity := metadataIdentity
  videoIdentity := videoIdentity

def judgeManifest (identity : FileIdentity) : Verdict :=
  match (reads.content.bind (parseManifest config)).bind manifestFromPayload with
  | none => .rejected identity
  | some manifest =>
    if manifest.schemaVersion = .separate ∧ maxSegmentManifestBytes < identity.size then
      .rejected identity
    else if path.name ≠ manifest.schemaVersion.catalogName ∨
        manifest.segmentId ≠ path.parent.name ∨ manifest.sourceId ≠ catalog.sourceId ∨
        manifest.runtimeEpochId ≠ catalog.runtimeEpochId ∨
        runtimeEpochFromPath path ≠ catalog.runtimeEpochId then
      .rejected identity
    else
      match reads.metadataIdentity, reads.videoIdentity with
      | some metadataIdentity, some videoIdentity =>
        if metadataIdentity.size ≤ 0 ∨ videoIdentity.size < config.minVideoBytes ∨
            reads.metadataStable = false ∨ reads.videoStable = false then
          .incomplete
        else if manifest.metadataSizeBytes ≠ metadataIdentity.size ∨
            manifest.videoSizeBytes ≠ videoIdentity.size ∨
            (manifest.schemaVersion ≠ .separate ∧ identity ≠ metadataIdentity) then
          .rejected identity
        else
          .accepted (.ofManifest manifest path.parent identity metadataIdentity videoIdentity)
      | _, _ => .incomplete

def judgeCandidate : Verdict :=
  match reads.manifestIdentity with
  | none => .gone
  | some identity =>
    if identity.size ≤ 0 ∨ reads.manifestStable = false then .unstable
    else if catalog.failedIdentities.get path = some identity then .stillFailed
    else
      match catalog.entries.get path with
      | some existing =>
        if existing.manifestIdentity = identity then
          match reads.metadataIdentity, reads.videoIdentity with
          | some metadataIdentity, some videoIdentity =>
            if existing.metadataIdentity = metadataIdentity ∧
                existing.videoIdentity = videoIdentity then .unchanged
            else .rejected identity
          | _, _ => .unreadable
        else judgeManifest config catalog path reads identity
      | none => judgeManifest config catalog path reads identity

def settle : Verdict → Catalog
  | .gone => catalog.forget path
  | .unstable | .incomplete =>
    ((catalog.addPending path).popFailed path).removeEntry path
  | .stillFailed | .unreadable => (catalog.addPending path).removeEntry path
  | .unchanged => (catalog.discardPending path).popFailed path
  | .rejected identity => ((catalog.addPending path).setFailed path identity).removeEntry path
  | .accepted entry => ((catalog.setEntry path entry).discardPending path).popFailed path

def refreshCandidate : Catalog :=
  settle catalog path (judgeCandidate config catalog path reads)

end

/-! ## _refresh_publication_record -/

section

variable (config : IndexConfig) (catalog : Catalog) (journalPath : FilePath)

def Publication.directory (publication : Publication) : FilePath :=
  journalPath.parent ++ [publication.manifest.segmentId]

def Publication.catalogPath (publication : Publication) : FilePath :=
  publication.directory journalPath ++ [publication.manifest.schemaVersion.catalogName]

def Publication.entry (publication : Publication) : IndexedSegment :=
  .ofManifest publication.manifest (publication.directory journalPath)
    publication.manifestIdentity publication.metadataIdentity publication.videoIdentity

def IndexedSegment.sameIdentities (entry : IndexedSegment) (publication : Publication) : Bool :=
  entry.manifestIdentity = publication.manifestIdentity &&
    entry.metadataIdentity = publication.metadataIdentity &&
    entry.videoIdentity = publication.videoIdentity

def acceptRecord (line : List Nat) : Option Publication := do
  let payload ← publicationPayload config.floatText config.recursionLimit line
  let publication ←
    readPublication config.minVideoBytes catalog.sourceId catalog.runtimeEpochId payload
  let catalogPath := publication.catalogPath journalPath
  guard (runtimeEpochFromPath catalogPath = catalog.runtimeEpochId)
  guard ((catalog.entries.get catalogPath).all fun existing =>
    existing.sameIdentities publication)
  return publication

/-- A refused record raises and changes nothing. -/
def refreshPublicationRecord (line : List Nat) : Catalog :=
  match acceptRecord config catalog journalPath line with
  | none => catalog
  | some publication =>
    let catalogPath := publication.catalogPath journalPath
    match catalog.entries.get catalogPath with
    | some _ => catalog
    | none =>
      let published := ((catalog.setEntry catalogPath
        (publication.entry journalPath)).discardPending catalogPath).popFailed catalogPath
      { published with
        containers := published.containers.erase (publication.directory journalPath) }

end

end VideoAnalysis.SegmentIndex
