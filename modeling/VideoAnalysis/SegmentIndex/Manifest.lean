import VideoAnalysis.Python.JsonSorted
import VideoAnalysis.Python.Utf8

/-! # Segment manifests and their publication records

What the segment index reads of a manifest, and of a line of a publication journal with
its checksum. Every exception on the way refuses the manifest or the record.
-/

namespace VideoAnalysis.SegmentIndex

open Foundation Python

structure FileIdentity where
  device : Int
  inode : Int
  size : Int
  mtimeNs : Int
deriving DecidableEq

/-- The version of a manifest says in which files of its directory it stands: in one of
its own, in one that the metadata shares, or ahead of the metadata. -/
inductive ManifestSchema where
  | separate
  | singleInode
  | metadataOnly
deriving DecidableEq

structure SegmentManifest where
  schemaVersion : ManifestSchema
  segmentId : Text
  sourceId : Text
  runtimeEpochId : Text
  videoFile : Text
  metadataFile : Text
  firstPts : Int
  lastPts : Int
  frameCount : Int
  sourceFirstPts : Option Int
  sourceLastPts : Option Int
  videoSizeBytes : Int
  metadataSizeBytes : Int

def segmentManifestFile : Text := text "segment_manifest.json"

def segmentMetadataFile : Text := text "metadata.json"

def segmentPublicationJournalFile : Text := text ".segment-publications.jsonl"

def maxSegmentManifestBytes : Int := 64 * 1024

def segmentPublicationJournalMaxBytes : Nat := 16 * 1024 * 1024

def maxSegmentPublicationRecordBytes : Nat := 128 * 1024

def videoNames : List Text :=
  [text "video.mov", text "raw_clip.mov", text "video.mp4", text "raw_clip.mp4",
    text "video.mkv"]

def manifestSchema (version : Text) : Option ManifestSchema :=
  if version = text "rolling-segment-manifest-v1" then some .separate
  else if version = text "rolling-segment-manifest-v2" then some .singleInode
  else if version = text "rolling-segment-manifest-v3" then some .metadataOnly
  else none

/-- The file of a segment directory under which the catalog knows the segment. -/
def ManifestSchema.catalogName : ManifestSchema → Text
  | .metadataOnly => segmentMetadataFile
  | .separate | .singleInode => segmentManifestFile

/-- `Path(name).name == name`, of a name that is not empty. -/
def isPlainName (name : Text) : Bool :=
  !name.isEmpty && name != text "." && !name.contains 47

/-! ## _manifest_from_payload -/

section

variable (payload : List (Text × Json))

def textField (name : String) : Option Text :=
  match Json.lookup payload name with
  | some (.str value) => some value
  | _ => none

def requiredText (name : String) : Option Text :=
  (textField payload name).filter fun value => !value.isEmpty

def intOf : Json → Option Int
  | .bool _ => none
  | value => value.toInt.toOption

def requiredInt (name : String) (minimum : Option Int) : Option Int :=
  ((Json.lookup payload name).bind intOf).filter fun parsed =>
    minimum.all fun minimum => minimum ≤ parsed

/-- Without the field, or with `None`, there is no number and no exception. -/
def optionalInt (name : String) : Option (Option Int) :=
  match Json.lookup payload name with
  | none | some .null => some none
  | some value => (intOf value).map some

end

def manifestFromPayload : Json → Option SegmentManifest
  | .dict payload => do
      let schemaVersion ← (textField payload "schema_version").bind manifestSchema
      let videoFile ← requiredText payload "video_file"
      let metadataFile ← requiredText payload "metadata_file"
      guard (videoNames.contains videoFile && isPlainName videoFile)
      guard (metadataFile = segmentMetadataFile)
      let firstPts ← requiredInt payload "first_pts" none
      let lastPts ← requiredInt payload "last_pts" none
      let frameCount ← requiredInt payload "frame_count" (some 1)
      guard (firstPts ≤ lastPts)
      let sourceFirstPts ← optionalInt payload "source_first_pts"
      let sourceLastPts ← optionalInt payload "source_last_pts"
      guard (sourceFirstPts.isSome = sourceLastPts.isSome)
      guard (sourceFirstPts.all fun first => sourceLastPts.all fun last => first ≤ last)
      let segmentId ← requiredText payload "segment_id"
      let sourceId ← requiredText payload "source_id"
      let runtimeEpochId ← requiredText payload "runtime_epoch_id"
      let videoSizeBytes ← requiredInt payload "video_size_bytes" (some 1)
      let metadataSizeBytes ← requiredInt payload "metadata_size_bytes" (some 1)
      return ⟨schemaVersion, segmentId, sourceId, runtimeEpochId, videoFile, metadataFile,
        firstPts, lastPts, frameCount, sourceFirstPts, sourceLastPts, videoSizeBytes,
        metadataSizeBytes⟩
  | _ => none

/-! ## Publication records -/

def crc32Shift : Nat → Nat → Nat
  | 0, crc => crc
  | bits + 1, crc =>
    crc32Shift bits (if crc % 2 = 1 then (crc / 2).xor 0xEDB88320 else crc / 2)

/-- The register after some bytes. The match works it out before the next byte. -/
def crc32Register : List Nat → Nat → Nat
  | [], crc => crc
  | byte :: rest, crc =>
    match crc32Shift 8 (crc.xor byte) with
    | 0 => crc32Register rest 0
    | next + 1 => crc32Register rest (next + 1)

/-- `zlib.crc32`. -/
def crc32 (bytes : List Nat) : Nat := (crc32Register bytes 0xFFFFFFFF).xor 0xFFFFFFFF

def hexText (value : Nat) : Text :=
  (List.range 8).reverse.map fun digit => hexDigit (value / 16 ^ digit % 16)

def canonicalStyle : JsonStyle where
  ensureAscii := false
  itemSeparator := text ","
  keySeparator := text ":"

variable (floatText : Double → Text)

def canonicalBytes (payload : List (Text × Json)) : Option (List Nat) := do
  let canonical ← (dumps floatText canonicalStyle (Json.dict payload).sorted).toOption
  encodeUtf8 canonical

def payloadChecksum (payload : List (Text × Json)) : Option Text :=
  (canonicalBytes floatText payload).map fun bytes => hexText (crc32 bytes)

def identityPayload (identity : FileIdentity) : Json :=
  .dict [(text "device", .int identity.device), (text "inode", .int identity.inode),
    (text "size", .int identity.size), (text "mtime_ns", .int identity.mtimeNs)]

/-- `_publication_record_bytes` of the publisher. -/
def publicationRecordBytes (manifest : List (Text × Json))
    (manifestIdentity metadataIdentity videoIdentity : FileIdentity) : Option (List Nat) := do
  let sourceId ← Json.lookup manifest "source_id"
  let runtimeEpochId ← Json.lookup manifest "runtime_epoch_id"
  let segmentId ← Json.lookup manifest "segment_id"
  let record : List (Text × Json) :=
    [(text "schema_version", .str (text "rolling-segment-publication-v1")),
      (text "source_id", sourceId),
      (text "runtime_epoch_id", runtimeEpochId),
      (text "segment_id", segmentId),
      (text "manifest", .dict manifest),
      (text "identities", .dict
        [(text "manifest", identityPayload manifestIdentity),
          (text "metadata", identityPayload metadataIdentity),
          (text "video", identityPayload videoIdentity)])]
  let checksum ← payloadChecksum floatText record
  let encoded ← canonicalBytes floatText (Json.store record "crc32" (.str checksum))
  guard (encoded.length < maxSegmentPublicationRecordBytes)
  return encoded ++ [10]

def publicationPayload (recursionLimit : Nat) (line : List Nat) :
    Option (List (Text × Json)) := do
  guard (line.length ≤ maxSegmentPublicationRecordBytes)
  match (loadsBytes recursionLimit line).toOption with
  | some (.dict entries) =>
    let checksum := textField entries "crc32"
    let payload := (Dict.erase ⟨entries⟩ (text "crc32")).entries
    let expected ← payloadChecksum floatText payload
    guard (checksum = some expected)
    return payload
  | _ => none

def identityOf (identities : List (Text × Json)) (name : String) : Option FileIdentity :=
  match Json.lookup identities name with
  | some (.dict value) => do
      let device ← requiredInt value "device" (some 0)
      let inode ← requiredInt value "inode" (some 0)
      let size ← requiredInt value "size" (some 0)
      let mtimeNs ← requiredInt value "mtime_ns" (some 0)
      return ⟨device, inode, size, mtimeNs⟩
  | _ => none

structure Publication where
  manifest : SegmentManifest
  manifestIdentity : FileIdentity
  metadataIdentity : FileIdentity
  videoIdentity : FileIdentity

/-- What `_refresh_publication_record` takes from a payload before it looks at the
catalog's entries. -/
def readPublication (minVideoBytes : Int) (sourceId runtimeEpochId : Text)
    (payload : List (Text × Json)) : Option Publication := do
  guard (textField payload "schema_version" = some (text "rolling-segment-publication-v1"))
  let manifest ← (Json.lookup payload "manifest").bind manifestFromPayload
  guard (textField payload "source_id" = some sourceId)
  guard (textField payload "runtime_epoch_id" = some runtimeEpochId)
  guard (textField payload "segment_id" = some manifest.segmentId)
  guard (isPlainName manifest.segmentId && manifest.segmentId != text "..")
  guard (manifest.sourceId = sourceId && manifest.runtimeEpochId = runtimeEpochId)
  match Json.lookup payload "identities" with
  | some (.dict identities) =>
    let manifestIdentity ← identityOf identities "manifest"
    let metadataIdentity ← identityOf identities "metadata"
    let videoIdentity ← identityOf identities "video"
    guard (0 < manifestIdentity.size)
    guard (metadataIdentity.size = manifest.metadataSizeBytes)
    guard (videoIdentity.size = manifest.videoSizeBytes)
    guard (minVideoBytes ≤ videoIdentity.size)
    guard !(manifest.schemaVersion = .separate &&
      maxSegmentManifestBytes < manifestIdentity.size)
    guard (manifestIdentity = metadataIdentity || manifest.schemaVersion = .separate)
    return ⟨manifest, manifestIdentity, metadataIdentity, videoIdentity⟩
  | _ => none

end VideoAnalysis.SegmentIndex
