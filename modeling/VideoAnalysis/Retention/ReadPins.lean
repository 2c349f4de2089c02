import VideoAnalysis.Foundation.Machine
import VideoAnalysis.Retention.Maintenance

/-! # Readers, publisher and maintenance

One cache with its readers in `pin_source_segments`, the publisher and the maintenance
process. Readers take the mutation lock shared, the deletion takes it exclusively, and
the publisher and the discovery do not take it at all.
-/

namespace VideoAnalysis.Retention

open Foundation

/-! ## The reader -/

/-- A segment that the catalog offers, with the identities that it had there. -/
structure OfferedSegment where
  directory : Path
  videoFile : String
  sizeBytes : Nat
  expected : Option (FileIdentity × FileIdentity)
deriving DecidableEq

namespace OfferedSegment

def metadataPath (segment : OfferedSegment) : Path := segment.directory ++ [metadataFile]

def videoPath (segment : OfferedSegment) : Path := segment.directory ++ [segment.videoFile]

end OfferedSegment

/-- A segment with the identities that were checked for the marker. -/
structure CheckedSegment where
  segment : OfferedSegment
  metadata : FileIdentity
  video : FileIdentity
deriving DecidableEq

/-- One round of the checks of `_activate_locked`. -/
def checkSegment (tree : Tree) (segment : OfferedSegment) : Option CheckedSegment :=
  match tree.stat segment.metadataPath, tree.stat segment.videoPath with
  | some metadata, some video =>
    if metadata.size = 0 ∨ video.size ≠ segment.sizeBytes then none
    else
      match segment.expected with
      | some expected =>
        if metadata = expected.1 ∧ video = expected.2 then some ⟨segment, metadata, video⟩
        else none
      | none => some ⟨segment, metadata, video⟩
  | _, _ => none

structure ReadPin where
  expiresAt : Int
  segments : List CheckedSegment
deriving DecidableEq

def ReadPin.marker (pin : ReadPin) : Marker :=
  .pin pin.expiresAt (pin.segments.map fun checked => .inside checked.segment.directory)

/-- A reader: `locked` before it has chosen its segments, `chosen` before the checks,
`checked` before the marker is there, `published` before it unlocks, `reading` while
the segments are yielded, `leaving` with the lock taken again, `unlinked` before it
unlocks. -/
inductive Reader
  | waiting
  | locked
  | chosen (ttl : Int) (segments : List OfferedSegment)
  | checked (pin : ReadPin)
  | published (pin : ReadPin)
  | reading (pin : ReadPin)
  | leaving (pin : ReadPin)
  | unlinked
  | done
deriving DecidableEq

namespace Reader

def holdsLock : Reader → Bool
  | locked | chosen _ _ | checked _ | published _ | leaving _ | unlinked => true
  | waiting | reading _ | done => false

end Reader

/-! ## The maintenance process -/

inductive Maintenance
  | idle
  | discovering (now : Int) (candidates : List SegmentCandidate)
  | locked (now : Int) (candidates : List SegmentCandidate)
  | sweeping (sweep : Sweep)

def Maintenance.holdsLock : Maintenance → Bool
  | locked _ _ | sweeping _ => true
  | idle | discovering _ _ => false

/-! ## The cache -/

structure Cache where
  clock : Int
  tree : Tree
  markers : Dict Token Marker
  readers : Dict Token Reader
  maintenance : Maintenance

namespace Cache

def readerHoldsLock (cache : Cache) : Bool := cache.readers.values.any Reader.holdsLock

def withReader (cache : Cache) (token : Token) (reader : Reader) : Cache :=
  { cache with readers := cache.readers.set token reader }

def withMarkers (cache : Cache) (markers : Dict Token Marker) : Cache :=
  { cache with markers }

def withTree (cache : Cache) (tree : Tree) : Cache := { cache with tree }

def withMaintenance (cache : Cache) (maintenance : Maintenance) : Cache :=
  { cache with maintenance }

end Cache

/-- Time goes by, a finished segment moves into place, a reader or the maintenance
process takes its next step. A reader with a fresh token may come at any time, the
catalog may offer it any segments, and it may die. -/
inductive Step
  | tick (elapsed : Nat)
  | publish (directory : Path) (files : List (String × FileIdentity))
  | arrive (token : Token)
  | lockShared (token : Token)
  | choose (token : Token) (ttl : Int) (segments : List OfferedSegment)
  | check (token : Token)
  | publishMarker (token : Token)
  | unlock (token : Token)
  | unlink (token : Token)
  | die (token : Token)
  | startCleanup
  | discover (directory : Path)
  | lockExclusive
  | loadPins
  | visit

/-- The next step of a reader, which changes it and its marker. -/
def Cache.readerStep (cache : Cache) : Step → Option Cache
  | .lockShared token =>
    if cache.maintenance.holdsLock then none
    else
      match cache.readers.get token with
      | some .waiting => some (cache.withReader token .locked)
      | some (.reading pin) => some (cache.withReader token (.leaving pin))
      | _ => none
  | .choose token ttl segments =>
    match cache.readers.get token with
    | some .locked => some (cache.withReader token (.chosen (max oneSecond ttl) segments))
    | _ => none
  | .check token =>
    match cache.readers.get token with
    | some (.chosen ttl segments) =>
      match segments.mapM (checkSegment cache.tree) with
      | some checked =>
        some (cache.withReader token (.checked ⟨cache.clock + ttl, checked⟩))
      | none => some (cache.withReader token .done)
    | _ => none
  | .publishMarker token =>
    match cache.readers.get token with
    | some (.checked pin) =>
      some ((cache.withMarkers (cache.markers.set token pin.marker)).withReader token
        (.published pin))
    | _ => none
  | .unlock token =>
    match cache.readers.get token with
    | some (.published pin) => some (cache.withReader token (.reading pin))
    | some .unlinked => some (cache.withReader token .done)
    | _ => none
  | .unlink token =>
    match cache.readers.get token with
    | some (.leaving _) =>
      some ((cache.withReader token .unlinked).withMarkers (cache.markers.erase token))
    | _ => none
  | .die token => some (cache.withReader token .done)
  | _ => none

namespace Limits

variable (limits : Limits)

/-- The maintenance process, one `cleanup_once` after the other. -/
def maintenanceStep (cache : Cache) : Step → Option Cache
  | .startCleanup =>
    match cache.maintenance with
    | .idle => some (cache.withMaintenance (.discovering cache.clock []))
    | _ => none
  | .discover directory =>
    match cache.maintenance with
    | .discovering now candidates =>
      some (cache.withMaintenance (.discovering now
        (candidates ++ (candidateAt cache.tree limits.stabilityAge now directory).toList)))
    | _ => none
  | .lockExclusive =>
    match cache.maintenance with
    | .discovering now candidates =>
      if cache.readerHoldsLock then none
      else some (cache.withMaintenance (.locked now candidates))
    | _ => none
  | .loadPins =>
    match cache.maintenance with
    | .locked now candidates =>
      let loaded := loadActiveReadPins (max oneSecond limits.readPinTtl) now
        cache.markers.entries
      let cache := cache.withMarkers ⟨loaded.markers⟩
      if loaded.raised then some (cache.withMaintenance .idle)
      else
        some (cache.withMaintenance (.sweeping (Sweep.start limits now candidates loaded)))
    | _ => none
  | .visit =>
    match cache.maintenance with
    | .sweeping sweep =>
      let (tree, sweep) := sweep.visit limits cache.tree
      some ((cache.withTree tree).withMaintenance (sweep.elim .idle .sweeping))
    | _ => none
  | _ => none

def step (cache : Cache) (label : Step) : Option Cache :=
  match label with
  | .tick elapsed => some { cache with clock := cache.clock + elapsed }
  | .publish directory files =>
    if cache.tree.Vacant directory then
      some (cache.withTree (cache.tree.moveIn directory files))
    else none
  | .arrive token =>
    if cache.readers.get token = none ∧ cache.markers.get token = none then
      some (cache.withReader token .waiting)
    else none
  | .startCleanup | .discover _ | .lockExclusive | .loadPins | .visit =>
    limits.maintenanceStep cache label
  | _ => cache.readerStep label

def cacheMachine : Machine Cache Step where
  initial cache := cache.readers = ∅ ∧ cache.maintenance = .idle
  step := limits.step

end Limits

end VideoAnalysis.Retention
