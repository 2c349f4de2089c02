import VideoAnalysis.Foundation.Program
import VideoAnalysis.SegmentIndex.Catalog

/-! # How a catalog is brought up to date

The scan of the source's directories, the consumption of its publication journals and
the retries of pending candidates, each a program that asks the file system. The file
system may have changed between any two questions.
-/

namespace VideoAnalysis.SegmentIndex

open Foundation Python
open Program (perform query)

/-! ## Paths -/

def splitOn (separator : Nat) : Text → List Text
  | [] => [[]]
  | code :: rest =>
    if code = separator then [] :: splitOn separator rest
    else
      match splitOn separator rest with
      | [] => [[code]]
      | part :: parts => (code :: part) :: parts

variable (path : FilePath)

def joinPart (part : Text) : FilePath :=
  if part = [] || part = text "." then path
  else if part = text ".." then path.dropLast
  else path ++ [part]

/-- `(path / relative).resolve()`, where a relative path that is absolute starts anew. -/
def FilePath.join (relative : Text) : FilePath :=
  (splitOn 47 relative).foldl joinPart (if relative.head? = some 47 then [] else path)

def pathText : Text := path.flatMap fun part => 47 :: part

def completeLines (data : List Nat) : List Nat :=
  (data.reverse.dropWhile (· ≠ 10)).reverse

/-! ## Questions and actions -/

/-- A directory listing holds each name once; of a child it may be impossible to say
whether it is a directory. -/
structure Listing where
  children : List (Text × Option Bool)
  distinct : (children.map Prod.fst).Nodup

inductive JournalReply where
  | missing
  | unreadable
  | opened (device inode : Int) (content : List Nat)

inductive IndexQuery where
  | candidate (path : FilePath)
  | firstRecord (path : FilePath)
  | journal (path : FilePath)
  | journalTail (path : FilePath)
  | isFile (path : FilePath)
  | pathExists (path : FilePath)
  | directoryMtime (path : FilePath)
  | scandir (path : FilePath)
  | rglob (root : FilePath) (name : Text)
  | iterate (paths : List FilePath)

/-- Where a reply is optional, it is missing when the call raises. A set is iterated in
some order. -/
@[reducible] def IndexReply : IndexQuery → Type
  | .candidate _ => CandidateReads
  | .firstRecord _ => Option (List Nat)
  | .journal _ => Option JournalReply
  | .journalTail _ => Option PublicationCursor
  | .isFile _ => Option Bool
  | .pathExists _ => Option Bool
  | .directoryMtime _ => Int
  | .scandir _ => Option Listing
  | .rglob _ _ => Option (List FilePath)
  | .iterate paths => { order : List FilePath // order.Perm paths }

inductive CatalogAction where
  | retry (path : FilePath) (reads : CandidateReads)
  | discover (path : FilePath) (reads : CandidateReads)
  | record (journalPath : FilePath) (line : List Nat)
  | forget (path : FilePath)
  | removeEntry (path : FilePath)
  | restart (containers : Dict FilePath Int)
  | markInitialized
  | setContainer (path : FilePath) (mtime : Int)
  | dropContainer (path : FilePath)
  | dropContainersBelow (path : FilePath)
  | setCursors (cursors : Dict FilePath PublicationCursor)
  | setCursor (path : FilePath) (cursor : PublicationCursor)
  | dropCursor (path : FilePath)

def Catalog.apply (config : IndexConfig) (catalog : Catalog) : CatalogAction → Catalog
  | .retry path reads | .discover path reads => refreshCandidate config catalog path reads
  | .record journalPath line => refreshPublicationRecord config catalog journalPath line
  | .forget path => catalog.forget path
  | .removeEntry path => catalog.removeEntry path
  | .restart containers =>
    { catalog with containers, pending := [], failedIdentities := ∅ }
  | .markInitialized => { catalog with initialized := true }
  | .setContainer path mtime =>
    { catalog with containers := catalog.containers.set path mtime }
  | .dropContainer path => { catalog with containers := catalog.containers.erase path }
  | .dropContainersBelow path =>
    { catalog with containers := catalog.containers.keep fun entry => ¬path <+: entry.1 }
  | .setCursors cursors => { catalog with publicationCursors := cursors }
  | .setCursor path cursor =>
    { catalog with publicationCursors := catalog.publicationCursors.set path cursor }
  | .dropCursor path =>
    { catalog with publicationCursors := catalog.publicationCursors.erase path }

abbrev IndexProgram := Program IndexReply Catalog CatalogAction

abbrev ask (question : IndexQuery) : IndexProgram (IndexReply question) :=
  query question

def orRaise {Value : Type} : Option Value → IndexProgram Value
  | some value => pure value
  | none => .abort

variable (config : IndexConfig)

def candidateSourceRoots (sourceId runtimeEpochId : Text) : List FilePath :=
  let bases :=
    if config.root.name = text "midterm" then [config.root]
    else [config.root, config.root ++ [text "midterm"]]
  (bases.map fun base =>
    ((base ++ [text "epochs"]).join runtimeEpochId).join sourceId).dedup

/-! ## Publication journals -/

def publicationJournalPaths (catalog : Catalog) : List FilePath :=
  (candidateSourceRoots config catalog.sourceId catalog.runtimeEpochId).map fun root =>
    root ++ [text "segments", segmentPublicationJournalFile]

def snapshotPublicationTails : List FilePath → IndexProgram (Dict FilePath PublicationCursor)
  | [] => pure ∅
  | path :: rest => do
      let tail ← ask (.journalTail path)
      let cursors ← snapshotPublicationTails rest
      match tail with
      | some cursor => pure ⟨(path, cursor) :: cursors.entries⟩
      | none => pure cursors

def consumeLines (journalPath : FilePath) : List (List Nat) → IndexProgram Bool
  | [] => pure false
  | line :: rest =>
    if line = [] then consumeLines journalPath rest
    else do
      let catalog ← Program.current
      perform (.record journalPath line)
      let refused ← consumeLines journalPath rest
      pure ((acceptRecord config catalog journalPath line).isNone || refused)

/-- Whether the journal is another file than the one read before, or has been cut. -/
def isReset (previous : Option PublicationCursor) (device inode : Int) (size : Nat) : Bool :=
  previous.any fun cursor =>
    !(device = cursor.device && inode = cursor.inode) || size < cursor.offset

def readStart (previous : Option PublicationCursor) (reset : Bool) : Nat :=
  if reset then 0 else (previous.map PublicationCursor.offset).getD 0

/-- Whether the journal was there, and whether some of it cannot be trusted. -/
def consumePublicationJournal (journalPath : FilePath) : IndexProgram (Bool × Bool) := do
  let catalog ← Program.current
  let previous := catalog.publicationCursors.get journalPath
  match ← ask (.journal journalPath) with
  | none => .abort
  | some .missing =>
    match previous with
    | none => pure (false, false)
    | some _ =>
      perform (.dropCursor journalPath)
      pure (false, true)
  | some .unreadable => pure (true, true)
  | some (.opened device inode content) =>
    let reset := isReset previous device inode content.length
    let start := readStart previous reset
    if segmentPublicationJournalMaxBytes + maxSegmentPublicationRecordBytes <
        content.length - start then
      perform (.setCursor journalPath ⟨device, inode, content.length⟩)
      pure (true, true)
    else
      let complete := completeLines (content.drop start)
      perform (.setCursor journalPath ⟨device, inode, start + complete.length⟩)
      let refused ← consumeLines config journalPath (splitLines complete)
      pure (true, reset || refused)

def consumeJournals : List FilePath → IndexProgram (Bool × Bool)
  | [] => pure (false, false)
  | path :: rest => do
      let (seen, invalidated) ← consumePublicationJournal config path
      let (otherSeen, otherInvalidated) ← consumeJournals rest
      pure (seen || otherSeen, invalidated || otherInvalidated)

def consumePublicationJournals : IndexProgram (Bool × Bool) := do
  let catalog ← Program.current
  let paths := (publicationJournalPaths config catalog ++ catalog.publicationCursors.keys).dedup
  consumeJournals config
    (paths.insertionSort fun first second => textLe (pathText first) (pathText second) = true)

/-! ## Rebuilding -/

/-- The directories and the files below a directory, the files of one before what lies
deeper, the directories listed last first. -/
def walk : Nat → FilePath → IndexProgram (List (FilePath × Bool))
  | 0, path => pure [(path, true)]
  | depth + 1, path => do
      match ← ask (.scandir path) with
      | none => pure [(path, true)]
      | some listing =>
        let kinds ← listing.children.mapM fun child => do
          pure (path ++ [child.1], ← orRaise child.2)
        let files := (kinds.filter fun child => !child.2)
        let below ← (kinds.filter Prod.snd).reverse.mapM fun child => walk depth child.1
        pure ((path, true) :: files ++ below.flatten)

def walkRoots : List FilePath → IndexProgram (List (FilePath × Bool))
  | [] => pure []
  | root :: rest => do
      let isThere ← orRaise (← ask (.pathExists root))
      let here ← if isThere then walk config.maxScanDepth root else pure []
      let others ← walkRoots rest
      pure (here ++ others)

def mtimes : List FilePath → Dict FilePath Int → IndexProgram (Dict FilePath Int)
  | [], containers => pure containers
  | path :: rest, containers => do
      let mtime ← ask (.directoryMtime path)
      mtimes rest (containers.set path mtime)

def isMaterialized : Bool := path.contains (text "materialized")

def candidatesNamed (name : Text) (files : List FilePath) : List FilePath :=
  files.filter fun path => path.name = name && !isMaterialized path

def metadataOnly : List FilePath → IndexProgram (List FilePath)
  | [] => pure []
  | path :: rest => do
      let content ← ask (.firstRecord path)
      let isCandidate ← orRaise (isMetadataOnlyCatalogCandidate config content)
      let others ← metadataOnly rest
      pure (if isCandidate then path :: others else others)

def catalogCandidates (manifests metadata : List FilePath) : IndexProgram (List FilePath) := do
  let alone := metadata.filter fun path =>
    !manifests.contains (path.parent ++ [segmentManifestFile])
  let others ← metadataOnly config alone
  pure (manifests ++ others).dedup

def discoverCandidate : IndexProgram PUnit := do
  let reads ← ask (.candidate path)
  perform (.discover path reads)

def rebuild : IndexProgram Unit := do
  let catalog ← Program.current
  let cursors ← snapshotPublicationTails (publicationJournalPaths config catalog)
  perform (.setCursors cursors)
  let walked ← walkRoots config
    (candidateSourceRoots config catalog.sourceId catalog.runtimeEpochId)
  if config.maxScanEntries < walked.length then .abort
  else
    let files := (walked.filter fun found => !found.2).map Prod.fst
    let containers ← mtimes ((walked.filter Prod.snd).map Prod.fst) ∅
    let candidates ← catalogCandidates config (candidatesNamed segmentManifestFile files)
      (candidatesNamed segmentMetadataFile files)
    let catalog ← Program.current
    let previous := catalog.entries.keys
    perform (.restart containers)
    let order ← ask (.iterate candidates)
    order.val.forM fun path => do
      discoverCandidate path
      perform (.dropContainer path.parent)
    (previous.filter fun path => !candidates.contains path).forM fun path =>
      perform (.removeEntry path)
    let _ ← consumePublicationJournals config
    perform .markInitialized

/-! ## Refreshing -/

def removeTree : IndexProgram PUnit := do
  perform (.dropContainersBelow path)
  let catalog ← Program.current
  (catalog.known.filter fun known => path <+: known).forM fun known =>
    perform (.forget known)

structure Scan where
  queue : List FilePath
  processed : List FilePath
  visited : Nat

def Scan.enqueue (scan : Scan) (path : FilePath) : Scan :=
  if path ∈ scan.queue then scan else { scan with queue := scan.queue ++ [path] }

def Catalog.settledPath (catalog : Catalog) (directory : FilePath) : Option FilePath :=
  let known := [directory ++ [segmentManifestFile], directory ++ [segmentMetadataFile]].find?
    fun path => (catalog.entries.get path).isSome || decide (path ∈ catalog.pending)
  known.filter fun path => (catalog.entries.get path).isSome && decide (path ∉ catalog.pending)

def candidatePath (directory : FilePath) : IndexProgram (Option FilePath) := do
  let manifestPath := directory ++ [segmentManifestFile]
  let metadataPath := directory ++ [segmentMetadataFile]
  if ← orRaise (← ask (.isFile manifestPath)) then pure (some manifestPath)
  else if ← orRaise (← ask (.isFile metadataPath)) then
    let content ← ask (.firstRecord metadataPath)
    let isCandidate ← orRaise (isMetadataOnlyCatalogCandidate config content)
    pure (if isCandidate then some metadataPath else none)
  else pure none

/-- One subdirectory of a container: the catalog path found in it, and whether it is to
be looked into. -/
def scanChild (membership : Bool) (child : FilePath) :
    IndexProgram (Option FilePath × Bool) := do
  let catalog ← Program.current
  match catalog.settledPath child with
  | some path =>
    perform (.dropContainer child)
    pure (some path, false)
  | none =>
    match ← candidatePath config child with
    | some path =>
      perform (.dropContainer child)
      let catalog ← Program.current
      if (catalog.entries.get path).isNone || path ∈ catalog.pending then
        discoverCandidate path
        pure (some path, false)
      else pure (some path, false)
    | none =>
      let catalog ← Program.current
      let previous := catalog.containers.get child
      let mtime ← ask (.directoryMtime child)
      if mtime = 0 then
        removeTree child
        pure (none, false)
      else
        perform (.setContainer child mtime)
        pure (none, membership || previous ≠ some mtime)

/-- The children of a container, with the catalog paths found in them; none where too
many entries have been visited. -/
def scanChildren (membership : Bool) (container : FilePath) :
    List (Text × Option Bool) → Scan → List FilePath →
      IndexProgram (Option (Scan × List FilePath))
  | [], scan, manifests => pure (some (scan, manifests))
  | (name, kind) :: rest, scan, manifests => do
      let scan := { scan with visited := scan.visited + 1 }
      if config.maxScanEntries < scan.visited then pure none
      else if ← orRaise kind then
        let child := container ++ [name]
        let (found, isQueued) ← scanChild config membership child
        let scan := if isQueued then scan.enqueue child else scan
        scanChildren membership container rest scan (found.toList ++ manifests)
      else scanChildren membership container rest scan manifests

/-- What is known of the subdirectories of a container and was not found there. -/
def forgetMissing (container : FilePath) (manifests : List FilePath) : IndexProgram PUnit := do
  let catalog ← Program.current
  (catalog.known.filter fun path =>
    path.parent.parent = container && !manifests.contains path).forM fun path =>
      perform (.forget path)

/-- The containers of the queue, breadth first; none where too many entries have been
visited. -/
def scanQueue (membership : Bool) : Nat → Scan → IndexProgram (Option Scan)
  | 0, scan => pure (some scan)
  | fuel + 1, scan =>
    match scan.queue with
    | [] => pure (some scan)
    | container :: queue =>
      if container ∈ scan.processed then scanQueue membership fuel { scan with queue }
      else do
        let scan := { scan with queue, processed := container :: scan.processed }
        let mtime ← ask (.directoryMtime container)
        if mtime = 0 then
          removeTree container
          scanQueue membership fuel scan
        else
          perform (.setContainer container mtime)
          match ← ask (.scandir container) with
          | none =>
            perform (.setContainer container (-1))
            scanQueue membership fuel scan
          | some listing =>
            match ← scanChildren config membership container listing.children scan [] with
            | none => pure none
            | some (scan, manifests) =>
              forgetMissing container manifests
              scanQueue membership fuel scan

def queueRoots : List FilePath → Scan → IndexProgram Scan
  | [], scan => pure scan
  | root :: rest, scan => do
      let isThere ← orRaise (← ask (.pathExists root))
      let catalog ← Program.current
      if isThere && (catalog.containers.get root).isNone then queueRoots rest (scan.enqueue root)
      else queueRoots rest scan

def queueContainers (membership : Bool) : List (FilePath × Int) → Scan → IndexProgram Scan
  | [], scan => pure scan
  | (container, previous) :: rest, scan => do
      let mtime ← ask (.directoryMtime container)
      if mtime = 0 then
        removeTree container
        queueContainers membership rest scan
      else if membership || mtime ≠ previous then
        queueContainers membership rest (scan.enqueue container)
      else queueContainers membership rest scan

def retryCandidate : IndexProgram PUnit := do
  let reads ← ask (.candidate path)
  perform (.retry path reads)

def scanMembership (membership : Bool) : IndexProgram Unit := do
  let catalog ← Program.current
  let scan ← queueRoots (candidateSourceRoots config catalog.sourceId catalog.runtimeEpochId)
    ⟨[], [], 0⟩
  let catalog ← Program.current
  let scan ← queueContainers membership catalog.containers.entries scan
  match ← scanQueue config membership (scan.queue.length + config.maxScanEntries) scan with
  | some _ =>
    let _ ← consumePublicationJournals config
    pure ()
  | none => rebuild config

def refresh (reconcile : Bool) : IndexProgram Unit := do
  let catalog ← Program.current
  let order ← ask (.iterate catalog.pending)
  order.val.forM retryCandidate
  let (journalSeen, requiresReconcile) ← consumePublicationJournals config
  let membership := reconcile || requiresReconcile
  if journalSeen && !membership then pure ()
  else scanMembership config membership

/-! ## Reading the catalog -/

def segmentLe (first second : RollingSegment) : Bool :=
  if first.firstPts = second.firstPts then
    if first.lastPts = second.lastPts then
      textLe (pathText first.metadataPath) (pathText second.metadataPath)
    else first.lastPts ≤ second.lastPts
  else first.firstPts ≤ second.firstPts

def Catalog.segments (catalog : Catalog) : List RollingSegment :=
  (catalog.entries.values.map IndexedSegment.segment).insertionSort
    fun first second => segmentLe first second = true

/-- What the clock and the root's generation ask of an initialized catalog. -/
inductive Due where
  | reconcile
  | refresh
  | nothing

def bringUpToDate (due : Due) : IndexProgram Unit := do
  let catalog ← Program.current
  if !catalog.initialized then rebuild config
  else
    match due with
    | .reconcile => refresh config true
    | .refresh => refresh config false
    | .nothing => pure ()

/-- `_fallback_manifest_scan`, on a catalog of its own. -/
def fallbackManifestScan : List FilePath → IndexProgram Unit
  | [] => pure ()
  | root :: rest => do
      if ← orRaise (← ask (.pathExists root)) then
        let found ← orRaise (← ask (.rglob root segmentManifestFile))
        let manifests := candidatesNamed segmentManifestFile found
        let found ← orRaise (← ask (.rglob root segmentMetadataFile))
        let candidates ← catalogCandidates config manifests
          (candidatesNamed segmentMetadataFile found)
        let order ← ask (.iterate candidates)
        order.val.forM retryCandidate
        fallbackManifestScan rest
      else fallbackManifestScan rest

end VideoAnalysis.SegmentIndex
