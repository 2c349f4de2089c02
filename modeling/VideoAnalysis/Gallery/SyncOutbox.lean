import VideoAnalysis.Foundation.CallOutcome
import VideoAnalysis.Foundation.Dict
import VideoAnalysis.Foundation.Machine
import VideoAnalysis.Python.Number

/-! # The outbox of the face gallery

The gallery rows of the database, the outbox its triggers fill and the workers that
carry the outbox into the vector index. A step is one transaction of the database,
one call of the index or the end of a worker. Times are whole seconds.
-/

namespace VideoAnalysis.Gallery

open Foundation Python

structure Person where
  name : String
  externalPersonId : Option String
  isActive : Bool

/-- The columns of `person_gallery_embeddings` that reach the index. -/
structure GalleryRow where
  personId : Nat
  sourceType : Option String
  embeddingModel : String
  modelVersion : Option String
  embedding : Option (List Double)
  isPrimary : Bool
  isActive : Bool
  quality : Option Double
  createdAt : Option Int
  updatedAt : Option Int

/-- A gallery row has an identity of its own and belongs to a person that is there. -/
structure Database where
  persons : Dict Nat Person := ∅
  gallery : Dict Nat GalleryRow := ∅
  distinct : gallery.Distinct := by exact List.nodup_nil
  references : ∀ galleryId row, gallery.get galleryId = some row →
    (persons.get row.personId).isSome := by simp

inductive Operation where
  | upsert
  | delete
deriving DecidableEq

/-! ## Triggers -/

abbrev Enqueued := List (Nat × Operation)

/-- The operation for a row that is there after the change. -/
def GalleryRow.operation (row : GalleryRow) : Operation :=
  if row.isActive && row.embedding.isSome then .upsert else .delete

namespace Database

variable (db : Database)

def rowsOf (personId : Nat) : List (Nat × GalleryRow) :=
  db.gallery.entries.filter fun entry => entry.2.personId = personId

theorem mem_rowsOf {db : Database} {personId galleryId : Nat} {row : GalleryRow}
    (found : db.gallery.get galleryId = some row) (belongs : row.personId = personId) :
    (galleryId, row) ∈ db.rowsOf personId :=
  List.mem_filter.2 ⟨Dict.mem_of_get found, by simpa using belongs⟩

theorem distinct_foldl_erase (keys : List Nat) {gallery : Dict Nat GalleryRow}
    (distinct : gallery.Distinct) : (keys.foldl Dict.erase gallery).Distinct := by
  induction keys generalizing gallery with
  | nil => exact distinct
  | cons key rest induction => exact induction (distinct.keep _)

theorem get_foldl_erase (keys : List Nat) (gallery : Dict Nat GalleryRow) (galleryId : Nat) :
    (keys.foldl Dict.erase gallery).get galleryId =
      if galleryId ∈ keys then none else gallery.get galleryId := by
  induction keys generalizing gallery with
  | nil => simp
  | cons key rest induction =>
    rw [List.foldl_cons, induction]
    by_cases same : galleryId = key
    · simp [same]
    · simp [same, Dict.get_erase_of_ne _ same]

/-- An inserted or updated person. Only an update fires the trigger, and only a change
of the columns the index shows enqueues anything. -/
def putPerson (personId : Nat) (person : Person) : Database × Enqueued :=
  let changed : Database :=
    { persons := db.persons.set personId person
      gallery := db.gallery
      distinct := db.distinct
      references := by
        intro galleryId row found
        rw [Dict.get_set]
        split
        · rfl
        · exact db.references galleryId row found }
  match db.persons.get personId with
  | none => (changed, [])
  | some old =>
    if old.isActive = person.isActive ∧ old.name = person.name ∧
        old.externalPersonId = person.externalPersonId then (changed, [])
    else
      (changed, (db.rowsOf personId).map fun entry =>
        (entry.1, if person.isActive then entry.2.operation else .delete))

/-- The foreign key takes the person's gallery rows along. -/
def deletePerson (personId : Nat) : Database × Enqueued :=
  let rows := (db.rowsOf personId).map Prod.fst
  ({ persons := db.persons.erase personId
     gallery := rows.foldl Dict.erase db.gallery
     distinct := distinct_foldl_erase rows db.distinct
     references := by
       intro galleryId row found
       rw [get_foldl_erase] at found
       split at found
       · cases found
       · next remains =>
         have other : row.personId ≠ personId := by
           intro belongs
           exact remains (List.mem_map_of_mem (f := Prod.fst) (mem_rowsOf found belongs))
         rw [Dict.get_erase_of_ne _ other]
         exact db.references galleryId row found },
    rows.map fun row => (row, .delete))

def putGallery (galleryId : Nat) (row : GalleryRow) : Option (Database × Enqueued) :=
  if belongs : (db.persons.get row.personId).isSome then
    some
      ({ persons := db.persons
         gallery := db.gallery.set galleryId row
         distinct := db.distinct.set galleryId row
         references := by
           intro other found isFound
           rw [Dict.get_set] at isFound
           split at isFound
           · rw [← Option.some.inj isFound]
             exact belongs
           · exact db.references other found isFound },
        [(galleryId, row.operation)])
  else none

def deleteGallery (galleryId : Nat) : Option (Database × Enqueued) :=
  match db.gallery.get galleryId with
  | none => none
  | some _ =>
    some
      ({ persons := db.persons
         gallery := db.gallery.erase galleryId
         distinct := db.distinct.keep _
         references := by
           intro other row found
           by_cases same : other = galleryId
           · rw [same, Dict.get_erase_self] at found
             cases found
           · rw [Dict.get_erase_of_ne _ same] at found
             exact db.references other row found },
        [(galleryId, .delete)])

/-- `gallery_row_by_id`. -/
def sourceRow (galleryId : Nat) : Option (GalleryRow × Person) :=
  match db.gallery.get galleryId with
  | none => none
  | some row =>
    match db.persons.get row.personId with
    | none => none
    | some person =>
      if person.isActive && row.isActive && row.embedding.isSome then some (row, person)
      else none

end Database

/-! ## Points -/

structure GalleryPayload where
  galleryEmbeddingId : Nat
  personId : Nat
  personName : String
  externalPersonId : Option String
  sourceType : Option String
  embeddingModel : String
  modelVersion : Option String
  isPrimary : Bool
  isActive : Bool
  quality : Option Double
  createdAt : Option String
  updatedAt : Option String

structure Point where
  vector : List Double
  payload : GalleryPayload

structure SyncConfig where
  processingTimeoutSeconds : Int
  batchSize : Int
  maxAttempts : Int
  isoformat : Int → String

namespace SyncConfig

variable (config : SyncConfig)

def galleryPayload (galleryId : Nat) (row : GalleryRow) (person : Person) : GalleryPayload where
  galleryEmbeddingId := galleryId
  personId := row.personId
  personName := person.name
  externalPersonId := person.externalPersonId
  sourceType := row.sourceType
  embeddingModel := if row.embeddingModel = "" then "adaface" else row.embeddingModel
  modelVersion := row.modelVersion
  isPrimary := row.isPrimary
  isActive := row.isActive
  quality := row.quality
  createdAt := row.createdAt.map config.isoformat
  updatedAt := row.updatedAt.map config.isoformat

def pointOf (galleryId : Nat) (source : GalleryRow × Person) : Point where
  vector := source.1.embedding.getD []
  payload := config.galleryPayload galleryId source.1 source.2

end SyncConfig

/-! ## The outbox and its workers -/

inductive OutboxStatus where
  | pending
  | processing
  | completed
  | retry
  | poisoned
deriving DecidableEq

structure OutboxRow where
  galleryId : Nat
  operation : Operation
  status : OutboxStatus := .pending
  attempts : Int := 0
  claimedAt : Option Int := none
  nextAttemptAt : Int

/-- What a worker keeps of a row it has claimed. -/
structure ClaimedRow where
  row : Nat
  galleryId : Nat
  operation : Operation
  attempts : Int

/-- What a worker has done of the row at the head of its claim. -/
inductive SyncStage where
  | ready
  | read (source : Option (GalleryRow × Person))
  | written
  | failing

structure SyncWorker where
  claimed : List ClaimedRow := []
  stage : SyncStage := .ready

structure SyncState where
  db : Database := {}
  outbox : List OutboxRow := []
  points : Dict Nat Point := ∅
  workers : Nat → SyncWorker := fun _ => {}
  now : Int := 0

inductive SyncLabel where
  | putPerson (personId : Nat) (person : Person)
  | deletePerson (personId : Nat)
  | putGallery (galleryId : Nat) (row : GalleryRow)
  | deleteGallery (galleryId : Nat)
  | wait (seconds : Nat)
  | reclaim (rows : List Nat)
  | claim (worker : Nat) (rows : List Nat)
  | read (worker : Nat) (raises : Bool)
  | write (worker : Nat) (outcome : CallOutcome)
  | complete (worker : Nat) (outcome : CallOutcome)
  | fail (worker : Nat) (outcome : CallOutcome)
  | crash (worker : Nat)

namespace SyncState

variable (state : SyncState)

def setWorker (number : Nat) (worker : SyncWorker) : SyncState :=
  { state with workers := fun asked => if asked = number then worker else state.workers asked }

def changed (change : Database × Enqueued) : SyncState :=
  { state with
    db := change.1
    outbox := state.outbox ++ change.2.map fun entry =>
      { galleryId := entry.1, operation := entry.2, nextAttemptAt := state.now } }

def modifyRow (row : Nat) (change : OutboxRow → OutboxRow) : SyncState :=
  { state with outbox := state.outbox.modify row change }

/-- The rows a claim may take. Which of them it takes, and in which order the database
returns them, is up to the database. -/
def claimable (row : Nat) : Bool :=
  match state.outbox[row]? with
  | some found =>
    (found.status = .pending || found.status = .retry) && found.nextAttemptAt ≤ state.now
  | none => false

def stale (config : SyncConfig) (state : SyncState) (row : Nat) : Bool :=
  match state.outbox[row]? with
  | some found =>
    match found.claimedAt with
    | some claimedAt =>
      found.status = .processing && claimedAt < state.now - max 1 config.processingTimeoutSeconds
    | none => false
  | none => false

def claimRow (row : Nat) : SyncState :=
  state.modifyRow row fun found =>
    { found with
      status := .processing
      attempts := found.attempts + 1
      claimedAt := some state.now }

def reclaimRow (row : Nat) : SyncState :=
  state.modifyRow row fun found =>
    { found with status := .retry, claimedAt := none, nextAttemptAt := state.now }

def copyOf (row : Nat) : Option ClaimedRow :=
  (state.outbox[row]?).map fun found =>
    { row, galleryId := found.galleryId, operation := found.operation,
      attempts := found.attempts }

def reclaim (config : SyncConfig) (state : SyncState) (rows : List Nat) : Option SyncState :=
  if (rows.length : Int) ≤ max 1 config.batchSize ∧ rows.all (state.stale config) then
    some (rows.foldl reclaimRow state)
  else none

def claim (config : SyncConfig) (state : SyncState) (worker : Nat) (rows : List Nat) :
    Option SyncState :=
  if (state.workers worker).claimed = [] ∧ rows.Nodup ∧
      (rows.length : Int) ≤ max 1 config.batchSize ∧ rows.all state.claimable then
    let taken := rows.foldl claimRow state
    some (taken.setWorker worker { claimed := rows.filterMap taken.copyOf })
  else none

def read (number : Nat) (raises : Bool) : Option SyncState :=
  let worker := state.workers number
  match worker.claimed, worker.stage with
  | row :: _, .ready =>
    if row.operation = .delete then none
    else if raises then some (state.setWorker number { worker with stage := .failing })
    else
      some (state.setWorker number
        { worker with stage := .read (state.db.sourceRow row.galleryId) })
  | _, _ => none

/-- The row in hand and what the index is told of it: nothing for a deletion, which is
made without a look at the source row. -/
def writing (config : SyncConfig) (worker : SyncWorker) : Option (ClaimedRow × Option Point) :=
  match worker.claimed, worker.stage with
  | row :: _, .ready => if row.operation = .delete then some (row, none) else none
  | row :: _, .read source => some (row, source.map (config.pointOf row.galleryId))
  | _, _ => none

def setPoint (galleryId : Nat) (point : Option Point) : SyncState :=
  match point with
  | some point => { state with points := state.points.set galleryId point }
  | none => { state with points := state.points.erase galleryId }

def write (config : SyncConfig) (state : SyncState) (number : Nat) (outcome : CallOutcome) :
    Option SyncState :=
  let worker := state.workers number
  match writing config worker with
  | none => none
  | some (row, point) =>
    let told := if outcome.arrived then state.setPoint row.galleryId point else state
    some (told.setWorker number
      { worker with stage := if outcome = .ok then .written else .failing })

/-- `mark_outbox_completed`, whoever holds the row now. -/
def complete (number : Nat) (outcome : CallOutcome) : Option SyncState :=
  let worker := state.workers number
  match worker.claimed, worker.stage with
  | row :: rest, .written =>
    let marked :=
      if outcome.arrived then state.modifyRow row.row ({ · with status := .completed })
      else state
    some (marked.setWorker number
      (if outcome = .ok then { claimed := rest } else { worker with stage := .failing }))
  | _, _ => none

def failedRow (config : SyncConfig) (now : Int) (attempts : Int) (found : OutboxRow) :
    OutboxRow :=
  if config.maxAttempts ≤ attempts then { found with status := .poisoned }
  else
    { found with
      status := .retry
      nextAttemptAt := now + min 300 (2 ^ (attempts - 1).toNat) }

/-- `mark_outbox_failed`; when it raises the rest of the claim is left behind. -/
def fail (config : SyncConfig) (state : SyncState) (number : Nat) (outcome : CallOutcome) :
    Option SyncState :=
  let worker := state.workers number
  match worker.claimed, worker.stage with
  | row :: rest, .failing =>
    let marked :=
      if outcome.arrived then
        state.modifyRow row.row (failedRow config state.now row.attempts)
      else state
    some (marked.setWorker number (if outcome = .ok then { claimed := rest } else {}))
  | _, _ => none

def step (config : SyncConfig) (state : SyncState) : SyncLabel → Option SyncState
  | .putPerson personId person => some (state.changed (state.db.putPerson personId person))
  | .deletePerson personId => some (state.changed (state.db.deletePerson personId))
  | .putGallery galleryId row => (state.db.putGallery galleryId row).map state.changed
  | .deleteGallery galleryId => (state.db.deleteGallery galleryId).map state.changed
  | .wait seconds => some { state with now := state.now + seconds }
  | .reclaim rows => state.reclaim config rows
  | .claim worker rows => state.claim config worker rows
  | .read worker raises => state.read worker raises
  | .write worker outcome => state.write config worker outcome
  | .complete worker outcome => state.complete worker outcome
  | .fail worker outcome => state.fail config worker outcome
  | .crash worker => some (state.setWorker worker {})

end SyncState

def syncMachine (config : SyncConfig) : Machine SyncState SyncLabel where
  initial state := state = {}
  step := SyncState.step config

end VideoAnalysis.Gallery
