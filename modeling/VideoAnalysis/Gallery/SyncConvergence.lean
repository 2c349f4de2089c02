import VideoAnalysis.Gallery.SyncOutbox

/-! # When the index follows the database

A gallery row whose point is not what the database asks for keeps a row of the outbox
that is not completed and that no worker has written for. Steps keep it so, except for a
write that tells the index something else than the database holds by then, when no such
row is left.
-/

namespace VideoAnalysis.Gallery

open Foundation Python

/-! ## Changes of the database -/

namespace Database

def Announced (db : Database) (change : Database × Enqueued) : Prop :=
  ∀ galleryId, galleryId ∉ change.2.map Prod.fst →
    change.1.sourceRow galleryId = db.sourceRow galleryId

variable {galleryId : Nat}

theorem sourceRow_congr {first second : Database}
    (gallery : first.gallery.get galleryId = second.gallery.get galleryId)
    (persons : ∀ row, second.gallery.get galleryId = some row →
      first.persons.get row.personId = second.persons.get row.personId) :
    first.sourceRow galleryId = second.sourceRow galleryId := by
  unfold sourceRow
  rw [gallery]
  cases found : second.gallery.get galleryId with
  | none => rfl
  | some row =>
    simp only
    rw [persons row found]

variable (db : Database)

theorem putPerson_announced (personId : Nat) (person : Person) :
    db.Announced (db.putPerson personId person) := by
  intro galleryId silent
  have gallery : (db.putPerson personId person).1.gallery = db.gallery := by
    unfold putPerson
    simp only
    repeat' split
    all_goals rfl
  have persons : (db.putPerson personId person).1.persons = db.persons.set personId person := by
    unfold putPerson
    simp only
    repeat' split
    all_goals rfl
  apply sourceRow_congr (by rw [gallery])
  intro row stored
  rw [persons, Dict.get_set]
  split
  next belongs =>
    have present := db.references galleryId row stored
    rw [belongs] at present ⊢
    rcases Option.isSome_iff_exists.mp present with ⟨old, isOld⟩
    simp only [putPerson, isOld] at silent
    split at silent
    next unchanged =>
      rcases unchanged with ⟨sameActive, sameName, sameExternal⟩
      rw [isOld]
      cases person
      cases old
      simp_all
    next =>
      rw [List.map_map] at silent
      exact absurd (List.mem_map_of_mem (f := Prod.fst) (mem_rowsOf stored belongs)) silent
  next => rfl

theorem deletePerson_announced (personId : Nat) :
    db.Announced (db.deletePerson personId) := by
  intro galleryId silent
  have remains : galleryId ∉ (db.rowsOf personId).map Prod.fst := by
    simpa [deletePerson] using silent
  apply sourceRow_congr
  · simp only [deletePerson, get_foldl_erase, if_neg remains]
  · intro row stored
    apply Dict.get_erase_of_ne
    intro belongs
    exact remains (List.mem_map_of_mem (f := Prod.fst) (mem_rowsOf stored belongs))

theorem putGallery_announced {row : GalleryRow}
    {change : Database × Enqueued} (put : db.putGallery galleryId row = some change) :
    db.Announced change := by
  unfold putGallery at put
  split at put
  next belongs =>
    rw [← Option.some.inj put]
    intro other silent
    have different : other ≠ galleryId := by simpa using silent
    exact sourceRow_congr (Dict.get_set_of_ne _ _ different) fun _ _ => rfl
  next => cases put

theorem deleteGallery_announced {change : Database × Enqueued}
    (deleted : db.deleteGallery galleryId = some change) : db.Announced change := by
  unfold deleteGallery at deleted
  split at deleted
  next => cases deleted
  next =>
    rw [← Option.some.inj deleted]
    intro other silent
    have different : other ≠ galleryId := by simpa using silent
    exact sourceRow_congr (Dict.get_erase_of_ne _ different) fun _ _ => rfl

/-- A row that is to be in the index, with its person. -/
structure Enrolled (galleryId : Nat) (row : GalleryRow) (person : Person) : Prop where
  isRow : db.gallery.get galleryId = some row
  isPerson : db.persons.get row.personId = some person
  rowActive : row.isActive = true
  embedded : row.embedding.isSome = true
  personActive : person.isActive = true

theorem sourceRow_eq_some {source : GalleryRow × Person} :
    db.sourceRow galleryId = some source ↔ db.Enrolled galleryId source.1 source.2 := by
  rcases source with ⟨row, person⟩
  unfold sourceRow
  constructor
  · intro found
    split at found
    next => cases found
    next stored isStored =>
      split at found
      next => cases found
      next owner isOwner =>
        split at found
        next holds =>
          simp only [Bool.and_eq_true] at holds
          cases found
          exact ⟨isStored, isOwner, holds.1.2, holds.2, holds.1.1⟩
        next => cases found
  · rintro ⟨isRow, isPerson, rowActive, embedded, personActive⟩
    simp only at isRow isPerson rowActive embedded personActive
    simp [isRow, isPerson, rowActive, embedded, personActive]

end Database

def SyncConfig.pointFor (config : SyncConfig) (db : Database) (galleryId : Nat) : Option Point :=
  (db.sourceRow galleryId).map (config.pointOf galleryId)

/-! ## Rows that will be written -/

def SyncWorker.HasWritten (worker : SyncWorker) (row : Nat) : Prop :=
  worker.stage = .written ∧ worker.claimed.head?.map ClaimedRow.row = some row

namespace SyncState

/-- A row of the outbox that is still to be carried out. -/
structure Unwritten (state : SyncState) (galleryId row : Nat) : Prop where
  uncompleted : ∃ entry, state.outbox[row]? = some entry ∧ entry.galleryId = galleryId ∧
    entry.status ≠ .completed
  unwritten : ∀ number, ¬(state.workers number).HasWritten row

/-- A step that leaves no row of the outbox behind. -/
structure Marks (state next : SyncState) : Prop where
  db : next.db = state.db
  points : next.points = state.points
  workers : next.workers = state.workers
  entries : ∀ (row : Nat) entry, state.outbox[row]? = some entry →
    ∃ after, next.outbox[row]? = some after ∧ after.galleryId = entry.galleryId ∧
      (entry.status ≠ .completed → after.status ≠ .completed)

def Holds (state : SyncState) (copy : ClaimedRow) : Prop :=
  ∃ entry, state.outbox[copy.row]? = some entry ∧ entry.galleryId = copy.galleryId

structure Synced (config : SyncConfig) (state : SyncState) : Prop where
  held : ∀ number, ∀ copy ∈ (state.workers number).claimed, state.Holds copy
  told : ∀ galleryId, state.points.get galleryId = config.pointFor state.db galleryId ∨
    ∃ row, state.Unwritten galleryId row

section Marks

variable {state next : SyncState}

theorem Marks.refl (state : SyncState) : state.Marks state where
  db := rfl
  points := rfl
  workers := rfl
  entries _ entry found := ⟨entry, found, rfl, id⟩

theorem Marks.trans {last : SyncState} (first : state.Marks next) (second : next.Marks last) :
    state.Marks last where
  db := second.db.trans first.db
  points := second.points.trans first.points
  workers := second.workers.trans first.workers
  entries row entry found := by
    rcases first.entries row entry found with ⟨middle, isMiddle, sameGallery, kept⟩
    rcases second.entries row middle isMiddle with ⟨after, isAfter, same, keeps⟩
    exact ⟨after, isAfter, same.trans sameGallery, keeps ∘ kept⟩

theorem Marks.modifyRow (state : SyncState) (row : Nat) {change : OutboxRow → OutboxRow}
    (gallery : ∀ entry, (change entry).galleryId = entry.galleryId)
    (status : ∀ entry, (change entry).status ≠ .completed) :
    state.Marks (state.modifyRow row change) where
  db := rfl
  points := rfl
  workers := rfl
  entries other entry found := by
    simp only [SyncState.modifyRow, List.getElem?_modify, found]
    by_cases same : row = other
    · exact ⟨change entry, by simp [same], gallery entry, fun _ => status entry⟩
    · exact ⟨entry, by simp [same], rfl, id⟩

theorem Marks.foldl {mark : SyncState → Nat → SyncState}
    (marks : ∀ state row, Marks state (mark state row)) (rows : List Nat) (state : SyncState) :
    state.Marks (rows.foldl mark state) := by
  induction rows generalizing state with
  | nil => exact .refl state
  | cons row _ induction => exact (marks state row).trans (induction (mark state row))

theorem Holds.marks {copy : ClaimedRow} (holds : state.Holds copy) (marks : state.Marks next) :
    next.Holds copy := by
  rcases holds with ⟨entry, found, sameGallery⟩
  rcases marks.entries _ entry found with ⟨after, isAfter, same, _⟩
  exact ⟨after, isAfter, same.trans sameGallery⟩

theorem Unwritten.marks {galleryId row : Nat} (unwritten : state.Unwritten galleryId row)
    (marks : state.Marks next) : next.Unwritten galleryId row := by
  rcases unwritten with ⟨⟨entry, found, isGallery, status⟩, silent⟩
  rcases marks.entries _ entry found with ⟨after, isAfter, same, kept⟩
  refine ⟨⟨after, isAfter, same.trans isGallery, kept status⟩, ?_⟩
  rw [marks.workers]
  exact silent

theorem Synced.marks {config : SyncConfig} (synced : state.Synced config)
    (marks : state.Marks next) : next.Synced config where
  held number copy member := by
    rw [marks.workers] at member
    exact (synced.held number copy member).marks marks
  told galleryId := by
    rw [marks.points, marks.db]
    apply (synced.told galleryId).imp_right
    rintro ⟨row, unwritten⟩
    exact ⟨row, unwritten.marks marks⟩

end Marks

/-! ## What a worker keeps -/

section Workers

variable {config : SyncConfig} {state : SyncState} {number : Nat} {worker : SyncWorker}

theorem setWorker_self : (state.setWorker number worker).workers number = worker := by
  simp [setWorker]

theorem setWorker_of_ne {other : Nat} (different : other ≠ number) :
    (state.setWorker number worker).workers other = state.workers other := by
  simp [setWorker, different]

theorem Unwritten.setWorker {galleryId row : Nat} (unwritten : state.Unwritten galleryId row)
    (silent : ¬worker.HasWritten row) :
    (state.setWorker number worker).Unwritten galleryId row where
  uncompleted := unwritten.uncompleted
  unwritten other := by
    by_cases same : other = number
    · rw [same, setWorker_self]
      exact silent
    · rw [setWorker_of_ne same]
      exact unwritten.unwritten other

theorem held_setWorker (held : ∀ other, ∀ copy ∈ (state.workers other).claimed, state.Holds copy)
    (taken : ∀ copy ∈ worker.claimed, state.Holds copy) (other : Nat) (copy : ClaimedRow)
    (member : copy ∈ ((state.setWorker number worker).workers other).claimed) :
    (state.setWorker number worker).Holds copy := by
  by_cases same : other = number
  · rw [same, setWorker_self] at member
    exact taken copy member
  · rw [setWorker_of_ne same] at member
    exact held other copy member

theorem Synced.setWorker (synced : state.Synced config)
    (taken : ∀ copy ∈ worker.claimed, state.Holds copy) (silent : worker.stage ≠ .written) :
    (state.setWorker number worker).Synced config where
  held := held_setWorker synced.held taken
  told galleryId := by
    apply (synced.told galleryId).imp_right
    rintro ⟨row, unwritten⟩
    exact ⟨row, unwritten.setWorker fun written => silent written.1⟩

end Workers

/-! ## Steps -/

theorem changed_synced {config : SyncConfig} {state : SyncState}
    {change : Database × Enqueued} (synced : state.Synced config)
    (announced : state.db.Announced change) : (state.changed change).Synced config where
  held number copy member := by
    rcases synced.held number copy member with ⟨entry, found, isGallery⟩
    exact ⟨entry, List.getElem?_append_left (List.getElem?_eq_some_iff.mp found).1 ▸ found,
      isGallery⟩
  told galleryId := by
    by_cases said : galleryId ∈ change.2.map Prod.fst
    · right
      rcases List.mem_map.mp said with ⟨entry, member, isGallery⟩
      rcases List.getElem?_of_mem member with ⟨index, isEntry⟩
      refine ⟨state.outbox.length + index, ⟨?_, ?_⟩⟩
      · refine ⟨{ galleryId := entry.1, operation := entry.2, nextAttemptAt := state.now },
          ?_, isGallery, by simp⟩
        simp [changed, List.getElem?_append_right, isEntry]
      · rintro number ⟨_, isHead⟩
        rcases Option.map_eq_some_iff.mp isHead with ⟨copy, isCopy, _⟩
        rcases synced.held number copy (List.mem_of_head? isCopy) with ⟨_, found, _⟩
        have bound := (List.getElem?_eq_some_iff.mp found).1
        omega
    · have same : config.pointFor change.1 galleryId = config.pointFor state.db galleryId := by
        rw [SyncConfig.pointFor, SyncConfig.pointFor, announced galleryId said]
      rcases synced.told galleryId with told | ⟨row, ⟨entry, found, isGallery, status⟩, silent⟩
      · exact Or.inl (told.trans same.symm)
      · refine Or.inr ⟨row, ⟨entry, ?_, isGallery, status⟩, silent⟩
        simp only [changed]
        rw [List.getElem?_append_left (List.getElem?_eq_some_iff.mp found).1, found]

theorem claimRow_marks (state : SyncState) (row : Nat) : state.Marks (state.claimRow row) :=
  Marks.modifyRow state row (fun _ => rfl) (by simp)

theorem reclaimRow_marks (state : SyncState) (row : Nat) :
    state.Marks (state.reclaimRow row) :=
  Marks.modifyRow state row (fun _ => rfl) (by simp)

theorem failRow_marks (config : SyncConfig) (state : SyncState) (row : Nat) (attempts : Int) :
    state.Marks (state.modifyRow row (failedRow config state.now attempts)) := by
  apply Marks.modifyRow
  · intro entry
    unfold failedRow
    split <;> rfl
  · intro entry
    unfold failedRow
    split <;> simp

theorem holds_copyOf {state : SyncState} {row : Nat} {copy : ClaimedRow}
    (isCopy : state.copyOf row = some copy) : state.Holds copy := by
  rcases Option.map_eq_some_iff.mp isCopy with ⟨entry, found, rfl⟩
  exact ⟨entry, found, rfl⟩

section Steps

variable {config : SyncConfig} {state next : SyncState}

theorem reclaim_synced {rows : List Nat} (synced : state.Synced config)
    (stepped : state.reclaim config rows = some next) : next.Synced config := by
  unfold reclaim at stepped
  split at stepped
  next =>
    cases stepped
    exact synced.marks (Marks.foldl reclaimRow_marks rows state)
  next => cases stepped

theorem claim_synced {number : Nat} {rows : List Nat} (synced : state.Synced config)
    (stepped : state.claim config number rows = some next) : next.Synced config := by
  simp only [claim] at stepped
  split at stepped
  next =>
    cases stepped
    apply (synced.marks (Marks.foldl claimRow_marks rows state)).setWorker
    · intro copy member
      rcases List.mem_filterMap.mp member with ⟨_, _, isCopy⟩
      exact holds_copyOf isCopy
    · simp
  next => cases stepped

theorem read_synced {number : Nat} {raises : Bool} (synced : state.Synced config)
    (stepped : state.read number raises = some next) : next.Synced config := by
  simp only [read] at stepped
  split at stepped
  next row rest isClaimed isReady =>
    split at stepped
    next => cases stepped
    next =>
      split at stepped
      all_goals
        cases stepped
        exact synced.setWorker (synced.held number) (by simp)
  next => cases stepped

variable {outcome : CallOutcome}

theorem fail_synced {number : Nat} (synced : state.Synced config)
    (stepped : state.fail config number outcome = some next) : next.Synced config := by
  simp only [fail] at stepped
  split at stepped
  next row rest isClaimed isFailing =>
    cases stepped
    have kept : ∀ marked, state.Marks marked → SyncState.Synced config (marked.setWorker number
        (if outcome = .ok then { claimed := rest } else {})) := by
      intro marked marks
      apply (synced.marks marks).setWorker
      · intro copy member
        apply Holds.marks _ marks
        apply synced.held number
        rw [isClaimed]
        split at member
        next => exact List.mem_cons_of_mem _ member
        next => cases member
      · split <;> simp
    apply kept
    split
    · exact failRow_marks config state row.row row.attempts
    · exact .refl state
  next => cases stepped

theorem get_setPoint (galleryId : Nat) (point : Option Point) (asked : Nat) :
    (state.setPoint galleryId point).points.get asked =
      if asked = galleryId then point else state.points.get asked := by
  unfold setPoint
  cases point with
  | none =>
    by_cases same : asked = galleryId
    · rw [if_pos same, same, Dict.get_erase_self]
    · rw [if_neg same, Dict.get_erase_of_ne _ same]
  | some => rw [Dict.get_set]

theorem setPoint_frame (galleryId : Nat) (point : Option Point) :
    (state.setPoint galleryId point).db = state.db ∧
      (state.setPoint galleryId point).outbox = state.outbox ∧
      (state.setPoint galleryId point).workers = state.workers := by
  cases point <;> exact ⟨rfl, rfl, rfl⟩

theorem writing_head {worker : SyncWorker} {row : ClaimedRow} {point : Option Point}
    (hand : writing config worker = some (row, point)) : worker.claimed.head? = some row := by
  unfold writing at hand
  split at hand
  next head rest isClaimed isReady =>
    split at hand
    · cases hand
      simp [isClaimed]
    · cases hand
  next head rest source isClaimed isRead =>
    cases hand
    simp [isClaimed]
  next => cases hand

/-- What a write may do: tell what the database holds, or leave another row to do so. -/
def WritesCurrent (config : SyncConfig) (state : SyncState) : SyncLabel → Prop
  | .write number outcome =>
    outcome.arrived = true → ∀ row point,
      writing config (state.workers number) = some (row, point) →
        point = config.pointFor state.db row.galleryId ∨
        ∃ other, state.Unwritten row.galleryId other ∧ (other ≠ row.row ∨ outcome ≠ .ok)
  | _ => True

theorem write_synced {number : Nat} (synced : state.Synced config)
    (current : state.WritesCurrent config (.write number outcome))
    (stepped : state.write config number outcome = some next) : next.Synced config := by
  simp only [write] at stepped
  cases hand : writing config (state.workers number) with
  | none =>
    rw [hand] at stepped
    cases stepped
  | some writes =>
    rcases writes with ⟨row, point⟩
    rw [hand] at stepped
    simp only at stepped
    cases stepped
    have isHead := writing_head hand
    rcases synced.held number row (List.mem_of_head? isHead) with ⟨_, found, isGallery⟩
    generalize isTold :
      (if outcome.arrived then state.setPoint row.galleryId point else state) = told
    generalize isAfter : ({ claimed := (state.workers number).claimed
                            stage := if outcome = .ok then .written else .failing } :
      SyncWorker) = after
    have frame : told.db = state.db ∧ told.outbox = state.outbox ∧
        told.workers = state.workers := by
      rw [← isTold]
      split
      · exact setPoint_frame row.galleryId point
      · exact ⟨rfl, rfl, rfl⟩
    rcases frame with ⟨sameDb, sameOutbox, sameWorkers⟩
    have points : ∀ asked, told.points.get asked =
        if outcome.arrived = true ∧ asked = row.galleryId then point
        else state.points.get asked := by
      intro asked
      rw [← isTold]
      by_cases arrived : outcome.arrived = true
      · simp [arrived, get_setPoint]
      · simp [arrived]
    have kept : ∀ galleryId other, state.Unwritten galleryId other →
        other ≠ row.row ∨ outcome ≠ .ok →
        (told.setWorker number after).Unwritten galleryId other := by
      rintro galleryId other ⟨uncompleted, unwritten⟩ spared
      apply Unwritten.setWorker ⟨sameOutbox ▸ uncompleted, sameWorkers ▸ unwritten⟩
      rw [← isAfter]
      rintro ⟨isWritten, isRow⟩
      rw [isHead] at isRow
      rcases spared with different | failed
      · exact different (Option.some.inj isRow).symm
      · simp [failed] at isWritten
    refine ⟨held_setWorker ?_ ?_, ?_⟩
    · rw [sameWorkers]
      simpa only [Holds, sameOutbox] using synced.held
    · rw [← isAfter]
      simpa only [Holds, sameOutbox] using synced.held number
    · intro galleryId
      change told.points.get galleryId = config.pointFor told.db galleryId ∨ _
      rw [points, sameDb]
      by_cases mine : outcome.arrived = true ∧ galleryId = row.galleryId
      · rw [if_pos mine]
        rcases mine with ⟨arrived, rfl⟩
        rcases current arrived row point hand with isCurrent | ⟨other, unwritten, spared⟩
        · exact Or.inl isCurrent
        · exact Or.inr ⟨other, kept _ other unwritten spared⟩
      · rw [if_neg mine]
        apply (synced.told galleryId).imp_right
        rintro ⟨other, unwritten⟩
        refine ⟨other, kept galleryId other unwritten ?_⟩
        rcases unwritten.uncompleted with ⟨_, isMark, ofGallery, _⟩
        by_cases failed : outcome = .ok
        · left
          rintro rfl
          rw [found] at isMark
          apply mine
          rw [← ofGallery, ← Option.some.inj isMark, isGallery, failed]
          exact ⟨rfl, rfl⟩
        · exact Or.inr failed

theorem Holds.modifyRow {copy : ClaimedRow} (holds : state.Holds copy) (row : Nat)
    {change : OutboxRow → OutboxRow}
    (gallery : ∀ entry, (change entry).galleryId = entry.galleryId) :
    (state.modifyRow row change).Holds copy := by
  rcases holds with ⟨entry, found, isGallery⟩
  simp only [Holds, SyncState.modifyRow, List.getElem?_modify, found]
  by_cases same : row = copy.row
  · exact ⟨change entry, by simp [same], (gallery entry).trans isGallery⟩
  · exact ⟨entry, by simp [same], isGallery⟩

theorem Unwritten.modifyRow {galleryId row other : Nat}
    (unwritten : state.Unwritten galleryId row) (different : other ≠ row)
    (change : OutboxRow → OutboxRow) :
    (state.modifyRow other change).Unwritten galleryId row := by
  rcases unwritten with ⟨⟨entry, found, isGallery, status⟩, silent⟩
  refine ⟨⟨entry, ?_, isGallery, status⟩, silent⟩
  simp [SyncState.modifyRow, found, different]

theorem complete_synced {number : Nat} (synced : state.Synced config)
    (stepped : state.complete number outcome = some next) : next.Synced config := by
  simp only [complete] at stepped
  split at stepped
  next row rest isClaimed isWritten =>
    cases stepped
    have written : (state.workers number).HasWritten row.row := by
      simp [SyncWorker.HasWritten, isClaimed, isWritten]
    have marked : (if outcome.arrived then
        state.modifyRow row.row ({ · with status := .completed }) else state).Synced config := by
      split
      · refine ⟨fun other copy member => ?_, fun galleryId => ?_⟩
        · exact (synced.held other copy member).modifyRow row.row fun _ => rfl
        · apply (synced.told galleryId).imp_right
          rintro ⟨other, unwritten⟩
          have different : row.row ≠ other := by
            rintro rfl
            exact unwritten.unwritten number written
          exact ⟨other, unwritten.modifyRow different _⟩
      · exact synced
    apply marked.setWorker
    · intro copy member
      have wasClaimed : copy ∈ (state.workers number).claimed := by
        rw [isClaimed]
        split at member
        · exact List.mem_cons_of_mem _ member
        · exact isClaimed ▸ member
      split
      · exact (synced.held number copy wasClaimed).modifyRow row.row fun _ => rfl
      · exact synced.held number copy wasClaimed
    · split <;> simp
  next => cases stepped

theorem step_synced {label : SyncLabel} (synced : state.Synced config)
    (current : state.WritesCurrent config label)
    (stepped : state.step config label = some next) : next.Synced config := by
  cases label with
  | putPerson personId person =>
    cases stepped
    exact changed_synced synced (state.db.putPerson_announced personId person)
  | deletePerson personId =>
    cases stepped
    exact changed_synced synced (state.db.deletePerson_announced personId)
  | putGallery =>
    rcases Option.map_eq_some_iff.mp stepped with ⟨_, put, rfl⟩
    exact changed_synced synced (state.db.putGallery_announced put)
  | deleteGallery =>
    rcases Option.map_eq_some_iff.mp stepped with ⟨_, deleted, rfl⟩
    exact changed_synced synced (state.db.deleteGallery_announced deleted)
  | wait =>
    cases stepped
    exact synced.marks ⟨rfl, rfl, rfl, fun _ entry found => ⟨entry, found, rfl, id⟩⟩
  | reclaim => exact reclaim_synced synced stepped
  | claim => exact claim_synced synced stepped
  | read => exact read_synced synced stepped
  | write => exact write_synced synced current stepped
  | complete => exact complete_synced synced stepped
  | fail => exact fail_synced synced stepped
  | crash =>
    cases stepped
    exact synced.setWorker (by simp) (by simp)

end Steps

theorem initial_synced (config : SyncConfig) : ({} : SyncState).Synced config where
  held _ _ member := by cases member
  told _ := Or.inl rfl

/-- Every row of the outbox is completed and nobody has one in hand. -/
structure Settled (state : SyncState) : Prop where
  completed : ∀ entry ∈ state.outbox, entry.status = .completed
  released : ∀ number, (state.workers number).claimed = []

theorem Synced.told_of_settled {config : SyncConfig} {state : SyncState}
    (synced : state.Synced config) (settled : state.Settled) (galleryId : Nat) :
    state.points.get galleryId = config.pointFor state.db galleryId := by
  rcases synced.told galleryId with told | ⟨row, ⟨entry, found, _, status⟩, _⟩
  · exact told
  · exact absurd (settled.completed entry (List.mem_of_getElem? found)) status

/-- The index holds the rows that are enrolled, as the database has them now. -/
def Converged (config : SyncConfig) (state : SyncState) : Prop :=
  ∀ galleryId point, state.points.get galleryId = some point ↔
    ∃ row person, state.db.Enrolled galleryId row person ∧
      point = config.pointOf galleryId (row, person)

theorem converged_of_told {config : SyncConfig} {state : SyncState}
    (told : ∀ galleryId, state.points.get galleryId = config.pointFor state.db galleryId) :
    state.Converged config := by
  intro galleryId point
  rw [told, SyncConfig.pointFor, Option.map_eq_some_iff]
  constructor
  · rintro ⟨source, isSource, rfl⟩
    exact ⟨source.1, source.2, state.db.sourceRow_eq_some.mp isSource, rfl⟩
  · rintro ⟨row, person, enrolled, rfl⟩
    exact ⟨(row, person), state.db.sourceRow_eq_some.mpr enrolled, rfl⟩

theorem run_synced {config : SyncConfig} {labels : List SyncLabel} {state final : SyncState}
    (synced : state.Synced config)
    (current : (syncMachine config).EachStep
      (fun state label _ => state.WritesCurrent config label) state labels)
    (ran : (syncMachine config).run state labels = some final) : final.Synced config :=
  current.keeps (fun _ _ _ => step_synced) synced ran

end SyncState

open SyncState

theorem gallery_converges_of_writesCurrent (config : SyncConfig) (labels : List SyncLabel)
    (state : SyncState) (ran : (syncMachine config).run {} labels = some state)
    (current : (syncMachine config).EachStep
      (fun state label _ => state.WritesCurrent config label) {} labels)
    (settled : state.Settled) : state.Converged config := by
  have synced := run_synced (initial_synced config) current ran
  exact converged_of_told (synced.told_of_settled settled)

section Example

def activePerson : Person := { name := "active", externalPersonId := none, isActive := true }

def portrait (isActive : Bool) : GalleryRow where
  personId := 1
  sourceType := some "manual_upload"
  embeddingModel := "adaface"
  modelVersion := none
  embedding := some []
  isPrimary := true
  isActive := isActive
  quality := none
  createdAt := none
  updatedAt := none

def syncDefaults : SyncConfig where
  processingTimeoutSeconds := 300
  batchSize := 500
  maxAttempts := 8
  isoformat _ := ""

/-- One worker carries out one row that tells the index to hold a point. -/
def upsertRow (row : Nat) : List SyncLabel :=
  [.claim 0 [row], .read 0 false, .write 0 .ok, .complete 0 .ok]

theorem gallery_converges_enrolled :
    ∃ state, (syncMachine syncDefaults).run {}
        ([.putPerson 1 activePerson, .putGallery 7 (portrait true)] ++ upsertRow 0) = some state ∧
      state.Settled ∧ state.Converged syncDefaults := by
  have settles : ∃ state, (syncMachine syncDefaults).run {}
      ([.putPerson 1 activePerson, .putGallery 7 (portrait true)] ++ upsertRow 0) = some state ∧
      state.Settled := ⟨_, rfl, by decide, fun number => by cases number <;> rfl⟩
  rcases settles with ⟨state, ran, settled⟩
  refine ⟨state, ran, settled, ?_⟩
  refine gallery_converges_of_writesCurrent syncDefaults _ state ran ?_ settled
  intro next stepped
  cases stepped
  refine ⟨trivial, fun next stepped => ?_⟩
  cases stepped
  refine ⟨trivial, fun next stepped => ?_⟩
  cases stepped
  refine ⟨trivial, fun next stepped => ?_⟩
  cases stepped
  refine ⟨trivial, fun next stepped => ?_⟩
  cases stepped
  refine ⟨?_, fun next stepped => ?_⟩
  · intro _ row point hand
    cases hand
    exact Or.inl rfl
  cases stepped
  exact ⟨trivial, trivial⟩

/-- The row is taken out of use while the index cannot be reached. By the time its
deletion is tried again it is in use again and in the index. -/
def retriedDeletion : List SyncLabel :=
  [.putPerson 1 activePerson, .putGallery 7 (portrait true)] ++ upsertRow 0 ++
    [.putGallery 7 (portrait false), .claim 0 [1], .write 0 (.raises false), .fail 0 .ok,
      .putGallery 7 (portrait true)] ++ upsertRow 2 ++
    [.wait 1, .claim 0 [1], .write 0 .ok, .complete 0 .ok]

theorem retriedDeletion_not_converged :
    ∃ state, (syncMachine syncDefaults).run {} retriedDeletion = some state ∧
      state.Settled ∧ ¬state.Converged syncDefaults := by
  refine ⟨_, rfl, ⟨by decide, fun number => by cases number <;> rfl⟩, ?_⟩
  intro converged
  have missing := (converged 7 (syncDefaults.pointOf 7 (portrait true, activePerson))).mpr
    ⟨portrait true, activePerson, ⟨rfl, rfl, rfl, rfl, rfl⟩, rfl⟩
  cases missing

end Example

end VideoAnalysis.Gallery
