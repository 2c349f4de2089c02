import VideoAnalysis.Foundation.Machine
import Mathlib.Logic.Function.Basic

/-! # The catalogs of the segment index and the threads that share them

The map of catalogs with its bound and counters, and the calls that look a catalog up,
refresh a copy of it and publish the copy. A step is what a thread does under one lock.
-/

namespace VideoAnalysis.RollingCache

open Foundation

/-- `(source_id, runtime_epoch_id)`. -/
abbrev CatalogKey := String × String

/-- What the counters count of a catalog. -/
structure CatalogSizes where
  entries : Int := 0
  pending : Int := 0
  generation : Int := 0

namespace CatalogSizes

instance : Add CatalogSizes where
  add first second :=
    ⟨first.entries + second.entries, first.pending + second.pending,
      first.generation + second.generation⟩

instance : Sub CatalogSizes where
  sub first second :=
    ⟨first.entries - second.entries, first.pending - second.pending,
      first.generation - second.generation⟩

end CatalogSizes

/-- A catalog with the owner and the depth of its `io_gate`. -/
structure SharedCatalog where
  key : CatalogKey := ("", "")
  version : Nat := 0
  sizes : CatalogSizes := {}
  gate : Option (Nat × Nat) := none

namespace SharedCatalog

def acquire (catalog : SharedCatalog) (thread : Nat) : Option SharedCatalog :=
  match catalog.gate with
  | none => some { catalog with gate := some (thread, 1) }
  | some (owner, depth) =>
    if owner = thread then some { catalog with gate := some (owner, depth + 1) } else none

def release (catalog : SharedCatalog) : SharedCatalog :=
  match catalog.gate with
  | some (owner, depth + 2) => { catalog with gate := some (owner, depth + 1) }
  | _ => { catalog with gate := none }

end SharedCatalog

/-- A call of the index. A pinning call looks its catalog up, holds its gate and calls
`find_segments` inside. -/
inductive IndexCall where
  | findSegments (key : CatalogKey) (pinning : Option Nat)
  | forceReconcile (key : CatalogKey) (attempts : Nat)
  | pinSourceSegments (key : CatalogKey)

def IndexCall.key : IndexCall → CatalogKey
  | .findSegments key _ | .forceReconcile key _ | .pinSourceSegments key => key

/-- Where a thread is in its call, with the catalog it has looked up. -/
inductive IndexStage where
  | idle
  | start (call : IndexCall)
  | evict (call : IndexCall) (catalog : Nat)
  | gate (call : IndexCall) (catalog : Nat)
  | copy (call : IndexCall) (catalog : Nat)
  | refresh (call : IndexCall) (catalog version : Nat)
  | publish (call : IndexCall) (catalog version : Nat) (sizes : CatalogSizes)
  | leave (call : IndexCall) (catalog : Nat)

/-- What the holder of the map lock has taken out of the map and not counted off. -/
inductive Victim where
  | none
  | popped (catalog : Nat)
  | read (catalog : Nat) (sizes : CatalogSizes)

structure IndexState where
  catalogs : Nat → SharedCatalog := fun _ => {}
  created : Nat := 0
  /-- `_catalogs`, the least recently used first. -/
  map : List (CatalogKey × Nat) := []
  /-- The thread that holds the map lock over its evictions. -/
  mapLock : Option Nat := none
  victim : Victim := .none
  catalogCount : Int := 0
  counted : CatalogSizes := {}
  stages : Nat → IndexStage := fun _ => .idle

/-- How a refresh of the copied catalog ends. -/
inductive RefreshOutcome where
  | unchanged
  | changed (sizes : CatalogSizes)
  | raises

inductive IndexLabel where
  | call (thread : Nat) (call : IndexCall)
  | lookup (thread : Nat)
  | pop (thread : Nat)
  | readSizes (thread : Nat)
  | subtract (thread : Nat)
  | unlock (thread : Nat)
  | acquire (thread : Nat)
  | copy (thread : Nat)
  | refresh (thread : Nat) (outcome : RefreshOutcome)
  | publish (thread : Nat)
  | leave (thread : Nat)

namespace IndexState

variable (state : IndexState) (thread : Nat)

def setStage (stage : IndexStage) : IndexState :=
  { state with stages := Function.update state.stages thread stage }

def setCatalog (state : IndexState) (index : Nat) (catalog : SharedCatalog) : IndexState :=
  { state with catalogs := Function.update state.catalogs index catalog }

/-- A call from outside; without a source or an epoch nothing is looked up. -/
def call (called : IndexCall) : Option IndexState :=
  match state.stages thread with
  | .idle =>
    match called with
    | .findSegments key none =>
      if key.1 = "" || key.2 = "" then some state
      else some (state.setStage thread (.start called))
    | .forceReconcile _ 0 | .pinSourceSegments _ =>
      some (state.setStage thread (.start called))
    | _ => none
  | _ => none

/-- `_get_or_create_catalog` up to its evictions. -/
def lookup : Option IndexState :=
  match state.stages thread, state.mapLock with
  | .start called, none =>
    match state.map.find? fun entry => entry.1 = called.key with
    | some entry =>
      some
        ({ state with map := state.map.erase entry ++ [entry] }.setStage thread
          (.gate called entry.2))
    | none =>
      some
        (({ state with
            map := state.map ++ [(called.key, state.created)]
            created := state.created + 1
            mapLock := some thread
            catalogCount := state.catalogCount + 1 }.setCatalog state.created
              { key := called.key }).setStage thread (.evict called state.created))
  | _, _ => none

/-- One turn of `_evict_catalogs`, in three steps. -/
def pop (maxCatalogs : Nat) (state : IndexState) (thread : Nat) : Option IndexState :=
  match state.map, state.victim with
  | entry :: rest, .none =>
    if state.mapLock = some thread ∧ maxCatalogs < state.map.length then
      some { state with map := rest, victim := .popped entry.2 }
    else none
  | _, _ => none

def readSizes : Option IndexState :=
  match state.victim with
  | .popped catalog =>
    if state.mapLock = some thread then
      some { state with victim := .read catalog (state.catalogs catalog).sizes }
    else none
  | _ => none

def subtract : Option IndexState :=
  match state.victim with
  | .read _ sizes =>
    if state.mapLock = some thread then
      some
        { state with
          victim := .none
          catalogCount := state.catalogCount - 1
          counted := state.counted - sizes }
    else none
  | _ => none

def unlock (maxCatalogs : Nat) (state : IndexState) (thread : Nat) : Option IndexState :=
  match state.stages thread, state.victim with
  | .evict called catalog, .none =>
    if state.mapLock = some thread ∧ state.map.length ≤ maxCatalogs then
      some ({ state with mapLock := none }.setStage thread (.gate called catalog))
    else none
  | _, _ => none

/-- `_catalog_singleflight`. Inside it a pinning call finds the segments of its key. -/
def acquire : Option IndexState :=
  match state.stages thread with
  | .gate called index =>
    match (state.catalogs index).acquire thread with
    | none => none
    | some catalog =>
      let held := state.setCatalog index catalog
      match called with
      | .pinSourceSegments key =>
        if key.1 = "" || key.2 = "" then some (held.setStage thread (.leave called index))
        else some (held.setStage thread (.start (.findSegments key (some index))))
      | _ => some (held.setStage thread (.copy called index))
  | _ => none

def copy : Option IndexState :=
  match state.stages thread with
  | .copy called index =>
    some (state.setStage thread (.refresh called index (state.catalogs index).version))
  | _ => none

/-- `_rebuild` or `_refresh` of the copy; a reconciliation always rebuilds. -/
def refresh (outcome : RefreshOutcome) : Option IndexState :=
  match state.stages thread with
  | .refresh called index version =>
    match outcome, called with
    | .unchanged, .forceReconcile _ _ => none
    | .unchanged, _ | .raises, _ => some (state.setStage thread (.leave called index))
    | .changed sizes, _ => some (state.setStage thread (.publish called index version sizes))
  | _ => none

/-- `_publish_catalog`; a reconciliation tries three times. -/
def publish : Option IndexState :=
  match state.stages thread with
  | .publish called index version sizes =>
    let catalog := state.catalogs index
    if catalog.version = version then
      some
        (({ state with counted := state.counted + (sizes - catalog.sizes) }.setCatalog index
          { catalog with sizes := sizes, version := version + 1 }).setStage thread
            (.leave called index))
    else
      match called with
      | .forceReconcile key attempts =>
        if attempts < 2 then
          some (state.setStage thread (.copy (.forceReconcile key (attempts + 1)) index))
        else some (state.setStage thread (.leave called index))
      | _ => some (state.setStage thread (.leave called index))
  | _ => none

/-- The gate is given back; after the inner call the pinning call leaves as well. -/
def leave : Option IndexState :=
  match state.stages thread with
  | .leave called index =>
    let released := state.setCatalog index (state.catalogs index).release
    match called with
    | .findSegments key (some pinning) =>
      some (released.setStage thread (.leave (.pinSourceSegments key) pinning))
    | _ => some (released.setStage thread .idle)
  | _ => none

def step (maxCatalogs : Nat) (state : IndexState) : IndexLabel → Option IndexState
  | .call thread called => state.call thread called
  | .lookup thread => state.lookup thread
  | .pop thread => state.pop maxCatalogs thread
  | .readSizes thread => state.readSizes thread
  | .subtract thread => state.subtract thread
  | .unlock thread => state.unlock maxCatalogs thread
  | .acquire thread => state.acquire thread
  | .copy thread => state.copy thread
  | .refresh thread outcome => state.refresh thread outcome
  | .publish thread => state.publish thread
  | .leave thread => state.leave thread

end IndexState

/-- `max_catalogs` is at least one. -/
def indexMachine (maxCatalogs : Int) : Machine IndexState IndexLabel where
  initial state := state = {}
  step := IndexState.step (max 1 maxCatalogs).toNat

end VideoAnalysis.RollingCache
