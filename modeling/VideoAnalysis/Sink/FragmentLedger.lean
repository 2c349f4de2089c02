import Mathlib.Data.List.Sort

/-! # The fragment ledger

`FragmentLedger` assigns queued frame rows to splitmux fragments and hands closed
fragments over for publication. Each method is its lock region followed by what
it does outside the lock.
-/

namespace VideoAnalysis.Sink

structure Fragment (Location : Type) where
  location : Location
  firstGstPts : Int
  deriving DecidableEq

structure QueuedRow (Row : Type) where
  rowId : Nat
  gstPts : Int
  row : Row
  deriving DecidableEq

/-- A fragment as it is handed over, its frame rows in queue order. -/
structure Publication (Location Row : Type) where
  fragment : Fragment Location
  queued : List (QueuedRow Row)
  eosRows : List Row
  deriving DecidableEq

/-- The fields behind the lock, and the publications handed over so far. -/
structure FragmentLedger (Location Row : Type) where
  byLocation : List (Location × Fragment Location)
  ordered : List (Fragment Location)
  queuedRows : List (QueuedRow Row)
  nextRowId : Nat
  eosRows : List Row
  pendingCloseLocations : List Location
  handed : List (Publication Location Row)

inductive LedgerError (Location : Type) where
  | unknownFragment (location : Location)
  | unorderedFragment (location : Location)
  | notAccepted (location : Location)
  deriving DecidableEq

/-- What the ledger takes from its surroundings: the iteration order of a set and
whether a publication handed over is accepted. -/
structure LedgerRuntime (Location Row : Type) where
  setOrder : List Location → List Location
  setOrder_perm : ∀ locations, (setOrder locations).Perm locations
  accepts : Publication Location Row → Bool

namespace FragmentLedger

variable {Location Row : Type} [DecidableEq Location]

def empty : FragmentLedger Location Row where
  byLocation := []
  ordered := []
  queuedRows := []
  nextRowId := 0
  eosRows := []
  pendingCloseLocations := []
  handed := []

/-- `dict[key] = value`: a known key keeps its place. -/
def dictSet {Value : Type} (key : Location) (value : Value) :
    List (Location × Value) → List (Location × Value)
  | [] => [(key, value)]
  | entry :: entries =>
    if entry.1 = key then (key, value) :: entries else entry :: dictSet key value entries

def dictPop {Value : Type} (key : Location) (entries : List (Location × Value)) :
    List (Location × Value) :=
  entries.filter fun entry => decide (entry.1 ≠ key)

def setAdd (item : Location) (items : List Location) : List Location :=
  if item ∈ items then items else items ++ [item]

/-! ## Lock regions -/

/-- The lock region of `open_fragment`. -/
def openLocked (ledger : FragmentLedger Location Row) (fragment : Fragment Location) :
    FragmentLedger Location Row :=
  { ledger with
    byLocation := dictSet fragment.location fragment ledger.byLocation
    ordered := ledger.ordered ++ [fragment] }

/-- The lock region of `record_eos`. -/
def recordEosLocked (ledger : FragmentLedger Location Row) (row : Row) :
    FragmentLedger Location Row :=
  { ledger with eosRows := ledger.eosRows ++ [row] }

def queueFrame (ledger : FragmentLedger Location Row) (gstPts : Int) (row : Row) :
    FragmentLedger Location Row :=
  { ledger with
    nextRowId := ledger.nextRowId + 1
    queuedRows := ledger.queuedRows ++ [{ rowId := ledger.nextRowId, gstPts, row }] }

def discardFrame (ledger : FragmentLedger Location Row) (rowId : Nat) :
    FragmentLedger Location Row :=
  { ledger with
    queuedRows := ledger.queuedRows.filter fun queued => decide (queued.rowId ≠ rowId) }

/-- `_ordered[index + 1]`, if there is one. -/
def nextFragment (ordered : List (Fragment Location)) (fragment : Fragment Location) :
    Option (Fragment Location) :=
  ordered[ordered.idxOf fragment + 1]?

def inRange (startPts : Int) (endPts : Option Int) (gstPts : Int) : Bool :=
  decide (startPts ≤ gstPts) && (match endPts with
    | some endPts => decide (gstPts < endPts)
    | none => true)

def publicationOf (ledger : FragmentLedger Location Row) (fragment : Fragment Location)
    (next : Option (Fragment Location)) : Publication Location Row where
  fragment := fragment
  queued := (ledger.queuedRows.filter fun queued =>
      inRange fragment.firstGstPts (next.map Fragment.firstGstPts) queued.gstPts).mergeSort
    fun first second => decide (first.rowId ≤ second.rowId)
  eosRows := if next.isNone = true then ledger.eosRows else []

def removeFragment (ledger : FragmentLedger Location Row) (fragment : Fragment Location)
    (next : Option (Fragment Location)) : FragmentLedger Location Row :=
  { ledger with
    byLocation := dictPop fragment.location ledger.byLocation
    ordered := ledger.ordered.erase fragment
    queuedRows := ledger.queuedRows.filter fun queued =>
      !inRange fragment.firstGstPts (next.map Fragment.firstGstPts) queued.gstPts
    eosRows := if next.isNone = true then [] else ledger.eosRows
    pendingCloseLocations :=
      ledger.pendingCloseLocations.filter fun pending => decide (pending ≠ fragment.location)
    handed := ledger.handed ++ [ledger.publicationOf fragment next] }

/-- The lock region of `close_fragment`. -/
def closeLocked (ledger : FragmentLedger Location Row) (location : Location) :
    Except (LedgerError Location)
      (FragmentLedger Location Row × Option (Publication Location Row)) :=
  match ledger.byLocation.lookup location with
  | none => .error (.unknownFragment location)
  | some fragment =>
    if fragment ∈ ledger.ordered then
      let next := nextFragment ledger.ordered fragment
      if next.isNone = true ∧ ledger.eosRows = [] then
        .ok ({ ledger with
          pendingCloseLocations := setAdd location ledger.pendingCloseLocations }, none)
      else .ok (ledger.removeFragment fragment next, some (ledger.publicationOf fragment next))
    else .error (.unorderedFragment location)

/-! ## Methods -/

variable (runtime : LedgerRuntime Location Row)

def closeFragment (ledger : FragmentLedger Location Row) (location : Location) :
    FragmentLedger Location Row × Option (LedgerError Location) :=
  match ledger.closeLocked location with
  | .error raised => (ledger, some raised)
  | .ok (next, none) => (next, none)
  | .ok (next, some publication) =>
    (next, if runtime.accepts publication = true then none else some (.notAccepted location))

/-- The loop over the deferred closes that a method copied under the lock. -/
def replayCloses (runtime : LedgerRuntime Location Row) :
    FragmentLedger Location Row → List Location →
      FragmentLedger Location Row × Option (LedgerError Location)
  | ledger, [] => (ledger, none)
  | ledger, location :: locations =>
    match ledger.closeFragment runtime location with
    | (next, none) => replayCloses runtime next locations
    | (next, some raised) => (next, some raised)

def openFragment (ledger : FragmentLedger Location Row) (fragment : Fragment Location) :
    FragmentLedger Location Row × Option (LedgerError Location) :=
  let opened := ledger.openLocked fragment
  replayCloses runtime opened (runtime.setOrder opened.pendingCloseLocations)

def recordEos (ledger : FragmentLedger Location Row) (row : Row) :
    FragmentLedger Location Row × Option (LedgerError Location) :=
  let recorded := ledger.recordEosLocked row
  replayCloses runtime recorded (runtime.setOrder recorded.pendingCloseLocations)

/-! ## Sessions of method calls -/

inductive Call (Location Row : Type) where
  | openFragment (fragment : Fragment Location)
  | queueFrame (gstPts : Int) (row : Row)
  | discardFrame (rowId : Nat)
  | closeFragment (location : Location)
  | recordEos (row : Row)

def call (ledger : FragmentLedger Location Row) : Call Location Row → FragmentLedger Location Row
  | .openFragment fragment => (ledger.openFragment runtime fragment).1
  | .queueFrame gstPts row => ledger.queueFrame gstPts row
  | .discardFrame rowId => ledger.discardFrame rowId
  | .closeFragment location => (ledger.closeFragment runtime location).1
  | .recordEos row => (ledger.recordEos runtime row).1

def runCalls (calls : List (Call Location Row)) : FragmentLedger Location Row :=
  calls.foldl (call runtime) empty

/-! ## Closing one fragment -/

/-- The two indexes of a ledger agree. -/
structure Indexed (ledger : FragmentLedger Location Row) : Prop where
  byLocation_eq : ledger.byLocation =
    ledger.ordered.map fun fragment => (fragment.location, fragment)
  distinct : (ledger.ordered.map Fragment.location).Nodup

variable {fragment : Fragment Location}

variable {fragments : List (Fragment Location)}

theorem lookup_pairs (distinct : (fragments.map Fragment.location).Nodup)
    (member : fragment ∈ fragments) :
    (fragments.map fun fragment => (fragment.location, fragment)).lookup fragment.location =
      some fragment := by
  induction fragments with
  | nil => cases member
  | cons head _ induction =>
    rw [List.map_cons, List.nodup_cons] at distinct
    rcases List.mem_cons.mp member with here | later
    · rw [here, List.map_cons, List.lookup_cons_self]
    · have other : fragment.location ≠ head.location := by
        intro same
        exact distinct.1 (same ▸ List.mem_map_of_mem later)
      have differs : (fragment.location == head.location) = false := by simpa using other
      rw [List.map_cons, List.lookup_cons, differs]
      exact induction distinct.2 later

theorem lookup_pairs_none {location : Location}
    (absent : location ∉ fragments.map Fragment.location) :
    (fragments.map fun fragment => (fragment.location, fragment)).lookup location = none := by
  induction fragments with
  | nil => rfl
  | cons head _ induction =>
    rw [List.map_cons, List.mem_cons, not_or] at absent
    have differs : (location == head.location) = false := by simpa using absent.1
    rw [List.map_cons, List.lookup_cons, differs]
    exact induction absent.2

theorem dictSet_pairs (fresh : fragment.location ∉ fragments.map Fragment.location) :
    dictSet fragment.location fragment
        (fragments.map fun fragment => (fragment.location, fragment)) =
      (fragments ++ [fragment]).map fun fragment => (fragment.location, fragment) := by
  induction fragments with
  | nil => rfl
  | cons head _ induction =>
    rw [List.map_cons, List.mem_cons, not_or] at fresh
    have other : head.location ≠ fragment.location := fun same => fresh.1 same.symm
    rw [List.map_cons, dictSet, if_neg other, induction fresh.2]
    rfl

variable {before after : List (Fragment Location)}

theorem nextFragment_split (absent : fragment ∉ before) :
    nextFragment (before ++ fragment :: after) fragment = after.head? := by
  rw [nextFragment, List.idxOf_append_of_notMem absent, List.idxOf_cons_self, Nat.add_zero,
    List.getElem?_append_right (by omega)]
  have offset : before.length + 1 - before.length = 1 := by omega
  rw [offset, List.getElem?_cons_succ, List.head?_eq_getElem?]

variable {ledger : FragmentLedger Location Row}

theorem closeLocked_split (indexed : ledger.Indexed)
    (split : ledger.ordered = before ++ fragment :: after) :
    ledger.closeLocked fragment.location =
      if after = [] ∧ ledger.eosRows = [] then
        .ok ({ ledger with
          pendingCloseLocations := setAdd fragment.location ledger.pendingCloseLocations }, none)
      else .ok (ledger.removeFragment fragment after.head?,
        some (ledger.publicationOf fragment after.head?)) := by
  have member : fragment ∈ ledger.ordered := by
    rw [split]
    exact List.mem_append_right _ List.mem_cons_self
  have absent : fragment ∉ before := by
    have nodup := indexed.distinct.of_map
    rw [split, List.nodup_append] at nodup
    intro inside
    exact nodup.2.2 fragment inside fragment List.mem_cons_self rfl
  have found : ledger.byLocation.lookup fragment.location = some fragment := by
    rw [indexed.byLocation_eq]
    exact lookup_pairs indexed.distinct member
  have next : nextFragment ledger.ordered fragment = after.head? := by
    rw [split]
    exact nextFragment_split absent
  have noneIff : after.head?.isNone = true ↔ after = [] := by
    rw [Option.isNone_iff_eq_none, List.head?_eq_none_iff]
  simp only [closeLocked, found, if_pos member, next, noneIff]

omit [DecidableEq Location] in
theorem Indexed.apart (indexed : ledger.Indexed)
    (split : ledger.ordered = before ++ fragment :: after) :
    ∀ other ∈ before ++ after, other.location ≠ fragment.location := by
  intro other member same
  have distinct := indexed.distinct
  rw [split, List.map_append, List.map_cons] at distinct
  have perm : (before.map Fragment.location ++
      fragment.location :: after.map Fragment.location).Perm
      (fragment.location :: (before ++ after).map Fragment.location) := by
    rw [List.map_append]
    exact List.perm_middle
  have fresh := List.nodup_cons.mp (perm.nodup_iff.mp distinct)
  exact fresh.1 (same ▸ List.mem_map_of_mem member)

theorem Indexed.removeFragment (indexed : ledger.Indexed)
    (split : ledger.ordered = before ++ fragment :: after) (next : Option (Fragment Location)) :
    (ledger.removeFragment fragment next).ordered = before ++ after ∧
      (ledger.removeFragment fragment next).Indexed := by
  have others := indexed.apart split
  have distinct := indexed.distinct
  have absent : fragment ∉ before := by
    intro inside
    exact others fragment (List.mem_append_left _ inside) rfl
  have orderedEq : (ledger.removeFragment fragment next).ordered = before ++ after := by
    simp only [FragmentLedger.removeFragment, split]
    rw [List.erase_append_right _ absent, List.erase_cons_head]
  refine ⟨orderedEq, ?_, ?_⟩
  · have kept : ∀ part : List (Fragment Location), (∀ other ∈ part, other ∈ before ++ after) →
        dictPop fragment.location (part.map fun fragment => (fragment.location, fragment)) =
          part.map fun fragment => (fragment.location, fragment) := by
      intro part inside
      rw [dictPop, List.filter_eq_self]
      intro entry member
      rcases List.mem_map.mp member with ⟨other, inPart, rfl⟩
      simpa using others other (inside other inPart)
    have cut : dictPop fragment.location ledger.byLocation =
        dictPop fragment.location (before.map fun fragment => (fragment.location, fragment)) ++
          dictPop fragment.location
            (after.map fun fragment => (fragment.location, fragment)) := by
      rw [indexed.byLocation_eq, split, dictPop, List.map_append, List.map_cons,
        List.filter_append, List.filter_cons]
      simp [dictPop]
    rw [orderedEq, List.map_append]
    change dictPop fragment.location ledger.byLocation = _
    rw [cut, kept before (fun other member => List.mem_append_left _ member),
      kept after (fun other member => List.mem_append_right _ member)]
  · rw [orderedEq]
    rw [split] at distinct
    exact distinct.sublist (List.Sublist.map _
      (List.Sublist.append_left (List.sublist_cons_self fragment after) before))

end FragmentLedger

end VideoAnalysis.Sink
