import VideoAnalysis.Foundation.Machine
import VideoAnalysis.Sink.FragmentLedger

/-! # The ledger under its three threads

The streaming thread opens fragments, the bus thread reports closed ones, and the
control thread records the end of the stream inside `finish`. Each lock region is
one step, and so is each submission outside the lock.
-/

namespace VideoAnalysis.Sink

open Foundation FragmentLedger

variable {Location Row : Type}

inductive SinkThread where
  | streaming | bus | control
  deriving DecidableEq

/-- Where a thread stands inside a ledger call. -/
inductive ThreadPhase (Location Row : Type) where
  | idle
  | replaying (rest : List Location)
  | submitting (publication : Publication Location Row) (rest : List Location)
  | raised (error : LedgerError Location)
  deriving DecidableEq

namespace ThreadPhase

def isIdle : ThreadPhase Location Row → Bool
  | .idle => true
  | _ => false

def isRaised : ThreadPhase Location Row → Bool
  | .raised _ => true
  | _ => false

def unreplayed : ThreadPhase Location Row → List Location
  | .replaying rest => rest
  | .submitting _ rest => rest
  | _ => []

/-- An upper bound on the steps left in the call. -/
def remaining : ThreadPhase Location Row → Nat
  | .replaying rest => 2 * rest.length + 1
  | .submitting _ rest => 2 * rest.length + 2
  | _ => 0

end ThreadPhase

/-- The ledger, the three threads, and what the pipeline has opened and reported
as closed so far. -/
structure SinkState (Location Row : Type) where
  ledger : FragmentLedger Location Row
  streaming : ThreadPhase Location Row
  bus : ThreadPhase Location Row
  control : ThreadPhase Location Row
  opened : List (Fragment Location)
  reported : List Location
  eosRecorded : Bool

namespace SinkState

def phase (state : SinkState Location Row) : SinkThread → ThreadPhase Location Row
  | .streaming => state.streaming
  | .bus => state.bus
  | .control => state.control

def setPhase (state : SinkState Location Row) (thread : SinkThread)
    (phase : ThreadPhase Location Row) : SinkState Location Row :=
  match thread with
  | .streaming => { state with streaming := phase }
  | .bus => { state with bus := phase }
  | .control => { state with control := phase }

end SinkState

inductive SinkLabel (Location Row : Type) where
  | openFragment (fragment : Fragment Location) (copied : List Location)
  | fragmentClosed (location : Location)
  | recordEos (row : Row) (copied : List Location)
  | replay (thread : SinkThread)
  | submit (thread : SinkThread) (accepted : Bool)
  | finishCall (thread : SinkThread)
  | queueFrame (gstPts : Int) (row : Row)
  | discardFrame (rowId : Nat)

variable [DecidableEq Location]

/-- The lock region of `close_fragment` in a thread that has the rest still to
replay. -/
def afterClose (state : SinkState Location Row) (thread : SinkThread) (location : Location)
    (rest : List Location) : SinkState Location Row :=
  match state.ledger.closeLocked location with
  | .error raised => state.setPhase thread (.raised raised)
  | .ok (ledger, none) => { state with ledger }.setPhase thread (.replaying rest)
  | .ok (ledger, some publication) =>
    { state with ledger }.setPhase thread (.submitting publication rest)

/-- The pipeline opens each location once and reports an opened one closed once. -/
def sinkStep (state : SinkState Location Row) :
    SinkLabel Location Row → Option (SinkState Location Row)
  | .openFragment fragment copied =>
    if state.streaming.isIdle = true ∧
        fragment.location ∉ state.opened.map Fragment.location ∧
        copied.Perm state.ledger.pendingCloseLocations then
      some { state with
        ledger := state.ledger.openLocked fragment
        streaming := .replaying copied
        opened := state.opened ++ [fragment] }
    else none
  | .fragmentClosed location =>
    if state.bus.isIdle = true ∧ location ∈ state.opened.map Fragment.location ∧
        location ∉ state.reported then
      some (afterClose { state with reported := state.reported ++ [location] } .bus location [])
    else none
  | .recordEos row copied =>
    if state.control.isIdle = true ∧ state.eosRecorded = false ∧
        copied.Perm state.ledger.pendingCloseLocations then
      some { state with
        ledger := state.ledger.recordEosLocked row
        control := .replaying copied
        eosRecorded := true }
    else none
  | .replay thread =>
    match state.phase thread with
    | .replaying (location :: rest) => some (afterClose state thread location rest)
    | _ => none
  | .submit thread accepted =>
    match state.phase thread with
    | .submitting publication rest =>
      some (state.setPhase thread (if accepted = true then .replaying rest
        else .raised (.notAccepted publication.fragment.location)))
    | _ => none
  | .finishCall thread =>
    match state.phase thread with
    | .replaying [] => some (state.setPhase thread .idle)
    | _ => none
  | .queueFrame gstPts row => some { state with ledger := state.ledger.queueFrame gstPts row }
  | .discardFrame rowId => some { state with ledger := state.ledger.discardFrame rowId }

def initialSink : SinkState Location Row where
  ledger := empty
  streaming := .idle
  bus := .idle
  control := .idle
  opened := []
  reported := []
  eosRecorded := false

def sinkMachine : Machine (SinkState Location Row) (SinkLabel Location Row) where
  initial state := state = initialSink
  step := sinkStep

def SinkLabel.refused : SinkLabel Location Row → Bool
  | .submit _ accepted => !accepted
  | _ => false

/-- What the other replaying thread has copied and not replayed yet, for a step
that copies the deferred closes. -/
def SinkState.copiedElsewhere (state : SinkState Location Row) :
    SinkLabel Location Row → List Location
  | .openFragment _ _ => state.control.unreplayed
  | .recordEos _ _ => state.streaming.unreplayed
  | _ => []

/-- A region that copies the deferred closes runs when the other thread has none
of them left to replay, and submissions are accepted. -/
def Undisturbed (state : SinkState Location Row) (label : SinkLabel Location Row) : Prop :=
  (∀ location ∈ state.ledger.pendingCloseLocations,
    location ∉ state.copiedElsewhere label) ∧ label.refused = false

instance (state : SinkState Location Row) (label : SinkLabel Location Row) :
    Decidable (Undisturbed state label) := by
  unfold Undisturbed
  infer_instance

/-! ## The books of the ledger -/

variable {ledger : FragmentLedger Location Row}

theorem closeLocked_cases (indexed : ledger.Indexed) (location : Location) :
    (location ∉ ledger.ordered.map Fragment.location ∧
      ledger.closeLocked location = .error (.unknownFragment location)) ∨
    ∃ before after fragment, ledger.ordered = before ++ fragment :: after ∧
      fragment.location = location ∧
      (ledger.closeLocked location = .ok ({ ledger with
          pendingCloseLocations := setAdd location ledger.pendingCloseLocations }, none) ∨
        ledger.closeLocked location = .ok (ledger.removeFragment fragment after.head?,
          some (ledger.publicationOf fragment after.head?))) := by
  by_cases known : location ∈ ledger.ordered.map Fragment.location
  · right
    rcases List.mem_map.mp known with ⟨fragment, inOrdered, rfl⟩
    rcases List.append_of_mem inOrdered with ⟨before, after, split⟩
    refine ⟨before, after, fragment, split, rfl, ?_⟩
    rw [closeLocked_split indexed split]
    split
    · exact .inl rfl
    · exact .inr rfl
  · left
    refine ⟨known, ?_⟩
    have unknown : ledger.byLocation.lookup location = none := by
      rw [indexed.byLocation_eq]
      exact lookup_pairs_none known
    simp only [closeLocked, unknown]

/-- Each opened fragment is in the ledger or was handed over, and only once. -/
structure Books (opened : List (Fragment Location)) (ledger : FragmentLedger Location Row) :
    Prop where
  indexed : ledger.Indexed
  distinct : (opened.map Fragment.location).Nodup
  accounted : (ledger.ordered ++ ledger.handed.map Publication.fragment).Perm opened

variable {opened : List (Fragment Location)}

omit [DecidableEq Location] in
theorem Books.handed_nodup (books : Books opened ledger) :
    ((ledger.handed.map Publication.fragment).map Fragment.location).Nodup := by
  have whole := (books.accounted.map Fragment.location).nodup_iff.mpr books.distinct
  rw [List.map_append] at whole
  exact (List.nodup_append.mp whole).2.1

variable {fragment : Fragment Location}

theorem Books.openLocked
    (books : Books opened ledger) (fresh : fragment.location ∉ opened.map Fragment.location) :
    Books (opened ++ [fragment]) (ledger.openLocked fragment) := by
  have freshHere : fragment.location ∉ ledger.ordered.map Fragment.location := by
    intro member
    apply fresh
    rw [← (books.accounted.map Fragment.location).mem_iff, List.map_append]
    exact List.mem_append_left _ member
  refine { indexed := ⟨?_, ?_⟩, distinct := ?_, accounted := ?_ }
  · simp only [FragmentLedger.openLocked]
    rw [books.indexed.byLocation_eq, dictSet_pairs freshHere]
  · simp only [FragmentLedger.openLocked, List.map_append, List.map_cons, List.map_nil]
    rw [← List.concat_eq_append, List.nodup_concat]
    exact ⟨freshHere, books.indexed.distinct⟩
  · rw [List.map_append, List.map_cons, List.map_nil, ← List.concat_eq_append,
      List.nodup_concat]
    exact ⟨fresh, books.distinct⟩
  · simp only [FragmentLedger.openLocked]
    rw [List.append_assoc, List.singleton_append]
    exact List.perm_middle.trans ((books.accounted.cons fragment).trans
      (List.perm_append_singleton fragment opened).symm)

theorem Books.removeFragment {before after : List (Fragment Location)}
    (books : Books opened ledger) (split : ledger.ordered = before ++ fragment :: after)
    (next : Option (Fragment Location)) :
    Books opened (ledger.removeFragment fragment next) := by
  rcases books.indexed.removeFragment split next with ⟨orderedEq, indexed⟩
  refine { indexed, distinct := books.distinct, accounted := ?_ }
  have handedEq : (ledger.removeFragment fragment next).handed.map Publication.fragment =
      ledger.handed.map Publication.fragment ++ [fragment] := by
    simp [FragmentLedger.removeFragment, publicationOf]
  have accounted := books.accounted
  rw [split, List.append_assoc, List.cons_append] at accounted
  have regrouped : (before ++ after ++ (ledger.handed.map Publication.fragment ++
      [fragment])).Perm (before ++ fragment :: (after ++
        ledger.handed.map Publication.fragment)) := by
    rw [← List.append_assoc, List.append_assoc before]
    exact (List.perm_append_singleton fragment _).trans List.perm_middle.symm
  rw [orderedEq, handedEq]
  exact regrouped.trans accounted

theorem afterClose_books (state : SinkState Location Row)
    (books : Books state.opened state.ledger) (thread : SinkThread) (location : Location)
    (rest : List Location) :
    Books (afterClose state thread location rest).opened
      (afterClose state thread location rest).ledger := by
  rcases closeLocked_cases books.indexed location with ⟨_, unknown⟩ |
    ⟨before, after, fragment, split, _, deferred | handsOver⟩
  · simp only [afterClose, unknown]
    cases thread <;> exact books
  · have same : Books state.opened { state.ledger with
        pendingCloseLocations := setAdd location state.ledger.pendingCloseLocations } :=
      ⟨⟨books.indexed.byLocation_eq, books.indexed.distinct⟩, books.distinct, books.accounted⟩
    simp only [afterClose, deferred]
    cases thread <;> exact same
  · have removed := books.removeFragment split after.head?
    simp only [afterClose, handsOver]
    cases thread <;> exact removed

omit [DecidableEq Location] in
theorem setPhase_ledger (state : SinkState Location Row) (thread : SinkThread)
    (phase : ThreadPhase Location Row) :
    (state.setPhase thread phase).ledger = state.ledger ∧
      (state.setPhase thread phase).opened = state.opened ∧
      (state.setPhase thread phase).reported = state.reported := by
  cases thread <;> exact ⟨rfl, rfl, rfl⟩

variable {state next : SinkState Location Row}

variable {label : SinkLabel Location Row}

theorem sinkStep_books (books : Books state.opened state.ledger)
    (stepped : sinkStep state label = some next) :
    Books next.opened next.ledger := by
  cases label with
  | openFragment fragment copied =>
    simp only [sinkStep] at stepped
    split at stepped
    · rename_i guard
      cases stepped
      exact books.openLocked guard.2.1
    · cases stepped
  | fragmentClosed location =>
    simp only [sinkStep] at stepped
    split at stepped
    · cases stepped
      exact afterClose_books { state with reported := state.reported ++ [location] } books .bus location []
    · cases stepped
  | recordEos =>
    simp only [sinkStep] at stepped
    split at stepped
    · cases stepped
      exact ⟨⟨books.indexed.byLocation_eq, books.indexed.distinct⟩, books.distinct,
        books.accounted⟩
    · cases stepped
  | replay thread =>
    simp only [sinkStep] at stepped
    split at stepped
    · cases stepped
      exact afterClose_books state books thread _ _
    · cases stepped
  | submit thread | finishCall thread =>
    simp only [sinkStep] at stepped
    split at stepped
    · cases stepped
      rcases setPhase_ledger state thread _ with ⟨ledgerEq, openedEq, _⟩
      rw [ledgerEq, openedEq]
      exact books
    · cases stepped
  | queueFrame | discardFrame =>
    cases stepped
    exact ⟨⟨books.indexed.byLocation_eq, books.indexed.distinct⟩, books.distinct,
      books.accounted⟩

/-- Whatever the interleaving, no fragment is handed over twice. -/
theorem books_invariant : sinkMachine.Invariant
    fun state : SinkState Location Row => Books state.opened state.ledger where
  initially state initial := by
    rw [initial]
    exact ⟨⟨rfl, List.nodup_nil⟩, List.nodup_nil, List.Perm.refl _⟩
  preserved _ _ _ _ books stepped := sinkStep_books books stepped

/-! ## Threads that do not disturb each other -/

/-- Each copied close waits in one thread, and nobody has raised. -/
structure Orderly (state : SinkState Location Row) : Prop where
  books : Books state.opened state.ledger
  handedReported : ∀ publication ∈ state.ledger.handed,
    publication.fragment.location ∈ state.reported
  pendingNodup : state.ledger.pendingCloseLocations.Nodup
  pendingWaiting : ∀ location ∈ state.ledger.pendingCloseLocations,
    location ∈ state.reported ∧ location ∈ state.ledger.ordered.map Fragment.location
  copiedWaiting : ∀ location ∈ state.streaming.unreplayed ++ state.control.unreplayed,
    location ∈ state.reported ∧ location ∈ state.ledger.ordered.map Fragment.location
  copiedNodup : (state.streaming.unreplayed ++ state.control.unreplayed).Nodup
  busReplays : state.bus.unreplayed = []
  noneRaised : ∀ thread, (state.phase thread).isRaised = false

omit [DecidableEq Location] in
theorem setPhase_setPhase (state : SinkState Location Row) (thread : SinkThread)
    (first second : ThreadPhase Location Row) :
    (state.setPhase thread first).setPhase thread second = state.setPhase thread second := by
  cases thread <;> rfl

theorem afterClose_setPhase (state : SinkState Location Row) (thread : SinkThread)
    (phase : ThreadPhase Location Row) (location : Location) (rest : List Location) :
    afterClose (state.setPhase thread phase) thread location rest =
      afterClose state thread location rest := by
  have sameLedger := (setPhase_ledger state thread phase).1
  simp only [afterClose, sameLedger]
  cases state.ledger.closeLocked location with
  | error => exact setPhase_setPhase state thread _ _
  | ok result =>
    rcases result with ⟨_, publication⟩
    cases publication <;> cases thread <;> rfl

theorem setAdd_nodup {item : Location} {items : List Location} (nodup : items.Nodup) :
    (setAdd item items).Nodup := by
  rw [setAdd]
  split
  · exact nodup
  · rename_i absent
    rw [← List.concat_eq_append, List.nodup_concat]
    exact ⟨absent, nodup⟩

theorem mem_setAdd {item other : Location} {items : List Location} :
    other ∈ setAdd item items ↔ other ∈ items ∨ other = item := by
  rw [setAdd]
  split
  · rename_i present
    constructor
    · exact .inl
    · intro either
      rcases either with before | same
      · exact before
      · rw [same]
        exact present
  · rw [List.mem_append, List.mem_singleton]

omit [DecidableEq Location] in
theorem phase_setPhase (state : SinkState Location Row) (thread other : SinkThread)
    (phase : ThreadPhase Location Row) :
    (state.setPhase thread phase).phase other =
      if other = thread then phase else state.phase other := by
  cases thread <;> cases other <;> rfl

variable {thread : SinkThread}

omit [DecidableEq Location] in
theorem Orderly.setPhase {phase : ThreadPhase Location Row}
    (orderly : Orderly state) (same : phase.unreplayed = (state.phase thread).unreplayed)
    (notRaised : phase.isRaised = false) : Orderly (state.setPhase thread phase) := by
  have noneRaised : ∀ other, ((state.setPhase thread phase).phase other).isRaised = false := by
    intro other
    rw [phase_setPhase]
    split
    · exact notRaised
    · exact orderly.noneRaised other
  cases thread with
  | streaming =>
    have streamingEq : phase.unreplayed = state.streaming.unreplayed := same
    exact
      { orderly with
        copiedWaiting := by
          intro location member
          apply orderly.copiedWaiting
          rw [← streamingEq]
          exact member
        copiedNodup := by
          have nodup := orderly.copiedNodup
          rw [← streamingEq] at nodup
          exact nodup
        noneRaised }
  | bus =>
    have busEq : phase.unreplayed = state.bus.unreplayed := same
    exact { orderly with busReplays := busEq.trans orderly.busReplays, noneRaised }
  | control =>
    have controlEq : phase.unreplayed = state.control.unreplayed := same
    exact
      { orderly with
        copiedWaiting := by
          intro location member
          apply orderly.copiedWaiting
          rw [← controlEq]
          exact member
        copiedNodup := by
          have nodup := orderly.copiedNodup
          rw [← controlEq] at nodup
          exact nodup
        noneRaised }

variable {location : Location}

theorem Orderly.afterClose {state : SinkState Location Row} {rest : List Location}
    (orderly : Orderly state) (holds : (state.phase thread).unreplayed = rest)
    (reported : location ∈ state.reported)
    (waiting : location ∈ state.ledger.ordered.map Fragment.location)
    (alone : location ∉ state.streaming.unreplayed ++ state.control.unreplayed) :
    Orderly (afterClose state thread location rest) := by
  rcases closeLocked_cases orderly.books.indexed location with ⟨absent, _⟩ |
    ⟨before, after, fragment, split, same, deferred | handsOver⟩
  · exact absurd waiting absent
  · have moved : Orderly { state with
        ledger := { state.ledger with
          pendingCloseLocations :=
            setAdd location state.ledger.pendingCloseLocations } } :=
      { orderly with
        books := ⟨⟨orderly.books.indexed.byLocation_eq, orderly.books.indexed.distinct⟩,
          orderly.books.distinct, orderly.books.accounted⟩
        pendingNodup := setAdd_nodup orderly.pendingNodup
        pendingWaiting := by
          intro other member
          rcases mem_setAdd.mp member with before | here
          · exact orderly.pendingWaiting other before
          · rw [here]
            exact ⟨reported, waiting⟩ }
    simp only [Sink.afterClose, deferred]
    exact moved.setPhase holds.symm rfl
  · have orderedEq := (orderly.books.indexed.removeFragment split after.head?).1
    have stays : ∀ other, other ∈ state.ledger.ordered.map Fragment.location →
        other ≠ location →
        other ∈ (state.ledger.removeFragment fragment after.head?).ordered.map
          Fragment.location := by
      intro other member differs
      rw [split, List.map_append, List.map_cons] at member
      rw [orderedEq, List.map_append]
      rcases List.mem_append.mp member with inBefore | fromHere
      · exact List.mem_append_left _ inBefore
      · rcases List.mem_cons.mp fromHere with here | inAfter
        · exact absurd (here.trans same) differs
        · exact List.mem_append_right _ inAfter
    have moved : Orderly { state with
        ledger := state.ledger.removeFragment fragment after.head? } :=
      { orderly with
        books := orderly.books.removeFragment split after.head?
        handedReported := by
          intro publication member
          rcases List.mem_append.mp member with earlier | here
          · exact orderly.handedReported publication earlier
          · rw [List.mem_singleton.mp here]
            exact same ▸ reported
        pendingNodup := orderly.pendingNodup.filter _
        pendingWaiting := by
          intro other member
          rcases List.mem_filter.mp member with ⟨inPending, differs⟩
          rcases orderly.pendingWaiting other inPending with ⟨isReported, isWaiting⟩
          rw [decide_eq_true_eq, same] at differs
          exact ⟨isReported, stays other isWaiting differs⟩
        copiedWaiting := by
          intro other member
          rcases orderly.copiedWaiting other member with ⟨isReported, isWaiting⟩
          refine ⟨isReported, stays other isWaiting ?_⟩
          intro here
          rw [here] at member
          exact alone member }
    simp only [Sink.afterClose, handsOver]
    exact moved.setPhase holds.symm rfl

omit [DecidableEq Location] in
theorem Orderly.pop {rest : List Location}
    (orderly : Orderly state) (replays : state.phase thread = .replaying (location :: rest)) :
    Orderly (state.setPhase thread (.replaying rest)) ∧
      location ∈ state.reported ∧
      location ∈ state.ledger.ordered.map Fragment.location ∧
      location ∉ (state.setPhase thread (.replaying rest)).streaming.unreplayed ++
        (state.setPhase thread (.replaying rest)).control.unreplayed := by
  have noneRaised : ∀ other,
      ((state.setPhase thread (.replaying rest)).phase other).isRaised = false := by
    intro other
    rw [phase_setPhase]
    split
    · rfl
    · exact orderly.noneRaised other
  have copiedWaiting := orderly.copiedWaiting
  have copiedNodup := orderly.copiedNodup
  cases thread with
  | bus =>
    have busReplays := orderly.busReplays
    have phaseEq : state.bus = .replaying (location :: rest) := replays
    rw [phaseEq] at busReplays
    cases busReplays
  | streaming =>
    have phaseEq : state.streaming = .replaying (location :: rest) := replays
    have listEq : state.streaming.unreplayed = location :: rest := by
      rw [phaseEq]
      rfl
    rw [listEq, List.cons_append] at copiedWaiting copiedNodup
    rw [List.nodup_cons] at copiedNodup
    have mine := copiedWaiting location List.mem_cons_self
    refine ⟨?_, mine.1, mine.2, copiedNodup.1⟩
    exact
      { orderly with
        copiedWaiting := fun other member =>
          copiedWaiting other (List.mem_cons_of_mem _ member)
        copiedNodup := copiedNodup.2
        noneRaised }
  | control =>
    have phaseEq : state.control = .replaying (location :: rest) := replays
    have listEq : state.control.unreplayed = location :: rest := by
      rw [phaseEq]
      rfl
    have front : (state.streaming.unreplayed ++ location :: rest).Perm
        (location :: (state.streaming.unreplayed ++ rest)) := List.perm_middle
    rw [listEq] at copiedWaiting copiedNodup
    rw [front.nodup_iff, List.nodup_cons] at copiedNodup
    have mine := copiedWaiting location (front.mem_iff.mpr List.mem_cons_self)
    refine ⟨?_, mine.1, mine.2, copiedNodup.1⟩
    exact
      { orderly with
        copiedWaiting := fun other member =>
          copiedWaiting other (front.mem_iff.mpr (List.mem_cons_of_mem _ member))
        copiedNodup := copiedNodup.2
        noneRaised }

omit [DecidableEq Location] in
theorem unreplayed_of_isIdle {phase : ThreadPhase Location Row} (idle : phase.isIdle = true) :
    phase.unreplayed = [] := by
  cases phase with
  | idle => rfl
  | replaying | submitting | raised => cases idle

theorem Orderly.openFragment {copied : List Location}
    (orderly : Orderly state) (idle : state.streaming.isIdle = true)
    (fresh : fragment.location ∉ state.opened.map Fragment.location)
    (copies : copied.Perm state.ledger.pendingCloseLocations)
    (elsewhere : ∀ location ∈ state.ledger.pendingCloseLocations,
      location ∉ state.control.unreplayed) :
    Orderly { state with
      ledger := state.ledger.openLocked fragment
      streaming := .replaying copied
      opened := state.opened ++ [fragment] } := by
  have widened : ∀ location, location ∈ state.ledger.ordered.map Fragment.location →
      location ∈ (state.ledger.openLocked fragment).ordered.map Fragment.location := by
    intro location member
    simp only [FragmentLedger.openLocked, List.map_append]
    exact List.mem_append_left _ member
  refine
    { books := orderly.books.openLocked fresh
      handedReported := orderly.handedReported
      pendingNodup := orderly.pendingNodup
      pendingWaiting := ?_
      copiedWaiting := ?_
      copiedNodup := ?_
      busReplays := orderly.busReplays
      noneRaised := ?_ }
  · intro location member
    rcases orderly.pendingWaiting location member with ⟨reported, waiting⟩
    exact ⟨reported, widened location waiting⟩
  · intro location member
    rcases List.mem_append.mp member with mine | others
    · rcases orderly.pendingWaiting location (copies.mem_iff.mp mine) with ⟨reported, waiting⟩
      exact ⟨reported, widened location waiting⟩
    · rcases orderly.copiedWaiting location (List.mem_append_right _ others) with
        ⟨reported, waiting⟩
      exact ⟨reported, widened location waiting⟩
  · have nodup := orderly.copiedNodup
    rw [unreplayed_of_isIdle idle, List.nil_append] at nodup
    rw [List.nodup_append]
    refine ⟨copies.nodup_iff.mpr orderly.pendingNodup, nodup, ?_⟩
    intro location mine other others same
    rw [same] at mine
    exact elsewhere other (copies.mem_iff.mp mine) others
  · intro thread
    cases thread with
    | streaming => rfl
    | bus => exact orderly.noneRaised .bus
    | control => exact orderly.noneRaised .control

omit [DecidableEq Location] in
theorem Orderly.recordEos {row : Row} {copied : List Location} (orderly : Orderly state)
    (idle : state.control.isIdle = true)
    (copies : copied.Perm state.ledger.pendingCloseLocations)
    (elsewhere : ∀ location ∈ state.ledger.pendingCloseLocations,
      location ∉ state.streaming.unreplayed) :
    Orderly { state with
      ledger := state.ledger.recordEosLocked row
      control := .replaying copied
      eosRecorded := true } := by
  refine
    { books := ⟨⟨orderly.books.indexed.byLocation_eq, orderly.books.indexed.distinct⟩,
        orderly.books.distinct, orderly.books.accounted⟩
      handedReported := orderly.handedReported
      pendingNodup := orderly.pendingNodup
      pendingWaiting := orderly.pendingWaiting
      copiedWaiting := ?_
      copiedNodup := ?_
      busReplays := orderly.busReplays
      noneRaised := ?_ }
  · intro location member
    rcases List.mem_append.mp member with others | mine
    · exact orderly.copiedWaiting location (List.mem_append_left _ others)
    · exact orderly.pendingWaiting location (copies.mem_iff.mp mine)
  · have nodup := orderly.copiedNodup
    rw [unreplayed_of_isIdle idle, List.append_nil] at nodup
    rw [List.nodup_append]
    refine ⟨nodup, copies.nodup_iff.mpr orderly.pendingNodup, ?_⟩
    intro location others other mine same
    rw [← same] at mine
    exact elsewhere location (copies.mem_iff.mp mine) others
  · intro thread
    cases thread with
    | streaming => exact orderly.noneRaised .streaming
    | bus => exact orderly.noneRaised .bus
    | control => rfl

theorem Orderly.fragmentClosed (orderly : Orderly state)
    (idle : state.bus.isIdle = true) (opened : location ∈ state.opened.map Fragment.location)
    (unreported : location ∉ state.reported) :
    Orderly (Sink.afterClose { state with reported := state.reported ++ [location] } .bus
      location []) := by
  have waiting : location ∈ state.ledger.ordered.map Fragment.location := by
    rw [← (orderly.books.accounted.map Fragment.location).mem_iff, List.map_append] at opened
    rcases List.mem_append.mp opened with here | handed
    · exact here
    · rcases List.mem_map.mp handed with ⟨_, inHanded, same⟩
      rcases List.mem_map.mp inHanded with ⟨publication, member, isFragment⟩
      have reported := orderly.handedReported publication member
      rw [isFragment, same] at reported
      exact absurd reported unreported
  have widened : Orderly { state with reported := state.reported ++ [location] } :=
    { orderly with
      handedReported := fun publication member =>
        List.mem_append_left _ (orderly.handedReported publication member)
      pendingWaiting := by
        intro other member
        rcases orderly.pendingWaiting other member with ⟨reported, isWaiting⟩
        exact ⟨List.mem_append_left _ reported, isWaiting⟩
      copiedWaiting := by
        intro other member
        rcases orderly.copiedWaiting other member with ⟨reported, isWaiting⟩
        exact ⟨List.mem_append_left _ reported, isWaiting⟩
      noneRaised := by
        intro thread
        cases thread with
        | streaming => exact orderly.noneRaised .streaming
        | bus => exact orderly.noneRaised .bus
        | control => exact orderly.noneRaised .control }
  apply widened.afterClose
  · exact unreplayed_of_isIdle idle
  · exact List.mem_append_right _ List.mem_cons_self
  · exact waiting
  · intro copied
    exact unreported (orderly.copiedWaiting location copied).1

theorem undisturbed_step (orderly : Orderly state)
    (undisturbed : Undisturbed state label) (stepped : sinkStep state label = some next) :
    Orderly next := by
  rcases undisturbed with ⟨elsewhere, accepted⟩
  cases label with
  | openFragment fragment copied =>
    simp only [sinkStep] at stepped
    split at stepped
    · rename_i guard
      cases stepped
      exact orderly.openFragment guard.1 guard.2.1 guard.2.2 elsewhere
    · cases stepped
  | fragmentClosed location =>
    simp only [sinkStep] at stepped
    split at stepped
    · rename_i guard
      cases stepped
      exact orderly.fragmentClosed guard.1 guard.2.1 guard.2.2
    · cases stepped
  | recordEos row copied =>
    simp only [sinkStep] at stepped
    split at stepped
    · rename_i guard
      cases stepped
      exact orderly.recordEos guard.1 guard.2.2 elsewhere
    · cases stepped
  | replay thread =>
    simp only [sinkStep] at stepped
    split at stepped
    · rename_i location rest replays
      cases stepped
      rcases orderly.pop replays with ⟨popped, reported, waiting, alone⟩
      rcases setPhase_ledger state thread (.replaying rest) with ⟨ledgerEq, _, reportedEq⟩
      rw [← afterClose_setPhase state thread (.replaying rest)]
      apply popped.afterClose
      · rw [phase_setPhase, if_pos rfl]
        rfl
      · rw [reportedEq]
        exact reported
      · rw [ledgerEq]
        exact waiting
      · exact alone
    · cases stepped
  | submit thread isAccepted =>
    simp only [sinkStep] at stepped
    split at stepped
    · rename_i publication rest submits
      cases stepped
      have yes : isAccepted = true := by simpa [SinkLabel.refused] using accepted
      rw [if_pos yes]
      apply orderly.setPhase
      · rw [submits]
        rfl
      · rfl
    · cases stepped
  | finishCall thread =>
    simp only [sinkStep] at stepped
    split at stepped
    · rename_i replays
      cases stepped
      apply orderly.setPhase
      · rw [replays]
        rfl
      · rfl
    · cases stepped
  | queueFrame | discardFrame =>
    cases stepped
    exact
      { orderly with
        books := ⟨⟨orderly.books.indexed.byLocation_eq, orderly.books.indexed.distinct⟩,
          orderly.books.distinct, orderly.books.accounted⟩
        noneRaised := orderly.noneRaised }

theorem orderly_invariant :
    (sinkMachine.restrict Undisturbed).Invariant
      (Orderly : SinkState Location Row → Prop) where
  initially state initial := by
    rw [initial]
    exact
      { books := ⟨⟨rfl, List.nodup_nil⟩, List.nodup_nil, List.Perm.refl _⟩
        handedReported := fun publication member => absurd member List.not_mem_nil
        pendingNodup := List.nodup_nil
        pendingWaiting := fun location member => absurd member List.not_mem_nil
        copiedWaiting := fun location member => absurd member List.not_mem_nil
        copiedNodup := List.nodup_nil
        busReplays := rfl
        noneRaised := fun thread => by cases thread <;> rfl }
  preserved current label next _ orderly stepped := by
    rcases Machine.restrict_step_eq_some.mp stepped with ⟨undisturbed, plain⟩
    exact undisturbed_step orderly undisturbed plain

/-! ## The call of the control thread ends -/

/-- The steps of a thread inside its call. -/
def SinkLabel.advances (thread : SinkThread) : SinkLabel Location Row → Bool
  | .replay other => decide (other = thread)
  | .submit other _ => decide (other = thread)
  | .finishCall other => decide (other = thread)
  | _ => false

theorem afterClose_phase (state : SinkState Location Row) (thread other : SinkThread)
    (location : Location) (rest : List Location) :
    (other ≠ thread →
      (afterClose state thread location rest).phase other = state.phase other) ∧
      ((afterClose state thread location rest).phase thread).remaining ≤
        2 * rest.length + 2 := by
  simp only [afterClose]
  cases state.ledger.closeLocked location with
  | error =>
    simp only [phase_setPhase]
    refine ⟨fun differs => if_neg differs, ?_⟩
    rw [if_pos trivial]
    exact Nat.zero_le _
  | ok result =>
    rcases result with ⟨_, publication⟩
    cases publication with
    | none =>
      simp only [phase_setPhase]
      refine ⟨fun differs => (if_neg differs).trans (by cases other <;> rfl), ?_⟩
      rw [if_pos trivial]
      exact Nat.le_succ _
    | some =>
      simp only [phase_setPhase]
      refine ⟨fun differs => (if_neg differs).trans (by cases other <;> rfl), ?_⟩
      rw [if_pos trivial]
      exact Nat.le_refl _

/-- The call of one thread comes closer to its end, the other threads stay where they are. -/
def Approaches (thread : SinkThread) (state next : SinkState Location Row) : Prop :=
  (next.phase thread).remaining < (state.phase thread).remaining ∧
    ∀ other, other ≠ thread → next.phase other = state.phase other

theorem replay_phase (stepped : sinkStep state (.replay thread) = some next) :
    Approaches thread state next := by
  simp only [sinkStep] at stepped
  split at stepped
  · rename_i location rest replays
    cases stepped
    have bound := (afterClose_phase state thread thread location rest).2
    have before : (state.phase thread).remaining = 2 * (rest.length + 1) + 1 := by
      rw [replays]
      rfl
    exact ⟨by omega, fun other differs =>
      (afterClose_phase state thread other location rest).1 differs⟩
  · cases stepped

theorem submit_phase {accepted : Bool}
    (stepped : sinkStep state (.submit thread accepted) = some next) :
    Approaches thread state next := by
  simp only [sinkStep] at stepped
  split at stepped
  · rename_i publication rest submits
    cases stepped
    simp only [Approaches, phase_setPhase]
    refine ⟨?_, fun other differs => if_neg differs⟩
    rw [if_pos trivial, submits]
    cases accepted with
    | true => exact Nat.lt_succ_self _
    | false => exact Nat.succ_pos _
  · cases stepped

theorem finishCall_phase (stepped : sinkStep state (.finishCall thread) = some next) :
    Approaches thread state next := by
  simp only [sinkStep] at stepped
  split at stepped
  · rename_i replays
    cases stepped
    simp only [Approaches, phase_setPhase]
    refine ⟨?_, fun other differs => if_neg differs⟩
    rw [if_pos trivial, replays]
    exact Nat.succ_pos _
  · cases stepped

/-- A step either advances the call of the control thread, which brings its end
closer, or leaves the thread where it is. -/
theorem control_step (inCall : state.control.isIdle = false)
    (stepped : sinkStep state label = some next) :
    (label.advances .control = true ∧ next.control.remaining < state.control.remaining) ∨
      (label.advances .control = false ∧ next.control = state.control) := by
  have ofThread : ∀ thread : SinkThread, label.advances .control = decide (thread = .control) →
      Approaches thread state next →
      (label.advances .control = true ∧ next.control.remaining < state.control.remaining) ∨
        (label.advances .control = false ∧ next.control = state.control) := by
    intro thread advances moved
    by_cases mine : thread = .control
    · rw [mine] at advances moved
      exact .inl ⟨advances, moved.1⟩
    · rw [decide_eq_false mine] at advances
      exact .inr ⟨advances, moved.2 .control fun same => mine same.symm⟩
  cases label with
  | openFragment =>
    simp only [sinkStep] at stepped
    split at stepped
    · cases stepped
      exact .inr ⟨rfl, rfl⟩
    · cases stepped
  | fragmentClosed location =>
    simp only [sinkStep] at stepped
    split at stepped
    · cases stepped
      have differs : SinkThread.control ≠ .bus := by decide
      exact .inr ⟨rfl, (afterClose_phase _ .bus .control location []).1 differs⟩
    · cases stepped
  | recordEos row copied =>
    simp only [sinkStep] at stepped
    split at stepped
    · rename_i guard
      rw [inCall] at guard
      cases guard.1
    · cases stepped
  | replay thread => exact ofThread thread rfl (replay_phase stepped)
  | submit thread => exact ofThread thread rfl (submit_phase stepped)
  | finishCall thread => exact ofThread thread rfl (finishCall_phase stepped)
  | queueFrame | discardFrame =>
    cases stepped
    exact .inr ⟨rfl, rfl⟩

theorem control_advances (inCall : state.control.isIdle = false)
    (notRaised : state.control.isRaised = false) :
    ∃ label next, label.advances .control = true ∧ Undisturbed state label ∧
      sinkStep state label = some next := by
  have unrelated : ∀ label : SinkLabel Location Row, state.copiedElsewhere label = [] →
      label.refused = false → Undisturbed state label := by
    intro label nothing accepted
    refine ⟨fun location _ => ?_, accepted⟩
    rw [nothing]
    exact List.not_mem_nil
  cases phaseEq : state.control with
  | idle =>
    rw [phaseEq] at inCall
    cases inCall
  | raised =>
    rw [phaseEq] at notRaised
    cases notRaised
  | replaying rest =>
    have here : state.phase .control = .replaying rest := phaseEq
    cases rest with
    | nil =>
      refine ⟨.finishCall .control, state.setPhase .control .idle, rfl, unrelated _ rfl rfl, ?_⟩
      simp only [sinkStep, here]
    | cons location rest =>
      refine ⟨.replay .control, afterClose state .control location rest, rfl,
        unrelated _ rfl rfl, ?_⟩
      simp only [sinkStep, here]
  | submitting publication rest =>
    have here : state.phase .control = .submitting publication rest := phaseEq
    refine ⟨.submit .control true, state.setPhase .control (.replaying rest), rfl,
      unrelated _ rfl rfl, ?_⟩
    simp only [sinkStep, here, if_true]

/-- In every interleaving no fragment is submitted twice. While no thread copies
closes that the other one has left to replay and submissions are accepted, no
call raises, and the call of the control thread always has a next step, each of
which brings its end closer, until it reaches the cleanup. -/
theorem sink_threads_safe :
    (∀ state : SinkState Location Row, sinkMachine.Reachable state →
      (state.ledger.handed.map fun publication => publication.fragment.location).Nodup) ∧
    ∀ state : SinkState Location Row, (sinkMachine.restrict Undisturbed).Reachable state →
      (∀ thread, (state.phase thread).isRaised = false) ∧
      (state.control.isIdle = false →
        (∃ label next, label.advances .control = true ∧
          (sinkMachine.restrict Undisturbed).step state label = some next) ∧
        ∀ label next, (sinkMachine.restrict Undisturbed).step state label = some next →
          (label.advances .control = true ∧ next.control.remaining < state.control.remaining) ∨
          (label.advances .control = false ∧ next.control = state.control)) := by
  constructor
  · intro state reached
    have nodup := (books_invariant.holds reached).handed_nodup
    rw [List.map_map] at nodup
    exact nodup
  · intro state reached
    have orderly := orderly_invariant.holds reached
    refine ⟨orderly.noneRaised, fun inCall => ⟨?_, ?_⟩⟩
    · rcases control_advances inCall (orderly.noneRaised .control) with
        ⟨label, next, advances, undisturbed, stepped⟩
      exact ⟨label, next, advances, Machine.restrict_step_eq_some.mpr ⟨undisturbed, stepped⟩⟩
    · intro label next stepped
      exact control_step inCall (Machine.restrict_step_eq_some.mp stepped).2

/-- The streaming thread replays what it has copied before the control thread copies. -/
def replaysInTurn : List (SinkLabel Nat String) :=
  [.openFragment ⟨0, 0⟩ [], .finishCall .streaming, .fragmentClosed 0, .finishCall .bus,
    .openFragment ⟨1, 10⟩ [0], .replay .streaming, .submit .streaming true,
    .finishCall .streaming, .fragmentClosed 1, .finishCall .bus, .recordEos "eos" [1],
    .replay .control]

theorem replaysInTurn_safe : ∃ state,
    (sinkMachine.restrict Undisturbed).run initialSink replaysInTurn = some state ∧
      state.reported = [0, 1] ∧ (∀ thread, (state.phase thread).isRaised = false) ∧
      ∃ label next, label.advances .control = true ∧
        (sinkMachine.restrict Undisturbed).step state label = some next := by
  have facts : ((sinkMachine.restrict Undisturbed).run initialSink replaysInTurn).map
      (fun state => (state.reported, state.control.isIdle)) = some ([0, 1], false) := by
    decide
  rcases Option.map_eq_some_iff.mp facts with ⟨state, ran, shows⟩
  rw [Prod.mk.injEq] at shows
  have begins : (sinkMachine.restrict Undisturbed).Reachable (initialSink : SinkState Nat String) :=
    .start rfl
  have safe := sink_threads_safe.2 state (begins.run ran)
  exact ⟨state, ran, shows.1, safe.1, (safe.2 shows.2).1⟩

/-- Both threads copy the deferred close of fragment 0 before either replays it. -/
def doubleReplay : List (SinkLabel Nat String) :=
  [.openFragment ⟨0, 0⟩ [], .finishCall .streaming, .fragmentClosed 0, .finishCall .bus,
    .openFragment ⟨1, 10⟩ [0], .recordEos "eos" [0], .replay .streaming, .replay .control]

/-- `record_eos` raises for a location that was opened and closed once, so that
`finish` stops short of its cleanup. -/
theorem doubleReplay_raises : ∃ state,
    sinkMachine.run initialSink doubleReplay = some state ∧
      state.reported = [0] ∧ state.eosRecorded = true ∧
      state.control = .raised (.unknownFragment 0) := by
  refine ⟨_, rfl, ?_, ?_, ?_⟩ <;> decide

end VideoAnalysis.Sink
