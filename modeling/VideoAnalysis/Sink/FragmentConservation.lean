import Mathlib.Data.List.Induction
import VideoAnalysis.Sink.FragmentSession

/-! # Where the fragments and rows of a session end up

A session leaves nothing behind and puts each row into the fragment it belongs
to exactly when it drains last and its rows come in time.
-/

namespace VideoAnalysis.Sink.FragmentLedger

variable {Location Row : Type}

/-- The PTS lies between the start of the fragment and that of the next one. -/
def InRange (calls : List (Call Location Row)) (fragment : Fragment Location) (gstPts : Int) :
    Prop :=
  fragment.firstGstPts ≤ gstPts ∧ ∀ before next after,
    openedIn calls = before ++ fragment :: next :: after → gstPts < next.firstGstPts

/-- The call queues a row that no later call discards. -/
def QueuesRow (calls past : List (Call Location Row)) (queued : QueuedRow Row) : Prop :=
  ∃ rest, calls = past ++ .queueFrame queued.gstPts queued.row :: rest ∧
    queued.rowId = rowsQueued past ∧ .discardFrame queued.rowId ∉ rest

/-- Each row is queued before the fragment it belongs to is settled. -/
def RowsInTime (calls : List (Call Location Row)) : Prop :=
  ∀ past queued, QueuesRow calls past queued →
    ∀ fragment ∈ openedIn calls, InRange calls fragment queued.gstPts →
      ¬Settled past fragment.location

/-- No fragment is left, each was handed over once, and each row from the first
fragment on is in the one publication of the fragment it belongs to. -/
structure Conserves (calls : List (Call Location Row)) (final : FragmentLedger Location Row) :
    Prop where
  nonePending : final.byLocation = []
  handedOnce : (final.handed.map Publication.fragment).Perm (openedIn calls)
  rowPlaced : ∀ past queued, QueuesRow calls past queued →
    (∃ first, (openedIn calls).head? = some first ∧ first.firstGstPts ≤ queued.gstPts) →
      ∃ publication ∈ final.handed, InRange calls publication.fragment queued.gstPts ∧
        queued ∈ publication.queued ∧
        ((final.handed.flatMap Publication.queued).map QueuedRow.rowId).count queued.rowId = 1

variable [DecidableEq Location]

/-! ## Runs -/

variable (runtime : LedgerRuntime Location Row)

theorem runCalls_append (past : List (Call Location Row)) (made : Call Location Row) :
    runCalls runtime (past ++ [made]) = (runCalls runtime past).call runtime made := by
  rw [runCalls, List.foldl_append]
  rfl

variable {past rest : List (Call Location Row)}

omit [DecidableEq Location] in
theorem DrainsLast.of_append (drains : DrainsLast (past ++ rest)) : DrainsLast past := by
  intro earlier later split draining
  have whole := drains earlier (later ++ rest) (by rw [split, List.append_assoc]) draining
  rw [openedIn_append, closedIn_append, List.append_eq_nil_iff, List.append_eq_nil_iff] at whole
  exact ⟨whole.1.1, whole.2.1⟩

variable {ledger : FragmentLedger Location Row}

theorem Tracks.of_row_call (made : Call Location Row) (next : FragmentLedger Location Row)
    (tracks : Tracks past ledger) (sameOpened : openedIn [made] = [])
    (sameClosed : closedIn [made] = []) (sameEos : eosIn [made] = [])
    (sameByLocation : next.byLocation = ledger.byLocation)
    (sameOrdered : next.ordered = ledger.ordered) (sameHanded : next.handed = ledger.handed)
    (samePending : next.pendingCloseLocations = ledger.pendingCloseLocations)
    (sameRows : next.eosRows = ledger.eosRows) :
    Tracks (past ++ [made]) next ∧
      ∀ location, Settled (past ++ [made]) location ↔ Settled past location := by
  have openedEq : openedIn (past ++ [made]) = openedIn past := by
    rw [openedIn_append, sameOpened, List.append_nil]
  have closedEq : closedIn (past ++ [made]) = closedIn past := by
    rw [closedIn_append, sameClosed, List.append_nil]
  have eosEq : eosIn (past ++ [made]) = eosIn past := by
    rw [eosIn_append, sameEos, List.append_nil]
  have newestEq : lastOpened (past ++ [made]) = lastOpened past := by
    rw [lastOpened, openedEq]
    rfl
  have settledEq : ∀ location, Settled (past ++ [made]) location ↔ Settled past location := by
    intro location
    rw [Settled, Settled, closedEq, newestEq, eosEq]
  have drainingEq : Draining (past ++ [made]) ↔ Draining past := by
    rw [Draining, Draining, closedEq, newestEq, eosEq]
  refine ⟨{ snapshot := ?_, pending_eq := ?_, eos_eq := ?_ }, settledEq⟩
  · rw [openedEq]
    have same : Snapshot (openedIn past) (fun location => decide (Settled past location)) next :=
      { indexed := by
          constructor
          · rw [sameByLocation, sameOrdered]
            exact tracks.snapshot.indexed.byLocation_eq
          · rw [sameOrdered]
            exact tracks.snapshot.indexed.distinct
        ordered_eq := sameOrdered.trans tracks.snapshot.ordered_eq
        handed_perm := by
          rw [sameHanded]
          exact tracks.snapshot.handed_perm }
    apply same.congr
    intro other _
    simp only [settledEq]
  · rw [samePending, tracks.pending_eq, deferredIn, deferredIn, newestEq, closedEq, eosEq]
  · rw [drainingEq, eosEq, sameRows]
    exact tracks.eos_eq

theorem Tracks.empty : Tracks [] (empty : FragmentLedger Location Row) where
  snapshot :=
    { indexed := ⟨rfl, List.nodup_nil⟩
      ordered_eq := rfl
      handed_perm := List.Perm.refl _ }
  pending_eq := rfl
  eos_eq := ⟨fun _ => rfl, fun _ => rfl⟩

/-- The effect of one call while the session has not drained. -/
inductive CallEffect (past : List (Call Location Row)) (made : Call Location Row)
    (ledger next : FragmentLedger Location Row) : Prop where
  | fragments (sameQueued : rowsQueued [made] = 0) (settles : Settles past made ledger next)
  | queues (gstPts : Int) (row : Row) (madeEq : made = .queueFrame gstPts row)
      (nextEq : next = ledger.queueFrame gstPts row)
      (sameSettled : ∀ location, Settled (past ++ [made]) location ↔ Settled past location)
  | discards (rowId : Nat) (madeEq : made = .discardFrame rowId)
      (nextEq : next = ledger.discardFrame rowId)
      (sameSettled : ∀ location, Settled (past ++ [made]) location ↔ Settled past location)

variable {made : Call Location Row}

theorem call_step {calls : List (Call Location Row)} (session : CompleteSession calls)
    (split : calls = past ++ made :: rest) (drains : DrainsLast (past ++ [made]))
    (tracks : Tracks past ledger) :
    Tracks (past ++ [made]) (ledger.call runtime made) ∧
      CallEffect past made ledger (ledger.call runtime made) := by
  have valid := session.validPast split
  have nextSplit : calls = (past ++ [made]) ++ rest := by
    rw [split, List.append_assoc, List.singleton_append]
  have nextValid := session.validPast nextSplit
  cases made with
  | openFragment =>
    have notDraining : ¬Draining past := by
      intro draining
      have quiet := drains past _ rfl draining
      cases quiet.1
    rcases openFragment_step runtime tracks valid nextValid notDraining with
      ⟨nextTracks, settles⟩
    exact ⟨nextTracks, .fragments rfl settles⟩
  | closeFragment location =>
    have notDraining : ¬Draining past := by
      intro draining
      have quiet := drains past _ rfl draining
      cases quiet.2
    have isOpened := session.closedAfterOpen past location rest split
    rcases closeFragment_step runtime tracks nextValid isOpened notDraining with
      ⟨nextTracks, settles⟩
    exact ⟨nextTracks, .fragments rfl settles⟩
  | recordEos row =>
    have notDraining : ¬Draining past := by
      intro draining
      have fewEos := nextValid.fewEos
      rw [eosIn_append, List.length_append] at fewEos
      have some := List.length_pos_iff.mpr draining.1
      have one : (eosIn [(.recordEos row : Call Location Row)]).length = 1 := rfl
      omega
    rcases recordEos_step runtime tracks nextValid notDraining with
      ⟨nextTracks, settles⟩
    exact ⟨nextTracks, .fragments rfl settles⟩
  | queueFrame gstPts row =>
    rcases Tracks.of_row_call (.queueFrame gstPts row) (ledger.queueFrame gstPts row) tracks
      rfl rfl rfl rfl rfl rfl rfl rfl with
      ⟨nextTracks, sameSettled⟩
    exact ⟨nextTracks, .queues gstPts row rfl rfl sameSettled⟩
  | discardFrame rowId =>
    rcases Tracks.of_row_call (.discardFrame rowId) (ledger.discardFrame rowId) tracks
      rfl rfl rfl rfl rfl rfl rfl rfl with
      ⟨nextTracks, sameSettled⟩
    exact ⟨nextTracks, .discards rowId rfl rfl sameSettled⟩

theorem tracks_run {calls : List (Call Location Row)} (session : CompleteSession calls)
    (split : calls = past ++ rest) (drains : DrainsLast past) :
    Tracks past (runCalls runtime past) := by
  induction past using List.reverseRecOn generalizing rest with
  | nil => exact Tracks.empty
  | append_singleton past made induction =>
    have split' : calls = past ++ made :: rest := by
      rw [split, List.append_assoc, List.singleton_append]
    rw [runCalls_append]
    exact (call_step runtime session split' drains (induction split' drains.of_append)).1

/-! ## A ledger that is stuck -/

/-- The end of the stream is used up, and a fragment is left. -/
structure Stuck (opened : List (Fragment Location)) (ledger : FragmentLedger Location Row) :
    Prop where
  indexed : ledger.Indexed
  listed : ∀ fragment ∈ ledger.ordered, fragment ∈ opened
  remains : ledger.ordered ≠ []
  noEos : ledger.eosRows = []

variable {opened : List (Fragment Location)}

theorem closeFragment_stuck (stuck : Stuck opened ledger) (location : Location) :
    Stuck opened (ledger.closeFragment runtime location).1 := by
  by_cases known : location ∈ ledger.ordered.map Fragment.location
  · rcases List.mem_map.mp known with ⟨fragment, inOrdered, rfl⟩
    rcases List.append_of_mem inOrdered with ⟨before, after, split⟩
    by_cases openEnded : after = [] ∧ ledger.eosRows = []
    · rw [closeFragment_defers runtime stuck.indexed split openEnded]
      exact
        { indexed := ⟨stuck.indexed.byLocation_eq, stuck.indexed.distinct⟩
          listed := stuck.listed
          remains := stuck.remains
          noEos := stuck.noEos }
    · rw [closeFragment_hands_over runtime stuck.indexed split openEnded]
      have someAfter : after ≠ [] := fun empty => openEnded ⟨empty, stuck.noEos⟩
      rcases stuck.indexed.removeFragment split after.head? with ⟨orderedEq, indexed⟩
      rcases List.exists_cons_of_ne_nil someAfter with ⟨_, _, afterEq⟩
      refine { indexed, listed := ?_, remains := ?_, noEos := ?_ }
      · intro other member
        rw [orderedEq] at member
        apply stuck.listed
        rw [split]
        exact (List.Sublist.append_left (List.sublist_cons_self fragment after)
          before).subset member
      · rw [orderedEq, afterEq]
        exact List.append_ne_nil_of_right_ne_nil _ (List.cons_ne_nil _ _)
      · rw [afterEq]
        exact stuck.noEos
  · have unknown : ledger.byLocation.lookup location = none := by
      rw [stuck.indexed.byLocation_eq]
      exact lookup_pairs_none known
    simp only [closeFragment, closeLocked, unknown]
    exact stuck

theorem replayCloses_stuck (stuck : Stuck opened ledger) (locations : List Location) :
    Stuck opened (replayCloses runtime ledger locations).1 := by
  induction locations generalizing ledger with
  | nil => exact stuck
  | cons location _ induction =>
    have closed := closeFragment_stuck runtime stuck location
    simp only [replayCloses]
    cases result : ledger.closeFragment runtime location with
    | mk _ raised =>
      rw [result] at closed
      cases raised with
      | none => exact induction closed
      | some => exact closed

theorem openFragment_stuck {fragment : Fragment Location} (indexed : ledger.Indexed)
    (listed : ∀ other ∈ ledger.ordered, other ∈ opened) (noEos : ledger.eosRows = [])
    (fresh : fragment.location ∉ opened.map Fragment.location) :
    Stuck (opened ++ [fragment]) (ledger.openFragment runtime fragment).1 := by
  have freshHere : fragment.location ∉ ledger.ordered.map Fragment.location := by
    intro member
    exact fresh (List.map_subset _ listed member)
  have base : Stuck (opened ++ [fragment]) (ledger.openLocked fragment) := by
    refine { indexed := ⟨?_, ?_⟩, listed := ?_, remains := ?_, noEos := noEos }
    · simp only [openLocked]
      rw [indexed.byLocation_eq, dictSet_pairs freshHere]
    · simp only [openLocked, List.map_append, List.map_cons, List.map_nil]
      rw [List.nodup_append]
      refine ⟨indexed.distinct, List.nodup_singleton _, ?_⟩
      intro other member same sameEq otherEq
      rw [List.mem_singleton] at sameEq
      rw [otherEq, sameEq] at member
      exact freshHere member
    · intro other member
      rcases List.mem_append.mp member with before | here
      · exact List.mem_append_left _ (listed other before)
      · exact List.mem_append_right _ here
    · exact List.append_ne_nil_of_right_ne_nil _ (List.cons_ne_nil _ _)
  exact replayCloses_stuck runtime base _

theorem call_stuck (stuck : Stuck (openedIn past) ledger)
    (nextValid : ValidPast (past ++ [made])) (notEos : eosIn [made] = []) :
    Stuck (openedIn (past ++ [made])) (ledger.call runtime made) := by
  cases made with
  | openFragment =>
    rw [openedIn_append]
    apply openFragment_stuck runtime stuck.indexed stuck.listed stuck.noEos
    have distinct := nextValid.distinct
    rw [openedIn_append, List.map_append, List.nodup_append] at distinct
    intro member
    exact distinct.2.2 _ member _ List.mem_cons_self rfl
  | closeFragment location =>
    rw [openedIn_append]
    have closed := closeFragment_stuck runtime stuck location
    simpa [openedIn, call] using closed
  | recordEos => cases notEos
  | queueFrame gstPts row =>
    rw [openedIn_append]
    have same : Stuck (openedIn past) (ledger.queueFrame gstPts row) :=
      ⟨⟨stuck.indexed.byLocation_eq, stuck.indexed.distinct⟩, stuck.listed, stuck.remains,
        stuck.noEos⟩
    simpa [openedIn, call] using same
  | discardFrame rowId =>
    rw [openedIn_append]
    have same : Stuck (openedIn past) (ledger.discardFrame rowId) :=
      ⟨⟨stuck.indexed.byLocation_eq, stuck.indexed.distinct⟩, stuck.listed, stuck.remains,
        stuck.noEos⟩
    simpa [openedIn, call] using same

theorem stuck_run {calls : List (Call Location Row)} (session : CompleteSession calls)
    (split : calls = past ++ rest) (stuck : Stuck (openedIn past) (runCalls runtime past))
    (noEos : eosIn rest = []) : Stuck (openedIn calls) (runCalls runtime calls) := by
  induction rest generalizing past with
  | nil =>
    rw [split, List.append_nil]
    exact stuck
  | cons made rest induction =>
    have nextSplit : calls = (past ++ [made]) ++ rest := by
      rw [split, List.append_assoc, List.singleton_append]
    have parts : eosIn [made] = [] ∧ eosIn rest = [] := by
      rw [← List.append_eq_nil_iff, ← eosIn_append]
      exact noEos
    apply induction nextSplit _ parts.2
    rw [runCalls_append]
    exact call_stuck runtime stuck (session.validPast nextSplit) parts.1

omit [DecidableEq Location] in
theorem draining_of_undrained (drains : DrainsLast past)
    (undrained : ¬DrainsLast (past ++ [made])) :
    Draining past ∧ (openedIn [made] ≠ [] ∨ closedIn [made] ≠ []) := by
  by_contra calm
  apply undrained
  intro earlier later split draining
  rcases List.eq_nil_or_concat later with empty | ⟨middle, last, laterEq⟩
  · rw [empty]
    exact ⟨rfl, rfl⟩
  · rw [List.concat_eq_append] at laterEq
    rw [laterEq, ← List.append_assoc] at split
    rcases List.append_inj' split rfl with ⟨pastEq, lastEq⟩
    cases lastEq
    rcases drains earlier middle pastEq draining with ⟨noOpen, noClose⟩
    have newestEq : lastOpened past = lastOpened earlier := by
      rw [pastEq, lastOpened, openedIn_append, noOpen, List.append_nil]
      rfl
    have drainingPast : Draining past := by
      rcases draining with ⟨ended, fragment, newest, closed⟩
      refine ⟨?_, fragment, newestEq.trans newest, ?_⟩
      · rw [pastEq, eosIn_append]
        exact List.append_ne_nil_of_left_ne_nil ended _
      · rw [pastEq, closedIn_append]
        exact List.mem_append_left _ closed
    rw [laterEq, openedIn_append, closedIn_append, noOpen, noClose, List.nil_append,
      List.nil_append]
    by_contra some
    rw [not_and_or] at some
    exact calm ⟨drainingPast, some⟩

theorem stuck_of_not_drainsLast {calls : List (Call Location Row)}
    (session : CompleteSession calls) (split : calls = past ++ rest)
    (undrained : ¬DrainsLast past) :
    Stuck (openedIn calls) (runCalls runtime calls) := by
  induction past using List.reverseRecOn generalizing rest with
  | nil =>
    exfalso
    apply undrained
    intro earlier later splitNil _
    rw [(List.append_eq_nil_iff.mp splitNil.symm).2]
    exact ⟨rfl, rfl⟩
  | append_singleton past made induction =>
    have split' : calls = past ++ made :: rest := by
      rw [split, List.append_assoc, List.singleton_append]
    by_cases drains : DrainsLast past
    · rcases draining_of_undrained drains undrained with ⟨draining, about⟩
      have tracks := tracks_run runtime session split' drains
      have noEosRows := tracks.eos_eq.1 draining
      have listed : ∀ fragment ∈ (runCalls runtime past).ordered,
          fragment ∈ openedIn past := by
        intro fragment member
        rw [tracks.snapshot.ordered_eq] at member
        exact (List.mem_filter.mp member).1
      have nextValid := session.validPast split
      have noEosRest : eosIn rest = [] := by
        have oneEos := session.oneEos
        rw [split', eosIn_append, List.length_append, ← List.singleton_append, eosIn_append,
          List.length_append] at oneEos
        have some := List.length_pos_iff.mpr draining.1
        exact List.eq_nil_of_length_eq_zero (by omega)
      apply stuck_run runtime session split _ noEosRest
      rw [runCalls_append]
      cases made with
      | openFragment =>
        rw [openedIn_append]
        apply openFragment_stuck runtime tracks.snapshot.indexed listed noEosRows
        have distinct := nextValid.distinct
        rw [openedIn_append, List.map_append, List.nodup_append] at distinct
        intro member
        exact distinct.2.2 _ member _ List.mem_cons_self rfl
      | closeFragment location =>
        have notClosed : location ∉ closedIn past := by
          have closedNodup := nextValid.closedNodup
          rw [closedIn_append, List.nodup_append] at closedNodup
          intro closed
          exact closedNodup.2.2 _ closed _ List.mem_cons_self rfl
        have stuck : Stuck (openedIn past) (runCalls runtime past) := by
          refine ⟨tracks.snapshot.indexed, listed, ?_, noEosRows⟩
          rcases List.mem_map.mp (session.closedAfterOpen past location rest split') with
            ⟨fragment, inOpened, rfl⟩
          have inOrdered : fragment ∈ (runCalls runtime past).ordered := by
            rw [tracks.snapshot.ordered_eq, List.mem_filter]
            refine ⟨inOpened, ?_⟩
            simp only [Bool.not_eq_true', decide_eq_false_iff_not]
            intro settled
            exact notClosed settled.1
          exact List.ne_nil_of_mem inOrdered
        exact call_stuck runtime stuck nextValid rfl
      | recordEos | queueFrame | discardFrame =>
        exact (about.elim (fun some => some rfl) fun some => some rfl).elim
    · exact induction split' drains

section

variable {calls : List (Call Location Row)} (session : CompleteSession calls)

include calls session

omit [DecidableEq Location] in
theorem CompleteSession.settled {fragment : Fragment Location}
    (opened : fragment ∈ openedIn calls) : Settled calls fragment.location := by
  constructor
  · rw [session.closedOnce.mem_iff]
    exact List.mem_map_of_mem opened
  · right
    intro noEos
    have oneEos := session.oneEos
    rw [noEos] at oneEos
    cases oneEos

theorem nonePending_iff :
    (runCalls runtime calls).byLocation = [] ↔ DrainsLast calls := by
  constructor
  · intro nonePending
    by_contra undrained
    have stuck := stuck_of_not_drainsLast runtime session (List.append_nil calls).symm undrained
    apply stuck.remains
    rw [stuck.indexed.byLocation_eq] at nonePending
    exact List.map_eq_nil_iff.mp nonePending
  · intro drains
    have tracks := tracks_run runtime session (List.append_nil calls).symm drains
    rw [tracks.snapshot.indexed.byLocation_eq, tracks.snapshot.ordered_eq, List.map_eq_nil_iff,
      List.filter_eq_nil_iff]
    intro fragment opened
    simpa using session.settled opened

theorem handedOnce_of_drainsLast (drains : DrainsLast calls) :
    ((runCalls runtime calls).handed.map Publication.fragment).Perm (openedIn calls) := by
  have tracks := tracks_run runtime session (List.append_nil calls).symm drains
  have all : (openedIn calls).filter (fun fragment => decide (Settled calls fragment.location)) =
      openedIn calls := by
    rw [List.filter_eq_self]
    intro fragment opened
    exact decide_eq_true (session.settled opened)
  have handed := tracks.snapshot.handed_perm
  rw [all] at handed
  exact handed

end

/-! ## The fragment a row belongs to -/

section Owner

variable {calls : List (Call Location Row)}
  (increasing : (openedIn calls).Pairwise fun first second =>
    first.firstGstPts < second.firstGstPts)

include increasing

omit [DecidableEq Location] in
theorem inRange_iff {fragment : Fragment Location} (opened : fragment ∈ openedIn calls)
    (gstPts : Int) :
    InRange calls fragment gstPts ↔ fragment.firstGstPts ≤ gstPts ∧
      ∀ other ∈ openedIn calls, fragment.firstGstPts < other.firstGstPts →
        gstPts < other.firstGstPts := by
  rw [InRange]
  apply and_congr_right
  intro _
  rcases List.append_of_mem opened with ⟨before, after, split⟩
  have ordered := increasing
  rw [split, List.pairwise_append] at ordered
  constructor
  · intro bounded other member later
    rw [split] at member
    rcases List.mem_append.mp member with earlier | fromHere
    · have lower := ordered.2.2 other earlier fragment List.mem_cons_self
      omega
    · rcases List.mem_cons.mp fromHere with here | behind
      · rw [here] at later
        omega
      · cases after with
        | nil => cases behind
        | cons next after =>
          have nextBound := bounded before next after split
          rcases List.mem_cons.mp behind with isNext | beyond
          · rw [isNext]
            exact nextBound
          · have sorted := (List.pairwise_cons.mp (List.pairwise_cons.mp ordered.2.1).2).1
            have higher := sorted other beyond
            omega
  · intro bounded earlier next rest splitNext
    have sorted := increasing
    rw [splitNext, List.pairwise_append] at sorted
    have later := (List.pairwise_cons.mp sorted.2.1).1 next List.mem_cons_self
    apply bounded next _ later
    rw [splitNext]
    exact List.mem_append_right _ (List.mem_cons_of_mem _ List.mem_cons_self)

omit [DecidableEq Location] in
theorem fragment_eq_of_start {first second : Fragment Location}
    (firstOpened : first ∈ openedIn calls) (secondOpened : second ∈ openedIn calls)
    (same : first.firstGstPts = second.firstGstPts) : first = second := by
  have starts : ((openedIn calls).map Fragment.firstGstPts).Nodup :=
    (List.pairwise_map.mpr increasing).imp fun lower => Int.ne_of_lt lower
  exact List.inj_on_of_nodup_map starts firstOpened secondOpened same

omit [DecidableEq Location] in
theorem inRange_unique {first second : Fragment Location} {gstPts : Int}
    (firstOpened : first ∈ openedIn calls) (secondOpened : second ∈ openedIn calls)
    (inFirst : InRange calls first gstPts) (inSecond : InRange calls second gstPts) :
    first = second := by
  rcases (inRange_iff increasing firstOpened gstPts).mp inFirst with ⟨_, firstEnds⟩
  rcases (inRange_iff increasing secondOpened gstPts).mp inSecond with ⟨_, secondEnds⟩
  apply fragment_eq_of_start increasing firstOpened secondOpened
  by_contra differ
  rcases Int.lt_or_gt_of_ne differ with lower | higher
  · have bound := firstEnds second secondOpened lower
    omega
  · have bound := secondEnds first firstOpened higher
    omega

omit [DecidableEq Location] in
theorem exists_inRange {first : Fragment Location} {gstPts : Int}
    (isFirst : (openedIn calls).head? = some first) (starts : first.firstGstPts ≤ gstPts) :
    ∃ fragment ∈ openedIn calls, InRange calls fragment gstPts := by
  have latest : ∀ (fragments : List (Fragment Location)) (head : Fragment Location),
      fragments.Pairwise (fun first second => first.firstGstPts < second.firstGstPts) →
      fragments.head? = some head → head.firstGstPts ≤ gstPts →
      ∃ fragment ∈ fragments, fragment.firstGstPts ≤ gstPts ∧
        ∀ other ∈ fragments, fragment.firstGstPts < other.firstGstPts →
          gstPts < other.firstGstPts := by
    intro fragments
    induction fragments with
    | nil =>
      intro head _ isHead
      cases isHead
    | cons current fragments induction =>
      intro head sorted isHead lower
      rw [List.head?_cons, Option.some.injEq] at isHead
      rw [← isHead] at lower
      rw [List.pairwise_cons] at sorted
      by_cases reached : ∃ next, fragments.head? = some next ∧ next.firstGstPts ≤ gstPts
      · rcases reached with ⟨next, isNext, nextLower⟩
        rcases induction next sorted.2 isNext nextLower with
          ⟨fragment, member, starts, bounded⟩
        refine ⟨fragment, List.mem_cons_of_mem _ member, starts, ?_⟩
        intro other inList later
        rcases List.mem_cons.mp inList with here | behind
        · have before := sorted.1 fragment member
          rw [here] at later
          omega
        · exact bounded other behind later
      · refine ⟨current, List.mem_cons_self, lower, ?_⟩
        intro other inList later
        rcases List.mem_cons.mp inList with here | behind
        · rw [here] at later
          omega
        · cases fragments with
          | nil => cases behind
          | cons next =>
            have nextHigher : gstPts < next.firstGstPts := by
              by_contra notHigher
              exact reached ⟨next, rfl, by omega⟩
            rcases List.mem_cons.mp behind with isNext | beyond
            · rw [isNext]
              exact nextHigher
            · have higher := (List.pairwise_cons.mp sorted.2).1 other beyond
              omega
  rcases latest (openedIn calls) first increasing isFirst starts with
    ⟨fragment, opened, lower, bounded⟩
  exact ⟨fragment, opened, (inRange_iff increasing opened gstPts).mpr ⟨lower, bounded⟩⟩

end Owner

/-! ## The ids of rows -/

/-- Rows carry the ids that were given out, each in one place. -/
structure RowIds (past : List (Call Location Row)) (ledger : FragmentLedger Location Row) :
    Prop where
  nextId : ledger.nextRowId = rowsQueued past
  bounded : ∀ queued ∈ ledger.queuedRows ++ ledger.handed.flatMap Publication.queued,
    queued.rowId < ledger.nextRowId
  distinctIds : ((ledger.queuedRows ++ ledger.handed.flatMap Publication.queued).map
    QueuedRow.rowId).Nodup

theorem removeFragment_rows_perm (ledger : FragmentLedger Location Row)
    (fragment : Fragment Location) (next : Option (Fragment Location)) :
    ((ledger.removeFragment fragment next).queuedRows ++
        (ledger.removeFragment fragment next).handed.flatMap Publication.queued).Perm
      (ledger.queuedRows ++ ledger.handed.flatMap Publication.queued) := by
  simp only [removeFragment, publicationOf, List.flatMap_append, List.flatMap_cons,
    List.flatMap_nil, List.append_nil]
  generalize ledger.handed.flatMap Publication.queued = before
  have parts := List.filter_append_perm (fun queued : QueuedRow Row =>
    inRange fragment.firstGstPts (next.map Fragment.firstGstPts) queued.gstPts)
    ledger.queuedRows
  have sorted := List.mergeSort_perm (ledger.queuedRows.filter fun queued =>
      inRange fragment.firstGstPts (next.map Fragment.firstGstPts) queued.gstPts)
    fun first second => decide (first.rowId ≤ second.rowId)
  have moved := List.Perm.append_left (ledger.queuedRows.filter fun queued =>
      !inRange fragment.firstGstPts (next.map Fragment.firstGstPts) queued.gstPts)
    (List.perm_append_comm.trans (sorted.append_right before))
  have regrouped := (List.perm_append_comm.trans parts).append_right before
  rw [List.append_assoc] at regrouped
  exact moved.trans regrouped

variable {next : FragmentLedger Location Row}

omit [DecidableEq Location] in
theorem RowIds.of_perm (ids : RowIds past ledger) (sameQueued : rowsQueued [made] = 0)
    (sameId : next.nextRowId = ledger.nextRowId)
    (moved : (next.queuedRows ++ next.handed.flatMap Publication.queued).Perm
      (ledger.queuedRows ++ ledger.handed.flatMap Publication.queued)) :
    RowIds (past ++ [made]) next where
  nextId := by
    rw [rowsQueued_append, sameQueued, sameId]
    exact ids.nextId
  bounded := by
    intro queued member
    rw [sameId]
    exact ids.bounded queued (moved.mem_iff.mp member)
  distinctIds := (moved.map QueuedRow.rowId).nodup_iff.mpr ids.distinctIds

theorem rowIds_step (ids : RowIds past ledger) (effect : CallEffect past made ledger next) :
    RowIds (past ++ [made]) next := by
  cases effect with
  | fragments sameQueued settles =>
    cases settles with
    | quiet sameRows sameId sameHanded =>
      apply ids.of_perm sameQueued sameId
      rw [sameRows, sameHanded]
    | handsOver base _ after fragment sameRows sameId sameHanded _ _ nextEq =>
      have moved := removeFragment_rows_perm base fragment after.head?
      rw [sameRows, sameHanded] at moved
      rw [nextEq]
      exact ids.of_perm sameQueued sameId moved
  | queues gstPts row madeEq nextEq =>
    have fresh : ledger.nextRowId ∉
        (ledger.queuedRows ++ ledger.handed.flatMap Publication.queued).map
          QueuedRow.rowId := by
      intro member
      rcases List.mem_map.mp member with ⟨queued, present, _⟩
      have bound := ids.bounded queued present
      omega
    have moved : (next.queuedRows ++ next.handed.flatMap Publication.queued).Perm
        ({ rowId := ledger.nextRowId, gstPts, row } ::
          (ledger.queuedRows ++ ledger.handed.flatMap Publication.queued)) := by
      rw [nextEq]
      simp only [queueFrame, List.append_assoc, List.singleton_append]
      exact List.perm_middle
    rw [madeEq, nextEq] at *
    constructor
    · rw [rowsQueued_append]
      have one : rowsQueued [(.queueFrame gstPts row : Call Location Row)] = 1 := rfl
      rw [one, ← ids.nextId]
      rfl
    · intro queued member
      have bound : (ledger.queueFrame gstPts row).nextRowId = ledger.nextRowId + 1 := rfl
      rcases List.mem_cons.mp (moved.mem_iff.mp member) with here | before
      · rw [here, bound]
        exact Nat.lt_succ_self _
      · have earlier := ids.bounded queued before
        omega
    · rw [(moved.map QueuedRow.rowId).nodup_iff, List.map_cons, List.nodup_cons]
      exact ⟨fresh, ids.distinctIds⟩
  | discards _ madeEq nextEq =>
    have kept : (next.queuedRows ++ next.handed.flatMap Publication.queued).Sublist
        (ledger.queuedRows ++ ledger.handed.flatMap Publication.queued) := by
      rw [nextEq]
      exact List.Sublist.append_right List.filter_sublist _
    rw [madeEq]
    constructor
    · rw [rowsQueued_append, nextEq]
      exact ids.nextId
    · intro queued member
      rw [nextEq]
      exact ids.bounded queued (kept.subset member)
    · exact ids.distinctIds.sublist (kept.map QueuedRow.rowId)

theorem rowIds_run {calls : List (Call Location Row)} (session : CompleteSession calls)
    (split : calls = past ++ rest) (drains : DrainsLast past) :
    RowIds past (runCalls runtime past) := by
  induction past using List.reverseRecOn generalizing rest with
  | nil => exact ⟨rfl, fun queued member => absurd member List.not_mem_nil, List.nodup_nil⟩
  | append_singleton past made induction =>
    have split' : calls = past ++ made :: rest := by
      rw [split, List.append_assoc, List.singleton_append]
    have tracks := tracks_run runtime session split' drains.of_append
    rw [runCalls_append]
    exact rowIds_step (induction split' drains.of_append)
      (call_step runtime session split' drains tracks).2

/-! ## Each row in its fragment -/

def RowsPlaced (calls past : List (Call Location Row)) (ledger : FragmentLedger Location Row) :
    Prop :=
  ∀ earlier queued later, past = earlier ++ .queueFrame queued.gstPts queued.row :: later →
    QueuesRow calls earlier queued →
    ∀ fragment ∈ openedIn calls, InRange calls fragment queued.gstPts →
      (Settled past fragment.location → ∃ publication ∈ ledger.handed,
        publication.fragment = fragment ∧ queued ∈ publication.queued) ∧
      (¬Settled past fragment.location → queued ∈ ledger.queuedRows)

theorem handsOver_selects {calls : List (Call Location Row)} {base : FragmentLedger Location Row}
    {before after : List (Fragment Location)} {handed fragment : Fragment Location}
    {gstPts : Int} (session : CompleteSession calls) (drains : DrainsLast calls)
    (split : calls = (past ++ [made]) ++ rest) (snapshot : Snapshot (openedIn (past ++ [made]))
      (fun location => decide (Settled past location)) base)
    (baseSplit : base.ordered = before ++ handed :: after)
    (nextTracks : Tracks (past ++ [made]) next)
    (nextEq : next = base.removeFragment handed after.head?) (opened : fragment ∈ openedIn calls)
    (owns : InRange calls fragment gstPts) (waits : ¬Settled past fragment.location) :
    inRange handed.firstGstPts (after.head?.map Fragment.firstGstPts) gstPts = true ↔
      fragment = handed := by
  have increasing := session.increasing
  have openedEq : openedIn calls = openedIn (past ++ [made]) ++ openedIn rest := by
    rw [split, openedIn_append]
  have orderedListed : base.ordered.Sublist (openedIn calls) := by
    rw [snapshot.ordered_eq, openedEq]
    exact List.filter_sublist.trans (List.sublist_append_left _ _)
  have orderedIncreasing := increasing.sublist orderedListed
  have handedOpened : handed ∈ openedIn calls := by
    apply orderedListed.subset
    rw [baseSplit]
    exact List.mem_append_right _ List.mem_cons_self
  rw [baseSplit, List.pairwise_append] at orderedIncreasing
  rcases (inRange_iff increasing opened gstPts).mp owns with ⟨starts, bounded⟩
  simp only [inRange, Bool.and_eq_true, decide_eq_true_eq]
  constructor
  · intro selected
    by_contra differ
    have lower : handed.firstGstPts < fragment.firstGstPts := by
      by_contra notLower
      rcases Int.lt_or_eq_of_le (Int.not_lt.mp notLower) with higher | same
      · have bound := bounded handed handedOpened higher
        omega
      · exact differ (fragment_eq_of_start increasing opened handedOpened same)
    have nextStart : ∀ other, after.head? = some other → gstPts < other.firstGstPts := by
      intro other isNext
      have bound := selected.2
      rw [isNext] at bound
      simpa using bound
    rw [openedEq] at opened
    rcases List.mem_append.mp opened with already | later
    · have inOrdered : fragment ∈ base.ordered := by
        rw [snapshot.ordered_eq, List.mem_filter]
        exact ⟨already, by simpa using waits⟩
      rw [baseSplit] at inOrdered
      rcases List.mem_append.mp inOrdered with earlier | fromHere
      · have bound := orderedIncreasing.2.2 fragment earlier handed List.mem_cons_self
        omega
      · rcases List.mem_cons.mp fromHere with here | behind
        · exact differ here
        · cases after with
          | nil => cases behind
          | cons other =>
            have bound := nextStart other rfl
            rcases List.mem_cons.mp behind with isNext | beyond
            · rw [isNext] at starts
              omega
            · have sorted := List.pairwise_cons.mp
                (List.pairwise_cons.mp orderedIncreasing.2.1).2
              have higher := sorted.1 fragment beyond
              omega
    · have increasingWhole := increasing
      rw [openedEq, List.pairwise_append] at increasingWhole
      cases after with
      | cons other =>
        have bound := nextStart other rfl
        have otherOpened : other ∈ openedIn (past ++ [made]) := by
          have member : other ∈ base.ordered := by
            rw [baseSplit]
            exact List.mem_append_right _ (List.mem_cons_of_mem _ List.mem_cons_self)
          rw [snapshot.ordered_eq] at member
          exact (List.mem_filter.mp member).1
        have higher := increasingWhole.2.2 other otherOpened fragment later
        omega
      | nil =>
        -- the newest fragment cannot have gone, as one is still to come
        have notDraining : ¬Draining (past ++ [made]) := by
          intro draining
          have quiet := drains (past ++ [made]) rest split draining
          rw [quiet.1] at later
          cases later
        have handedHere : handed ∈ openedIn (past ++ [made]) := by
          have member : handed ∈ base.ordered := by
            rw [baseSplit]
            exact List.mem_append_right _ List.mem_cons_self
          rw [snapshot.ordered_eq] at member
          exact (List.mem_filter.mp member).1
        rcases Option.isSome_iff_exists.mp (by
          rw [lastOpened, List.getLast?_isSome]
          exact List.ne_nil_of_mem handedHere :
          (lastOpened (past ++ [made])).isSome = true) with ⟨last, newest⟩
        have lastUnsettled := lastOpened_unsettled newest notDraining
        rcases nextTracks.ordered_last newest lastUnsettled with ⟨_, orderedEq⟩
        have remains := (snapshot.indexed.removeFragment baseSplit none).1
        rw [nextEq] at orderedEq
        have lastBefore : last ∈ before := by
          have member : last ∈ before ++ [] := by
            rw [← remains]
            exact orderedEq ▸ List.mem_append_right _ List.mem_cons_self
          rw [List.append_nil] at member
          exact member
        have bound := orderedIncreasing.2.2 last lastBefore handed List.mem_cons_self
        rcases List.getLast?_eq_some_iff.mp newest with ⟨_, hereEq⟩
        have sorted := increasingWhole.1
        rw [hereEq, List.pairwise_append] at sorted
        rw [hereEq] at handedHere
        rcases List.mem_append.mp handedHere with inEarlier | isLast
        · have higher := sorted.2.2 handed inEarlier last List.mem_cons_self
          omega
        · rw [List.mem_singleton.mp isLast] at bound
          omega
  · intro same
    rw [← same]
    refine ⟨starts, ?_⟩
    cases after with
    | nil => rfl
    | cons other =>
      have later := (List.pairwise_cons.mp orderedIncreasing.2.1).1 other List.mem_cons_self
      have otherOpened : other ∈ openedIn calls := by
        apply orderedListed.subset
        rw [baseSplit]
        exact List.mem_append_right _ (List.mem_cons_of_mem _ List.mem_cons_self)
      rw [← same] at later
      simpa using bounded other otherOpened later

theorem append_singleton_split {α : Type} {past earlier later : List α} {made item : α}
    (split : past ++ [made] = earlier ++ item :: later) :
    (past = earlier ∧ made = item ∧ later = []) ∨
      ∃ middle, past = earlier ++ item :: middle ∧ later = middle ++ [made] := by
  rcases List.eq_nil_or_concat later with empty | ⟨middle, last, laterEq⟩
  · rw [empty] at split
    rcases List.append_inj' split rfl with ⟨pastEq, madeEq⟩
    exact .inl ⟨pastEq, (List.cons.inj madeEq).1, empty⟩
  · rw [List.concat_eq_append] at laterEq
    rw [laterEq, ← List.cons_append, ← List.append_assoc] at split
    rcases List.append_inj' split rfl with ⟨pastEq, madeEq⟩
    rw [(List.cons.inj madeEq).1]
    exact .inr ⟨middle, pastEq, laterEq⟩

section

variable {calls : List (Call Location Row)} (session : CompleteSession calls)
  (drains : DrainsLast calls) (inTime : RowsInTime calls)

include calls session drains inTime

theorem rowsPlaced_step (split : calls = (past ++ [made]) ++ rest) (ids : RowIds past ledger)
    (nextTracks : Tracks (past ++ [made]) next) (placed : RowsPlaced calls past ledger)
    (effect : CallEffect past made ledger next) : RowsPlaced calls (past ++ [made]) next := by
  intro earlier queued later pastEq queues fragment opened owns
  rcases append_singleton_split pastEq with ⟨here, madeEq, laterEq⟩ | ⟨middle, before, laterEq⟩
  · -- the call queues this very row
    cases effect with
    | fragments sameQueued =>
      rw [madeEq] at sameQueued
      cases sameQueued
    | discards _ discardEq =>
      rw [madeEq] at discardEq
      cases discardEq
    | queues _ _ queueEq nextEq sameSettled =>
      rw [madeEq] at queueEq
      cases queueEq
      have waits := inTime earlier queued queues fragment opened owns
      rw [← here] at waits
      rw [sameSettled]
      refine ⟨fun settled => absurd settled waits, fun _ => ?_⟩
      rcases queues with ⟨_, _, idEq, _⟩
      have rowId : queued.rowId = ledger.nextRowId := by
        rw [idEq, ← here]
        exact ids.nextId.symm
      rw [nextEq]
      simp only [queueFrame, List.mem_append, List.mem_singleton]
      exact .inr (by rw [← rowId])
  · rcases placed earlier queued middle before queues fragment opened owns with ⟨gone, waiting⟩
    cases effect with
    | fragments _ settles =>
      cases settles with
      | quiet sameRows _ sameHanded sameSettled =>
        rw [sameSettled, sameRows, sameHanded]
        exact ⟨gone, waiting⟩
      | handsOver base front after handed sameRows _ sameHanded snapshot baseSplit nextEq
          settles =>
          have handedOpened : handed ∈ openedIn calls := by
            have member : handed ∈ base.ordered := by
              rw [baseSplit]
              exact List.mem_append_right _ List.mem_cons_self
            rw [snapshot.ordered_eq] at member
            rw [split, openedIn_append]
            exact List.mem_append_left _ (List.mem_filter.mp member).1
          rw [settles, nextEq]
          simp only [removeFragment, sameRows, sameHanded]
          by_cases settled : Settled past fragment.location
          · refine ⟨fun _ => ?_, fun not => absurd (.inl settled) not⟩
            rcases gone settled with ⟨publication, member, facts⟩
            exact ⟨publication, List.mem_append_left _ member, facts⟩
          · have selects := handsOver_selects session drains split snapshot baseSplit
              nextTracks nextEq opened owns settled
            have present := waiting settled
            by_cases same : fragment = handed
            · have inPublication : queued ∈
                  (base.publicationOf handed after.head?).queued := by
                simp only [publicationOf, List.mem_mergeSort, List.mem_filter, sameRows]
                exact ⟨present, selects.mpr same⟩
              refine ⟨fun _ => ?_, fun not => absurd (.inr (by rw [same])) not⟩
              exact ⟨_, List.mem_append_right _ List.mem_cons_self, same.symm, inPublication⟩
            · have notSelected := mt selects.mp same
              have elsewhere : fragment.location ≠ handed.location := fun sameLocation =>
                same (fragment_eq_of_location session.distinct opened handedOpened sameLocation)
              refine ⟨fun either => ?_, fun _ => ?_⟩
              · exact absurd (either.resolve_left settled) elsewhere
              · rw [List.mem_filter]
                exact ⟨present, by simpa using notSelected⟩
    | queues _ _ _ nextEq sameSettled =>
      rw [sameSettled, nextEq]
      exact ⟨gone, fun waits => List.mem_append_left _ (waiting waits)⟩
    | discards _ madeEq nextEq sameSettled =>
      rw [sameSettled, nextEq]
      refine ⟨gone, fun waits => ?_⟩
      rcases queues with ⟨tail, callsEq, _, notDiscarded⟩
      have tailEq : tail = later ++ rest := by
        rw [split, pastEq, List.append_assoc, List.cons_append] at callsEq
        exact (List.cons.inj (List.append_cancel_left callsEq)).2.symm
      simp only [discardFrame, List.mem_filter, decide_eq_true_eq]
      refine ⟨waiting waits, ?_⟩
      intro same
      apply notDiscarded
      rw [tailEq, laterEq, madeEq, same]
      exact List.mem_append_left _ (List.mem_append_right _ List.mem_cons_self)

theorem rowsPlaced_run (split : calls = past ++ rest) :
    RowsPlaced calls past (runCalls runtime past) := by
  induction past using List.reverseRecOn generalizing rest with
  | nil =>
    intro earlier queued later pastEq
    cases (List.append_eq_nil_iff.mp pastEq.symm).2
  | append_singleton past made induction =>
    have split' : calls = past ++ made :: rest := by
      rw [split, List.append_assoc, List.singleton_append]
    have drainsHere : DrainsLast (past ++ [made]) := by
      rw [split] at drains
      exact drains.of_append
    have tracks := tracks_run runtime session split' drainsHere.of_append
    have ids := rowIds_run runtime session split' drainsHere.of_append
    rcases call_step runtime session split' drainsHere tracks with ⟨nextTracks, effect⟩
    rw [runCalls_append]
    exact rowsPlaced_step session drains inTime split ids nextTracks (induction split') effect

end

/-! ## Handed publications stay -/

theorem CallEffect.handed_mono (effect : CallEffect past made ledger next) :
    ledger.handed ⊆ next.handed := by
  cases effect with
  | fragments _ settles =>
    cases settles with
    | quiet _ _ sameHanded => rw [sameHanded]; exact List.Subset.refl _
    | handsOver _ _ _ _ _ _ sameHanded _ _ nextEq =>
      rw [nextEq, ← sameHanded]
      exact List.subset_append_left _ _
  | queues _ _ _ nextEq | discards _ _ nextEq => rw [nextEq]; exact List.Subset.refl _

theorem handed_mono (runtime : LedgerRuntime Location Row)
    {calls past rest : List (Call Location Row)} (session : CompleteSession calls)
    (drains : DrainsLast calls) (split : calls = past ++ rest) :
    (runCalls runtime past).handed ⊆ (runCalls runtime calls).handed := by
  induction rest generalizing past with
  | nil =>
    rw [split, List.append_nil]
    exact List.Subset.refl _
  | cons made rest induction =>
    have nextSplit : calls = (past ++ [made]) ++ rest := by
      rw [split, List.append_assoc, List.singleton_append]
    have drainsHere : DrainsLast (past ++ [made]) := by
      rw [nextSplit] at drains
      exact drains.of_append
    have tracks := tracks_run runtime session split drainsHere.of_append
    have effect := (call_step runtime session split drainsHere tracks).2
    have later := induction nextSplit
    rw [runCalls_append] at later
    exact List.Subset.trans effect.handed_mono later

theorem rowsInTime_of_conserves {calls : List (Call Location Row)}
    (session : CompleteSession calls) (drains : DrainsLast calls)
    (conserves : Conserves calls (runCalls runtime calls)) :
    RowsInTime calls := by
  intro past queued queues fragment opened owns settled
  have increasing := session.increasing
  rcases queues with ⟨rest, split, idEq, notDiscarded⟩
  have drainsHere : DrainsLast past := by
    rw [split] at drains
    exact drains.of_append
  have tracks := tracks_run runtime session split drainsHere
  have ids := rowIds_run runtime session split drainsHere
  have openedHere : fragment ∈ openedIn past := by
    rcases List.mem_map.mp (closedAfterOpen_mem session split _ settled.1) with
      ⟨other, member, same⟩
    have otherOpened : other ∈ openedIn calls := by
      rw [split, openedIn_append]
      exact List.mem_append_left _ member
    exact fragment_eq_of_location session.distinct otherOpened opened same ▸ member
  have gone : fragment ∈ (runCalls runtime past).handed.map Publication.fragment := by
    rw [tracks.snapshot.handed_perm.mem_iff, List.mem_filter]
    exact ⟨openedHere, decide_eq_true settled⟩
  rcases List.mem_map.mp gone with ⟨earlier, earlierHanded, earlierFragment⟩
  have firstStarts : ∃ first, (openedIn calls).head? = some first ∧
      first.firstGstPts ≤ queued.gstPts := by
    cases openedEq : openedIn calls with
    | nil =>
      rw [openedEq] at opened
      cases opened
    | cons first =>
      refine ⟨first, rfl, ?_⟩
      rw [openedEq] at opened increasing
      have starts := owns.1
      rcases List.mem_cons.mp opened with here | behind
      · rw [← here]
        exact starts
      · have higher := (List.pairwise_cons.mp increasing).1 fragment behind
        omega
  rcases conserves.rowPlaced past queued ⟨rest, split, idEq, notDiscarded⟩ firstStarts with
    ⟨publication, handed, inFragment, present, _⟩
  have publicationOpened : publication.fragment ∈ openedIn calls :=
    conserves.handedOnce.mem_iff.mp (List.mem_map_of_mem handed)
  have sameFragment := inRange_unique increasing publicationOpened opened inFragment owns
  have nodup : ((runCalls runtime calls).handed.map Publication.fragment).Nodup :=
    conserves.handedOnce.nodup_iff.mpr session.distinct.of_map
  have samePublication : publication = earlier :=
    List.inj_on_of_nodup_map nodup handed (handed_mono runtime session drains split earlierHanded)
      (sameFragment.trans earlierFragment.symm)
  rw [samePublication] at present
  have bound := ids.bounded queued (List.mem_append_right _
    (List.mem_flatMap.mpr ⟨earlier, earlierHanded, present⟩))
  rw [ids.nextId] at bound
  omega

/-- Whatever order the set of deferred closes is replayed in and whichever
publications are accepted, a session conserves its fragments and rows exactly
when it drains last and its rows come in time. -/
theorem session_conserves_iff (runtime : LedgerRuntime Location Row)
    (calls : List (Call Location Row)) (session : CompleteSession calls) :
    Conserves calls (runCalls runtime calls) ↔ DrainsLast calls ∧ RowsInTime calls := by
  constructor
  · intro conserves
    have drains := (nonePending_iff runtime session).mp conserves.nonePending
    exact ⟨drains, rowsInTime_of_conserves runtime session drains conserves⟩
  · intro ordered
    rcases ordered with ⟨drains, inTime⟩
    refine { nonePending := (nonePending_iff runtime session).mpr drains
             handedOnce := handedOnce_of_drainsLast runtime session drains
             rowPlaced := ?_ }
    intro past queued queues firstStarts
    rcases firstStarts with ⟨_, isFirst, starts⟩
    rcases exists_inRange session.increasing isFirst starts with ⟨fragment, opened, owns⟩
    have whole : calls = calls ++ [] := (List.append_nil calls).symm
    have placed := rowsPlaced_run runtime session drains inTime whole
    have ids := rowIds_run runtime session whole drains
    rcases queues with ⟨rest, split, idEq, notDiscarded⟩
    rcases (placed past queued rest split ⟨rest, split, idEq, notDiscarded⟩ fragment opened
      owns).1 (session.settled opened) with ⟨publication, handed, isFragment, present⟩
    refine ⟨publication, handed, isFragment ▸ owns, present, ?_⟩
    have distinctIds := ids.distinctIds
    rw [List.map_append, List.nodup_append] at distinctIds
    apply List.count_eq_one_of_mem distinctIds.2.1
    exact List.mem_map_of_mem (List.mem_flatMap.mpr ⟨publication, handed, present⟩)

/-! ## Sessions of two fragments -/

def isCompleteSession (calls : List (Call Location Row)) : Bool :=
  decide ((openedIn calls).Pairwise fun first second =>
      first.firstGstPts < second.firstGstPts) &&
    decide ((openedIn calls).map Fragment.location).Nodup &&
    decide ((closedIn calls).Perm ((openedIn calls).map Fragment.location)) &&
    ((List.range calls.length).all fun index =>
      match calls[index]? with
      | some (.closeFragment location) =>
        decide (location ∈ (openedIn (calls.take index)).map Fragment.location)
      | _ => true) &&
    decide ((eosIn calls).length = 1)

theorem completeSession_of_check {calls : List (Call Location Row)}
    (checked : isCompleteSession calls = true) : CompleteSession calls := by
  simp only [isCompleteSession, Bool.and_eq_true, decide_eq_true_eq, List.all_eq_true,
    List.mem_range] at checked
  rcases checked with ⟨⟨⟨⟨increasing, distinct⟩, closedOnce⟩, closedAfter⟩, oneEos⟩
  refine { increasing, distinct, closedOnce, closedAfterOpen := ?_, oneEos }
  intro past location rest split
  have here := closedAfter past.length (by
    rw [split, List.length_append, List.length_cons]
    omega)
  have found : calls[past.length]? = some (.closeFragment location) := by
    rw [split, List.getElem?_append_right (Nat.le_refl _), Nat.sub_self]
    rfl
  have before : calls.take past.length = past := by
    rw [split]
    exact List.take_left
  rw [found, before] at here
  exact of_decide_eq_true here

def insertionOrder : LedgerRuntime Nat String where
  setOrder locations := locations
  setOrder_perm _ := List.Perm.refl _
  accepts _ := true

def inOrderSession : List (Call Nat String) :=
  [.openFragment ⟨0, 0⟩, .queueFrame 3 "early", .openFragment ⟨1, 10⟩, .queueFrame 12 "late",
    .closeFragment 0, .recordEos "eos", .closeFragment 1]

theorem inOrderSession_conserves_iff :
    Conserves inOrderSession (runCalls insertionOrder inOrderSession) ↔
      DrainsLast inOrderSession ∧ RowsInTime inOrderSession :=
  session_conserves_iff insertionOrder inOrderSession (completeSession_of_check (by decide))

/-- The fragments close in the other order after the end of the stream. -/
def reversedSession : List (Call Nat String) :=
  [.openFragment ⟨0, 0⟩, .queueFrame 3 "early", .openFragment ⟨1, 10⟩, .queueFrame 12 "late",
    .recordEos "eos", .closeFragment 1, .closeFragment 0]

theorem reversedSession_leaves_fragment :
    CompleteSession reversedSession ∧
      (runCalls insertionOrder reversedSession).byLocation = [(0, ⟨0, 0⟩)] ∧
      ¬Conserves reversedSession (runCalls insertionOrder reversedSession) := by
  have left : (runCalls insertionOrder reversedSession).byLocation = [(0, ⟨0, 0⟩)] := by
    decide
  refine ⟨completeSession_of_check (by decide), left, ?_⟩
  intro conserves
  have nonePending := conserves.nonePending
  rw [left] at nonePending
  cases nonePending

end VideoAnalysis.Sink.FragmentLedger
