import VideoAnalysis.Sink.FragmentLedger

/-! # Sessions of ledger calls

What a fragment waits for is read off the calls alone: it is settled once it is
closed and its end is known, by a fragment opened after it or by the end of the
stream. Until the session drains, the ledger holds the unsettled fragments and
has handed over the settled ones.
-/

namespace VideoAnalysis.Sink.FragmentLedger

variable {Location Row : Type}

/-! ## Reading a session -/

variable (calls : List (Call Location Row))

def openedIn : List (Fragment Location) :=
  calls.filterMap fun
    | .openFragment fragment => some fragment
    | _ => none

def closedIn : List Location :=
  calls.filterMap fun
    | .closeFragment location => some location
    | _ => none

def eosIn : List Row :=
  calls.filterMap fun
    | .recordEos row => some row
    | _ => none

def rowsQueued : Nat :=
  calls.countP fun
    | .queueFrame _ _ => true
    | _ => false

def lastOpened : Option (Fragment Location) :=
  (openedIn calls).getLast?

section Append

variable (past rest : List (Call Location Row))

@[simp] theorem openedIn_append : openedIn (past ++ rest) = openedIn past ++ openedIn rest :=
  List.filterMap_append

@[simp] theorem closedIn_append : closedIn (past ++ rest) = closedIn past ++ closedIn rest :=
  List.filterMap_append

@[simp] theorem eosIn_append : eosIn (past ++ rest) = eosIn past ++ eosIn rest :=
  List.filterMap_append

@[simp] theorem rowsQueued_append :
    rowsQueued (past ++ rest) = rowsQueued past + rowsQueued rest :=
  List.countP_append

variable {past}

theorem openedIn_same {made : Call Location Row} (opens : openedIn [made] = []) :
    openedIn (past ++ [made]) = openedIn past := by
  rw [openedIn_append, opens, List.append_nil]

theorem closedIn_close (location : Location) :
    closedIn (past ++ [.closeFragment location]) = closedIn past ++ [location] :=
  closedIn_append past _

theorem eosIn_close (location : Location) :
    eosIn (past ++ [.closeFragment location]) = eosIn past :=
  (eosIn_append past _).trans (List.append_nil _)

theorem lastOpened_close (location : Location) :
    lastOpened (past ++ [.closeFragment location]) = lastOpened past := by
  rw [lastOpened, openedIn_same rfl]
  rfl

end Append

/-- One session of the pipeline: fragments open in increasing order, each is
closed once after it was opened, and the end of the stream is recorded once. -/
structure CompleteSession (calls : List (Call Location Row)) : Prop where
  increasing : (openedIn calls).Pairwise fun first second =>
    first.firstGstPts < second.firstGstPts
  distinct : ((openedIn calls).map Fragment.location).Nodup
  closedOnce : (closedIn calls).Perm ((openedIn calls).map Fragment.location)
  closedAfterOpen : ∀ past location rest, calls = past ++ .closeFragment location :: rest →
    location ∈ (openedIn past).map Fragment.location
  oneEos : (eosIn calls).length = 1

def Settled (past : List (Call Location Row)) (location : Location) : Prop :=
  location ∈ closedIn past ∧
    ((lastOpened past).map Fragment.location ≠ some location ∨ eosIn past ≠ [])

/-- The end of the stream is recorded and the newest fragment is closed. -/
def Draining (past : List (Call Location Row)) : Prop :=
  eosIn past ≠ [] ∧ ∃ fragment, lastOpened past = some fragment ∧
    fragment.location ∈ closedIn past

/-- Once the session drains, no fragment is opened or closed any more. -/
def DrainsLast : Prop :=
  ∀ past rest, calls = past ++ rest → Draining past → openedIn rest = [] ∧ closedIn rest = []

/-! ## Settled and deferred fragments -/

variable [DecidableEq Location]

instance (past : List (Call Location Row)) (location : Location) :
    Decidable (Settled past location) := by
  unfold Settled
  infer_instance

def deferredIn (past : List (Call Location Row)) : List Location :=
  ((lastOpened past).map Fragment.location).toList.filter fun location =>
    decide (location ∈ closedIn past ∧ eosIn past = [])

theorem mem_deferredIn {past : List (Call Location Row)} {location : Location} :
    location ∈ deferredIn past ↔ (lastOpened past).map Fragment.location = some location ∧
      location ∈ closedIn past ∧ eosIn past = [] := by
  simp only [deferredIn, List.mem_filter, Option.mem_toList, decide_eq_true_eq]

theorem settled_iff {past : List (Call Location Row)} {location : Location} :
    Settled past location ↔ location ∈ closedIn past ∧ location ∉ deferredIn past := by
  rw [mem_deferredIn, Settled]
  tauto

variable {last : Fragment Location}

omit [DecidableEq Location] in
theorem draining_iff {past : List (Call Location Row)} (newest : lastOpened past = some last) :
    Draining past ↔ eosIn past ≠ [] ∧ last.location ∈ closedIn past := by
  simp only [Draining, newest, Option.some.injEq, exists_eq_left']

/-- The calls made so far can be completed to a session. -/
structure ValidPast (past : List (Call Location Row)) : Prop where
  increasing : (openedIn past).Pairwise fun first second =>
    first.firstGstPts < second.firstGstPts
  distinct : ((openedIn past).map Fragment.location).Nodup
  closedNodup : (closedIn past).Nodup
  closedOpened : ∀ location ∈ closedIn past, location ∈ (openedIn past).map Fragment.location
  fewEos : (eosIn past).length ≤ 1

omit [DecidableEq Location] in
theorem closedAfterOpen_mem {calls past rest : List (Call Location Row)}
    (session : CompleteSession calls) (split : calls = past ++ rest) :
    ∀ location ∈ closedIn past, location ∈ (openedIn past).map Fragment.location := by
  intro location member
  rcases List.mem_filterMap.mp member with ⟨made, inPast, closes⟩
  cases made with
  | closeFragment =>
    cases closes
    rcases List.append_of_mem inPast with ⟨earlier, later, pastEq⟩
    have opened := session.closedAfterOpen earlier location (later ++ rest) (by
      rw [split, pastEq, List.append_assoc, List.cons_append])
    rw [pastEq, openedIn_append, List.map_append]
    exact List.mem_append_left _ opened
  | openFragment | queueFrame | discardFrame | recordEos => cases closes

omit [DecidableEq Location] in
theorem CompleteSession.validPast {calls past rest : List (Call Location Row)}
    (session : CompleteSession calls) (split : calls = past ++ rest) : ValidPast past := by
  have increasing := session.increasing
  have distinct := session.distinct
  have closedNodup := session.closedOnce.nodup_iff.mpr session.distinct
  have oneEos := session.oneEos
  rw [split, openedIn_append] at increasing
  rw [split, openedIn_append, List.map_append] at distinct
  rw [split, closedIn_append] at closedNodup
  rw [split, eosIn_append, List.length_append] at oneEos
  exact
    { increasing := (List.pairwise_append.mp increasing).1
      distinct := (List.nodup_append.mp distinct).1
      closedNodup := (List.nodup_append.mp closedNodup).1
      closedOpened := closedAfterOpen_mem session split
      fewEos := by omega }

/-! ## The ledger during a session -/

/-- The fragments of the ledger, given which locations are settled. -/
structure Snapshot (opened : List (Fragment Location)) (settled : Location → Bool)
    (ledger : FragmentLedger Location Row) : Prop where
  indexed : ledger.Indexed
  ordered_eq : ledger.ordered = opened.filter fun fragment => !settled fragment.location
  handed_perm : (ledger.handed.map Publication.fragment).Perm
    (opened.filter fun fragment => settled fragment.location)

variable {opened : List (Fragment Location)}

omit [DecidableEq Location] in
theorem fragment_eq_of_location {first second : Fragment Location}
    (distinct : (opened.map Fragment.location).Nodup) (firstOpened : first ∈ opened)
    (secondOpened : second ∈ opened) (same : first.location = second.location) :
    first = second :=
  List.inj_on_of_nodup_map distinct firstOpened secondOpened same

variable {ledger : FragmentLedger Location Row} {fragment : Fragment Location}

variable {before after : List (Fragment Location)}

theorem Snapshot.publish {settled : Location → Bool} (snapshot : Snapshot opened settled ledger)
    (distinct : (opened.map Fragment.location).Nodup)
    (split : ledger.ordered = before ++ fragment :: after) (next : Option (Fragment Location)) :
    Snapshot opened (fun location => settled location || decide (location = fragment.location))
      (ledger.removeFragment fragment next) := by
  rcases snapshot.indexed.removeFragment split next with ⟨orderedEq, indexed⟩
  have apart := snapshot.indexed.apart split
  have listed : fragment ∈ opened ∧ settled fragment.location = false := by
    have member : fragment ∈ ledger.ordered := by
      rw [split]
      exact List.mem_append_right _ List.mem_cons_self
    rw [snapshot.ordered_eq, List.mem_filter, Bool.not_eq_true'] at member
    exact member
  refine { indexed, ordered_eq := ?_, handed_perm := ?_ }
  · have narrowed : opened.filter (fun other =>
        !(settled other.location || decide (other.location = fragment.location))) =
          ledger.ordered.filter fun other => decide (other.location ≠ fragment.location) := by
      rw [snapshot.ordered_eq, List.filter_filter]
      congr 1
      funext other
      rw [Bool.not_or, Bool.and_comm, decide_not]
    have kept : ∀ part : List (Fragment Location), (∀ other ∈ part, other ∈ before ++ after) →
        part.filter (fun other => decide (other.location ≠ fragment.location)) = part := by
      intro part inside
      rw [List.filter_eq_self]
      intro other member
      simpa using apart other (inside other member)
    rw [orderedEq, narrowed, split, List.filter_append,
      kept before fun other member => List.mem_append_left _ member,
      List.filter_cons_of_neg (by simp),
      kept after fun other member => List.mem_append_right _ member]
  · have nodup : opened.Nodup := distinct.of_map
    have settledAfter : (opened.filter (fun other => settled other.location) ++ [fragment]).Perm
        (opened.filter fun other =>
          settled other.location || decide (other.location = fragment.location)) := by
      rw [List.perm_ext_iff_of_nodup]
      · intro other
        rw [List.mem_append, List.mem_filter, List.mem_filter, List.mem_singleton,
          Bool.or_eq_true, decide_eq_true_eq]
        constructor
        · intro member
          rcases member with ⟨inOpened, before⟩ | same
          · exact ⟨inOpened, .inl before⟩
          · rw [same]
            exact ⟨listed.1, .inr rfl⟩
        · intro member
          rcases member with ⟨inOpened, before | same⟩
          · exact .inl ⟨inOpened, before⟩
          · exact .inr (fragment_eq_of_location distinct inOpened listed.1 same)
      · rw [List.nodup_append]
        refine ⟨nodup.filter _, List.nodup_singleton fragment, ?_⟩
        intro other member same sameEq otherEq
        rw [List.mem_singleton] at sameEq
        rw [otherEq, sameEq, List.mem_filter, listed.2] at member
        cases member.2
      · exact nodup.filter _
    have handedEq : (ledger.removeFragment fragment next).handed.map Publication.fragment =
        ledger.handed.map Publication.fragment ++ [fragment] := by
      simp [removeFragment, publicationOf]
    rw [handedEq]
    exact (snapshot.handed_perm.append_right [fragment]).trans settledAfter

omit [DecidableEq Location] in
theorem Snapshot.congr {first second : Location → Bool} (snapshot : Snapshot opened first ledger)
    (same : ∀ fragment ∈ opened, first fragment.location = second fragment.location) :
    Snapshot opened second ledger where
  indexed := snapshot.indexed
  ordered_eq := by
    rw [snapshot.ordered_eq]
    apply List.filter_congr
    intro fragment member
    rw [same fragment member]
  handed_perm := by
    have filters : opened.filter (fun fragment => second fragment.location) =
        opened.filter fun fragment => first fragment.location := by
      apply List.filter_congr
      intro fragment member
      rw [same fragment member]
    rw [filters]
    exact snapshot.handed_perm

omit [DecidableEq Location] in
theorem lastOpened_unsettled {past : List (Call Location Row)}
    (newest : lastOpened past = some last) (notDraining : ¬Draining past) :
    ¬Settled past last.location := by
  intro settled
  rcases settled with ⟨closed, notLast | ended⟩
  · rw [newest] at notLast
    exact notLast rfl
  · exact notDraining ((draining_iff newest).mpr ⟨ended, closed⟩)

structure Tracks (past : List (Call Location Row)) (ledger : FragmentLedger Location Row) :
    Prop where
  snapshot : Snapshot (openedIn past) (fun location => decide (Settled past location)) ledger
  pending_eq : ledger.pendingCloseLocations = deferredIn past
  eos_eq : (Draining past → ledger.eosRows = []) ∧ (¬Draining past → ledger.eosRows = eosIn past)

/-- A call about fragments leaves the ledger with its rows as they were, or
hands over the one fragment that the call settles. -/
inductive Settles (past : List (Call Location Row)) (made : Call Location Row)
    (ledger next : FragmentLedger Location Row) : Prop where
  | quiet (sameRows : next.queuedRows = ledger.queuedRows)
      (sameId : next.nextRowId = ledger.nextRowId) (sameHanded : next.handed = ledger.handed)
      (sameSettled : ∀ location, Settled (past ++ [made]) location ↔ Settled past location)
  | handsOver (base : FragmentLedger Location Row) (before after : List (Fragment Location))
      (fragment : Fragment Location)
      (sameRows : base.queuedRows = ledger.queuedRows)
      (sameId : base.nextRowId = ledger.nextRowId) (sameHanded : base.handed = ledger.handed)
      (snapshot : Snapshot (openedIn (past ++ [made]))
        (fun location => decide (Settled past location)) base)
      (split : base.ordered = before ++ fragment :: after)
      (nextEq : next = base.removeFragment fragment after.head?)
      (settles : ∀ location, Settled (past ++ [made]) location ↔
        Settled past location ∨ location = fragment.location)

/-! ## One call -/

theorem deferredIn_of_newest {past : List (Call Location Row)}
    (newest : lastOpened past = some last) :
    deferredIn past =
      if last.location ∈ closedIn past ∧ eosIn past = [] then [last.location] else [] := by
  simp only [deferredIn, newest, Option.map_some, Option.toList_some]
  split
  · rename_i deferred
    exact List.filter_cons_of_pos (by simpa using deferred)
  · rename_i settled
    exact List.filter_cons_of_neg (by simpa using settled)

theorem deferredIn_cases (past : List (Call Location Row)) :
    deferredIn past = [] ∨ ∃ last, lastOpened past = some last ∧
      deferredIn past = [last.location] ∧ last.location ∈ closedIn past ∧ eosIn past = [] := by
  cases newest : lastOpened past with
  | none =>
    left
    simp [deferredIn, newest]
  | some last =>
    rw [deferredIn_of_newest newest]
    split
    · rename_i deferred
      exact .inr ⟨last, rfl, rfl, deferred⟩
    · exact .inl rfl

variable (runtime : LedgerRuntime Location Row)

omit [DecidableEq Location] in
theorem setOrder_nil : runtime.setOrder [] = [] :=
  List.perm_nil.mp (runtime.setOrder_perm [])

omit [DecidableEq Location] in
theorem setOrder_singleton (location : Location) :
    runtime.setOrder [location] = [location] :=
  List.perm_singleton.mp (runtime.setOrder_perm [location])

theorem replayCloses_single (ledger : FragmentLedger Location Row) (location : Location) :
    (replayCloses runtime ledger [location]).1 = (ledger.closeFragment runtime location).1 := by
  simp only [replayCloses]
  cases result : ledger.closeFragment runtime location with
  | mk _ raised => cases raised <;> rfl

theorem closeFragment_hands_over (indexed : ledger.Indexed)
    (split : ledger.ordered = before ++ fragment :: after)
    (ended : ¬(after = [] ∧ ledger.eosRows = [])) :
    (ledger.closeFragment runtime fragment.location).1 =
      ledger.removeFragment fragment after.head? := by
  rw [closeFragment, closeLocked_split indexed split, if_neg ended]

theorem closeFragment_defers (indexed : ledger.Indexed)
    (split : ledger.ordered = before ++ fragment :: after)
    (open_ended : after = [] ∧ ledger.eosRows = []) :
    (ledger.closeFragment runtime fragment.location).1 =
      { ledger with
        pendingCloseLocations := setAdd fragment.location ledger.pendingCloseLocations } := by
  rw [closeFragment, closeLocked_split indexed split, if_pos open_ended]

theorem Snapshot.openLocked {settled : Location → Bool}
    (snapshot : Snapshot opened settled ledger)
    (fresh : fragment.location ∉ opened.map Fragment.location)
    (unsettled : settled fragment.location = false) :
    Snapshot (opened ++ [fragment]) settled (ledger.openLocked fragment) := by
  have freshHere : fragment.location ∉ ledger.ordered.map Fragment.location := by
    intro member
    rw [snapshot.ordered_eq] at member
    exact fresh (List.map_subset _ (List.filter_subset_self _) member)
  refine { indexed := ?_, ordered_eq := ?_, handed_perm := ?_ }
  · constructor
    · simp only [FragmentLedger.openLocked]
      rw [snapshot.indexed.byLocation_eq, dictSet_pairs freshHere]
    · simp only [FragmentLedger.openLocked, List.map_append, List.map_cons, List.map_nil]
      rw [List.nodup_append]
      refine ⟨snapshot.indexed.distinct, List.nodup_singleton _, ?_⟩
      intro other member same sameEq otherEq
      rw [List.mem_singleton] at sameEq
      rw [otherEq, sameEq] at member
      exact freshHere member
  · simp only [FragmentLedger.openLocked]
    rw [snapshot.ordered_eq, List.filter_append, List.filter_cons_of_pos (by simp [unsettled]),
      List.filter_nil]
  · rw [List.filter_append, List.filter_cons_of_neg (by simp [unsettled]), List.filter_nil,
      List.append_nil]
    exact snapshot.handed_perm

omit [DecidableEq Location] in
theorem lastOpened_open (past : List (Call Location Row)) (fragment : Fragment Location) :
    lastOpened (past ++ [.openFragment fragment]) = some fragment := by
  rw [lastOpened, openedIn_append]
  exact List.getLast?_concat

theorem Tracks.ordered_last {past : List (Call Location Row)} (tracks : Tracks past ledger)
    (newest : lastOpened past = some last) (unsettled : ¬Settled past last.location) :
    ∃ before, ledger.ordered = before ++ [last] := by
  rcases List.getLast?_eq_some_iff.mp newest with ⟨_, openedEq⟩
  rw [tracks.snapshot.ordered_eq, openedEq, List.filter_append,
    List.filter_cons_of_pos (by simpa using unsettled), List.filter_nil]
  exact ⟨_, rfl⟩

/-- A method that leaves every closed fragment settled replays the deferred close. -/
theorem replayDeferred_step (ledger : FragmentLedger Location Row)
    {past : List (Call Location Row)} {made : Call Location Row}
    {base : FragmentLedger Location Row} (pending : base.pendingCloseLocations = deferredIn past)
    (sameRows : base.queuedRows = ledger.queuedRows) (sameId : base.nextRowId = ledger.nextRowId)
    (sameHanded : base.handed = ledger.handed)
    (snapshot : Snapshot (openedIn (past ++ [made]))
      (fun location => decide (Settled past location)) base)
    (distinct : ((openedIn (past ++ [made])).map Fragment.location).Nodup)
    (settledNext : ∀ location, Settled (past ++ [made]) location ↔ location ∈ closedIn past)
    (deferredNext : deferredIn (past ++ [made]) = [])
    (quiet : deferredIn past = [] → (Draining (past ++ [made]) → base.eosRows = []) ∧
      (¬Draining (past ++ [made]) → base.eosRows = eosIn (past ++ [made])))
    (replayed : ∀ last, lastOpened past = some last → last.location ∈ closedIn past →
      ∃ before after, base.ordered = before ++ last :: after ∧
        ¬(after = [] ∧ base.eosRows = []) ∧
        (Draining (past ++ [made]) → (base.removeFragment last after.head?).eosRows = []) ∧
        (¬Draining (past ++ [made]) →
          (base.removeFragment last after.head?).eosRows = eosIn (past ++ [made]))) :
    Tracks (past ++ [made]) (replayCloses runtime base (runtime.setOrder (deferredIn past))).1 ∧
      Settles past made ledger
        (replayCloses runtime base (runtime.setOrder (deferredIn past))).1 := by
  rcases deferredIn_cases past with empty | ⟨last, isLast, deferred, closed, _⟩
  · rw [empty, setOrder_nil]
    have same : ∀ location, Settled (past ++ [made]) location ↔ Settled past location := by
      intro location
      rw [settledNext, settled_iff, empty]
      simp
    refine ⟨{ snapshot := ?_, pending_eq := ?_, eos_eq := quiet empty },
      .quiet sameRows sameId sameHanded same⟩
    · apply snapshot.congr
      intro other _
      simp only [same]
    · rw [deferredNext]
      exact pending.trans empty
  · rw [deferred, setOrder_singleton, replayCloses_single]
    rcases replayed last isLast closed with ⟨before, after, split, ended, eosHeld⟩
    rw [closeFragment_hands_over runtime snapshot.indexed split ended]
    have settles : ∀ location, Settled (past ++ [made]) location ↔
        Settled past location ∨ location = last.location := by
      intro location
      rw [settledNext, settled_iff, deferred, List.mem_singleton]
      constructor
      · intro isClosed
        by_cases same : location = last.location
        · exact .inr same
        · exact .inl ⟨isClosed, same⟩
      · rintro (⟨isClosed, _⟩ | same)
        · exact isClosed
        · rw [same]
          exact closed
    refine ⟨{ snapshot := ?_, pending_eq := ?_, eos_eq := eosHeld },
      .handsOver base before after last sameRows sameId sameHanded snapshot split rfl settles⟩
    · apply (snapshot.publish distinct split _).congr
      intro other _
      rw [← Bool.decide_or]
      simp only [settles]
    · rw [deferredNext]
      simp only [removeFragment, pending, deferred]
      simp

theorem openFragment_step {past : List (Call Location Row)} (tracks : Tracks past ledger)
    (valid : ValidPast past) (nextValid : ValidPast (past ++ [.openFragment fragment]))
    (notDraining : ¬Draining past) :
    Tracks (past ++ [.openFragment fragment]) (ledger.openFragment runtime fragment).1 ∧
      Settles past (.openFragment fragment) ledger (ledger.openFragment runtime fragment).1 := by
  have openedEq : openedIn (past ++ [.openFragment fragment]) = openedIn past ++ [fragment] :=
    openedIn_append past _
  have closedEq : closedIn (past ++ [.openFragment fragment]) = closedIn past :=
    (closedIn_append past _).trans (List.append_nil _)
  have eosEq : eosIn (past ++ [.openFragment fragment]) = eosIn past :=
    (eosIn_append past _).trans (List.append_nil _)
  have fresh : fragment.location ∉ (openedIn past).map Fragment.location := by
    have distinct := nextValid.distinct
    rw [openedEq, List.map_append, List.nodup_append] at distinct
    intro member
    exact distinct.2.2 _ member _ List.mem_cons_self rfl
  have notClosed : fragment.location ∉ closedIn past := by
    intro closed
    exact fresh (valid.closedOpened _ closed)
  have newest := lastOpened_open past fragment
  have notDrainingNext : ¬Draining (past ++ [.openFragment fragment]) := by
    rw [draining_iff newest, closedEq]
    intro draining
    exact notClosed draining.2
  have unsettled : decide (Settled past fragment.location) = false := by
    rw [decide_eq_false_iff_not]
    intro settled
    exact notClosed settled.1
  have eosRows : (ledger.openLocked fragment).eosRows = eosIn (past ++ [.openFragment fragment]) :=
    (tracks.eos_eq.2 notDraining).trans eosEq.symm
  have pending : (ledger.openLocked fragment).pendingCloseLocations = deferredIn past :=
    tracks.pending_eq
  rw [openFragment]
  simp only [pending]
  apply replayDeferred_step runtime ledger pending rfl rfl rfl ?_ nextValid.distinct ?_ ?_
    (fun _ => ⟨fun draining => absurd draining notDrainingNext, fun _ => eosRows⟩)
  · intro last isLast _
    rcases tracks.ordered_last isLast (lastOpened_unsettled isLast notDraining) with
      ⟨before, orderedEq⟩
    refine ⟨before, [fragment], ?_, (fun both => by cases both.1),
      fun draining => absurd draining notDrainingNext, fun _ => eosRows⟩
    simp only [FragmentLedger.openLocked]
    rw [orderedEq, List.append_assoc]
    rfl
  · rw [openedEq]
    exact tracks.snapshot.openLocked fresh unsettled
  · intro location
    rw [Settled, closedEq, newest, eosEq]
    constructor
    · exact And.left
    · intro closed
      refine ⟨closed, .inl ?_⟩
      intro same
      cases same
      exact notClosed closed
  · rcases deferredIn_cases (past ++ [.openFragment fragment]) with empty |
      ⟨last, isLast, _, closed, _⟩
    · exact empty
    · rw [newest] at isLast
      cases isLast
      rw [closedEq] at closed
      exact absurd closed notClosed

section Close

variable {past : List (Call Location Row)}

omit [DecidableEq Location] in
theorem same_location_last (distinct : ((openedIn past).map Fragment.location).Nodup)
    (inOpened : fragment ∈ openedIn past) (newest : lastOpened past = some last) :
    last.location = fragment.location ↔ fragment = last := by
  constructor
  · intro same
    exact fragment_eq_of_location distinct inOpened (List.mem_of_getLast? newest) same.symm
  · intro same
    rw [same]

omit [DecidableEq Location] in
/-- Closing a fragment settles it unless it is the newest one of a stream without end. -/
theorem settled_close_iff (distinct : ((openedIn past).map Fragment.location).Nodup)
    (inOpened : fragment ∈ openedIn past) (newest : lastOpened past = some last)
    (other : Location) :
    Settled (past ++ [.closeFragment fragment.location]) other ↔
      Settled past other ∨
        (other = fragment.location ∧ (fragment ≠ last ∨ eosIn past ≠ [])) := by
  have lastIff : (lastOpened past).map Fragment.location ≠ some fragment.location ↔
      fragment ≠ last := by
    rw [newest, Option.map_some, ne_eq, Option.some.injEq,
      same_location_last distinct inOpened newest]
  rw [Settled, Settled, closedIn_close, lastOpened_close, eosIn_close, List.mem_append,
    List.mem_singleton]
  constructor
  · rintro ⟨closed | here, ended⟩
    · exact .inl ⟨closed, ended⟩
    · rw [here, lastIff] at ended
      exact .inr ⟨here, ended⟩
  · rintro (⟨closed, ended⟩ | ⟨here, ended⟩)
    · exact ⟨.inl closed, ended⟩
    · rw [here, lastIff]
      exact ⟨.inr rfl, ended⟩

omit [DecidableEq Location] in
theorem draining_close_iff (distinct : ((openedIn past).map Fragment.location).Nodup)
    (inOpened : fragment ∈ openedIn past) (newest : lastOpened past = some last)
    (notDraining : ¬Draining past) :
    Draining (past ++ [.closeFragment fragment.location]) ↔
      fragment = last ∧ eosIn past ≠ [] := by
  rw [draining_iff ((lastOpened_close _).trans newest), closedIn_close, eosIn_close,
    List.mem_append, List.mem_singleton, same_location_last distinct inOpened newest]
  constructor
  · rintro ⟨ended, closed | here⟩
    · exact absurd ((draining_iff newest).mpr ⟨ended, closed⟩) notDraining
    · exact ⟨here, ended⟩
  · exact fun draining => ⟨draining.2, .inr draining.1⟩

theorem Tracks.after_eq_nil_iff (tracks : Tracks past ledger) (newest : lastOpened past = some last)
    (notDraining : ¬Draining past) {before after : List (Fragment Location)}
    (split : ledger.ordered = before ++ fragment :: after) : after = [] ↔ fragment = last := by
  rcases tracks.ordered_last newest (lastOpened_unsettled newest notDraining) with
    ⟨others, orderedEq⟩
  have whole : before ++ fragment :: after = others ++ [last] := split.symm.trans orderedEq
  constructor
  · intro noneAfter
    rw [noneAfter] at whole
    exact (List.cons.inj (List.append_inj_right' whole rfl)).1
  · intro same
    by_contra nonempty
    have lastEq : (before ++ fragment :: after).getLast? = some last := by
      rw [whole]
      exact List.getLast?_concat
    rw [List.getLast?_append_of_ne_nil _ (List.cons_ne_nil _ _),
      List.getLast?_cons_of_ne_nil nonempty] at lastEq
    exact tracks.snapshot.indexed.apart split last
      (List.mem_append_right _ (List.mem_of_getLast? lastEq)) (by rw [same])

theorem defers_step (tracks : Tracks past ledger) (newest : lastOpened past = some last)
    (notClosed : last.location ∉ closedIn past) (noEos : eosIn past = [])
    (eosRows : ledger.eosRows = eosIn past)
    (nothingSettled : ∀ other, Settled (past ++ [.closeFragment last.location]) other ↔
      Settled past other) :
    Tracks (past ++ [.closeFragment last.location])
        { ledger with
          pendingCloseLocations := setAdd last.location ledger.pendingCloseLocations } ∧
      Settles past (.closeFragment last.location) ledger
        { ledger with
          pendingCloseLocations := setAdd last.location ledger.pendingCloseLocations } := by
  refine ⟨{ snapshot := ?_, pending_eq := ?_, eos_eq := ⟨?_, ?_⟩ },
    .quiet rfl rfl rfl nothingSettled⟩
  · rw [openedIn_same rfl]
    have same : Snapshot (openedIn past) (fun other => decide (Settled past other))
        { ledger with
          pendingCloseLocations := setAdd last.location ledger.pendingCloseLocations } :=
      { indexed := ⟨tracks.snapshot.indexed.byLocation_eq, tracks.snapshot.indexed.distinct⟩
        ordered_eq := tracks.snapshot.ordered_eq
        handed_perm := tracks.snapshot.handed_perm }
    apply same.congr
    intro other _
    simp only [nothingSettled]
  · rw [deferredIn_of_newest ((lastOpened_close _).trans newest), closedIn_close, eosIn_close,
      if_pos ⟨List.mem_append_right _ List.mem_cons_self, noEos⟩, tracks.pending_eq,
      deferredIn_of_newest newest, if_neg fun deferred => notClosed deferred.1]
    rfl
  · intro draining
    exact absurd ((eosIn_close _).trans noEos) draining.1
  · intro _
    rw [eosIn_close]
    exact eosRows

theorem deferredIn_close (distinct : ((openedIn past).map Fragment.location).Nodup)
    (inOpened : fragment ∈ openedIn past) (newest : lastOpened past = some last)
    (ended : fragment ≠ last ∨ eosIn past ≠ []) :
    deferredIn (past ++ [.closeFragment fragment.location]) = deferredIn past := by
  have same : (last.location ∈ closedIn past ++ [fragment.location] ∧ eosIn past = []) ↔
      (last.location ∈ closedIn past ∧ eosIn past = []) := by
    rw [List.mem_append, List.mem_singleton, same_location_last distinct inOpened newest]
    constructor
    · rintro ⟨closed | isLast, noEos⟩
      · exact ⟨closed, noEos⟩
      · exact absurd noEos (ended.resolve_left fun differs => differs isLast)
    · exact fun deferred => ⟨.inl deferred.1, deferred.2⟩
  rw [deferredIn_of_newest ((lastOpened_close _).trans newest), deferredIn_of_newest newest,
    closedIn_close, eosIn_close]
  simp only [same]

theorem closeFragment_step {location : Location}
    (tracks : Tracks past ledger) (nextValid : ValidPast (past ++ [.closeFragment location]))
    (isOpened : location ∈ (openedIn past).map Fragment.location) (notDraining : ¬Draining past) :
    Tracks (past ++ [.closeFragment location]) (ledger.closeFragment runtime location).1 ∧
      Settles past (.closeFragment location) ledger
        (ledger.closeFragment runtime location).1 := by
  rcases List.mem_map.mp isOpened with ⟨fragment, inOpened, rfl⟩
  have openedEq := @openedIn_same _ _ past (.closeFragment fragment.location) rfl
  have distinct := openedEq ▸ nextValid.distinct
  have notClosed : fragment.location ∉ closedIn past := by
    have closedNodup := nextValid.closedNodup
    rw [closedIn_close, List.nodup_append] at closedNodup
    intro closed
    exact closedNodup.2.2 _ closed _ List.mem_cons_self rfl
  have inOrdered : fragment ∈ ledger.ordered := by
    rw [tracks.snapshot.ordered_eq, List.mem_filter]
    exact ⟨inOpened, by simpa using fun settled : Settled past _ => notClosed settled.1⟩
  rcases List.append_of_mem inOrdered with ⟨before, after, split⟩
  have eosRows := tracks.eos_eq.2 notDraining
  rcases Option.isSome_iff_exists.mp
    (List.getLast?_isSome.mpr (List.ne_nil_of_mem inOpened)) with ⟨last, newest⟩
  have afterIff := tracks.after_eq_nil_iff newest notDraining split
  have settledNext := settled_close_iff distinct inOpened newest
  have drainingNext := draining_close_iff distinct inOpened newest notDraining
  by_cases openEnded : after = [] ∧ ledger.eosRows = []
  · have noEos : eosIn past = [] := eosRows.symm.trans openEnded.2
    rw [closeFragment_defers runtime tracks.snapshot.indexed split openEnded]
    cases afterIff.mp openEnded.1
    apply defers_step tracks newest notClosed noEos eosRows
    intro other
    rw [settledNext, noEos]
    simp
  · have ended : fragment ≠ last ∨ eosIn past ≠ [] := by
      rw [← eosRows]
      by_contra neither
      rw [not_or, not_not, not_not] at neither
      exact openEnded ⟨afterIff.mpr neither.1, neither.2⟩
    have settles : ∀ other, Settled (past ++ [.closeFragment fragment.location]) other ↔
        Settled past other ∨ other = fragment.location := by
      intro other
      rw [settledNext]
      simp only [ended, and_true]
    rw [closeFragment_hands_over runtime tracks.snapshot.indexed split openEnded]
    refine ⟨{ snapshot := ?_, pending_eq := ?_, eos_eq := ⟨?_, ?_⟩ },
      .handsOver ledger before after fragment rfl rfl rfl (by rw [openedEq]; exact tracks.snapshot)
        split rfl settles⟩
    · rw [openedEq]
      apply (tracks.snapshot.publish distinct split _).congr
      intro other _
      rw [← Bool.decide_or]
      simp only [settles]
    · rw [deferredIn_close distinct inOpened newest ended]
      simp only [removeFragment, tracks.pending_eq]
      rw [List.filter_eq_self]
      intro pending deferred
      rw [decide_eq_true_eq]
      rintro rfl
      exact notClosed (mem_deferredIn.mp deferred).2.1
    · intro draining
      rw [afterIff.mpr (drainingNext.mp draining).1]
      rfl
    · intro notNext
      have someAfter : after ≠ [] := by
        intro noneAfter
        have isLast := afterIff.mp noneAfter
        exact notNext (drainingNext.mpr ⟨isLast, ended.resolve_left fun differs =>
          differs isLast⟩)
      rcases List.exists_cons_of_ne_nil someAfter with ⟨_, _, afterEq⟩
      rw [eosIn_close, afterEq]
      exact eosRows

end Close

theorem recordEos_step {past : List (Call Location Row)} {row : Row}
    (tracks : Tracks past ledger) (nextValid : ValidPast (past ++ [.recordEos row]))
    (notDraining : ¬Draining past) :
    Tracks (past ++ [.recordEos row]) (ledger.recordEos runtime row).1 ∧
      Settles past (.recordEos row) ledger (ledger.recordEos runtime row).1 := by
  have openedEq := @openedIn_same _ _ past (.recordEos row) rfl
  have closedEq : closedIn (past ++ [.recordEos row]) = closedIn past :=
    (closedIn_append past _).trans (List.append_nil _)
  have eosEq : eosIn (past ++ [.recordEos row]) = eosIn past ++ [row] := eosIn_append past _
  have newestEq : lastOpened (past ++ [.recordEos row]) = lastOpened past := by
    rw [lastOpened, openedEq]
    rfl
  have noEos : eosIn past = [] := by
    have fewEos := nextValid.fewEos
    rw [eosEq, List.length_append, List.length_singleton] at fewEos
    exact List.eq_nil_of_length_eq_zero (by omega)
  have eosNext : eosIn (past ++ [.recordEos row]) ≠ [] := by
    rw [eosEq]
    exact List.append_ne_nil_of_right_ne_nil _ (List.cons_ne_nil _ _)
  have pending : (ledger.recordEosLocked row).pendingCloseLocations = deferredIn past :=
    tracks.pending_eq
  have recordedRows : (ledger.recordEosLocked row).eosRows = [row] := by
    simp only [recordEosLocked, tracks.eos_eq.2 notDraining, noEos, List.nil_append]
  rw [recordEos]
  simp only [pending]
  apply replayDeferred_step runtime ledger pending rfl rfl rfl ?_ nextValid.distinct ?_ ?_ ?_
  · intro last isLast closed
    rcases tracks.ordered_last isLast (lastOpened_unsettled isLast notDraining) with
      ⟨before, orderedEq⟩
    have draining : Draining (past ++ [.recordEos row]) := by
      rw [draining_iff (newestEq.trans isLast), closedEq]
      exact ⟨eosNext, closed⟩
    refine ⟨before, [], orderedEq, ?_, fun _ => rfl, absurd draining⟩
    rw [recordedRows]
    exact fun both => by cases both.2
  · rw [openedEq]
    exact
      { indexed := ⟨tracks.snapshot.indexed.byLocation_eq, tracks.snapshot.indexed.distinct⟩
        ordered_eq := tracks.snapshot.ordered_eq
        handed_perm := tracks.snapshot.handed_perm }
  · intro location
    rw [Settled, closedEq]
    exact ⟨And.left, fun closed => ⟨closed, .inr eosNext⟩⟩
  · rcases deferredIn_cases (past ++ [.recordEos row]) with empty | ⟨_, _, _, _, noEosNext⟩
    · exact empty
    · exact absurd noEosNext eosNext
  · intro empty
    refine ⟨?_, fun _ => by rw [eosEq, noEos]; exact recordedRows⟩
    rintro ⟨_, last, isLast, closed⟩
    rw [newestEq] at isLast
    rw [closedEq] at closed
    have deferred : last.location ∈ deferredIn past :=
      mem_deferredIn.mpr ⟨by rw [isLast]; rfl, closed, noEos⟩
    rw [empty] at deferred
    cases deferred

end VideoAnalysis.Sink.FragmentLedger
