import VideoAnalysis.Retention.ReadPins

/-! # What a read pin protects

The marker of a reader lists directories and keeps the maintenance process from
deleting just these. What it deletes is a whole subtree, so the files of a reader are
safe as long as no deleted directory is above or below one that is read.
-/

namespace VideoAnalysis.Retention

open Foundation

/-! ## One visit -/

theorem stat_removeEmptyParents (tree : Tree) (depth : Nat) (parent path : Path) :
    (removeEmptyParents tree depth parent).stat path = tree.stat path := by
  induction depth generalizing tree parent with
  | zero => rfl
  | succ _ induction =>
    unfold removeEmptyParents
    split
    · rfl
    · split
      next without removed =>
        rw [induction, FileTree.stat_rmdir removed]
      next => rfl

theorem stat_deleteSegment {tree deleted : Tree} {directory : Path}
    (isDeleted : deleteSegment tree directory = some deleted) (path : Path) :
    deleted.stat path = if directory <+: path then none else tree.stat path := by
  unfold deleteSegment at isDeleted
  split at isDeleted
  next => cases isDeleted
  next =>
    rw [← Option.some.inj isDeleted, stat_removeEmptyParents]
    by_cases below : directory <+: path
    · rw [if_pos below, FileTree.stat_rmtree_of_below below]
    · rw [if_neg below, FileTree.stat_rmtree_of_not_below below]

namespace Sweep

variable {limits : Limits} {tree : Tree} {sweep : Sweep}

theorem stat_visit (path : Path) :
    (sweep.visit limits tree).1.stat path =
      match sweep.deletes limits tree with
      | some candidate => if candidate.directory <+: path then none else tree.stat path
      | none => tree.stat path := by
  unfold visit deletes
  cases sweep.todo with
  | nil =>
    simp only
    split <;> rfl
  | cons candidate =>
    simp only
    by_cases full : sweep.pass = .quota ∧ sweep.remainingBytes ≤ limits.maxBytes
    · rw [if_pos full, if_pos full]
    · rw [if_neg full, if_neg full]
      cases taken : sweep.takes limits tree candidate with
      | false => simp
      | true =>
        cases dry : limits.dryRun with
        | true => simp
        | false =>
          by_cases root : candidate.directory = []
          · simp [root, deleteSegment]
          · cases isDeleted : deleteSegment tree candidate.directory with
            | none => simp [deleteSegment, root] at isDeleted
            | some => simp [root, stat_deleteSegment isDeleted]

theorem visit_pinned {next : Sweep} (goesOn : (sweep.visit limits tree).2 = some next) :
    next.pinned = sweep.pinned := by
  unfold visit at goesOn
  split at goesOn
  next =>
    split at goesOn
    · rw [← Option.some.inj goesOn]
    · cases goesOn
  next =>
    split at goesOn
    · cases goesOn
    · split at goesOn
      · split at goesOn
        · rw [← Option.some.inj goesOn]
          rfl
        · split at goesOn
          · rw [← Option.some.inj goesOn]
            rfl
          · cases goesOn
      · rw [← Option.some.inj goesOn]

theorem deletes_spec {candidate : SegmentCandidate}
    (deleted : sweep.deletes limits tree = some candidate) :
    candidate.directory ∉ sweep.pinned ∧
      ∃ identity, tree.stat candidate.metadataPath = some identity := by
  unfold deletes at deleted
  split at deleted
  next => cases deleted
  next =>
    split at deleted
    next => cases deleted
    next =>
      split at deleted
      next taken =>
        rw [← Option.some.inj deleted]
        have passed := taken.1
        simp only [takes, Bool.and_eq_true, Bool.not_eq_true', List.contains_eq_mem,
          decide_eq_false_iff_not] at passed
        refine ⟨passed.1.2, ?_⟩
        have unchanged := passed.2
        unfold isUnchangedAndStable at unchanged
        split at unchanged
        next metadata _ isMetadata _ => exact ⟨metadata, isMetadata⟩
        next => cases unchanged
      next => cases deleted

end Sweep

/-! ## The pins that a sweep loads -/

theorem loadActiveReadPins_pin {corruptPinTtl now expiresAt : Int} {token : Token}
    {segments : List PinnedPath} (unexpired : now < expiresAt) {markers : List (Token × Marker)}
    (found : Dict.lookup token markers = some (.pin expiresAt segments)) :
    Dict.lookup token (loadActiveReadPins corruptPinTtl now markers).markers =
        some (.pin expiresAt segments) ∧
      ((loadActiveReadPins corruptPinTtl now markers).raised = false →
        ∀ path ∈ insidePaths segments,
          path ∈ (loadActiveReadPins corruptPinTtl now markers).active) := by
  induction markers with
  | nil => cases found
  | cons entry _ induction =>
    rcases entry with ⟨_, marker⟩
    cases marker with
    | noObject =>
      simp only [Dict.lookup] at found
      split at found
      next => cases found
      next different => simp [loadActiveReadPins, Dict.lookup, different, found]
    | unreadable =>
      simp only [Dict.lookup] at found
      split at found
      next => cases found
      next different =>
        unfold loadActiveReadPins
        split
        · exact induction found
        · simp only [Dict.lookup, if_neg different]
          exact induction found
    | pin _ listed =>
      simp only [Dict.lookup] at found
      unfold loadActiveReadPins
      split at found
      next same =>
        rcases Option.some.inj found with ⟨rfl, rfl⟩
        rw [if_neg (by omega)]
        simp only [Dict.lookup, if_pos same, true_and]
        intro _ path listed
        exact List.mem_append_left _ listed
      next different =>
        split
        · exact induction found
        · simp only [Dict.lookup, if_neg different]
          refine ⟨(induction found).1, ?_⟩
          intro returned path listed
          exact List.mem_append_right _ ((induction found).2 returned path listed)

/-! ## The state of the cache between two steps -/

namespace Reader

def pin : Reader → Option ReadPin
  | checked pin | published pin | reading pin | leaving pin => some pin
  | waiting | locked | chosen _ _ | unlinked | done => none

def marked : Reader → Option ReadPin
  | published pin | reading pin | leaving pin => some pin
  | waiting | locked | chosen _ _ | checked _ | unlinked | done => none

def yielded : Reader → Option ReadPin
  | reading pin | leaving pin => some pin
  | waiting | locked | chosen _ _ | checked _ | published _ | unlinked | done => none

variable {pin : ReadPin} {reader : Reader}

theorem marked_of_yielded (isYielded : reader.yielded = some pin) :
    reader.marked = some pin := by
  cases reader <;> first | exact isYielded | cases isYielded

theorem pin_of_marked (isMarked : reader.marked = some pin) :
    reader.pin = some pin := by
  cases reader <;> first | exact isMarked | cases isMarked

theorem reading_of_unlocked (isPin : reader.pin = some pin)
    (unlocked : reader.holdsLock = false) : reader = .reading pin := by
  cases reader with
  | reading => rw [Option.some.inj isPin]
  | checked _ | published _ | leaving _ => cases unlocked
  | waiting | locked | chosen _ _ | unlinked | done => cases isPin

end Reader

theorem OfferedSegment.metadataPath_below (segment : OfferedSegment) :
    segment.directory <+: segment.metadataPath :=
  List.prefix_append _ _

theorem OfferedSegment.videoPath_below (segment : OfferedSegment) :
    segment.directory <+: segment.videoPath :=
  List.prefix_append _ _

theorem SegmentCandidate.metadataPath_below (candidate : SegmentCandidate) :
    candidate.directory <+: candidate.metadataPath :=
  List.prefix_append _ _

/-- The files of a checked segment are the ones that were checked. -/
def Intact (tree : Tree) (checked : CheckedSegment) : Prop :=
  tree.stat checked.segment.metadataPath = some checked.metadata ∧
    tree.stat checked.segment.videoPath = some checked.video

/-- What one process relies on of the others. -/
structure Guarded (cache : Cache) : Prop where
  exclusive : cache.maintenance.holdsLock = true → ∀ token reader,
    cache.readers.get token = some reader → reader.holdsLock = false
  intact : ∀ token reader pin, cache.readers.get token = some reader → reader.pin = some pin →
    cache.clock < pin.expiresAt → ∀ checked ∈ pin.segments, Intact cache.tree checked
  marked : ∀ token reader pin, cache.readers.get token = some reader →
    reader.marked = some pin → cache.clock < pin.expiresAt →
      cache.markers.get token = some pin.marker
  early : ∀ now candidates, cache.maintenance = .discovering now candidates ∨
    cache.maintenance = .locked now candidates → now ≤ cache.clock
  pinned : ∀ sweep, cache.maintenance = .sweeping sweep → ∀ token reader pin,
    cache.readers.get token = some reader → reader.marked = some pin →
      cache.clock < pin.expiresAt →
        ∀ checked ∈ pin.segments, checked.segment.directory ∈ sweep.pinned

namespace Guarded

variable {cache : Cache}

theorem initial (limits : Limits) (start : limits.cacheMachine.initial cache) :
    Guarded cache := by
  rcases start with ⟨noReaders, idle⟩
  have absent : ∀ token, cache.readers.get token = none := by
    intro token
    rw [noReaders, Dict.get_empty]
  constructor <;> simp [absent, idle]

variable {reader : Reader} {token : Token}

theorem withReader (guarded : Guarded cache)
    (free : reader.holdsLock = true → cache.maintenance.holdsLock = false)
    (intact : ∀ pin, reader.pin = some pin → cache.clock < pin.expiresAt →
      ∀ checked ∈ pin.segments, Intact cache.tree checked)
    (marked : ∀ pin, reader.marked = some pin → cache.clock < pin.expiresAt →
      cache.markers.get token = some pin.marker)
    (unswept : ∀ pin, reader.marked = some pin → cache.maintenance.holdsLock = false) :
    Guarded (cache.withReader token reader) := by
  constructor
  · intro held other found isFound
    simp only [Cache.withReader, Dict.get_set] at isFound
    split at isFound
    next =>
      rw [← Option.some.inj isFound]
      cases holds : reader.holdsLock with
      | false => rfl
      | true =>
        have isFree := free holds
        rw [Cache.withReader] at held
        rw [held] at isFree
        cases isFree
    next => exact guarded.exclusive held other found isFound
  · intro other found pin isFound isPin
    simp only [Cache.withReader, Dict.get_set] at isFound
    split at isFound
    next =>
      rw [← Option.some.inj isFound] at isPin
      exact intact pin isPin
    next => exact guarded.intact other found pin isFound isPin
  · intro other found pin isFound isMarked
    simp only [Cache.withReader, Dict.get_set] at isFound
    split at isFound
    next same =>
      rw [← Option.some.inj isFound] at isMarked
      rw [same]
      exact marked pin isMarked
    next => exact guarded.marked other found pin isFound isMarked
  · exact guarded.early
  · intro sweep sweeping other found pin isFound isMarked
    simp only [Cache.withReader, Dict.get_set] at isFound
    split at isFound
    next =>
      rw [← Option.some.inj isFound] at isMarked
      have isFree := unswept pin isMarked
      rw [Cache.withReader] at sweeping
      rw [sweeping] at isFree
      cases isFree
    next => exact guarded.pinned sweep sweeping other found pin isFound isMarked

theorem withReader_none (guarded : Guarded cache)
    (free : reader.holdsLock = true → cache.maintenance.holdsLock = false)
    (noPin : reader.pin = none) : Guarded (cache.withReader token reader) := by
  have noMark : reader.marked = none := by
    cases isMarked : reader.marked with
    | none => rfl
    | some => rw [Reader.pin_of_marked isMarked] at noPin; cases noPin
  apply guarded.withReader free
  · simp [noPin]
  all_goals simp [noMark]

theorem withMarkers (guarded : Guarded cache) {markers : Dict Token Marker}
    (kept : ∀ token reader pin, cache.readers.get token = some reader →
      reader.marked = some pin → cache.clock < pin.expiresAt →
        cache.markers.get token = some pin.marker → markers.get token = some pin.marker) :
    Guarded (cache.withMarkers markers) where
  exclusive := guarded.exclusive
  intact := guarded.intact
  marked := by
    intro token reader pin isReader isMarked unexpired
    exact kept token reader pin isReader isMarked unexpired
      (guarded.marked token reader pin isReader isMarked unexpired)
  early := guarded.early
  pinned := guarded.pinned

theorem withTree (guarded : Guarded cache) {tree : Tree}
    (intact : ∀ token reader pin, cache.readers.get token = some reader →
      reader.pin = some pin → cache.clock < pin.expiresAt →
        ∀ checked ∈ pin.segments, Intact cache.tree checked → Intact tree checked) :
    Guarded (cache.withTree tree) where
  exclusive := guarded.exclusive
  intact := by
    intro token reader pin isReader isPin unexpired checked member
    exact intact token reader pin isReader isPin unexpired checked member
      (guarded.intact token reader pin isReader isPin unexpired checked member)
  marked := guarded.marked
  early := guarded.early
  pinned := guarded.pinned

theorem withMaintenance (guarded : Guarded cache) {maintenance : Maintenance}
    (exclusive : maintenance.holdsLock = true → ∀ token reader,
      cache.readers.get token = some reader → reader.holdsLock = false)
    (early : ∀ now candidates, maintenance = .discovering now candidates ∨
      maintenance = .locked now candidates → now ≤ cache.clock)
    (pinned : ∀ sweep, maintenance = .sweeping sweep → ∀ token reader pin,
      cache.readers.get token = some reader → reader.marked = some pin →
        cache.clock < pin.expiresAt →
          ∀ checked ∈ pin.segments, checked.segment.directory ∈ sweep.pinned) :
    Guarded (cache.withMaintenance maintenance) where
  exclusive := exclusive
  intact := guarded.intact
  marked := guarded.marked
  early := early
  pinned := pinned

theorem earlier_of_tick {clock expiresAt : Int} {elapsed : Nat}
    (unexpired : clock + elapsed < expiresAt) : clock < expiresAt := by
  omega

theorem tick (guarded : Guarded cache) (elapsed : Nat) :
    Guarded { cache with clock := cache.clock + elapsed } where
  exclusive := guarded.exclusive
  intact := by
    intro token reader pin isReader isPin unexpired
    exact guarded.intact token reader pin isReader isPin (earlier_of_tick unexpired)
  marked := by
    intro token reader pin isReader isMarked unexpired
    exact guarded.marked token reader pin isReader isMarked (earlier_of_tick unexpired)
  early := by
    intro now candidates isEarly
    have before := guarded.early now candidates isEarly
    change now ≤ cache.clock + elapsed
    omega
  pinned := by
    intro sweep sweeping token reader pin isReader isMarked unexpired
    exact guarded.pinned sweep sweeping token reader pin isReader isMarked (earlier_of_tick unexpired)

theorem free (guarded : Guarded cache) (isReader : cache.readers.get token = some reader)
    (holds : reader.holdsLock = true) :
    cache.maintenance.holdsLock = false := by
  cases held : cache.maintenance.holdsLock with
  | false => rfl
  | true =>
    rw [guarded.exclusive held token reader isReader] at holds
    cases holds

end Guarded

/-! ## The steps of a reader -/

theorem checkSegment_intact {tree : Tree} {segment : OfferedSegment} {checked : CheckedSegment}
    (passed : checkSegment tree segment = some checked) : Intact tree checked := by
  unfold checkSegment at passed
  split at passed
  next metadata video isMetadata isVideo =>
    split at passed
    · cases passed
    · split at passed
      · split at passed
        · rw [← Option.some.inj passed]
          exact ⟨isMetadata, isVideo⟩
        · cases passed
      · rw [← Option.some.inj passed]
        exact ⟨isMetadata, isVideo⟩
  next => cases passed

theorem checkSegments_intact {tree : Tree} {segments : List OfferedSegment}
    {checked : List CheckedSegment} (passed : segments.mapM (checkSegment tree) = some checked) :
    ∀ one ∈ checked, Intact tree one := by
  induction segments generalizing checked with
  | nil =>
    rw [List.mapM_nil, Option.pure_def, Option.some.injEq] at passed
    simp [← passed]
  | cons _ _ induction =>
    simp only [List.mapM_cons, Option.bind_eq_bind, Option.bind_eq_some_iff, Option.pure_def,
      Option.some.injEq] at passed
    rcases passed with ⟨_, isFirst, _, areOthers, rfl⟩
    rw [List.forall_mem_cons]
    exact ⟨checkSegment_intact isFirst, induction areOthers⟩

theorem readerStep_guarded {cache next : Cache} {label : Step} (guarded : Guarded cache)
    (stepped : cache.readerStep label = some next) : Guarded next := by
  cases label with
  | lockShared token =>
    simp only [Cache.readerStep] at stepped
    split at stepped
    next => cases stepped
    next unheld =>
      have isFree : cache.maintenance.holdsLock = false := Bool.eq_false_iff.2 unheld
      split at stepped
      next =>
        cases stepped
        exact guarded.withReader_none (fun _ => isFree) rfl
      next pin isReader =>
        cases stepped
        exact guarded.withReader (fun _ => isFree)
          (fun pin isPin => guarded.intact token _ pin isReader isPin)
          (fun pin isMarked => guarded.marked token _ pin isReader isMarked)
          (fun _ _ => isFree)
      next => cases stepped
  | choose =>
    simp only [Cache.readerStep] at stepped
    split at stepped
    next isReader =>
      cases stepped
      exact guarded.withReader_none (fun _ => guarded.free isReader rfl) rfl
    next => cases stepped
  | check =>
    simp only [Cache.readerStep] at stepped
    split at stepped
    next ttl segments isReader =>
      have isFree := guarded.free isReader rfl
      split at stepped
      next checked passed =>
        cases stepped
        apply guarded.withReader (fun _ => isFree)
        · intro pin isPin _
          rw [← Option.some.inj isPin]
          exact checkSegments_intact passed
        · intro pin isMarked
          cases isMarked
        · intro _ _
          exact isFree
      next =>
        cases stepped
        exact guarded.withReader_none (fun _ => isFree) rfl
    next => cases stepped
  | publishMarker token =>
    simp only [Cache.readerStep] at stepped
    split at stepped
    next pin isReader =>
      cases stepped
      have marked : Guarded (cache.withMarkers (cache.markers.set token pin.marker)) := by
        apply guarded.withMarkers
        intro other found otherPin isFound isMarked _ before
        by_cases same : other = token
        · rw [same, isReader] at isFound
          rw [← Option.some.inj isFound] at isMarked
          cases isMarked
        · rw [Dict.get_set_of_ne _ _ same, before]
      apply marked.withReader
      · intro _
        exact guarded.free isReader rfl
      · intro other isPin
        exact guarded.intact token _ other isReader isPin
      · intro other isMarked _
        rw [← Option.some.inj isMarked]
        exact Dict.get_set_self _ _ _
      · intro _ _
        exact guarded.free isReader rfl
    next => cases stepped
  | unlock token =>
    simp only [Cache.readerStep] at stepped
    split at stepped
    next pin isReader =>
      cases stepped
      exact guarded.withReader (fun _ => guarded.free isReader rfl)
        (fun pin isPin => guarded.intact token _ pin isReader isPin)
        (fun pin isMarked => guarded.marked token _ pin isReader isMarked)
        (fun _ _ => guarded.free isReader rfl)
    next isReader =>
      cases stepped
      exact guarded.withReader_none (fun _ => guarded.free isReader rfl) rfl
    next => cases stepped
  | unlink token =>
    simp only [Cache.readerStep] at stepped
    split at stepped
    next pin isReader =>
      cases stepped
      have unlinked : Guarded (cache.withReader token .unlinked) :=
        guarded.withReader_none (fun _ => guarded.free isReader rfl) rfl
      apply unlinked.withMarkers
      intro other found otherPin isFound isMarked _ before
      by_cases same : other = token
      · simp only [Cache.withReader, same, Dict.get_set_self] at isFound
        rw [← Option.some.inj isFound] at isMarked
        cases isMarked
      · rw [Dict.get_erase_of_ne _ same]
        exact before
    next => cases stepped
  | die =>
    simp only [Cache.readerStep] at stepped
    cases stepped
    exact guarded.withReader_none (fun holds => absurd holds (by simp [Reader.holdsLock])) rfl
  | _ => cases stepped

/-! ## The steps of the maintenance process -/

/-- The files that a reader still has, from the moment that its segments are yielded
until it has unlinked its marker or its time is over. -/
def Live (cache : Cache) (token : Token) (pin : ReadPin) : Prop :=
  (∃ reader, cache.readers.get token = some reader ∧ reader.yielded = some pin) ∧
    cache.clock < pin.expiresAt

/-- No directory that the step deletes is above or below one that is read. -/
def Unnested (limits : Limits) (cache : Cache) (label : Step) : Prop :=
  label = .visit → ∀ sweep candidate, cache.maintenance = .sweeping sweep →
    sweep.deletes limits cache.tree = some candidate →
      ∀ token pin, Live cache token pin → ∀ checked ∈ pin.segments,
        candidate.directory <+: checked.segment.directory ∨
            checked.segment.directory <+: candidate.directory →
          candidate.directory = checked.segment.directory

/-- The step deletes no file of a yielded directory, and the files of what is yielded
after it are the ones that were checked. -/
structure PinSafe (cache : Cache) (label : Step) (next : Cache) : Prop where
  kept : label = .visit → ∀ token pin, Live cache token pin → ∀ checked ∈ pin.segments,
    ∀ path, checked.segment.directory <+: path → next.tree.stat path = cache.tree.stat path
  intact : ∀ token pin, Live next token pin → ∀ checked ∈ pin.segments, Intact next.tree checked

section

variable {limits : Limits} {cache next : Cache} {sweep : Sweep}

theorem visit_next (sweeping : cache.maintenance = .sweeping sweep)
    (stepped : limits.maintenanceStep cache .visit = some next) :
    next = (cache.withTree (sweep.visit limits cache.tree).1).withMaintenance
      ((sweep.visit limits cache.tree).2.elim .idle .sweeping) := by
  simp only [Limits.maintenanceStep, sweeping] at stepped
  exact (Option.some.inj stepped).symm

theorem visit_kept (guarded : Guarded cache) (unnested : Unnested limits cache .visit)
    (sweeping : cache.maintenance = .sweeping sweep) {token : Token} {reader : Reader}
    {pin : ReadPin} (isReader : cache.readers.get token = some reader)
    (isMarked : reader.marked = some pin) (unexpired : cache.clock < pin.expiresAt)
    {checked : CheckedSegment} (member : checked ∈ pin.segments) {path : Path}
    (below : checked.segment.directory <+: path) :
    (sweep.visit limits cache.tree).1.stat path = cache.tree.stat path := by
  rw [Sweep.stat_visit]
  cases deleted : sweep.deletes limits cache.tree with
  | none => rfl
  | some candidate =>
    have unlocked : reader.holdsLock = false :=
      guarded.exclusive (by rw [sweeping]; rfl) token reader isReader
    have isYielded : reader.yielded = some pin := by
      rw [Reader.reading_of_unlocked (Reader.pin_of_marked isMarked) unlocked]
      rfl
    have live : Live cache token pin := ⟨⟨reader, isReader, isYielded⟩, unexpired⟩
    have isPinned :=
      guarded.pinned sweep sweeping token reader pin isReader isMarked unexpired checked member
    have different : candidate.directory ≠ checked.segment.directory := by
      intro same
      exact (Sweep.deletes_spec deleted).1 (same ▸ isPinned)
    apply if_neg
    intro above
    exact different (unnested rfl sweep candidate sweeping deleted token pin live checked member
      (List.prefix_or_prefix_of_prefix above below))

theorem intact_of_kept {tree other : Tree} {checked : CheckedSegment}
    (kept : ∀ path, checked.segment.directory <+: path → other.stat path = tree.stat path)
    (intact : Intact tree checked) : Intact other checked := by
  unfold Intact
  rw [kept _ checked.segment.metadataPath_below, kept _ checked.segment.videoPath_below]
  exact intact

theorem loadPins_guarded {now : Int} {candidates : List SegmentCandidate}
    (guarded : Guarded cache) (locked : cache.maintenance = .locked now candidates)
    (stepped : limits.maintenanceStep cache .loadPins = some next) : Guarded next := by
  simp only [Limits.maintenanceStep, locked] at stepped
  have early := guarded.early now candidates (Or.inr locked)
  have found : ∀ token reader pin, cache.readers.get token = some reader →
      reader.marked = some pin → cache.clock < pin.expiresAt → now < pin.expiresAt ∧
        Dict.lookup token cache.markers.entries = some pin.marker := by
    intro token reader pin isReader isMarked unexpired
    exact ⟨by omega, guarded.marked token reader pin isReader isMarked unexpired⟩
  have kept : Guarded (cache.withMarkers
      ⟨(loadActiveReadPins (max oneSecond limits.readPinTtl) now
        cache.markers.entries).markers⟩) := by
    apply guarded.withMarkers
    intro token reader pin isReader isMarked unexpired _
    rcases found token reader pin isReader isMarked unexpired with ⟨later, isThere⟩
    exact (loadActiveReadPins_pin later isThere).1
  split at stepped
  next =>
    cases stepped
    apply kept.withMaintenance <;> simp [Maintenance.holdsLock]
  next returned =>
    cases stepped
    apply kept.withMaintenance
    · intro _
      exact guarded.exclusive (by rw [locked]; rfl)
    · intro _ _ isEarly
      rcases isEarly with isEarly | isEarly <;> cases isEarly
    · intro sweep isSweep token reader pin isReader isMarked unexpired checked member
      rw [← Maintenance.sweeping.inj isSweep]
      rcases found token reader pin isReader isMarked unexpired with ⟨later, isThere⟩
      apply (loadActiveReadPins_pin later isThere).2 (Bool.eq_false_iff.2 returned)
      exact List.mem_filterMap.2 ⟨_, List.mem_map_of_mem member, rfl⟩

theorem visit_guarded (guarded : Guarded cache) (unnested : Unnested limits cache .visit)
    (sweeping : cache.maintenance = .sweeping sweep)
    (stepped : limits.maintenanceStep cache .visit = some next) : Guarded next := by
  rw [visit_next sweeping stepped]
  have exclusive := guarded.exclusive (by rw [sweeping]; rfl)
  have kept : Guarded (cache.withTree (sweep.visit limits cache.tree).1) := by
    apply guarded.withTree
    intro token reader pin isReader isPin unexpired checked member intact
    have unlocked := exclusive token reader isReader
    have isMarked : reader.marked = some pin := by
      rw [Reader.reading_of_unlocked isPin unlocked]
      rfl
    apply intact_of_kept _ intact
    intro path below
    exact visit_kept guarded unnested sweeping isReader isMarked unexpired member below
  apply kept.withMaintenance
  · intro _
    exact exclusive
  · intro now candidates isEarly
    cases goesOn : (sweep.visit limits cache.tree).2 with
    | none | some => simp [goesOn] at isEarly
  · intro later isLater token reader pin isReader isMarked unexpired checked member
    cases goesOn : (sweep.visit limits cache.tree).2 with
    | none => simp [goesOn] at isLater
    | some =>
      simp only [goesOn, Option.elim_some] at isLater
      rw [← Maintenance.sweeping.inj isLater, Sweep.visit_pinned goesOn]
      exact guarded.pinned sweep sweeping token reader pin isReader isMarked unexpired checked
        member

variable {label : Step}

section

variable (guarded : Guarded cache) (unnested : Unnested limits cache label)

include guarded unnested

theorem maintenanceStep_guarded (stepped : limits.maintenanceStep cache label = some next) :
    Guarded next := by
  cases label with
  | startCleanup =>
    simp only [Limits.maintenanceStep] at stepped
    split at stepped
    next =>
      cases stepped
      apply guarded.withMaintenance <;> simp [Maintenance.holdsLock]
    next => cases stepped
  | discover =>
    simp only [Limits.maintenanceStep] at stepped
    split at stepped
    next now candidates discovering =>
      cases stepped
      have early := guarded.early now candidates (Or.inl discovering)
      apply guarded.withMaintenance <;> simp [Maintenance.holdsLock, early]
    next => cases stepped
  | lockExclusive =>
    simp only [Limits.maintenanceStep] at stepped
    split at stepped
    next now candidates discovering =>
      have early := guarded.early now candidates (Or.inl discovering)
      split at stepped
      next => cases stepped
      next unheld =>
        cases stepped
        apply guarded.withMaintenance
        · intro _ token reader isReader
          cases holds : reader.holdsLock with
          | false => rfl
          | true =>
            exact absurd (List.any_eq_true.2
              ⟨reader, List.mem_map_of_mem (Dict.mem_of_get isReader), holds⟩) unheld
        · simp [early]
        · simp
    next => cases stepped
  | loadPins =>
    cases phase : cache.maintenance with
    | locked => exact loadPins_guarded guarded phase stepped
    | _ => simp [Limits.maintenanceStep, phase] at stepped
  | visit =>
    cases phase : cache.maintenance with
    | sweeping => exact visit_guarded guarded unnested phase stepped
    | _ => simp [Limits.maintenanceStep, phase] at stepped
  | _ => cases stepped

/-! ## Runs -/

theorem step_guarded (stepped : limits.step cache label = some next) :
    Guarded next := by
  unfold Limits.step at stepped
  split at stepped
  next elapsed =>
    cases stepped
    exact guarded.tick elapsed
  next directory files =>
    split at stepped
    next vacant =>
      cases stepped
      apply guarded.withTree
      intro _ _ _ _ _ _ checked _ intact
      exact ⟨FileTree.stat_moveIn_of_vacant vacant files intact.1,
        FileTree.stat_moveIn_of_vacant vacant files intact.2⟩
    next => cases stepped
  next token =>
    split at stepped
    next =>
      cases stepped
      exact guarded.withReader_none (fun holds => absurd holds (by simp [Reader.holdsLock])) rfl
    next => cases stepped
  on_goal 6 => exact readerStep_guarded guarded stepped
  all_goals exact maintenanceStep_guarded guarded unnested stepped

theorem Guarded.pinSafe (stepped : limits.step cache label = some next) :
    PinSafe cache label next := by
  have after := step_guarded guarded unnested stepped
  constructor
  · rintro rfl token pin ⟨⟨reader, isReader, isYielded⟩, unexpired⟩ checked member path below
    change limits.maintenanceStep cache .visit = some next at stepped
    cases phase : cache.maintenance with
    | sweeping =>
      rw [visit_next phase stepped]
      exact visit_kept guarded unnested phase isReader (Reader.marked_of_yielded isYielded)
        unexpired member below
    | _ => simp [Limits.maintenanceStep, phase] at stepped
  · rintro token pin ⟨⟨reader, isReader, isYielded⟩, unexpired⟩
    exact after.intact token reader pin isReader
      (Reader.pin_of_marked (Reader.marked_of_yielded isYielded)) unexpired

end

theorem Guarded.unnested (guarded : Guarded cache) (safe : PinSafe cache label next)
    (stepped : limits.step cache label = some next) :
    Unnested limits cache label := by
  rintro rfl sweep candidate sweeping deleted token pin live checked member nested
  have kept := safe.kept rfl token pin live checked member
  rcases live with ⟨⟨reader, isReader, isYielded⟩, unexpired⟩
  rw [visit_next sweeping stepped] at kept
  have gone : ∀ path, candidate.directory <+: path →
      (sweep.visit limits cache.tree).1.stat path = none := by
    intro path above
    rw [Sweep.stat_visit, deleted]
    exact if_pos above
  rcases nested with above | below
  · have intact := guarded.intact token reader pin isReader
      (Reader.pin_of_marked (Reader.marked_of_yielded isYielded)) unexpired checked member
    have same := kept _ checked.segment.metadataPath_below
    rw [intact.1] at same
    change (sweep.visit limits cache.tree).1.stat _ = _ at same
    rw [gone _ (above.trans checked.segment.metadataPath_below)] at same
    cases same
  · rcases (Sweep.deletes_spec deleted).2 with ⟨_, isThere⟩
    have same := kept _ (below.trans candidate.metadataPath_below)
    rw [isThere] at same
    change (sweep.visit limits cache.tree).1.stat _ = _ at same
    rw [gone _ candidate.metadataPath_below] at same
    cases same

end

/-- In a run from any cache tree the files of yielded segments are safe at every step
just where no step deletes a directory above or below a yielded one. -/
theorem read_pins_protect_iff (limits : Limits) {start : Cache}
    (initial : limits.cacheMachine.initial start) (labels : List Step) :
    limits.cacheMachine.EachStep PinSafe start labels ↔
      limits.cacheMachine.EachStep (fun cache label _ => Unnested limits cache label) start
        labels := by
  refine Machine.eachStep_iff ?_ ?_ (Guarded.initial limits initial) labels
  · intro cache label next guarded stepped
    constructor
    · intro safe
      exact guarded.unnested safe stepped
    · intro unnested
      exact guarded.pinSafe unnested stepped
  · intro cache label next guarded stepped unnested
    exact step_guarded guarded unnested stepped

/-! ## A stray segment above the published ones -/

def seconds (count : Int) : Int := count * oneSecond

def hourlyLimits : Limits where
  retention := seconds 300
  maxBytes := 0
  readPinTtl := seconds 600
  stabilityAge := seconds 5
  dryRun := false

def gateDirectory : Path := ["midterm", "epochs", "e1", "gate"]

def gateSegment : OfferedSegment where
  directory := gateDirectory ++ ["segments", "s1-00000001"]
  videoFile := "video.mov"
  sizeBytes := 4096
  expected := none

/-- An hour-old segment lies right in the directory of a source, above its published
segments. -/
def strayCache : Cache where
  clock := seconds 3600
  tree := ⟨⟨[
    (gateDirectory ++ ["metadata.json"], .file ⟨1, 10, 300, 0⟩),
    (gateDirectory ++ ["video.mov"], .file ⟨1, 11, 2048, 0⟩),
    (gateSegment.metadataPath, .file ⟨1, 20, 500, seconds 3590⟩),
    (gateSegment.videoPath, .file ⟨1, 21, 4096, seconds 3590⟩)]⟩⟩
  markers := ∅
  readers := ∅
  maintenance := .idle

def strayRun : List Step :=
  [.arrive 0, .lockShared 0, .choose 0 (seconds 600) [gateSegment], .check 0, .publishMarker 0,
    .unlock 0, .startCleanup, .discover gateDirectory, .lockExclusive, .loadPins, .visit]

def gatePin : ReadPin where
  expiresAt := seconds 4200
  segments := [⟨gateSegment, ⟨1, 20, 500, seconds 3590⟩, ⟨1, 21, 4096, seconds 3590⟩⟩]

theorem stray_run_protected_iff :
    hourlyLimits.cacheMachine.EachStep PinSafe strayCache strayRun ↔
      hourlyLimits.cacheMachine.EachStep
        (fun cache label _ => Unnested hourlyLimits cache label) strayCache strayRun :=
  read_pins_protect_iff hourlyLimits ⟨rfl, rfl⟩ strayRun

/-- The retention of the stray segment takes the pinned one with it. -/
theorem stray_segment_takes_pinned :
    hourlyLimits.cacheMachine.initial strayCache ∧
      ¬∀ labels final, hourlyLimits.cacheMachine.run strayCache labels = some final →
        ∀ token pin, Live final token pin → ∀ checked ∈ pin.segments,
          Intact final.tree checked := by
  refine ⟨⟨rfl, rfl⟩, ?_⟩
  intro safe
  have reached : (hourlyLimits.cacheMachine.run strayCache strayRun).any (fun final =>
      decide (final.readers.get 0 = some (.reading gatePin)) &&
        decide (final.clock < gatePin.expiresAt) &&
        decide (final.tree.stat gateSegment.metadataPath = none)) = true := by
    decide +kernel
  cases ran : hourlyLimits.cacheMachine.run strayCache strayRun with
  | none => rw [ran] at reached; cases reached
  | some final =>
    rw [ran] at reached
    simp only [Option.any_some, Bool.and_eq_true, decide_eq_true_eq] at reached
    rcases reached with ⟨⟨isReader, unexpired⟩, gone⟩
    have intact := safe strayRun final ran 0 gatePin ⟨⟨_, isReader, rfl⟩, unexpired⟩ _
      List.mem_cons_self
    rw [intact.1] at gone
    cases gone

end VideoAnalysis.Retention
