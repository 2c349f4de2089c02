import VideoAnalysis.Foundation.Machine
import VideoAnalysis.SegmentIndex.OneName

/-! # Catalogs over whole runs

A rebuild leaves each directory under one name, whatever the catalog held; a refresh
keeps it so. A run is a sequence of rebuilds, refreshes, consumptions of the journals and
searches, each over file systems of its own.
-/

namespace VideoAnalysis.SegmentIndex

open Foundation Python
open Program (ensures_bind ensures_current ensures_perform ensures_pure ensures_query perform)

variable {config : IndexConfig} {within : FilePath → Prop} {before after catalog : Catalog}
  {allowed : Catalog → CatalogAction → Prop}

/-! ## Rebuilding -/

theorem metadataOnly_subset (paths : List FilePath) (catalog : Catalog) :
    (metadataOnly config paths).Ensures (Catalog.apply config) allowed
      (fun found _ => ∀ path ∈ found, path ∈ paths) catalog := by
  induction paths generalizing catalog with
  | nil => exact fun _ member => member
  | cons _ _ induction =>
    simp only [metadataOnly, ensures_bind, ensures_query, ensures_orRaise,
      ensures_pure]
    intro content isCandidate _
    refine (induction catalog).mono fun others _ subset => ?_
    split
    next =>
      intro other member
      rcases List.mem_cons.mp member with rfl | member
      · exact List.mem_cons_self
      · exact List.mem_cons_of_mem _ (subset other member)
    next => exact fun other member => List.mem_cons_of_mem _ (subset other member)

theorem catalogCandidates_oneEach {manifests metadata : List FilePath}
    (areManifests : ∀ path ∈ manifests, path.name = segmentManifestFile)
    (areMetadata : ∀ path ∈ metadata, path.name = segmentMetadataFile) (catalog : Catalog) :
    (catalogCandidates config manifests metadata).Ensures (Catalog.apply config) allowed
      (fun candidates _ => OneEach candidates) catalog := by
  simp only [catalogCandidates, ensures_bind, ensures_pure]
  refine (metadataOnly_subset _ catalog).mono fun others _ subset => ?_
  intro directory isManifest isMetadata
  rw [List.mem_dedup, List.mem_append] at isManifest isMetadata
  have isOther : directory ++ [segmentMetadataFile] ∈ others := by
    rcases isMetadata with isNamed | isOther
    · exact absurd (areManifests _ isNamed) (by simp [manifestFile_ne_metadataFile.symm])
    · exact isOther
  have isAlone := subset _ isOther
  rw [List.mem_filter, parent_append] at isAlone
  rcases isManifest with isNamed | isOther
  · simp [isNamed] at isAlone
  · have isNamed := areMetadata _ (List.mem_filter.mp (subset _ isOther)).1
    exact manifestFile_ne_metadataFile (by simpa using isNamed)

theorem candidatesNamed_name (name : Text) (files : List FilePath) :
    ∀ path ∈ candidatesNamed name files, path.name = name := by
  intro path member
  simp only [candidatesNamed, List.mem_filter, Bool.and_eq_true, decide_eq_true_eq] at member
  exact member.2.1

/-- The entries are among some paths. -/
structure Among (paths : List FilePath) (catalog : Catalog) : Prop where
  sound : catalog.Sound
  among : ∀ path, catalog.entries.get path ≠ none → path ∈ paths

theorem Among.tidy {paths : List FilePath} (among : Among paths catalog)
    (oneEach : OneEach paths) : Tidy nowhere catalog :=
  ⟨among.sound, fun directory first second =>
    oneEach directory (among.among _ first) (among.among _ second)⟩

theorem Among.discover {paths : List FilePath} {path : FilePath} (among : Among paths catalog)
    (isPath : path ∈ paths) (reads : CandidateReads) :
    Among paths (catalog.apply config (.discover path reads)) := by
  refine ⟨among.sound.apply config _, fun other isEntry => ?_⟩
  by_cases same : other = path
  · exact same ▸ isPath
  · have changes := (@refreshCandidate_settled catalog config path reads).changes
    apply among.among other
    rwa [← changes.entries other same]

theorem discoverAll_ensures {paths order : List FilePath} (subset : order ⊆ paths)
    (among : Among paths catalog) :
    (order.forM fun path => do
      discoverCandidate path
      perform (.dropContainer path.parent)).Ensures (Catalog.apply config) allowed
        (fun _ => Among paths) catalog := by
  have each : ∀ path ∈ order, ∀ before, Among paths before →
      (do
        discoverCandidate path
        perform (.dropContainer path.parent) : IndexProgram PUnit).Ensures
          (Catalog.apply config) allowed
          (fun _ after => Among paths after ∧ True ∧ ∀ _ : FilePath, True → True) before := by
    intro path member before isAmong
    simp only [discoverCandidate, ensures_bind, ensures_query,
      ensures_perform]
    intro reads _ _
    have discovered : Among paths (before.apply config (.discover path reads)) :=
      isAmong.discover (subset member) reads
    exact ⟨⟨discovered.sound.apply config _, discovered.among⟩, trivial, fun _ => id⟩
  exact (Program.ensures_forM each among).mono fun _ _ holds => holds.1

/-- Whatever a catalog holds, a rebuild leaves each directory under one name. -/
theorem rebuild_ensures (sound : catalog.Sound) :
    (rebuild config).Ensures (Catalog.apply config) (UnderOneName config)
      (fun _ => Tidy nowhere) catalog := by
  simp only [rebuild, ensures_bind, ensures_current]
  refine (sound.ensures _ _).mono fun cursors first isSound => ?_
  simp only [ensures_perform]
  intro _
  have moved := isSound.apply config (.setCursors cursors)
  refine (moved.ensures _ _).mono fun walked second isSound => ?_
  split
  next => trivial
  next =>
    simp only [ensures_bind]
    refine (isSound.ensures _ _).mono fun containers third isSound => ?_
    have oneEach := @catalogCandidates_oneEach config (UnderOneName config) _ _
      (candidatesNamed_name segmentManifestFile
        ((walked.filter fun found => !found.2).map Prod.fst))
      (candidatesNamed_name segmentMetadataFile
        ((walked.filter fun found => !found.2).map Prod.fst)) third
    refine (oneEach.and (isSound.ensures _ _)).mono fun candidates fourth holds => ?_
    rcases holds with ⟨oneEach, isSound⟩
    simp only [ensures_current, ensures_perform, ensures_query]
    intro _ order
    have restarted : Among (fourth.entries.keys ++ candidates)
        (fourth.apply config (.restart containers)) := by
      refine ⟨isSound.apply config _, fun path isEntry => List.mem_append_left _ ?_⟩
      by_contra missing
      exact isEntry (Dict.get_eq_none missing)
    have subset : order.val ⊆ fourth.entries.keys ++ candidates := fun path member =>
      List.mem_append_right _ (order.property.mem_iff.mp member)
    refine (discoverAll_ensures subset restarted).mono fun _ fifth among => ?_
    refine (removeAll_ensures (fun _ _ => rfl) among.sound _).mono fun _ sixth holds => ?_
    rcases holds with ⟨fewer, gone⟩
    have cleared : Among candidates sixth := by
      refine ⟨fewer.sound, fun path isEntry => ?_⟩
      by_contra missing
      have wasKnown := among.among path (fewer.fewer path isEntry)
      apply isEntry
      apply gone path
      rcases List.mem_append.mp wasKnown with wasEntry | isCandidate
      · simp [List.mem_filter, wasEntry, missing]
      · exact absurd isCandidate missing
    have consumed := consumePublicationJournals_performs config nowhere
    refine ((cleared.tidy oneEach).ensures consumed).mono fun _ seventh isTidy => ?_
    exact fun _ => isTidy.apply trivial trivial

/-! ## Refreshing -/

theorem scanMembership_ensures (membership : Bool) (tidy : Tidy nowhere catalog) :
    (scanMembership config membership).Ensures (Catalog.apply config) (UnderOneName config)
      (fun _ => Tidy nowhere) catalog := by
  simp only [scanMembership, ensures_bind, ensures_current]
  refine (tidy.ensures (queueRoots_performs _ _ _)).mono fun scan first isTidy => ?_
  refine (isTidy.ensures (queueContainers_performs _ _ _ _)).mono fun scan second isTidy => ?_
  refine (scanQueue_ensures membership _ scan isTidy).mono fun result third holds => ?_
  cases result with
  | none => exact rebuild_ensures holds.1
  | some =>
    simp only [ensures_bind]
    exact ((holds.2 rfl).ensures (consumePublicationJournals_performs config nowhere)).mono
      fun _ _ isTidy => isTidy

theorem refresh_ensures (reconcile : Bool) (tidy : Tidy nowhere catalog) :
    (refresh config reconcile).Ensures (Catalog.apply config) (UnderOneName config)
      (fun _ => Tidy nowhere) catalog := by
  simp only [refresh, ensures_bind, ensures_current, ensures_query]
  intro order
  have retries : (order.val.forM retryCandidate).Performs (FindsIn nowhere) :=
    Program.Performs.forM fun path _ => retryCandidate_performs nowhere path
  refine (tidy.ensures retries).mono fun _ first isTidy => ?_
  have consumed := consumePublicationJournals_performs config nowhere
  refine (isTidy.ensures consumed).mono fun outcome second isTidy => ?_
  split
  next => exact isTidy
  next => exact scanMembership_ensures _ isTidy

theorem bringUpToDate_ensures (due : Due) (tidy : Tidy nowhere catalog) :
    (bringUpToDate config due).Ensures (Catalog.apply config) (UnderOneName config)
      (fun _ => Tidy nowhere) catalog := by
  simp only [bringUpToDate, ensures_bind, ensures_current]
  split
  next => exact rebuild_ensures tidy.sound
  next =>
    cases due with
    | reconcile => exact refresh_ensures true tidy
    | refresh => exact refresh_ensures false tidy
    | nothing => exact tidy

theorem metadataOnly_performs (paths : List FilePath) :
    (metadataOnly config paths).Performs (FindsIn within) := by
  induction paths with
  | nil => trivial
  | cons _ _ induction =>
    intro content
    exact (orRaise_performs within _).bind fun _ => induction.bind fun _ => trivial

theorem fallbackManifestScan_performs (roots : List FilePath) :
    (fallbackManifestScan config roots).Performs (FindsIn within) := by
  induction roots with
  | nil => trivial
  | cons _ _ induction =>
    intro reply
    refine (orRaise_performs within reply).bind fun isThere => ?_
    split
    next =>
      intro reply
      refine (orRaise_performs within reply).bind fun found reply => ?_
      refine (orRaise_performs within reply).bind fun others => ?_
      refine Program.Performs.bind ((metadataOnly_performs _).bind fun _ => trivial) ?_
      intro candidates order
      have retries : (order.val.forM retryCandidate).Performs (FindsIn within) :=
        Program.Performs.forM fun path _ => retryCandidate_performs within path
      exact retries.bind fun _ => induction
    next => exact induction

/-! ## Runs -/

structure IndexState where
  catalog : Catalog
  returned : Option (List RollingSegment)

/-- An operation on the catalog, with what the file systems answer during it. -/
inductive IndexLabel where
  | rebuild (answers : Program.Answers IndexReply)
  | refresh (reconcile : Bool) (answers : Program.Answers IndexReply)
  | consume (answers : Program.Answers IndexReply)
  | find (due : Due) (allowFallback : Bool) (answers : Program.Answers IndexReply)

section

variable (config : IndexConfig) (state : IndexState)

def Catalog.blank (catalog : Catalog) : Catalog :=
  { sourceId := catalog.sourceId, runtimeEpochId := catalog.runtimeEpochId }

def runOn {Result : Type} (catalog : Catalog) (program : IndexProgram Result)
    (answers : Program.Answers IndexReply) (asked : Nat) :
    Program.Run Catalog CatalogAction Result :=
  program.run (Catalog.apply config) answers asked catalog

/-- The copy of the catalog takes its place, unless an exception leaves the operation. -/
def IndexState.publish {Result : Type} (run : Program.Run Catalog CatalogAction Result) :
    IndexState :=
  match run.result with
  | some _ => ⟨run.state, none⟩
  | none => ⟨state.catalog, none⟩

def fallbackRun (answers : Program.Answers IndexReply) (asked : Nat) :
    Program.Run Catalog CatalogAction Unit :=
  runOn config state.catalog.blank
    (fallbackManifestScan config
      (candidateSourceRoots config state.catalog.sourceId state.catalog.runtimeEpochId))
    answers asked

def findRun (due : Due) (answers : Program.Answers IndexReply) :
    Program.Run Catalog CatalogAction Unit :=
  runOn config state.catalog (bringUpToDate config due) answers 0

/-- `find_segments`, with the fallback where an exception leaves the catalog. -/
def findSegments (due : Due) (allowFallback : Bool) (answers : Program.Answers IndexReply) :
    IndexState :=
  if state.catalog.sourceId = [] || state.catalog.runtimeEpochId = [] then
    ⟨state.catalog, some []⟩
  else
    let run := findRun config state due answers
    match run.result with
    | some _ => ⟨run.state, some run.state.segments⟩
    | none =>
      if allowFallback then
        let scan := fallbackRun config state answers run.asked
        ⟨state.catalog, scan.result.map fun _ => scan.state.segments⟩
      else ⟨state.catalog, none⟩

def indexStep : IndexLabel → IndexState
  | .rebuild answers => state.publish (runOn config state.catalog (rebuild config) answers 0)
  | .refresh reconcile answers =>
    state.publish (runOn config state.catalog (refresh config reconcile) answers 0)
  | .consume answers =>
    state.publish (runOn config state.catalog (consumePublicationJournals config) answers 0)
  | .find due allowFallback answers => findSegments config state due allowFallback answers

/-- The actions of an operation, each with the catalog it is performed on. -/
def indexActions : IndexLabel → List (Catalog × CatalogAction)
  | .rebuild answers => (runOn config state.catalog (rebuild config) answers 0).performed
  | .refresh reconcile answers =>
    (runOn config state.catalog (refresh config reconcile) answers 0).performed
  | .consume answers =>
    (runOn config state.catalog (consumePublicationJournals config) answers 0).performed
  | .find due allowFallback answers =>
    let run := findRun config state due answers
    if run.result.isNone && allowFallback then
      run.performed ++ (fallbackRun config state answers run.asked).performed
    else run.performed

/-- No candidate that is retried, and no record of a journal, becomes an entry while the
other catalog file of its directory is one. -/
def KeepsOneName (label : IndexLabel) : Prop :=
  ∀ action ∈ indexActions config state label, UnderOneName config action.1 action.2

end

def indexMachine (config : IndexConfig) : Foundation.Machine IndexState IndexLabel where
  initial state := ∃ sourceId runtimeEpochId,
    state = ⟨{ sourceId := sourceId, runtimeEpochId := runtimeEpochId }, none⟩
  step state label := some (indexStep config state label)

theorem blank_sound (catalog : Catalog) : catalog.blank.Sound := by
  refine ⟨fun _ isPending => absurd isPending List.not_mem_nil, ?_, ?_, Dict.distinct_empty⟩
  · intro _ _ hasFailed
    cases hasFailed
  · intro _ _ isEntry
    cases isEntry

theorem blank_tidy (catalog : Catalog) : Tidy nowhere catalog.blank :=
  ⟨blank_sound catalog, fun _ isEntry => absurd rfl isEntry⟩

/-! ## What is returned -/

theorem segmentLe_total (first second : RollingSegment) :
    segmentLe first second || segmentLe second first := by
  rcases lt_trichotomy first.firstPts second.firstPts with less | same | more
  · simp [segmentLe, less.ne, less.le]
  · rcases lt_trichotomy first.lastPts second.lastPts with less | same' | more
    · simp [segmentLe, same, less.ne, less.le]
    · simpa [segmentLe, same, same'] using textLe_total _ _
    · simp [segmentLe, same, more.ne, more.le]
  · simp [segmentLe, more.ne, more.le]

theorem segmentLe_iff {first second : RollingSegment} :
    segmentLe first second = true ↔ first.firstPts < second.firstPts ∨
      first.firstPts = second.firstPts ∧ (first.lastPts < second.lastPts ∨
        first.lastPts = second.lastPts ∧
          textLe (pathText first.metadataPath) (pathText second.metadataPath) = true) := by
  unfold segmentLe
  split
  next same =>
    split
    next same' => simp [same, same']
    next different => simp [same, lt_iff_le_and_ne, different]
  next different => simp [lt_iff_le_and_ne, different]

theorem segmentLe_trans (first second third : RollingSegment)
    (le : segmentLe first second = true) (le' : segmentLe second third = true) :
    segmentLe first third = true := by
  rw [segmentLe_iff] at le le' ⊢
  rcases le with less | ⟨same, le⟩
  · left
    rcases le' with less' | ⟨same', _⟩
    · exact less.trans less'
    · exact same' ▸ less
  · rcases le' with less' | ⟨same', le'⟩
    · exact Or.inl (same ▸ less')
    · refine Or.inr ⟨same.trans same', ?_⟩
      rcases le with less | ⟨sameLast, le⟩
      · left
        rcases le' with less' | ⟨sameLast', _⟩
        · exact less.trans less'
        · exact sameLast' ▸ less
      · rcases le' with less' | ⟨sameLast', le'⟩
        · exact Or.inl (sameLast ▸ less')
        · exact Or.inr ⟨sameLast.trans sameLast', textLe_trans le le'⟩

def InOrder (segments : List RollingSegment) : Prop :=
  segments.Pairwise fun first second => segmentLe first second = true

theorem segments_inOrder (catalog : Catalog) : InOrder catalog.segments := by
  rw [Catalog.segments, ← mergeSort_eq_insertionSort segmentLe_trans segmentLe_total]
  exact List.pairwise_mergeSort segmentLe_trans segmentLe_total _

theorem Tidy.path_unique (tidy : Tidy nowhere catalog) {path other : FilePath}
    {entry otherEntry : IndexedSegment} (isEntry : catalog.entries.get path = some entry)
    (isOther : catalog.entries.get other = some otherEntry)
    (same : entry.segment.directory = otherEntry.segment.directory) : path = other := by
  have describes := tidy.sound.describes path entry isEntry
  have otherDescribes := tidy.sound.describes other otherEntry isOther
  have sameParent : path.parent = other.parent := by
    rw [← describes.directory, ← otherDescribes.directory, same]
  have apart := tidy.pairs path.parent
  rcases describes.catalogPath with isManifest | isMetadata
  · rcases otherDescribes.catalogPath with otherManifest | otherMetadata
    · rw [isManifest, otherManifest, sameParent]
    · rw [← isManifest, sameParent, ← otherMetadata, isEntry, isOther] at apart
      exact (apart (by simp) (by simp)).elim
  · rcases otherDescribes.catalogPath with otherManifest | otherMetadata
    · rw [← isMetadata, sameParent, ← otherManifest, isEntry, isOther] at apart
      exact (apart (by simp) (by simp)).elim
    · rw [isMetadata, otherMetadata, sameParent]

theorem Tidy.directories_nodup (tidy : Tidy nowhere catalog) :
    (catalog.segments.map RollingSegment.directory).Nodup := by
  have sorted : (catalog.segments.map RollingSegment.directory).Perm
      ((catalog.entries.values.map IndexedSegment.segment).map RollingSegment.directory) :=
    (List.perm_insertionSort _ _).map _
  rw [sorted.nodup_iff, Dict.values, List.map_map, List.map_map]
  have distinct : (catalog.entries.entries.map Prod.fst).Nodup := tidy.sound.distinct
  apply List.Nodup.map_on _ (List.Nodup.of_map Prod.fst distinct)
  rintro ⟨path, entry⟩ isEntry ⟨other, otherEntry⟩ isOther same
  have found := Dict.get_of_mem tidy.sound.distinct isEntry
  have otherFound := Dict.get_of_mem tidy.sound.distinct isOther
  have samePath := tidy.path_unique found otherFound same
  subst samePath
  rw [found] at otherFound
  rw [Option.some.inj otherFound]

/-! ## Along a run -/

variable {answers : Program.Answers IndexReply} {property : Catalog → Prop}

theorem publish_holds {Result : Type} {state : IndexState}
    {program : IndexProgram Result}
    (holds : property state.catalog)
    (ensures : program.Ensures (Catalog.apply config) allowed (fun _ => property) state.catalog)
    (isAllowed : ∀ action ∈ (runOn config state.catalog program answers 0).performed,
      allowed action.1 action.2) :
    property (state.publish (runOn config state.catalog program answers 0)).catalog := by
  unfold IndexState.publish
  split
  next returned => exact ensures.run isAllowed returned
  next => exact holds

theorem publish_returned {Result : Type} (state : IndexState)
    (run : Program.Run Catalog CatalogAction Result) : (state.publish run).returned = none := by
  unfold IndexState.publish
  split
  all_goals rfl

/-- Each published segment at most once, in order. -/
structure Returns (segments : List RollingSegment) : Prop where
  inOrder : InOrder segments
  once : (segments.map RollingSegment.directory).Nodup

theorem Tidy.returns (tidy : Tidy nowhere catalog) : Returns catalog.segments :=
  ⟨segments_inOrder catalog, tidy.directories_nodup⟩

theorem returns_nil : Returns [] := ⟨List.Pairwise.nil, List.nodup_nil⟩

/-- A tidy catalog, and what the last search has returned. -/
structure IndexState.Valid (state : IndexState) : Prop where
  tidy : Tidy nowhere state.catalog
  returned : ∀ segments, state.returned = some segments → Returns segments

theorem publish_valid {Result : Type} {state : IndexState} {program : IndexProgram Result}
    (tidy : Tidy nowhere state.catalog)
    (ensures : program.Ensures (Catalog.apply config) (UnderOneName config)
      (fun _ => Tidy nowhere) state.catalog)
    (keeps : ∀ action ∈ (runOn config state.catalog program answers 0).performed,
      UnderOneName config action.1 action.2) :
    (state.publish (runOn config state.catalog program answers 0)).Valid := by
  refine ⟨publish_holds tidy ensures keeps, fun segments isReturned => ?_⟩
  rw [publish_returned] at isReturned
  cases isReturned

theorem findSegments_valid {state : IndexState} {due : Due} {allowFallback : Bool}
    (tidy : Tidy nowhere state.catalog)
    (keeps : KeepsOneName config state (.find due allowFallback answers)) :
    (findSegments config state due allowFallback answers).Valid := by
  have ensures := @bringUpToDate_ensures config state.catalog due tidy
  simp only [KeepsOneName, indexActions] at keeps
  simp only [findSegments]
  split
  next => exact ⟨tidy, fun segments isReturned => Option.some.inj isReturned ▸ returns_nil⟩
  next =>
    cases returned : (findRun config state due answers).result with
    | some =>
      simp only [returned, Option.isNone_some, Bool.false_and, Bool.false_eq_true,
        if_false] at keeps ⊢
      have isTidy := ensures.run keeps returned
      exact ⟨isTidy, fun segments isReturned => Option.some.inj isReturned ▸ isTidy.returns⟩
    | none =>
      cases allowFallback with
      | false => exact ⟨tidy, fun segments isReturned => by cases isReturned⟩
      | true =>
        simp only [returned, Option.isNone_none, Bool.and_self, if_true] at keeps ⊢
        refine ⟨tidy, fun segments isReturned => ?_⟩
        rcases Option.map_eq_some_iff.mp isReturned with ⟨_, found, rfl⟩
        have scans := @fallbackManifestScan_performs config nowhere
          (candidateSourceRoots config state.catalog.sourceId state.catalog.runtimeEpochId)
        have isTidy := ((blank_tidy state.catalog).ensures scans).run
          (fun action performed => keeps action (List.mem_append_right _ performed)) found
        exact isTidy.returns

theorem indexStep_valid {state : IndexState} {label : IndexLabel}
    (tidy : Tidy nowhere state.catalog) (keeps : KeepsOneName config state label) :
    (indexStep config state label).Valid := by
  cases label with
  | rebuild => exact publish_valid tidy (rebuild_ensures tidy.sound) keeps
  | refresh reconcile => exact publish_valid tidy (refresh_ensures reconcile tidy) keeps
  | consume =>
    exact publish_valid tidy
      (tidy.ensures (consumePublicationJournals_performs config nowhere)) keeps
  | find => exact findSegments_valid tidy keeps

variable {labels : List IndexLabel}

theorem run_valid {state final : IndexState}
    (isValid : state.Valid) (ran : (indexMachine config).run state labels = some final)
    (keeps : (indexMachine config).EachStep
      (fun state label _ => KeepsOneName config state label) state labels) : final.Valid := by
  refine keeps.keeps ?_ isValid ran
  intro state label next isValid here step
  have stepped : (indexStep config state label).Valid := indexStep_valid isValid.tidy here
  rwa [Option.some.inj step] at stepped

theorem indexStep_holds {state : IndexState} {label : IndexLabel}
    (kept : ∀ catalog action, property catalog → property (catalog.apply config action))
    (holds : property state.catalog) : property (indexStep config state label).catalog := by
  have anyProgram : ∀ program : IndexProgram Unit,
      program.Ensures (Catalog.apply config) (fun _ _ => True) (fun _ => property)
        state.catalog := fun program =>
    (Program.performs_of_forall (fun _ => trivial) program).ensures
      (fun catalog action (_ : True) _ => kept catalog action) holds
  cases label with
  | rebuild | refresh => exact publish_holds holds (anyProgram _) fun _ _ => trivial
  | consume =>
    have consumes := (Program.performs_of_forall (fun _ => trivial)
      (consumePublicationJournals config)).ensures
        (fun catalog action (_ : True) (_ : True) => kept catalog action) holds
    exact publish_holds holds consumes fun _ _ => trivial
  | find =>
    simp only [indexStep, findSegments]
    split
    next => exact holds
    next =>
      split
      next value returned => exact (anyProgram _).run (fun _ _ => trivial) returned
      next =>
        split
        all_goals exact holds

theorem run_holds {state final : IndexState}
    (kept : ∀ catalog action, property catalog → property (catalog.apply config action))
    (holds : property state.catalog)
    (ran : (indexMachine config).run state labels = some final) : property final.catalog := by
  refine Foundation.Machine.run_keeps ?_ holds ran
  intro state label next holds step
  rw [← Option.some.inj step]
  exact indexStep_holds kept holds

theorem run_sound {state final : IndexState} (sound : state.catalog.Sound)
    (ran : (indexMachine config).run state labels = some final) : final.catalog.Sound :=
  run_holds (fun _ action isSound => isSound.apply config action) sound ran

def OfSource (sourceId runtimeEpochId : Text) (catalog : Catalog) : Prop :=
  catalog.sourceId = sourceId ∧ catalog.runtimeEpochId = runtimeEpochId

theorem ChangesOnly.ofSource {path : FilePath} {sourceId runtimeEpochId : Text}
    (changes : ChangesOnly path before after) (holds : OfSource sourceId runtimeEpochId before) :
    OfSource sourceId runtimeEpochId after :=
  ⟨changes.sourceId.trans holds.1, changes.runtimeEpochId.trans holds.2⟩

theorem apply_ofSource {sourceId runtimeEpochId : Text} (catalog : Catalog)
    (action : CatalogAction) (holds : OfSource sourceId runtimeEpochId catalog) :
    OfSource sourceId runtimeEpochId (catalog.apply config action) := by
  cases action with
  | retry path reads => exact (refreshCandidate_settled config path reads).changes.ofSource holds
  | discover path reads =>
    exact (refreshCandidate_settled config path reads).changes.ofSource holds
  | record journalPath line =>
    rcases @refreshPublicationRecord_cases config catalog journalPath line with
      same | ⟨_, _, _, settled⟩
    · rwa [Catalog.apply, same]
    · exact settled.changes.ofSource holds
  | _ => exact holds

def emptyIndex (sourceId runtimeEpochId : Text) : IndexState :=
  ⟨{ sourceId := sourceId, runtimeEpochId := runtimeEpochId }, none⟩

/-- A catalog of the source and the epoch whose maps are apart, with one entry at most
for each directory, and what the last search has returned of it. -/
structure Represents (sourceId runtimeEpochId : Text) (state : IndexState) : Prop where
  sourceId : state.catalog.sourceId = sourceId
  runtimeEpochId : state.catalog.runtimeEpochId = runtimeEpochId
  sound : state.catalog.Sound
  oneEntry : ∀ path other entry otherEntry, state.catalog.entries.get path = some entry →
    state.catalog.entries.get other = some otherEntry →
      entry.segment.directory = otherEntry.segment.directory → path = other
  returned : ∀ segments, state.returned = some segments → Returns segments

/-- In a run in which no retry and no record of a journal makes an entry of a path whose
directory has one under its other name, every state represents its catalog. -/
theorem index_represents_of_keepsOneName (config : IndexConfig) (sourceId runtimeEpochId : Text)
    (labels : List IndexLabel)
    (keeps : (indexMachine config).EachStep
      (fun state label _ => KeepsOneName config state label)
      (emptyIndex sourceId runtimeEpochId) labels) :
    ∃ final, (indexMachine config).run (emptyIndex sourceId runtimeEpochId) labels =
      some final ∧ Represents sourceId runtimeEpochId final := by
  have ran : (indexMachine config).run (emptyIndex sourceId runtimeEpochId) labels =
      some (labels.foldl (indexStep config) (emptyIndex sourceId runtimeEpochId)) :=
    Foundation.Machine.run_of_total (fun _ _ => rfl) _ labels
  refine ⟨_, ran, ?_⟩
  have blank := blank_tidy { sourceId := sourceId, runtimeEpochId := runtimeEpochId }
  have isValid := run_valid ⟨blank, fun _ isReturned => by cases isReturned⟩ ran keeps
  have identity : OfSource sourceId runtimeEpochId _ := run_holds apply_ofSource ⟨rfl, rfl⟩ ran
  exact ⟨identity.1, identity.2, run_sound blank.sound ran,
    fun _ _ _ _ isEntry isOther => isValid.tidy.path_unique isEntry isOther, isValid.returned⟩

/-! ## A source with one segment -/

def midtermConfig : IndexConfig where
  root := [text "midterm"]
  minVideoBytes := 1024
  maxScanEntries := 20000
  maxScanDepth := 6
  recursionLimit := 1000
  floatText _ := []

def segmentPayload (schemaVersion : String) : List (Text × Json) :=
  [(text "schema_version", .str (text schemaVersion)), (text "segment_id", .str (text "s1")),
    (text "source_id", .str (text "cam")), (text "runtime_epoch_id", .str (text "e1")),
    (text "video_file", .str (text "video.mov")),
    (text "metadata_file", .str (text "metadata.json")), (text "first_pts", .int 0),
    (text "last_pts", .int 9), (text "frame_count", .int 10),
    (text "video_size_bytes", .int 4096), (text "metadata_size_bytes", .int 700)]

def sourceRoot : FilePath := [text "midterm", text "epochs", text "e1", text "cam"]

def listingOf (name : String) (isDirectory : Bool) : Listing :=
  ⟨[(text name, some isDirectory)], List.nodup_singleton _⟩

/-- A file system with a segment directory and the manifest in it. -/
def oneSegment : Program.Answers IndexReply := fun _ question =>
  match question with
  | .candidate _ =>
    { manifestIdentity := some ⟨1, 5, 700, 0⟩
      manifestStable := true
      content := canonicalBytes midtermConfig.floatText
        (segmentPayload "rolling-segment-manifest-v2")
      metadataIdentity := some ⟨1, 5, 700, 0⟩
      metadataStable := true
      videoIdentity := some ⟨1, 6, 4096, 0⟩
      videoStable := true }
  | .firstRecord _ | .journalTail _ => none
  | .journal _ => some .missing
  | .isFile _ | .pathExists _ => some true
  | .directoryMtime _ => 1
  | .scandir path =>
    if path = sourceRoot then some (listingOf "s1" true)
    else some (listingOf "segment_manifest.json" false)
  | .rglob _ _ => some []
  | .iterate paths => ⟨paths, List.Perm.refl paths⟩

def returnedDirectories (state : IndexState) : Option (List FilePath) :=
  state.returned.map fun segments => segments.map RollingSegment.directory

def isScanned : CatalogAction → Bool
  | .retry _ _ | .record _ _ => false
  | _ => true

theorem underOneName_of_isScanned {action : CatalogAction} (scanned : isScanned action = true) :
    UnderOneName config catalog action := by
  cases action with
  | retry | record => cases scanned
  | _ => trivial

def emptyCam : IndexState := emptyIndex (text "cam") (text "e1")

theorem index_represents_scanned : ∃ final,
    (indexMachine midtermConfig).run emptyCam [.find .nothing false oneSegment] = some final ∧
    returnedDirectories final = some [sourceRoot ++ [text "s1"]] ∧
    Represents (text "cam") (text "e1") final := by
  have ends : (indexActions midtermConfig emptyCam (.find .nothing false oneSegment)).all
      (fun action => isScanned action.2) = true ∧
      returnedDirectories (indexStep midtermConfig emptyCam (.find .nothing false oneSegment)) =
        some [sourceRoot ++ [text "s1"]] := by
    decide +kernel
  have keeps : (indexMachine midtermConfig).EachStep
      (fun state label _ => KeepsOneName midtermConfig state label) emptyCam
      [.find .nothing false oneSegment] := by
    intro next _
    refine ⟨fun action performed => ?_, trivial⟩
    exact underOneName_of_isScanned (List.all_eq_true.mp ends.1 action performed)
  rcases index_represents_of_keepsOneName midtermConfig (text "cam") (text "e1")
    [.find .nothing false oneSegment] keeps with ⟨final, ran, represents⟩
  refine ⟨final, ran, ?_, represents⟩
  have isFinal : indexStep midtermConfig emptyCam (.find .nothing false oneSegment) = final :=
    Option.some.inj ran
  exact isFinal ▸ ends.2

theorem emptyCam_scan_finishes :
    (scanQueue midtermConfig true 20001 ⟨[sourceRoot], [], 0⟩).Ensures
      (Catalog.apply midtermConfig) (fun _ _ => True)
      (fun result _ => ∀ done, result = some done → done.queue = []) emptyCam.catalog :=
  scanQueue_finishes true 20001 ⟨[sourceRoot], [], 0⟩ (by decide) emptyCam.catalog

/-- A file system with nothing but a publication journal. -/
def onlyJournal (content : List Nat) : Program.Answers IndexReply := fun _ question =>
  match question with
  | .candidate _ => ⟨none, false, none, none, false, none, false⟩
  | .firstRecord _ | .journalTail _ | .scandir _ => none
  | .journal _ => some (.opened 1 9 content)
  | .isFile _ | .pathExists _ => some false
  | .directoryMtime _ => 0
  | .rglob _ _ => some []
  | .iterate paths => ⟨paths, List.Perm.refl paths⟩

/-- What the publisher appends to the journal for the segment in one of the layouts. -/
def publicationLine (schemaVersion : String) : List Nat :=
  (publicationRecordBytes midtermConfig.floatText (segmentPayload schemaVersion) ⟨1, 5, 700, 0⟩
    ⟨1, 5, 700, 0⟩ ⟨1, 6, 4096, 0⟩).getD []

def twoLayouts : IndexLabel :=
  .find .nothing false (onlyJournal (publicationLine "rolling-segment-manifest-v2" ++
    publicationLine "rolling-segment-manifest-v3"))

/-- Two records of one directory, in two layouts, are two entries, and the search returns
the segment twice. -/
theorem segment_returned_twice : ∃ final,
    (indexMachine midtermConfig).run emptyCam [twoLayouts] = some final ∧
    returnedDirectories final = some [sourceRoot ++ [text "segments", text "s1"],
      sourceRoot ++ [text "segments", text "s1"]] ∧
    ¬Represents (text "cam") (text "e1") final := by
  have twice : returnedDirectories (indexStep midtermConfig emptyCam twoLayouts) =
      some [sourceRoot ++ [text "segments", text "s1"],
        sourceRoot ++ [text "segments", text "s1"]] := by
    decide +kernel
  refine ⟨indexStep midtermConfig emptyCam twoLayouts, rfl, twice, fun represents => ?_⟩
  rcases Option.map_eq_some_iff.mp twice with ⟨segments, isReturned, directories⟩
  have once := (represents.returned segments isReturned).once
  rw [directories, List.nodup_cons] at once
  exact once.1 List.mem_cons_self

end VideoAnalysis.SegmentIndex
