import VideoAnalysis.SegmentIndex.CatalogMaps

/-! # One entry for each segment directory

The scan of a container and a rebuild leave each directory under one of its two names,
whatever they found. The retry of a pending candidate and a record of a journal do not
look at the other name.
-/

namespace VideoAnalysis.SegmentIndex

open Foundation Python
open Program (ensures_bind ensures_current ensures_of_forall ensures_perform ensures_pure
  ensures_query perform)

def twin (path : FilePath) : FilePath :=
  path.parent ++
    [if path.name = segmentManifestFile then segmentMetadataFile else segmentManifestFile]

/-- No retry and no record makes an entry of a path whose twin is one. -/
def UnderOneName (config : IndexConfig) (catalog : Catalog) : CatalogAction → Prop
  | .retry path reads => ∀ entry, judgeCandidate config catalog path reads = .accepted entry →
      catalog.entries.get (twin path) = none
  | .record journalPath line => ∀ publication,
      acceptRecord config catalog journalPath line = some publication →
        catalog.entries.get (publication.catalogPath journalPath) = none →
          catalog.entries.get (twin (publication.catalogPath journalPath)) = none
  | _ => True

/-- The maps are sound, and both files of a directory are entries in some places only. -/
structure Tidy (within : FilePath → Prop) (catalog : Catalog) : Prop where
  sound : catalog.Sound
  pairs : ∀ directory, catalog.entries.get (directory ++ [segmentManifestFile]) ≠ none →
    catalog.entries.get (directory ++ [segmentMetadataFile]) ≠ none → within directory

def nowhere (_ : FilePath) : Prop := False

variable {config : IndexConfig} {within : FilePath → Prop} {before after catalog : Catalog}

theorem Tidy.mono {wider : FilePath → Prop} (tidy : Tidy within catalog)
    (implies : ∀ directory, within directory → wider directory) : Tidy wider catalog :=
  ⟨tidy.sound, fun directory first second =>
    implies directory (tidy.pairs directory first second)⟩

theorem Tidy.fewer (tidy : Tidy within before) (sound : after.Sound)
    (fewer : ∀ path, after.entries.get path ≠ none → before.entries.get path ≠ none) :
    Tidy within after :=
  ⟨sound, fun directory first second => tidy.pairs directory (fewer _ first) (fewer _ second)⟩

variable {path : FilePath}

theorem Tidy.adds (tidy : Tidy within before) (sound : after.Sound)
    (others : ∀ other, other ≠ path → after.entries.get other = before.entries.get other)
    (apart : after.entries.get path ≠ none → before.entries.get path ≠ none ∨
      before.entries.get (twin path) = none ∨ within path.parent) : Tidy within after := by
  refine ⟨sound, fun directory first second => ?_⟩
  by_cases isManifest : directory ++ [segmentManifestFile] = path
  · have other : directory ++ [segmentMetadataFile] ≠ path := by
      rw [← isManifest]
      simp [manifestFile_ne_metadataFile.symm]
    have isTwin : twin path = directory ++ [segmentMetadataFile] := by
      simp [twin, ← isManifest]
    rw [others _ other] at second
    rw [isManifest] at first
    rcases apart first with wasEntry | noTwin | isWithin
    · exact tidy.pairs directory (isManifest ▸ wasEntry) second
    · exact absurd (isTwin ▸ noTwin) second
    · rwa [← isManifest, parent_append] at isWithin
  · rw [others _ isManifest] at first
    by_cases isMetadata : directory ++ [segmentMetadataFile] = path
    · have isTwin : twin path = directory ++ [segmentManifestFile] := by
        simp [twin, ← isMetadata, manifestFile_ne_metadataFile.symm]
      rw [isMetadata] at second
      rcases apart second with wasEntry | noTwin | isWithin
      · exact tidy.pairs directory first (isMetadata ▸ wasEntry)
      · exact absurd (isTwin ▸ noTwin) first
      · rwa [← isMetadata, parent_append] at isWithin
    · rw [others _ isMetadata] at second
      exact tidy.pairs directory first second

def FindsIn (within : FilePath → Prop) : CatalogAction → Prop
  | .discover path _ => within path.parent
  | _ => True

theorem refreshCandidate_becomes {reads : CandidateReads}
    (isEntry : (refreshCandidate config catalog path reads).entries.get path ≠ none) :
    catalog.entries.get path ≠ none ∨
      ∃ entry, judgeCandidate config catalog path reads = .accepted entry := by
  rcases Option.ne_none_iff_exists'.mp isEntry with ⟨entry, isEntry⟩
  by_cases wasNone : catalog.entries.get path = none
  · exact Or.inr ⟨entry, refreshCandidate_accepted isEntry wasNone⟩
  · exact Or.inl wasNone

theorem Tidy.apply {action : CatalogAction} (tidy : Tidy within catalog)
    (may : FindsIn within action) (oneName : UnderOneName config catalog action) :
    Tidy within (catalog.apply config action) := by
  have sound := tidy.sound.apply config action
  cases action with
  | retry path reads =>
    refine tidy.adds sound (refreshCandidate_settled config path reads).changes.entries
      fun isEntry => ?_
    rcases refreshCandidate_becomes isEntry with wasEntry | ⟨entry, accepted⟩
    · exact Or.inl wasEntry
    · exact Or.inr (Or.inl (oneName entry accepted))
  | discover path reads =>
    exact tidy.adds sound (refreshCandidate_settled config path reads).changes.entries
      fun _ => Or.inr (Or.inr may)
  | record journalPath line =>
    rcases @refreshPublicationRecord_cases config catalog journalPath line with
      same | ⟨publication, accepted, isNone, settled⟩
    · exact tidy.fewer sound fun path isEntry => by
        rwa [Catalog.apply, same] at isEntry
    · exact tidy.adds sound settled.changes.entries
        fun _ => Or.inr (Or.inl (oneName publication accepted isNone))
  | forget path =>
    refine tidy.adds sound forget_settled.changes.entries fun isEntry => ?_
    exact absurd (Dict.get_erase_self catalog.entries path) isEntry
  | removeEntry path =>
    refine tidy.adds sound (catalog.removeEntry_changes path).entries fun isEntry => ?_
    exact absurd (Dict.get_erase_self catalog.entries path) isEntry
  | _ => exact tidy.fewer sound fun _ isEntry => isEntry

theorem Tidy.ensures {Result : Type} {program : IndexProgram Result}
    (performs : program.Performs (FindsIn within)) (tidy : Tidy within catalog) :
    program.Ensures (Catalog.apply config) (UnderOneName config) (fun _ => Tidy within)
      catalog :=
  performs.ensures (fun _ _ may oneName isTidy => isTidy.apply may oneName) tidy

theorem Catalog.Sound.ensures {Result : Type} (sound : catalog.Sound)
    (program : IndexProgram Result) (allowed : Catalog → CatalogAction → Prop) :
    program.Ensures (Catalog.apply config) allowed (fun _ => Catalog.Sound) catalog :=
  (Program.performs_of_forall (fun _ => trivial) program).ensures
    (fun _ action (_ : True) _ isSound => isSound.apply config action) sound

/-! ## What the programs perform -/

section

variable (config : IndexConfig) (within : FilePath → Prop)

theorem perform_performs {action : CatalogAction} (may : FindsIn within action) :
    (perform action : IndexProgram Unit).Performs (FindsIn within) := ⟨may, trivial⟩

theorem orRaise_performs {Value : Type} (value : Option Value) :
    (orRaise value).Performs (FindsIn within) := by
  cases value with
  | none | some => trivial

theorem consumeLines_performs (journalPath : FilePath) (lines : List (List Nat)) :
    (consumeLines config journalPath lines).Performs (FindsIn within) := by
  induction lines with
  | nil => trivial
  | cons _ _ induction =>
    unfold consumeLines
    split
    next => exact induction
    next =>
      intro catalog
      exact ⟨trivial, induction.bind fun _ => trivial⟩

theorem consumePublicationJournal_performs (journalPath : FilePath) :
    (consumePublicationJournal config journalPath).Performs (FindsIn within) := by
  intro catalog reply
  cases reply with
  | none => trivial
  | some reply =>
    cases reply with
    | missing =>
      cases catalog.publicationCursors.get journalPath with
      | none => trivial
      | some => exact ⟨trivial, trivial⟩
    | unreadable => trivial
    | opened =>
      simp only [Program.bind]
      split
      next => exact ⟨trivial, trivial⟩
      next =>
        exact ⟨trivial, (consumeLines_performs config within _ _).bind fun _ => trivial⟩

theorem consumeJournals_performs (paths : List FilePath) :
    (consumeJournals config paths).Performs (FindsIn within) := by
  induction paths with
  | nil => trivial
  | cons path _ induction =>
    exact (consumePublicationJournal_performs config within path).bind fun _ =>
      induction.bind fun _ => trivial

theorem consumePublicationJournals_performs :
    (consumePublicationJournals config).Performs (FindsIn within) := fun _ =>
  consumeJournals_performs config within _

theorem retryCandidate_performs (path : FilePath) :
    (retryCandidate path).Performs (FindsIn within) := fun _ => ⟨trivial, trivial⟩

theorem removeTree_performs (path : FilePath) :
    (removeTree path).Performs (FindsIn within) :=
  ⟨trivial, fun _ => Program.Performs.forM fun _ _ => perform_performs within trivial⟩

theorem queueRoots_performs (roots : List FilePath) (scan : Scan) :
    (queueRoots roots scan).Performs (FindsIn within) := by
  induction roots generalizing scan with
  | nil => trivial
  | cons _ _ induction =>
    intro reply
    refine (orRaise_performs within reply).bind fun isThere catalog => ?_
    simp only [Program.bind]
    split
    all_goals exact induction _

theorem queueContainers_performs (membership : Bool) (containers : List (FilePath × Int))
    (scan : Scan) : (queueContainers membership containers scan).Performs (FindsIn within) := by
  induction containers generalizing scan with
  | nil => trivial
  | cons _ _ induction =>
    intro mtime
    simp only [Program.bind]
    split
    next => exact (removeTree_performs within _).bind fun _ => induction _
    next =>
      split
      all_goals exact induction _

theorem candidatePath_performs (directory : FilePath) :
    (candidatePath config directory).Performs (FindsIn within) := by
  intro reply
  refine (orRaise_performs within reply).bind fun isManifest => ?_
  split
  next => trivial
  next =>
    intro reply
    refine (orRaise_performs within reply).bind fun isMetadata => ?_
    split
    next =>
      intro content
      exact (orRaise_performs within _).bind fun _ => trivial
    next => trivial

end

/-! ## Scanning -/

def OneEach (paths : List FilePath) : Prop :=
  ∀ directory, directory ++ [segmentManifestFile] ∈ paths →
    directory ++ [segmentMetadataFile] ∉ paths

variable {allowed : Catalog → CatalogAction → Prop}

theorem ensures_orRaise {Value : Type} {value : Option Value}
    {condition : Value → Catalog → Prop} :
    (orRaise value).Ensures (Catalog.apply config) allowed condition catalog ↔
      ∀ found, value = some found → condition found catalog := by
  cases value with
  | none =>
    constructor
    · intro _ found isFound
      cases isFound
    · exact fun _ => trivial
  | some found =>
    constructor
    · rintro holds _ ⟨⟩
      exact holds
    · exact fun holds => holds found rfl

theorem settledPath_parent {child path : FilePath}
    (isSettled : catalog.settledPath child = some path) : path.parent = child := by
  simp only [Catalog.settledPath, Option.filter_eq_some_iff] at isSettled
  have member := List.mem_of_find?_eq_some isSettled.1
  simp only [List.mem_cons, List.not_mem_nil, or_false] at member
  rcases member with rfl | rfl
  all_goals exact parent_append _ _

theorem candidatePath_parent (child : FilePath) (catalog : Catalog) :
    (candidatePath config child).Ensures (Catalog.apply config) allowed
      (fun found _ => ∀ path, found = some path → path.parent = child) catalog := by
  simp only [candidatePath, ensures_bind, ensures_query, ensures_orRaise]
  intro _ isManifest _
  split
  next =>
    rintro path ⟨⟩
    exact parent_append _ _
  next =>
    simp only [ensures_bind, ensures_query, ensures_orRaise]
    intro _ isMetadata _
    split
    next =>
      simp only [ensures_bind, ensures_query, ensures_orRaise]
      intro _ isCandidate _ path found
      split at found
      next =>
        cases found
        exact parent_append _ _
      next => cases found
    next => exact fun path found => by cases found

theorem Tidy.discover {child path : FilePath} (tidy : Tidy within catalog)
    (isWithin : within child) (isChild : path.parent = child) (reads : CandidateReads) :
    Tidy within (catalog.apply config (.discover path reads)) :=
  tidy.apply (show within path.parent from isChild.symm ▸ isWithin) trivial

theorem scanChild_ensures (membership : Bool) {child : FilePath} (isWithin : within child)
    (tidy : Tidy within catalog) :
    (scanChild config membership child).Ensures (Catalog.apply config) (UnderOneName config)
      (fun found after => Tidy within after ∧
        ∀ path, found.1 = some path → path.parent = child) catalog := by
  simp only [scanChild, ensures_bind, ensures_current]
  split
  next path isSettled =>
    simp only [ensures_bind, ensures_perform, ensures_pure]
    intro _
    refine ⟨tidy.apply trivial trivial, ?_⟩
    rintro _ ⟨⟩
    exact settledPath_parent isSettled
  next =>
    simp only [ensures_bind]
    have found := (candidatePath_parent child catalog).and
      (tidy.ensures (candidatePath_performs config within child))
    refine found.mono fun found after holds => ?_
    rcases holds with ⟨isChild, tidy⟩
    split
    next path =>
      simp only [ensures_bind, ensures_perform, ensures_current]
      intro _
      have dropped : Tidy within (after.apply config (.dropContainer child)) :=
        tidy.apply trivial trivial
      split
      next =>
        simp only [ensures_bind, ensures_query, ensures_perform,
          ensures_pure, discoverCandidate]
        intro reads _
        refine ⟨dropped.discover isWithin (isChild path rfl) reads, ?_⟩
        rintro _ ⟨⟩
        exact isChild path rfl
      next =>
        refine ⟨dropped, ?_⟩
        rintro _ ⟨⟩
        exact isChild path rfl
    next =>
      simp only [ensures_bind, ensures_current, ensures_query]
      intro mtime
      split
      next =>
        simp only [ensures_bind]
        refine (tidy.ensures (removeTree_performs within child)).mono fun _ _ isTidy => ?_
        exact ⟨isTidy, fun _ found => by cases found⟩
      next =>
        simp only [ensures_bind, ensures_perform, ensures_pure]
        exact fun _ => ⟨tidy.apply trivial trivial, fun _ found => by cases found⟩

theorem OneEach.cons {paths : List FilePath} (oneEach : OneEach paths)
    (fresh : ∀ other ∈ paths, other.parent ≠ path.parent) : OneEach (path :: paths) := by
  intro directory isManifest isMetadata
  rcases List.mem_cons.mp isManifest with isPath | isManifest
  · rcases List.mem_cons.mp isMetadata with same | isMetadata
    · rw [← isPath] at same
      exact manifestFile_ne_metadataFile.symm (by simpa using same)
    · exact fresh _ isMetadata (by rw [← isPath, parent_append, parent_append])
  · rcases List.mem_cons.mp isMetadata with isPath | isMetadata
    · exact fresh _ isManifest (by rw [← isPath, parent_append, parent_append])
    · exact oneEach directory isManifest isMetadata

theorem scanChildren_ensures (membership : Bool) {container : FilePath}
    (isWithin : ∀ name, within (container ++ [name])) {children : List (Text × Option Bool)}
    (distinct : (children.map Prod.fst).Nodup) {manifests : List FilePath}
    (oneEach : OneEach manifests)
    (fresh : ∀ child ∈ children, ∀ path ∈ manifests, path.parent ≠ container ++ [child.1])
    (scan : Scan) (tidy : Tidy within catalog) :
    (scanChildren config membership container children scan manifests).Ensures
      (Catalog.apply config) (UnderOneName config)
      (fun result after => Tidy within after ∧ ∀ done, result = some done → OneEach done.2)
      catalog := by
  induction children generalizing scan manifests catalog with
  | nil =>
    refine ⟨tidy, ?_⟩
    rintro _ ⟨⟩
    exact oneEach
  | cons child _ induction =>
    rcases child with ⟨name, _⟩
    rcases List.nodup_cons.mp distinct with ⟨isNew, others⟩
    rcases List.forall_mem_cons.mp fresh with ⟨here, later⟩
    simp only [scanChildren]
    split
    next => exact ⟨tidy, fun _ found => by cases found⟩
    next =>
      simp only [ensures_bind, ensures_orRaise]
      intro isDirectory _
      split
      next =>
        simp only [ensures_bind]
        refine (scanChild_ensures membership (isWithin name) tidy).mono ?_
        rintro found after ⟨isTidy, isChild⟩
        rcases found with ⟨found, _⟩
        cases found with
        | none => exact induction others oneEach later _ isTidy
        | some path =>
          have ofChild := isChild path rfl
          refine induction others ?_ ?_ _ isTidy
          · exact oneEach.cons fun other member => ofChild ▸ here other member
          · intro other member known isKnown
            rcases List.mem_cons.mp isKnown with rfl | isKnown
            · rw [ofChild]
              intro same
              have sameName : name = other.1 := by simpa using same
              apply isNew
              rw [sameName]
              exact List.mem_map.mpr ⟨other, member, rfl⟩
            · exact later other member known isKnown
      next => exact induction others oneEach later _ tidy

/-- The maps with fewer entries than before. -/
structure Fewer (before after : Catalog) : Prop where
  sound : after.Sound
  fewer : ∀ path, after.entries.get path ≠ none → before.entries.get path ≠ none

theorem removeAll_ensures {action : FilePath → CatalogAction}
    (erases : ∀ catalog path,
      (Catalog.apply config catalog (action path)).entries = catalog.entries.erase path)
    (sound : catalog.Sound) (paths : List FilePath) :
    (paths.forM fun path => (perform (action path) : IndexProgram PUnit)).Ensures
      (Catalog.apply config) allowed (fun _ after => Fewer catalog after ∧
        ∀ path ∈ paths, after.entries.get path = none) catalog := by
  have erased : ∀ before path other, before.entries.get other = none →
      (Catalog.apply config before (action path)).entries.get other = none := by
    intro before path other isNone
    rw [erases]
    by_cases same : other = path
    · rw [same, Dict.get_erase_self]
    · rw [Dict.get_erase_of_ne _ same, isNone]
  have each : ∀ path ∈ paths, ∀ before, Fewer catalog before →
      (perform (action path) : IndexProgram PUnit).Ensures (Catalog.apply config)
        allowed (fun _ after => Fewer catalog after ∧ after.entries.get path = none ∧
          ∀ other, before.entries.get other = none → after.entries.get other = none) before := by
    intro path _ before fewer _
    refine ⟨⟨fewer.sound.apply config _, fun other isEntry => fewer.fewer other ?_⟩, ?_,
      erased before path⟩
    · exact fun isNone => isEntry (erased before path other isNone)
    · rw [erases, Dict.get_erase_self]
  refine (Program.ensures_forM each ⟨sound, fun _ => id⟩).mono fun _ after holds => ?_
  exact ⟨holds.1, holds.2.1⟩

/-- A container whose children are found under one name each is tidy again when what is
missing has been forgotten. -/
theorem forgetMissing_ensures {container : FilePath} {manifests : List FilePath}
    (oneEach : OneEach manifests)
    (tidy : Tidy (fun directory => directory.parent = container) catalog) :
    (forgetMissing container manifests).Ensures (Catalog.apply config) allowed
      (fun _ => Tidy nowhere) catalog := by
  simp only [forgetMissing, ensures_bind, ensures_current]
  refine (removeAll_ensures (fun _ _ => rfl) tidy.sound _).mono ?_
  rintro _ after ⟨fewer, gone⟩
  refine ⟨fewer.sound, fun directory first second => ?_⟩
  have isChild := tidy.pairs directory (fewer.fewer _ first) (fewer.fewer _ second)
  have known : ∀ path, after.entries.get path ≠ none → path.parent.parent = container →
      path ∈ manifests := by
    intro path isEntry isDirect
    by_contra isMissing
    apply isEntry
    apply gone path
    have isKnown : path ∈ catalog.known := by
      apply List.mem_append_left
      by_contra missing
      exact fewer.fewer path isEntry (Dict.get_eq_none missing)
    simp [List.mem_filter, isKnown, isDirect, isMissing]
  exact oneEach directory (known _ first (by rw [parent_append, isChild]))
    (known _ second (by rw [parent_append, isChild]))

theorem scanQueue_ensures (membership : Bool) (fuel : Nat) (scan : Scan)
    (tidy : Tidy nowhere catalog) :
    (scanQueue config membership fuel scan).Ensures (Catalog.apply config)
      (UnderOneName config)
      (fun result after => after.Sound ∧ (result.isSome = true → Tidy nowhere after))
      catalog := by
  induction fuel generalizing scan catalog with
  | zero => exact ⟨tidy.sound, fun _ => tidy⟩
  | succ _ induction =>
    unfold scanQueue
    split
    next => exact ⟨tidy.sound, fun _ => tidy⟩
    next container queue _ =>
      split
      next => exact induction _ tidy
      next =>
        simp only [ensures_bind, ensures_query]
        intro mtime
        split
        next =>
          simp only [ensures_bind]
          exact (tidy.ensures (removeTree_performs nowhere container)).mono
            fun _ _ isTidy => induction _ isTidy
        next =>
          simp only [ensures_bind, ensures_perform, ensures_query]
          intro _ reply
          have entered : Tidy nowhere (catalog.apply config (.setContainer container mtime)) :=
            tidy.apply trivial trivial
          cases reply with
          | none =>
            simp only [ensures_bind, ensures_perform]
            exact fun _ => induction _ (entered.apply trivial trivial)
          | some listing =>
            simp only [ensures_bind]
            have wide : Tidy (fun directory => directory.parent = container) _ :=
              entered.mono fun _ => False.elim
            refine (scanChildren_ensures membership (parent_append container)
              listing.distinct (fun _ isManifest => absurd isManifest List.not_mem_nil)
              (fun _ _ _ member => absurd member List.not_mem_nil) _ wide).mono ?_
            rintro result after ⟨isTidy, oneEach⟩
            cases result with
            | none => exact ⟨isTidy.sound, fun isSome => by cases isSome⟩
            | some found =>
              simp only [ensures_bind]
              exact (forgetMissing_ensures (oneEach found rfl) isTidy).mono
                fun _ _ isNarrow => induction _ isNarrow

/-! ## The scan comes to its end -/

def Scan.left (scan : Scan) (config : IndexConfig) : Nat :=
  scan.queue.length + (config.maxScanEntries - scan.visited)

theorem enqueue_length (scan : Scan) (path : FilePath) :
    (scan.enqueue path).queue.length ≤ scan.queue.length + 1 := by
  unfold Scan.enqueue
  split
  next => exact Nat.le_succ _
  next => simp

theorem enqueue_visited (scan : Scan) (path : FilePath) :
    (scan.enqueue path).visited = scan.visited := by
  unfold Scan.enqueue
  split
  all_goals rfl

theorem scanChildren_left (membership : Bool) (container : FilePath)
    (children : List (Text × Option Bool)) (scan : Scan) (manifests : List FilePath)
    (catalog : Catalog) :
    (scanChildren config membership container children scan manifests).Ensures
      (Catalog.apply config) allowed
      (fun result _ => ∀ done, result = some done → done.1.left config ≤ scan.left config)
      catalog := by
  induction children generalizing scan manifests catalog with
  | nil =>
    rintro _ ⟨⟩
    exact le_rfl
  | cons child _ induction =>
    rcases child with ⟨name, _⟩
    simp only [scanChildren]
    split
    next => rintro _ ⟨⟩
    next few =>
      simp only [ensures_bind, ensures_orRaise]
      intro isDirectory _
      split
      next =>
        simp only [ensures_bind]
        apply ensures_of_forall
        intro found after
        refine (induction _ _ after).mono fun result _ isLess done isDone => ?_
        refine (isLess done isDone).trans ?_
        unfold Scan.left
        split
        next =>
          have longer := enqueue_length { scan with visited := scan.visited + 1 }
            (container ++ [name])
          have visited := enqueue_visited { scan with visited := scan.visited + 1 }
            (container ++ [name])
          simp only at longer visited few
          omega
        next =>
          simp only
          omega
      next =>
        refine (induction _ _ catalog).mono fun result _ isLess done isDone => ?_
        refine (isLess done isDone).trans ?_
        unfold Scan.left
        simp only
        omega

/-- With as much fuel as there is left to visit, the scan does not stop short of the end
of its queue. -/
theorem scanQueue_finishes (membership : Bool) (fuel : Nat) (scan : Scan)
    (enough : scan.left config ≤ fuel) (catalog : Catalog) :
    (scanQueue config membership fuel scan).Ensures (Catalog.apply config) allowed
      (fun result _ => ∀ done, result = some done → done.queue = []) catalog := by
  induction fuel generalizing scan catalog with
  | zero =>
    rintro _ ⟨⟩
    apply List.length_eq_zero_iff.mp
    unfold Scan.left at enough
    omega
  | succ fuel induction =>
    unfold scanQueue
    split
    next isEmpty =>
      rintro _ ⟨⟩
      exact isEmpty
    next container queue isQueue =>
      have less : ∀ processed, Scan.left ⟨queue, processed, scan.visited⟩ config ≤ fuel := by
        intro processed
        unfold Scan.left at enough ⊢
        rw [isQueue, List.length_cons] at enough
        simp only
        omega
      split
      next => exact induction _ (less _) catalog
      next =>
        simp only [ensures_bind, ensures_query]
        intro mtime
        split
        next =>
          simp only [ensures_bind]
          apply ensures_of_forall
          exact fun _ after => induction _ (less _) after
        next =>
          simp only [ensures_bind, ensures_perform, ensures_query]
          intro _ reply
          cases reply with
          | none =>
            simp only [ensures_bind, ensures_perform]
            exact fun _ => induction _ (less _) _
          | some =>
            simp only [ensures_bind]
            refine (scanChildren_left membership container _ _ _ _).mono ?_
            intro result after isLess
            cases result with
            | none => rintro _ ⟨⟩
            | some found =>
              simp only [ensures_bind]
              apply ensures_of_forall
              intro _ last
              exact induction _ ((isLess found rfl).trans (less _)) last

end VideoAnalysis.SegmentIndex
