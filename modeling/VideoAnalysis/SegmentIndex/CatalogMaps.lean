import VideoAnalysis.Foundation.DictSize
import VideoAnalysis.SegmentIndex.Refresh

/-! # What each action does to the maps of a catalog

An action on one path changes the maps at that path only. Whatever it does there, the
path is not pending and an entry at once, is pending where it has failed, and is an
entry only with a segment that belongs there.
-/

namespace VideoAnalysis.SegmentIndex

open Foundation Python

@[simp] theorem name_append (directory : FilePath) (name : Text) :
    FilePath.name (directory ++ [name]) = name := by
  simp [FilePath.name]

@[simp] theorem parent_append (directory : FilePath) (name : Text) :
    FilePath.parent (directory ++ [name]) = directory := by
  simp [FilePath.parent]

theorem manifestFile_ne_metadataFile : segmentManifestFile ≠ segmentMetadataFile := by
  decide

def IsCatalogPath (path : FilePath) : Prop :=
  path = path.parent ++ [segmentManifestFile] ∨ path = path.parent ++ [segmentMetadataFile]

/-- The segment is one of the source and the epoch, and the path its catalog file. -/
structure Describes (catalog : Catalog) (path : FilePath) (segment : RollingSegment) :
    Prop where
  sourceId : segment.sourceId = catalog.sourceId
  runtimeEpochId : segment.runtimeEpochId = catalog.runtimeEpochId
  directory : segment.directory = path.parent
  segmentId : segment.segmentId = path.parent.name
  catalogPath : IsCatalogPath path

structure Catalog.Sound (catalog : Catalog) : Prop where
  disjoint : ∀ path ∈ catalog.pending, catalog.entries.get path = none
  failedPending : ∀ path identity, catalog.failedIdentities.get path = some identity →
    path ∈ catalog.pending
  describes : ∀ path entry, catalog.entries.get path = some entry →
    Describes catalog path entry.segment
  distinct : catalog.entries.Distinct

/-! ## Actions on one path -/

/-- The maps after an action on a path. -/
structure ChangesOnly (path : FilePath) (before after : Catalog) : Prop where
  sourceId : after.sourceId = before.sourceId
  runtimeEpochId : after.runtimeEpochId = before.runtimeEpochId
  entries : ∀ other, other ≠ path → after.entries.get other = before.entries.get other
  pending : ∀ other, other ≠ path → (other ∈ after.pending ↔ other ∈ before.pending)
  failed : ∀ other, other ≠ path →
    after.failedIdentities.get other = before.failedIdentities.get other
  distinct : before.entries.Distinct → after.entries.Distinct

structure Settled (path : FilePath) (before after : Catalog) : Prop where
  changes : ChangesOnly path before after
  disjoint : path ∈ after.pending → after.entries.get path = none
  failedPending : ∀ identity, after.failedIdentities.get path = some identity →
    path ∈ after.pending
  describes : ∀ entry, after.entries.get path = some entry →
    before.entries.get path = some entry ∨ Describes before path entry.segment

theorem Catalog.Sound.settled {path : FilePath} {before after : Catalog}
    (sound : before.Sound) (settled : Settled path before after) : after.Sound := by
  have same := settled.changes
  refine ⟨fun other isPending => ?_, fun other identity hasFailed => ?_,
    fun other entry isEntry => ?_, same.distinct sound.distinct⟩
  · by_cases isPath : other = path
    · rw [isPath] at isPending ⊢
      exact settled.disjoint isPending
    · rw [same.entries other isPath]
      exact sound.disjoint other ((same.pending other isPath).mp isPending)
  · by_cases isPath : other = path
    · rw [isPath] at hasFailed ⊢
      exact settled.failedPending identity hasFailed
    · rw [same.failed other isPath] at hasFailed
      exact (same.pending other isPath).mpr (sound.failedPending other identity hasFailed)
  · have described : Describes before other entry.segment := by
      by_cases isPath : other = path
      · rw [isPath] at isEntry ⊢
        rcases settled.describes entry isEntry with wasEntry | described
        · exact sound.describes path entry wasEntry
        · exact described
      · rw [same.entries other isPath] at isEntry
        exact sound.describes other entry isEntry
    rcases described with ⟨ofSource, ofEpoch, directory, segmentId, catalogPath⟩
    exact ⟨ofSource.trans same.sourceId.symm, ofEpoch.trans same.runtimeEpochId.symm,
      directory, segmentId, catalogPath⟩

namespace Catalog

variable (catalog : Catalog) (path : FilePath)

theorem addPending_changes : ChangesOnly path catalog (catalog.addPending path) := by
  refine ⟨rfl, rfl, fun _ _ => rfl, fun other isOther => ?_, fun _ _ => rfl, id⟩
  simp [addPending, List.mem_insert_iff, isOther]

theorem discardPending_changes : ChangesOnly path catalog (catalog.discardPending path) := by
  refine ⟨rfl, rfl, fun _ _ => rfl, fun other isOther => ?_, fun _ _ => rfl, id⟩
  simp [discardPending, isOther]

theorem setFailed_changes (identity : FileIdentity) :
    ChangesOnly path catalog (catalog.setFailed path identity) :=
  ⟨rfl, rfl, fun _ _ => rfl, fun _ _ => Iff.rfl,
    fun _ isOther => Dict.get_set_of_ne _ _ isOther, id⟩

theorem popFailed_changes : ChangesOnly path catalog (catalog.popFailed path) :=
  ⟨rfl, rfl, fun _ _ => rfl, fun _ _ => Iff.rfl,
    fun _ isOther => Dict.get_erase_of_ne _ isOther, id⟩

theorem removeEntry_changes : ChangesOnly path catalog (catalog.removeEntry path) :=
  ⟨rfl, rfl, fun _ isOther => Dict.get_erase_of_ne _ isOther, fun _ _ => Iff.rfl,
    fun _ _ => rfl, fun distinct => distinct.erase path⟩

theorem setEntry_changes (entry : IndexedSegment) :
    ChangesOnly path catalog (catalog.setEntry path entry) :=
  ⟨rfl, rfl, fun _ isOther => Dict.get_set_of_ne _ _ isOther, fun _ _ => Iff.rfl,
    fun _ _ => rfl, fun distinct => distinct.set path entry⟩

end Catalog

theorem ChangesOnly.trans {path : FilePath} {first second third : Catalog}
    (before : ChangesOnly path first second) (after : ChangesOnly path second third) :
    ChangesOnly path first third where
  sourceId := after.sourceId.trans before.sourceId
  runtimeEpochId := after.runtimeEpochId.trans before.runtimeEpochId
  entries other isOther := (after.entries other isOther).trans (before.entries other isOther)
  pending other isOther := (after.pending other isOther).trans (before.pending other isOther)
  failed other isOther := (after.failed other isOther).trans (before.failed other isOther)
  distinct isDistinct := after.distinct (before.distinct isDistinct)

/-! ## Verdicts on a candidate -/

section

variable {config : IndexConfig} {catalog : Catalog} {path : FilePath} {reads : CandidateReads}

theorem isCatalogPath_of_name {schema : ManifestSchema} (isName : path.name = schema.catalogName) :
    IsCatalogPath path := by
  have notRoot : path ≠ [] := by
    rintro rfl
    cases schema <;> cases isName
  have split : path = path.parent ++ [path.name] := by
    rw [FilePath.parent, FilePath.name, List.getLast?_eq_getLast_of_ne_nil notRoot,
      Option.getD_some, List.dropLast_append_getLast notRoot]
  rw [isName] at split
  cases schema with
  | metadataOnly => exact Or.inr split
  | separate | singleInode => exact Or.inl split

variable {entry : IndexedSegment}

theorem judgeManifest_accepted {identity : FileIdentity}
    (accepted : judgeManifest config catalog path reads identity = .accepted entry) :
    Describes catalog path entry.segment := by
  unfold judgeManifest at accepted
  split at accepted
  next => cases accepted
  next manifest _ =>
    split at accepted
    next => cases accepted
    next =>
      split at accepted
      next => cases accepted
      next belongs =>
        push Not at belongs
        rcases belongs with ⟨isName, isSegment, isSource, isEpoch, _⟩
        split at accepted
        next =>
          split at accepted
          next => cases accepted
          next =>
            split at accepted
            next => cases accepted
            next =>
              cases accepted
              exact ⟨isSource, isEpoch, rfl, isSegment, isCatalogPath_of_name isName⟩
        next => cases accepted

theorem judgeCandidate_accepted
    (accepted : judgeCandidate config catalog path reads = .accepted entry) :
    Describes catalog path entry.segment := by
  unfold judgeCandidate at accepted
  split at accepted
  next => cases accepted
  next identity _ =>
    split at accepted
    next => cases accepted
    next =>
      split at accepted
      next => cases accepted
      next =>
        split at accepted
        next =>
          split at accepted
          next =>
            split at accepted
            next =>
              split at accepted
              all_goals cases accepted
            next => cases accepted
          next => exact judgeManifest_accepted accepted
        next => exact judgeManifest_accepted accepted

theorem settle_changes (verdict : Verdict) :
    ChangesOnly path catalog (settle catalog path verdict) := by
  cases verdict with
  | gone =>
    exact ((catalog.discardPending_changes path).trans (Catalog.popFailed_changes _ path)).trans
      (Catalog.removeEntry_changes _ path)
  | unstable | incomplete =>
    exact ((catalog.addPending_changes path).trans (Catalog.popFailed_changes _ path)).trans
      (Catalog.removeEntry_changes _ path)
  | stillFailed | unreadable =>
    exact (catalog.addPending_changes path).trans (Catalog.removeEntry_changes _ path)
  | unchanged =>
    exact (catalog.discardPending_changes path).trans (Catalog.popFailed_changes _ path)
  | rejected identity =>
    exact ((catalog.addPending_changes path).trans
      (Catalog.setFailed_changes _ path identity)).trans (Catalog.removeEntry_changes _ path)
  | accepted entry =>
    exact ((catalog.setEntry_changes path entry).trans
      (Catalog.discardPending_changes _ path)).trans (Catalog.popFailed_changes _ path)

theorem settle_entry {verdict : Verdict}
    (isEntry : (settle catalog path verdict).entries.get path = some entry) :
    verdict = .accepted entry ∨
      verdict = .unchanged ∧ catalog.entries.get path = some entry := by
  cases verdict with
  | gone => simp [settle, Catalog.forget, Catalog.removeEntry] at isEntry
  | unchanged => exact Or.inr ⟨rfl, isEntry⟩
  | accepted published =>
    have same : some published = some entry := by
      rw [← isEntry]
      exact (Dict.get_set_self catalog.entries path published).symm
    rw [Option.some.inj same]
    exact Or.inl rfl
  | _ => simp [settle, Catalog.removeEntry] at isEntry

theorem settle_settled {verdict : Verdict}
    (described : ∀ entry, verdict = .accepted entry → Describes catalog path entry.segment) :
    Settled path catalog (settle catalog path verdict) := by
  refine ⟨settle_changes verdict, fun isPending => ?_, fun identity hasFailed => ?_,
    fun entry isEntry => ?_⟩
  · cases verdict with
    | unchanged | accepted => simp [settle, Catalog.popFailed, Catalog.discardPending] at isPending
    | _ => simp [settle, Catalog.forget, Catalog.removeEntry]
  · cases verdict with
    | gone =>
      simp [settle, Catalog.forget, Catalog.removeEntry, Catalog.popFailed] at hasFailed
    | unchanged | accepted => simp [settle, Catalog.popFailed] at hasFailed
    | _ =>
      simp [settle, Catalog.removeEntry, Catalog.popFailed, Catalog.setFailed,
        Catalog.addPending]
  · rcases settle_entry isEntry with accepted | ⟨_, wasEntry⟩
    · exact Or.inr (described entry accepted)
    · exact Or.inl wasEntry

theorem refreshCandidate_settled (config : IndexConfig) (path : FilePath)
    (reads : CandidateReads) :
    Settled path catalog (refreshCandidate config catalog path reads) :=
  settle_settled fun _ accepted => judgeCandidate_accepted accepted

theorem refreshCandidate_accepted
    (isEntry : (refreshCandidate config catalog path reads).entries.get path = some entry)
    (wasNone : catalog.entries.get path = none) :
    judgeCandidate config catalog path reads = .accepted entry := by
  rcases settle_entry isEntry with accepted | ⟨_, wasEntry⟩
  · exact accepted
  · rw [wasNone] at wasEntry
    cases wasEntry

end

/-! ## Records and removals -/

theorem readPublication_manifest {minVideoBytes : Int} {sourceId runtimeEpochId : Text}
    {payload : List (Text × Json)} {publication : Publication}
    (isRead : readPublication minVideoBytes sourceId runtimeEpochId payload = some publication) :
    publication.manifest.sourceId = sourceId ∧
      publication.manifest.runtimeEpochId = runtimeEpochId := by
  unfold readPublication at isRead
  simp only [Option.bind_eq_bind, Option.bind_eq_some_iff, Option.guard_eq_some'] at isRead
  rcases isRead with ⟨_, _, _, _, _, _, _, _, _, _, _, _, _, belongs, isRead⟩
  rw [Bool.and_eq_true, decide_eq_true_eq, decide_eq_true_eq] at belongs
  split at isRead
  next =>
    simp only [Option.bind_eq_some_iff] at isRead
    rcases isRead with ⟨_, _, _, _, _, _, _, _, _, _, _, _, _, _, _, _, _, _, isPublication⟩
    cases isPublication
    exact belongs
  next => cases isRead

section

variable {config : IndexConfig} {catalog : Catalog} {path journalPath : FilePath}
  {line : List Nat} {publication : Publication}

theorem acceptRecord_describes
    (accepted : acceptRecord config catalog journalPath line = some publication) :
    Describes catalog (publication.catalogPath journalPath)
      (publication.entry journalPath).segment := by
  unfold acceptRecord at accepted
  simp only [Option.bind_eq_bind, Option.bind_eq_some_iff] at accepted
  rcases accepted with ⟨_, _, _, isRead, _, _, _, _, same⟩
  cases same
  rcases readPublication_manifest isRead with ⟨isSource, isEpoch⟩
  refine ⟨isSource, isEpoch, (parent_append _ _).symm, ?_, isCatalogPath_of_name
    (name_append _ _)⟩
  rw [Publication.catalogPath, parent_append, Publication.directory, name_append]
  rfl

theorem refreshPublicationRecord_cases :
    refreshPublicationRecord config catalog journalPath line = catalog ∨
      ∃ publication, acceptRecord config catalog journalPath line = some publication ∧
        catalog.entries.get (publication.catalogPath journalPath) = none ∧
        Settled (publication.catalogPath journalPath) catalog
          (refreshPublicationRecord config catalog journalPath line) := by
  unfold refreshPublicationRecord
  split
  next => exact Or.inl rfl
  next publication accepted =>
    simp only
    split
    next => exact Or.inl rfl
    next isNone =>
      refine Or.inr ⟨publication, accepted, isNone, ?_⟩
      have settled : Settled (publication.catalogPath journalPath) catalog
          (settle catalog (publication.catalogPath journalPath)
            (.accepted (publication.entry journalPath))) :=
        settle_settled fun entry same => by
          cases same
          exact acceptRecord_describes accepted
      rcases settled with ⟨changes, disjoint, failedPending, describes⟩
      rcases changes with ⟨ofSource, ofEpoch, entries, pending, failed, distinct⟩
      exact ⟨⟨ofSource, ofEpoch, entries, pending, failed, distinct⟩, disjoint, failedPending,
        describes⟩

theorem forget_settled : Settled path catalog (catalog.forget path) :=
  @settle_settled catalog path .gone fun _ accepted => by cases accepted

theorem Catalog.Sound.removeEntry (sound : catalog.Sound) (path : FilePath) :
    (catalog.removeEntry path).Sound := by
  apply sound.settled
  refine ⟨catalog.removeEntry_changes path, fun _ => ?_, fun identity hasFailed => ?_,
    fun entry isEntry => ?_⟩
  · simp [Catalog.removeEntry]
  · exact sound.failedPending path identity hasFailed
  · simp [Catalog.removeEntry] at isEntry

end

theorem Catalog.Sound.apply {catalog : Catalog} (sound : catalog.Sound) (config : IndexConfig)
    (action : CatalogAction) : (catalog.apply config action).Sound := by
  have kept : ∀ after : Catalog, after.sourceId = catalog.sourceId →
      after.runtimeEpochId = catalog.runtimeEpochId → after.entries = catalog.entries →
      after.pending = catalog.pending →
      after.failedIdentities = catalog.failedIdentities → after.Sound := by
    intro after ofSource ofEpoch entries pending failed
    rcases sound with ⟨_, _, describes, _⟩
    refine ⟨?_, ?_, ?_, ?_⟩
    · rwa [entries, pending]
    · rwa [failed, pending]
    · intro path entry isEntry
      rw [entries] at isEntry
      rcases describes path entry isEntry with ⟨source, epoch, directory, segmentId, isPath⟩
      exact ⟨source.trans ofSource.symm, epoch.trans ofEpoch.symm, directory, segmentId, isPath⟩
    · rwa [entries]
  cases action with
  | retry path reads | discover path reads =>
    exact sound.settled (refreshCandidate_settled config path reads)
  | record journalPath line =>
    rcases @refreshPublicationRecord_cases config catalog journalPath line with
      same | ⟨_, _, _, settled⟩
    · rwa [Catalog.apply, same]
    · exact sound.settled settled
  | forget => exact sound.settled forget_settled
  | removeEntry path => exact sound.removeEntry path
  | restart =>
    refine ⟨fun _ isPending => absurd isPending List.not_mem_nil,
      fun _ _ hasFailed => absurd hasFailed (by simp [Catalog.apply]),
      fun path entry isEntry => ?_, sound.distinct⟩
    rcases sound.describes path entry isEntry with ⟨source, epoch, directory, segmentId, isPath⟩
    exact ⟨source, epoch, directory, segmentId, isPath⟩
  | _ => exact kept _ rfl rfl rfl rfl rfl

end VideoAnalysis.SegmentIndex
