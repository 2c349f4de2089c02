import Mathlib.Data.List.Basic
import Mathlib.Data.List.Induction
import VideoAnalysis.Sink.Publisher

/-! # Group commit and single commit

The group begins every item before it renames the first one, so while an item is
staged the disk lags behind the disk of the one-by-one order: the directories of
the items before it are still under staging. The lag shows only to an item that
shares a staging directory or a final directory with an earlier one, and such an
item fails in both orders.
-/

namespace VideoAnalysis.Sink.Publishing

/-! ## Callbacks -/

/-- The fragment of a callback, with the directory if it is `on_published`. -/
def Event.callback? : Event → Option (Fragment × Option FinalDir)
  | .published fragment finalDir => some (fragment, some finalDir)
  | .publishError fragment => some (fragment, none)
  | _ => none

def Disk.callbacks (disk : Disk) : List (Fragment × Option FinalDir) :=
  disk.trace.filterMap Event.callback?

/-! ## Staging one item -/

variable (item : Item)

theorem stagePublication_of_metadata {staging : Staging} (written : staging.hasMetadata = true) :
    ∃ error, stagePublication item (some staging) = (.error error, some staging) := by
  simp only [stagePublication, written, ↓reduceIte]
  split
  · exact ⟨_, rfl⟩
  · split
    · exact ⟨_, rfl⟩
    · split
      · exact ⟨_, rfl⟩
      · split <;> exact ⟨_, rfl⟩

theorem stagePublication_none :
    ∃ error, stagePublication item none = (.error error, none) :=
  ⟨_, rfl⟩

theorem stagePublication_ok {item : Item} {contents after : Option Staging}
    {staged : StagedPublication} (result : stagePublication item contents = (.ok staged, after)) :
    staged.fragment = item.fragment ∧ ∃ staging, after = some staging ∧
      staging.hasMetadata = true := by
  simp only [stagePublication] at result
  (repeat' split at result) <;> simp only [Prod.mk.injEq, reduceCtorEq, false_and,
    Except.ok.injEq] at result
  all_goals
    rcases result with ⟨rfl, rfl⟩
    exact ⟨rfl, _, rfl, rfl⟩

variable (disk : Disk)

section

variable (directory : String) (contents : Option Staging)

include directory contents

@[simp] theorem setStaging_finals :
    (disk.setStaging directory contents).finals = disk.finals :=
  rfl

@[simp] theorem setStaging_journal :
    (disk.setStaging directory contents).journal = disk.journal :=
  rfl

@[simp] theorem setStaging_trace :
    (disk.setStaging directory contents).trace = disk.trace :=
  rfl

@[simp] theorem setStaging_same :
    (disk.setStaging directory contents).staging directory = contents :=
  Function.update_self ..

end

variable (contents : Option Staging)

theorem setStaging_other {directory other : String} (distinct : other ≠ directory) :
    (disk.setStaging directory contents).staging other = disk.staging other :=
  Function.update_of_ne distinct ..

theorem setStaging_eq_self (directory : String) :
    disk.setStaging directory (disk.staging directory) = disk := by
  simp only [Disk.setStaging, Function.update_eq_self]

def stagedContents (disk : Disk) (item : Item) : Option Staging :=
  (stagePublication item (disk.staging item.fragment.stagingDir)).2

theorem begin_disk (item : Item) :
    (disk.begin item).2 = disk.setStaging item.fragment.stagingDir (stagedContents disk item) := by
  simp only [Disk.begin, Disk.stage, stagedContents]
  split
  · rename_i staged
    exact (congrArg Prod.snd staged).symm
  · rename_i staged
    have after := (congrArg Prod.snd staged).symm
    split
    · exact after
    · split <;> exact after

theorem begin_item (item : Item) : (disk.begin item).1.item = item := by
  simp only [Disk.begin]
  split
  · rfl
  · split
    · rfl
    · split <;> rfl

theorem begin_live {disk : Disk} {item : Item} (live : (disk.begin item).1.live = true) :
    ∃ staging, stagedContents disk item = some staging ∧ staging.hasMetadata = true := by
  simp only [Disk.begin, Disk.stage] at live
  split at live
  · simp [Work.live] at live
  · rename_i staged
    simp only [Prod.mk.injEq] at staged
    rcases stagePublication_ok (Prod.ext staged.1 rfl) with ⟨-, staging, after, written⟩
    exact ⟨staging, after, written⟩

theorem begin_commit {disk : Disk} {item : Item} {staged : StagedPublication}
    (commit : (disk.begin item).1.commit = some staged) : staged.fragment = item.fragment := by
  simp only [Disk.begin, Disk.stage] at commit
  split at commit
  · cases commit
  · rename_i result
    simp only [Prod.mk.injEq] at result
    have fragment := (stagePublication_ok (Prod.ext result.1 rfl)).1
    split at commit
    · cases commit
    · split at commit <;>
      · simp only [Option.some.injEq] at commit
        rw [← commit]
        exact fragment

/-! ## Renaming -/

def Work.directory (work : Work) : String := work.item.fragment.stagingDir

def Disk.replaced (disk : Disk) (item : Item) : Disk :=
  { disk with
    staging := Function.update disk.staging item.fragment.stagingDir none
    finals := disk.finals ++ [item.fragment.finalDir]
    trace := disk.trace ++ [.renamed item.fragment.finalDir] }

theorem replace_cases (item : Item) :
    (∃ error, disk.replace item = (.error error, disk)) ∨
      disk.replace item = (.ok (), disk.replaced item) := by
  simp only [Disk.replace]
  split
  · exact .inl ⟨_, rfl⟩
  · split
    · exact .inl ⟨_, rfl⟩
    · split
      · exact .inl ⟨_, rfl⟩
      · exact .inr rfl

theorem renameWork_dead {disk : Disk} {work : Work} (dead : work.live = false) :
    disk.renameWork work = (work, disk) := by
  simp [Disk.renameWork, dead]

variable (work : Work)

theorem renameWork_cases :
    (∃ failed, disk.renameWork work = (failed, disk) ∧ failed.live = false ∧
        failed.item = work.item ∧ failed.commit = work.commit) ∨
      (work.live = true ∧ disk.renameWork work = (work, disk.replaced work.item)) := by
  cases live : work.live with
  | false => exact .inl ⟨work, renameWork_dead live, live, rfl, rfl⟩
  | true =>
    simp only [Disk.renameWork, live, ↓reduceIte]
    rcases replace_cases disk work.item with ⟨error, failed⟩ | moved
    · rw [failed]
      exact .inl ⟨{ work with error := some error }, rfl, rfl, rfl, rfl⟩
    · rw [moved]
      exact .inr ⟨trivial, rfl⟩

theorem replace_congr {first second : Disk} (staging : first.staging = second.staging)
    (finals : first.finals = second.finals) :
    (first.replace item).1 = (second.replace item).1 ∧
      (first.replace item).2.staging = (second.replace item).2.staging ∧
      (first.replace item).2.finals = (second.replace item).2.finals := by
  simp only [Disk.replace, staging, finals]
  split
  · exact ⟨rfl, staging, finals⟩
  · split
    · exact ⟨rfl, staging, finals⟩
    · split
      · exact ⟨rfl, staging, finals⟩
      · exact ⟨rfl, rfl, rfl⟩

variable {directory : String}

theorem replace_setStaging (item : Item) (contents : Option Staging)
    (distinct : item.fragment.stagingDir ≠ directory) :
    (disk.setStaging directory contents).replace item =
      ((disk.replace item).1, (disk.replace item).2.setStaging directory contents) := by
  have same := setStaging_other disk contents distinct
  simp only [Disk.replace, same, setStaging_finals]
  split
  · rfl
  · split
    · rfl
    · by_cases present : item.fragment.finalDir ∈ disk.finals
      · simp only [present, ↓reduceIte]
      · simp only [present, ↓reduceIte, Disk.setStaging, Function.update_comm distinct.symm]

theorem renameWork_congr {first second : Disk} (staging : first.staging = second.staging)
    (finals : first.finals = second.finals) :
    (first.renameWork work).1 = (second.renameWork work).1 ∧
      (first.renameWork work).2.staging = (second.renameWork work).2.staging ∧
      (first.renameWork work).2.finals = (second.renameWork work).2.finals := by
  have same := replace_congr work.item staging finals
  simp only [Disk.renameWork]
  split
  · generalize firstResult : first.replace work.item = firstRenamed at same
    generalize secondResult : second.replace work.item = secondRenamed at same
    rcases firstRenamed with ⟨firstAnswer, _⟩
    rcases secondRenamed with ⟨secondAnswer, secondDisk⟩
    simp only at same
    rcases same with ⟨rfl, sameStaging, sameFinals⟩
    cases firstAnswer with
    | error | ok => exact ⟨rfl, sameStaging, sameFinals⟩
  · exact ⟨rfl, staging, finals⟩

theorem renameWork_setStaging (contents : Option Staging)
    (distinct : work.live = true → work.directory ≠ directory) :
    (disk.setStaging directory contents).renameWork work =
      ((disk.renameWork work).1, (disk.renameWork work).2.setStaging directory contents) := by
  simp only [Disk.renameWork]
  split
  · rename_i live
    rw [replace_setStaging disk work.item contents (distinct live)]
    generalize disk.replace work.item = renamed
    rcases renamed with ⟨answer, _⟩
    cases answer <;> rfl
  · rfl

theorem renameWork_staging (directory : String) :
    (disk.renameWork work).2.staging directory = disk.staging directory ∨
      (work.live = true ∧ work.directory = directory ∧
        (disk.renameWork work).2.staging directory = none) := by
  rcases renameWork_cases disk work with ⟨failed, result, -⟩ | ⟨live, result⟩
  · rw [result]
    exact .inl rfl
  · rw [result]
    by_cases here : work.directory = directory
    · right
      refine ⟨live, here, ?_⟩
      rw [← here]
      exact Function.update_self ..
    · left
      exact Function.update_of_ne (Ne.symm here) ..

theorem renameWork_item :
    (disk.renameWork work).1.item = work.item ∧
      (disk.renameWork work).1.commit = work.commit := by
  rcases renameWork_cases disk work with ⟨failed, result, -, item, commit⟩ | ⟨-, result⟩
  · rw [result]
    exact ⟨item, commit⟩
  · rw [result]
    exact ⟨rfl, rfl⟩

theorem renameWork_logs :
    (disk.renameWork work).2.journal = disk.journal ∧
      (disk.renameWork work).2.callbacks = disk.callbacks := by
  rcases renameWork_cases disk work with ⟨failed, result, -⟩ | ⟨-, result⟩
  · rw [result]
    exact ⟨rfl, rfl⟩
  · rw [result]
    refine ⟨rfl, ?_⟩
    simp only [Disk.replaced, Disk.callbacks, List.filterMap_append]
    exact List.append_nil _

theorem renameWork_finals :
    disk.finals ⊆ (disk.renameWork work).2.finals := by
  rcases renameWork_cases disk work with ⟨failed, result, -⟩ | ⟨-, result⟩
  · rw [result]
    exact List.Subset.refl _
  · rw [result]
    exact List.subset_append_left _ _

theorem renameWork_renamed {disk : Disk} {work : Work}
    (live : (disk.renameWork work).1.live = true) :
    disk.renameWork work = (work, disk.replaced work.item) := by
  rcases renameWork_cases disk work with ⟨failed, result, dead, -⟩ | ⟨-, result⟩
  · rw [result, dead] at live
    cases live
  · exact result

variable (batch : List Item)

theorem beginAll_append_singleton (item : Item) :
    disk.beginAll (batch ++ [item]) =
      ((disk.beginAll batch).1 ++ [((disk.beginAll batch).2.begin item).1],
        ((disk.beginAll batch).2.begin item).2) := by
  simp only [Disk.beginAll, List.foldl_append, List.foldl_cons, List.foldl_nil]

variable (works : List Work)

theorem renameAll_append_singleton (work : Work) :
    disk.renameAll (works ++ [work]) =
      ((disk.renameAll works).1 ++ [((disk.renameAll works).2.renameWork work).1],
        ((disk.renameAll works).2.renameWork work).2) := by
  simp only [Disk.renameAll, List.foldl_append, List.foldl_cons, List.foldl_nil]

theorem beginAll_logs :
    (disk.beginAll batch).2.journal = disk.journal ∧
      (disk.beginAll batch).2.trace = disk.trace := by
  induction batch using List.reverseRecOn with
  | nil => exact ⟨rfl, rfl⟩
  | append_singleton _ _ induction =>
    rw [beginAll_append_singleton, begin_disk]
    exact induction

theorem renameAll_logs :
    (disk.renameAll works).2.journal = disk.journal ∧
      (disk.renameAll works).2.callbacks = disk.callbacks := by
  induction works using List.reverseRecOn with
  | nil => exact ⟨rfl, rfl⟩
  | append_singleton works work induction =>
    rw [renameAll_append_singleton]
    have last := renameWork_logs (disk.renameAll works).2 work
    exact ⟨last.1.trans induction.1, last.2.trans induction.2⟩

theorem renameAll_setStaging (contents : Option Staging)
    (distinct : ∀ work ∈ works, work.live = true → work.directory ≠ directory) :
    (disk.setStaging directory contents).renameAll works =
      ((disk.renameAll works).1, (disk.renameAll works).2.setStaging directory contents) := by
  induction works using List.reverseRecOn with
  | nil => rfl
  | append_singleton _ work induction =>
    have earlier := induction fun other member => distinct other (by simp [member])
    rw [renameAll_append_singleton, renameAll_append_singleton, earlier,
      renameWork_setStaging _ work contents (distinct work (by simp))]

theorem renameAll_staging (directory : String) :
    (disk.renameAll works).2.staging directory = disk.staging directory ∨
      ((∃ work ∈ works, work.live = true ∧ work.directory = directory) ∧
        (disk.renameAll works).2.staging directory = none) := by
  induction works using List.reverseRecOn with
  | nil => exact .inl rfl
  | append_singleton works work induction =>
    rw [renameAll_append_singleton]
    rcases renameWork_staging (disk.renameAll works).2 work directory with
      kept | ⟨live, here, removed⟩
    · simp only [kept]
      rcases induction with same | ⟨⟨other, member, live, here⟩, removed⟩
      · exact .inl same
      · exact .inr ⟨⟨other, by simp [member], live, here⟩, removed⟩
    · exact .inr ⟨⟨work, by simp, live, here⟩, removed⟩

theorem renameAll_finals :
    disk.finals ⊆ (disk.renameAll works).2.finals := by
  induction works using List.reverseRecOn with
  | nil => exact List.Subset.refl _
  | append_singleton _ work induction =>
    rw [renameAll_append_singleton]
    exact List.Subset.trans induction (renameWork_finals _ work)

/-! ## The lag -/

/-- The work is published: it is live and its parent can be fsynced. -/
def Work.durable (parentRaises : String → Bool) (work : Work) : Bool :=
  work.live && !parentRaises work.parent

def Work.journalEntry (parentRaises : String → Bool) (work : Work) : Option (String × Record) :=
  if work.durable parentRaises && !work.item.environment.journalRaises then
    work.commit.map fun staged => (staged.fragment.finalDir.parent, staged.record)
  else none

/-- The fragment of the callback, with the directory if it is `on_published`. -/
def Work.callback (parentRaises : String → Bool) (work : Work) : Fragment × Option FinalDir :=
  (work.item.fragment,
    if work.durable parentRaises then some work.item.fragment.finalDir else none)

/-- One item in the one-by-one order: begin, rename, fence, journal and callback. -/
def Disk.settle (parentRaises : String → Bool) (disk : Disk) (work : Work) : Disk :=
  if work.live then
    match disk.fenceParent parentRaises work.parent with
    | (.error _, disk) => disk.log (.publishError work.item.fragment)
    | (.ok (), disk) =>
      (disk.journalWork work).log (.published work.item.fragment work.item.fragment.finalDir)
  else disk.log (.publishError work.item.fragment)

variable (parentRaises : String → Bool)

theorem publish_eq (disk : Disk) (item : Item) (noSlots : item.publisher.commitSlotCount = 0) :
    disk.publish parentRaises item =
      ((disk.begin item).2.renameWork (disk.begin item).1).2.settle parentRaises
        ((disk.begin item).2.renameWork (disk.begin item).1).1 := by
  simp only [Disk.publish, Disk.begin]
  generalize disk.stage item = result
  rcases result with ⟨answer, staged⟩
  cases answer with
  | error => simp [Disk.renameWork, Work.live, Disk.settle]
  | ok =>
    simp only [noSlots, ne_eq, not_true_eq_false, ↓reduceIte, Disk.commitPublication,
      prepareFinalParentCommit]
    generalize fenceStaged item (staged.staging item.fragment.stagingDir) = fenced
    cases fenced with
    | error => simp [Disk.renameWork, Work.live, Disk.settle]
    | ok done =>
      simp only
      generalize prepareParent item staged.finals = prepared
      cases prepared with
      | error => simp [Disk.renameWork, Work.live, Disk.settle]
      | ok done =>
        simp only [Disk.renameWork, Work.live, Option.isNone_none, Option.isSome_some,
          Bool.and_self, ↓reduceIte]
        generalize staged.replace item = renamed
        rcases renamed with ⟨answer, after⟩
        cases answer with
        | error => simp [Work.live, Disk.settle]
        | ok =>
          simp only [Disk.settle, Work.live, Option.isNone_none, Option.isSome_some,
            Bool.and_self, ↓reduceIte, Work.parent, Disk.journalWork]
          generalize after.fenceParent parentRaises item.fragment.finalDir.parent = last
          rcases last with ⟨answer, _⟩
          cases answer <;> rfl

theorem settle_disk (disk : Disk) (work : Work) :
    (disk.settle parentRaises work).staging = disk.staging ∧
      (disk.settle parentRaises work).finals = disk.finals ∧
      (disk.settle parentRaises work).journal =
        disk.journal ++ (work.journalEntry parentRaises).toList ∧
      (disk.settle parentRaises work).callbacks =
        disk.callbacks ++ [work.callback parentRaises] := by
  cases live : work.live with
  | false =>
    simp [Disk.settle, live, Disk.log, Work.journalEntry, Work.callback, Work.durable,
      Disk.callbacks, Event.callback?]
  | true =>
    cases raises : parentRaises work.parent with
    | true =>
      simp [Disk.settle, live, Disk.fenceParent, raises, Disk.log, Work.journalEntry,
        Work.callback, Work.durable, Disk.callbacks, Event.callback?]
    | false =>
      rcases work with ⟨item, commit, error⟩
      cases commit with
      | none => simp [Work.live] at live
      | some =>
        cases error with
        | some => simp [Work.live] at live
        | none =>
          cases journalRaises : item.environment.journalRaises <;>
            simp [Disk.settle, live, Disk.fenceParent, raises, Disk.journalWork,
              Disk.appendJournal, journalRaises, Disk.log, Work.journalEntry,
              Work.callback, Work.durable, Disk.callbacks] <;> rfl

/-- What the group has done to a batch before its fences, against the one-by-one
order. -/
structure Agrees (parentRaises : String → Bool) (disk : Disk) (batch : List Item)
    (begun : List Work × Disk) (renamed : List Work × Disk) (single : Disk) : Prop where
  staging : renamed.2.staging = single.staging
  finals : renamed.2.finals = single.finals
  journal : single.journal = disk.journal ++ renamed.1.filterMap (Work.journalEntry parentRaises)
  callbacks : single.callbacks = disk.callbacks ++ renamed.1.map (Work.callback parentRaises)
  begunFinals : begun.2.finals = disk.finals
  pending : ∀ work ∈ begun.1, work.live = true → ∃ staging,
    begun.2.staging work.directory = some staging ∧ staging.hasMetadata = true

theorem stage_pending {begun renamed : Option Staging} {staging : Staging}
    (pending : begun = some staging) (written : staging.hasMetadata = true)
    (lag : renamed = begun ∨ renamed = none) :
    (∃ error, stagePublication item begun = (.error error, begun)) ∧
      ∃ error, stagePublication item renamed = (.error error, renamed) := by
  subst pending
  refine ⟨stagePublication_of_metadata item written, ?_⟩
  rcases lag with same | gone
  · rw [same]
    exact stagePublication_of_metadata item written
  · rw [gone]
    exact stagePublication_none item

theorem begin_of_stage_error {disk : Disk} {item : Item}
    (failed : ∃ error, stagePublication item (disk.staging item.fragment.stagingDir) =
      (.error error, disk.staging item.fragment.stagingDir)) :
    (disk.begin item).1.live = false ∧ (disk.begin item).2 = disk := by
  rcases failed with ⟨_, result⟩
  constructor
  · simp [Disk.begin, Disk.stage, result, Work.live]
  · rw [begin_disk, stagedContents, result, setStaging_eq_self]

/-- Two works that end the same way for the journal and the callbacks. -/
structure SameEnd (first second : Work) : Prop where
  item : first.item = second.item
  live : first.live = second.live
  commit : first.live = true → first.commit = second.commit

variable {first second : Work}

theorem SameEnd.durable (same : SameEnd first second) (parentRaises : String → Bool) :
    first.durable parentRaises = second.durable parentRaises := by
  simp only [Work.durable, Work.parent, same.item, same.live]

theorem SameEnd.callback (same : SameEnd first second) (parentRaises : String → Bool) :
    first.callback parentRaises = second.callback parentRaises := by
  rw [Work.callback, Work.callback, same.durable parentRaises, same.item]

theorem SameEnd.journalEntry (same : SameEnd first second) (parentRaises : String → Bool) :
    first.journalEntry parentRaises = second.journalEntry parentRaises := by
  rw [Work.journalEntry, Work.journalEntry, same.durable parentRaises, same.item]
  cases live : second.live with
  | false => simp [Work.durable, live]
  | true => rw [same.commit (same.live.trans live)]

def beginWork (item : Item) (contents : Option Staging) (finals : List FinalDir) : Work :=
  match stagePublication item contents with
  | (.error error, _) => { item := item, commit := none, error := some error }
  | (.ok staged, after) =>
    if item.publisher.commitSlotCount ≠ 0 then
      { item := item, commit := none, error := some groupWithSlots }
    else
      match fenceStaged item after with
      | .error error => { item := item, commit := some staged, error := some error }
      | .ok () =>
        match prepareParent item finals with
        | .error error => { item := item, commit := some staged, error := some error }
        | .ok () => { item := item, commit := some staged, error := none }

theorem begin_work (item : Item) :
    (disk.begin item).1 =
      beginWork item (disk.staging item.fragment.stagingDir) disk.finals := by
  simp only [Disk.begin, Disk.stage, beginWork]
  generalize stagePublication item (disk.staging item.fragment.stagingDir) = result
  rcases result with ⟨answer, after⟩
  cases answer with
  | error => rfl
  | ok =>
    simp only
    split
    · rfl
    · simp only [prepareFinalParentCommit, setStaging_same, setStaging_finals]
      cases fenceStaged item after with
      | error => rfl
      | ok =>
        simp only
        cases prepareParent item disk.finals <;> rfl

theorem beginWork_congr {first second : List FinalDir}
    (same : item.fragment.finalDir ∈ first ↔ item.fragment.finalDir ∈ second) :
    beginWork item contents first = beginWork item contents second := by
  have prepared : prepareParent item first = prepareParent item second := by
    simp only [prepareParent, same]
  simp only [beginWork, prepared]

theorem beginWork_collision {finals : List FinalDir} (present : item.fragment.finalDir ∈ finals) :
    (beginWork item contents finals).live = false := by
  have prepared : ∃ error, prepareParent item finals = .error error := by
    simp only [prepareParent, present, ↓reduceIte]
    split <;> exact ⟨_, rfl⟩
  rcases prepared with ⟨_, prepared⟩
  simp only [beginWork, prepared]
  split
  · simp [Work.live]
  · split
    · simp [Work.live]
    · split <;> simp [Work.live]

theorem renameWork_collision {disk : Disk} {work : Work}
    (present : work.item.fragment.finalDir ∈ disk.finals) :
    (disk.renameWork work).1.live = false ∧ (disk.renameWork work).2 = disk := by
  cases live : work.live with
  | false =>
    rw [renameWork_dead live]
    exact ⟨live, rfl⟩
  | true =>
    have refused : disk.replace work.item = (.error (.os .rename), disk) := by
      simp only [Disk.replace, present, ↓reduceIte]
      split
      · rfl
      · split <;> rfl
    have renamed : disk.renameWork work =
        ({ work with error := some (.os .rename) }, disk) := by
      simp only [Disk.renameWork, live, refused, ↓reduceIte]
    rw [renamed]
    exact ⟨rfl, rfl⟩

theorem renameWork_sameEnd {disk : Disk} {work : Work} {item : Item} (same : work.item = item) :
    (disk.renameWork work).1.item = item :=
  (renameWork_item disk work).1.trans same

theorem begin_agrees (item : Item) {begun single : Disk} {works : List Work}
    (staging : (begun.renameAll works).2.staging = single.staging)
    (finals : (begun.renameAll works).2.finals = single.finals)
    (pending : ∀ work ∈ works, work.live = true → ∃ staging,
      begun.staging work.directory = some staging ∧ staging.hasMetadata = true) :
    let lagging := ((begun.begin item).2.renameAll works).2.renameWork (begun.begin item).1
    let direct := (single.begin item).2.renameWork (single.begin item).1
    ((begun.begin item).2.renameAll works).1 = (begun.renameAll works).1 ∧
      SameEnd lagging.1 direct.1 ∧ lagging.2.staging = direct.2.staging ∧
      lagging.2.finals = direct.2.finals := by
  intro lagging direct
  have lag := renameAll_staging begun works item.fragment.stagingDir
  by_cases shared : ∃ work ∈ works, work.live = true ∧ work.directory = item.fragment.stagingDir
  · rcases shared with ⟨work, member, live, here⟩
    rcases pending work member live with ⟨_, occupied, written⟩
    rw [here] at occupied
    rw [staging] at lag
    have lag' : single.staging item.fragment.stagingDir =
        begun.staging item.fragment.stagingDir ∨
          single.staging item.fragment.stagingDir = none :=
      lag.imp_right fun gone => gone.2
    rcases stage_pending item occupied written lag' with ⟨failedBegun, failedSingle⟩
    rcases begin_of_stage_error failedBegun with ⟨deadBegun, begunDisk⟩
    rcases begin_of_stage_error failedSingle with ⟨deadSingle, singleDisk⟩
    refine ⟨by rw [begunDisk], ?_⟩
    simp only [lagging, direct, renameWork_dead deadBegun, renameWork_dead deadSingle]
    rw [begunDisk, singleDisk]
    refine ⟨⟨?_, ?_, ?_⟩, staging, finals⟩
    · rw [begin_item, begin_item]
    · rw [deadBegun, deadSingle]
    · intro live
      rw [deadBegun] at live
      cases live
  · have sameContents : begun.staging item.fragment.stagingDir =
        single.staging item.fragment.stagingDir := by
      rw [← staging]
      rcases lag with same | ⟨occupied, -⟩
      · exact same.symm
      · exact absurd occupied shared
    have distinct : ∀ work ∈ works, work.live = true →
        work.directory ≠ item.fragment.stagingDir := by
      intro work member live here
      exact shared ⟨work, member, live, here⟩
    have sameStaged : stagedContents begun item = stagedContents single item := by
      simp only [stagedContents, sameContents]
    have commuted := renameAll_setStaging begun works (stagedContents begun item) distinct
    rw [← begin_disk] at commuted
    have stagingAfter : ((begun.begin item).2.renameAll works).2.staging =
        (single.begin item).2.staging := by
      rw [commuted, begin_disk, sameStaged]
      simp only [Disk.setStaging, staging]
    have finalsAfter : ((begun.begin item).2.renameAll works).2.finals =
        (single.begin item).2.finals := by
      rw [commuted, begin_disk]
      exact finals
    refine ⟨by rw [commuted], ?_⟩
    by_cases present : item.fragment.finalDir ∈ single.finals
    · have deadSingle : (single.begin item).1.live = false := by
        rw [begin_work]
        exact beginWork_collision item _ present
      have collides : (begun.begin item).1.item.fragment.finalDir ∈
          ((begun.begin item).2.renameAll works).2.finals := by
        rw [begin_item, finalsAfter, begin_disk]
        exact present
      rcases renameWork_collision collides with ⟨deadLagging, laggingDisk⟩
      simp only [direct, renameWork_dead deadSingle]
      refine ⟨⟨?_, ?_, ?_⟩, ?_, ?_⟩
      · rw [renameWork_sameEnd (begin_item begun item), begin_item]
      · rw [deadSingle]
        exact deadLagging
      · intro live
        rw [deadLagging] at live
        cases live
      · rw [laggingDisk]
        exact stagingAfter
      · rw [laggingDisk]
        exact finalsAfter
    · have absent : item.fragment.finalDir ∉ begun.finals := by
        intro early
        apply present
        rw [← finals]
        exact renameAll_finals begun works early
      have sameWork : (begun.begin item).1 = (single.begin item).1 := by
        rw [begin_work, begin_work, sameContents]
        exact beginWork_congr item _ (by simp [absent, present])
      have same := renameWork_congr (single.begin item).1 stagingAfter finalsAfter
      simp only [lagging, direct, sameWork]
      exact ⟨⟨congrArg Work.item same.1, congrArg Work.live same.1,
        fun _ => congrArg Work.commit same.1⟩, same.2.1, same.2.2⟩

theorem agrees (parentRaises : String → Bool) (disk : Disk) (batch : List Item)
    (noSlots : ∀ item ∈ batch, item.publisher.commitSlotCount = 0) :
    Agrees parentRaises disk batch (disk.beginAll batch)
      ((disk.beginAll batch).2.renameAll (disk.beginAll batch).1)
      (disk.publishAll parentRaises batch) := by
  induction batch using List.reverseRecOn with
  | nil => constructor <;> simp [Disk.beginAll, Disk.renameAll, Disk.publishAll]
  | append_singleton batch item induction =>
    have earlier := induction fun other member => noSlots other (by simp [member])
    have step := begin_agrees item earlier.staging earlier.finals earlier.pending
    rcases step with ⟨works, sameEnd, staging, finals⟩
    have single : disk.publishAll parentRaises (batch ++ [item]) =
        (disk.publishAll parentRaises batch).publish parentRaises item := by
      simp only [Disk.publishAll, List.foldl_append, List.foldl_cons, List.foldl_nil]
    rw [single, publish_eq parentRaises _ item (noSlots item (by simp)),
      beginAll_append_singleton, renameAll_append_singleton]
    rcases settle_disk parentRaises
      (((disk.publishAll parentRaises batch).begin item).2.renameWork
        ((disk.publishAll parentRaises batch).begin item).1).2
      (((disk.publishAll parentRaises batch).begin item).2.renameWork
        ((disk.publishAll parentRaises batch).begin item).1).1 with
      ⟨stagingKept, finalsKept, journal, callbacks⟩
    constructor
    · rw [stagingKept]
      exact staging
    · rw [finalsKept]
      exact finals
    · have kept : (((disk.publishAll parentRaises batch).begin item).2.renameWork
          ((disk.publishAll parentRaises batch).begin item).1).2.journal =
          (disk.publishAll parentRaises batch).journal := by
        rw [(renameWork_logs _ _).1, begin_disk]
        rfl
      rw [journal, kept, earlier.journal, ← sameEnd.journalEntry, works,
        List.filterMap_append, List.append_assoc]
      congr 2
    · have kept : (((disk.publishAll parentRaises batch).begin item).2.renameWork
          ((disk.publishAll parentRaises batch).begin item).1).2.callbacks =
          (disk.publishAll parentRaises batch).callbacks := by
        rw [(renameWork_logs _ _).2, begin_disk]
        rfl
      rw [callbacks, kept, earlier.callbacks, ← sameEnd.callback, works, List.map_append,
        List.append_assoc, List.map_cons, List.map_nil]
    · rw [begin_disk]
      exact earlier.begunFinals
    · intro work member live
      rcases List.mem_append.mp member with old | new
      · rcases earlier.pending work old live with ⟨contents, occupied, written⟩
        refine ⟨contents, ?_, written⟩
        by_cases here : work.directory = item.fragment.stagingDir
        · have failed := stage_pending item (here ▸ occupied) written (.inl rfl)
          rw [(begin_of_stage_error failed.1).2]
          exact occupied
        · rw [begin_disk, setStaging_other _ _ here]
          exact occupied
      · rw [List.mem_singleton] at new
        subst new
        rcases begin_live live with ⟨contents, staged, written⟩
        refine ⟨contents, ?_, written⟩
        rw [begin_disk, Work.directory, begin_item, setStaging_same]
        exact staged

/-! ## Fences, journal and callbacks of the group -/

def Work.afterFence (parentRaises : String → Bool) (parents : List String) (work : Work) :
    Work :=
  if work.live ∧ work.parent ∈ parents ∧ parentRaises work.parent then
    { work with error := some (.os .parentSync) }
  else work

theorem afterFence_cons (parent : String) (parents : List String) (work : Work)
    (raises : parentRaises parent = true) :
    (work.failParent parent (.os .parentSync)).afterFence parentRaises parents =
      work.afterFence parentRaises (parent :: parents) := by
  by_cases live : work.live = true
  · by_cases here : work.parent = parent
    · have failed : work.failParent parent (.os .parentSync) =
          { work with error := some (.os .parentSync) } := by
        simp only [Work.failParent, live, here, and_self, ↓reduceIte]
      rw [failed]
      simp [Work.afterFence, Work.live, here, raises]
      intro stillLive
      simp_all [Work.live]
    · simp [Work.failParent, Work.afterFence, here]
  · simp [Work.failParent, Work.afterFence, live]

theorem afterFence_skip (parent : String) (parents : List String) (work : Work)
    (passes : parentRaises parent = false) :
    work.afterFence parentRaises parents =
      work.afterFence parentRaises (parent :: parents) := by
  by_cases here : work.parent = parent
  · simp [Work.afterFence, here, passes]
  · simp [Work.afterFence, here]

def fences (parentRaises : String → Bool) (parents : List String) : List Event :=
  (parents.filter fun parent => !parentRaises parent).map Event.fenced

variable (parents : List String)

theorem fenceWorks_all (works : List Work) (disk : Disk) :
    parents.foldl (Disk.fenceWorks parentRaises) (works, disk) =
      (works.map (Work.afterFence parentRaises parents),
        { disk with trace := disk.trace ++ fences parentRaises parents }) := by
  induction parents generalizing works disk with
  | nil =>
    have same : works.map (Work.afterFence parentRaises []) = works := by
      have none_ : Work.afterFence parentRaises [] = id := by
        funext work
        simp [Work.afterFence]
      rw [none_, List.map_id]
    simp [same, fences]
  | cons parent parents induction =>
    simp only [List.foldl_cons, Disk.fenceWorks, Disk.fenceParent]
    cases raises : parentRaises parent with
    | true =>
      simp only [↓reduceIte]
      rw [induction, List.map_map]
      congr 1
      · apply List.map_congr_left
        intro work _
        exact afterFence_cons parentRaises parent parents work raises
      · simp [fences, raises]
    | false =>
      simp only [Bool.false_eq_true, ↓reduceIte]
      rw [induction]
      congr 1
      · apply List.map_congr_left
        intro work _
        exact afterFence_skip parentRaises parent parents work raises
      · simp [fences, raises, Disk.log]

theorem mem_liveParents {works : List Work} {work : Work} (member : work ∈ works)
    (live : work.live = true) : work.parent ∈ liveParents works := by
  simp only [liveParents, List.mem_eraseDups]
  exact List.mem_map_of_mem (List.mem_filter.mpr ⟨member, live⟩)

theorem afterFence_live {parentRaises : String → Bool} {works : List Work} {work : Work}
    (member : work ∈ works) :
    (work.afterFence parentRaises (liveParents works)).live = work.durable parentRaises := by
  cases live : work.live with
  | false => simp [Work.afterFence, Work.durable, live]
  | true =>
    have listed := mem_liveParents member live
    cases raises : parentRaises work.parent with
    | true =>
      have failed : work.afterFence parentRaises (liveParents works) =
          { work with error := some (.os .parentSync) } := by
        simp only [Work.afterFence, live, listed, raises, and_self, ↓reduceIte]
      simp [failed, Work.durable, raises, Work.live]
    | false => simp [Work.afterFence, Work.durable, live, raises]

theorem afterFence_item (work : Work) :
    (work.afterFence parentRaises parents).item = work.item ∧
      (work.afterFence parentRaises parents).commit = work.commit := by
  simp only [Work.afterFence]
  split <;> exact ⟨rfl, rfl⟩

theorem journalWork_journal :
    (disk.journalWork work).journal = disk.journal ++
        (if work.live && !work.item.environment.journalRaises then
          work.commit.map fun staged => (staged.fragment.finalDir.parent, staged.record)
        else none).toList ∧
      (disk.journalWork work).finals = disk.finals ∧
      (disk.journalWork work).callbacks = disk.callbacks := by
  rcases work with ⟨item, commit, error⟩
  cases error with
  | some => simp [Disk.journalWork, Work.live]
  | none =>
    cases commit with
    | none => simp [Disk.journalWork, Work.live]
    | some staged =>
      cases raises : item.environment.journalRaises with
      | true => simp [Disk.journalWork, Disk.appendJournal, raises]
      | false =>
        have appended : disk.journalWork { item := item, commit := some staged, error := none } =
            { disk with
              journal := disk.journal ++ [(staged.fragment.finalDir.parent, staged.record)]
              trace := disk.trace ++ [.journaled staged.fragment.finalDir] } := by
          simp only [Disk.journalWork, Disk.appendJournal, raises, Bool.false_eq_true,
            ↓reduceIte]
        rw [appended]
        refine ⟨by simp [Work.live], rfl, ?_⟩
        simp only [Disk.callbacks, List.filterMap_append]
        exact List.append_nil _

theorem journalAll_journal (disk : Disk) :
    (works.foldl Disk.journalWork disk).journal = disk.journal ++
        works.filterMap (fun work =>
          if work.live && !work.item.environment.journalRaises then
            work.commit.map fun staged => (staged.fragment.finalDir.parent, staged.record)
          else none) ∧
      (works.foldl Disk.journalWork disk).finals = disk.finals ∧
      (works.foldl Disk.journalWork disk).callbacks = disk.callbacks := by
  induction works generalizing disk with
  | nil => simp
  | cons work _ induction =>
    rcases induction (disk.journalWork work) with ⟨journal, finals, callbacks⟩
    rcases journalWork_journal disk work with ⟨journalOne, finalsOne, callbacksOne⟩
    simp only [List.foldl_cons]
    refine ⟨?_, finals.trans finalsOne, callbacks.trans callbacksOne⟩
    rw [journal, journalOne, List.append_assoc, List.filterMap_cons]
    congr 1
    cases (if work.live && !work.item.environment.journalRaises then
        work.commit.map fun staged => (staged.fragment.finalDir.parent, staged.record)
      else none) <;> rfl

theorem finishAll_callbacks (disk : Disk) :
    (works.foldl Disk.finishWork disk).callbacks = disk.callbacks ++
        works.map (fun work => (work.item.fragment,
          if work.live then some work.item.fragment.finalDir else none)) ∧
      (works.foldl Disk.finishWork disk).finals = disk.finals ∧
      (works.foldl Disk.finishWork disk).journal = disk.journal := by
  induction works generalizing disk with
  | nil => simp
  | cons work _ induction =>
    rcases induction (disk.finishWork work) with ⟨callbacks, finals, journal⟩
    simp only [List.foldl_cons]
    cases live : work.live with
    | true =>
      simp only [Disk.finishWork, live, ↓reduceIte] at callbacks finals journal ⊢
      refine ⟨?_, finals, journal⟩
      rw [callbacks]
      simp [Disk.log, Disk.callbacks, Event.callback?, live]
    | false =>
      simp only [Disk.finishWork, live, Bool.false_eq_true, ↓reduceIte]
        at callbacks finals journal ⊢
      refine ⟨?_, finals, journal⟩
      rw [callbacks]
      simp [Disk.log, Disk.callbacks, Event.callback?, live]

theorem group_end (parentRaises : String → Bool) (disk : Disk) (works : List Work) :
    let fenced := disk.fenceAll parentRaises works
    let group := fenced.1.foldl Disk.finishWork (fenced.1.foldl Disk.journalWork fenced.2)
    group.finals = disk.finals ∧
      group.journal = disk.journal ++ works.filterMap (Work.journalEntry parentRaises) ∧
      group.callbacks = disk.callbacks ++ works.map (Work.callback parentRaises) := by
  intro fenced group
  have closed : fenced = (works.map (Work.afterFence parentRaises (liveParents works)),
      { disk with trace := disk.trace ++ fences parentRaises (liveParents works) }) :=
    fenceWorks_all parentRaises (liveParents works) works disk
  rcases finishAll_callbacks fenced.1 (fenced.1.foldl Disk.journalWork fenced.2) with
    ⟨callbacks, finals, journal⟩
  rcases journalAll_journal fenced.1 fenced.2 with
    ⟨journalBefore, finalsBefore, callbacksBefore⟩
  refine ⟨?_, ?_, ?_⟩
  · rw [finals, finalsBefore, closed]
  · rw [journal, journalBefore, closed, List.filterMap_map]
    congr 1
    apply List.filterMap_congr
    intro work member
    simp only [Function.comp_apply, afterFence_live member, Work.journalEntry,
      (afterFence_item parentRaises (liveParents works) work).1,
      (afterFence_item parentRaises (liveParents works) work).2]
  · have noCallbacks : (fences parentRaises (liveParents works)).filterMap Event.callback? =
        [] := by
      apply List.filterMap_eq_nil_iff.mpr
      intro event member
      rcases List.mem_map.mp member with ⟨_, -, rfl⟩
      rfl
    rw [callbacks, callbacksBefore, closed, List.map_map]
    simp only [Disk.callbacks, List.filterMap_append, noCallbacks, List.append_nil]
    congr 1
    apply List.map_congr_left
    intro work member
    simp only [Function.comp_apply, afterFence_live member, Work.callback,
      (afterFence_item parentRaises (liveParents works) work).1]

/-! ## The order of the events -/

def Event.announced? : Event → Option FinalDir
  | .journaled finalDir => some finalDir
  | .published _ finalDir => some finalDir
  | _ => none

/-- Every announcement comes after the rename of its directory and, between the
two, the fence of its parent. -/
def FencedFirst (events : List Event) : Prop :=
  ∀ before event after finalDir, events = before ++ event :: after →
    event.announced? = some finalDir →
    List.Sublist [.renamed finalDir, .fenced finalDir.parent] before

theorem FencedFirst.nil : FencedFirst [] := by
  intro before event after finalDir split
  simp at split

theorem FencedFirst.snoc {events : List Event} {event : Event} (ordered : FencedFirst events)
    (announces : ∀ finalDir, event.announced? = some finalDir →
      List.Sublist [.renamed finalDir, .fenced finalDir.parent] events) :
    FencedFirst (events ++ [event]) := by
  intro before other after finalDir split announced
  rcases List.eq_nil_or_concat after with rfl | ⟨rest, last, rfl⟩
  · have parts := List.append_inj' split rfl
    simp only [List.cons.injEq, and_true] at parts
    rcases parts with ⟨rfl, rfl⟩
    exact announces finalDir announced
  · have regrouped : events ++ [event] = (before ++ other :: rest) ++ [last] := by
      rw [split, List.concat_eq_append, List.append_assoc, List.cons_append]
    have parts := List.append_inj' regrouped rfl
    exact ordered before other rest finalDir parts.1 announced

theorem FencedFirst.append_quiet {events more : List Event} (ordered : FencedFirst events)
    (quiet : ∀ event ∈ more, event.announced? = none) : FencedFirst (events ++ more) := by
  induction more using List.reverseRecOn with
  | nil => simpa using ordered
  | append_singleton _ event induction =>
    rw [← List.append_assoc]
    apply (induction fun other member => quiet other (by simp [member])).snoc
    intro finalDir announced
    rw [quiet event (by simp)] at announced
    cases announced

def Ordered (start disk : Disk) : Prop :=
  ∃ events, disk.trace = start.trace ++ events ∧ FencedFirst events

def Ready (start disk : Disk) (finalDir : FinalDir) : Prop :=
  ∃ events, disk.trace = start.trace ++ events ∧
    List.Sublist [.renamed finalDir, .fenced finalDir.parent] events

variable {start : Disk}

theorem Ordered.log {disk : Disk} (ordered : Ordered start disk) (event : Event)
    (ready : ∀ finalDir, event.announced? = some finalDir → Ready start disk finalDir) :
    Ordered start (disk.log event) := by
  rcases ordered with ⟨events, trace, ordered⟩
  refine ⟨events ++ [event], by simp [Disk.log, trace], ?_⟩
  apply ordered.snoc
  intro finalDir announced
  rcases ready finalDir announced with ⟨_, same, sublist⟩
  rw [trace] at same
  rw [List.append_cancel_left same]
  exact sublist

theorem Ready.grow {disk next : Disk} {finalDir : FinalDir} {more : List Event}
    (ready : Ready start disk finalDir) (trace : next.trace = disk.trace ++ more) :
    Ready start next finalDir := by
  rcases ready with ⟨events, before, sublist⟩
  refine ⟨events ++ more, by rw [trace, before, List.append_assoc], ?_⟩
  exact sublist.trans (List.sublist_append_left _ _)

theorem Ordered.of_trace {disk next : Disk} (ordered : Ordered start disk)
    (trace : next.trace = disk.trace) : Ordered start next := by
  rcases ordered with ⟨events, before, ordered⟩
  exact ⟨events, trace.trans before, ordered⟩

/-- The works carry the fragments they were begun with. -/
def Work.Sound (work : Work) : Prop :=
  ∀ staged, work.commit = some staged → staged.fragment = work.item.fragment

theorem beginAll_sound :
    ∀ work ∈ (disk.beginAll batch).1, work.Sound := by
  induction batch using List.reverseRecOn with
  | nil => simp [Disk.beginAll]
  | append_singleton _ _ induction =>
    rw [beginAll_append_singleton]
    intro work member
    rcases List.mem_append.mp member with old | new
    · exact induction work old
    · rw [List.mem_singleton] at new
      subst new
      intro staged commit
      rw [begin_item]
      exact begin_commit commit

theorem renameAll_sound (sound : ∀ work ∈ works, work.Sound) :
    ∀ work ∈ (disk.renameAll works).1, work.Sound := by
  induction works using List.reverseRecOn with
  | nil => simp [Disk.renameAll]
  | append_singleton works work induction =>
    rw [renameAll_append_singleton]
    intro other member
    rcases List.mem_append.mp member with old | new
    · exact induction (fun earlier present => sound earlier (by simp [present])) other old
    · rw [List.mem_singleton] at new
      subst new
      intro staged commit
      have kept := renameWork_item (disk.renameAll works).2 work
      rw [kept.1]
      rw [kept.2] at commit
      exact sound work (by simp) staged commit

theorem renameAll_trace :
    ∃ events, (disk.renameAll works).2.trace = disk.trace ++ events ∧
      (∀ event ∈ events, event.announced? = none) ∧
      ∀ work ∈ (disk.renameAll works).1, work.live = true →
        .renamed work.item.fragment.finalDir ∈ events := by
  induction works using List.reverseRecOn with
  | nil => exact ⟨[], by simp [Disk.renameAll]⟩
  | append_singleton works work induction =>
    rcases induction with ⟨events, trace, quiet, renamed⟩
    rw [renameAll_append_singleton]
    rcases renameWork_cases (disk.renameAll works).2 work with
      ⟨failed, result, dead, -⟩ | ⟨-, result⟩
    · rw [result]
      refine ⟨events, trace, quiet, ?_⟩
      intro other member live
      rcases List.mem_append.mp member with old | new
      · exact renamed other old live
      · rw [List.mem_singleton] at new
        subst new
        rw [dead] at live
        cases live
    · rw [result]
      refine ⟨events ++ [.renamed work.item.fragment.finalDir], ?_, ?_, ?_⟩
      · rw [← List.append_assoc, ← trace]
        rfl
      · intro event member
        rcases List.mem_append.mp member with old | new
        · exact quiet event old
        · rw [List.mem_singleton.mp new]
          rfl
      · intro other member live
        rcases List.mem_append.mp member with old | new
        · exact List.mem_append_left _ (renamed other old live)
        · rw [List.mem_singleton] at new
          subst new
          exact List.mem_append_right _ (List.mem_singleton_self _)

theorem fences_quiet :
    ∀ event ∈ fences parentRaises parents, event.announced? = none := by
  intro event member
  rcases List.mem_map.mp member with ⟨_, -, rfl⟩
  rfl

theorem Ordered.journalWork {disk : Disk} {work : Work} (ordered : Ordered start disk)
    (sound : work.Sound)
    (ready : work.live = true → Ready start disk work.item.fragment.finalDir) :
    Ordered start (disk.journalWork work) ∧
      ∃ more, (disk.journalWork work).trace = disk.trace ++ more := by
  rcases work with ⟨item, commit, error⟩
  cases error with
  | some => exact ⟨ordered, [], by simp [Disk.journalWork]⟩
  | none =>
    cases commit with
    | none => exact ⟨ordered, [], by simp [Disk.journalWork]⟩
    | some staged =>
      have fragment := sound staged rfl
      cases raises : item.environment.journalRaises with
      | true =>
        simp only [Disk.journalWork, Disk.appendJournal, raises, ↓reduceIte]
        exact ⟨ordered, [], by simp⟩
      | false =>
        simp only [Disk.journalWork, Disk.appendJournal, raises, Bool.false_eq_true, ↓reduceIte]
        have logged := ordered.log (.journaled staged.fragment.finalDir) (by
          intro finalDir announced
          simp only [Event.announced?, Option.some.injEq] at announced
          rw [← announced, fragment]
          exact ready rfl)
        exact ⟨logged.of_trace rfl, _, rfl⟩

theorem Ordered.journalAll {disk : Disk} {works : List Work} (ordered : Ordered start disk)
    (sound : ∀ work ∈ works, work.Sound)
    (ready : ∀ work ∈ works, work.live = true → Ready start disk work.item.fragment.finalDir) :
    Ordered start (works.foldl Disk.journalWork disk) ∧
      ∃ more, (works.foldl Disk.journalWork disk).trace = disk.trace ++ more := by
  induction works generalizing disk with
  | nil => exact ⟨ordered, [], by simp⟩
  | cons work _ induction =>
    rcases ordered.journalWork (sound work (by simp)) (ready work (by simp)) with
      ⟨next, more, trace⟩
    rcases induction next (fun other member => sound other (by simp [member]))
      (fun other member live => (ready other (by simp [member]) live).grow trace) with
      ⟨last, rest, traceRest⟩
    refine ⟨last, more ++ rest, ?_⟩
    rw [List.foldl_cons, traceRest, trace, List.append_assoc]

theorem Ordered.finishAll {disk : Disk} {works : List Work} (ordered : Ordered start disk)
    (ready : ∀ work ∈ works, work.live = true → Ready start disk work.item.fragment.finalDir) :
    Ordered start (works.foldl Disk.finishWork disk) := by
  induction works generalizing disk with
  | nil => exact ordered
  | cons work _ induction =>
    rw [List.foldl_cons]
    cases live : work.live with
    | true =>
      simp only [Disk.finishWork, live, ↓reduceIte]
      apply induction
      · apply ordered.log
        intro finalDir announced
        simp only [Event.announced?, Option.some.injEq] at announced
        rw [← announced]
        exact ready work (by simp) live
      · intro other member otherLive
        exact (ready other (by simp [member]) otherLive).grow rfl
    | false =>
      simp only [Disk.finishWork, live, Bool.false_eq_true, ↓reduceIte]
      apply induction
      · apply ordered.log
        intro finalDir announced
        cases announced
      · intro other member otherLive
        exact (ready other (by simp [member]) otherLive).grow rfl

theorem group_ordered (disk : Disk) (batch : List Item) :
    Ordered disk (disk.commitFinalParentGroup parentRaises batch) := by
  have sound := renameAll_sound (disk.beginAll batch).2 _ (beginAll_sound disk batch)
  rcases renameAll_trace (disk.beginAll batch).2 (disk.beginAll batch).1 with
    ⟨events, trace, quiet, renamed⟩
  rw [(beginAll_logs disk batch).2] at trace
  simp only [Disk.commitFinalParentGroup, Disk.fenceAll]
  generalize (disk.beginAll batch).2.renameAll (disk.beginAll batch).1 = progress at *
  rcases progress with ⟨works, renamedDisk⟩
  simp only at sound trace renamed ⊢
  rw [fenceWorks_all]
  simp only
  have fencedTrace : renamedDisk.trace ++ fences parentRaises (liveParents works) =
      disk.trace ++ (events ++ fences parentRaises (liveParents works)) := by
    rw [trace, List.append_assoc]
  have ordered : Ordered disk { renamedDisk with
      trace := renamedDisk.trace ++ fences parentRaises (liveParents works) } := by
    refine ⟨_, fencedTrace, ?_⟩
    apply FencedFirst.append_quiet
    · simpa using FencedFirst.nil.append_quiet quiet
    · exact fences_quiet parentRaises (liveParents works)
  have ready : ∀ work ∈ works.map (Work.afterFence parentRaises (liveParents works)),
      work.live = true → Ready disk { renamedDisk with
        trace := renamedDisk.trace ++ fences parentRaises (liveParents works) }
        work.item.fragment.finalDir := by
    intro fencedWork member live
    rcases List.mem_map.mp member with ⟨work, present, rfl⟩
    rw [afterFence_live present] at live
    simp only [Work.durable, Bool.and_eq_true, Bool.not_eq_eq_eq_not, Bool.not_true] at live
    rw [(afterFence_item parentRaises (liveParents works) work).1]
    refine ⟨_, fencedTrace, ?_⟩
    have fenced : Event.fenced work.parent ∈ fences parentRaises (liveParents works) :=
      List.mem_map_of_mem (List.mem_filter.mpr
        ⟨mem_liveParents present live.1, by simp [live.2]⟩)
    exact (List.singleton_sublist.mpr (renamed work present live.1)).append
      (List.singleton_sublist.mpr fenced)
  have fencedSound : ∀ work ∈ works.map (Work.afterFence parentRaises (liveParents works)),
      work.Sound := by
    intro fencedWork member
    rcases List.mem_map.mp member with ⟨work, present, rfl⟩
    intro staged commit
    have kept := afterFence_item parentRaises (liveParents works) work
    rw [kept.1]
    rw [kept.2] at commit
    exact sound work present staged commit
  rcases ordered.journalAll fencedSound ready with ⟨journaled, _, journalTrace⟩
  apply journaled.finishAll
  intro work member live
  exact (ready work member live).grow journalTrace

theorem Ordered.publish {parentRaises : String → Bool} {disk : Disk} {item : Item}
    (ordered : Ordered start disk) (noSlots : item.publisher.commitSlotCount = 0) :
    Ordered start (disk.publish parentRaises item) := by
  rw [publish_eq parentRaises disk item noSlots]
  have begun : Ordered start (disk.begin item).2 := by
    rw [begin_disk]
    exact ordered.of_trace rfl
  have sound : (disk.begin item).1.Sound := by
    intro staged commit
    rw [begin_item]
    exact begin_commit commit
  generalize (disk.begin item).2 = begunDisk at *
  generalize (disk.begin item).1 = work at *
  cases live : (begunDisk.renameWork work).1.live with
  | false =>
    rcases renameWork_cases begunDisk work with ⟨failed, result, -⟩ | ⟨stillLive, result⟩
    · rw [result] at live ⊢
      simp only [Disk.settle, live, Bool.false_eq_true, ↓reduceIte]
      exact begun.log _ (fun finalDir announced => by cases announced)
    · rw [result, stillLive] at live
      cases live
  | true =>
    have moved := renameWork_renamed live
    rw [moved] at live ⊢
    simp only at live
    have renamed : Ordered start (begunDisk.replaced work.item) := by
      have logged := begun.log (.renamed work.item.fragment.finalDir)
        (fun finalDir announced => by cases announced)
      exact logged.of_trace rfl
    simp only [Disk.settle, live, ↓reduceIte, Disk.fenceParent]
    cases raises : parentRaises work.parent with
    | true =>
      simp only [↓reduceIte]
      exact renamed.log _ (fun finalDir announced => by cases announced)
    | false =>
      simp only [Bool.false_eq_true, ↓reduceIte]
      have fenced : Ordered start ((begunDisk.replaced work.item).log
          (.fenced work.parent)) :=
        renamed.log _ (fun finalDir announced => by cases announced)
      have ready : Ready start ((begunDisk.replaced work.item).log (.fenced work.parent))
          work.item.fragment.finalDir := by
        rcases begun with ⟨events, trace, -⟩
        refine ⟨events ++ [.renamed work.item.fragment.finalDir, .fenced work.parent],
          ?_, List.sublist_append_right _ _⟩
        simp [Disk.log, Disk.replaced, trace]
      rcases fenced.journalWork sound (fun _ => ready) with ⟨journaled, _, trace⟩
      apply journaled.log
      intro finalDir announced
      simp only [Event.announced?, Option.some.injEq] at announced
      rw [← announced]
      exact ready.grow trace

theorem single_ordered (disk : Disk) (batch : List Item)
    (noSlots : ∀ item ∈ batch, item.publisher.commitSlotCount = 0) :
    Ordered disk (disk.publishAll parentRaises batch) := by
  induction batch using List.reverseRecOn with
  | nil => exact ⟨[], by simp [Disk.publishAll], FencedFirst.nil⟩
  | append_singleton batch item induction =>
    have single : disk.publishAll parentRaises (batch ++ [item]) =
        (disk.publishAll parentRaises batch).publish parentRaises item := by
      simp only [Disk.publishAll, List.foldl_append, List.foldl_cons, List.foldl_nil]
    rw [single]
    exact (induction fun other member => noSlots other (by simp [member])).publish
      (noSlots item (by simp))

/-! ## Refinement -/

theorem sinkInit_noSlots {finalParentGroupLimit commitSlots : Nat}
    (accepted : sinkInit finalParentGroupLimit commitSlots = .ok ())
    (grouped : 1 < finalParentGroupLimit) : commitSlots = 0 := by
  simp only [sinkInit] at accepted
  split at accepted
  · cases accepted
  · omega

/-- The group commit of a batch and the one-by-one commit of its items end with the
same directories, journal records and callbacks, and neither announces an item
before its parent is fenced. -/
theorem groupCommit_refines {finalParentGroupLimit commitSlots : Nat}
    (accepted : sinkInit finalParentGroupLimit commitSlots = .ok ())
    (grouped : 1 < finalParentGroupLimit) (parentRaises : String → Bool) (disk : Disk)
    (batch : List Item)
    (publishers : ∀ item ∈ batch, item.publisher.commitSlotCount = commitSlots) :
    let group := disk.commitFinalParentGroup parentRaises batch
    let single := disk.publishAll parentRaises batch
    group.finals = single.finals ∧ group.journal = single.journal ∧
      group.callbacks = single.callbacks ∧ Ordered disk group ∧ Ordered disk single := by
  intro group single
  have noSlots : ∀ item ∈ batch, item.publisher.commitSlotCount = 0 := by
    intro item member
    rw [publishers item member]
    exact sinkInit_noSlots accepted grouped
  have agreed := agrees parentRaises disk batch noSlots
  have begunLogs := beginAll_logs disk batch
  have renamedLogs := renameAll_logs (disk.beginAll batch).2 (disk.beginAll batch).1
  have begunCallbacks : (disk.beginAll batch).2.callbacks = disk.callbacks := by
    rw [Disk.callbacks, begunLogs.2, Disk.callbacks]
  rcases group_end parentRaises ((disk.beginAll batch).2.renameAll (disk.beginAll batch).1).2
    ((disk.beginAll batch).2.renameAll (disk.beginAll batch).1).1 with
    ⟨finals, journal, callbacks⟩
  refine ⟨?_, ?_, ?_, group_ordered parentRaises disk batch,
    single_ordered parentRaises disk batch noSlots⟩
  · calc group.finals
        = ((disk.beginAll batch).2.renameAll (disk.beginAll batch).1).2.finals := finals
      _ = single.finals := agreed.finals
  · calc group.journal
        = ((disk.beginAll batch).2.renameAll (disk.beginAll batch).1).2.journal ++
            ((disk.beginAll batch).2.renameAll (disk.beginAll batch).1).1.filterMap
              (Work.journalEntry parentRaises) := journal
      _ = disk.journal ++
            ((disk.beginAll batch).2.renameAll (disk.beginAll batch).1).1.filterMap
              (Work.journalEntry parentRaises) := by rw [renamedLogs.1, begunLogs.1]
      _ = single.journal := agreed.journal.symm
  · calc group.callbacks
        = ((disk.beginAll batch).2.renameAll (disk.beginAll batch).1).2.callbacks ++
            ((disk.beginAll batch).2.renameAll (disk.beginAll batch).1).1.map
              (Work.callback parentRaises) := callbacks
      _ = disk.callbacks ++
            ((disk.beginAll batch).2.renameAll (disk.beginAll batch).1).1.map
              (Work.callback parentRaises) := by rw [renamedLogs.2, begunCallbacks]
      _ = single.callbacks := agreed.callbacks.symm

/-! ## Two items with one final directory -/

def plainStat : Stat := { device := 1, inode := 1, size := 1, mtimeNs := 0 }

def plainEnvironment : Environment where
  encodeRaises := false
  metadataWriteRaises := false
  manifestWriteRaises := false
  metadataSyncRaises := false
  manifestSyncRaises := false
  stagingSyncRaises := false
  parentPrepareRaises := false
  renameRaises := false
  journalRaises := false
  metadataStat := plainStat
  manifestStat := plainStat

def plainItem (stagingDir : String) : Item where
  publisher := {
    sourceId := "cam-1", runtimeEpochId := "e1", metadataLayout := .split,
    commitSlotCount := 0 }
  fragment := {
    segmentId := "s-0", stagingDir := stagingDir,
    finalDir := { parent := "segments", name := "s-0" }, videoFile := "video.mov",
    rows := [{ rollingCacheMuxPts := .number 5, pts := .absent, framePts := .absent }] }
  environment := plainEnvironment

def plainDisk : Disk where
  staging := fun _ => some { video := some plainStat, hasMetadata := false, hasManifest := false }
  finals := []
  journal := []
  trace := []

theorem collidingBatch_refines :
    let batch := [plainItem "a", plainItem "b"]
    let group := plainDisk.commitFinalParentGroup (fun _ => false) batch
    let single := plainDisk.publishAll (fun _ => false) batch
    group.finals.length = 1 ∧ group.finals = single.finals ∧ group.journal = single.journal ∧
      group.callbacks = single.callbacks ∧ Ordered plainDisk group ∧
      Ordered plainDisk single := by
  intro batch group single
  have published : group.finals.length = 1 := by decide +kernel
  have refined := @groupCommit_refines 2 0 rfl (by decide)
    (fun _ => false) plainDisk batch (by
      intro item member
      simp only [batch, List.mem_cons, List.not_mem_nil, or_false] at member
      rcases member with rfl | rfl <;> rfl)
  exact ⟨published, refined⟩

end VideoAnalysis.Sink.Publishing
