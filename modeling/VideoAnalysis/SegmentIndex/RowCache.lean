import VideoAnalysis.Foundation.LruCache
import VideoAnalysis.SegmentIndex.Catalog

/-! # The rows of the segments read last

The rows of a metadata file stay cached under its path and its identity. The cache counts
the bytes of the files it holds rows of and is bounded by their sum and their number.
-/

namespace VideoAnalysis.SegmentIndex

open Foundation Python

abbrev RowKey := FilePath × FileIdentity

structure CachedRows (Row : Type) where
  rows : List Row
  sizeBytes : Int

/-- A metadata file when it is asked for. -/
structure MetadataFile where
  identity : FileIdentity
  content : List Nat

/-- The limits as they are configured, the file system's links, and how the rows of a
content are read, where that raises nothing. -/
structure RowCacheConfig (Row : Type) where
  rowCacheMaxEntries : Int
  rowCacheMaxBytes : Int
  resolve : FilePath → FilePath
  parseRows : FilePath → List Nat → Option (List Row)

def RowCacheConfig.limits {Row : Type} (config : RowCacheConfig Row) :
    LruLimits (CachedRows Row) where
  weigh := CachedRows.sizeBytes
  maxEntries := max 1 config.rowCacheMaxEntries
  maxWeight := max 1 config.rowCacheMaxBytes

namespace RowCacheConfig

variable {Row : Type} (config : RowCacheConfig Row)

theorem noEntries : 0 ≤ config.limits.maxEntries := zero_le_one.trans (le_max_left 1 _)

theorem noBytes : 0 ≤ config.limits.maxWeight := zero_le_one.trans (le_max_left 1 _)

end RowCacheConfig

/-- `_row_cache` with `_row_cache_size_bytes`, and the two gauges. -/
structure RowCache (Row : Type) where
  cache : LruCache RowKey (CachedRows Row) := {}
  rowCacheEntryCount : Nat := 0
  rowCacheBytes : Int := 0

inductive RowCall (Row : Type) where
  | rowsForSegment (segment : RollingSegment) (file : Option MetadataFile)
  | rememberRows (metadataPath : FilePath) (identity : FileIdentity) (rows : List Row)
  | removeEntry (catalog : Catalog) (manifestPath : FilePath)

namespace RowCache

variable {Row : Type} (config : RowCacheConfig Row)

def measured (cache : LruCache RowKey (CachedRows Row)) : RowCache Row where
  cache := cache
  rowCacheEntryCount := cache.entries.size
  rowCacheBytes := cache.weight

def cachedRows (identity : FileIdentity) (rows : List Row) : CachedRows Row where
  rows := rows
  sizeBytes := max 1 identity.size

/-- `_remember_rows`, and whether it returns. -/
def rememberRows (state : RowCache Row) (metadataPath : FilePath) (identity : FileIdentity)
    (rows : List Row) : RowCache Row × Bool :=
  let remembered :=
    state.cache.put config.limits (metadataPath, identity) (cachedRows identity rows)
  if remembered.2 then (measured remembered.1, true)
  else ({ state with cache := remembered.1 }, false)

/-- `rows_for_segment`: none where an exception leaves it. -/
def rowsForSegment (state : RowCache Row) (segment : RollingSegment) :
    Option MetadataFile → RowCache Row × Option (List Row)
  | none => (state, none)
  | some file =>
    let metadataPath := config.resolve segment.metadataPath
    let key := (metadataPath, file.identity)
    match state.cache.entries.get key with
    | some cached => ({ state with cache := state.cache.use key }, some cached.rows)
    | none =>
      match config.parseRows metadataPath file.content with
      | none => (state, none)
      | some parsed =>
        let remembered := rememberRows config state metadataPath file.identity parsed
        (remembered.1, if remembered.2 then some parsed else none)

/-- The metadata path that an entry of a catalog names. -/
def entryMetadataPath (catalog : Catalog) (manifestPath : FilePath) : FilePath :=
  match catalog.entries.get manifestPath with
  | some removed => removed.segment.metadataPath
  | none => manifestPath.parent ++ [segmentMetadataFile]

/-- What `_remove_entry` does to the cache. -/
def removeEntry (state : RowCache Row) (catalog : Catalog) (manifestPath : FilePath) :
    RowCache Row :=
  let metadataText := config.resolve (entryMetadataPath catalog manifestPath)
  let keys := state.cache.entries.keys.filter fun key => key.1 = metadataText
  measured (state.cache.popAll config.limits keys)

def call (state : RowCache Row) : RowCall Row → RowCache Row × Option (List Row)
  | .rowsForSegment segment file => rowsForSegment config state segment file
  | .rememberRows metadataPath identity rows =>
    ((rememberRows config state metadataPath identity rows).1, none)
  | .removeEntry catalog manifestPath => (removeEntry config state catalog manifestPath, none)

def run (calls : List (RowCall Row)) : RowCache Row :=
  calls.foldl (fun state called => (call config state called).1) {}

def used : RowCall Row → Option RowKey
  | .rowsForSegment segment (some file) =>
    let metadataPath := config.resolve segment.metadataPath
    (config.parseRows metadataPath file.content).map fun _ => (metadataPath, file.identity)
  | .rowsForSegment _ none => none
  | .rememberRows metadataPath identity _ => some (metadataPath, identity)
  | .removeEntry _ _ => none

/-- The content that the file of a segment has is the one of its identity. -/
def Determined (contentOf : FileIdentity → List Nat) : RowCall Row → Prop
  | .rowsForSegment _ file => ∀ present ∈ file, present.content = contentOf present.identity
  | .rememberRows metadataPath identity rows =>
    config.parseRows metadataPath (contentOf identity) = some rows
  | .removeEntry _ _ => True

/-! ## What holds between two calls -/

/-- The cache after calls that used these keys. -/
structure Sound (contentOf : FileIdentity → List Nat) (uses : List (Option RowKey))
    (state : RowCache Row) : Prop where
  balanced : state.cache.Balanced config.limits
  within : state.cache.Within config.limits
  ranked : LruCache.Ranked (LruCache.lastUse uses) state.cache.entries.entries
  parsed : ∀ entry ∈ state.cache.entries.entries,
    config.parseRows entry.1.1 (contentOf entry.1.2) = some entry.2.rows
  sized : ∀ entry ∈ state.cache.entries.entries, entry.2.sizeBytes = max 1 entry.1.2.size
  entryCount : state.rowCacheEntryCount = state.cache.entries.size
  bytes : state.rowCacheBytes = state.cache.weight

variable {config} {contentOf : FileIdentity → List Nat} {uses : List (Option RowKey)}
  {state : RowCache Row}

theorem Sound.empty : Sound config contentOf [] {} where
  balanced := LruCache.Balanced.empty
  within := LruCache.Within.empty config.noEntries config.noBytes
  ranked := List.Pairwise.nil
  parsed := List.forall_mem_nil _
  sized := List.forall_mem_nil _
  entryCount := rfl
  bytes := rfl

section

variable (sound : Sound config contentOf uses state)

include sound

theorem Sound.unused :
    Sound config contentOf (uses ++ [none]) state :=
  { sound with
    ranked := by
      rw [LruCache.lastUse_append_none]
      exact sound.ranked }

def OldestFirst (uses : List (Option RowKey)) (before after : List RowKey) : Prop :=
  ∀ evicted ∈ before, evicted ∉ after → ∀ kept ∈ after,
    LruCache.lastUse uses evicted < LruCache.lastUse uses kept

theorem Sound.remember {metadataPath : FilePath} {identity : FileIdentity} {rows : List Row}
    (parsed : config.parseRows metadataPath (contentOf identity) = some rows) :
    let remembered := rememberRows config state metadataPath identity rows
    remembered.2 = true ∧
      Sound config contentOf (uses ++ [some (metadataPath, identity)]) remembered.1 ∧
      OldestFirst (uses ++ [some (metadataPath, identity)])
        ((metadataPath, identity) :: state.cache.entries.keys)
        remembered.1.cache.entries.keys := by
  intro remembered
  rcases sound.balanced.put config.noEntries config.noBytes (metadataPath, identity)
    (cachedRows identity rows) with ⟨evicted, kept, same, isPut, within⟩
  have isRemembered : remembered =
      (measured ⟨⟨kept⟩, LruCache.total config.limits kept⟩, true) := by
    simp only [remembered, rememberRows, isPut, if_true]
  have ranked := sound.ranked.moved (metadataPath, identity) (cachedRows identity rows)
  rw [same] at ranked
  have inKept : ∀ entry ∈ kept, entry ∈ state.cache.entries.entries ∨
      entry = ((metadataPath, identity), cachedRows identity rows) := by
    intro entry member
    have inBoth : entry ∈ evicted ++ kept := List.mem_append_right evicted member
    rw [← same, List.mem_append, List.mem_singleton] at inBoth
    exact inBoth.imp_left List.mem_of_mem_filter
  rw [isRemembered]
  refine ⟨rfl, ?_, ?_⟩
  · exact {
      balanced := ⟨ranked.split.1.imp fun before => ne_of_apply_ne _ before.ne, rfl⟩
      within := within
      ranked := ranked.split.1
      parsed := by
        intro entry member
        rcases inKept entry member with inOld | rfl
        · exact sound.parsed entry inOld
        · exact parsed
      sized := by
        intro entry member
        rcases inKept entry member with inOld | rfl
        · exact sound.sized entry inOld
        · rfl
      entryCount := rfl
      bytes := rfl }
  · intro gone isGone notKept late isKept
    have inBoth : gone ∈ (evicted ++ kept).map Prod.fst := by
      rw [← same, List.map_append, List.mem_append, List.map_singleton, List.mem_singleton]
      by_cases isNew : gone = (metadataPath, identity)
      · exact .inr isNew
      · refine .inl (Dict.mem_keys_erase.mpr ⟨?_, isNew⟩)
        exact (List.mem_cons.mp isGone).resolve_left isNew
    rw [List.map_append, List.mem_append] at inBoth
    exact ranked.split.2 gone (inBoth.resolve_right notKept) late isKept

theorem Sound.hit {key : RowKey} {cached : CachedRows Row}
    (found : state.cache.entries.get key = some cached) :
    Sound config contentOf (uses ++ [some key]) { state with cache := state.cache.use key } ∧
      ∀ other, other ∈ (state.cache.use key).entries.keys ↔ other ∈ state.cache.entries.keys := by
  rcases sound.balanced.use_of_found found with ⟨moved, perm, balanced⟩
  have size : (state.cache.use key).entries.size = state.cache.entries.size := perm.length_eq
  refine ⟨?_, fun other => (perm.map Prod.fst).mem_iff⟩
  exact {
    balanced := balanced
    within := ⟨size ▸ sound.within.count_le, sound.within.weight_le⟩
    ranked := by
      rw [moved]
      exact sound.ranked.moved key cached
    parsed := fun entry member => sound.parsed entry (perm.mem_iff.mp member)
    sized := fun entry member => sound.sized entry (perm.mem_iff.mp member)
    entryCount := sound.entryCount.trans size.symm
    bytes := sound.bytes }

theorem Sound.remove (catalog : Catalog) (manifestPath : FilePath) :
    Sound config contentOf (uses ++ [none]) (removeEntry config state catalog manifestPath) := by
  generalize isRemoved : removeEntry config state catalog manifestPath = removed
  rw [removeEntry] at isRemoved
  generalize state.cache.entries.keys.filter _ = keys at isRemoved
  rw [← isRemoved]
  have entries := LruCache.popAll_entries config.limits state.cache keys
  have sublist : (state.cache.popAll config.limits keys).entries.entries.Sublist
      state.cache.entries.entries := by
    rw [entries]
    exact List.filter_sublist
  have balanced := sound.balanced.popAll keys
  have nonneg : ∀ entry ∈ state.cache.entries.entries, 0 ≤ config.limits.weigh entry.2 := by
    intro entry member
    have size := sound.sized entry member
    simp only [RowCacheConfig.limits]
    omega
  refine Sound.unused {
    balanced := balanced
    within := ⟨?_, ?_⟩
    ranked := sound.ranked.sublist (sublist.map Prod.fst)
    parsed := fun entry member => sound.parsed entry (sublist.mem member)
    sized := fun entry member => sound.sized entry (sublist.mem member)
    entryCount := rfl
    bytes := rfl }
  · have shorter := sublist.length_le
    have count := sound.within.count_le
    simp only [measured, Dict.size] at shorter count ⊢
    omega
  · have lighter := LruCache.total_sublist nonneg sublist
    have weight := sound.within.weight_le
    rw [sound.balanced.weight_eq] at weight
    simp only [measured]
    rw [balanced.weight_eq]
    exact lighter.trans weight

end

theorem mem_keys_removeEntry (catalog : Catalog) (manifestPath : FilePath) (key : RowKey) :
    key ∈ (removeEntry config state catalog manifestPath).cache.entries.keys ↔
      key ∈ state.cache.entries.keys ∧
        key.1 ≠ config.resolve (entryMetadataPath catalog manifestPath) := by
  rw [removeEntry, measured, Dict.keys, LruCache.popAll_entries, Dict.keys]
  simp only [List.mem_map, List.mem_filter, decide_eq_true_eq]
  constructor
  · rintro ⟨entry, ⟨member, notRemoved⟩, rfl⟩
    exact ⟨⟨entry, member, rfl⟩, fun isPath => notRemoved ⟨⟨entry, member, rfl⟩, isPath⟩⟩
  · rintro ⟨⟨entry, member, rfl⟩, isOther⟩
    exact ⟨entry, ⟨member, fun removed => isOther removed.2⟩, rfl⟩

theorem OldestFirst.of_subset {before after : List RowKey}
    (subset : ∀ key ∈ before, key ∈ after) : OldestFirst uses before after :=
  fun evicted isBefore isGone => absurd (subset evicted isBefore) isGone

theorem Sound.rowsForSegment_some (sound : Sound config contentOf uses state)
    (segment : RollingSegment) {file : MetadataFile}
    (determined : file.content = contentOf file.identity) :
    let asked := rowsForSegment config state segment (some file)
    let key := used config (.rowsForSegment segment (some file))
    asked.2 = config.parseRows (config.resolve segment.metadataPath) file.content ∧
      Sound config contentOf (uses ++ [key]) asked.1 ∧
      OldestFirst (uses ++ [key]) (key.toList ++ state.cache.entries.keys)
        asked.1.cache.entries.keys := by
  simp only [rowsForSegment, used]
  generalize config.resolve segment.metadataPath = metadataPath
  cases found : state.cache.entries.get (metadataPath, file.identity) with
  | some =>
    have member := Dict.mem_of_get found
    have parsed := sound.parsed _ member
    have isKey : (metadataPath, file.identity) ∈ state.cache.entries.keys :=
      List.mem_map_of_mem (f := Prod.fst) member
    rcases sound.hit found with ⟨next, sameKeys⟩
    simp only [determined, parsed, Option.map_some]
    refine ⟨trivial, next, OldestFirst.of_subset ?_⟩
    intro key isBefore
    rw [Option.toList_some, List.singleton_append, List.mem_cons] at isBefore
    rw [sameKeys]
    rcases isBefore with rfl | isOld
    · exact isKey
    · exact isOld
  | none =>
    cases parsed : config.parseRows metadataPath file.content with
    | none => exact ⟨rfl, sound.unused, OldestFirst.of_subset fun _ isOld => isOld⟩
    | some =>
      rw [determined] at parsed
      rcases sound.remember parsed with ⟨returns, next, oldest⟩
      simp only [returns, if_true, Option.map_some]
      exact ⟨trivial, next, oldest⟩

theorem Sound.call (sound : Sound config contentOf uses state) {called : RowCall Row}
    (determined : Determined config contentOf called) :
    Sound config contentOf (uses ++ [used config called])
      (RowCache.call config state called).1 := by
  cases called with
  | rowsForSegment segment file =>
    cases file with
    | none => exact sound.unused
    | some present => exact (sound.rowsForSegment_some segment (determined present rfl)).2.1
  | rememberRows => exact (sound.remember determined).2.1
  | removeEntry catalog manifestPath => exact sound.remove catalog manifestPath

theorem run_append (calls : List (RowCall Row)) (called : RowCall Row) :
    run config (calls ++ [called]) = (RowCache.call config (run config calls) called).1 :=
  List.foldl_append

theorem run_sound {calls : List (RowCall Row)}
    (determined : ∀ called ∈ calls, Determined config contentOf called) :
    Sound config contentOf (calls.map (used config)) (run config calls) := by
  induction calls using List.reverseRecOn with
  | nil => exact Sound.empty
  | append_singleton _ _ induction =>
    rw [List.forall_mem_append, List.forall_mem_singleton] at determined
    rw [run_append, List.map_append, List.map_singleton]
    exact (induction determined.1).call determined.2

end RowCache

/-- The rows are those that the file holds, the cache counts its bytes and keeps to its
limits, and the keys that were used longest ago give way first. -/
theorem rowCache_transparent_lru {Row : Type} (config : RowCacheConfig Row)
    (contentOf : FileIdentity → List Nat) (calls : List (RowCall Row)) (called : RowCall Row)
    (determined : ∀ each ∈ calls ++ [called], RowCache.Determined config contentOf each) :
    let before := RowCache.run config calls
    let after := RowCache.run config (calls ++ [called])
    (∀ segment file, called = .rowsForSegment segment file →
      (RowCache.call config before called).2 = file.bind fun present =>
        config.parseRows (config.resolve segment.metadataPath) present.content) ∧
    (∀ metadataPath identity rows, called = .rememberRows metadataPath identity rows →
      (RowCache.rememberRows config before metadataPath identity rows).2 = true) ∧
    after.cache.weight = (after.cache.entries.values.map CachedRows.sizeBytes).sum ∧
    (after.cache.entries.size : Int) ≤ max 1 config.rowCacheMaxEntries ∧
    after.cache.weight ≤ max 1 config.rowCacheMaxBytes ∧
    after.rowCacheEntryCount = after.cache.entries.size ∧
    after.rowCacheBytes = after.cache.weight ∧
    (∀ catalog manifestPath, called = .removeEntry catalog manifestPath →
      ∀ key, key ∈ after.cache.entries.keys ↔ key ∈ before.cache.entries.keys ∧
        key.1 ≠ config.resolve (RowCache.entryMetadataPath catalog manifestPath)) ∧
    ((∀ catalog manifestPath, called ≠ .removeEntry catalog manifestPath) →
      RowCache.OldestFirst ((calls ++ [called]).map (RowCache.used config))
        ((RowCache.used config called).toList ++ before.cache.entries.keys)
        after.cache.entries.keys) := by
  intro before after
  have soundAfter := RowCache.run_sound determined
  rw [List.forall_mem_append, List.forall_mem_singleton] at determined
  have sound := RowCache.run_sound determined.1
  have isAfter : after = (RowCache.call config before called).1 := RowCache.run_append calls called
  refine ⟨?_, ?_, ?_, soundAfter.within.count_le, soundAfter.within.weight_le,
    soundAfter.entryCount, soundAfter.bytes, ?_, ?_⟩
  · rintro segment file rfl
    cases file with
    | none => rfl
    | some present => exact (sound.rowsForSegment_some segment (determined.2 present rfl)).1
  · rintro metadataPath identity rows rfl
    exact (sound.remember determined.2).1
  · rw [soundAfter.balanced.weight_eq, Dict.values, List.map_map]
    rfl
  · rintro catalog manifestPath rfl key
    rw [isAfter]
    exact RowCache.mem_keys_removeEntry catalog manifestPath key
  · intro noRemoval
    rw [isAfter, List.map_append, List.map_singleton]
    cases called with
    | rowsForSegment segment file =>
      cases file with
      | none => exact RowCache.OldestFirst.of_subset fun _ isOld => isOld
      | some present =>
        exact (sound.rowsForSegment_some segment (determined.2 present rfl)).2.2
    | rememberRows => exact (sound.remember determined.2).2.2
    | removeEntry catalog manifestPath => exact absurd rfl (noRemoval catalog manifestPath)

def oneFileCached : RowCacheConfig Nat where
  rowCacheMaxEntries := 1
  rowCacheMaxBytes := 100
  resolve := id
  parseRows _ content := some content

def segmentAt (directory : FilePath) : RollingSegment where
  segmentId := text "0001"
  sourceId := text "camera-a"
  runtimeEpochId := text "epoch"
  directory := directory
  videoPath := directory ++ [text "video.mov"]
  metadataPath := directory ++ [segmentMetadataFile]
  firstPts := 0
  lastPts := 1
  frameCount := 1
  sizeBytes := 2
  sourceFirstPts := none
  sourceLastPts := none

def twoSegmentsRead : List (RowCall Nat) :=
  [.rowsForSegment (segmentAt [text "0001"]) (some ⟨⟨1, 1, 2, 0⟩, [2, 2]⟩),
    .rowsForSegment (segmentAt [text "0002"]) (some ⟨⟨1, 2, 3, 0⟩, [3, 3, 3]⟩)]

/-- The second segment takes the place of the first, whose rows are read again. -/
theorem first_segment_read_again :
    (RowCache.run oneFileCached twoSegmentsRead).cache.entries.keys =
        [([text "0002", segmentMetadataFile], ⟨1, 2, 3, 0⟩)] ∧
      (RowCache.call oneFileCached (RowCache.run oneFileCached twoSegmentsRead)
        (.rowsForSegment (segmentAt [text "0001"]) (some ⟨⟨1, 1, 2, 0⟩, [2, 2]⟩))).2 =
          some [2, 2] := by
  refine ⟨by decide +kernel, ?_⟩
  have determined : ∀ each ∈ twoSegmentsRead ++
      [.rowsForSegment (segmentAt [text "0001"]) (some ⟨⟨1, 1, 2, 0⟩, [2, 2]⟩)],
        RowCache.Determined oneFileCached
          (fun identity => List.replicate identity.size.toNat identity.size.toNat) each := by
    simp [twoSegmentsRead, RowCache.Determined]
  exact (rowCache_transparent_lru oneFileCached _ _ _ determined).1 _ _ rfl

end VideoAnalysis.SegmentIndex
