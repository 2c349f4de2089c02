import Mathlib.Data.List.Induction
import VideoAnalysis.Foundation.Dict
import VideoAnalysis.Foundation.StreamLog
import VideoAnalysis.Python.Number

/-! # Reading frame annotations through a bucketed cache

`_read_frame_annotation_range_entries` scans a stream backwards in pages. With caching
on, the range is widened to whole buckets before the scan and narrowed after it. Times
are integer ticks.
-/

namespace VideoAnalysis.Clip

open Foundation Python
open StreamLog (mem_newest newest)

variable {Fields Message : Type}

/-! ## Bounds -/

/-- `_stream_id_tuple`: a part that is missing counts as zero. -/
def boundTuple : StreamBound → StreamId
  | .least | .greatest => streamId 0 0
  | .at ms sequence _ => streamId ms (sequence.getD 0)

/-- `_stream_id_within_bounds` on the upper side. -/
def WithinUpper : StreamBound → StreamId → Prop
  | .greatest, _ => True
  | .at ms sequence true, id => id < boundTuple (.at ms sequence true)
  | bound, id => id ≤ boundTuple bound

instance : (bound : StreamBound) → DecidablePred (WithinUpper bound)
  | .least => fun id => inferInstanceAs (Decidable (id ≤ _))
  | .greatest => fun _ => isTrue trivial
  | .at _ _ false => fun id => inferInstanceAs (Decidable (id ≤ _))
  | .at _ _ true => fun id => inferInstanceAs (Decidable (id < _))

def StreamIdWithinBounds (rangeMin rangeMax : StreamBound) (id : StreamId) : Prop :=
  ¬(rangeMin ≠ .least ∧ id < boundTuple rangeMin) ∧ WithinUpper rangeMax id

instance (rangeMin rangeMax : StreamBound) :
    DecidablePred (StreamIdWithinBounds rangeMin rangeMax) := fun _ =>
  inferInstanceAs (Decidable (¬(_ ∧ _) ∧ _))

/-- `_bucket_frame_annotation_range_bound`; an exclusive id has no readable milliseconds. -/
def bucketBound (bucketMs : ℕ) (upper : Bool) : StreamBound → StreamBound
  | .at ms sequence false =>
    if bucketMs = 0 then .at ms sequence false
    else if upper then .at ((ms / bucketMs + 1) * bucketMs - 1) (some 999999) false
    else .at (ms / bucketMs * bucketMs) (some 0) false
  | bound => bound

/-! ## The scan -/

/-- `_iter_frame_annotation_entries` from its loop on. -/
def iterEntries (log : StreamLog Fields) (rangeMin : StreamBound) (pageSize limit scanned : ℕ)
    (nextMax : StreamBound) : List (StreamId × Fields) :=
  if _ : scanned < limit then
    let count := min pageSize (limit - scanned)
    let entries := log.xrevrange nextMax rangeMin count
    match _last : entries.getLast? with
    | none => []
    | some entry =>
      if entries.length < count ∨ .older entry.1 = nextMax then entries
      else
        entries ++
          iterEntries log rangeMin pageSize limit (scanned + entries.length) (.older entry.1)
  else []
termination_by limit - scanned
decreasing_by
  have inhabited := List.length_pos_of_mem (List.mem_of_getLast? _last)
  change limit - (scanned + entries.length) < limit - scanned
  omega

def scanLimit (maxScan : Int) : ℕ := (max 1 maxScan).toNat

def pageSize (pageCount : Int) (limit : ℕ) : ℕ := (max 1 (min pageCount limit)).toNat

def parseEntries (decode : Fields → Except PyError (Option Message)) :
    List (StreamId × Fields) → Except PyError (List (StreamId × Message))
  | [] => .ok []
  | entry :: rest =>
    match decode entry.2 with
    | .error error => .error error
    | .ok message =>
      match parseEntries decode rest with
      | .error error => .error error
      | .ok parsed => .ok ((message.map fun value => (entry.1, value)).toList ++ parsed)

def readEntries (decode : Fields → Except PyError (Option Message)) (log : StreamLog Fields)
    (maxScan pageCount : Int) (readMin readMax : StreamBound) :
    Except PyError (List (StreamId × Message)) :=
  parseEntries decode
    (iterEntries log readMin (pageSize pageCount (scanLimit maxScan)) (scanLimit maxScan) 0
      readMax)

/-! ## The cache -/

structure RangeRequest where
  streamName : String
  maxScan : Int
  pageCount : Int
  rangeMin : StreamBound
  rangeMax : StreamBound
  cacheTtl : Int
  cacheBucketMs : Int
  cacheMaxEntries : Int

structure RangeKey where
  streamName : String
  maxScan : Int
  pageCount : Int
  readMin : StreamBound
  readMax : StreamBound
deriving DecidableEq

structure CachedRange (Message : Type) where
  cachedAt : ℕ
  entries : List (StreamId × Message)

/-- The streams of the server, the cache of the worker and its monotonic clock. -/
structure AnnotationReader (Fields Message : Type) where
  streams : String → StreamLog Fields
  cache : Dict RangeKey (CachedRange Message)
  now : ℕ

namespace RangeRequest

def readMin (request : RangeRequest) : StreamBound :=
  bucketBound request.cacheBucketMs.toNat false request.rangeMin

def readMax (request : RangeRequest) : StreamBound :=
  bucketBound request.cacheBucketMs.toNat true request.rangeMax

def key (request : RangeRequest) : RangeKey where
  streamName := request.streamName
  maxScan := max 1 request.maxScan
  pageCount := max 1 request.pageCount
  readMin := request.readMin
  readMax := request.readMax

def narrow (request : RangeRequest) (entries : List (StreamId × Message)) :
    List (StreamId × Message) :=
  entries.filter fun entry => StreamIdWithinBounds request.rangeMin request.rangeMax entry.1

end RangeRequest

/-- `move_to_end` of the value under a key. -/
def storeLast (cache : Dict RangeKey (CachedRange Message)) (key : RangeKey)
    (cached : CachedRange Message) : Dict RangeKey (CachedRange Message) :=
  ⟨(cache.erase key).entries ++ [(key, cached)]⟩

/-- `popitem(last=False)` as long as there are too many. -/
def evictOldest {Item : Type} (limit : ℕ) : List Item → List Item
  | [] => []
  | item :: rest => if limit < rest.length + 1 then evictOldest limit rest else item :: rest

def AnnotationReader.cached (reader : AnnotationReader Fields Message) (request : RangeRequest) :
    Option (CachedRange Message) :=
  match reader.cache.get request.key with
  | some cached =>
    if ((reader.now - cached.cachedAt : ℕ) : Int) ≤ request.cacheTtl then some cached else none
  | none => none

/-- `_read_frame_annotation_range_entries`. -/
def readRangeEntries (decode : Fields → Except PyError (Option Message))
    (request : RangeRequest) (reader : AnnotationReader Fields Message) :
    Except PyError (List (StreamId × Message)) × AnnotationReader Fields Message :=
  let log := reader.streams request.streamName
  if request.cacheTtl ≤ 0 then
    ((readEntries decode log request.maxScan request.pageCount request.rangeMin
      request.rangeMax).map request.narrow, reader)
  else
    match reader.cached request with
    | some cached =>
      (.ok (request.narrow cached.entries),
        { reader with cache := storeLast reader.cache request.key cached })
    | none =>
      match readEntries decode log request.maxScan request.pageCount request.readMin
        request.readMax with
      | .error error => (.error error, reader)
      | .ok entries =>
        let cache := storeLast reader.cache request.key { cachedAt := reader.now, entries }
        (.ok (request.narrow entries),
          { reader with
            cache := ⟨evictOldest (max 1 request.cacheMaxEntries).toNat cache.entries⟩ })

/-! ## What a scan reads -/

theorem one_le_pageSize (pageCount : Int) (limit : ℕ) : 1 ≤ pageSize pageCount limit := by
  unfold pageSize
  omega

variable {log : StreamLog Fields} {count : ℕ}

theorem older_ne_of_mem {low high : StreamBound} {last : StreamId × Fields}
    (member : last ∈ log.xrevrange high low count) :
    StreamBound.older last.1 ≠ high := by
  intro same
  have above := (mem_newest.mp member).2.1.2
  rw [← same, StreamBound.above_older] at above
  exact lt_irrefl _ above

theorem iterEntries_eq (log : StreamLog Fields) (rangeMin : StreamBound)
    {pageSize limit : ℕ} (positive : 1 ≤ pageSize) (scanned : ℕ) (nextMax : StreamBound) :
    iterEntries log rangeMin pageSize limit scanned nextMax =
      log.newest (InRange rangeMin nextMax) (limit - scanned) := by
  generalize left : limit - scanned = remaining
  induction remaining using Nat.strong_induction_on generalizing scanned nextMax with
  | _ remaining induction =>
    rw [iterEntries]
    by_cases more : scanned < limit
    · rw [dif_pos more, left]
      have length : (log.xrevrange nextMax rangeMin (min pageSize remaining)).length =
          min (min pageSize remaining)
            (log.descending (InRange rangeMin nextMax)).length := List.length_take
      dsimp only
      split
      next empty =>
        rw [List.getLast?_eq_none_iff] at empty
        rw [empty, List.length_nil] at length
        have none : log.descending (InRange rangeMin nextMax) = [] := by
          apply List.eq_nil_of_length_eq_zero
          omega
        rw [newest, none, List.take_nil]
      next last isLast =>
        have different := older_ne_of_mem (List.mem_of_getLast? isLast)
        have inhabited := List.length_pos_of_mem (List.mem_of_getLast? isLast)
        by_cases short : (log.xrevrange nextMax rangeMin (min pageSize remaining)).length <
            min pageSize remaining
        · rw [if_pos (Or.inl short), newest, List.take_of_length_le (by omega)]
          exact List.take_of_length_le (by omega)
        · rw [if_neg (not_or.mpr ⟨short, different⟩)]
          have full : (log.xrevrange nextMax rangeMin (min pageSize remaining)).length =
              min pageSize remaining := by omega
          rw [full] at inhabited ⊢
          rw [induction (remaining - min pageSize remaining) (by omega) _ _ (by omega),
            newest, newest, StreamLog.descending_older isLast,
            StreamLog.xrevrange, newest, ← List.take_add]
          congr 1
          omega
    · rw [dif_neg more]
      have done : remaining = 0 := by omega
      rw [newest, done, List.take_zero]

/-! ## Exact lookups -/

/-- The message of an entry that decodes to a frame annotation. -/
def annotationOf (decode : Fields → Except PyError (Option Message))
    (entry : StreamId × Fields) : Option (StreamId × Message) :=
  match decode entry.2 with
  | .ok (some message) => some (entry.1, message)
  | _ => none

def Readable (decode : Fields → Except PyError (Option Message))
    (entry : StreamId × Fields) : Prop :=
  ∃ message, decode entry.2 = .ok message

variable {decode : Fields → Except PyError (Option Message)}

theorem parseEntries_eq_ok {entries : List (StreamId × Fields)}
    {parsed : List (StreamId × Message)} :
    parseEntries decode entries = .ok parsed ↔
      (∀ entry ∈ entries, Readable decode entry) ∧
        entries.filterMap (annotationOf decode) = parsed := by
  induction entries generalizing parsed with
  | nil => simp [parseEntries]
  | cons entry rest induction =>
    rw [parseEntries, List.forall_mem_cons]
    cases decoded : decode entry.2 with
    | error =>
      simp only [Readable, decoded, reduceCtorEq, exists_false, false_and]
    | ok message =>
      have readable : Readable decode entry := ⟨message, decoded⟩
      have head : annotationOf decode entry = message.map fun value => (entry.1, value) := by
        rw [annotationOf, decoded]
        cases message <;> rfl
      cases tail : parseEntries decode rest with
      | error =>
        dsimp only
        constructor
        · intro impossible
          cases impossible
        · rintro ⟨⟨_, readableRest⟩, _⟩
          rw [induction.mpr ⟨readableRest, rfl⟩] at tail
          cases tail
      | ok =>
        rcases induction.mp tail with ⟨readableRest, same⟩
        simp only [Except.ok.injEq, readable, true_and, and_iff_right readableRest,
          List.filterMap_cons, head, same]
        cases message <;> rfl

/-- Of the newest `max_scan` entries inside the bounds those that are frame annotations. -/
def newestInside (decode : Fields → Except PyError (Option Message)) (request : RangeRequest)
    (log : StreamLog Fields) : List (StreamId × Message) :=
  (log.newest (InRange request.rangeMin request.rangeMax) (scanLimit request.maxScan)).filterMap
    (annotationOf decode)

def RangeRequest.uncached (request : RangeRequest) : RangeRequest :=
  { request with cacheTtl := 0 }

/-- An entry that the scan between two bounds reaches. -/
def Scanned (log : StreamLog Fields) (maxScan : Int) (low high : StreamBound)
    (entry : StreamId × Fields) : Prop :=
  log.AmongNewest (InRange low high) (scanLimit maxScan) entry

instance [DecidableEq Fields] (log : StreamLog Fields) (maxScan : Int)
    (low high : StreamBound) : DecidablePred (Scanned log maxScan low high) := fun entry =>
  inferInstanceAs (Decidable (log.AmongNewest (InRange low high) (scanLimit maxScan) entry))

/-- Both scans read their entries without an error; the annotations that the narrow scan
reaches pass the comparison of pairs, and they are those of the wide scan that do. -/
structure BucketsKeepScan (decode : Fields → Except PyError (Option Message))
    (request : RangeRequest) (log : StreamLog Fields) : Prop where
  readable : ∀ entry,
    Scanned log request.maxScan request.rangeMin request.rangeMax entry ∨
      Scanned log request.maxScan request.readMin request.readMax entry → Readable decode entry
  within : ∀ entry, (annotationOf decode entry).isSome = true →
    Scanned log request.maxScan request.rangeMin request.rangeMax entry →
      StreamIdWithinBounds request.rangeMin request.rangeMax entry.1
  sameEntries : ∀ entry, (annotationOf decode entry).isSome = true →
    StreamIdWithinBounds request.rangeMin request.rangeMax entry.1 →
      (Scanned log request.maxScan request.rangeMin request.rangeMax entry ↔
        Scanned log request.maxScan request.readMin request.readMax entry)

theorem readEntries_eq (decode : Fields → Except PyError (Option Message))
    (log : StreamLog Fields) (maxScan pageCount : Int) (low high : StreamBound) :
    readEntries decode log maxScan pageCount low high =
      parseEntries decode (log.newest (InRange low high) (scanLimit maxScan)) := by
  rw [readEntries, iterEntries_eq log low (one_le_pageSize _ _), Nat.sub_zero]

variable {found : StreamId × Message}

theorem annotation_id {entry : StreamId × Fields}
    (decoded : annotationOf decode entry = some found) : found.1 = entry.1 := by
  unfold annotationOf at decoded
  split at decoded
  · cases decoded
    rfl
  · cases decoded

variable {inside : StreamId → Prop}

theorem mem_annotations [DecidablePred inside] {entry : StreamId × Fields}
    (member : entry ∈ log.entries) (decoded : annotationOf decode entry = some found) :
    found ∈ (log.newest inside count).filterMap (annotationOf decode) ↔
      log.AmongNewest inside count entry := by
  rw [List.mem_filterMap, ← mem_newest]
  constructor
  · rintro ⟨other, inNewest, same⟩
    have id := (annotation_id decoded).symm.trans (annotation_id same)
    have inLog := (mem_newest.mp inNewest).1
    rw [StreamLog.eq_of_mem_of_id member inLog id]
    exact inNewest
  · intro inNewest
    exact ⟨entry, inNewest, decoded⟩

theorem annotations_pairwise (decode : Fields → Except PyError (Option Message))
    (log : StreamLog Fields) (inside : StreamId → Prop) [DecidablePred inside] (count : ℕ) :
    ((log.newest inside count).filterMap (annotationOf decode)).Pairwise
      fun first second => second.1 < first.1 := by
  apply List.pairwise_filterMap.mpr
  apply (log.newest_pairwise inside count).imp
  intro first second less found isFound other isOther
  rw [annotation_id isFound, annotation_id isOther]
  exact less

variable {request : RangeRequest}

theorem narrow_readEntries_eq_ok {maxScan pageCount : Int} {low high : StreamBound}
    {result : List (StreamId × Message)} :
    (readEntries decode log maxScan pageCount low high).map request.narrow = .ok result ↔
      (∀ entry, Scanned log maxScan low high entry → Readable decode entry) ∧
        request.narrow ((log.newest (InRange low high) (scanLimit maxScan)).filterMap
          (annotationOf decode)) = result := by
  rw [readEntries_eq]
  have scanned : ∀ entry, entry ∈ log.newest (InRange low high) (scanLimit maxScan) ↔
      Scanned log maxScan low high entry := fun entry => mem_newest
  simp only [← scanned]
  cases read : parseEntries decode (log.newest (InRange low high) (scanLimit maxScan)) with
  | error =>
    constructor
    · intro impossible
      cases impossible
    · rintro ⟨readable, _⟩
      rw [parseEntries_eq_ok.mpr ⟨readable, rfl⟩] at read
      cases read
  | ok =>
    rcases parseEntries_eq_ok.mp read with ⟨readable, same⟩
    rw [same, and_iff_right readable]
    exact ⟨Except.ok.inj, congrArg Except.ok⟩

theorem mem_narrow_annotations [DecidablePred inside] {entry : StreamId × Fields}
    (member : entry ∈ log.entries) (decoded : annotationOf decode entry = some found) :
    found ∈ request.narrow ((log.newest inside count).filterMap (annotationOf decode)) ↔
      log.AmongNewest inside count entry ∧
        StreamIdWithinBounds request.rangeMin request.rangeMax entry.1 := by
  rw [RangeRequest.narrow, List.mem_filter, mem_annotations member decoded, decide_eq_true_eq,
    annotation_id decoded]

theorem exists_entry [DecidablePred inside]
    (member : found ∈ (log.newest inside count).filterMap (annotationOf decode)) :
    ∃ entry ∈ log.entries, annotationOf decode entry = some found := by
  rcases List.mem_filterMap.mp member with ⟨entry, inNewest, decoded⟩
  exact ⟨entry, (mem_newest.mp inNewest).1, decoded⟩

theorem narrow_newestInside_iff :
    request.narrow (newestInside decode request log) = newestInside decode request log ↔
      ∀ entry, (annotationOf decode entry).isSome = true →
        Scanned log request.maxScan request.rangeMin request.rangeMax entry →
          StreamIdWithinBounds request.rangeMin request.rangeMax entry.1 := by
  rw [RangeRequest.narrow, List.filter_eq_self]
  constructor
  · intro all entry decodes scanned
    rcases Option.isSome_iff_exists.mp decodes with ⟨found, decoded⟩
    have inside := all found ((mem_annotations scanned.1 decoded).mpr scanned)
    rw [← annotation_id decoded]
    exact of_decide_eq_true inside
  · intro within found member
    rcases exists_entry member with ⟨entry, inLog, decoded⟩
    have scanned := (mem_annotations inLog decoded).mp member
    rw [annotation_id decoded]
    exact decide_eq_true (within entry (Option.isSome_of_eq_some decoded) scanned)

theorem narrow_wide_eq_iff (within : request.narrow (newestInside decode request log) =
      newestInside decode request log) :
    request.narrow ((log.newest (InRange request.readMin request.readMax)
        (scanLimit request.maxScan)).filterMap (annotationOf decode)) =
          newestInside decode request log ↔
      ∀ entry, (annotationOf decode entry).isSome = true →
        StreamIdWithinBounds request.rangeMin request.rangeMax entry.1 →
          (Scanned log request.maxScan request.rangeMin request.rangeMax entry ↔
            Scanned log request.maxScan request.readMin request.readMax entry) := by
  constructor
  · intro same entry decodes inside
    rcases Option.isSome_iff_exists.mp decodes with ⟨found, decoded⟩
    constructor
    · intro scanned
      have member := (mem_annotations scanned.1 decoded).mpr scanned
      rw [← newestInside, ← same, mem_narrow_annotations scanned.1 decoded] at member
      exact member.1
    · intro scanned
      have member : found ∈ request.narrow ((log.newest (InRange request.readMin
          request.readMax) (scanLimit request.maxScan)).filterMap (annotationOf decode)) :=
        (mem_narrow_annotations scanned.1 decoded).mpr ⟨scanned, inside⟩
      rw [same, newestInside, mem_annotations scanned.1 decoded] at member
      exact member
  · intro sameEntries
    rw [← within]
    apply List.Pairwise.eq_of_mem_iff
      ((annotations_pairwise decode log _ _).sublist List.filter_sublist)
      ((annotations_pairwise decode log _ _).sublist List.filter_sublist)
    intro found
    have transfer : ∀ entry ∈ log.entries, annotationOf decode entry = some found →
        (found ∈ request.narrow ((log.newest (InRange request.readMin request.readMax)
            (scanLimit request.maxScan)).filterMap (annotationOf decode)) ↔
          found ∈ request.narrow (newestInside decode request log)) := by
      intro entry inLog decoded
      rw [newestInside, mem_narrow_annotations inLog decoded,
        mem_narrow_annotations inLog decoded]
      apply and_congr_left
      intro inside
      exact (sameEntries entry (Option.isSome_of_eq_some decoded) inside).symm
    constructor
    · intro member
      rcases exists_entry (List.mem_of_mem_filter member) with ⟨entry, inLog, decoded⟩
      exact (transfer entry inLog decoded).mp member
    · intro member
      rcases exists_entry (List.mem_of_mem_filter member) with ⟨entry, inLog, decoded⟩
      exact (transfer entry inLog decoded).mpr member

/-! ## Runs -/

/-- A stream changes in any way, time goes by, or a range is looked up. -/
inductive ReaderOp (Fields : Type) where
  | change (streamName : String) (log : StreamLog Fields)
  | wait (ticks : ℕ)
  | lookup (request : RangeRequest)

namespace AnnotationReader

def start (streams : String → StreamLog Fields) : AnnotationReader Fields Message where
  streams := streams
  cache := ∅
  now := 0

def apply (decode : Fields → Except PyError (Option Message))
    (reader : AnnotationReader Fields Message) :
    ReaderOp Fields → AnnotationReader Fields Message
  | .change streamName log =>
    { reader with streams := Function.update reader.streams streamName log }
  | .wait ticks => { reader with now := reader.now + ticks }
  | .lookup request => (readRangeEntries decode request reader).2

def run (decode : Fields → Except PyError (Option Message))
    (reader : AnnotationReader Fields Message) (ops : List (ReaderOp Fields)) :
    AnnotationReader Fields Message :=
  ops.foldl (apply decode) reader

def emptied (reader : AnnotationReader Fields Message) : AnnotationReader Fields Message :=
  { reader with cache := ∅ }

def ReadAs (decode : Fields → Except PyError (Option Message))
    (reader : AnnotationReader Fields Message) (key : RangeKey)
    (cached : CachedRange Message) : Prop :=
  reader.now = cached.cachedAt ∧
    readEntries decode (reader.streams key.streamName) key.maxScan key.pageCount key.readMin
      key.readMax = .ok cached.entries

end AnnotationReader

theorem evictOldest_sublist {Item : Type} (limit : ℕ) (items : List Item) :
    (evictOldest limit items).Sublist items := by
  induction items with
  | nil => exact List.Sublist.refl _
  | cons item _ induction =>
    rw [evictOldest]
    split
    · exact induction.cons item
    · exact List.Sublist.refl _

variable {entry : RangeKey × CachedRange Message}

variable {cached : CachedRange Message}

theorem mem_storeLast {cache : Dict RangeKey (CachedRange Message)} {key : RangeKey}
    (member : entry ∈ (storeLast cache key cached).entries) :
    entry ∈ cache.entries ∨ entry = (key, cached) := by
  rcases List.mem_append.mp member with kept | last
  · exact .inl (List.mem_of_mem_filter kept)
  · exact .inr (List.mem_singleton.mp last)

theorem readEntries_key (decode : Fields → Except PyError (Option Message))
    (log : StreamLog Fields) (request : RangeRequest) :
    readEntries decode log request.key.maxScan request.key.pageCount request.key.readMin
        request.key.readMax =
      readEntries decode log request.maxScan request.pageCount request.readMin
        request.readMax := by
  have limit : scanLimit request.key.maxScan = scanLimit request.maxScan := by
    simp only [scanLimit, RangeRequest.key, le_max_left, max_eq_right]
  rw [readEntries_eq, readEntries_eq, limit]
  rfl

variable {reader : AnnotationReader Fields Message}

theorem cached_eq_some (hit : reader.cached request = some cached) :
    (request.key, cached) ∈ reader.cache.entries ∧
      ((reader.now - cached.cachedAt : ℕ) : Int) ≤ request.cacheTtl := by
  unfold AnnotationReader.cached at hit
  split at hit
  next found =>
    split at hit
    next fresh =>
      cases hit
      exact ⟨Dict.mem_of_get found, fresh⟩
    next => cases hit
  next => cases hit

theorem cache_of_lookup
    (member : entry ∈ (readRangeEntries decode request reader).2.cache.entries) :
    entry ∈ reader.cache.entries ∨ reader.ReadAs decode entry.1 entry.2 := by
  simp only [readRangeEntries] at member
  split at member
  · exact .inl member
  · split at member
    next cached hit =>
      rcases mem_storeLast member with kept | rfl
      · exact .inl kept
      · exact .inl (cached_eq_some hit).1
    next =>
      split at member
      next => exact .inl member
      next entries read =>
        rcases mem_storeLast ((evictOldest_sublist _ _).subset member) with kept | rfl
        · exact .inl kept
        · refine .inr ⟨rfl, ?_⟩
          rw [readEntries_key]
          exact read

/-- Whatever is cached was read at an earlier moment of the run. -/
theorem cached_readAs (decode : Fields → Except PyError (Option Message))
    (streams : String → StreamLog Fields) (ops : List (ReaderOp Fields))
    (member : entry ∈ ((AnnotationReader.start streams).run decode ops).cache.entries) :
    ∃ before, before <+: ops ∧
      ((AnnotationReader.start streams).run decode before).ReadAs decode entry.1 entry.2 := by
  induction ops using List.reverseRecOn with
  | nil => cases member
  | append_singleton ops op induction =>
    have earlier : entry ∈ ((AnnotationReader.start streams).run decode ops).cache.entries →
        ∃ before, before <+: ops ++ [op] ∧ ((AnnotationReader.start streams).run decode
          before).ReadAs decode entry.1 entry.2 := by
      intro kept
      rcases induction kept with ⟨before, isPrefix, readAs⟩
      exact ⟨before, isPrefix.trans (List.prefix_append _ _), readAs⟩
    rw [AnnotationReader.run, List.foldl_append] at member
    cases op with
    | change | wait => exact earlier member
    | lookup =>
      rcases cache_of_lookup member with kept | readAs
      · exact earlier kept
      · exact ⟨ops, List.prefix_append _ _, readAs⟩

/-! ## The cache against the plain scan -/

theorem readRangeEntries_miss (decode : Fields → Except PyError (Option Message))
    {request : RangeRequest} {reader : AnnotationReader Fields Message}
    (enabled : 0 < request.cacheTtl) (missed : reader.cached request = none) :
    (readRangeEntries decode request reader).1 =
      (readEntries decode (reader.streams request.streamName) request.maxScan
        request.pageCount request.readMin request.readMax).map request.narrow := by
  simp only [readRangeEntries, if_neg (not_le.mpr enabled), missed]
  cases readEntries decode (reader.streams request.streamName) request.maxScan
    request.pageCount request.readMin request.readMax <;> rfl

theorem readRangeEntries_uncached (decode : Fields → Except PyError (Option Message))
    (request : RangeRequest) (reader : AnnotationReader Fields Message) :
    (readRangeEntries decode request.uncached reader).1 =
      (readEntries decode (reader.streams request.streamName) request.maxScan
        request.pageCount request.rangeMin request.rangeMax).map request.narrow := by
  simp only [readRangeEntries, RangeRequest.uncached, le_refl, if_true]
  rfl

/-- Cached or not, a lookup returns the newest annotations inside the bounds. -/
def ExactLookup (decode : Fields → Except PyError (Option Message)) (request : RangeRequest)
    (reader : AnnotationReader Fields Message) : Prop :=
  let expected := newestInside decode request (reader.streams request.streamName)
  (readRangeEntries decode request reader).1 = .ok expected ∧
    (readRangeEntries decode request.uncached reader).1 = .ok expected

theorem exactLookup_iff (enabled : 0 < request.cacheTtl) (missed : reader.cached request = none) :
    ExactLookup decode request reader ↔
      BucketsKeepScan decode request (reader.streams request.streamName) := by
  rw [ExactLookup, readRangeEntries_miss decode enabled missed, readRangeEntries_uncached,
    narrow_readEntries_eq_ok, narrow_readEntries_eq_ok]
  constructor
  · rintro ⟨⟨readableWide, wide⟩, readableNarrow, within⟩
    refine ⟨?_, narrow_newestInside_iff.mp within, (narrow_wide_eq_iff within).mp wide⟩
    intro entry scanned
    exact scanned.elim (readableNarrow entry) (readableWide entry)
  · intro keeps
    have within := narrow_newestInside_iff.mpr keeps.within
    exact ⟨⟨fun entry scanned => keeps.readable entry (.inr scanned),
      (narrow_wide_eq_iff within).mpr keeps.sameEntries⟩,
      fun entry scanned => keeps.readable entry (.inl scanned), within⟩

theorem hit_eq_earlier_miss (decode : Fields → Except PyError (Option Message))
    (streams : String → StreamLog Fields) (ops : List (ReaderOp Fields))
    (enabled : 0 < request.cacheTtl)
    (hit : ((AnnotationReader.start streams).run decode ops).cached request = some cached) :
    ∃ before, before <+: ops ∧
      ((((AnnotationReader.start streams).run decode ops).now -
        ((AnnotationReader.start streams).run decode before).now : ℕ) : Int) ≤ request.cacheTtl ∧
      (readRangeEntries decode request ((AnnotationReader.start streams).run decode ops)).1 =
        (readRangeEntries decode request
          ((AnnotationReader.start streams).run decode before).emptied).1 := by
  rcases cached_eq_some hit with ⟨member, fresh⟩
  rcases cached_readAs decode streams ops member with ⟨before, isPrefix, readAt, read⟩
  refine ⟨before, isPrefix, ?_, ?_⟩
  · rw [readAt]
    exact fresh
  · rw [readEntries_key] at read
    have miss := @readRangeEntries_miss _ _ decode request
      ((AnnotationReader.start streams).run decode before).emptied enabled rfl
    have again : readEntries decode
        (((AnnotationReader.start streams).run decode before).emptied.streams
          request.streamName) request.maxScan request.pageCount request.readMin
            request.readMax = .ok cached.entries := read
    rw [miss, again]
    simp only [readRangeEntries, if_neg (not_le.mpr enabled), hit]
    rfl

/-- In every run with caching on, a miss is exact exactly if the buckets keep the scan, and
a hit is the miss of the moment its range was cached at. -/
theorem bucketed_lookup_exact_iff (decode : Fields → Except PyError (Option Message))
    (streams : String → StreamLog Fields) (ops : List (ReaderOp Fields))
    (request : RangeRequest) (enabled : 0 < request.cacheTtl) :
    let reader : AnnotationReader Fields Message :=
      (AnnotationReader.start streams).run decode ops
    (reader.cached request = none →
      (ExactLookup decode request reader ↔
        BucketsKeepScan decode request (reader.streams request.streamName))) ∧
    ((reader.cached request).isSome = true →
      ∃ before, before <+: ops ∧
        let earlier := (AnnotationReader.start streams).run decode before
        ((reader.now - earlier.now : ℕ) : Int) ≤ request.cacheTtl ∧
          (readRangeEntries decode request reader).1 =
            (readRangeEntries decode request earlier.emptied).1) := by
  refine ⟨fun missed => exactLookup_iff enabled missed, ?_⟩
  intro isHit
  rcases Option.isSome_iff_exists.mp isHit with ⟨_, hit⟩
  exact hit_eq_earlier_miss decode streams ops enabled hit

/-- Two annotations of one bucket; the bounds end before the newer one. -/
def edgeRequest (maxScan : Int) : RangeRequest :=
  { streamName := "frames", maxScan, pageCount := 10, rangeMin := .least
    rangeMax := .at 5 (some 999999) false, cacheTtl := 1, cacheBucketMs := 10
    cacheMaxEntries := 64 }

def edgeLog : StreamLog Unit :=
  { entries := [(streamId 5 0, ()), (streamId 7 0, ())] }

def decodeUnit : Unit → Except PyError (Option Unit) := fun _ => .ok (some ())

def edgeReader : AnnotationReader Unit Unit := AnnotationReader.start fun _ => edgeLog

theorem bucketed_lookup_exact_start : ExactLookup decodeUnit (edgeRequest 2) edgeReader := by
  refine ((bucketed_lookup_exact_iff decodeUnit (fun _ => edgeLog) [] (edgeRequest 2)
    (by decide)).1 rfl).mpr ⟨fun entry _ => ⟨_, rfl⟩, ?_, ?_⟩
  · intro entry _ scanned
    exact ⟨fun below => below.1 rfl, scanned.2.1.2⟩
  · have same : ∀ entry ∈ edgeLog.entries,
        StreamIdWithinBounds (edgeRequest 2).rangeMin (edgeRequest 2).rangeMax entry.1 →
          (Scanned edgeLog 2 (edgeRequest 2).rangeMin (edgeRequest 2).rangeMax entry ↔
            Scanned edgeLog 2 (edgeRequest 2).readMin (edgeRequest 2).readMax entry) := by
      decide
    intro entry _ inside
    by_cases inLog : entry ∈ edgeLog.entries
    · exact same entry inLog inside
    · exact ⟨fun scanned => absurd scanned.1 inLog, fun scanned => absurd scanned.1 inLog⟩

theorem bucket_edge_hides_entry :
    edgeReader.cached (edgeRequest 1) = none ∧
      (readRangeEntries decodeUnit (edgeRequest 1) edgeReader).1 = .ok [] ∧
      (readRangeEntries decodeUnit (edgeRequest 1).uncached edgeReader).1 =
        .ok [(streamId 5 0, ())] ∧
      ¬ExactLookup decodeUnit (edgeRequest 1) edgeReader := by
  have bucketed : (readRangeEntries decodeUnit (edgeRequest 1) edgeReader).1 = .ok [] := by
    rw [readRangeEntries_miss decodeUnit (by decide) rfl, readEntries_eq]
    decide +kernel
  have plain : (readRangeEntries decodeUnit (edgeRequest 1).uncached edgeReader).1 =
      .ok [(streamId 5 0, ())] := by
    rw [readRangeEntries_uncached, readEntries_eq]
    decide +kernel
  refine ⟨rfl, bucketed, plain, ?_⟩
  rintro ⟨hit, off⟩
  rw [← off, bucketed, plain] at hit
  cases hit

end VideoAnalysis.Clip
