import VideoAnalysis.Gallery.GallerySearch
import VideoAnalysis.Gallery.SyncConvergence

/-! # Where the routes of a gallery search agree

The index only looks at rows of the AdaFace model, the database at all of them. As long
as no row of another model matches, every route returns the best of the same rows.
-/

namespace VideoAnalysis.Gallery

open Foundation Python

/-- The index holds the points of the database, each once. -/
structure Synchronised (config : SyncConfig) (db : Database) (points : Dict Nat Point) :
    Prop where
  distinct : points.Distinct
  told : ∀ galleryId, points.get galleryId = config.pointFor db galleryId

/-! ## The active rows -/

namespace Database

variable (db : Database)

theorem mem_activeRows {found : Nat × GalleryRow × Person} :
    found ∈ db.activeRows ↔ db.sourceRow found.1 = some found.2 := by
  rcases found with ⟨galleryId, row, _⟩
  rw [sourceRow_eq_some, activeRows, List.mem_filterMap]
  constructor
  · rintro ⟨⟨other, stored⟩, member, isFound⟩
    simp only at isFound
    split at isFound
    next => cases isFound
    next owner isOwner =>
      split at isFound
      next holds =>
        cases isFound
        simp only [Bool.and_eq_true] at holds
        exact ⟨Dict.get_of_mem db.distinct member, isOwner, holds.1.2, holds.2, holds.1.1⟩
      next => cases isFound
  · rintro ⟨isRow, isPerson, rowActive, embedded, personActive⟩
    simp only at isRow isPerson rowActive embedded personActive
    exact ⟨(galleryId, row), Dict.mem_of_get isRow,
      by simp [isPerson, rowActive, embedded, personActive]⟩

theorem activeRows_ids_nodup : (db.activeRows.map Prod.fst).Nodup := by
  have sub : (db.activeRows.map Prod.fst).Sublist db.gallery.keys := by
    unfold activeRows Dict.keys
    induction db.gallery.entries with
    | nil => exact List.Sublist.refl _
    | cons entry _ induction =>
      rw [List.filterMap_cons, List.map_cons]
      split
      next => exact induction.cons _
      next found isFound =>
        have same : found.1 = entry.1 := by
          split at isFound
          next => cases isFound
          next =>
            split at isFound
            · rw [← Option.some.inj isFound]
            · cases isFound
        rw [List.map_cons, same]
        exact induction.cons_cons _
  exact db.distinct.sublist sub

theorem find_activeRows {found : Nat × GalleryRow × Person}
    {rows : List (Nat × GalleryRow × Person)} (among : rows.Sublist db.activeRows)
    (isRow : found ∈ rows) {id : Nat} (isId : found.1 = id) :
    (rows.find? fun row => row.1 = id) = some found := by
  subst isId
  have distinct := db.activeRows_ids_nodup.sublist (among.map Prod.fst)
  cases isFound : rows.find? fun row => row.1 = found.1 with
  | none =>
    rw [List.find?_eq_none] at isFound
    exact absurd (decide_eq_true rfl) (isFound found isRow)
  | some other =>
    have sameId : other.1 = found.1 := by simpa using List.find?_some isFound
    have isOther := List.mem_of_find?_eq_some isFound
    rw [List.inj_on_of_nodup_map distinct isOther isRow sameId]

end Database

theorem Synchronised.entries_perm {config : SyncConfig} {db : Database}
    {points : Dict Nat Point} (synchronised : Synchronised config db points) :
    points.entries.Perm
      (db.activeRows.map fun found => (found.1, config.pointOf found.1 found.2)) := by
  have distinct : points.entries.Nodup := List.Nodup.of_map Prod.fst synchronised.distinct
  have rowsDistinct : (db.activeRows.map fun found =>
      (found.1, config.pointOf found.1 found.2)).Nodup := by
    apply List.Nodup.of_map Prod.fst
    rw [List.map_map]
    exact db.activeRows_ids_nodup
  apply (List.perm_ext_iff_of_nodup distinct rowsDistinct).mpr
  rintro ⟨galleryId, point⟩
  rw [List.mem_map]
  constructor
  · intro member
    have found := Dict.get_of_mem synchronised.distinct member
    rw [synchronised.told, SyncConfig.pointFor, Option.map_eq_some_iff] at found
    rcases found with ⟨source, isSource, rfl⟩
    exact ⟨(galleryId, source), db.mem_activeRows.mpr isSource, rfl⟩
  · rintro ⟨found, member, isPoint⟩
    have isSource := db.mem_activeRows.mp member
    apply Dict.mem_of_get
    rw [synchronised.told, SyncConfig.pointFor, ← (Prod.mk.inj isPoint).1, isSource,
      ← (Prod.mk.inj isPoint).2, (Prod.mk.inj isPoint).1]
    rfl

/-! ## The rows of each route -/

variable {Score : Type} [LinearOrder Score]

/-- The models whose points pass the filter of the index. -/
def adafaceRow (row : GalleryRow) : Bool :=
  row.embeddingModel = "" || row.embeddingModel = "adaface"

namespace SearchRequest

theorem reaches_upward (request : SearchRequest Score) :
    Upward ResultRow.similarity fun row => request.reaches row.similarity := by
  intro low high below
  unfold reaches
  cases request.minSimilarity with
  | none => exact fun _ => rfl
  | some =>
    simp only [decide_eq_true_eq]
    exact fun above => above.trans below

end SearchRequest

namespace VectorServices

variable (services : VectorServices Score)

/-- The active rows of the asked persons that pass the filter of the index. -/
def indexedRows (db : Database) (request : SearchRequest Score) :
    List (Nat × GalleryRow × Person) :=
  db.activeRows.filter fun found =>
    adafaceRow found.2.1 && ofPersons request.personIds found.2.1.personId

def hitOf (config : SyncConfig) (query : List Double) (found : Nat × GalleryRow × Person) :
    PointHit Score :=
  ⟨found.1, config.galleryPayload found.1 found.2.1 found.2.2,
    services.cosine query (found.2.1.embedding.getD [])⟩

variable {found : Nat × GalleryRow × Person}

theorem active_of_mem {db : Database}
    (member : found ∈ db.activeRows) : found.2.1.isActive = true :=
  (db.sourceRow_eq_some.mp (db.mem_activeRows.mp member)).rowActive

variable {config : SyncConfig} {db : Database} {points : Dict Nat Point}

theorem filteredPoints_perm (synchronised : Synchronised config db points)
    (request : SearchRequest Score) :
    (services.filteredPoints points request).Perm
      ((indexedRows db request).map (services.hitOf config request.embedding)) := by
  have filtered := (synchronised.entries_perm.filter fun entry =>
    entry.2.payload.isActive && entry.2.payload.embeddingModel = "adaface" &&
      ofPersons request.personIds entry.2.payload.personId).map fun entry =>
        (⟨entry.1, entry.2.payload, services.cosine request.embedding entry.2.vector⟩ :
          PointHit Score)
  apply filtered.trans
  rw [List.filter_map, List.map_map]
  have same : db.activeRows.filter ((fun entry : Nat × Point =>
      entry.2.payload.isActive && entry.2.payload.embeddingModel = "adaface" &&
        ofPersons request.personIds entry.2.payload.personId) ∘ fun found =>
          (found.1, config.pointOf found.1 found.2)) = indexedRows db request := by
    apply List.filter_congr
    intro found member
    have isActive := active_of_mem member
    simp only [Function.comp_apply, SyncConfig.pointOf, SyncConfig.galleryPayload, isActive,
      Bool.true_and, adafaceRow]
    by_cases unnamed : found.2.1.embeddingModel = ""
    all_goals simp [unnamed]
  rw [same]
  exact List.Perm.refl _

def shown (db : Database) (query : List Double) (hit : PointHit Score) : ResultRow Score :=
  match db.activeRows.find? fun row => row.1 = hit.id with
  | some found => services.resultOf query found
  | none =>
    { id := hit.id
      personId := hit.payload.personId
      personName := hit.payload.personName
      externalPersonId := hit.payload.externalPersonId
      sourceType := hit.payload.sourceType
      embeddingModel := hit.payload.embeddingModel
      isPrimary := hit.payload.isPrimary
      quality := hit.payload.quality
      similarity := hit.score }

theorem shown_hitOf {query : List Double} (member : found ∈ db.activeRows) :
    services.shown db query (services.hitOf config query found) =
      services.resultOf query found := by
  have isId : found.1 = (services.hitOf config query found).id := rfl
  have isFound := db.find_activeRows (List.Sublist.refl _) member isId
  simp only [shown, isFound]

variable {request : SearchRequest Score}

omit [LinearOrder Score] in
theorem mem_indexedRows :
    found ∈ indexedRows db request ↔ found ∈ db.activeRows ∧ adafaceRow found.2.1 = true ∧
      ofPersons request.personIds found.2.1.personId = true := by
  simp [indexedRows, List.mem_filter]

theorem rerankFromRows_eq {hits : List (PointHit Score)}
    {rows : List (Nat × GalleryRow × Person)}
    (indexed : ∀ hit ∈ hits, ∃ found ∈ indexedRows db request,
      hit = services.hitOf config request.embedding found) (among : rows.Sublist db.activeRows)
    (fetched : ∀ found ∈ indexedRows db request,
      services.hitOf config request.embedding found ∈ hits → found ∈ rows) :
    services.rerankFromRows request hits rows =
      (((hits.map (services.shown db request.embedding)).filter fun row =>
        request.reaches row.similarity).mergeSort fun first second =>
          decide (second.similarity ≤ first.similarity)).take request.limit := by
  simp only [rerankFromRows]
  apply congrArg fun rows : List (ResultRow Score) =>
    (rows.mergeSort fun first second => decide (second.similarity ≤ first.similarity)).take
      request.limit
  rw [← List.filterMap_eq_filter, List.filterMap_map]
  apply List.filterMap_congr
  intro hit member
  rcases indexed hit member with ⟨found, isIndexed, rfl⟩
  have isRow := fetched found isIndexed member
  rw [mem_indexedRows] at isIndexed
  have isId : found.1 = (services.hitOf config request.embedding found).id := rfl
  have isFound := db.find_activeRows among isRow isId
  simp only [isFound, isIndexed.2.2, if_true, Function.comp_apply,
    services.shown_hitOf isIndexed.1]
  cases reached : request.reaches (services.resultOf request.embedding found).similarity with
  | true | false => simp [Option.guard, reached]

def indexedMatches (db : Database) (request : SearchRequest Score) : List (ResultRow Score) :=
  ((indexedRows db request).map (services.resultOf request.embedding)).filter fun row =>
    request.reaches row.similarity

omit [LinearOrder Score] in
theorem limit_le_candidateLimit (settings : QdrantSettings) (request : SearchRequest Score) :
    request.limit ≤ (candidateLimit settings (clampTopK request.topK)).toNat := by
  unfold SearchRequest.limit candidateLimit
  omega

variable {settings : QdrantSettings}

theorem rerankFromRows_isTop (synchronised : Synchronised config db points)
    {hits : List (PointHit Score)} {rows : List (Nat × GalleryRow × Person)}
    (isTop : IsTop PointHit.score (services.candidateQuery settings points request).2
      (services.candidateQuery settings points request).1 hits)
    (among : rows.Sublist db.activeRows) (fetched : ∀ found ∈ indexedRows db request,
      found.1 ∈ hits.map PointHit.id → found ∈ rows) :
    IsTop ResultRow.similarity request.limit (services.indexedMatches db request)
      (services.rerankFromRows request hits rows) := by
  have perm := services.filteredPoints_perm synchronised request
  have ofIndexed := isTop.perm perm
  have indexed : ∀ hit ∈ hits, ∃ found ∈ indexedRows db request,
      hit = services.hitOf config request.embedding found := by
    intro hit member
    rcases List.mem_map.mp (ofIndexed.subset member) with ⟨found, isIndexed, isHit⟩
    exact ⟨found, isIndexed, isHit.symm⟩
  rw [services.rerankFromRows_eq indexed among fun found isIndexed member =>
    fetched found isIndexed (List.mem_map_of_mem (f := PointHit.id) member)]
  have scores : ∀ hit ∈ (indexedRows db request).map (services.hitOf config request.embedding),
      (services.shown db request.embedding hit).similarity = hit.score := by
    intro hit member
    rcases List.mem_map.mp member with ⟨_, isIndexed, rfl⟩
    rw [services.shown_hitOf (mem_indexedRows.mp isIndexed).1]
    rfl
  have shownTop := ofIndexed.map (services.shown db request.embedding) scores
  have sameRows : ((indexedRows db request).map
      (services.hitOf config request.embedding)).map (services.shown db request.embedding) =
      (indexedRows db request).map (services.resultOf request.embedding) := by
    rw [List.map_map]
    apply List.map_congr_left
    intro found isIndexed
    exact services.shown_hitOf (mem_indexedRows.mp isIndexed).1
  rw [sameRows] at shownTop
  exact shownTop.rerank (limit_le_candidateLimit settings request) request.reaches_upward
    (isTop_mergeSort ResultRow.similarity request.limit _)

def OnlyAdaface (db : Database) (request : SearchRequest Score) : Prop :=
  ∀ found ∈ db.activeRows, ofPersons request.personIds found.2.1.personId = true →
    request.reaches (services.cosine request.embedding (found.2.1.embedding.getD [])) = true →
      adafaceRow found.2.1 = true

theorem indexedMatches_eq (only : services.OnlyAdaface db request) :
    services.indexedMatches db request = services.matchingRows db request := by
  unfold indexedMatches matchingRows indexedRows
  rw [List.filter_map, List.filter_map, List.filter_filter, List.filter_filter]
  apply congrArg
  apply List.filter_congr
  intro found member
  simp only [Function.comp_apply]
  cases reached : request.reaches (services.resultOf request.embedding found).similarity with
  | false => simp
  | true =>
    cases asked : ofPersons request.personIds found.2.1.personId with
    | false => simp
    | true => simp [only found member asked reached]

theorem matchingRows_of_no_persons (noPersons : request.personIds = some []) :
    services.matchingRows db request = [] := by
  have none : (db.activeRows.filter fun found =>
      ofPersons request.personIds found.2.1.personId) = [] := by
    rw [List.filter_eq_nil_iff]
    simp [ofPersons, noPersons]
  simp [matchingRows, none]

def Best (db : Database) (request : SearchRequest Score) (rows : List (ResultRow Score)) :
    Prop :=
  IsTop ResultRow.similarity request.limit (services.matchingRows db request) rows

theorem best_nil (noPersons : request.personIds = some []) :
    services.Best db request [] := by
  unfold Best
  rw [services.matchingRows_of_no_persons noPersons]
  exact ⟨[], List.Perm.refl _, List.Pairwise.nil, List.take_nil.symm⟩

def Answers : Prop := ∀ points limit, (services.queryPoints points limit).isSome = true

/-- The best of the indexed rows that match; of all rows, where the index is silent and
the search falls back to the database. -/
def Found (db : Database) (request : SearchRequest Score) (rows : List (ResultRow Score)) :
    Prop :=
  IsTop ResultRow.similarity request.limit (services.indexedMatches db request) rows ∨
    ¬services.Answers ∧ services.Best db request rows

theorem found_nil (noPersons : request.personIds = some []) :
    services.Found db request [] := by
  have none : indexedRows db request = [] := by
    unfold indexedRows
    rw [List.filter_eq_nil_iff]
    simp [ofPersons, noPersons]
  left
  unfold indexedMatches
  rw [none]
  exact ⟨[], List.Perm.refl _, List.Pairwise.nil, List.take_nil.symm⟩

theorem Found.best {services : VectorServices Score} {request : SearchRequest Score}
    {rows : List (ResultRow Score)} (found : services.Found db request rows)
    (only : services.OnlyAdaface db request) : services.Best db request rows := by
  rcases found with isTop | ⟨_, best⟩
  · unfold Best
    rwa [← services.indexedMatches_eq only]
  · exact best

variable [Zero Score] [One Score]

/-- A valid embedding and a threshold between zero and one. -/
structure ValidRequest (request : SearchRequest Score) : Prop where
  embedding : validQueryEmbedding request.embedding = true
  threshold : ∀ threshold, request.minSimilarity = some threshold → 0 ≤ threshold ∧ threshold ≤ 1

theorem pgvectorSearch_best (valid : ValidRequest request) :
    ∃ rows, services.pgvectorSearch db request = .ok rows ∧ services.Best db request rows := by
  have inRange : (request.minSimilarity.any fun threshold =>
      !(0 ≤ threshold && threshold ≤ 1)) = false := by
    cases given : request.minSimilarity with
    | none => rfl
    | some threshold =>
      rcases valid.threshold threshold given with ⟨low, high⟩
      simp [low, high]
  simp only [pgvectorSearch, valid.embedding, inRange, Bool.not_true, Bool.false_eq_true,
    if_false]
  by_cases noPersons : request.personIds = some []
  · rw [if_pos noPersons]
    exact ⟨[], rfl, services.best_nil noPersons⟩
  · rw [if_neg noPersons]
    exact ⟨_, rfl, services.orderByLimit_isTop _ _⟩

theorem qdrantSearch_found (synchronised : Synchronised config db points)
    (reranks : settings.exactRerankEnabled = true)
    (available : settings.fallbackToPgvector = true ∨ services.Answers)
    (valid : ValidRequest request) :
    ∃ rows, services.qdrantSearch settings db points request = .ok rows ∧
      services.Found db request rows := by
  unfold qdrantSearch
  by_cases noPersons : request.personIds = some []
  · rw [if_pos noPersons]
    exact ⟨[], rfl, services.found_nil noPersons⟩
  · simp only [if_neg noPersons, valid.embedding, reranks, Bool.not_true, Bool.false_eq_true,
      if_false, if_true]
    split
    next hits answered =>
      refine ⟨_, rfl, Or.inl ?_⟩
      apply services.rerankFromRows_isTop synchronised
        (services.queryPoints_isTop _ _ _ answered) List.filter_sublist
      intro found isIndexed member
      rcases mem_indexedRows.mp isIndexed with ⟨isRow, _, asked⟩
      apply List.mem_filter.mpr
      exact ⟨isRow, by simp only [asked, Bool.and_true, List.contains_iff_mem, member]⟩
    next silent =>
      have unanswered : ¬services.Answers := by
        intro answers
        have answered := answers (services.candidateQuery settings points request).1
          (services.candidateQuery settings points request).2
        rw [silent] at answered
        cases answered
      have fallback := available.resolve_right unanswered
      rw [if_pos fallback]
      rcases services.pgvectorSearch_best valid with ⟨rows, isRows, best⟩
      exact ⟨rows, isRows, Or.inr ⟨unanswered, best⟩⟩

theorem hybridSearch_route (settings : QdrantSettings) (smallTargetThreshold : Int)
    (db : Database) (points : Dict Nat Point) (request : SearchRequest Score) :
    services.hybridSearch smallTargetThreshold settings db points request =
        services.pgvectorSearch db request ∨
      services.hybridSearch smallTargetThreshold settings db points request =
        services.qdrantSearch settings db points request := by
  unfold hybridSearch
  split
  next personIds asked =>
    split
    next noPersons =>
      have isEmpty : request.personIds = some [] := by
        rw [asked, List.length_eq_zero_iff.mp noPersons]
      right
      simp [qdrantSearch, isEmpty]
    next =>
      split
      · exact Or.inl rfl
      · exact Or.inr rfl
  next => exact Or.inr rfl

/-! ## Batches -/

theorem mapM_ok {Request Result : Type} {route : Request → Except SearchError Result}
    {good : Request → Result → Prop} {requests : List Request}
    (each : ∀ request ∈ requests, ∃ result, route request = .ok result ∧ good request result) :
    ∃ results, requests.mapM route = .ok results ∧ List.Forall₂ good requests results := by
  induction requests with
  | nil => exact ⟨[], rfl, .nil⟩
  | cons _ _ induction =>
    rcases List.forall_mem_cons.mp each with ⟨here, others⟩
    rcases here with ⟨result, isResult, isGood⟩
    rcases induction others with ⟨results, areResults, areGood⟩
    refine ⟨result :: results, ?_, .cons isGood areGood⟩
    rw [List.mapM_cons, isResult, areResults]
    rfl

/-- The requests that have persons to look for, or look for all. -/
def asks (request : SearchRequest Score) : Option (SearchRequest Score) :=
  if request.personIds = some [] then none else some request

theorem prepare_eq (valid : ValidRequest request) :
    prepare request = .ok (asks request) := by
  unfold prepare asks
  by_cases noPersons : request.personIds = some []
  · simp [noPersons]
  · simp [noPersons, valid.embedding]

variable {requests : List (SearchRequest Score)}

theorem mapM_prepare (valid : ∀ request ∈ requests, ValidRequest request) :
    requests.mapM prepare = .ok (requests.map asks) := by
  induction requests with
  | nil => rfl
  | cons _ _ induction =>
    rcases List.forall_mem_cons.mp valid with ⟨here, others⟩
    rw [List.mapM_cons, prepare_eq here, induction others]
    rfl

omit [LinearOrder Score] [Zero Score] [One Score] in
theorem place_ok {good : SearchRequest Score → List (ResultRow Score) → Prop}
    {results : List (List (ResultRow Score))}
    (empty : ∀ request, request.personIds = some [] → good request [])
    (each : List.Forall₂ good (requests.filterMap asks) results) :
    ∃ placed, place (requests.map asks) results = .ok placed ∧
      List.Forall₂ good requests placed := by
  induction requests generalizing results with
  | nil => exact ⟨[], rfl, .nil⟩
  | cons request _ induction =>
    by_cases noPersons : request.personIds = some []
    · have asked : asks request = none := if_pos noPersons
      rw [List.filterMap_cons_none asked] at each
      rcases induction each with ⟨placed, isPlaced, areGood⟩
      refine ⟨[] :: placed, ?_, .cons (empty request noPersons) areGood⟩
      rw [List.map_cons, asked, place, isPlaced]
      rfl
    · have asked : asks request = some request := if_neg noPersons
      rw [List.filterMap_cons_some asked] at each
      cases each with
      | cons isGood others =>
        rcases induction others with ⟨placed, isPlaced, areGood⟩
        refine ⟨_ :: placed, ?_, .cons isGood areGood⟩
        rw [List.map_cons, asked, place, isPlaced]
        rfl

omit [Zero Score] [One Score] in
theorem queryCandidates_isTop {specs : List (SearchRequest Score)}
    {batches : List (List (PointHit Score))}
    (answered : services.queryCandidates settings points specs = some batches) :
    List.Forall₂ (fun spec hits =>
      IsTop PointHit.score (services.candidateQuery settings points spec).2
        (services.candidateQuery settings points spec).1 hits) specs batches := by
  unfold queryCandidates at answered
  simp only at answered
  split at answered
  next => exact List.forall₂_map_left_iff.mp (services.queryBatchPoints_isTop _ _ answered)
  next =>
    rw [List.mapM_map] at answered
    induction specs generalizing batches with
    | nil =>
      cases answered
      exact .nil
    | cons _ _ induction =>
      rw [List.mapM_cons] at answered
      rcases Option.bind_eq_some_iff.mp answered with ⟨_, isHits, later⟩
      rcases Option.bind_eq_some_iff.mp later with ⟨_, areOthers, isBatches⟩
      cases isBatches
      exact .cons (services.queryPoints_isTop _ _ _ isHits) (induction areOthers)

omit [LinearOrder Score] [Zero Score] [One Score] in
theorem zipWith_good {Hits : Type} {settled : SearchRequest Score → Hits → Prop}
    {good : SearchRequest Score → List (ResultRow Score) → Prop}
    {specs : List (SearchRequest Score)} {batches : List Hits}
    {rerank : SearchRequest Score → Hits → List (ResultRow Score)}
    (each : List.Forall₂ settled specs batches)
    (reranked : ∀ spec ∈ specs, ∀ hits ∈ batches, settled spec hits →
      good spec (rerank spec hits)) :
    List.Forall₂ good specs (List.zipWith rerank specs batches) := by
  induction each with
  | nil => exact .nil
  | cons isSettled _ induction =>
    refine .cons (reranked _ List.mem_cons_self _ List.mem_cons_self isSettled) ?_
    exact induction fun spec isSpec hits areHits =>
      reranked spec (List.mem_cons_of_mem _ isSpec) hits (List.mem_cons_of_mem _ areHits)

theorem qdrantSearchBatch_found (synchronised : Synchronised config db points)
    (reranks : settings.exactRerankEnabled = true)
    (available : settings.fallbackToPgvector = true ∨ services.Answers)
    (valid : ∀ request ∈ requests, ValidRequest request) :
    ∃ results, services.qdrantSearchBatch settings db points requests = .ok results ∧
      List.Forall₂ (services.Found db) requests results := by
  have singly : ∃ results,
      requests.mapM (services.qdrantSearch settings db points) = .ok results ∧
        List.Forall₂ (services.Found db) requests results :=
    mapM_ok fun request member => services.qdrantSearch_found synchronised reranks available
      (valid request member)
  unfold qdrantSearchBatch
  cases batched : settings.batchQueryEnabled with
  | false => exact singly
  | true =>
    simp only [Bool.not_true, Bool.false_eq_true, if_false, mapM_prepare valid, reranks, if_true]
    change ∃ results, (if ((requests.map asks).filterMap id).isEmpty = true then _ else _) = _ ∧ _
    have specs : (requests.map asks).filterMap id = requests.filterMap asks := by
      rw [List.filterMap_map]
      rfl
    rw [specs]
    split
    next isEmpty =>
      have noSpecs : requests.filterMap asks = [] := List.isEmpty_iff.mp isEmpty
      refine ⟨_, rfl, ?_⟩
      apply List.forall₂_map_right_iff.mpr
      apply List.forall₂_same.mpr
      intro request member
      apply services.found_nil
      have unasked := List.filterMap_eq_nil_iff.mp noSpecs request member
      by_contra hasPersons
      simp [asks, hasPersons] at unasked
    next =>
      split
      next batches answered =>
        apply place_ok (fun request => services.found_nil)
        apply zipWith_good (services.queryCandidates_isTop answered)
        intro spec isSpec hits areHits isTop
        rcases List.mem_filterMap.mp isSpec with ⟨request, _, asked⟩
        have same : request = spec := by
          unfold asks at asked
          split at asked
          · cases asked
          · exact Option.some.inj asked
        subst same
        left
        apply services.rerankFromRows_isTop synchronised isTop List.filter_sublist
        intro found isIndexed isHit
        apply List.mem_filter.mpr
        refine ⟨(mem_indexedRows.mp isIndexed).1, ?_⟩
        have among : found.1 ∈ batches.flatten.map PointHit.id := by
          rcases List.mem_map.mp isHit with ⟨hit, isHit, isId⟩
          exact List.mem_map.mpr ⟨hit, List.mem_flatten.mpr ⟨hits, areHits, isHit⟩, isId⟩
        simp only [ofPersons, Bool.and_true, List.contains_iff_mem, among]
      next => exact singly

end VectorServices

/-- For every batch of valid requests the index and its batch return the same rows with
the same similarities, up to ties, and the hybrid backend what one of the stores returns.
All the routes do, where no matching row is of another model. -/
theorem galleryRoutes_agree {Score : Type} [LinearOrder Score] [Zero Score] [One Score]
    (services : VectorServices Score) (settings : QdrantSettings) (smallTargetThreshold : Int)
    (config : SyncConfig) (db : Database) (points : Dict Nat Point)
    (requests : List (SearchRequest Score)) (synchronised : Synchronised config db points)
    (reranks : settings.exactRerankEnabled = true)
    (available : settings.fallbackToPgvector = true ∨ services.Answers)
    (valid : ∀ request ∈ requests, VectorServices.ValidRequest request) :
    ∃ batch, services.qdrantSearchBatch settings db points requests = .ok batch ∧
      List.Forall₂ (fun request rows => ∃ pgvector qdrant hybrid,
        services.pgvectorSearch db request = .ok pgvector ∧
        services.qdrantSearch settings db points request = .ok qdrant ∧
        services.hybridSearch smallTargetThreshold settings db points request = .ok hybrid ∧
        (hybrid = pgvector ∨ hybrid = qdrant) ∧
        (services.Answers → SameUpToTies ResultRow.similarity request.limit qdrant rows) ∧
        (services.OnlyAdaface db request →
          SameUpToTies ResultRow.similarity request.limit pgvector qdrant ∧
          SameUpToTies ResultRow.similarity request.limit pgvector hybrid ∧
          SameUpToTies ResultRow.similarity request.limit pgvector rows)) requests batch := by
  rcases services.qdrantSearchBatch_found synchronised reranks available valid with
    ⟨batch, isBatch, areFound⟩
  refine ⟨batch, isBatch, ?_⟩
  apply List.forall₂_iff_zip.mpr
  refine ⟨areFound.length_eq, fun {request rows} member => ?_⟩
  have found := (List.forall₂_iff_zip.mp areFound).2 member
  have isValid := valid request (List.of_mem_zip member).1
  rcases services.pgvectorSearch_best isValid with ⟨pgvector, isPgvector, best⟩
  rcases services.qdrantSearch_found synchronised reranks available isValid with
    ⟨qdrant, isQdrant, qdrantFound⟩
  have sameIndex : services.Answers →
      SameUpToTies ResultRow.similarity request.limit qdrant rows := by
    intro answers
    have qdrantTop := qdrantFound.resolve_right fun silent => silent.1 answers
    exact qdrantTop.sameUpToTies (found.resolve_right fun silent => silent.1 answers)
  rcases services.hybridSearch_route settings smallTargetThreshold db points request with
    isHybrid | isHybrid
  · refine ⟨pgvector, qdrant, pgvector, isPgvector, isQdrant, isHybrid.trans isPgvector,
      Or.inl rfl, sameIndex, fun only => ?_⟩
    exact ⟨best.sameUpToTies (qdrantFound.best only), best.sameUpToTies best,
      best.sameUpToTies (found.best only)⟩
  · refine ⟨pgvector, qdrant, qdrant, isPgvector, isQdrant, isHybrid.trans isQdrant,
      Or.inr rfl, sameIndex, fun only => ?_⟩
    exact ⟨best.sameUpToTies (qdrantFound.best only), best.sameUpToTies (qdrantFound.best only),
      best.sameUpToTies (found.best only)⟩

def dotProduct : List Double → List Double → ℚ
  | .finite negative magnitude :: rest, .finite negative' magnitude' :: rest' =>
    (if negative = negative' then magnitude * magnitude' else -(magnitude * magnitude')) +
      dotProduct rest rest'
  | _ :: rest, _ :: rest' => dotProduct rest rest'
  | _, _ => 0

def best {Row : Type} (score : Row → ℚ) (rows : List Row) (limit : Nat) : List Row :=
  (rows.mergeSort fun first second => decide (score second ≤ score first)).take limit

def exactServices : VectorServices ℚ where
  cosine := dotProduct
  orderByLimit := best ResultRow.similarity
  orderByLimit_isTop rows limit := isTop_mergeSort ResultRow.similarity limit rows
  queryPoints points limit := some (best PointHit.score points limit)
  queryPoints_isTop := by
    rintro points limit _ ⟨⟩
    exact isTop_mergeSort PointHit.score limit points
  hasBatch := true
  queryBatchPoints queries := some (queries.map fun query => best PointHit.score query.1 query.2)
  queryBatchPoints_isTop := by
    rintro queries _ ⟨⟩
    apply List.forall₂_map_right_iff.mpr
    exact List.forall₂_same.mpr fun query _ => isTop_mergeSort PointHit.score query.2 query.1

def unitVector : List Double := .finite false 1 :: List.replicate 511 (.finite false 0)

def portraitOf (embeddingModel : String) : GalleryRow :=
  { portrait true with embeddingModel, embedding := some unitVector }

def galleryOf (embeddingModel : String) : Database where
  persons := ⟨[(1, activePerson)]⟩
  gallery := ⟨[(7, portraitOf embeddingModel)]⟩
  distinct := List.nodup_singleton 7
  references := by
    intro galleryId row stored
    simp only [Dict.get, Dict.lookup] at stored
    split at stored
    · cases stored
      rfl
    · cases stored

def galleryPoints (embeddingModel : String) : Dict Nat Point :=
  ⟨[(7, syncDefaults.pointOf 7 (portraitOf embeddingModel, activePerson))]⟩

theorem galleryPoints_synchronised (embeddingModel : String) :
    Synchronised syncDefaults (galleryOf embeddingModel) (galleryPoints embeddingModel) := by
  refine ⟨List.nodup_singleton 7, fun galleryId => ?_⟩
  by_cases isRow : galleryId = 7
  · subst isRow
    rfl
  · simp [SyncConfig.pointFor, Database.sourceRow, galleryOf, galleryPoints, Dict.get,
      Dict.lookup, Ne.symm isRow]

def probe : SearchRequest ℚ where
  embedding := unitVector
  topK := 1
  minSimilarity := some (1 / 2)
  personIds := none

def searchDefaults : QdrantSettings where
  candidateMultiplier := 3
  minCandidates := 20
  exactRerankEnabled := true
  fallbackToPgvector := true
  batchQueryEnabled := true

theorem probe_valid : VectorServices.ValidRequest probe := by
  refine ⟨by decide +kernel, ?_⟩
  rintro threshold ⟨⟩
  norm_num

theorem galleryRoutes_agree_adaface : ∃ batch,
    exactServices.qdrantSearchBatch searchDefaults (galleryOf "adaface")
      (galleryPoints "adaface") [probe] = .ok batch ∧
    ∀ rows ∈ batch, ∃ pgvector,
      exactServices.pgvectorSearch (galleryOf "adaface") probe = .ok pgvector ∧
        SameUpToTies ResultRow.similarity probe.limit pgvector rows := by
  have only : exactServices.OnlyAdaface (galleryOf "adaface") probe := by
    intro found member _ _
    rw [List.mem_singleton.mp member]
    rfl
  have valid : ∀ request ∈ [probe], VectorServices.ValidRequest request := by
    intro request member
    rw [List.mem_singleton.mp member]
    exact probe_valid
  rcases galleryRoutes_agree exactServices searchDefaults 1 syncDefaults (galleryOf "adaface")
    (galleryPoints "adaface") [probe] (galleryPoints_synchronised "adaface") rfl (Or.inl rfl)
    valid with ⟨batch, isBatch, agree⟩
  refine ⟨batch, isBatch, fun rows member => ?_⟩
  rcases List.forall₂_cons_left_iff.mp agree with ⟨_, _, here, none, rfl⟩
  cases none
  rw [List.mem_singleton.mp member]
  rcases here with ⟨pgvector, _, _, isPgvector, _, _, _, _, same⟩
  exact ⟨pgvector, isPgvector, (same only).2.2⟩

/-- A row of another model is found in the database and not in the index. -/
theorem otherModel_only_in_pgvector : ∃ row,
    Synchronised syncDefaults (galleryOf "arcface") (galleryPoints "arcface") ∧
    VectorServices.ValidRequest probe ∧
    exactServices.pgvectorSearch (galleryOf "arcface") probe = .ok [row] ∧
    exactServices.qdrantSearch searchDefaults (galleryOf "arcface") (galleryPoints "arcface")
      probe = .ok [] ∧
    ¬SameUpToTies ResultRow.similarity probe.limit [row] [] := by
  refine ⟨exactServices.resultOf unitVector (7, portraitOf "arcface", activePerson),
    galleryPoints_synchronised "arcface", probe_valid, ?_, ?_, ?_⟩
  · have matching : exactServices.matchingRows (galleryOf "arcface") probe =
        [exactServices.resultOf unitVector (7, portraitOf "arcface", activePerson)] := by
      decide +kernel
    have inRange : (probe.minSimilarity.any fun threshold =>
        !(0 ≤ threshold && threshold ≤ 1)) = false := by decide +kernel
    have asksAll : probe.personIds ≠ some [] := by simp [probe]
    simp only [VectorServices.pgvectorSearch, matching, probe_valid.embedding, inRange,
      if_neg asksAll]
    simp [exactServices, best, SearchRequest.limit, clampTopK, probe]
  · have noPoints : exactServices.candidateQuery searchDefaults (galleryPoints "arcface") probe =
        ([], 20) := rfl
    have asksAll : probe.personIds ≠ some [] := by simp [probe]
    simp only [VectorServices.qdrantSearch, noPoints, probe_valid.embedding, if_neg asksAll]
    simp [exactServices, best, VectorServices.rerankFromRows, searchDefaults]
  · rintro ⟨scores, _, _⟩
    cases scores

end VideoAnalysis.Gallery
