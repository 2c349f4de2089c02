import VideoAnalysis.Foundation.TopSelection
import VideoAnalysis.Gallery.SyncOutbox

/-! # The routes of a gallery search

The search in the database, the search in the vector index with its rerank from the
database, the choice between the two and the batch of searches. Both services order
rows of equal similarity as they like.
-/

namespace VideoAnalysis.Gallery

open Foundation Python

structure SearchRequest (Score : Type) where
  embedding : List Double
  topK : Int
  minSimilarity : Option Score
  personIds : Option (List Nat)

structure ResultRow (Score : Type) where
  id : Nat
  personId : Nat
  personName : String
  externalPersonId : Option String
  sourceType : Option String
  embeddingModel : String
  isPrimary : Bool
  quality : Option Double
  similarity : Score
deriving DecidableEq

/-- A point that the index returns. -/
structure PointHit (Score : Type) where
  id : Nat
  payload : GalleryPayload
  score : Score

/-- The cosine and the two services: what the database returns of rows ordered by
distance with a limit, and the index of the points that pass the filter. -/
structure VectorServices (Score : Type) [LinearOrder Score] where
  cosine : List Double → List Double → Score
  orderByLimit : List (ResultRow Score) → Nat → List (ResultRow Score)
  orderByLimit_isTop : ∀ rows limit,
    IsTop ResultRow.similarity limit rows (orderByLimit rows limit)
  queryPoints : List (PointHit Score) → Nat → Option (List (PointHit Score))
  queryPoints_isTop : ∀ points limit hits, queryPoints points limit = some hits →
    IsTop PointHit.score limit points hits
  hasBatch : Bool
  queryBatchPoints : List (List (PointHit Score) × Nat) → Option (List (List (PointHit Score)))
  queryBatchPoints_isTop : ∀ queries results, queryBatchPoints queries = some results →
    List.Forall₂ (fun query hits => IsTop PointHit.score query.2 query.1 hits) queries results

structure QdrantSettings where
  candidateMultiplier : Int
  minCandidates : Int
  exactRerankEnabled : Bool
  fallbackToPgvector : Bool
  batchQueryEnabled : Bool

inductive SearchError where
  | valueError
  | indexError
  | serviceError

/-! ## What the routes share -/

def squareSum (vector : List Double) : ℚ :=
  (vector.map fun element => match element with
    | .finite _ magnitude => magnitude ^ 2
    | .infinite _ | .nan => 0).sum

/-- `_validate_query_embedding`, the norm between 0.90 and 1.10. -/
def validQueryEmbedding (embedding : List Double) : Bool :=
  embedding.length = 512 && embedding.all Double.isFinite &&
    decide ((9 / 10) ^ 2 ≤ squareSum embedding) && decide (squareSum embedding ≤ (11 / 10) ^ 2)

def ofPersons (personIds : Option (List Nat)) (personId : Nat) : Bool :=
  match personIds with
  | none => true
  | some ids => ids.contains personId

/-- The active rows with an embedding that belong to an active person. -/
def Database.activeRows (db : Database) : List (Nat × GalleryRow × Person) :=
  db.gallery.entries.filterMap fun entry =>
    match db.persons.get entry.2.personId with
    | none => none
    | some person =>
      if person.isActive && entry.2.isActive && entry.2.embedding.isSome then
        some (entry.1, entry.2, person)
      else none

variable {Score : Type} [LinearOrder Score]

def clampTopK (topK : Int) : Int := max 1 (min topK 100)

namespace SearchRequest

variable (request : SearchRequest Score)

def reaches (similarity : Score) : Bool :=
  match request.minSimilarity with
  | none => true
  | some threshold => threshold ≤ similarity

def limit : Nat := (clampTopK request.topK).toNat

end SearchRequest

namespace VectorServices

variable (services : VectorServices Score)

def resultOf (query : List Double) (found : Nat × GalleryRow × Person) : ResultRow Score where
  id := found.1
  personId := found.2.1.personId
  personName := found.2.2.name
  externalPersonId := found.2.2.externalPersonId
  sourceType := found.2.1.sourceType
  embeddingModel := found.2.1.embeddingModel
  isPrimary := found.2.1.isPrimary
  quality := found.2.1.quality
  similarity := services.cosine query (found.2.1.embedding.getD [])

/-! ## search_gallery of the pgvector store -/

/-- The rows that the `WHERE` clause leaves. -/
def matchingRows (db : Database) (request : SearchRequest Score) : List (ResultRow Score) :=
  ((db.activeRows.filter fun found => ofPersons request.personIds found.2.1.personId).map
    (services.resultOf request.embedding)).filter fun row => request.reaches row.similarity

variable [Zero Score] [One Score]

def pgvectorSearch (db : Database) (request : SearchRequest Score) :
    Except SearchError (List (ResultRow Score)) :=
  if !validQueryEmbedding request.embedding then .error .valueError
  else if request.minSimilarity.any fun threshold => !(0 ≤ threshold && threshold ≤ 1) then
    .error .valueError
  else if request.personIds = some [] then .ok []
  else .ok (services.orderByLimit (services.matchingRows db request) request.limit)

/-! ## search_gallery of the Qdrant store -/

variable (settings : QdrantSettings)

def candidateLimit (topK : Int) : Int :=
  max (topK * max 1 settings.candidateMultiplier) (max topK settings.minCandidates)

/-- The points that pass `build_qdrant_gallery_filter`, with their scores. -/
def filteredPoints (points : Dict Nat Point) (request : SearchRequest Score) :
    List (PointHit Score) :=
  (points.entries.filter fun entry =>
    entry.2.payload.isActive && entry.2.payload.embeddingModel = "adaface" &&
      ofPersons request.personIds entry.2.payload.personId).map fun entry =>
        ⟨entry.1, entry.2.payload, services.cosine request.embedding entry.2.vector⟩

def candidateQuery (points : Dict Nat Point) (request : SearchRequest Score) :
    List (PointHit Score) × Nat :=
  (services.filteredPoints points request,
    (candidateLimit settings (clampTopK request.topK)).toNat)

def fetchCandidateRows (db : Database) (candidateIds : List Nat)
    (personIds : Option (List Nat)) : List (Nat × GalleryRow × Person) :=
  db.activeRows.filter fun found =>
    candidateIds.contains found.1 && ofPersons personIds found.2.1.personId

/-- `_exact_rerank_from_rows`. -/
def rerankFromRows (request : SearchRequest Score) (hits : List (PointHit Score))
    (rows : List (Nat × GalleryRow × Person)) : List (ResultRow Score) :=
  let reranked := hits.filterMap fun hit =>
    match rows.find? fun row => row.1 = hit.id with
    | none => none
    | some row =>
      if ofPersons request.personIds row.2.1.personId then
        let result := services.resultOf request.embedding row
        if request.reaches result.similarity then some result else none
      else none
  (reranked.mergeSort fun first second => decide (second.similarity ≤ first.similarity)).take
    request.limit

/-- `_qdrant_hits_to_gallery_rows` with the threshold and the limit. -/
def rowsOfHits (request : SearchRequest Score) (hits : List (PointHit Score)) :
    List (ResultRow Score) :=
  let rows := hits.map fun hit =>
    { id := hit.payload.galleryEmbeddingId
      personId := hit.payload.personId
      personName := hit.payload.personName
      externalPersonId := hit.payload.externalPersonId
      sourceType := hit.payload.sourceType
      embeddingModel := hit.payload.embeddingModel
      isPrimary := hit.payload.isPrimary
      quality := hit.payload.quality
      similarity := hit.score : ResultRow Score }
  let sorted := rows.mergeSort fun first second => decide (second.similarity ≤ first.similarity)
  (sorted.filter fun row => request.reaches row.similarity).take request.limit

def qdrantSearch (db : Database) (points : Dict Nat Point) (request : SearchRequest Score) :
    Except SearchError (List (ResultRow Score)) :=
  if request.personIds = some [] then .ok []
  else if !validQueryEmbedding request.embedding then .error .valueError
  else
    let query := services.candidateQuery settings points request
    match services.queryPoints query.1 query.2 with
    | some hits =>
      if settings.exactRerankEnabled then
        .ok (services.rerankFromRows request hits
          (fetchCandidateRows db (hits.map PointHit.id) request.personIds))
      else .ok (rowsOfHits request hits)
    | none =>
      if settings.fallbackToPgvector then services.pgvectorSearch db request
      else .error .serviceError

/-! ## search_gallery_batch -/

/-- The query of a request, none for an empty list of persons. -/
def prepare (request : SearchRequest Score) :
    Except SearchError (Option (SearchRequest Score)) :=
  if request.personIds = some [] then .ok none
  else if !validQueryEmbedding request.embedding then .error .valueError
  else .ok (some request)

def queryCandidates (points : Dict Nat Point) (specs : List (SearchRequest Score)) :
    Option (List (List (PointHit Score))) :=
  let queries := specs.map (services.candidateQuery settings points)
  if services.hasBatch then services.queryBatchPoints queries
  else queries.mapM fun query => services.queryPoints query.1 query.2

def place : List (Option (SearchRequest Score)) → List (List (ResultRow Score)) →
    Except SearchError (List (List (ResultRow Score)))
  | [], _ => .ok []
  | none :: rest, results => (place rest results).map ([] :: ·)
  | some _ :: rest, rows :: results => (place rest results).map (rows :: ·)
  | some _ :: _, [] => .error .indexError

def qdrantSearchBatch (db : Database) (points : Dict Nat Point)
    (requests : List (SearchRequest Score)) :
    Except SearchError (List (List (ResultRow Score))) :=
  if !settings.batchQueryEnabled then
    requests.mapM (services.qdrantSearch settings db points)
  else do
    let prepared ← requests.mapM prepare
    let specs := prepared.filterMap id
    if specs.isEmpty then return requests.map fun _ => []
    else
      match services.queryCandidates settings points specs with
      | some batches =>
        let rows := fetchCandidateRows db (batches.flatten.map PointHit.id) none
        place prepared (List.zipWith (fun spec hits =>
          if settings.exactRerankEnabled then services.rerankFromRows spec hits rows
          else rowsOfHits spec hits) specs batches)
      | none => requests.mapM (services.qdrantSearch settings db points)

/-! ## The hybrid backend -/

def hybridSearch (smallTargetThreshold : Int) (settings : QdrantSettings) (db : Database)
    (points : Dict Nat Point) (request : SearchRequest Score) :
    Except SearchError (List (ResultRow Score)) :=
  match request.personIds with
  | some personIds =>
    if personIds.length = 0 then .ok []
    else if (personIds.length : Int) ≤ max 0 smallTargetThreshold then
      services.pgvectorSearch db request
    else services.qdrantSearch settings db points request
  | none => services.qdrantSearch settings db points request

end VectorServices

end VideoAnalysis.Gallery
