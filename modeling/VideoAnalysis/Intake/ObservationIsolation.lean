import VideoAnalysis.Intake.EventIsolation
import VideoAnalysis.Intake.FaceObservations

/-! # When the batches keep their entries apart

The face worker converts and inserts all valid observations of a batch in one
statement, so an observation with a field that does not convert takes the others with
it. What raises before that is a part of the validation.
-/

namespace VideoAnalysis.Intake

open Foundation Python
open FaceConfig (insertAll outcomesOf parse parseAll processBatch validOf)

/-! ## Observations that do no harm -/

def Oversized (value : Json) : Prop := value.toFloat = .error .overflowError

theorem isFiniteElement_returns_iff (element : Json) :
    (∃ finite, isFiniteElement element = .ok finite) ↔ ¬Oversized element := by
  unfold Oversized
  cases element with
  | int value =>
    simp only [isFiniteElement, Json.toFloat]
    cases converted : Double.ofInt value with
    | ok => simp [Except.map]
    | error => simp [Except.map, Double.ofInt_error converted]
  | str =>
    simp only [isFiniteElement, Json.toFloat, Except.ok.injEq, exists_eq', true_iff]
    intro raised
    exact absurd (floatOfText_error raised) (by simp)
  | _ => simp [isFiniteElement, Json.toFloat]

def HarmlessElements : List Json → Prop
  | [] => True
  | element :: rest =>
    ¬Oversized element ∧ (isFiniteElement element = .ok true → HarmlessElements rest)

theorem allFiniteElements_returns_iff (elements : List Json) :
    (∃ finite, allFiniteElements elements = .ok finite) ↔ HarmlessElements elements := by
  induction elements with
  | nil => simp [allFiniteElements, HarmlessElements]
  | cons _ _ induction =>
    unfold allFiniteElements HarmlessElements
    rw [bind_returns_iff, ← isFiniteElement_returns_iff, ← induction]
    constructor
    · rintro ⟨finite, isFinite, returned⟩
      refine ⟨⟨finite, isFinite⟩, ?_⟩
      intro isTrue
      rw [isTrue] at isFinite
      rw [← Except.ok.inj isFinite] at returned
      exact returned
    · rintro ⟨⟨finite, isFinite⟩, returned⟩
      refine ⟨finite, isFinite, ?_⟩
      cases finite with
      | false => exact ⟨false, rfl⟩
      | true => exact returned isFinite

theorem validNorm_returns_iff (norm : Json) :
    (∃ valid, validNorm norm = .ok valid) ↔ ¬Oversized norm := by
  unfold validNorm Oversized
  cases converted : norm.toFloat with
  | ok => simp
  | error =>
    rcases Json.toFloat_error converted with kind | kind | kind
    · simp [kind]
    all_goals simp [kind, PyError.isValueError]

/-- The embedding does no harm, its dimension converts where the embedding has only
finite numbers, and its norm is not oversized where the dimension is the right one. -/
def HarmlessObservation (obs : Payload) : Prop :=
  ∀ elements, Json.lookup obs "embedding" = some (.list elements) →
    elements.length = embeddingDim →
      HarmlessElements elements ∧
        (allFiniteElements elements = .ok true →
          ∀ dim, given (Json.lookup obs "embedding_dim") = some dim →
            ∃ number, dim.toInt = .ok number ∧
              (number = embeddingDim →
                ∀ norm, given (Json.lookup obs "embedding_norm") = some norm → ¬Oversized norm))

theorem validateEmbedding_returns_iff (obs : Payload) :
    (∃ valid, validateEmbedding obs = .ok valid) ↔ HarmlessObservation obs := by
  unfold validateEmbedding HarmlessObservation
  cases Json.lookup obs "embedding" with
  | none => simp [pure, Except.pure]
  | some value =>
    cases value with
    | list elements =>
      simp only [Option.some.injEq, Json.list.injEq, forall_eq']
      by_cases sized : elements.length = embeddingDim
      · rw [if_neg (not_not.2 sized), bind_returns_iff, ← allFiniteElements_returns_iff]
        simp only [sized, true_implies]
        cases allFiniteElements elements with
        | error => simp
        | ok finite =>
          cases finite with
          | false => simp [pure, Except.pure]
          | true =>
            simp only [Except.ok.injEq, exists_eq_left', if_true, exists_eq',
              true_implies, true_and]
            cases given (Json.lookup obs "embedding_dim") with
            | none => simp [pure, Except.pure]
            | some =>
              simp only [Option.some.injEq, forall_eq', bind_returns_iff]
              apply exists_congr
              intro number
              apply and_congr_right
              intro _
              by_cases right : number = embeddingDim
              · simp only [right, ne_eq, not_true_eq_false, if_false, true_implies]
                cases given (Json.lookup obs "embedding_norm") with
                | none => simp [pure, Except.pure]
                | some => simp [← validNorm_returns_iff]
              · simp [right, pure, Except.pure]
      · simp [sized, pure, Except.pure]
    | _ => simp [pure, Except.pure]

/-- An entry that does not raise in the loop. -/
def HarmlessFace (config : FaceConfig) (fields : Fields) : Prop :=
  Decodes config.recursionLimit fields ∧
    ∀ obs, config.parseObservation fields = .ok (some obs) → HarmlessObservation obs

theorem parse_returns_iff (config : FaceConfig) (fields : Fields) :
    (∃ parsed, config.parse fields = .ok parsed) ↔ HarmlessFace config fields := by
  unfold parse HarmlessFace
  rw [bind_returns_iff, ← parseEntry_returns_iff config.recursionLimit
    ["source_observation_id", "camera_id", "track_id"] fields]
  change _ ↔ (∃ parsed, config.parseObservation fields = .ok parsed) ∧ _
  cases config.parseObservation fields with
  | error => simp
  | ok parsed =>
    cases parsed with
    | none => simp [pure, Except.pure]
    | some obs =>
      simp only [Except.ok.injEq, exists_eq_left', exists_eq', true_and, Option.some.injEq,
        forall_eq', ← validateEmbedding_returns_iff]
      cases validateEmbedding obs with
      | error => simp [bind, Except.bind]
      | ok valid => cases valid <;> simp [bind, Except.bind, pure, Except.pure]

/-! ## The batch -/

theorem parseAll_raised_iff (config : FaceConfig) (entries : List Fields) :
    (config.parseAll entries).2 = none ↔ ∀ entry ∈ entries, HarmlessFace config entry := by
  induction entries with
  | nil => simp [parseAll]
  | cons entry _ induction =>
    rw [List.forall_mem_cons, ← parse_returns_iff]
    unfold parseAll
    cases config.parse entry with
    | error => simp
    | ok => simp [induction]

theorem mem_parseAll {config : FaceConfig} {entries : List Fields}
    (returned : (config.parseAll entries).2 = none) (parsed : FaceConfig.Parsed) :
    parsed ∈ (config.parseAll entries).1 ↔
      ∃ entry ∈ entries, config.parse entry = .ok parsed := by
  induction entries with
  | nil => simp [parseAll]
  | cons entry _ induction =>
    unfold parseAll at returned ⊢
    cases isParsed : config.parse entry with
    | error => simp [isParsed] at returned
    | ok =>
      simp only [isParsed] at returned
      simp [induction returned, isParsed, eq_comm]

theorem mem_validOf (obs : Payload) (parsed : List FaceConfig.Parsed) :
    obs ∈ validOf parsed ↔ .valid obs ∈ parsed := by
  induction parsed with
  | nil => simp [validOf]
  | cons first _ induction =>
    cases first with
    | valid | refused | invalid => simp [validOf, induction]

section

variable {State : Type} (config : FaceConfig) (table : Table ObservationParams State)

def oneByOne : State → List FaceConfig.Parsed → List EntryOutcome
  | _, [] => []
  | state, .refused :: rest => .discarded :: oneByOne state rest
  | state, .invalid :: rest => .pending :: oneByOne state rest
  | state, .valid obs :: rest =>
    match config.rowOf table obs with
    | none => .pending :: oneByOne state rest
    | some row =>
      .persisted (table.insert state row).2 :: oneByOne (table.insert state row).1 rest

theorem separately_oneByOne (state : State) {entries : List Fields}
    (returned : (config.parseAll entries).2 = none) :
    separately (config.processBatch table) state entries =
      oneByOne config table state (config.parseAll entries).1 := by
  induction entries generalizing state with
  | nil => rfl
  | cons entry _ induction =>
    unfold separately
    unfold parseAll at returned ⊢
    cases isParsed : config.parse entry with
    | error => simp [isParsed] at returned
    | ok parsed =>
      simp only [isParsed] at returned
      have single : config.parseAll [entry] = ([parsed], none) := by
        simp [parseAll, isParsed]
      cases parsed with
      | refused | invalid =>
        simp [processBatch, single, validOf, outcomesOf,
          insertAll, oneByOne, induction _ returned]
      | valid obs =>
        cases isRow : config.rowOf table obs with
        | none =>
          simp [processBatch, single, validOf,
            outcomesOf, isRow, oneByOne, induction _ returned]
        | some =>
          simp [processBatch, single, validOf,
            outcomesOf, insertAll, isRow, oneByOne,
            induction _ returned]

theorem outcomesOf_insertAll (state : State) {parsed : List FaceConfig.Parsed}
    {rows : List ObservationParams}
    (found : (validOf parsed).mapM (config.rowOf table) = some rows) :
    outcomesOf parsed
        ((insertAll table state rows).2.map EntryOutcome.persisted) =
      oneByOne config table state parsed := by
  induction parsed generalizing state rows with
  | nil => rfl
  | cons first _ induction =>
    cases first with
    | refused | invalid => simp [outcomesOf, oneByOne, induction state found]
    | valid =>
      simp only [validOf, List.mapM_cons, Option.bind_eq_bind,
        Option.bind_eq_some_iff, Option.pure_def, Option.some.injEq] at found
      rcases found with ⟨_, isRow, _, areOthers, rfl⟩
      simp [outcomesOf, insertAll, oneByOne, isRow, induction _ areOthers]

theorem outcomesOf_nil_iff (state : State) (parsed : List FaceConfig.Parsed) :
    outcomesOf parsed [] = oneByOne config table state parsed ↔
      ∀ obs ∈ validOf parsed, config.rowOf table obs = none := by
  induction parsed generalizing state with
  | nil => simp [outcomesOf, oneByOne, validOf]
  | cons first _ induction =>
    cases first with
    | refused | invalid => simp [outcomesOf, oneByOne, validOf, induction]
    | valid obs =>
      rw [validOf, List.forall_mem_cons]
      cases isRow : config.rowOf table obs with
      | none => simp [outcomesOf, oneByOne, isRow, induction]
      | some =>
        simp [outcomesOf, oneByOne, isRow, EntryOutcome.pending,
          EntryOutcome.persisted]

theorem mapM_rowOf_iff (valid : List Payload) :
    (∃ rows, valid.mapM (config.rowOf table) = some rows) ↔
      ∀ obs ∈ valid, config.rowOf table obs ≠ none := by
  induction valid with
  | nil => simp
  | cons obs rest induction =>
    rw [List.forall_mem_cons, ← induction]
    cases isRow : config.rowOf table obs with
    | none => simp [isRow]
    | some =>
      simp only [List.mapM_cons, isRow, Option.bind_eq_bind, Option.bind_some]
      cases rest.mapM (config.rowOf table) with
      | none | some => simp

/-- Every valid observation has its row, or none of them has. -/
def RowsTogether (entries : List Fields) : Prop :=
  (∀ entry ∈ entries, ∀ obs, config.parse entry = .ok (.valid obs) →
      config.rowOf table obs ≠ none) ∨
    ∀ entry ∈ entries, ∀ obs, config.parse entry = .ok (.valid obs) →
      config.rowOf table obs = none

theorem forall_validOf_iff {entries : List Fields}
    (returned : (config.parseAll entries).2 = none) (goal : Payload → Prop) :
    (∀ obs ∈ validOf (config.parseAll entries).1, goal obs) ↔
      ∀ entry ∈ entries, ∀ obs, config.parse entry = .ok (.valid obs) → goal obs := by
  constructor
  · intro holds entry member obs isValid
    exact holds obs ((mem_validOf _ _).2 ((mem_parseAll returned _).2 ⟨entry, member, isValid⟩))
  · intro holds obs member
    rcases (mem_parseAll returned _).1 ((mem_validOf _ _).1 member) with ⟨entry, isEntry, isValid⟩
    exact holds entry isEntry obs isValid

/-- The face worker's batch keeps its entries apart just where each of them does no
harm and the valid ones share one fate. -/
theorem faceBatch_isolated_iff (state : State) (entries : List Fields) :
    Isolated (config.processBatch table) state entries ↔
      (∀ entry ∈ entries, HarmlessFace config entry) ∧ RowsTogether config table entries := by
  rw [← parseAll_raised_iff]
  cases raised : (config.parseAll entries).2 with
  | some error =>
    have parsed : config.parseAll entries = ((config.parseAll entries).1, some error) :=
      Prod.ext rfl raised
    unfold Isolated processBatch
    rw [parsed]
    simp
  | none =>
    have parsed : config.parseAll entries = ((config.parseAll entries).1, none) :=
      Prod.ext rfl raised
    have apart := separately_oneByOne config table state raised
    unfold RowsTogether
    rw [← forall_validOf_iff config raised, ← forall_validOf_iff config raised, ← mapM_rowOf_iff]
    unfold Isolated
    rw [apart]
    unfold processBatch
    rw [parsed]
    cases found : (validOf (config.parseAll entries).1).mapM
        (config.rowOf table) with
    | some rows => simp [found, outcomesOf_insertAll config table state found]
    | none => simp [found, outcomesOf_nil_iff]

end

/-! ## Both workers -/

/-- The batch of either worker keeps its entries apart just where its own condition
holds: of the bytes, of the event or of the embedding of each entry by itself, and for
the faces of the rows of the batch. -/
theorem batch_isolated_iff {EventState FaceState : Type} (events : EventConfig)
    (eventTable : Table EventParams EventState) (eventState : EventState) (faces : FaceConfig)
    (faceTable : Table ObservationParams FaceState) (faceState : FaceState)
    (entries : List Fields) :
    (Isolated (events.processBatch eventTable) eventState entries ↔
        ∀ entry ∈ entries, HarmlessEntry events entry) ∧
      (Isolated (faces.processBatch faceTable) faceState entries ↔
        (∀ entry ∈ entries, HarmlessFace faces entry) ∧ RowsTogether faces faceTable entries) :=
  ⟨eventBatch_isolated_iff events eventTable eventState entries,
    faceBatch_isolated_iff faces faceTable faceState entries⟩

def fiveSeconds : Seconds := ⟨5, .finite false 5, by decide +kernel, rfl⟩

def plainEvents : EventConfig where
  recursionLimit := 1000
  strOf := fun _ => []
  floatText := fun _ => []
  preSeconds := fiveSeconds
  postSeconds := fiveSeconds
  runtimeEpochId := []

def openTable : Table EventParams Unit where
  accepts := fun _ => true
  insert := fun _ _ => ((), true)

def arrayEntry : Fields := [(text "data", text "[1]")]

def doorEntry : Fields :=
  [(text "data", text
    "\x7b\"source_event_id\": \"e1\", \"event_type\": \"door\", \"camera_id\": \"c1\"\x7d")]

/-- A JSON array ends the batch before the event behind it, which a batch of its own
persists. -/
theorem array_entry_blocks :
    (plainEvents.processBatch openTable () [arrayEntry, doorEntry]).raised =
        some .attributeError ∧
      (plainEvents.processBatch openTable () [arrayEntry, doorEntry]).outcomes =
        [.pending, .pending] ∧
      (plainEvents.processBatch openTable () [doorEntry]).outcomes = [.persisted true] ∧
      ¬Isolated (plainEvents.processBatch openTable) () [arrayEntry, doorEntry] := by
  have raised : (plainEvents.processBatch openTable () [arrayEntry, doorEntry]).raised =
      some .attributeError := by decide +kernel
  refine ⟨raised, by decide +kernel, by decide +kernel, ?_⟩
  intro isolated
  rw [isolated.1] at raised
  cases raised

end VideoAnalysis.Intake
