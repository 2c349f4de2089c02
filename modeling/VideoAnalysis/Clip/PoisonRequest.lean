import VideoAnalysis.Clip.RequestIntake

/-! # Poison requests

A payload that can never become a request is isolated only where `parse_json`
refuses it. What `json.loads` or the normalisation raises beside that leaves the
processor, and `process_one` holds the delivery.
-/

namespace VideoAnalysis.Clip

open Foundation Python

/-! ## Runs of one delivery -/

def procRun : ClipRows → Processor → List ProcLabel → Option (ClipRows × Processor)
  | rows, processor, [] => some (rows, processor)
  | rows, processor, label :: labels =>
    (procStep rows processor label).bind fun next => procRun next.1 next.2 labels

def Intake.malformation : Intake → Option Malformation
  | .malformed malformation => some malformation
  | .raises _ | .request _ => none

/-- What `__call__` does first. -/
def Intake.firstLabel : Intake → ProcLabel
  | .raises _ => .raise
  | .malformed _ | .request _ => .parse

/-- A run of `process_one` on a delivery with these fields. -/
def Intake.Runs (intake : Intake) (rows : ClipRows) (delivery : Delivery)
    (labels : List ProcLabel) (processor : Processor) : Prop :=
  delivery.malformed = intake.malformation ∧
    ∃ rest after, labels = intake.firstLabel :: rest ∧
      procRun rows { delivery, phase := .parsing, deadLettered := false } labels =
        some (after, processor)

def ProcLabel.deadLetterSucceeds : ProcLabel → Bool
  | .quarantine added answered => added && answered
  | _ => true

/-- Every run in which the dead-letter write succeeds isolates the delivery and
acknowledges it, and there is one. -/
structure Intake.Quarantined (intake : Intake) (rows : ClipRows) (delivery : Delivery) :
    Prop where
  isolates : ∀ labels processor acknowledged, intake.Runs rows delivery labels processor →
    labels.all ProcLabel.deadLetterSucceeds → processor.phase = .finished acknowledged →
      processor.deadLettered = true ∧ acknowledged = true
  returns : ∃ labels processor, intake.Runs rows delivery labels processor ∧
    labels.all ProcLabel.deadLetterSucceeds ∧ processor.phase = .finished true

theorem procRun_finished {rows : ClipRows} {processor : Processor} {acknowledged : Bool}
    (finished : processor.phase = .finished acknowledged) {labels : List ProcLabel}
    {after : ClipRows × Processor} (run : procRun rows processor labels = some after) :
    after = (rows, processor) := by
  cases labels with
  | nil => exact (Option.some.inj run).symm
  | cons label =>
    have stuck : procStep rows processor label = none := by
      simp only [procStep, finished]
    rw [procRun, stuck] at run
    exact absurd run (by simp)

theorem procRun_deciding {rows : ClipRows} {delivery : Delivery} {isolated : Bool}
    {outcome : ProcessingOutcome} {labels : List ProcLabel} {after : ClipRows × Processor}
    (run : procRun rows ⟨delivery, .deciding outcome, isolated⟩ labels = some after)
    {acknowledged : Bool} (finished : after.2.phase = .finished acknowledged) :
    after.2.deadLettered = isolated ∧ acknowledged = outcome.shouldAck := by
  cases labels with
  | nil =>
    rw [← Option.some.inj run] at finished
    exact absurd finished (by simp)
  | cons label rest =>
    cases label with
    | decide =>
      have last := @procRun_finished rows ⟨delivery, .finished outcome.shouldAck, isolated⟩
        _ rfl rest after run
      rw [last] at finished ⊢
      exact ⟨rfl, (ProcPhase.finished.inj finished).symm⟩
    | _ => exact absurd run (by simp [procRun, procStep])

theorem Intake.quarantined_of_malformed (malformation : Malformation) (rows : ClipRows)
    {delivery : Delivery} (malformed : delivery.malformed = some malformation) :
    (Intake.malformed malformation).Quarantined rows delivery := by
  have parsed : procStep rows ⟨delivery, .parsing, false⟩ .parse =
      some (rows, ⟨delivery,
        .quarantining (outcomeOf .malformed malformation.reason true false), false⟩) := by
    simp only [procStep, malformed]
  constructor
  · rintro labels processor acknowledged ⟨_, rest, after, rfl, run⟩ succeeds finished
    rw [firstLabel, procRun, parsed, Option.bind_some] at run
    cases rest with
    | nil =>
      rw [← (Prod.mk.inj (Option.some.inj run)).2] at finished
      exact absurd finished (by simp)
    | cons label =>
      cases label with
      | quarantine =>
        simp only [firstLabel, List.all_cons, ProcLabel.deadLetterSucceeds,
          Bool.and_eq_true] at succeeds
        rcases succeeds with ⟨_, ⟨isAdded, isAnswered⟩, _⟩
        subst isAdded isAnswered
        exact procRun_deciding run finished
      | _ => exact absurd run (by simp [procRun, procStep])
  · refine ⟨[.parse, .quarantine true true, .decide],
      ⟨delivery, .finished true, true⟩, ⟨malformed, _, rows, rfl, ?_⟩, rfl, rfl⟩
    rw [procRun, parsed]
    rfl

theorem Intake.held_of_raises (error : PyError) (rows : ClipRows) (delivery : Delivery) :
    ¬(Intake.raises error).Quarantined rows delivery := by
  intro quarantined
  rcases quarantined.returns with ⟨_, _, ⟨_, _, _, rfl, run⟩, _, finished⟩
  have raised : procStep rows ⟨delivery, .parsing, false⟩ .raise =
      some (rows, ⟨delivery, .deciding (outcomeOf .unexpectedFailure "" false false), false⟩) :=
    rfl
  rw [firstLabel, procRun, raised, Option.bind_some] at run
  have held := (procRun_deciding run finished).2
  exact absurd held (by decide)

/-! ## What a request can raise -/

namespace IntakeConfig

variable (config : IntakeConfig)

theorem finite_of_normalized {req : Request} {normalized : NormalizedRecordRequest}
    (isNormalized : config.normalizeRecordRequest req = .ok normalized) :
    (Json.dict req).finite = true := by
  rcases ok_of_bind isNormalized with ⟨_, _, afterTs⟩
  rcases ok_of_bind afterTs with ⟨_, _, afterPre⟩
  rcases ok_of_bind afterPre with ⟨_, _, afterPost⟩
  rcases ok_of_bind afterPost with ⟨_, isCanonical, _⟩
  by_contra infinite
  have raises : config.canonicalJson req = .error .valueError := by
    have refused : (!false && !(Json.dict req).finite) = true := by simpa using infinite
    exact if_pos refused
  rw [raises] at isCanonical
  exact absurd isCanonical (by simp)

end IntakeConfig

theorem intOrNone_of_finite {value : Option Json} (isFinite : ∀ json ∈ value, json.finite = true) :
    ∃ number, intOrNone value = .ok number := by
  cases value with
  | none => exact ⟨none, rfl⟩
  | some json =>
    unfold intOrNone
    split
    · exact ⟨none, rfl⟩
    · exact ⟨none, rfl⟩
    · exact ⟨none, rfl⟩
    · exact ⟨none, rfl⟩
    · next value _ _ _ same =>
        rw [Option.some.injEq] at same
        subst same
        cases converted : json.toInt with
        | ok number => exact ⟨some number, rfl⟩
        | error =>
          rcases Json.toInt_error (isFinite json rfl) converted with rfl | rfl
          all_goals exact ⟨none, rfl⟩

theorem getOr_finite {req : Request} (isFinite : (Json.dict req).finite = true)
    (field other : String) : ∀ json ∈ getOr req field other, json.finite = true := by
  intro json member
  unfold getOr at member
  split at member
  · next value found =>
      split at member
      · rw [← Option.some.inj member]
        exact Json.finite_of_lookup isFinite found
      · exact Json.finite_of_lookup isFinite member
  · exact Json.finite_of_lookup isFinite member

namespace IntakeConfig

variable (config : IntakeConfig)

theorem requestedPtsWindow_of_normalized {req : Request} {normalized : NormalizedRecordRequest}
    (isNormalized : config.normalizeRecordRequest req = .ok normalized)
    (preSeconds postSeconds : Int) :
    ∃ window, requestedPtsWindow req preSeconds postSeconds = .ok window := by
  have isFinite := config.finite_of_normalized isNormalized
  rcases intOrNone_of_finite (getOr_finite isFinite "event_frame_pts" "frame_pts") with
    ⟨pts, isPts⟩
  have field : ∀ name, ∃ number, intOrNone (Json.lookup req name) = .ok number := fun name =>
    intOrNone_of_finite fun json found => Json.finite_of_lookup isFinite found
  rcases field "requested_start_pts" with ⟨_, isStart⟩
  rcases field "requested_end_pts" with ⟨_, isEnd⟩
  cases pts with
  | none | some => exact ⟨_, by simp [requestedPtsWindow, isPts, isStart, isEnd]; rfl⟩

/-- The fields cannot be turned into a request, whatever the database says. -/
def Poison (fields : StreamFields) : Prop :=
  ∀ req, config.parseJson fields = .ok (some req) →
    (∃ error, config.normalizeRecordRequest req = .error error) ∨
      ∃ normalized error, config.normalizeRecordRequest req = .ok normalized ∧
        requestedPtsWindow req normalized.preSeconds normalized.postSeconds = .error error

theorem receive_of_poison {fields : StreamFields} (poison : config.Poison fields) :
    (config.parseJson fields = .ok none ∧ config.receive fields = .malformed .jsonInvalid) ∨
      config.parseJson fields ≠ .ok none ∧ ∃ error, config.receive fields = .raises error := by
  cases parsed : config.parseJson fields with
  | error error => exact Or.inr ⟨by simp, error, by simp only [receive, parsed]⟩
  | ok payload =>
    cases payload with
    | none => exact Or.inl ⟨rfl, by simp only [receive, parsed]⟩
    | some req =>
      rcases poison req parsed with ⟨error, raises⟩ | ⟨normalized, error, isNormalized, late⟩
      · exact Or.inr ⟨by simp, error, by simp only [receive, parsed, raises]⟩
      · rcases config.requestedPtsWindow_of_normalized isNormalized
          normalized.preSeconds normalized.postSeconds with ⟨window, isWindow⟩
        rw [isWindow] at late
        exact absurd late (by simp)

end IntakeConfig

/-- A poison delivery is isolated exactly when `parse_json` refuses it. -/
theorem poison_quarantined_iff (config : IntakeConfig) (fields : StreamFields)
    (poison : config.Poison fields) (rows : ClipRows) (delivery : Delivery)
    (isDelivery : delivery.malformed = (config.receive fields).malformation) :
    (config.receive fields).Quarantined rows delivery ↔ config.parseJson fields = .ok none := by
  rcases config.receive_of_poison poison with ⟨refused, isMalformed⟩ | ⟨goesOn, error, raises⟩
  · rw [isMalformed] at isDelivery ⊢
    exact ⟨fun _ => refused, fun _ => Intake.quarantined_of_malformed _ rows isDelivery⟩
  · rw [raises]
    exact ⟨fun quarantined => absurd quarantined (Intake.held_of_raises error rows delivery),
      fun refused => absurd refused goesOn⟩

/-! ## Two payloads -/

def plainIntake : IntakeConfig where
  recursionLimit := 1000
  strOf := fun _ => text "value"
  floatText := fun _ => text "0.0"
  defaultPreSeconds := 5
  defaultPostSeconds := 5

def plainDelivery (malformed : Option Malformation) : Delivery where
  malformed
  retryCount := 0
  request :=
    { owner := "c", slotToken := "t", planHash := "h", deliveryId := "1-0", reclaimed := false,
      sourceId := "cam", shardId := "s", timeout := 0, resultingStreamId := "r" }

def arrayPayload : StreamFields := [(text "data", text "[1]")]

theorem array_payload_quarantined :
    (plainIntake.receive arrayPayload).Quarantined ⟨none, none⟩
      (plainDelivery (some .jsonInvalid)) := by
  apply (poison_quarantined_iff plainIntake arrayPayload _ _ _ rfl).mpr rfl
  intro req parsed
  exact absurd parsed (by simp [show plainIntake.parseJson arrayPayload = .ok none from rfl])

def textTimestampPayload : StreamFields :=
  [(text "data", text "\x7b\"event_id\": \"e\", \"event_ts_ms\": \"soon\"\x7d")]

/-- A timestamp that is no number comes back at every redelivery. -/
theorem text_timestamp_held :
    ¬∀ fields, plainIntake.Poison fields → ∀ rows delivery,
      delivery.malformed = (plainIntake.receive fields).malformation →
        (plainIntake.receive fields).Quarantined rows delivery := by
  intro always
  have raises : plainIntake.receive textTimestampPayload = .raises .valueError := rfl
  have poison : plainIntake.Poison textTimestampPayload := by
    intro req parsed
    left
    have isRequest : plainIntake.parseJson textTimestampPayload = .ok (some
        [(text "event_id", .str (text "e")), (text "event_ts_ms", .str (text "soon"))]) := rfl
    rw [isRequest] at parsed
    rw [← Option.some.inj (Except.ok.inj parsed)]
    exact ⟨.valueError, rfl⟩
  have quarantined := always textTimestampPayload poison ⟨none, none⟩ (plainDelivery none) rfl
  rw [raises] at quarantined
  exact Intake.held_of_raises .valueError _ _ quarantined

end VideoAnalysis.Clip
