import VideoAnalysis.Intake.SecurityEvents

/-! # When the event worker's batch raises

An entry that is refused or whose insert fails does no harm to the others. What is
left to raise: the decoding of its bytes, and the preparation of the event.
-/

namespace VideoAnalysis.Intake

open Foundation Python
open Json (lookup toFloat)

/-! ## Bytes that do no harm -/

/-- The bytes are missing, are no JSON, or are a JSON object. -/
def Decodes (recursionLimit : Nat) (fields : Fields) : Prop :=
  ∀ raw, fields.lookup (text "data") = some raw → raw ≠ [] →
    (∃ payload, loadsBytes recursionLimit raw = .ok (.dict payload)) ∨
      loadsBytes recursionLimit raw = .error .jsonDecodeError ∨
      loadsBytes recursionLimit raw = .error .typeError

theorem parseEntry_returns_iff (recursionLimit : Nat) (required : List String)
    (fields : Fields) :
    (∃ parsed, parseEntry recursionLimit required fields = .ok parsed) ↔
      Decodes recursionLimit fields := by
  unfold parseEntry Decodes
  cases found : fields.lookup (text "data") with
  | none => simp
  | some raw =>
    cases raw with
    | nil => simp
    | cons byte bytes =>
      constructor
      · rintro ⟨parsed, returned⟩ other same _
        rw [← Option.some.inj same]
        cases loaded : loadsBytes recursionLimit (byte :: bytes) with
        | error error =>
          simp only [loaded] at returned
          cases error with
          | jsonDecodeError => exact Or.inr (Or.inl rfl)
          | typeError => exact Or.inr (Or.inr rfl)
          | _ => exact absurd returned (by simp)
        | ok value =>
          simp only [loaded] at returned
          cases value with
          | dict payload => exact Or.inl ⟨payload, rfl⟩
          | _ => exact absurd returned (by simp)
      · intro decodes
        rcases decodes _ rfl (List.cons_ne_nil _ _) with ⟨payload, loaded⟩ | loaded | loaded
        · simp only [loaded]
          split
          all_goals exact ⟨_, rfl⟩
        all_goals exact ⟨none, by simp only [loaded]⟩

/-! ## Seconds that do no harm -/

/-- The value is a whole number beyond the floats or is an infinite float: `float` of
it, or `int` of that, raises an overflow. -/
def Overflows (value : Json) : Prop :=
  value.toFloat = .error .overflowError ∨ ∃ negative, value.toFloat = .ok (.infinite negative)

theorem intValue_returns_iff (value : Json) :
    (∃ number, intValue value = .ok number) ↔ ¬Overflows value := by
  unfold intValue Overflows
  cases converted : value.toFloat with
  | error =>
    rcases Json.toFloat_error converted with kind | kind | kind
    · simp [bind, Except.bind, kind]
    all_goals simp [bind, Except.bind, kind, PyError.isValueError]
  | ok double =>
    cases double with
    | finite => simp [bind, Except.bind, Double.toInt]
    | infinite | nan => simp [bind, Except.bind, Double.toInt, PyError.isValueError]

def Converts (target source : Option Json) : Prop :=
  hasValue target = false → hasValue source = true →
    ∀ value, source = some value → ¬Overflows value

theorem intValue_getD_returns_iff {source : Option Json} (present : hasValue source = true) :
    (∃ number, intValue (source.getD .null) = .ok number) ↔
      ∀ value, source = some value → ¬Overflows value := by
  cases source with
  | none => exact absurd present (by simp [hasValue])
  | some value =>
    rw [Option.getD_some, intValue_returns_iff]
    constructor
    · rintro harmless other same
      rwa [← Option.some.inj same]
    · intro harmless
      exact harmless value rfl

theorem fillMedia_returns_iff (field : String) (policy media : Payload) :
    (∃ filled, fillMedia field policy media = .ok filled) ↔
      Converts (lookup media field) (lookup policy field) := by
  unfold fillMedia Converts
  cases target : hasValue (lookup media field) with
  | true => simp
  | false =>
    cases source : hasValue (lookup policy field) with
    | false => simp
    | true =>
      simp only [Bool.not_false, Bool.and_self, if_true, true_implies]
      rw [bind_returns_iff, ← intValue_getD_returns_iff source]
      simp [pure, Except.pure]

theorem fillMedia_other {field other : String} {policy media filled : Payload}
    (returned : fillMedia field policy media = .ok filled) (different : text other ≠ text field) :
    lookup filled other = lookup media other := by
  unfold fillMedia at returned
  split at returned
  · rcases ok_of_bind returned with ⟨number, _, stored⟩
    rw [← Except.ok.inj stored]
    cases number with
    | none => rfl
    | some => exact Json.lookup_store_of_ne _ _ different
  · rw [← Except.ok.inj returned]

theorem fillPolicy_returns_iff (field : String) (configured : Int) (media policy : Payload) :
    (∃ filled, fillPolicy field configured media policy = .ok filled) ↔
      Converts (lookup policy field) (lookup media field) := by
  unfold fillPolicy Converts
  cases target : hasValue (lookup policy field) with
  | true => simp
  | false =>
    cases source : hasValue (lookup media field) with
    | false =>
      simp only [Bool.false_eq_true, if_false]
      split <;> simp
    | true =>
      simp only [Bool.false_eq_true, if_false, if_true, true_implies]
      rw [bind_returns_iff, ← intValue_getD_returns_iff source]
      simp [pure, Except.pure]

theorem fillPolicy_other {field other : String} {configured : Int}
    {media policy filled : Payload}
    (returned : fillPolicy field configured media policy = .ok filled)
    (different : text other ≠ text field) :
    lookup filled other = lookup policy other := by
  unfold fillPolicy at returned
  split at returned
  · rw [← Except.ok.inj returned]
  · split at returned
    · rcases ok_of_bind returned with ⟨number, _, stored⟩
      rw [← Except.ok.inj stored]
      cases number with
      | none => rfl
      | some => exact Json.lookup_store_of_ne _ _ different
    · split at returned
      · rw [← Except.ok.inj returned]
        exact Json.lookup_store_of_ne _ _ different
      · rw [← Except.ok.inj returned]

theorem Seconds.not_overflows (seconds : Seconds) : ¬Overflows (.int seconds.value) := by
  rcases seconds.fits with ⟨_, converted, isFinite⟩
  rintro (raised | ⟨negative, infinite⟩)
  · simp only [toFloat] at raised
    rw [converted] at raised
    cases raised
  · simp only [toFloat] at infinite
    rw [converted] at infinite
    rw [Except.ok.inj infinite] at isFinite
    cases isFinite

theorem fillPolicy_converts_iff {field : String} {configured : Seconds}
    {media policy filled : Payload}
    (returned : fillPolicy field configured.value media policy = .ok filled) :
    Converts (lookup media field) (lookup filled field) ↔
      Converts (lookup media field) (lookup policy field) := by
  unfold fillPolicy at returned
  split at returned
  next => rw [← Except.ok.inj returned]
  next missing =>
    split at returned
    next present =>
      unfold Converts
      simp [present]
    next absent =>
      split at returned
      next =>
        rw [← Except.ok.inj returned, Json.lookup_store_self]
        constructor
        · intro _ _ present
          exact absurd present missing
        · rintro _ _ _ value same
          rw [← Option.some.inj same]
          exact configured.not_overflows
      next => rw [← Except.ok.inj returned]

/-! ## The recording window -/

/-- A field that only one of the policy and the media has does not overflow. -/
def SecondsConvert (event : Payload) (field : String) : Prop :=
  let policy := lookup (dictOr (lookup event "evidence_policy")) field
  let media := lookup (mediaOf event) field
  Converts policy media ∧ Converts media policy

theorem applyRecordingWindow_returns_iff (config : EventConfig) (event : Payload) :
    (∃ completed, config.applyRecordingWindow event = .ok completed) ↔
      (clipRequired event = true →
        SecondsConvert event "pre_seconds" ∧ SecondsConvert event "post_seconds") := by
  unfold EventConfig.applyRecordingWindow
  cases required : clipRequired event with
  | false => simp [pure, Except.pure]
  | true =>
    have otherPost : text "post_seconds" ≠ text "pre_seconds" := by decide
    have otherPre : text "pre_seconds" ≠ text "post_seconds" := by decide
    unfold SecondsConvert
    simp only [if_true, true_implies]
    generalize dictOr (lookup event "evidence_policy") = policy
    generalize mediaOf event = media
    constructor
    · intro returned
      rcases bind_returns_iff.1 returned with ⟨_, isFirst, returned⟩
      rcases bind_returns_iff.1 returned with ⟨_, isSecond, returned⟩
      rcases bind_returns_iff.1 returned with ⟨_, isThird, returned⟩
      rcases bind_returns_iff.1 returned with ⟨_, isFourth, _⟩
      have prePolicy := (fillPolicy_returns_iff _ _ _ _).1 ⟨_, isFirst⟩
      have postPolicy := (fillPolicy_returns_iff _ _ _ _).1 ⟨_, isSecond⟩
      have preMedia := (fillMedia_returns_iff _ _ _).1 ⟨_, isThird⟩
      have postMedia := (fillMedia_returns_iff _ _ _).1 ⟨_, isFourth⟩
      rw [fillPolicy_other isFirst otherPost] at postPolicy
      rw [fillPolicy_other isSecond otherPre, fillPolicy_converts_iff isFirst] at preMedia
      rw [fillMedia_other isThird otherPost, fillPolicy_converts_iff isSecond,
        fillPolicy_other isFirst otherPost] at postMedia
      exact ⟨⟨prePolicy, preMedia⟩, ⟨postPolicy, postMedia⟩⟩
    · rintro ⟨⟨prePolicy, preMedia⟩, ⟨postPolicy, postMedia⟩⟩
      rcases (fillPolicy_returns_iff _ config.preSeconds.value _ _).2 prePolicy with
        ⟨first, isFirst⟩
      rw [← fillPolicy_other isFirst otherPost] at postPolicy postMedia
      rcases (fillPolicy_returns_iff _ config.postSeconds.value _ _).2 postPolicy with
        ⟨second, isSecond⟩
      rw [← fillPolicy_converts_iff isFirst, ← fillPolicy_other isSecond otherPre] at preMedia
      rcases (fillMedia_returns_iff _ _ _).2 preMedia with ⟨third, isThird⟩
      rw [← fillPolicy_converts_iff isSecond, ← fillMedia_other isThird otherPost] at postMedia
      rcases (fillMedia_returns_iff _ _ _).2 postMedia with ⟨fourth, isFourth⟩
      exact bind_returns_iff.2 ⟨first, isFirst, bind_returns_iff.2 ⟨second, isSecond,
        bind_returns_iff.2 ⟨third, isThird, bind_returns_iff.2 ⟨fourth, isFourth, _, rfl⟩⟩⟩⟩

/-! ## Events that do no harm -/

/-- The type has a hash, a behavior event has no payload but a dictionary or nothing,
and the seconds of the event with its default policy do not overflow. -/
structure HarmlessEvent (event : Payload) : Prop where
  typeHashes : ∀ items entries,
    lookup event "event_type" ≠ some (.list items) ∧
      lookup event "event_type" ≠ some (.dict entries)
  payloadIsDict : ∀ content, lookup event "event_type" = some (.str content) →
    content ∈ behaviorEvidenceEventTypes → ∀ value, lookup event "payload" = some value →
      value.truthy = true → ∃ entries, value = .dict entries
  secondsConvert : ∀ completed, applyDefaultEvidencePolicy event = .ok completed →
    clipRequired completed = true →
      SecondsConvert completed "pre_seconds" ∧ SecondsConvert completed "post_seconds"

theorem payloadMedia_returns_iff (event : Payload) :
    (∃ media, payloadMedia event = .ok media) ↔
      ∀ value, lookup event "payload" = some value → value.truthy = true →
        ∃ entries, value = .dict entries := by
  unfold payloadMedia
  cases found : lookup event "payload" with
  | none => simp
  | some value =>
    cases value with
    | dict => simp
    | _ =>
      simp only [Option.some.injEq, forall_eq', reduceCtorEq, exists_const, imp_false]
      split <;> simp_all

theorem applyDefaultEvidencePolicy_behavior (event : Payload)
    (behaves : isBehaviorType ((lookup event "event_type").getD (.str [])) = .ok true) :
    (∃ completed, applyDefaultEvidencePolicy event = .ok completed) ↔
      ∃ media, payloadMedia event = .ok media := by
  unfold applyDefaultEvidencePolicy
  rw [bind_returns_iff]
  simp only [behaves, Except.ok.injEq, exists_eq_left', if_true]
  rw [bind_returns_iff]
  constructor
  · rintro ⟨media, isMedia, _⟩
    exact ⟨media, isMedia⟩
  · rintro ⟨media, isMedia⟩
    refine ⟨media, isMedia, ?_⟩
    split
    · exact ⟨_, rfl⟩
    · split
      all_goals exact ⟨_, rfl⟩

theorem applyDefaultEvidencePolicy_other (event : Payload)
    (other : isBehaviorType ((lookup event "event_type").getD (.str [])) = .ok false) :
    applyDefaultEvidencePolicy event = .ok event := by
  unfold applyDefaultEvidencePolicy
  rw [other]
  rfl

theorem applyDefaultEvidencePolicy_returns_iff (event : Payload) :
    (∃ completed, applyDefaultEvidencePolicy event = .ok completed) ↔
      (∀ items entries, lookup event "event_type" ≠ some (.list items) ∧
        lookup event "event_type" ≠ some (.dict entries)) ∧
      ∀ content, lookup event "event_type" = some (.str content) →
        content ∈ behaviorEvidenceEventTypes → ∃ media, payloadMedia event = .ok media := by
  have unhashable : isBehaviorType ((lookup event "event_type").getD (.str [])) =
      .error .typeError → ¬∃ completed, applyDefaultEvidencePolicy event = .ok completed := by
    rintro raised ⟨completed, returned⟩
    rcases ok_of_bind returned with ⟨_, isType, _⟩
    rw [raised] at isType
    cases isType
  have behavior := applyDefaultEvidencePolicy_behavior event
  have other := applyDefaultEvidencePolicy_other event
  cases found : lookup event "event_type" with
  | none =>
    rw [found] at other
    simp [other (by decide)]
  | some value =>
    rw [found, Option.getD_some] at unhashable behavior other
    cases value with
    | list | dict => simp [unhashable rfl]
    | str content =>
      by_cases member : content ∈ behaviorEvidenceEventTypes
      · rw [behavior (by simp [isBehaviorType, member])]
        simp [member]
      · simp [other (by simp [isBehaviorType, member]), member]
    | _ => simp [other rfl]

theorem prepare_returns_iff (config : EventConfig) (event : Payload) :
    (∃ completed, config.prepare event = .ok completed) ↔ HarmlessEvent event := by
  unfold EventConfig.prepare
  rw [bind_returns_iff]
  constructor
  · rintro ⟨completed, isCompleted, returned⟩
    rcases bind_returns_iff.1 returned with ⟨_, isFilled, _⟩
    rcases (applyDefaultEvidencePolicy_returns_iff event).1 ⟨_, isCompleted⟩ with
      ⟨typeHashes, payloadReturns⟩
    refine ⟨typeHashes, ?_, ?_⟩
    · intro content isType member
      exact (payloadMedia_returns_iff event).1 (payloadReturns content isType member)
    · intro other isOther
      rw [isCompleted] at isOther
      rw [← Except.ok.inj isOther]
      exact (applyRecordingWindow_returns_iff config completed).1 ⟨_, isFilled⟩
  · intro harmless
    rcases (applyDefaultEvidencePolicy_returns_iff event).2 ⟨harmless.typeHashes, fun content
      isType member => (payloadMedia_returns_iff event).2
        (harmless.payloadIsDict content isType member)⟩ with ⟨completed, isCompleted⟩
    rcases (applyRecordingWindow_returns_iff config completed).2
      (harmless.secondsConvert completed isCompleted) with ⟨filled, isFilled⟩
    exact ⟨completed, isCompleted, bind_returns_iff.2 ⟨filled, isFilled, _, rfl⟩⟩

/-! ## The batch -/

theorem toInt_fieldOr {event : Payload} {name : String} {other default : Json} {number : Int}
    (converted : (field event name default).toInt = .ok number)
    (otherConverts : ∃ number, other.toInt = .ok number) :
    ∃ number, (fieldOr event name other).toInt = .ok number := by
  unfold fieldOr
  split
  next given =>
    cases found : lookup event name with
    | none => simp [isTrue, found] at given
    | some =>
      simp only [field, found, Option.getD_some] at converted ⊢
      exact ⟨number, converted⟩
  next => exact otherConverts

theorem gateTsMs_returns {config : EventConfig} {event : Payload} {params : EventParams}
    (converted : config.insertParams event = .ok params) :
    ∃ number, EventConfig.gateTsMs event = .ok number := by
  unfold EventConfig.insertParams at converted
  rcases ok_of_bind converted with ⟨_, _, converted⟩
  rcases ok_of_bind converted with ⟨_, isStart, converted⟩
  rcases ok_of_bind converted with ⟨_, _, converted⟩
  rcases ok_of_bind converted with ⟨_, isEvent, _⟩
  exact toInt_fieldOr isEvent (toInt_fieldOr isStart ⟨0, rfl⟩)

def HarmlessEntry (config : EventConfig) (fields : Fields) : Prop :=
  Decodes config.recursionLimit fields ∧
    ∀ event, config.parseEvent fields = .ok (some event) → HarmlessEvent event

section

variable {State : Type} (config : EventConfig) (table : Table EventParams State)

theorem handleEvent_returns_iff (state : State) (event : Payload) :
    (config.handleEvent table state event).2.2 = none ↔ HarmlessEvent event := by
  rw [← prepare_returns_iff config]
  unfold EventConfig.handleEvent
  cases config.prepare event with
  | error => simp
  | ok completed =>
    cases converted : config.insertParams completed with
    | error => simp [converted]
    | ok =>
      rcases gateTsMs_returns converted with ⟨_, isNumber⟩
      simp only [converted, isNumber, Except.ok.injEq, exists_eq', iff_true]
      split <;> rfl

theorem handleEntry_returns_iff (state : State) (fields : Fields) :
    (config.handleEntry table state fields).2.2 = none ↔ HarmlessEntry config fields := by
  unfold EventConfig.handleEntry HarmlessEntry
  rw [← parseEntry_returns_iff config.recursionLimit
    ["source_event_id", "event_type", "camera_id"] fields]
  change _ ↔ (∃ parsed, config.parseEvent fields = .ok parsed) ∧ _
  cases config.parseEvent fields with
  | error => simp
  | ok parsed =>
    cases parsed with
    | none => simp
    | some event => simp [handleEvent_returns_iff config table state event]

theorem processBatch_single (state : State) (entry : Fields) :
    (config.processBatch table state [entry]).outcomes =
        [(config.handleEntry table state entry).2.1] ∧
      (config.processBatch table state [entry]).state =
        (config.handleEntry table state entry).1 := by
  unfold EventConfig.processBatch
  split
  next handled => simp [handled, EventConfig.processBatch]
  next handled => simp [handled]

theorem processBatch_raised_iff (state : State) (entries : List Fields) :
    (config.processBatch table state entries).raised = none ↔
      ∀ entry ∈ entries, HarmlessEntry config entry := by
  induction entries generalizing state with
  | nil => simp [EventConfig.processBatch]
  | cons entry _ induction =>
    have handles := handleEntry_returns_iff config table state entry
    unfold EventConfig.processBatch
    split
    next handled =>
      rw [handled] at handles
      rw [List.forall_mem_cons]
      simp [induction, handles.1 rfl]
    next handled =>
      rw [handled] at handles
      rw [List.forall_mem_cons, ← handles]
      simp

theorem processBatch_outcomes (state : State) (entries : List Fields)
    (returned : (config.processBatch table state entries).raised = none) :
    (config.processBatch table state entries).outcomes =
      separately (config.processBatch table) state entries := by
  induction entries generalizing state with
  | nil => rfl
  | cons entry _ induction =>
    rcases processBatch_single config table state entry with ⟨isOutcome, isState⟩
    unfold separately
    rw [isOutcome, isState]
    unfold EventConfig.processBatch at returned ⊢
    split at returned
    next handled =>
      simp only [handled]
      rw [induction _ returned]
      rfl
    next => cases returned

theorem eventBatch_isolated_iff (state : State) (entries : List Fields) :
    Isolated (config.processBatch table) state entries ↔
      ∀ entry ∈ entries, HarmlessEntry config entry := by
  rw [← processBatch_raised_iff config table state]
  constructor
  · intro isolated
    exact isolated.1
  · intro returned
    exact ⟨returned, processBatch_outcomes config table state entries returned⟩

end

end VideoAnalysis.Intake
