import VideoAnalysis.Foundation.OutputTrace
import VideoAnalysis.Python.Text

/-! # The alert cooldown of a camera

`AlertPolicyService.apply` decides about an event right after its row is inserted: it
looks for the latest unsuppressed row of the scope at or before the event.
-/

namespace VideoAnalysis.Event

open Foundation Python

/-! ## The policy -/

inductive CooldownScope
  | global
  | eventType
  | algorithm
deriving DecidableEq

def CooldownScope.value : CooldownScope → String
  | .global => "global"
  | .eventType => "event_type"
  | .algorithm => "algorithm"

/-- `cameras.alert_policy`; a scope that is missing is an empty text. -/
structure AlertPolicy where
  globalAlertCooldownS : Int
  criticalBypass : Bool
  scopeText : Text

/-- `_cooldown_scope`. -/
def AlertPolicy.cooldownScope (policy : AlertPolicy) : CooldownScope :=
  let scope := (strip policy.scopeText).map asciiLower
  if scope ∈ [text "global", text "camera", text "camera_global"] then .global
  else if scope ∈ [text "event", text "event_type"] then .eventType
  else .algorithm

/-- An event with a positive timestamp. -/
structure AlertEvent where
  sourceEventId : String
  eventType : String
  algorithmType : String
  severity : String
  eventTsMs : Int
  positive : 0 < eventTsMs

/-- A row of `events` of the camera. -/
structure AlertRow where
  sourceEventId : String
  eventType : String
  algorithmType : String
  eventTsMs : Int
  suppressed : Bool

def algorithmKey (eventType algorithmType : String) : String :=
  if algorithmType = "" then eventType else algorithmType

/-- `_cooldown_key`. -/
def cooldownKey (scope : CooldownScope) (eventType algorithmType : String) : String :=
  match scope with
  | .global => "global"
  | .eventType => eventType
  | .algorithm => algorithmKey eventType algorithmType

/-- `_is_identity_event`. -/
def isIdentityEvent (eventType algorithmType : String) : Bool :=
  eventType ∈ ["watchlist_hit", "live_search_hit"] ||
    algorithmType ∈ ["face_intelligence", "face.watchlist", "face.live_search"]

/-! ## The last alert -/

def inScope (scope : CooldownScope) (event : AlertEvent) (row : AlertRow) : Bool :=
  match scope with
  | .global => true
  | .eventType => event.eventType ≠ "" && row.eventType = event.eventType
  | .algorithm =>
    algorithmKey event.eventType event.algorithmType ≠ "" &&
      algorithmKey row.eventType row.algorithmType =
        algorithmKey event.eventType event.algorithmType

/-- The rows that `get_last_unsuppressed_alert` orders. -/
def alertCandidates (scope : CooldownScope) (event : AlertEvent) (rows : List AlertRow) :
    List AlertRow :=
  rows.filter fun row =>
    row.sourceEventId ≠ event.sourceEventId && !row.suppressed &&
      (event.eventTsMs ≤ 0 || row.eventTsMs ≤ event.eventTsMs) && inScope scope event row

/-- `ORDER BY event_ts_ms DESC LIMIT 1`, which leaves ties open. -/
structure LatestRow where
  pick : List AlertRow → Option AlertRow
  latest : ∀ rows row, pick rows = some row →
    row ∈ rows ∧ ∀ other ∈ rows, other.eventTsMs ≤ row.eventTsMs
  total : ∀ rows, pick rows = none → rows = []

/-- Among rows of the same time the one inserted first. -/
def firstLatest : List AlertRow → Option AlertRow
  | [] => none
  | row :: rest =>
    match firstLatest rest with
    | none => some row
    | some later => if row.eventTsMs < later.eventTsMs then some later else some row

theorem firstLatest_eq_none {rows : List AlertRow} (none : firstLatest rows = none) :
    rows = [] := by
  cases rows with
  | nil => rfl
  | cons _ rest =>
    simp only [firstLatest] at none
    cases later : firstLatest rest with
    | none => simp only [later, reduceCtorEq] at none
    | some =>
      simp only [later] at none
      split at none <;> cases none

theorem firstLatest_latest {rows : List AlertRow} {row : AlertRow}
    (found : firstLatest rows = some row) :
    row ∈ rows ∧ ∀ other ∈ rows, other.eventTsMs ≤ row.eventTsMs := by
  induction rows generalizing row with
  | nil => cases found
  | cons _ rest induction =>
    simp only [firstLatest] at found
    cases later : firstLatest rest with
    | none =>
      simp only [later, Option.some.injEq] at found
      rw [firstLatest_eq_none later, ← found]
      simp
    | some =>
      rcases induction later with ⟨member, latest⟩
      simp only [later] at found
      split at found
      next below =>
        cases found
        refine ⟨List.mem_cons_of_mem _ member, ?_⟩
        intro other inRows
        rcases List.mem_cons.mp inRows with rfl | inRest
        · exact Int.le_of_lt below
        · exact latest other inRest
      next notBelow =>
        cases found
        refine ⟨List.mem_cons_self, ?_⟩
        intro other inRows
        rcases List.mem_cons.mp inRows with rfl | inRest
        · exact Int.le_refl _
        · exact Int.le_trans (latest other inRest) (Int.not_lt.mp notBelow)

def LatestRow.first : LatestRow where
  pick := firstLatest
  latest := fun _ _ => firstLatest_latest
  total := fun _ => firstLatest_eq_none

/-! ## The decision -/

structure AlertPolicyDecision where
  emit : Bool
  reason : Option String
  cooldownS : Int
  lastAlertTsMs : Option Int
  cooldownScope : CooldownScope
  cooldownKey : String
  lastAlertEventType : Option String
  lastAlertAlgorithmType : Option String

def orNone (value : String) : Option String := if value = "" then none else some value

namespace AlertPolicy

variable (policy : AlertPolicy)

def bypasses (event : AlertEvent) : Bool :=
  0 < policy.globalAlertCooldownS && policy.criticalBypass && event.severity = "critical"

def withinCooldown (event : AlertEvent) (last : AlertRow) : Bool :=
  0 < event.eventTsMs && event.eventTsMs - last.eventTsMs < policy.globalAlertCooldownS * 1000

def identityException (event : AlertEvent) (last : AlertRow) : Bool :=
  policy.cooldownScope = .global && isIdentityEvent event.eventType event.algorithmType &&
    !isIdentityEvent last.eventType last.algorithmType

/-- `decide` with the answer of the query. -/
def decideWith (event : AlertEvent) (last : Option AlertRow) : AlertPolicyDecision :=
  let scope := policy.cooldownScope
  let plain : AlertPolicyDecision :=
    { emit := true, reason := none, cooldownS := policy.globalAlertCooldownS
      lastAlertTsMs := none, cooldownScope := scope
      cooldownKey := cooldownKey scope event.eventType event.algorithmType
      lastAlertEventType := none, lastAlertAlgorithmType := none }
  if policy.globalAlertCooldownS ≤ 0 then { plain with cooldownS := 0 }
  else if policy.criticalBypass && event.severity = "critical" then plain
  else
    match last with
    | none => plain
    | some row =>
      let known : AlertPolicyDecision :=
        { plain with
          lastAlertTsMs := some row.eventTsMs
          lastAlertEventType := orNone row.eventType
          lastAlertAlgorithmType := orNone row.algorithmType }
      if policy.withinCooldown event row && !policy.identityException event row then
        { known with
          emit := false, reason := some ("camera_" ++ scope.value ++ "_cooldown") }
      else known

def lastAlert (latest : LatestRow) (event : AlertEvent) (rows : List AlertRow) :
    Option AlertRow :=
  latest.pick (alertCandidates policy.cooldownScope event rows)

end AlertPolicy

/-! ## Events one after the other -/

/-- An event and the order in which the database meets ties. -/
structure AlertArrival where
  event : AlertEvent
  latest : LatestRow

def AlertEvent.row (event : AlertEvent) (suppressed : Bool) : AlertRow :=
  { sourceEventId := event.sourceEventId, eventType := event.eventType
    algorithmType := event.algorithmType, eventTsMs := event.eventTsMs, suppressed }

/-- An event whose row is there already is a duplicate; it is not decided again. -/
def isDuplicate (rows : List AlertRow) (event : AlertEvent) : Bool :=
  rows.any (·.sourceEventId = event.sourceEventId)

/-- The decision about a new event, whose row is inserted before. -/
def AlertPolicyService.decide (policy : AlertPolicy) (rows : List AlertRow)
    (arrival : AlertArrival) : AlertPolicyDecision :=
  policy.decideWith arrival.event
    (policy.lastAlert arrival.latest arrival.event (rows ++ [arrival.event.row false]))

namespace AlertPolicy

variable (policy : AlertPolicy)

def handleEvent (rows : List AlertRow) (arrival : AlertArrival) : List AlertRow :=
  if isDuplicate rows arrival.event then rows
  else rows ++ [arrival.event.row (!(AlertPolicyService.decide policy rows arrival).emit)]

/-- A new event that is emitted, neither by the bypass nor by the exception. -/
def emittedPlainly (rows : List AlertRow) (arrival : AlertArrival) : Bool :=
  !isDuplicate rows arrival.event && (AlertPolicyService.decide policy rows arrival).emit &&
    !policy.bypasses arrival.event &&
    ((policy.lastAlert arrival.latest arrival.event
      (rows ++ [arrival.event.row false])).all fun last =>
        !(policy.withinCooldown arrival.event last &&
          policy.identityException arrival.event last))

def alertMachine : OutputMachine (List AlertRow) AlertArrival AlertEvent where
  step := policy.handleEvent
  output rows arrival :=
    if policy.emittedPlainly rows arrival then some arrival.event else none

def Spaced (first second : AlertEvent) : Prop :=
  cooldownKey policy.cooldownScope first.eventType first.algorithmType =
      cooldownKey policy.cooldownScope second.eventType second.algorithmType →
    policy.globalAlertCooldownS * 1000 ≤ first.eventTsMs - second.eventTsMs ∨
      policy.globalAlertCooldownS * 1000 ≤ second.eventTsMs - first.eventTsMs

/-- An unsuppressed row of the scope at or before the event, less than a cooldown from it. -/
def NearBefore (rows : List AlertRow) (event : AlertEvent) : Prop :=
  ∃ row ∈ rows, row.suppressed = false ∧ inScope policy.cooldownScope event row = true ∧
    row.eventTsMs ≤ event.eventTsMs ∧
      event.eventTsMs - row.eventTsMs < policy.globalAlertCooldownS * 1000

/-- Where an event arrives after an alert that it precedes by less than a cooldown, there is
an unsuppressed row before it as well; events without a key are a cooldown apart. -/
structure HeldBack (rows : List AlertRow) (emitted : List AlertEvent) (event : AlertEvent) :
    Prop where
  late : ∀ later ∈ emitted, cooldownKey policy.cooldownScope later.eventType later.algorithmType =
      cooldownKey policy.cooldownScope event.eventType event.algorithmType →
    event.eventTsMs < later.eventTsMs →
      later.eventTsMs - event.eventTsMs < policy.globalAlertCooldownS * 1000 →
        policy.NearBefore rows event
  keyless : cooldownKey policy.cooldownScope event.eventType event.algorithmType = "" →
    ∀ earlier ∈ emitted,
      cooldownKey policy.cooldownScope earlier.eventType earlier.algorithmType = "" →
        earlier.eventTsMs ≤ event.eventTsMs →
          policy.globalAlertCooldownS * 1000 ≤ event.eventTsMs - earlier.eventTsMs

/-- The condition for an event that is new and does not bypass the cooldown. -/
def LateHeldBack (rows : List AlertRow) (emitted : List AlertEvent) (event : AlertEvent) : Prop :=
  isDuplicate rows event = false → policy.bypasses event = false →
    policy.HeldBack rows emitted event

/-! ## Spacing -/

theorem alertCandidates_insert (scope : CooldownScope) (event : AlertEvent)
    (rows : List AlertRow) :
    alertCandidates scope event (rows ++ [event.row false]) =
      alertCandidates scope event rows := by
  rw [alertCandidates, List.filter_append]
  simp [AlertEvent.row, alertCandidates]

variable {event : AlertEvent} {rows : List AlertRow} {scope : CooldownScope}

theorem candidate_not_later {row : AlertRow} (member : row ∈ alertCandidates scope event rows) :
    row.eventTsMs ≤ event.eventTsMs := by
  have passes := (List.mem_filter.mp member).2
  have positive := event.positive
  simp only [Bool.and_eq_true, Bool.or_eq_true, decide_eq_true_eq] at passes
  omega

theorem withinCooldown_last_iff (latest : LatestRow) (event : AlertEvent)
    (rows : List AlertRow) :
    (∃ last, policy.lastAlert latest event rows = some last ∧
        policy.withinCooldown event last = true) ↔
      ∃ row ∈ alertCandidates policy.cooldownScope event rows,
        event.eventTsMs - row.eventTsMs < policy.globalAlertCooldownS * 1000 := by
  have positive := event.positive
  constructor
  · rintro ⟨last, found, within⟩
    refine ⟨last, (latest.latest _ _ found).1, ?_⟩
    simp only [withinCooldown, Bool.and_eq_true, decide_eq_true_eq] at within
    exact within.2
  · rintro ⟨row, member, near⟩
    cases found : policy.lastAlert latest event rows with
    | none =>
      rw [latest.total _ found] at member
      cases member
    | some last =>
      have later := (latest.latest _ _ found).2 row member
      refine ⟨last, rfl, ?_⟩
      simp only [withinCooldown, Bool.and_eq_true, decide_eq_true_eq]
      omega

theorem decideWith_plain_iff {last : Option AlertRow}
    (notLater : ∀ row, last = some row → row.eventTsMs ≤ event.eventTsMs) :
    ((policy.decideWith event last).emit = true ∧ policy.bypasses event = false ∧
        (last.all fun row => !(policy.withinCooldown event row &&
          policy.identityException event row)) = true) ↔
      policy.bypasses event = false ∧
        ¬∃ row, last = some row ∧ policy.withinCooldown event row = true := by
  by_cases disabled : policy.globalAlertCooldownS ≤ 0
  · have never : ∀ row, last = some row → policy.withinCooldown event row = false := by
      intro row found
      have earlier := notLater row found
      rw [Bool.eq_false_iff]
      intro within
      simp only [withinCooldown, Bool.and_eq_true, decide_eq_true_eq] at within
      omega
    have emits : (policy.decideWith event last).emit = true := by
      simp only [decideWith, if_pos disabled]
    have noException : (last.all fun row => !(policy.withinCooldown event row &&
        policy.identityException event row)) = true := by
      cases last with
      | none => rfl
      | some row => simp only [Option.all_some, never row rfl, Bool.false_and, Bool.not_false]
    constructor
    · rintro ⟨_, noBypass, _⟩
      refine ⟨noBypass, ?_⟩
      rintro ⟨row, found, within⟩
      rw [never row found] at within
      cases within
    · rintro ⟨noBypass, _⟩
      exact ⟨emits, noBypass, noException⟩
  · have enabled : decide (0 < policy.globalAlertCooldownS) = true := by
      rw [decide_eq_true_eq]
      omega
    by_cases bypassed : (policy.criticalBypass && event.severity = "critical") = true
    · have bypasses : policy.bypasses event = true := by
        rw [AlertPolicy.bypasses, Bool.and_assoc, enabled, bypassed]
        rfl
      simp only [bypasses, Bool.true_eq_false, false_and, and_false]
    · have noBypass : policy.bypasses event = false := by
        rw [AlertPolicy.bypasses, Bool.and_assoc, enabled, Bool.true_and]
        exact Bool.eq_false_iff.mpr bypassed
      simp only [decideWith, if_neg disabled, if_neg bypassed]
      cases last with
      | none => simp only [noBypass, Option.all_none, reduceCtorEq, false_and, exists_false,
          not_false_eq_true, and_self]
      | some row =>
        simp only [noBypass, Option.all_some, Option.some.injEq, exists_eq_left', true_and]
        cases policy.withinCooldown event row with
        | false => simp only [Bool.false_and, Bool.false_eq_true, if_false, Bool.not_false,
            not_false_eq_true, and_self]
        | true =>
          cases policy.identityException event row with
          | false => simp only [Bool.not_false, Bool.and_self, if_true, Bool.false_eq_true,
              false_and, not_true_eq_false]
          | true => simp only [Bool.not_true, Bool.and_false, Bool.and_true,
              Bool.false_eq_true, if_false, and_false, not_true_eq_false]

/-- An event is emitted plainly if it is new, does not bypass the cooldown and no row of
its scope lies within the cooldown before it. -/
theorem emittedPlainly_iff (rows : List AlertRow) (arrival : AlertArrival) :
    policy.emittedPlainly rows arrival = true ↔
      isDuplicate rows arrival.event = false ∧ policy.bypasses arrival.event = false ∧
        ¬∃ row ∈ alertCandidates policy.cooldownScope arrival.event rows,
          arrival.event.eventTsMs - row.eventTsMs < policy.globalAlertCooldownS * 1000 := by
  have same : policy.lastAlert arrival.latest arrival.event
      (rows ++ [arrival.event.row false]) =
        policy.lastAlert arrival.latest arrival.event rows := by
    rw [lastAlert, alertCandidates_insert, lastAlert]
  have notLater : ∀ row, policy.lastAlert arrival.latest arrival.event rows = some row →
      row.eventTsMs ≤ arrival.event.eventTsMs := fun row found =>
    candidate_not_later (arrival.latest.latest _ row found).1
  have plain := policy.decideWith_plain_iff notLater
  rw [← policy.withinCooldown_last_iff arrival.latest, ← plain]
  simp only [emittedPlainly, AlertPolicyService.decide, same, Bool.and_eq_true,
    Bool.not_eq_true', and_assoc]

theorem nearBefore_iff (isNew : isDuplicate rows event = false) :
    (∃ row ∈ alertCandidates policy.cooldownScope event rows,
        event.eventTsMs - row.eventTsMs < policy.globalAlertCooldownS * 1000) ↔
      policy.NearBefore rows event := by
  have positive := event.positive
  have notAgain : ∀ row ∈ rows, row.sourceEventId ≠ event.sourceEventId := by
    intro row member
    have differs := List.any_eq_false.mp isNew row member
    rwa [decide_eq_true_eq] at differs
  constructor
  · rintro ⟨row, member, near⟩
    have notLater := candidate_not_later member
    rcases List.mem_filter.mp member with ⟨inRows, passes⟩
    simp only [Bool.and_eq_true, Bool.not_eq_true'] at passes
    exact ⟨row, inRows, passes.1.1.2, passes.2, notLater, near⟩
  · rintro ⟨row, inRows, unsuppressed, ofScope, notLater, near⟩
    refine ⟨row, List.mem_filter.mpr ⟨inRows, ?_⟩, near⟩
    simp only [Bool.and_eq_true, Bool.or_eq_true, decide_eq_true_eq, unsuppressed, ofScope]
    exact ⟨⟨⟨notAgain row inRows, rfl⟩, .inr notLater⟩, trivial⟩

theorem emittedPlainly_iff_nearBefore (rows : List AlertRow) (arrival : AlertArrival) :
    policy.emittedPlainly rows arrival = true ↔
      isDuplicate rows arrival.event = false ∧ policy.bypasses arrival.event = false ∧
        ¬policy.NearBefore rows arrival.event := by
  rw [policy.emittedPlainly_iff]
  exact and_congr_right fun isNew => by rw [policy.nearBefore_iff isNew]

theorem inScope_of_key {first second : AlertEvent}
    (sameKey : cooldownKey scope first.eventType first.algorithmType =
      cooldownKey scope second.eventType second.algorithmType)
    (keyed : cooldownKey scope second.eventType second.algorithmType ≠ "") :
    inScope scope second (first.row false) = true := by
  cases scope with
  | global => rfl
  | eventType | algorithm =>
    simp only [inScope, Bool.and_eq_true, decide_eq_true_eq]
    exact ⟨keyed, sameKey⟩

theorem key_ne_of_inScope {row : AlertRow} (ofScope : inScope scope event row = true) :
    cooldownKey scope event.eventType event.algorithmType ≠ "" := by
  cases scope with
  | global =>
    rw [cooldownKey]
    decide
  | eventType | algorithm =>
    simp only [inScope, Bool.and_eq_true, decide_eq_true_eq] at ofScope
    exact ofScope.1

theorem emitted_mem_run (rows : List AlertRow) (arrivals : List AlertArrival) :
    ∀ emitted ∈ policy.alertMachine.trace rows arrivals,
      emitted.row false ∈ policy.alertMachine.run rows arrivals := by
  refine policy.alertMachine.remembers (fun rows emitted => emitted.row false ∈ rows)
    (fun _ _ => True) ?_ ?_ rows (fun _ _ _ _ => trivial)
  · intro state arrival event _ put
    simp only [alertMachine, Option.ite_none_right_eq_some, Option.some.injEq] at put
    rcases put with ⟨plain, rfl⟩
    have isNew := ((policy.emittedPlainly_iff state arrival).mp plain).1
    simp only [emittedPlainly, Bool.and_eq_true] at plain
    simp only [alertMachine, handleEvent, isNew, plain.1.1.2, Bool.false_eq_true, if_false,
      Bool.not_true]
    exact List.mem_append_right _ (List.mem_singleton_self _)
  · intro state arrival event _ member
    simp only [alertMachine, handleEvent]
    split
    · exact member
    · exact List.mem_append_left _ member

theorem spaced_step_iff {emitted : List AlertEvent}
    (remembered : ∀ event ∈ emitted, event.row false ∈ rows) (arrival : AlertArrival) :
    (∀ item ∈ policy.alertMachine.output rows arrival, ∀ earlier ∈ emitted,
      policy.Spaced earlier item) ↔ policy.LateHeldBack rows emitted arrival.event := by
  have put : ∀ item, item ∈ policy.alertMachine.output rows arrival ↔
      policy.emittedPlainly rows arrival = true ∧ arrival.event = item := by
    intro item
    simp only [alertMachine]
    rw [Option.mem_def, Option.ite_none_right_eq_some, Option.some.injEq]
  constructor
  · intro spaced isNew noBypass
    have apart (notNear : ¬policy.NearBefore rows arrival.event) :
        ∀ earlier ∈ emitted, policy.Spaced earlier arrival.event :=
      spaced _ ((put _).mpr
        ⟨(policy.emittedPlainly_iff_nearBefore rows arrival).mpr ⟨isNew, noBypass, notNear⟩, rfl⟩)
    constructor
    · intro later member sameKey isLater near
      by_contra notNear
      have spacing := apart notNear later member sameKey
      omega
    · intro noKey earlier member earlierNoKey notLater
      have notNear : ¬policy.NearBefore rows arrival.event := by
        rintro ⟨row, _, _, ofScope, _⟩
        exact key_ne_of_inScope ofScope noKey
      have spacing := apart notNear earlier member (earlierNoKey.trans noKey.symm)
      omega
  · intro held item isPut earlier member sameKey
    rcases (put item).mp isPut with ⟨plain, rfl⟩
    rcases (policy.emittedPlainly_iff_nearBefore rows arrival).mp plain with
      ⟨isNew, noBypass, notNear⟩
    have heldBack := held isNew noBypass
    by_contra near
    by_cases isLater : arrival.event.eventTsMs < earlier.eventTsMs
    · exact notNear (heldBack.late earlier member sameKey isLater (by omega))
    · by_cases noKey :
        cooldownKey policy.cooldownScope arrival.event.eventType arrival.event.algorithmType = ""
      · have spacing := heldBack.keyless noKey earlier member (sameKey.trans noKey) (by omega)
        omega
      · have row := remembered earlier member
        have atTime : (earlier.row false).eventTsMs = earlier.eventTsMs := rfl
        exact notNear ⟨_, row, rfl, inScope_of_key sameKey noKey, by omega, by omega⟩

/-- Alerts of one scope are a cooldown apart exactly if a row holds back every event that
arrives after an alert which it precedes by less than a cooldown. -/
theorem alerts_spaced_iff (rows : List AlertRow) (arrivals : List AlertArrival) :
    (policy.alertMachine.trace rows arrivals).Pairwise policy.Spaced ↔
      OutputMachine.AtEachStep arrivals fun before arrival =>
        policy.LateHeldBack (policy.alertMachine.run rows before)
          (policy.alertMachine.trace rows before) arrival.event := by
  rw [OutputMachine.pairwise_trace_iff]
  simp only [policy.spaced_step_iff (policy.emitted_mem_run rows _)]

end AlertPolicy

end VideoAnalysis.Event
