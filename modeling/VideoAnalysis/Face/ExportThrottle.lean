import VideoAnalysis.Face.ReidGate

/-! # From the gate to the export

Behind the embedding the quality gate decides on each face of a frame; the exporter then sends
what the gate has allowed, with a throttle of its own. Both go by the same keys and the same
interval, but each keeps its own memory.
-/

namespace VideoAnalysis.Face

open VideoAnalysis.Behavior VideoAnalysis.Foundation
open ReIDThrottleMap (scope)

/-! ## The stages -/

/-- What the gate attaches to a face; no reason is read as "ok". -/
structure GateVerdict where
  reidAllowed : Bool
  skipReason : Option SkipReason
  throttleKey : String

structure ExportSetup where
  quality : ReIDGateConfig
  refresh : IdentityRefreshConfig
  cameraOf : String → String
  exporterCameraOf : String → String

/-- What becomes of a face. -/
structure FaceOutcome where
  face : FaceObject
  verdict : GateVerdict
  exported : Bool

namespace FaceReidGate

/-- The time of a frame; a PTS that is zero or below counts as none. -/
def timestampMs (frameCount : Nat) (pts : Int) : Nat :=
  if normalizePtsToMs pts = 0 then frameCount else normalizePtsToMs pts

def throttleKey (setup : ExportSetup) (frame : Frame) (face : FaceObject) : String :=
  faceThrottleKey (setup.cameraOf frame.source) frame.source face.personTrackId

variable (setup : ExportSetup) (frame : Frame) (timestampMs : Nat)

def processFace (identity : IdentityRefreshPolicy) (face : FaceObject) :
    IdentityRefreshPolicy × GateVerdict :=
  let key := throttleKey setup frame face
  match evaluateReidGate setup.quality face with
  | some reason => (identity, ⟨false, some reason, key⟩)
  | none =>
    let (identity, decision) :=
      identity.decideRecognition setup.refresh key timestampMs face.clear
    if decision.allowed then
      (identity.record setup.refresh key timestampMs face.clear, ⟨true, none, key⟩)
    else (identity, ⟨false, some .throttled, key⟩)

def processFaces (identity : IdentityRefreshPolicy) :
    List FaceObject → IdentityRefreshPolicy × List (FaceObject × GateVerdict)
  | [] => (identity, [])
  | face :: rest =>
    let (identity, verdict) := processFace setup frame timestampMs identity face
    let (identity, verdicts) := processFaces identity rest
    (identity, (face, verdict) :: verdicts)

end FaceReidGate

namespace FaceObservationExporter

variable (setup : ExportSetup) (frame : Frame) (timestampMs : Nat)

def processFace (throttle : ReIDThrottleMap) (face : FaceObject) (verdict : GateVerdict) :
    ReIDThrottleMap × FaceOutcome :=
  let skipped : FaceOutcome := ⟨face, verdict, false⟩
  if ¬ verdict.reidAllowed then (throttle, skipped)
  else if verdict.skipReason ≠ none then (throttle, skipped)
  else if face.personTrackId ≤ 0 then (throttle, skipped)
  else if face.feature.getD [] = [] then (throttle, skipped)
  else
    let key :=
      if verdict.throttleKey = "" then
        faceThrottleKey (setup.exporterCameraOf frame.source) frame.source face.personTrackId
      else verdict.throttleKey
    let (throttle, allowed) := throttle.isAllowed key timestampMs
    if ¬ allowed then (throttle, skipped)
    else (throttle.record key timestampMs, ⟨face, verdict, true⟩)

def processFaces (throttle : ReIDThrottleMap) :
    List (FaceObject × GateVerdict) → ReIDThrottleMap × List FaceOutcome
  | [] => (throttle, [])
  | (face, verdict) :: rest =>
    let (throttle, outcome) := processFace setup frame timestampMs throttle face verdict
    let (throttle, outcomes) := processFaces throttle rest
    (throttle, outcome :: outcomes)

end FaceObservationExporter

open FaceReidGate (throttleKey)

structure Stages where
  frameCount : Nat := 0
  identity : IdentityRefreshPolicy := {}
  throttle : ReIDThrottleMap
  outcomes : List FaceOutcome := []

namespace Stages

variable (setup : ExportSetup)

/-- A frame goes through the gate and then through the exporter. -/
def processFrame (stages : Stages) (frame : Frame) : Stages :=
  let frameCount := stages.frameCount + 1
  let gated := FaceReidGate.processFaces setup frame
    (FaceReidGate.timestampMs frameCount frame.pts) stages.identity frame.faces
  let exported := FaceObservationExporter.processFaces setup frame
    (frameTimeMs frameCount frame.pts) stages.throttle gated.2
  ⟨frameCount, gated.1, exported.1, stages.outcomes ++ exported.2⟩

def initial : Stages where
  throttle := ReIDThrottleMap.create setup.refresh.minIntervalMs 60000

def run (frames : List Frame) : Stages := frames.foldl (processFrame setup) (initial setup)

/-- A face that the gate allows, with an embedding and a track, is exported. -/
def Delivered (outcome : FaceOutcome) : Prop :=
  outcome.verdict.reidAllowed = true → outcome.face.feature.getD [] ≠ [] →
    0 < outcome.face.personTrackId → outcome.exported = true

def Delivers (frames : List Frame) : Prop :=
  ∀ outcome ∈ (run setup frames).outcomes, Delivered outcome

/-! ## When the throttle agrees -/

def lastExport (throttle : ReIDThrottleMap) (key : String) : Option Nat :=
  (throttle.keysOf (scope key)).get key

/-- A face that passes the rules does not come before the last export that the throttle
remembers, and within the interval only when the gate remembers its track as well. -/
def FaceOnTime (frame : Frame) (timestampMs : Nat) (identity : IdentityRefreshPolicy)
    (throttle : ReIDThrottleMap) (face : FaceObject) : Prop :=
  evaluateReidGate setup.quality face = none →
    let key := throttleKey setup frame face
    setup.refresh.minIntervalMs = 0 ∨
      ∀ last, lastExport (throttle.maybePrune (scope key) timestampMs) key = some last →
        last ≤ timestampMs ∧
          (((identity.maybePrune setup.refresh (scope key) timestampMs).stateOf key).isSome ∨
            last + setup.refresh.minIntervalMs ≤ timestampMs)

/-- Each face of a frame is on time, with what both stages remember when it comes to it. -/
def FacesOnTime (frame : Frame) (timestampMs : Nat) :
    IdentityRefreshPolicy → ReIDThrottleMap → List FaceObject → Prop
  | _, _, [] => True
  | identity, throttle, face :: rest =>
    let gated := FaceReidGate.processFace setup frame timestampMs identity face
    let exported := FaceObservationExporter.processFace setup frame timestampMs throttle face
      gated.2
    FaceOnTime setup frame timestampMs identity throttle face ∧
      FacesOnTime frame timestampMs gated.1 exported.1 rest

def OnTime (frames : List Frame) : Prop :=
  ∀ before frame, before ++ [frame] <+: frames →
    let stages := run setup before
    FacesOnTime setup frame (frameTimeMs (stages.frameCount + 1) frame.pts) stages.identity
      stages.throttle frame.faces

/-! ## The throttle's memory -/

section Throttle

variable {throttle : ReIDThrottleMap} {name key other : String} {timestampMs last : Nat}

theorem maybePrune_throttle (throttle : ReIDThrottleMap) (name : String) (timestampMs : Nat) :
    (throttle.maybePrune name timestampMs).minIntervalMs = throttle.minIntervalMs ∧
      ((throttle.maybePrune name timestampMs).lastAllowed = throttle.lastAllowed ∨
        ∃ wanted, (throttle.maybePrune name timestampMs).lastAllowed =
          ScopedDict.prune throttle.lastAllowed name wanted) := by
  rw [ReIDThrottleMap.maybePrune]
  split
  · exact ⟨rfl, .inl rfl⟩
  split
  · exact ⟨rfl, .inl rfl⟩
  dsimp only
  split
  · exact ⟨rfl, .inl rfl⟩
  next keys known =>
    have isKeys : ScopedDict.keysOf throttle.lastAllowed name = keys := by
      rw [ScopedDict.keysOf, known]
      rfl
    split
    · exact ⟨rfl, .inl rfl⟩
    next notEmpty =>
      split
      next dropped =>
        refine ⟨rfl, .inr ⟨fun seen =>
          decide (((timestampMs : Int) - seen).natAbs ≤ throttle.stateTtlMs), ?_⟩⟩
        rw [ScopedDict.prune, known]
        dsimp only
        rw [if_neg notEmpty, if_pos dropped]
      next kept =>
        refine ⟨rfl, .inr ⟨fun seen =>
          decide (((timestampMs : Int) - seen).natAbs ≤ throttle.stateTtlMs), ?_⟩⟩
        rw [ScopedDict.prune, known]
        dsimp only
        rw [if_neg notEmpty, if_neg kept]

theorem once_maybePrune (once : ScopedDict.Once throttle.lastAllowed) :
    ScopedDict.Once (throttle.maybePrune name timestampMs).lastAllowed := by
  rcases (maybePrune_throttle throttle name timestampMs).2 with same | ⟨wanted, pruned⟩
  · rw [same]
    exact once
  · rw [pruned]
    exact once.prune wanted

theorem lastExport_of_maybePrune (once : ScopedDict.Once throttle.lastAllowed)
    (known : lastExport (throttle.maybePrune name timestampMs) key = some last) :
    lastExport throttle key = some last := by
  have isFind : ∀ (map : ReIDThrottleMap),
      lastExport map key = ScopedDict.find map.lastAllowed (scope key) key := fun _ => rfl
  rw [isFind] at known ⊢
  rcases (maybePrune_throttle throttle name timestampMs).2 with same | ⟨wanted, pruned⟩
  · rwa [same] at known
  · rw [pruned, ScopedDict.find_prune once] at known
    split at known
    · exact (Option.filter_eq_some_iff.mp known).1
    · exact known

theorem lastExport_record :
    lastExport (throttle.record key timestampMs) other =
      if other = key then some timestampMs
      else lastExport (throttle.maybePrune (scope key) timestampMs) other := by
  have isPut : (throttle.record key timestampMs).lastAllowed =
      ScopedDict.put (throttle.maybePrune (scope key) timestampMs).lastAllowed (scope key) key
        timestampMs := rfl
  have isFind : ∀ (map : ReIDThrottleMap),
      lastExport map other = ScopedDict.find map.lastAllowed (scope other) other := fun _ => rfl
  rw [isFind, isPut, ScopedDict.find_put]
  by_cases same : other = key
  · rw [if_pos ⟨congrArg scope same, same⟩, if_pos same]
  · rw [if_neg (fun both => same both.2), if_neg same, isFind]

end Throttle

/-! ## Both stages together -/

/-- Where both stages remember a track, they remember the same time. -/
structure Related (refresh : IdentityRefreshConfig) (identity : IdentityRefreshPolicy)
    (throttle : ReIDThrottleMap) : Prop where
  onceIdentity : identity.Once
  onceThrottle : ScopedDict.Once throttle.lastAllowed
  interval : throttle.minIntervalMs = refresh.minIntervalMs
  agree : ∀ key last state, lastExport throttle key = some last →
    identity.stateOf key = some state → state.lastRecognizedMs = last

section Relation

variable {refresh : IdentityRefreshConfig} {identity : IdentityRefreshPolicy}
  {throttle : ReIDThrottleMap} {name key : String} {timestampMs : Nat} {clear : Bool}

theorem Related.pruneIdentity (related : Related refresh identity throttle) :
    Related refresh (identity.maybePrune refresh name timestampMs) throttle where
  onceIdentity := related.onceIdentity.maybePrune
  onceThrottle := related.onceThrottle
  interval := related.interval
  agree := by
    intro key last state isLast known
    rcases @IdentityRefreshPolicy.stateOf_maybePrune refresh identity name timestampMs
      related.onceIdentity key with same | ⟨_, forgotten, _⟩
    · rw [same] at known
      exact related.agree key last state isLast known
    · rw [forgotten] at known
      exact absurd known.symm (Option.some_ne_none _)

theorem Related.pruneThrottle (related : Related refresh identity throttle) :
    Related refresh identity (throttle.maybePrune name timestampMs) where
  onceIdentity := related.onceIdentity
  onceThrottle := once_maybePrune related.onceThrottle
  interval := (maybePrune_throttle throttle name timestampMs).1.trans related.interval
  agree := fun key last state isLast known =>
    related.agree key last state (lastExport_of_maybePrune related.onceThrottle isLast) known

theorem Related.record (related : Related refresh identity throttle) :
    Related refresh (identity.record refresh key timestampMs clear)
      (throttle.record key timestampMs) where
  onceIdentity := related.onceIdentity.record
  onceThrottle := (once_maybePrune related.onceThrottle).put timestampMs
  interval := (maybePrune_throttle throttle _ timestampMs).1.trans related.interval
  agree := by
    intro other last state isLast known
    rw [lastExport_record] at isLast
    rw [IdentityRefreshPolicy.stateOf_record] at known
    split at isLast
    next same =>
      rw [if_pos same, Option.some.injEq] at known
      rw [Option.some.injEq] at isLast
      rw [← known, ← isLast]
    next different =>
      rw [if_neg different] at known
      have pruned : Related refresh (identity.maybePrune refresh (scope key) timestampMs)
          (throttle.maybePrune (scope key) timestampMs) := related.pruneIdentity.pruneThrottle
      exact pruned.agree other last state isLast known

theorem known_of_refused {state : Option TrackIdentityState}
    (refused : (refreshDecision refresh timestampMs clear state).allowed = false) :
    ∃ known, state = some known ∧ known.lastRecognizedMs ≤ timestampMs := by
  cases state with
  | none => exact Bool.noConfusion refused
  | some known =>
    refine ⟨known, rfl, ?_⟩
    by_contra reset
    rw [allowed_of_reset (not_le.mp reset)] at refused
    exact Bool.noConfusion refused

end Relation

theorem faceThrottleKey_ne_empty (cameraId sourceId : String) (trackId : Int) :
    faceThrottleKey cameraId sourceId trackId ≠ "" := by
  intro empty
  have colon : ':' ∈ (faceThrottleKey cameraId sourceId trackId).toList := by
    simp only [faceThrottleKey, String.toList_append, List.mem_append]
    exact .inl (.inr (by decide))
  rw [empty] at colon
  exact absurd colon (by decide)

section Steps

variable {setup : ExportSetup} {frame : Frame} {timestampMs : Nat}
  {identity : IdentityRefreshPolicy} {throttle : ReIDThrottleMap} {face : FaceObject}

theorem export_skipped {verdict : GateVerdict} (refused : verdict.reidAllowed = false) :
    FaceObservationExporter.processFace setup frame timestampMs throttle face verdict =
      (throttle, ⟨face, verdict, false⟩) := by
  rw [FaceObservationExporter.processFace, refused]
  rfl

theorem export_allowed (passes : evaluateReidGate setup.quality face = none) :
    FaceObservationExporter.processFace setup frame timestampMs throttle face
        ⟨true, none, throttleKey setup frame face⟩ =
      let key := throttleKey setup frame face
      let answer := throttle.isAllowed key timestampMs
      if answer.2 = true then
        (answer.1.record key timestampMs, ⟨face, ⟨true, none, key⟩, true⟩)
      else (answer.1, ⟨face, ⟨true, none, key⟩, false⟩) := by
  have tracked := tracked_of_candidate (candidate_of_gate passes)
  have hasFeature := hasFeature_of_gate passes
  have hasKey : throttleKey setup frame face ≠ "" := faceThrottleKey_ne_empty _ _ _
  rw [FaceObservationExporter.processFace, if_neg (not_not.mpr rfl), if_neg (not_not.mpr rfl),
    if_neg (not_le.mpr tracked), if_neg hasFeature]
  dsimp only
  rw [if_neg hasKey]
  by_cases allowed :
      (throttle.isAllowed (throttleKey setup frame face) timestampMs).2 = true
  · rw [if_neg (not_not.mpr allowed), if_pos allowed]
  · rw [if_pos allowed, if_neg allowed]

/-- The throttle lets an allowed face through exactly when it comes on time. -/
theorem allowed_iff_onTime (related : Related setup.refresh identity throttle)
    (passes : evaluateReidGate setup.quality face = none)
    (allowed : (refreshDecision setup.refresh timestampMs face.clear
      ((identity.maybePrune setup.refresh (scope (throttleKey setup frame face))
        timestampMs).stateOf (throttleKey setup frame face))).allowed = true) :
    (throttle.isAllowed (throttleKey setup frame face) timestampMs).2 = true ↔
      FaceOnTime setup frame timestampMs identity throttle face := by
  rw [FaceOnTime, ReIDThrottleMap.isAllowed, related.interval]
  generalize throttleKey setup frame face = key at allowed ⊢
  by_cases always : setup.refresh.minIntervalMs = 0
  · rw [if_pos always]
    exact ⟨fun _ _ => .inl always, fun _ => rfl⟩
  rw [if_neg always, ReIDThrottleMap.isAllowedReID]
  have pruned : Related setup.refresh (identity.maybePrune setup.refresh (scope key) timestampMs)
      (throttle.maybePrune (scope key) timestampMs) := related.pruneIdentity.pruneThrottle
  dsimp only
  rw [← lastExport]
  cases isLast : lastExport (throttle.maybePrune (scope key) timestampMs) key with
  | none =>
    refine ⟨fun _ _ => .inr fun last other => ?_, fun _ => rfl⟩
    exact absurd other.symm (Option.some_ne_none _)
  | some last =>
    dsimp only
    rw [pruned.interval, decide_eq_true_eq]
    constructor
    · intro late _
      refine .inr fun other same => ?_
      rw [Option.some.injEq] at same
      exact ⟨by omega, .inr (by omega)⟩
    · intro onTime
      rcases (onTime passes).resolve_left always last rfl with ⟨notBefore, remembered | late⟩
      · rcases Option.isSome_iff_exists.mp remembered with ⟨state, known⟩
        have same := pruned.agree key last state isLast known
        rw [known] at allowed
        have elapsed := elapsed_of_allowed (same.le.trans notBefore) allowed
        omega
      · omega

/-- One face goes through both stages: it is delivered exactly when it comes on time, and then
both memories forget by its time and remember it. -/
theorem Related.processFace (related : Related setup.refresh identity throttle)
    (face : FaceObject) (holds : IdentityRefreshPolicy → ReIDThrottleMap → Prop)
    (before : holds identity throttle)
    (pruneIdentity : ∀ {identity throttle}, holds identity throttle →
      holds (identity.maybePrune setup.refresh (scope (throttleKey setup frame face))
        timestampMs) throttle)
    (pruneThrottle : ∀ {identity throttle}, holds identity throttle → holds identity
      (throttle.maybePrune (scope (throttleKey setup frame face)) timestampMs))
    (record : ∀ {identity throttle}, holds identity throttle → holds
      (identity.record setup.refresh (throttleKey setup frame face) timestampMs
        face.clear)
      (throttle.record (throttleKey setup frame face) timestampMs)) :
    let gated := FaceReidGate.processFace setup frame timestampMs identity face
    let exported := FaceObservationExporter.processFace setup frame timestampMs throttle face
      gated.2
    (Delivered exported.2 ↔ FaceOnTime setup frame timestampMs identity throttle face) ∧
      (Delivered exported.2 → holds gated.1 exported.1) := by
  rw [FaceReidGate.processFace]
  cases passes : evaluateReidGate setup.quality face with
  | some =>
    dsimp only
    rw [export_skipped rfl]
    refine ⟨⟨fun _ isNone => ?_, fun _ => nofun⟩, fun _ => before⟩
    rw [passes] at isNone
    exact absurd isNone (Option.some_ne_none _)
  | none =>
    dsimp only [IdentityRefreshPolicy.decideRecognition]
    cases decision : (refreshDecision setup.refresh timestampMs face.clear
        ((identity.maybePrune setup.refresh
          (scope (throttleKey setup frame face)) timestampMs).stateOf
            (throttleKey setup frame face))).allowed with
    | false =>
      simp only [Bool.false_eq_true, if_false]
      rw [export_skipped rfl]
      refine ⟨⟨fun _ _ => .inr fun last isLast => ?_, fun _ => nofun⟩,
        fun _ => pruneIdentity before⟩
      rcases known_of_refused decision with ⟨state, known, notLater⟩
      have pruned : Related setup.refresh
          (identity.maybePrune setup.refresh
            (scope (throttleKey setup frame face)) timestampMs)
          (throttle.maybePrune (scope (throttleKey setup frame face))
            timestampMs) := related.pruneIdentity.pruneThrottle
      have same := pruned.agree _ last state isLast known
      exact ⟨same ▸ notLater, .inl (Option.isSome_iff_exists.mpr ⟨state, known⟩)⟩
    | true =>
      simp only [if_true]
      rw [export_allowed passes]
      have onTime := allowed_iff_onTime related passes decision
      have kept : holds (identity.maybePrune setup.refresh
            (scope (throttleKey setup frame face)) timestampMs)
          (throttle.isAllowed (throttleKey setup frame face) timestampMs).1 := by
        rw [ReIDThrottleMap.isAllowed]
        split
        · exact pruneIdentity before
        · rw [ReIDThrottleMap.isAllowedReID]
          split
          all_goals exact pruneThrottle (pruneIdentity before)
      have tracked := tracked_of_candidate (candidate_of_gate passes)
      have hasFeature := hasFeature_of_gate passes
      dsimp only
      split
      next lets => exact ⟨⟨fun _ => onTime.mp lets, fun _ _ _ _ => rfl⟩, fun _ => record kept⟩
      next stops =>
        have lost : ¬ Delivered (⟨face, ⟨true, none,
            throttleKey setup frame face⟩, false⟩ : FaceOutcome) :=
          fun delivered => Bool.noConfusion (delivered rfl hasFeature tracked)
        exact ⟨⟨fun delivered => absurd delivered lost,
          fun isOnTime => absurd (onTime.mpr isOnTime) stops⟩,
          fun delivered => absurd delivered lost⟩

/-- The faces of a frame are delivered exactly when each comes on time. -/
theorem Related.processFaces (related : Related setup.refresh identity throttle)
    (faces : List FaceObject) :
    let gated := FaceReidGate.processFaces setup frame timestampMs identity faces
    let exported := FaceObservationExporter.processFaces setup frame timestampMs throttle gated.2
    ((∀ outcome ∈ exported.2, Delivered outcome) ↔
        FacesOnTime setup frame timestampMs identity throttle faces) ∧
      ((∀ outcome ∈ exported.2, Delivered outcome) →
        Related setup.refresh gated.1 exported.1) := by
  induction faces generalizing identity throttle with
  | nil => exact ⟨⟨fun _ => trivial, fun _ _ member => absurd member List.not_mem_nil⟩,
      fun _ => related⟩
  | cons face _ induction =>
    have step := @Related.processFace setup frame timestampMs identity throttle related face
      (Related setup.refresh) related (·.pruneIdentity) (·.pruneThrottle) (·.record)
    dsimp only [FaceReidGate.processFaces, FaceObservationExporter.processFaces, FacesOnTime]
      at step ⊢
    rw [List.forall_mem_cons, step.1]
    constructor
    · refine and_congr_right fun onTime => ?_
      exact (induction (step.2 (step.1.mpr onTime))).1
    · rintro ⟨onTime, delivered⟩
      exact (induction (step.2 (step.1.mpr onTime))).2 delivered

end Steps

/-! ## Runs -/

section Runs

variable {setup : ExportSetup} {frame : Frame} {frames : List Frame}

theorem processFaces_rejected {identity : IdentityRefreshPolicy} {faces : List FaceObject}
    (rejected : ∀ face ∈ faces, evaluateReidGate setup.quality face ≠ none)
    (timestampMs otherMs : Nat) :
    FaceReidGate.processFaces setup frame timestampMs identity faces =
      FaceReidGate.processFaces setup frame otherMs identity faces := by
  induction faces with
  | nil => rfl
  | cons face _ induction =>
    have first : ∀ ms, FaceReidGate.processFace setup frame ms identity face =
        (identity, ⟨false, evaluateReidGate setup.quality face,
          throttleKey setup frame face⟩) := by
      intro ms
      rw [FaceReidGate.processFace]
      cases reason : evaluateReidGate setup.quality face with
      | none => exact absurd reason (rejected face List.mem_cons_self)
      | some => rfl
    rw [FaceReidGate.processFaces, FaceReidGate.processFaces, first, first]
    dsimp only
    rw [induction fun other member => rejected other (List.mem_cons_of_mem _ member)]

theorem timestampMs_eq (frameCount : Nat) {pts : Int} (notNegative : 0 ≤ pts) :
    FaceReidGate.timestampMs frameCount pts = frameTimeMs frameCount pts := by
  rw [FaceReidGate.timestampMs, frameTimeMs]
  by_cases zero : pts = 0
  · rw [if_pos zero, zero]
    rfl
  · have positive : normalizePtsToMs pts ≠ 0 := by
      rw [normalizePtsToMs, if_neg zero, if_neg (not_lt.mpr notNegative)]
      split
      · omega
      split
      all_goals omega
    rw [if_neg zero, if_neg positive]

/-- No face that passes the rules is in a frame with a negative PTS. -/
def ClocksAgree (setup : ExportSetup) (frames : List Frame) : Prop :=
  ∀ frame ∈ frames, ∀ face ∈ frame.faces, evaluateReidGate setup.quality face = none →
    0 ≤ frame.pts

theorem processFrame_eq (stages : Stages)
    (agree : ∀ face ∈ frame.faces, evaluateReidGate setup.quality face = none → 0 ≤ frame.pts) :
    processFrame setup stages frame =
      let timestampMs := frameTimeMs (stages.frameCount + 1) frame.pts
      let gated := FaceReidGate.processFaces setup frame timestampMs stages.identity frame.faces
      let exported := FaceObservationExporter.processFaces setup frame timestampMs
        stages.throttle gated.2
      ⟨stages.frameCount + 1, gated.1, exported.1, stages.outcomes ++ exported.2⟩ := by
  have sameTime : FaceReidGate.processFaces setup frame
      (FaceReidGate.timestampMs (stages.frameCount + 1) frame.pts) stages.identity frame.faces =
      FaceReidGate.processFaces setup frame (frameTimeMs (stages.frameCount + 1) frame.pts)
        stages.identity frame.faces := by
    by_cases notNegative : 0 ≤ frame.pts
    · rw [timestampMs_eq _ notNegative]
    · exact processFaces_rejected
        (fun face member passes => notNegative (agree face member passes)) _ _
  rw [processFrame, sameTime]

theorem run_snoc (frames : List Frame) (frame : Frame) :
    run setup (frames ++ [frame]) = processFrame setup (run setup frames) frame := by
  rw [run, List.foldl_append]
  rfl

theorem related_initial (setup : ExportSetup) :
    Related setup.refresh (initial setup).identity (initial setup).throttle where
  onceIdentity := ScopedDict.once_empty
  onceThrottle := ScopedDict.once_empty
  interval := Int.toNat_natCast _
  agree := fun _ _ _ isLast _ => absurd isLast.symm (Option.some_ne_none _)

/-- While everything is delivered the stages agree, and everything is delivered exactly while
every face comes on time. -/
theorem run_related (agree : ClocksAgree setup frames) :
    (Delivers setup frames ↔ OnTime setup frames) ∧
      (Delivers setup frames →
        Related setup.refresh (run setup frames).identity (run setup frames).throttle) := by
  induction frames using List.reverseRecOn with
  | nil =>
    refine ⟨⟨fun _ before frame isPrefix => ?_, fun _ _ member =>
      absurd member List.not_mem_nil⟩, fun _ => related_initial setup⟩
    exact absurd (List.prefix_nil.mp isPrefix) (by simp)
  | append_singleton frames frame induction =>
    have reached := induction fun other member => agree other (List.mem_append_left _ member)
    have last := agree frame (List.mem_append_right _ List.mem_cons_self)
    have onTime_snoc : OnTime setup (frames ++ [frame]) ↔ OnTime setup frames ∧
        FacesOnTime setup frame (frameTimeMs ((run setup frames).frameCount + 1) frame.pts)
          (run setup frames).identity (run setup frames).throttle frame.faces := by
      constructor
      · intro onTime
        exact ⟨fun before other isPrefix =>
          onTime before other (isPrefix.trans (List.prefix_append _ _)),
          onTime frames frame (List.prefix_refl _)⟩
      · rintro ⟨earlier, now⟩ before other isPrefix
        rcases List.prefix_concat_iff.mp isPrefix with same | inside
        · rcases List.append_inj' same rfl with ⟨rfl, sameFrame⟩
          cases List.singleton_inj.mp sameFrame
          exact now
        · exact earlier before other inside
    rw [Delivers, onTime_snoc, run_snoc, processFrame_eq _ last]
    dsimp only
    rw [List.forall_mem_append]
    constructor
    · rw [← reached.1]
      exact and_congr_right fun delivers => ((reached.2 delivers).processFaces _).1
    · rintro ⟨delivers, delivered⟩
      exact ((reached.2 delivers).processFaces _).2 delivered

/-- The throttle never drops what the gate has allowed exactly when no face that passes the
gate's rules comes too early for what the throttle remembers. -/
theorem delivers_iff_onTime (agree : ClocksAgree setup frames) :
    Delivers setup frames ↔ OnTime setup frames :=
  (run_related agree).1

def embeddedFace : FaceObject where
  personTrackId := 1
  confidence := .finite false 1
  width := .finite false 100
  height := .finite false 100
  landmarks := some (List.replicate 10 (.finite false 50))
  clear := true
  feature := some (List.replicate 512 (.finite false (1 / 16)))
  embeddingNorm := .finite false 1

def defaultSetup : ExportSetup where
  quality := ⟨.ofRat (9 / 20), .ofRat 40, .ofRat (1 / 10)⟩
  refresh := .fromEnv 1000 5000 60000
  cameraOf := id
  exporterCameraOf := id

theorem onTime_twoFrames :
    OnTime defaultSetup [⟨"camera", 1000000000, [embeddedFace]⟩,
      ⟨"camera", 7000000000, [embeddedFace]⟩] := by
  refine (delivers_iff_onTime ?_).mp ?_
  · rw [ClocksAgree]
    decide +kernel
  · intro outcome member _ _ _
    revert outcome
    decide +kernel

/-- A PTS that steps back: the gate starts the track anew, the throttle waits. -/
theorem dropped_after_stepBack : ¬ ∀ frames, Delivers defaultSetup frames := by
  intro always
  have dropped : ∃ outcome ∈ (run defaultSetup [⟨"camera", 2000000000, [embeddedFace]⟩,
      ⟨"camera", 1500000000, [embeddedFace]⟩]).outcomes,
      outcome.verdict.reidAllowed = true ∧ outcome.face.feature.getD [] ≠ [] ∧
        0 < outcome.face.personTrackId ∧ outcome.exported = false := by
    decide +kernel
  rcases dropped with ⟨outcome, member, allowed, hasFeature, tracked, isDropped⟩
  have isExported := always _ outcome member allowed hasFeature tracked
  rw [isDropped] at isExported
  exact Bool.noConfusion isExported

/-! ## Times that never step back -/

/-- Each export that the throttle remembers was by the time of a sighting in its scope, when the
gate still remembers the track or the interval has passed. -/
structure Covered (refresh : IdentityRefreshConfig) (seen : List (String × Nat))
    (identity : IdentityRefreshPolicy) (throttle : ReIDThrottleMap) : Prop
    extends Related refresh identity throttle where
  covers : ∀ key last, lastExport throttle key = some last → ∃ time, (scope key, time) ∈ seen ∧
    last ≤ time ∧
      ((identity.stateOf key).isSome = true ∨ last + refresh.minIntervalMs ≤ time)

def Newest (seen : List (String × Nat)) (name : String) (time : Nat) : Prop :=
  (name, time) ∈ seen ∧ ∀ other, (name, other) ∈ seen → other ≤ time

section Newest

variable {refresh : IdentityRefreshConfig} {identity : IdentityRefreshPolicy}
  {throttle : ReIDThrottleMap} {name key : String} {timestampMs : Nat} {clear : Bool}
  {seen : List (String × Nat)} (covered : Covered refresh seen identity throttle)

include covered

theorem Covered.append (more : List (String × Nat)) :
    Covered refresh (seen ++ more) identity throttle := by
  refine ⟨covered.toRelated, fun key last known => ?_⟩
  rcases covered.covers key last known with ⟨time, inSeen, held⟩
  exact ⟨time, List.mem_append_left _ inSeen, held⟩

theorem Covered.pruneThrottle :
    Covered refresh seen identity (throttle.maybePrune name timestampMs) :=
  ⟨covered.toRelated.pruneThrottle, fun key last known =>
    covered.covers key last (lastExport_of_maybePrune covered.onceThrottle known)⟩

/-- At the newest sighting of its scope a known export is not later, and the gate has not
forgotten the track before the interval. -/
theorem Covered.onTime (newest : Newest seen (scope key) timestampMs)
    (known : lastExport throttle key = some last) :
    last ≤ timestampMs ∧
      (((identity.maybePrune refresh (scope key) timestampMs).stateOf key).isSome = true ∨
        last + refresh.minIntervalMs ≤ timestampMs) := by
  rcases covered.covers key last known with ⟨time, inSeen, notLater, remembered⟩
  have isNewest := newest.2 time inSeen
  refine ⟨notLater.trans isNewest, ?_⟩
  rcases @IdentityRefreshPolicy.stateOf_maybePrune refresh identity (scope key) timestampMs
    covered.onceIdentity key with same | ⟨_, _, state, isState, old⟩
  · rw [same]
    exact remembered.imp_right fun late => late.trans isNewest
  · have sameTime := covered.agree key last state known isState
    have enough := refresh.remembers
    exact .inr (by omega)

theorem Covered.pruneIdentity (newest : Newest seen name timestampMs) :
    Covered refresh seen (identity.maybePrune refresh name timestampMs) throttle := by
  refine ⟨covered.toRelated.pruneIdentity, fun key last known => ?_⟩
  by_cases isScope : scope key = name
  · subst isScope
    exact ⟨timestampMs, newest.1, covered.onTime newest known⟩
  · rcases @IdentityRefreshPolicy.stateOf_maybePrune refresh identity name timestampMs
      covered.onceIdentity key with same | ⟨other, _⟩
    · rw [same]
      exact covered.covers key last known
    · exact absurd other isScope

theorem Covered.record (newest : Newest seen (scope key) timestampMs) :
    Covered refresh seen (identity.record refresh key timestampMs clear)
      (throttle.record key timestampMs) := by
  refine ⟨covered.toRelated.record, fun other last known => ?_⟩
  rw [lastExport_record] at known
  rw [IdentityRefreshPolicy.stateOf_record]
  split at known
  next same =>
    cases known
    exact ⟨_, same ▸ newest.1, le_rfl, .inl (by rw [if_pos same]; rfl)⟩
  next different =>
    rw [if_neg different]
    exact (covered.pruneThrottle.pruneIdentity newest).covers other last known

end Newest

def NotBack (first second : String × Nat) : Prop := first.1 = second.1 → first.2 ≤ second.2

def sightingsOf (setup : ExportSetup) (frame : Frame) (timestampMs : Nat) :
    List FaceObject → List (String × Nat) :=
  List.map fun face => (scope (throttleKey setup frame face), timestampMs)

theorem Covered.processFaces {seen : List (String × Nat)} {identity : IdentityRefreshPolicy}
    {throttle : ReIDThrottleMap} (covered : Covered setup.refresh seen identity throttle)
    {timestampMs : Nat} {faces : List FaceObject} (newest : ∀ face ∈ faces,
      Newest seen (scope (throttleKey setup frame face)) timestampMs) :
    let gated := FaceReidGate.processFaces setup frame timestampMs identity faces
    let exported := FaceObservationExporter.processFaces setup frame timestampMs throttle gated.2
    FacesOnTime setup frame timestampMs identity throttle faces ∧
      Covered setup.refresh seen gated.1 exported.1 := by
  induction faces generalizing identity throttle with
  | nil => exact ⟨trivial, covered⟩
  | cons face _ induction =>
    rcases List.forall_mem_cons.mp newest with ⟨here, others⟩
    have onTime : FaceOnTime setup frame timestampMs identity throttle face := fun _ => .inr
      fun last known =>
        covered.onTime here (lastExport_of_maybePrune covered.onceThrottle known)
    have step := @Related.processFace setup frame timestampMs identity throttle
      covered.toRelated face (Covered setup.refresh seen) covered (·.pruneIdentity here)
      (·.pruneThrottle) (·.record here)
    have after := induction (step.2 (step.1.mpr onTime)) others
    exact ⟨⟨onTime, after.1⟩, after.2⟩

/-- The scopes and times of the faces of a run, in order. -/
def sightings (setup : ExportSetup) (frames : List Frame) : List (String × Nat) :=
  (frames.zipIdx 1).flatMap fun entry =>
    sightingsOf setup entry.1 (frameTimeMs entry.2 entry.1.pts) entry.1.faces

theorem run_frameCount (frames : List Frame) : (run setup frames).frameCount = frames.length := by
  induction frames using List.reverseRecOn with
  | nil => rfl
  | append_singleton _ _ induction =>
    rw [run_snoc, List.length_append, ← induction]
    rfl

theorem run_covered (agree : ClocksAgree setup frames)
    (forward : (sightings setup frames).Pairwise NotBack) :
    Delivers setup frames ∧ Covered setup.refresh (sightings setup frames)
      (run setup frames).identity (run setup frames).throttle := by
  induction frames using List.reverseRecOn with
  | nil =>
    refine ⟨fun _ member => absurd member List.not_mem_nil, related_initial setup, ?_⟩
    exact fun key last known => absurd known.symm (Option.some_ne_none _)
  | append_singleton frames frame induction =>
    have listed : sightings setup (frames ++ [frame]) = sightings setup frames ++
        sightingsOf setup frame (frameTimeMs ((run setup frames).frameCount + 1) frame.pts)
          frame.faces := by
      rw [sightings, List.zipIdx_append, List.flatMap_append, run_frameCount, Nat.add_comm]
      simp [sightings]
    rw [listed] at forward ⊢
    rcases List.pairwise_append.mp forward with ⟨before, _, notBack⟩
    rcases induction (fun other member => agree other (List.mem_append_left _ member)) before with
      ⟨delivers, covered⟩
    have now := (covered.append _).processFaces fun face member => by
        have sighted : _ ∈ sightingsOf setup frame
          (frameTimeMs ((run setup frames).frameCount + 1) frame.pts) frame.faces :=
          List.mem_map_of_mem member
        refine ⟨List.mem_append_right _ sighted, fun time member => ?_⟩
        rcases List.mem_append.mp member with old | same
        · exact notBack _ old _ sighted rfl
        · rcases List.mem_map.mp same with ⟨_, _, isSame⟩
          exact (congrArg Prod.snd isSame).ge
    rw [Delivers, run_snoc,
      processFrame_eq _ (agree frame (List.mem_append_right _ List.mem_cons_self))]
    exact ⟨List.forall_mem_append.mpr
      ⟨delivers, (covered.toRelated.processFaces _).1.mpr now.1⟩, now.2⟩

/-- Where the times of a scope never step back, the throttle drops nothing that the gate has
allowed. -/
theorem delivers_of_notBack (agree : ClocksAgree setup frames)
    (forward : (sightings setup frames).Pairwise NotBack) : Delivers setup frames :=
  (run_covered agree forward).1

end Runs

end Stages

end VideoAnalysis.Face
