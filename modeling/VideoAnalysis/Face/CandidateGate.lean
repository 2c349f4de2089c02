import VideoAnalysis.Face.ReidGate
import Mathlib.Data.Finset.Order

/-! # Cadence of recognition

The candidate gate presents a face for recognition when it passes the quality rules and the
identity refresh policy wants its track now. In stream time a track is then recognised again
neither too soon nor, while its face stays clear, too late.
-/

namespace VideoAnalysis.Face

open VideoAnalysis.Behavior VideoAnalysis.Foundation
open ReIDThrottleMap (scope)

structure Recognition where
  source : String
  trackId : Int
  pts : Int

structure CandidateGate where
  frameCount : Nat := 0
  identity : IdentityRefreshPolicy := {}
  recognitions : List Recognition := []

/-- How a gate is set up, and which camera each source belongs to. -/
structure CandidateGateSetup where
  quality : ReIDGateConfig
  refresh : IdentityRefreshConfig
  cameraOf : String → String

namespace CandidateGate

variable (setup : CandidateGateSetup)

def throttleKey (source : String) (trackId : Int) : String :=
  faceThrottleKey (setup.cameraOf source) source trackId

def processFace (frame : Frame) (timestampMs : Nat) (gate : CandidateGate) (face : FaceObject) :
    CandidateGate :=
  match evaluateReidCandidate setup.quality face with
  | some _ => gate
  | none =>
    let key := throttleKey setup frame.source face.personTrackId
    let (identity, decision) :=
      gate.identity.decideRecognition setup.refresh key timestampMs face.clear
    if decision.allowed then
      { gate with
        identity := identity.record setup.refresh key timestampMs face.clear
        recognitions := gate.recognitions ++ [⟨frame.source, face.personTrackId, frame.pts⟩] }
    else { gate with identity := identity }

def processFrame (gate : CandidateGate) (frame : Frame) : CandidateGate :=
  let gate := { gate with frameCount := gate.frameCount + 1 }
  frame.faces.foldl (processFace setup frame (frameTimeMs gate.frameCount frame.pts)) gate

def run (frames : List Frame) : CandidateGate := frames.foldl (processFrame setup) {}

def recognised (gate : CandidateGate) (source : String) (trackId : Int) : List Int :=
  (gate.recognitions.filter fun recognition =>
    recognition.source = source ∧ recognition.trackId = trackId).map Recognition.pts

/-- A frame shows a clear face of a track that passes the quality rules. -/
def ShowsClearly (frame : Frame) (trackId : Int) : Prop :=
  ∃ face ∈ frame.faces, face.personTrackId = trackId ∧ face.clear = true ∧
    evaluateReidCandidate setup.quality face = none

def framesOf (frames : List Frame) (source : String) : List Frame :=
  frames.filter fun frame => frame.source = source

/-- A source's frames come one after the other in stream time. -/
def Increases (frames : List Frame) (source : String) : Prop :=
  (framesOf frames source).Pairwise fun earlier later => earlier.pts < later.pts

def nanoseconds (ms : Int) : Int := ms * 1000000

/-- The cadence of recognition in the frames of a source. -/
structure KeepsCadence (frames : List Frame) (source : String) : Prop where
  apart : ∀ trackId, ((run setup frames).recognised source trackId).Pairwise
    fun earlier later => nanoseconds (setup.refresh.minIntervalMs - 1) < later - earlier
  again : ∀ (trackId pts : Int) (gap : Nat),
    pts ∈ (run setup frames).recognised source trackId →
      (∀ frame ∈ framesOf frames source, pts < frame.pts → ShowsClearly setup frame trackId) →
      (framesOf frames source).IsChain
        (fun earlier later => later.pts - earlier.pts ≤ (gap : Int)) →
      let due := pts +
        nanoseconds (max setup.refresh.refreshMs setup.refresh.minIntervalMs : Nat) + gap +
          nanoseconds 1
      (∃ frame ∈ framesOf frames source, due ≤ frame.pts) →
      ∃ next ∈ (run setup frames).recognised source trackId, pts < next ∧ next ≤ due
  forgetful : ∀ (trackId : Int) (timestampMs : Nat) (clear : Bool),
    let policy := (run setup frames).identity
    let key := throttleKey setup source trackId
    (refreshDecision setup.refresh timestampMs clear (policy.stateOf key)).allowed = true →
      (policy.decideRecognition setup.refresh key timestampMs clear).2.allowed = true

/-- Every PTS of the source is converted as nanoseconds, and no other source shares its tracks'
keys. -/
structure InNanoseconds (frames : List Frame) (source : String) : Prop where
  large : ∀ frame ∈ framesOf frames source, 1000000000 ≤ frame.pts
  alone : ∀ frame ∈ frames, frame.source ≠ source →
    s!"{setup.cameraOf frame.source}:{frame.source}" ≠ s!"{setup.cameraOf source}:{source}"

variable {setup}

/-! ## Keys -/

theorem scope_throttleKey (source : String) (trackId : Int) :
    scope (throttleKey setup source trackId) =
      s!"{setup.cameraOf source}:{source}" :=
  ReIDThrottleMap.scope_faceThrottleKey _ _ _

theorem throttleKey_inj {source other : String} {trackId otherTrack : Int}
    (same : throttleKey setup source trackId = throttleKey setup other otherTrack) :
    s!"{setup.cameraOf source}:{source}" = s!"{setup.cameraOf other}:{other}" ∧
      trackId = otherTrack := by
  have fields := @lastColonField_eq s!"{setup.cameraOf source}:{source}"
    s!"{setup.cameraOf other}:{other}" _ _ (intText_noColon trackId)
    (intText_noColon otherTrack) same
  exact ⟨fields.1, intText_inj fields.2⟩

/-! ## What is remembered of a track -/

/-- The policy remembers the newest recognition of a track, or has rightly forgotten it. -/
def Remembers (refresh : IdentityRefreshConfig) (policy : IdentityRefreshPolicy) (key : String)
    (pts now : Int) : Prop :=
  (∃ clear, policy.stateOf key = some ⟨normalizePtsToMs pts, clear⟩) ∨
    policy.stateOf key = none ∧ normalizePtsToMs pts + refresh.stateTtlMs < normalizePtsToMs now

section Remembering

variable {refresh : IdentityRefreshConfig} {policy : IdentityRefreshPolicy} {key : String}
  {pts now later : Int}

theorem normalizePtsToMs_mono (nanoseconds : 1000000000 ≤ pts) (le : pts ≤ now) :
    normalizePtsToMs pts ≤ normalizePtsToMs now := by
  rw [normalizePtsToMs_eq nanoseconds, normalizePtsToMs_eq (nanoseconds.trans le)]
  omega

theorem Remembers.mono (remembers : Remembers refresh policy key pts now)
    (nanoseconds : 1000000000 ≤ now) (le : now ≤ later) :
    Remembers refresh policy key pts later := by
  rcases remembers with known | ⟨forgotten, long⟩
  · exact .inl known
  · exact .inr ⟨forgotten, long.trans_le (normalizePtsToMs_mono nanoseconds le)⟩

theorem Remembers.maybePrune (remembers : Remembers refresh policy key pts now)
    (once : policy.Once) (nanoseconds : 1000000000 ≤ pts) (le : pts ≤ now) {name : String}
    {timestampMs : Nat}
    (atNow : scope key = name → timestampMs = normalizePtsToMs now) :
    Remembers refresh (policy.maybePrune refresh name timestampMs) key pts now := by
  rcases IdentityRefreshPolicy.stateOf_maybePrune once key with
    same | ⟨here, forgotten, state, known, long⟩
  · rw [Remembers, same]
    exact remembers
  · rcases remembers with ⟨clear, isKnown⟩ | ⟨unknown, _⟩
    · rw [known, Option.some.injEq] at isKnown
      rw [isKnown, atNow here] at long
      have ordered := normalizePtsToMs_mono nanoseconds le
      exact .inr ⟨forgotten, by dsimp only at long; omega⟩
    · rw [known] at unknown
      exact absurd unknown (Option.some_ne_none _)

end Remembering

/-- What the gate knows of a track when a source's frames have come up to a PTS. -/
structure Follows (setup : CandidateGateSetup) (gate : CandidateGate) (source : String)
    (trackId now : Int) : Prop where
  once : gate.identity.Once
  ordered : (gate.recognised source trackId).Pairwise (· ≤ ·)
  apart : (gate.recognised source trackId).Pairwise
    fun earlier later => nanoseconds (setup.refresh.minIntervalMs - 1) < later - earlier
  past : ∀ pts ∈ gate.recognised source trackId, 1000000000 ≤ pts ∧ pts ≤ now
  known : ∀ pts, (gate.recognised source trackId).getLast? = some pts →
    Remembers setup.refresh gate.identity (throttleKey setup source trackId) pts now

variable {gate : CandidateGate} {source : String} {trackId now : Int}

theorem follows_initial : Follows setup {} source trackId now where
  once := ScopedDict.once_empty
  ordered := .nil
  apart := .nil
  past := List.forall_mem_nil _
  known := fun _ newest => absurd newest (by simp [recognised])

theorem Follows.mono {later : Int} (follows : Follows setup gate source trackId now)
    (le : now ≤ later) : Follows setup gate source trackId later where
  once := follows.once
  ordered := follows.ordered
  apart := follows.apart
  past := fun pts member => ⟨(follows.past pts member).1, (follows.past pts member).2.trans le⟩
  known := by
    intro pts newest
    have bounds := follows.past pts (List.mem_of_getLast? newest)
    exact (follows.known pts newest).mono (bounds.1.trans bounds.2) le

variable {pts : Int}

theorem Follows.le_newest (follows : Follows setup gate source trackId now) {newest : Int}
    (member : pts ∈ gate.recognised source trackId)
    (isNewest : (gate.recognised source trackId).getLast? = some newest) : pts ≤ newest := by
  rcases List.getLast?_eq_some_iff.mp isNewest with ⟨_, split⟩
  have ordered := follows.ordered
  rw [split] at member ordered
  rcases List.mem_append.mp member with earlier | last
  · exact (List.pairwise_append.mp ordered).2.2 pts earlier newest (List.mem_singleton_self _)
  · exact (List.mem_singleton.mp last).le

theorem Follows.maybePrune (follows : Follows setup gate source trackId now) {name : String}
    {timestampMs : Nat}
    (atNow : scope (throttleKey setup source trackId) = name →
      timestampMs = normalizePtsToMs now) :
    Follows setup
      { gate with identity := gate.identity.maybePrune setup.refresh name timestampMs }
      source trackId now where
  once := follows.once.maybePrune
  ordered := follows.ordered
  apart := follows.apart
  past := follows.past
  known := by
    intro pts newest
    have bounds := follows.past pts (List.mem_of_getLast? newest)
    exact (follows.known pts newest).maybePrune follows.once bounds.1 bounds.2 atNow

theorem recognised_append (gate : CandidateGate) (identity : IdentityRefreshPolicy)
    (recognition : Recognition) :
    recognised { gate with
        identity := identity, recognitions := gate.recognitions ++ [recognition] }
      source trackId =
      gate.recognised source trackId ++
        if recognition.source = source ∧ recognition.trackId = trackId then [recognition.pts]
        else [] := by
  simp only [recognised, List.filter_append, List.map_append, List.filter_singleton]
  split
  · next here =>
      rw [decide_eq_true here]
      rfl
  · next elsewhere =>
      rw [decide_eq_false elsewhere]
      rfl

/-! ## One face -/

theorem apart_of_ms {intervalMs : Nat} (nanosecond : 1000000000 ≤ pts) (le : pts ≤ now)
    (elapsed : normalizePtsToMs pts + intervalMs ≤ normalizePtsToMs now) :
    nanoseconds (intervalMs - 1) < now - pts := by
  rw [normalizePtsToMs_eq nanosecond, normalizePtsToMs_eq (nanosecond.trans le)] at elapsed
  rw [nanoseconds]
  omega

theorem within_of_ms {intervalMs : Nat} (nanosecond : 1000000000 ≤ pts) (le : pts ≤ now)
    (early : normalizePtsToMs now < normalizePtsToMs pts + intervalMs) :
    now < pts + nanoseconds intervalMs := by
  rw [normalizePtsToMs_eq nanosecond, normalizePtsToMs_eq (nanosecond.trans le)] at early
  rw [nanoseconds]
  omega

variable {clear : Bool}

theorem Follows.elapsed (follows : Follows setup gate source trackId now) {newest : Int}
    (isNewest : (gate.recognised source trackId).getLast? = some newest)
    (allowed : (refreshDecision setup.refresh (normalizePtsToMs now) clear
      (gate.identity.stateOf (throttleKey setup source trackId))).allowed = true) :
    normalizePtsToMs newest + setup.refresh.minIntervalMs ≤ normalizePtsToMs now := by
  have bounds := follows.past newest (List.mem_of_getLast? isNewest)
  rcases follows.known newest isNewest with ⟨wasClear, known⟩ | ⟨_, long⟩
  · rw [known] at allowed
    exact elapsed_of_allowed (normalizePtsToMs_mono bounds.1 bounds.2) allowed
  · have remembers := setup.refresh.remembers
    omega

theorem Follows.recognise (follows : Follows setup gate source trackId now)
    (nanosecond : 1000000000 ≤ now)
    (allowed : (refreshDecision setup.refresh (normalizePtsToMs now) clear
      (gate.identity.stateOf (throttleKey setup source trackId))).allowed = true) :
    Follows setup
      { gate with
        identity := gate.identity.record setup.refresh (throttleKey setup source trackId)
          (normalizePtsToMs now) clear
        recognitions := gate.recognitions ++ [⟨source, trackId, now⟩] }
      source trackId now := by
  have appended := @recognised_append source trackId gate
    (gate.identity.record setup.refresh (throttleKey setup source trackId)
      (normalizePtsToMs now) clear) ⟨source, trackId, now⟩
  rw [if_pos ⟨rfl, rfl⟩] at appended
  dsimp only at appended
  constructor
  · exact follows.once.record
  · rw [appended, List.pairwise_append]
    refine ⟨follows.ordered, List.pairwise_singleton _ _, fun pts member last isLast => ?_⟩
    rw [List.mem_singleton.mp isLast]
    exact (follows.past pts member).2
  · rw [appended, List.pairwise_append]
    refine ⟨follows.apart, List.pairwise_singleton _ _, fun pts member last isLast => ?_⟩
    rw [List.mem_singleton.mp isLast]
    cases isNewest : (gate.recognised source trackId).getLast? with
    | none =>
      rw [List.getLast?_eq_none_iff.mp isNewest] at member
      exact absurd member List.not_mem_nil
    | some newest =>
      have bounds := follows.past newest (List.mem_of_getLast? isNewest)
      have apart := apart_of_ms bounds.1 bounds.2 (follows.elapsed isNewest allowed)
      have before := follows.le_newest member isNewest
      omega
  · intro pts member
    rw [appended] at member
    rcases List.mem_append.mp member with earlier | last
    · exact follows.past pts earlier
    · rw [List.mem_singleton.mp last]
      exact ⟨nanosecond, le_refl now⟩
  · intro pts newest
    rw [appended, List.getLast?_concat, Option.some.injEq] at newest
    refine .inl ⟨clear, ?_⟩
    rw [IdentityRefreshPolicy.stateOf_record, if_pos rfl, newest]

theorem Follows.recogniseOther (follows : Follows setup gate source trackId now)
    {recognition : Recognition} {key : String} {timestampMs : Nat}
    (different : throttleKey setup source trackId ≠ key)
    (other : ¬ (recognition.source = source ∧ recognition.trackId = trackId))
    (atNow : scope (throttleKey setup source trackId) =
      scope key → timestampMs = normalizePtsToMs now) :
    Follows setup
      { gate with
        identity := gate.identity.record setup.refresh key timestampMs clear
        recognitions := gate.recognitions ++ [recognition] }
      source trackId now := by
  have pruned := follows.maybePrune atNow
  have appended := @recognised_append source trackId gate
    (gate.identity.record setup.refresh key timestampMs clear) recognition
  rw [if_neg other, List.append_nil] at appended
  constructor
  · exact follows.once.record
  · rw [appended]
    exact follows.ordered
  · rw [appended]
    exact follows.apart
  · rw [appended]
    exact follows.past
  · rw [appended]
    intro pts newest
    rw [Remembers, IdentityRefreshPolicy.stateOf_record, if_neg different]
    exact pruned.known pts newest

/-- How a frame stands to a source whose frames have come up to a PTS. -/
structure Arrives (setup : CandidateGateSetup) (frame : Frame) (timestampMs : Nat)
    (source : String) (now : Int) : Prop where
  own : frame.source = source →
    frame.pts = now ∧ timestampMs = normalizePtsToMs now ∧ 1000000000 ≤ now
  alone : frame.source ≠ source →
    s!"{setup.cameraOf frame.source}:{frame.source}" ≠ s!"{setup.cameraOf source}:{source}"

variable {frame : Frame} {timestampMs : Nat}

theorem Arrives.atNow (arrives : Arrives setup frame timestampMs source now)
    (otherTrack : Int)
    (sameScope : scope (throttleKey setup source trackId) =
      scope (throttleKey setup frame.source otherTrack)) :
    timestampMs = normalizePtsToMs now := by
  rw [scope_throttleKey, scope_throttleKey] at sameScope
  by_cases own : frame.source = source
  · exact (arrives.own own).2.1
  · exact absurd sameScope.symm (arrives.alone own)

theorem Follows.processFace (follows : Follows setup gate source trackId now)
    (arrives : Arrives setup frame timestampMs source now) (face : FaceObject) :
    Follows setup (processFace setup frame timestampMs gate face) source trackId now := by
  rw [CandidateGate.processFace]
  have atNow : scope (throttleKey setup source trackId) =
      scope (throttleKey setup frame.source face.personTrackId) →
        timestampMs = normalizePtsToMs now := arrives.atNow face.personTrackId
  split
  · exact follows
  have pruned := follows.maybePrune atNow
  dsimp only [IdentityRefreshPolicy.decideRecognition]
  split
  next allowed =>
    by_cases mine : frame.source = source ∧ face.personTrackId = trackId
    · rcases arrives.own mine.1 with ⟨isNow, isMs, nanosecond⟩
      rw [mine.1, mine.2, isMs] at allowed pruned ⊢
      rw [isNow]
      exact pruned.recognise nanosecond allowed
    · refine pruned.recogniseOther (fun same => mine ?_) mine atNow
      have parts := throttleKey_inj same
      refine ⟨?_, parts.2.symm⟩
      by_contra foreign
      exact arrives.alone foreign parts.1.symm
  next => exact pruned

/-! ## One frame -/

/-- The newest recognition of a track is less than a refresh interval ago. -/
def Fresh (setup : CandidateGateSetup) (gate : CandidateGate) (source : String)
    (trackId now : Int) : Prop :=
  ∀ newest, (gate.recognised source trackId).getLast? = some newest →
    newest = now ∨ now < newest + nanoseconds setup.refresh.effectiveRefreshMs

theorem recognised_processFace (setup : CandidateGateSetup) (frame : Frame) (timestampMs : Nat)
    (gate : CandidateGate) (face : FaceObject) (source : String) (trackId : Int) :
    (processFace setup frame timestampMs gate face).recognised source trackId =
        gate.recognised source trackId ∨
      frame.source = source ∧
        (processFace setup frame timestampMs gate face).recognised source trackId =
          gate.recognised source trackId ++ [frame.pts] := by
  rw [processFace]
  split
  · exact .inl rfl
  dsimp only
  split
  · rw [recognised_append]
    split
    · next mine => exact .inr ⟨mine.1, rfl⟩
    · exact .inl (List.append_nil _)
  · exact .inl rfl

theorem Fresh.processFace (fresh : Fresh setup gate source trackId now)
    (own : frame.source = source → frame.pts = now) (face : FaceObject) :
    Fresh setup (processFace setup frame timestampMs gate face) source trackId now := by
  intro newest isNewest
  rcases recognised_processFace setup frame timestampMs gate face source trackId with
    same | ⟨mine, appended⟩
  · rw [same] at isNewest
    exact fresh newest isNewest
  · rw [appended, List.getLast?_concat, Option.some.injEq] at isNewest
    exact .inl (isNewest.symm.trans (own mine))

theorem Follows.fresh (follows : Follows setup gate source trackId now)
    (arrives : Arrives setup frame timestampMs source now) (own : frame.source = source)
    {face : FaceObject} (track : face.personTrackId = trackId) (clear : face.clear = true)
    (candidate : evaluateReidCandidate setup.quality face = none) :
    Fresh setup (CandidateGate.processFace setup frame timestampMs gate face) source trackId
      now := by
  rcases arrives.own own with ⟨isNow, isMs, _⟩
  have pruned := follows.maybePrune (arrives.atNow face.personTrackId)
  rw [CandidateGate.processFace, candidate]
  dsimp only [IdentityRefreshPolicy.decideRecognition]
  split
  · intro newest isNewest
    rw [recognised_append, if_pos ⟨own, track⟩, List.getLast?_concat, Option.some.injEq]
      at isNewest
    exact .inl (isNewest.symm.trans isNow)
  next refused =>
    intro newest isNewest
    have bounds := follows.past newest (List.mem_of_getLast? isNewest)
    rw [own, track, isMs, clear] at refused
    rw [own, track, isMs] at pruned
    refine .inr (within_of_ms bounds.1 bounds.2 ?_)
    rcases pruned.known newest isNewest with ⟨wasClear, known⟩ | ⟨unknown, _⟩
    · rw [known] at refused
      by_contra late
      exact refused (allowed_of_elapsed (not_lt.mp late))
    · rw [unknown] at refused
      exact absurd rfl refused

theorem Follows.processFaces (follows : Follows setup gate source trackId now)
    (arrives : Arrives setup frame timestampMs source now) (faces : List FaceObject) :
    Follows setup (faces.foldl (CandidateGate.processFace setup frame timestampMs) gate) source
      trackId now := by
  induction faces generalizing gate with
  | nil => exact follows
  | cons face _ induction => exact induction (follows.processFace arrives face)

theorem Fresh.processFaces (fresh : Fresh setup gate source trackId now)
    (own : frame.source = source → frame.pts = now) (faces : List FaceObject) :
    Fresh setup (faces.foldl (CandidateGate.processFace setup frame timestampMs) gate) source
      trackId now := by
  induction faces generalizing gate with
  | nil => exact fresh
  | cons face _ induction => exact induction (fresh.processFace own face)

section

variable (follows : Follows setup gate source trackId now) (arrives : Arrives setup frame
  (frameTimeMs (gate.frameCount + 1) frame.pts) source now)

include follows arrives

theorem Follows.processFrame :
    Follows setup (processFrame setup gate frame) source trackId now := by
  have counted : Follows setup { gate with frameCount := gate.frameCount + 1 } source trackId
      now := ⟨follows.once, follows.ordered, follows.apart, follows.past, follows.known⟩
  exact counted.processFaces arrives frame.faces

theorem Follows.fresh_processFrame (own : frame.source = source)
    (shows : ShowsClearly setup frame trackId) :
    Fresh setup (CandidateGate.processFrame setup gate frame) source trackId now := by
  rcases shows with ⟨_, member, track, clear, candidate⟩
  rcases List.append_of_mem member with ⟨before, after, isFaces⟩
  have counted : Follows setup { gate with frameCount := gate.frameCount + 1 } source trackId
      now := ⟨follows.once, follows.ordered, follows.apart, follows.past, follows.known⟩
  rw [CandidateGate.processFrame, isFaces, List.foldl_append, List.foldl_cons]
  have reached := counted.processFaces arrives before
  exact (reached.fresh arrives own track clear candidate).processFaces
    (fun isOwn => (arrives.own isOwn).1) after

end

/-! ## Runs -/

theorem run_snoc (frames : List Frame) (frame : Frame) :
    run setup (frames ++ [frame]) = processFrame setup (run setup frames) frame := by
  rw [run, List.foldl_append]
  rfl

theorem framesOf_snoc (frames : List Frame) (frame : Frame) (source : String) :
    framesOf (frames ++ [frame]) source =
      framesOf frames source ++ if frame.source = source then [frame] else [] := by
  simp only [framesOf, List.filter_append, List.filter_singleton]
  split
  · next own =>
      rw [decide_eq_true own]
      rfl
  · next foreign =>
      rw [decide_eq_false foreign]
      rfl

variable {frames : List Frame}

theorem mem_framesOf :
    frame ∈ framesOf frames source ↔ frame ∈ frames ∧ frame.source = source := by
  simp only [framesOf, List.mem_filter, decide_eq_true_eq]

theorem InNanoseconds.before (inNanoseconds : InNanoseconds setup (frames ++ [frame]) source) :
    InNanoseconds setup frames source where
  large := by
    intro earlier member
    apply inNanoseconds.large
    rw [framesOf_snoc]
    exact List.mem_append_left _ member
  alone := fun earlier member => inNanoseconds.alone earlier (List.mem_append_left _ member)

theorem InNanoseconds.arrives (inNanoseconds : InNanoseconds setup (frames ++ [frame]) source)
    (frameCount : Nat) (isNow : frame.source = source → frame.pts = now) :
    Arrives setup frame (frameTimeMs frameCount frame.pts) source now where
  own := by
    intro own
    have last : frame ∈ frames ++ [frame] := List.mem_append_right _ List.mem_cons_self
    have large := inNanoseconds.large frame (mem_framesOf.mpr ⟨last, own⟩)
    rw [frameTimeMs, if_neg (by omega), ← isNow own]
    exact ⟨rfl, rfl, large⟩
  alone := inNanoseconds.alone frame (List.mem_append_right _ List.mem_cons_self)

theorem Increases.snoc (increases : Increases (frames ++ [frame]) source) :
    Increases frames source ∧ (frame.source = source →
      ∀ earlier ∈ framesOf frames source, earlier.pts < frame.pts) := by
  rw [Increases, framesOf_snoc, List.pairwise_append] at increases
  refine ⟨increases.1, fun own earlier member => ?_⟩
  rw [if_pos own] at increases
  exact increases.2.2 earlier member frame List.mem_cons_self

theorem follows_run (inNanoseconds : InNanoseconds setup frames source)
    (increases : Increases frames source) (trackId : Int)
    (upTo : ∀ frame ∈ framesOf frames source, frame.pts ≤ now) :
    Follows setup (run setup frames) source trackId now := by
  induction frames using List.reverseRecOn generalizing now with
  | nil => exact follows_initial
  | append_singleton frames frame induction =>
    rcases increases.snoc with ⟨increasesBefore, before⟩
    rw [run_snoc]
    by_cases own : frame.source = source
    · have reached := induction inNanoseconds.before increasesBefore
        fun earlier member => (before own earlier member).le
      have last : frame ∈ framesOf (frames ++ [frame]) source :=
        mem_framesOf.mpr ⟨List.mem_append_right _ List.mem_cons_self, own⟩
      exact (reached.processFrame (inNanoseconds.arrives _ fun _ => rfl)).mono
        (upTo frame last)
    · rw [framesOf_snoc, if_neg own, List.append_nil] at upTo
      have reached := induction inNanoseconds.before increasesBefore upTo
      exact reached.processFrame (inNanoseconds.arrives _ fun isOwn => absurd isOwn own)

theorem recognised_processFrame (gate : CandidateGate) (frame : Frame) (source : String)
    (trackId : Int) :
    ∃ added, (processFrame setup gate frame).recognised source trackId =
        gate.recognised source trackId ++ added ∧
      ∀ pts ∈ added, pts = frame.pts ∧ frame.source = source := by
  rw [processFrame]
  have each : ∀ (faces : List FaceObject) (timestampMs : Nat) (start : CandidateGate),
      ∃ added, (faces.foldl (processFace setup frame timestampMs) start).recognised source
          trackId = start.recognised source trackId ++ added ∧
        ∀ pts ∈ added, pts = frame.pts ∧ frame.source = source := by
    intro faces timestampMs
    induction faces with
    | nil =>
      intro start
      exact ⟨[], (List.append_nil _).symm, List.forall_mem_nil _⟩
    | cons face _ induction =>
      intro start
      rcases induction (processFace setup frame timestampMs start face) with
        ⟨added, isAdded, own⟩
      rw [List.foldl_cons, isAdded]
      rcases recognised_processFace setup frame timestampMs start face source trackId with
        same | ⟨mine, appended⟩
      · rw [same]
        exact ⟨added, rfl, own⟩
      · rw [appended, List.append_assoc]
        refine ⟨[frame.pts] ++ added, rfl, fun pts member => ?_⟩
        rcases List.mem_append.mp member with first | later
        · exact ⟨List.mem_singleton.mp first, mine⟩
        · exact own pts later
  exact each frame.faces _ _

/-- In every run a track that is shown clearly is recognised again when that is due. -/
theorem due_run (inNanoseconds : InNanoseconds setup frames source)
    (increases : Increases frames source)
    (recognised : pts ∈ (run setup frames).recognised source trackId)
    (shown : frame ∈ framesOf frames source) (later : pts < frame.pts)
    (shows : ShowsClearly setup frame trackId) :
    (∃ next ∈ (run setup frames).recognised source trackId, pts < next ∧ next ≤ frame.pts) ∨
      frame.pts < pts + nanoseconds setup.refresh.effectiveRefreshMs := by
  induction frames using List.reverseRecOn with
  | nil => exact absurd shown List.not_mem_nil
  | append_singleton frames last induction =>
    rcases increases.snoc with ⟨increasesBefore, before⟩
    rcases @recognised_processFrame setup (run setup frames) last source trackId with
      ⟨_, isAdded, own⟩
    rw [run_snoc, isAdded] at recognised ⊢
    rw [framesOf_snoc] at shown
    rcases List.mem_append.mp shown with shownBefore | shownLast
    · rcases List.mem_append.mp recognised with old | new
      · rcases induction inNanoseconds.before increasesBefore old shownBefore with
          ⟨next, member, between⟩ | early
        · exact .inl ⟨next, List.mem_append_left _ member, between⟩
        · exact .inr early
      · rcases own pts new with ⟨_, ownSource⟩
        have earlier := before ownSource frame shownBefore
        omega
    · split at shownLast
      next ownSource =>
        rw [List.mem_singleton.mp shownLast] at later shows ⊢
        have upTo : ∀ earlier ∈ framesOf frames source, earlier.pts ≤ last.pts :=
          fun earlier member => (before ownSource earlier member).le
        have reached := follows_run inNanoseconds.before increasesBefore trackId upTo
        have arrives : Arrives setup last
            (frameTimeMs ((run setup frames).frameCount + 1) last.pts) source last.pts :=
          inNanoseconds.arrives _ fun _ => rfl
        have fresh := reached.fresh_processFrame arrives ownSource shows
        have follows := reached.processFrame arrives
        rw [← isAdded] at recognised ⊢
        cases isNewest : ((processFrame setup (run setup frames) last).recognised source
            trackId).getLast? with
        | none =>
          rw [List.getLast?_eq_none_iff.mp isNewest] at recognised
          exact absurd recognised List.not_mem_nil
        | some newest =>
          have member := List.mem_of_getLast? isNewest
          have notLater := (follows.past newest member).2
          have atLeast := follows.le_newest recognised isNewest
          rcases atLeast.lt_or_eq with less | same
          · exact .inl ⟨newest, member, less, notLater⟩
          · rcases fresh newest isNewest with isNow | early
            · omega
            · exact .inr (same ▸ early)
      next => exact absurd shownLast List.not_mem_nil

/-! ## Deadlines -/

theorem exists_crossing {Item : Type} {time : Item → Int} {gap deadline : Int}
    {items : List Item}
    (increases : items.Pairwise fun earlier later => time earlier < time later)
    (steps : items.IsChain fun earlier later => time later - time earlier ≤ gap)
    {low high : Item} (lowMember : low ∈ items) (highMember : high ∈ items)
    (before : time low < deadline) (after : deadline ≤ time high) :
    ∃ item ∈ items, deadline ≤ time item ∧ time item ≤ deadline + gap := by
  induction items generalizing low with
  | nil => exact absurd lowMember List.not_mem_nil
  | cons first rest induction =>
    rw [List.pairwise_cons] at increases
    have firstBefore : time first < deadline := by
      rcases List.mem_cons.mp lowMember with rfl | inRest
      · exact before
      · exact (increases.1 low inRest).trans before
    rcases List.mem_cons.mp highMember with rfl | highRest
    · exact absurd after (not_le.mpr firstBefore)
    cases rest with
    | nil => exact absurd highRest List.not_mem_nil
    | cons second =>
      rw [List.isChain_cons_cons] at steps
      by_cases crossed : deadline ≤ time second
      · exact ⟨second, List.mem_cons_of_mem _ List.mem_cons_self, crossed, by omega⟩
      · rcases induction increases.2 steps.2 List.mem_cons_self highRest
          (not_le.mp crossed) with ⟨item, member, between⟩
        exact ⟨item, List.mem_cons_of_mem _ member, between⟩

theorem exists_last (frames : List Frame) : ∃ now, ∀ frame ∈ frames, frame.pts ≤ now := by
  rcases (frames.map Frame.pts).toFinset.exists_le with ⟨now, upTo⟩
  exact ⟨now, fun frame member => upTo _ (List.mem_toFinset.mpr (List.mem_map_of_mem member))⟩

theorem frame_of_recognised (recognised : pts ∈ (run setup frames).recognised source trackId) :
    ∃ frame ∈ framesOf frames source, frame.pts = pts := by
  induction frames using List.reverseRecOn with
  | nil => exact absurd recognised List.not_mem_nil
  | append_singleton frames last induction =>
    rcases @recognised_processFrame setup (run setup frames) last source trackId with
      ⟨_, isAdded, own⟩
    rw [run_snoc, isAdded] at recognised
    rw [framesOf_snoc]
    rcases List.mem_append.mp recognised with old | new
    · rcases induction old with ⟨frame, member, isPts⟩
      exact ⟨frame, List.mem_append_left _ member, isPts⟩
    · rcases own pts new with ⟨isLast, ownSource⟩
      rw [if_pos ownSource]
      exact ⟨last, List.mem_append_right _ List.mem_cons_self, isLast.symm⟩

theorem once_run (setup : CandidateGateSetup) (frames : List Frame) :
    (run setup frames).identity.Once := by
  induction frames using List.reverseRecOn with
  | nil => exact ScopedDict.once_empty
  | append_singleton _ last induction =>
    rw [run_snoc, processFrame]
    refine List.foldlRecOn (motive := fun gate : CandidateGate => gate.identity.Once)
      last.faces _ induction fun gate once face _ => ?_
    rw [processFace]
    split
    · exact once
    dsimp only [IdentityRefreshPolicy.decideRecognition]
    split
    · exact once.maybePrune.record
    · exact once.maybePrune

/-- The cadence holds as long as every PTS is read as nanoseconds. -/
theorem keepsCadence {frames : List Frame} (increases : Increases frames source)
    (inNanoseconds : InNanoseconds setup frames source) : KeepsCadence setup frames source where
  apart := by
    intro trackId
    rcases exists_last (framesOf frames source) with ⟨_, upTo⟩
    exact (follows_run inNanoseconds increases trackId upTo).apart
  again := by
    intro trackId pts gap recognised shows steps due reaches
    rcases frame_of_recognised recognised with ⟨first, firstMember, _⟩
    rcases reaches with ⟨last, lastMember, late⟩
    have effective := setup.refresh.effective_eq_max
    have deadline : first.pts < due - gap ∧ due - gap ≤ last.pts := by
      simp only [due, nanoseconds] at late ⊢
      omega
    rcases exists_crossing increases steps firstMember lastMember deadline.1 deadline.2 with
      ⟨frame, member, crossed, _⟩
    have later : pts < frame.pts := by omega
    rcases due_run inNanoseconds increases recognised member later (shows frame member later)
      with ⟨next, isNext, after, before⟩ | early
    · exact ⟨next, isNext, after, by omega⟩
    · rw [effective] at early
      simp only [due, nanoseconds] at crossed early
      omega
  forgetful := fun trackId timestampMs clear allowed =>
    IdentityRefreshPolicy.allowed_maybePrune (once_run setup frames) allowed

def clearFace : FaceObject where
  personTrackId := 1
  confidence := .finite false 1
  width := .finite false 100
  height := .finite false 100
  landmarks := some (List.replicate 10 (.finite false 50))
  clear := true

def defaultSetup : CandidateGateSetup where
  quality := ⟨.ofRat (9 / 20), .ofRat 40, .ofRat (1 / 10)⟩
  refresh := .fromEnv 1000 5000 60000
  cameraOf := id

theorem keepsCadence_oneSource :
    KeepsCadence defaultSetup [⟨"camera", 1000000000, [clearFace]⟩,
      ⟨"camera", 2000000000, [clearFace]⟩, ⟨"camera", 6000000000, [clearFace]⟩] "camera" := by
  refine keepsCadence ?_ ⟨?_, ?_⟩
  · rw [Increases]
    decide +kernel
  all_goals decide +kernel

/-- Two frames a nanosecond apart on both sides of a unit boundary: the first PTS is taken for
milliseconds, the second for microseconds. -/
def unitBoundary : List Frame :=
  [⟨"camera", 9999999, [clearFace]⟩, ⟨"camera", 10000000, [clearFace]⟩]

theorem cadence_lost_at_unitBoundary :
    ¬ ∀ frames source, Increases frames source →
      (∀ frame ∈ framesOf frames source, 0 < frame.pts) →
        KeepsCadence defaultSetup frames source := by
  intro always
  have increases : Increases unitBoundary "camera" := by
    rw [Increases]
    decide +kernel
  have positive : ∀ frame ∈ framesOf unitBoundary "camera", 0 < frame.pts := by decide +kernel
  have apart := (always unitBoundary "camera" increases positive).apart 1
  have recognised : (run defaultSetup unitBoundary).recognised "camera" 1 =
      [9999999, 10000000] := by decide +kernel
  rw [recognised] at apart
  exact absurd apart (by decide)

end CandidateGate

end VideoAnalysis.Face
