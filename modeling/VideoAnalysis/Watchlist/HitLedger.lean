import VideoAnalysis.Watchlist.Emitter

/-! # Which watchlist hits are lost

A persisted observation is served, or the worker still has it before it. What falls out
of the worker's hands unserved is lost: its row is there, so that its message only
counts as a duplicate when it is delivered again.
-/

namespace VideoAnalysis.Watchlist

open Foundation Python Intake

namespace WatchWorld

variable (world : WatchWorld)

/-- A person of the active rule that the embedding matches above the threshold. -/
structure Matches (obs : Payload) (rule : WatchlistRule) (personId : Int) : Prop where
  active : world.ruleFor (world.cameraOf obs) = some rule
  target : personId ∈ rule.targets
  similar : ∃ row ∈ world.ranked (embeddingOf obs),
    row.personId = personId ∧ rule.threshold ≤ row.similarity

/-- The number of rows asked for hides a person that the embedding matches. -/
def Cut (obs : Payload) (rule : WatchlistRule) : Prop :=
  ∃ personId, world.Matches obs rule personId ∧
    ∀ row ∈ world.search obs rule, row.personId ≠ personId

end WatchWorld

def Hit.key (hit : Hit) : CooldownKey := (hit.camera, hit.ruleId, hit.personId)

namespace WatchState

variable (world : WatchWorld)

def Published (state : WatchState) (obs : Payload) : Prop :=
  ∃ hit ∈ state.hits, hit.source = world.keyOf obs

def InCooldown (state : WatchState) (since : Nat) (key : CooldownKey) : Prop :=
  ∃ hit ∈ state.hits, hit.key = key ∧ ∃ moment : Nat, since ≤ moment ∧ moment ≤ state.now ∧
    hit.time ≤ moment ∧ (moment : Int) < hit.time + hit.cooldown

def Handled (state : WatchState) (since : Nat) (obs : Payload) (rule : WatchlistRule)
    (personId : Int) : Prop :=
  state.Published world obs ∨ state.InCooldown since (world.cameraOf obs, rule.ruleId, personId)

/-- Every person matched outside the cooldown has led to a hit of the observation. -/
def Served (state : WatchState) (since : Nat) (obs : Payload) : Prop :=
  ∀ rule personId, world.Matches obs rule personId → state.Handled world since obs rule personId

/-- No hit is lost of the acknowledged observations, when no step is pending. -/
def NoHitLost (state : WatchState) : Prop :=
  state.stage = .idle → ∀ message ∈ state.acknowledged, ∀ fields obs,
    world.stream[message]? = some fields → world.face.parse fields = .ok (.valid obs) →
      ∃ row, state.rows.get (world.keyOf obs) = some row ∧ state.Served world row.storedAt obs

/-- Since when an observation is persisted, from now on if it is not yet. -/
def storedSince (state : WatchState) (obs : Payload) : Nat :=
  match state.rows.get (world.keyOf obs) with
  | some row => row.storedAt
  | none => state.now

/-! ## Steps that leave an observation behind -/

/-- The step ends what the worker does for a persisted observation, other than by the
last of all the persons that it matches. -/
def Drops (state : WatchState) (label : WatchLabel) (obs : Payload) : Prop :=
  match label, state.stage with
  | .persist .commitLost, .persist batch =>
    obs ∈ (insertRows world state.now batch state.rows).2
  | .lookup .raises, .emit current _ => obs = current
  | .lookup .unresolved, .emit current _ =>
    obs = current ∧ world.givenCamera obs ≠ world.cameraOf obs ∧
      world.ruleFor (world.givenCamera obs) = none
  | .search raises, .search current camera rule _ =>
    obs = current ∧ (raises = true ∨ rule.targets = [] ∧ camera ≠ world.cameraOf obs)
  | .consider (.raises false), .consider current camera rule (row :: _) seen _ =>
    obs = current ∧ row.personId ∉ seen ∧
      ¬state.now < (state.cooldowns.get (camera, rule.ruleId, row.personId)).getD 0
  | .consider _, .consider current camera rule [] _ _ =>
    obs = current ∧ (camera ≠ world.cameraOf obs ∨ world.Cut obs rule)
  | .crash, stage => obs ∈ stage.pending
  | _, _ => False

def Consistent (state : WatchState) : WatchLabel → Prop
  | .persist .commits | .persist .commitLost =>
    ∀ batch, state.stage = .persist batch → ∀ entry ∈ batch, ∀ row,
      (insertRows world state.now batch state.rows).1.get (world.keyOf entry.2) = some row →
        row.obs = entry.2
  | _ => True

/-- What is dropped is served already. -/
structure KeepsHits (state : WatchState) (label : WatchLabel) : Prop where
  consistent : state.Consistent world label
  served : ∀ obs, state.Drops world label obs →
    state.Served world (state.storedSince world obs) obs

/-! ## The invariant -/

def Stored (state : WatchState) (message : Nat) : Prop :=
  ∀ fields obs, world.stream[message]? = some fields →
    world.face.parse fields = .ok (.valid obs) →
      ∃ time, state.rows.get (world.keyOf obs) = some ⟨obs, time⟩

def Placed (state : WatchState) : Prop :=
  match state.stage with
  | .idle | .emit _ _ => True
  | .persist batch => ∀ entry ∈ batch, ∃ fields, world.stream[entry.1]? = some fields ∧
      world.face.parse fields = .ok (.valid entry.2)
  | .acknowledge messages _ => ∀ message ∈ messages, state.Stored world message
  | .search _ camera rule _ => world.ruleFor camera = some rule
  | .consider obs camera rule results seen _ =>
    world.ruleFor camera = some rule ∧
      (camera = world.cameraOf obs →
        (∀ row ∈ world.search obs rule, row.personId ∈ results.map GalleryMatch.personId ∨
          state.Handled world (state.storedSince world obs) obs rule row.personId) ∧
        ∀ personId ∈ seen, state.Handled world (state.storedSince world obs) obs rule personId)

structure Ledger (state : WatchState) : Prop where
  cooldowns : ∀ key limit, state.cooldowns.get key = some limit →
    ∃ hit ∈ state.hits, hit.key = key ∧ hit.time ≤ state.now ∧ limit = hit.time + hit.cooldown
  stored : ∀ key row, state.rows.get key = some row →
    world.keyOf row.obs = key ∧ row.storedAt ≤ state.now ∧
      (state.Served world row.storedAt row.obs ∨ row.obs ∈ state.stage.pending)
  pending : ∀ obs ∈ state.stage.pending,
    ∃ time, state.rows.get (world.keyOf obs) = some ⟨obs, time⟩
  acknowledged : ∀ message ∈ state.acknowledged, state.Stored world message
  placed : state.Placed world

variable {world}

/-! ## Steps that keep the rows -/

/-- Time passes and hits are added. -/
structure Goes (state next : WatchState) : Prop where
  hits : ∀ hit ∈ state.hits, hit ∈ next.hits
  now : state.now ≤ next.now
  rows : next.rows = state.rows

section Goes

variable {state next : WatchState} {since : Nat} {obs : Payload} {rule : WatchlistRule}
  {personId : Int}

theorem Handled.mono (handled : state.Handled world since obs rule personId)
    (hits : ∀ hit ∈ state.hits, hit ∈ next.hits) (now : state.now ≤ next.now) :
    next.Handled world since obs rule personId := by
  rcases handled with ⟨hit, member, isSource⟩ | ⟨hit, member, isKey, moment, after, before, covers⟩
  · exact Or.inl ⟨hit, hits hit member, isSource⟩
  · exact Or.inr ⟨hit, hits hit member, isKey, moment, after, before.trans now, covers⟩

theorem Served.mono (served : state.Served world since obs)
    (hits : ∀ hit ∈ state.hits, hit ∈ next.hits) (now : state.now ≤ next.now) :
    next.Served world since obs :=
  fun rule personId isMatch => (served rule personId isMatch).mono hits now

theorem served_of_published (published : state.Published world obs) :
    state.Served world since obs :=
  fun _ _ _ => Or.inl published

theorem storedSince_of_get {time : Nat}
    (found : state.rows.get (world.keyOf obs) = some ⟨obs, time⟩) :
    state.storedSince world obs = time := by
  simp [storedSince, found]

theorem Stored.goes {message : Nat} (stored : state.Stored world message)
    (goes : state.Goes next) : next.Stored world message := by
  unfold Stored
  rw [goes.rows]
  exact stored

theorem Ledger.goes (ledger : state.Ledger world) (goes : state.Goes next)
    (cooldowns : ∀ key limit, next.cooldowns.get key = some limit →
      ∃ hit ∈ next.hits, hit.key = key ∧ hit.time ≤ next.now ∧ limit = hit.time + hit.cooldown)
    (remains : ∀ obs ∈ next.stage.pending, obs ∈ state.stage.pending)
    (leaves : ∀ obs ∈ state.stage.pending, obs ∈ next.stage.pending ∨
      next.Served world (state.storedSince world obs) obs)
    (acknowledged : ∀ message ∈ next.acknowledged, next.Stored world message)
    (placed : next.Placed world) : next.Ledger world where
  cooldowns := cooldowns
  stored key row found := by
    rw [goes.rows] at found
    rcases ledger.stored key row found with ⟨isKey, before, served | pending⟩
    · exact ⟨isKey, before.trans goes.now, Or.inl (served.mono goes.hits goes.now)⟩
    · refine ⟨isKey, before.trans goes.now, ?_⟩
      have since : state.storedSince world row.obs = row.storedAt := by
        simp [storedSince, isKey, found]
      rcases leaves row.obs pending with isPending | served
      · exact Or.inr isPending
      · exact Or.inl (since ▸ served)
  pending obs member := by
    rw [goes.rows]
    exact ledger.pending obs (remains obs member)
  acknowledged := acknowledged
  placed := placed

theorem cooldowns_goes (ledger : state.Ledger world) (goes : state.Goes next)
    (same : next.cooldowns = state.cooldowns) (key : CooldownKey) (limit : Int)
    (found : next.cooldowns.get key = some limit) :
    ∃ hit ∈ next.hits, hit.key = key ∧ hit.time ≤ next.now ∧
      limit = hit.time + hit.cooldown := by
  rw [same] at found
  rcases ledger.cooldowns key limit found with ⟨hit, member, isKey, before, isLimit⟩
  exact ⟨hit, goes.hits hit member, isKey, before.trans goes.now, isLimit⟩

end Goes

@[simp] theorem pending_next (waiting : List Payload) : (Stage.next waiting).pending = waiting := by
  cases waiting <;> rfl

theorem placed_next {state : WatchState} {waiting : List Payload}
    (isStage : state.stage = .next waiting) : state.Placed world := by
  unfold Placed
  rw [isStage]
  cases waiting <;> trivial

section Steps

variable {state next : WatchState}

variable {stage : Stage}

theorem Ledger.moves (ledger : state.Ledger world)
    (remains : ∀ obs ∈ stage.pending, obs ∈ state.stage.pending)
    (leaves : ∀ obs ∈ state.stage.pending, obs ∈ stage.pending ∨
      state.Served world (state.storedSince world obs) obs)
    (placed : WatchState.Placed world { state with stage := stage }) :
    WatchState.Ledger world { state with stage := stage } :=
  ledger.goes ⟨fun _ => id, le_rfl, rfl⟩ ledger.cooldowns remains leaves
    ledger.acknowledged placed

variable {waiting : List Payload}

theorem Ledger.finishes {obs : Payload} (ledger : state.Ledger world)
    (inHand : state.stage.pending = obs :: waiting)
    (served : state.Served world (state.storedSince world obs) obs) :
    WatchState.Ledger world { state with stage := .next waiting } := by
  apply ledger.moves
  · intro other member
    rw [pending_next] at member
    rw [inHand]
    exact List.mem_cons_of_mem _ member
  · intro other member
    rw [inHand] at member
    rw [pending_next]
    rcases List.mem_cons.mp member with rfl | later
    · exact Or.inr served
    · exact Or.inl later
  · exact placed_next rfl

theorem lookup_ledger {outcome : LookupOutcome} (ledger : state.Ledger world)
    (keeps : state.KeepsHits world (.lookup outcome))
    (stepped : state.lookup world outcome = some next) : next.Ledger world := by
  unfold lookup at stepped
  split at stepped
  next obs waiting isStage =>
    have inHand : state.stage.pending = obs :: waiting := by rw [isStage]; rfl
    simp only at stepped
    split at stepped
    next raised =>
      cases stepped
      apply ledger.finishes inHand
      apply keeps.served
      simp [Drops, raised, isStage]
    next returned =>
      generalize isCamera : (if outcome = .unresolved then world.givenCamera obs
        else world.cameraOf obs) = camera at stepped
      split at stepped
      next noRule =>
        cases stepped
        apply ledger.finishes inHand
        by_cases own : camera = world.cameraOf obs
        · intro rule personId isMatch
          rw [own, isMatch.active] at noRule
          cases noRule
        · apply keeps.served
          cases outcome with
          | resolved => exact absurd isCamera.symm own
          | raises => exact absurd rfl returned
          | unresolved =>
            simp only [if_true] at isCamera
            rw [← isCamera] at own noRule
            simp [Drops, isStage, own, noRule]
      next rule isRule =>
        cases stepped
        apply ledger.moves
        · simp [Stage.pending, isStage]
        · intro other member
          rw [inHand] at member
          exact Or.inl member
        · exact isRule
  next => cases stepped

theorem search_ledger {raises : Bool} (ledger : state.Ledger world)
    (keeps : state.KeepsHits world (.search raises))
    (stepped : state.search world raises = some next) : next.Ledger world := by
  unfold search at stepped
  split at stepped
  next obs camera rule waiting isStage =>
    have inHand : state.stage.pending = obs :: waiting := by rw [isStage]; rfl
    have isRule : world.ruleFor camera = some rule := by
      have placed := ledger.placed
      unfold Placed at placed
      rw [isStage] at placed
      exact placed
    split at stepped
    next ends =>
      cases stepped
      apply ledger.finishes inHand
      by_cases own : raises = false ∧ camera = world.cameraOf obs
      · rcases own with ⟨rfl, own⟩
        intro other personId isMatch
        have same : rule = other := by
          rw [own, isMatch.active] at isRule
          exact (Option.some.inj isRule).symm
        have target := isMatch.target
        rw [← same] at target
        simp only [Bool.or_false, decide_eq_true_eq] at ends
        rw [ends] at target
        cases target
      · apply keeps.served
        simp only [Drops, isStage]
        grind -ring -linarith
    next goesOn =>
      cases stepped
      apply ledger.moves
      · simp [Stage.pending, isStage]
      · intro other member
        rw [inHand] at member
        exact Or.inl member
      · refine ⟨isRule, fun _ => ⟨fun row member => ?_, fun _ member => by cases member⟩⟩
        exact Or.inl (List.mem_map_of_mem (f := GalleryMatch.personId) member)
  next => cases stepped

theorem served_of_searched {obs : Payload} {rule : WatchlistRule} {since : Nat}
    (active : world.ruleFor (world.cameraOf obs) = some rule) (whole : ¬world.Cut obs rule)
    (handled : ∀ row ∈ world.search obs rule, state.Handled world since obs rule row.personId) :
    state.Served world since obs := by
  intro other personId isMatch
  have same : rule = other := Option.some.inj (active.symm.trans isMatch.active)
  subst same
  by_cases found : ∃ row ∈ world.search obs rule, row.personId = personId
  · rcases found with ⟨row, member, rfl⟩
    exact handled row member
  · apply absurd _ whole
    exact ⟨personId, isMatch, fun row member isPerson => found ⟨row, member, isPerson⟩⟩

theorem drops_at_end {outcome : CallOutcome} {obs : Payload} {camera : Text}
    {rule : WatchlistRule} {seen : List Int}
    (isStage : state.stage = .consider obs camera rule [] seen waiting)
    (partly : camera ≠ world.cameraOf obs ∨ world.Cut obs rule) :
    state.Drops world (.consider outcome) obs := by
  unfold Drops
  rw [isStage]
  cases outcome with
  | ok => exact ⟨rfl, partly⟩
  | raises arrived => cases arrived <;> exact ⟨rfl, partly⟩

theorem Ledger.considers {obs : Payload} {camera : Text} {rule : WatchlistRule}
    {row : GalleryMatch} {results : List GalleryMatch} {seen others : List Int}
    (ledger : state.Ledger world)
    (isStage : state.stage = .consider obs camera rule (row :: results) seen waiting)
    (others_seen : ∀ personId ∈ others, personId = row.personId ∨ personId ∈ seen)
    (handled : camera = world.cameraOf obs →
      state.Handled world (state.storedSince world obs) obs rule row.personId) :
    WatchState.Ledger world
      { state with stage := .consider obs camera rule results others waiting } := by
  have placed := ledger.placed
  unfold Placed at placed
  rw [isStage] at placed
  rcases placed with ⟨isRule, own⟩
  apply ledger.moves
  · simp [Stage.pending, isStage]
  · intro other member
    rw [isStage] at member
    exact Or.inl member
  · refine ⟨isRule, fun isCamera => ?_⟩
    rcases own isCamera with ⟨searched, seenHandled⟩
    constructor
    · intro found member
      rcases searched found member with later | isHandled
      · rcases List.mem_cons.mp later with isRow | remains
        · exact Or.inr (isRow ▸ handled isCamera)
        · exact Or.inl remains
      · exact Or.inr isHandled
    · intro personId member
      rcases others_seen personId member with isRow | wasSeen
      · exact isRow ▸ handled isCamera
      · exact seenHandled personId wasSeen

theorem Ledger.publishes {obs : Payload} {hit : Hit}
    {cooldowns : Dict CooldownKey Int} (ledger : state.Ledger world)
    (inHand : state.stage.pending = obs :: waiting) (isSource : hit.source = world.keyOf obs)
    (isTime : hit.time = state.now)
    (noted : ∀ key limit, cooldowns.get key = some limit →
      state.cooldowns.get key = some limit ∨ hit.key = key ∧ limit = hit.time + hit.cooldown)
    (remains : ∀ other ∈ stage.pending, other ∈ obs :: waiting)
    (leaves : ∀ other ∈ waiting, other ∈ stage.pending)
    (placed : (∀ since rule personId, WatchState.Handled world
        { state with hits := state.hits ++ [hit], cooldowns := cooldowns, stage := stage }
        since obs rule personId) →
      WatchState.Placed world
        { state with hits := state.hits ++ [hit], cooldowns := cooldowns, stage := stage }) :
    WatchState.Ledger world
      { state with hits := state.hits ++ [hit], cooldowns := cooldowns, stage := stage } := by
  have published : WatchState.Published world
      { state with hits := state.hits ++ [hit], cooldowns := cooldowns, stage := stage } obs :=
    ⟨hit, by simp, isSource⟩
  have goes : state.Goes
      { state with hits := state.hits ++ [hit], cooldowns := cooldowns, stage := stage } :=
    ⟨fun _ => List.mem_append_left _, le_rfl, rfl⟩
  apply ledger.goes goes
  · intro key limit found
    rcases noted key limit found with before | ⟨isKey, isLimit⟩
    · rcases ledger.cooldowns key limit before with ⟨old, member, others⟩
      exact ⟨old, List.mem_append_left _ member, others⟩
    · exact ⟨hit, by simp, isKey, isTime.le, isLimit⟩
  · rw [inHand]
    exact remains
  · intro other member
    rw [inHand] at member
    rcases List.mem_cons.mp member with rfl | later
    · exact Or.inr (served_of_published published)
    · exact Or.inl (leaves other later)
  · intro message member
    exact (ledger.acknowledged message member).goes goes
  · exact placed fun _ _ _ => Or.inl published

theorem consider_ledger {outcome : CallOutcome} (ledger : state.Ledger world)
    (keeps : state.KeepsHits world (.consider outcome))
    (stepped : state.consider world outcome = some next) : next.Ledger world := by
  unfold consider at stepped
  split at stepped
  next obs camera rule seen waiting isStage =>
    have inHand : state.stage.pending = obs :: waiting := by rw [isStage]; rfl
    have placed := ledger.placed
    unfold Placed at placed
    rw [isStage] at placed
    rcases placed with ⟨isRule, own⟩
    cases stepped
    apply ledger.finishes inHand
    by_cases whole : camera = world.cameraOf obs ∧ ¬world.Cut obs rule
    · rcases whole with ⟨isCamera, whole⟩
      rw [isCamera] at isRule
      apply served_of_searched isRule whole
      intro row member
      simpa using (own isCamera).1 row member
    · apply keeps.served
      apply drops_at_end isStage
      by_cases isCamera : camera = world.cameraOf obs
      · exact Or.inr (by_contra fun uncut => whole ⟨isCamera, uncut⟩)
      · exact Or.inl isCamera
  next obs camera rule row results seen waiting isStage =>
    have inHand : state.stage.pending = obs :: waiting := by rw [isStage]; rfl
    have placed := ledger.placed
    unfold Placed at placed
    rw [isStage] at placed
    rcases placed with ⟨isRule, own⟩
    simp only at stepped
    split at stepped
    next wasSeen =>
      cases stepped
      apply ledger.considers isStage (fun _ member => Or.inr member)
      intro isCamera
      exact (own isCamera).2 _ wasSeen
    next isNew =>
      split at stepped
      next suppressed =>
        cases stepped
        apply ledger.considers isStage (fun _ member => List.mem_cons.mp member)
        intro isCamera
        cases found : state.cooldowns.get (camera, rule.ruleId, row.personId) with
        | none =>
          rw [found] at suppressed
          simp only [Option.getD_none] at suppressed
          omega
        | some limit =>
          rw [found] at suppressed
          simp only [Option.getD_some] at suppressed
          rcases ledger.cooldowns _ limit found with ⟨hit, member, isKey, before, isLimit⟩
          rw [isLimit] at suppressed
          refine Or.inr ⟨hit, member, isCamera ▸ isKey, state.now, ?_, le_rfl, before,
            suppressed⟩
          rcases ledger.pending obs (inHand ▸ List.mem_cons_self) with ⟨_, isStored⟩
          rw [storedSince_of_get isStored]
          exact (ledger.stored _ _ isStored).2.1
      next due =>
        split at stepped
        next isOk =>
          simp only [isOk, CallOutcome.arrived, if_true] at stepped
          cases stepped
          apply ledger.publishes inHand rfl rfl
          · intro key limit found
            rw [Dict.get_set] at found
            split at found
            next isKey => exact Or.inr ⟨isKey.symm, (Option.some.inj found).symm⟩
            next => exact Or.inl found
          · exact fun _ => id
          · exact fun _ => List.mem_cons_of_mem _
          · intro handled
            exact ⟨isRule, fun _ => ⟨fun _ _ => Or.inr (handled _ _ _), fun _ _ => handled _ _ _⟩⟩
        next raised =>
          cases stepped
          cases outcome with
          | ok => exact absurd rfl raised
          | raises arrived =>
            cases arrived with
            | true =>
              apply ledger.publishes inHand rfl rfl
              · exact fun _ _ => Or.inl
              · intro other member
                rw [pending_next] at member
                exact List.mem_cons_of_mem _ member
              · intro other member
                rwa [pending_next]
              · exact fun _ => placed_next rfl
            | false =>
              apply ledger.finishes inHand
              apply keeps.served
              unfold Drops
              rw [isStage]
              exact ⟨rfl, isNew, due⟩
  next => cases stepped

/-! ## Rows that are written -/

theorem get_insertRows_of_some {now : Nat} {key : Text} {row : StoredRow}
    (batch : List (Nat × Payload)) (rows : Dict Text StoredRow)
    (found : rows.get key = some row) : (insertRows world now batch rows).1.get key = some row := by
  induction batch generalizing rows with
  | nil => exact found
  | cons entry _ induction =>
    unfold insertRows
    cases taken : rows.get (world.keyOf entry.2) with
    | some => exact induction rows found
    | none =>
      apply induction
      have other : key ≠ world.keyOf entry.2 := by
        rintro rfl
        rw [taken] at found
        cases found
      rwa [Dict.get_set_of_ne _ _ other]

theorem get_insertRows {now : Nat} {key : Text} {row : StoredRow}
    (batch : List (Nat × Payload)) (rows : Dict Text StoredRow)
    (found : (insertRows world now batch rows).1.get key = some row) :
    rows.get key = some row ∨ world.keyOf row.obs = key ∧ row.storedAt = now ∧
      row.obs ∈ (insertRows world now batch rows).2 := by
  induction batch generalizing rows with
  | nil => exact Or.inl found
  | cons entry _ induction =>
    unfold insertRows at found ⊢
    cases taken : rows.get (world.keyOf entry.2) with
    | some =>
      rw [taken] at found
      exact induction rows found
    | none =>
      rw [taken] at found
      rcases induction _ found with before | ⟨isKey, isTime, member⟩
      · rw [Dict.get_set] at before
        split at before
        next isKey =>
          rw [← Option.some.inj before]
          exact Or.inr ⟨isKey.symm, rfl, List.mem_cons_self⟩
        next => exact Or.inl before
      · exact Or.inr ⟨isKey, isTime, List.mem_cons_of_mem _ member⟩

theorem mem_insertRows {now : Nat} {obs : Payload} (batch : List (Nat × Payload))
    (rows : Dict Text StoredRow) (member : obs ∈ (insertRows world now batch rows).2) :
    rows.get (world.keyOf obs) = none ∧
      (insertRows world now batch rows).1.get (world.keyOf obs) = some ⟨obs, now⟩ := by
  induction batch generalizing rows with
  | nil => cases member
  | cons entry rest induction =>
    unfold insertRows at member ⊢
    cases taken : rows.get (world.keyOf entry.2) with
    | some =>
      rw [taken] at member
      exact induction rows member
    | none =>
      rw [taken] at member
      rcases List.mem_cons.mp member with rfl | later
      · exact ⟨taken, get_insertRows_of_some rest _ (Dict.get_set_self _ _ _)⟩
      · rcases induction _ later with ⟨isNew, isStored⟩
        refine ⟨?_, isStored⟩
        rw [Dict.get_set] at isNew
        split at isNew
        next => cases isNew
        next => exact isNew

theorem insertRows_has {entry : Nat × Payload} (now : Nat) (batch : List (Nat × Payload))
    (rows : Dict Text StoredRow) (member : entry ∈ batch) :
    ∃ row, (insertRows world now batch rows).1.get (world.keyOf entry.2) = some row := by
  induction batch generalizing rows with
  | nil => cases member
  | cons head rest induction =>
    unfold insertRows
    rcases List.mem_cons.mp member with rfl | later
    · cases taken : rows.get (world.keyOf entry.2) with
      | some old => exact ⟨old, get_insertRows_of_some rest rows taken⟩
      | none => exact ⟨_, get_insertRows_of_some rest _ (Dict.get_set_self _ _ _)⟩
    · cases taken : rows.get (world.keyOf head.2) with
      | some => exact induction rows later
      | none => exact induction _ later

theorem Ledger.persists {batch : List (Nat × Payload)}
    (ledger : state.Ledger world) (isStage : state.stage = .persist batch)
    (isPending : stage.pending = (insertRows world state.now batch state.rows).2 ∨
      stage.pending = [] ∧ ∀ obs ∈ (insertRows world state.now batch state.rows).2,
        state.Served world state.now obs)
    (placed : WatchState.Placed world
      { state with rows := (insertRows world state.now batch state.rows).1, stage := stage }) :
    WatchState.Ledger world
      { state with rows := (insertRows world state.now batch state.rows).1, stage := stage } := by
  constructor
  · exact ledger.cooldowns
  · intro key row found
    rcases get_insertRows batch state.rows found with before | ⟨isKey, isTime, member⟩
    · rcases ledger.stored key row before with ⟨isKey, early, served | pending⟩
      · exact ⟨isKey, early, Or.inl served⟩
      · rw [isStage] at pending
        cases pending
    · refine ⟨isKey, isTime.le, ?_⟩
      rcases isPending with isPending | ⟨_, served⟩
      · exact Or.inr (isPending ▸ member)
      · rw [isTime]
        exact Or.inl (served row.obs member)
  · intro obs member
    rcases isPending with isPending | ⟨isPending, _⟩
    · rw [isPending] at member
      exact ⟨state.now, (mem_insertRows batch state.rows member).2⟩
    · rw [isPending] at member
      cases member
  · intro message member fields obs isFields isValid
    rcases ledger.acknowledged message member fields obs isFields isValid with ⟨time, found⟩
    exact ⟨time, get_insertRows_of_some batch state.rows found⟩
  · exact placed

theorem persist_ledger {outcome : PersistOutcome} (ledger : state.Ledger world)
    (keeps : state.KeepsHits world (.persist outcome))
    (stepped : state.persist world outcome = some next) : next.Ledger world := by
  unfold persist at stepped
  split at stepped
  next batch isStage =>
    have placed := ledger.placed
    unfold Placed at placed
    rw [isStage] at placed
    simp only at stepped
    split at stepped
    next =>
      cases stepped
      apply ledger.moves
      · simp [Stage.pending]
      · simp [isStage, Stage.pending]
      · trivial
    next wrote =>
      split at stepped
      next =>
        cases stepped
        apply ledger.persists isStage
        · cases outcome with
          | fails => exact absurd rfl wrote
          | commits => exact Or.inl rfl
          | commitLost =>
            refine Or.inr ⟨rfl, fun obs member => ?_⟩
            have served := keeps.served obs (by simpa [Drops, isStage] using member)
            simpa [storedSince, (mem_insertRows batch state.rows member).1] using served
        · cases outcome with
          | fails => exact absurd rfl wrote
          | commitLost => trivial
          | commits =>
            intro message member fields obs isFields isValid
            rcases List.mem_map.mp member with ⟨entry, isEntry, rfl⟩
            rcases placed entry isEntry with ⟨_, isSame, parsed⟩
            rw [isFields] at isSame
            rw [← Option.some.inj isSame, isValid] at parsed
            have isObs : obs = entry.2 := by
              injection Except.ok.inj parsed
            rcases insertRows_has state.now batch state.rows isEntry with ⟨row, found⟩
            have content := keeps.consistent batch isStage entry isEntry row found
            refine ⟨row.storedAt, ?_⟩
            rw [isObs, ← content]
            rw [← content] at found
            exact found
      next => cases stepped
  next => cases stepped

/-! ## Messages that are delivered -/

theorem fields_cons {message : Nat} {messages : List Nat}
    (bound : message < world.stream.length) :
    ((message :: messages).filterMap fun message => world.stream[message]?) =
      world.stream[message] :: messages.filterMap fun message => world.stream[message]? := by
  rw [List.filterMap_cons_some (List.getElem?_eq_getElem bound)]

/-- The messages listed as valid or refused were parsed so. -/
theorem parse_of_parseAll (messages : List Nat)
    (bound : ∀ message ∈ messages, message < world.stream.length) :
    let parsed := (world.face.parseAll (messages.filterMap fun message => world.stream[message]?)).1
    (∀ entry ∈ validIn messages parsed, ∃ fields, world.stream[entry.1]? = some fields ∧
      world.face.parse fields = .ok (.valid entry.2)) ∧
      ∀ message ∈ refusedIn messages parsed, ∃ fields, world.stream[message]? = some fields ∧
        world.face.parse fields = .ok .refused := by
  induction messages with
  | nil => simp [validIn, refusedIn]
  | cons message _ induction =>
    rcases List.forall_mem_cons.mp bound with ⟨here, others⟩
    have isHere := List.getElem?_eq_getElem here
    rw [fields_cons here, FaceConfig.parseAll]
    cases parsed : world.face.parse world.stream[message] with
    | error => simp [validIn, refusedIn]
    | ok result =>
      cases result with
      | invalid => exact induction others
      | refused =>
        exact ⟨(induction others).1,
          List.forall_mem_cons.mpr ⟨⟨_, isHere, parsed⟩, (induction others).2⟩⟩
      | valid =>
        exact ⟨List.forall_mem_cons.mpr ⟨⟨_, isHere, parsed⟩, (induction others).1⟩,
          (induction others).2⟩

theorem placed_of_batch (batched : state.stage = .idle ∨ ∃ batch,
    state.stage = .persist batch ∧ ∀ entry ∈ batch, ∃ fields,
      world.stream[entry.1]? = some fields ∧
        world.face.parse fields = .ok (.valid entry.2)) : state.Placed world := by
  unfold Placed
  rcases batched with isStage | ⟨batch, isStage, parsed⟩
  · rw [isStage]
    trivial
  · rw [isStage]
    exact parsed

theorem deliver_ledger {messages : List Nat} {acks : Bool} (ledger : state.Ledger world)
    (stepped : state.deliver world messages acks = some next) : next.Ledger world := by
  unfold deliver at stepped
  split at stepped
  next isStage =>
    split at stepped
    next fresh =>
      cases stepped
      have bound : ∀ message ∈ messages, message < world.stream.length :=
        fun message member => (fresh.2 message member).1
      refine ledger.goes ⟨fun _ => id, le_rfl, rfl⟩ ledger.cooldowns ?_ ?_ ?_ ?_
      · intro obs member
        simp only at member
        split at member <;> cases member
      · simp [isStage, Stage.pending]
      · intro message member fields obs isFields isValid
        simp only at member
        split at member
        next =>
          rcases List.mem_append.mp member with before | refused
          · exact ledger.acknowledged message before fields obs isFields isValid
          · rcases (parse_of_parseAll messages bound).2 _ refused with ⟨_, isSame, parsed⟩
            rw [isFields] at isSame
            rw [← Option.some.inj isSame, isValid] at parsed
            cases parsed
        next => exact ledger.acknowledged message member fields obs isFields isValid
      · apply placed_of_batch
        simp only
        split
        · exact Or.inl rfl
        · exact Or.inr ⟨_, rfl, (parse_of_parseAll messages bound).1⟩
    next => cases stepped
  next => cases stepped

theorem acknowledge_ledger {arrived : Bool} (ledger : state.Ledger world)
    (stepped : state.acknowledge arrived = some next) : next.Ledger world := by
  unfold acknowledge at stepped
  split at stepped
  next messages inserted isStage =>
    cases stepped
    have placed := ledger.placed
    unfold Placed at placed
    rw [isStage] at placed
    refine ledger.goes ⟨fun _ => id, le_rfl, rfl⟩ ledger.cooldowns ?_ ?_ ?_ ?_
    · intro obs member
      rw [pending_next] at member
      rwa [isStage]
    · intro obs member
      rw [isStage] at member
      exact Or.inl (by rwa [pending_next])
    · intro message member
      simp only at member
      split at member
      next =>
        rcases List.mem_append.mp member with before | now
        · exact ledger.acknowledged message before
        · exact placed message now
      next => exact ledger.acknowledged message member
    · exact placed_next rfl
  next => cases stepped

theorem Ledger.waits (ledger : state.Ledger world) (milliseconds : Nat) :
    WatchState.Ledger world { state with now := state.now + milliseconds } := by
  have goes : state.Goes { state with now := state.now + milliseconds } :=
    ⟨fun _ => id, Nat.le_add_right _ _, rfl⟩
  refine ledger.goes goes (cooldowns_goes ledger goes rfl) (fun _ => id)
    (fun _ => Or.inl) ledger.acknowledged ?_
  have placed := ledger.placed
  unfold Placed at placed ⊢
  simp only
  split
  next => trivial
  next => trivial
  next isStage =>
    rw [isStage] at placed
    exact placed
  next isStage =>
    rw [isStage] at placed
    exact placed
  next isStage =>
    rw [isStage] at placed
    exact placed
  next obs camera rule results seen waiting isStage =>
    rw [isStage] at placed
    rcases ledger.pending obs (by simp [isStage, Stage.pending]) with ⟨_, isStored⟩
    have since : WatchState.storedSince world { state with now := state.now + milliseconds } obs
        = state.storedSince world obs := by
      simp [storedSince, isStored]
    rcases placed with ⟨isRule, own⟩
    refine ⟨isRule, fun isCamera => ?_⟩
    rw [since]
    rcases own isCamera with ⟨searched, seenHandled⟩
    constructor
    · intro row member
      exact (searched row member).imp_right fun handled => handled.mono goes.hits goes.now
    · intro personId member
      exact (seenHandled personId member).mono goes.hits goes.now

theorem step_ledger {label : WatchLabel} (ledger : state.Ledger world)
    (keeps : state.KeepsHits world label) (stepped : state.step world label = some next) :
    next.Ledger world := by
  cases label with
  | wait milliseconds =>
    cases stepped
    exact ledger.waits milliseconds
  | deliver => exact deliver_ledger ledger stepped
  | persist => exact persist_ledger ledger keeps stepped
  | acknowledge => exact acknowledge_ledger ledger stepped
  | lookup => exact lookup_ledger ledger keeps stepped
  | search => exact search_ledger ledger keeps stepped
  | consider => exact consider_ledger ledger keeps stepped
  | crash =>
    cases stepped
    refine ledger.goes ⟨fun _ => id, le_rfl, rfl⟩ ?_ ?_ ?_ ?_ ?_
    · intro key limit found
      cases found
    · intro obs member
      cases member
    · exact fun obs member => Or.inr (keeps.served obs member)
    · exact ledger.acknowledged
    · trivial

end Steps

theorem initial_ledger (world : WatchWorld) : ({} : WatchState).Ledger world where
  cooldowns _ _ found := by cases found
  stored _ _ found := by cases found
  pending _ member := by cases member
  acknowledged _ member := by cases member
  placed := trivial

theorem run_ledger {labels : List WatchLabel} {state final : WatchState}
    (ledger : state.Ledger world)
    (keeps : (watchMachine world).EachStep
      (fun state label _ => state.KeepsHits world label) state labels)
    (ran : (watchMachine world).run state labels = some final) : final.Ledger world :=
  keeps.keeps (fun _ _ _ => step_ledger) ledger ran

theorem Ledger.noHitLost {state : WatchState} (ledger : state.Ledger world) :
    state.NoHitLost world := by
  intro isStage message member fields obs isFields isValid
  rcases ledger.acknowledged message member fields obs isFields isValid with ⟨_, found⟩
  rcases ledger.stored _ _ found with ⟨_, _, served | pending⟩
  · exact ⟨_, found, served⟩
  · rw [isStage] at pending
    cases pending

end WatchState

theorem noHitLost_of_keepsHits (world : WatchWorld) (labels : List WatchLabel)
    (state : WatchState) (ran : (watchMachine world).run {} labels = some state)
    (keeps : (watchMachine world).EachStep
      (fun state label _ => state.KeepsHits world label) {} labels) :
    state.NoHitLost world :=
  (WatchState.run_ledger (WatchState.initial_ledger world) keeps ran).noHitLost

open WatchState

section Example

def faces : FaceConfig where
  recursionLimit := 1000
  strOf := fun _ => []
  floatText := fun _ => []

def sought : WatchlistRule where
  ruleId := text "watch"
  threshold := 1
  topK := 1
  cooldown := 60000
  targets := [1]

def faceEntry : Fields :=
  [(text "data",
    text "\x7b\"source_observation_id\": \"o1\", \"camera_id\": \"c1\", \"track_id\": \"7\"," ++
      text "\"embedding\": [1" ++ (List.replicate 511 (text ", 0")).flatten ++
      text "], \"embedding_dim\": 512, \"embedding_norm\": 1.0\x7d")]

/-- Every camera looks for one person, whom every embedding matches. -/
def oneFace : WatchWorld where
  face := faces
  stream := [faceEntry]
  isUuidText _ := true
  cameraBySource _ := none
  cameraRule _ := some sought
  envRule := some sought
  ranked _ := [⟨1, 1⟩]

def isRow (fields : Fields) : Bool :=
  match faces.parse fields with
  | .ok (.valid obs) => (faces.observationParams obs).toOption.isSome
  | _ => false

theorem faceEntry_isRow : isRow faceEntry = true := by decide +kernel

theorem valid_of_isRow {fields : Fields} (row : isRow fields = true) :
    ∃ obs, faces.parse fields = .ok (.valid obs) ∧
      (faces.observationParams obs).toOption.isSome = true := by
  unfold isRow at row
  split at row
  next obs parsed => exact ⟨obs, parsed, row⟩
  next => cases row

theorem parseAll_valid {fields : Fields} {obs : Payload}
    (parsed : faces.parse fields = .ok (.valid obs)) :
    faces.parseAll [fields] = ([.valid obs], none) := by
  simp [FaceConfig.parseAll, parsed]

theorem faceEntry_valid : ∃ obs, faces.parse faceEntry = .ok (.valid obs) ∧
    (faces.observationParams obs).toOption.isSome = true :=
  valid_of_isRow faceEntry_isRow

theorem oneFace_matches (obs : Payload) : oneFace.Matches obs sought 1 where
  active := by
    unfold WatchWorld.ruleFor
    split <;> rfl
  target := by decide
  similar := ⟨⟨1, 1⟩, by simp [oneFace], rfl, le_rfl⟩

theorem oneFace_search (obs : Payload) : oneFace.search obs sought = [⟨1, 1⟩] := by
  simp [WatchWorld.search, WatchWorld.candidates, oneFace, sought]

theorem oneFace_uncut (obs : Payload) : ¬oneFace.Cut obs sought := by
  rintro ⟨personId, isMatch, hidden⟩
  have target := isMatch.target
  simp only [sought, List.mem_singleton] at target
  exact hidden ⟨1, 1⟩ (by simp [oneFace_search]) target.symm

def stored (obs : Payload) : Dict Text StoredRow :=
  (∅ : Dict Text StoredRow).set (oneFace.keyOf obs) ⟨obs, 0⟩

theorem step_deliver {obs : Payload} (parsed : faces.parse faceEntry = .ok (.valid obs)) :
    (watchMachine oneFace).step {} (.deliver [0] true) =
      some { stage := .persist [(0, obs)] } := by
  have isStream : [0].filterMap (fun message => oneFace.stream[message]?) = [faceEntry] := rfl
  simp only [watchMachine, step, deliver]
  rw [isStream, show oneFace.face = faces from rfl, parseAll_valid parsed]
  simp [validIn, refusedIn, oneFace]

theorem step_persist {obs : Payload}
    (isRow : (faces.observationParams obs).toOption.isSome = true) :
    (watchMachine oneFace).step { stage := .persist [(0, obs)] } (.persist .commits) =
      some { rows := stored obs, stage := .acknowledge [0] [obs] } := by
  simp only [watchMachine, step, persist]
  rw [show oneFace.face = faces from rfl]
  simp [isRow, insertRows, stored]

def having (obs : Payload) (stage : Stage) : WatchState where
  acknowledged := [0]
  rows := stored obs
  stage := stage

def deliverAndStore : List WatchLabel :=
  [.deliver [0] true, .persist .commits, .acknowledge true]

theorem run_stored {obs : Payload} (parsed : faces.parse faceEntry = .ok (.valid obs))
    (isRow : (faces.observationParams obs).toOption.isSome = true) (labels : List WatchLabel) :
    (watchMachine oneFace).run {} (deliverAndStore ++ labels) =
      (watchMachine oneFace).run (having obs (.emit obs [])) labels := by
  simp only [deliverAndStore, List.cons_append, List.nil_append, Machine.run,
    step_deliver parsed, step_persist isRow]
  rfl

/-- The worker ends between the acknowledgement and the search. -/
theorem crash_loses_hit :
    ∃ state obs, (watchMachine oneFace).run {} (deliverAndStore ++ [.crash]) = some state ∧
      oneFace.stream[0]? = some faceEntry ∧ oneFace.face.parse faceEntry = .ok (.valid obs) ∧
      oneFace.Matches obs sought 1 ∧ state.acknowledged = [0] ∧ state.stage = .idle ∧
      state.hits = [] ∧ ¬state.NoHitLost oneFace := by
  rcases faceEntry_valid with ⟨obs, parsed, isRow⟩
  refine ⟨_, obs, run_stored parsed isRow _, rfl, parsed, oneFace_matches obs, rfl, rfl, rfl, ?_⟩
  intro noneLost
  rcases noneLost rfl 0 List.mem_cons_self faceEntry obs rfl parsed with ⟨_, _, served⟩
  rcases served sought 1 (oneFace_matches obs) with ⟨hit, member, _⟩ | ⟨hit, member, _⟩
  all_goals cases member

def emitOne : List WatchLabel :=
  [.lookup .resolved, .search false, .consider .ok, .consider .ok]

section Emission

variable {obs : Payload}

theorem step_lookup : (watchMachine oneFace).step (having obs (.emit obs [])) (.lookup .resolved) =
    some (having obs (.search obs (oneFace.cameraOf obs) sought [])) := by
  have active := (oneFace_matches obs).active
  simp [watchMachine, step, lookup, having, active]

theorem step_search :
    (watchMachine oneFace).step (having obs (.search obs (oneFace.cameraOf obs) sought []))
      (.search false) =
    some (having obs (.consider obs (oneFace.cameraOf obs) sought [⟨1, 1⟩] [] [])) := by
  rw [← oneFace_search obs]
  rfl

theorem keeps_persist : WatchState.KeepsHits oneFace { stage := .persist [(0, obs)] }
    (.persist .commits) where
  consistent := by
    intro batch isBatch entry member row found
    cases isBatch
    rw [List.mem_singleton.mp member] at found ⊢
    simp only [insertRows, Dict.get_empty, Dict.get_set_self, Option.some.injEq] at found
    rw [← found]
  served _ dropped := dropped.elim

theorem emission_keeps : (watchMachine oneFace).EachStep
    (fun state label _ => state.KeepsHits oneFace label) (having obs (.emit obs [])) emitOne := by
  apply Machine.EachStep.cons step_lookup ⟨trivial, fun _ dropped => dropped.elim⟩
  apply Machine.EachStep.cons step_search
  · refine ⟨trivial, fun other dropped => ?_⟩
    rcases dropped with ⟨_, raised | ⟨noTarget, _⟩⟩
    · cases raised
    · cases noTarget
  apply Machine.EachStep.cons rfl ⟨trivial, fun _ dropped => dropped.elim⟩
  apply Machine.EachStep.cons rfl
  · refine ⟨trivial, fun other dropped => ?_⟩
    rcases dropped with ⟨rfl, elsewhere | isCut⟩
    · exact absurd rfl elsewhere
    · exact absurd isCut (oneFace_uncut other)
  trivial

end Emission

theorem noHitLost_found :
    ∃ state, (watchMachine oneFace).run {} (deliverAndStore ++ emitOne) = some state ∧
      state.stage = .idle ∧ state.acknowledged = [0] ∧
      state.hits.map (·.personId) = [1] ∧ state.NoHitLost oneFace := by
  rcases faceEntry_valid with ⟨_, parsed, isRow⟩
  have ends : ∃ state, (watchMachine oneFace).run {} (deliverAndStore ++ emitOne) = some state ∧
      state.stage = .idle ∧ state.acknowledged = [0] ∧ state.hits.map (·.personId) = [1] := by
    rw [run_stored parsed isRow]
    simp only [emitOne, Machine.run, step_lookup, step_search]
    exact ⟨_, rfl, rfl, rfl, rfl⟩
  rcases ends with ⟨state, ran, idle, isAcknowledged, isHit⟩
  refine ⟨state, ran, idle, isAcknowledged, isHit, ?_⟩
  apply noHitLost_of_keepsHits oneFace _ state ran
  apply Machine.EachStep.cons (step_deliver parsed) ⟨trivial, fun _ dropped => dropped.elim⟩
  apply Machine.EachStep.cons (step_persist isRow) keeps_persist
  apply Machine.EachStep.cons rfl ⟨trivial, fun _ dropped => dropped.elim⟩
  exact emission_keeps

end Example

end VideoAnalysis.Watchlist
