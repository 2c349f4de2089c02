import VideoAnalysis.Scheduler.Heartbeats

/-! # Runs of the heartbeat supervisor

A step only adds handles and only sets their flags, so what a tick has found of a
handle still holds when the tick is done with it.
-/

namespace VideoAnalysis.Scheduler

open Foundation

variable {Payload : Type}

namespace LeaseHeartbeatHandle

/-- What a change leaves of a handle. -/
structure Kept (before after : LeaseHeartbeatHandle Payload) : Prop where
  key : after.key = before.key
  startedAt : after.startedAt = before.startedAt
  healthy : before.healthy = false → after.healthy = false
  expired : before.expired = true → after.expired = true

theorem Kept.refl (handle : LeaseHeartbeatHandle Payload) : Kept handle handle :=
  ⟨rfl, rfl, id, id⟩

theorem Kept.trans {first second third : LeaseHeartbeatHandle Payload} (left : Kept first second)
    (right : Kept second third) : Kept first third :=
  ⟨right.key.trans left.key, right.startedAt.trans left.startedAt,
    fun unhealthy => right.healthy (left.healthy unhealthy),
    fun expired => right.expired (left.expired expired)⟩

section

variable (handle : LeaseHeartbeatHandle Payload)

include handle

theorem kept_markLost : Kept handle handle.markLost :=
  ⟨rfl, rfl, by simp [healthy, markLost], id⟩

theorem kept_markExpired :
    Kept handle handle.markExpired :=
  ⟨rfl, rfl, by simp [healthy, markExpired], fun _ => rfl⟩

theorem kept_markUnregistered :
    Kept handle handle.markUnregistered :=
  ⟨rfl, rfl, by simp [healthy, markUnregistered], id⟩

theorem kept_markHeartbeat (now nextDueAt : Int) :
    Kept handle (handle.markHeartbeat now nextDueAt) := by
  simp only [markHeartbeat]
  split
  next => exact .refl handle
  next => exact ⟨rfl, rfl, id, id⟩

end

end LeaseHeartbeatHandle

/-- What one step makes of a tick and of the handle it is at, and whether it takes the
handle from the supervisor. -/
inductive TurnStep (settings : HeartbeatSettings) (tick : Tick)
    (found : LeaseHeartbeatHandle Payload) :
    Tick → (LeaseHeartbeatHandle Payload → LeaseHeartbeatHandle Payload) → Bool → Prop
  | unhealthy : tick.turn = .check → found.healthy = false →
      TurnStep settings tick found { tick with turn := .remove } id false
  | aged : tick.turn = .check → found.healthy = true →
      settings.maxAttemptAgeMs ≤ tick.now - found.startedAt →
      TurnStep settings tick found { tick with turn := .expire } id false
  | young : tick.turn = .check → found.healthy = true →
      ¬ settings.maxAttemptAgeMs ≤ tick.now - found.startedAt →
      TurnStep settings tick found { tick with turn := .due } id false
  | expire : tick.turn = .expire →
      TurnStep settings tick found { tick with turn := .countExpired } (·.markExpired) false
  | countExpired : tick.turn = .countExpired →
      TurnStep settings tick found { tick with turn := .remove } id false
  | early : tick.turn = .due → TurnStep settings tick found tick.next id false
  | call : tick.turn = .due → TurnStep settings tick found { tick with turn := .call } id false
  | answered {turn} : tick.turn = .call →
      turn = .beat ∨ turn = .lose ∨ turn = .countError ∨ turn = .interrupted →
      TurnStep settings tick found { tick with turn } id false
  | countError : tick.turn = .countError →
      TurnStep settings tick found { tick with turn := .lose } id false
  | lose : tick.turn = .lose →
      TurnStep settings tick found { tick with turn := .countLost } (·.markLost) false
  | countLost : tick.turn = .countLost →
      TurnStep settings tick found { tick with turn := .remove } id false
  | beat : tick.turn = .beat →
      TurnStep settings tick found { tick with turn := .countBeat }
        (·.markHeartbeat tick.now (tick.now + settings.intervalMs)) false
  | countBeat : tick.turn = .countBeat → TurnStep settings tick found tick.next id false
  | remove : tick.turn = .remove → TurnStep settings tick found tick.next id true

namespace TurnStep

variable {settings : HeartbeatSettings} {tick after : Tick}
  {found : LeaseHeartbeatHandle Payload}
  {change : LeaseHeartbeatHandle Payload → LeaseHeartbeatHandle Payload} {removes : Bool}

section

variable (turned : TurnStep settings tick found after change removes)

include turned

theorem kept (handle : LeaseHeartbeatHandle Payload) : handle.Kept (change handle) := by
  cases turned with
  | expire => exact handle.kept_markExpired
  | lose => exact handle.kept_markLost
  | beat => exact handle.kept_markHeartbeat _ _
  | _ => exact .refl handle

theorem sameHandles :
    after.handles = tick.handles ∧ after.now = tick.now := by
  cases turned <;> exact ⟨rfl, rfl⟩

theorem position :
    after.position = tick.position ∨ after = tick.next := by
  cases turned with
  | early | countBeat | remove => exact Or.inr rfl
  | _ => exact Or.inl rfl

end

end TurnStep

namespace Supervisor

variable {settings : HeartbeatSettings} {state next : Supervisor Payload}

@[simp] theorem removeHandle_handles (key : String) (handle : Nat) :
    (state.removeHandle key handle).handles = state.handles := by
  simp only [removeHandle]
  split <;> rfl

@[simp] theorem removeHandle_ticks (key : String) (handle : Nat) :
    (state.removeHandle key handle).ticks = state.ticks := by
  simp only [removeHandle]
  split <;> rfl

@[simp] theorem removeHandle_unmarked (key : String) (handle : Nat) :
    (state.removeHandle key handle).unmarked = state.unmarked := by
  simp only [removeHandle]
  split <;> rfl

theorem removeHandle_get_of_ne {key asked : String} {handle kept : Nat}
    (different : kept ≠ handle) (registered : state.table.get asked = some kept) :
    (state.removeHandle key handle).table.get asked = some kept := by
  simp only [removeHandle]
  split
  next found =>
    have otherKey : asked ≠ key := by
      intro same
      rw [same, found] at registered
      exact different (Option.some.inj registered).symm
    simp only
    rw [Dict.get_erase_of_ne _ otherKey]
    exact registered
  next => exact registered

theorem removeHandle_get_self (key : String) (handle : Nat) :
    (state.removeHandle key handle).table.get key ≠ some handle := by
  simp only [removeHandle]
  split
  next => simp
  next absent => exact absent

theorem get_of_removeHandle {key asked : String} {handle kept : Nat}
    (registered : (state.removeHandle key handle).table.get asked = some kept) :
    state.table.get asked = some kept := by
  simp only [removeHandle] at registered
  split at registered
  next =>
    by_cases same : asked = key
    · subst same
      simp at registered
    · rw [Dict.get_erase_of_ne _ same] at registered
      exact registered
  next => exact registered

/-- Everything a step of a tick does. -/
structure Advanced (settings : HeartbeatSettings) (state next : Supervisor Payload)
    (index : Nat) (tick after : Tick) (handle : Nat) (found : LeaseHeartbeatHandle Payload)
    (change : LeaseHeartbeatHandle Payload → LeaseHeartbeatHandle Payload)
    (removes : Bool) : Prop where
  ticking : state.ticks[index]? = some tick
  current : tick.current = some handle
  located : state.handles[handle]? = some found
  turned : TurnStep settings tick found after change removes
  ticks : next.ticks = state.ticks.set index after
  handles : next.handles = state.handles.modify handle change
  unmarked : next.unmarked = state.unmarked
  table : next.table =
    if removes then (state.removeHandle found.key handle).table else state.table

variable {index : Nat}

theorem advance_eq_some {answer : Answer}
    (stepped : state.advance settings index answer = some next) :
    ∃ tick after handle found change removes,
      Advanced settings state next index tick after handle found change removes := by
  simp only [advance] at stepped
  split at stepped
  next => cases stepped
  next tick ticking =>
    split at stepped
    next => cases stepped
    next handle current =>
      split at stepped
      next => cases stepped
      next found located =>
        have result : ∀ after change removes, TurnStep settings tick found after change removes →
            next.ticks = state.ticks.set index after →
            next.handles = state.handles.modify handle change →
            next.unmarked = state.unmarked →
            next.table =
              (if removes then (state.removeHandle found.key handle).table else state.table) →
            ∃ tick after handle found change removes,
              Advanced settings state next index tick after handle found change removes :=
          fun after change removes turned ticks handles unmarked table =>
            ⟨tick, after, handle, found, change, removes,
              ⟨ticking, current, located, turned, ticks, handles, unmarked, table⟩⟩
        simp only [turnOf] at stepped
        split at stepped
        next turn =>
          split at stepped
          next unhealthy =>
            cases stepped
            exact result _ _ _ (.unhealthy turn (by simpa using unhealthy)) rfl
              (List.modify_id _ _).symm rfl rfl
          next healthy =>
            have isHealthy : found.healthy = true := by simpa using healthy
            split at stepped
            next aged =>
              cases stepped
              exact result _ _ _ (.aged turn isHealthy aged) rfl (List.modify_id _ _).symm rfl rfl
            next young =>
              cases stepped
              exact result _ _ _ (.young turn isHealthy young) rfl (List.modify_id _ _).symm rfl rfl
        next turn =>
          cases stepped
          exact result _ _ _ (.expire turn) rfl rfl rfl rfl
        next turn =>
          cases stepped
          exact result _ _ _ (.countExpired turn) rfl (List.modify_id _ _).symm rfl rfl
        next turn =>
          split at stepped
          next =>
            cases stepped
            exact result _ _ _ (.early turn) rfl (List.modify_id _ _).symm rfl rfl
          next =>
            cases stepped
            exact result _ _ _ (.call turn) rfl (List.modify_id _ _).symm rfl rfl
        next turn =>
          have answered : ∀ outcome,
              outcome = .beat ∨ outcome = .lose ∨ outcome = .countError ∨ outcome = .interrupted →
              some (state.setTick index { tick with turn := outcome }) = some next →
              ∃ tick after handle found change removes,
                Advanced settings state next index tick after handle found change removes := by
            intro outcome outcomes same
            cases same
            exact result _ _ _ (.answered turn outcomes) rfl (List.modify_id _ _).symm rfl rfl
          cases answer with
          | truthy => exact answered .beat (by simp) stepped
          | falsy => exact answered .lose (by simp) stepped
          | exception => exact answered .countError (by simp) stepped
          | interrupt => exact answered .interrupted (by simp) stepped
        next turn =>
          cases stepped
          exact result _ _ _ (.countError turn) rfl (List.modify_id _ _).symm rfl rfl
        next turn =>
          cases stepped
          exact result _ _ _ (.lose turn) rfl rfl rfl rfl
        next turn =>
          cases stepped
          exact result _ _ _ (.countLost turn) rfl (List.modify_id _ _).symm rfl rfl
        next turn =>
          cases stepped
          exact result _ _ _ (.beat turn) rfl rfl rfl rfl
        next turn =>
          cases stepped
          exact result _ _ _ (.countBeat turn) rfl (List.modify_id _ _).symm rfl rfl
        next turn =>
          cases stepped
          apply result _ _ _ (.remove turn)
          · simp [setTick]
          · rw [List.modify_id]
            simp [setTick]
          all_goals simp [setTick]
        next => cases stepped

/-! ## What later states keep -/

structure Later (before after : Supervisor Payload) : Prop where
  handles : ∀ (index : Nat) handle, before.handles[index]? = some handle →
    ∃ later, after.handles[index]? = some later ∧ handle.Kept later
  table : ∀ key index, index < before.handles.length → after.table.get key = some index →
    before.table.get key = some index
  ticks : ∀ (index : Nat) tick, before.ticks[index]? = some tick →
    ∃ later, after.ticks[index]? = some later ∧ later.handles = tick.handles ∧
      later.now = tick.now

theorem Later.length {before after : Supervisor Payload} (later : Later before after) :
    before.handles.length ≤ after.handles.length := by
  rcases Nat.eq_zero_or_pos before.handles.length with none | some
  · omega
  · have last := List.getElem?_eq_getElem (Nat.sub_lt some Nat.one_pos)
    rcases later.handles _ _ last with ⟨_, found, _⟩
    have bound := (List.getElem?_eq_some_iff.mp found).1
    omega

theorem Later.refl (state : Supervisor Payload) : Later state state where
  handles _ handle found := ⟨handle, found, .refl handle⟩
  table _ _ _ registered := registered
  ticks _ tick found := ⟨tick, found, rfl, rfl⟩

theorem Later.trans {first second third : Supervisor Payload} (left : Later first second)
    (right : Later second third) : Later first third where
  handles index handle found := by
    rcases left.handles index handle found with ⟨middle, foundMiddle, kept⟩
    rcases right.handles index middle foundMiddle with ⟨last, foundLast, keptLast⟩
    exact ⟨last, foundLast, kept.trans keptLast⟩
  table key index known registered :=
    left.table key index known
      (right.table key index (Nat.lt_of_lt_of_le known left.length) registered)
  ticks index tick found := by
    rcases left.ticks index tick found with ⟨middle, foundMiddle, sameHandles, sameNow⟩
    rcases right.ticks index middle foundMiddle with ⟨last, foundLast, lastHandles, lastNow⟩
    exact ⟨last, foundLast, lastHandles.trans sameHandles, lastNow.trans sameNow⟩

theorem Later.handle {before after : Supervisor Payload} (later : Later before after)
    (known : index < before.handles.length) {handle : LeaseHeartbeatHandle Payload}
    (found : after.handles[index]? = some handle) :
    ∃ earlier, before.handles[index]? = some earlier ∧ earlier.Kept handle := by
  have foundEarlier := List.getElem?_eq_getElem known
  rcases later.handles index _ foundEarlier with ⟨_, foundSame, kept⟩
  rw [found] at foundSame
  cases foundSame
  exact ⟨_, foundEarlier, kept⟩

theorem modify_kept {handles : List (LeaseHeartbeatHandle Payload)} {changed index : Nat}
    {change : LeaseHeartbeatHandle Payload → LeaseHeartbeatHandle Payload}
    (kept : ∀ handle : LeaseHeartbeatHandle Payload, handle.Kept (change handle))
    {handle : LeaseHeartbeatHandle Payload} (found : handles[index]? = some handle) :
    ∃ later, (handles.modify changed change)[index]? = some later ∧ handle.Kept later := by
  rw [List.getElem?_modify, found]
  by_cases same : changed = index
  · exact ⟨change handle, by simp [same], kept handle⟩
  · exact ⟨handle, by simp [same], .refl handle⟩

theorem register_handles (settings : HeartbeatSettings) (state : Supervisor Payload)
    (key : String) (payload : Payload) (leaseMs now : Int) :
    ∃ marked fresh, (state.register settings key payload leaseMs now).handles =
        marked ++ [fresh] ∧ marked.length = state.handles.length ∧ fresh.key = key ∧
      (∀ (index : Nat) (handle : LeaseHeartbeatHandle Payload),
        state.handles[index]? = some handle →
        ∃ later, marked[index]? = some later ∧ handle.Kept later) ∧
      (∀ (index : Nat) (handle : LeaseHeartbeatHandle Payload),
        state.table.get key = some index →
        marked[index]? = some handle → handle.healthy = false) := by
  simp only [register]
  split
  next previous replaced =>
    refine ⟨_, _, rfl, by simp [modifyHandle], rfl, ?_, ?_⟩
    · intro index handle found
      exact modify_kept (fun other => other.kept_markUnregistered) found
    · intro index handle current found
      rw [replaced] at current
      cases current
      simp only [modifyHandle, List.getElem?_modify_eq] at found
      rcases Option.map_eq_some_iff.mp found with ⟨_, _, rfl⟩
      simp [LeaseHeartbeatHandle.markUnregistered, LeaseHeartbeatHandle.healthy]
  next absent =>
    refine ⟨_, _, rfl, rfl, rfl, ?_, ?_⟩
    · intro index handle found
      exact ⟨handle, found, .refl handle⟩
    · intro index handle current
      rw [absent] at current
      cases current

theorem register_later (settings : HeartbeatSettings) (state : Supervisor Payload) (key : String)
    (payload : Payload) (leaseMs now : Int) :
    Later state (state.register settings key payload leaseMs now) := by
  rcases register_handles settings state key payload leaseMs now with
    ⟨_, _, handles, _, _, kept, _⟩
  constructor
  · intro index handle found
    rcases kept index handle found with ⟨later, foundLater, keptLater⟩
    have bound := (List.getElem?_eq_some_iff.mp foundLater).1
    refine ⟨later, ?_, keptLater⟩
    rw [handles, List.getElem?_append_left bound]
    exact foundLater
  · intro asked index known registered
    simp only [register] at registered
    rw [Dict.get_set] at registered
    split at registered
    next =>
      cases registered
      omega
    next different =>
      rw [Dict.get_erase_of_ne _ different] at registered
      exact registered
  · intro index tick found
    refine ⟨tick, ?_, rfl, rfl⟩
    simp only [register]
    split <;> exact found

theorem advance_later {answer : Answer}
    (stepped : state.advance settings index answer = some next) : Later state next := by
  rcases advance_eq_some stepped with ⟨_, after, _, _, _, _, advanced⟩
  constructor
  · intro position known located
    rw [advanced.handles]
    exact modify_kept advanced.turned.kept located
  · intro key position _ registered
    rw [advanced.table] at registered
    split at registered
    next => exact get_of_removeHandle registered
    next => exact registered
  · intro position known located
    rw [advanced.ticks]
    by_cases same : position = index
    · subst same
      rw [advanced.ticking] at located
      cases located
      have bound := (List.getElem?_eq_some_iff.mp advanced.ticking).1
      exact ⟨after, List.getElem?_set_self bound, advanced.turned.sameHandles.1,
        advanced.turned.sameHandles.2⟩
    · exact ⟨known, by rw [List.getElem?_set_ne (Ne.symm same)]; exact located, rfl, rfl⟩

theorem step_later {label : SupervisorLabel Payload}
    (stepped : state.step settings label = some next) : Later state next := by
  cases label with
  | register key payload leaseMs now =>
    cases stepped
    exact register_later settings state key payload leaseMs now
  | unregister =>
    simp only [step, unregister] at stepped
    split at stepped
    next => cases stepped
    next found located =>
      cases stepped
      constructor
      · intro index known foundKnown
        exact ⟨known, by simpa using foundKnown, .refl known⟩
      · intro key index _ registered
        exact get_of_removeHandle registered
      · intro index tick foundTick
        exact ⟨tick, by simpa using foundTick, rfl, rfl⟩
  | mark =>
    simp only [step, mark] at stepped
    split at stepped
    next =>
      cases stepped
      constructor
      · intro index known found
        exact modify_kept (fun other => other.kept_markUnregistered) found
      · intro key index _ registered
        exact registered
      · intro index tick found
        exact ⟨tick, found, rfl, rfl⟩
    next => cases stepped
  | beginTick =>
    cases stepped
    constructor
    · intro index handle found
      exact ⟨handle, found, .refl handle⟩
    · intro key index _ registered
      exact registered
    · intro index tick found
      have bound := (List.getElem?_eq_some_iff.mp found).1
      refine ⟨tick, ?_, rfl, rfl⟩
      simp only [beginTick]
      rw [List.getElem?_append_left bound]
      exact found
  | tick => exact advance_later stepped
  | close =>
    cases stepped
    constructor
    · intro index handle found
      exact ⟨handle, found, .refl handle⟩
    · intro key index _ registered
      cases registered
    · intro index tick found
      exact ⟨tick, found, rfl, rfl⟩

theorem run_later {labels : List (SupervisorLabel Payload)}
    (ran : (supervisorMachine Payload settings).run state labels = some next) :
    Later state next :=
  Machine.run_keeps (fun _ _ _ later stepped => later.trans (step_later stepped)) (.refl _) ran

end Supervisor

end VideoAnalysis.Scheduler
