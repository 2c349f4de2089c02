import VideoAnalysis.Scheduler.HeartbeatRuns

/-! # What supervision guarantees

An unhealthy handle stays unhealthy and gets no further heartbeat, a key has one
registered handle, and a tick leaves no handle behind that was too old for it.
-/

namespace VideoAnalysis.Scheduler

open Foundation
open Supervisor (advance_eq_some advance_later removeHandle_get_of_ne run_later setTick
  step_later turnOf)

variable {Payload : Type} {settings : HeartbeatSettings}

def Tick.Aged (settings : HeartbeatSettings) (tick : Tick)
    (handle : LeaseHeartbeatHandle Payload) : Prop :=
  settings.maxAttemptAgeMs ≤ tick.now - handle.startedAt

/-- The turns between the test of a handle's health and the end of its heartbeat. -/
def Turn.beating (turn : Turn) : Prop :=
  turn = .due ∨ turn = .call ∨ turn = .countError ∨ turn = .lose ∨ turn = .beat ∨
    turn = .countBeat ∨ turn = .interrupted

def Turn.giving (turn : Turn) : Prop :=
  turn = .countExpired ∨ turn = .countLost ∨ turn = .remove

structure TickValid (settings : HeartbeatSettings) (state : Supervisor Payload)
    (tick : Tick) : Prop where
  known : ∀ index ∈ tick.handles, index < state.handles.length
  beating : ∀ (index : Nat) handle, tick.current = some index →
    state.handles[index]? = some handle → tick.turn.beating → ¬ tick.Aged settings handle
  giving : ∀ (index : Nat) (handle : LeaseHeartbeatHandle Payload), tick.current = some index →
    state.handles[index]? = some handle → tick.turn.giving → handle.healthy = false
  passed : ∀ (position index : Nat) handle, position < tick.position →
    tick.handles[position]? = some index → state.handles[index]? = some handle →
    tick.Aged settings handle →
    handle.healthy = false ∧ state.table.get handle.key ≠ some index

structure Supervised (settings : HeartbeatSettings) (state : Supervisor Payload) : Prop where
  keyed : ∀ entry ∈ state.table.entries, ∃ handle,
    state.handles[entry.2]? = some handle ∧ handle.key = entry.1
  registered : ∀ (index : Nat) (handle : LeaseHeartbeatHandle Payload),
    state.handles[index]? = some handle → handle.healthy = true →
    state.table.get handle.key = some index ∨ index ∈ state.unmarked
  ticks : ∀ tick ∈ state.ticks, TickValid settings state tick

variable {tick : Tick}

theorem TickValid.later {before after : Supervisor Payload}
    (valid : TickValid settings before tick) (later : before.Later after) :
    TickValid settings after tick := by
  have known : ∀ index ∈ tick.handles, index < before.handles.length := valid.known
  constructor
  · intro index member
    exact Nat.lt_of_lt_of_le (known index member) later.length
  · intro index handle current found beating
    rcases later.handle (known index (List.mem_of_getElem? current)) found with
      ⟨earlier, foundEarlier, kept⟩
    have young := valid.beating index earlier current foundEarlier beating
    simp only [Tick.Aged] at young ⊢
    rw [kept.startedAt]
    exact young
  · intro index handle current found giving
    rcases later.handle (known index (List.mem_of_getElem? current)) found with
      ⟨earlier, foundEarlier, kept⟩
    exact kept.healthy (valid.giving index earlier current foundEarlier giving)
  · intro position index handle passed listed found aged
    have old := known index (List.mem_of_getElem? listed)
    rcases later.handle old found with ⟨earlier, foundEarlier, kept⟩
    simp only [Tick.Aged] at aged
    rw [kept.startedAt] at aged
    rcases valid.passed position index earlier passed listed foundEarlier aged with
      ⟨unhealthy, gone⟩
    refine ⟨kept.healthy unhealthy, ?_⟩
    rw [kept.key]
    intro back
    exact gone (later.table _ _ old back)

section

variable {state : Supervisor Payload}
  (valid : TickValid settings state tick) {index : Nat} {handle : LeaseHeartbeatHandle Payload}
  (current : tick.current = some index)

include state valid index handle current

theorem TickValid.withTurn (located : state.handles[index]? = some handle) {turn : Turn}
    (beating : turn.beating → ¬ tick.Aged settings handle)
    (giving : turn.giving → handle.healthy = false) :
    TickValid settings state { tick with turn } := by
  constructor
  · exact valid.known
  · intro other found sameCurrent foundOther
    have same : some index = some other := current.symm.trans sameCurrent
    cases same
    rw [located] at foundOther
    cases foundOther
    exact beating
  · intro other found sameCurrent foundOther
    have same : some index = some other := current.symm.trans sameCurrent
    cases same
    rw [located] at foundOther
    cases foundOther
    exact giving
  · exact valid.passed

theorem TickValid.next (located : state.handles[index]? = some handle)
    (passed : tick.Aged settings handle →
      handle.healthy = false ∧ state.table.get handle.key ≠ some index) :
    TickValid settings state tick.next := by
  constructor
  · exact valid.known
  · intro other found _ _ beating
    simp [Turn.beating, Tick.next] at beating
  · intro other found _ _ giving
    simp [Turn.giving, Tick.next] at giving
  · intro position other found before listed foundOther aged
    simp only [Tick.next] at before listed
    rcases Nat.lt_or_ge position tick.position with earlier | last
    · exact valid.passed position other found earlier listed foundOther aged
    · have here : position = tick.position := by omega
      subst here
      have same : some index = some other := current.symm.trans listed
      cases same
      rw [located] at foundOther
      cases foundOther
      exact passed aged

end

theorem TickValid.turned {state : Supervisor Payload} {tick after : Tick}
    (valid : TickValid settings state tick) {index : Nat}
    {found handle : LeaseHeartbeatHandle Payload}
    {change : LeaseHeartbeatHandle Payload → LeaseHeartbeatHandle Payload} {removes : Bool}
    (turned : TurnStep settings tick found after change removes)
    (current : tick.current = some index) (located : state.handles[index]? = some handle)
    (changed : handle = change found)
    (taken : removes = true → state.table.get handle.key ≠ some index) :
    TickValid settings state after := by
  have young : tick.turn.beating → ¬ tick.Aged settings handle :=
    valid.beating index handle current located
  have given : tick.turn.giving → handle.healthy = false :=
    valid.giving index handle current located
  cases turned with
  | unhealthy _ unhealthy =>
    apply valid.withTurn current located
    · simp [Turn.beating]
    · intro _
      rw [changed]
      exact unhealthy
  | aged =>
    apply valid.withTurn current located
    · simp [Turn.beating]
    · simp [Turn.giving]
  | young _ _ isYoung =>
    apply valid.withTurn current located
    · intro _
      rw [changed]
      exact isYoung
    · simp [Turn.giving]
  | expire =>
    apply valid.withTurn current located
    · simp [Turn.beating]
    · intro _
      rw [changed]
      simp [LeaseHeartbeatHandle.healthy, LeaseHeartbeatHandle.markExpired]
  | countExpired turn | countLost turn =>
    apply valid.withTurn current located
    · simp [Turn.beating]
    · intro _
      exact given (by simp [Turn.giving, turn])
  | call turn | countError turn | beat turn =>
    apply valid.withTurn current located
    · intro _
      exact young (by simp [Turn.beating, turn])
    · simp [Turn.giving]
  | answered turn outcomes =>
    apply valid.withTurn current located
    · intro _
      exact young (by simp [Turn.beating, turn])
    · rcases outcomes with rfl | rfl | rfl | rfl <;> simp [Turn.giving]
  | lose =>
    apply valid.withTurn current located
    · intro _
      exact young (by simp_all [Turn.beating])
    · intro _
      rw [changed]
      simp [LeaseHeartbeatHandle.healthy, LeaseHeartbeatHandle.markLost]
  | early turn | countBeat turn =>
    apply valid.next current located
    intro aged
    exact absurd aged (young (by simp [Turn.beating, turn]))
  | remove turn =>
    apply valid.next current located
    intro _
    exact ⟨given (by simp [Turn.giving, turn]), taken rfl⟩

theorem eq_of_unregister {state next : Supervisor Payload} {handle : Nat}
    (stepped : state.unregister handle = some next) : ∃ key,
      next = { state.removeHandle key handle with unmarked := handle :: state.unmarked } := by
  simp only [Supervisor.unregister] at stepped
  split at stepped
  next => cases stepped
  next found _ => exact ⟨found.key, (Option.some.inj stepped).symm⟩

theorem eq_of_mark {state next : Supervisor Payload} {handle : Nat}
    (stepped : state.mark handle = some next) :
    next = { state.modifyHandle handle (·.markUnregistered) with
      unmarked := state.unmarked.erase handle } := by
  simp only [Supervisor.mark] at stepped
  split at stepped
  next => exact (Option.some.inj stepped).symm
  next => cases stepped

namespace Supervised

variable {state next : Supervisor Payload}

theorem get_of_values (supervised : Supervised settings state) {index : Nat}
    (member : index ∈ state.table.values) : index < state.handles.length := by
  simp only [Dict.values, List.mem_map] at member
  rcases member with ⟨entry, inTable, rfl⟩
  rcases supervised.keyed entry inTable with ⟨_, found, _⟩
  exact (List.getElem?_eq_some_iff.mp found).1

theorem keyed_of_subset (supervised : Supervised settings state) (later : state.Later next)
    (subset : ∀ entry ∈ next.table.entries, entry ∈ state.table.entries) :
    ∀ entry ∈ next.table.entries, ∃ handle,
      next.handles[entry.2]? = some handle ∧ handle.key = entry.1 := by
  intro entry member
  rcases supervised.keyed entry (subset entry member) with ⟨_, found, sameKey⟩
  rcases later.handles _ _ found with ⟨after, foundAfter, kept⟩
  exact ⟨after, foundAfter, kept.key.trans sameKey⟩

theorem ticks_later (supervised : Supervised settings state) (later : state.Later next)
    (same : next.ticks = state.ticks) : ∀ tick ∈ next.ticks, TickValid settings next tick := by
  intro tick member
  rw [same] at member
  exact (supervised.ticks tick member).later later

theorem removeHandle_subset (key : String) (handle : Nat) :
    ∀ entry ∈ (state.removeHandle key handle).table.entries, entry ∈ state.table.entries := by
  intro entry member
  simp only [Supervisor.removeHandle] at member
  split at member
  next => exact List.mem_of_mem_filter member
  next => exact member

section

variable (supervised : Supervised settings state)

include supervised

theorem register (key : String) (payload : Payload) (leaseMs now : Int) :
    Supervised settings (state.register settings key payload leaseMs now) := by
  have later := Supervisor.register_later settings state key payload leaseMs now
  rcases Supervisor.register_handles settings state key payload leaseMs now with
    ⟨marked, fresh, handles, sameLength, freshKey, kept, replaced⟩
  have table : (state.register settings key payload leaseMs now).table =
      (state.table.erase key).set key state.handles.length := rfl
  constructor
  · intro entry member
    rw [table] at member
    rw [handles]
    rcases Dict.mem_entries_set member with rfl | old
    · refine ⟨fresh, ?_, freshKey⟩
      simp [← sameLength]
    · have inTable := List.mem_of_mem_filter old
      rcases supervised.keyed entry inTable with ⟨_, found, sameKey⟩
      rcases kept _ _ found with ⟨after, foundAfter, keptAfter⟩
      have bound := (List.getElem?_eq_some_iff.mp foundAfter).1
      exact ⟨after, by rw [List.getElem?_append_left bound]; exact foundAfter,
        keptAfter.key.trans sameKey⟩
  · intro index handle found healthy
    rw [table]
    rw [handles] at found
    rcases Nat.lt_or_ge index marked.length with old | new
    · rw [List.getElem?_append_left old] at found
      rw [sameLength] at old
      rcases later.handle old (by rw [handles, List.getElem?_append_left (by omega)]; exact found)
        with ⟨earlier, foundEarlier, keptEarlier⟩
      have wasHealthy : earlier.healthy = true := by
        by_contra unhealthy
        rw [keptEarlier.healthy (by simpa using unhealthy)] at healthy
        cases healthy
      rcases supervised.registered index earlier foundEarlier wasHealthy with inTable | waiting
      · left
        rw [← keptEarlier.key] at inTable
        by_cases sameKey : handle.key = key
        · rw [sameKey] at inTable
          rw [replaced index handle inTable found] at healthy
          cases healthy
        · rw [Dict.get_set_of_ne _ _ sameKey, Dict.get_erase_of_ne _ sameKey]
          exact inTable
      · right
        simp only [Supervisor.register]
        split <;> exact waiting
    · left
      rw [List.getElem?_append_right new, List.getElem?_singleton] at found
      split at found
      next first =>
        cases found
        have position : index = state.handles.length := by omega
        rw [freshKey, Dict.get_set_self, position]
      next => cases found
  · apply supervised.ticks_later later
    simp only [Supervisor.register]
    split <;> rfl

theorem unregister {handle : Nat} (later : state.Later next)
    (stepped : state.unregister handle = some next) : Supervised settings next := by
  rcases eq_of_unregister stepped with ⟨key, rfl⟩
  constructor
  · exact supervised.keyed_of_subset later (removeHandle_subset key handle)
  · intro index other foundOther healthy
    simp only [Supervisor.removeHandle_handles] at foundOther
    rcases supervised.registered index other foundOther healthy with inTable | waiting
    · by_cases same : index = handle
      · right
        rw [same]
        exact List.mem_cons_self
      · left
        exact removeHandle_get_of_ne same inTable
    · right
      exact List.mem_cons_of_mem _ waiting
  · apply supervised.ticks_later later
    simp

theorem mark {handle : Nat} (later : state.Later next)
    (stepped : state.mark handle = some next) : Supervised settings next := by
  cases eq_of_mark stepped
  constructor
  · exact supervised.keyed_of_subset later fun _ member => member
  · intro index other foundOther healthy
    simp only [Supervisor.modifyHandle] at foundOther
    by_cases same : index = handle
    · subst same
      rw [List.getElem?_modify_eq] at foundOther
      rcases Option.map_eq_some_iff.mp foundOther with ⟨_, _, rfl⟩
      simp [LeaseHeartbeatHandle.markUnregistered, LeaseHeartbeatHandle.healthy] at healthy
    · rw [List.getElem?_modify_ne _ _ (Ne.symm same)] at foundOther
      rcases supervised.registered index other foundOther healthy with inTable | waiting
      · exact Or.inl inTable
      · right
        simp only
        rw [List.mem_erase_of_ne same]
        exact waiting
  · exact supervised.ticks_later later rfl

theorem beginTick (now : Int) :
    Supervised settings (state.beginTick now) where
  keyed := supervised.keyed
  registered := supervised.registered
  ticks := by
    intro tick member
    rcases List.mem_append.mp member with old | fresh
    · rcases supervised.ticks tick old with ⟨known, beating, giving, passed⟩
      exact ⟨known, beating, giving, passed⟩
    · cases List.mem_singleton.mp fresh
      constructor
      · intro index listed
        exact supervised.get_of_values listed
      · intro index handle _ _ beating
        simp [Turn.beating] at beating
      · intro index handle _ _ giving
        simp [Turn.giving] at giving
      · intro position index handle before
        simp at before

theorem advance {index : Nat} {answer : Answer}
    (stepped : state.advance settings index answer = some next) :
    Supervised settings next := by
  have later := advance_later stepped
  rcases advance_eq_some stepped with ⟨tick, _, handle, found, change, _, advanced⟩
  have ticking := List.mem_of_getElem? advanced.ticking
  have valid := supervised.ticks tick ticking
  have locatedAfter : next.handles[handle]? = some (change found) := by
    rw [advanced.handles, List.getElem?_modify_eq, advanced.located]
    rfl
  have kept := advanced.turned.kept found
  constructor
  · apply supervised.keyed_of_subset later
    intro entry member
    rw [advanced.table] at member
    split at member
    next => exact removeHandle_subset _ _ entry member
    next => exact member
  · intro position other foundOther healthy
    have known : position < state.handles.length := by
      have bound := (List.getElem?_eq_some_iff.mp foundOther).1
      rw [advanced.handles, List.length_modify] at bound
      exact bound
    rcases later.handle known foundOther with ⟨earlier, foundEarlier, keptEarlier⟩
    have wasHealthy : earlier.healthy = true := by
      by_contra unhealthy
      rw [keptEarlier.healthy (by simpa using unhealthy)] at healthy
      cases healthy
    rw [advanced.table, advanced.unmarked, keptEarlier.key]
    rcases supervised.registered position earlier foundEarlier wasHealthy with inTable | waiting
    · left
      split
      next removing =>
        have elsewhere : position ≠ handle := by
          intro same
          subst same
          have turn : tick.turn = .remove := by
            cases advanced.turned <;> first | assumption | cases removing
          have unhealthy := valid.giving position earlier advanced.current foundEarlier
            (by simp [Turn.giving, turn])
          rw [unhealthy] at wasHealthy
          cases wasHealthy
        exact removeHandle_get_of_ne elsewhere inTable
      next => exact inTable
    · exact Or.inr waiting
  · intro other member
    rw [advanced.ticks] at member
    rcases List.mem_or_eq_of_mem_set member with old | rfl
    · exact (supervised.ticks other old).later later
    · apply (valid.later later).turned advanced.turned advanced.current locatedAfter rfl
      intro removing
      rw [advanced.table, if_pos removing, kept.key]
      exact Supervisor.removeHandle_get_self _ _

theorem close (later : state.Later state.close) :
    Supervised settings state.close where
  keyed := by
    intro entry member
    cases member
  registered := by
    intro index handle found healthy
    right
    rcases supervised.registered index handle found healthy with inTable | waiting
    · apply List.mem_append_left
      exact List.mem_map.mpr ⟨(handle.key, index), Dict.mem_of_get inTable, rfl⟩
    · exact List.mem_append_right _ waiting
  ticks := supervised.ticks_later later rfl

theorem step {label : SupervisorLabel Payload}
    (stepped : state.step settings label = some next) : Supervised settings next := by
  have later := step_later stepped
  cases label with
  | register key payload leaseMs now =>
    cases stepped
    exact supervised.register key payload leaseMs now
  | unregister => exact supervised.unregister later stepped
  | mark => exact supervised.mark later stepped
  | beginTick now =>
    cases stepped
    exact supervised.beginTick now
  | tick => exact supervised.advance stepped
  | close =>
    cases stepped
    exact supervised.close later

end

end Supervised

theorem supervised_invariant (Payload : Type) (settings : HeartbeatSettings) :
    (supervisorMachine Payload settings).Invariant (Supervised settings) where
  initially := by
    intro state initial
    subst initial
    constructor
    · intro entry member
      cases member
    all_goals simp
  preserved := by
    intro current label next _ supervised stepped
    exact supervised.step stepped

/-! ## Unhealthy handles -/

/-- An unhealthy handle that the ticks from a number on only pass by. -/
structure Shunned (state : Supervisor Payload) (index first : Nat) : Prop where
  unhealthy : ∃ handle, state.handles[index]? = some handle ∧ handle.healthy = false
  ticks : ∀ (number : Nat) tick, first ≤ number → state.ticks[number]? = some tick →
    tick.current = some index → tick.turn = .check ∨ tick.turn = .remove

namespace Shunned

variable {state next : Supervisor Payload} {index first : Nat}

section

variable (shunned : Shunned state index first)

include shunned

theorem unhealthy_later (later : state.Later next) :
    ∃ handle, next.handles[index]? = some handle ∧ handle.healthy = false := by
  rcases shunned.unhealthy with ⟨_, found, unhealthy⟩
  rcases later.handles _ _ found with ⟨after, foundAfter, kept⟩
  exact ⟨after, foundAfter, kept.healthy unhealthy⟩

theorem of_same_ticks (later : state.Later next) (same : next.ticks = state.ticks) :
    Shunned next index first where
  unhealthy := shunned.unhealthy_later later
  ticks := by
    rw [same]
    exact shunned.ticks

theorem advance {number : Nat} {answer : Answer}
    (stepped : state.advance settings number answer = some next) :
    Shunned next index first := by
  rcases advance_eq_some stepped with ⟨tick, _, handle, _, _, _, advanced⟩
  refine ⟨shunned.unhealthy_later (advance_later stepped), ?_⟩
  intro asked known late located current
  rw [advanced.ticks] at located
  by_cases same : asked = number
  · subst same
    have bound := (List.getElem?_eq_some_iff.mp advanced.ticking).1
    rw [List.getElem?_set_self bound] at located
    cases located
    rcases advanced.turned.position with stays | goes
    · have here : tick.current = some index := by
        simp only [Tick.current, stays, advanced.turned.sameHandles.1] at current ⊢
        exact current
      have isHandle : some handle = some index := advanced.current.symm.trans here
      cases isHandle
      rcases shunned.unhealthy with ⟨_, foundKnown, unhealthy⟩
      rw [advanced.located] at foundKnown
      cases foundKnown
      have turns := shunned.ticks asked tick late advanced.ticking here
      cases advanced.turned with
      | unhealthy => exact Or.inr rfl
      | aged _ healthy | young _ healthy =>
        rw [unhealthy] at healthy
        cases healthy
      | early | countBeat | remove => exact Or.inl rfl
      | _ turn =>
        rw [turn] at turns
        simp at turns
    · rw [goes]
      exact Or.inl rfl
  · rw [List.getElem?_set_ne (Ne.symm same)] at located
    exact shunned.ticks asked known late located current

theorem step {label : SupervisorLabel Payload}
    (stepped : state.step settings label = some next) : Shunned next index first := by
  have later := step_later stepped
  cases label with
  | register =>
    cases stepped
    apply shunned.of_same_ticks later
    simp only [Supervisor.register]
    split <;> rfl
  | unregister =>
    apply shunned.of_same_ticks later
    rcases eq_of_unregister stepped with ⟨_, rfl⟩
    simp
  | mark =>
    apply shunned.of_same_ticks later
    rw [eq_of_mark stepped]
    rfl
  | beginTick =>
    cases stepped
    refine ⟨shunned.unhealthy_later later, ?_⟩
    intro number tick late located current
    simp only [Supervisor.beginTick] at located
    rcases Nat.lt_or_ge number state.ticks.length with old | new
    · rw [List.getElem?_append_left old] at located
      exact shunned.ticks number tick late located current
    · rw [List.getElem?_append_right new, List.getElem?_singleton] at located
      split at located
      next =>
        cases located
        exact Or.inl rfl
      next => cases located
  | tick => exact shunned.advance stepped
  | close =>
    cases stepped
    exact shunned.of_same_ticks later rfl

theorem run {labels : List (SupervisorLabel Payload)}
    (ran : (supervisorMachine Payload settings).run state labels = some next) :
    Shunned next index first :=
  Machine.run_keeps (fun _ _ _ shunned stepped => shunned.step stepped) shunned ran

end

end Shunned

/-! ## Expiry -/

/-- A tick that has found a handle too old expires it before it goes on. -/
structure Expiring (state : Supervisor Payload) (number position index : Nat) : Prop where
  progress : ∃ tick, state.ticks[number]? = some tick ∧ tick.handles[position]? = some index ∧
    ((tick.position = position ∧ tick.turn = .expire) ∨
      ((tick.position = position → tick.turn = .countExpired ∨ tick.turn = .remove) ∧
        position ≤ tick.position ∧
        ∃ handle, state.handles[index]? = some handle ∧ handle.expired = true))

namespace Expiring

variable {state next : Supervisor Payload} {number position index : Nat}

section

variable (expiring : Expiring state number position index)

include expiring

theorem of_same_tick (later : state.Later next)
    (same : ∀ tick, state.ticks[number]? = some tick → next.ticks[number]? = some tick) :
    Expiring next number position index := by
  rcases expiring.progress with ⟨tick, found, listed, before | ⟨turns, reached, handle, located,
    expired⟩⟩
  · exact ⟨tick, same tick found, listed, Or.inl before⟩
  · rcases later.handles _ _ located with ⟨after, foundAfter, kept⟩
    exact ⟨tick, same tick found, listed,
      Or.inr ⟨turns, reached, after, foundAfter, kept.expired expired⟩⟩

theorem advance {moved : Nat} {answer : Answer}
    (stepped : state.advance settings moved answer = some next) :
    Expiring next number position index := by
  have later := advance_later stepped
  rcases advance_eq_some stepped with ⟨_, after, handle, found, change, _, advanced⟩
  by_cases same : moved = number
  · subst same
    have bound := (List.getElem?_eq_some_iff.mp advanced.ticking).1
    have foundAfter : next.ticks[moved]? = some after := by
      rw [advanced.ticks, List.getElem?_set_self bound]
    rcases expiring.progress with ⟨_, foundKnown, listed, progress⟩
    rw [advanced.ticking] at foundKnown
    cases foundKnown
    have stillListed : after.handles[position]? = some index := by
      rw [advanced.turned.sameHandles.1]
      exact listed
    rcases progress with ⟨here, turn⟩ | ⟨turns, reached, old, located, expired⟩
    · have current := advanced.current
      simp only [Tick.current, here] at current
      have sameHandle : some handle = some index := current.symm.trans listed
      cases sameHandle
      have locatedAfter : next.handles[index]? = some (change found) := by
        rw [advanced.handles, List.getElem?_modify_eq, advanced.located]
        rfl
      refine ⟨after, foundAfter, stillListed, Or.inr ?_⟩
      cases advanced.turned with
      | expire => exact ⟨fun _ => Or.inl rfl, Nat.le_of_eq here.symm, _, locatedAfter, rfl⟩
      | unhealthy other | aged other | young other =>
        rw [turn] at other
        cases other
      | _ other =>
        rw [turn] at other
        cases other
    · rcases later.handles _ _ located with ⟨afterHandle, locatedAfter, kept⟩
      refine ⟨after, foundAfter, stillListed, Or.inr ⟨?_, ?_, afterHandle, locatedAfter,
        kept.expired expired⟩⟩
      · intro still
        rcases advanced.turned.position with stays | goes
        · have turnsHere := turns (stays ▸ still)
          cases advanced.turned with
          | countExpired => exact Or.inr rfl
          | remove | early | countBeat =>
            simp only [Tick.next] at stays
            omega
          | unhealthy turn | aged turn | young turn =>
            rw [turn] at turnsHere
            simp at turnsHere
          | _ turn =>
            rw [turn] at turnsHere
            simp at turnsHere
        · rw [goes] at still
          simp only [Tick.next] at still
          omega
      · rcases advanced.turned.position with stays | goes
        · omega
        · rw [goes]
          simp only [Tick.next]
          omega
  · apply expiring.of_same_tick later
    intro known foundKnown
    rw [advanced.ticks, List.getElem?_set_ne same]
    exact foundKnown

theorem step {label : SupervisorLabel Payload} (stepped : state.step settings label = some next) :
    Expiring next number position index := by
  have later := step_later stepped
  cases label with
  | register =>
    cases stepped
    apply expiring.of_same_tick later
    intro tick found
    simp only [Supervisor.register]
    split <;> exact found
  | unregister =>
    apply expiring.of_same_tick later
    intro tick found
    rcases eq_of_unregister stepped with ⟨_, rfl⟩
    simpa using found
  | mark =>
    apply expiring.of_same_tick later
    intro tick found
    rw [eq_of_mark stepped]
    exact found
  | beginTick =>
    cases stepped
    apply expiring.of_same_tick later
    intro tick found
    have bound := (List.getElem?_eq_some_iff.mp found).1
    simp only [Supervisor.beginTick]
    rw [List.getElem?_append_left bound]
    exact found
  | tick => exact expiring.advance stepped
  | close =>
    cases stepped
    exact expiring.of_same_tick later fun _ found => found

theorem run {labels : List (SupervisorLabel Payload)}
    (ran : (supervisorMachine Payload settings).run state labels = some next) :
    Expiring next number position index :=
  Machine.run_keeps (fun _ _ _ expiring stepped => expiring.step stepped) expiring ran

end

theorem of_check {tick : Tick} {handle : LeaseHeartbeatHandle Payload} {answer : Answer}
    (ticking : state.ticks[number]? = some tick) (current : tick.current = some index)
    (check : tick.turn = .check) (located : state.handles[index]? = some handle)
    (healthy : handle.healthy = true) (aged : tick.Aged settings handle)
    (stepped : state.advance settings number answer = some next) :
    Expiring next number tick.position index := by
  simp only [Supervisor.advance, ticking, current, located, turnOf, check, healthy]
    at stepped
  simp only [Tick.Aged] at aged
  simp only [Bool.not_true, Bool.false_eq_true, if_false, aged, if_true] at stepped
  cases stepped
  have bound := (List.getElem?_eq_some_iff.mp ticking).1
  refine ⟨{ tick with turn := .expire }, ?_, current, Or.inl ⟨rfl, rfl⟩⟩
  simp only [setTick]
  exact List.getElem?_set_self bound

end Expiring

/-! ## Removal -/

/-- The step takes a handle from the supervisor, or works on it. -/
def Supervisor.worksOn (state : Supervisor Payload) (index : Nat) :
    SupervisorLabel Payload → Prop
  | .unregister handle | .mark handle => handle = index
  | .tick number _ => ∃ tick, state.ticks[number]? = some tick ∧ tick.current = some index
  | _ => False

theorem registered_of_worksOn {state next : Supervisor Payload} {index other : Nat}
    {key : String} {label : SupervisorLabel Payload} (works : state.worksOn index label)
    (stepped : state.step settings label = some next) (different : other ≠ index)
    (registered : state.table.get key = some other) : next.table.get key = some other := by
  cases label with
  | unregister =>
    cases works
    rcases eq_of_unregister stepped with ⟨_, rfl⟩
    exact removeHandle_get_of_ne different registered
  | mark =>
    rw [eq_of_mark stepped]
    exact registered
  | tick =>
    rcases works with ⟨tick, ticking, current⟩
    rcases advance_eq_some stepped with ⟨known, _, handle, _, _, _, advanced⟩
    have sameTick : some known = some tick := advanced.ticking.symm.trans ticking
    cases sameTick
    have sameHandle : some handle = some index := advanced.current.symm.trans current
    cases sameHandle
    rw [advanced.table]
    split
    next => exact removeHandle_get_of_ne different registered
    next => exact registered
  | register | beginTick | close => cases works

theorem gone_of_returned {state next : Supervisor Payload} (after : Supervised settings next)
    {now : Int} {key : String} {index : Nat} {handle last : LeaseHeartbeatHandle Payload}
    {labels : List (SupervisorLabel Payload)} (registered : state.table.get key = some index)
    (located : state.handles[index]? = some handle)
    (aged : settings.maxAttemptAgeMs ≤ now - handle.startedAt)
    (ran : (supervisorMachine Payload settings).run state (.beginTick now :: labels) = some next)
    (ticking : next.ticks[state.ticks.length]? = some tick)
    (returned : tick.position = tick.handles.length)
    (locatedLast : next.handles[index]? = some last) :
    last.healthy = false ∧ next.table.get last.key ≠ some index := by
  rcases (Machine.run_cons_eq_some _).mp ran with ⟨_, stepped, rest⟩
  cases stepped
  have later := run_later rest
  have begun : (state.beginTick now).ticks[state.ticks.length]? =
      some { now, handles := state.table.values } := by
    simp [Supervisor.beginTick]
  rcases later.ticks _ _ begun with ⟨_, foundSame, sameHandles, sameNow⟩
  rw [ticking] at foundSame
  cases foundSame
  have listed : index ∈ tick.handles := by
    rw [sameHandles]
    exact List.mem_map.mpr ⟨(key, index), Dict.mem_of_get registered, rfl⟩
  rcases List.getElem?_of_mem listed with ⟨position, atPosition⟩
  have passed : position < tick.position := by
    rw [returned]
    exact (List.getElem?_eq_some_iff.mp atPosition).1
  rcases later.handles index handle located with ⟨_, foundKnown, kept⟩
  rw [locatedLast] at foundKnown
  cases foundKnown
  apply (after.ticks tick (List.mem_of_getElem? ticking)).passed position index last passed
    atPosition locatedLast
  simp only [Tick.Aged]
  rw [sameNow, kept.startedAt]
  exact aged

/-- What holds from a reachable state on. -/
structure Guarded (settings : HeartbeatSettings) (state : Supervisor Payload) : Prop where
  staysUnhealthy : ∀ labels next (index : Nat) (handle last : LeaseHeartbeatHandle Payload),
    (supervisorMachine Payload settings).run state labels = some next →
    state.handles[index]? = some handle → handle.healthy = false →
    next.handles[index]? = some last → last.healthy = false
  notHeartbeated : ∀ labels next (index : Nat) (handle : LeaseHeartbeatHandle Payload)
    (number : Nat) tick,
    (supervisorMachine Payload settings).run state labels = some next →
    state.handles[index]? = some handle → handle.healthy = false →
    state.ticks.length ≤ number → next.ticks[number]? = some tick →
    tick.turn = .call → tick.current ≠ some index
  registeredOrUnmarked : ∀ (index : Nat) (handle : LeaseHeartbeatHandle Payload),
    state.handles[index]? = some handle → handle.healthy = true →
    state.table.get handle.key = some index ∨ index ∈ state.unmarked
  registeredOnce : ∀ (first second : Nat) (handle other : LeaseHeartbeatHandle Payload),
    state.handles[first]? = some handle → state.handles[second]? = some other →
    handle.key = other.key → state.table.get handle.key = some first →
    state.table.get other.key = some second → first = second
  successorStays : ∀ label next index successor key, state.worksOn index label →
    state.step settings label = some next → successor ≠ index →
    state.table.get key = some successor → next.table.get key = some successor
  agedGone : ∀ now labels next key index (handle last : LeaseHeartbeatHandle Payload) tick,
    state.table.get key = some index → state.handles[index]? = some handle →
    settings.maxAttemptAgeMs ≤ now - handle.startedAt →
    (supervisorMachine Payload settings).run state (.beginTick now :: labels) = some next →
    next.ticks[state.ticks.length]? = some tick → tick.position = tick.handles.length →
    next.handles[index]? = some last →
    last.healthy = false ∧ next.table.get last.key ≠ some index
  agedExpired : ∀ answer labels next (number : Nat) tick index
    (handle last : LeaseHeartbeatHandle Payload) now,
    state.ticks[number]? = some tick → tick.current = some index → tick.turn = .check →
    state.handles[index]? = some handle → handle.healthy = true →
    settings.maxAttemptAgeMs ≤ tick.now - handle.startedAt →
    (supervisorMachine Payload settings).run state (.tick number answer :: labels) = some next →
    next.ticks[number]? = some now → tick.position < now.position →
    next.handles[index]? = some last → last.expired = true

theorem heartbeats_guarded (Payload : Type) (settings : HeartbeatSettings)
    (state : Supervisor Payload)
    (reached : (supervisorMachine Payload settings).Reachable state) :
    Guarded settings state := by
  have supervised := (supervised_invariant Payload settings).holds reached
  constructor
  · intro labels next index handle last ran found unhealthy foundLast
    rcases (run_later ran).handles index handle found with ⟨_, foundSame, kept⟩
    rw [foundLast] at foundSame
    cases foundSame
    exact kept.healthy unhealthy
  · intro labels next index handle number tick ran found unhealthy late ticking called current
    have shunned : Shunned state index state.ticks.length := by
      refine ⟨⟨handle, found, unhealthy⟩, ?_⟩
      intro early known lateEarly foundEarly
      have bound := (List.getElem?_eq_some_iff.mp foundEarly).1
      omega
    rcases (shunned.run ran).ticks number tick late ticking current with check | remove
    · rw [called] at check
      cases check
    · rw [called] at remove
      cases remove
  · exact supervised.registered
  · intro first second handle other _ _ sameKey isFirst isSecond
    rw [sameKey, isSecond] at isFirst
    exact (Option.some.inj isFirst).symm
  · intro label next index successor key works stepped different registered
    exact registered_of_worksOn works stepped different registered
  · intro now labels next key index handle last tick registered located aged ran ticking
      returned locatedLast
    have after := (supervised_invariant Payload settings).holds (reached.run ran)
    exact gone_of_returned after registered located aged ran ticking returned locatedLast
  · intro answer labels next number tick index handle last now ticking current check located
      healthy aged ran tickingLast beyond locatedLast
    rcases (Machine.run_cons_eq_some _).mp ran with ⟨_, stepped, rest⟩
    have begun := Expiring.of_check ticking current check located healthy aged stepped
    rcases (begun.run rest).progress with ⟨same, foundSame, _, ⟨here, _⟩ | ⟨_, _, known,
      foundKnown, expired⟩⟩
    · rw [tickingLast] at foundSame
      cases foundSame
      omega
    · rw [locatedLast] at foundKnown
      cases foundKnown
      exact expired

def supersededThenExpired : List (SupervisorLabel Nat) :=
  [.register "a" 1 1000 0, .register "a" 2 1000 5, .beginTick 200, .unregister 0, .mark 0,
    .tick 0 .truthy, .tick 0 .truthy]

theorem heartbeats_guarded_expired :
    ∃ state, (supervisorMachine Nat ⟨100, 150⟩).run {} supersededThenExpired = some state ∧
      (state.handles.map (·.healthy)) = [false, false] ∧ Guarded ⟨100, 150⟩ state := by
  have ran : (supervisorMachine Nat ⟨100, 150⟩).run {} supersededThenExpired = some _ := rfl
  refine ⟨_, ran, rfl, ?_⟩
  exact heartbeats_guarded Nat ⟨100, 150⟩ _ (Machine.Reachable.run (.start rfl) ran)

/-- A handle that is unregistered between the tick's copy and its turn is old, removed
and not marked expired. -/
theorem unregistered_not_expired :
    ∃ before after : Supervisor Nat,
      (supervisorMachine Nat ⟨100, 150⟩).run {} [.register "a" 1 1000 0] = some before ∧
      before.table.get "a" = some 0 ∧
      (supervisorMachine Nat ⟨100, 150⟩).run before
        [.beginTick 200, .unregister 0, .mark 0, .tick 0 .truthy, .tick 0 .truthy] =
        some after ∧
      after.ticks.map (fun tick => (tick.handles, tick.position)) = [([0], 1)] ∧
      after.handles.map (fun handle => (handle.startedAt, handle.expired)) = [(0, false)] :=
  ⟨_, _, rfl, rfl, rfl, rfl, rfl⟩

end VideoAnalysis.Scheduler
