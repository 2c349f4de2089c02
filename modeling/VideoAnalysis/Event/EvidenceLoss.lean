import VideoAnalysis.Event.Handler

/-! # What an acknowledged message has left behind

Only the delivery that inserts the event row publishes the alert and creates the
evidence task. A run is therefore followed as three stages: the effect is still
ahead, it has happened, or the delivery that owed it is over.
-/

namespace VideoAnalysis.Event

open Foundation

namespace HandlerConfig

variable {config : HandlerConfig}

theorem Expected.alertPhase_eq (expected : Expected config) :
    config.alertPhase = .alerting := by
  simp only [alertPhase, expected.publisher, if_true]

theorem Expected.taskPhase_eq (expected : Expected config) : config.taskPhase = .tasking := by
  simp only [taskPhase, expected.admitted, if_true]

theorem recordPhase_cases (config : HandlerConfig) (newlyInserted : Bool)
    (taskStatus : Option String) :
    config.recordPhase newlyInserted taskStatus = .acking ∨
      config.recordPhase newlyInserted taskStatus = .gating newlyInserted taskStatus := by
  simp only [recordPhase]
  split
  · split
    · exact .inl rfl
    · exact .inr rfl
  · exact .inl rfl

theorem gatedPhase_cases (config : HandlerConfig) (newlyInserted : Bool)
    (taskStatus : Option String) (lookup : GateLookup) :
    config.gatedPhase newlyInserted taskStatus lookup = .publishing newlyInserted ∨
      config.gatedPhase newlyInserted taskStatus lookup = .markingSkipped ∨
      config.gatedPhase newlyInserted taskStatus lookup = .acking := by
  simp only [gatedPhase]
  split
  · exact .inl rfl
  · split
    · exact .inr (.inl rfl)
    · exact .inr (.inr rfl)

end HandlerConfig

/-! ## One step from each phase -/

section Steps

variable {config : HandlerConfig} {state next : HandlerState} {label : HandlerLabel}

theorem step_of_idle (idle : state.phase = .idle)
    (step : handlerStep config state label = some next) :
    label = .deliver ∧ state.acked = false ∧ next = { state with phase := .inserting } := by
  cases label <;> simp only [handlerStep, idle, reduceCtorEq, if_false, true_and] at step
  split at step
  · rename_i unacked
    exact ⟨rfl, unacked, (Option.some.inj step).symm⟩
  · cases step

theorem step_of_inserting (inserting : state.phase = .inserting)
    (step : handlerStep config state label = some next) :
    ∃ outcome, label = .insertEvent outcome ∧
      next = { state with
        eventRow := state.eventRow || outcome.effective
        phase := outcome.ending.phase (config.insertedPhase (!state.eventRow)) .idle } := by
  cases label <;>
    simp only [handlerStep, inserting, reduceCtorEq, if_false, if_true, false_and] at step
  exact ⟨_, rfl, (Option.some.inj step).symm⟩

theorem step_of_policing (policing : state.phase = .policing)
    (step : handlerStep config state label = some next) :
    ∃ outcome, label = .applyAlertPolicy outcome ∧
      next = { state with
        phase := outcome.ending.phase
          (if config.alertPolicySuppresses then .acking else config.alertPhase)
          config.alertPhase } := by
  cases label <;>
    simp only [handlerStep, policing, reduceCtorEq, if_false, if_true, false_and] at step
  exact ⟨_, rfl, (Option.some.inj step).symm⟩

theorem step_of_alerting (alerting : state.phase = .alerting)
    (step : handlerStep config state label = some next) :
    ∃ outcome, label = .publishAlert outcome ∧
      next = { state with
        alerts := state.alerts + outcome.effective.toNat
        phase := outcome.ending.phase config.taskPhase config.taskPhase } := by
  cases label <;>
    simp only [handlerStep, alerting, reduceCtorEq, if_false, if_true, false_and] at step
  exact ⟨_, rfl, (Option.some.inj step).symm⟩

theorem step_of_tasking (tasking : state.phase = .tasking)
    (step : handlerStep config state label = some next) :
    ∃ outcome status, label = .createEvidenceTask outcome status ∧
      next = { state with
        taskRow := state.taskRow || outcome.effective
        phase := outcome.ending.phase (config.recordPhase true status)
          (config.recordPhase true none) } := by
  cases label <;>
    simp only [handlerStep, tasking, reduceCtorEq, if_false, if_true, false_and] at step
  exact ⟨_, _, rfl, (Option.some.inj step).symm⟩

end Steps

def HandlerPhase.isLate : HandlerPhase → Bool
  | .gating .. | .publishing _ | .settingClipStatus | .markingSkipped | .acking => true
  | _ => false

theorem HandlerConfig.recordPhase_isLate (config : HandlerConfig) (newlyInserted : Bool)
    (taskStatus : Option String) :
    (config.recordPhase newlyInserted taskStatus).isLate = true := by
  rcases config.recordPhase_cases newlyInserted taskStatus with acking | gating
  · rw [acking]
    rfl
  · rw [gating]
    rfl

theorem HandlerConfig.gatedPhase_isLate (config : HandlerConfig) (newlyInserted : Bool)
    (taskStatus : Option String) (lookup : GateLookup) :
    (config.gatedPhase newlyInserted taskStatus lookup).isLate = true := by
  rcases config.gatedPhase_cases newlyInserted taskStatus lookup with same | same | same
  all_goals
    rw [same]
    rfl

theorem step_of_isLate {config : HandlerConfig} {state next : HandlerState}
    {label : HandlerLabel} (late : state.phase.isLate = true)
    (step : handlerStep config state label = some next) :
    next.eventRow = state.eventRow ∧ next.taskRow = state.taskRow ∧
      next.alerts = state.alerts ∧ (next.phase = .idle ∨ next.phase.isLate = true) := by
  have landing (ending : Ending) (returned raised : HandlerPhase)
      (onReturn : returned.isLate = true) (onRaise : raised = .idle ∨ raised.isLate = true) :
      ending.phase returned raised = .idle ∨
        (ending.phase returned raised).isLate = true := by
    cases ending with
    | returns => exact .inr onReturn
    | raises => exact onRaise
    | crashes => exact .inl rfl
  cases phase : state.phase with
  | idle | inserting | policing | alerting | tasking =>
    rw [phase] at late
    cases late
  | gating =>
    cases label <;> simp only [handlerStep, phase, reduceCtorEq, if_false, false_and] at step
    cases step
    exact ⟨rfl, rfl, rfl, landing _ _ _ (config.gatedPhase_isLate _ _ _) (.inl rfl)⟩
  | publishing =>
    cases label <;> simp only [handlerStep, phase, reduceCtorEq, if_false, false_and] at step
    cases step
    refine ⟨rfl, rfl, rfl, landing _ _ _ ?_ (.inr rfl)⟩
    split
    all_goals rfl
  | settingClipStatus | markingSkipped =>
    cases label <;>
      simp only [handlerStep, phase, reduceCtorEq, if_false, if_true, false_and] at step
    cases step
    exact ⟨rfl, rfl, rfl, landing _ _ _ rfl (.inr rfl)⟩
  | acking =>
    cases label <;>
      simp only [handlerStep, phase, reduceCtorEq, if_false, if_true, false_and] at step
    cases step
    exact ⟨rfl, rfl, rfl, .inl rfl⟩

/-! ## Stages of a run -/

/-- An effect of the inserting delivery: the phases before it and its trace. -/
structure Effect where
  ahead : HandlerPhase → Bool
  achieved : HandlerState → Bool

def alertEffect : Effect where
  ahead phase := decide (phase = .policing ∨ phase = .alerting)
  achieved state := decide (1 ≤ state.alerts)

def taskEffect : Effect where
  ahead phase := decide (phase = .policing ∨ phase = .alerting ∨ phase = .tasking)
  achieved state := state.taskRow

namespace Effect

def Awaited (effect : Effect) (state : HandlerState) : Prop :=
  effect.achieved state = false ∧ state.acked = false ∧
    (state.eventRow = false ∧ (state.phase = .idle ∨ state.phase = .inserting) ∨
      state.eventRow = true ∧ effect.ahead state.phase = true)

def Settled (effect : Effect) (result : Bool) (state : HandlerState) : Prop :=
  effect.achieved state = result ∧ state.eventRow = true ∧ effect.ahead state.phase = false

end Effect

/-- The calls of the inserting delivery that decide whether the alert goes out. -/
def alertKept (state : HandlerState) : HandlerLabel → Bool
  | .insertEvent outcome =>
    state.eventRow || !outcome.effective || decide (outcome.ending = .returns)
  | .applyAlertPolicy outcome => decide (outcome.ending ≠ .crashes)
  | .publishAlert outcome => outcome.effective
  | _ => true

/-- The calls of the inserting delivery that decide whether the task is created. -/
def taskKept (state : HandlerState) : HandlerLabel → Bool
  | .insertEvent outcome =>
    state.eventRow || !outcome.effective || decide (outcome.ending = .returns)
  | .applyAlertPolicy outcome => decide (outcome.ending ≠ .crashes)
  | .publishAlert outcome => decide (outcome.ending ≠ .crashes)
  | .createEvidenceTask outcome _ => outcome.effective
  | _ => true

namespace Effect

/-- Along any run, an allowed step keeps the effect awaited or achieves it, a step that is
not allowed loses it, and what is settled stays settled. -/
structure Decides (effect : Effect) (config : HandlerConfig)
    (kept : HandlerState → HandlerLabel → Bool) : Prop where
  keeps : ∀ state label next, effect.Awaited state → kept state label = true →
    handlerStep config state label = some next →
    effect.Awaited next ∨ effect.Settled true next
  loses : ∀ state label next, effect.Awaited state → kept state label = false →
    handlerStep config state label = some next → effect.Settled false next
  settled : ∀ result state label next, effect.Settled result state →
    handlerStep config state label = some next →
    kept state label = true ∧ effect.Settled result next

section Runs

variable {effect : Effect} {config : HandlerConfig} {kept : HandlerState → HandlerLabel → Bool}

variable {labels : List HandlerLabel}

theorem Decides.run_settled (decides : effect.Decides config kept) {result : Bool}
    {state final : HandlerState} (settled : effect.Settled result state)
    (ran : (handler config).run state labels = some final) :
    effect.Settled result final ∧
      ((handler config).restrict fun state label => kept state label = true).run
        state labels = some final := by
  induction labels generalizing state with
  | nil =>
    cases ran
    exact ⟨settled, rfl⟩
  | cons label _ induction =>
    rcases (handler config).run_cons_eq_some.mp ran with ⟨middle, step, rest⟩
    have after := decides.settled result state label middle settled step
    have tail := induction after.2 rest
    refine ⟨tail.1, ?_⟩
    apply (Machine.run_cons_eq_some _).mpr
    exact ⟨middle, Machine.restrict_step_eq_some.mpr ⟨after.1, step⟩, tail.2⟩

section

variable (decides : effect.Decides config kept) {state final : HandlerState}
  (awaited : effect.Awaited state) (ran : (handler config).run state labels = some final)

include decides state final awaited ran

theorem Decides.run_awaited :
    ((effect.Awaited final ∨ effect.Settled true final) ∧
      ((handler config).restrict fun state label => kept state label = true).run
        state labels = some final) ∨
    (effect.Settled false final ∧
      ((handler config).restrict fun state label => kept state label = true).run
        state labels = none) := by
  induction labels generalizing state with
  | nil =>
    cases ran
    exact .inl ⟨.inl awaited, rfl⟩
  | cons label _ induction =>
    rcases (handler config).run_cons_eq_some.mp ran with ⟨middle, step, rest⟩
    cases allowed : kept state label with
    | true =>
      have restricted : ((handler config).restrict fun state label =>
          kept state label = true).step state label = some middle :=
        Machine.restrict_step_eq_some.mpr ⟨allowed, step⟩
      simp only [Machine.run, restricted]
      rcases decides.keeps state label middle awaited allowed step with stays | done
      · exact induction stays rest
      · have tail := decides.run_settled done rest
        exact .inl ⟨.inr tail.1, tail.2⟩
    | false =>
      have refused : ((handler config).restrict fun state label =>
          kept state label = true).step state label = none := by
        simp only [Machine.restrict, allowed, Bool.false_eq_true, if_false]
      have lost := decides.loses state label middle awaited allowed step
      simp only [Machine.run, refused]
      exact .inr ⟨(decides.run_settled lost rest).1, trivial⟩

/-- An acknowledged message has had its effect exactly if every step was allowed. -/
theorem Decides.acknowledged_iff (acked : final.acked = true) :
    effect.achieved final = true ↔
      ((handler config).restrict fun state label => kept state label = true).run
        state labels = some final := by
  rcases decides.run_awaited awaited ran with ⟨stays | done, same⟩ | ⟨lost, stuck⟩
  · rw [stays.2.1] at acked
    cases acked
  · exact iff_of_true done.1 same
  · apply iff_of_false
    · rw [lost.1]
      exact Bool.false_ne_true
    · rw [stuck]
      exact fun equal => nomatch equal

end

end Runs

end Effect

/-! ## The two effects -/

theorem Outcome.effective_of_returns {outcome : Outcome} (returns : outcome.ending = .returns) :
    outcome.effective = true := by
  simp [Outcome.effective, returns]

theorem HandlerConfig.Expected.insertedPhase_cases {config : HandlerConfig}
    (expected : config.Expected) :
    config.insertedPhase true = .policing ∨ config.insertedPhase true = .alerting := by
  simp only [HandlerConfig.insertedPhase, if_true]
  split
  · exact .inl rfl
  · exact .inr expected.alertPhase_eq

/-- Neither effect is ahead of a late phase, of an idle handler or of an insert. -/
structure Effect.Early (effect : Effect) : Prop where
  inserted : effect.ahead .policing = true ∧ effect.ahead .alerting = true
  outside : ∀ phase : HandlerPhase,
    phase = .idle ∨ phase = .inserting ∨ phase.isLate = true → effect.ahead phase = false
  trace : ∀ state next : HandlerState, next.alerts = state.alerts →
    next.taskRow = state.taskRow → effect.achieved next = effect.achieved state

theorem alertEffect_early : alertEffect.Early where
  inserted := ⟨rfl, rfl⟩
  outside := by
    intro phase place
    cases phase <;> simp [HandlerPhase.isLate, alertEffect] at place ⊢
  trace := by
    intro state next alerts _
    simp only [alertEffect, alerts]

theorem taskEffect_early : taskEffect.Early where
  inserted := ⟨rfl, rfl⟩
  outside := by
    intro phase place
    cases phase <;> simp [HandlerPhase.isLate, taskEffect] at place ⊢
  trace := by
    intro state next _ task
    exact task

theorem Effect.Early.settled_of_late {effect : Effect} (early : effect.Early)
    {config : HandlerConfig} {state next : HandlerState} {label : HandlerLabel} {result : Bool}
    (achieved : effect.achieved state = result) (row : state.eventRow = true)
    (late : state.phase.isLate = true) (step : handlerStep config state label = some next) :
    effect.Settled result next := by
  rcases step_of_isLate late step with ⟨sameRow, sameTask, sameAlerts, landing⟩
  refine ⟨(early.trace state next sameAlerts sameTask).trans achieved, sameRow.trans row, ?_⟩
  rcases landing with idle | late
  · exact early.outside _ (.inl idle)
  · exact early.outside _ (.inr (.inr late))

section Insert

variable {effect : Effect} {config : HandlerConfig} {state next : HandlerState}
  {label : HandlerLabel}

theorem Effect.Early.step_beforeInsert (early : effect.Early) (expected : config.Expected)
    (missing : effect.achieved state = false) (unacked : state.acked = false)
    (noRow : state.eventRow = false) (place : state.phase = .idle ∨ state.phase = .inserting)
    (step : handlerStep config state label = some next) :
    (label = .deliver ∧ effect.Awaited next) ∨
      ∃ outcome, label = .insertEvent outcome ∧
        ((outcome.effective = false ∨ outcome.ending = .returns) ∧ effect.Awaited next ∨
          outcome.effective = true ∧ outcome.ending ≠ .returns ∧ effect.Settled false next) := by
  rcases place with idle | inserting
  · rcases step_of_idle idle step with ⟨rfl, _, rfl⟩
    refine .inl ⟨rfl, ?_, unacked, .inl ⟨noRow, .inr rfl⟩⟩
    exact Eq.trans (early.trace state _ rfl rfl) missing
  · rcases step_of_inserting inserting step with ⟨outcome, rfl, rfl⟩
    refine .inr ⟨outcome, rfl, ?_⟩
    have absent : effect.achieved { state with
        eventRow := state.eventRow || outcome.effective
        phase := outcome.ending.phase (config.insertedPhase (!state.eventRow)) .idle } = false :=
      Eq.trans (early.trace state _ rfl rfl) missing
    by_cases returns : outcome.ending = .returns
    · have ahead : effect.ahead (config.insertedPhase true) = true := by
        rcases expected.insertedPhase_cases with same | same
        · rw [same]
          exact early.inserted.1
        · rw [same]
          exact early.inserted.2
      refine .inl ⟨.inr returns, absent, unacked, .inr ⟨?_, ?_⟩⟩
      · simp only [Outcome.effective_of_returns returns, Bool.or_true]
      · simp only [noRow, returns, Ending.phase, Bool.not_false]
        exact ahead
    · have landing : outcome.ending.phase (config.insertedPhase (!state.eventRow)) .idle =
          .idle := by
        cases ending : outcome.ending with
        | returns => exact absurd ending returns
        | raises | crashes => rfl
      by_cases written : outcome.effective = true
      · refine .inr ⟨written, returns, absent, ?_, early.outside _ (.inl landing)⟩
        simp only [written, Bool.or_true]
      · have unwritten := Bool.eq_false_iff.mpr written
        refine .inl ⟨.inl unwritten, absent, unacked, .inl ⟨?_, .inl landing⟩⟩
        simp only [noRow, unwritten, Bool.or_false]

theorem Effect.Early.step_settled (early : effect.Early) {result : Bool}
    (settled : effect.Settled result state)
    (tasking : state.phase = .tasking → effect.achieved next = effect.achieved state)
    (step : handlerStep config state label = some next) :
    effect.Settled result next := by
  rcases settled with ⟨achieved, row, passed⟩
  cases phase : state.phase with
  | idle =>
    rcases step_of_idle phase step with ⟨_, _, rfl⟩
    refine ⟨?_, row, early.outside _ (.inr (.inl rfl))⟩
    exact Eq.trans (early.trace state _ rfl rfl) achieved
  | inserting =>
    rcases step_of_inserting phase step with ⟨outcome, rfl, rfl⟩
    refine ⟨?_, ?_, early.outside _ ?_⟩
    · exact Eq.trans (early.trace state _ rfl rfl) achieved
    · simp only [row, Bool.true_or]
    · simp only [row, Bool.not_true, HandlerConfig.insertedPhase, Bool.false_eq_true, if_false]
      cases outcome.ending with
      | returns => exact .inr (.inr (config.recordPhase_isLate false none))
      | raises | crashes => exact .inl rfl
  | policing =>
    rw [phase, early.inserted.1] at passed
    cases passed
  | alerting =>
    rw [phase, early.inserted.2] at passed
    cases passed
  | tasking =>
    have same := (tasking phase).trans achieved
    rcases step_of_tasking phase step with ⟨outcome, status, rfl, rfl⟩
    refine ⟨same, row, early.outside _ ?_⟩
    cases outcome.ending with
    | returns => exact .inr (.inr (config.recordPhase_isLate true status))
    | raises => exact .inr (.inr (config.recordPhase_isLate true none))
    | crashes => exact .inl rfl
  | gating | publishing | settingClipStatus | markingSkipped | acking =>
    have late : state.phase.isLate = true := by rw [phase]; rfl
    exact early.settled_of_late achieved row late step

end Insert

/-- A step from a state that awaits the effect goes on, or it loses the effect. -/
def Effect.Parts (effect : Effect) (config : HandlerConfig)
    (kept : HandlerState → HandlerLabel → Bool) : Prop :=
  ∀ state label next, effect.Awaited state → handlerStep config state label = some next →
    kept state label = true ∧ (effect.Awaited next ∨ effect.Settled true next) ∨
      kept state label = false ∧ effect.Settled false next

section

variable {config : HandlerConfig} (expected : config.Expected)

include config expected

theorem alertEffect_parts :
    alertEffect.Parts config alertKept := by
  intro state label next awaited step
  rcases awaited with ⟨unsent, unacked, ⟨noRow, place⟩ | ⟨row, ahead⟩⟩
  · rcases alertEffect_early.step_beforeInsert expected unsent unacked noRow place step with
      ⟨rfl, waits⟩ | ⟨outcome, rfl, ⟨goesOn, waits⟩ | ⟨written, broken, lost⟩⟩
    · exact .inl ⟨rfl, .inl waits⟩
    · refine .inl ⟨?_, .inl waits⟩
      rcases goesOn with unwritten | returns
      · simp [alertKept, unwritten]
      · simp [alertKept, returns]
    · exact .inr ⟨by simp [alertKept, noRow, written, broken], lost⟩
  · rcases of_decide_eq_true ahead with policing | alerting
    · rcases step_of_policing policing step with ⟨outcome, rfl, rfl⟩
      rw [expected.emitted, expected.alertPhase_eq]
      cases ending : outcome.ending with
      | returns | raises =>
        exact .inl ⟨by simp [alertKept, ending], .inl ⟨unsent, unacked, .inr ⟨row, rfl⟩⟩⟩
      | crashes => exact .inr ⟨by simp [alertKept, ending], unsent, row, rfl⟩
    · rcases step_of_alerting alerting step with ⟨outcome, rfl, rfl⟩
      have landing : alertEffect.ahead
          (outcome.ending.phase config.taskPhase config.taskPhase) = false := by
        rw [expected.taskPhase_eq]
        cases outcome.ending with
        | returns | raises | crashes => rfl
      cases sent : outcome.effective with
      | true =>
        refine .inl ⟨sent, .inr ⟨?_, row, landing⟩⟩
        simp only [alertEffect, Bool.toNat_true, decide_eq_true_eq]
        omega
      | false => exact .inr ⟨sent, unsent, row, landing⟩

theorem alertEffect_decides :
    alertEffect.Decides config alertKept where
  keeps state label next awaited allowed step := by
    simpa [allowed] using alertEffect_parts expected state label next awaited step
  loses state label next awaited dropped step := by
    simpa [dropped] using alertEffect_parts expected state label next awaited step
  settled := by
    intro result state label next settled step
    have passed := of_decide_eq_false settled.2.2
    have pastPolicy : state.phase ≠ .policing := fun same => passed (.inl same)
    have pastAlert : state.phase ≠ .alerting := fun same => passed (.inr same)
    refine ⟨?_, alertEffect_early.step_settled settled ?_ step⟩
    · cases label with
      | insertEvent => simp [alertKept, settled.2.1]
      | applyAlertPolicy =>
        simp only [handlerStep, pastPolicy, if_false, reduceCtorEq] at step
      | publishAlert =>
        simp only [handlerStep, pastAlert, if_false, reduceCtorEq] at step
      | deliver | createEvidenceTask | lookUp | publishRecordRequest | setClipStatus
      | markSkipped | acknowledge => rfl
    · intro tasking
      rcases step_of_tasking tasking step with ⟨_, _, rfl, rfl⟩
      rfl

theorem taskEffect_parts :
    taskEffect.Parts config taskKept := by
  intro state label next awaited step
  rcases awaited with ⟨missing, unacked, ⟨noRow, place⟩ | ⟨row, ahead⟩⟩
  · rcases taskEffect_early.step_beforeInsert expected missing unacked noRow place step with
      ⟨rfl, waits⟩ | ⟨outcome, rfl, ⟨goesOn, waits⟩ | ⟨written, broken, lost⟩⟩
    · exact .inl ⟨rfl, .inl waits⟩
    · refine .inl ⟨?_, .inl waits⟩
      rcases goesOn with unwritten | returns
      · simp [taskKept, unwritten]
      · simp [taskKept, returns]
    · exact .inr ⟨by simp [taskKept, noRow, written, broken], lost⟩
  · rcases of_decide_eq_true ahead with policing | alerting | tasking
    · rcases step_of_policing policing step with ⟨outcome, rfl, rfl⟩
      rw [expected.emitted, expected.alertPhase_eq]
      cases ending : outcome.ending with
      | returns | raises =>
        exact .inl ⟨by simp [taskKept, ending], .inl ⟨missing, unacked, .inr ⟨row, rfl⟩⟩⟩
      | crashes => exact .inr ⟨by simp [taskKept, ending], missing, row, rfl⟩
    · rcases step_of_alerting alerting step with ⟨outcome, rfl, rfl⟩
      rw [expected.taskPhase_eq]
      cases ending : outcome.ending with
      | returns | raises =>
        exact .inl ⟨by simp [taskKept, ending], .inl ⟨missing, unacked, .inr ⟨row, rfl⟩⟩⟩
      | crashes => exact .inr ⟨by simp [taskKept, ending], missing, row, rfl⟩
    · rcases step_of_tasking tasking step with ⟨outcome, status, rfl, rfl⟩
      have landing := taskEffect_early.outside (outcome.ending.phase
        (config.recordPhase true status) (config.recordPhase true none)) (by
          cases outcome.ending with
          | returns => exact .inr (.inr (config.recordPhase_isLate true status))
          | raises => exact .inr (.inr (config.recordPhase_isLate true none))
          | crashes => exact .inl rfl)
      cases created : outcome.effective with
      | true => exact .inl ⟨created, .inr ⟨Bool.or_true _, row, landing⟩⟩
      | false => exact .inr ⟨created, (Bool.or_false _).trans missing, row, landing⟩

theorem taskEffect_decides :
    taskEffect.Decides config taskKept where
  keeps state label next awaited allowed step := by
    simpa [allowed] using taskEffect_parts expected state label next awaited step
  loses state label next awaited dropped step := by
    simpa [dropped] using taskEffect_parts expected state label next awaited step
  settled := by
    intro result state label next settled step
    have passed := of_decide_eq_false settled.2.2
    have pastPolicy : state.phase ≠ .policing := fun same => passed (.inl same)
    have pastAlert : state.phase ≠ .alerting := fun same => passed (.inr (.inl same))
    have pastTask : state.phase ≠ .tasking := fun same => passed (.inr (.inr same))
    refine ⟨?_, taskEffect_early.step_settled settled ?_ step⟩
    · cases label with
      | insertEvent => simp [taskKept, settled.2.1]
      | applyAlertPolicy =>
        simp only [handlerStep, pastPolicy, if_false, reduceCtorEq] at step
      | publishAlert =>
        simp only [handlerStep, pastAlert, if_false, reduceCtorEq] at step
      | createEvidenceTask =>
        simp only [handlerStep, pastTask, if_false, reduceCtorEq] at step
      | deliver | lookUp | publishRecordRequest | setClipStatus | markSkipped
      | acknowledge => rfl
    · intro tasking
      exact absurd tasking pastTask

end

theorem Effect.Early.awaited_start {effect : Effect}
    (missing : effect.achieved HandlerState.start = false) :
    effect.Awaited HandlerState.start :=
  ⟨missing, rfl, .inl ⟨rfl, .inl rfl⟩⟩

/-- Once the message of an expected event is acknowledged, its alert has been published
exactly if the delivery that inserted the event got its alert out, and the evidence task
exists if that delivery reached `create_evidence_task` and the call took effect. -/
theorem acknowledged_event_is_kept (config : HandlerConfig) (expected : config.Expected)
    (labels : List HandlerLabel) (final : HandlerState)
    (ran : (handler config).run HandlerState.start labels = some final)
    (acked : final.acked = true) :
    (1 ≤ final.alerts ↔
      ((handler config).restrict fun state label => alertKept state label = true).run
        HandlerState.start labels = some final) ∧
    (((handler config).restrict fun state label => taskKept state label = true).run
        HandlerState.start labels = some final → final.taskRow = true) := by
  have alert := (alertEffect_decides expected).acknowledged_iff
    (Effect.Early.awaited_start rfl) ran acked
  have task := (taskEffect_decides expected).acknowledged_iff
    (Effect.Early.awaited_start rfl) ran acked
  simp only [alertEffect, decide_eq_true_eq] at alert
  exact ⟨alert, task.mpr⟩

/-! ## One alert for a message -/

/-- Only the delivery that stores the event publishes an alert, and it publishes one. -/
structure AtMostOnce (state : HandlerState) : Prop where
  alerts : state.alerts ≤ 1
  owed : state.phase = .policing ∨ state.phase = .alerting → state.alerts = 0
  unstored : state.eventRow = false →
    state.alerts = 0 ∧ state.taskRow = false ∧ state.acked = false ∧
      (state.phase = .idle ∨ state.phase = .inserting)

theorem AtMostOnce.step {config : HandlerConfig} {state next : HandlerState}
    {label : HandlerLabel} (once : AtMostOnce state)
    (step : handlerStep config state label = some next) : AtMostOnce next := by
  rcases once with ⟨alerts, owed, unstored⟩
  have recording := config.recordPhase_cases
  cases phase : state.phase with
  | idle =>
    rcases step_of_idle phase step with ⟨_, _, rfl⟩
    constructor <;> grind -ring -linarith
  | inserting =>
    rcases step_of_inserting phase step with ⟨outcome, _, rfl⟩
    cases ending : outcome.ending <;> constructor <;>
      grind -ring -linarith [Ending.phase, HandlerConfig.insertedPhase, Outcome.effective]
  | policing =>
    rcases step_of_policing phase step with ⟨_, _, rfl⟩
    constructor <;> grind -ring -linarith
  | alerting =>
    rcases step_of_alerting phase step with ⟨outcome, _, rfl⟩
    have one := Bool.toNat_le outcome.effective
    cases outcome.ending <;> constructor <;>
      grind -ring -linarith [Ending.phase, HandlerConfig.taskPhase]
  | tasking =>
    rcases step_of_tasking phase step with ⟨outcome, _, _, rfl⟩
    cases outcome.ending <;> constructor <;> grind -ring -linarith [Ending.phase]
  | gating | publishing | settingClipStatus | markingSkipped | acking =>
    have after := step_of_isLate (phase ▸ rfl) step
    constructor <;> grind -ring -linarith [HandlerPhase.isLate]

/-- However often the message is delivered, it raises at most one alert, and nothing is done
for it, nor is it acknowledged, before its event is stored. -/
theorem alerts_at_most_once (config : HandlerConfig) {state : HandlerState}
    (reached : (handler config).Reachable state) :
    state.alerts ≤ 1 ∧
      (1 ≤ state.alerts ∨ state.taskRow = true ∨ state.acked = true →
        state.eventRow = true) := by
  have invariant : (handler config).Invariant AtMostOnce :=
    { initially := fun _ started => started ▸ ⟨Nat.zero_le _, fun _ => rfl,
        fun _ => ⟨rfl, rfl, rfl, .inl rfl⟩⟩
      preserved := fun _ _ _ _ once step => once.step step }
  have once := invariant.holds reached
  refine ⟨once.alerts, fun done => ?_⟩
  by_contra missing
  have nothing := once.unstored (Bool.eq_false_iff.mpr missing)
  rcases done with alerted | tasked | acked
  · omega
  · simp [nothing.2.1] at tasked
  · simp [nothing.2.2.1] at acked

section Runs

/-- A watched event handled without alert policy and without record requests. -/
def watchedConfig : HandlerConfig where
  event := {
    sourceEventId := "e1", eventType := "watchlist_hit", cameraId := "c1", sourceId := "s1"
    snapshotRequired := some true, clipRequired := none, evidencePolicy := none
    media := none, eventTsMs := 1, startTsMs := 1 }
  alertPolicyService := false
  alertPolicySuppresses := false
  alertPublisher := true
  taskGate := { enabled := true, notBeforeTsMs := 0, notAfterTsMs := 0 }
  recordPublisher := false
  rollingCacheSuppressRecordRequests := false
  recordingPolicy := {
    eventTypes := [], sourceId := "", maxRequestsPerRun := 0, cooldownSeconds := 0
    cooldownGraceMs := 0 }

theorem watchedConfig_expected : watchedConfig.Expected where
  publisher := rfl
  admitted := by decide
  emitted := rfl

def completed : Outcome := ⟨true, .returns⟩

def refused : Outcome := ⟨false, .raises⟩

def redeliveredRun : List HandlerLabel :=
  [.deliver, .insertEvent refused, .deliver, .insertEvent completed, .publishAlert completed,
    .createEvidenceTask completed (some "materialization_pending"), .acknowledge true .returns]

def keptState : HandlerState :=
  { HandlerState.start with eventRow := true, taskRow := true, alerts := 1, acked := true }

theorem redelivered_event_is_kept :
    (1 ≤ keptState.alerts ↔
      ((handler watchedConfig).restrict fun state label => alertKept state label = true).run
        HandlerState.start redeliveredRun = some keptState) ∧
    (((handler watchedConfig).restrict fun state label => taskKept state label = true).run
        HandlerState.start redeliveredRun = some keptState → keptState.taskRow = true) :=
  acknowledged_event_is_kept watchedConfig watchedConfig_expected redeliveredRun keptState
    (by decide) rfl

theorem redelivered_event_alerts_once :
    keptState.alerts ≤ 1 ∧
      (1 ≤ keptState.alerts ∨ keptState.taskRow = true ∨ keptState.acked = true →
        keptState.eventRow = true) :=
  alerts_at_most_once watchedConfig ((Machine.Reachable.start rfl).run
    (show (handler watchedConfig).run .start redeliveredRun = some keptState by decide))

/-- The alert stream refuses the alert; the message is acknowledged all the same. -/
theorem failed_alert_is_acknowledged :
    ¬ ∀ (config : HandlerConfig), config.Expected →
      ∀ (labels : List HandlerLabel) (final : HandlerState),
        (handler config).run HandlerState.start labels = some final → final.acked = true →
          final.taskRow = true ∧ 1 ≤ final.alerts := by
  intro claimed
  have kept := claimed watchedConfig watchedConfig_expected
    [.deliver, .insertEvent completed, .publishAlert refused,
      .createEvidenceTask completed (some "materialization_pending"), .acknowledge true .returns]
    { HandlerState.start with eventRow := true, taskRow := true, acked := true }
    (by decide) rfl
  exact absurd kept.2 (by decide)

end Runs

end VideoAnalysis.Event
