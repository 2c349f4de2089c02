import Mathlib.Logic.Relation

/-! # Labelled machines

A machine moves between states under labels. Each label carries everything a
step does not decide itself (the clock, the drawn token, the scheduled thread),
so that a step is a partial function and a run is a list of labels.
-/

namespace VideoAnalysis.Foundation

structure Machine (State Label : Type*) where
  initial : State → Prop
  step : State → Label → Option State

namespace Machine

variable {State Label : Type*}

inductive Reachable (machine : Machine State Label) : State → Prop
  | start {state} : machine.initial state → Reachable machine state
  | next {current label next} :
      Reachable machine current →
      machine.step current label = some next →
      Reachable machine next

def run (machine : Machine State Label) (current : State) : List Label → Option State
  | [] => some current
  | label :: labels =>
    match machine.step current label with
    | some next => machine.run next labels
    | none => none

@[simp] theorem run_nil (machine : Machine State Label) (current : State) :
    machine.run current [] = some current := rfl

variable {current final : State} {labels : List Label}

theorem run_cons_eq_some (machine : Machine State Label) {label : Label} :
    machine.run current (label :: labels) = some final ↔
      ∃ middle, machine.step current label = some middle ∧
        machine.run middle labels = some final := by
  simp only [run]
  cases machine.step current label with
  | none | some => simp

theorem run_append (machine : Machine State Label) (current : State)
    (first second : List Label) :
    machine.run current (first ++ second) =
      (machine.run current first).bind fun middle => machine.run middle second := by
  induction first generalizing current with
  | nil => rfl
  | cons label _ induction =>
    simp only [List.cons_append, run]
    cases machine.step current label with
    | none => rfl
    | some next => exact induction next

theorem run_of_total {machine : Machine State Label} {advance : State → Label → State}
    (total : ∀ current label, machine.step current label = some (advance current label))
    (current : State) (labels : List Label) :
    machine.run current labels = some (labels.foldl advance current) := by
  induction labels generalizing current with
  | nil => rfl
  | cons label _ induction =>
    simp only [run, total]
    exact induction (advance current label)

variable {valid : State → Prop}

section

variable {machine : Machine State Label}

include machine

@[elab_as_elim] theorem run_keeps (preserved : ∀ current label next, valid current →
      machine.step current label = some next → valid next) (isValid : valid current)
    (ran : machine.run current labels = some final) : valid final := by
  induction labels generalizing current with
  | nil =>
    simp only [run_nil, Option.some.injEq] at ran
    exact ran ▸ isValid
  | cons _ _ induction =>
    rcases machine.run_cons_eq_some.mp ran with ⟨_, step, rest⟩
    exact induction (preserved _ _ _ isValid step) rest

theorem Reachable.run (reached : machine.Reachable current)
    (ran : machine.run current labels = some final) : machine.Reachable final :=
  run_keeps (fun _ _ _ reached step => reached.next step) reached ran

/-- A property that holds at the start and survives each step taken from a
reachable state. -/
structure Invariant (machine : Machine State Label) (valid : State → Prop) : Prop where
  initially : ∀ state, machine.initial state → valid state
  preserved : ∀ current label next, machine.Reachable current → valid current →
    machine.step current label = some next → valid next

theorem Invariant.holds (invariant : machine.Invariant valid) {state : State}
    (reached : machine.Reachable state) : valid state := by
  induction reached with
  | start initial => exact invariant.initially _ initial
  | next reached step induction =>
    exact invariant.preserved _ _ _ reached induction step

theorem run_relation {related : State → State → Prop}
    (refl : ∀ state, related state state)
    (trans : ∀ first second third, related first second → related second third →
      related first third)
    (preserved : ∀ current label next, machine.Reachable current →
      machine.step current label = some next → related current next)
    (reached : machine.Reachable current)
    (ran : machine.run current labels = some final) : related current final := by
  have kept : machine.Reachable final ∧ related current final :=
    run_keeps (fun _ _ _ kept step =>
      ⟨kept.1.next step, trans _ _ _ kept.2 (preserved _ _ _ kept.1 step)⟩)
      ⟨reached, refl current⟩ ran
  exact kept.2

/-- Every step of a run, with the states around it. -/
def EachStep (machine : Machine State Label) (holds : State → Label → State → Prop) :
    State → List Label → Prop
  | _, [] => True
  | current, label :: labels =>
    ∀ next, machine.step current label = some next →
      holds current label next ∧ EachStep machine holds next labels

theorem EachStep.cons {holds : State → Label → State → Prop} {current middle : State}
    {label : Label} (stepped : machine.step current label = some middle)
    (isHeld : holds current label middle) (later : machine.EachStep holds middle labels) :
    machine.EachStep holds current (label :: labels) := by
  intro next isNext
  rw [stepped] at isNext
  rw [← Option.some.inj isNext]
  exact ⟨isHeld, later⟩

@[elab_as_elim] theorem EachStep.keeps {holds : State → Label → State → Prop}
    (preserved : ∀ current label next, valid current → holds current label next →
      machine.step current label = some next → valid next) (isValid : valid current)
    (each : machine.EachStep holds current labels)
    (ran : machine.run current labels = some final) : valid final := by
  induction labels generalizing current with
  | nil =>
    simp only [run_nil, Option.some.injEq] at ran
    exact ran ▸ isValid
  | cons _ _ induction =>
    rcases machine.run_cons_eq_some.mp ran with ⟨middle, step, rest⟩
    rcases each middle step with ⟨isHeld, later⟩
    exact induction (preserved _ _ _ isValid isHeld step) later rest

/-- Two properties of steps that agree in valid states agree along a run, if one of
them keeps the states valid. -/
theorem eachStep_iff {first second : State → Label → State → Prop}
    (agree : ∀ current label next, valid current → machine.step current label = some next →
      (first current label next ↔ second current label next))
    (preserved : ∀ current label next, valid current →
      machine.step current label = some next → second current label next → valid next)
    {current : State} (isValid : valid current) (labels : List Label) :
    machine.EachStep first current labels ↔ machine.EachStep second current labels := by
  induction labels generalizing current with
  | nil => exact Iff.rfl
  | cons label _ induction =>
    apply forall_congr'
    intro next
    apply forall_congr'
    intro step
    have same := agree current label next isValid step
    constructor
    · rintro ⟨holds, rest⟩
      have kept := preserved current label next isValid step (same.1 holds)
      exact ⟨same.1 holds, (induction kept).1 rest⟩
    · rintro ⟨holds, rest⟩
      have kept := preserved current label next isValid step holds
      exact ⟨same.2 holds, (induction kept).2 rest⟩

end

/-- The machine whose steps all meet a condition on the state and the label. -/
def restrict (machine : Machine State Label) (allowed : State → Label → Prop)
    [∀ current label, Decidable (allowed current label)] : Machine State Label where
  initial := machine.initial
  step current label := if allowed current label then machine.step current label else none

section Restrict

variable {machine : Machine State Label} {allowed : State → Label → Prop}
  [∀ current label, Decidable (allowed current label)]

theorem restrict_step_eq_some {current next : State} {label : Label} :
    (machine.restrict allowed).step current label = some next ↔
      allowed current label ∧ machine.step current label = some next := by
  simp only [restrict]
  split <;> simp_all

theorem Reachable.of_restrict {state : State}
    (reached : (machine.restrict allowed).Reachable state) : machine.Reachable state := by
  induction reached with
  | start initial => exact .start initial
  | next _ step induction => exact induction.next (restrict_step_eq_some.mp step).2

end Restrict

end Machine

end VideoAnalysis.Foundation
