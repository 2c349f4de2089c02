import Mathlib.Data.List.Induction
import Mathlib.Data.List.Pairwise

/-! # The outputs of a run

A machine that may put out one item with each label. All pairs of items of a run are
related exactly if each step relates what came before to what it puts out.
-/

namespace VideoAnalysis.Foundation

structure OutputMachine (State Label Item : Type*) where
  step : State → Label → State
  output : State → Label → Option Item

namespace OutputMachine

variable {State Label Item : Type*} (machine : OutputMachine State Label Item)

def run (state : State) (labels : List Label) : State := labels.foldl machine.step state

def trace : State → List Label → List Item
  | _, [] => []
  | state, label :: rest =>
    (machine.output state label).toList ++ trace (machine.step state label) rest

theorem trace_append (state : State) (first second : List Label) :
    machine.trace state (first ++ second) =
      machine.trace state first ++ machine.trace (machine.run state first) second := by
  induction first generalizing state with
  | nil => rfl
  | cons _ _ induction =>
    rw [List.cons_append, trace, trace, induction, List.append_assoc]
    rfl

/-- At every place of a run: what holds of the labels before and of the label. -/
def AtEachStep (labels : List Label) (holds : List Label → Label → Prop) : Prop :=
  ∀ before label after, labels = before ++ label :: after → holds before label

variable {holds : List Label → Label → Prop} {labels : List Label}

theorem atEachStep_append {last : Label} :
    AtEachStep (labels ++ [last]) holds ↔ AtEachStep labels holds ∧ holds labels last := by
  constructor
  · intro each
    refine ⟨?_, each labels last [] rfl⟩
    rintro before label after rfl
    exact each before label (after ++ [last]) (by simp)
  · rintro ⟨each, atLast⟩ before label after split
    rcases List.eq_nil_or_concat after with rfl | ⟨shorter, final, rfl⟩
    · rcases List.append_inj' split rfl with ⟨rfl, same⟩
      cases same
      exact atLast
    · have regrouped : labels ++ [last] = (before ++ label :: shorter) ++ [final] := by
        rw [split]
        simp
      exact each before label shorter (List.append_inj' regrouped rfl).1

theorem atEachStep_nil : AtEachStep [] holds := by
  intro before label after split
  exact absurd split.symm (List.append_ne_nil_of_right_ne_nil _ (List.cons_ne_nil _ _))

theorem atEachStep_cons {first : Label} {rest : List Label} (atFirst : holds [] first)
    (others : AtEachStep rest fun before label => holds (first :: before) label) :
    AtEachStep (first :: rest) holds := by
  intro before label after split
  rcases List.cons_eq_append_iff.mp split with ⟨rfl, same⟩ | ⟨shorter, rfl, same⟩
  · cases same
    exact atFirst
  · exact others shorter label after same

theorem pairwise_trace_iff {related : Item → Item → Prop} (state : State) (labels : List Label) :
    (machine.trace state labels).Pairwise related ↔
      AtEachStep labels fun before label =>
        ∀ item ∈ machine.output (machine.run state before) label,
          ∀ earlier ∈ machine.trace state before, related earlier item := by
  induction labels using List.reverseRecOn with
  | nil => exact iff_of_true List.Pairwise.nil atEachStep_nil
  | append_singleton labels last induction =>
    rw [atEachStep_append, ← induction, trace_append, List.pairwise_append, trace, trace,
      List.append_nil]
    constructor
    · rintro ⟨earlierPairs, _, across⟩
      refine ⟨earlierPairs, ?_⟩
      intro item put earlier member
      exact across earlier member item (Option.mem_toList.mpr put)
    · rintro ⟨earlierPairs, atLast⟩
      refine ⟨earlierPairs, ?_, ?_⟩
      · cases machine.output (machine.run state labels) last with
        | none => exact List.Pairwise.nil
        | some => exact List.pairwise_singleton _ _
      · intro earlier member item put
        exact atLast item (Option.mem_toList.mp put) earlier member

theorem AtEachStep.before {before : List Label} {label : Label} {after : List Label}
    (each : AtEachStep (before ++ label :: after) holds) :
    AtEachStep before holds := by
  rintro first next rest rfl
  exact each first next (rest ++ label :: after) (by simp)

theorem remembers (minds : State → Item → Prop) (allowed : State → Label → Prop)
    (new : ∀ state label item, allowed state label →
      machine.output state label = some item → minds (machine.step state label) item)
    (old : ∀ state label item, allowed state label → minds state item →
      minds (machine.step state label) item)
    (state : State)
    (each : AtEachStep labels fun before label => allowed (machine.run state before) label) :
    ∀ item ∈ machine.trace state labels, minds (machine.run state labels) item := by
  induction labels using List.reverseRecOn with
  | nil => exact List.forall_mem_nil _
  | append_singleton labels last induction =>
    rcases atEachStep_append.mp each with ⟨eachBefore, atLast⟩
    intro item member
    have stepped : machine.run state (labels ++ [last]) =
        machine.step (machine.run state labels) last := by
      rw [run, List.foldl_append, run]
      rfl
    rw [stepped]
    rw [trace_append, trace, trace, List.append_nil, List.mem_append] at member
    rcases member with inTrace | put
    · exact old _ last item atLast (induction eachBefore item inTrace)
    · exact new _ last item atLast (Option.mem_toList.mp put)

theorem pairwise_of_remembers {related : Item → Item → Prop} (minds : State → Item → Prop)
    (allowed : State → Label → Prop)
    (new : ∀ state label item, allowed state label →
      machine.output state label = some item → minds (machine.step state label) item)
    (old : ∀ state label item, allowed state label → minds state item →
      minds (machine.step state label) item)
    (relates : ∀ state label item earlier, allowed state label →
      machine.output state label = some item → minds state earlier → related earlier item)
    (state : State)
    (each : AtEachStep labels fun before label => allowed (machine.run state before) label) :
    (machine.trace state labels).Pairwise related := by
  rw [pairwise_trace_iff]
  intro before label after split item put earlier member
  have atLabel := each before label after split
  subst split
  exact relates _ label item earlier atLabel put
    (machine.remembers minds allowed new old state each.before earlier member)

theorem trace_map_sublist {Other : Type*} {other : OutputMachine State Label Other}
    (view : Other → Item) (sameStep : other.step = machine.step)
    (implied : ∀ state label item, other.output state label = some item →
      machine.output state label = some (view item))
    (state : State) (labels : List Label) :
    ((other.trace state labels).map view).Sublist (machine.trace state labels) := by
  induction labels generalizing state with
  | nil => exact List.Sublist.slnil
  | cons label _ induction =>
    rw [trace, trace, List.map_append, sameStep]
    apply List.Sublist.append _ (induction (machine.step state label))
    cases put : other.output state label with
    | none => exact List.nil_sublist _
    | some item =>
      rw [implied state label item put]
      exact List.Sublist.refl _

def Keeps (valid : State → Prop) : Prop :=
  ∀ state label, valid state → valid (machine.step state label)

theorem Keeps.run {valid : State → Prop} (keeps : machine.Keeps valid) (state : State)
    (isValid : valid state) (labels : List Label) : valid (machine.run state labels) := by
  induction labels generalizing state with
  | nil => exact isValid
  | cons label _ induction =>
    exact induction (machine.step state label) (keeps state label isValid)

end OutputMachine

end VideoAnalysis.Foundation
