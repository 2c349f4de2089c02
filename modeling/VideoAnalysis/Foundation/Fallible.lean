import Mathlib.Data.List.Forall2

/-! # Lists of fallible steps

What it takes that every step of a list returns, and what the results then are.
-/

namespace VideoAnalysis.Foundation

variable {Input Output Error : Type} {step : Input → Except Error Output}

def Returns (result : Except Error Output) : Prop := ∃ output, result = .ok output

/-- The output where there is one. -/
def returned [Inhabited Output] (result : Except Error Output) : Output :=
  match result with
  | .ok output => output
  | .error _ => default

theorem Returns.eq [Inhabited Output] {result : Except Error Output} (returns : Returns result) :
    result = .ok (returned result) := by
  rcases returns with ⟨_, rfl⟩
  rfl

theorem returns_ok (output : Output) : Returns (.ok output : Except Error Output) :=
  ⟨output, rfl⟩

theorem not_returns_error (error : Error) : ¬Returns (.error error : Except Error Output) := by
  rintro ⟨output, same⟩
  cases same

instance (result : Except Error Output) : Decidable (Returns result) :=
  match result with
  | .ok output => isTrue (returns_ok output)
  | .error error => isFalse (not_returns_error error)

theorem returns_map_iff {Result : Type} {result : Except Error Output}
    {transform : Output → Result} : Returns (result.map transform) ↔ Returns result := by
  cases result with
  | error error => exact iff_of_false (not_returns_error error) (not_returns_error error)
  | ok => exact iff_of_true (returns_ok _) (returns_ok _)

theorem map_eq_ok {Result : Type} {result : Except Error Output} {transform : Output → Result}
    {value : Result} (mapped : result.map transform = .ok value) :
    ∃ output, result = .ok output ∧ value = transform output := by
  cases result with
  | error => cases mapped
  | ok output =>
    cases mapped
    exact ⟨output, rfl, rfl⟩

theorem bind_eq_ok {Result : Type} {first : Except Error Output}
    {next : Output → Except Error Result} {result : Result}
    (ran : (first >>= next) = .ok result) :
    ∃ output, first = .ok output ∧ next output = .ok result := by
  cases first with
  | error => cases ran
  | ok output => exact ⟨output, rfl, ran⟩

theorem mapM_eq_ok_iff {inputs : List Input} {outputs : List Output} :
    inputs.mapM step = .ok outputs ↔
      List.Forall₂ (fun input output => step input = .ok output) inputs outputs := by
  induction inputs generalizing outputs with
  | nil =>
    rw [List.mapM_nil, List.forall₂_nil_left_iff]
    exact ⟨fun same => (Except.ok.inj same).symm, fun same => congrArg Except.ok same.symm⟩
  | cons input rest induction =>
    rw [List.mapM_cons]
    constructor
    · intro same
      cases isFirst : step input with
      | error =>
        rw [isFirst] at same
        cases same
      | ok =>
        cases areRest : rest.mapM step with
        | error =>
          rw [isFirst, areRest] at same
          cases same
        | ok =>
          rw [isFirst, areRest] at same
          cases same
          exact .cons isFirst (induction.mp areRest)
    · intro each
      cases each with
      | cons isFirst areRest =>
        rw [isFirst, induction.mpr areRest]
        rfl

theorem mapM_returns_iff {inputs : List Input} :
    Returns (inputs.mapM step) ↔ ∀ input ∈ inputs, Returns (step input) := by
  constructor
  · rintro ⟨outputs, ran⟩
    have each := mapM_eq_ok_iff.mp ran
    clear ran
    induction each with
    | nil => exact List.forall_mem_nil _
    | cons isFirst _ induction =>
      rw [List.forall_mem_cons]
      exact ⟨⟨_, isFirst⟩, induction⟩
  · intro each
    induction inputs with
    | nil => exact ⟨[], rfl⟩
    | cons _ _ induction =>
      rw [List.forall_mem_cons] at each
      rcases each with ⟨⟨output, isFirst⟩, others⟩
      rcases induction others with ⟨outputs, areRest⟩
      exact ⟨output :: outputs, mapM_eq_ok_iff.mpr (.cons isFirst (mapM_eq_ok_iff.mp areRest))⟩

theorem mapM_of_eq {view : Input → Output} {inputs : List Input}
    (each : ∀ input ∈ inputs, step input = .ok (view input)) :
    inputs.mapM step = .ok (inputs.map view) := by
  rw [mapM_eq_ok_iff, List.forall₂_map_right_iff, List.forall₂_same]
  exact each

theorem eq_map_of_mapM {view : Input → Output} {inputs : List Input} {outputs : List Output}
    (each : ∀ input ∈ inputs, ∀ output, step input = .ok output → output = view input)
    (ran : inputs.mapM step = .ok outputs) : outputs = inputs.map view := by
  have steps := mapM_eq_ok_iff.mp ran
  clear ran
  induction steps with
  | nil => rfl
  | cons isFirst _ induction =>
    rw [List.forall_mem_cons] at each
    rw [List.map_cons, each.1 _ isFirst, induction each.2]

theorem exists_related_of_mem {related : Input → Output → Prop} {inputs : List Input}
    {outputs : List Output} (each : List.Forall₂ related inputs outputs) {output : Output}
    (member : output ∈ outputs) : ∃ input ∈ inputs, related input output := by
  induction each with
  | nil => cases member
  | cons isFirst _ induction =>
    rcases List.mem_cons.mp member with rfl | inRest
    · exact ⟨_, List.mem_cons_self, isFirst⟩
    · rcases induction inRest with ⟨input, isInput, isRelated⟩
      exact ⟨input, List.mem_cons_of_mem _ isInput, isRelated⟩

theorem exists_input_of_mapM {inputs : List Input} {outputs : List Output}
    (ran : inputs.mapM step = .ok outputs) {output : Output} (member : output ∈ outputs) :
    ∃ input ∈ inputs, step input = .ok output :=
  exists_related_of_mem (mapM_eq_ok_iff.mp ran) member

theorem exists_input_of_mapM_error {inputs : List Input} {error : Error}
    (failed : inputs.mapM step = .error error) : ∃ input ∈ inputs, step input = .error error := by
  induction inputs with
  | nil => cases failed
  | cons input rest induction =>
    rw [List.mapM_cons] at failed
    cases isFirst : step input with
    | error =>
      rw [isFirst] at failed
      cases failed
      exact ⟨input, List.mem_cons_self, isFirst⟩
    | ok =>
      cases areRest : rest.mapM step with
      | error =>
        rw [isFirst, areRest] at failed
        cases failed
        rcases induction areRest with ⟨found, member, isError⟩
        exact ⟨found, List.mem_cons_of_mem input member, isError⟩
      | ok =>
        rw [isFirst, areRest] at failed
        cases failed

theorem exists_output_of_mapM {inputs : List Input} {outputs : List Output}
    (ran : inputs.mapM step = .ok outputs) {input : Input} (member : input ∈ inputs) :
    ∃ output ∈ outputs, step input = .ok output :=
  exists_related_of_mem (mapM_eq_ok_iff.mp ran).flip member

theorem mapM_zipIdx_again {Item : Type} {step : Nat → Item → Except Error Item}
    (again : ∀ index item output, step index item = .ok output → step index output = .ok output)
    {items outputs : List Item} {start : Nat}
    (ran : ((items.zipIdx start).mapM fun (item, index) => step index item) = .ok outputs) :
    ((outputs.zipIdx start).mapM fun (item, index) => step index item) = .ok outputs := by
  rw [mapM_eq_ok_iff] at ran ⊢
  induction items generalizing outputs start with
  | nil =>
    cases ran
    exact .nil
  | cons _ _ induction =>
    rw [List.zipIdx_cons] at ran
    cases ran with
    | cons isFirst areRest =>
      rw [List.zipIdx_cons]
      exact .cons (again _ _ _ isFirst) (induction areRest)

theorem andThen_eq_ok_iff {first next : Except Error Unit} :
    (first >>= fun _ => next) = .ok () ↔ first = .ok () ∧ next = .ok () := by
  cases first with
  | error => exact ⟨fun failed => (by cases failed), fun both => (by cases both.1)⟩
  | ok => exact ⟨fun ran => ⟨rfl, ran⟩, fun both => both.2⟩

theorem check_bind_eq_ok_iff {check : Except Error Unit} {next : Unit → Except Error Output}
    {output : Output} :
    (check >>= next) = .ok output ↔ check = .ok () ∧ next () = .ok output := by
  cases check with
  | error => exact ⟨fun failed => (by cases failed), fun both => (by cases both.1)⟩
  | ok => exact ⟨fun ran => ⟨rfl, ran⟩, fun both => both.2⟩

theorem forM_eq_ok_iff {check : Input → Except Error Unit} {inputs : List Input} :
    inputs.forM check = .ok () ↔ ∀ input ∈ inputs, check input = .ok () := by
  induction inputs with
  | nil => exact ⟨fun _ _ member => absurd member List.not_mem_nil, fun _ => rfl⟩
  | cons _ _ induction =>
    rw [List.forall_mem_cons, ← induction]
    exact andThen_eq_ok_iff

end VideoAnalysis.Foundation
