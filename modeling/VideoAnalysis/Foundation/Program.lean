import Mathlib.Tactic.TypeStar

/-! # Programs that ask

A program looks at a state and acts on it, and asks its surroundings in between, which
answer as they like. It may be left by an exception. A run records its actions with the
states before them.
-/

namespace VideoAnalysis.Foundation

inductive Program {Query : Type} (Reply : Query → Type) (State Action Result : Type) : Type
  | done (result : Result)
  | abort
  | ask (query : Query) (next : Reply query → Program Reply State Action Result)
  | look (next : State → Program Reply State Action Result)
  | act (action : Action) (next : Program Reply State Action Result)

namespace Program

variable {Query : Type} {Reply : Query → Type} {State Action Result Other : Type}

def bind : Program Reply State Action Result → (Result → Program Reply State Action Other) →
    Program Reply State Action Other
  | done result, rest => rest result
  | abort, _ => abort
  | ask query next, rest => ask query fun reply => (next reply).bind rest
  | look next, rest => look fun state => (next state).bind rest
  | act action next, rest => act action (next.bind rest)

instance : Monad (Program Reply State Action) where
  pure := done
  bind := bind

def query (question : Query) : Program Reply State Action (Reply question) :=
  ask question done

def current : Program Reply State Action State := look done

def perform (action : Action) : Program Reply State Action Unit := act action (done ())

/-! ## Runs -/

/-- The answers to the questions, each at its own time. -/
abbrev Answers (Reply : Query → Type) := Nat → (query : Query) → Reply query

structure Run (State Action Result : Type) where
  result : Option Result
  state : State
  performed : List (State × Action)
  asked : Nat

variable (apply : State → Action → State) (answers : Answers Reply)

def run : Program Reply State Action Result → Nat → State → Run State Action Result
  | done result, asked, state => ⟨some result, state, [], asked⟩
  | abort, asked, state => ⟨none, state, [], asked⟩
  | ask query next, asked, state => (next (answers asked query)).run (asked + 1) state
  | look next, asked, state => (next state).run asked state
  | act action next, asked, state =>
    let later := next.run asked (apply state action)
    { later with performed := (state, action) :: later.performed }

/-! ## What holds after a program -/

/-- Whatever the answers, the program is left by an exception, or does something that is
not allowed, or returns with the condition. -/
def Ensures (allowed : State → Action → Prop) (condition : Result → State → Prop) :
    Program Reply State Action Result → State → Prop
  | done result, state => condition result state
  | abort, _ => True
  | ask _ next, state => ∀ reply, (next reply).Ensures allowed condition state
  | look next, state => (next state).Ensures allowed condition state
  | act action next, state =>
    allowed state action → next.Ensures allowed condition (apply state action)

variable {apply} {answers} {allowed : State → Action → Prop} {condition : Result → State → Prop}

variable {program : Program Reply State Action Result} {state : State}

theorem Ensures.run {asked : Nat} (ensures : program.Ensures apply allowed condition state)
    (isAllowed : ∀ before ∈ (program.run apply answers asked state).performed,
      allowed before.1 before.2) {result : Result}
    (returned : (program.run apply answers asked state).result = some result) :
    condition result (program.run apply answers asked state).state := by
  induction program generalizing asked state with
  | done =>
    cases returned
    exact ensures
  | abort => cases returned
  | ask _ _ induction => exact induction _ (ensures _) isAllowed returned
  | look _ induction => exact induction _ ensures isAllowed returned
  | act _ _ induction =>
    rcases List.forall_mem_cons.mp isAllowed with ⟨here, later⟩
    exact induction (ensures here) later returned

theorem Ensures.mono {weaker : Result → State → Prop}
    (ensures : program.Ensures apply allowed condition state)
    (implies : ∀ result state, condition result state → weaker result state) :
    program.Ensures apply allowed weaker state := by
  induction program generalizing state with
  | done => exact implies _ _ ensures
  | abort => trivial
  | ask _ _ induction => exact fun reply => induction reply (ensures reply)
  | look _ induction => exact induction state ensures
  | act _ _ induction => exact fun isAllowed => induction (ensures isAllowed)

theorem ensures_of_forall (holds : ∀ result state, condition result state)
    (program : Program Reply State Action Result) (state : State) :
    program.Ensures apply allowed condition state := by
  induction program generalizing state with
  | done value => exact holds value state
  | abort => trivial
  | ask _ _ induction => exact fun reply => induction reply state
  | look _ induction => exact induction state state
  | act _ _ induction => exact fun _ => induction _

theorem ensures_bind {rest : Result → Program Reply State Action Other}
    {outcome : Other → State → Prop} :
    (program >>= rest).Ensures apply allowed outcome state ↔
      program.Ensures apply allowed
        (fun result after => (rest result).Ensures apply allowed outcome after) state := by
  change (program.bind rest).Ensures apply allowed outcome state ↔ _
  induction program generalizing state with
  | done | abort => exact Iff.rfl
  | ask _ _ induction => exact forall_congr' fun reply => induction reply
  | look _ induction => exact induction state
  | act _ _ induction => exact forall_congr' fun _ => induction

theorem ensures_pure {result : Result} :
    (pure result : Program Reply State Action Result).Ensures apply allowed condition state ↔
      condition result state := Iff.rfl

theorem ensures_query {question : Query} {condition : Reply question → State → Prop} :
    (query question : Program Reply State Action _).Ensures apply allowed condition state ↔
      ∀ reply, condition reply state := Iff.rfl

theorem ensures_current {condition : State → State → Prop} :
    (current : Program Reply State Action State).Ensures apply allowed condition state ↔
      condition state state := Iff.rfl

theorem ensures_perform {action : Action} {condition : Unit → State → Prop} :
    (perform action : Program Reply State Action Unit).Ensures apply allowed condition state ↔
      (allowed state action → condition () (apply state action)) := Iff.rfl

/-- What each round of a loop keeps, the loop keeps, and what a round does for its item
is done for all of them, if no other round undoes it. -/
theorem ensures_forM {Item : Type} {invariant : State → Prop} {settled : Item → State → Prop}
    {items : List Item} {body : Item → Program Reply State Action PUnit}
    (each : ∀ item ∈ items, ∀ before, invariant before →
      (body item).Ensures apply allowed (fun _ after => invariant after ∧ settled item after ∧
        ∀ other, settled other before → settled other after) before) (holds : invariant state) :
    (items.forM body).Ensures apply allowed (fun _ after => invariant after ∧
      (∀ item ∈ items, settled item after) ∧
        ∀ other, settled other state → settled other after) state := by
  induction items generalizing state with
  | nil => exact ⟨holds, List.forall_mem_nil _, fun _ => id⟩
  | cons item rest induction =>
    rcases List.forall_mem_cons.mp each with ⟨here, later⟩
    change (body item >>= fun _ => rest.forM body).Ensures apply allowed _ state
    rw [ensures_bind]
    refine (here state holds).mono fun _ middle isHeld => ?_
    rcases isHeld with ⟨isHeld, isSettled, kept⟩
    refine (induction later isHeld).mono fun _ after isDone => ?_
    rcases isDone with ⟨holdsAfter, others, stays⟩
    exact ⟨holdsAfter, List.forall_mem_cons.mpr ⟨stays item isSettled, others⟩,
      fun other wasSettled => stays other (kept other wasSettled)⟩

theorem Ensures.and {other : Result → State → Prop}
    (first : program.Ensures apply allowed condition state)
    (second : program.Ensures apply allowed other state) :
    program.Ensures apply allowed (fun result after => condition result after ∧
      other result after) state := by
  induction program generalizing state with
  | done => exact ⟨first, second⟩
  | abort => trivial
  | ask _ _ induction => exact fun reply => induction reply (first reply) (second reply)
  | look _ induction => exact induction state first second
  | act _ _ induction =>
    exact fun isAllowed => induction (first isAllowed) (second isAllowed)

/-! ## Which actions a program may perform -/

def Performs (may : Action → Prop) : Program Reply State Action Result → Prop
  | done _ => True
  | abort => True
  | ask _ next => ∀ reply, (next reply).Performs may
  | look next => ∀ state, (next state).Performs may
  | act action next => may action ∧ next.Performs may

variable {may : Action → Prop}

theorem Performs.bind {rest : Result → Program Reply State Action Other}
    (performs : program.Performs may) (later : ∀ result, (rest result).Performs may) :
    (program >>= rest).Performs may := by
  change (program.bind rest).Performs may
  induction program with
  | done value => exact later value
  | abort => trivial
  | ask _ _ induction => exact fun reply => induction reply (performs reply)
  | look _ induction => exact fun state => induction state (performs state)
  | act _ _ induction => exact ⟨performs.1, induction performs.2⟩

theorem Performs.forM {Item : Type} {items : List Item}
    {body : Item → Program Reply State Action PUnit}
    (each : ∀ item ∈ items, (body item).Performs may) : (items.forM body).Performs may := by
  induction items with
  | nil => trivial
  | cons _ _ induction =>
    rcases List.forall_mem_cons.mp each with ⟨here, later⟩
    exact here.bind fun _ => induction later

theorem performs_of_forall (all : ∀ action, may action)
    (program : Program Reply State Action Result) : program.Performs may := by
  induction program with
  | done | abort => trivial
  | ask _ _ induction | look _ induction => exact induction
  | act action _ induction => exact ⟨all action, induction⟩

theorem Performs.ensures {invariant : State → Prop} (performs : program.Performs may)
    (kept : ∀ state action, may action → allowed state action → invariant state →
      invariant (apply state action)) (holds : invariant state) :
    program.Ensures apply allowed (fun _ => invariant) state := by
  induction program generalizing state with
  | done => exact holds
  | abort => trivial
  | ask _ _ induction => exact fun reply => induction reply (performs reply) holds
  | look _ induction => exact induction state (performs state) holds
  | act action _ induction =>
    exact fun isAllowed =>
      induction performs.2 (kept state action performs.1 isAllowed holds)

end Program

end VideoAnalysis.Foundation
