import VideoAnalysis.Foundation.Fallible
import VideoAnalysis.Python.Json

/-! # Rules for the fields of a dictionary

A rule looks at the value of one key and either leaves the dictionary alone or stores a
normal form there. A rule settles if it takes its normal forms for what they are; what
settling rules for different keys have made of a dictionary, they do not change again.
-/

namespace VideoAnalysis.Python

open VideoAnalysis.Foundation
open Json (lookup store)

abbrev Entries := List (Text × Json)

structure FieldRule (Error : Type) where
  key : String
  check : Option Json → Except Error (Option Json)

namespace FieldRule

variable {Error : Type}

def apply (rule : FieldRule Error) (entries : Entries) : Except Error Entries :=
  match rule.check (lookup entries rule.key) with
  | .ok (some value) => .ok (store entries rule.key value)
  | .ok none => .ok entries
  | .error error => .error error

/-- A field that is only looked at. -/
def test (key : String) (accept : Option Json → Except Error Unit) : FieldRule Error where
  key
  check found := (accept found).map fun _ => none

/-- A field that is normalised, also where it is missing. -/
def required (key : String) (normalize : Option Json → Except Error Json) : FieldRule Error where
  key
  check found := (normalize found).map some

def optional (key : String) (normalize : Json → Except Error Json) : FieldRule Error where
  key
  check
    | none | some .null => .ok none
    | some value => (normalize value).map some

def Settles (rule : FieldRule Error) : Prop :=
  ∀ found value, rule.check found = .ok (some value) → rule.check (some value) = .ok (some value)

/-- The rule has nothing to do. -/
def Settled (rule : FieldRule Error) (entries : Entries) : Prop :=
  rule.check (lookup entries rule.key) = .ok none ∨
    ∃ value, rule.check (lookup entries rule.key) = .ok (some value) ∧
      lookup entries rule.key = some value

theorem test_settles (key : String) (accept : Option Json → Except Error Unit) :
    (test key accept).Settles := by
  intro found value checked
  simp only [test] at checked
  cases accepted : accept found with
  | ok | error =>
    rw [accepted] at checked
    cases checked

variable {key : String}

theorem required_settles {normalize : Option Json → Except Error Json}
    (normal : ∀ found value, normalize found = .ok value → normalize (some value) = .ok value) :
    (required key normalize).Settles := by
  intro found value checked
  simp only [required] at checked ⊢
  cases normalized : normalize found with
  | ok =>
    rw [normalized] at checked
    cases checked
    rw [normal found _ normalized]
    rfl
  | error =>
    rw [normalized] at checked
    cases checked

theorem optional_settles {normalize : Json → Except Error Json}
    (normal : ∀ found value, normalize found = .ok value →
      value ≠ .null ∧ normalize value = .ok value) : (optional key normalize).Settles := by
  intro found value checked
  have isNormal : ∃ item, normalize item = .ok value := by
    simp only [optional] at checked
    split at checked
    next => cases checked
    next => cases checked
    next item _ =>
      cases normalized : normalize item with
      | ok =>
        rw [normalized] at checked
        cases checked
        exact ⟨item, normalized⟩
      | error =>
        rw [normalized] at checked
        cases checked
  rcases isNormal with ⟨item, normalized⟩
  rcases normal item value normalized with ⟨notNull, again⟩
  simp only [optional]
  cases value with
  | null => exact absurd rfl notNull
  | bool _ | int _ | float _ | str _ | list _ | dict _ =>
    simp only [again]
    rfl

variable {rule : FieldRule Error} {entries : Entries}

theorem apply_of_settled (settled : rule.Settled entries) :
    rule.apply entries = .ok entries := by
  unfold apply
  rcases settled with leaves | ⟨value, stores, present⟩
  · rw [leaves]
  · rw [stores]
    exact congrArg Except.ok (Json.store_of_lookup present)

variable {result : Entries}

theorem settled_of_apply (settles : rule.Settles) (applied : rule.apply entries = .ok result) :
    rule.Settled result := by
  unfold apply at applied
  split at applied
  next value checked =>
    cases applied
    have present := Json.lookup_store_self entries rule.key value
    refine .inr ⟨value, ?_, present⟩
    rw [present]
    exact settles _ value checked
  next checked =>
    cases applied
    exact .inl checked
  next => cases applied

theorem get_of_apply {name : Text} (applied : rule.apply entries = .ok result)
    (different : name ≠ text rule.key) :
    Dict.get ⟨result⟩ name = Dict.get ⟨entries⟩ name := by
  unfold apply at applied
  split at applied
  next =>
    cases applied
    exact Dict.get_set_of_ne _ _ different
  next =>
    cases applied
    rfl
  next => cases applied

theorem lookup_of_apply (applied : rule.apply entries = .ok result)
    (different : key ≠ rule.key) :
    lookup result key = lookup entries key :=
  get_of_apply applied fun same => different (text_injective same)

/-- What a rule that returns leaves in its field. -/
def leaves (rule : FieldRule Error) (found : Option Json) : Option Json :=
  match rule.check found with
  | .ok (some value) => some value
  | .ok none | .error _ => found

theorem lookup_of_apply_self (applied : rule.apply entries = .ok result) :
    lookup result rule.key = rule.leaves (lookup entries rule.key) := by
  unfold apply at applied
  unfold leaves
  split at applied
  next =>
    cases applied
    exact Json.lookup_store_self _ _ _
  next =>
    cases applied
    rfl
  next => cases applied

theorem apply_returns_iff :
    Returns (rule.apply entries) ↔ Returns (rule.check (lookup entries rule.key)) := by
  unfold apply
  split
  next checked => exact iff_of_true (returns_ok _) ⟨_, checked⟩
  next checked => exact iff_of_true (returns_ok _) ⟨_, checked⟩
  next failed =>
    rw [failed]
    exact iff_of_false (not_returns_error _) (not_returns_error _)

theorem Settled.of_lookup {others : Entries} (settled : rule.Settled entries)
    (same : lookup others rule.key = lookup entries rule.key) :
    rule.Settled others := by
  unfold Settled at settled ⊢
  rw [same]
  exact settled

end FieldRule

/-! ## Several rules -/

section Rules

variable {Error : Type}

def applyRules : List (FieldRule Error) → Entries → Except Error Entries
  | [], entries => .ok entries
  | rule :: rest, entries =>
    match rule.apply entries with
    | .ok result => applyRules rest result
    | .error error => .error error

variable {entries result : Entries}

theorem applyRules_cons_ok {rule : FieldRule Error} {rest : List (FieldRule Error)}
    (applied : applyRules (rule :: rest) entries = .ok result) :
    ∃ next, rule.apply entries = .ok next ∧ applyRules rest next = .ok result := by
  simp only [applyRules] at applied
  split at applied
  next middle isFirst => exact ⟨middle, isFirst, applied⟩
  next => cases applied

variable {rules : List (FieldRule Error)}

theorem get_applyRules {name : Text} (applied : applyRules rules entries = .ok result)
    (different : ∀ rule ∈ rules, name ≠ text rule.key) :
    Dict.get ⟨result⟩ name = Dict.get ⟨entries⟩ name := by
  induction rules generalizing entries with
  | nil =>
    cases applied
    rfl
  | cons _ _ induction =>
    rcases applyRules_cons_ok applied with ⟨_, isFirst, isRest⟩
    rw [List.forall_mem_cons] at different
    rw [induction isRest different.2, FieldRule.get_of_apply isFirst different.1]

theorem lookup_applyRules {key : String} (applied : applyRules rules entries = .ok result)
    (different : key ∉ rules.map FieldRule.key) :
    lookup result key = lookup entries key := by
  apply get_applyRules applied
  intro rule member same
  exact different (text_injective same ▸ List.mem_map_of_mem member)

theorem applyRules_returns_iff (distinct : (rules.map FieldRule.key).Nodup) :
    Returns (applyRules rules entries) ↔
      ∀ rule ∈ rules, Returns (rule.check (lookup entries rule.key)) := by
  induction rules generalizing entries with
  | nil => exact iff_of_true (returns_ok _) (List.forall_mem_nil _)
  | cons rule rest induction =>
    rw [List.map_cons, List.nodup_cons] at distinct
    rw [List.forall_mem_cons, ← FieldRule.apply_returns_iff]
    cases isFirst : rule.apply entries with
    | error =>
      simp only [applyRules, isFirst]
      exact iff_of_false (not_returns_error _) fun both => not_returns_error _ both.1
    | ok next =>
      have others : ∀ other ∈ rest,
          lookup next other.key = lookup entries other.key := by
        intro other member
        apply FieldRule.lookup_of_apply isFirst
        rintro same
        exact distinct.1 (same ▸ List.mem_map_of_mem member)
      simp only [applyRules, isFirst, returns_ok, true_and, induction distinct.2]
      exact forall₂_congr fun other member => by rw [others other member]

theorem lookup_of_rule (distinct : (rules.map FieldRule.key).Nodup)
    (applied : applyRules rules entries = .ok result) {rule : FieldRule Error}
    (member : rule ∈ rules) :
    lookup result rule.key = rule.leaves (lookup entries rule.key) := by
  induction rules generalizing entries with
  | nil => cases member
  | cons _ _ induction =>
    rcases applyRules_cons_ok applied with ⟨_, isFirst, isRest⟩
    rw [List.map_cons, List.nodup_cons] at distinct
    rcases List.mem_cons.mp member with rfl | inRest
    · rw [lookup_applyRules isRest distinct.1, FieldRule.lookup_of_apply_self isFirst]
    · rw [induction distinct.2 isRest inRest, FieldRule.lookup_of_apply isFirst]
      rintro same
      exact distinct.1 (same ▸ List.mem_map_of_mem inRest)

def Each (holds : Text → Json → Prop) (entries : Entries) : Prop :=
  ∀ name value, Dict.get ⟨entries⟩ name = some value → holds name value

theorem each_iff_forall_mem {holds : Text → Json → Prop} (distinct : Dict.Distinct ⟨entries⟩) :
    Each holds entries ↔ ∀ entry ∈ entries, holds entry.1 entry.2 := by
  constructor
  · intro each entry member
    exact each entry.1 entry.2 (Dict.get_of_mem distinct member)
  · intro each name value present
    exact each (name, value) (Dict.mem_of_get present)

/-- What holds of the fields that rules have made says field by field what holds of the fields
that were given. -/
theorem each_applyRules_iff {holds held : Text → Json → Prop}
    (distinct : (rules.map FieldRule.key).Nodup)
    (applied : applyRules rules entries = .ok result)
    (others : ∀ name value, (∀ rule ∈ rules, name ≠ text rule.key) →
      (holds name value ↔ held name value)) (ruled : ∀ rule ∈ rules,
      (∀ value, rule.leaves (lookup entries rule.key) = some value →
        holds (text rule.key) value) ↔
      ∀ value, lookup entries rule.key = some value → held (text rule.key) value) :
    Each holds result ↔ Each held entries := by
  refine forall_congr' fun name => ?_
  by_cases isRuled : ∃ rule ∈ rules, name = text rule.key
  · rcases isRuled with ⟨rule, member, rfl⟩
    have field := ruled rule member
    rw [← lookup_of_rule distinct applied member] at field
    exact field
  · have different : ∀ rule ∈ rules, name ≠ text rule.key := fun rule member same =>
      isRuled ⟨rule, member, same⟩
    refine forall_congr' fun value => ?_
    rw [get_applyRules applied different, others name value different]

theorem settled_applyRules (settles : ∀ rule ∈ rules, rule.Settles)
    (distinct : (rules.map FieldRule.key).Nodup)
    (applied : applyRules rules entries = .ok result) : ∀ rule ∈ rules, rule.Settled result := by
  induction rules generalizing entries with
  | nil => exact List.forall_mem_nil _
  | cons _ _ induction =>
    rcases applyRules_cons_ok applied with ⟨_, isFirst, isRest⟩
    rw [List.map_cons, List.nodup_cons] at distinct
    rw [List.forall_mem_cons] at settles ⊢
    have first := FieldRule.settled_of_apply settles.1 isFirst
    exact ⟨first.of_lookup (lookup_applyRules isRest distinct.1),
      induction settles.2 distinct.2 isRest⟩

theorem applyRules_of_settled (settled : ∀ rule ∈ rules, rule.Settled entries) :
    applyRules rules entries = .ok entries := by
  induction rules with
  | nil => rfl
  | cons _ _ induction =>
    rw [List.forall_mem_cons] at settled
    simp only [applyRules, FieldRule.apply_of_settled settled.1]
    exact induction settled.2

theorem applyRules_again (settles : ∀ rule ∈ rules, rule.Settles)
    (distinct : (rules.map FieldRule.key).Nodup)
    (applied : applyRules rules entries = .ok result) : applyRules rules result = .ok result :=
  applyRules_of_settled (settled_applyRules settles distinct applied)

theorem applyRules_keeps {rules : List (FieldRule Error)} {entries result : Entries}
    {holds : Entries → Prop}
    (keeps : ∀ rule ∈ rules, ∀ current found value, holds current →
      rule.check found = .ok (some value) → holds (store current rule.key value))
    (start : holds entries) (applied : applyRules rules entries = .ok result) : holds result := by
  induction rules generalizing entries with
  | nil =>
    cases applied
    exact start
  | cons _ _ induction =>
    rcases applyRules_cons_ok applied with ⟨next, isFirst, isRest⟩
    rw [List.forall_mem_cons] at keeps
    refine induction keeps.2 ?_ isRest
    unfold FieldRule.apply at isFirst
    split at isFirst
    next value checked =>
      cases isFirst
      exact keeps.1 entries _ value start checked
    next =>
      cases isFirst
      exact start
    next => cases isFirst

theorem applyRules_eq_of_given (preserve : ∀ rule ∈ rules, ∀ value,
      rule.check (lookup entries rule.key) = .ok (some value) →
        lookup entries rule.key = some value)
    (applied : applyRules rules entries = .ok result) : result = entries := by
  induction rules generalizing entries with
  | nil =>
    cases applied
    rfl
  | cons _ _ induction =>
    rcases applyRules_cons_ok applied with ⟨next, isFirst, isRest⟩
    rw [List.forall_mem_cons] at preserve
    have same : next = entries := by
      unfold FieldRule.apply at isFirst
      split at isFirst
      next value checked =>
        cases isFirst
        exact Json.store_of_lookup (preserve.1 value checked)
      next =>
        cases isFirst
        rfl
      next => cases isFirst
    rw [same] at isRest
    exact induction preserve.2 isRest

theorem applyRules_eq
    (preserve : ∀ rule ∈ rules, ∀ found value, rule.check found = .ok (some value) →
      found = some value) (applied : applyRules rules entries = .ok result) : result = entries :=
  applyRules_eq_of_given (fun rule member => preserve rule member _) applied

end Rules

end VideoAnalysis.Python
