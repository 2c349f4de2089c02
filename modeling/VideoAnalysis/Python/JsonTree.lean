import VideoAnalysis.Python.Json

/-! # JSON trees

Where the keys of a value stand: under which keys and at which positions of lists.
-/

namespace VideoAnalysis.Python

open VideoAnalysis.Foundation

inductive PathStep
  | key (name : Text)
  | index (position : Nat)

namespace Json

/-- A dictionary at the path has the key. -/
inductive KeyAt : Json → List PathStep → Text → Prop
  | here {entries : List (Text × Json)} {name : Text} {value : Json}
      (member : (name, value) ∈ entries) : KeyAt (.dict entries) [] name
  | entry {entries : List (Text × Json)} {key name : Text} {value : Json} {path : List PathStep}
      (member : (key, value) ∈ entries) (below : KeyAt value path name) :
      KeyAt (.dict entries) (.key key :: path) name
  | item {items : List Json} {position : Nat} {value : Json} {path : List PathStep} {name : Text}
      (atPosition : items[position]? = some value) (below : KeyAt value path name) :
      KeyAt (.list items) (.index position :: path) name

def KeysSatisfy (allowed : Text → Prop) (value : Json) : Prop :=
  ∀ path name, KeyAt value path name → allowed name

variable {allowed : Text → Prop}

variable {entries : List (Text × Json)}

theorem keysSatisfy_dict :
    KeysSatisfy allowed (.dict entries) ↔
      ∀ entry ∈ entries, allowed entry.1 ∧ KeysSatisfy allowed entry.2 := by
  constructor
  · rintro satisfy ⟨key, value⟩ member
    exact ⟨satisfy [] key (.here member),
      fun path name below => satisfy (.key key :: path) name (.entry member below)⟩
  · intro each path name isAt
    cases isAt with
    | here member => exact (each _ member).1
    | entry member below => exact (each _ member).2 _ _ below

theorem keysSatisfy_list {items : List Json} :
    KeysSatisfy allowed (.list items) ↔ ∀ item ∈ items, KeysSatisfy allowed item := by
  constructor
  · intro satisfy item member path name below
    rcases List.mem_iff_getElem?.mp member with ⟨position, atPosition⟩
    exact satisfy (.index position :: path) name (.item atPosition below)
  · intro each path name isAt
    cases isAt with
    | item atPosition below => exact each _ (List.mem_of_getElem? atPosition) _ _ below

def isScalar : Json → Bool
  | .list _ | .dict _ => false
  | .null | .bool _ | .int _ | .float _ | .str _ => true

theorem keysSatisfy_of_isScalar {value : Json} (scalar : value.isScalar = true) :
    KeysSatisfy allowed value := by
  intro path name isAt
  cases isAt <;> cases scalar

theorem keysSatisfy_store {key : String} {value : Json}
    (satisfy : KeysSatisfy allowed (.dict entries)) (isAllowed : allowed (text key))
    (satisfyValue : KeysSatisfy allowed value) :
    KeysSatisfy allowed (.dict (store entries key value)) := by
  rw [keysSatisfy_dict] at satisfy ⊢
  intro entry member
  rcases Dict.mem_entries_set member with same | old
  · rw [same]
    exact ⟨isAllowed, satisfyValue⟩
  · exact satisfy entry old

theorem keysSatisfy_store_iff {key : String} {item value : Json}
    (present : lookup entries key = some item)
    (same : KeysSatisfy allowed value ↔ KeysSatisfy allowed item) :
    KeysSatisfy allowed (.dict (store entries key value)) ↔
      KeysSatisfy allowed (.dict entries) := by
  simp only [keysSatisfy_dict, lookup, Dict.get, store, Dict.set] at present ⊢
  induction entries with
  | nil => cases present
  | cons entry _ induction =>
    rcases entry with ⟨name, _⟩
    by_cases isKey : name = text key
    · simp only [Dict.lookup, if_pos isKey, Option.some.injEq] at present
      simp only [Dict.insert, if_pos isKey, List.forall_mem_cons, same, present]
    · simp only [Dict.lookup, if_neg isKey] at present
      simp only [Dict.insert, if_neg isKey, List.forall_mem_cons, induction present]

/-! ## Distinct keys -/

mutual

def distinct : Json → Bool
  | list items => distinctItems items
  | dict entries => decide ((entries.map Prod.fst).Nodup) && distinctEntries entries
  | null | bool _ | int _ | float _ | str _ => true

def distinctItems : List Json → Bool
  | [] => true
  | item :: rest => item.distinct && distinctItems rest

def distinctEntries : List (Text × Json) → Bool
  | [] => true
  | (_, value) :: rest => value.distinct && distinctEntries rest

end

theorem distinct_of_mem_items {items : List Json} {item : Json}
    (areDistinct : (Json.list items).distinct = true) (member : item ∈ items) :
    item.distinct = true := by
  simp only [distinct] at areDistinct
  induction items with
  | nil => cases member
  | cons _ _ induction =>
    simp only [distinctItems, Bool.and_eq_true] at areDistinct
    rcases List.mem_cons.mp member with rfl | inRest
    · exact areDistinct.1
    · exact induction areDistinct.2 inRest

theorem distinct_of_lookup {entries : List (Text × Json)} {key : String} {value : Json}
    (isDistinct : (Json.dict entries).distinct = true) (found : lookup entries key = some value) :
    value.distinct = true := by
  simp only [distinct, Bool.and_eq_true] at isDistinct
  have each := isDistinct.2
  have member : (text key, value) ∈ entries := Dict.mem_of_get found
  clear isDistinct found
  induction entries with
  | nil => cases member
  | cons _ _ induction =>
    simp only [distinctEntries, Bool.and_eq_true] at each
    rcases List.mem_cons.mp member with rfl | inRest
    · exact each.1
    · exact induction each.2 inRest

theorem nodup_of_distinct {entries : List (Text × Json)}
    (isDistinct : (Json.dict entries).distinct = true) : Dict.Distinct ⟨entries⟩ := by
  simp only [distinct, Bool.and_eq_true] at isDistinct
  have nodup : (entries.map Prod.fst).Nodup := of_decide_eq_true isDistinct.1
  exact nodup

end Json

end VideoAnalysis.Python
