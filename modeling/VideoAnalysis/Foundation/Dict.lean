import Mathlib.Data.List.Basic

/-! # Insertion-ordered dictionaries

A key keeps the position of its first insertion when its value is replaced, and
loses it when it is erased.
-/

namespace VideoAnalysis.Foundation

structure Dict (Key Value : Type*) where
  entries : List (Key × Value) := []

namespace Dict

variable {Key Value : Type*} [DecidableEq Key]

instance : EmptyCollection (Dict Key Value) := ⟨{}⟩

def lookup (key : Key) : List (Key × Value) → Option Value
  | [] => none
  | (name, value) :: rest => if name = key then some value else lookup key rest

def insert (key : Key) (value : Value) : List (Key × Value) → List (Key × Value)
  | [] => [(key, value)]
  | (name, old) :: rest =>
    if name = key then (name, value) :: rest else (name, old) :: insert key value rest

def get (dict : Dict Key Value) (key : Key) : Option Value := lookup key dict.entries

def set (dict : Dict Key Value) (key : Key) (value : Value) : Dict Key Value :=
  ⟨insert key value dict.entries⟩

def erase (dict : Dict Key Value) (key : Key) : Dict Key Value :=
  ⟨dict.entries.filter fun entry => entry.1 ≠ key⟩

def keys (dict : Dict Key Value) : List Key := dict.entries.map Prod.fst

def values (dict : Dict Key Value) : List Value := dict.entries.map Prod.snd

def keep (dict : Dict Key Value) (test : Key × Value → Bool) : Dict Key Value :=
  ⟨dict.entries.filter test⟩

def Distinct (dict : Dict Key Value) : Prop := dict.keys.Nodup

@[simp] theorem get_empty (key : Key) : (∅ : Dict Key Value).get key = none := rfl

@[simp] theorem get_set_self (dict : Dict Key Value) (key : Key) (value : Value) :
    (dict.set key value).get key = some value := by
  simp only [get, set]
  induction dict.entries with
  | nil => simp [insert, lookup]
  | cons entry _ induction =>
    by_cases same : entry.1 = key
    · simp [insert, lookup, same]
    · simp [insert, lookup, same, induction]

theorem get_set_of_ne (dict : Dict Key Value) {key other : Key} (value : Value)
    (different : other ≠ key) : (dict.set key value).get other = dict.get other := by
  simp only [get, set]
  induction dict.entries with
  | nil => simp [insert, lookup, different.symm]
  | cons entry _ induction =>
    by_cases same : entry.1 = key
    · simp [insert, lookup, same, different.symm]
    · simp [insert, lookup, same, induction]

theorem get_set (dict : Dict Key Value) (key other : Key) (value : Value) :
    (dict.set key value).get other = if other = key then some value else dict.get other := by
  by_cases same : other = key
  · rw [if_pos same, same, get_set_self]
  · rw [if_neg same, get_set_of_ne dict value same]

@[simp] theorem get_erase_self (dict : Dict Key Value) (key : Key) :
    (dict.erase key).get key = none := by
  simp only [get, erase]
  induction dict.entries with
  | nil => rfl
  | cons entry _ induction =>
    by_cases same : entry.1 = key
    · simpa [same] using induction
    · simpa [same, lookup] using induction

theorem get_erase_of_ne (dict : Dict Key Value) {key other : Key} (different : other ≠ key) :
    (dict.erase key).get other = dict.get other := by
  simp only [get, erase]
  induction dict.entries with
  | nil => rfl
  | cons entry _ induction =>
    by_cases same : entry.1 = key
    · simpa [same, lookup, different.symm] using induction
    · by_cases found : entry.1 = other
      · simp [found, different, lookup]
      · simpa [same, found, lookup] using induction

variable {dict : Dict Key Value} {key : Key} {value : Value}

theorem mem_of_get (found : dict.get key = some value) : (key, value) ∈ dict.entries := by
  simp only [get] at found
  revert found
  induction dict.entries with
  | nil => simp [lookup]
  | cons entry _ induction =>
    intro found
    by_cases same : entry.1 = key
    · simp only [lookup, same, if_true, Option.some.injEq] at found
      rw [← same, ← found]
      exact List.mem_cons_self
    · simp only [lookup, same, if_false] at found
      exact List.mem_cons_of_mem _ (induction found)

theorem get_of_mem (distinct : dict.Distinct) (member : (key, value) ∈ dict.entries) :
    dict.get key = some value := by
  simp only [get]
  simp only [Distinct, keys] at distinct
  revert distinct member
  induction dict.entries with
  | nil => simp
  | cons entry _ induction =>
    intro distinct member
    rw [List.map_cons, List.nodup_cons] at distinct
    rcases List.mem_cons.mp member with rfl | inRest
    · simp [lookup]
    · have other : entry.1 ≠ key := by
        intro same
        exact distinct.1 (same ▸ List.mem_map_of_mem (f := Prod.fst) inRest)
      simpa [lookup, other] using induction distinct.2 inRest

theorem mem_keys_insert (key other : Key) (value : Value) (entries : List (Key × Value)) :
    other ∈ (insert key value entries).map Prod.fst ↔
      other = key ∨ other ∈ entries.map Prod.fst := by
  induction entries with
  | nil => simp [insert]
  | cons entry _ induction =>
    by_cases same : entry.1 = key
    · simp [insert, same]
    · simp only [insert, same, if_false, List.map_cons, List.mem_cons, induction]
      tauto

theorem mem_keys_set {key other : Key} :
    other ∈ (dict.set key value).keys ↔ other = key ∨ other ∈ dict.keys :=
  mem_keys_insert key other value dict.entries

theorem Distinct.set (distinct : dict.Distinct) (key : Key)
    (value : Value) : (dict.set key value).Distinct := by
  simp only [Distinct, keys, Dict.set] at distinct ⊢
  revert distinct
  induction dict.entries with
  | nil => simp [insert]
  | cons entry _ induction =>
    intro distinct
    rw [List.map_cons, List.nodup_cons] at distinct
    by_cases same : entry.1 = key
    · simpa [insert, same] using distinct
    · simp only [insert, same, if_false, List.map_cons, List.nodup_cons]
      refine ⟨?_, induction distinct.2⟩
      rw [mem_keys_insert]
      rintro (found | found)
      · exact same found
      · exact distinct.1 found

omit [DecidableEq Key] in
theorem Distinct.keep (distinct : dict.Distinct)
    (test : Key × Value → Bool) : (dict.keep test).Distinct :=
  List.Nodup.sublist (List.filter_sublist.map Prod.fst) distinct

theorem get_keep (distinct : dict.Distinct) (test : Key × Value → Bool) (key : Key) :
    (dict.keep test).get key = (dict.get key).filter fun value => test (key, value) := by
  simp only [Distinct, keys] at distinct
  simp only [get, keep]
  revert distinct
  induction dict.entries with
  | nil => intro _; rfl
  | cons entry rest induction =>
    intro distinct
    rw [List.map_cons, List.nodup_cons] at distinct
    have tail := induction distinct.2
    rcases entry with ⟨name, value⟩
    by_cases same : name = key
    · subst same
      by_cases kept : test (name, value) = true
      · simp [lookup, kept, Option.filter]
      · have missing : lookup name rest = none := by
          cases found : lookup name rest with
          | none => rfl
          | some =>
            have member := @mem_of_get _ _ _ ⟨rest⟩ _ _ found
            exact absurd (List.mem_map_of_mem (f := Prod.fst) member) distinct.1
        rw [missing] at tail
        simp [lookup, kept, tail, Option.filter]
    · by_cases kept : test (name, value) = true
      all_goals simp [lookup, kept, same, tail]

theorem mem_entries_set {entry : Key × Value} (member : entry ∈ (dict.set key value).entries) :
    entry = (key, value) ∨ entry ∈ dict.entries := by
  simp only [Dict.set] at member
  revert member
  induction dict.entries with
  | nil => simp [insert]
  | cons head _ induction =>
    intro member
    by_cases same : head.1 = key
    · simp only [insert, same, if_true, List.mem_cons] at member
      rcases member with equal | inRest
      · exact Or.inl (by rw [equal])
      · exact Or.inr (List.mem_cons_of_mem _ inRest)
    · simp only [insert, same, if_false, List.mem_cons] at member
      rcases member with equal | inRest
      · exact Or.inr (equal ▸ List.mem_cons_self)
      · exact (induction inRest).imp id (List.mem_cons_of_mem _)

theorem exists_insert_eq (key : Key) (entries : List (Key × Value)) :
    ∃ first last, ∀ value, insert key value entries = first ++ (key, value) :: last := by
  induction entries with
  | nil => exact ⟨[], [], fun _ => rfl⟩
  | cons entry rest induction =>
    rcases entry with ⟨name, old⟩
    by_cases same : name = key
    · refine ⟨[], rest, fun value => ?_⟩
      rw [insert, if_pos same, same, List.nil_append]
    · rcases induction with ⟨first, last, split⟩
      refine ⟨(name, old) :: first, last, fun value => ?_⟩
      rw [insert, if_neg same, split, List.cons_append]

theorem set_set (dict : Dict Key Value) (key : Key) (old value : Value) :
    (dict.set key old).set key value = dict.set key value := by
  have twice : ∀ entries : List (Key × Value),
      insert key value (insert key old entries) = insert key value entries := by
    intro entries
    induction entries with
    | nil => simp [insert]
    | cons entry _ induction =>
      rcases entry with ⟨name, _⟩
      by_cases same : name = key
      · simp [insert, same]
      · simp [insert, same, induction]
  exact congrArg Dict.mk (twice dict.entries)

/-! ## Dictionaries from pairs -/

def ofPairs (pairs : List (Key × Value)) : Dict Key Value :=
  pairs.foldl (fun dict pair => dict.set pair.1 pair.2) ∅

theorem insert_of_notMem {entries : List (Key × Value)} (value : Value)
    (missing : key ∉ entries.map Prod.fst) :
    insert key value entries = entries ++ [(key, value)] := by
  induction entries with
  | nil => rfl
  | cons _ _ induction =>
    rw [List.map_cons, List.mem_cons, not_or] at missing
    rw [insert, if_neg (Ne.symm missing.1), induction missing.2, List.cons_append]

theorem entries_ofPairs {pairs : List (Key × Value)} (distinct : (pairs.map Prod.fst).Nodup) :
    (ofPairs pairs).entries = pairs := by
  have each : ∀ (before : Dict Key Value), ((before.entries ++ pairs).map Prod.fst).Nodup →
      (pairs.foldl (fun dict pair => dict.set pair.1 pair.2) before).entries =
        before.entries ++ pairs := by
    induction pairs with
    | nil => exact fun before _ => (List.append_nil _).symm
    | cons pair _ induction =>
      intro before apart
      have fresh : pair.1 ∉ before.entries.map Prod.fst := by
        intro known
        rw [List.map_append, List.nodup_append] at apart
        exact apart.2.2 pair.1 known pair.1 (List.mem_map_of_mem List.mem_cons_self) rfl
      have inserted : (before.set pair.1 pair.2).entries = before.entries ++ [pair] :=
        insert_of_notMem pair.2 fresh
      rw [List.map_cons, List.nodup_cons] at distinct
      rw [List.foldl_cons, induction distinct.2, inserted, List.append_assoc,
        List.singleton_append]
      rw [inserted, List.append_assoc]
      exact apart
  exact each ∅ distinct

theorem get_ofPairs {pairs : List (Key × Value)} (distinct : (pairs.map Prod.fst).Nodup)
    (member : (key, value) ∈ pairs) :
    (ofPairs pairs).get key = some value := by
  have isEntry := entries_ofPairs distinct
  apply get_of_mem
  · rw [Distinct, keys, isEntry]
    exact distinct
  · rw [isEntry]
    exact member

/-! ## Tests of keys -/

theorem get_keepKeys (dict : Dict Key Value) (test : Key → Bool) (key : Key) :
    (dict.keep fun entry => test entry.1).get key = if test key then dict.get key else none := by
  simp only [get, keep]
  induction dict.entries with
  | nil => exact (ite_self none).symm
  | cons entry _ induction =>
    rw [List.filter_cons]
    by_cases same : entry.1 = key
    · by_cases kept : test key = true
      · simp only [lookup, same, kept, if_true]
      · simp only [same, if_neg kept, induction]
    · by_cases kept : test entry.1 = true
      · simp only [lookup, kept, if_true, if_neg same, induction]
      · simp only [lookup, if_neg kept, if_neg same, induction]

theorem keepKeys_set (dict : Dict Key Value) {test : Key → Bool} (value : Value)
    (leftOut : test key = false) :
    ((dict.set key value).keep fun entry => test entry.1) =
      dict.keep fun entry => test entry.1 := by
  simp only [keep, set, mk.injEq]
  induction dict.entries with
  | nil => simp only [insert, List.filter_cons, leftOut, Bool.false_eq_true, if_false]
  | cons entry _ induction =>
    by_cases same : entry.1 = key
    · simp only [insert, same, if_true, List.filter_cons, leftOut, Bool.false_eq_true, if_false]
    · simp only [insert, if_neg same, List.filter_cons, induction]

end Dict

end VideoAnalysis.Foundation
