import VideoAnalysis.Foundation.Dict

/-! # Dictionaries of dictionaries

Entries are kept under a scope and a key of their own. What is no longer wanted is dropped scope
by scope, and a scope without entries goes with its last one.
-/

namespace VideoAnalysis.Foundation

abbrev ScopedDict (Scope Key Value : Type) [DecidableEq Scope] [DecidableEq Key] : Type :=
  Dict Scope (Dict Key Value)

namespace ScopedDict

variable {Scope Key Value : Type} [DecidableEq Scope] [DecidableEq Key]

def keysOf (dict : ScopedDict Scope Key Value) (scope : Scope) : Dict Key Value :=
  (dict.get scope).getD ∅

def find (dict : ScopedDict Scope Key Value) (scope : Scope) (key : Key) : Option Value :=
  (dict.keysOf scope).get key

def put (dict : ScopedDict Scope Key Value) (scope : Scope) (key : Key) (value : Value) :
    ScopedDict Scope Key Value :=
  dict.set scope ((dict.keysOf scope).set key value)

def prune (dict : ScopedDict Scope Key Value) (scope : Scope) (wanted : Value → Bool) :
    ScopedDict Scope Key Value :=
  match dict.get scope with
  | none => dict
  | some keys =>
    let kept := keys.keep fun entry => wanted entry.2
    if keys.entries.isEmpty then dict
    else if kept.entries.isEmpty then dict.erase scope
    else dict.set scope kept

def Once (dict : ScopedDict Scope Key Value) : Prop := ∀ scope, (dict.keysOf scope).Distinct

variable {dict : ScopedDict Scope Key Value} {scope other : Scope} {key otherKey : Key}

theorem once_empty : Once (∅ : ScopedDict Scope Key Value) := fun _ => List.nodup_nil

theorem keysOf_set (keys : Dict Key Value) :
    keysOf (dict.set scope keys) other = if other = scope then keys else keysOf dict other := by
  rw [keysOf, Dict.get_set]
  split
  · rfl
  · rfl

theorem find_put (value : Value) :
    find (put dict scope key value) other otherKey =
      if other = scope ∧ otherKey = key then some value else find dict other otherKey := by
  rw [find, put, keysOf_set]
  by_cases here : other = scope
  · rw [if_pos here, Dict.get_set, here]
    by_cases same : otherKey = key
    · rw [if_pos same, if_pos ⟨rfl, same⟩]
    · rw [if_neg same, if_neg (fun both => same both.2)]
      rfl
  · rw [if_neg here, if_neg (fun both => here both.1)]
    rfl

theorem Once.put (once : Once dict) (value : Value) : Once (put dict scope key value) := by
  intro other
  rw [ScopedDict.put, keysOf_set]
  split
  · exact (once scope).set key value
  · exact once other

theorem keysOf_prune (wanted : Value → Bool) :
    keysOf (prune dict scope wanted) other =
      if other = scope then (keysOf dict scope).keep fun entry => wanted entry.2
      else keysOf dict other := by
  cases known : dict.get scope with
  | none =>
    have empty : keysOf dict scope = ∅ := by rw [keysOf, known]; rfl
    have same : prune dict scope wanted = dict := by rw [prune, known]
    rw [same]
    split
    next here =>
      rw [here, empty]
      rfl
    next => rfl
  | some keys =>
    have isKeys : keysOf dict scope = keys := by rw [keysOf, known]; rfl
    rw [prune, known, isKeys]
    dsimp only
    split
    next empty =>
      split
      next here =>
        have noEntries := List.isEmpty_iff.mp empty
        rw [here, isKeys, Dict.keep, noEntries]
        cases keys
        exact congrArg Dict.mk noEntries
      next => rfl
    next =>
      split
      next dropped =>
        have noneKept := List.isEmpty_iff.mp dropped
        split
        next here =>
          rw [keysOf, here, Dict.get_erase_self]
          exact congrArg Dict.mk noneKept.symm
        next elsewhere => rw [keysOf, Dict.get_erase_of_ne _ elsewhere, keysOf]
      next => exact keysOf_set _

theorem find_prune (once : Once dict) (wanted : Value → Bool) :
    find (prune dict scope wanted) other otherKey =
      if other = scope then (find dict other otherKey).filter wanted
      else find dict other otherKey := by
  rw [find, keysOf_prune]
  split
  next here =>
    rw [Dict.get_keep (once scope), here]
    rfl
  next => rfl

theorem Once.prune (once : Once dict) (wanted : Value → Bool) :
    Once (prune dict scope wanted) := by
  intro other
  rw [keysOf_prune]
  split
  · exact (once scope).keep _
  · exact once other

end ScopedDict

end VideoAnalysis.Foundation
