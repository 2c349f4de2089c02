import VideoAnalysis.Foundation.DictSize

/-! # A bounded cache that forgets what was used longest ago

An ordered dictionary with the weight of its values beside it. A key that is used moves to
the end; where the cache holds too many entries or too much weight, entries give way from
the front.
-/

namespace VideoAnalysis.Foundation

structure LruCache (Key Value : Type*) where
  entries : Dict Key Value := ∅
  weight : Int := 0

structure LruLimits (Value : Type*) where
  weigh : Value → Int
  maxEntries : Int
  maxWeight : Int

namespace Dict

variable {Key Value : Type*} [DecidableEq Key] {dict : Dict Key Value} {key : Key} {value : Value}

def moveToEnd (dict : Dict Key Value) (key : Key) : Dict Key Value :=
  match dict.get key with
  | none => dict
  | some value => ⟨(dict.erase key).entries ++ [(key, value)]⟩

theorem Distinct.perm_erase (distinct : dict.Distinct) (found : dict.get key = some value) :
    dict.entries.Perm ((key, value) :: (dict.erase key).entries) := by
  simp only [Distinct, keys] at distinct
  simp only [get] at found
  simp only [Dict.erase]
  revert distinct found
  induction dict.entries with
  | nil => simp [lookup]
  | cons entry rest induction =>
    intro distinct found
    rw [List.map_cons, List.nodup_cons] at distinct
    by_cases same : entry.1 = key
    · have others : rest.filter (fun entry => entry.1 ≠ key) = rest := by
        rw [List.filter_eq_self]
        intro other member
        have differs : other.1 ≠ key := by
          intro equal
          exact distinct.1 (same ▸ equal ▸ List.mem_map_of_mem (f := Prod.fst) member)
        simpa using differs
      rw [lookup, if_pos same, Option.some.injEq] at found
      rw [List.filter_cons_of_neg (by simp [same]), others, ← same, ← found]
    · rw [lookup, if_neg same] at found
      rw [List.filter_cons_of_pos (by simp [same])]
      exact ((induction distinct.2 found).cons entry).trans (List.Perm.swap _ _ _)

theorem erase_of_get_none (missing : dict.get key = none) : dict.erase key = dict := by
  have absent : key ∉ dict.keys := by
    intro member
    rcases exists_get_of_mem member with ⟨_, found⟩
    rw [missing] at found
    cases found
  have all : dict.entries.filter (fun entry => entry.1 ≠ key) = dict.entries := by
    rw [List.filter_eq_self]
    intro entry member
    have differs : entry.1 ≠ key := by
      intro same
      exact absent (same ▸ List.mem_map_of_mem (f := Prod.fst) member)
    simpa using differs
  rw [erase, all]

theorem notMem_keys_erase (dict : Dict Key Value) (key : Key) : key ∉ (dict.erase key).keys := by
  intro member
  rcases exists_get_of_mem member with ⟨_, found⟩
  rw [get_erase_self] at found
  cases found

theorem mem_keys_erase {other : Key} :
    other ∈ (dict.erase key).keys ↔ other ∈ dict.keys ∧ other ≠ key := by
  simp only [keys, erase, List.mem_map, List.mem_filter]
  constructor
  · rintro ⟨entry, ⟨member, differs⟩, rfl⟩
    exact ⟨⟨entry, member, rfl⟩, by simpa using differs⟩
  · rintro ⟨⟨entry, member, rfl⟩, differs⟩
    exact ⟨entry, ⟨member, by simpa using differs⟩, rfl⟩

theorem set_entries_of_notMem (missing : key ∉ dict.keys) :
    (dict.set key value).entries = dict.entries ++ [(key, value)] := by
  simp only [keys] at missing
  simp only [set]
  revert missing
  induction dict.entries with
  | nil => simp [insert]
  | cons _ _ induction =>
    intro missing
    rw [List.map_cons, List.mem_cons, not_or] at missing
    rw [insert, if_neg (Ne.symm missing.1), induction missing.2, List.cons_append]

theorem erase_set_of_notMem (missing : key ∉ dict.keys) :
    (dict.set key value).erase key = dict := by
  have kept := congrArg entries (erase_of_get_none (get_eq_none missing))
  simp only [erase] at kept
  rw [erase, set_entries_of_notMem missing, List.filter_append, kept]
  simp

end Dict

namespace LruCache

variable {Key Value : Type*} [DecidableEq Key] (limits : LruLimits Value)

def pop (cache : LruCache Key Value) (key : Key) : LruCache Key Value :=
  match cache.entries.get key with
  | none => cache
  | some value => ⟨cache.entries.erase key, cache.weight - limits.weigh value⟩

def popAll (cache : LruCache Key Value) (keys : List Key) : LruCache Key Value :=
  keys.foldl (pop limits) cache

def insertLast (cache : LruCache Key Value) (key : Key) (value : Value) : LruCache Key Value where
  entries := (cache.entries.set key value).moveToEnd key
  weight := cache.weight + limits.weigh value

def exceeded (count : Nat) (weight : Int) : Bool :=
  limits.maxEntries < count || limits.maxWeight < weight

/-- Entries give way from the front; it fails where none is left to give way. -/
def evictFrom : List (Key × Value) → Int → LruCache Key Value × Bool
  | [], weight => (⟨∅, weight⟩, !exceeded limits 0 weight)
  | entry :: rest, weight =>
    if exceeded limits (rest.length + 1) weight then
      evictFrom rest (weight - limits.weigh entry.2)
    else (⟨⟨entry :: rest⟩, weight⟩, true)

def put (cache : LruCache Key Value) (key : Key) (value : Value) : LruCache Key Value × Bool :=
  let inserted := insertLast limits (cache.pop limits key) key value
  evictFrom limits inserted.entries.entries inserted.weight

def use (cache : LruCache Key Value) (key : Key) : LruCache Key Value :=
  { cache with entries := cache.entries.moveToEnd key }

def total (entries : List (Key × Value)) : Int :=
  (entries.map fun entry => limits.weigh entry.2).sum

section Total

omit [DecidableEq Key]

@[simp] theorem total_nil : total limits ([] : List (Key × Value)) = 0 := rfl

@[simp] theorem total_cons (entry : Key × Value) (rest : List (Key × Value)) :
    total limits (entry :: rest) = limits.weigh entry.2 + total limits rest := by
  rw [total, List.map_cons, List.sum_cons, total]

@[simp] theorem total_append (first second : List (Key × Value)) :
    total limits (first ++ second) = total limits first + total limits second := by
  rw [total, List.map_append, List.sum_append, total, total]

variable {limits}

theorem total_perm {first second : List (Key × Value)} (perm : first.Perm second) :
    total limits first = total limits second :=
  (perm.map _).sum_eq

theorem total_sublist {first second : List (Key × Value)}
    (nonneg : ∀ entry ∈ second, 0 ≤ limits.weigh entry.2) (sublist : first.Sublist second) :
    total limits first ≤ total limits second := by
  induction sublist with
  | slnil => exact le_refl _
  | cons _ _ induction =>
    rw [List.forall_mem_cons] at nonneg
    have later := induction nonneg.2
    have weight := nonneg.1
    rw [total_cons]
    omega
  | cons_cons _ _ induction =>
    rw [List.forall_mem_cons] at nonneg
    have later := induction nonneg.2
    rw [total_cons, total_cons]
    omega

end Total

/-- No key twice, and the weight is that of the entries. -/
structure Balanced (limits : LruLimits Value) (cache : LruCache Key Value) : Prop where
  distinct : cache.entries.Distinct
  weight_eq : cache.weight = total limits cache.entries.entries

structure Within (limits : LruLimits Value) (cache : LruCache Key Value) : Prop where
  count_le : (cache.entries.size : Int) ≤ limits.maxEntries
  weight_le : cache.weight ≤ limits.maxWeight

variable {limits} {cache : LruCache Key Value} {key : Key} {value : Value}

omit [DecidableEq Key] in
theorem Balanced.empty : Balanced limits ({} : LruCache Key Value) where
  distinct := Dict.distinct_empty
  weight_eq := rfl

omit [DecidableEq Key] in
theorem Within.empty (entries : 0 ≤ limits.maxEntries) (weight : 0 ≤ limits.maxWeight) :
    Within limits ({} : LruCache Key Value) where
  count_le := entries
  weight_le := weight

/-! ## Keys that are taken out -/

theorem pop_entries (limits : LruLimits Value) (cache : LruCache Key Value) (key : Key) :
    (cache.pop limits key).entries = cache.entries.erase key := by
  unfold pop
  split
  next missing => exact (Dict.erase_of_get_none missing).symm
  next => rfl

theorem Balanced.pop (balanced : Balanced limits cache) (key : Key) :
    Balanced limits (cache.pop limits key) := by
  unfold LruCache.pop
  split
  · exact balanced
  next value found =>
    have split := @total_perm _ _ limits _ _ (balanced.distinct.perm_erase found)
    refine ⟨balanced.distinct.erase key, ?_⟩
    rw [balanced.weight_eq, split, total_cons]
    exact add_sub_cancel_left _ _

theorem Balanced.popAll (balanced : Balanced limits cache) (keys : List Key) :
    Balanced limits (cache.popAll limits keys) := by
  induction keys generalizing cache with
  | nil => exact balanced
  | cons key _ induction => exact induction (balanced.pop key)

theorem popAll_entries (limits : LruLimits Value) (cache : LruCache Key Value)
    (keys : List Key) :
    (cache.popAll limits keys).entries.entries =
      cache.entries.entries.filter fun entry => entry.1 ∉ keys := by
  induction keys generalizing cache with
  | nil => simp [LruCache.popAll]
  | cons key rest induction =>
    have first : cache.popAll limits (key :: rest) =
        (cache.pop limits key).popAll limits rest := rfl
    rw [first, induction, pop_entries, Dict.erase, List.filter_filter]
    apply List.filter_congr
    intro entry _
    simp [Bool.and_comm]

/-! ## Eviction -/

omit [DecidableEq Key] in
theorem evictFrom_spec (noEntries : 0 ≤ limits.maxEntries) (noWeight : 0 ≤ limits.maxWeight)
    (entries : List (Key × Value)) :
    ∃ evicted kept, entries = evicted ++ kept ∧
      evictFrom limits entries (total limits entries) = (⟨⟨kept⟩, total limits kept⟩, true) ∧
      Within limits (⟨⟨kept⟩, total limits kept⟩ : LruCache Key Value) := by
  induction entries with
  | nil =>
    have fits : exceeded limits 0 0 = false := by
      simp only [exceeded, Nat.cast_zero, Bool.or_eq_false_iff, decide_eq_false_iff_not]
      omega
    refine ⟨[], [], rfl, ?_, Within.empty noEntries noWeight⟩
    rw [evictFrom, total_nil, fits]
    rfl
  | cons entry rest induction =>
    by_cases tooMuch : exceeded limits (rest.length + 1) (total limits (entry :: rest)) = true
    · rcases induction with ⟨evicted, kept, same, evicts, within⟩
      refine ⟨entry :: evicted, kept, by rw [same, List.cons_append], ?_, within⟩
      have remaining : total limits (entry :: rest) - limits.weigh entry.2 =
          total limits rest := by
        rw [total_cons]
        exact add_sub_cancel_left _ _
      rw [evictFrom, if_pos tooMuch, remaining, evicts]
    · refine ⟨[], entry :: rest, rfl, ?_, ?_⟩
      · rw [evictFrom, if_neg tooMuch]
      · simp only [exceeded, Bool.or_eq_true, decide_eq_true_eq, not_or, not_lt] at tooMuch
        exact ⟨tooMuch.1, tooMuch.2⟩

theorem insertLast_pop_entries (limits : LruLimits Value) (cache : LruCache Key Value)
    (key : Key) (value : Value) :
    (insertLast limits (cache.pop limits key) key value).entries.entries =
      (cache.entries.erase key).entries ++ [(key, value)] := by
  have missing := Dict.notMem_keys_erase cache.entries key
  rw [insertLast, pop_entries, Dict.moveToEnd, Dict.get_set_self]
  simp only [Dict.erase_set_of_notMem missing]

theorem Balanced.put (balanced : Balanced limits cache) (noEntries : 0 ≤ limits.maxEntries)
    (noWeight : 0 ≤ limits.maxWeight) (key : Key) (value : Value) :
    ∃ evicted kept, (cache.entries.erase key).entries ++ [(key, value)] = evicted ++ kept ∧
      cache.put limits key value = (⟨⟨kept⟩, total limits kept⟩, true) ∧
      Within limits (⟨⟨kept⟩, total limits kept⟩ : LruCache Key Value) := by
  have popped := balanced.pop key
  have weight : (insertLast limits (cache.pop limits key) key value).weight =
      total limits ((cache.entries.erase key).entries ++ [(key, value)]) := by
    rw [insertLast, popped.weight_eq, pop_entries, total_append, total_cons, total_nil,
      Int.add_zero]
  rw [LruCache.put]
  simp only [insertLast_pop_entries, weight]
  exact evictFrom_spec noEntries noWeight _

theorem Balanced.use_of_found (balanced : Balanced limits cache)
    (found : cache.entries.get key = some value) :
    (cache.use key).entries.entries = (cache.entries.erase key).entries ++ [(key, value)] ∧
      (cache.use key).entries.entries.Perm cache.entries.entries ∧
      Balanced limits (cache.use key) := by
  have moved : (cache.use key).entries.entries =
      (cache.entries.erase key).entries ++ [(key, value)] := by
    rw [LruCache.use, Dict.moveToEnd, found]
  have perm : (cache.use key).entries.entries.Perm cache.entries.entries := by
    rw [moved]
    exact List.perm_append_comm.trans (balanced.distinct.perm_erase found).symm
  refine ⟨moved, perm, ?_, ?_⟩
  · exact (perm.map Prod.fst).nodup_iff.mpr balanced.distinct
  · rw [total_perm perm]
    exact balanced.weight_eq

/-! ## The order of use -/

def Ranked (rank : Key → Nat) (entries : List (Key × Value)) : Prop :=
  (entries.map Prod.fst).Pairwise fun earlier later => rank earlier < rank later

/-- The number of steps up to and with the last one that uses the key. -/
def lastUse (uses : List (Option Key)) (key : Key) : Nat :=
  uses.length - uses.reverse.findIdx fun used => used = some key

theorem lastUse_append (uses : List (Option Key)) (used : Option Key) (key : Key) :
    lastUse (uses ++ [used]) key =
      if used = some key then uses.length + 1 else lastUse uses key := by
  rw [lastUse, List.reverse_append, List.reverse_singleton, List.singleton_append,
    List.findIdx_cons, List.length_append, List.length_singleton]
  by_cases isUse : used = some key
  · simp [isUse]
  · simp [isUse, lastUse]

theorem lastUse_le (uses : List (Option Key)) (key : Key) : lastUse uses key ≤ uses.length :=
  Nat.sub_le _ _

theorem lastUse_append_none (uses : List (Option Key)) :
    lastUse (uses ++ [none]) = lastUse uses := by
  funext key
  rw [lastUse_append, if_neg (by simp)]

theorem Ranked.moved {uses : List (Option Key)}
    (ranked : Ranked (lastUse uses) cache.entries.entries) (key : Key) (value : Value) :
    Ranked (lastUse (uses ++ [some key])) ((cache.entries.erase key).entries ++ [(key, value)]) := by
  have apart : ∀ other ∈ (cache.entries.erase key).keys,
      lastUse (uses ++ [some key]) other = lastUse uses other := by
    intro other member
    have differs : some key ≠ some other := by
      intro same
      exact (Dict.mem_keys_erase.mp member).2 (Option.some.inj same).symm
    rw [lastUse_append, if_neg differs]
  have front : ((cache.entries.erase key).keys).Pairwise
      fun earlier late => lastUse uses earlier < lastUse uses late :=
    ranked.sublist (List.filter_sublist.map Prod.fst)
  rw [Ranked, List.map_append, List.pairwise_append]
  refine ⟨?_, List.pairwise_singleton _ _, ?_⟩
  · apply front.imp_of_mem
    intro earlier late isEarlier isLate before
    rw [apart earlier isEarlier, apart late isLate]
    exact before
  · intro other member last isLast
    rw [List.map_singleton, List.mem_singleton] at isLast
    rw [isLast, apart other member, lastUse_append, if_pos rfl]
    exact Nat.lt_succ_of_le (lastUse_le uses other)

omit [DecidableEq Key] in
theorem Ranked.split {rank : Key → Nat} {evicted kept : List (Key × Value)}
    (ranked : Ranked rank (evicted ++ kept)) :
    Ranked rank kept ∧ ∀ early ∈ evicted.map Prod.fst, ∀ late ∈ kept.map Prod.fst,
      rank early < rank late := by
  rw [Ranked, List.map_append, List.pairwise_append] at ranked
  exact ranked.2

end LruCache

end VideoAnalysis.Foundation
