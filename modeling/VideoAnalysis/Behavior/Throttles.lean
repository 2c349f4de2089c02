import VideoAnalysis.Behavior.Runtime
import VideoAnalysis.Foundation.DictSize
import VideoAnalysis.Foundation.FieldText

/-! # Export throttles

Persons and faces of a track are exported at most once per interval. The person
throttle keeps every key it has exported; the face throttle forgets keys that
have not been exported for a while.
-/

namespace VideoAnalysis.Behavior

open VideoAnalysis.Foundation

variable {Body : Type}

/-! ## Persons -/

/-- The interval is at least zero. -/
structure PersonObservationThrottleMap where
  minIntervalMs : Nat := 1000
  lastExported : Dict String Nat := ∅

namespace PersonObservationThrottleMap

def isAllowed (throttle : PersonObservationThrottleMap) (throttleKey : String)
    (timestampMs : Nat) : Bool :=
  if throttle.minIntervalMs = 0 then true
  else match throttle.lastExported.get throttleKey with
    | none => true
    | some last => (throttle.minIntervalMs : Int) ≤ (timestampMs : Int) - last

def record (throttle : PersonObservationThrottleMap) (throttleKey : String) (timestampMs : Nat) :
    PersonObservationThrottleMap :=
  { throttle with lastExported := throttle.lastExported.set throttleKey timestampMs }

end PersonObservationThrottleMap

/-- An observation without a valid track is known by its place in the frame. -/
def personThrottleKey (index : Nat) (observation : Observation Body) : String :=
  let trackPart :=
    if isValidTrackId observation.trackId then toString observation.trackId
    else s!"no_track:{index}"
  s!"{observation.cameraId}:{trackPart}"

def personThrottleKeys (index : Nat) : List (Observation Body) → List String
  | [] => []
  | observation :: rest =>
    personThrottleKey index observation :: personThrottleKeys (index + 1) rest

namespace PersonObservationThrottleMap

/-- `_export_person_observations`. -/
def exportPersons (throttle : PersonObservationThrottleMap) (index : Nat) :
    List (Observation Body) → PersonObservationThrottleMap
  | [] => throttle
  | observation :: rest =>
    let throttleKey := personThrottleKey index observation
    let next :=
      if throttle.isAllowed throttleKey observation.timestampMs then
        throttle.record throttleKey observation.timestampMs
      else throttle
    next.exportPersons (index + 1) rest

theorem exportPersons_distinct {throttle : PersonObservationThrottleMap}
    (distinct : throttle.lastExported.Distinct) (index : Nat)
    (observations : List (Observation Body)) :
    (throttle.exportPersons index observations).lastExported.Distinct := by
  induction observations generalizing throttle index with
  | nil => exact distinct
  | cons _ _ induction =>
    apply induction
    split
    · exact distinct.set _ _
    · exact distinct

theorem exportPersons_domain (throttle : PersonObservationThrottleMap) (index : Nat)
    (observations : List (Observation Body)) :
    (throttle.exportPersons index observations).lastExported.domain =
      throttle.lastExported.domain ∪ (personThrottleKeys index observations).toFinset := by
  induction observations generalizing throttle index with
  | nil => simp [exportPersons, personThrottleKeys]
  | cons observation _ induction =>
    rw [exportPersons, induction, personThrottleKeys, List.toFinset_cons]
    ext key
    simp only [Finset.mem_union, Finset.mem_insert, Dict.mem_domain]
    split
    · simp only [record, Dict.get_set]
      by_cases same : key = personThrottleKey index observation
      all_goals simp [same]
    · next blocked =>
        have known : ∃ value, throttle.lastExported.get
            (personThrottleKey index observation) = some value := by
          unfold isAllowed at blocked
          split at blocked
          · exact absurd rfl blocked
          · split at blocked
            · exact absurd rfl blocked
            · next last found => exact ⟨last, found⟩
        by_cases same : key = personThrottleKey index observation
        · subst same
          simp [known]
        · simp [same]

end PersonObservationThrottleMap

/-! ## Faces -/

structure ReIDThrottleMap where
  minIntervalMs : Nat
  stateTtlMs : Nat
  lastAllowed : Dict String (Dict String Nat) := ∅
  lastPruneMs : Dict String Nat := ∅

namespace ReIDThrottleMap

def create (minIntervalMs stateTtlMs : Int) : ReIDThrottleMap where
  minIntervalMs := minIntervalMs.toNat
  stateTtlMs := max (max stateTtlMs.toNat minIntervalMs.toNat) 1

def trackedCount (throttle : ReIDThrottleMap) : Nat :=
  (throttle.lastAllowed.values.map Dict.size).sum

def scope (throttleKey : String) : String :=
  match throttleKey.toList.reverse.dropWhile (· ≠ ':') with
  | [] => ""
  | _ :: head => String.ofList head.reverse

def maybePrune (throttle : ReIDThrottleMap) (scope : String) (timestampMs : Nat) :
    ReIDThrottleMap :=
  match throttle.lastPruneMs.get scope with
  | none => { throttle with lastPruneMs := throttle.lastPruneMs.set scope timestampMs }
  | some last =>
    if ((timestampMs : Int) - last).natAbs < throttle.stateTtlMs then throttle
    else
      let pruned :=
        { throttle with lastPruneMs := throttle.lastPruneMs.set scope timestampMs }
      match throttle.lastAllowed.get scope with
      | none => pruned
      | some keys =>
        let kept := keys.keep fun entry =>
          ((timestampMs : Int) - entry.2).natAbs ≤ throttle.stateTtlMs
        if keys.entries.isEmpty then pruned
        else if kept.entries.isEmpty then
          { pruned with lastAllowed := throttle.lastAllowed.erase scope }
        else { pruned with lastAllowed := throttle.lastAllowed.set scope kept }

def keysOf (throttle : ReIDThrottleMap) (scope : String) : Dict String Nat :=
  (throttle.lastAllowed.get scope).getD ∅

/-- `ReIDThrottleMap.is_allowed`. -/
def isAllowedReID (throttle : ReIDThrottleMap) (throttleKey : String) (timestampMs : Nat) :
    ReIDThrottleMap × Bool :=
  let throttle := throttle.maybePrune (scope throttleKey) timestampMs
  match (throttle.keysOf (scope throttleKey)).get throttleKey with
  | none => (throttle, true)
  | some last => (throttle, (throttle.minIntervalMs : Int) ≤ (timestampMs : Int) - last)

/-- `ExportThrottleMap.is_allowed`. -/
def isAllowed (throttle : ReIDThrottleMap) (throttleKey : String) (timestampMs : Nat) :
    ReIDThrottleMap × Bool :=
  if throttle.minIntervalMs = 0 then (throttle, true)
  else throttle.isAllowedReID throttleKey timestampMs

def record (throttle : ReIDThrottleMap) (throttleKey : String) (timestampMs : Nat) :
    ReIDThrottleMap :=
  let throttle := throttle.maybePrune (scope throttleKey) timestampMs
  { throttle with
    lastAllowed :=
      throttle.lastAllowed.set (scope throttleKey)
        ((throttle.keysOf (scope throttleKey)).set throttleKey timestampMs) }

end ReIDThrottleMap

/-- A face that the gate has let through; `builds` tells whether its observation
can be built. -/
structure Face where
  trackId : Int
  builds : Bool

def faceThrottleKey (cameraId sourceId : String) (trackId : Int) : String :=
  s!"{cameraId}:{sourceId}:{trackId}"

def ReIDThrottleMap.exportFace (cameraId sourceId : String) (timestampMs : Nat)
    (throttle : ReIDThrottleMap) (face : Face) : ReIDThrottleMap :=
  if face.trackId ≤ 0 then throttle
  else
    let throttleKey := faceThrottleKey cameraId sourceId face.trackId
    let (throttle, allowed) := throttle.isAllowed throttleKey timestampMs
    if allowed && face.builds then throttle.record throttleKey timestampMs else throttle

namespace ReIDThrottleMap

theorem scope_append (head : String) {tail : String} (absent : NoColon tail) :
    scope (head ++ ":" ++ tail) = head := by
  have colon : ":".toList = [':'] := by decide
  have reversed : (head ++ ":" ++ tail).toList.reverse =
      tail.toList.reverse ++ ':' :: head.toList.reverse := by
    simp only [String.toList_append, colon, List.reverse_append, List.reverse_cons,
      List.reverse_nil, List.nil_append, List.singleton_append]
  have dropped : (head ++ ":" ++ tail).toList.reverse.dropWhile (· ≠ ':') =
      ':' :: head.toList.reverse := by
    rw [reversed, List.dropWhile_append_of_pos]
    · simp
    · intro char member
      have different : char ≠ ':' := fun same => absent (same ▸ List.mem_reverse.mp member)
      simpa using different
  simp only [scope, dropped, List.reverse_reverse]
  exact String.ofList_toList

theorem scope_faceThrottleKey (cameraId sourceId : String) (trackId : Int) :
    scope (faceThrottleKey cameraId sourceId trackId) = s!"{cameraId}:{sourceId}" :=
  scope_append s!"{cameraId}:{sourceId}" (intText_noColon trackId)

/-! ## What the face throttle remembers -/

/-- One scope is in use, and its entries are exports around its last pruning. -/
structure Recent (throttle : ReIDThrottleMap) (name : String) (nowMs : Nat)
    (exported : String → Nat → Prop) : Prop where
  scopes : throttle.lastAllowed.Distinct ∧
    ∀ other keys, throttle.lastAllowed.get other = some keys → other = name
  prunes : throttle.lastPruneMs.Distinct ∧
    ∀ other last, throttle.lastPruneMs.get other = some last → other = name ∧ last ≤ nowMs
  distinct : (throttle.keysOf name).Distinct
  entries : ∀ key seen, (throttle.keysOf name).get key = some seen →
    exported key seen ∧ seen ≤ nowMs ∧ ∃ last, throttle.lastPruneMs.get name = some last ∧
      last ≤ seen + throttle.stateTtlMs ∧ seen < last + throttle.stateTtlMs

variable {throttle : ReIDThrottleMap} {name : String} {nowMs timestampMs : Nat}
  {exported : String → Nat → Prop}

theorem recent_create (minIntervalMs stateTtlMs : Int) (name : String) (nowMs : Nat)
    (exported : String → Nat → Prop) :
    (create minIntervalMs stateTtlMs).Recent name nowMs exported := by
  refine ⟨⟨List.nodup_nil, ?_⟩, ⟨List.nodup_nil, ?_⟩, List.nodup_nil, ?_⟩
  · intro other keys found
    exact absurd found (by simp [create])
  · intro other last found
    exact absurd found (by simp [create])
  · intro key seen found
    exact absurd found (by simp [create, keysOf])

theorem Recent.mono {later : String → Nat → Prop} {laterMs : Nat}
    (recent : throttle.Recent name nowMs exported) (le : nowMs ≤ laterMs)
    (more : ∀ key seen, exported key seen → later key seen) :
    throttle.Recent name laterMs later := by
  refine ⟨recent.scopes, ⟨recent.prunes.1, ?_⟩, recent.distinct, ?_⟩
  · intro other last found
    have old := recent.prunes.2 other last found
    exact ⟨old.1, old.2.trans le⟩
  · intro key seen found
    have old := recent.entries key seen found
    exact ⟨more key seen old.1, old.2.1.trans le, old.2.2⟩

section

variable (recent : throttle.Recent name nowMs exported) (positive : 0 < throttle.stateTtlMs)
  (later : nowMs ≤ timestampMs)

include recent positive later

theorem Recent.maybePrune :
    (throttle.maybePrune name timestampMs).stateTtlMs = throttle.stateTtlMs ∧
      (throttle.maybePrune name timestampMs).Recent name timestampMs exported ∧
      ∃ last, (throttle.maybePrune name timestampMs).lastPruneMs.get name = some last ∧
        timestampMs < last + throttle.stateTtlMs := by
  have moved := recent.mono later fun _ _ => id
  have set_prunes : (throttle.lastPruneMs.set name timestampMs).Distinct ∧
      ∀ other last, (throttle.lastPruneMs.set name timestampMs).get other = some last →
        other = name ∧ last ≤ timestampMs := by
    refine ⟨recent.prunes.1.set _ _, ?_⟩
    intro other last found
    rw [Dict.get_set] at found
    split at found
    · next same =>
        rw [Option.some.injEq] at found
        exact ⟨same, found.symm.le⟩
    · exact moved.prunes.2 other last found
  unfold ReIDThrottleMap.maybePrune
  cases pruned : throttle.lastPruneMs.get name with
  | none =>
    have empty : ∀ key seen, (throttle.keysOf name).get key ≠ some seen := by
      intro key seen found
      rcases (recent.entries key seen found).2.2 with ⟨_, isLast, _⟩
      rw [pruned] at isLast
      exact absurd isLast (by simp)
    refine ⟨rfl, ⟨recent.scopes, set_prunes, recent.distinct, ?_⟩, timestampMs,
      Dict.get_set_self _ _ _, by omega⟩
    intro key seen found
    exact absurd found (empty key seen)
  | some last =>
    simp only
    by_cases young : ((timestampMs : Int) - last).natAbs < throttle.stateTtlMs
    · rw [if_pos young]
      refine ⟨rfl, moved, last, pruned, ?_⟩
      omega
    · rw [if_neg young]
      have lifetime : timestampMs < timestampMs + throttle.stateTtlMs := by omega
      cases allowed : throttle.lastAllowed.get name with
      | none =>
        refine ⟨rfl, ⟨recent.scopes, set_prunes, recent.distinct, ?_⟩, timestampMs,
          Dict.get_set_self _ _ _, lifetime⟩
        intro key seen found
        exact absurd found (by simp [keysOf, allowed])
      | some keys =>
        have isKeys : throttle.keysOf name = keys := by simp [keysOf, allowed]
        have distinct := recent.distinct
        rw [isKeys] at distinct
        by_cases empty : keys.entries.isEmpty
        · simp only [empty, if_true]
          refine ⟨trivial, ⟨recent.scopes, set_prunes, recent.distinct, ?_⟩, timestampMs,
            Dict.get_set_self _ _ _, lifetime⟩
          intro key seen found
          have member := Dict.mem_of_get found
          simp only [keysOf, allowed, Option.getD_some, List.isEmpty_iff.mp empty] at member
          exact absurd member List.not_mem_nil
        · simp only [empty, Bool.false_eq_true, if_false]
          split
          · refine ⟨rfl, ⟨⟨recent.scopes.1.erase name, ?_⟩, set_prunes, ?_, ?_⟩,
              timestampMs, Dict.get_set_self _ _ _, lifetime⟩
            · intro other otherKeys found
              rw [Dict.get_erase] at found
              split at found
              · exact absurd found (by simp)
              · exact recent.scopes.2 other otherKeys found
            · simp only [keysOf, Dict.get_erase_self, Option.getD_none]
              exact Dict.distinct_empty
            · intro key seen found
              exact absurd found (by simp [keysOf])
          · refine ⟨rfl, ⟨⟨recent.scopes.1.set name _, ?_⟩, set_prunes, ?_, ?_⟩,
              timestampMs, Dict.get_set_self _ _ _, lifetime⟩
            · intro other otherKeys found
              rw [Dict.get_set] at found
              split at found
              · next same => exact same
              · exact recent.scopes.2 other otherKeys found
            · simp only [keysOf, Dict.get_set_self, Option.getD_some]
              exact distinct.keep _
            · intro key seen found
              simp only [keysOf, Dict.get_set_self, Option.getD_some,
                Dict.get_keep distinct, Option.filter_eq_some_iff, decide_eq_true_eq]
                at found
              have old := moved.entries key seen (by rw [isKeys]; exact found.1)
              refine ⟨old.1, old.2.1, timestampMs, Dict.get_set_self _ _ _, ?_, ?_⟩
              · have young := found.2
                have past := old.2.1
                change timestampMs ≤ seen + throttle.stateTtlMs
                omega
              · have past := old.2.1
                change seen < timestampMs + throttle.stateTtlMs
                omega

theorem Recent.record {throttleKey : String} (inScope : scope throttleKey = name)
    (isExported : exported throttleKey timestampMs) :
    (throttle.record throttleKey timestampMs).stateTtlMs = throttle.stateTtlMs ∧
      (throttle.record throttleKey timestampMs).Recent name timestampMs exported := by
  rcases recent.maybePrune positive later with ⟨sameTtl, pruned, last, isLast, lifetime⟩
  have upTo := pruned.prunes.2 name last isLast
  unfold ReIDThrottleMap.record
  rw [inScope]
  refine ⟨sameTtl, ⟨pruned.scopes.1.set _ _, ?_⟩, pruned.prunes, ?_, ?_⟩
  · intro other keys found
    rw [Dict.get_set] at found
    split at found
    · next same => exact same
    · exact pruned.scopes.2 other keys found
  · simp only [keysOf, Dict.get_set_self, Option.getD_some]
    exact pruned.distinct.set _ _
  · intro key seen found
    simp only [keysOf, Dict.get_set_self, Option.getD_some, Dict.get_set] at found
    split at found
    · next same =>
        rw [Option.some.injEq] at found
        subst same found
        refine ⟨isExported, Nat.le_refl _, last, isLast, ?_, ?_⟩
        · omega
        · rw [sameTtl]
          exact lifetime
    · exact pruned.entries key seen found

theorem Recent.isAllowed {throttleKey : String} (inScope : scope throttleKey = name) :
    (throttle.isAllowed throttleKey timestampMs).1.stateTtlMs = throttle.stateTtlMs ∧
      (throttle.isAllowed throttleKey timestampMs).1.Recent name timestampMs exported := by
  unfold ReIDThrottleMap.isAllowed
  split
  · exact ⟨rfl, recent.mono later fun _ _ => id⟩
  · rcases recent.maybePrune positive later with ⟨sameTtl, pruned, _⟩
    simp only [isAllowedReID, inScope]
    split
    all_goals exact ⟨sameTtl, pruned⟩

end

section

variable {cameraId sourceId : String}
  (recent : throttle.Recent s!"{cameraId}:{sourceId}" nowMs exported)
  (positive : 0 < throttle.stateTtlMs) (later : nowMs ≤ timestampMs)

include cameraId sourceId recent positive later

/-- The step lemma of the face throttle. -/
theorem Recent.exportFace {face : Face}
    (isExported : 0 < face.trackId →
      exported (faceThrottleKey cameraId sourceId face.trackId) timestampMs) :
    (throttle.exportFace cameraId sourceId timestampMs face).stateTtlMs = throttle.stateTtlMs ∧
      (throttle.exportFace cameraId sourceId timestampMs face).Recent
        s!"{cameraId}:{sourceId}" timestampMs exported := by
  have inScope := scope_faceThrottleKey cameraId sourceId face.trackId
  unfold ReIDThrottleMap.exportFace
  split
  · exact ⟨rfl, recent.mono later fun _ _ => id⟩
  · next tracked =>
      rcases recent.isAllowed positive later inScope with ⟨sameTtl, allowed⟩
      simp only
      split
      · have recorded := allowed.record (sameTtl ▸ positive) (Nat.le_refl _) inScope
          (isExported (by omega))
        exact ⟨recorded.1.trans sameTtl, recorded.2⟩
      · exact ⟨sameTtl, allowed⟩

theorem Recent.exportFaces (faces : List Face)
    (isExported : ∀ face ∈ faces, 0 < face.trackId →
      exported (faceThrottleKey cameraId sourceId face.trackId) timestampMs) :
    (faces.foldl (ReIDThrottleMap.exportFace cameraId sourceId timestampMs) throttle).stateTtlMs =
        throttle.stateTtlMs ∧
      (faces.foldl (ReIDThrottleMap.exportFace cameraId sourceId timestampMs) throttle).Recent
        s!"{cameraId}:{sourceId}" timestampMs exported := by
  induction faces generalizing throttle nowMs with
  | nil => exact ⟨rfl, recent.mono later fun _ _ => id⟩
  | cons face _ induction =>
    rcases recent.exportFace positive later (isExported face List.mem_cons_self) with
      ⟨sameTtl, next⟩
    rcases induction next (sameTtl ▸ positive) (Nat.le_refl _)
      fun other member => isExported other (List.mem_cons_of_mem _ member) with
      ⟨restTtl, final⟩
    exact ⟨restTtl.trans sameTtl, final⟩

end

theorem Recent.trackedCount_le (recent : throttle.Recent name nowMs exported) {perTime : Nat}
    (few : ∀ moment, ∃ keys : Finset String, keys.card ≤ perTime ∧
      ∀ key, exported key moment → key ∈ keys) :
    throttle.trackedCount ≤ perTime * (2 * throttle.stateTtlMs) ∧
      throttle.lastPruneMs.size ≤ 1 := by
  constructor
  · have inName : throttle.trackedCount ≤ (throttle.keysOf name).size := by
      have single : throttle.lastAllowed.keys ⊆ [name] := by
        intro other member
        rcases Dict.exists_get_of_mem member with ⟨keys, found⟩
        exact List.mem_singleton.mpr (recent.scopes.2 other keys found)
      have short := (recent.scopes.1.subperm single).length_le
      rw [Dict.keys, List.length_map, List.length_singleton] at short
      unfold trackedCount Dict.values keysOf
      cases entries : throttle.lastAllowed.entries with
      | nil => exact Nat.zero_le _
      | cons entry rest =>
        rw [entries, List.length_cons] at short
        have alone : rest = [] := List.length_eq_zero_iff.mp (by omega)
        have found : throttle.lastAllowed.get entry.1 = some entry.2 :=
          Dict.get_of_mem recent.scopes.1 (by rw [entries]; exact List.mem_cons_self)
        rw [← recent.scopes.2 entry.1 entry.2 found, found, alone]
        simp
    apply inName.trans
    cases pruned : throttle.lastPruneMs.get name with
    | none =>
      have empty : (throttle.keysOf name).size ≤ (∅ : Finset String).card := by
        apply Dict.size_le_of_domain recent.distinct _
        intro key seen found
        rcases (recent.entries key seen found).2.2 with ⟨_, isLast, _⟩
        rw [pruned] at isLast
        exact absurd isLast (by simp)
      exact empty.trans (Nat.zero_le _)
    | some last =>
      have bound := Dict.size_le_of_times recent.distinct (fun seen => (seen : Int))
        ((last : Int) - throttle.stateTtlMs) ((last : Int) + throttle.stateTtlMs - 1)
        perTime ?_ ?_
      · have width : ((last : Int) + throttle.stateTtlMs - 1 + 1 -
            ((last : Int) - throttle.stateTtlMs)).toNat = 2 * throttle.stateTtlMs := by
          omega
        rw [width] at bound
        exact bound
      · intro key seen found
        rcases (recent.entries key seen found).2.2 with ⟨_, isLast, _⟩
        rw [pruned, Option.some.injEq] at isLast
        omega
      · intro moment
        rcases few moment.toNat with ⟨keys, small, covers⟩
        refine ⟨keys, small, ?_⟩
        intro key seen found same
        apply covers
        have isExported := (recent.entries key seen found).1
        rw [← same]
        exact isExported
  · apply (Dict.size_le_of_domain recent.prunes.1 {name} _).trans
    · simp
    · intro other last found
      rw [Finset.mem_singleton]
      exact (recent.prunes.2 other last found).1

end ReIDThrottleMap

end VideoAnalysis.Behavior
