import VideoAnalysis.RollingCache.CatalogMap
import Mathlib.Algebra.BigOperators.Group.List.Basic
import Mathlib.Algebra.Ring.Int.Defs
import Mathlib.Data.List.Nodup

/-! # When the counters of the segment index follow its catalogs

The counters are those of the catalogs in the map and of the one that is taken out but
not counted off yet. A publication adds what it changes, whether the catalog is still
counted or not.
-/

namespace VideoAnalysis.RollingCache

open Foundation

/-- The three numbers that are counted of a catalog. -/
inductive Measure where
  | entries
  | pending
  | generation

def CatalogSizes.get (sizes : CatalogSizes) : Measure → Int
  | .entries => sizes.entries
  | .pending => sizes.pending
  | .generation => sizes.generation

@[simp] theorem CatalogSizes.get_add (first second : CatalogSizes) (measure : Measure) :
    (first + second).get measure = first.get measure + second.get measure := by
  cases measure <;> rfl

@[simp] theorem CatalogSizes.get_sub (first second : CatalogSizes) (measure : Measure) :
    (first - second).get measure = first.get measure - second.get measure := by
  cases measure <;> rfl

@[simp] theorem CatalogSizes.get_empty (measure : Measure) :
    ({} : CatalogSizes).get measure = 0 := by
  cases measure <;> rfl

def weigh (measure : Measure) (catalogs : Nat → SharedCatalog) (map : List (CatalogKey × Nat)) :
    Int :=
  (map.map fun entry => (catalogs entry.2).sizes.get measure).sum

section Weigh

variable {measure : Measure} {catalogs : Nat → SharedCatalog} {map : List (CatalogKey × Nat)}

theorem weigh_cons (entry : CatalogKey × Nat) :
    weigh measure catalogs (entry :: map) =
      (catalogs entry.2).sizes.get measure + weigh measure catalogs map := by
  simp [weigh]

theorem weigh_concat (entry : CatalogKey × Nat) :
    weigh measure catalogs (map ++ [entry]) =
      weigh measure catalogs map + (catalogs entry.2).sizes.get measure := by
  simp [weigh]

theorem weigh_congr {others : Nat → SharedCatalog}
    (same : ∀ entry ∈ map, (others entry.2).sizes = (catalogs entry.2).sizes) :
    weigh measure others map = weigh measure catalogs map := by
  unfold weigh
  rw [List.map_congr_left]
  intro entry member
  rw [same entry member]

theorem weigh_perm {others : List (CatalogKey × Nat)} (same : map.Perm others) :
    weigh measure catalogs map = weigh measure catalogs others :=
  (same.map _).sum_eq

theorem weigh_update_of_not_mem {index : Nat} (catalog : SharedCatalog)
    (other : index ∉ map.map Prod.snd) :
    weigh measure (Function.update catalogs index catalog) map = weigh measure catalogs map := by
  apply weigh_congr
  intro entry member
  have different : entry.2 ≠ index := by
    rintro rfl
    exact other (List.mem_map_of_mem (f := Prod.snd) member)
  rw [Function.update_of_ne different]

theorem weigh_update_of_mem {index : Nat} (catalog : SharedCatalog)
    (distinct : (map.map Prod.snd).Nodup) (member : index ∈ map.map Prod.snd) :
    weigh measure (Function.update catalogs index catalog) map =
      weigh measure catalogs map +
        (catalog.sizes.get measure - (catalogs index).sizes.get measure) := by
  induction map with
  | nil => cases member
  | cons entry rest induction =>
    rw [List.map_cons, List.nodup_cons] at distinct
    rw [weigh_cons, weigh_cons]
    by_cases same : entry.2 = index
    · subst same
      rw [Function.update_self, weigh_update_of_not_mem catalog distinct.1]
      omega
    · have later : index ∈ rest.map Prod.snd := by
        rcases List.mem_cons.mp member with isHead | inRest
        · exact absurd isHead.symm same
        · exact inRest
      rw [Function.update_of_ne same, induction distinct.2 later]
      omega

end Weigh

namespace IndexState

/-- Nothing is in progress. -/
def Quiescent (state : IndexState) : Prop := ∀ thread, state.stages thread = .idle

/-- The counters are those of the catalogs in the map. -/
structure CountersExact (state : IndexState) : Prop where
  catalogs : state.catalogCount = state.map.length
  entries : state.counted.entries =
    (state.map.map fun entry => (state.catalogs entry.2).sizes.entries).sum
  pending : state.counted.pending =
    (state.map.map fun entry => (state.catalogs entry.2).sizes.pending).sum
  generation : state.counted.generation =
    (state.map.map fun entry => (state.catalogs entry.2).sizes.generation).sum

/-- A key has one catalog, no more catalogs than the bound are left once the map lock is
free, and the catalog that a lookup has made is not one that its evictions take. -/
structure Capped (bound : Nat) (state : IndexState) : Prop where
  distinct : (state.map.map Prod.fst).Nodup
  unlocked : state.mapLock = none → state.map.length ≤ bound
  keeps : ∀ thread called index, state.mapLock = some thread →
    state.stages thread = .evict called index → (called.key, index) ∈ state.map.getLast?

def victimWeight (state : IndexState) (measure : Measure) : Int :=
  match state.victim with
  | .none => 0
  | .popped index => (state.catalogs index).sizes.get measure
  | .read _ sizes => sizes.get measure

def victimCount (state : IndexState) : Int :=
  match state.victim with
  | .none => 0
  | .popped _ | .read _ _ => 1

structure Balanced (state : IndexState) : Prop where
  distinct : (state.map.map Prod.snd).Nodup
  created : ∀ index ∈ state.map.map Prod.snd, index < state.created
  popped : ∀ index, state.victim = .popped index →
    index < state.created ∧ index ∉ state.map.map Prod.snd
  locked : ∀ thread, state.mapLock = some thread →
    ∃ called catalog, state.stages thread = .evict called catalog
  unlocked : state.mapLock = none → state.victim = .none
  count : state.catalogCount = state.map.length + state.victimCount
  sums : ∀ measure, state.counted.get measure =
    weigh measure state.catalogs state.map + state.victimWeight measure

/-- A publication reaches a catalog that is still counted, or changes no number. -/
def PublishesCounted (state : IndexState) : IndexLabel → Prop
  | .publish thread => ∀ called index version sizes,
      state.stages thread = .publish called index version sizes →
        (state.catalogs index).version = version →
          index ∈ state.map.map Prod.snd ∨ state.victim = .popped index ∨
            sizes = (state.catalogs index).sizes
  | _ => True

theorem Balanced.countersExact {state : IndexState} (balanced : state.Balanced)
    (quiescent : state.Quiescent) : state.CountersExact := by
  have free : state.mapLock = none := by
    cases held : state.mapLock with
    | none => rfl
    | some thread =>
      rcases balanced.locked thread held with ⟨_, _, evicting⟩
      rw [quiescent thread] at evicting
      cases evicting
  have noVictim := balanced.unlocked free
  have count := balanced.count
  have sums := balanced.sums
  simp only [victimCount, victimWeight, noVictim, Int.add_zero] at count sums
  exact ⟨count, sums .entries, sums .pending, sums .generation⟩

section Steps

variable {state next : IndexState} {thread : Nat}

theorem Balanced.setStage (balanced : state.Balanced) (stage : IndexStage)
    (free : ∀ called catalog, state.stages thread ≠ .evict called catalog) :
    (state.setStage thread stage).Balanced where
  distinct := balanced.distinct
  created := balanced.created
  popped := balanced.popped
  locked holder held := by
    rcases balanced.locked holder held with ⟨called, catalog, evicting⟩
    have other : holder ≠ thread := by
      rintro rfl
      exact free called catalog evicting
    refine ⟨called, catalog, ?_⟩
    simp only [IndexState.setStage, Function.update_of_ne other, evicting]
  unlocked := balanced.unlocked
  count := balanced.count
  sums := balanced.sums

theorem Balanced.setCatalog {index : Nat} {catalog : SharedCatalog} (balanced : state.Balanced)
    (same : catalog.sizes = (state.catalogs index).sizes) :
    (state.setCatalog index catalog).Balanced := by
  have sizes : ∀ other, (Function.update state.catalogs index catalog other).sizes =
      (state.catalogs other).sizes := by
    intro other
    by_cases isIndex : other = index
    · rw [isIndex, Function.update_self, same]
    · rw [Function.update_of_ne isIndex]
  have weights : (state.setCatalog index catalog).victimWeight = state.victimWeight := by
    funext measure
    simp only [victimWeight, IndexState.setCatalog]
    split <;> simp [sizes]
  refine ⟨balanced.distinct, balanced.created, balanced.popped, balanced.locked,
    balanced.unlocked, balanced.count, fun measure => ?_⟩
  rw [weights]
  simp only [IndexState.setCatalog]
  rw [weigh_congr fun entry _ => sizes entry.2]
  exact balanced.sums measure

theorem call_balanced {called : IndexCall} (balanced : state.Balanced)
    (stepped : state.call thread called = some next) : next.Balanced := by
  unfold call at stepped
  split at stepped
  next isIdle =>
    have free : ∀ called catalog, state.stages thread ≠ .evict called catalog := by
      simp [isIdle]
    split at stepped
    next =>
      split at stepped
      · cases stepped
        exact balanced
      · cases stepped
        exact balanced.setStage _ free
    next =>
      cases stepped
      exact balanced.setStage _ free
    next =>
      cases stepped
      exact balanced.setStage _ free
    next => cases stepped
  next => cases stepped

theorem lookup_balanced (balanced : state.Balanced)
    (stepped : state.lookup thread = some next) : next.Balanced := by
  unfold lookup at stepped
  split at stepped
  next called isStart isFree =>
    have free : ∀ called catalog, state.stages thread ≠ .evict called catalog := by
      simp [isStart]
    have noVictim := balanced.unlocked isFree
    split at stepped
    next entry found =>
      cases stepped
      have member : entry ∈ state.map := List.mem_of_find?_eq_some found
      have same : (state.map.erase entry ++ [entry]).Perm state.map :=
        (List.perm_append_comm.trans (List.perm_cons_erase member).symm)
      have moved : IndexState.Balanced { state with map := state.map.erase entry ++ [entry] } := by
        have values := same.map Prod.snd
        refine ⟨values.nodup_iff.mpr balanced.distinct, ?_, ?_, balanced.locked,
          balanced.unlocked, ?_, ?_⟩
        · intro index isValue
          exact balanced.created index (values.mem_iff.mp isValue)
        · intro index isPopped
          rcases balanced.popped index isPopped with ⟨bound, absent⟩
          exact ⟨bound, fun isValue => absent (values.mem_iff.mp isValue)⟩
        · rw [balanced.count]
          simp only [same.length_eq]
          rfl
        · intro measure
          rw [weigh_perm same]
          exact balanced.sums measure
      exact moved.setStage _ free
    next missing =>
      cases stepped
      have fresh : state.created ∉ state.map.map Prod.snd := fun isValue =>
        absurd (balanced.created _ isValue) (Nat.lt_irrefl _)
      refine ⟨?_, ?_, ?_, ?_, ?_, ?_, ?_⟩
      · simp only [IndexState.setStage, IndexState.setCatalog, List.map_append, List.map_cons,
          List.map_nil]
        exact List.nodup_append.mpr ⟨balanced.distinct, by simp, by
          intro index isValue other isNew
          rw [List.mem_singleton.mp isNew]
          rintro rfl
          exact fresh isValue⟩
      · intro index isValue
        simp only [IndexState.setStage, IndexState.setCatalog, List.map_append, List.map_cons,
          List.map_nil, List.mem_append, List.mem_singleton] at isValue ⊢
        rcases isValue with before | isNew
        · exact Nat.lt_succ_of_lt (balanced.created index before)
        · exact isNew ▸ Nat.lt_succ_self _
      · intro index isPopped
        simp only [IndexState.setStage, IndexState.setCatalog, noVictim] at isPopped
        cases isPopped
      · intro holder held
        simp only [IndexState.setStage, IndexState.setCatalog, Option.some.injEq] at held ⊢
        rw [← held]
        exact ⟨called, state.created, Function.update_self _ _ _⟩
      · intro unheld
        cases unheld
      · have count := balanced.count
        simp only [victimCount, noVictim, Int.add_zero] at count
        simp only [IndexState.setStage, IndexState.setCatalog, victimCount, noVictim, count,
          List.length_append, List.length_singleton]
        omega
      · intro measure
        have sum := balanced.sums measure
        simp only [victimWeight, noVictim, Int.add_zero] at sum
        simp only [IndexState.setStage, IndexState.setCatalog, victimWeight, noVictim, sum]
        rw [weigh_concat, weigh_update_of_not_mem _ fresh, Function.update_self]
        simp
  next => cases stepped

theorem pop_balanced {maxCatalogs : Nat} (balanced : state.Balanced)
    (stepped : state.pop maxCatalogs thread = some next) : next.Balanced := by
  unfold pop at stepped
  split at stepped
  next entry rest isMap noVictim =>
    split at stepped
    next holds =>
      cases stepped
      have distinct := balanced.distinct
      have created := balanced.created
      have count := balanced.count
      have sums := balanced.sums
      rw [isMap, List.map_cons] at distinct created
      rw [List.nodup_cons] at distinct
      simp only [victimCount, victimWeight, noVictim, isMap, Int.add_zero] at count sums
      refine ⟨distinct.2, fun index isValue => created index (List.mem_cons_of_mem _ isValue),
        ?_, balanced.locked, ?_, ?_, ?_⟩
      · intro index isPopped
        injection isPopped with isIndex
        rw [← isIndex]
        exact ⟨created _ List.mem_cons_self, distinct.1⟩
      · intro unheld
        rw [holds.1] at unheld
        cases unheld
      · simp only [victimCount, count, List.length_cons]
        omega
      · intro measure
        have sum := sums measure
        rw [weigh_cons] at sum
        simp only [victimWeight, sum]
        omega
    next => cases stepped
  next => cases stepped

theorem readSizes_balanced (balanced : state.Balanced)
    (stepped : state.readSizes thread = some next) : next.Balanced := by
  unfold readSizes at stepped
  split at stepped
  next index isPopped =>
    split at stepped
    next held =>
      cases stepped
      have count := balanced.count
      have sums := balanced.sums
      simp only [victimCount, victimWeight, isPopped] at count sums
      refine ⟨balanced.distinct, balanced.created, ?_, balanced.locked, ?_, count, sums⟩
      · intro other isOther
        cases isOther
      · intro unheld
        rw [held] at unheld
        cases unheld
    next => cases stepped
  next => cases stepped

theorem subtract_balanced (balanced : state.Balanced)
    (stepped : state.subtract thread = some next) : next.Balanced := by
  unfold subtract at stepped
  split at stepped
  next index sizes isRead =>
    split at stepped
    next held =>
      cases stepped
      have count := balanced.count
      have sums := balanced.sums
      simp only [victimCount, victimWeight, isRead] at count sums
      refine ⟨balanced.distinct, balanced.created, ?_, balanced.locked, fun _ => rfl, ?_, ?_⟩
      · intro other isOther
        cases isOther
      · simp only [victimCount, count]
        omega
      · intro measure
        simp only [victimWeight, CatalogSizes.get_sub, sums measure]
        omega
    next => cases stepped
  next => cases stepped

theorem unlock_balanced {maxCatalogs : Nat} (balanced : state.Balanced)
    (stepped : state.unlock maxCatalogs thread = some next) : next.Balanced := by
  unfold unlock at stepped
  split at stepped
  next called catalog isEvict noVictim =>
    split at stepped
    next holds =>
      cases stepped
      refine ⟨balanced.distinct, balanced.created, balanced.popped, ?_, fun _ => noVictim,
        balanced.count, balanced.sums⟩
      intro holder held
      cases held
    next => cases stepped
  next => cases stepped

theorem acquire_sizes {catalog acquired : SharedCatalog}
    (isAcquired : catalog.acquire thread = some acquired) : acquired.sizes = catalog.sizes := by
  unfold SharedCatalog.acquire at isAcquired
  split at isAcquired
  · rw [← Option.some.inj isAcquired]
  · split at isAcquired
    · rw [← Option.some.inj isAcquired]
    · cases isAcquired

theorem release_sizes (catalog : SharedCatalog) : catalog.release.sizes = catalog.sizes := by
  unfold SharedCatalog.release
  split <;> rfl

theorem acquire_balanced (balanced : state.Balanced)
    (stepped : state.acquire thread = some next) : next.Balanced := by
  unfold acquire at stepped
  split at stepped
  next called index isGate =>
    have free : ∀ called catalog, state.stages thread ≠ .evict called catalog := by
      simp [isGate]
    split at stepped
    next => cases stepped
    next catalog isAcquired =>
      have held := balanced.setCatalog (acquire_sizes isAcquired)
      simp only at stepped
      split at stepped
      next =>
        split at stepped
        all_goals
          cases stepped
          exact held.setStage _ free
      next =>
        cases stepped
        exact held.setStage _ free
  next => cases stepped

theorem copy_balanced (balanced : state.Balanced)
    (stepped : state.copy thread = some next) : next.Balanced := by
  unfold copy at stepped
  split at stepped
  next isCopy =>
    cases stepped
    exact balanced.setStage _ (by simp [isCopy])
  next => cases stepped

theorem refresh_balanced {outcome : RefreshOutcome} (balanced : state.Balanced)
    (stepped : state.refresh thread outcome = some next) : next.Balanced := by
  unfold refresh at stepped
  split at stepped
  next isRefresh =>
    split at stepped
    next => cases stepped
    all_goals
      cases stepped
      exact balanced.setStage _ (by simp [isRefresh])
  next => cases stepped

theorem victimWeight_setCatalog {index : Nat} {catalog : SharedCatalog} (measure : Measure)
    (other : state.victim ≠ .popped index) :
    (state.setCatalog index catalog).victimWeight measure = state.victimWeight measure := by
  simp only [victimWeight, IndexState.setCatalog]
  split
  next => rfl
  next victim isPopped =>
    have different : victim ≠ index := by
      rintro rfl
      exact other isPopped
    rw [Function.update_of_ne different]
  next => rfl

theorem Balanced.publishes {index : Nat} {catalog : SharedCatalog} (balanced : state.Balanced)
    (isCounted : index ∈ state.map.map Prod.snd ∨ state.victim = .popped index ∨
      catalog.sizes = (state.catalogs index).sizes) :
    ({ state with counted := state.counted + (catalog.sizes - (state.catalogs index).sizes) }
      |>.setCatalog index catalog).Balanced := by
  refine ⟨balanced.distinct, balanced.created, balanced.popped, balanced.locked,
    balanced.unlocked, balanced.count, fun measure => ?_⟩
  have sum := balanced.sums measure
  have grown : (state.counted + (catalog.sizes - (state.catalogs index).sizes)).get measure =
      state.counted.get measure +
        (catalog.sizes.get measure - (state.catalogs index).sizes.get measure) := by simp
  change (state.counted + (catalog.sizes - (state.catalogs index).sizes)).get measure =
    weigh measure (Function.update state.catalogs index catalog) state.map +
      (state.setCatalog index catalog).victimWeight measure
  rw [grown, sum]
  rcases isCounted with inMap | isPopped | same
  · have other : state.victim ≠ .popped index := fun isPopped =>
      (balanced.popped index isPopped).2 inMap
    rw [weigh_update_of_mem catalog balanced.distinct inMap, victimWeight_setCatalog measure other]
    omega
  · rw [weigh_update_of_not_mem catalog (balanced.popped index isPopped).2]
    simp only [victimWeight, IndexState.setCatalog, isPopped, Function.update_self]
    omega
  · have unchanged := (balanced.setCatalog same).sums measure
    simp only [IndexState.setCatalog] at unchanged
    change state.counted.get measure = _ + (state.setCatalog index catalog).victimWeight measure
      at unchanged
    rw [same]
    omega

theorem publish_balanced (balanced : state.Balanced)
    (isCounted : state.PublishesCounted (.publish thread))
    (stepped : state.publish thread = some next) : next.Balanced := by
  unfold publish at stepped
  split at stepped
  next called index version sizes isPublish =>
    have free : ∀ called catalog, state.stages thread ≠ .evict called catalog := by
      simp [isPublish]
    simp only at stepped
    split at stepped
    next current =>
      cases stepped
      have reaches := isCounted called index version sizes isPublish current
      have published := @Balanced.publishes state index
        { state.catalogs index with sizes := sizes, version := version + 1 } balanced reaches
      exact published.setStage _ free
    next =>
      split at stepped
      next =>
        split at stepped
        all_goals
          cases stepped
          exact balanced.setStage _ free
      next =>
        cases stepped
        exact balanced.setStage _ free
  next => cases stepped

theorem leave_balanced (balanced : state.Balanced)
    (stepped : state.leave thread = some next) : next.Balanced := by
  unfold leave at stepped
  split at stepped
  next called index isLeave =>
    have released := balanced.setCatalog (release_sizes (state.catalogs index))
    simp only at stepped
    split at stepped
    all_goals
      cases stepped
      exact released.setStage _ (by simp [IndexState.setCatalog, isLeave])
  next => cases stepped

theorem step_balanced {maxCatalogs : Nat} {label : IndexLabel} (balanced : state.Balanced)
    (isCounted : state.PublishesCounted label)
    (stepped : state.step maxCatalogs label = some next) : next.Balanced := by
  cases label with
  | call => exact call_balanced balanced stepped
  | lookup => exact lookup_balanced balanced stepped
  | pop => exact pop_balanced balanced stepped
  | readSizes => exact readSizes_balanced balanced stepped
  | subtract => exact subtract_balanced balanced stepped
  | unlock => exact unlock_balanced balanced stepped
  | acquire => exact acquire_balanced balanced stepped
  | copy => exact copy_balanced balanced stepped
  | refresh => exact refresh_balanced balanced stepped
  | publish => exact publish_balanced balanced isCounted stepped
  | leave => exact leave_balanced balanced stepped

/-! ## The bound of the map -/

theorem lookup_capped {bound : Nat} (capped : state.Capped bound)
    (stepped : state.lookup thread = some next) : next.Capped bound := by
  unfold lookup at stepped
  split at stepped
  next called isStart isFree =>
    split at stepped
    next entry found =>
      cases stepped
      have same : (state.map.erase entry ++ [entry]).Perm state.map :=
        List.perm_append_comm.trans (List.perm_cons_erase (List.mem_of_find?_eq_some found)).symm
      exact ⟨(same.map _).nodup_iff.mpr capped.distinct,
        fun _ => same.length_eq ▸ capped.unlocked isFree,
        fun _ _ _ held => by cases isFree.symm.trans held⟩
    next missing =>
      cases stepped
      simp only [List.find?_eq_none, decide_eq_true_eq] at missing
      have distinct := capped.distinct
      refine ⟨?_, fun free => ?_, ?_⟩
      · simp only [setStage, setCatalog, List.map_append, List.nodup_append]
        grind
      · cases free
      · intro holder other index held evicting
        cases held
        simp_all [setStage, setCatalog]
  next => cases stepped

theorem pop_capped {bound : Nat} (positive : 0 < bound) (capped : state.Capped bound)
    (stepped : state.pop bound thread = some next) : next.Capped bound := by
  unfold pop at stepped
  split at stepped
  next entry rest isMap _ =>
    split at stepped
    next holds =>
      cases stepped
      rcases capped with ⟨distinct, _, keeps⟩
      rw [isMap] at distinct holds keeps
      refine ⟨distinct.of_cons, fun free => ?_, fun holder called index held evicting => ?_⟩
      · cases holds.1.symm.trans free
      · have isLast := keeps holder called index held evicting
        rwa [List.getLast?_cons_of_ne_nil] at isLast
        rintro rfl
        exact absurd holds.2 (by simp; omega)
    next => cases stepped
  next => cases stepped

theorem step_capped {bound : Nat} {label : IndexLabel} (positive : 0 < bound)
    (capped : state.Capped bound) (stepped : state.step bound label = some next) :
    next.Capped bound := by
  cases label with
  | lookup => exact lookup_capped capped stepped
  | pop => exact pop_capped positive capped stepped
  | unlock =>
    simp only [step, unlock] at stepped
    grind [setStage, Capped]
  | _ =>
    simp only [step, call, readSizes, subtract, acquire, copy, refresh, publish, leave] at stepped
    repeat' split at stepped
    all_goals cases stepped
    all_goals
      refine ⟨capped.distinct, capped.unlocked, fun other called index held evicting =>
        capped.keeps other called index held ?_⟩
      first
      | exact evicting
      | simp only [setStage, setCatalog, Function.update_apply] at evicting
        grind

end Steps

theorem initial_balanced : ({} : IndexState).Balanced where
  distinct := List.nodup_nil
  created _ member := by cases member
  popped _ isPopped := by cases isPopped
  locked _ held := by cases held
  unlocked _ := rfl
  count := rfl
  sums measure := by cases measure <;> rfl

theorem run_balanced {maxCatalogs : Int} {labels : List IndexLabel} {state final : IndexState}
    (balanced : state.Balanced)
    (isCounted : (indexMachine maxCatalogs).EachStep
      (fun state label _ => state.PublishesCounted label) state labels)
    (ran : (indexMachine maxCatalogs).run state labels = some final) : final.Balanced :=
  isCounted.keeps (fun _ _ _ => step_balanced) balanced ran

end IndexState

open IndexState

theorem countersExact_of_publishesCounted (maxCatalogs : Int) (labels : List IndexLabel)
    (state : IndexState) (ran : (indexMachine maxCatalogs).run {} labels = some state)
    (isCounted : (indexMachine maxCatalogs).EachStep
      (fun state label _ => state.PublishesCounted label) {} labels)
    (quiescent : state.Quiescent) : state.CountersExact :=
  (run_balanced initial_balanced isCounted ran).countersExact quiescent

/-- However the calls interleave, the map stays bounded. -/
theorem run_capped (maxCatalogs : Int) (labels : List IndexLabel) (state : IndexState)
    (ran : (indexMachine maxCatalogs).run {} labels = some state) :
    state.Capped (max 1 maxCatalogs).toNat := by
  refine Machine.run_keeps (fun _ _ _ => step_capped (by omega)) ?_ ran
  exact ⟨List.nodup_nil, fun _ => Nat.zero_le _, fun _ _ _ held => nomatch held⟩

section Example

def firstKey : CatalogKey := ("camera-1", "epoch")

def secondKey : CatalogKey := ("camera-2", "epoch")

def oneSegment : RefreshOutcome := .changed ⟨1, 0, 1⟩

/-- A thread finds the segments of the first camera. Before it publishes them, another
one looks up the second camera, and the map has room for one. -/
def evictedWhileRefreshed : List IndexLabel :=
  [.call 0 (.findSegments firstKey none), .lookup 0, .unlock 0, .acquire 0, .copy 0,
    .refresh 0 oneSegment,
    .call 1 (.findSegments secondKey none), .lookup 1, .pop 1, .readSizes 1, .subtract 1,
    .unlock 1, .acquire 1, .copy 1, .refresh 1 oneSegment, .publish 1, .leave 1,
    .publish 0, .leave 0]

theorem evictedWhileRefreshed_capped :
    ∃ state, (indexMachine 1).run {} evictedWhileRefreshed = some state ∧ state.Capped 1 :=
  ⟨_, rfl, run_capped 1 evictedWhileRefreshed _ rfl⟩

theorem evictedWhileRefreshed_breaks_counters :
    ∃ state, (indexMachine 1).run {} evictedWhileRefreshed = some state ∧ state.Quiescent ∧
      state.map = [(secondKey, 1)] ∧ (state.catalogs 1).sizes = ⟨1, 0, 1⟩ ∧
      state.counted = ⟨2, 0, 2⟩ ∧ ¬state.CountersExact := by
  refine ⟨_, rfl, ?_, rfl, rfl, rfl, ?_⟩
  · rintro (_ | _ | thread) <;> rfl
  · intro isExact
    have entries := isExact.entries
    revert entries
    decide

def publishedBeforeEviction : List IndexLabel :=
  [.call 0 (.findSegments firstKey none), .lookup 0, .unlock 0, .acquire 0, .copy 0,
    .refresh 0 oneSegment,
    .call 1 (.findSegments secondKey none), .lookup 1, .pop 1, .publish 0, .leave 0,
    .readSizes 1, .subtract 1, .unlock 1, .acquire 1, .copy 1, .refresh 1 oneSegment,
    .publish 1, .leave 1]

theorem countersExact_publishedBeforeEviction :
    ∃ state, (indexMachine 1).run {} publishedBeforeEviction = some state ∧
      state.counted = ⟨1, 0, 1⟩ ∧ state.CountersExact := by
  have ends : ∃ state, (indexMachine 1).run {} publishedBeforeEviction = some state ∧
      state.counted = ⟨1, 0, 1⟩ ∧ state.Quiescent :=
    ⟨_, rfl, rfl, by rintro (_ | _ | thread) <;> rfl⟩
  rcases ends with ⟨state, ran, counted, quiescent⟩
  refine ⟨state, ran, counted, ?_⟩
  refine countersExact_of_publishesCounted 1 _ state ran ?_ quiescent
  unfold publishedBeforeEviction
  iterate 9 apply Machine.EachStep.cons rfl trivial
  apply Machine.EachStep.cons rfl
  · intro called index version sizes isPublish _
    cases isPublish
    exact Or.inr (Or.inl rfl)
  iterate 7 apply Machine.EachStep.cons rfl trivial
  apply Machine.EachStep.cons rfl
  · intro called index version sizes isPublish _
    cases isPublish
    exact Or.inl (by decide)
  apply Machine.EachStep.cons rfl trivial
  trivial

end Example

end VideoAnalysis.RollingCache
