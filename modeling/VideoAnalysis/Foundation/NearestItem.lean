import Mathlib.Algebra.Order.Ring.Int
import Mathlib.Data.List.TakeWhile

/-! # Items nearest to a place

In a list with ascending places, a nearest item to a place is one of the two around the
point where the place would be put.
-/

namespace VideoAnalysis.Foundation

variable {Item : Type*} (place : Item → Int)

def bisectLeft (items : List Item) (target : Int) : Nat :=
  (items.takeWhile fun item => place item < target).length

def aroundPoint (items : List Item) (target : Int) : List Item :=
  let point := bisectLeft place items target
  items[point]?.toList ++ (if 0 < point then items[point - 1]?.toList else [])

def Nearest (items : List Item) (target : Int) (item : Item) : Prop :=
  item ∈ items ∧ ∀ other ∈ items, |place item - target| ≤ |place other - target|

variable {place}

theorem mem_of_mem_aroundPoint {items : List Item} {target : Int} {item : Item}
    (member : item ∈ aroundPoint place items target) : item ∈ items := by
  simp only [aroundPoint, List.mem_append, Option.mem_toList] at member
  rcases member with behind | before
  · exact List.mem_of_getElem? behind
  · split at before
    · exact List.mem_of_getElem? (Option.mem_toList.mp before)
    · cases before

theorem getElem?_bisectLeft (items : List Item) (target : Int) :
    items[bisectLeft place items target]? =
      (items.dropWhile fun item => place item < target).head? := by
  have whole := List.takeWhile_append_dropWhile (p := fun item => place item < target) (l := items)
  rw [bisectLeft, List.head?_eq_getElem?]
  nth_rewrite 1 [← whole]
  rw [List.getElem?_append_right (le_refl _), Nat.sub_self]

theorem place_behind {items : List Item} {target : Int} {item : Item}
    (behind : items[bisectLeft place items target]? = some item) : target ≤ place item := by
  rw [getElem?_bisectLeft] at behind
  have notBelow := List.head?_dropWhile_not (fun item => place item < target) items
  rw [behind] at notBelow
  exact not_lt.mp (of_decide_eq_false notBelow)

section

variable {items : List Item} {target : Int}
  (ascends : items.Pairwise fun first second => place first ≤ place second) {item : Item}

include items target ascends item

theorem exists_last_before (member : item ∈ items.takeWhile fun item => place item < target) :
    ∃ last ∈ aroundPoint place items target, place item ≤ place last ∧ place last < target := by
  have whole := List.takeWhile_append_dropWhile (p := fun item => place item < target) (l := items)
  have below : ∀ other ∈ items.takeWhile fun item => place item < target,
      place other < target := by
    intro other isBefore
    have test := List.mem_takeWhile_imp (p := fun item => decide (place item < target)) isBefore
    exact of_decide_eq_true test
  have sorted := ascends.sublist (List.takeWhile_sublist fun item => place item < target)
  unfold aroundPoint bisectLeft
  generalize items.takeWhile (fun item => place item < target) = before at *
  rcases List.eq_nil_or_concat before with rfl | ⟨front, last, rfl⟩
  · cases member
  · rw [List.concat_eq_append] at *
    have atLast : items[(front ++ [last]).length - 1]? = some last := by
      rw [← whole, List.length_append, List.length_singleton, Nat.add_sub_cancel,
        List.append_assoc, List.getElem?_append_right (le_refl _), Nat.sub_self]
      rfl
    refine ⟨last, ?_, ?_, below last (List.mem_append_right _ List.mem_cons_self)⟩
    · have positive : 0 < (front ++ [last]).length := by simp
      simp only [if_pos positive, atLast]
      exact List.mem_append_right _ List.mem_cons_self
    · rcases List.mem_append.mp member with inFront | isLast
      · exact (List.pairwise_append.mp sorted).2.2 item inFront last List.mem_cons_self
      · rw [List.mem_singleton.mp isLast]

theorem exists_nearer_aroundPoint (member : item ∈ items) :
    ∃ near ∈ aroundPoint place items target, |place near - target| ≤ |place item - target| := by
  have whole := List.takeWhile_append_dropWhile (p := fun item => place item < target) (l := items)
  rw [← whole, List.mem_append] at member
  rcases member with isBefore | isBehind
  · rcases exists_last_before ascends isBefore with ⟨last, around, _⟩
    refine ⟨last, around, ?_⟩
    rw [abs_of_neg (by omega), abs_of_neg (by omega)]
    omega
  · have atPoint := @getElem?_bisectLeft _ place items target
    rw [← whole, List.pairwise_append] at ascends
    rcases ascends with ⟨_, sorted, _⟩
    cases behind : items.dropWhile (fun item => place item < target) with
    | nil =>
      rw [behind] at isBehind
      cases isBehind
    | cons first =>
      rw [behind, List.head?_cons] at atPoint
      rw [behind] at isBehind sorted
      have notBelow := place_behind atPoint
      refine ⟨first, ?_, ?_⟩
      · rw [aroundPoint, atPoint]
        exact List.mem_append_left _ List.mem_cons_self
      · have le : place first ≤ place item := by
          rcases List.mem_cons.mp isBehind with rfl | inRest
          · exact le_refl _
          · exact (List.pairwise_cons.mp sorted).1 item inRest
        rw [abs_of_nonneg (by omega), abs_of_nonneg (by omega)]
        omega

end

/-! ## The best of the candidates -/

section Best

variable {Rank : Type*} [LinearOrder Rank]

/-- One turn of a loop that keeps the nearest item, and of equally near ones that of the
lowest rank. -/
def keepNearer (place : Item → Int) (rank : Item → Rank) (target : Int) (best : Option Item)
    (item : Item) : Option Item :=
  match best with
  | none => some item
  | some kept =>
    if |place item - target| < |place kept - target| ∨
        |place item - target| = |place kept - target| ∧ rank item < rank kept then some item
    else some kept

def nearestItem (place : Item → Int) (rank : Item → Rank) (items : List Item) (target : Int) :
    Option Item :=
  (aroundPoint place items target).foldl (keepNearer place rank target) none

variable {rank : Item → Rank} {target : Int}

theorem keepNearer_eq_some {best : Option Item} {item kept : Item}
    (isKept : keepNearer place rank target best item = some kept) :
    (kept = item ∨ best = some kept) ∧ |place kept - target| ≤ |place item - target| ∧
      ∀ old, best = some old → |place kept - target| ≤ |place old - target| := by
  cases best with
  | none =>
    cases isKept
    exact ⟨.inl rfl, le_refl _, fun _ isSome => by cases isSome⟩
  | some old =>
    simp only [keepNearer] at isKept
    split at isKept
    next nearer =>
      have le : |place item - target| ≤ |place old - target| := by
        rcases nearer with less | ⟨same, _⟩
        · exact less.le
        · exact same.le
      cases isKept
      exact ⟨.inl rfl, le_refl _, fun _ isSome => by cases isSome; exact le⟩
    next notNearer =>
      have le : |place old - target| ≤ |place item - target| :=
        le_of_not_gt fun less => notNearer (.inl less)
      cases isKept
      exact ⟨.inr rfl, le, fun _ isSome => by cases isSome; exact le_refl _⟩

theorem foldl_keepNearer {items : List Item} {best : Option Item} {kept : Item}
    (isKept : items.foldl (keepNearer place rank target) best = some kept) :
    (kept ∈ items ∨ best = some kept) ∧
      (∀ item ∈ items, |place kept - target| ≤ |place item - target|) ∧
      ∀ old, best = some old → |place kept - target| ≤ |place old - target| := by
  induction items generalizing best with
  | nil =>
    refine ⟨.inr isKept, List.forall_mem_nil _, ?_⟩
    intro old isOld
    rw [List.foldl_nil, isOld] at isKept
    cases isKept
    exact le_refl _
  | cons item _ induction =>
    rw [List.foldl_cons] at isKept
    cases isNext : keepNearer place rank target best item with
    | none =>
      unfold keepNearer at isNext
      split at isNext
      next => cases isNext
      next => split at isNext <;> cases isNext
    | some next =>
      rw [isNext] at isKept
      rcases keepNearer_eq_some isNext with ⟨origin, notFarther, notFartherOld⟩
      rcases induction isKept with ⟨among, least, leNext⟩
      have toNext := leNext next rfl
      refine ⟨?_, ?_, ?_⟩
      · rcases among with inRest | isNextKept
        · exact .inl (List.mem_cons_of_mem _ inRest)
        · cases isNextKept
          rcases origin with rfl | isOld
          · exact .inl List.mem_cons_self
          · exact .inr isOld
      · rw [List.forall_mem_cons]
        exact ⟨toNext.trans notFarther, least⟩
      · intro old isOld
        exact toNext.trans (notFartherOld old isOld)

theorem foldl_keepNearer_isSome (items : List Item) (kept : Item) :
    ∃ best, items.foldl (keepNearer place rank target) (some kept) = some best := by
  induction items generalizing kept with
  | nil => exact ⟨kept, rfl⟩
  | cons _ _ induction =>
    rw [List.foldl_cons, keepNearer]
    split <;> exact induction _

theorem nearest_of_nearestItem {items : List Item} {item : Item}
    (ascends : items.Pairwise fun first second => place first ≤ place second)
    (found : nearestItem place rank items target = some item) :
    Nearest place items target item := by
  rcases foldl_keepNearer found with ⟨isCandidate | isNone, least, _⟩
  · refine ⟨mem_of_mem_aroundPoint isCandidate, ?_⟩
    intro other member
    rcases exists_nearer_aroundPoint ascends member with ⟨near, around, le⟩
    exact (least near around).trans le
  · cases isNone

theorem nearestItem_eq_none_iff {items : List Item}
    (ascends : items.Pairwise fun first second => place first ≤ place second) :
    nearestItem place rank items target = none ↔ items = [] := by
  constructor
  · intro isNone
    by_contra inhabited
    rcases List.exists_mem_of_ne_nil items inhabited with ⟨_, member⟩
    rcases @exists_nearer_aroundPoint _ place _ target ascends _ member with ⟨_, around, _⟩
    rw [nearestItem] at isNone
    cases candidates : aroundPoint place items target with
    | nil =>
      rw [candidates] at around
      cases around
    | cons first rest =>
      rw [candidates, List.foldl_cons, keepNearer] at isNone
      rcases @foldl_keepNearer_isSome _ place _ _ rank target rest first with ⟨_, isBest⟩
      rw [isBest] at isNone
      cases isNone
  · rintro rfl
    rfl

end Best

end VideoAnalysis.Foundation
