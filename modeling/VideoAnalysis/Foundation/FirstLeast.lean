import Mathlib.Data.List.MinMax

/-! # The first of the least

A loop that keeps the best item so far, and replaces it only by a better one, ends with
the first of the items of least cost.
-/

namespace VideoAnalysis.Foundation

variable {Item Cost : Type*} [LinearOrder Cost]

/-- Below all items before it, and no item is below it. -/
structure FirstLeast (cost : Item → Cost) (items : List Item) (item : Item) : Prop where
  atPosition : ∃ position : Nat, items[position]? = some item ∧
    ∀ earlier < position, ∀ other, items[earlier]? = some other → cost item < cost other
  least : ∀ other ∈ items, cost item ≤ cost other

variable {cost : Item → Cost} {items : List Item} {item : Item}

theorem FirstLeast.mem (isFirst : FirstLeast cost items item) : item ∈ items := by
  rcases isFirst.atPosition with ⟨_, atItem, _⟩
  exact List.mem_of_getElem? atItem

theorem FirstLeast.unique {first second : Item} (isFirst : FirstLeast cost items first)
    (isSecond : FirstLeast cost items second) :
    first = second := by
  rcases isFirst.atPosition with ⟨position, atFirst, beforeFirst⟩
  rcases isSecond.atPosition with ⟨other, atSecond, beforeSecond⟩
  rcases lt_trichotomy position other with earlier | same | later
  · have below := beforeSecond position earlier first atFirst
    exact absurd (isFirst.least second isSecond.mem) below.not_ge
  · rw [same] at atFirst
    exact Option.some.inj (atFirst.symm.trans atSecond)
  · have below := beforeFirst other later second atSecond
    exact absurd (isSecond.least first isFirst.mem) below.not_ge

theorem firstLeast_between {before after : List Item}
    (below : ∀ other ∈ before, cost item < cost other)
    (notAbove : ∀ other ∈ after, cost item ≤ cost other) :
    FirstLeast cost (before ++ item :: after) item := by
  refine ⟨⟨before.length, by simp, ?_⟩, ?_⟩
  · intro earlier inBefore other atOther
    rw [List.getElem?_append_left inBefore] at atOther
    exact below other (List.mem_of_getElem? atOther)
  · intro other member
    rcases List.mem_append.mp member with inBefore | isRest
    · exact (below other inBefore).le
    · rcases List.mem_cons.mp isRest with rfl | inAfter
      · exact le_refl _
      · exact notAbove other inAfter

/-- The first of the least of two lists is that of one of them. -/
theorem FirstLeast.of_append {before after : List Item}
    (isFirst : FirstLeast cost (before ++ after) item) :
    (FirstLeast cost before item ∧ ∀ other ∈ after, cost item ≤ cost other) ∨
      (FirstLeast cost after item ∧ ∀ other ∈ before, cost item < cost other) := by
  rcases isFirst with ⟨⟨position, atItem, earlier⟩, least⟩
  rcases Nat.lt_or_ge position before.length with inBefore | inAfter
  · left
    rw [List.getElem?_append_left inBefore] at atItem
    refine ⟨⟨⟨position, atItem, ?_⟩, ?_⟩, ?_⟩
    · intro place isEarlier other atOther
      apply earlier place isEarlier other
      rw [List.getElem?_append_left (isEarlier.trans inBefore)]
      exact atOther
    · exact fun other member => least other (List.mem_append_left _ member)
    · exact fun other member => least other (List.mem_append_right _ member)
  · right
    rw [List.getElem?_append_right inAfter] at atItem
    refine ⟨⟨⟨position - before.length, atItem, ?_⟩, ?_⟩, ?_⟩
    · intro place isEarlier other atOther
      apply earlier (before.length + place) (by omega) other
      rw [List.getElem?_append_right (by omega), Nat.add_sub_cancel_left]
      exact atOther
    · exact fun other member => least other (List.mem_append_right _ member)
    · intro other member
      rcases List.mem_iff_getElem?.mp member with ⟨place, atPlace⟩
      have inRange := (List.getElem?_eq_some_iff.mp atPlace).1
      apply earlier place (by omega) other
      rw [List.getElem?_append_left inRange]
      exact atPlace

theorem FirstLeast.of_map {Key Source : Type*} [LinearOrder Key] {key : Source → Key}
    {image : Source → Item} {sources : List Source}
    (sameOrder : ∀ first second, cost (image first) < cost (image second) ↔
      key first < key second)
    (isFirst : FirstLeast cost (sources.map image) item) :
    ∃ source, FirstLeast key sources source ∧ image source = item := by
  rcases isFirst with ⟨⟨position, atItem, earlier⟩, least⟩
  rw [List.getElem?_map, Option.map_eq_some_iff] at atItem
  rcases atItem with ⟨source, atSource, rfl⟩
  refine ⟨source, ⟨⟨position, atSource, ?_⟩, ?_⟩, rfl⟩
  · intro place isEarlier other atOther
    apply (sameOrder source other).mp
    apply earlier place isEarlier
    rw [List.getElem?_map, atOther]
    rfl
  · intro other member
    have notBelow := (least (image other) (List.mem_map_of_mem member)).not_gt
    exact not_lt.mp (mt (sameOrder other source).mpr notBelow)

theorem firstLeast_append_of_lt {last : Item} (below : ∀ other ∈ items, cost last < cost other) :
    FirstLeast cost (items ++ [last]) last :=
  firstLeast_between below (List.forall_mem_nil _)

theorem FirstLeast.append {last : Item} (isFirst : FirstLeast cost items item)
    (notBelow : ¬cost last < cost item) :
    FirstLeast cost (items ++ [last]) item := by
  rcases isFirst.atPosition with ⟨position, atItem, before⟩
  have inItems := (List.getElem?_eq_some_iff.mp atItem).1
  refine ⟨⟨position, ?_, ?_⟩, ?_⟩
  · rw [List.getElem?_append_left inItems]
    exact atItem
  · intro earlier isEarlier other atOther
    rw [List.getElem?_append_left (isEarlier.trans inItems)] at atOther
    exact before earlier isEarlier other atOther
  · intro other member
    rcases List.mem_append.mp member with inItems | isLast
    · exact isFirst.least other inItems
    · rw [List.mem_singleton.mp isLast]
      exact not_lt.mp notBelow

theorem firstLeast_of_argmin (found : items.argmin cost = some item) :
    FirstLeast cost items item := by
  induction items using List.reverseRecOn generalizing item with
  | nil => cases found
  | append_singleton items last induction =>
    rw [List.argmin_concat] at found
    cases before : items.argmin cost with
    | none =>
      have empty : items = [] := List.argmin_eq_none.mp before
      subst empty
      rw [before] at found
      cases found
      exact firstLeast_append_of_lt (by simp)
    | some kept =>
      have known := induction before
      rw [before] at found
      by_cases below : cost last < cost kept
      · have same : last = item := by
          simpa only [Option.casesOn, if_pos below, Option.some.injEq] using found
        subst same
        exact firstLeast_append_of_lt fun other member =>
          below.trans_le (known.least other member)
      · have same : kept = item := by
          simpa only [Option.casesOn, if_neg below, Option.some.injEq] using found
        subst same
        exact known.append below

theorem argmin_eq_some_iff_firstLeast :
    items.argmin cost = some item ↔ FirstLeast cost items item := by
  constructor
  · exact firstLeast_of_argmin
  · intro isFirst
    cases found : items.argmin cost with
    | none =>
      rw [List.argmin_eq_none.mp found] at isFirst
      cases isFirst.mem
    | some => rw [(firstLeast_of_argmin found).unique isFirst]

theorem exists_firstLeast {cost : Item → Cost} {items : List Item} (inhabited : items ≠ []) :
    ∃ item, FirstLeast cost items item := by
  cases found : items.argmin cost with
  | none => exact absurd (List.argmin_eq_none.mp found) inhabited
  | some item => exact ⟨item, firstLeast_of_argmin found⟩

end VideoAnalysis.Foundation
