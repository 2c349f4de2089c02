import VideoAnalysis.Foundation.TopSelection

/-! # Greedy matching

Candidate pairs are taken in an order of falling scores, each when both its sides are still free.
Every candidate that is left out then shares a side with one that is at least as good.
-/

namespace VideoAnalysis.Foundation

variable {Pair Left Right Score : Type} [DecidableEq Left] [DecidableEq Right]

def greedyMatch (left : Pair → Left) (right : Pair → Right) :
    List Left → List Right → List Pair → List Pair
  | _, _, [] => []
  | takenLeft, takenRight, pair :: rest =>
    if left pair ∈ takenLeft then greedyMatch left right takenLeft takenRight rest
    else if right pair ∈ takenRight then greedyMatch left right takenLeft takenRight rest
    else pair :: greedyMatch left right (left pair :: takenLeft) (right pair :: takenRight) rest

variable {left : Pair → Left} {right : Pair → Right} {takenLeft : List Left}
  {takenRight : List Right} {pairs : List Pair}

theorem greedyMatch_sublist (takenLeft : List Left) (takenRight : List Right)
    (pairs : List Pair) :
    (greedyMatch left right takenLeft takenRight pairs).Sublist pairs := by
  induction pairs generalizing takenLeft takenRight with
  | nil => exact List.Sublist.slnil
  | cons pair _ induction =>
    rw [greedyMatch]
    split
    · exact (induction takenLeft takenRight).cons pair
    split
    · exact (induction takenLeft takenRight).cons pair
    · exact (induction _ _).cons_cons pair

theorem left_notMem_greedyMatch {side : Left} (taken : side ∈ takenLeft) :
    side ∉ (greedyMatch left right takenLeft takenRight pairs).map left := by
  induction pairs generalizing takenLeft takenRight with
  | nil => exact List.not_mem_nil
  | cons _ _ induction =>
    rw [greedyMatch]
    split
    · exact induction taken
    split
    · exact induction taken
    next free _ =>
      rw [List.map_cons, List.mem_cons, not_or]
      exact ⟨fun same => free (same ▸ taken), induction (List.mem_cons_of_mem _ taken)⟩

theorem right_notMem_greedyMatch {side : Right} (taken : side ∈ takenRight) :
    side ∉ (greedyMatch left right takenLeft takenRight pairs).map right := by
  induction pairs generalizing takenLeft takenRight with
  | nil => exact List.not_mem_nil
  | cons _ _ induction =>
    rw [greedyMatch]
    split
    · exact induction taken
    split
    · exact induction taken
    next _ free =>
      rw [List.map_cons, List.mem_cons, not_or]
      exact ⟨fun same => free (same ▸ taken), induction (List.mem_cons_of_mem _ taken)⟩

theorem nodup_greedyMatch (takenLeft : List Left) (takenRight : List Right) (pairs : List Pair) :
    ((greedyMatch left right takenLeft takenRight pairs).map left).Nodup ∧
      ((greedyMatch left right takenLeft takenRight pairs).map right).Nodup := by
  induction pairs generalizing takenLeft takenRight with
  | nil => exact ⟨List.nodup_nil, List.nodup_nil⟩
  | cons pair _ induction =>
    rw [greedyMatch]
    split
    · exact induction takenLeft takenRight
    split
    · exact induction takenLeft takenRight
    · have later := induction (left pair :: takenLeft) (right pair :: takenRight)
      rw [List.map_cons, List.map_cons, List.nodup_cons, List.nodup_cons]
      exact ⟨⟨left_notMem_greedyMatch List.mem_cons_self, later.1⟩,
        right_notMem_greedyMatch List.mem_cons_self, later.2⟩

theorem greedyMatch_stable [LinearOrder Score] {score : Pair → Score}
    (falling : Falling score pairs) {pair : Pair} (member : pair ∈ pairs) :
    left pair ∈ takenLeft ∨ right pair ∈ takenRight ∨
      ∃ taken ∈ greedyMatch left right takenLeft takenRight pairs,
        (left taken = left pair ∨ right taken = right pair) ∧ score pair ≤ score taken := by
  induction pairs generalizing takenLeft takenRight with
  | nil => exact absurd member List.not_mem_nil
  | cons first _ induction =>
    rw [Falling, List.pairwise_cons] at falling
    rw [greedyMatch]
    split
    next taken =>
      rcases List.mem_cons.mp member with rfl | later
      · exact .inl taken
      · exact induction falling.2 later
    split
    next taken =>
      rcases List.mem_cons.mp member with rfl | later
      · exact .inr (.inl taken)
      · exact induction falling.2 later
    next =>
      rcases List.mem_cons.mp member with rfl | later
      · exact .inr (.inr ⟨pair, List.mem_cons_self, .inl rfl, le_refl _⟩)
      · rcases @induction (left first :: takenLeft) (right first :: takenRight) falling.2 later
          with sameLeft | sameRight | ⟨taken, isTaken, meets⟩
        · rcases List.mem_cons.mp sameLeft with same | before
          · exact .inr (.inr ⟨first, List.mem_cons_self, .inl same.symm, falling.1 pair later⟩)
          · exact .inl before
        · rcases List.mem_cons.mp sameRight with same | before
          · exact .inr (.inr ⟨first, List.mem_cons_self, .inr same.symm, falling.1 pair later⟩)
          · exact .inr (.inl before)
        · exact .inr (.inr ⟨taken, List.mem_cons_of_mem _ isTaken, meets⟩)

/-! ## Sorting by scores -/

theorem falling_insertionSort [LinearOrder Score] {Item : Type} {score : Item → Score}
    {notBelow : Item → Item → Prop} [DecidableRel notBelow] {items : List Item}
    (agrees : ∀ first ∈ items, ∀ second ∈ items,
      notBelow first second ↔ score second ≤ score first) :
    Falling score (items.insertionSort notBelow) := by
  let byScore : Item → Item → Prop := fun first second => score second ≤ score first
  have total : Std.Total byScore := ⟨fun first second => le_total (score second) (score first)⟩
  have transitive : IsTrans Item byScore :=
    ⟨fun _ _ _ firstSecond secondThird => secondThird.trans firstSecond⟩
  have sameSort := List.map_insertionSort (r := notBelow) (s := byScore) id items agrees
  rw [List.map_id, List.map_id] at sameSort
  rw [sameSort]
  exact List.pairwise_insertionSort byScore items

/-! ## Places among what is kept -/

/-- An item's place among the kept ones is its place among all exactly when nothing before it is
dropped. -/
theorem getElem?_filter_iff {Item : Type} {before : Item → Item → Prop} {items : List Item}
    (ordered : items.Pairwise before) (irreflexive : ∀ item, ¬ before item item)
    (asymmetric : ∀ first second, before first second → ¬ before second first)
    (keep : Item → Bool) {index : Nat} {item : Item}
    (found : (items.filter keep)[index]? = some item) :
    items[index]? = some item ↔ ∀ other ∈ items, before other item → keep other = true := by
  have place : ∃ position, items[position]? = some item ∧ index ≤ position ∧
      (index = position ↔ ∀ other ∈ items, before other item → keep other = true) := by
    induction items generalizing index with
    | nil => simp at found
    | cons first rest induction =>
      rw [List.pairwise_cons] at ordered
      by_cases kept : keep first = true
      · rw [List.filter_cons_of_pos kept] at found
        cases index with
        | zero =>
          rw [List.getElem?_cons_zero, Option.some.injEq] at found
          refine ⟨0, ?_, le_refl 0, fun _ => ?_, fun _ => rfl⟩
          · rw [List.getElem?_cons_zero, found]
          · intro other member isBefore
            rcases List.mem_cons.mp member with rfl | later
            · exact kept
            · exact absurd isBefore (asymmetric _ _ (found ▸ ordered.1 other later))
        | succ =>
          rw [List.getElem?_cons_succ] at found
          rcases induction ordered.2 found with ⟨position, isItem, _, same⟩
          refine ⟨position + 1, ?_, by omega, ?_⟩
          · rw [List.getElem?_cons_succ, isItem]
          · rw [Nat.add_right_cancel_iff, same, List.forall_mem_cons]
            exact ⟨fun all => ⟨fun _ => kept, all⟩, fun all => all.2⟩
      · rw [List.filter_cons_of_neg kept] at found
        rcases induction ordered.2 found with ⟨position, isItem, _⟩
        refine ⟨position + 1, ?_, by omega, fun equal => by omega, fun all => ?_⟩
        · rw [List.getElem?_cons_succ, isItem]
        · have inRest : item ∈ rest := List.mem_of_getElem? isItem
          exact absurd (all first List.mem_cons_self (ordered.1 item inRest)) kept
  rcases place with ⟨_, isItem, _, same⟩
  rw [← same]
  constructor
  · intro atIndex
    have distinct : items.Nodup := by
      refine ordered.imp ?_
      intro first second isBefore equal
      rw [equal] at isBefore
      exact irreflexive second isBefore
    have inside : index < items.length := (List.getElem?_eq_some_iff.mp atIndex).1
    exact (List.getElem?_inj inside distinct).mp (atIndex.trans isItem.symm)
  · intro equal
    rw [equal, isItem]

end VideoAnalysis.Foundation
