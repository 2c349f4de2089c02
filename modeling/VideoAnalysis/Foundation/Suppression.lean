import Mathlib.Data.List.Pairwise

/-! # Greedy suppression

The first item of a ranking is kept and what is close to it is dropped, and so on with the rest.
What is kept lies apart, and everything dropped is close to something kept of a better rank.
-/

namespace VideoAnalysis.Foundation

variable {Item : Type} {close : Item → Item → Bool}

/-- What is not close to an item. -/
def apartFrom (close : Item → Item → Bool) (item : Item) (others : List Item) : List Item :=
  others.filter fun other => !close item other

theorem mem_apartFrom {item other : Item} {others : List Item} :
    other ∈ apartFrom close item others ↔ other ∈ others ∧ close item other = false := by
  rw [apartFrom, List.mem_filter, Bool.not_eq_true']

def suppress (close : Item → Item → Bool) : List Item → List Item
  | [] => []
  | item :: rest => item :: suppress close (apartFrom close item rest)
termination_by items => items.length
decreasing_by exact Nat.lt_succ_of_le (List.length_filter_le _ _)

theorem suppress_sublist (items : List Item) : (suppress close items).Sublist items := by
  induction items using suppress.induct close with
  | case1 => simp [suppress]
  | case2 item _ induction =>
    rw [suppress]
    exact (induction.trans List.filter_sublist).cons_cons item

theorem suppress_apart (items : List Item) :
    (suppress close items).Pairwise fun first second => close first second = false := by
  induction items using suppress.induct close with
  | case1 =>
    rw [suppress]
    exact List.Pairwise.nil
  | case2 _ _ induction =>
    rw [suppress, List.pairwise_cons]
    refine ⟨fun other member => ?_, induction⟩
    exact (mem_apartFrom.mp ((suppress_sublist _).subset member)).2

theorem suppress_covers {before : Item → Item → Prop} {items : List Item}
    (ranked : items.Pairwise before) {item : Item} (member : item ∈ items) :
    item ∈ suppress close items ∨
      ∃ kept ∈ suppress close items, close kept item = true ∧ before kept item := by
  induction items using suppress.induct close with
  | case1 => exact absurd member List.not_mem_nil
  | case2 first _ induction =>
    rw [List.pairwise_cons] at ranked
    rw [suppress]
    rcases List.mem_cons.mp member with rfl | later
    · exact .inl List.mem_cons_self
    · cases near : close first item with
      | true => exact .inr ⟨first, List.mem_cons_self, near, ranked.1 item later⟩
      | false =>
        rcases induction (ranked.2.filter _) (mem_apartFrom.mpr ⟨later, near⟩) with
          kept | ⟨kept, isKept, covers⟩
        · exact .inl (List.mem_cons_of_mem _ kept)
        · exact .inr ⟨kept, List.mem_cons_of_mem _ isKept, covers⟩

theorem suppress_congr {near : Item → Item → Bool} {items : List Item} (nodup : items.Nodup)
    (agree : ∀ first ∈ items, ∀ second ∈ items, first ≠ second →
      close first second = near first second) :
    suppress close items = suppress near items := by
  induction items using suppress.induct close with
  | case1 => rw [suppress, suppress]
  | case2 item rest induction =>
    rcases List.nodup_cons.mp nodup with ⟨fresh, restNodup⟩
    have sameRest : apartFrom close item rest = apartFrom near item rest := by
      apply List.filter_congr
      intro other member
      have different : item ≠ other := fun same => fresh (same ▸ member)
      rw [agree item List.mem_cons_self other (List.mem_cons_of_mem _ member) different]
    rw [suppress, suppress, induction (restNodup.filter _), sameRest]
    intro first isFirst second isSecond
    exact agree first (List.mem_cons_of_mem _ (mem_apartFrom.mp isFirst).1) second
      (List.mem_cons_of_mem _ (mem_apartFrom.mp isSecond).1)

theorem eq_suppress {before : Item → Item → Prop} {items kept : List Item}
    (ranked : items.Pairwise before)
    (asymmetric : ∀ first second, before first second → ¬ before second first)
    (fromItems : kept.Sublist items)
    (apart : kept.Pairwise fun first second => close first second = false)
    (covers : ∀ item ∈ items, item ∈ kept ∨
      ∃ other ∈ kept, close other item = true ∧ before other item) :
    kept = suppress close items := by
  induction items using suppress.induct close generalizing kept with
  | case1 =>
    rw [suppress]
    exact List.sublist_nil.mp fromItems
  | case2 item rest induction =>
    rw [List.pairwise_cons] at ranked
    have irreflexive : ∀ other, ¬ before other other :=
      fun other self => asymmetric other other self self
    have fresh : item ∉ rest := fun member => irreflexive item (ranked.1 item member)
    have first : item ∈ kept := by
      rcases covers item List.mem_cons_self with isKept | ⟨other, isKept, _, isBefore⟩
      · exact isKept
      · rcases List.mem_cons.mp (fromItems.subset isKept) with rfl | later
        · exact absurd isBefore (irreflexive _)
        · exact absurd isBefore (asymmetric _ _ (ranked.1 other later))
    cases kept with
    | nil => exact absurd first List.not_mem_nil
    | cons head tail =>
      have isHead : head = item := by
        rcases List.sublist_cons_iff.mp fromItems with inRest | ⟨_, sameHead, _⟩
        · exact absurd (inRest.subset first) fresh
        · exact (List.cons.inj sameHead).1
      rw [isHead] at fromItems apart covers ⊢
      have tailInRest : tail.Sublist rest := (List.cons_sublist_cons).mp fromItems
      rw [List.pairwise_cons] at apart
      rw [suppress, ← induction (ranked.2.filter _) ?_ apart.2 ?_]
      · have same : apartFrom close item tail = tail :=
          List.filter_eq_self.mpr fun other member => by rw [apart.1 other member]; rfl
        rw [← same]
        exact tailInRest.filter _
      · intro other member
        have parts := mem_apartFrom.mp member
        rcases covers other (List.mem_cons_of_mem _ parts.1) with isKept | ⟨near, isKept, covered⟩
        · rcases List.mem_cons.mp isKept with rfl | later
          · exact absurd parts.1 fresh
          · exact .inl later
        · rcases List.mem_cons.mp isKept with rfl | later
          · rw [parts.2] at covered
            exact absurd covered.1 Bool.noConfusion
          · exact .inr ⟨near, later, covered⟩

end VideoAnalysis.Foundation
