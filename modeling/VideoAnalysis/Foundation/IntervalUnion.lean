import Mathlib.Data.Finset.Max
import Mathlib.Tactic.Linarith

/-! # Holes of an interval union

Closed intervals in the order of their lower ends, and the holes of their union. A
scan that remembers how far the intervals so far reach finds every hole.
-/

namespace VideoAnalysis.Foundation.IntervalUnion

variable {Time : Type*} [AddCommGroup Time] [LinearOrder Time] [IsOrderedAddMonoid Time]

/-- A stretch between two of the intervals that none of them reaches into. -/
structure Hole (spans : List (Time × Time)) (low high : Time) : Prop where
  starts : ∃ span ∈ spans, span.2 ≤ low
  ends : ∃ span ∈ spans, high ≤ span.1
  clear : ∀ span ∈ spans, span.2 ≤ low ∨ high ≤ span.1

/-- The interval `span` starts more than `limit` after everything before it ends. -/
structure Leap (limit : Time) (before : List (Time × Time)) (span : Time × Time) : Prop where
  later : before ≠ []
  apart : ∀ earlier ∈ before, earlier.2 + limit < span.1

omit [AddCommGroup Time] [IsOrderedAddMonoid Time] in
theorem exists_furthest {before : List (Time × Time)} (someBefore : before ≠ []) :
    ∃ furthest ∈ before, ∀ earlier ∈ before, earlier.2 ≤ furthest.2 :=
  Multiset.exists_max_image Prod.snd (mt (Multiset.coe_eq_zero _).mp someBefore)

theorem Leap.hole {limit : Time} {before after : List (Time × Time)} {span : Time × Time}
    (leap : Leap limit before span)
    (sorted : (before ++ span :: after).Pairwise fun first second => first.1 ≤ second.1) :
    ∃ low high, Hole (before ++ span :: after) low high ∧ limit < high - low := by
  rcases exists_furthest leap.later with ⟨furthest, member, reaches⟩
  have apart := leap.apart furthest member
  have fromSpan := (List.pairwise_cons.mp (List.pairwise_append.mp sorted).2.1).1
  refine ⟨furthest.2, span.1, ⟨?_, ?_, ?_⟩, lt_sub_iff_add_lt'.mpr apart⟩
  · exact ⟨furthest, List.mem_append_left _ member, le_rfl⟩
  · exact ⟨span, List.mem_append_right _ List.mem_cons_self, le_rfl⟩
  · intro other inSpans
    rcases List.mem_append.mp inSpans with inBefore | inRest
    · exact .inl (reaches other inBefore)
    · rcases List.mem_cons.mp inRest with rfl | inAfter
      · exact .inr le_rfl
      · exact .inr (fromSpan other inAfter)

theorem Hole.leap {limit low high : Time} {spans : List (Time × Time)}
    (hole : Hole spans low high) (nonneg : 0 ≤ limit) (long : limit < high - low)
    (proper : ∀ span ∈ spans, span.1 ≤ span.2)
    (sorted : spans.Pairwise fun first second => first.1 ≤ second.1) :
    ∃ before span after, spans = before ++ span :: after ∧ Leap limit before span := by
  rcases hole.ends with ⟨behind, inSpans, ends⟩
  have found : (spans.find? fun span => decide (high ≤ span.1)).isSome := by
    rw [List.find?_isSome]
    exact ⟨behind, inSpans, by simpa using ends⟩
  rcases Option.isSome_iff_exists.mp found with ⟨span, isFirst⟩
  rcases List.find?_eq_some_iff_append.mp isFirst with
    ⟨fromHigh, before, after, split, notBefore⟩
  have startsHigh : high ≤ span.1 := by simpa using fromHigh
  have positive : low < high := by
    have := nonneg.trans_lt long
    exact sub_pos.mp this
  have endsLow : ∀ earlier ∈ before, earlier.2 ≤ low := by
    intro earlier inBefore
    have below := notBefore earlier inBefore
    have member : earlier ∈ spans := by
      rw [split]
      exact List.mem_append_left _ inBefore
    rcases hole.clear earlier member with reaches | above
    · exact reaches
    · simp [above] at below
  refine ⟨before, span, after, split, ?_, ?_⟩
  · rintro rfl
    rcases hole.starts with ⟨early, member, reaches⟩
    have lowEnd := proper early member
    rw [split, List.nil_append] at member sorted
    have fromSpan : span.1 ≤ early.1 := by
      rcases List.mem_cons.mp member with rfl | inAfter
      · exact le_rfl
      · exact (List.pairwise_cons.mp sorted).1 early inAfter
    have := (startsHigh.trans fromSpan).trans (lowEnd.trans reaches)
    exact absurd positive this.not_gt
  · intro earlier inBefore
    have reaches := endsLow earlier inBefore
    calc earlier.2 + limit ≤ low + limit := by gcongr
      _ < high := lt_sub_iff_add_lt'.mp long
      _ ≤ span.1 := startsHigh

/-- A union in lower-end order has a hole longer than `limit` exactly when one of its
intervals leaps over more than `limit`. -/
theorem exists_hole_iff {limit : Time} {spans : List (Time × Time)} (nonneg : 0 ≤ limit)
    (proper : ∀ span ∈ spans, span.1 ≤ span.2)
    (sorted : spans.Pairwise fun first second => first.1 ≤ second.1) :
    (∃ low high, Hole spans low high ∧ limit < high - low) ↔
      ∃ before span after, spans = before ++ span :: after ∧ Leap limit before span := by
  constructor
  · rintro ⟨low, high, hole, long⟩
    exact hole.leap nonneg long proper sorted
  · rintro ⟨before, span, after, rfl, leap⟩
    exact leap.hole sorted

end VideoAnalysis.Foundation.IntervalUnion
