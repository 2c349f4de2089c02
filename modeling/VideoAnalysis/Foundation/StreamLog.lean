import Mathlib.Algebra.Group.Nat.Defs
import Mathlib.Data.Prod.Lex
import Mathlib.Data.List.Sort

/-! # A log of entries under increasing ids

A Redis stream as `XREVRANGE` reads it: the newest entries between two bounds.
-/

namespace VideoAnalysis.Foundation

abbrev StreamId := ℕ ×ₗ ℕ

def streamId (ms sequence : ℕ) : StreamId := toLex (ms, sequence)

def maxStreamPart : ℕ := 2 ^ 64 - 1

structure StreamLog (Fields : Type) where
  entries : List (StreamId × Fields)
  sorted : entries.Pairwise (fun first second => first.1 < second.1) := by decide

/-- `-`, `+` or an id; an id may leave its sequence number out and may be excluded. -/
inductive StreamBound where
  | least
  | greatest
  | at (ms : ℕ) (sequence : Option ℕ) (exclusive : Bool)
deriving DecidableEq

def StreamBound.Below : StreamBound → StreamId → Prop
  | .least, _ => True
  | .greatest, id => streamId maxStreamPart maxStreamPart ≤ id
  | .at ms sequence false, id => streamId ms (sequence.getD 0) ≤ id
  | .at ms sequence true, id => streamId ms (sequence.getD 0) < id

def StreamBound.Above : StreamBound → StreamId → Prop
  | .least, id => id ≤ streamId 0 0
  | .greatest, _ => True
  | .at ms sequence false, id => id ≤ streamId ms (sequence.getD maxStreamPart)
  | .at ms sequence true, id => id < streamId ms (sequence.getD maxStreamPart)

instance : (bound : StreamBound) → DecidablePred bound.Below
  | .least => fun _ => isTrue trivial
  | .greatest => fun id => inferInstanceAs (Decidable (_ ≤ id))
  | .at _ _ false => fun id => inferInstanceAs (Decidable (_ ≤ id))
  | .at _ _ true => fun id => inferInstanceAs (Decidable (_ < id))

instance : (bound : StreamBound) → DecidablePred bound.Above
  | .least => fun id => inferInstanceAs (Decidable (id ≤ _))
  | .greatest => fun _ => isTrue trivial
  | .at _ _ false => fun id => inferInstanceAs (Decidable (id ≤ _))
  | .at _ _ true => fun id => inferInstanceAs (Decidable (id < _))

def InRange (low high : StreamBound) (id : StreamId) : Prop := low.Below id ∧ high.Above id

instance (low high : StreamBound) : DecidablePred (InRange low high) := fun id =>
  inferInstanceAs (Decidable (low.Below id ∧ high.Above id))

def StreamBound.older (id : StreamId) : StreamBound := .at id.1 (some id.2) true

theorem StreamBound.above_older (last id : StreamId) :
    (StreamBound.older last).Above id ↔ id < last := Iff.rfl

theorem StreamBound.above_of_lt {bound : StreamBound} {last id : StreamId}
    (above : bound.Above last) (less : id < last) : bound.Above id := by
  cases bound with
  | least => exact less.le.trans above
  | greatest => trivial
  | «at» ms sequence exclusive =>
    cases exclusive with
    | false => exact less.le.trans above
    | true => exact less.trans above

/-! ## Newest first -/

section Descending

variable {Fields : Type}

theorem mem_take_iff_countP {entries : List (StreamId × Fields)}
    (descending : entries.Pairwise fun first second => second.1 < first.1)
    {entry : StreamId × Fields} {count : ℕ} :
    entry ∈ entries.take count ↔
      entry ∈ entries ∧ (entries.countP fun other => entry.1 < other.1) < count := by
  induction entries generalizing count with
  | nil => simp
  | cons _ rest induction =>
    rcases List.pairwise_cons.mp descending with ⟨above, descendingRest⟩
    cases count with
    | zero => simp
    | succ =>
      rw [List.take_succ_cons, List.mem_cons, List.mem_cons, induction descendingRest]
      constructor
      · rintro (rfl | ⟨inRest, few⟩)
        · refine ⟨.inl rfl, ?_⟩
          have none : ((entry :: rest).countP fun other => entry.1 < other.1) = 0 := by
            apply List.countP_eq_zero.mpr
            intro other member isAbove
            have below := of_decide_eq_true isAbove
            rcases List.mem_cons.mp member with rfl | inRest
            · exact lt_irrefl _ below
            · exact lt_asymm (above other inRest) below
          omega
        · refine ⟨.inr inRest, ?_⟩
          rw [List.countP_cons, if_pos (decide_eq_true (above entry inRest))]
          omega
      · rintro ⟨rfl | inRest, few⟩
        · exact .inl rfl
        · rw [List.countP_cons, if_pos (decide_eq_true (above entry inRest))] at few
          exact .inr ⟨inRest, by omega⟩

/-- Below the last of the first `count` are exactly the others. -/
theorem filter_below_eq_drop {entries : List (StreamId × Fields)}
    (descending : entries.Pairwise fun first second => second.1 < first.1)
    {count : ℕ} {last : StreamId × Fields} (isLast : (entries.take count).getLast? = some last) :
    entries.filter (fun entry => entry.1 < last.1) = entries.drop count := by
  have split : entries = entries.take count ++ entries.drop count :=
    (List.take_append_drop count entries).symm
  have ordered := descending
  rw [split, List.pairwise_append] at ordered
  rcases ordered with ⟨taken, _, across⟩
  rcases List.getLast?_eq_some_iff.mp isLast with ⟨_, decomposed⟩
  have inTaken : last ∈ entries.take count := by
    rw [decomposed]
    exact List.mem_append_right _ (List.mem_singleton_self _)
  conv_lhs => rw [split, List.filter_append]
  have none : (entries.take count).filter (fun entry => entry.1 < last.1) = [] := by
    apply List.filter_eq_nil_iff.mpr
    intro entry member below
    rw [decomposed] at taken member
    rcases List.mem_append.mp member with inBefore | same
    · have above := (List.pairwise_append.mp taken).2.2 entry inBefore last
        (List.mem_singleton_self _)
      exact lt_asymm above (of_decide_eq_true below)
    · rw [List.mem_singleton.mp same] at below
      exact lt_irrefl _ (of_decide_eq_true below)
  have all : (entries.drop count).filter (fun entry => entry.1 < last.1) =
      entries.drop count := by
    apply List.filter_eq_self.mpr
    intro entry member
    exact decide_eq_true (across last inTaken entry member)
  rw [none, all, List.nil_append]

instance : Std.Antisymm fun first second : StreamId × Fields => second.1 < first.1 where
  antisymm _ _ below above := absurd below (lt_asymm above)

instance : Std.Irrefl fun first second : StreamId × Fields => second.1 < first.1 where
  irrefl _ := lt_irrefl _

end Descending

namespace StreamLog

variable {Fields : Type}

def fieldsOf (log : StreamLog Fields) (id : StreamId) : Option Fields := log.entries.lookup id

def descending (log : StreamLog Fields) (inside : StreamId → Prop) [DecidablePred inside] :
    List (StreamId × Fields) :=
  (log.entries.filter fun entry => inside entry.1).reverse

def newest (log : StreamLog Fields) (inside : StreamId → Prop) [DecidablePred inside]
    (count : ℕ) : List (StreamId × Fields) :=
  (log.descending inside).take count

/-- `XREVRANGE high low COUNT count`. -/
def xrevrange (log : StreamLog Fields) (high low : StreamBound) (count : ℕ) :
    List (StreamId × Fields) :=
  log.newest (InRange low high) count

theorem descending_pairwise (log : StreamLog Fields) (inside : StreamId → Prop)
    [DecidablePred inside] :
    (log.descending inside).Pairwise fun first second => second.1 < first.1 := by
  exact List.pairwise_reverse.mpr (log.sorted.sublist List.filter_sublist)

theorem newest_pairwise (log : StreamLog Fields) (inside : StreamId → Prop)
    [DecidablePred inside] (count : ℕ) :
    (log.newest inside count).Pairwise fun first second => second.1 < first.1 := by
  exact (log.descending_pairwise inside).sublist (List.take_sublist _ _)

variable {log : StreamLog Fields}

theorem mem_descending {inside : StreamId → Prop}
    [DecidablePred inside] {entry : StreamId × Fields} :
    entry ∈ log.descending inside ↔ entry ∈ log.entries ∧ inside entry.1 := by
  simp only [descending, List.mem_reverse, List.mem_filter, decide_eq_true_eq]

theorem eq_of_mem_of_id {first second : StreamId × Fields} (inFirst : first ∈ log.entries)
    (inSecond : second ∈ log.entries) (same : first.1 = second.1) : first = second := by
  have nodup : (log.entries.map Prod.fst).Nodup :=
    List.pairwise_map.mpr (log.sorted.imp fun less => less.ne)
  exact List.inj_on_of_nodup_map nodup inFirst inSecond same

def AmongNewest (log : StreamLog Fields) (inside : StreamId → Prop) [DecidablePred inside]
    (count : ℕ) (entry : StreamId × Fields) : Prop :=
  entry ∈ log.entries ∧ inside entry.1 ∧
    (log.entries.countP fun other => inside other.1 ∧ entry.1 < other.1) < count

instance [DecidableEq Fields] (log : StreamLog Fields) (inside : StreamId → Prop)
    [DecidablePred inside] (count : ℕ) : DecidablePred (log.AmongNewest inside count) :=
  fun _ => inferInstanceAs (Decidable (_ ∧ _ ∧ _))

theorem mem_newest {inside : StreamId → Prop}
    [DecidablePred inside] {count : ℕ} {entry : StreamId × Fields} :
    entry ∈ log.newest inside count ↔ log.AmongNewest inside count entry := by
  rw [newest, mem_take_iff_countP (log.descending_pairwise inside), mem_descending, and_assoc,
    AmongNewest, descending, List.countP_reverse, List.countP_filter]
  simp only [Bool.decide_and, Bool.and_comm]

theorem descending_older {low high : StreamBound} {count : ℕ} {last : StreamId × Fields}
    (isLast : (log.xrevrange high low count).getLast? = some last) :
    log.descending (InRange low (.older last.1)) =
      (log.descending (InRange low high)).drop count := by
  rw [← filter_below_eq_drop (log.descending_pairwise _) isLast, descending, descending,
    ← List.filter_reverse, ← List.filter_reverse, List.filter_filter]
  apply List.filter_congr
  intro entry _
  have member : last ∈ log.xrevrange high low count := List.mem_of_getLast? isLast
  have inside := (mem_newest.mp member).2.1
  rw [← Bool.decide_and]
  apply decide_eq_decide.mpr
  constructor
  · rintro ⟨below, older⟩
    exact ⟨older, below, StreamBound.above_of_lt inside.2 older⟩
  · rintro ⟨older, below, _⟩
    exact ⟨below, older⟩

end StreamLog

end VideoAnalysis.Foundation
