import Mathlib.Data.List.Infix

/-! # Fragments inside larger texts

When a fragment does not contain a separator, looking for it in a text is
looking for it in the pieces between the separators.
-/

namespace VideoAnalysis.Foundation

variable {α : Type*}

def occursIn [DecidableEq α] (fragment : List α) : List α → Bool
  | [] => fragment.isEmpty
  | item :: text => fragment.isPrefixOf (item :: text) || occursIn fragment text

theorem occursIn_iff [DecidableEq α] {fragment text : List α} :
    occursIn fragment text = true ↔ fragment <:+: text := by
  induction text with
  | nil => rw [occursIn, List.isEmpty_iff, List.infix_nil]
  | cons _ _ induction =>
    rw [occursIn, Bool.or_eq_true, List.isPrefixOf_iff_prefix, induction, List.infix_cons_iff]

theorem prefix_append_cons_of_dropLast {fragment before after : List α} {separator : α}
    (absent : separator ∉ fragment.dropLast)
    (starts : fragment <+: before ++ separator :: after) :
    fragment <+: before ++ [separator] := by
  induction before generalizing fragment with
  | nil =>
    match fragment with
    | [] => exact List.nil_prefix
    | [first] =>
      simp only [List.nil_append, List.cons_prefix_cons] at starts
      simp [starts.1]
    | first :: second :: rest =>
      simp only [List.nil_append, List.cons_prefix_cons] at starts
      exact absurd (by simp [starts.1]) absent
  | cons _ _ induction =>
    match fragment with
    | [] => exact List.nil_prefix
    | first :: rest =>
      simp only [List.cons_append, List.cons_prefix_cons] at starts ⊢
      refine ⟨starts.1, induction ?_ starts.2⟩
      match rest with
      | [] => simp
      | second :: rest =>
        intro member
        exact absent (List.mem_cons_of_mem _ member)

theorem infix_append_cons_of_dropLast {fragment before after : List α} {separator : α}
    (absent : separator ∉ fragment.dropLast) :
    fragment <:+: before ++ separator :: after ↔
      fragment <:+: before ++ [separator] ∨ fragment <:+: after := by
  constructor
  · intro occurs
    induction before with
    | nil =>
      rcases List.infix_cons_iff.mp occurs with starts | later
      · exact .inl (@prefix_append_cons_of_dropLast _ _ [] _ _ absent starts).isInfix
      · exact .inr later
    | cons _ _ induction =>
      rw [List.cons_append, List.infix_cons_iff] at occurs
      rcases occurs with starts | later
      · exact .inl (prefix_append_cons_of_dropLast absent starts).isInfix
      · rcases induction later with earlier | later
        · exact .inl (List.infix_cons earlier)
        · exact .inr later
  · rintro (earlier | later)
    · refine earlier.trans ⟨[], after, ?_⟩
      simp
    · refine later.trans ⟨before ++ [separator], [], ?_⟩
      simp

theorem infix_concat_of_not_mem {fragment before : List α} {separator : α}
    (absent : separator ∉ fragment) :
    fragment <:+: before ++ [separator] ↔ fragment <:+: before := by
  rw [List.infix_concat_iff]
  constructor
  · rintro (ends | occurs)
    · rcases List.suffix_concat_iff.mp ends with rfl | ⟨front, rfl, _⟩
      · exact List.nil_infix
      · exact absurd (by simp) absent
    · exact occurs
  · exact .inr

theorem infix_append_cons_iff {fragment before after : List α} {separator : α}
    (absent : separator ∉ fragment) :
    fragment <:+: before ++ separator :: after ↔
      fragment <:+: before ∨ fragment <:+: after := by
  rw [infix_append_cons_of_dropLast fun member => absent (List.dropLast_subset _ member),
    infix_concat_of_not_mem absent]

theorem infix_cons_of_not_mem {fragment after : List α} {separator : α} (nonempty : fragment ≠ [])
    (absent : separator ∉ fragment) :
    fragment <:+: separator :: after ↔ fragment <:+: after := by
  have split : fragment <:+: [] ++ separator :: after ↔ fragment <:+: [] ∨ fragment <:+: after :=
    infix_append_cons_iff absent
  simpa [nonempty] using split

theorem infix_append_left_of_disjoint {fragment before after : List α}
    (nonempty : fragment ≠ []) (disjoint : ∀ item ∈ before, item ∉ fragment) :
    fragment <:+: before ++ after ↔ fragment <:+: after := by
  induction before with
  | nil => rfl
  | cons head _ induction =>
    rw [List.cons_append, infix_cons_of_not_mem nonempty (disjoint head (by simp))]
    exact induction fun item member => disjoint item (List.mem_cons_of_mem _ member)

theorem infix_append_right_of_disjoint {fragment before after : List α}
    (nonempty : fragment ≠ []) (disjoint : ∀ item ∈ after, item ∉ fragment) :
    fragment <:+: before ++ after ↔ fragment <:+: before := by
  cases after with
  | nil => simp
  | cons separator after =>
    rw [infix_append_cons_iff (disjoint separator (by simp))]
    constructor
    · rintro (earlier | later)
      · exact earlier
      · have padded : fragment <:+: after ++ [] := by simpa using later
        have dropped := (infix_append_left_of_disjoint nonempty
          fun item member => disjoint item (List.mem_cons_of_mem _ member)).mp padded
        exact absurd (List.infix_nil.mp dropped) nonempty
    · exact .inl

/-! ## Words -/

section Words

variable {isSeparator : α → Bool} {fragment : List α}

theorem splitOnP_pieces (isSeparator : α → Bool) (text : List α) :
    ∃ first rest, text.splitOnP isSeparator = first :: rest ∧
      (∀ piece : List α, (∀ item ∈ piece, isSeparator item = false) →
        (piece <+: text ↔ piece <+: first)) ∧
      (∀ piece : List α, piece ≠ [] → (∀ item ∈ piece, isSeparator item = false) →
        (piece <:+: text ↔ piece <:+: first ∨ ∃ word ∈ rest, piece <:+: word)) := by
  induction text with
  | nil => exact ⟨[], [], by simp, by simp, by simp⟩
  | cons head text induction =>
    rcases induction with ⟨first, rest, split, starts, occurs⟩
    rw [List.splitOnP_cons_eq_if_modifyHead, split]
    by_cases separates : isSeparator head = true
    · refine ⟨[], first :: rest, by simp [separates], ?_, ?_⟩
      · intro piece clean
        cases piece with
        | nil => simp
        | cons =>
          simp only [List.cons_prefix_cons, List.prefix_nil, reduceCtorEq, iff_false, not_and]
          rintro rfl
          simp [separates] at clean
      · intro piece nonempty clean
        have absent : head ∉ piece := by
          intro member
          rw [clean head member] at separates
          cases separates
        rw [infix_cons_of_not_mem nonempty absent, occurs piece nonempty clean]
        simp [nonempty]
    · refine ⟨head :: first, rest, by simp [separates], ?_, ?_⟩
      · intro piece clean
        cases piece with
        | nil => simp
        | cons _ piece =>
          simp only [List.cons_prefix_cons]
          rw [starts piece fun other member => clean other (List.mem_cons_of_mem _ member)]
      · intro piece nonempty clean
        have startsHere : piece <+: head :: text ↔ piece <+: head :: first := by
          cases piece with
          | nil => simp
          | cons _ piece =>
            simp only [List.cons_prefix_cons]
            rw [starts piece fun other member =>
              clean other (List.mem_cons_of_mem _ member)]
        rw [List.infix_cons_iff, List.infix_cons_iff, occurs piece nonempty clean,
          startsHere, or_assoc]

theorem exists_word_infix_iff (text : List α) (nonempty : fragment ≠ [])
    (clean : ∀ item ∈ fragment, isSeparator item = false) :
    (∃ word ∈ (text.splitOnP isSeparator).filter (fun word => !word.isEmpty),
        fragment <:+: word) ↔ fragment <:+: text := by
  rcases splitOnP_pieces isSeparator text with ⟨first, _, split, _, occurs⟩
  rw [occurs fragment nonempty clean, split]
  have nonemptyWord : ∀ word : List α, fragment <:+: word → word.isEmpty = false := by
    intro word inside
    cases word with
    | nil => exact absurd (List.infix_nil.mp inside) nonempty
    | cons => rfl
  constructor
  · rintro ⟨word, member, inside⟩
    rcases List.mem_cons.mp (List.mem_filter.mp member).1 with rfl | later
    · exact .inl inside
    · exact .inr ⟨word, later, inside⟩
  · rintro (inside | ⟨word, member, inside⟩)
    · exact ⟨first, List.mem_filter.mpr ⟨by simp, by simp [nonemptyWord first inside]⟩, inside⟩
    · exact ⟨word, List.mem_filter.mpr ⟨List.mem_cons_of_mem _ member,
        by simp [nonemptyWord word inside]⟩, inside⟩

theorem infix_intercalate_iff {separator : α} (words : List (List α)) (nonempty : fragment ≠ [])
    (absent : separator ∉ fragment) :
    fragment <:+: List.intercalate [separator] words ↔ ∃ word ∈ words, fragment <:+: word := by
  induction words with
  | nil => simp [List.intercalate, nonempty]
  | cons _ words induction =>
    cases words with
    | nil => simp [List.intercalate]
    | cons =>
      rw [List.intercalate_cons_cons, List.append_assoc, List.singleton_append,
        infix_append_cons_iff absent, induction]
      simp

end Words

end VideoAnalysis.Foundation
