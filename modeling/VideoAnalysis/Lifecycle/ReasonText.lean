import Mathlib.Data.List.TakeWhile
import VideoAnalysis.Foundation.Infix
import VideoAnalysis.Lifecycle.Contract

/-! # Reason texts and their classification

A fragment without whitespace is found in a normalised reason exactly when it is
found in the lower-cased reason, so the classifier can be followed through texts
that embed identifiers, paths and sizes.
-/

namespace VideoAnalysis.Lifecycle

open Foundation

def IsWord (fragment : List Char) : Prop :=
  fragment ≠ [] ∧ ∀ char ∈ fragment, isSpace char = false

instance (fragment : List Char) : Decidable (IsWord fragment) :=
  @instDecidableAnd _ _ inferInstance (List.decidableBAll _ fragment)

def Plain (text : List Char) : Prop :=
  ∀ char ∈ text, char.toNat < 128 ∧ char.toLower = char

instance (text : List Char) : Decidable (Plain text) :=
  List.decidableBAll _ text

section Lower

variable (runtime : PyRuntime)

@[simp] theorem lower_append (first second : List Char) :
    runtime.lower (first ++ second) = runtime.lower first ++ runtime.lower second := by
  simp [PyRuntime.lower]

theorem lower_of_plain {text : List Char} (plain : Plain text) : runtime.lower text = text := by
  induction text with
  | nil => rfl
  | cons char _ induction =>
    have head := plain char (by simp)
    have tail := induction fun other member => plain other (List.mem_cons_of_mem _ member)
    unfold PyRuntime.lower at tail ⊢
    rw [List.flatMap_cons, runtime.lowerChar_ascii char head.1, head.2, tail]
    rfl

theorem lower_of_spaces {text : List Char} (spaces : ∀ char ∈ text, isSpace char = true) :
    runtime.lower text = text := by
  induction text with
  | nil => rfl
  | cons char _ induction =>
    have tail := induction fun other member => spaces other (List.mem_cons_of_mem _ member)
    unfold PyRuntime.lower at tail ⊢
    rw [List.flatMap_cons, runtime.lowerChar_space char (spaces char (by simp)), tail]
    rfl

end Lower

/-! ## Whitespace -/

theorem disjoint_of_spaces {fragment spaces : List Char} (word : IsWord fragment)
    (allSpaces : ∀ char ∈ spaces, isSpace char = true) : ∀ char ∈ spaces, char ∉ fragment := by
  intro char member inside
  have space := allSpaces char member
  rw [word.2 char inside] at space
  cases space

theorem takeWhile_spaces (text : List Char) :
    ∀ char ∈ text.takeWhile isSpace, isSpace char = true := fun _ member =>
  List.mem_takeWhile_imp member

theorem exists_strip (text : List Char) :
    ∃ leading trailing, text = leading ++ strip text ++ trailing ∧
      (∀ char ∈ leading, isSpace char = true) ∧ ∀ char ∈ trailing, isSpace char = true := by
  refine ⟨text.takeWhile isSpace,
    ((text.dropWhile isSpace).reverse.takeWhile isSpace).reverse, ?_,
    takeWhile_spaces text, ?_⟩
  · have inner : text.dropWhile isSpace = strip text ++
        ((text.dropWhile isSpace).reverse.takeWhile isSpace).reverse := by
      have split := congrArg List.reverse (List.takeWhile_append_dropWhile (p := isSpace)
        (l := (text.dropWhile isSpace).reverse))
      rw [List.reverse_append, List.reverse_reverse] at split
      exact split.symm
    rw [List.append_assoc, ← inner, List.takeWhile_append_dropWhile]
  · intro char member
    exact takeWhile_spaces _ char (List.mem_reverse.mp member)

theorem infix_lower_strip_iff (runtime : PyRuntime) {fragment : List Char}
    (word : IsWord fragment) (text : List Char) :
    fragment <:+: runtime.lower (strip text) ↔ fragment <:+: runtime.lower text := by
  rcases exists_strip text with ⟨_, _, split, leadingSpaces, trailingSpaces⟩
  conv_rhs => rw [split]
  rw [lower_append, lower_append, lower_of_spaces runtime leadingSpaces,
    lower_of_spaces runtime trailingSpaces,
    infix_append_right_of_disjoint word.1 (disjoint_of_spaces word trailingSpaces),
    infix_append_left_of_disjoint word.1 (disjoint_of_spaces word leadingSpaces)]

theorem infix_normalizeReasonText_iff (runtime : PyRuntime) {fragment : List Char}
    (word : IsWord fragment) (reason : String) :
    fragment <:+: normalizeReasonText runtime reason ↔
      fragment <:+: runtime.lower reason.toList := by
  have noBlank : ' ' ∉ fragment := by
    intro inside
    have blank := word.2 ' ' inside
    cases blank
  rw [normalizeReasonText, joinWords, infix_intercalate_iff _ word.1 noBlank, splitWords,
    exists_word_infix_iff _ word.1 word.2, infix_lower_strip_iff runtime word]

variable {reason : String}

theorem normalizeReasonText_of_plain (runtime : PyRuntime) (plain : Plain reason.toList)
    (word : IsWord reason.toList) :
    normalizeReasonText runtime reason = reason.toList := by
  have noSpaceEnds : ∀ {text : List Char}, (∀ char ∈ text, isSpace char = false) →
      text.dropWhile isSpace = text := by
    intro text clean
    cases text with
    | nil => rfl
    | cons char => simp [clean char (by simp)]
  have stripped : strip reason.toList = reason.toList := by
    unfold strip
    rw [noSpaceEnds word.2, noSpaceEnds fun char member => word.2 char (List.mem_reverse.mp member),
      List.reverse_reverse]
  rw [normalizeReasonText, stripped, lower_of_plain runtime plain, splitWords,
    List.splitOnP_eq_singleton word.2]
  have kept : (!reason.toList.isEmpty) = true := by
    cases empty : reason.toList with
    | nil => exact absurd empty word.1
    | cons => rfl
  simp [joinWords, List.intercalate, kept]

/-! ## Which rule fires first -/

def terminalFragments : List String :=
  ["covered_by_existing_evidence", "covered_by_event:", "storage_hard_limit",
    "storage_hard_stop"]

def HasTerminalFragment (text : List Char) : Prop :=
  ∃ fragment ∈ terminalFragments, fragment.toList <:+: text

variable {text : List Char}

theorem hasTerminalFragment_iff_any :
    terminalFragments.any (fun fragment => occursIn fragment.toList text) = true ↔
      HasTerminalFragment text := by
  simp only [List.any_eq_true, occursIn_iff, HasTerminalFragment]

instance (text : List Char) : Decidable (HasTerminalFragment text) :=
  decidable_of_iff _ hasTerminalFragment_iff_any

def MentionsTerminal (runtime : PyRuntime) (text : String) : Prop :=
  HasTerminalFragment (runtime.lower text.toList)

instance (runtime : PyRuntime) (text : String) : Decidable (MentionsTerminal runtime text) := by
  unfold MentionsTerminal
  infer_instance

/-- The two terminal rules come first, the eleven retryable ones follow, and the
remaining terminal ones come last. -/
def leadingTerminalRules : List ReasonRule := reasonRules.take 2

def retryableRules : List ReasonRule := (reasonRules.drop 2).take 11

theorem reasonRules_split :
    reasonRules = leadingTerminalRules ++ (retryableRules ++ reasonRules.drop 13) := rfl

theorem terminalFragments_words : ∀ fragment ∈ terminalFragments, IsWord fragment.toList := by
  decide

theorem find_append_of_some {α : Type} (test : α → Bool) {front : List α} (back : List α)
    {item : α} (member : item ∈ front) (fires : test item = true) :
    ∃ found ∈ front, (front ++ back).find? test = some found := by
  cases search : front.find? test with
  | none =>
    have silent := List.find?_eq_none.mp search item member
    exact absurd fires silent
  | some found =>
    exact ⟨found, List.mem_of_find?_eq_some search, by rw [List.find?_append, search]; rfl⟩

theorem fires_iff {rule : ReasonRule} :
    rule.fires text = true ↔ ∃ fragment ∈ rule.fragments, fragment.toList <:+: text := by
  simp [ReasonRule.fires]

theorem leadingTerminalRules_fire_iff {runtime : PyRuntime} :
    (∃ rule ∈ leadingTerminalRules, rule.fires (normalizeReasonText runtime reason) = true) ↔
      MentionsTerminal runtime reason := by
  have sameFragments : ∀ fragment : String,
      (∃ rule ∈ leadingTerminalRules, fragment ∈ rule.fragments) ↔
        fragment ∈ terminalFragments := by
    intro fragment
    simp [leadingTerminalRules, reasonRules, terminalFragments, or_assoc]
  constructor
  · rintro ⟨rule, member, fires⟩
    rcases fires_iff.mp fires with ⟨fragment, listed, occurs⟩
    have terminal := (sameFragments fragment).mp ⟨rule, member, listed⟩
    exact ⟨fragment, terminal, (infix_normalizeReasonText_iff runtime
      (terminalFragments_words fragment terminal) reason).mp occurs⟩
  · rintro ⟨fragment, terminal, occurs⟩
    rcases (sameFragments fragment).mpr terminal with ⟨rule, member, listed⟩
    exact ⟨rule, member, fires_iff.mpr ⟨fragment, listed,
      (infix_normalizeReasonText_iff runtime
        (terminalFragments_words fragment terminal) reason).mpr occurs⟩⟩

theorem classifyReason_of_terminal {runtime : PyRuntime}
    (terminal : MentionsTerminal runtime reason) :
    (classifyReason runtime reason).retryable = false := by
  rcases leadingTerminalRules_fire_iff.mpr terminal with ⟨rule, member, fires⟩
  rcases find_append_of_some (fun rule => rule.fires (normalizeReasonText runtime reason))
    (retryableRules ++ reasonRules.drop 13) member fires with ⟨found, foundMember, search⟩
  have nonempty : normalizeReasonText runtime reason ≠ [] := by
    intro empty
    rcases fires_iff.mp fires with ⟨fragment, listed, occurs⟩
    rw [empty, List.infix_nil] at occurs
    have filled : ∀ rule ∈ leadingTerminalRules, ∀ fragment ∈ rule.fragments,
        fragment.toList ≠ [] := by decide
    exact filled rule member fragment listed occurs
  rw [← reasonRules_split] at search
  rw [classifyReason, classifyText, if_neg nonempty, search]
  have terminalClass : ∀ rule ∈ leadingTerminalRules,
      rule.classification.retryable = false := by decide
  exact terminalClass found foundMember

/-- A reason that mentions a fragment of a retryable rule is retryable unless
it also mentions one of the leading terminal ones. -/
theorem classifyReason_retryable_iff {runtime : PyRuntime} (fragment : String)
    (listed : ∃ rule ∈ retryableRules, fragment ∈ rule.fragments) (word : IsWord fragment.toList)
    (occurs : fragment.toList <:+: runtime.lower reason.toList) :
    (classifyReason runtime reason).retryable = true ↔ ¬MentionsTerminal runtime reason := by
  constructor
  · intro retryable terminal
    rw [classifyReason_of_terminal terminal] at retryable
    cases retryable
  · intro clean
    have inText := (infix_normalizeReasonText_iff runtime word reason).mpr occurs
    have nonempty : normalizeReasonText runtime reason ≠ [] := by
      intro empty
      rw [empty, List.infix_nil] at inText
      exact word.1 inText
    have silent : ∀ rule ∈ leadingTerminalRules,
        rule.fires (normalizeReasonText runtime reason) = false := by
      intro rule member
      by_contra fires
      exact clean (leadingTerminalRules_fire_iff.mp ⟨rule, member, by simpa using fires⟩)
    rcases listed with ⟨rule, member, inRule⟩
    rcases find_append_of_some (fun rule => rule.fires (normalizeReasonText runtime reason))
      (reasonRules.drop 13) member (fires_iff.mpr ⟨fragment, inRule, inText⟩) with
      ⟨found, foundMember, search⟩
    rw [classifyReason, classifyText, if_neg nonempty, reasonRules_split,
      List.find?_append, List.find?_eq_none.mpr (by simpa using silent), Option.none_or, search]
    have retryableClass : ∀ rule ∈ retryableRules,
        rule.classification.retryable = true := by decide
    exact retryableClass found foundMember

theorem classifyText_of_no_retryable (nonempty : text ≠ [])
    (absent : ∀ rule ∈ retryableRules, ∀ fragment ∈ rule.fragments,
      occursIn fragment.toList text = false) :
    (classifyText text).retryable = false := by
  rw [classifyText, if_neg nonempty]
  cases search : reasonRules.find? fun rule => rule.fires text with
  | none => rfl
  | some found =>
    have member := List.mem_of_find?_eq_some search
    have fires := List.find?_some search
    rw [reasonRules_split, List.mem_append, List.mem_append] at member
    have otherClass : ∀ rule ∈ leadingTerminalRules ++ reasonRules.drop 13,
        rule.classification.retryable = false := by decide
    rcases member with leading | retryable | last
    · exact otherClass found (List.mem_append_left _ leading)
    · rcases fires_iff.mp fires with ⟨fragment, listed, occurs⟩
      rw [← occursIn_iff, absent found retryable fragment listed] at occurs
      cases occurs
    · exact otherClass found (List.mem_append_right _ last)

/-! ## Texts with embedded identifiers -/

variable {before after : List Char}

theorem hasTerminalFragment_split {whole : List Char}
    (each : ∀ fragment ∈ terminalFragments, fragment.toList <:+: whole ↔
      fragment.toList <:+: before ∨ fragment.toList <:+: after) :
    HasTerminalFragment whole ↔ HasTerminalFragment before ∨ HasTerminalFragment after := by
  simp only [HasTerminalFragment, ← exists_or, ← and_or_left]
  exact exists_congr fun fragment => and_congr_right (each fragment)

theorem hasTerminalFragment_append_cons {separator : Char}
    (absent : ∀ fragment ∈ terminalFragments, separator ∉ fragment.toList) :
    HasTerminalFragment (before ++ separator :: after) ↔
      HasTerminalFragment before ∨ HasTerminalFragment after :=
  hasTerminalFragment_split fun fragment terminal =>
    infix_append_cons_iff (absent fragment terminal)

@[simp] theorem hasTerminalFragment_append_equals :
    HasTerminalFragment (before ++ '=' :: after) ↔
      HasTerminalFragment before ∨ HasTerminalFragment after :=
  hasTerminalFragment_append_cons (by decide)

@[simp] theorem hasTerminalFragment_append_comma :
    HasTerminalFragment (before ++ ',' :: after) ↔
      HasTerminalFragment before ∨ HasTerminalFragment after :=
  hasTerminalFragment_append_cons (by decide)

@[simp] theorem hasTerminalFragment_append_blank :
    HasTerminalFragment (before ++ ' ' :: after) ↔
      HasTerminalFragment before ∨ HasTerminalFragment after :=
  hasTerminalFragment_append_cons (by decide)

theorem hasTerminalFragment_append_colon :
    HasTerminalFragment (before ++ ':' :: after) ↔
      HasTerminalFragment (before ++ [':']) ∨ HasTerminalFragment after := by
  have inner : ∀ fragment ∈ terminalFragments, ':' ∉ fragment.toList.dropLast := by decide
  exact hasTerminalFragment_split fun fragment terminal =>
    infix_append_cons_of_dropLast (inner fragment terminal)

theorem not_hasTerminalFragment_of_no_underscore (absent : '_' ∉ text) :
    ¬HasTerminalFragment text := by
  rintro ⟨fragment, terminal, occurs⟩
  have underscored : ∀ fragment ∈ terminalFragments, '_' ∈ fragment.toList := by decide
  exact absent (occurs.subset (underscored fragment terminal))

theorem lower_const_append (runtime : PyRuntime) {constant : String}
    (plain : Plain constant.toList) (rest : String) :
    runtime.lower (constant ++ rest).toList = constant.toList ++ runtime.lower rest.toList := by
  rw [String.toList_append, lower_append, lower_of_plain runtime plain]

theorem isDigit_plain {char : Char} (digit : char.isDigit = true) :
    char.toNat < 128 ∧ char.toLower = char ∧ char ≠ '_' := by
  simp only [Char.isDigit, ge_iff_le, Bool.and_eq_true, decide_eq_true_eq] at digit
  have lower : 48 ≤ char.toNat := UInt32.le_iff_toNat_le.mp digit.1
  have higher : char.toNat ≤ 57 := UInt32.le_iff_toNat_le.mp digit.2
  refine ⟨by omega, ?_, ?_⟩
  · unfold Char.toLower
    rw [dif_neg]
    intro upper
    have letter : 65 ≤ char.toNat := UInt32.le_iff_toNat_le.mp upper.1
    omega
  · rintro rfl
    simp at higher

end VideoAnalysis.Lifecycle
