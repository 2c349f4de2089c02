import VideoAnalysis.Lifecycle.ReasonText
import VideoAnalysis.RollingCache.Window

/-! # The reasons of misses and what the classifier makes of them

Each message that a lane can hand on as a reason is built from labels, numbers
and ids; the labels are known, the numbers spell no rule, and so the ids decide.
-/

namespace VideoAnalysis.Lifecycle

open Foundation RollingCache

/-- `SegmentPinRetryableError`, with the directory of the segment it names. -/
inductive PinFailure where
  | disappeared (directory : String)
  | identityChanged (directory : String)

def PinFailure.directory : PinFailure → String
  | .disappeared directory => directory
  | .identityChanged directory => directory

def PinFailure.message : PinFailure → String
  | .disappeared directory => "segment disappeared before read pin: " ++ directory
  | .identityChanged directory => "segment identity changed before read pin: " ++ directory

def shutdownReason : String := "temporary_io_error:media_worker_shutdown_interrupted"

variable (runtime : PyRuntime)

variable {text : String}

theorem numeral_plain (numeral : NumeralText text) : Plain text.toList :=
  fun char member => ⟨(numeral char member).1, (numeral char member).2.1⟩

theorem numeral_clean (numeral : NumeralText text) (rest : List Char)
    (restClean : '_' ∉ rest) : ¬HasTerminalFragment (text.toList ++ rest) := by
  apply not_hasTerminalFragment_of_no_underscore
  intro member
  rcases List.mem_append.mp member with inText | inRest
  · exact (numeral '_' inText).2.2 rfl
  · exact restClean inRest

theorem natText_numeral (value : Nat) : ∀ char ∈ value.repr.toList,
    char.toNat < 128 ∧ char.toLower = char ∧ char ≠ '_' := by
  intro char member
  rw [Nat.toList_repr] at member
  exact isDigit_plain (Nat.isDigit_of_mem_toDigits (by decide) (by decide) member)

theorem intText_numeral (value : Int) : NumeralText (toString value) := by
  intro char member
  rw [Int.toString_eq_repr, Int.repr_eq_if] at member
  split at member
  · exact natText_numeral _ char member
  · rw [String.toList_append] at member
    rcases List.mem_append.mp member with sign | digits
    · have minus : char = '-' := by simpa using sign
      subst minus
      decide
    · exact natText_numeral _ char digits

theorem orUnknown_numeral (text : Int → String) (numeral : ∀ value, NumeralText (text value))
    (observed : Option Int) : NumeralText (orUnknown text observed) := by
  cases observed with
  | none =>
    intro char member
    simp only [orUnknown] at member
    have listed : char ∈ ['u', 'n', 'k', 'n', 'o', 'w', 'n'] := member
    simp only [List.mem_cons, List.not_mem_nil, or_false] at listed
    rcases listed with rfl | rfl | rfl | rfl | rfl | rfl | rfl <;> decide
  | some value => exact numeral value

def HoldsRetryable (fragment : String) (text : List Char) : Prop :=
  (∃ rule ∈ retryableRules, fragment ∈ rule.fragments) ∧ IsWord fragment.toList ∧
    fragment.toList <:+: text

def OpeningLabel (label : String) : Prop :=
  label.toList = label.toList.dropLast ++ ['='] ∧ Plain label.toList ∧
    ¬HasTerminalFragment label.toList.dropLast

def InnerLabel (separator : Char) (label : String) : Prop :=
  label.toList = separator :: (label.toList.tail.dropLast ++ ['=']) ∧ Plain label.toList ∧
    ¬HasTerminalFragment label.toList.tail.dropLast

instance (fragment : String) (text : List Char) : Decidable (HoldsRetryable fragment text) :=
  @instDecidableAnd _ _ inferInstance
    (@instDecidableAnd _ _ inferInstance (decidable_of_iff _ occursIn_iff))

instance (label : String) : Decidable (OpeningLabel label) := by
  unfold OpeningLabel
  infer_instance

instance (separator : Char) (label : String) : Decidable (InnerLabel separator label) := by
  unfold InnerLabel
  infer_instance

theorem numeral_text_clean (numeral : NumeralText text) :
    ¬HasTerminalFragment text.toList := by
  have clean := numeral_clean numeral [] (by simp)
  rw [List.append_nil] at clean
  exact clean

theorem retryable_iff_of_holds {reason : String} (fragment : String) {leading rest : List Char}
    (holds : HoldsRetryable fragment leading)
    (lowered : runtime.lower reason.toList = leading ++ rest) :
    (classifyReason runtime reason).retryable = true ↔ ¬MentionsTerminal runtime reason := by
  rcases holds with ⟨listed, word, inside⟩
  apply classifyReason_retryable_iff fragment listed word
  rw [lowered]
  exact List.infix_append_of_infix_left inside

theorem labelled_number_retryable {fragment first number : String}
    (fits : HoldsRetryable fragment first.toList ∧ OpeningLabel first)
    (numeral : NumeralText number) :
    (classifyReason runtime (first ++ number)).retryable = true := by
  rcases fits with ⟨holds, split, plain, clean⟩
  have lowered : runtime.lower (first ++ number).toList = first.toList ++ number.toList := by
    rw [lower_const_append runtime plain, lower_of_plain runtime (numeral_plain numeral)]
  apply (retryable_iff_of_holds runtime fragment holds lowered).mpr
  rw [MentionsTerminal, lowered, split, List.append_assoc, List.singleton_append,
    hasTerminalFragment_append_equals, not_or]
  exact ⟨clean, numeral_text_clean numeral⟩

/-- Two labelled numbers, the second label behind a separator, as the gap and
the probe messages are built. -/
theorem labelled_numbers_retryable {fragment first firstNumber second secondNumber : String}
    {separator : Char} (separates : separator = ':' ∨ separator = ',')
    (fits : HoldsRetryable fragment first.toList ∧ OpeningLabel first)
    (inner : InnerLabel separator second) (firstNumeral : NumeralText firstNumber)
    (secondNumeral : NumeralText secondNumber) :
    (classifyReason runtime (first ++ firstNumber ++ second ++ secondNumber)).retryable =
      true := by
  rcases fits with ⟨holds, firstSplit, firstPlain, firstClean⟩
  rcases inner with ⟨secondSplit, secondPlain, secondClean⟩
  have lowered : runtime.lower (first ++ firstNumber ++ second ++ secondNumber).toList =
      first.toList ++ (firstNumber.toList ++ (second.toList ++ secondNumber.toList)) := by
    rw [String.toList_append, String.toList_append, String.toList_append, lower_append,
      lower_append, lower_append, lower_of_plain runtime firstPlain,
      lower_of_plain runtime secondPlain,
      lower_of_plain runtime (numeral_plain firstNumeral),
      lower_of_plain runtime (numeral_plain secondNumeral), List.append_assoc,
      List.append_assoc]
  apply (retryable_iff_of_holds runtime fragment holds lowered).mpr
  rw [MentionsTerminal, lowered, firstSplit, secondSplit, List.append_assoc,
    List.singleton_append, hasTerminalFragment_append_equals, not_or, List.cons_append,
    List.append_assoc, List.singleton_append]
  refine ⟨firstClean, ?_⟩
  have endClean := numeral_text_clean secondNumeral
  rcases separates with rfl | rfl
  · rw [hasTerminalFragment_append_colon, hasTerminalFragment_append_equals, not_or, not_or]
    exact ⟨numeral_clean firstNumeral [':'] (by decide), secondClean, endClean⟩
  · rw [hasTerminalFragment_append_comma, hasTerminalFragment_append_equals, not_or, not_or]
    exact ⟨numeral_text_clean firstNumeral, secondClean, endClean⟩

def notFullyCoveredStart : String := "rolling_cache_requested_window_not_fully_covered:"

/-- Each label that opens a message, with a fragment of the rule that knows it. -/
def openingLabels : List (String × String) :=
  [("pre_gap_ns=", "rolling_cache_selected_rows_endpoint_gap:pre_gap_ns="),
    ("internal_gap_ns=", "rolling_cache_selected_rows_internal_gap:internal_gap_ns="),
    ("rolling_cache_output_duration_short", "rolling_cache_output_duration_short:expected_s="),
    ("rolling_cache_output_frame_rate_low", "rolling_cache_output_frame_rate_low:minimum_fps="),
    ("pre_gap_ns=", notFullyCoveredStart ++ "pre_gap_ns="),
    ("post_gap_ns=", notFullyCoveredStart ++ "post_gap_ns="),
    ("requested_window_internal_gap",
      "rolling_cache_requested_window_internal_gap:previous_segment=")]

def innerLabels : List (Char × String) :=
  [(':', ":post_gap_ns="), (':', ":gap_limit_ns="), (':', ":observed_s="),
    (':', ":observed_fps="), (',', "," ++ "post_gap_ns="), (':', ":next_segment="),
    (':', ":internal_gap_ns=")]

theorem openingLabels_fit : ∀ entry ∈ openingLabels,
    HoldsRetryable entry.1 entry.2.toList ∧ OpeningLabel entry.2 := by
  decide +kernel

theorem innerLabels_fit : ∀ entry ∈ innerLabels, InnerLabel entry.1 entry.2 := by
  decide +kernel

theorem endpointGap_retryable (preGapNs postGapNs : Int) :
    (classifyReason runtime (endpointGapMessage preGapNs postGapNs)).retryable = true := by
  apply labelled_numbers_retryable runtime (.inl rfl)
    (openingLabels_fit _ (.head _)) (innerLabels_fit _ (.head _))
  · exact intText_numeral preGapNs
  · exact intText_numeral postGapNs

theorem internalRowGap_retryable (gapNs limitNs : Int) :
    (classifyReason runtime (internalRowGapMessage gapNs limitNs)).retryable = true := by
  apply labelled_numbers_retryable runtime (.inl rfl)
    (openingLabels_fit _ (.tail _ (.head _))) (innerLabels_fit _ (.tail _ (.head _)))
  · exact intText_numeral gapNs
  · exact intText_numeral limitNs

theorem durationShort_retryable (format : FloatFormat) (expected : Int) (observed : Option Int) :
    (classifyReason runtime (durationShortMessage format expected observed)).retryable =
      true := by
  apply labelled_numbers_retryable runtime (.inl rfl)
    (openingLabels_fit _ (.tail _ (.tail _ (.head _))))
    (innerLabels_fit _ (.tail _ (.tail _ (.head _))))
  · exact format.fixed3_numeral expected
  · exact orUnknown_numeral format.plain format.plain_numeral observed

theorem frameRateLow_retryable (format : FloatFormat) (minimum : Int) (observed : Option Int) :
    (classifyReason runtime (frameRateLowMessage format minimum observed)).retryable = true := by
  apply labelled_numbers_retryable runtime (.inl rfl)
    (openingLabels_fit _ (.tail _ (.tail _ (.tail _ (.head _)))))
    (innerLabels_fit _ (.tail _ (.tail _ (.tail _ (.head _)))))
  · exact format.fixed3_numeral minimum
  · exact orUnknown_numeral format.plain format.plain_numeral observed

def PlainRetryable (fragment text : String) : Prop :=
  HoldsRetryable fragment text.toList ∧ Plain text.toList ∧ ¬HasTerminalFragment text.toList

instance (fragment text : String) : Decidable (PlainRetryable fragment text) := by
  unfold PlainRetryable
  infer_instance

theorem PlainRetryable.retryable {fragment text : String}
    (fits : PlainRetryable fragment text) : (classifyReason runtime text).retryable = true := by
  rcases fits with ⟨holds, plain, clean⟩
  have lowered : runtime.lower text.toList = text.toList ++ [] := by
    rw [lower_of_plain runtime plain, List.append_nil]
  apply (retryable_iff_of_holds runtime fragment holds lowered).mpr
  rw [MentionsTerminal, lower_of_plain runtime plain]
  exact clean

def plainReasons : List (String × String) :=
  [("no_overlapping_segments", "no_overlapping_segments"),
    ("window_not_covered", "rolling_cache_requested_window_not_covered"),
    ("event_frame_not_covered", "rolling_cache_event_frame_not_covered"),
    ("temporary_io_error", shutdownReason), ("coverage_miss", "rolling_cache_coverage_miss")]

theorem plainReasons_fit : ∀ entry ∈ plainReasons, PlainRetryable entry.1 entry.2 := by
  decide +kernel

theorem noOverlap_retryable :
    (classifyReason runtime "no_overlapping_segments").retryable = true :=
  (plainReasons_fit _ (.head _)).retryable runtime

theorem windowNotCovered_retryable :
    (classifyReason runtime "rolling_cache_requested_window_not_covered").retryable = true :=
  (plainReasons_fit _ (.tail _ (.head _))).retryable runtime

theorem eventNotCovered_retryable :
    (classifyReason runtime "rolling_cache_event_frame_not_covered").retryable = true :=
  (plainReasons_fit _ (.tail _ (.tail _ (.head _)))).retryable runtime

theorem shutdown_retryable : (classifyReason runtime shutdownReason).retryable = true :=
  (plainReasons_fit _ (.tail _ (.tail _ (.tail _ (.head _))))).retryable runtime

theorem gapDetail_pair (start first firstNumber second secondNumber : String) :
    start ++ gapDetail [first ++ firstNumber, second ++ secondNumber] =
      start ++ first ++ firstNumber ++ ("," ++ second) ++ secondNumber := by
  simp only [gapDetail, List.foldl_cons, List.foldl_nil, String.append_assoc]

theorem gapDetail_single (start first firstNumber : String) :
    start ++ gapDetail [first ++ firstNumber] = start ++ first ++ firstNumber := by
  simp only [gapDetail, List.foldl_nil, String.append_assoc]

theorem bothGaps_retryable (startGapNs endGapNs : Int) :
    (classifyReason runtime (notFullyCoveredStart ++ gapDetail
      ["pre_gap_ns=" ++ toString startGapNs, "post_gap_ns=" ++ toString endGapNs])).retryable =
        true := by
  rw [gapDetail_pair]
  apply labelled_numbers_retryable runtime (.inr rfl)
    (openingLabels_fit _ (.tail _ (.tail _ (.tail _ (.tail _ (.head _))))))
    (innerLabels_fit _ (.tail _ (.tail _ (.tail _ (.tail _ (.head _))))))
  · exact intText_numeral startGapNs
  · exact intText_numeral endGapNs

theorem startGap_retryable (startGapNs : Int) :
    (classifyReason runtime (notFullyCoveredStart ++ gapDetail
      ["pre_gap_ns=" ++ toString startGapNs])).retryable = true := by
  rw [gapDetail_single]
  apply labelled_number_retryable runtime
    (openingLabels_fit _ (.tail _ (.tail _ (.tail _ (.tail _ (.head _))))))
  exact intText_numeral startGapNs

theorem endGap_retryable (endGapNs : Int) :
    (classifyReason runtime (notFullyCoveredStart ++ gapDetail
      ["post_gap_ns=" ++ toString endGapNs])).retryable = true := by
  rw [gapDetail_single]
  apply labelled_number_retryable runtime
    (openingLabels_fit _ (.tail _ (.tail _ (.tail _ (.tail _ (.tail _ (.head _)))))))
  exact intText_numeral endGapNs

theorem notFullyCovered_retryable {plan : WindowPlan} {coverageSlackNs : Int}
    (partly : plan.covered coverageSlackNs = false) :
    (classifyReason runtime (notFullyCoveredMessage plan coverageSlackNs)).retryable = true := by
  have gap : coverageSlackNs < plan.startGapNs ∨ coverageSlackNs < plan.endGapNs := by
    simp only [WindowPlan.covered, Bool.and_eq_false_iff, decide_eq_false_iff_not,
      not_le] at partly
    exact partly
  have shape : notFullyCoveredMessage plan coverageSlackNs = notFullyCoveredStart ++ gapDetail
      ((if coverageSlackNs < plan.startGapNs then ["pre_gap_ns=" ++ toString plan.startGapNs]
        else []) ++
      (if coverageSlackNs < plan.endGapNs then ["post_gap_ns=" ++ toString plan.endGapNs]
        else [])) := by
    rfl
  by_cases early : coverageSlackNs < plan.startGapNs
  · by_cases late : coverageSlackNs < plan.endGapNs
    · rw [shape, if_pos early, if_pos late]
      exact bothGaps_retryable runtime plan.startGapNs plan.endGapNs
    · rw [shape, if_pos early, if_neg late]
      exact startGap_retryable runtime plan.startGapNs
  · rw [shape, if_neg early, if_pos (gap.resolve_left early)]
    exact endGap_retryable runtime plan.endGapNs

theorem hasTerminalFragment_id_label {id name rest : List Char} :
    HasTerminalFragment (id ++ ':' :: (name ++ '=' :: rest)) ↔
      HasTerminalFragment (id ++ [':']) ∨ HasTerminalFragment name ∨
        HasTerminalFragment rest := by
  rw [hasTerminalFragment_append_colon, hasTerminalFragment_append_equals]

theorem embedded_ids_retryable_iff {first second third number : String}
    (firstId secondId : String) {fragment : String}
    (fits : HoldsRetryable fragment first.toList ∧ OpeningLabel first)
    (secondInner : InnerLabel ':' second)
    (thirdInner : InnerLabel ':' third) (numeral : NumeralText number) :
    (classifyReason runtime
        (first ++ firstId ++ second ++ secondId ++ third ++ number)).retryable = true ↔
      ¬MentionsTerminal runtime (firstId ++ ":") ∧ ¬MentionsTerminal runtime (secondId ++ ":") := by
  rcases fits with ⟨holds, firstSplit, firstPlain, firstClean⟩
  rcases secondInner with ⟨secondSplit, secondPlain, secondClean⟩
  rcases thirdInner with ⟨thirdSplit, thirdPlain, thirdClean⟩
  have colon : runtime.lower ":".toList = [':'] := lower_of_plain runtime (by decide)
  have lowered : runtime.lower (first ++ firstId ++ second ++ secondId ++ third ++ number).toList =
      first.toList ++ (runtime.lower firstId.toList ++ (second.toList ++
        (runtime.lower secondId.toList ++ (third.toList ++ number.toList)))) := by
    simp only [String.toList_append, lower_append, List.append_assoc,
      lower_of_plain runtime firstPlain, lower_of_plain runtime secondPlain,
      lower_of_plain runtime thirdPlain, lower_of_plain runtime (numeral_plain numeral)]
  have mention :
      MentionsTerminal runtime (first ++ firstId ++ second ++ secondId ++ third ++ number) ↔
        MentionsTerminal runtime (firstId ++ ":") ∨
          MentionsTerminal runtime (secondId ++ ":") := by
    rw [MentionsTerminal, lowered, MentionsTerminal, MentionsTerminal, firstSplit, secondSplit,
      thirdSplit, String.toList_append, String.toList_append, lower_append, lower_append, colon]
    simp only [List.append_assoc, List.cons_append, List.nil_append]
    rw [hasTerminalFragment_append_equals, hasTerminalFragment_id_label,
      hasTerminalFragment_id_label]
    simp only [firstClean, secondClean, thirdClean, numeral_text_clean numeral, false_or,
      or_false]
  rw [retryable_iff_of_holds runtime fragment holds lowered, mention, not_or]

theorem internalGap_retryable_iff (previousId currentId : String) (gapNs : Int) :
    (classifyReason runtime (internalGapMessage previousId currentId gapNs)).retryable = true ↔
      ¬MentionsTerminal runtime (previousId ++ ":") ∧
        ¬MentionsTerminal runtime (currentId ++ ":") := by
  apply embedded_ids_retryable_iff runtime previousId currentId
    (openingLabels_fit _ (.tail _ (.tail _ (.tail _ (.tail _ (.tail _ (.tail _ (.head _))))))))
    (innerLabels_fit _ (.tail _ (.tail _ (.tail _ (.tail _ (.tail _ (.head _)))))))
    (innerLabels_fit _ (.tail _ (.tail _ (.tail _ (.tail _ (.tail _ (.tail _ (.head _))))))))
  exact intText_numeral gapNs

def LeadingWords (text : List Char) : Prop :=
  text = text.dropLast ++ [' '] ∧ Plain text ∧ ¬HasTerminalFragment text.dropLast

instance (text : List Char) : Decidable (LeadingWords text) := by
  unfold LeadingWords
  infer_instance

def pinStarts : List String :=
  ["segment disappeared before read pin: ", "segment identity changed before read pin: "]

theorem pinStarts_fit : ∀ start ∈ pinStarts,
    HoldsRetryable "temporary_io_error" ("temporary_io_error:" ++ start).toList ∧
      LeadingWords ("temporary_io_error:" ++ start).toList := by
  decide +kernel

theorem trailing_directory_retryable_iff {fragment start middle : String} (directory : String)
    (fits : HoldsRetryable fragment (start ++ middle).toList ∧
      LeadingWords (start ++ middle).toList) :
    (classifyReason runtime (start ++ (middle ++ directory))).retryable = true ↔
      ¬MentionsTerminal runtime directory := by
  rcases fits with ⟨holds, split, plain, clean⟩
  rw [← String.append_assoc]
  have lowered := lower_const_append runtime plain directory
  have mention : MentionsTerminal runtime (start ++ middle ++ directory) ↔
      MentionsTerminal runtime directory := by
    rw [MentionsTerminal, MentionsTerminal, lowered, split, List.append_assoc,
      List.singleton_append, hasTerminalFragment_append_blank]
    simp only [clean, false_or]
  rw [retryable_iff_of_holds runtime fragment holds lowered, mention]

theorem pin_retryable_iff (failure : PinFailure) :
    (classifyReason runtime ("temporary_io_error:" ++ failure.message)).retryable = true ↔
      ¬MentionsTerminal runtime failure.directory := by
  cases failure with
  | disappeared directory =>
    exact trailing_directory_retryable_iff runtime directory (pinStarts_fit _ (.head _))
  | identityChanged directory =>
    exact trailing_directory_retryable_iff runtime directory
      (pinStarts_fit _ (.tail _ (.head _)))

def terminalReasons : List String :=
  ["rolling_cache_selected_rows_missing", "face_image_no_rolling_cache_segments",
    "face_image_frame_not_found", "materialization_max_attempt_age_exceeded",
    "materialization_lease_fence_lost"]

theorem terminalReasons_plain : ∀ reason ∈ terminalReasons,
    Plain reason.toList ∧ IsWord reason.toList := by
  decide +kernel

theorem terminalReasons_unlisted : ∀ reason ∈ terminalReasons, ∀ rule ∈ retryableRules,
    ∀ fragment ∈ rule.fragments, occursIn fragment.toList reason.toList = false := by
  decide +kernel

theorem terminalReason_not_retryable {reason : String} (listed : reason ∈ terminalReasons) :
    (classifyReason runtime reason).retryable = false := by
  rcases terminalReasons_plain reason listed with ⟨plain, word⟩
  rw [classifyReason, normalizeReasonText_of_plain runtime plain word]
  exact classifyText_of_no_retryable word.1 (terminalReasons_unlisted reason listed)

theorem orText_retryable (message : String) :
    (classifyReason runtime (orText message "rolling_cache_coverage_miss")).retryable =
      (classifyReason runtime message).retryable := by
  by_cases empty : message = ""
  · have replacement : (classifyReason runtime "rolling_cache_coverage_miss").retryable = true :=
      (plainReasons_fit _ (.tail _ (.tail _ (.tail _ (.tail _ (.head _)))))).retryable runtime
    rw [orText, if_pos empty, replacement, empty]
    rfl
  · rw [orText, if_neg empty]

end VideoAnalysis.Lifecycle
