import VideoAnalysis.Python.FieldRules
import VideoAnalysis.Python.JsonLines

/-! # Manifests that state the size of their file

The manifest is the first line of the file of the rows and states how long the file is, itself
included; it is written again until the size it states is right.
-/

namespace VideoAnalysis.Sink

open Foundation Python

inductive PayloadError
  /-- What `json.dumps` raises. -/
  | encoding (error : PyError)
  | unicodeEncodeError
  /-- The bytes would be longer than `sys.maxsize`. -/
  | tooLong
  | runtimeError (message : Text)

/-- `sys.maxsize`. -/
def maxSize : Nat := 2 ^ 63 - 1

def joinBytes (parts : List (List Nat)) : Except PayloadError (List Nat) :=
  if maxSize < parts.flatten.length then .error .tooLong else .ok parts.flatten

section

variable (floatText : Double → Text) (recursionLimit : Nat)

/-- `_json_line`. -/
def jsonLine (payload : Entries) : Except PayloadError (List Nat) :=
  match Json.dumpsError recursionLimit (.dict payload) with
  | some error => .error (.encoding error)
  | none =>
    match encodeUtf8 (encode floatText .compact (.dict payload)) with
    | some line => .ok (line ++ [10])
    | none => .error .unicodeEncodeError

/-- `int(sized_manifest["metadata_size_bytes"])`. -/
def statedSize (sizedManifest : Entries) : Option Int :=
  (Json.lookup sizedManifest "metadata_size_bytes").bind fun value => value.toInt.toOption

/-- The attempts of `_embedded_manifest_metadata_payload`. -/
def attemptSizes (rowPayload : List Nat) :
    Nat → Entries → Except PayloadError (Entries × List Nat)
  | 0, _ =>
    .error (.runtimeError (text "rolling_segment_embedded_manifest_size_did_not_converge"))
  | attempts + 1, sizedManifest => do
      let line ← jsonLine floatText recursionLimit sizedManifest
      let payload ← joinBytes [line, rowPayload]
      if statedSize sizedManifest = some (payload.length : Int) then return (sizedManifest, payload)
      else
        attemptSizes rowPayload attempts
          (Json.store sizedManifest "metadata_size_bytes" (.int payload.length))

/-- `_embedded_manifest_metadata_payload`. -/
def embeddedManifestMetadataPayload (manifest : Entries) (rows : List Entries) :
    Except PayloadError (Entries × List Nat) := do
  let rowPayload ← joinBytes (← rows.mapM (jsonLine floatText recursionLimit))
  attemptSizes floatText recursionLimit rowPayload 10
    (Json.store manifest "metadata_size_bytes" (.int 0))

end

/-! ## Lines -/

/-- A dictionary as Python has it. -/
structure Record (floatText : Double → Text) where
  entries : Entries
  sound : (Json.dict entries).Sound floatText

/-- What one line takes: numbers that can be printed, values that are not nested too deep, and
texts without surrogates. -/
structure Writable (recursionLimit : Nat) (payload : Entries) : Prop where
  noError : Json.dumpsError recursionLimit (.dict payload) = none
  noSurrogate : (Json.dict payload).hasSurrogate = false

def lineBytes (floatText : Double → Text) (payload : Entries) : List Nat :=
  (encode floatText .compact (.dict payload)).flatMap utf8Bytes

section Lines

variable {floatText : Double → Text} {recursionLimit : Nat}

variable {payload : Entries}

theorem jsonLine_ok_iff {line : List Nat} (sound : (Json.dict payload).Sound floatText) :
    jsonLine floatText recursionLimit payload = .ok line ↔
      Writable recursionLimit payload ∧ line = lineBytes floatText payload ++ [10] := by
  have surrogates := (written_encode sound).any
  unfold jsonLine
  cases noError : Json.dumpsError recursionLimit (.dict payload) with
  | some =>
    refine iff_of_false nofun fun both => ?_
    rw [both.1.noError] at noError
    cases noError
  | none =>
    simp only [encodeUtf8_eq, surrogates]
    cases noSurrogate : (Json.dict payload).hasSurrogate with
    | true =>
      refine iff_of_false nofun fun both => ?_
      rw [both.1.noSurrogate] at noSurrogate
      cases noSurrogate
    | false =>
      constructor
      · intro same
        cases same
        exact ⟨⟨noError, noSurrogate⟩, rfl⟩
      · rintro ⟨_, rfl⟩
        rfl

theorem jsonLine_error {error : PayloadError}
    (failed : jsonLine floatText recursionLimit payload = .error error) :
    ∀ message, error ≠ .runtimeError message := by
  unfold jsonLine at failed
  split at failed
  next => cases failed; exact nofun
  next =>
    split at failed
    next => cases failed
    next => cases failed; exact nofun

theorem lineBytes_printed (sound : (Json.dict payload).Sound floatText) :
    ∀ byte ∈ lineBytes floatText payload, 32 ≤ byte := by
  intro byte member
  rcases List.mem_flatMap.mp member with ⟨code, isCode, isByte⟩
  exact le_of_mem_utf8Bytes ((written_encode sound).inRange code isCode).1 isByte

theorem loadsLine_lineBytes {readerLimit : Nat} (sound : (Json.dict payload).Sound floatText)
    (writable : Writable recursionLimit payload) (enough : recursionLimit ≤ readerLimit) :
    loadsLine readerLimit (lineBytes floatText payload) = .ok (.dict payload) := by
  refine loadsLine_encoded sound (Json.dumpsError_mono enough writable.noError) ?_
  rw [encodeUtf8_eq, (written_encode sound).any, writable.noSurrogate]
  rfl

theorem splitLines_rows {rows : List (Record floatText)} :
    splitLines (rows.flatMap fun row => lineBytes floatText row.entries ++ [10]) =
      rows.map fun row => lineBytes floatText row.entries := by
  induction rows with
  | nil => rfl
  | cons row _ induction =>
    rw [List.flatMap_cons, List.append_assoc, List.singleton_append,
      splitLines_line (lineBytes_printed row.sound), induction, List.map_cons]

end Lines

/-! ## Sizes -/

def sizedAs (manifest : Entries) (size : Nat) : Entries :=
  Json.store manifest "metadata_size_bytes" (.int size)

section Sizes

variable {floatText : Double → Text} {recursionLimit : Nat}

theorem sizedAs_again (manifest : Entries) (size other : Nat) :
    Json.store (sizedAs manifest size) "metadata_size_bytes" (.int other) =
      sizedAs manifest other :=
  congrArg Dict.entries (Dict.set_set ⟨manifest⟩ _ _ _)

theorem statedSize_sizedAs (manifest : Entries) (size : Nat) :
    statedSize (sizedAs manifest size) = some (size : Int) := by
  rw [statedSize, sizedAs, Json.lookup_store_self]
  rfl

theorem sizedAs_split (manifest : Entries) :
    ∃ first last, ∀ size : Nat,
      sizedAs manifest size = first ++ (text "metadata_size_bytes", .int size) :: last := by
  rcases Dict.exists_insert_eq (text "metadata_size_bytes") manifest with ⟨first, last, split⟩
  exact ⟨first, last, fun size => split (.int size)⟩

theorem sound_sizedAs (manifest : Record floatText) (size : Nat) :
    (Json.dict (sizedAs manifest.entries size)).Sound floatText := by
  cases manifest.sound with
  | dict distinctKeys keysInRange each =>
    have distinct : Dict.Distinct ⟨manifest.entries⟩ := distinctKeys
    refine .dict (distinct.set _ _) ?_ ?_
    · intro entry member
      rcases Dict.mem_entries_set member with rfl | old
      · exact @fun code => (by decide : ∀ code ∈ text "metadata_size_bytes", code < 1114112) code
      · exact keysInRange entry old
    · intro entry member
      rcases Dict.mem_entries_set member with rfl | old
      · exact .int _
      · exact each entry old

theorem length_utf8Bytes_digits {digits : Text} (areDigits : ∀ code ∈ digits, isDigit code = true) :
    (digits.flatMap utf8Bytes).length = digits.length := by
  induction digits with
  | nil => rfl
  | cons code _ induction =>
    have digit := areDigits code List.mem_cons_self
    simp only [isDigit, Bool.and_eq_true, decide_eq_true_eq] at digit
    have oneByte : utf8Bytes code = [code] := if_pos (by omega)
    rw [List.flatMap_cons, oneByte, List.singleton_append, List.length_cons, List.length_cons,
      induction fun other member => areDigits other (List.mem_cons_of_mem code member)]

theorem length_lineBytes_sizedAs (manifest : Entries) :
    ∃ base, ∀ size, (lineBytes floatText (sizedAs manifest size)).length =
      base + decimalWidth.width size := by
  rcases sizedAs_split manifest with ⟨first, last, split⟩
  rcases joinTexts_around (text ",") (first.map (entryText floatText))
    (last.map (entryText floatText)) with ⟨before, after, around⟩
  have digits : ∀ size : Nat, intText size = digitsText size := by
    intro size
    rw [intText_eq, if_neg (by omega), List.nil_append, Int.natAbs_natCast]
  have line : ∀ size, lineBytes floatText (sizedAs manifest size) =
      (text "\x7b" ++ before ++ encodeText false (text "metadata_size_bytes") ++ [58]).flatMap
        utf8Bytes ++ (digitsText size).flatMap utf8Bytes ++
        (after ++ text "\x7d").flatMap utf8Bytes := by
    intro size
    have number : encode floatText .compact (.int size) = intText size := rfl
    rw [lineBytes, encode_entries, split, List.map_append, List.map_cons, around, entryText,
      number, ← digits]
    simp only [List.flatMap_append, List.flatMap_cons, List.flatMap_nil, List.append_assoc,
      List.nil_append]
  refine ⟨((text "\x7b" ++ before ++ encodeText false (text "metadata_size_bytes") ++
    [58]).flatMap utf8Bytes).length + ((after ++ text "\x7d").flatMap utf8Bytes).length,
    fun size => ?_⟩
  have width : ((digitsText size).flatMap utf8Bytes).length = decimalWidth.width size :=
    length_utf8Bytes_digits (digitsText_isDigit size)
  rw [line, List.length_append, List.length_append, width]
  omega

theorem entriesError_append (depth : Nat) (first last : Entries) :
    Json.entriesError depth (first ++ last) =
      (Json.entriesError depth first).or (Json.entriesError depth last) := by
  induction first with
  | nil => rfl
  | cons entry _ induction =>
    rcases entry with ⟨key, value⟩
    rw [List.cons_append, Json.entriesError, Json.entriesError, induction, Option.or_assoc]

variable {size : Nat}

theorem dumpsError_size (fits : size ≤ maxSize) (depth : Nat) :
    Json.dumpsError depth (.int size) = none := by
  have short : (digitsText size).length ≤ 19 :=
    (length_digitsText_le_iff (by decide)).mpr (fits.trans_lt (by decide))
  rw [Json.dumpsError, Int.natAbs_natCast]
  exact if_neg (by unfold maxIntDigits; omega)

theorem writable_sizedAs_iff (manifest : Entries) (fits : size ≤ maxSize) :
    Writable recursionLimit (sizedAs manifest size) ↔
      Writable recursionLimit (sizedAs manifest 0) := by
  rcases sizedAs_split manifest with ⟨_, _, split⟩
  have sameError : Json.dumpsError recursionLimit (.dict (sizedAs manifest size)) =
      Json.dumpsError recursionLimit (.dict (sizedAs manifest 0)) := by
    cases recursionLimit with
    | zero => rfl
    | succ =>
      rw [Json.dumpsError, Json.dumpsError, split, split, entriesError_append,
        entriesError_append, Json.entriesError, Json.entriesError, dumpsError_size fits,
        dumpsError_size (Nat.zero_le _)]
  have sameSurrogate : (Json.dict (sizedAs manifest size)).hasSurrogate =
      (Json.dict (sizedAs manifest 0)).hasSurrogate := by
    rw [Json.hasSurrogate, Json.hasSurrogate, Json.entriesHaveSurrogate_eq,
      Json.entriesHaveSurrogate_eq, split, split]
    simp only [List.any_append, List.any_cons]
    rfl
  exact ⟨fun writable => ⟨sameError ▸ writable.noError, sameSurrogate ▸ writable.noSurrogate⟩,
    fun writable => ⟨sameError ▸ writable.noError, sameSurrogate ▸ writable.noSurrogate⟩⟩

/-! ## Attempts -/

def rowBytes (rows : List (Record floatText)) : List Nat :=
  rows.flatMap fun row => lineBytes floatText row.entries ++ [10]

def payloadOf (manifest : Record floatText) (rowPayload : List Nat) (size : Nat) : List Nat :=
  lineBytes floatText (sizedAs manifest.entries size) ++ 10 :: rowPayload

theorem exists_length_payloadOf (manifest : Record floatText) (rowPayload : List Nat) :
    ∃ base, ∀ size, (payloadOf manifest rowPayload size).length = decimalWidth.next base size := by
  rcases @length_lineBytes_sizedAs floatText manifest.entries with ⟨base, length⟩
  refine ⟨base + rowPayload.length + 1, fun size => ?_⟩
  rw [payloadOf, List.length_append, length, List.length_cons, NumberWidth.next]
  omega

theorem joinBytes_ok_iff {parts : List (List Nat)} {joined : List Nat} :
    joinBytes parts = .ok joined ↔ parts.flatten.length ≤ maxSize ∧ joined = parts.flatten := by
  unfold joinBytes
  split
  next long => exact iff_of_false nofun fun both => absurd both.1 (by omega)
  next short =>
    constructor
    · intro same
      cases same
      exact ⟨by omega, rfl⟩
    · rintro ⟨_, rfl⟩
      rfl

theorem joinBytes_error {parts : List (List Nat)} {error : PayloadError}
    (failed : joinBytes parts = .error error) : ∀ message, error ≠ .runtimeError message := by
  unfold joinBytes at failed
  split at failed
  next => cases failed; exact nofun
  next => cases failed

variable {manifest : Record floatText} {rowPayload : List Nat}

theorem attemptSizes_succ (attempts : Nat)
    (writable : Writable recursionLimit (sizedAs manifest.entries size))
    (fits : (payloadOf manifest rowPayload size).length ≤ maxSize) :
    attemptSizes floatText recursionLimit rowPayload (attempts + 1)
        (sizedAs manifest.entries size) =
      if size = (payloadOf manifest rowPayload size).length then
        .ok (sizedAs manifest.entries size, payloadOf manifest rowPayload size)
      else
        attemptSizes floatText recursionLimit rowPayload attempts
          (sizedAs manifest.entries (payloadOf manifest rowPayload size).length) := by
  have isLine := (jsonLine_ok_iff (sound_sizedAs manifest size)).mpr ⟨writable, rfl⟩
  have joined : [lineBytes floatText (sizedAs manifest.entries size) ++ [10],
      rowPayload].flatten = payloadOf manifest rowPayload size := by
    simp [payloadOf]
  have isPayload := joinBytes_ok_iff.mpr ⟨joined ▸ fits, rfl⟩
  rw [joined] at isPayload
  simp only [attemptSizes, isLine, bind, Except.bind, isPayload, statedSize_sizedAs,
    sizedAs_again, Option.some.injEq, Nat.cast_inj]
  rfl

theorem attemptSizes_returns {attempts : Nat} {sized : Entries} {payload : List Nat}
    (ran : attemptSizes floatText recursionLimit rowPayload attempts
      (sizedAs manifest.entries size) = .ok (sized, payload)) :
    payload.length ≤ maxSize ∧ payload = payloadOf manifest rowPayload payload.length ∧
      sized = sizedAs manifest.entries payload.length ∧
      Writable recursionLimit (sizedAs manifest.entries payload.length) := by
  induction attempts generalizing size with
  | zero => cases ran
  | succ attempts induction =>
    rcases bind_eq_ok ran with ⟨line, isLine, continued⟩
    rcases bind_eq_ok continued with ⟨_, isMade, _⟩
    have writable := ((jsonLine_ok_iff (sound_sizedAs manifest size)).mp isLine).1
    have isPayload : [line, rowPayload].flatten = payloadOf manifest rowPayload size := by
      rw [((jsonLine_ok_iff (sound_sizedAs manifest size)).mp isLine).2]
      simp [payloadOf]
    have fits := (joinBytes_ok_iff.mp isMade).1
    rw [isPayload] at fits
    rw [attemptSizes_succ attempts writable fits] at ran
    split at ran
    next right =>
      cases ran
      rw [← right]
      exact ⟨right ▸ fits, rfl, rfl, writable⟩
    next => exact induction ran

section

variable {base : Nat} (length : ∀ size,
  (payloadOf manifest rowPayload size).length = decimalWidth.next base size)

include base length

theorem attemptSizes_exhausted {attempts : Nat} {message : Text}
    (failed : attemptSizes floatText recursionLimit rowPayload attempts
      (sizedAs manifest.entries size) = .error (.runtimeError message)) :
    ∀ attempt < attempts, (decimalWidth.next base)^[attempt + 1] size ≠
      (decimalWidth.next base)^[attempt] size := by
  induction attempts generalizing size with
  | zero => exact fun attempt less => absurd less (Nat.not_lt_zero attempt)
  | succ attempts induction =>
    cases isLine : jsonLine floatText recursionLimit (sizedAs manifest.entries size) with
    | error =>
      rw [attemptSizes, isLine] at failed
      cases failed
      exact absurd rfl (jsonLine_error isLine message)
    | ok line =>
      cases isMade : joinBytes [line, rowPayload] with
      | error =>
        simp only [attemptSizes, isLine, bind, Except.bind, isMade] at failed
        cases failed
        exact absurd rfl (joinBytes_error isMade message)
      | ok =>
        have isWritten := (jsonLine_ok_iff (sound_sizedAs manifest size)).mp isLine
        have isPayload : [line, rowPayload].flatten =
            payloadOf manifest rowPayload size := by
          rw [isWritten.2]
          simp [payloadOf]
        have fits := (joinBytes_ok_iff.mp isMade).1
        rw [isPayload] at fits
        rw [attemptSizes_succ attempts isWritten.1 fits] at failed
        split at failed
        next => cases failed
        next wrong =>
          rw [length] at wrong failed
          intro attempt less
          cases attempt with
          | zero => exact Ne.symm wrong
          | succ attempt =>
            rw [Function.iterate_succ_apply, Function.iterate_succ_apply]
            exact induction failed attempt (Nat.lt_of_succ_lt_succ less)

theorem attemptSizes_settles (writable : Writable recursionLimit (sizedAs manifest.entries 0)) {more attempts : Nat}
    (fits : ∀ attempt, (decimalWidth.next base)^[attempt] size ≤ maxSize)
    (settled : decimalWidth.next base ((decimalWidth.next base)^[more] size) =
      (decimalWidth.next base)^[more] size) (enough : more < attempts) :
    Returns (attemptSizes floatText recursionLimit rowPayload attempts
      (sizedAs manifest.entries size)) := by
  induction more generalizing attempts size with
  | zero =>
    cases attempts with
    | zero => cases enough
    | succ attempts =>
      have isWritable : Writable recursionLimit (sizedAs manifest.entries size) :=
        (writable_sizedAs_iff manifest.entries (fits 0)).mpr writable
      have right : size = decimalWidth.next base size := settled.symm
      rw [attemptSizes_succ attempts isWritable (by rw [length]; exact fits 1), length,
        if_pos right]
      exact returns_ok _
  | succ _ induction =>
    cases attempts with
    | zero => cases enough
    | succ attempts =>
      have isWritable : Writable recursionLimit (sizedAs manifest.entries size) :=
        (writable_sizedAs_iff manifest.entries (fits 0)).mpr writable
      rw [attemptSizes_succ attempts isWritable (by rw [length]; exact fits 1)]
      split
      next => exact returns_ok _
      next =>
        rw [length]
        exact induction (fun attempt => fits (attempt + 1)) settled
          (Nat.lt_of_succ_lt_succ enough)

end

/-- Some payload that fits into memory has the size that it states. -/
def Fits (manifest : Record floatText) (rows : List (Record floatText)) : Prop :=
  ∃ size ≤ maxSize, (payloadOf manifest (rowBytes rows) size).length = size

variable {rows : List (Record floatText)}

theorem rows_ok_iff {lines : List (List Nat)} :
    (rows.map Record.entries).mapM (jsonLine floatText recursionLimit) = .ok lines ↔
      (∀ row ∈ rows, Writable recursionLimit row.entries) ∧
        lines = rows.map fun row => lineBytes floatText row.entries ++ [10] := by
  rw [mapM_eq_ok_iff, List.forall₂_map_left_iff]
  induction rows generalizing lines with
  | nil =>
    rw [List.forall₂_nil_left_iff]
    exact ⟨fun same => ⟨List.forall_mem_nil _, same⟩, fun both => both.2⟩
  | cons row _ induction =>
    rw [List.forall_mem_cons, List.map_cons]
    constructor
    · intro each
      cases each with
      | cons isFirst areRest =>
        have first := (jsonLine_ok_iff row.sound).mp isFirst
        have others := induction.mp areRest
        exact ⟨⟨first.1, others.1⟩, by rw [first.2, others.2]⟩
    · rintro ⟨⟨first, others⟩, rfl⟩
      exact .cons ((jsonLine_ok_iff row.sound).mpr ⟨first, rfl⟩) (induction.mpr ⟨others, rfl⟩)

theorem rows_error {rows : List Entries} {error : PayloadError}
    (failed : rows.mapM (jsonLine floatText recursionLimit) = .error error) :
    ∀ message, error ≠ .runtimeError message := by
  rcases exists_input_of_mapM_error failed with ⟨_, _, isError⟩
  exact jsonLine_error isError

theorem flatten_rowLines (rows : List (Record floatText)) :
    (rows.map fun row => lineBytes floatText row.entries ++ [10]).flatten = rowBytes rows :=
  (List.flatMap_def).symm

theorem embeddedManifestMetadataPayload_returns
    {sized : Entries} {payload : List Nat}
    (ran : embeddedManifestMetadataPayload floatText recursionLimit manifest.entries
      (rows.map Record.entries) = .ok (sized, payload)) :
    (∀ row ∈ rows, Writable recursionLimit row.entries) ∧ payload.length ≤ maxSize ∧
      payload = payloadOf manifest (rowBytes rows) payload.length ∧
      sized = sizedAs manifest.entries payload.length ∧
      Writable recursionLimit (sizedAs manifest.entries payload.length) := by
  rcases bind_eq_ok ran with ⟨_, areLines, continued⟩
  rcases bind_eq_ok continued with ⟨_, isJoined, settles⟩
  have written := rows_ok_iff.mp areLines
  have isRows := (joinBytes_ok_iff.mp isJoined).2
  rw [written.2, flatten_rowLines] at isRows
  rw [isRows] at settles
  exact ⟨written.1, attemptSizes_returns settles⟩

theorem embeddedManifestMetadataPayload_never_exhausted (manifest : Record floatText)
    (rows : List (Record floatText)) (message : Text) :
    embeddedManifestMetadataPayload floatText recursionLimit manifest.entries
      (rows.map Record.entries) ≠ .error (.runtimeError message) := by
  intro failed
  unfold embeddedManifestMetadataPayload at failed
  cases areLines : (rows.map Record.entries).mapM (jsonLine floatText recursionLimit) with
  | error =>
    rw [areLines] at failed
    cases failed
    exact rows_error areLines message rfl
  | ok lines =>
    cases isJoined : joinBytes lines with
    | error =>
      simp only [areLines, bind, Except.bind, isJoined] at failed
      cases failed
      exact joinBytes_error isJoined message rfl
    | ok rowPayload =>
      simp only [areLines, bind, Except.bind, isJoined] at failed
      rcases exists_length_payloadOf manifest rowPayload with ⟨base, length⟩
      have wrong := attemptSizes_exhausted length failed 3 (by decide)
      rw [Function.iterate_succ_apply'] at wrong
      exact wrong (decimalWidth.next_third base)

theorem embeddedManifestMetadataPayload_settles
    (writable : Writable recursionLimit (sizedAs manifest.entries 0))
    (rowsWritable : ∀ row ∈ rows, Writable recursionLimit row.entries)
    (fits : Fits manifest rows) :
    Returns (embeddedManifestMetadataPayload floatText recursionLimit manifest.entries
      (rows.map Record.entries)) := by
  rcases fits with ⟨size, small, right⟩
  rcases exists_length_payloadOf manifest (rowBytes rows) with ⟨base, length⟩
  have areLines := rows_ok_iff.mpr ⟨rowsWritable, rfl⟩
  have rowsFit : (rowBytes rows).length ≤ size := by
    have total := right
    rw [payloadOf, List.length_append, List.length_cons] at total
    omega
  have isJoined : joinBytes (rows.map fun row => lineBytes floatText row.entries ++ [10]) =
      .ok (rowBytes rows) := by
    rw [joinBytes_ok_iff, flatten_rowLines]
    exact ⟨rowsFit.trans small, rfl⟩
  rw [length] at right
  simp only [embeddedManifestMetadataPayload, areLines, bind, Except.bind, isJoined]
  exact attemptSizes_settles length writable
    (fun attempt => (decimalWidth.iterate_le_of_next_eq right attempt).trans small)
    (decimalWidth.next_third base) (by decide)

/-- The payload of a manifest with rows settles within the attempts: it is returned unless a
line cannot be written or memory does not hold it, and its lines are the manifest with its size
and the rows. -/
theorem embedded_manifest_settles (manifest : Record floatText) (rows : List (Record floatText)) :
    let result := embeddedManifestMetadataPayload floatText recursionLimit manifest.entries
      (rows.map Record.entries)
    (∀ message, result ≠ .error (.runtimeError message)) ∧
    (Returns result ↔ Writable recursionLimit (sizedAs manifest.entries 0) ∧
      (∀ row ∈ rows, Writable recursionLimit row.entries) ∧ Fits manifest rows) ∧
    ∀ sized payload, result = .ok (sized, payload) →
      sized = sizedAs manifest.entries payload.length ∧
      ∀ readerLimit, recursionLimit ≤ readerLimit →
        ∃ first others, splitLines payload = first :: others ∧
          loadsLine readerLimit first = .ok (.dict sized) ∧
          others.mapM (loadsLine readerLimit) = .ok (rows.map fun row => .dict row.entries) := by
  refine ⟨embeddedManifestMetadataPayload_never_exhausted manifest rows, ⟨?_, ?_⟩, ?_⟩
  · rintro ⟨⟨sized, payload⟩, ran⟩
    rcases embeddedManifestMetadataPayload_returns ran with
      ⟨rowsWritable, small, isPayload, _, writable⟩
    exact ⟨(writable_sizedAs_iff manifest.entries small).mp writable, rowsWritable,
      payload.length, small, (congrArg List.length isPayload).symm⟩
  · rintro ⟨writable, rowsWritable, fits⟩
    exact embeddedManifestMetadataPayload_settles writable rowsWritable fits
  · intro sized payload ran
    rcases embeddedManifestMetadataPayload_returns ran with
      ⟨rowsWritable, _, isPayload, isSized, writable⟩
    refine ⟨isSized, fun readerLimit enough => ?_⟩
    have sound := sound_sizedAs manifest payload.length
    have lines : splitLines payload =
        lineBytes floatText (sizedAs manifest.entries payload.length) ::
          rows.map fun row => lineBytes floatText row.entries := by
      rw [← splitLines_rows, ← splitLines_line (lineBytes_printed sound)]
      exact congrArg splitLines isPayload
    refine ⟨_, _, lines, ?_, ?_⟩
    · rw [isSized]
      exact loadsLine_lineBytes sound writable enough
    · rw [mapM_eq_ok_iff, List.forall₂_map_left_iff, List.forall₂_map_right_iff, List.forall₂_same]
      exact fun row member => loadsLine_lineBytes row.sound (rowsWritable row member) enough

end Sizes

/-- A row whose label is half of a pair of surrogates. -/
def surrogateRow : Record fun _ => text "0.0" where
  entries := [(text "pts", .int 40), (text "label", .str [0xD800])]
  sound := by
    refine .dict (by decide) (by decide) ?_
    simp only [List.forall_mem_cons]
    exact ⟨.int 40, .str (by decide), List.forall_mem_nil _⟩

theorem surrogate_row_not_written :
    embeddedManifestMetadataPayload (fun _ => text "0.0") 1000 []
      ([surrogateRow].map Record.entries) = .error .unicodeEncodeError := rfl

/-- With two digits for its size the payload would have 100 bytes, so it takes three. -/
example :
    (embeddedManifestMetadataPayload (fun _ => text "0.0") 1000
      [(text "source_id", .str (List.replicate 58 97))] []).toOption.map
        (fun payload => payload.2.length) = some 101 := by decide +kernel

end VideoAnalysis.Sink
