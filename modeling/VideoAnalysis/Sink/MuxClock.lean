import VideoAnalysis.Foundation.OutputTrace
import VideoAnalysis.Python.Json

/-! # The clocks of a source pipeline

Frames enter the pipeline on a cadence of their own, and the parser's buffers leave for
the muxer on another clock. Both only go forward; a correction of the second shifts all
that follows it. Times are 64 bits wide, and the largest one means that there is none.
-/

namespace VideoAnalysis.Sink

open Foundation Python

/-! ## Times -/

/-- `CLOCK_TIME_NONE`. -/
def clockTimeNone : Int := 18446744073709551615

/-- `GstClockTime`. -/
structure ClockTime where
  value : Int
  inRange : 0 ≤ value ∧ value ≤ clockTimeNone

namespace ClockTime

def isNone (time : ClockTime) : Bool := time.value = clockTimeNone

/-- A field of a buffer is set to a number; what does not fit raises. -/
def ofInt (value : Int) : Except PyError ClockTime :=
  if inRange : 0 ≤ value ∧ value ≤ clockTimeNone then .ok ⟨value, inRange⟩
  else .error .overflowError

def move (time : ClockTime) (distance : Int) : Except PyError ClockTime :=
  if time.isNone then .ok time else ofInt (time.value + distance)

variable {time : ClockTime} {value : Int}

theorem value_of_ofInt (set : ofInt value = .ok time) : time.value = value := by
  unfold ofInt at set
  split at set
  · cases set
    rfl
  · cases set

theorem ofInt_of_fits (notNegative : 0 ≤ value) (below : value < clockTimeNone) :
    ∃ time, ofInt value = .ok time ∧ time.value = value ∧ time.isNone = false :=
  ⟨⟨value, notNegative, below.le⟩, dif_pos ⟨notNegative, below.le⟩, rfl, decide_eq_false below.ne⟩

theorem ofInt_cases (value : Int) :
    (∃ time, ofInt value = .ok time ∧ time.value = value ∧ 0 ≤ value ∧ value ≤ clockTimeNone) ∨
      ∃ error, ofInt value = .error error ∧ ¬(0 ≤ value ∧ value ≤ clockTimeNone) := by
  unfold ofInt
  split
  next inRange => exact .inl ⟨_, rfl, rfl, inRange⟩
  next outside => exact .inr ⟨_, rfl, outside⟩

theorem move_of_fits {distance : Int} (forward : 0 ≤ distance)
    (below : time.isNone = false → time.value + distance < clockTimeNone) :
    ∃ moved, time.move distance = .ok moved ∧ moved.isNone = time.isNone ∧
      (time.isNone = false → moved.value = time.value + distance) := by
  unfold move
  cases isSet : time.isNone with
  | true => exact ⟨time, rfl, isSet, fun absurdity => absurd absurdity (by decide)⟩
  | false =>
    have notNegative := time.inRange.1
    rcases ofInt_of_fits (by omega) (below isSet) with ⟨moved, set, isValue, hasTime⟩
    exact ⟨moved, set, hasTime, fun _ => isValue⟩

end ClockTime

structure MuxBuffer where
  pts : ClockTime
  dts : ClockTime
  duration : ClockTime

/-- A frame with its times as `convert_ts` gives them, its JSON where that is a dictionary,
and whether the source element takes the buffer. -/
structure EncodedFrame where
  inputPts : Int
  duration : Option Int
  row : Option (List (Text × Json))
  isPushed : Bool

structure SourcePipeline where
  lastInputPts : Option Int := none
  lastGstPts : Option Int := none
  lastMuxPts : Option Int := none
  lastMuxDuration : Int := 1000000000 / 24
  muxTimestampOffset : Int := 0
  failed : Bool := false
  closed : Bool := false

/-- A buffer as the probe leaves it, the correction that the offset takes over, and whether
the probe raises. -/
structure Probed where
  pipeline : SourcePipeline
  buffer : MuxBuffer
  correction : Int := 0
  raised : Bool := true

/-- A row as the ledger keeps it in its queue. -/
structure QueuedFrame where
  gstPts : Int
  row : List (Text × Json)

/-- What a call of `write_frame` leaves: the PTS of its buffer and the row in the queue, as
far as it comes, and whether it raises. -/
structure FrameWrite where
  pipeline : SourcePipeline
  assignedPts : Option Int := none
  queued : Option QueuedFrame := none
  raised : Bool := true

namespace SourcePipeline

variable (pipeline : SourcePipeline)

/-- The duration where there is one, else the last one of a mux buffer. -/
def durationOr (duration : Int) : Int :=
  if duration ≠ clockTimeNone ∧ 0 < duration then duration else pipeline.lastMuxDuration

/-- `_next_cadence_pts`. -/
def nextCadencePts (inputPts duration : Int) : Int :=
  match pipeline.lastGstPts with
  | none => if inputPts = clockTimeNone then 0 else inputPts
  | some lastGstPts =>
    lastGstPts + max 1 (if 0 < duration then duration else pipeline.lastMuxDuration)

def muxCorrection (shiftedPts : Int) : Int :=
  match pipeline.lastMuxPts with
  | some lastMuxPts => if shiftedPts ≤ lastMuxPts then lastMuxPts + 1 - shiftedPts else 0
  | none => 0

def synthesizedPts : Int :=
  match pipeline.lastMuxPts with
  | some lastMuxPts => lastMuxPts + pipeline.lastMuxDuration
  | none => 0

/-- `_ensure_mux_timestamp` where the buffer has no PTS. -/
def synthesize (buffer : MuxBuffer) : Probed :=
  match ClockTime.ofInt pipeline.synthesizedPts with
  | .error _ => { pipeline, buffer }
  | .ok pts =>
    { pipeline := { pipeline with lastMuxPts := some pts.value }
      buffer := { buffer with pts, dts := if buffer.dts.isNone then pts else buffer.dts }
      raised := false }

/-- `_ensure_mux_timestamp` where the buffer has a PTS; without a correction the last two
moves are by zero. -/
def shift (buffer : MuxBuffer) : Probed :=
  match ClockTime.ofInt (buffer.pts.value + pipeline.muxTimestampOffset) with
  | .error _ => { pipeline, buffer }
  | .ok shiftedPts =>
    match buffer.dts.move pipeline.muxTimestampOffset with
    | .error _ => { pipeline, buffer := { buffer with pts := shiftedPts } }
    | .ok shiftedDts =>
      let correction := pipeline.muxCorrection shiftedPts.value
      match ClockTime.ofInt (shiftedPts.value + correction) with
      | .error _ => { pipeline, buffer := { buffer with pts := shiftedPts, dts := shiftedDts } }
      | .ok pts =>
        match shiftedDts.move correction with
        | .error _ => { pipeline, buffer := { buffer with pts, dts := shiftedDts } }
        | .ok dts =>
          { pipeline := { pipeline with
              muxTimestampOffset := pipeline.muxTimestampOffset + correction
              lastMuxPts := some pts.value }
            buffer := { buffer with pts, dts }
            correction
            raised := false }

/-- `_ensure_mux_timestamp`. -/
def ensureMuxTimestamp (buffer : MuxBuffer) : Probed :=
  let timed := { pipeline with lastMuxDuration := pipeline.durationOr buffer.duration.value }
  if buffer.pts.isNone then timed.synthesize buffer else timed.shift buffer

def cadencePtsOf (frame : EncodedFrame) : Int :=
  pipeline.nextCadencePts frame.inputPts
    (pipeline.durationOr (frame.duration.getD clockTimeNone))

/-- `write_frame`. -/
def writeFrame (frame : EncodedFrame) : FrameWrite :=
  if pipeline.closed || pipeline.failed then { pipeline }
  else
    match ClockTime.ofInt (frame.duration.getD clockTimeNone),
      ClockTime.ofInt (pipeline.cadencePtsOf frame) with
    | .error _, _ | .ok _, .error _ => { pipeline }
    | .ok _, .ok pts =>
      match frame.row with
      | none => { pipeline, assignedPts := some pts.value }
      | some row =>
        if frame.isPushed then
          { pipeline := { pipeline with
              lastGstPts := some pts.value
              lastInputPts :=
                if frame.inputPts = clockTimeNone then pipeline.lastInputPts
                else some frame.inputPts }
            assignedPts := some pts.value
            queued := some ⟨pts.value, Json.store row "rolling_cache_mux_pts" (.int pts.value)⟩
            raised := false }
        else { pipeline, assignedPts := some pts.value }

/-- `_write_video_frame` closes the pipeline that a frame could not be written to. -/
def writeVideoFrame (frame : EncodedFrame) : FrameWrite :=
  let written := pipeline.writeFrame frame
  if written.raised then { written with pipeline := { written.pipeline with closed := true } }
  else written

/-! ## Steps -/

/-- Both clocks have started at zero or later, and a step has a length. -/
structure Timed : Prop where
  duration : 0 < pipeline.lastMuxDuration
  offset : 0 ≤ pipeline.muxTimestampOffset
  last : ∀ last, pipeline.lastMuxPts = some last → 0 ≤ last

/-- No time that the probe sets reaches `CLOCK_TIME_NONE`. -/
structure SumsFit (buffer : MuxBuffer) : Prop where
  synthesized : buffer.pts.isNone = true → ∀ last, pipeline.lastMuxPts = some last →
    last + pipeline.durationOr buffer.duration.value < clockTimeNone
  pts : buffer.pts.isNone = false → buffer.pts.value + pipeline.muxTimestampOffset +
    pipeline.muxCorrection (buffer.pts.value + pipeline.muxTimestampOffset) < clockTimeNone
  dts : buffer.pts.isNone = false → buffer.dts.isNone = false →
    buffer.dts.value + pipeline.muxTimestampOffset +
      pipeline.muxCorrection (buffer.pts.value + pipeline.muxTimestampOffset) < clockTimeNone

variable {pipeline}

theorem durationOr_pos (positive : 0 < pipeline.lastMuxDuration) (duration : Int) :
    0 < pipeline.durationOr duration := by
  unfold durationOr
  split
  next given => exact given.2
  next => exact positive

theorem muxCorrection_nonneg (shiftedPts : Int) : 0 ≤ pipeline.muxCorrection shiftedPts := by
  unfold muxCorrection
  split
  · split
    · omega
    · exact le_refl 0
  · exact le_refl 0

theorem lt_add_muxCorrection {last : Int} (isLast : pipeline.lastMuxPts = some last)
    (shiftedPts : Int) : last < shiftedPts + pipeline.muxCorrection shiftedPts := by
  simp only [muxCorrection, isLast]
  split <;> omega

theorem muxCorrection_of_later {shiftedPts : Int}
    (later : ∀ last, pipeline.lastMuxPts = some last → last < shiftedPts) :
    pipeline.muxCorrection shiftedPts = 0 := by
  unfold muxCorrection
  split
  next last isLast => exact if_neg (not_le.mpr (later last isLast))
  next => rfl

/-- What the probe leaves where it does not raise. -/
structure Stamped (pipeline : SourcePipeline) (buffer : MuxBuffer) (probed : Probed)
    (pts : ClockTime) : Prop where
  left : probed.buffer.pts = pts
  later : ∀ last, pipeline.lastMuxPts = some last → last < pts.value
  next : probed.pipeline = { pipeline with
    lastMuxPts := some pts.value
    lastMuxDuration := pipeline.durationOr buffer.duration.value
    muxTimestampOffset := pipeline.muxTimestampOffset + probed.correction }
  corrected : 0 ≤ probed.correction
  real : buffer.pts.isNone = false →
    pts.value = buffer.pts.value + pipeline.muxTimestampOffset + probed.correction ∧
      probed.correction = pipeline.muxCorrection (buffer.pts.value + pipeline.muxTimestampOffset)

theorem ensureMuxTimestamp_cases (timed : pipeline.Timed) (buffer : MuxBuffer) :
    ((pipeline.ensureMuxTimestamp buffer).raised = true ∧
      (pipeline.ensureMuxTimestamp buffer).correction = 0 ∧
      (pipeline.ensureMuxTimestamp buffer).pipeline =
        { pipeline with lastMuxDuration := pipeline.durationOr buffer.duration.value }) ∨
    (pipeline.ensureMuxTimestamp buffer).raised = false ∧
      ∃ pts, Stamped pipeline buffer (pipeline.ensureMuxTimestamp buffer) pts := by
  have durationPos := durationOr_pos timed.duration buffer.duration.value
  cases isInput : buffer.pts.isNone with
  | true =>
    simp only [ensureMuxTimestamp, isInput, if_true, synthesize]
    split
    next => exact .inl ⟨rfl, rfl, rfl⟩
    next pts set =>
      refine .inr ⟨rfl, pts, rfl, ?_, ?_, le_refl 0, ?_⟩
      · intro last isLast
        rw [ClockTime.value_of_ofInt set]
        simp only [synthesizedPts, isLast]
        omega
      · rw [Int.add_zero]
      · intro real
        rw [isInput] at real
        cases real
  | false =>
    simp only [ensureMuxTimestamp, isInput, Bool.false_eq_true, if_false, shift]
    split
    next => exact .inl ⟨rfl, rfl, rfl⟩
    next shiftedPts shifted =>
      rw [ClockTime.value_of_ofInt shifted]
      split
      next => exact .inl ⟨rfl, rfl, rfl⟩
      next shiftedDts _ =>
        split
        next => exact .inl ⟨rfl, rfl, rfl⟩
        next pts set =>
          split
          next => exact .inl ⟨rfl, rfl, rfl⟩
          next =>
            refine .inr ⟨rfl, pts, rfl, ?_, rfl, muxCorrection_nonneg _, fun _ => ⟨?_, rfl⟩⟩
            · intro last isLast
              rw [ClockTime.value_of_ofInt set]
              exact lt_add_muxCorrection isLast _
            · exact ClockTime.value_of_ofInt set

theorem ensureMuxTimestamp_frame (pipeline : SourcePipeline) (buffer : MuxBuffer) :
    (pipeline.ensureMuxTimestamp buffer).pipeline.closed = pipeline.closed ∧
      (pipeline.ensureMuxTimestamp buffer).pipeline.lastGstPts = pipeline.lastGstPts := by
  simp only [ensureMuxTimestamp]
  split
  · unfold synthesize
    split <;> exact ⟨rfl, rfl⟩
  · unfold shift
    split
    · exact ⟨rfl, rfl⟩
    · split
      · exact ⟨rfl, rfl⟩
      · simp only
        split
        · exact ⟨rfl, rfl⟩
        · split <;> exact ⟨rfl, rfl⟩

theorem ensureMuxTimestamp_of_fits (timed : pipeline.Timed) {buffer : MuxBuffer}
    (fits : pipeline.SumsFit buffer) :
    (pipeline.ensureMuxTimestamp buffer).raised = false ∧
      (pipeline.ensureMuxTimestamp buffer).buffer.pts.isNone = false := by
  have durationPos := durationOr_pos timed.duration buffer.duration.value
  have offset := timed.offset
  cases isInput : buffer.pts.isNone with
  | true =>
    have sum : 0 ≤ ({ pipeline with
          lastMuxDuration := pipeline.durationOr buffer.duration.value } :
            SourcePipeline).synthesizedPts ∧
        ({ pipeline with
          lastMuxDuration := pipeline.durationOr buffer.duration.value } :
            SourcePipeline).synthesizedPts < clockTimeNone := by
      unfold synthesizedPts
      split
      next last isLast =>
        have notNegative := timed.last last isLast
        exact ⟨by dsimp only; omega, fits.synthesized isInput last isLast⟩
      next => decide
    rcases ClockTime.ofInt_of_fits sum.1 sum.2 with ⟨_, set, _, hasTime⟩
    simp only [ensureMuxTimestamp, isInput, if_true, synthesize, set]
    exact ⟨trivial, hasTime⟩
  | false =>
    have inputs := buffer.pts.inRange.1
    have correction :=
      @muxCorrection_nonneg pipeline (buffer.pts.value + pipeline.muxTimestampOffset)
    have sum := fits.pts isInput
    rcases @ClockTime.ofInt_of_fits (buffer.pts.value + pipeline.muxTimestampOffset) (by omega)
      (by omega) with ⟨shiftedPts, shifted, isShifted, _⟩
    rcases @ClockTime.move_of_fits buffer.dts _ offset (fun hasDts => by
      have sumDts := fits.dts isInput hasDts
      omega) with ⟨shiftedDts, shiftedTime, sameTime, isDts⟩
    rcases ClockTime.ofInt_of_fits (by omega) sum with ⟨_, set, _, hasTime⟩
    rcases @ClockTime.move_of_fits shiftedDts _ correction (fun hasDts => by
      have noDts := sameTime.symm.trans hasDts
      rw [isDts noDts]
      exact fits.dts isInput noDts) with ⟨dts, moved, _⟩
    simp only [ensureMuxTimestamp, isInput, Bool.false_eq_true, if_false, shift, shifted,
      shiftedTime, isShifted]
    have sameCorrection : ({ pipeline with
        lastMuxDuration := pipeline.durationOr buffer.duration.value } :
          SourcePipeline).muxCorrection (buffer.pts.value + pipeline.muxTimestampOffset) =
        pipeline.muxCorrection (buffer.pts.value + pipeline.muxTimestampOffset) := rfl
    rw [sameCorrection, set]
    simp only [moved]
    exact ⟨trivial, hasTime⟩

theorem Timed.ensureMuxTimestamp (timed : pipeline.Timed) (buffer : MuxBuffer) :
    (pipeline.ensureMuxTimestamp buffer).pipeline.Timed := by
  have durationPos := durationOr_pos timed.duration buffer.duration.value
  rcases ensureMuxTimestamp_cases timed buffer with ⟨_, _, kept⟩ | ⟨_, pts, stamped⟩
  · rw [kept]
    exact ⟨durationPos, timed.offset, timed.last⟩
  · rw [stamped.next]
    refine ⟨durationPos, Int.add_nonneg timed.offset stamped.corrected, ?_⟩
    rintro _ ⟨⟩
    exact pts.inRange.1

theorem lt_nextCadencePts {last : Int} (isLast : pipeline.lastGstPts = some last)
    (inputPts duration : Int) : last < pipeline.nextCadencePts inputPts duration := by
  simp only [nextCadencePts, isLast]
  omega

/-- A frame that can be written. -/
structure Writable (pipeline : SourcePipeline) (frame : EncodedFrame) : Prop where
  isOpen : pipeline.closed = false
  healthy : pipeline.failed = false
  duration : ∀ duration, frame.duration = some duration → 0 ≤ duration ∧ duration ≤ clockTimeNone
  pts : 0 ≤ pipeline.cadencePtsOf frame ∧ pipeline.cadencePtsOf frame ≤ clockTimeNone
  row : frame.row.isSome = true
  isPushed : frame.isPushed = true

/-- All that the sink does with a frame: one that can be written gets the cadence PTS, which
its row records; after any other the pipeline is closed. -/
theorem writeVideoFrame_cases (pipeline : SourcePipeline) (frame : EncodedFrame) :
    (pipeline.Writable frame ∧ ∃ row, frame.row = some row ∧
      pipeline.writeVideoFrame frame =
        { pipeline := { pipeline with
            lastGstPts := some (pipeline.cadencePtsOf frame)
            lastInputPts :=
              if frame.inputPts = clockTimeNone then pipeline.lastInputPts
              else some frame.inputPts }
          assignedPts := some (pipeline.cadencePtsOf frame)
          queued := some ⟨pipeline.cadencePtsOf frame,
            Json.store row "rolling_cache_mux_pts" (.int (pipeline.cadencePtsOf frame))⟩
          raised := false }) ∨
    ¬pipeline.Writable frame ∧ ∃ assigned, pipeline.writeVideoFrame frame =
        { pipeline := { pipeline with closed := true }, assignedPts := assigned } ∧
      ∀ pts, assigned = some pts → pipeline.closed = false ∧ pts = pipeline.cadencePtsOf frame := by
  by_cases shut : (pipeline.closed || pipeline.failed) = true
  · refine .inr ⟨fun writable => ?_, none, ?_, fun _ absurdity => ?_⟩
    · rw [writable.isOpen, writable.healthy] at shut
      cases shut
    · simp only [writeVideoFrame, writeFrame, if_pos shut, if_true]
    · cases absurdity
  have closedAfter (notWritable : ¬pipeline.Writable frame) : ∀ assigned,
      pipeline.writeFrame frame = { pipeline, assignedPts := assigned } →
      (∀ pts, assigned = some pts → pts = pipeline.cadencePtsOf frame) →
      ¬pipeline.Writable frame ∧ ∃ assigned, pipeline.writeVideoFrame frame =
          { pipeline := { pipeline with closed := true }, assignedPts := assigned } ∧
        ∀ pts, assigned = some pts →
          pipeline.closed = false ∧ pts = pipeline.cadencePtsOf frame := by
    intro assigned same isCadence
    rw [Bool.or_eq_true, not_or, Bool.not_eq_true] at shut
    exact ⟨notWritable, assigned, by simp only [writeVideoFrame, same, if_true],
      fun pts isPts => ⟨shut.1, isCadence pts isPts⟩⟩
  rcases ClockTime.ofInt_cases (frame.duration.getD clockTimeNone) with
    ⟨duration, setDuration, isDuration, inRange⟩ | ⟨error, raised, outside⟩
  · rcases ClockTime.ofInt_cases (pipeline.cadencePtsOf frame) with
      ⟨pts, setPts, isPts, ptsInRange⟩ | ⟨error, raised, outside⟩
    · have assigns (assigned : Int) (same : some pts.value = some assigned) :
          assigned = pipeline.cadencePtsOf frame := (Option.some.inj same).symm.trans isPts
      cases isRow : frame.row with
      | none =>
        refine .inr (closedAfter (fun writable => ?_) (some pts.value) ?_ assigns)
        · have hasRow := writable.row
          rw [isRow] at hasRow
          cases hasRow
        · simp only [writeFrame, if_neg shut, setDuration, setPts, isRow]
      | some row =>
        cases isPushed : frame.isPushed with
        | false =>
          refine .inr (closedAfter (fun writable => ?_) (some pts.value) ?_ assigns)
          · rw [writable.isPushed] at isPushed
            cases isPushed
          · simp only [writeFrame, if_neg shut, setDuration, setPts, isRow, isPushed,
              Bool.false_eq_true, if_false]
        | true =>
          rw [Bool.or_eq_true, not_or, Bool.not_eq_true, Bool.not_eq_true] at shut
          refine .inl ⟨⟨shut.1, shut.2, ?_, ptsInRange, by rw [isRow]; rfl, isPushed⟩, row, rfl, ?_⟩
          · intro given isGiven
            rw [isGiven] at inRange
            exact inRange
          · simp only [writeVideoFrame, writeFrame, shut, setDuration, setPts, isRow, isPushed,
              Bool.or_self, Bool.false_eq_true, if_false, if_true, isPts]
    · refine .inr (closedAfter (fun writable => outside writable.pts) none ?_ ?_)
      · simp only [writeFrame, if_neg shut, setDuration, raised]
      · intro _ absurdity
        cases absurdity
  · refine .inr (closedAfter (fun writable => outside ?_) none ?_ ?_)
    · cases isGiven : frame.duration with
      | none => decide
      | some given => exact writable.duration given isGiven
    · simp only [writeFrame, if_neg shut, raised]
    · intro _ absurdity
      cases absurdity

end SourcePipeline

/-! ## Sessions -/

/-- What happens to a pipeline, in any order: a buffer at the probe, a frame, an error on
the bus, the end of the session. -/
inductive SessionEvent where
  | probe (buffer : Option MuxBuffer)
  | frame (frame : EncodedFrame)
  | markFailed
  | finish

/-- No time that the event sets on a buffer of the muxer reaches `CLOCK_TIME_NONE`. -/
def SourcePipeline.Fits (pipeline : SourcePipeline) : SessionEvent → Prop
  | .probe (some buffer) => pipeline.SumsFit buffer
  | .probe none | .frame _ | .markFailed | .finish => True

namespace Session

def step (pipeline : SourcePipeline) : SessionEvent → SourcePipeline
  | .probe none => pipeline
  | .probe (some buffer) => (pipeline.ensureMuxTimestamp buffer).pipeline
  | .frame frame => (pipeline.writeVideoFrame frame).pipeline
  | .markFailed => { pipeline with failed := true }
  | .finish => { pipeline with closed := true }

def probed (pipeline : SourcePipeline) : SessionEvent → Option Probed
  | .probe buffer => buffer.map pipeline.ensureMuxTimestamp
  | .frame _ | .markFailed | .finish => none

def written (pipeline : SourcePipeline) : SessionEvent → Option FrameWrite
  | .frame frame => some (pipeline.writeVideoFrame frame)
  | .probe _ | .markFailed | .finish => none

def muxPts : OutputMachine SourcePipeline SessionEvent Int where
  step := step
  output pipeline event := (probed pipeline event).bind fun probed =>
    if probed.buffer.pts.isNone then none else some probed.buffer.pts.value

def corrections : OutputMachine SourcePipeline SessionEvent Int where
  step := step
  output pipeline event := (probed pipeline event).map Probed.correction

/-- The PTS values that `write_frame` assigns. -/
def cadencePts : OutputMachine SourcePipeline SessionEvent Int where
  step := step
  output pipeline event := (written pipeline event).bind FrameWrite.assignedPts

def queuedFrames : OutputMachine SourcePipeline SessionEvent QueuedFrame where
  step := step
  output pipeline event := (written pipeline event).bind FrameWrite.queued

def run (events : List SessionEvent) : SourcePipeline := events.foldl step {}

/-! ## Runs of a session -/

variable {pipeline : SourcePipeline}

theorem writeVideoFrame_keeps (pipeline : SourcePipeline) (frame : EncodedFrame) :
    (step pipeline (.frame frame)).lastMuxPts = pipeline.lastMuxPts ∧
      (step pipeline (.frame frame)).muxTimestampOffset = pipeline.muxTimestampOffset ∧
      (step pipeline (.frame frame)).lastMuxDuration = pipeline.lastMuxDuration := by
  rcases pipeline.writeVideoFrame_cases frame with ⟨_, row, _, same⟩ | ⟨_, assigned, same, _⟩ <;>
    simp only [step, same, and_self]

theorem timed_step (timed : pipeline.Timed) (event : SessionEvent) :
    (step pipeline event).Timed := by
  cases event with
  | probe buffer =>
    cases buffer with
    | none => exact timed
    | some buffer => exact timed.ensureMuxTimestamp buffer
  | frame frame =>
    rcases writeVideoFrame_keeps pipeline frame with ⟨last, offset, duration⟩
    exact ⟨duration ▸ timed.duration, offset ▸ timed.offset, last ▸ timed.last⟩
  | markFailed | finish => exact ⟨timed.duration, timed.offset, timed.last⟩

theorem timed_run (events : List SessionEvent) : (run events).Timed := by
  have keeps : muxPts.Keeps SourcePipeline.Timed := fun _ event timed => timed_step timed event
  refine OutputMachine.Keeps.run _ keeps {} ⟨by decide, le_refl 0, ?_⟩ events
  intro last isLast
  cases isLast

variable {event : SessionEvent} {pts : Int}

theorem muxPts_output (timed : pipeline.Timed) (fits : pipeline.Fits event)
    (put : muxPts.output pipeline event = some pts) :
    ∃ buffer time, event = .probe (some buffer) ∧ time.value = pts ∧
      SourcePipeline.Stamped pipeline buffer (pipeline.ensureMuxTimestamp buffer) time := by
  cases event with
  | probe buffer =>
    cases buffer with
    | none => cases put
    | some buffer =>
      have runs := (SourcePipeline.ensureMuxTimestamp_of_fits timed fits).1
      rcases SourcePipeline.ensureMuxTimestamp_cases timed buffer with
        ⟨raised, _⟩ | ⟨_, time, stamped⟩
      · rw [runs] at raised
        cases raised
      · refine ⟨buffer, time, rfl, ?_, stamped⟩
        simp only [muxPts, probed, Option.map_some, Option.bind_some, stamped.left] at put
        split at put
        · cases put
        · exact Option.some.inj put
  | frame | markFailed | finish => cases put

def MindsMux (pipeline : SourcePipeline) (pts : Int) : Prop :=
  ∃ last, pipeline.lastMuxPts = some last ∧ pts ≤ last

theorem mindsMux_step (timed : pipeline.Timed) (event : SessionEvent)
    (minds : MindsMux pipeline pts) : MindsMux (step pipeline event) pts := by
  rcases minds with ⟨last, isLast, notLater⟩
  cases event with
  | probe buffer =>
    cases buffer with
    | none => exact ⟨last, isLast, notLater⟩
    | some buffer =>
      simp only [step]
      rcases SourcePipeline.ensureMuxTimestamp_cases timed buffer with
        ⟨_, _, kept⟩ | ⟨_, time, stamped⟩
      · rw [kept]
        exact ⟨last, isLast, notLater⟩
      · rw [stamped.next]
        exact ⟨time.value, rfl, notLater.trans (stamped.later last isLast).le⟩
  | frame frame => exact ⟨last, (writeVideoFrame_keeps pipeline frame).1.trans isLast, notLater⟩
  | markFailed | finish => exact ⟨last, isLast, notLater⟩

theorem muxPts_ascend {events : List SessionEvent}
    (fits : OutputMachine.AtEachStep events fun before event => (run before).Fits event) :
    (muxPts.trace {} events).Pairwise (· < ·) := by
  refine muxPts.pairwise_of_remembers MindsMux (fun pipeline event =>
    pipeline.Timed ∧ pipeline.Fits event) ?_ ?_ ?_ {} ?_
  · rintro pipeline event pts ⟨timed, fits⟩ put
    rcases muxPts_output timed fits put with ⟨_, time, rfl, rfl, stamped⟩
    refine ⟨time.value, ?_, le_refl _⟩
    simp only [muxPts, step, stamped.next]
  · rintro pipeline event pts ⟨timed, _⟩ minds
    exact mindsMux_step timed event minds
  · rintro pipeline event pts earlier ⟨timed, fits⟩ put ⟨last, isLast, notLater⟩
    rcases muxPts_output timed fits put with ⟨_, _, rfl, rfl, stamped⟩
    exact notLater.trans_lt (stamped.later last isLast)
  · exact fun before event after split => ⟨timed_run before, fits before event after split⟩

/-- A pipeline that takes frames has the last PTS that it assigned in mind. -/
def MindsCadence (pipeline : SourcePipeline) (pts : Int) : Prop :=
  pipeline.closed = true ∨ ∃ last, pipeline.lastGstPts = some last ∧ pts ≤ last

theorem cadencePts_output (put : cadencePts.output pipeline event = some pts) :
    ∃ frame, event = .frame frame ∧ pipeline.closed = false ∧ pts = pipeline.cadencePtsOf frame ∧
      MindsCadence (step pipeline event) pts := by
  cases event with
  | probe | markFailed | finish => cases put
  | frame frame =>
    simp only [cadencePts, written, Option.bind_some] at put
    rcases pipeline.writeVideoFrame_cases frame with
      ⟨writable, row, _, same⟩ | ⟨_, assigned, same, isCadence⟩
    · rw [same] at put
      cases put
      refine ⟨frame, rfl, writable.isOpen, rfl, .inr ⟨_, ?_, le_refl _⟩⟩
      simp only [step, same]
    · rw [same] at put
      rcases isCadence pts put with ⟨isOpen, isPts⟩
      refine ⟨frame, rfl, isOpen, isPts, .inl ?_⟩
      simp only [step, same]

theorem mindsCadence_step (event : SessionEvent) (minds : MindsCadence pipeline pts) :
    MindsCadence (step pipeline event) pts := by
  cases event with
  | probe buffer =>
    cases buffer with
    | none => exact minds
    | some buffer =>
      rcases pipeline.ensureMuxTimestamp_frame buffer with ⟨sameClosed, sameLast⟩
      simpa only [MindsCadence, step, sameClosed, sameLast] using minds
  | frame frame =>
    simp only [step]
    rcases pipeline.writeVideoFrame_cases frame with
      ⟨writable, row, _, same⟩ | ⟨_, assigned, same, _⟩
    · rw [same]
      rcases minds with isClosed | ⟨last, isLast, notLater⟩
      · exact .inl isClosed
      · have later := SourcePipeline.lt_nextCadencePts isLast frame.inputPts
          (pipeline.durationOr (frame.duration.getD clockTimeNone))
        exact .inr ⟨_, rfl, notLater.trans later.le⟩
    · rw [same]
      exact .inl rfl
  | markFailed => exact minds
  | finish => exact .inl rfl

theorem cadencePts_ascend (events : List SessionEvent) :
    (cadencePts.trace {} events).Pairwise (· < ·) := by
  refine cadencePts.pairwise_of_remembers MindsCadence (fun _ _ => True) ?_ ?_ ?_ {}
    (fun _ _ _ _ => trivial)
  · intro pipeline event pts _ put
    rcases cadencePts_output put with ⟨_, _, _, _, minds⟩
    exact minds
  · exact fun pipeline event pts _ minds => mindsCadence_step event minds
  · intro pipeline event pts earlier _ put minds
    rcases cadencePts_output put with ⟨_, _, isOpen, rfl, _⟩
    rcases minds with isClosed | ⟨last, isLast, notLater⟩
    · rw [isOpen] at isClosed
      cases isClosed
    · exact notLater.trans_lt (SourcePipeline.lt_nextCadencePts isLast _ _)

theorem queuedFrames_output {queued : QueuedFrame}
    (put : queuedFrames.output pipeline event = some queued) :
    cadencePts.output pipeline event = some queued.gstPts ∧
      Json.lookup queued.row "rolling_cache_mux_pts" = some (.int queued.gstPts) := by
  cases event with
  | probe | markFailed | finish => cases put
  | frame frame =>
    simp only [queuedFrames, cadencePts, written, Option.bind_some] at put ⊢
    rcases pipeline.writeVideoFrame_cases frame with ⟨_, row, _, same⟩ | ⟨_, assigned, same, _⟩
    · rw [same] at put ⊢
      cases put
      exact ⟨rfl, Json.lookup_store_self _ _ _⟩
    · rw [same] at put
      cases put

theorem offset_step (timed : pipeline.Timed) (event : SessionEvent) :
    (step pipeline event).muxTimestampOffset =
        pipeline.muxTimestampOffset + (corrections.output pipeline event).toList.sum ∧
      0 ≤ (corrections.output pipeline event).toList.sum := by
  cases event with
  | probe buffer =>
    cases buffer with
    | none => exact ⟨(Int.add_zero _).symm, le_refl 0⟩
    | some buffer =>
      have sum : (corrections.output pipeline (.probe (some buffer))).toList.sum =
          (pipeline.ensureMuxTimestamp buffer).correction := List.sum_singleton
      rw [sum]
      simp only [step]
      rcases SourcePipeline.ensureMuxTimestamp_cases timed buffer with
        ⟨_, isZero, kept⟩ | ⟨_, time, stamped⟩
      · rw [kept, isZero]
        exact ⟨(Int.add_zero _).symm, le_refl 0⟩
      · rw [stamped.next]
        exact ⟨rfl, stamped.corrected⟩
  | frame frame =>
    rw [(writeVideoFrame_keeps pipeline frame).2.1]
    exact ⟨(Int.add_zero _).symm, le_refl 0⟩
  | markFailed | finish => exact ⟨(Int.add_zero _).symm, le_refl 0⟩

theorem offset_run (timed : pipeline.Timed) (events : List SessionEvent) :
    (events.foldl step pipeline).muxTimestampOffset =
        pipeline.muxTimestampOffset + (corrections.trace pipeline events).sum ∧
      0 ≤ (corrections.trace pipeline events).sum := by
  induction events generalizing pipeline with
  | nil => exact ⟨(Int.add_zero _).symm, le_refl 0⟩
  | cons event rest induction =>
    rcases offset_step timed event with ⟨isOffset, _⟩
    rcases induction (timed_step timed event) with ⟨later, _⟩
    have split : (corrections.trace pipeline (event :: rest)).sum =
        (corrections.output pipeline event).toList.sum +
          (corrections.trace (step pipeline event) rest).sum := List.sum_append
    rw [List.foldl_cons, later, isOffset, split]
    omega

theorem lastMuxPts_run {events : List SessionEvent}
    (fits : OutputMachine.AtEachStep events fun before event => (run before).Fits event) :
    (run events).lastMuxPts = (muxPts.trace {} events).getLast? := by
  induction events using List.reverseRecOn with
  | nil => rfl
  | append_singleton events event induction =>
    rcases OutputMachine.atEachStep_append.mp fits with ⟨fitsBefore, fitsLast⟩
    have next : run (events ++ [event]) = step (run events) event := List.foldl_append
    have runs : muxPts.run {} events = run events := rfl
    have timed := timed_run events
    rw [muxPts.trace_append, next, OutputMachine.trace, OutputMachine.trace, List.append_nil,
      runs, List.getLast?_append, ← induction fitsBefore]
    cases event with
    | probe buffer =>
      cases buffer with
      | none => rfl
      | some buffer =>
        rcases SourcePipeline.ensureMuxTimestamp_of_fits timed fitsLast with ⟨runsThrough, hasTime⟩
        rcases SourcePipeline.ensureMuxTimestamp_cases timed buffer with
          ⟨raised, _⟩ | ⟨_, time, stamped⟩
        · rw [runsThrough] at raised
          cases raised
        · rw [stamped.left] at hasTime
          simp only [step, stamped.next, muxPts, probed, Option.map_some, Option.bind_some,
            stamped.left, hasTime, Bool.false_eq_true, if_false]
          rfl
    | frame frame => exact (writeVideoFrame_keeps _ frame).1
    | markFailed | finish => rfl

theorem probe_in_run {before : List SessionEvent} {buffer : MuxBuffer}
    (fitsBefore : OutputMachine.AtEachStep before fun before event => (run before).Fits event)
    (fits : (run before).SumsFit buffer) :
    let offset := (run before).muxTimestampOffset
    let probed := (run before).ensureMuxTimestamp buffer
    probed.raised = false ∧ probed.buffer.pts.isNone = false ∧
      probed.pipeline.muxTimestampOffset = offset + probed.correction ∧
      (buffer.pts.isNone = false →
        probed.buffer.pts.value = buffer.pts.value + offset + probed.correction ∧
        ((∀ last, (muxPts.trace {} before).getLast? = some last →
            last < buffer.pts.value + offset) →
          probed.buffer.pts.value = buffer.pts.value + offset)) := by
  intro offset probed
  have timed := timed_run before
  rcases SourcePipeline.ensureMuxTimestamp_of_fits timed fits with ⟨runsThrough, hasTime⟩
  refine ⟨runsThrough, hasTime, ?_⟩
  rcases SourcePipeline.ensureMuxTimestamp_cases timed buffer with
    ⟨raised, _⟩ | ⟨_, time, stamped⟩
  · rw [runsThrough] at raised
    cases raised
  · refine ⟨by rw [stamped.next], fun real => ?_⟩
    rcases stamped.real real with ⟨shifted, isCorrection⟩
    rw [stamped.left]
    refine ⟨shifted, fun ahead => ?_⟩
    rw [← lastMuxPts_run fitsBefore] at ahead
    rw [SourcePipeline.muxCorrection_of_later ahead] at isCorrection
    rw [shifted, isCorrection, Int.add_zero]

theorem written_frame (pipeline : SourcePipeline) (frame : EncodedFrame) :
    ((pipeline.writeVideoFrame frame).raised = false ↔ pipeline.Writable frame) ∧
    (pipeline.Writable frame →
      (pipeline.writeVideoFrame frame).assignedPts = some (pipeline.cadencePtsOf frame) ∧
      ∃ row, (pipeline.writeVideoFrame frame).queued = some ⟨pipeline.cadencePtsOf frame, row⟩ ∧
        Json.lookup row "rolling_cache_mux_pts" = some (.int (pipeline.cadencePtsOf frame))) := by
  rcases pipeline.writeVideoFrame_cases frame with
    ⟨writable, row, _, same⟩ | ⟨notWritable, assigned, same, _⟩
  · rw [same]
    exact ⟨iff_of_true rfl writable, fun _ => ⟨rfl, _, rfl, Json.lookup_store_self _ _ _⟩⟩
  · rw [same]
    refine ⟨iff_of_false ?_ notWritable, fun writable => absurd writable notWritable⟩
    intro runsThrough
    cases runsThrough

end Session

/-- The offset is the sum of the corrections and the cadence goes forward; a write assigns the
cadence PTS and records it. While no time reaches `CLOCK_TIME_NONE` the clock of the muxer goes
forward as well, and the offset is all that a buffer is shifted by which comes after the one
before without a correction. -/
theorem mux_clocks_go_forward (events : List SessionEvent) :
    (Session.run events).muxTimestampOffset = (Session.corrections.trace {} events).sum ∧
    (∀ before after, events = before ++ after →
      (Session.run before).muxTimestampOffset ≤ (Session.run events).muxTimestampOffset) ∧
    (Session.cadencePts.trace {} events).Pairwise (· < ·) ∧
    ((Session.queuedFrames.trace {} events).map QueuedFrame.gstPts).Pairwise (· < ·) ∧
    (∀ before frame after, events = before ++ .frame frame :: after →
      let pipeline := Session.run before
      let written := pipeline.writeVideoFrame frame
      (written.raised = false ↔ pipeline.Writable frame) ∧
      (pipeline.Writable frame →
        written.assignedPts = some (pipeline.cadencePtsOf frame) ∧
        ∃ row, written.queued = some ⟨pipeline.cadencePtsOf frame, row⟩ ∧
          Json.lookup row "rolling_cache_mux_pts" = some (.int (pipeline.cadencePtsOf frame)))) ∧
    ((OutputMachine.AtEachStep events fun before event => (Session.run before).Fits event) →
      (Session.muxPts.trace {} events).Pairwise (· < ·) ∧
      ∀ before buffer after, events = before ++ .probe (some buffer) :: after →
        let offset := (Session.run before).muxTimestampOffset
        let probed := (Session.run before).ensureMuxTimestamp buffer
        probed.raised = false ∧ probed.buffer.pts.isNone = false ∧
          probed.pipeline.muxTimestampOffset = offset + probed.correction ∧
          (buffer.pts.isNone = false →
            probed.buffer.pts.value = buffer.pts.value + offset + probed.correction ∧
            ((∀ last, (Session.muxPts.trace {} before).getLast? = some last →
                last < buffer.pts.value + offset) →
              probed.buffer.pts.value = buffer.pts.value + offset))) := by
  have start := Session.timed_run []
  have cadence := Session.cadencePts_ascend events
  refine ⟨?_, ?_, cadence, ?_, fun before frame _ _ => Session.written_frame _ frame, ?_⟩
  · exact (Session.offset_run start events).1.trans (Int.zero_add _)
  · rintro before after rfl
    have later := Session.offset_run (Session.timed_run before) after
    have whole : Session.run (before ++ after) = after.foldl Session.step (Session.run before) :=
      List.foldl_append
    rw [whole, later.1]
    omega
  · apply List.Pairwise.sublist _ cadence
    exact OutputMachine.trace_map_sublist _ QueuedFrame.gstPts rfl
      (fun _ _ _ put => (Session.queuedFrames_output put).1) {} events
  · intro fits
    refine ⟨Session.muxPts_ascend fits, ?_⟩
    intro before buffer after split
    have atBuffer := fits before _ after split
    subst split
    exact Session.probe_in_run fits.before atBuffer

def noTime : ClockTime := ⟨clockTimeNone, by decide⟩

def bufferAt (pts : ClockTime) (duration : ClockTime := noTime) : SessionEvent :=
  .probe (some { pts, dts := noTime, duration })

/-- A header without PTS between two frames, the second of which steps back. -/
theorem regression_goes_forward :
    Session.muxPts.trace {} [bufferAt ⟨5, by decide⟩, bufferAt noTime ⟨40, by decide⟩,
        bufferAt ⟨7, by decide⟩] = [5, 45, 46] ∧
      (Session.muxPts.trace {} [bufferAt ⟨5, by decide⟩, bufferAt noTime ⟨40, by decide⟩,
        bufferAt ⟨7, by decide⟩]).Pairwise (· < ·) := by
  refine ⟨by decide +kernel, ?_⟩
  refine ((mux_clocks_go_forward _).2.2.2.2.2 ?_).1
  refine OutputMachine.atEachStep_cons ?_ (OutputMachine.atEachStep_cons ?_
    (OutputMachine.atEachStep_cons ?_ OutputMachine.atEachStep_nil))
  · exact ⟨fun missing => absurd missing (by decide), fun _ => by decide +kernel,
      fun _ hasDts => absurd hasDts (by decide)⟩
  · refine ⟨fun _ last isLast => ?_, fun hasPts => absurd hasPts (by decide),
      fun _ hasDts => absurd hasDts (by decide)⟩
    have isFive : (Session.run [bufferAt ⟨5, by decide⟩]).lastMuxPts = some 5 := by decide +kernel
    cases isFive.symm.trans isLast
    decide +kernel
  · exact ⟨fun missing => absurd missing (by decide), fun _ => by decide +kernel,
      fun _ hasDts => absurd hasDts (by decide)⟩

/-- A duration that takes the clock to its end leaves a buffer without PTS, and the ones after
it where they are. -/
theorem clock_runs_out :
    ¬∀ events, (Session.muxPts.trace {} events).Pairwise (· < ·) := by
  intro all
  have ascends := all [bufferAt ⟨1, by decide⟩ ⟨18446744073709551614, by decide⟩, bufferAt noTime,
    bufferAt ⟨2, by decide⟩, bufferAt ⟨1, by decide⟩]
  have left : Session.muxPts.trace {}
      [bufferAt ⟨1, by decide⟩ ⟨18446744073709551614, by decide⟩, bufferAt noTime,
        bufferAt ⟨2, by decide⟩, bufferAt ⟨1, by decide⟩] = [1, 2, 1] := by decide +kernel
  rw [left] at ascends
  exact absurd ascends (by decide)

end VideoAnalysis.Sink
