import VideoAnalysis.Timeline.CanonicalClip

/-! # Rebased, ordered clips

What canonical clip metadata are for: the rows of the window as a timeline that starts at
zero and ascends. The frame numbers of the source decide the order first, so the clip
ascends exactly if they do not contradict the PTS.
-/

namespace VideoAnalysis.Timeline

open Foundation Python
open Json (lookup)

/-! ## Rows of a selection -/

def RowsAt (inside : Int → Bool) (row : Row) : Bool :=
  match rowPts row with
  | .ok (some pts) => inside pts
  | .ok none | .error _ => false

variable {row : Row} {frame : TimelineRow}

theorem viewRow_eq_some_iff {keep : Int → Bool} :
    viewRow keep row = some frame ↔
      rowPts row = .ok (some frame.pts) ∧ keep frame.pts = true ∧
        frame = { row, pts := frame.pts, frameNum := returned (rowFrameNum row) } := by
  unfold viewRow
  cases isRead : rowPts row with
  | error => simp [returned, default]
  | ok read =>
    cases read with
    | none => simp [returned]
    | some pts =>
      simp only [returned, Option.bind_some, Except.ok.injEq, Option.some.injEq]
      cases kept : keep pts with
      | false =>
        simp only [Bool.false_eq_true, if_false]
        constructor
        · intro isNone
          cases isNone
        · rintro ⟨rfl, isKept, _⟩
          rw [kept] at isKept
          cases isKept
      | true =>
        simp only [if_true, Option.some.injEq]
        constructor
        · rintro rfl
          exact ⟨rfl, kept, rfl⟩
        · rintro ⟨rfl, _, same⟩
          exact same.symm

theorem viewRow_isSome {keep : Int → Bool} (row : Row) :
    (viewRow keep row).isSome = RowsAt keep row := by
  unfold viewRow RowsAt
  cases rowPts row with
  | error => rfl
  | ok read =>
    cases read with
    | none => rfl
    | some pts => cases kept : keep pts <;> simp [returned, kept]

theorem map_row_viewRows (keep : Int → Bool) (rows : List Row) :
    (viewRows keep rows).map TimelineRow.row = rows.filter (RowsAt keep) := by
  induction rows with
  | nil => rfl
  | cons row _ induction =>
    rw [viewRows, List.filterMap_cons, List.filter_cons, ← viewRow_isSome]
    rw [viewRows] at induction
    cases view : viewRow keep row with
    | none => simpa using induction
    | some frame =>
      have isRow : frame.row = row := by rw [(viewRow_eq_some_iff.mp view).2.2]
      simpa [isRow] using induction

theorem rowPts_of_mem_viewRows {keep : Int → Bool} {rows : List Row}
    (member : frame ∈ viewRows keep rows) :
    rowPts frame.row = .ok (some frame.pts) ∧ keep frame.pts = true := by
  rcases List.mem_filterMap.mp member with ⟨_, _, view⟩
  rcases viewRow_eq_some_iff.mp view with ⟨isPts, kept, same⟩
  rw [same]
  exact ⟨isPts, kept⟩

/-! ## What the made rows hold -/

def ptsOf (row : Row) : Int := (returned (rowPts row)).getD 0

theorem ptsOf_eq {pts : Int} (isPts : rowPts row = .ok (some pts)) :
    ptsOf row = pts := by
  rw [ptsOf, isPts]
  rfl

variable (index : Nat)

theorem rowPts_timedRow (time : Int) (row : Row) :
    rowPts (timedRow index time row) = rowPts row := by
  simp only [rowPts, lookup_timedRow]
  rfl

theorem rowPts_movedRow {pts : Int} (isPts : rowPts row = .ok (some pts)) (elapsed : Int) :
    rowPts (movedRow elapsed row) = .ok (some elapsed) := by
  have moved : lookup (movedRow elapsed row) "pts" =
      (lookup row "pts").map fun _ => .int elapsed := by
    rw [lookup_movedRow, if_pos (.inl rfl)]
  have movedFrame : lookup (movedRow elapsed row) "frame_pts" =
      (lookup row "frame_pts").map fun _ => .int elapsed := by
    rw [lookup_movedRow, if_pos (.inr rfl)]
  rw [rowPts, moved, movedFrame]
  cases first : lookup row "pts" with
  | some => rfl
  | none =>
    cases second : lookup row "frame_pts" with
    | some => rfl
    | none =>
      rw [rowPts, first, second] at isPts
      cases isPts

theorem rowPts_store_dts (row : Row) (value : Json) :
    rowPts (Json.store row "dts" value) = rowPts row := by
  simp only [rowPts, Json.lookup_store]
  rfl

theorem rowPts_rowView (isPts : rowPts frame.row = .ok (some frame.pts)) (rebase : Bool)
    (origin : Int) (index : Nat) :
    rowPts (rowView rebase origin index frame) =
      .ok (some (if rebase then frame.pts - origin else frame.pts)) := by
  have timed := rowPts_timedRow index (millis (frame.pts - origin)) frame.row
  cases rebase with
  | false =>
    simp only [rowView, Bool.false_eq_true, if_false]
    rw [timed, isPts]
  | true =>
    have moved := rowPts_movedRow (timed.trans isPts) (frame.pts - origin)
    simp only [rowView, if_true]
    split
    next dts _ => rw [rowPts_store_dts, moved]
    next => exact moved

theorem lookup_rowView {key : String} (other : key ∉ ["pts", "frame_pts", "dts"])
    (rebase : Bool) (origin : Int) (index : Nat) (frame : TimelineRow) :
    lookup (rowView rebase origin index frame) key =
      lookup (timedRow index (millis (frame.pts - origin)) frame.row) key := by
  simp only [List.mem_cons, List.not_mem_nil, or_false, not_or] at other
  rcases other with ⟨notPts, notFrame, notDts⟩
  have moved : lookup (movedRow (frame.pts - origin) (timedRow index
        (millis (frame.pts - origin)) frame.row)) key =
      lookup (timedRow index (millis (frame.pts - origin)) frame.row) key := by
    rw [lookup_movedRow, if_neg (by simp [notPts, notFrame])]
  unfold rowView
  cases rebase with
  | false => rfl
  | true =>
    simp only [if_true]
    split
    next dts _ => rw [Json.lookup_store, if_neg notDts, moved]
    next => exact moved

variable (rebase : Bool) (origin : Int)

theorem getElem?_rowViews (frames : List TimelineRow) (index : Nat) :
    (rowViews rebase origin frames)[index]? = frames[index]?.map (rowView rebase origin index) := by
  rw [rowViews, List.getElem?_map, List.getElem?_zipIdx, Option.map_map, Nat.zero_add]
  rfl

theorem length_rowViews (frames : List TimelineRow) :
    (rowViews rebase origin frames).length = frames.length := by
  rw [rowViews, List.length_map, List.length_zipIdx]

def HavePts (frames : List TimelineRow) : Prop :=
  ∀ frame ∈ frames, rowPts frame.row = .ok (some frame.pts)

theorem mem_rowViews {rebase : Bool} {origin : Int} {frames : List TimelineRow}
    (member : row ∈ rowViews rebase origin frames) :
    ∃ frame ∈ frames, ∃ index, row = rowView rebase origin index frame := by
  rcases List.mem_map.mp member with ⟨⟨frame, index⟩, isFrame, same⟩
  exact ⟨frame, List.fst_mem_of_mem_zipIdx isFrame, index, same.symm⟩

theorem map_ptsOf_rowViews {frames : List TimelineRow} (havePts : HavePts frames) (origin : Int) :
    (rowViews true origin frames).map ptsOf = frames.map fun frame => frame.pts - origin := by
  apply List.ext_getElem?
  intro index
  rw [List.getElem?_map, getElem?_rowViews, Option.map_map, List.getElem?_map]
  cases atIndex : frames[index]? with
  | none => rfl
  | some frame =>
    have isPts := havePts frame (List.mem_of_getElem? atIndex)
    exact congrArg some (ptsOf_eq (rowPts_rowView isPts true origin index))

/-! ## Rebased timelines -/

def clipKeys : List String := ["frame_num", "clip_t_ms", "pts", "frame_pts", "dts"]

/-- A row of the clip, made from a row of the sink. -/
structure RebasedRow (origin : Int) (source row : Row) : Prop where
  pts : ∃ pts, rowPts source = .ok (some pts) ∧ rowPts row = .ok (some (pts - origin))
  others : ∀ key ∉ clipKeys, lookup row key = lookup source key

/-- The selected rows as a timeline from zero on. -/
structure RebasedTimeline (selected clip : List Row) : Prop where
  rows : ∃ (origin : Int) (sources : List Row), sources.Perm selected ∧
    List.Forall₂ (RebasedRow origin) sources clip
  ordered : (clip.map ptsOf).Pairwise (· ≤ ·)
  numbered : ∀ (index : Nat) (row : Row), clip[index]? = some row →
    lookup row "frame_num" = some (.int index)
  first : ∀ row, clip.head? = some row → rowPts row = .ok (some 0)
  nonnegative : ∀ row ∈ clip, 0 ≤ ptsOf row ∧
    ∃ time : Int, lookup row "clip_t_ms" = some (.int time) ∧ 0 ≤ time

theorem rebasedRow_rowView (isPts : rowPts frame.row = .ok (some frame.pts)) (origin : Int)
    (index : Nat) :
    RebasedRow origin frame.row (rowView true origin index frame) where
  pts := ⟨frame.pts, isPts, rowPts_rowView isPts true origin index⟩
  others := by
    intro key other
    simp only [clipKeys, List.mem_cons, List.not_mem_nil, or_false, not_or] at other
    rcases other with ⟨notNum, notTime, notPts, notFrame, notDts⟩
    rw [lookup_rowView (by simp [notPts, notFrame, notDts]), lookup_timedRow, if_neg notTime,
      if_neg notNum]

theorem forall₂_rowViews {frames : List TimelineRow} (havePts : HavePts frames) (origin : Int) :
    List.Forall₂ (RebasedRow origin) (frames.map TimelineRow.row)
      (rowViews true origin frames) := by
  rw [List.forall₂_map_left_iff, List.forall₂_iff_get]
  refine ⟨(length_rowViews true origin frames).symm, ?_⟩
  intro index inFrames inViews
  have atIndex := getElem?_rowViews true origin frames index
  rw [List.getElem?_eq_getElem inViews, List.getElem?_eq_getElem inFrames, Option.map_some,
    Option.some.injEq] at atIndex
  simp only [List.get_eq_getElem, atIndex]
  exact rebasedRow_rowView (havePts _ (List.getElem_mem inFrames)) origin index

theorem rebasedTimeline_rowViews {first : TimelineRow} {rest : List TimelineRow}
    {selected : List Row} (havePts : HavePts (first :: rest))
    (sources : ((first :: rest).map TimelineRow.row).Perm selected)
    (ascends : ((first :: rest).map TimelineRow.pts).Pairwise (· ≤ ·)) :
    RebasedTimeline selected (rowViews true first.pts (first :: rest)) := by
  have notBefore : ∀ frame ∈ first :: rest, 0 ≤ frame.pts - first.pts := by
    rw [List.map_cons, List.pairwise_cons, List.forall_mem_map] at ascends
    intro frame member
    rcases List.mem_cons.mp member with rfl | inRest
    · omega
    · exact sub_nonneg.mpr (ascends.1 frame inRest)
  refine ⟨⟨first.pts, _, sources, forall₂_rowViews havePts first.pts⟩, ?_, ?_, ?_, ?_⟩
  · rw [map_ptsOf_rowViews havePts, List.pairwise_map]
    rw [List.pairwise_map] at ascends
    exact ascends.imp fun le => sub_le_sub_right le _
  · intro index row atIndex
    rw [getElem?_rowViews] at atIndex
    rcases Option.map_eq_some_iff.mp atIndex with ⟨_, _, rfl⟩
    rw [lookup_rowView (by decide), lookup_timedRow]
    rfl
  · intro row isHead
    rw [List.head?_eq_getElem?, getElem?_rowViews] at isHead
    cases isHead
    rw [rowPts_rowView (havePts first List.mem_cons_self), if_pos rfl, sub_self]
  · intro row member
    rcases mem_rowViews member with ⟨frame, isFrame, index, rfl⟩
    rw [ptsOf_eq (rowPts_rowView (havePts frame isFrame) true first.pts index), if_pos rfl]
    refine ⟨notBefore frame isFrame, millis (frame.pts - first.pts), ?_, ?_⟩
    · rw [lookup_rowView (by decide), lookup_timedRow, if_pos rfl]
    · have nonneg := notBefore frame isFrame
      exact millis_nonneg_iff.mpr (by omega)

/-! ## Canonicalising again -/

def renumbered (origin : Int) (frames : List TimelineRow) : List TimelineRow :=
  frames.zipIdx.map fun (frame, index) =>
    { row := rowView false origin index frame, pts := frame.pts, frameNum := some index }

theorem getElem?_renumbered (frames : List TimelineRow) (index : Nat) :
    (renumbered origin frames)[index]? = frames[index]?.map fun frame =>
      { row := rowView false origin index frame, pts := frame.pts,
        frameNum := some (index : Int) } := by
  rw [renumbered, List.getElem?_map, List.getElem?_zipIdx, Option.map_map, Nat.zero_add]
  rfl

theorem map_pts_renumbered (frames : List TimelineRow) :
    (renumbered origin frames).map TimelineRow.pts = frames.map TimelineRow.pts := by
  apply List.ext_getElem?
  intro index
  rw [List.getElem?_map, getElem?_renumbered, Option.map_map, List.getElem?_map]
  rfl

theorem sortRows_renumbered (frames : List TimelineRow) :
    sortRows (renumbered origin frames) = renumbered origin frames := by
  apply sortByKeys_of_ascending
  rw [List.pairwise_iff_getElem]
  intro first second inFirst inSecond less
  have rankAt {index : Nat} (inFrames : index < (renumbered origin frames).length) :
      (renumbered origin frames)[index].rank = ((index : Int) : WithTop Int) := by
    have atIndex := getElem?_renumbered origin frames index
    rw [List.getElem?_eq_getElem inFrames] at atIndex
    rcases Option.map_eq_some_iff.mp atIndex.symm with ⟨_, _, same⟩
    rw [← same]
    rfl
  rw [rankAt inFirst, rankAt inSecond, WithTop.coe_lt_coe]
  exact_mod_cast less

theorem rowFrameNum_rowView (index : Nat) (frame : TimelineRow) :
    rowFrameNum (rowView false origin index frame) = .ok (some (index : Int)) := by
  rw [rowFrameNum, lookup_rowView (by decide), lookup_timedRow]
  rfl

theorem timedRow_timedRow (time : Int) (row : Row) :
    timedRow index time (timedRow index time row) = timedRow index time row := by
  have number : lookup (timedRow index time row) "frame_num" = some (.int index) := by
    rw [lookup_timedRow]
    rfl
  have clipTime : lookup (timedRow index time row) "clip_t_ms" = some (.int time) := by
    rw [lookup_timedRow]
    rfl
  rw [timedRow, Json.store_of_lookup number, Json.store_of_lookup clipTime]

theorem rowViews_renumbered (frames : List TimelineRow) :
    rowViews false origin (renumbered origin frames) = rowViews false origin frames := by
  apply List.ext_getElem?
  intro index
  rw [getElem?_rowViews, getElem?_renumbered, getElem?_rowViews, Option.map_map]
  cases frames[index]? with
  | none => rfl
  | some frame => exact congrArg some (timedRow_timedRow index _ frame.row)

section Again

variable {keep : Int → Bool} {frames : List TimelineRow}

theorem viewRow_rowView (isPts : rowPts frame.row = .ok (some frame.pts))
    (kept : keep frame.pts = true) (origin : Int) (index : Nat) :
    viewRow keep (rowView false origin index frame) = some {
      row := rowView false origin index frame, pts := frame.pts, frameNum := some index } := by
  rw [viewRow_eq_some_iff, rowPts_rowView isPts, rowFrameNum_rowView]
  exact ⟨rfl, kept, rfl⟩

theorem viewRows_rowViews (havePts : HavePts frames)
    (kept : ∀ frame ∈ frames, keep frame.pts = true) (origin : Int) :
    viewRows keep (rowViews false origin frames) = renumbered origin frames := by
  rw [viewRows, rowViews, List.filterMap_map, renumbered, ← List.filterMap_eq_map]
  apply List.filterMap_congr
  rintro ⟨frame, index⟩ member
  have isFrame := List.fst_mem_of_mem_zipIdx member
  exact viewRow_rowView (havePts frame isFrame) (kept frame isFrame) origin index

theorem readable_rowViews (havePts : HavePts frames) (origin : Int) :
    ∀ row ∈ rowViews false origin frames, Readable keep row := by
  intro row member
  rcases mem_rowViews member with ⟨frame, isFrame, index, rfl⟩
  refine ⟨some frame.pts, rowPts_rowView (havePts frame isFrame) false origin index, ?_⟩
  intro _
  exact ⟨_, rowFrameNum_rowView origin index frame⟩

end Again

/-! ## The clip of a window -/

section Clip

variable {window : CanonicalWindow} {rows : List Row} {eventPts : Int}
  {preSeconds postSeconds : Double}

theorem clipFrames_perm (window : CanonicalWindow) (rows : List Row) :
    (clipFrames window rows).Perm (viewRows window.covers rows) :=
  sortByKeys_perm _ _ _

theorem havePts_clipFrames (window : CanonicalWindow) (rows : List Row) :
    HavePts (clipFrames window rows) := by
  intro frame member
  exact (rowPts_of_mem_viewRows ((clipFrames_perm window rows).mem_iff.mp member)).1

theorem clipOf_renumbered (last : Int) {frames : List TimelineRow}
    (ends : endsOf (frames.map TimelineRow.pts) = some (origin, last)) :
    clipOf false (renumbered origin frames) = clipOf false frames := by
  rw [clipOf, map_pts_renumbered, ends, clipOf, ends]
  exact rowViews_renumbered origin frames

theorem endsOf_eq_none_iff {pts : List Int} : endsOf pts = none ↔ pts = [] := by
  cases pts with
  | nil => exact ⟨fun _ => rfl, fun _ => rfl⟩
  | cons =>
    rw [endsOf, List.head?_cons, List.getLast?_cons]
    simp

theorem canonicalize_again
    (isWindow : canonicalWindowFromEvent (some eventPts) preSeconds postSeconds = .ok window)
    (canonicalizable : Canonicalizable window rows eventPts false) :
    ∃ clip summary,
      canonicalizeSinkMetadata rows eventPts preSeconds postSeconds false = .ok (clip, summary) ∧
      canonicalizeSinkMetadata clip eventPts preSeconds postSeconds false =
        .ok (clip, summary) := by
  have summarized : Returns (clipSummary window eventPts false (clipFrames window rows).length
      (endsOf ((clipFrames window rows).map TimelineRow.pts))) :=
    clipSummary_returns_iff.mpr fun origin last ends =>
      (canonicalizable.inRange origin last ends).2
  rcases summarized with ⟨summary, isSummary⟩
  refine ⟨_, summary, canonicalize_of_canonicalizable isWindow canonicalizable isSummary, ?_⟩
  have havePts := havePts_clipFrames window rows
  have kept : ∀ frame ∈ clipFrames window rows, window.covers frame.pts = true := by
    intro frame member
    exact (rowPts_of_mem_viewRows ((clipFrames_perm window rows).mem_iff.mp member)).2
  cases ends : endsOf ((clipFrames window rows).map TimelineRow.pts) with
  | none =>
    rw [clipOf, ends]
    have empty := List.map_eq_nil_iff.mp (endsOf_eq_none_iff.mp ends)
    rw [ends, empty] at isSummary
    exact canonicalize_of_canonicalizable isWindow
      ⟨List.forall_mem_nil _, fun _ _ isSome => by cases isSome⟩
      isSummary
  | some both =>
    rcases both with ⟨origin, last⟩
    have inRange := canonicalizable.inRange origin last ends
    have again : clipFrames window (rowViews false origin (clipFrames window rows)) =
        renumbered origin (clipFrames window rows) := by
      rw [clipFrames, viewRows_rowViews havePts kept, sortRows_renumbered]
    have timeable : ∀ frame ∈ renumbered origin (clipFrames window rows),
        Timeable false origin frame := by
      intro frame member
      rcases List.mem_map.mp member with ⟨⟨old, _⟩, isOld, rfl⟩
      have known := inRange.1 old (List.fst_mem_of_mem_zipIdx isOld)
      exact ⟨known.inRange, fun isTrue => by cases isTrue⟩
    have clip : clipOf false (clipFrames window rows) =
        rowViews false origin (clipFrames window rows) := by
      rw [clipOf, ends]
    have second : Canonicalizable window (rowViews false origin (clipFrames window rows))
        eventPts false := by
      refine ⟨readable_rowViews havePts origin, ?_⟩
      intro first other isEnds
      rw [again, map_pts_renumbered, ends] at isEnds
      cases isEnds
      rw [again]
      exact ⟨timeable, inRange.2⟩
    have sameSummary : clipSummary window eventPts false
        (clipFrames window (rowViews false origin (clipFrames window rows))).length
        (endsOf ((clipFrames window (rowViews false origin (clipFrames window rows))).map
          TimelineRow.pts)) = .ok summary := by
      rw [again, map_pts_renumbered, renumbered, List.length_map, List.length_zipIdx]
      exact isSummary
    have result := canonicalize_of_canonicalizable isWindow second sameSummary
    rw [again, clipOf_renumbered origin last ends, clip] at result
    rw [clip]
    exact result

/-- What the canonical clip of an event is for. -/
structure CanonicalTimeline (rows : List Row) (eventPts : Int)
    (preSeconds postSeconds : Double) : Prop where
  rebased : ∃ window clip summary,
    canonicalWindowFromEvent (some eventPts) preSeconds postSeconds = .ok window ∧
    canonicalizeSinkMetadata rows eventPts preSeconds postSeconds true = .ok (clip, summary) ∧
    RebasedTimeline (rows.filter (RowsAt window.covers)) clip
  again : ∃ clip summary,
    canonicalizeSinkMetadata rows eventPts preSeconds postSeconds false = .ok (clip, summary) ∧
    canonicalizeSinkMetadata clip eventPts preSeconds postSeconds false = .ok (clip, summary)

/-- The numbers that are read are finite, the times are in the range of a float, and no row of
the window has a smaller frame number than another and a later PTS. -/
structure OrderedWindow (window : CanonicalWindow) (rows : List Row) (eventPts : Int) : Prop where
  readable : ∀ row ∈ rows, Readable window.covers row
  dts : ∀ row ∈ rows, RowsAt window.covers row = true → Returns (rowDts row)
  inRange : ∀ low ∈ viewRows window.covers rows,
    (∀ frame ∈ viewRows window.covers rows, low.pts ≤ frame.pts) →
      Double.InRange (eventPts - low.pts) ∧
        ∀ frame ∈ viewRows window.covers rows, Double.InRange (frame.pts - low.pts)
  agree : KeysAgree TimelineRow.rank TimelineRow.pts (viewRows window.covers rows)

theorem endsOf_of_ascends {frames : List TimelineRow} {origin last : Int}
    (ascends : (frames.map TimelineRow.pts).Pairwise (· ≤ ·))
    (ends : endsOf (frames.map TimelineRow.pts) = some (origin, last)) :
    (∃ low ∈ frames, low.pts = origin ∧ ∀ frame ∈ frames, low.pts ≤ frame.pts) ∧
      ∃ frame ∈ frames, frame.pts = last := by
  cases frames with
  | nil => cases ends
  | cons first rest =>
    rw [endsOf, List.head?_map, List.getLast?_map, List.head?_cons, Option.map_some] at ends
    cases isLast : (first :: rest).getLast? with
    | none => simp at isLast
    | some end_ =>
      rw [isLast] at ends
      cases ends
      refine ⟨⟨first, List.mem_cons_self, rfl, ?_⟩, end_, List.mem_of_getLast? isLast, rfl⟩
      rw [List.map_cons, List.pairwise_cons, List.forall_mem_map] at ascends
      rw [List.forall_mem_cons]
      exact ⟨le_refl _, ascends.1⟩

theorem exists_endsOf {frames : List TimelineRow} (member : frame ∈ frames) :
    ∃ origin last, endsOf (frames.map TimelineRow.pts) = some (origin, last) := by
  cases ends : endsOf (frames.map TimelineRow.pts) with
  | none =>
    rw [List.map_eq_nil_iff.mp (endsOf_eq_none_iff.mp ends)] at member
    cases member
  | some both => exact ⟨both.1, both.2, rfl⟩

theorem canonicalizable_iff_of_agree
    (agree : KeysAgree TimelineRow.rank TimelineRow.pts (viewRows window.covers rows)) :
    Canonicalizable window rows eventPts true ↔ OrderedWindow window rows eventPts := by
  have perm := clipFrames_perm window rows
  have ascends : ((clipFrames window rows).map TimelineRow.pts).Pairwise (· ≤ ·) :=
    sortByKeys_ascends_iff.mpr agree
  constructor
  · intro canonicalizable
    refine ⟨canonicalizable.readable, ?_, ?_, agree⟩
    · intro row member selected
      have isFrame : ∃ frame ∈ viewRows window.covers rows, frame.row = row := by
        have filtered : row ∈ rows.filter (RowsAt window.covers) :=
          List.mem_filter.mpr ⟨member, selected⟩
        rw [← map_row_viewRows] at filtered
        exact List.mem_map.mp filtered
      rcases isFrame with ⟨frame, isFrame, rfl⟩
      have inClip := perm.mem_iff.mpr isFrame
      rcases exists_endsOf inClip with ⟨origin, last, ends⟩
      exact ((canonicalizable.inRange origin last ends).1 frame inClip).dts rfl
    · intro low isLow lowest
      rcases exists_endsOf (perm.mem_iff.mpr isLow) with ⟨_, last, ends⟩
      rcases endsOf_of_ascends ascends ends with ⟨⟨first, isFirst, rfl, least⟩, _⟩
      have same : low.pts = first.pts :=
        le_antisymm (lowest first (perm.mem_iff.mp isFirst)) (least low (perm.mem_iff.mpr isLow))
      rcases canonicalizable.inRange _ last ends with ⟨timeable, _, event⟩
      rw [same]
      exact ⟨event, fun frame isFrame => (timeable frame (perm.mem_iff.mpr isFrame)).inRange⟩
  · intro ordered
    refine ⟨ordered.readable, ?_⟩
    intro origin last ends
    rcases endsOf_of_ascends ascends ends with ⟨⟨low, isLow, rfl, least⟩, final, isFinal, rfl⟩
    have lowest : ∀ frame ∈ viewRows window.covers rows, low.pts ≤ frame.pts :=
      fun frame isFrame => least frame (perm.mem_iff.mpr isFrame)
    rcases ordered.inRange low (perm.mem_iff.mp isLow) lowest with ⟨event, inRange⟩
    refine ⟨?_, inRange final (perm.mem_iff.mp isFinal), event⟩
    intro frame member
    have isFrame := perm.mem_iff.mp member
    have selected : frame.row ∈ rows.filter (RowsAt window.covers) := by
      rw [← map_row_viewRows]
      exact List.mem_map_of_mem isFrame
    rcases List.mem_filter.mp selected with ⟨isRow, inside⟩
    exact ⟨inRange frame isFrame, fun _ => ordered.dts frame.row isRow inside⟩

theorem clip_eq {rebase : Bool} {clip : List Row} {summary : ClipSummary}
    (isWindow : canonicalWindowFromEvent (some eventPts) preSeconds postSeconds = .ok window)
    (ran : canonicalizeSinkMetadata rows eventPts preSeconds postSeconds rebase =
      .ok (clip, summary)) : clip = clipOf rebase (clipFrames window rows) := by
  have canonicalizable := (canonicalizable_iff isWindow).mp ⟨_, ran⟩
  have summarized : Returns (clipSummary window eventPts rebase (clipFrames window rows).length
      (endsOf ((clipFrames window rows).map TimelineRow.pts))) :=
    clipSummary_returns_iff.mpr fun origin last ends =>
      (canonicalizable.inRange origin last ends).2
  rcases summarized with ⟨_, isSummary⟩
  rw [canonicalize_of_canonicalizable isWindow canonicalizable isSummary] at ran
  cases ran
  rfl

/-- The clip ascends exactly if the frames that it is made of do. -/
theorem clipOf_ascends_iff {frames : List TimelineRow} (havePts : HavePts frames) :
    ((clipOf true frames).map ptsOf).Pairwise (· ≤ ·) ↔
      (frames.map TimelineRow.pts).Pairwise (· ≤ ·) := by
  unfold clipOf
  cases ends : endsOf (frames.map TimelineRow.pts) with
  | none =>
    rw [endsOf_eq_none_iff.mp ends]
    exact Iff.rfl
  | some =>
    simp only [map_ptsOf_rowViews havePts, List.pairwise_map, sub_le_sub_iff_right]

theorem rebasedTimeline_clipOf {frames : List TimelineRow} {selected : List Row}
    (havePts : HavePts frames) (sources : (frames.map TimelineRow.row).Perm selected)
    (ascends : (frames.map TimelineRow.pts).Pairwise (· ≤ ·)) :
    RebasedTimeline selected (clipOf true frames) := by
  cases frames with
  | nil =>
    refine ⟨⟨0, [], sources, .nil⟩, .nil, ?_, ?_, ?_⟩
    · intro index row atIndex
      cases atIndex
    · intro row isHead
      cases isHead
    · intro row member
      cases member
  | cons first rest =>
    have clip : clipOf true (first :: rest) = rowViews true first.pts (first :: rest) := by
      cases ends : endsOf ((first :: rest).map TimelineRow.pts) with
      | none => cases endsOf_eq_none_iff.mp ends
      | some =>
        rw [clipOf, ends]
        rw [endsOf, List.map_cons, List.head?_cons, List.getLast?_cons] at ends
        cases ends
        rfl
    rw [clip]
    exact rebasedTimeline_rowViews havePts sources ascends

/-- The clip is the rebased timeline of the window exactly if the frame numbers of the window
do not contradict its PTS. -/
theorem canonicalTimeline_iff (rows : List Row) (eventPts : Int)
    (preSeconds postSeconds : Double) :
    CanonicalTimeline rows eventPts preSeconds postSeconds ↔
      ∃ window, canonicalWindowFromEvent (some eventPts) preSeconds postSeconds = .ok window ∧
        OrderedWindow window rows eventPts := by
  constructor
  · rintro ⟨⟨window, clip, summary, isWindow, ran, rebased⟩, _⟩
    have canonicalizable := (canonicalizable_iff isWindow).mp ⟨_, ran⟩
    have ordered := rebased.ordered
    rw [clip_eq isWindow ran, clipOf_ascends_iff (havePts_clipFrames window rows)] at ordered
    have agree : KeysAgree TimelineRow.rank TimelineRow.pts (viewRows window.covers rows) :=
      sortByKeys_ascends_iff.mp ordered
    exact ⟨window, isWindow, (canonicalizable_iff_of_agree agree).mp canonicalizable⟩
  · rintro ⟨window, isWindow, ordered⟩
    have canonicalizable := (canonicalizable_iff_of_agree ordered.agree).mpr ordered
    rcases (canonicalizable_iff isWindow).mpr canonicalizable with ⟨⟨clip, summary⟩, ran⟩
    have sources : ((clipFrames window rows).map TimelineRow.row).Perm
        (rows.filter (RowsAt window.covers)) := by
      rw [← map_row_viewRows]
      exact (clipFrames_perm window rows).map TimelineRow.row
    have ascends : ((clipFrames window rows).map TimelineRow.pts).Pairwise (· ≤ ·) :=
      sortByKeys_ascends_iff.mpr ordered.agree
    have kept : Canonicalizable window rows eventPts false := by
      refine ⟨canonicalizable.readable, ?_⟩
      intro origin last ends
      rcases canonicalizable.inRange origin last ends with ⟨timeable, inRange⟩
      exact ⟨fun frame member => ⟨(timeable frame member).inRange, fun isTrue => by cases isTrue⟩,
        inRange⟩
    refine ⟨⟨window, clip, summary, isWindow, ran, ?_⟩, canonicalize_again isWindow kept⟩
    rw [clip_eq isWindow ran]
    exact rebasedTimeline_clipOf (havePts_clipFrames window rows) sources ascends

end Clip

/-! ## A segment that counts its frames from zero -/

/-- The last frame of a segment and, a second later, the first of the next. -/
def restartedRows : List Row :=
  [[(text "frame_num", .int 5), (text "pts", .int 1000000000)],
    [(text "frame_num", .int 0), (text "pts", .int 2000000000)]]

/-- The later frame comes first, and the earlier one a second before the clip. -/
theorem restarted_segment_not_rebased :
    ¬CanonicalTimeline restartedRows 1500000000 (.finite false 5) (.finite false 5) := by
  rintro ⟨⟨_, clip, summary, _, ran, rebased⟩, _⟩
  have pts : (canonicalizeSinkMetadata restartedRows 1500000000 (.finite false 5)
      (.finite false 5) true).toOption.map (fun result => result.1.map ptsOf) =
        some [0, -1000000000] := by decide +kernel
  rw [ran] at pts
  have isClip : clip.map ptsOf = [0, -1000000000] := Option.some.inj pts
  have ordered := rebased.ordered
  rw [isClip] at ordered
  exact absurd ordered (by decide)

end VideoAnalysis.Timeline
