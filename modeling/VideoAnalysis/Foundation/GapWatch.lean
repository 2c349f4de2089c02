import Mathlib.Data.List.Basic
import Mathlib.Data.List.Induction

/-! # Stretches with bridged gaps

Something is seen in some frames of a run and missing in others. A watch remembers since when it
has been there: a gap that does not last is bridged, a longer one or a cleared frame forgets it.
-/

namespace VideoAnalysis.Foundation

/-- How a frame is read, and for how long something may be missing. -/
structure GapWatch (Frame : Type) where
  time : Frame → Nat
  seen : Frame → Bool
  cleared : Frame → Bool
  tolerance : Int

namespace GapWatch

variable {Frame : Type} (watch : GapWatch Frame)

/-- Since when something has been there, and since when it is missing. -/
abbrev Memory := Option (Nat × Option Nat)

/-- What is missing since then has been missing for too long. -/
def Lapsed (now missingSince : Nat) : Prop := watch.tolerance < (now : Int) - missingSince

instance (now missingSince : Nat) : Decidable (watch.Lapsed now missingSince) :=
  inferInstanceAs (Decidable (_ < _))

def found (now : Nat) : Memory → Memory
  | none => some (now, none)
  | some (since, none) => some (since, none)
  | some (since, some missingSince) =>
    if watch.Lapsed now missingSince then some (now, none) else some (since, none)

def missed (now : Nat) : Memory → Memory
  | none => none
  | some (since, missing) =>
    if watch.Lapsed now (missing.getD now) then none
    else some (since, some (missing.getD now))

def step (memory : Memory) (frame : Frame) : Memory :=
  if watch.cleared frame then none
  else if watch.seen frame then watch.found (watch.time frame) memory
  else watch.missed (watch.time frame) memory

def after (frames : List Frame) : Memory := frames.foldl watch.step none

/-- A stretch of frames that nothing has broken yet: seen in its first frame, never cleared, and
no gap that has been closed lasted, from its first missing frame to the one that sees it again. -/
structure Continues (first : Frame) (later : List Frame) : Prop where
  starts : watch.seen first = true
  kept : ∀ frame ∈ first :: later, watch.cleared frame = false
  bridged : ∀ before lastSeen missing gap next rest,
    first :: later = before ++ lastSeen :: missing :: gap ++ next :: rest →
      watch.seen lastSeen = true → (∀ frame ∈ missing :: gap, watch.seen frame = false) →
        watch.seen next = true → (watch.time next : Int) - watch.time missing ≤ watch.tolerance

/-- A stretch that is seen in its last frame too. -/
structure Unbroken (first : Frame) (later : List Frame) : Prop
    extends watch.Continues first later where
  ends : watch.seen ((first :: later).getLast (List.cons_ne_nil _ _)) = true

variable {watch}

variable (frames : List Frame)

theorem after_snoc (frame : Frame) :
    watch.after (frames ++ [frame]) = watch.step (watch.after frames) frame := by
  rw [after, List.foldl_append]
  rfl

/-! ## The gap at the end -/

variable (watch) in
def openGap (frames : List Frame) : Option Nat :=
  frames.foldl (fun missing frame =>
    if watch.seen frame then none else some (missing.getD (watch.time frame))) none

theorem openGap_snoc (frame : Frame) :
    watch.openGap (frames ++ [frame]) =
      if watch.seen frame then none
      else some ((watch.openGap frames).getD (watch.time frame)) := by
  rw [openGap, List.foldl_append]
  rfl

variable {frame : Frame}

theorem openGap_seen (seen : watch.seen frame = true) :
    watch.openGap (frames ++ [frame]) = none := by
  rw [openGap_snoc, if_pos seen]

theorem openGap_missing (missing : watch.seen frame = false) :
    watch.openGap (frames ++ [frame]) =
      some ((watch.openGap frames).getD (watch.time frame)) := by
  rw [openGap_snoc, if_neg (by simp [missing])]

theorem openGap_of_gap {before gap : List Frame} {lastSeen missing : Frame}
    (seen : watch.seen lastSeen = true)
    (unseen : ∀ frame ∈ missing :: gap, watch.seen frame = false) :
    watch.openGap (before ++ lastSeen :: missing :: gap) = some (watch.time missing) := by
  induction gap using List.reverseRecOn with
  | nil =>
    have opened := openGap_missing (before ++ [lastSeen]) (unseen missing List.mem_cons_self)
    rw [openGap_seen before seen] at opened
    rw [show before ++ [lastSeen, missing] = before ++ [lastSeen] ++ [missing] by simp, opened]
    rfl
  | append_singleton gap frame induction =>
    have rest := induction fun other member =>
      unseen other (List.mem_append_left [frame] member)
    have missed := openGap_missing (before ++ lastSeen :: missing :: gap)
      (unseen frame (List.mem_append_right (missing :: gap) List.mem_cons_self))
    rw [rest] at missed
    rw [show before ++ lastSeen :: missing :: (gap ++ [frame]) =
      before ++ lastSeen :: missing :: gap ++ [frame] by simp, missed]
    rfl

theorem seen_of_openGap {frames : List Frame} {last : Frame}
    (noGap : watch.openGap (frames ++ [last]) = none) : watch.seen last = true := by
  cases isSeen : watch.seen last with
  | true => rfl
  | false =>
    rw [openGap_missing frames isSeen] at noGap
    cases noGap

variable {first : Frame}

theorem gap_of_openGap {later : List Frame} {missingSince : Nat}
    (starts : watch.seen first = true)
    (isOpen : watch.openGap (first :: later) = some missingSince) :
    ∃ before lastSeen missing gap, first :: later = before ++ lastSeen :: missing :: gap ∧
      watch.seen lastSeen = true ∧ (∀ frame ∈ missing :: gap, watch.seen frame = false) ∧
        watch.time missing = missingSince := by
  induction later using List.reverseRecOn generalizing missingSince with
  | nil =>
    rw [← List.nil_append [first], openGap_seen [] starts] at isOpen
    cases isOpen
  | append_singleton later frame induction =>
    rw [← List.cons_append] at isOpen
    cases isSeen : watch.seen frame with
    | true =>
      rw [openGap_seen _ isSeen] at isOpen
      cases isOpen
    | false =>
      rw [openGap_missing _ isSeen, Option.some.injEq] at isOpen
      cases wasOpen : watch.openGap (first :: later) with
      | some =>
        rw [wasOpen] at isOpen
        rcases induction wasOpen with
          ⟨before, lastSeen, missing, gap, split, seen, unseen, isSince⟩
        refine ⟨before, lastSeen, missing, gap ++ [frame], ?_, seen, ?_, ?_⟩
        · rw [← List.cons_append, split]
          simp
        · intro other member
          rcases List.mem_append.mp (List.cons_append ▸ member) with old | isNew
          · exact unseen other old
          · rw [List.mem_singleton.mp isNew]
            exact isSeen
        · exact isSince.trans isOpen
      | none =>
        rw [wasOpen] at isOpen
        rcases List.eq_nil_or_concat (first :: later) with isNil | ⟨before, last, split⟩
        · cases isNil
        · rw [List.concat_eq_append] at split
          rw [split] at wasOpen
          refine ⟨before, last, frame, [], ?_, seen_of_openGap wasOpen, ?_, isOpen⟩
          · rw [← List.cons_append, split]
            simp
          · intro other member
            rw [List.mem_singleton.mp member]
            exact isSeen

/-! ## What is remembered -/

theorem Continues.single (seen : watch.seen frame = true) (kept : watch.cleared frame = false) :
    watch.Continues frame [] where
  starts := seen
  kept := by
    intro other member
    rw [List.mem_singleton.mp member]
    exact kept
  bridged := by
    intro before lastSeen missing gap next rest split
    have length := congrArg List.length split
    simp only [List.length_cons, List.length_nil, List.length_append] at length
    omega

theorem Continues.snoc {later : List Frame} (continues : watch.Continues first later)
    (kept : watch.cleared frame = false) (closes : watch.seen frame = true → ∀ missingSince,
      watch.openGap (first :: later) = some missingSince →
        ¬watch.Lapsed (watch.time frame) missingSince) :
    watch.Continues first (later ++ [frame]) where
  starts := continues.starts
  kept := by
    intro other member
    rcases List.mem_append.mp (List.cons_append ▸ member) with old | isNew
    · exact continues.kept other old
    · rw [List.mem_singleton.mp isNew]
      exact kept
  bridged := by
    intro before lastSeen missing gap next rest split seen unseen isSeen
    rw [← List.cons_append] at split
    rcases List.eq_nil_or_concat rest with rfl | ⟨shorter, last, rfl⟩
    · rcases List.append_inj' split rfl with ⟨old, same⟩
      cases same
      have isOpen := @openGap_of_gap _ _ before gap _ _ seen unseen
      rw [← old] at isOpen
      exact Int.not_lt.mp (closes isSeen _ isOpen)
    · rw [List.concat_eq_append, ← List.cons_append, ← List.append_assoc] at split
      exact continues.bridged before lastSeen missing gap next shorter
        (List.append_inj' split rfl).1 seen unseen isSeen

variable (watch) in
/-- The last frames of a run are a stretch that goes on since then. -/
def GoesOn (frames : List Frame) (since : Nat) (missing : Option Nat) : Prop :=
  ∃ before first later, frames = before ++ first :: later ∧ watch.time first = since ∧
    watch.openGap (first :: later) = missing ∧ watch.Continues first later

theorem goesOn_start (seen : watch.seen frame = true) (kept : watch.cleared frame = false) :
    watch.GoesOn (frames ++ [frame]) (watch.time frame) none :=
  ⟨frames, frame, [], rfl, rfl, openGap_seen [] seen, .single seen kept⟩

theorem GoesOn.snoc {frames : List Frame} {since : Nat} {missing : Option Nat}
    (goesOn : watch.GoesOn frames since missing) (kept : watch.cleared frame = false)
    (closes : watch.seen frame = true → ∀ missingSince, missing = some missingSince →
      ¬watch.Lapsed (watch.time frame) missingSince) :
    watch.GoesOn (frames ++ [frame]) since
      (if watch.seen frame then none else some (missing.getD (watch.time frame))) := by
  rcases goesOn with ⟨before, first, later, rfl, isSince, isOpen, continues⟩
  refine ⟨before, first, later ++ [frame], ?_, isSince, ?_, ?_⟩
  · simp
  · rw [← List.cons_append, openGap_snoc, isOpen]
  · apply continues.snoc kept
    rw [isOpen]
    exact closes

theorem goesOn_of_after {frames : List Frame} {since : Nat} {missing : Option Nat}
    (remembered : watch.after frames = some (since, missing)) :
    watch.GoesOn frames since missing := by
  induction frames using List.reverseRecOn generalizing since missing with
  | nil => cases remembered
  | append_singleton frames _ induction =>
    rw [after_snoc, step] at remembered
    split at remembered
    next => cases remembered
    next notCleared =>
      rw [Bool.not_eq_true] at notCleared
      have next {wasMissing} (known : watch.after frames = some (since, wasMissing)) :=
        (induction known).snoc notCleared
      split at remembered
      next seen =>
        simp only [if_pos seen] at next
        cases known : watch.after frames with
        | none =>
          rw [known] at remembered
          cases remembered
          exact goesOn_start frames seen notCleared
        | some memory =>
          rcases memory with ⟨oldSince, _ | missingSince⟩
          · rw [known] at remembered
            cases remembered
            exact next known nofun
          · rw [known, found] at remembered
            split at remembered
            next =>
              cases remembered
              exact goesOn_start frames seen notCleared
            next inTime =>
              cases remembered
              apply next known
              intro _ other same
              cases same
              exact inTime
      next unseen =>
        simp only [if_neg unseen] at next
        cases known : watch.after frames with
        | none =>
          rw [known] at remembered
          cases remembered
        | some memory =>
          rcases memory with ⟨oldSince, wasMissing⟩
          rw [known, missed] at remembered
          split at remembered
          next => cases remembered
          next =>
            cases remembered
            exact next known fun seen => absurd seen unseen

/-- A frame that sees it remembers it, since the first frame of an unbroken stretch. -/
theorem unbroken_of_seen {frames : List Frame} {frame : Frame}
    (seen : watch.seen frame = true) (kept : watch.cleared frame = false) :
    ∃ before first later, frames ++ [frame] = before ++ first :: later ∧
      watch.after (frames ++ [frame]) = some (watch.time first, none) ∧
        watch.Unbroken first later := by
  have remembers : ∃ since, watch.after (frames ++ [frame]) = some (since, none) := by
    rw [after_snoc, step, if_neg (by simp [kept]), if_pos seen]
    rcases watch.after frames with _ | ⟨since, _ | missingSince⟩
    · exact ⟨_, rfl⟩
    · exact ⟨_, rfl⟩
    · rw [found]
      split
      all_goals exact ⟨_, rfl⟩
  rcases remembers with ⟨_, remembered⟩
  rcases goesOn_of_after remembered with ⟨before, first, later, split, isSince, _, continues⟩
  refine ⟨before, first, later, split, isSince ▸ remembered, continues, ?_⟩
  have isLast : (first :: later).getLast (List.cons_ne_nil _ _) = frame := by
    have lasts := congrArg List.getLast? split
    rw [List.getLast?_concat, List.getLast?_append_of_ne_nil _ (List.cons_ne_nil _ _),
      List.getLast?_eq_getLast_of_ne_nil (List.cons_ne_nil _ _)] at lasts
    exact (Option.some.inj lasts).symm
  rw [isLast]
  exact seen

theorem Unbroken.seen_later {part more : List Frame}
    (unbroken : watch.Unbroken first (part ++ frame :: more)) (unseen : watch.seen frame = false) :
    ∃ gap next rest, more = gap ++ next :: rest ∧
      (∀ other ∈ gap, watch.seen other = false) ∧ watch.seen next = true := by
  have last := unbroken.ends
  rcases List.eq_nil_or_concat more with rfl | ⟨shorter, final, rfl⟩
  · simp only [← List.cons_append, List.getLast_append_singleton, unseen] at last
    cases last
  · simp only [List.concat_eq_append, ← List.cons_append, ← List.append_assoc,
      List.getLast_append_singleton] at last
    have someSeen : ((shorter.concat final).find? watch.seen).isSome = true := by
      rw [List.find?_isSome]
      exact ⟨final, by simp, last⟩
    rcases Option.isSome_iff_exists.mp someSeen with ⟨next, isNext⟩
    rcases List.find?_eq_some_iff_append.mp isNext with ⟨isSeen, gap, rest, split, unseenGap⟩
    exact ⟨gap, next, rest, split, fun other member =>
      (Bool.not_eq_true' _).mp (unseenGap other member), isSeen⟩

/-- All along an unbroken stretch it is remembered, at the latest since its first frame. -/
theorem after_of_unbroken {before part more : List Frame}
    (increasing : (before ++ first :: (part ++ more)).Pairwise
      fun frame next => watch.time frame < watch.time next)
    (unbroken : watch.Unbroken first (part ++ more)) :
    ∃ since, since ≤ watch.time first ∧
      watch.after (before ++ first :: part) = some (since, watch.openGap (first :: part)) := by
  induction part using List.reverseRecOn generalizing more with
  | nil =>
    have kept := unbroken.kept first List.mem_cons_self
    have noGap : watch.openGap [first] = none := openGap_seen [] unbroken.starts
    rw [after_snoc, step, if_neg (by simp [kept]), if_pos unbroken.starts, noGap]
    have earlier : ∀ {since missing}, watch.after before = some (since, missing) →
        since ≤ watch.time first := by
      intro since missing known
      rcases goesOn_of_after known with ⟨_, other, _, split, _⟩
      have member : other ∈ before := by
        rw [split]
        exact List.mem_append_right _ List.mem_cons_self
      have less := (List.pairwise_append.mp increasing).2.2 other member first List.mem_cons_self
      omega
    cases known : watch.after before with
    | none => exact ⟨_, Nat.le_refl _, rfl⟩
    | some memory =>
      rcases memory with ⟨since, _ | missingSince⟩
      · exact ⟨since, earlier known, rfl⟩
      · rw [found]
        split
        · exact ⟨_, Nat.le_refl _, rfl⟩
        · exact ⟨since, earlier known, rfl⟩
  | append_singleton part frame induction =>
    rw [List.append_assoc, List.singleton_append] at unbroken increasing
    rcases induction increasing unbroken with ⟨since, isOld, known⟩
    have kept := unbroken.kept frame (by simp)
    have split : before ++ first :: (part ++ [frame]) = (before ++ first :: part) ++ [frame] := by
      simp
    rw [split, after_snoc, step, if_neg (by simp [kept]), known, ← List.cons_append,
      openGap_snoc]
    refine ⟨since, isOld, ?_⟩
    cases isSeen : watch.seen frame with
    | true =>
      simp only [if_true]
      cases isOpen : watch.openGap (first :: part) with
      | none => rfl
      | some =>
        rcases gap_of_openGap unbroken.starts isOpen with
          ⟨start, lastSeen, missing, gap, isGap, seen, unseen, rfl⟩
        have inTime := unbroken.bridged start lastSeen missing gap frame more
          (by rw [← List.cons_append, isGap]) seen unseen isSeen
        have inTime : ¬watch.Lapsed (watch.time frame) (watch.time missing) :=
          Int.not_lt.mpr inTime
        rw [found, if_neg inTime]
    | false =>
      simp only [Bool.false_eq_true, if_false]
      have isOpen := openGap_missing (first :: part) isSeen
      rcases gap_of_openGap unbroken.starts isOpen with
        ⟨start, lastSeen, missing, gap, isGap, seen, unseen, isSince⟩
      rcases unbroken.seen_later isSeen with ⟨more, next, rest, rfl, unseenMore, isNext⟩
      have inTime := unbroken.bridged start lastSeen missing (gap ++ more) next rest
        (by
          have joined := congrArg (· ++ (more ++ next :: rest)) isGap
          simpa using joined) seen
        (by
          intro other member
          rcases List.mem_append.mp (List.cons_append ▸ member) with old | isNew
          · exact unseen other old
          · exact unseenMore other isNew) isNext
      have sooner : watch.time frame < watch.time next := by
        have later := (List.pairwise_append.mp increasing).2.1
        rw [← List.cons_append] at later
        exact (List.pairwise_cons.mp (List.pairwise_append.mp later).2.1).1 next (by simp)
      rw [missed, if_neg, ← isSince]
      rw [← isSince, Lapsed, Int.not_lt]
      omega

end GapWatch

end VideoAnalysis.Foundation
