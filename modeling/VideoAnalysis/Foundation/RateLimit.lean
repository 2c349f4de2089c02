import Mathlib.Data.List.Basic
import Mathlib.Data.List.Induction

/-! # Rate limits

Requests compete for slots. A request passes when its slot is free, and then
holds the slot for some time. Several owners may share a slot; what each of them
would see alone is compared with what it sees among the others.
-/

namespace VideoAnalysis.Foundation

structure RateLimit (Request Slot : Type*) where
  slot : Request → Slot
  time : Request → Int
  hold : Request → Int

namespace RateLimit

variable {Request Slot Owner View : Type*} [DecidableEq Slot] (limit : RateLimit Request Slot)

abbrev Expiry (Slot : Type*) := Slot → Option Int

def free (expiry : Expiry Slot) (request : Request) : Bool :=
  match expiry (limit.slot request) with
  | none => true
  | some ends => ends ≤ limit.time request

def reserve (expiry : Expiry Slot) (request : Request) : Expiry Slot :=
  Function.update expiry (limit.slot request) (some (limit.time request + limit.hold request))

def passed (expiry : Expiry Slot) : List Request → List Request
  | [] => []
  | request :: rest =>
    if limit.free expiry request then request :: passed (limit.reserve expiry request) rest
    else passed expiry rest

def after (expiry : Expiry Slot) : List Request → Expiry Slot
  | [] => expiry
  | request :: rest =>
    if limit.free expiry request then after (limit.reserve expiry request) rest
    else after expiry rest

theorem passed_append (expiry : Expiry Slot) (first second : List Request) :
    limit.passed expiry (first ++ second) =
      limit.passed expiry first ++ limit.passed (limit.after expiry first) second := by
  induction first generalizing expiry with
  | nil => rfl
  | cons request _ induction =>
    by_cases isFree : limit.free expiry request
    all_goals simp [passed, after, isFree, induction]

theorem after_append (expiry : Expiry Slot) (first second : List Request) :
    limit.after expiry (first ++ second) = limit.after (limit.after expiry first) second := by
  induction first generalizing expiry with
  | nil => rfl
  | cons request _ induction =>
    by_cases isFree : limit.free expiry request
    all_goals simp [after, isFree, induction]

theorem passed_sublist (expiry : Expiry Slot) (requests : List Request) :
    (limit.passed expiry requests).Sublist requests := by
  induction requests generalizing expiry with
  | nil => exact List.Sublist.refl _
  | cons request _ induction =>
    by_cases isFree : limit.free expiry request
    · simpa [passed, isFree] using induction (limit.reserve expiry request)
    · simpa [passed, isFree] using (induction expiry).cons request

variable {slot : Slot}

theorem after_isSome {expiry : Expiry Slot} {requests : List Request} :
    (∃ ends, limit.after expiry requests slot = some ends) ↔
      (∃ ends, expiry slot = some ends) ∨ ∃ request ∈ requests, limit.slot request = slot := by
  induction requests generalizing expiry with
  | nil => simp [after]
  | cons request _ induction =>
    by_cases isFree : limit.free expiry request
    · simp only [after, isFree, if_true, induction, reserve, Function.update_apply,
        List.mem_cons, exists_eq_or_imp]
      by_cases own : slot = limit.slot request
      · simp [own]
      · simp [own, Ne.symm own]
    · simp only [after, isFree, Bool.false_eq_true, if_false, induction, List.mem_cons,
        exists_eq_or_imp]
      by_cases own : limit.slot request = slot
      · have known : ∃ ends, expiry slot = some ends := by
          unfold free at isFree
          rw [own] at isFree
          cases entry : expiry slot with
          | none => simp [entry] at isFree
          | some ends => exact ⟨ends, rfl⟩
        simp [known]
      · simp [own]

variable {expiry : Expiry Slot} {requests : List Request}

theorem after_eq_some {ends : Int} (found : limit.after expiry requests slot = some ends) :
    expiry slot = some ends ∨ ∃ request ∈ limit.passed expiry requests,
      limit.slot request = slot ∧ limit.time request + limit.hold request = ends := by
  induction requests generalizing expiry with
  | nil => exact Or.inl found
  | cons request _ induction =>
    by_cases isFree : limit.free expiry request
    · simp only [after, isFree, if_true] at found
      simp only [passed, isFree, if_true]
      rcases induction found with kept | ⟨other, member, same⟩
      · by_cases own : slot = limit.slot request
        · subst own
          rw [reserve, Function.update_self, Option.some.injEq] at kept
          exact Or.inr ⟨request, List.mem_cons_self, rfl, kept⟩
        · rw [reserve, Function.update_of_ne own] at kept
          exact Or.inl kept
      · exact Or.inr ⟨other, List.mem_cons_of_mem _ member, same⟩
    · simp only [after, isFree, Bool.false_eq_true, if_false] at found
      simp only [passed, isFree, Bool.false_eq_true, if_false]
      exact induction found

/-- A request passes, or its slot is held at its turn: from before the requests,
or by one before it that has passed. -/
theorem mem_passed_or_held (expiry : Expiry Slot) (before : List Request) (request : Request)
    (rest : List Request) :
    request ∈ limit.passed expiry (before ++ request :: rest) ∨
      (∃ ends, expiry (limit.slot request) = some ends ∧ limit.time request < ends) ∨
      ∃ other ∈ limit.passed expiry (before ++ request :: rest), other ∈ before ∧
        limit.slot other = limit.slot request ∧
          limit.time request < limit.time other + limit.hold other := by
  rw [passed_append]
  by_cases isFree : limit.free (limit.after expiry before) request
  · left
    simp [passed, isFree]
  · right
    unfold free at isFree
    cases entry : limit.after expiry before (limit.slot request) with
    | none => simp [entry] at isFree
    | some ends =>
      simp only [entry, decide_eq_true_eq, Int.not_le] at isFree
      rcases limit.after_eq_some entry with kept | ⟨other, member, sameSlot, holds⟩
      · exact Or.inl ⟨ends, kept, isFree⟩
      · exact Or.inr ⟨other, List.mem_append_left _ member,
          (limit.passed_sublist expiry before).subset member, sameSlot, by omega⟩

/-! ## Times that do not step back -/

/-- Requests for one slot come in the order of their times. -/
def Ordered (requests : List Request) : Prop :=
  requests.Pairwise fun first second =>
    limit.slot first = limit.slot second → limit.time first ≤ limit.time second

/-- Every earlier request for the slot has let go of it. -/
def Clear (earlier : List Request) (request : Request) : Prop :=
  ∀ other ∈ earlier, limit.slot other = limit.slot request →
    limit.time other + limit.hold other ≤ limit.time request

instance (earlier : List Request) (request : Request) :
    Decidable (limit.Clear earlier request) :=
  inferInstanceAs (Decidable (∀ other ∈ earlier, limit.slot other = limit.slot request →
    limit.time other + limit.hold other ≤ limit.time request))

/-- From the last request on, a slot is free exactly when nobody holds it. -/
def Represents (expiry : Expiry Slot) (earlier : List Request) : Prop :=
  ∀ slot time, (∀ other ∈ earlier, limit.slot other = slot → limit.time other ≤ time) →
    ((∀ ends, expiry slot = some ends → ends ≤ time) ↔
      ∀ other ∈ earlier, limit.slot other = slot → limit.time other + limit.hold other ≤ time)

variable {limit}

variable {request : Request}

omit [DecidableEq Slot] in
theorem free_iff :
    limit.free expiry request = true ↔
      ∀ ends, expiry (limit.slot request) = some ends → ends ≤ limit.time request := by
  unfold free
  cases expiry (limit.slot request) with
  | none | some => simp

variable {earlier : List Request}

omit [DecidableEq Slot] in
theorem Clear.mono {fewer : List Request} (clear : limit.Clear earlier request)
    (subset : fewer ⊆ earlier) :
    limit.Clear fewer request := fun other member => clear other (subset member)

omit [DecidableEq Slot] in
theorem Clear.congr {first second : Request} (clear : limit.Clear earlier first)
    (sameSlot : limit.slot first = limit.slot second)
    (sameTime : limit.time first = limit.time second) : limit.Clear earlier second := by
  intro other member slot
  rw [← sameTime]
  exact clear other member (slot.trans sameSlot.symm)

omit [DecidableEq Slot] in
theorem represents_empty : limit.Represents (fun _ => none) [] := by
  intro slot time _
  simp

omit [DecidableEq Slot] in
theorem Represents.free_iff_clear (represents : limit.Represents expiry earlier)
    (later : ∀ other ∈ earlier, limit.slot other = limit.slot request →
      limit.time other ≤ limit.time request) :
    limit.free expiry request = true ↔ limit.Clear earlier request := by
  rw [free_iff]
  exact represents _ _ later

theorem Represents.reserve (represents : limit.Represents expiry earlier)
    (clear : limit.Clear earlier request) :
    limit.Represents (limit.reserve expiry request) (earlier ++ [request]) := by
  intro slot time later
  by_cases same : slot = limit.slot request
  · subst same
    have passedBy : limit.time request ≤ time := later request (by simp) rfl
    have lookup : limit.reserve expiry request (limit.slot request) =
        some (limit.time request + limit.hold request) := Function.update_self _ _ _
    rw [lookup]
    constructor
    · intro ends other member sameSlot
      rcases List.mem_append.mp member with inEarlier | isLast
      · have held := clear other inEarlier sameSlot
        omega
      · rw [List.mem_singleton.mp isLast]
        exact ends _ rfl
    · intro held ends equal
      rw [Option.some.injEq] at equal
      rw [← equal]
      exact held request (by simp) rfl
  · have lookup : limit.reserve expiry request slot = expiry slot :=
      Function.update_of_ne same _ _
    have others : ∀ other ∈ earlier, limit.slot other = slot → limit.time other ≤ time :=
      fun other member => later other (List.mem_append_left _ member)
    rw [lookup, represents slot time others]
    constructor
    · intro held other member sameSlot
      rcases List.mem_append.mp member with inEarlier | isLast
      · exact held other inEarlier sameSlot
      · rw [List.mem_singleton.mp isLast] at sameSlot
        exact absurd sameSlot.symm same
    · intro held other member
      exact held other (List.mem_append_left _ member)

variable {before rest : List Request}

omit [DecidableEq Slot] in
theorem Ordered.later (ordered : limit.Ordered (before ++ request :: rest)) :
    ∀ other ∈ before, limit.slot other = limit.slot request →
      limit.time other ≤ limit.time request := by
  intro other member
  exact (List.pairwise_append.mp ordered).2.2 other member request List.mem_cons_self

omit [DecidableEq Slot] in
theorem Ordered.sublist {fewer requests : List Request} (ordered : limit.Ordered requests)
    (sublist : fewer.Sublist requests) :
    limit.Ordered fewer := List.Pairwise.sublist sublist ordered

/-- The run lemma: what has passed tells which slots are free. -/
theorem represents_after (ordered : limit.Ordered requests) :
    limit.Represents (limit.after (fun _ => none) requests)
      (limit.passed (fun _ => none) requests) := by
  induction requests using List.reverseRecOn with
  | nil => exact represents_empty
  | append_singleton before request induction =>
    have represents := induction (ordered.sublist (List.sublist_append_left _ _))
    have later : ∀ other ∈ limit.passed (fun _ => none) before,
        limit.slot other = limit.slot request → limit.time other ≤ limit.time request :=
      fun other member => ordered.later other ((limit.passed_sublist _ before).subset member)
    rw [after_append, passed_append]
    by_cases isFree : limit.free (limit.after (fun _ => none) before) request
    · simp only [after, passed, isFree, if_true]
      exact represents.reserve ((represents.free_iff_clear later).mp isFree)
    · simpa [after, passed, isFree] using represents

theorem passed_concat (ordered : limit.Ordered (before ++ [request])) :
    limit.passed (fun _ => none) (before ++ [request]) =
      limit.passed (fun _ => none) before ++
        if limit.Clear (limit.passed (fun _ => none) before) request then [request] else [] := by
  have represents := represents_after (ordered.sublist (List.sublist_append_left _ _))
  have later : ∀ other ∈ limit.passed (fun _ => none) before,
      limit.slot other = limit.slot request → limit.time other ≤ limit.time request :=
    fun other member => ordered.later other ((limit.passed_sublist _ before).subset member)
  rw [passed_append]
  by_cases isFree : limit.free (limit.after (fun _ => none) before) request
  · have clear := (represents.free_iff_clear later).mp isFree
    simp [passed, isFree, clear]
  · have blocked : ¬ limit.Clear (limit.passed (fun _ => none) before) request := by
      intro clear
      exact isFree ((represents.free_iff_clear later).mpr clear)
    simp [passed, isFree, blocked]

theorem passed_spaced (ordered : limit.Ordered requests) :
    (limit.passed (fun _ => none) requests).Pairwise fun first second =>
      limit.slot first = limit.slot second →
        limit.time first + limit.hold first ≤ limit.time second := by
  induction requests using List.reverseRecOn with
  | nil => exact List.Pairwise.nil
  | append_singleton before request induction =>
    have spaced := induction (ordered.sublist (List.sublist_append_left _ _))
    rw [passed_concat ordered]
    by_cases clear : limit.Clear (limit.passed (fun _ => none) before) request
    · rw [if_pos clear, List.pairwise_append]
      refine ⟨spaced, List.pairwise_singleton _ _, ?_⟩
      intro first member second isRequest sameSlot
      rw [List.mem_singleton.mp isRequest] at sameSlot ⊢
      exact clear first member sameSlot
    · rw [if_neg clear, List.append_nil]
      exact spaced

theorem mem_passed_clear (ordered : limit.Ordered (before ++ rest))
    (member : request ∈ limit.passed (limit.after (fun _ => none) before) rest) :
    limit.Clear (limit.passed (fun _ => none) before) request := by
  induction rest using List.reverseRecOn with
  | nil => simp [passed] at member
  | append_singleton rest last induction =>
    rw [passed_append, List.mem_append] at member
    rw [← List.append_assoc] at ordered
    rcases member with inRest | isLast
    · exact induction (ordered.sublist (List.sublist_append_left _ _)) inRest
    · have equation := passed_concat ordered
      rw [passed_append, after_append, List.append_cancel_left_eq] at equation
      rw [equation] at isLast
      by_cases clear : limit.Clear (limit.passed (fun _ => none) (before ++ rest)) last
      · rw [if_pos clear, List.mem_singleton] at isLast
        rw [isLast]
        apply clear.mono
        rw [passed_append]
        exact List.subset_append_left _ _
      · rw [if_neg clear] at isLast
        exact absurd isLast List.not_mem_nil

/-! ## Slots that stay held -/

def Held (expiry : Expiry Slot) (slot : Slot) (time : Int) : Prop :=
  ∃ ends, expiry slot = some ends ∧ time < ends

omit [DecidableEq Slot] in
theorem Held.not_free {time : Int} (held : Held expiry (limit.slot request) time)
    (bound : limit.time request ≤ time) :
    ¬ limit.free expiry request = true := by
  rcases held with ⟨ends, found, _⟩
  rw [free_iff]
  intro isFree
  have ended := isFree ends found
  omega

theorem Held.after {time : Int} (held : Held expiry slot time)
    (bound : ∀ request ∈ requests, limit.slot request = slot → limit.time request ≤ time) :
    Held (limit.after expiry requests) slot time := by
  induction requests generalizing expiry with
  | nil => exact held
  | cons request rest induction =>
    have tail : ∀ other ∈ rest, limit.slot other = slot → limit.time other ≤ time :=
      fun other member => bound other (List.mem_cons_of_mem _ member)
    rw [RateLimit.after]
    split
    · next isFree =>
        apply induction _ tail
        by_cases same : limit.slot request = slot
        · subst same
          exact absurd isFree (held.not_free (bound request List.mem_cons_self rfl))
        · rcases held with ⟨ends, found, later⟩
          refine ⟨ends, ?_, later⟩
          rw [RateLimit.reserve, Function.update_of_ne (Ne.symm same)]
          exact found
    · exact induction held tail

theorem held_after {expiry : Expiry Slot} {request : Request} {requests : List Request}
    (member : request ∈ requests) (positive : 0 < limit.hold request)
    (bound : ∀ other ∈ requests, limit.slot other = limit.slot request →
      limit.time other ≤ limit.time request) :
    Held (limit.after expiry requests) (limit.slot request) (limit.time request) := by
  induction requests generalizing expiry with
  | nil => exact absurd member List.not_mem_nil
  | cons _ rest induction =>
    have tail : ∀ other ∈ rest, limit.slot other = limit.slot request →
        limit.time other ≤ limit.time request :=
      fun other inRest => bound other (List.mem_cons_of_mem _ inRest)
    rw [RateLimit.after]
    rcases List.mem_cons.mp member with rfl | inRest
    · split
      · apply Held.after _ tail
        refine ⟨limit.time request + limit.hold request, ?_, by omega⟩
        rw [RateLimit.reserve, Function.update_self]
      · next blocked =>
          apply Held.after _ tail
          rw [free_iff] at blocked
          push Not at blocked
          rcases blocked with ⟨ends, found, _⟩
          exact ⟨ends, found, by omega⟩
    · split
      all_goals exact induction inRest tail

theorem not_mem_passed_of_held {expiry : Expiry Slot} {request : Request}
    {requests : List Request}
    (held : Held expiry (limit.slot request) (limit.time request))
    (bound : ∀ other ∈ requests, limit.slot other = limit.slot request →
      limit.time other ≤ limit.time request) :
    request ∉ limit.passed expiry requests := by
  induction requests generalizing expiry with
  | nil => exact List.not_mem_nil
  | cons head rest induction =>
    have tail : ∀ other ∈ rest, limit.slot other = limit.slot request →
        limit.time other ≤ limit.time request :=
      fun other inRest => bound other (List.mem_cons_of_mem _ inRest)
    rw [passed]
    split
    · next isFree =>
        have different : limit.slot head ≠ limit.slot request := by
          intro same
          exact (same ▸ held).not_free (bound head List.mem_cons_self same) isFree
        have heldStill : Held (limit.reserve expiry head) (limit.slot request)
            (limit.time request) := by
          rcases held with ⟨ends, found, later⟩
          refine ⟨ends, ?_, later⟩
          rw [RateLimit.reserve, Function.update_of_ne (Ne.symm different)]
          exact found
        intro member
        rcases List.mem_cons.mp member with same | later
        · exact different (congrArg limit.slot same.symm)
        · exact induction heldStill tail later
    · exact induction held tail

/-! ## Sharing a slot -/

variable [DecidableEq Owner] (owner : Request → Owner)

def own (name : Owner) (requests : List Request) : List Request :=
  requests.filter fun request => owner request = name

variable (limit) in
/-- Whenever another owner, alone, would still hold the slot of a request, the
request's owner alone would still hold it too. -/
def Undisturbed (requests : List Request) : Prop :=
  ∀ before request rest, requests = before ++ request :: rest →
    ∀ other, other ≠ owner request →
      ¬ limit.Clear (limit.passed (fun _ => none) (own owner other before)) request →
      ¬ limit.Clear (limit.passed (fun _ => none) (own owner (owner request) before)) request

variable (limit) in
/-- Every owner passes with the others what it passes alone. -/
def Separate (view : Request → View) (requests : List Request) : Prop :=
  ∀ name, (own owner name (limit.passed (fun _ => none) requests)).map view =
    (limit.passed (fun _ => none) (own owner name requests)).map view

variable {owner}

omit [DecidableEq Slot] in
theorem own_append (name : Owner) (first second : List Request) :
    own owner name (first ++ second) = own owner name first ++ own owner name second :=
  List.filter_append ..

omit [DecidableEq Slot] in
theorem own_sublist (name : Owner) (requests : List Request) :
    (own owner name requests).Sublist requests := List.filter_sublist

variable {name : Owner}

omit [DecidableEq Slot] in
theorem mem_own :
    request ∈ own owner name requests ↔ request ∈ requests ∧ owner request = name := by
  simp [own]

omit [DecidableEq Slot] in
theorem own_singleton_self (request : Request) :
    own owner (owner request) [request] = [request] := by
  simp [own]

omit [DecidableEq Slot] in
theorem own_singleton_of_ne (different : name ≠ owner request) :
    own owner name [request] = [] := by
  simp [own, different.symm]

omit [DecidableEq Slot] in
theorem clear_iff_own {earlier : List Request} {request : Request} :
    limit.Clear earlier request ↔ ∀ name, limit.Clear (own owner name earlier) request := by
  constructor
  · intro clear name
    exact clear.mono (own_sublist name earlier).subset
  · intro clear other member
    exact clear (owner other) other (mem_own.mpr ⟨member, rfl⟩)

theorem own_passed_concat (ordered : limit.Ordered (before ++ [request])) :
    own owner name (limit.passed (fun _ => none) (before ++ [request])) =
      own owner name (limit.passed (fun _ => none) before) ++
        if name = owner request ∧ limit.Clear (limit.passed (fun _ => none) before) request
        then [request] else [] := by
  rw [passed_concat ordered, own_append]
  congr 1
  by_cases clear : limit.Clear (limit.passed (fun _ => none) before) request
  · by_cases same : name = owner request
    · rw [if_pos clear, if_pos ⟨same, clear⟩, same, own_singleton_self]
    · rw [if_pos clear, if_neg (same ·.1), own_singleton_of_ne same]
  · rw [if_neg clear, if_neg (clear ·.2)]
    rfl

theorem passed_own_concat (ordered : limit.Ordered (before ++ [request])) :
    limit.passed (fun _ => none) (own owner name (before ++ [request])) =
      limit.passed (fun _ => none) (own owner name before) ++
        if name = owner request ∧
          limit.Clear (limit.passed (fun _ => none) (own owner name before)) request
        then [request] else [] := by
  by_cases same : name = owner request
  · subst same
    have ownOrdered := ordered.sublist (@own_sublist _ _ _ owner (owner request) _)
    rw [own_append, own_singleton_self] at ownOrdered ⊢
    rw [passed_concat ownOrdered]
    simp only [true_and]
  · rw [own_append, own_singleton_of_ne same, List.append_nil, if_neg (same ·.1),
      List.append_nil]

theorem Undisturbed.prefix (undisturbed : limit.Undisturbed owner (before ++ [request])) :
    limit.Undisturbed owner before := by
  intro first middle rest split
  exact undisturbed first middle (rest ++ [request]) (by rw [split]; simp)

theorem own_passed_of_undisturbed (ordered : limit.Ordered requests)
    (undisturbed : limit.Undisturbed owner requests) (name : Owner) :
    own owner name (limit.passed (fun _ => none) requests) =
      limit.passed (fun _ => none) (own owner name requests) := by
  induction requests using List.reverseRecOn generalizing name with
  | nil => rfl
  | append_singleton before request induction =>
    have same := induction (ordered.sublist (List.sublist_append_left _ _)) undisturbed.prefix
    rw [own_passed_concat ordered, passed_own_concat ordered, same name]
    congr 1
    apply if_congr _ rfl rfl
    apply and_congr_right
    intro isOwner
    subst isOwner
    rw [@clear_iff_own _ _ _ _ _ owner]
    constructor
    · intro clear
      exact same (owner request) ▸ clear (owner request)
    · intro clear other
      rw [same other]
      by_cases isOther : other = owner request
      · exact isOther ▸ clear
      · by_contra disturbed
        exact undisturbed before request [] rfl other isOther disturbed clear

def Telling (limit : RateLimit Request Slot) (owner : Request → Owner)
    (view : Request → View) (requests : List Request) : Prop :=
  ∀ first ∈ requests, ∀ second ∈ requests, owner first = owner second →
    view first = view second →
    limit.slot first = limit.slot second ∧ limit.time first = limit.time second

variable {view : Request → View}

theorem clear_iff_of_separate
    (ordered : limit.Ordered (before ++ request :: rest))
    (telling : limit.Telling owner view (before ++ request :: rest))
    (separate : limit.Separate owner view (before ++ request :: rest))
    (same : own owner (owner request) (limit.passed (fun _ => none) before) =
      limit.passed (fun _ => none) (own owner (owner request) before)) :
    limit.Clear (limit.passed (fun _ => none) before) request ↔
      limit.Clear (limit.passed (fun _ => none) (own owner (owner request) before)) request := by
  have isLast : request ∈ before ++ request :: rest := by simp
  have tails := separate (owner request)
  rw [passed_append, own_append, own_append, passed_append, List.map_append, List.map_append,
    same, List.append_cancel_left_eq] at tails
  have ownOrdered := ordered.sublist (@own_sublist _ _ _ owner (owner request) _)
  rw [own_append] at ownOrdered
  have ownHead : own owner (owner request) (request :: rest) =
      request :: own owner (owner request) rest := by
    simp [own]
  constructor
  · intro clear
    rw [← same]
    exact clear.mono (own_sublist _ _).subset
  · intro clear
    have isFree : limit.free
        (limit.after (fun _ => none) (own owner (owner request) before)) request = true := by
      apply (represents_after (ordered.sublist
        ((own_sublist _ _).trans (List.sublist_append_left _ _)))).free_iff_clear _ |>.mpr clear
      intro other member
      exact ordered.later other
        ((own_sublist _ before).subset ((limit.passed_sublist _ _).subset member))
    have seen : view request ∈ (own owner (owner request) (limit.passed
        (limit.after (fun _ => none) before) (request :: rest))).map view := by
      rw [tails, ownHead]
      simp [passed, isFree]
    rcases List.mem_map.mp seen with ⟨other, member, looksAlike⟩
    rcases mem_own.mp member with ⟨passedLater, sameOwner⟩
    have inRest := (limit.passed_sublist _ _).subset passedLater
    rcases telling other (List.mem_append_right _ inRest) request isLast sameOwner looksAlike with
      ⟨sameSlot, sameTime⟩
    exact (mem_passed_clear ordered passedLater).congr sameSlot sameTime

theorem own_passed_of_separate (ordered : limit.Ordered (before ++ rest))
    (telling : limit.Telling owner view (before ++ rest))
    (separate : limit.Separate owner view (before ++ rest)) (name : Owner) :
    own owner name (limit.passed (fun _ => none) before) =
      limit.passed (fun _ => none) (own owner name before) := by
  induction before using List.reverseRecOn generalizing rest name with
  | nil => rfl
  | append_singleton before request induction =>
    rw [List.append_assoc, List.singleton_append] at ordered telling separate
    have same := induction ordered telling separate
    have partOrdered : limit.Ordered (before ++ [request]) := by
      apply ordered.sublist
      simp
    rw [own_passed_concat partOrdered, passed_own_concat partOrdered, same name]
    congr 1
    apply if_congr _ rfl rfl
    apply and_congr_right
    intro isOwner
    subst isOwner
    exact clear_iff_of_separate ordered telling separate (same _)

/-- Owners that share slots see what they would see alone exactly when none of
them is held up by another. -/
theorem separate_iff_undisturbed (ordered : limit.Ordered requests)
    (telling : limit.Telling owner view requests) :
    limit.Separate owner view requests ↔ limit.Undisturbed owner requests := by
  constructor
  · intro separate before request rest split other _ disturbed clear
    subst split
    have same := own_passed_of_separate ordered telling separate
    apply disturbed
    rw [← same other]
    apply Clear.mono _ (own_sublist _ _).subset
    exact (clear_iff_of_separate ordered telling separate (same _)).mpr clear
  · intro undisturbed name
    rw [own_passed_of_undisturbed ordered undisturbed name]

end RateLimit

end VideoAnalysis.Foundation
