import Mathlib.Data.List.Basic
import Mathlib.Tactic.Linarith
import Mathlib.Tactic.Ring

/-! # A gate that spends credit

Points of a clock are offered one after the other. The clock earns credit up to a cap,
an admission spends an interval of it, and a small debt is forgiven. A point that is not
later than the one before starts afresh, and a forced point is admitted in any case.
-/

namespace VideoAnalysis.Foundation

structure CreditGate where
  interval : Int
  slack : Int
  cap : Int

structure Offer where
  point : Int
  forced : Bool
deriving DecidableEq

structure Credit where
  last : Option Int := none
  amount : Int := 0

namespace CreditGate

variable (gate : CreditGate)

def offer (credit : Credit) (offered : Offer) : Credit × Bool :=
  match credit.last with
  | none => (⟨some offered.point, 0⟩, true)
  | some last =>
    if offered.point ≤ last then (⟨some offered.point, 0⟩, true)
    else
      let amount := min gate.cap (credit.amount + (offered.point - last))
      if offered.forced then (⟨some offered.point, max 0 (amount - gate.interval)⟩, true)
      else if amount + gate.slack < gate.interval then (⟨some offered.point, amount⟩, false)
      else (⟨some offered.point, max 0 (amount - gate.interval)⟩, true)

def after (credit : Credit) (offers : List Offer) : Credit :=
  offers.foldl (fun credit offered => (gate.offer credit offered).1) credit

def decisions : Credit → List Offer → List Bool
  | _, [] => []
  | credit, offered :: rest =>
    (gate.offer credit offered).2 :: decisions (gate.offer credit offered).1 rest

def admitted : Credit → List Offer → List Offer
  | _, [] => []
  | credit, offered :: rest =>
    if (gate.offer credit offered).2 then
      offered :: admitted (gate.offer credit offered).1 rest
    else admitted (gate.offer credit offered).1 rest

theorem after_append (credit : Credit) (first second : List Offer) :
    gate.after credit (first ++ second) = gate.after (gate.after credit first) second :=
  List.foldl_append

@[simp] theorem decisions_length (credit : Credit) (offers : List Offer) :
    (gate.decisions credit offers).length = offers.length := by
  induction offers generalizing credit with
  | nil => rfl
  | cons _ _ induction => simp [decisions, induction]

theorem map_snd_zip_decisions (credit : Credit) (offers : List Offer) :
    (offers.zip (gate.decisions credit offers)).map Prod.snd = gate.decisions credit offers :=
  List.map_snd_zip (by simp)

theorem countP_zip_decisions (credit : Credit) (offers : List Offer) :
    (offers.zip (gate.decisions credit offers)).countP Prod.snd =
      (gate.decisions credit offers).count true := by
  conv_rhs => rw [← map_snd_zip_decisions]
  rw [List.count_eq_countP, List.countP_map]
  apply List.countP_congr
  intro outcome _
  simp

theorem offer_last (credit : Credit) (offered : Offer) :
    (gate.offer credit offered).1.last = some offered.point := by
  unfold offer
  split
  · rfl
  · split
    · rfl
    · dsimp only
      split
      · rfl
      · split <;> rfl

theorem after_last {credit : Credit} {offers : List Offer} {last : Offer}
    (isLast : offers.getLast? = some last) :
    (gate.after credit offers).last = some last.point := by
  rcases List.getLast?_eq_some_iff.mp isLast with ⟨_, rfl⟩
  rw [after_append]
  exact gate.offer_last _ last

section Step

variable {gate} {credit : Credit} {offered : Offer} {last : Int}

theorem offer_fresh (fresh : ∀ last, credit.last = some last → offered.point ≤ last) :
    gate.offer credit offered = (⟨some offered.point, 0⟩, true) := by
  unfold offer
  cases isLast : credit.last with
  | none => rfl
  | some last => exact if_pos (fresh last isLast)

def earned (gate : CreditGate) (credit : Credit) (offered : Offer) (last : Int) : Int :=
  min gate.cap (credit.amount + (offered.point - last))

theorem offer_refused (isLast : credit.last = some last) (later : last < offered.point)
    (plain : offered.forced = false)
    (short : gate.earned credit offered last + gate.slack < gate.interval) :
    gate.offer credit offered =
      (⟨some offered.point, gate.earned credit offered last⟩, false) := by
  simp only [offer, isLast, if_neg (not_le.mpr later), plain, Bool.false_eq_true, if_false]
  exact if_pos short

theorem offer_spends (isLast : credit.last = some last) (later : last < offered.point)
    (enough : offered.forced = true ∨
      gate.interval ≤ gate.earned credit offered last + gate.slack) :
    gate.offer credit offered =
      (⟨some offered.point, max 0 (gate.earned credit offered last - gate.interval)⟩, true) := by
  simp only [offer, isLast, if_neg (not_le.mpr later)]
  cases forced : offered.forced with
  | true => exact if_pos rfl
  | false =>
    rw [forced] at enough
    have affordable : gate.interval ≤ gate.earned credit offered last + gate.slack :=
      enough.resolve_left Bool.false_ne_true
    rw [if_neg Bool.false_ne_true]
    exact if_neg (not_lt.mpr affordable)

theorem offer_cases (gate : CreditGate) (credit : Credit) (offered : Offer) :
    ((∀ last, credit.last = some last → offered.point ≤ last) ∧
      gate.offer credit offered = (⟨some offered.point, 0⟩, true)) ∨
    ∃ last, credit.last = some last ∧ last < offered.point ∧
      ((offered.forced = false ∧
          gate.earned credit offered last + gate.slack < gate.interval ∧
          gate.offer credit offered =
            (⟨some offered.point, gate.earned credit offered last⟩, false)) ∨
        ((offered.forced = true ∨
            gate.interval ≤ gate.earned credit offered last + gate.slack) ∧
          gate.offer credit offered = (⟨some offered.point,
            max 0 (gate.earned credit offered last - gate.interval)⟩, true))) := by
  by_cases fresh : ∀ last, credit.last = some last → offered.point ≤ last
  · exact .inl ⟨fresh, offer_fresh fresh⟩
  · simp only [not_forall, not_le] at fresh
    rcases fresh with ⟨last, isLast, later⟩
    refine .inr ⟨last, isLast, later, ?_⟩
    by_cases enough : offered.forced = true ∨
        gate.interval ≤ gate.earned credit offered last + gate.slack
    · exact .inr ⟨enough, offer_spends isLast later enough⟩
    · rw [not_or, Bool.not_eq_true, not_le] at enough
      exact .inl ⟨enough.1, enough.2, offer_refused isLast later enough.1 enough.2⟩

end Step

end CreditGate

/-- A gate whose slack is below its interval and that keeps two intervals at most. -/
structure CreditGate.Sound (gate : CreditGate) : Prop where
  slack_nonneg : 0 ≤ gate.slack
  slack_lt : gate.slack < gate.interval
  cap_eq : gate.cap = gate.interval * 2

namespace CreditGate

variable {gate : CreditGate} {credit : Credit}

/-- The credit between two offers. -/
structure Kept (gate : CreditGate) (credit : Credit) : Prop where
  nonneg : 0 ≤ credit.amount
  le_interval : credit.amount ≤ gate.interval

section

variable (sound : gate.Sound)

include sound

theorem Sound.kept_empty : gate.Kept {} where
  nonneg := le_refl 0
  le_interval := sound.slack_nonneg.trans sound.slack_lt.le

theorem Sound.kept_offer (kept : gate.Kept credit) (offered : Offer) :
    gate.Kept (gate.offer credit offered).1 := by
  have slack_nonneg := sound.slack_nonneg
  have slack_lt := sound.slack_lt
  have cap_eq := sound.cap_eq
  have nonneg := kept.nonneg
  rcases gate.offer_cases credit offered with
    ⟨_, same⟩ | ⟨last, _, later, ⟨_, short, same⟩ | ⟨_, same⟩⟩
  · rw [same]
    exact ⟨le_refl 0, by simp only; omega⟩
  · rw [same]
    simp only [earned] at short ⊢
    exact ⟨by simp only; omega, by simp only; omega⟩
  · rw [same]
    simp only [earned]
    exact ⟨by simp only; omega, by simp only; omega⟩

theorem Sound.kept_after (kept : gate.Kept credit) (offers : List Offer) :
    gate.Kept (gate.after credit offers) := by
  induction offers generalizing credit with
  | nil => exact kept
  | cons offered _ induction => exact induction (sound.kept_offer kept offered)

/-! ## How many points are admitted -/

def advance : Option Int → List Offer → Int
  | _, [] => 0
  | none, offered :: rest => advance (some offered.point) rest
  | some last, offered :: rest => max 0 (offered.point - last) + advance (some offered.point) rest

/-- The points admitted that are neither forced nor start a new clock, but for the first. -/
def paced : Option Int → List (Offer × Bool) → Nat
  | _, [] => 0
  | last, (offered, isAdmitted) :: rest =>
    (if isAdmitted = true ∧ offered.forced = false ∧ ∀ point ∈ last, point < offered.point
      then 1 else 0) + paced (some offered.point) rest

theorem Sound.paced_paid (kept : gate.Kept credit) {last : Int}
    (isLast : credit.last = some last) (offers : List Offer) :
    (paced (some last) (offers.zip (gate.decisions credit offers)) : Int) *
        (gate.interval - gate.slack) + (gate.after credit offers).amount ≤
      credit.amount + advance (some last) offers := by
  induction offers generalizing credit last with
  | nil => simp [paced, decisions, after, advance]
  | cons offered rest induction =>
    have slack_nonneg := sound.slack_nonneg
    have slack_lt := sound.slack_lt
    have nonneg := kept.nonneg
    have later := induction (sound.kept_offer kept offered) (gate.offer_last credit offered)
    have after_eq : gate.after credit (offered :: rest) =
        gate.after (gate.offer credit offered).1 rest := rfl
    rw [after_eq, advance, decisions, List.zip_cons_cons, paced]
    rcases gate.offer_cases credit offered with
      ⟨fresh, same⟩ | ⟨other, isOther, before, ⟨plain, _, same⟩ | ⟨enough, same⟩⟩
    · have back := fresh last isLast
      have unpaced : ¬((gate.offer credit offered).2 = true ∧ offered.forced = false ∧
          ∀ point ∈ some last, point < offered.point) := by
        rintro ⟨_, _, ahead⟩
        exact absurd (ahead last rfl) (not_lt.mpr back)
      rw [if_neg unpaced, Nat.zero_add]
      rw [same] at later ⊢
      simp only at later ⊢
      omega
    · cases isLast.symm.trans isOther
      rw [same] at later ⊢
      simp only [earned, Bool.false_eq_true, false_and, if_false, Nat.zero_add] at later ⊢
      omega
    · cases isLast.symm.trans isOther
      rw [same] at later ⊢
      simp only [earned] at later enough ⊢
      cases forced : offered.forced with
      | true =>
        simp only [Bool.true_eq_false, false_and, and_false, if_false, Nat.zero_add]
        omega
      | false =>
        rw [forced] at enough
        have affordable := enough.resolve_left Bool.false_ne_true
        have counted : ∀ point ∈ some last, point < offered.point := by
          rintro point ⟨⟩
          exact before
        rw [if_pos ⟨trivial, rfl, counted⟩, Nat.cast_add, Nat.cast_one, add_mul, one_mul]
        omega

theorem Sound.paced_le (offers : List Offer) :
    (paced none (offers.zip (gate.decisions {} offers)) : Int) * (gate.interval - gate.slack) ≤
      gate.interval + advance none offers := by
  have slack_nonneg := sound.slack_nonneg
  have slack_lt := sound.slack_lt
  cases offers with
  | nil =>
    simp only [decisions, List.zip_nil_right, paced, advance, Nat.cast_zero, zero_mul]
    omega
  | cons offered rest =>
    have paid := sound.paced_paid (sound.kept_offer sound.kept_empty offered)
      (gate.offer_last {} offered) rest
    have kept := sound.kept_after (sound.kept_offer sound.kept_empty offered) rest
    have nonneg := kept.nonneg
    have started : (gate.offer {} offered).1.amount = 0 := rfl
    rw [started] at paid
    rw [decisions, List.zip_cons_cons, paced, advance, Nat.cast_add, add_mul]
    split
    · rw [Nat.cast_one, one_mul]
      omega
    · rw [Nat.cast_zero, zero_mul]
      omega

/-- Later and later points without a forced one, none further from the one before than the
interval. -/
def Steady (gate : CreditGate) : Int → List Offer → Prop
  | _, [] => True
  | last, offered :: rest =>
    last < offered.point ∧ offered.point ≤ last + gate.interval ∧ offered.forced = false ∧
      Steady gate offered.point rest

section

variable (kept : gate.Kept credit) {last : Int}
  (isLast : credit.last = some last) {offers : List Offer} (steady : gate.Steady last offers)

include kept last isLast offers steady

theorem Sound.steady_kept :
    credit.amount + advance (some last) offers ≤
      ((gate.decisions credit offers).count true : Int) * gate.interval +
        (gate.after credit offers).amount := by
  induction offers generalizing credit last with
  | nil => simp [decisions, after, advance]
  | cons offered rest induction =>
    have cap_eq := sound.cap_eq
    have le_interval := kept.le_interval
    rcases steady with ⟨before, _, _, steadyRest⟩
    have later := induction (sound.kept_offer kept offered) (gate.offer_last credit offered)
      steadyRest
    have after_eq : gate.after credit (offered :: rest) =
        gate.after (gate.offer credit offered).1 rest := rfl
    rw [after_eq, advance, decisions, List.count_cons]
    rcases gate.offer_cases credit offered with
      ⟨fresh, _⟩ | ⟨other, isOther, _, ⟨_, _, same⟩ | ⟨_, same⟩⟩
    · exact absurd (fresh last isLast) (not_le.mpr before)
    · cases isLast.symm.trans isOther
      rw [same] at later ⊢
      simp only [earned, beq_iff_eq, Bool.false_eq_true, if_false, Nat.add_zero] at later ⊢
      omega
    · cases isLast.symm.trans isOther
      rw [same] at later ⊢
      simp only [earned, beq_self_eq_true, if_true, Nat.cast_add, Nat.cast_one, add_mul,
        one_mul] at later ⊢
      omega

theorem Sound.steady_count :
    advance (some last) offers - gate.interval ≤
      ((gate.decisions credit offers).count true : Int) * gate.interval := by
  have lossless := sound.steady_kept kept isLast steady
  have nonneg := kept.nonneg
  have atEnd := (sound.kept_after kept offers).le_interval
  omega

end

end

end CreditGate

end VideoAnalysis.Foundation
