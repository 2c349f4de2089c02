import VideoAnalysis.Foundation.CreditGate

/-! # Two gates in a row

The second gate sees only what the first admits. As long as the clock goes forward both
have the same credit at every admission, and the second admits everything again.
-/

namespace VideoAnalysis.Foundation

namespace CreditGate

variable {gate : CreditGate} {first second : Credit}

/-- A plain point that repeats one that was just refused. -/
def RepeatsRefused : List (Offer × Bool) → Prop
  | earlier :: later :: rest =>
    (earlier.2 = false ∧ later.1.point = earlier.1.point ∧ later.1.forced = false) ∨
      RepeatsRefused (later :: rest)
  | _ => False

theorem not_repeatsRefused {outcomes : List (Offer × Bool)}
    (admitted : ∀ outcome ∈ outcomes, outcome.2 = true) : ¬RepeatsRefused outcomes := by
  induction outcomes with
  | nil => exact id
  | cons _ rest induction =>
    rw [List.forall_mem_cons] at admitted
    cases rest with
    | nil => exact id
    | cons =>
      rw [RepeatsRefused, not_or]
      refine ⟨fun refused => ?_, induction admitted.2⟩
      rw [admitted.1] at refused
      cases refused.1

/-- The second gate behind the first, whose last point was `previous`. -/
inductive Shadow (gate : CreditGate) (first second : Credit) : Offer × Bool → Prop
  | admitted {previous : Offer} : first.last = some previous.point →
      second.last = first.last → second.amount = first.amount →
        Shadow gate first second (previous, true)
  | refused {previous : Offer} {seen : Int} : first.last = some previous.point →
      second.last = some seen → seen < previous.point →
        first.amount = second.amount + (previous.point - seen) →
          first.amount + gate.slack < gate.interval → Shadow gate first second (previous, false)

variable {previous : Offer × Bool} {offered : Offer}

theorem Shadow.last (shadow : Shadow gate first second previous) :
    first.last = some previous.1.point := by
  cases shadow with
  | admitted isLast | refused isLast => exact isLast

theorem Shadow.earned_eq (shadow : Shadow gate first second previous) (offered : Offer) :
    ∃ seen, second.last = some seen ∧ seen ≤ previous.1.point ∧
      gate.earned second offered seen = gate.earned first offered previous.1.point := by
  cases shadow with
  | @admitted point isLast sameLast sameAmount =>
    exact ⟨point.point, by rw [sameLast, isLast], le_refl _, by rw [earned, earned, sameAmount]⟩
  | @refused _ seen _ isSeen before amount =>
    refine ⟨seen, isSeen, before.le, ?_⟩
    simp only [earned, amount]
    congr 1
    omega

section

variable (sound : gate.Sound) (shadow : Shadow gate first second previous)

include sound shadow

theorem Sound.shadow_refused (refuses : (gate.offer first offered).2 = false) :
    Shadow gate (gate.offer first offered).1 second (offered, false) := by
  have cap_eq := sound.cap_eq
  have slack_nonneg := sound.slack_nonneg
  have slack_lt := sound.slack_lt
  rcases gate.offer_cases first offered with
    ⟨_, same⟩ | ⟨last, isLast, later, ⟨_, short, same⟩ | ⟨_, same⟩⟩
  · rw [same] at refuses
    cases refuses
  · cases shadow.last.symm.trans isLast
    rcases shadow.earned_eq offered with ⟨_, isSeen, notLater, earnedEq⟩
    rw [same]
    refine .refused rfl isSeen (lt_of_le_of_lt notLater later) ?_ short
    rw [← earnedEq] at short ⊢
    simp only [earned] at short ⊢
    omega
  · rw [same] at refuses
    cases refuses

theorem Sound.shadow_admitted (forward : previous.1.point ≤ offered.point)
    (admits : (gate.offer first offered).2 = true)
    (fair : ¬(previous.2 = false ∧ offered.point = previous.1.point ∧ offered.forced = false)) :
    (gate.offer second offered).2 = true ∧
      Shadow gate (gate.offer first offered).1 (gate.offer second offered).1 (offered, true) := by
  have cap_eq := sound.cap_eq
  have slack_nonneg := sound.slack_nonneg
  have slack_lt := sound.slack_lt
  rcases gate.offer_cases first offered with
    ⟨fresh, same⟩ | ⟨last, isLast, later, ⟨_, _, same⟩ | ⟨enough, same⟩⟩
  · have repeated : offered.point = previous.1.point :=
      le_antisymm (fresh _ shadow.last) forward
    cases shadow with
    | @admitted _ _ sameLast =>
      have secondFresh : gate.offer second offered = (⟨some offered.point, 0⟩, true) := by
        apply offer_fresh
        intro last isSecond
        exact fresh last (sameLast ▸ isSecond)
      rw [same, secondFresh]
      exact ⟨rfl, .admitted rfl rfl rfl⟩
    | @refused _ seen _ isSeen before amount =>
      simp only at repeated before amount
      have forced : offered.forced = true := by
        by_contra plain
        exact fair ⟨rfl, repeated, Bool.not_eq_true _ ▸ plain⟩
      have spends := @offer_spends gate _ _ _ isSeen (by omega) (.inl forced)
      have nothing : max 0 (gate.earned second offered seen - gate.interval) = 0 := by
        simp only [earned]
        omega
      rw [nothing] at spends
      rw [same, spends]
      exact ⟨rfl, .admitted rfl rfl rfl⟩
  · rw [same] at admits
    cases admits
  · cases shadow.last.symm.trans isLast
    rcases shadow.earned_eq offered with ⟨_, isSeen, notLater, earnedEq⟩
    rw [← earnedEq] at enough
    have spends := offer_spends isSeen (lt_of_le_of_lt notLater later) enough
    rw [same, spends, earnedEq]
    exact ⟨rfl, .admitted rfl rfl rfl⟩

theorem Sound.shadow_repeats (wasRefused : previous.2 = false)
    (repeated : offered.point = previous.1.point) (plain : offered.forced = false) :
    (gate.offer first offered).2 = true ∧ (gate.offer second offered).2 = false := by
  have cap_eq := sound.cap_eq
  have slack_nonneg := sound.slack_nonneg
  cases shadow with
  | admitted => cases wasRefused
  | @refused _ _ isLast isSeen before amount =>
    simp only at repeated before amount
    have fresh : ∀ last, first.last = some last → offered.point ≤ last := by
      intro last isFirst
      cases isLast.symm.trans isFirst
      exact repeated.le
    have refuses := @offer_refused gate _ _ _ isSeen (by omega) plain
      (by simp only [earned]; omega)
    rw [offer_fresh fresh, refuses]
    exact ⟨rfl, rfl⟩

end

def admitsAgain (gate : CreditGate) (first second : Credit) (offers : List Offer) : Prop :=
  ∀ decision ∈ gate.decisions second (gate.admitted first offers), decision = true

variable {offers : List Offer}

theorem admitsAgain_iff_zip :
    gate.admitsAgain first second offers ↔
      ∀ outcome ∈ (gate.admitted first offers).zip
        (gate.decisions second (gate.admitted first offers)), outcome.2 = true := by
  have mapped := gate.map_snd_zip_decisions second (gate.admitted first offers)
  rw [admitsAgain]
  conv_lhs => rw [← mapped]
  exact List.forall_mem_map

theorem Sound.shadow_admitsAgain_iff (sound : gate.Sound)
    (shadow : Shadow gate first second previous)
    (forward : ((previous.1 :: offers).map Offer.point).Pairwise (· ≤ ·)) :
    gate.admitsAgain first second offers ↔
      ¬RepeatsRefused (previous :: offers.zip (gate.decisions first offers)) := by
  induction offers generalizing first second previous with
  | nil => simp [admitsAgain, admitted, decisions, RepeatsRefused]
  | cons offered rest induction =>
    rw [List.map_cons, List.pairwise_cons] at forward
    have near : previous.1.point ≤ offered.point := forward.1 _ (by simp)
    rw [decisions, List.zip_cons_cons, RepeatsRefused, not_or]
    cases decided : (gate.offer first offered).2 with
    | false =>
      have next := sound.shadow_refused shadow decided
      have fair : ¬(previous.2 = false ∧ offered.point = previous.1.point ∧
          offered.forced = false) := by
        rintro ⟨wasRefused, repeated, plain⟩
        rw [(sound.shadow_repeats shadow wasRefused repeated plain).1] at decided
        cases decided
      have unseen : gate.admitted first (offered :: rest) =
          gate.admitted (gate.offer first offered).1 rest := by
        simp [admitted, decided]
      have later := induction next forward.2
      rw [admitsAgain] at later ⊢
      rw [unseen, later]
      exact ⟨fun clean => ⟨fair, clean⟩, fun clean => clean.2⟩
    | true =>
      have seen : gate.admitted first (offered :: rest) =
          offered :: gate.admitted (gate.offer first offered).1 rest := by
        simp [admitted, decided]
      rw [admitsAgain, seen, decisions, List.forall_mem_cons]
      by_cases fair : previous.2 = false ∧ offered.point = previous.1.point ∧
          offered.forced = false
      · rw [(sound.shadow_repeats shadow fair.1 fair.2.1 fair.2.2).2]
        simp [fair]
      · rcases sound.shadow_admitted shadow near decided fair with ⟨admits, next⟩
        have later := induction next forward.2
        rw [admitsAgain] at later
        rw [admits, later]
        simp [fair]

/-- On a clock that never goes back the second gate admits everything again exactly if no
plain point repeats one that the first gate has just refused. -/
theorem Sound.admitsAgain_iff (sound : gate.Sound)
    (forward : (offers.map Offer.point).Pairwise (· ≤ ·)) :
    gate.admitsAgain {} {} offers ↔ ¬RepeatsRefused (offers.zip (gate.decisions {} offers)) := by
  cases offers with
  | nil => simp [admitsAgain, admitted, decisions, RepeatsRefused]
  | cons offered =>
    have start : gate.offer {} offered = (⟨some offered.point, 0⟩, true) := rfl
    have shadow : Shadow gate ⟨some offered.point, 0⟩ ⟨some offered.point, 0⟩ (offered, true) :=
      .admitted rfl rfl rfl
    have later := sound.shadow_admitsAgain_iff shadow forward
    rw [decisions, List.zip_cons_cons, start, ← later, admitsAgain, admitsAgain]
    simp [admitted, decisions, start]

end CreditGate

end VideoAnalysis.Foundation
