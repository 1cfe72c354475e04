import MeterWatch.Duration
import MeterWatch.Proofs.Decimal.Whole
import Mathlib.Tactic.Positivity

/-!
# Delays in seconds

Seconds are turned into the whole number of nanoseconds nearest to them, and of
two that are equally near into the even one.  Seconds below zero and from 2^64
on are refused; all others fit into 64 bits even when they are rounded up.
-/

namespace MeterWatch

/-! ## Exact values -/

/-- The exact value of a finite number. -/
def Binary64.rational? : Binary64 → Option ℚ
  | .finite negative rank _ => some
      (if negative then -magnitude rank else magnitude rank)
  | _ => none

namespace Duration

open Binary64

/-- The seconds that a server may ask for. -/
def IsHonoured (pause : Binary64) : Prop :=
  pause = .zero true ∨
    ∃ seconds, pause.rational? = some seconds ∧ 0 ≤ seconds ∧ seconds < 2 ^ 64

theorem magnitude_lt_limit_iff (rank : Nat) :
    magnitude rank < 2 ^ 64 ↔ units rank < secondsLimit * unitsPerOne := by
  have limit : (2 ^ 64 : ℚ) = secondsLimit := by norm_num [secondsLimit]
  rw [magnitude, div_lt_iff₀ unitsPerOne_cast_pos, limit]
  exact_mod_cast Iff.rfl

/-- Which numbers are refused, in terms of sign and rank. -/
theorem isHonoured_finite_iff (negative : Bool) {rank : Nat}
    (rank_lt : rank < rankLimit) :
    IsHonoured (.finite negative rank rank_lt) ↔
      ¬ ((negative = true ∧ rank ≠ 0) ∨
        secondsLimit * unitsPerOne ≤ units rank) := by
  rw [not_or, not_le, ← magnitude_lt_limit_iff]
  constructor
  · rintro (zero | ⟨seconds, seconds_eq, nonneg, below⟩)
    · cases zero
      refine ⟨by simp, ?_⟩
      rw [magnitude_zero]
      positivity
    · cases seconds_eq
      cases negative with
      | false => exact ⟨by simp, below⟩
      | true =>
          simp only [if_true, Left.nonneg_neg_iff] at nonneg
          have zero : rank = 0 := by
            by_contra positive
            exact nonneg.not_gt (magnitude_pos positive)
          subst zero
          refine ⟨by simp, ?_⟩
          rw [magnitude_zero]
          positivity
  · rintro ⟨unsigned, below⟩
    cases negative with
    | false => exact .inr ⟨_, rfl, magnitude_nonneg rank, below⟩
    | true =>
        left
        have zero : rank = 0 := by simpa using unsigned
        subst zero
        rfl

theorem isSome_ofBinary64?_iff (pause : Binary64) :
    (ofBinary64? pause).isSome = true ↔ IsHonoured pause := by
  cases pause with
  | nan | infinite => simp [ofBinary64?, IsHonoured, rational?, zero]
  | finite negative rank rank_lt =>
      rw [isHonoured_finite_iff]
      simp only [ofBinary64?]
      split
      · next refused => simp [refused]
      · next honoured => simp only [Option.isSome_some, honoured, not_false_eq_true]

/-! ## Rounding -/

section Rounding

variable {pause : Binary64} {delay : Duration}

theorem exists_rank (h : ofBinary64? pause = some delay) :
    ∃ rank, pause.rational? = some (magnitude rank) ∧
      units rank < secondsLimit * unitsPerOne ∧
      delay.nanoseconds =
        divRound .toEven (units rank * nanosPerSecond) unitsPerOne := by
  cases pause with
  | nan | infinite => cases h
  | finite negative rank rank_lt =>
      simp only [ofBinary64?] at h
      split at h
      · cases h
      · next honoured =>
          rw [not_or, not_le] at honoured
          refine ⟨rank, ?_, honoured.2, by rw [← Option.some.inj h]⟩
          cases negative with
          | false => rfl
          | true =>
              have zero : rank = 0 := by simpa using honoured.1
              subst zero
              have value : rational? (.finite true 0 rank_lt) =
                  some (-magnitude 0) := rfl
              rw [value, magnitude_zero, neg_zero]

theorem ofBinary64?_isNearestEven (h : ofBinary64? pause = some delay) :
    ∃ seconds, pause.rational? = some seconds ∧
      IsNearestEven (seconds * 10 ^ 9) delay.nanoseconds := by
  obtain ⟨rank, seconds_eq, -, nanoseconds_eq⟩ := exists_rank h
  refine ⟨magnitude rank, seconds_eq, ?_⟩
  have exact : magnitude rank * 10 ^ 9 =
      (units rank * nanosPerSecond : Nat) / (unitsPerOne : ℚ) := by
    rw [magnitude, div_mul_eq_mul_div, Nat.cast_mul, nanosPerSecond]
    congr 2
  rw [exact, nanoseconds_eq]
  exact divRound_isNearestEven _ unitsPerOne_pos

theorem ofBinary64?_mono {pause' : Binary64} {delay' : Duration}
    (h : ofBinary64? pause = some delay)
    (h' : ofBinary64? pause' = some delay') {seconds seconds' : ℚ}
    (value : pause.rational? = some seconds)
    (value' : pause'.rational? = some seconds') (le : seconds ≤ seconds') :
    delay.nanoseconds ≤ delay'.nanoseconds := by
  obtain ⟨rank, seconds_eq, -, nanoseconds_eq⟩ := exists_rank h
  obtain ⟨rank', seconds_eq', -, nanoseconds_eq'⟩ := exists_rank h'
  cases value.symm.trans seconds_eq
  cases value'.symm.trans seconds_eq'
  have rank_le := magnitude_strictMono.le_iff_le.mp le
  rw [nanoseconds_eq, nanoseconds_eq']
  exact divRound_mono .toEven _
    (Nat.mul_le_mul_right _ (units_strictMono.monotone rank_le))

/-- The rank of 2^64. -/
def limitRank : Nat := 1087 * binade

theorem units_limitRank : units limitRank = secondsLimit * unitsPerOne := by
  decide +kernel

/-- The greatest number below 2^64 is so far from it that it is not rounded up
to it. -/
theorem ofBinary64?_seconds_lt (h : ofBinary64? pause = some delay) :
    delay.seconds < secondsLimit := by
  obtain ⟨rank, -, below, nanoseconds_eq⟩ := exists_rank h
  rw [← units_limitRank, units_strictMono.lt_iff_lt] at below
  have rank_le : rank ≤ limitRank - 1 := Nat.le_sub_one_of_lt below
  have greatest : divRound .toEven (units (limitRank - 1) * nanosPerSecond)
      unitsPerOne < secondsLimit * nanosPerSecond := by
    decide +kernel
  rw [seconds, Nat.div_lt_iff_lt_mul (by decide), nanoseconds_eq]
  exact (divRound_mono .toEven _ (Nat.mul_le_mul_right _
    (units_strictMono.monotone rank_le))).trans_lt greatest

end Rounding

theorem nanoseconds_eq (delay : Duration) :
    delay.nanoseconds = delay.seconds * nanosPerSecond + delay.subsecond := by
  rw [seconds, subsecond, Nat.mul_comm]
  exact (Nat.div_add_mod _ _).symm

end Duration

end MeterWatch
