import MeterWatch.Decimal.Notation
import MeterWatch.Proofs.Json.Positional

/-!
# Numbers that are written and read again

A finite number is written as its shortest decimal.  The JSON reader rounds the
significand of that decimal, the power of ten and the result; where the first
two need no rounding the number comes back, and elsewhere it may be another one.
-/

namespace MeterWatch.Binary64

open Json

/-! ## Decimals that are written -/

def decimal (rank : Nat) : Decimal :=
  if rank = 0 then ⟨0, 0⟩ else shortest .away rank

theorem plain_toList (negative : Bool) {rank : Nat} (h : rank < rankLimit) :
    (finite negative rank h).plain.toList =
      signText negative ++ (decimal rank).positional := by
  simp only [plain, textWith, String.toList_ofList, decimal]
  split
  · rfl
  · rfl

theorem decimal_digits_lt (rank : Nat) :
    (decimal rank).digits < significandLimit := by
  unfold decimal
  split
  · decide
  · rename_i nonzero
    exact (shortest_digits_le .away nonzero).trans_lt (by decide)

theorem decimal_canonical (rank : Nat) :
    (decimal rank).digits = 0 → (decimal rank).exponent = 0 := by
  unfold decimal
  split
  · exact fun _ => rfl
  · rename_i nonzero
    intro zero
    exact absurd zero (shortest_digits_pos .away nonzero).ne'

theorem rankOfDecimal_decimal (rank : Nat) :
    rankOfDecimal (decimal rank) = rank := by
  unfold decimal
  split
  · rename_i zero
    simp [rankOfDecimal, Decimal.num, zero]
  · rename_i nonzero
    exact rankOfDecimal_shortest .away nonzero

theorem plain_isNumber {number : Binary64} (h : number.isFinite = true) :
    IsNumber number.plain.toList := by
  cases number with
  | nan | infinite => cases h
  | finite negative rank rank_lt =>
      have unsigned :=
        Decimal.positional_isUnsigned (decimal_canonical rank)
      rw [plain_toList]
      cases negative with
      | false => exact .unsigned unsigned
      | true => exact .negative unsigned

/-! ## Numbers that are read -/

/-- The number that the text of a number is read as, if it is in range. -/
def reread? : Binary64 → Option Binary64
  | .finite negative rank _ =>
      (scaled? (decimal rank).gathered.1 (decimal rank).gathered.2).map
        (applySign negative)
  | _ => none

theorem numberOf?_plain {number : Binary64} (h : number.isFinite = true) :
    numberOf? number.plain.toList = number.reread? := by
  cases number with
  | nan | infinite => cases h
  | finite negative rank rank_lt =>
      rw [plain_toList]
      exact numberOf?_positional negative (decimal_digits_lt rank)
        (decimal_canonical rank)

/-- The digits of a number and the power of ten behind them are numbers that
need no rounding. -/
def IsReadExactly : Binary64 → Prop
  | .finite _ rank _ =>
      (decimal rank).gathered.2 = 0 ∨
        (decimal rank).gathered.2.natAbs ≤ 22 ∧
          IsExact (decimal rank).gathered.1
  | _ => False

/-- Such are times in seconds with up to six places. -/
theorem isReadExactly_of_places {negative : Bool} {rank : Nat}
    (h : rank < rankLimit) (small : (decimal rank).digits < 2 * binade)
    (places : -22 ≤ (decimal rank).exponent ∧ (decimal rank).exponent ≤ 0) :
    (finite negative rank h).IsReadExactly := by
  rcases places.2.lt_or_eq with fraction | whole
  · refine .inr ?_
    rw [Decimal.gathered, if_pos fraction]
    exact ⟨by omega, _, 0, small, (Nat.mul_one _).symm⟩
  · refine .inl ?_
    simp [Decimal.gathered, whole, gatherZeros]

theorem rankOfDecimal_gathered (rank : Nat) :
    rankOfDecimal ⟨(decimal rank).gathered.1, (decimal rank).gathered.2⟩ =
      rank :=
  (rankOfDecimal_congr (decimal rank).gathered_value).trans
    (rankOfDecimal_decimal rank)

theorem scaled?_gathered {rank : Nat} (rank_lt : rank < rankLimit)
    (exact : (decimal rank).gathered.2 = 0 ∨
      (decimal rank).gathered.2.natAbs ≤ 22 ∧
        IsExact (decimal rank).gathered.1) :
    scaled? (decimal rank).gathered.1 (decimal rank).gathered.2 =
      some (finite false rank rank_lt) := by
  have small := Decimal.gathered_lt (decimal_digits_lt rank)
  have rank_eq := rankOfDecimal_gathered rank
  generalize (decimal rank).gathered = gathered at *
  obtain ⟨significand, exponent⟩ := gathered
  rcases exact with whole | ⟨power_small, exact⟩
  · -- A whole number is rounded once, by the reader of whole numbers.
    simp only at whole small rank_eq ⊢
    subst whole
    rw [rankOfDecimal_whole] at rank_eq
    rw [scaled?_zero small, ofNat_eq small]
    simp only [rank_eq]
  · simp only at power_small exact small rank_eq ⊢
    rw [scaled?_exact small exact power_small (by rwa [rank_eq])]
    simp only [rank_eq]

theorem reread?_of_isReadExactly {number : Binary64}
    (h : number.IsReadExactly) : number.reread? = some number := by
  cases number with
  | nan | infinite => exact h.elim
  | finite negative rank rank_lt =>
      rw [reread?, scaled?_gathered rank_lt h]
      cases negative <;> rfl

end MeterWatch.Binary64
