import MeterWatch.Proofs.Decimal.Numeral

/-!
# Sums of binary64 numbers

A sum of finite numbers is the number nearest to their exact sum.  Numbers are
added up from the left, and every partial sum is rounded before the next number
is added to it.
-/

namespace MeterWatch.Binary64

/-! ## Sums of two numbers -/

/-- The value of a finite number. -/
def signedValue (negative : Bool) (rank : Nat) : ℚ :=
  if negative then -magnitude rank else magnitude rank

/-- A sum whose second term is finite.  The first one may have overflowed. -/
inductive IsSum : Binary64 → Binary64 → Binary64 → Prop
  | rounded {negative negative' rank rank' nearest h h'} {sum : ℚ}
      (exact : signedValue negative rank + signedValue negative' rank' = sum)
      (nonzero : sum ≠ 0) (near : IsNearest |sum| nearest) :
      IsSum (.finite negative rank h) (.finite negative' rank' h')
        (ofRank (sum < 0) nearest)
  | cancelled {negative negative' rank rank' h h'}
      (exact : signedValue negative rank + signedValue negative' rank' = 0) :
      IsSum (.finite negative rank h) (.finite negative' rank' h')
        (.zero (negative && negative'))
  | infinite {negative negative' rank' h'} :
      IsSum (.infinite negative) (.finite negative' rank' h')
        (.infinite negative)

theorem signedValue_eq_div (negative : Bool) (rank : Nat) :
    signedValue negative rank = signedUnits negative rank / unitsPerOne := by
  cases negative with
  | false => rfl
  | true =>
      change -magnitude rank = (-(units rank : Int) : Int) / unitsPerOne
      rw [magnitude, Int.cast_neg, Int.cast_natCast, neg_div]

theorem isNearest_natAbs (sum : Int) :
    IsNearest |(sum / unitsPerOne : ℚ)| (nearestRank sum.natAbs 1) := by
  refine nearestRank_isNearest Nat.one_pos ?_
  rw [abs_div, abs_of_pos unitsPerOne_cast_pos, Nat.cast_one, one_mul,
    div_mul_cancel₀ _ unitsPerOne_cast_pos.ne', Nat.cast_natAbs, Int.cast_abs]

theorem add_finite_isSum (negative negative' : Bool) {rank rank' : Nat}
    (h : rank < rankLimit) (h' : rank' < rankLimit) :
    IsSum (.finite negative rank h) (.finite negative' rank' h')
      (.finite negative rank h + .finite negative' rank' h') := by
  change IsSum _ _ (add _ _)
  have exact : signedValue negative rank + signedValue negative' rank' =
      (signedUnits negative rank + signedUnits negative' rank' : Int) /
        unitsPerOne := by
    rw [signedValue_eq_div, signedValue_eq_div, ← add_div, Int.cast_add]
  simp only [add]
  generalize signedUnits negative rank + signedUnits negative' rank' = sum
    at exact ⊢
  have near := isNearest_natAbs sum
  split
  · rename_i zero
    refine .cancelled ?_
    rw [exact, zero, Int.cast_zero, zero_div]
  · rename_i nonzero
    have nonzero' : (sum / unitsPerOne : ℚ) ≠ 0 :=
      div_ne_zero (Int.cast_ne_zero.mpr nonzero) unitsPerOne_cast_pos.ne'
    have sign : decide (sum < 0) = decide ((sum / unitsPerOne : ℚ) < 0) := by
      rw [decide_eq_decide, div_lt_iff₀ unitsPerOne_cast_pos, zero_mul,
        Int.cast_lt_zero]
    rw [ofUnits, sign]
    exact .rounded exact nonzero' near

theorem add_isSum {total term : Binary64} (number : total ≠ .nan)
    (finite : term.isFinite = true) : IsSum total term (total + term) := by
  cases term with
  | nan | infinite => cases finite
  | finite negative' rank' h' =>
      cases total with
      | nan => exact absurd rfl number
      | infinite negative => exact .infinite
      | finite negative rank h => exact add_finite_isSum negative negative' h h'

theorem IsSum.ne_nan {total term sum : Binary64} (h : IsSum total term sum) :
    sum ≠ .nan := by
  cases h with
  | rounded exact nonzero near =>
      unfold ofRank
      split <;> simp
  | cancelled | infinite => simp [zero]

/-- Two terms have one sum. -/
theorem IsSum.unique {total term sum other : Binary64} (h : IsSum total term sum)
    (h' : IsSum total term other) : sum = other := by
  cases h with
  | rounded exact nonzero near =>
      cases h' with
      | rounded exact' nonzero' near' =>
          subst exact exact'
          rw [near.unique near']
      | cancelled exact' => exact absurd (exact.symm.trans exact') nonzero
  | cancelled exact =>
      cases h' with
      | rounded exact' nonzero' =>
          exact absurd (exact'.symm.trans exact) nonzero'
      | cancelled => rfl
  | infinite =>
      cases h'
      rfl

/-! ## Sums of rows -/

/-- Added up from the left. -/
inductive SumsUp : Binary64 → List Binary64 → Binary64 → Prop
  | nil {total} : SumsUp total [] total
  | cons {total term partialSum rest sum} (first : IsSum total term partialSum)
      (later : SumsUp partialSum rest sum) : SumsUp total (term :: rest) sum

theorem foldl_add_sumsUp (terms : List Binary64) {start : Binary64}
    (number : start ≠ .nan)
    (finite : ∀ term ∈ terms, term.isFinite = true) :
    SumsUp start terms (terms.foldl (· + ·) start) := by
  induction terms generalizing start with
  | nil => exact .nil
  | cons term rest ih =>
      obtain ⟨first, later⟩ := List.forall_mem_cons.mp finite
      -- A partial sum may overflow, but finite terms never make it NaN.
      have sum := add_isSum number first
      exact .cons sum (ih sum.ne_nan later)

theorem SumsUp.unique {start : Binary64} {terms : List Binary64}
    {sum other : Binary64} (h : SumsUp start terms sum)
    (h' : SumsUp start terms other) : sum = other := by
  induction h with
  | nil =>
      cases h'
      rfl
  | cons first later ih =>
      cases h' with
      | cons first' later' =>
          cases first.unique first'
          exact ih later'

end MeterWatch.Binary64
