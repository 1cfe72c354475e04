import MeterWatch.Binary64.Rounding

/-!
# Arithmetic on binary64 numbers

Each operation computes on exact units and rounds its result once.
-/

namespace MeterWatch.Binary64

def mul : Binary64 → Binary64 → Binary64
  | .nan, _ => .nan
  | _, .nan => .nan
  | .finite leftNegative leftRank _, .finite rightNegative rightRank _ =>
      ofUnits (leftNegative != rightNegative)
        (units leftRank * units rightRank) unitsPerOne
  | .infinite leftNegative, .finite rightNegative rightRank _ =>
      if rightRank = 0 then .nan
      else .infinite (leftNegative != rightNegative)
  | .finite leftNegative leftRank _, .infinite rightNegative =>
      if leftRank = 0 then .nan
      else .infinite (leftNegative != rightNegative)
  | .infinite leftNegative, .infinite rightNegative =>
      .infinite (leftNegative != rightNegative)

def div : Binary64 → Binary64 → Binary64
  | .nan, _ => .nan
  | _, .nan => .nan
  | .infinite _, .infinite _ => .nan
  | .infinite leftNegative, .finite rightNegative _ _ =>
      .infinite (leftNegative != rightNegative)
  | .finite leftNegative _ _, .infinite rightNegative =>
      zero (leftNegative != rightNegative)
  | .finite leftNegative leftRank _, .finite rightNegative rightRank _ =>
      if rightRank = 0 then
        if leftRank = 0 then .nan
        else .infinite (leftNegative != rightNegative)
      else
        ofUnits (leftNegative != rightNegative)
          (units leftRank * unitsPerOne) (units rightRank)

def signedUnits (negative : Bool) (rank : Nat) : Int :=
  if negative then -(units rank) else units rank

/-- An exact sum of zero is -0.0 only if both terms are negative. -/
def add : Binary64 → Binary64 → Binary64
  | .nan, _ => .nan
  | _, .nan => .nan
  | .infinite leftNegative, .infinite rightNegative =>
      if leftNegative = rightNegative then .infinite leftNegative else .nan
  | .infinite negative, .finite .. => .infinite negative
  | .finite .., .infinite negative => .infinite negative
  | .finite leftNegative leftRank _, .finite rightNegative rightRank _ =>
      let sum := signedUnits leftNegative leftRank +
        signedUnits rightNegative rightRank
      if sum = 0 then zero (leftNegative && rightNegative)
      else ofUnits (sum < 0) sum.natAbs 1

instance : Mul Binary64 := ⟨mul⟩

instance : Div Binary64 := ⟨div⟩

instance : Add Binary64 := ⟨add⟩

/-! ## Whole numbers -/

/-- The nearest whole number; halves go away from zero. -/
def round : Binary64 → Binary64
  | .finite negative rank _ =>
      ofRatio negative (divRound .away (units rank) unitsPerOne) 1
  | other => other

def clamp (low high value : Int) : Int := max low (min high value)

/-- The first number with too many bits for a signed 64-bit one, 2^63. -/
def int64Limit : Int := 0x8000000000000000

/-- The whole part, limited to 64 signed bits.  NaN gives zero. -/
def toInt64 : Binary64 → Int
  | .nan => 0
  | .infinite negative => if negative then -int64Limit else int64Limit - 1
  | .finite negative rank _ =>
      let whole : Int := units rank / unitsPerOne
      clamp (-int64Limit) (int64Limit - 1)
        (if negative then -whole else whole)

end MeterWatch.Binary64
