/-!
# Binary64 numbers

A finite number is a sign and a rank.  The rank numbers the magnitudes in
increasing order, starting with zero, and is also the pattern of the low 63
bits.  Every magnitude is a whole number of units of 2^-1074, the least
positive magnitude; arithmetic is done on units, where it is exact.

There is a single `nan`: payload and sign of a NaN are never observed.
-/

namespace MeterWatch

/-- The number of magnitudes with one exponent, 2^52. -/
abbrev Binary64.binade : Nat := 0x10000000000000

/-- The number of finite magnitudes.  This rank itself stands for infinity. -/
abbrev Binary64.rankLimit : Nat := 2047 * binade

inductive Binary64 where
  | nan
  | infinite (negative : Bool)
  | finite (negative : Bool) (rank : Nat) (rank_lt : rank < Binary64.rankLimit)
  deriving DecidableEq, Repr

namespace Binary64

/-! ## Ranks and units -/

/-- How many units make one. -/
def unitsPerOne : Nat := Nat.pow 2 1074

/-- The significand, of 53 bits except below the least normal magnitude. -/
def significand (rank : Nat) : Nat :=
  if rank < binade then rank else binade + rank % binade

/-- The exponent of two by which the significand counts units. -/
def scale (rank : Nat) : Nat := rank / binade - 1

def units (rank : Nat) : Nat := significand rank * Nat.pow 2 (scale rank)

/-- The number of a rank; ranks past the last finite one overflow. -/
def ofRank (negative : Bool) (rank : Nat) : Binary64 :=
  if rank_lt : rank < rankLimit then .finite negative rank rank_lt
  else .infinite negative

def zero (negative : Bool) : Binary64 := .finite negative 0 (by decide)

instance : Inhabited Binary64 := ⟨zero false⟩

theorem ofRank_of_lt (negative : Bool) {rank : Nat} (h : rank < rankLimit) :
    ofRank negative rank = .finite negative rank h := by
  simp [ofRank, h]

/-! ## Bit patterns -/

/-- The value of the sign bit, 2^63. -/
abbrev signUnit : Nat := 0x8000000000000000

def ofBits (bits : Nat) : Binary64 :=
  if rankLimit < bits % signUnit then .nan
  else ofRank (bits / signUnit % 2 == 1) (bits % signUnit)

def signBits (negative : Bool) : Nat := if negative then signUnit else 0

def toBits : Binary64 → Nat
  | .nan => rankLimit + binade / 2
  | .infinite negative => signBits negative + rankLimit
  | .finite negative rank _ => signBits negative + rank

theorem toBits_mod (negative : Bool) {rank : Nat} (h : rank < signUnit) :
    (signBits negative + rank) % signUnit = rank := by
  cases negative <;> simp only [signBits, signUnit, if_true,
    Bool.false_eq_true, if_false] at h ⊢ <;> omega

theorem toBits_sign (negative : Bool) {rank : Nat} (h : rank < signUnit) :
    ((signBits negative + rank) / signUnit % 2 == 1) = negative := by
  cases negative <;> simp only [signBits, signUnit, if_true,
    Bool.false_eq_true, if_false, beq_iff_eq, beq_eq_false_iff_ne]
    at h ⊢ <;> omega

theorem ofBits_toBits (number : Binary64) : ofBits number.toBits = number := by
  cases number with
  | nan => decide
  | infinite negative => cases negative <;> decide
  | finite negative rank rank_lt =>
      have small : rank < signUnit := Nat.lt_trans rank_lt (by decide)
      unfold ofBits toBits
      rw [toBits_mod negative small, toBits_sign negative small,
        if_neg (by omega), ofRank_of_lt negative rank_lt]

/-! ## Sign and order -/

def isFinite : Binary64 → Bool
  | .finite .. => true
  | _ => false

def neg : Binary64 → Binary64
  | .nan => .nan
  | .infinite negative => .infinite !negative
  | .finite negative rank rank_lt => .finite (!negative) rank rank_lt

instance : Neg Binary64 := ⟨neg⟩

/-- The place of a number on the line, where both zeros meet. -/
def key? : Binary64 → Option Int
  | .nan => none
  | .infinite negative => some (if negative then -rankLimit else rankLimit)
  | .finite negative rank _ => some (if negative then -rank else rank)

/-- Numerical comparison.  NaN compares with nothing, not even itself. -/
def compare? (left right : Binary64) : Option Ordering := do
  let leftKey ← left.key?
  let rightKey ← right.key?
  return compare leftKey rightKey

def isLess (left right : Binary64) : Bool :=
  left.compare? right == some .lt

def isEqual (left right : Binary64) : Bool :=
  left.compare? right == some .eq

/-- The place of a number in the total order, which puts -0.0 below 0.0 and
NaN on top. -/
def totalKey : Binary64 → Int
  | .nan => rankLimit + 1
  | .infinite negative => if negative then -rankLimit - 1 else rankLimit
  | .finite negative rank _ => if negative then -rank - 1 else rank

end Binary64

end MeterWatch
