/-!
# Decimals

A decimal is a whole number of digits times a power of ten.  Its numerator and
denominator are powers-of-ten multiples, so every statement about its value is
one about natural numbers.
-/

namespace MeterWatch

/-- The magnitude `digits * 10 ^ exponent`. -/
structure Decimal where
  digits : Nat
  exponent : Int
  deriving DecidableEq, Repr

def digitCount (n : Nat) : Nat := (Nat.toDigits 10 n).length

/-- The number a row of ASCII digits stands for. -/
def digitsValue (digits : List Char) : Nat :=
  digits.foldl (fun value digit => 10 * value + (digit.toNat - '0'.toNat)) 0

namespace Decimal

def num (decimal : Decimal) : Nat :=
  decimal.digits * Nat.pow 10 decimal.exponent.toNat

def den (decimal : Decimal) : Nat := Nat.pow 10 (-decimal.exponent).toNat

theorem den_pos (decimal : Decimal) : 0 < decimal.den :=
  Nat.pow_pos (by decide)

/-- The place of the leading digit, zero being the place of ones. -/
def leadingPlace (decimal : Decimal) : Int :=
  decimal.exponent + digitCount decimal.digits - 1

end Decimal

end MeterWatch
