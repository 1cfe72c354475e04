import MeterWatch.Binary64.Rounding

/-!
# Durations

A duration is a whole number of nanoseconds.  Servers ask for delays in
seconds, as a binary64 number.
-/

namespace MeterWatch

structure Duration where
  nanoseconds : Nat
  deriving DecidableEq, Repr

namespace Duration

def nanosPerSecond : Nat := 1000000000

def ofSeconds (seconds : Nat) : Duration := ⟨seconds * nanosPerSecond⟩

def nanosPerMillisecond : Nat := 1000000

def ofMilliseconds (milliseconds : Nat) : Duration :=
  ⟨milliseconds * nanosPerMillisecond⟩

def seconds (duration : Duration) : Nat :=
  duration.nanoseconds / nanosPerSecond

/-- The nanoseconds beyond the whole seconds. -/
def subsecond (duration : Duration) : Nat :=
  duration.nanoseconds % nanosPerSecond

theorem subsecond_lt (duration : Duration) :
    duration.subsecond < nanosPerSecond :=
  Nat.mod_lt _ (by decide)

/-- Whole seconds are counted in 64 bits. -/
def secondsLimit : Nat := 0x10000000000000000

/--
The nearest whole number of nanoseconds, halves to even.  A negative number of
seconds is refused however small it is, and so are 2^64 seconds and more.
-/
def ofBinary64? : Binary64 → Option Duration
  | .finite negative rank _ =>
      let units := Binary64.units rank
      let limit := secondsLimit * Binary64.unitsPerOne
      if (negative ∧ rank ≠ 0) ∨ limit ≤ units then none
      else some ⟨divRound .toEven (units * nanosPerSecond) Binary64.unitsPerOne⟩
  | _ => none

end Duration

end MeterWatch
