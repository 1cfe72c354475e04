/-!
# Wall clock times

Instants are seconds of Unix time.  They are shown as a time of day, either of
the reference zone or of the local one, whose offset is fixed.
-/

namespace MeterWatch

/-- The first second of year -262143. -/
def minSeconds : Int := -8334601228800

/-- The last second of year 262142. -/
def maxSeconds : Int := 8210266876799

/-- An instant of a year that calendars can represent. -/
structure Instant where
  seconds : Int
  inRange : minSeconds ≤ seconds ∧ seconds ≤ maxSeconds
  deriving DecidableEq, Repr

namespace Instant

def ofSeconds? (seconds : Int) : Option Instant :=
  if inRange : minSeconds ≤ seconds ∧ seconds ≤ maxSeconds then
    some ⟨seconds, inRange⟩
  else none

instance : Inhabited Instant := ⟨⟨0, by decide⟩⟩

end Instant

inductive Zone where
  | localTime
  | utc
  deriving DecidableEq, Repr

namespace Zone

/-- Local time is five and a half hours ahead. -/
def offset : Zone → Int
  | .localTime => 19800
  | .utc => 0

end Zone

def secondsPerDay : Nat := 86400

def Instant.secondOfDay (instant : Instant) (zone : Zone) : Nat :=
  ((instant.seconds + zone.offset) % secondsPerDay).toNat

/-- A number below one hundred with two digits. -/
def twoDigits (n : Nat) : List Char :=
  [Nat.digitChar (n / 10), Nat.digitChar (n % 10)]

def Zone.format (zone : Zone) (instant : Instant) : String :=
  let second := instant.secondOfDay zone
  String.ofList (twoDigits (second / 3600) ++ ':' ::
    twoDigits (second / 60 % 60) ++ ':' :: twoDigits (second % 60))

end MeterWatch
