/-!
# Instants

An instant is a count of whole seconds since the start of 1970 in UTC and the nanoseconds past
that second. A leap second is written as second 59 with `10 ^ 9` added to the nanoseconds, so the
count of seconds is that of days of 86400 seconds each.
-/

namespace SqlMapper

/-- An instant in UTC. -/
structure Instant where
  /-- Seconds since the epoch, rounded down. -/
  seconds : Int
  /-- Nanoseconds past the second; from `10 ^ 9` on they lie in a leap second. -/
  nanoseconds : Nat
deriving DecidableEq, Inhabited

namespace Instant

/-- The first second of the years that have a date, -262143. -/
def firstSecond : Int := -8334601228800

/-- The last second of the years that have a date, 262142. -/
def lastSecond : Int := 8210266876799

/-- The instant of a count of whole seconds, if its year has a date. -/
def ofSeconds? (seconds : Int) : Option Instant :=
  if firstSecond ≤ seconds ∧ seconds ≤ lastSecond then some ⟨seconds, 0⟩ else none

/-- The start of 1970. -/
def epoch : Instant := ⟨0, 0⟩

end Instant

end SqlMapper
