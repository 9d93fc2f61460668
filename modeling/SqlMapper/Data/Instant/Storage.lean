import SqlMapper.Data.Instant.Calendar

/-!
# Instants as a database keeps them

A database without a type for instants keeps them as text. The text is the date and time in UTC
with the offset written out. A fraction has three, six or nine digits, the fewest that are exact,
and is left out when it is zero. A year outside 0 to 9999 has a sign.
-/

namespace SqlMapper

namespace Instant

/-- A number in base ten, with zeros in front up to the given width. -/
def padded (width n : Nat) : String :=
  let digits := (Nat.repr n).toList
  String.ofList (List.replicate (width - digits.length) '0' ++ digits)

/-- A year with at least four digits, and with a sign when it is not one of 0 to 9999. -/
def yearText (year : Int) : String :=
  if 0 ≤ year ∧ year ≤ 9999 then padded 4 year.toNat
  else (if year < 0 then "-" else "+") ++ padded 4 year.natAbs

/-- A point and the shortest of three, six and nine digits that are exact, or nothing for zero. -/
def fractionText (nanosecond : Nat) : String :=
  if nanosecond = 0 then ""
  else if nanosecond % 1000000 = 0 then "." ++ padded 3 (nanosecond / 1000000)
  else if nanosecond % 1000 = 0 then "." ++ padded 6 (nanosecond / 1000)
  else "." ++ padded 9 nanosecond

/-- The text an instant is kept as. -/
def storedText (t : Instant) : String :=
  let c := Calendar.civilOf t
  yearText c.year ++ "-" ++ padded 2 c.month ++ "-" ++ padded 2 c.day ++ "T" ++ padded 2 c.hour ++
    ":" ++ padded 2 c.minute ++ ":" ++ padded 2 c.second ++ fractionText c.nanosecond ++ "+00:00"

/-- A leap second is written as second 60. -/
example : storedText ⟨1483228799, 1500000000⟩ = "2016-12-31T23:59:60.500+00:00" := by decide

end Instant

end SqlMapper
