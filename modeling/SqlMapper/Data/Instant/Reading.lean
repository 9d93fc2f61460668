import SqlMapper.Data.Instant.Calendar
import SqlMapper.Text.Keyword

/-!
# Texts that stand for instants

Two kinds of text are read. The first is RFC 3339: all numbers have their full width, and the text
ends with the offset of the local time from UTC. The second has no offset and is taken as UTC; there
a number may be shorter and may stand after blanks, and the date and the time of day are separated
by blanks (also by none) or by the letter `T`. In both the seconds may have a fraction, a point and
at least one digit, of which nine count.
-/

namespace SqlMapper

namespace Instant

/-- A reader of the start of a text gives what it read and the rest of the text. -/
abbrev Reader (α : Type) := List Char → Option (α × List Char)

/-- The number that a list of digits writes in base ten. -/
def digitsValue (digits : List Char) : Nat :=
  digits.foldl (fun value digit => value * 10 + (digit.toNat - 48)) 0

/-- Reads exactly so many digits. -/
def fixedNumber (width : Nat) : Reader Nat := fun cs =>
  let digits := cs.take width
  if digits.length = width ∧ digits.all Char.isDigit then some (digitsValue digits, cs.drop width)
  else none

/-- Reads at least one digit, and as many more as follow up to the given width. -/
def shortNumber (width : Nat) : Reader Nat := fun cs =>
  let digits := (cs.takeWhile Char.isDigit).take width
  if digits = [] then none else some (digitsValue digits, cs.drop digits.length)

/-- Reads one given character. -/
def mark (c : Char) : Reader Unit
  | d :: rest => if d = c then some ((), rest) else none
  | [] => none

/-- Skips blanks, possibly none. -/
def blanks : Reader Unit := fun cs => some ((), cs.dropWhile Text.isBlank)

/-- The nanoseconds that the digits after a point write. Digits after the ninth do not count. -/
def fractionValue (digits : List Char) : Nat :=
  digitsValue (digits.take 9) * Nat.pow 10 (9 - (digits.take 9).length)

/-- Reads a fraction of a second, or nothing where no point stands. A point needs a digit. -/
def fraction : Reader Nat
  | '.' :: rest =>
    let digits := rest.takeWhile Char.isDigit
    if digits = [] then none else some (fractionValue digits, rest.dropWhile Char.isDigit)
  | cs => some (0, cs)

/-- Reads the offset of a local time from UTC, in seconds: the letter `Z`, or a sign with hours and
minutes, below 24 hours. -/
def offset : Reader Int
  | [] => none
  | c :: rest =>
    if c = 'Z' ∨ c = 'z' then some (0, rest)
    else if c = '+' ∨ c = '-' ∨ c = '−' then do
      let (hours, rest) ← fixedNumber 2 rest
      let ((), rest) ← mark ':' rest
      let (minutes, rest) ← fixedNumber 2 rest
      if hours ≤ 23 ∧ minutes ≤ 59 then
        let ahead : Int := hours * 3600 + minutes * 60
        some (if c = '+' then ahead else -ahead, rest)
      else none
    else none

/-- Reads a full-width date and time of day, without an offset. -/
def fullTime : Reader CivilTime := fun cs => do
  let (year, cs) ← fixedNumber 4 cs
  let ((), cs) ← mark '-' cs
  let (month, cs) ← fixedNumber 2 cs
  let ((), cs) ← mark '-' cs
  let (day, cs) ← fixedNumber 2 cs
  let ((), cs) ← mark 'T' cs <|> mark 't' cs <|> mark ' ' cs
  let (hour, cs) ← fixedNumber 2 cs
  let ((), cs) ← mark ':' cs
  let (minute, cs) ← fixedNumber 2 cs
  let ((), cs) ← mark ':' cs
  let (second, cs) ← fixedNumber 2 cs
  let (nanosecond, cs) ← fraction cs
  some ({ year, month, day, hour, minute, second, nanosecond }, cs)

/-- Reads a whole text of RFC 3339. -/
def ofRfc3339? (cs : List Char) : Option Instant := do
  let (time, cs) ← fullTime cs
  let (ahead, cs) ← offset cs
  if cs = [] ∧ Calendar.isValid time then some (Calendar.instantOf time ahead) else none

/-- Reads a year: after blanks one to four digits, or a sign and any number of digits. -/
def looseYear : Reader Int := fun cs => do
  let ((), cs) ← blanks cs
  match cs with
  | '-' :: rest => do
    let (year, rest) ← shortNumber rest.length rest
    some (-(year : Int), rest)
  | '+' :: rest => do
    let (year, rest) ← shortNumber rest.length rest
    some ((year : Int), rest)
  | _ => do
    let (year, rest) ← shortNumber 4 cs
    some ((year : Int), rest)

/-- Reads one or two digits after blanks. -/
def looseNumber : Reader Nat := fun cs => do
  let ((), cs) ← blanks cs
  shortNumber 2 cs

/-- The years of a date that can be held. -/
def hasDate (year : Int) : Bool :=
  decide (-262143 ≤ year) && decide (year ≤ 262142)

/-- Reads a whole text without offset, the date separated from the time of day as told. -/
def ofLocal? (separator : Reader Unit) (cs : List Char) : Option Instant := do
  let (year, cs) ← looseYear cs
  let ((), cs) ← mark '-' cs
  let (month, cs) ← looseNumber cs
  let ((), cs) ← mark '-' cs
  let (day, cs) ← looseNumber cs
  let ((), cs) ← separator cs
  let (hour, cs) ← looseNumber cs
  let ((), cs) ← mark ':' cs
  let (minute, cs) ← looseNumber cs
  let ((), cs) ← mark ':' cs
  let (second, cs) ← looseNumber cs
  let (nanosecond, cs) ← fraction cs
  let time : CivilTime := { year, month, day, hour, minute, second, nanosecond }
  if cs = [] ∧ hasDate year ∧ Calendar.isValid time then some (Calendar.instantOf time 0) else none

/-- The instant a text stands for: RFC 3339 if it is that, else local time taken as UTC, its parts
separated by blanks or by `T`. -/
def ofText? (s : String) : Option Instant :=
  let cs := s.toList
  ofRfc3339? cs <|> ofLocal? blanks cs <|> ofLocal? (mark 'T') cs

/-- The two kinds of text agree on a time in UTC. -/
example : ofText? "2024-03-01T10:20:30+00:00" = some ⟨1709288430, 0⟩ ∧
    ofText? "2024-03-01 10:20:30" = some ⟨1709288430, 0⟩ ∧
    ofText? "2024-03-01T10:20:30.5" = some ⟨1709288430, 500000000⟩ := by decide

/-- An offset is subtracted; digits after the ninth of a fraction do not count. -/
example : ofText? "1970-01-01t00:00:60.1234567899−01:30" = some ⟨5459, 1123456789⟩ := by decide

end Instant

end SqlMapper
