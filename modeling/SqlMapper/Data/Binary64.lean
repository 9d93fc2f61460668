/-!
# Binary floating point numbers

A number of the format binary64 is its 64 bits. The library never computes with such numbers; it
compares them the way IEEE 754 does (a NaN equals nothing, the two zeros equal each other) and it
makes them from integers and from binary32 numbers. All of this is integer arithmetic on the bits.
-/

namespace SqlMapper

/-- A binary64 number, given by its bits. Equality of structures is equality of bits. -/
structure Binary64 where
  /-- Sign, exponent and fraction, from the highest bit down. -/
  bits : UInt64
deriving DecidableEq, Inhabited

/-- A binary32 number, given by its bits. -/
structure Binary32 where
  /-- Sign, exponent and fraction, from the highest bit down. -/
  bits : UInt32
deriving DecidableEq, Inhabited

namespace Binary64

/-- The bits without the sign. -/
def magnitude (x : Binary64) : Nat :=
  x.bits.toNat % Nat.pow 2 63

/-- A NaN has the highest exponent and a fraction that is not zero. -/
def isNaN (x : Binary64) : Bool :=
  decide (0x7FF0000000000000 < x.magnitude)

/-- Holds of both zeros. -/
def isZero (x : Binary64) : Bool :=
  x.magnitude == 0

/-- Equality of numbers: NaN equals nothing, and zero equals minus zero. -/
def equals (x y : Binary64) : Bool :=
  !x.isNaN && !y.isNaN && (x.bits == y.bits || (x.isZero && y.isZero))

/-- A significand divided by a power of two and rounded to the nearest integer, ties to even. -/
def roundShift (m shift : Nat) : Nat :=
  let divisor := Nat.pow 2 shift
  let quotient := m / divisor
  let twice := 2 * (m % divisor)
  if divisor < twice ∨ (twice = divisor ∧ quotient % 2 = 1) then quotient + 1 else quotient

/-- The bits of the binary64 number nearest to a natural number below `2 ^ 1023`, ties to even.
A significand rounded up to `2 ^ 53` carries into the exponent by itself. -/
def natBits (m : Nat) : Nat :=
  if m = 0 then 0
  else
    let exponent := m.log2
    let significand :=
      if exponent ≤ 52 then m * Nat.pow 2 (52 - exponent) else roundShift m (exponent - 52)
    (exponent + 1023) * Nat.pow 2 52 + (significand - Nat.pow 2 52)

/-- The nearest number to a 64-bit integer, ties to even. -/
def ofInt64 (n : Int64) : Binary64 :=
  let bits := natBits n.toInt.natAbs
  ⟨UInt64.ofNat (if n.toInt < 0 then Nat.pow 2 63 + bits else bits)⟩

/-- The same number in the wider format. Every binary32 number has one; a NaN stays a NaN. -/
def ofBinary32 (x : Binary32) : Binary64 :=
  let sign := x.bits.toNat / Nat.pow 2 31
  let exponent := x.bits.toNat / Nat.pow 2 23 % Nat.pow 2 8
  let fraction := x.bits.toNat % Nat.pow 2 23
  let magnitude :=
    if exponent = 255 then
      if fraction = 0 then 0x7FF0000000000000
      else 0x7FF8000000000000 + fraction % Nat.pow 2 22 * Nat.pow 2 29
    else if exponent = 0 then
      if fraction = 0 then 0
      else
        (fraction.log2 + 874) * Nat.pow 2 52 +
          (fraction * Nat.pow 2 (52 - fraction.log2) - Nat.pow 2 52)
    else (exponent + 896) * Nat.pow 2 52 + fraction * Nat.pow 2 29
  ⟨UInt64.ofNat (sign * Nat.pow 2 63 + magnitude)⟩

/-- The number zero. -/
def zero : Binary64 := ⟨0⟩

/-- Zero and minus zero are equal numbers with different bits. -/
example :
    equals ⟨0⟩ ⟨0x8000000000000000⟩ = true ∧ (⟨0⟩ : Binary64) ≠ ⟨0x8000000000000000⟩ := by decide

/-- A NaN differs from itself. -/
example : equals ⟨0x7FF8000000000000⟩ ⟨0x7FF8000000000000⟩ = false := by decide

/-- Above `2 ^ 53` a tie goes to the even neighbour. -/
example :
    ofInt64 9007199254740993 = ofInt64 9007199254740992 ∧
      ofInt64 9007199254740995 = ofInt64 9007199254740996 := by decide

end Binary64

end SqlMapper
