/-!
# Binary floating-point numbers

A double is its 64 bits: a sign, eleven bits of exponent and 52 bits of fraction. A finite one is
the number `± significand · 2 ^ exponent`. Whole numbers and single-precision numbers are widened to
doubles; a whole number between two doubles goes to the nearer one and, half-way, to the one whose
significand is even.
-/

namespace SqlCompose

/-- A double, as its bits. -/
structure Binary64 where
  bits : UInt64
  deriving DecidableEq, Inhabited

namespace Binary64

/-- The number of fractions, two to the power 52. -/
def fractionCount : Nat := 4503599627370496

/-- The number of exponents, two to the power eleven. -/
def exponentCount : Nat := 2048

/-- The sign bit. -/
def isNegative (x : Binary64) : Bool :=
  exponentCount * fractionCount ≤ x.bits.toNat

/-- The eleven bits of the exponent. -/
def exponentField (x : Binary64) : Nat :=
  x.bits.toNat / fractionCount % exponentCount

/-- The 52 bits of the fraction. -/
def fraction (x : Binary64) : Nat :=
  x.bits.toNat % fractionCount

/-- Neither infinite nor a NaN. -/
def isFinite (x : Binary64) : Bool :=
  x.exponentField != 2047

/-- Not a number. -/
def isNaN (x : Binary64) : Bool :=
  x.exponentField == 2047 && x.fraction != 0

/-- The whole number that a finite double multiplies by a power of two. -/
def significand (x : Binary64) : Nat :=
  if x.exponentField = 0 then x.fraction else fractionCount + x.fraction

/-- The exponent of the power of two that goes with `significand`. -/
def exponent (x : Binary64) : Int :=
  if x.exponentField = 0 then -1074 else (x.exponentField : Int) - 1075

/-- Whether the doubles next to this one lie at different distances: the one below is half as far
away as the one above. -/
def isBinade (x : Binary64) : Bool :=
  x.fraction == 0 && 1 < x.exponentField

/-- The double with the given sign, exponent bits and fraction bits. -/
def ofFields (negative : Bool) (exponentField fraction : Nat) : Binary64 :=
  let sign := if negative then exponentCount else 0
  ⟨((sign + exponentField) * fractionCount + fraction).toUInt64⟩

/-- The double with the given sign that is nearest to a magnitude below `2 ^ 1023`; of two at one
distance, the even one. -/
def ofMagnitude (negative : Bool) (n : Nat) : Binary64 :=
  if n = 0 then ofFields negative 0 0
  else
    let width := n.log2
    if width ≤ 52 then
      ofFields negative (width + 1023) (n * Nat.pow 2 (52 - width) - fractionCount)
    else
      let step := Nat.pow 2 (width - 52)
      let low := n / step
      let rest := n % step
      let up := step < 2 * rest || (2 * rest == step && low % 2 == 1)
      -- A carry out of the fraction is a carry into the exponent.
      ofFields negative (width + 1023) ((if up then low + 1 else low) - fractionCount)

/-- The double nearest to a natural number. -/
def ofNat (n : Nat) : Binary64 :=
  ofMagnitude false n

/-- The double nearest to a whole number. -/
def ofInt (n : Int) : Binary64 :=
  ofMagnitude (n < 0) n.natAbs

/-- The double equal to a single-precision number, given by its bits. -/
def ofBinary32 (bits : UInt32) : Binary64 :=
  let negative : Bool := Nat.pow 2 31 ≤ bits.toNat
  let field := bits.toNat / Nat.pow 2 23 % 256
  let fraction := bits.toNat % Nat.pow 2 23
  if field = 255 then ofFields negative 2047 (fraction * Nat.pow 2 29)
  else if field = 0 then
    if fraction = 0 then ofFields negative 0 0
    else
      let width := fraction.log2
      ofFields negative (width + 874) (fraction * Nat.pow 2 (52 - width) - fractionCount)
  else ofFields negative (field + 896) (fraction * Nat.pow 2 29)

example : ofNat 1 = ⟨0x3ff0000000000000⟩ := by decide
example : ofNat (2 ^ 53 + 1) = ofNat (2 ^ 53) := by decide
example : ofNat (2 ^ 53 + 3) = ofNat (2 ^ 53 + 4) := by decide
example : ofInt (-3) = ⟨0xc008000000000000⟩ := by decide
example : ofBinary32 0x3fc00000 = ⟨0x3ff8000000000000⟩ := by decide

end Binary64

end SqlCompose
