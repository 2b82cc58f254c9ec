import SqlCompose.Decimal.Binary64

/-!
# Shortest digits

A finite double is written with the fewest decimal digits that still single it out: the decimal
number lies in the interval of reals that round to the double. Of the numbers with that many digits
the nearest one is taken, and a `Tie` says what happens half-way between two.

The interval is kept in exact whole numbers: `scaled · 10 ^ place` stands for a candidate, and the
double and the ends of its interval are fractions with one denominator.
-/

namespace SqlCompose.Decimal

/-- What is taken when two decimal numbers lie at one distance. -/
inductive Tie where
  | up
  | even
  deriving DecidableEq

/-- Significant digits `d₁ d₂ …` with the decimal point `point` places after the front:
`0.d₁d₂… · 10 ^ point`. The first and the last digit are not zero. -/
structure Digits where
  digits : List Char
  point : Int
  deriving DecidableEq

/-- A fraction with the interval of numbers around it that stand for it. -/
structure Interval where
  low : Nat
  value : Nat
  high : Nat
  denominator : Nat
  /-- Whether the ends belong to the interval. -/
  closed : Bool

/-- The reals that round to a finite double other than zero, in quarters of its last bit. -/
def Interval.ofBinary64 (x : Binary64) : Interval :=
  let m := x.significand
  let e := x.exponent - 2
  let up := Nat.pow 2 e.toNat
  { low := (if x.isBinade then 4 * m - 1 else 4 * m - 2) * up
    value := 4 * m * up
    high := (4 * m + 2) * up
    denominator := Nat.pow 2 (-e).toNat
    closed := m % 2 == 0 }

/-- The number of digits of a whole number; zero has one. -/
def width (n : Nat) : Nat :=
  (Nat.toDigits 10 n).length

/-- The `k` with `10 ^ (k - 1) ≤ value < 10 ^ k`. -/
def Interval.magnitude (i : Interval) : Int :=
  if i.denominator ≤ i.value then width (i.value / i.denominator)
  else
    let places := width (i.denominator / i.value)
    if i.denominator ≤ i.value * Nat.pow 10 (places - 1) then 2 - (places : Int) else 1 - (places : Int)

/-- Whether `n / denominator` lies in the interval. -/
def Interval.holds (i : Interval) (n : Nat) : Bool :=
  if i.closed then i.low ≤ n && n ≤ i.high else i.low < n && n < i.high

/-- The interval with every number multiplied by a power of ten. -/
def Interval.shift (i : Interval) (power : Int) : Interval :=
  let up := Nat.pow 10 power.toNat
  { i with
    low := i.low * up
    value := i.value * up
    high := i.high * up
    denominator := i.denominator * Nat.pow 10 (-power).toNat }

/-- The nearest whole number in the interval, among the two neighbours of its value. -/
def Interval.nearest? (i : Interval) (tie : Tie) : Option Nat :=
  let low := i.value / i.denominator
  let rest := i.value % i.denominator
  let lowHit := i.holds (low * i.denominator)
  let highHit := i.holds ((low + 1) * i.denominator)
  if lowHit && highHit then
    if 2 * rest < i.denominator then some low
    else if 2 * rest = i.denominator then
      match tie with
      | .up => some (low + 1)
      | .even => some (low + low % 2)
    else some (low + 1)
  else if lowHit then some low
  else if highHit then some (low + 1)
  else none

/-- The digits of a whole number without the zeros at its end, with the point `k` places after the
front of a number of `n` digits. -/
def Digits.ofNat (number : Nat) (n : Nat) (k : Int) : Digits :=
  let all := Nat.toDigits 10 number
  { digits := (all.reverse.dropWhile (· == '0')).reverse
    point := k + ((all.length : Int) - n) }

/-- The first grid of decimal numbers that has a point in the interval: `n` digits, then `n + 1`,
and so on; seventeen always suffice. -/
def Interval.shortestFrom (i : Interval) (tie : Tie) (k : Int) (n : Nat) : Nat → Digits
  | 0 =>
    let scaled := i.shift (n - k)
    Digits.ofNat (scaled.value / scaled.denominator) n k
  | more + 1 =>
    match (i.shift (n - k)).nearest? tie with
    | some number => Digits.ofNat number n k
    | none => i.shortestFrom tie k (n + 1) more

/-- The shortest digits of a finite double other than zero. -/
def shortest (tie : Tie) (x : Binary64) : Digits :=
  let i := Interval.ofBinary64 x
  i.shortestFrom tie i.magnitude 1 17

example : shortest .up ⟨0x3fb999999999999a⟩ = ⟨['1'], 0⟩ := by decide +kernel
example : shortest .up ⟨1⟩ = ⟨['5'], -323⟩ := by decide +kernel
example : shortest .up ⟨0x4415af1d78b58c40⟩ = ⟨['1'], 21⟩ := by decide +kernel

end SqlCompose.Decimal
