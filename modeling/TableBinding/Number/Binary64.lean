/-!
# Binary floating point of 64 bits

A finite number is a mantissa below `2 ^ 53` times a power of two, and the mantissa is at least
`2 ^ 52` unless the exponent is the least one, so every number has one form. `Binary64.ofDecimal`
gives the number nearest to a decimal fraction, an even mantissa where two are as near.
`Binary64.digits?` gives the fewest decimal digits from which the number is read back and, among
those of the same length, the nearest.
-/

namespace TableBinding

/-- A number of 64 bits. -/
inductive Binary64 where
  | nan
  | infinite (negative : Bool)
  /-- The mantissa times two to the power of the exponent. -/
  | finite (negative : Bool) (mantissa : Nat) (exponent : Int)
  deriving DecidableEq, Repr

namespace Binary64

/-- The least exponent. -/
def leastExponent : Int := -1074

/-- The greatest exponent. -/
def greatestExponent : Int := 971

/-- Zero. -/
def zero (negative : Bool) : Binary64 := finite negative 0 leastExponent

/-- Whether the number is zero, of either sign. -/
def isZero : Binary64 → Bool
  | finite _ 0 _ => true
  | _ => false

/-- The fraction `numerator / denominator` times two to the power of minus `exponent`. -/
def scaled (numerator denominator : Nat) (exponent : Int) : Nat × Nat :=
  if 0 ≤ exponent then (numerator, denominator * Nat.pow 2 exponent.toNat)
  else (numerator * Nat.pow 2 (-exponent).toNat, denominator)

/-- The whole number nearest to a fraction, the even one where two are as near. -/
def roundToEven (numerator denominator : Nat) : Nat :=
  let floor := numerator / denominator
  let twice := 2 * (numerator % denominator)
  if denominator < twice ∨ (twice = denominator ∧ floor % 2 = 1) then floor + 1 else floor

/-- The exponent at which the fraction's mantissa is below `2 ^ 53` and as large as it may be. -/
def exponentOf (numerator denominator : Nat) : Int :=
  let near : Int := max leastExponent ((numerator.log2 : Int) - (denominator.log2 : Int) - 53)
  let (n, d) := scaled numerator denominator near
  if Nat.pow 2 53 ≤ n / d then near + 1 else near

/-- The number nearest to a fraction. -/
def ofFraction (negative : Bool) (numerator denominator : Nat) : Binary64 :=
  if numerator = 0 then zero negative
  else
    let exponent := exponentOf numerator denominator
    let (n, d) := scaled numerator denominator exponent
    let mantissa := roundToEven n d
    let (mantissa, exponent) :=
      if mantissa = Nat.pow 2 53 then (Nat.pow 2 52, exponent + 1) else (mantissa, exponent)
    if greatestExponent < exponent then infinite negative else finite negative mantissa exponent

/-- The number of decimal digits of a number; none for zero. -/
def digitCount (n : Nat) : Nat := if n = 0 then 0 else (Nat.toDigits 10 n).length

/-- The number nearest to `digits` times ten to the power of `exponent`. A fraction of more than
`400` digits in front of the point is beyond every number, and one that begins more than `400`
digits behind it is nearest to zero. -/
def ofDecimal (negative : Bool) (digits : Nat) (exponent : Int) : Binary64 :=
  let front : Int := digitCount digits + exponent
  if digits = 0 ∨ front < -400 then zero negative
  else if 400 < front then infinite negative
  else if 0 ≤ exponent then ofFraction negative (digits * Nat.pow 10 exponent.toNat) 1
  else ofFraction negative digits (Nat.pow 10 (-exponent).toNat)

/-- The fraction that a mantissa and an exponent stand for. -/
def fraction (mantissa : Nat) (exponent : Int) : Nat × Nat :=
  if 0 ≤ exponent then (mantissa * Nat.pow 2 exponent.toNat, 1)
  else (mantissa, Nat.pow 2 (-exponent).toNat)

/-- The exponent of the least power of ten above a fraction that is no power of ten itself. -/
def coarsestExponent (numerator denominator : Nat) : Int :=
  if denominator ≤ numerator then digitCount (numerator / denominator)
  else 1 - (digitCount (denominator / numerator) : Int)

/-- The decimal numbers on either side of a fraction on the grid of a power of ten, the nearer one
first. -/
def neighbours (numerator denominator : Nat) (exponent : Int) : List (Nat × Int) :=
  let (n, d) :=
    if 0 ≤ exponent then (numerator, denominator * Nat.pow 10 exponent.toNat)
    else (numerator * Nat.pow 10 (-exponent).toNat, denominator)
  let floor := n / d
  if 2 * (n % d) < d then [(floor, exponent), (floor + 1, exponent)]
  else [(floor + 1, exponent), (floor, exponent)]

/-- The decimal numbers to try, those of fewer digits first. -/
def candidates (numerator denominator : Nat) : List (Nat × Int) :=
  let coarsest := coarsestExponent numerator denominator
  (List.range 20).flatMap fun (step : Nat) => neighbours numerator denominator (coarsest - step)

/-- The shortest decimal number that is nearest to the number and from which it is read back. -/
def digits? (mantissa : Nat) (exponent : Int) : Option (Nat × Int) :=
  let (numerator, denominator) := fraction mantissa exponent
  (candidates numerator denominator).find? fun (digits, e) =>
    digits != 0 && ofDecimal false digits e == finite false mantissa exponent

end Binary64

end TableBinding
