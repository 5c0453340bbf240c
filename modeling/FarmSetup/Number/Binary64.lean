/-!
Binary64 floating-point values, with the arithmetic the program needs done exactly: rounding a
rational to the nearest value (ties to an even significand), one multiplication, truncation
toward zero, and the split into whole and fractional parts. A finite value is
`(-1)^neg · mant · 2^exp`; values built by `round` have `mant < 2^53` and `exp ≥ -1074`, and a
significand below `2^52` only with the least exponent, so each number has one form.
-/

namespace FarmSetup

/-- A binary64 value: finite, an infinity, or not a number. -/
inductive Binary64 where
  | finite (neg : Bool) (mant : Nat) (exp : Int)
  | infinite (neg : Bool)
  | nan
deriving DecidableEq, Inhabited

namespace Binary64

/-- The exponent of the least subnormal step. -/
def leastExp : Int := -1074

/-- The greatest exponent of a 53-bit significand. -/
def greatestExp : Int := 971

/-- Positive zero. -/
def zero : Binary64 := finite false 0 leastExp

/-- Whether `num / den` is at least `2^e`. -/
def atLeastPow (num den : Nat) (e : Int) : Bool :=
  if 0 ≤ e then den * Nat.pow 2 e.toNat ≤ num else den ≤ num * Nat.pow 2 (-e).toNat

/-- The floor of the base-two logarithm of `num / den`, for positive `num` and `den`. -/
def floorLog2 (num den : Nat) : Int :=
  let k : Int := (Nat.log2 num : Int) - (Nat.log2 den : Int)
  if atLeastPow num den k then k else k - 1

/-- The quotient and remainder of `num / (den · 2^e)`, with the divisor, as naturals. -/
def divPow (num den : Nat) (e : Int) : Nat × Nat × Nat :=
  if 0 ≤ e then
    let d := den * Nat.pow 2 e.toNat
    (num / d, num % d, d)
  else
    let n := num * Nat.pow 2 (-e).toNat
    (n / den, n % den, den)

/-- Rounds `num / den` to the nearest binary64 value with the given sign; a tie goes to the even
significand and a result beyond the greatest finite value is an infinity. -/
def round (neg : Bool) (num den : Nat) : Binary64 :=
  if num = 0 ∨ den = 0 then finite neg 0 leastExp else
  let e := max (floorLog2 num den - 52) leastExp
  let (q, r, d) := divPow num den e
  let q := if 2 * r > d ∨ (2 * r = d ∧ q % 2 = 1) then q + 1 else q
  let (q, e) := if q = Nat.pow 2 53 then (Nat.pow 2 52, e + 1) else (q, e)
  if e > greatestExp then infinite neg else finite neg q e

/-- The value nearest to `digits · 10^exp10`, with the given sign. A value of at least `10^309`
is beyond every finite value and one below `10^-324` is below half the least step, so neither
needs its power of ten. -/
def ofDecimal (neg : Bool) (digits : Nat) (exp10 : Int) : Binary64 :=
  let len : Int := (Nat.toDigits 10 digits).length
  if digits = 0 ∨ len + exp10 ≤ -324 then finite neg 0 leastExp
  else if 309 ≤ len - 1 + exp10 then infinite neg
  else if 0 ≤ exp10 then round neg (digits * Nat.pow 10 exp10.toNat) 1
  else round neg digits (Nat.pow 10 (-exp10).toNat)

/-- The value nearest to an integer. -/
def ofInt (n : Int) : Binary64 := round (n < 0) n.natAbs 1

/-- The numerator and denominator of a finite value's magnitude. -/
def ratio (mant : Nat) (exp : Int) : Nat × Nat :=
  if 0 ≤ exp then (mant * Nat.pow 2 exp.toNat, 1) else (mant, Nat.pow 2 (-exp).toNat)

/-- The product, rounded once. -/
def mul : Binary64 → Binary64 → Binary64
  | nan, _ => nan
  | _, nan => nan
  | infinite a, infinite b => infinite (a != b)
  | infinite a, finite b m _ => if m = 0 then nan else infinite (a != b)
  | finite a m _, infinite b => if m = 0 then nan else infinite (a != b)
  | finite a m e, finite b n f =>
    let (p, q) := ratio (m * n) (e + f)
    round (a != b) p q

/-- Truncation toward zero to an integer; none for an infinity or not a number. -/
def truncate? : Binary64 → Option Int
  | finite neg m e =>
    let (p, q) := ratio m e
    let n : Int := (p / q : Nat)
    some (if neg then -n else n)
  | _ => none

/-- Whether the value is a finite one. -/
def isFinite : Binary64 → Bool
  | finite .. => true
  | _ => false

/-- Whether the value is negative, negative zero and negative infinity included. -/
def isNeg : Binary64 → Bool
  | finite neg .. => neg
  | infinite neg => neg
  | nan => false

/-- Whether a finite value has no fractional part. -/
def isWhole : Binary64 → Bool
  | finite _ m e => 0 ≤ e || m % Nat.pow 2 (-e).toNat == 0
  | _ => false

/-- The fractional part and the whole part, each with the value's sign: both are exact. -/
def splitWhole : Binary64 → Binary64 × Binary64
  | finite neg m e =>
    let (p, q) := ratio m e
    (round neg (p % q) q, round neg (p / q) 1)
  | infinite neg => (finite neg 0 leastExp, infinite neg)
  | nan => (nan, nan)

/-- Comparison of the magnitude of a finite value with a rational: `lt`, `eq` or `gt`. -/
def compareRatio (m : Nat) (e : Int) (num den : Nat) : Ordering :=
  let (p, q) := ratio m e
  compare (p * den) (num * q)

/-- Rounding to the nearest integer, a half going to the even neighbour; none when not finite. -/
def roundHalfEven? : Binary64 → Option Int
  | finite neg m e =>
    let (p, q) := ratio m e
    let w := p / q
    let r := p % q
    let n := if 2 * r > q ∨ (2 * r = q ∧ w % 2 = 1) then w + 1 else w
    some (if neg then -(n : Int) else n)
  | _ => none

example : ofDecimal false 15 (-1) = finite false (3 * Nat.pow 2 51) (-52) := by decide
example : truncate? (mul (ofDecimal false 15 (-1)) (ofInt 1000)) = some 1500 := by decide
example : ofDecimal false 1 400 = infinite false := by decide +kernel

end Binary64

end FarmSetup
