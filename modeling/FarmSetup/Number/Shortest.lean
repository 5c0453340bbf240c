import FarmSetup.Number.Binary64
/-!
Shortest decimal digits of a binary64 value. A finite positive value `m · 2^e` owns the interval
of reals that round to it: half a step to each neighbour, the lower step halved at a power of
two, and the ends included when `m` is even. For one, two, up to seventeen digits the two points
of the decimal grid next to the value are tested; the first grid with a point in the interval
wins, of two such points the nearer, and of two equally near the one with an even last digit.
All comparisons are exact, in natural numbers.
-/

namespace FarmSetup

namespace Shortest

/-- Compares `d · 10^p · 2^s` with the natural number `k`. -/
def compareScaled (d : Nat) (p s : Int) (k : Nat) : Ordering :=
  let num := d * (if 0 ≤ p then Nat.pow 10 p.toNat else 1) * (if 0 ≤ s then Nat.pow 2 s.toNat else 1)
  let den := (if p < 0 then Nat.pow 10 (-p).toNat else 1) * (if s < 0 then Nat.pow 2 (-s).toNat else 1)
  compare num (k * den)

/-- The floor of `m · 2^e / 10^p`. -/
def gridFloor (m : Nat) (e p : Int) : Nat :=
  let num := m * (if 0 ≤ e then Nat.pow 2 e.toNat else 1) * (if p < 0 then Nat.pow 10 (-p).toNat else 1)
  let den := (if e < 0 then Nat.pow 2 (-e).toNat else 1) * (if 0 ≤ p then Nat.pow 10 p.toNat else 1)
  num / den

/-- Whether `10^k ≤ m · 2^e`. -/
def powTenAtMost (m : Nat) (e k : Int) : Bool :=
  compareScaled 1 k (-e) m != .gt

/-- The floor of the decimal logarithm of `m · 2^e`, for positive `m`: an estimate from the
binary length, then corrected by exact comparisons. -/
def floorLog10 (m : Nat) (e : Int) : Int :=
  let bits : Int := (Nat.log2 m : Int) + e
  let guess : Int := Int.fdiv (bits * 30103) 100000
  let fix (k : Int) : Int :=
    if !powTenAtMost m e k then k - 1 else if powTenAtMost m e (k + 1) then k + 1 else k
  fix (fix (fix guess))

/-- The interval of a finite positive value in units of `2^(e-2)`: the low end, the value and
the high end, and whether the ends belong to it. -/
def bounds (m : Nat) (e : Int) : Nat × Nat × Nat × Bool :=
  let low := if m = Nat.pow 2 52 ∧ e > Binary64.leastExp then 4 * m - 1 else 4 * m - 2
  (low, 4 * m, 4 * m + 2, m % 2 == 0)

/-- Whether `d · 10^p` lies in the rounding interval of `m · 2^e`. -/
def inInterval (m : Nat) (e : Int) (d : Nat) (p : Int) : Bool :=
  let (low, _, high, closed) := bounds m e
  let s := 2 - e
  let lo := compareScaled d p s low
  let hi := compareScaled d p s high
  (lo == .gt || (closed && lo == .eq)) && (hi == .lt || (closed && hi == .eq))

/-- Of the grid points `d · 10^p` and `(d + 1) · 10^p`, those that round to `m · 2^e`, the
nearer first and an exact tie to the even digit. -/
def pick (m : Nat) (e : Int) (d : Nat) (p : Int) : Option Nat :=
  let a := inInterval m e d p
  let b := inInterval m e (d + 1) p
  if a && b then
    -- compare the value with the midpoint (2d + 1) / 2 · 10^p, in units of 2^(e-2)
    match compareScaled (2 * d + 1) p (1 - e) (4 * m) with
    | .gt => some d
    | .lt => some (d + 1)
    | .eq => some (if d % 2 == 0 then d else d + 1)
  else if a then some d
  else if b then some (d + 1)
  else none

/-- Drops trailing zero digits, raising the exponent to match. -/
def normalize (d : Nat) (p : Int) (fuel : Nat) : Nat × Int :=
  match fuel with
  | 0 => (d, p)
  | fuel + 1 => if d ≠ 0 ∧ d % 10 = 0 then normalize (d / 10) (p + 1) fuel else (d, p)

/-- Searches the grids of one to `limit` digits, starting at `n` digits. -/
def search (m : Nat) (e : Int) (top : Int) (n : Nat) : Nat → Option (Nat × Int)
  | 0 => none
  | fuel + 1 =>
    let p := top - n + 1
    match pick m e (gridFloor m e p) p with
    | some d => some (normalize d p 20)
    | none => search m e top (n + 1) fuel

/-- The shortest digits `d` and exponent `p` with `d · 10^p` rounding to the positive value
`m · 2^e`; `d` has no trailing zero. Seventeen digits always suffice. -/
def digits (m : Nat) (e : Int) : Nat × Int :=
  let top := floorLog10 m e
  (search m e top 1 17).getD (m, 0)

example : digits (3 * Nat.pow 2 51) (-52) = (15, -1) := by decide +kernel
example : digits 1 (-1074) = (5, -324) := by decide +kernel

end Shortest

end FarmSetup
