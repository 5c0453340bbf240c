import FarmSetup.Number.Shortest
/-!
Decimal forms of binary64 values with a given number of places: fixed (`123.456000`),
exponential (`1.234560e+02`) and general, which picks one of the two by the exponent and drops
trailing zeros. Each rounds the exact binary value once, a half going to the even neighbour.
-/

namespace FarmSetup

namespace Binary64

/-- The nearest integer to `num / den`, a half going to the even neighbour. -/
def roundRatio (num den : Nat) : Nat :=
  let q := num / den
  let r := num % den
  if 2 * r > den ∨ (2 * r = den ∧ q % 2 = 1) then q + 1 else q

/-- The magnitude `m · 2^e · 10^k`, rounded to an integer. -/
def scaledRound (m : Nat) (e k : Int) : Nat :=
  let num := m * (if 0 ≤ e then Nat.pow 2 e.toNat else 1) * (if 0 ≤ k then Nat.pow 10 k.toNat else 1)
  let den := (if e < 0 then Nat.pow 2 (-e).toNat else 1) * (if k < 0 then Nat.pow 10 (-k).toNat else 1)
  roundRatio num den

/-- Decimal digits of a natural number, padded with zeros on the left to a width. -/
def padDigits (width n : Nat) : String :=
  let ds := toString n
  String.ofList (List.replicate (width - ds.length) '0') ++ ds

/-- The fixed form of the magnitude `m · 2^e` with `places` digits after the point; the point
is kept without places when `keepPoint` holds. -/
def fixedDigits (m : Nat) (e : Int) (places : Nat) (keepPoint : Bool) : String :=
  let n := scaledRound m e places
  let whole := n / Nat.pow 10 places
  let frac := n % Nat.pow 10 places
  if places = 0 then toString whole ++ (if keepPoint then "." else "")
  else toString whole ++ "." ++ padDigits places frac

/-- The digits and decimal exponent of the magnitude `m · 2^e` rounded to `places + 1`
significant digits: a number below `10^(places+1)` and the exponent of its first digit. -/
def sigDigits (m : Nat) (e : Int) (places : Nat) : Nat × Int :=
  if m = 0 then (0, 0) else
  let x := Shortest.floorLog10 m e
  let n := scaledRound m e (places - x)
  if n ≥ Nat.pow 10 (places + 1) then (n / 10, x + 1) else (n, x)

/-- The exponential form of the magnitude `m · 2^e` with `places` digits after the point. -/
def expDigits (m : Nat) (e : Int) (places : Nat) (keepPoint : Bool) (upper : Bool) : String :=
  let (n, x) := sigDigits m e places
  let lead := n / Nat.pow 10 places
  let rest := n % Nat.pow 10 places
  let mant := if places = 0 then toString lead ++ (if keepPoint then "." else "")
    else toString lead ++ "." ++ padDigits places rest
  let sign := if x < 0 then "-" else "+"
  mant ++ (if upper then "E" else "e") ++ sign ++ padDigits 2 x.natAbs

/-- Drops trailing zeros after a point, and the point when nothing follows it. -/
def trimZeros (s : String) : String :=
  if s.toList.contains '.' then
    let cs := (s.toList.reverse.dropWhile (· = '0'))
    let cs := match cs with
      | '.' :: rest => rest
      | _ => cs
    String.ofList cs.reverse
  else s

/-- The general form of the magnitude `m · 2^e` with `precision` significant digits: the
exponential form when the exponent is below `-4` or not below the precision, the fixed form
otherwise; trailing zeros go unless `alternate` holds. -/
def generalDigits (m : Nat) (e : Int) (precision : Nat) (alternate : Bool) (upper : Bool) : String :=
  let p := if precision = 0 then 1 else precision
  let (_, x) := sigDigits m e (p - 1)
  if x < -4 ∨ x ≥ p then
    let s := expDigits m e (p - 1) alternate upper
    if alternate then s else
    -- trim the mantissa only
    let cs := s.toList
    let (mant, expo) := cs.span (fun c => c ≠ 'e' ∧ c ≠ 'E')
    trimZeros (String.ofList mant) ++ String.ofList expo
  else
    let places := (p - 1 - x).toNat
    let s := fixedDigits m e places alternate
    if alternate then s else trimZeros s

example : fixedDigits 5 (-1) 0 false = "2" := by decide +kernel
example : expDigits 5 (-1) 0 false false = "2e+00" := by decide +kernel

end Binary64

end FarmSetup
