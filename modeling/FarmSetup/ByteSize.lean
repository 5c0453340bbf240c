import FarmSetup.Text.Blank
import FarmSetup.Text.Digit
import FarmSetup.Number.Binary64
/-!
Byte quantities such as `2 TB`, `1.5TiB` or `500 gib`. After trimming, a quantity is a decimal
number (digits of any script, with an optional fractional part), optional blanks, and a unit of
ASCII letters. Decimal units step by 1000 and binary units by 1024; a missing unit means bytes.
A whole number is multiplied exactly; a number with a point is first rounded to binary64, then
multiplied once in binary64 and truncated, so `1.1 EiB` is not `1.1 · 2^60` on the nose.
A farm needs at least two gigabytes.
-/

namespace FarmSetup

/-- A quantity as written: the digit values before the point, the digit values after it when a
point is written, and the unit letters. -/
structure Quantity where
  whole : List Nat
  fraction : Option (List Nat)
  unit : Text
deriving DecidableEq

namespace Quantity

/-- Whole numbers longer than this many digits, leading zeros included, are refused. -/
def digitLimit : Nat := 4300

/-- The smallest size a farm may have, in bytes. -/
def farmMinimum : Nat := 2000000000

/-- Whether the point is an ASCII letter. -/
def isUnitLetter (p : Point) : Bool :=
  (65 ≤ p.code && p.code ≤ 90) || (97 ≤ p.code && p.code ≤ 122)

/-- The units and their sizes in bytes, by lower-case name; the empty name means bytes. -/
def units : List (String × Nat) :=
  [("", 1), ("b", 1),
   ("k", Nat.pow 1000 1), ("kb", Nat.pow 1000 1), ("m", Nat.pow 1000 2), ("mb", Nat.pow 1000 2),
   ("g", Nat.pow 1000 3), ("gb", Nat.pow 1000 3), ("t", Nat.pow 1000 4), ("tb", Nat.pow 1000 4),
   ("p", Nat.pow 1000 5), ("pb", Nat.pow 1000 5), ("e", Nat.pow 1000 6), ("eb", Nat.pow 1000 6),
   ("ki", Nat.pow 1024 1), ("kib", Nat.pow 1024 1), ("mi", Nat.pow 1024 2), ("mib", Nat.pow 1024 2),
   ("gi", Nat.pow 1024 3), ("gib", Nat.pow 1024 3), ("ti", Nat.pow 1024 4), ("tib", Nat.pow 1024 4),
   ("pi", Nat.pow 1024 5), ("pib", Nat.pow 1024 5), ("ei", Nat.pow 1024 6), ("eib", Nat.pow 1024 6)]

/-- Bytes per unit; the unit's letters are compared without regard to ASCII case. -/
def multiplier? (unit : Text) : Option Nat :=
  let name := unit.map Point.asciiLower
  (units.find? fun u => Text.ofString u.1 = name).map Prod.snd

/-- The number whose decimal digits, most significant first, have the given values. -/
def digitsValue (ds : List Nat) : Nat := ds.foldl (fun acc d => 10 * acc + d) 0

/-- The leading decimal digits of a text, as values, and the rest of the text. -/
def spanDigits (t : Text) : List Nat × Text :=
  let ds := t.takeWhile Point.isDigit
  (ds.map fun p => p.digitValue?.getD 0, t.dropWhile Point.isDigit)

/-- Reads the number, blanks and unit of an already trimmed text. -/
def ofTrimmed? (t : Text) : Option Quantity :=
  let (whole, rest) := spanDigits t
  let numberPart : Option (Option (List Nat) × Text) :=
    match rest with
    | p :: after =>
      if p = Point.ofChar '.' then
        let (frac, rest') := spanDigits after
        if whole.isEmpty && frac.isEmpty then none else some (some frac, rest')
      else if whole.isEmpty then none else some (none, rest)
    | [] => if whole.isEmpty then none else some (none, [])
  match numberPart with
  | none => none
  | some (fraction, rest) =>
    let afterBlanks := rest.dropWhile Point.isBlank
    let unit := afterBlanks.takeWhile isUnitLetter
    if afterBlanks.dropWhile isUnitLetter = [] then some ⟨whole, fraction, unit⟩ else none

/-- Reads a quantity from text with blanks allowed around it. -/
def read? (t : Text) : Option Quantity := ofTrimmed? t.trim

/-- The number of bytes a quantity stands for, if its unit is known and the number can be
taken: a whole number exactly, a number with a point through binary64. -/
def bytes? (q : Quantity) : Option Nat := do
  let mult ← multiplier? q.unit
  match q.fraction with
  | none =>
    if q.whole.length > digitLimit then none else some (digitsValue q.whole * mult)
  | some frac =>
    let x := Binary64.ofDecimal false (digitsValue (q.whole ++ frac)) (-(frac.length : Int))
    let y := Binary64.mul x (Binary64.ofInt mult)
    (Binary64.truncate? y).map Int.toNat

end Quantity

/-- The number of bytes a size text stands for, or none when it is no byte quantity. -/
def parseByteSize (t : Text) : Option Nat := (Quantity.read? t).bind Quantity.bytes?

/-- Whether a size text stands for at least the farm minimum. -/
def sizeIsValid (t : Text) : Bool :=
  match parseByteSize t with
  | some n => Quantity.farmMinimum ≤ n
  | none => false

example : parseByteSize (Text.ofString "2 GB") = some 2000000000 := by decide +kernel
example : parseByteSize (Text.ofString " .5k") = some 500 := by decide +kernel
example : parseByteSize (Text.ofString "1e3") = none := by decide +kernel

end FarmSetup
