import FarmSetup.Number.Shortest
import FarmSetup.Text.Point
/-!
Written forms of binary64 values. The digits are always the shortest that read back; a
`FloatStyle` fixes the rest: which decimal exponents are written positionally, the `.0` of a
whole number, the exponent's sign and width, and the words for infinity and not-a-number.
-/

namespace FarmSetup

/-- The decisions of a written form of binary64 values. -/
structure FloatStyle where
  /-- Positional notation is used when the point position `k` satisfies `lowPoint < k ≤ highPoint`. -/
  lowPoint : Int
  highPoint : Int
  /-- Least number of exponent digits. -/
  expDigits : Nat
  nanWord : String
  infWord : String

namespace FloatStyle

/-- The display of a value: positional from `1e-4` to below `1e16`, exponents signed with at
least two digits, and `nan`, `inf`. -/
def display : FloatStyle := ⟨-4, 16, 2, "nan", "inf"⟩

/-- The JSON form: as the display, but `NaN` and `Infinity`. -/
def json : FloatStyle := ⟨-4, 16, 2, "NaN", "Infinity"⟩

end FloatStyle

namespace Binary64

/-- Decimal digits of a natural number, most significant first. -/
def decimalDigits (n : Nat) : List Char := (toString n).toList

/-- The positional or exponential form of positive digits `d · 10^p`. -/
def placeDigits (style : FloatStyle) (d : Nat) (p : Int) : String :=
  let ds := decimalDigits d
  let n : Int := ds.length
  let point := p + n
  if style.lowPoint < point ∧ point ≤ style.highPoint then
    if point ≤ 0 then
      "0." ++ String.ofList (List.replicate (-point).toNat '0') ++ String.ofList ds
    else if n ≤ point then
      String.ofList ds ++ String.ofList (List.replicate (point - n).toNat '0') ++ ".0"
    else
      String.ofList (ds.take point.toNat) ++ "." ++ String.ofList (ds.drop point.toNat)
  else
    let x := point - 1
    let mant := match ds with
      | [c] => String.singleton c
      | c :: rest => String.singleton c ++ "." ++ String.ofList rest
      | [] => "0"
    let expText := toString x.natAbs
    let padded := String.ofList (List.replicate (style.expDigits - expText.length) '0') ++ expText
    mant ++ "e" ++ (if x < 0 then "-" else "+") ++ padded

/-- The written form of a value in a style. -/
def write (style : FloatStyle) : Binary64 → String
  | nan => style.nanWord
  | infinite neg => (if neg then "-" else "") ++ style.infWord
  | finite neg m e =>
    let sign := if neg then "-" else ""
    if m = 0 then sign ++ "0.0" else
    let (d, p) := Shortest.digits m e
    sign ++ placeDigits style d p

/-- The display text of a value. -/
def display (x : Binary64) : Text := Text.ofString (write FloatStyle.display x)

example : write FloatStyle.display (ofDecimal false 1 16) = "1e+16" := by decide +kernel
example : write FloatStyle.display (ofDecimal false 1 (-7)) = "1e-07" := by decide +kernel
example : write FloatStyle.display (ofDecimal false 1 15) = "1000000000000000.0" := by decide +kernel

end Binary64

end FarmSetup
