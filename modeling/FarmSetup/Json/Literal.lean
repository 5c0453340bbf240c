import FarmSetup.Json.Value
import FarmSetup.Number.Written
import FarmSetup.Text.Printable
/-!
Literal and display forms of values, as the program's messages and configuration texts show
them. The display form of a text is the text; its literal form is quoted: with single quotes
unless the text holds a single quote and no double quote, a backslash before the chosen quote
and before a backslash, the escapes `\t`, `\n`, `\r`, and `\x`, `\u` or `\U` with lower-case
hexadecimal digits for any other point that is not printable. Other values are written the
same in both forms: `None`, `True`, `False`, decimal integers, shortest binary64 digits, and
`[a, b]`, `{k: v}` with the literal forms of their parts.
-/

namespace FarmSetup

namespace Literal

/-- Lower-case hexadecimal digits of a number, padded with zeros to a width. -/
def hexPadded (width n : Nat) : String :=
  let ds := Nat.toDigits 16 n
  String.ofList (List.replicate (width - ds.length) '0' ++ ds)

/-- The escaped form of one point inside a quoted literal with the given quote. -/
def escapePoint (quote : Nat) (p : Point) : Text :=
  let c := p.code
  if c == quote || c == 92 then [Point.ofChar '\\', p]
  else if c == 9 then Text.ofString "\\t"
  else if c == 10 then Text.ofString "\\n"
  else if c == 13 then Text.ofString "\\r"
  else if c < 32 || c == 127 then Text.ofString ("\\x" ++ hexPadded 2 c)
  else if c < 128 then [p]
  else if p.isPrintable then [p]
  else if c ≤ 0xFF then Text.ofString ("\\x" ++ hexPadded 2 c)
  else if c ≤ 0xFFFF then Text.ofString ("\\u" ++ hexPadded 4 c)
  else Text.ofString ("\\U" ++ hexPadded 8 c)

/-- The quoted literal of a text. -/
def quoteText (t : Text) : Text :=
  let quote := if t.contains (Point.ofChar '\'') && !t.contains (Point.ofChar '"') then 34 else 39
  let q := Point.ofNat quote
  q :: (t.flatMap (escapePoint quote)) ++ [q]

end Literal

namespace Json

mutual

/-- The literal form of a value. -/
def literal : Json → Text
  | null => Text.ofString "None"
  | bool true => Text.ofString "True"
  | bool false => Text.ofString "False"
  | int n => Text.ofInt n
  | float x => x.display
  | str t => Literal.quoteText t
  | arr items => Point.ofChar '[' :: literalItems items ++ [Point.ofChar ']']
  | obj members => Point.ofChar '{' :: literalMembers members ++ [Point.ofChar '}']

/-- The literal forms of items, parted by a comma and a space. -/
def literalItems : List Json → Text
  | [] => []
  | [j] => literal j
  | j :: rest => literal j ++ Text.ofString ", " ++ literalItems rest

/-- The literal forms of members, each `key: value`, parted by a comma and a space. -/
def literalMembers : List (Text × Json) → Text
  | [] => []
  | [(k, v)] => Literal.quoteText k ++ Text.ofString ": " ++ literal v
  | (k, v) :: rest =>
    Literal.quoteText k ++ Text.ofString ": " ++ literal v ++ Text.ofString ", " ++
      literalMembers rest

end

/-- The display form of a value: a text as it is, any other value as its literal. -/
def display : Json → Text
  | str t => t
  | j => literal j

end Json

end FarmSetup
