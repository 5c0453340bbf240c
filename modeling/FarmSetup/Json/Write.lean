import FarmSetup.Json.Value
import FarmSetup.Number.Written
/-!
Writing JSON text in ASCII. Every point outside printable ASCII is escaped: a quote and a
backslash by a backslash, the usual control characters by their letters, the rest as `\u`
and four lower-case hexadecimal digits, a point beyond the basic plane as its two surrogates.
Members and items are parted by `, ` on one line, or one per line under an indent.
-/

namespace FarmSetup

namespace Json

/-- Four lower-case hexadecimal digits of a number below `2^16`. -/
def hex4Text (n : Nat) : String :=
  let digit (d : Nat) : Char := if d < 10 then Char.ofNat (48 + d) else Char.ofNat (87 + d)
  String.ofList [digit (n / 4096 % 16), digit (n / 256 % 16), digit (n / 16 % 16), digit (n % 16)]

/-- The escaped form of one point inside a JSON string. -/
def escapePoint (p : Point) : String :=
  let c := p.code
  if c == 34 then "\\\"" else if c == 92 then "\\\\"
  else if c == 10 then "\\n" else if c == 13 then "\\r" else if c == 9 then "\\t"
  else if c == 8 then "\\b" else if c == 12 then "\\f"
  else if 32 ≤ c ∧ c ≤ 126 then String.singleton (Char.ofNat c)
  else if c < 0x10000 then "\\u" ++ hex4Text c
  else
    let v := c - 0x10000
    "\\u" ++ hex4Text (0xD800 + v / 0x400) ++ "\\u" ++ hex4Text (0xDC00 + v % 0x400)

/-- A JSON string literal of a text, in ASCII. -/
def quote (t : Text) : String := "\"" ++ String.join (t.map escapePoint) ++ "\""

/-- The text of a number or constant. -/
def atom : Json → String
  | null => "null"
  | bool true => "true"
  | bool false => "false"
  | int n => toString n
  | float x => Binary64.write FloatStyle.json x
  | str t => quote t
  | _ => ""

mutual

/-- The one-line form: items parted by `, ` and members by `, ` with `: ` after each key. -/
def line : Json → String
  | arr items => "[" ++ lineItems items ++ "]"
  | obj members => "\x7b" ++ lineMembers members ++ "\x7d"
  | j => atom j

/-- The one-line forms of items, parted by `, `. -/
def lineItems : List Json → String
  | [] => ""
  | [j] => line j
  | j :: rest => line j ++ ", " ++ lineItems rest

/-- The one-line forms of members, parted by `, `. -/
def lineMembers : List (Text × Json) → String
  | [] => ""
  | [(k, v)] => quote k ++ ": " ++ line v
  | (k, v) :: rest => quote k ++ ": " ++ line v ++ ", " ++ lineMembers rest

end

/-- A line break followed by the indent of a depth. -/
def breakAt (width depth : Nat) : String := "\n" ++ String.ofList (List.replicate (width * depth) ' ')

mutual

/-- The indented form at a depth: one item or member per line, an empty array or object
written `[]` or `{}`. -/
def indented (width depth : Nat) : Json → String
  | arr [] => "[]"
  | obj [] => "\x7b\x7d"
  | arr items => "[" ++ breakAt width (depth + 1) ++ indentedItems width (depth + 1) items ++
      breakAt width depth ++ "]"
  | obj members => "\x7b" ++ breakAt width (depth + 1) ++ indentedMembers width (depth + 1) members ++
      breakAt width depth ++ "\x7d"
  | j => atom j

/-- Indented items at a depth, parted by a comma and a line break. -/
def indentedItems (width depth : Nat) : List Json → String
  | [] => ""
  | [j] => indented width depth j
  | j :: rest => indented width depth j ++ "," ++ breakAt width depth ++
      indentedItems width depth rest

/-- Indented members at a depth, parted by a comma and a line break. -/
def indentedMembers (width depth : Nat) : List (Text × Json) → String
  | [] => ""
  | [(k, v)] => quote k ++ ": " ++ indented width depth v
  | (k, v) :: rest => quote k ++ ": " ++ indented width depth v ++ "," ++
      breakAt width depth ++ indentedMembers width depth rest

end

end Json

end FarmSetup
