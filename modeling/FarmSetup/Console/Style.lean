import FarmSetup.Text.Blank
import FarmSetup.Text.Case
import FarmSetup.Text.Digit
/-!
Style names in console markup. A style is written as words: attributes (`bold`, `b`, `dim`,
…), `not` before an attribute, a colour, `on` before a background colour, and `link` before a
target. Two ways of writing one style name the same style when their normal forms agree: the
attributes in a fixed order, then the colour, the background and the link. A definition that is
not a style normalizes to itself stripped and in lower case. A colour component written as an
empty number between commas is a failure of its own, which no fallback hides.
-/

namespace FarmSetup

namespace Style

/-- The colour names a terminal knows. -/
def colorNames : List String := [
  "black", "red", "green", "yellow", "blue", "magenta", "cyan", "white", "bright_black",
  "bright_red", "bright_green", "bright_yellow", "bright_blue", "bright_magenta", "bright_cyan",
  "bright_white", "grey0", "gray0", "navy_blue", "dark_blue", "blue3", "blue1", "dark_green",
  "deep_sky_blue4", "dodger_blue3", "dodger_blue2", "green4", "spring_green4", "turquoise4",
  "deep_sky_blue3", "dodger_blue1", "green3", "spring_green3", "dark_cyan", "light_sea_green",
  "deep_sky_blue2", "deep_sky_blue1", "spring_green2", "cyan3", "dark_turquoise", "turquoise2",
  "green1", "spring_green1", "medium_spring_green", "cyan2", "cyan1", "dark_red", "deep_pink4",
  "purple4", "purple3", "blue_violet", "orange4", "grey37", "gray37", "medium_purple4",
  "slate_blue3", "royal_blue1", "chartreuse4", "dark_sea_green4", "pale_turquoise4",
  "steel_blue", "steel_blue3", "cornflower_blue", "chartreuse3", "cadet_blue", "sky_blue3",
  "steel_blue1", "pale_green3", "sea_green3", "aquamarine3", "medium_turquoise", "chartreuse2",
  "sea_green2", "sea_green1", "aquamarine1", "dark_slate_gray2", "dark_magenta", "dark_violet",
  "purple", "light_pink4", "plum4", "medium_purple3", "slate_blue1", "yellow4", "wheat4",
  "grey53", "gray53", "light_slate_grey", "light_slate_gray", "medium_purple",
  "light_slate_blue", "dark_olive_green3", "dark_sea_green", "light_sky_blue3", "sky_blue2",
  "dark_sea_green3", "dark_slate_gray3", "sky_blue1", "chartreuse1", "light_green",
  "pale_green1", "dark_slate_gray1", "red3", "medium_violet_red", "magenta3", "dark_orange3",
  "indian_red", "hot_pink3", "medium_orchid3", "medium_orchid", "medium_purple2",
  "dark_goldenrod", "light_salmon3", "rosy_brown", "grey63", "gray63", "medium_purple1",
  "gold3", "dark_khaki", "navajo_white3", "grey69", "gray69", "light_steel_blue3",
  "light_steel_blue", "yellow3", "dark_sea_green2", "light_cyan3", "light_sky_blue1",
  "green_yellow", "dark_olive_green2", "dark_sea_green1", "pale_turquoise1", "deep_pink3",
  "magenta2", "hot_pink2", "orchid", "medium_orchid1", "orange3", "light_pink3", "pink3",
  "plum3", "violet", "light_goldenrod3", "tan", "misty_rose3", "thistle3", "plum2", "khaki3",
  "light_goldenrod2", "light_yellow3", "grey84", "gray84", "light_steel_blue1", "yellow2",
  "dark_olive_green1", "honeydew2", "light_cyan1", "red1", "deep_pink2", "deep_pink1",
  "magenta1", "orange_red1", "indian_red1", "hot_pink", "dark_orange", "salmon1", "light_coral",
  "pale_violet_red1", "orchid2", "orchid1", "orange1", "sandy_brown", "light_salmon1",
  "light_pink1", "pink1", "plum1", "gold1", "navajo_white1", "misty_rose1", "thistle1",
  "yellow1", "light_goldenrod1", "khaki1", "wheat1", "cornsilk1", "grey100", "gray100", "grey3",
  "gray3", "grey7", "gray7", "grey11", "gray11", "grey15", "gray15", "grey19", "gray19",
  "grey23", "gray23", "grey27", "gray27", "grey30", "gray30", "grey35", "gray35", "grey39",
  "gray39", "grey42", "gray42", "grey46", "gray46", "grey50", "gray50", "grey54", "gray54",
  "grey58", "gray58", "grey62", "gray62", "grey66", "gray66", "grey70", "gray70", "grey74",
  "gray74", "grey78", "gray78", "grey82", "gray82", "grey85", "gray85", "grey89", "gray89",
  "grey93", "gray93"]

/-- The attributes in the order of the normal form. -/
def attributeOrder : List String :=
  ["bold", "dim", "italic", "underline", "blink", "blink2", "reverse", "conceal", "strike",
   "underline2", "frame", "encircle", "overline"]

/-- The words that name an attribute, with the attribute's place in the order. -/
def attributeWords : List (String × Nat) :=
  [("dim", 1), ("d", 1), ("bold", 0), ("b", 0), ("italic", 2), ("i", 2), ("underline", 3),
   ("u", 3), ("blink", 4), ("blink2", 5), ("reverse", 6), ("r", 6), ("conceal", 7), ("c", 7),
   ("strike", 8), ("s", 8), ("underline2", 9), ("uu", 9), ("frame", 10), ("encircle", 11),
   ("overline", 12), ("o", 12)]

/-- The place of the attribute a word names. -/
def attributeOf? (word : Text) : Option Nat :=
  (attributeWords.find? fun (w, _) => Text.ofString w == word).map Prod.snd

/-- How reading a style can fail: not a style at all, or a colour component that is no
number. -/
inductive Fault where
  | notStyle
  | badNumber
deriving DecidableEq

/-- Whether every point is a lower-case hexadecimal digit. -/
def isHexText (t : Text) : Bool :=
  t.all fun p => ('0'.toNat ≤ p.code ∧ p.code ≤ '9'.toNat) ∨ ('a'.toNat ≤ p.code ∧ p.code ≤ 'f'.toNat)

/-- The value of decimal digits of any script. -/
def digitsValue (t : Text) : Nat :=
  t.foldl (fun n p => 10 * n + (p.digitValue?.getD 0)) 0

/-- Checks a colour word, already in lower case: fine when it names a colour. -/
def checkColor (c : Text) : Except Fault Unit :=
  let inner (pre : String) : Option Text :=
    if Text.startsWith c (Text.ofString pre) ∧ c.getLast? = some (Point.ofChar ')') then
      some ((c.drop pre.length).dropLast)
    else none
  if c == Text.ofString "default" then .ok ()
  else if colorNames.any (fun n => Text.ofString n == c) then .ok ()
  else if c.head? = some (Point.ofChar '#') ∧ c.length = 7 ∧ isHexText c.tail then .ok ()
  else match inner "color(" with
  | some ds =>
    if 1 ≤ ds.length ∧ ds.length ≤ 3 ∧ ds.all (fun p => '0'.toNat ≤ p.code ∧ p.code ≤ '9'.toNat) then
      if digitsValue ds ≤ 255 then .ok () else .error .notStyle
    else .error .notStyle
  | none =>
    match inner "rgb(" with
    | some body =>
      if body.isEmpty ∨ !(body.all fun p => p.isDigit || p.isBlank || p == Point.ofChar ',') then
        .error .notStyle
      else
        match body.splitOn (Point.ofChar ',') with
        | [r, g, b] =>
          if r.isEmpty ∨ g.isEmpty ∨ b.isEmpty then .error .badNumber
          else if [r, g, b].all (fun t => digitsValue t ≤ 255) then .ok () else .error .notStyle
        | _ => .error .notStyle
    | none => .error .notStyle

/-- What a style definition sets so far: attributes by place, colour, background and link. -/
structure Parts where
  attributes : List (Nat × Bool)
  color : Option Text
  background : Option Text
  link : Option Text

/-- The normal form of what a definition sets. -/
def Parts.written (s : Parts) : Text :=
  let named := attributeOrder.zipIdx.filterMap fun (name, k) =>
    (s.attributes.find? (·.1 == k)).map fun (_, on) =>
      Text.ofString (if on then name else "not " ++ name)
  let words := named ++ s.color.toList ++
    (match s.background with | some b => [Text.ofString "on", b] | none => []) ++
    (match s.link with | some l => [Text.ofString "link", l] | none => [])
  if words.isEmpty then Text.ofString "none" else Text.join [Point.space] words

/-- Sets an attribute, a later word winning over an earlier one. -/
def Parts.set (s : Parts) (k : Nat) (on : Bool) : Parts :=
  { s with attributes := (k, on) :: s.attributes.filter (·.1 != k) }

/-- Reads the words of a definition. -/
def readWords (s : Parts) : List Text → Except Fault Parts
  | [] => .ok s
  | w :: rest =>
    let word := Text.lower w
    if word == Text.ofString "on" then
      match rest with
      | [] => .error .notStyle
      | b :: rest =>
        match checkColor (Text.lower b) with
        | .error e => .error e
        | .ok () => readWords { s with background := some (Text.lower b) } rest
    else if word == Text.ofString "not" then
      match rest with
      | [] => .error .notStyle
      | a :: rest =>
        match attributeOf? a with
        | some k => readWords (s.set k false) rest
        | none => .error .notStyle
    else if word == Text.ofString "link" then
      match rest with
      | [] => .error .notStyle
      | l :: rest => readWords { s with link := some l } rest
    else match attributeOf? word with
      | some k => readWords (s.set k true) rest
      | none =>
        match checkColor word with
        | .error e => .error e
        | .ok () => readWords { s with color := some word } rest

/-- The normal form of a style definition; a definition that is no style gives itself stripped
and in lower case. Fails only on a colour component that is no number. -/
def normalize (t : Text) : Except Fault Text :=
  let stripped := Text.trim t
  if t.isEmpty ∨ stripped == Text.ofString "none" then .ok (Text.ofString "none") else
  match readWords ⟨[], none, none, none⟩ (Text.fields t) with
  | .ok s => .ok s.written
  | .error .notStyle => .ok (Text.lower stripped)
  | .error .badNumber => .error .badNumber

example : (normalize (Text.ofString "B  red")).toOption = some (Text.ofString "bold red") := by
  decide +kernel
example : (normalize (Text.ofString "Bad")).toOption = some (Text.ofString "bad") := by
  decide +kernel

end Style

end FarmSetup
