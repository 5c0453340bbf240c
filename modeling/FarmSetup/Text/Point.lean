/-!
Code points and texts. A text of the configuration format is a list of code points, and a
code point may be a lone surrogate: a JSON escape such as the six characters of a high
surrogate with nothing after it reads as one point of its own, so a Lean string, which holds
scalar values only, cannot carry every text the program handles.
-/

namespace FarmSetup

/-- A Unicode code point, surrogates included. -/
structure Point where
  code : Nat
  valid : code < 0x110000
deriving DecidableEq, Repr

/-- Text as the program handles it: a finite sequence of code points. -/
abbrev Text := List Point

namespace Point

instance : Inhabited Point := ⟨⟨0, by decide⟩⟩

/-- The point of a Lean character. -/
def ofChar (c : Char) : Point :=
  ⟨c.val.toNat, by
    have h := c.valid
    simp only [UInt32.isValidChar, Nat.isValidChar] at h
    rw [UInt32.toNat] at *
    omega⟩

/-- The point with a given number, or the replacement point when the number is too large. -/
def ofNat (n : Nat) : Point :=
  if h : n < 0x110000 then ⟨n, h⟩ else ⟨0xFFFD, by decide⟩

/-- A surrogate is a point in the range reserved for UTF-16 pairs. -/
def isSurrogate (p : Point) : Bool := 0xD800 ≤ p.code && p.code ≤ 0xDFFF

/-- The Lean character of a point; a surrogate has none and gives the replacement character. -/
def toChar (p : Point) : Char :=
  if p.code.isValidChar then Char.ofNat p.code else '\uFFFD'

/-- ASCII points are those below 128. -/
def isAscii (p : Point) : Bool := p.code < 128

/-- An ASCII upper-case letter becomes lower case; every other point is kept. -/
def asciiLower (p : Point) : Point :=
  if 65 ≤ p.code ∧ p.code ≤ 90 then ofNat (p.code + 32) else p

/-- Number of bytes of the point in UTF-8; a surrogate counts three, as in the generalized form. -/
def utf8Size (p : Point) : Nat :=
  if p.code < 0x80 then 1 else if p.code < 0x800 then 2 else if p.code < 0x10000 then 3 else 4

end Point

instance : Coe Char Point := ⟨Point.ofChar⟩

namespace Text

/-- The text of a Lean string. -/
def ofString (s : String) : Text := s.toList.map Point.ofChar

instance : Coe String Text := ⟨ofString⟩

/-- The Lean string of a text; surrogates become replacement characters. -/
def toLeanString (t : Text) : String := String.ofList (t.map Point.toChar)

/-- Texts compare by code points, from the left. -/
def lt : Text → Text → Bool
  | [], [] => false
  | [], _ :: _ => true
  | _ :: _, [] => false
  | a :: r, b :: s => if a.code < b.code then true else if a.code = b.code then lt r s else false

/-- Whether the text starts with the given prefix. -/
def startsWith (t pre : Text) : Bool := pre.isPrefixOf t

/-- Whether the text contains the point. -/
def has (t : Text) (c : Char) : Bool := t.contains (Point.ofChar c)

/-- Joins texts with a separator between neighbours. -/
def join (sep : Text) : List Text → Text
  | [] => []
  | [t] => t
  | t :: ts => t ++ sep ++ join sep ts

/-- Decimal text of a natural number. -/
def ofNat (n : Nat) : Text := ofString (toString n)

/-- Decimal text of an integer, with a minus sign when negative. -/
def ofInt (n : Int) : Text := ofString (toString n)

/-- Number of bytes of the text in UTF-8. -/
def utf8Size (t : Text) : Nat := t.foldl (fun n p => n + p.utf8Size) 0

end Text

end FarmSetup
