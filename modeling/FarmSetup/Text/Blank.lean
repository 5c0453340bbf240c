import FarmSetup.Text.Point
/-!
Blank points: the white space that trimming removes and that separates a number from its unit.
The set is the Unicode White_Space property together with the four information separators
U+001C to U+001F, 29 points in all; the zero-width space U+200B is not among them.
-/

namespace FarmSetup

/-- The 29 blank code points, in increasing order. -/
def blankCodes : List Nat := [
  0x9, 0xA, 0xB, 0xC, 0xD, 0x1C, 0x1D, 0x1E,
  0x1F, 0x20, 0x85, 0xA0, 0x1680, 0x2000, 0x2001, 0x2002,
  0x2003, 0x2004, 0x2005, 0x2006, 0x2007, 0x2008, 0x2009, 0x200A,
  0x2028, 0x2029, 0x202F, 0x205F, 0x3000]

namespace Point

/-- Whether the point is blank. -/
def isBlank (p : Point) : Bool := blankCodes.contains p.code

/-- The space. -/
def space : Point := Point.ofChar ' '

end Point

namespace Text

/-- The text without its leading blank points. -/
def trimLeft (t : Text) : Text := t.dropWhile Point.isBlank

/-- The text without its trailing blank points. -/
def trimRight (t : Text) : Text := (t.reverse.dropWhile Point.isBlank).reverse

/-- The text without blank points at either end. -/
def trim (t : Text) : Text := trimRight (trimLeft t)

/-- The words of a text: the runs of points between blanks. -/
def fields (t : Text) : List Text :=
  let (done, cur) := t.foldl (fun (acc : List Text × Text) p =>
    if p.isBlank then (if acc.2.isEmpty then acc else (acc.2.reverse :: acc.1, []))
    else (acc.1, p :: acc.2)) ([], [])
  (if cur.isEmpty then done else cur.reverse :: done).reverse

end Text

example : blankCodes.length = 29 := by decide
example : Point.isBlank (Point.ofChar ' ') = true := by decide
example : Point.isBlank (Point.ofNat 0x200B) = false := by decide

end FarmSetup
