import FarmSetup.Text.Point
/-!
Shortening a path for display while keeping its tail. A text that fits is kept; otherwise three
dots stand for the cut head, and the dots themselves are cut when even they do not fit. A
negative width counts from the end of the dots, so `-1` leaves two of them.
-/

namespace FarmSetup

namespace Text

/-- The three dots that mark a cut. -/
def ellipsis : Text := Text.ofString "..."

/-- The first `n` points of the dots, a negative `n` dropping that many from their end. -/
def ellipsisPrefix (n : Int) : Text :=
  if 0 ≤ n then ellipsis.take n.toNat else ellipsis.take (3 - n.natAbs)

/-- The text if it is at most `maxLen` points long; else the dots and the last `maxLen - 3`
points, or only (part of) the dots when `maxLen` is at most three. -/
def truncatePath (t : Text) (maxLen : Int) : Text :=
  if (t.length : Int) ≤ maxLen then t
  else if maxLen ≤ 3 then ellipsisPrefix maxLen
  else ellipsis ++ t.drop (t.length - (maxLen - 3).toNat)

end Text

end FarmSetup
