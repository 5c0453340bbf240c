import FarmSetup.Console.Lines
/-!
Blocks of terminal lines: a grid of text cells and a titled panel around other blocks.

A grid gives each column the width of its widest cell, padding included. When the columns do
not fit, the widest columns give up cells first, down to the next widest, until they fit; what is
still too wide is taken from all columns in turn; then each column takes the width its cells need
within what it got. A cell wraps within its column, cutting a word that is too long with an
ellipsis, and a row is as tall as its tallest cell.

A panel draws a rounded border with its title centred in the top edge, and pads its content
with a blank line above and below and two spaces on each side.
-/

namespace FarmSetup

namespace Layout

/-- A measure with the least width not above the greatest. -/
def normalized (m : Nat × Nat) : Nat × Nat := (min m.1 m.2, m.2)

/-- A measure with both widths at most `w`. -/
def atMost (m : Nat × Nat) (w : Nat) : Nat × Nat := (min m.1 w, min m.2 w)

/-- The least and greatest width of a text cell with `pad` cells of padding on its right,
within `maxWidth` cells. -/
def cellMeasure (t : Text) (pad : Nat) (maxWidth : Int) : Nat × Nat :=
  if maxWidth < 1 then (0, 0) else
  let w := maxWidth.toNat
  if maxWidth - pad < 1 then (w, w) else
  let inner := normalized (atMost (normalized (Lines.measure t)) w)
  let inner := if inner.2 < 1 then (0, 0) else normalized inner
  let outer := atMost (normalized (atMost (inner.1 + pad, inner.2 + pad) w)) w
  if outer.2 < 1 then (0, 0) else normalized outer

/-- The least and greatest width of a column of cells with `pad` cells of padding on the right,
within `maxWidth` cells. -/
def columnMeasure (cells : List Text) (pad : Nat) (maxWidth : Int) : Nat × Nat :=
  if maxWidth < 1 then (0, 0) else
  let ms := cells.map (cellMeasure · pad maxWidth)
  let m := if ms.isEmpty then (1, maxWidth.toNat)
    else ((ms.map Prod.fst).foldl max 0, (ms.map Prod.snd).foldl max 0)
  atMost m maxWidth.toNat

/-- The sum of widths. -/
def sumOf (ws : List Nat) : Nat := ws.foldl (· + ·) 0

/-- `num / den` rounded to the nearest whole number, a half to the even one. -/
def roundHalfEven (num den : Nat) : Nat :=
  let q := num / den
  let r := num % den
  if 2 * r < den then q else if 2 * r > den then q + 1 else if q % 2 = 0 then q else q + 1

/-- Takes `total` cells from `values` in proportion to `ratios`, each slot giving at most its
maximum; slots whose maximum is zero give nothing. -/
def ratioReduce (total : Nat) (ratios maximums values : List Nat) : List Nat :=
  let ratios := (ratios.zip maximums).map fun (r, m) => if m = 0 then 0 else r
  let totalRatio := sumOf ratios
  if totalRatio = 0 then values else
  let (out, _, _) := ((ratios.zip maximums).zip values).foldl
    (fun (acc : List Nat × Nat × Nat) slot =>
      let (out, remaining, left) := acc
      let ((ratio, maximum), value) := slot
      if ratio ≠ 0 ∧ left > 0 then
        let given := min maximum (roundHalfEven (ratio * remaining) left)
        (out ++ [value - given], remaining - given, left - ratio)
      else (out ++ [value], remaining, left))
    ([], total, totalRatio)
  out

/-- Narrows the widest columns towards the next widest until the widths fit `maxWidth`. -/
def collapse (widths : List Nat) (maxWidth : Nat) : Nat → List Nat
  | 0 => widths
  | fuel + 1 =>
    let sum := sumOf widths
    if sum = 0 ∨ sum ≤ maxWidth then widths else
    let excess := sum - maxWidth
    let top := widths.foldl max 0
    let second := (widths.map fun w => if w ≠ top then w else 0).foldl max 0
    let diff := top - second
    if diff = 0 then widths else
    let ratios := widths.map fun w => if w = top then 1 else 0
    collapse (ratioReduce excess ratios (widths.map fun _ => min excess diff) widths) maxWidth fuel

/-- A column of a grid: how its cells are placed and the padding on their right. -/
structure Column where
  justify : Lines.Justify
  pad : Nat

/-- The widths of the columns of a grid within `maxWidth` cells, padding included. -/
def columnWidths (columns : List (Column × List Text)) (maxWidth : Nat) : List Nat :=
  let widths := columns.map fun (c, cells) =>
    let m := (columnMeasure cells c.pad maxWidth).2
    if m = 0 then 1 else m
  if sumOf widths ≤ maxWidth then widths else
  let widths := collapse widths maxWidth (sumOf widths + 1)
  let widths := if sumOf widths > maxWidth then
      ratioReduce (sumOf widths - maxWidth) (widths.map fun _ => 1) widths widths
    else widths
  (columns.zip widths).map fun ((c, cells), w) => (columnMeasure cells c.pad w).2

/-- The lines of a text cell `width` cells wide, padding included. -/
def cellLines (c : Column) (t : Text) (width : Nat) : List Text :=
  let inner := width - c.pad
  (Lines.wrap t inner c.justify .ellipsis false).map fun line =>
    Text.fitCells (Text.fitCells line inner ++ Text.spaces c.pad) width

/-- The lines of a grid within `maxWidth` cells: each row as tall as its tallest cell. -/
def grid (columns : List Column) (rows : List (List Text)) (maxWidth : Nat) : List Text :=
  let byColumn := columns.zipIdx.map fun (c, k) => (c, rows.map fun row => row.getD k [])
  let widths := columnWidths byColumn maxWidth
  rows.flatMap fun row =>
    let cells := (columns.zip widths).zipIdx.map fun ((c, w), k) => (cellLines c (row.getD k []) w, w)
    let height := (cells.map fun (ls, _) => ls.length).foldl max 1
    (List.range height).map fun i =>
      Text.join [] (cells.map fun (ls, w) => ls.getD i (Text.spaces w))

/-- The lines of a text printed `width` cells wide: wrapped, folding words that are too long. -/
def textLines (t : Text) (width : Nat) : List Text :=
  (Lines.wrap t width .none .fold false).map fun line =>
    if Text.cells line > width then Text.fitCells line width else line

/-- A line of `n` copies of a point. -/
def rule (p : Point) (n : Nat) : Text := List.replicate n p

/-- The lines of a panel `width` cells wide with a title in its top edge, around content
lines already laid out for the inner width, `width - 6` cells. -/
def panel (title : Text) (content : List Text) (width : Nat) : List Text :=
  let horizontal := Point.ofNat 0x2500
  let vertical := [Point.ofNat 0x2502]
  let named := [Point.space] ++ title ++ [Point.space]
  let inner := width - 4
  let excess := inner - Text.cells named
  let left := excess / 2
  let top := [Point.ofNat 0x256D, horizontal] ++ rule horizontal left ++ named ++
    rule horizontal (excess - left) ++ [horizontal, Point.ofNat 0x256E]
  let bottom := [Point.ofNat 0x2570] ++ rule horizontal (width - 2) ++ [Point.ofNat 0x256F]
  let blank := vertical ++ Text.spaces (width - 2) ++ vertical
  let framed := content.map fun line =>
    vertical ++ Text.spaces 2 ++ Text.fitCells line (width - 6) ++ Text.spaces 2 ++ vertical
  [top, blank] ++ framed ++ [blank, bottom]

example : grid [⟨.right, 2⟩, ⟨.left, 0⟩] [[Text.ofString "Path:", Text.ofString "abc"]] 74 =
    [Text.ofString "Path:  abc"] := by decide +kernel
example : (panel (Text.ofString "Farms") [] 80).head? = some (Text.ofString
    "╭─────────────────────────────────── Farms ────────────────────────────────────╮") := by
  decide +kernel

end Layout

end FarmSetup
