import FarmSetup.Console.Width
/-!
Lines of terminal text. Printed text is cut into lines at line feeds, and each line is wrapped
to a width: words, each with the blanks after it, fill a line while they fit; a word that does
not fit starts the next line, and a word wider than a whole line is either folded across lines
or left whole and cut later. Blanks that hang past the width are dropped. Each line is then
justified and finally cut to the width, with or without an ellipsis. The measure of a text is
the width of its widest word and of its widest line.
-/

namespace FarmSetup

namespace Lines

/-- What happens to a line wider than the width: folded onto the next lines (a plain cut when
it is only too wide after wrapping), cut, or cut with an ellipsis. -/
inductive Overflow where
  | fold
  | crop
  | ellipsis
deriving DecidableEq

/-- How a line is placed in the width: as it is, padded on the right, centred, or padded on the
left. -/
inductive Justify where
  | none
  | left
  | center
  | right
deriving DecidableEq

/-- The ellipsis that ends a cut line. -/
def ellipsisPoint : Point := Point.ofNat 0x2026

/-- The tab. -/
def tab : Point := Point.ofChar '\t'

/-- The line feed. -/
def lineFeed : Point := Point.ofChar '\n'

/-- Where the words of a line start: the first word at zero, taking any blanks before it, and
every later word where a non-blank point follows a blank. -/
def wordStarts (t : Text) : List Nat :=
  let starts := (t.zipIdx.zip (none :: t.map some)).filterMap fun ((p, i), prev) =>
    if !p.isBlank && (prev.map Point.isBlank).getD true then some i else none
  match starts with
  | [] => []
  | _ :: rest => 0 :: rest

/-- The piece of `t` from `a` up to `b`. -/
def slice (t : Text) (a b : Nat) : Text := (t.drop a).take (b - a)

/-- The positions at which a line breaks to fit `width` cells. A word that fits goes on the
current line; one that does not starts a new line, unless it is the first; a word wider than the
width is folded into pieces that each start a line when `fold`, and otherwise starts a line of
its own. -/
def divideLine (t : Text) (width : Int) (fold : Bool) : List Nat :=
  let starts := wordStarts t
  let bounds := starts.zip (starts.tail ++ [t.length])
  let step (acc : List Nat × Int) (bound : Nat × Nat) : List Nat × Int :=
    let (breaks, offset) := acc
    let (start, stop) := bound
    let word := slice t start stop
    let wordLength : Int := Text.cells (Text.trimRight word)
    if width - offset ≥ wordLength then (breaks, offset + Text.cells word)
    else if wordLength > width then
      if fold then
        let folded := Text.chopCells word width
        let (breaks, _, offset) := folded.zipIdx.foldl
          (fun (acc : List Nat × Nat × Int) (piece, k) =>
            let (breaks, s, o) := acc
            let breaks := if s ≠ 0 then breaks ++ [s] else breaks
            if k + 1 = folded.length then (breaks, s, (Text.cells piece : Int))
            else (breaks, s + piece.length, o))
          (breaks, start, offset)
        (breaks, offset)
      else ((if start ≠ 0 then breaks ++ [start] else breaks), Text.cells word)
    else if offset ≠ 0 ∧ start ≠ 0 then (breaks ++ [start], Text.cells word)
    else (breaks, offset)
  (bounds.foldl step ([], 0)).1

/-- The pieces of a text between the given positions. -/
def divide (t : Text) (offsets : List Nat) : List Text :=
  let cuts := 0 :: offsets ++ [t.length]
  (cuts.zip cuts.tail).map fun (a, b) => slice t a b

/-- Drops the trailing blanks that reach past `size` points. -/
def rstripEnd (t : Text) (size : Int) : Text :=
  if (t.length : Int) > size then
    let excess := (t.length - size).toNat
    let trailing := (t.reverse.takeWhile Point.isBlank).length
    t.take (t.length - min trailing excess)
  else t

/-- Cuts a line to `maxWidth` cells, with an ellipsis for `ellipsis`, and pads it with spaces
to the width when `pad` and it is narrower. -/
def truncate (t : Text) (maxWidth : Int) (overflow : Overflow) (pad : Bool) : Text :=
  let length : Int := Text.cells t
  let cut :=
    if length > maxWidth then
      match overflow with
      | .ellipsis => Text.fitCells t (maxWidth - 1) ++ [ellipsisPoint]
      | _ => Text.fitCells t maxWidth
    else t
  if pad ∧ length < maxWidth then cut ++ Text.spaces (maxWidth - length).toNat else cut

/-- Places a line in `width` cells. -/
def justifyLine (j : Justify) (width : Int) (overflow : Overflow) (t : Text) : Text :=
  match j with
  | .none => t
  | .left => truncate t width overflow true
  | .center =>
    let t := truncate (Text.trimRight t) width overflow false
    let t := Text.spaces ((width - Text.cells t) / 2).toNat ++ t
    t ++ Text.spaces (width - Text.cells t).toNat
  | .right =>
    let t := truncate (Text.trimRight t) width overflow false
    Text.spaces (width - Text.cells t).toNat ++ t

/-- The pieces of a line cut after each tab, the tabs kept. -/
def cutAfterTabs (t : Text) : List Text :=
  let (pieces, last) := t.foldl (fun (acc : List Text × Text) p =>
    if p == tab then (acc.1 ++ [acc.2 ++ [p]], []) else (acc.1, acc.2 ++ [p])) ([], [])
  pieces ++ [last]

/-- A line with its tabs turned into spaces up to the next multiple of `size` cells: each piece
up to a tab is measured with its tab as a space, and spaces follow until the cells so far are a
multiple of `size`. -/
def expandTabs (t : Text) (size : Nat) : Text :=
  let (out, _) := (cutAfterTabs t).foldl (fun (acc : Text × Nat) piece =>
    let (out, position) := acc
    if piece.getLast? == some tab then
      let piece := piece.dropLast ++ [Point.space]
      let position := position + Text.cells piece
      let extra := if position % size = 0 then 0 else size - position % size
      (out ++ piece ++ Text.spaces extra, position + extra)
    else (out ++ piece, position + Text.cells piece)) ([], 0)
  out

/-- Wraps a text to `width` cells: one or more lines for each of its lines. -/
def wrap (t : Text) (width : Int) (j : Justify) (overflow : Overflow) (noWrap : Bool) : List Text :=
  (t.splitOn lineFeed).flatMap fun line =>
    let line := if line.contains tab then expandTabs line 8 else line
    let pieces := if noWrap then [line] else divide line (divideLine line width (overflow == .fold))
    let pieces := pieces.map (rstripEnd · width)
    let pieces := pieces.map (justifyLine j width overflow)
    pieces.map (truncate · width overflow false)

/-- Whether a point ends a line for the measure of a text. -/
def isLineBreak (p : Point) : Bool :=
  [10, 11, 12, 13, 0x1C, 0x1D, 0x1E, 0x85, 0x2028, 0x2029].contains p.code

/-- The lines of a text for its measure, the current one held reversed in `cur`; a carriage
return before a line feed ends one line, and a final break starts no empty line. -/
def splitLines : Text → Text → List Text
  | [], cur => if cur.isEmpty then [] else [cur.reverse]
  | [p], cur => if isLineBreak p then [cur.reverse] else [(p :: cur).reverse]
  | p :: q :: rest, cur =>
    if p.code = 13 ∧ q.code = 10 then cur.reverse :: splitLines rest []
    else if isLineBreak p then cur.reverse :: splitLines (q :: rest) []
    else splitLines (q :: rest) (p :: cur)

/-- The least and the greatest width a text needs: its widest word and its widest line. -/
def measure (t : Text) : Nat × Nat :=
  let widest := ((splitLines t []).map Text.cells).foldl max 0
  let words := Text.fields t
  ((if words.isEmpty then widest else (words.map Text.cells).foldl max 0), widest)

example : wrap (Text.ofString "aaa bbb ccc") 7 .none .fold false =
    [Text.ofString "aaa bbb", Text.ofString "ccc"] := by decide +kernel
example : wrap (Text.ofString "abcdefgh") 5 .left .ellipsis false =
    [Text.ofString "abcd…"] := by decide +kernel
example : measure (Text.ofString "ab cde\nf") = (3, 6) := by decide +kernel

end Lines

end FarmSetup
