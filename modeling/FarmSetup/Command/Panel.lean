import FarmSetup.Console.Layout
import FarmSetup.Console.Markup
import FarmSetup.Entry
import FarmSetup.Text.Truncate
/-!
The panel that shows farms. Each farm has a heading with its number, a grid of two rows, path
and size, each with its value (or a placeholder when there is none) and the badge of the
field, and, when the path is set but unusable, a hint on the next line. Farms are separated by
a blank line; a list without farms shows a centred note instead. The panel is eighty cells wide.
-/

namespace FarmSetup

namespace Panel

/-- The width of the terminal. -/
def width : Nat := 80

/-- The width inside the panel's border and padding. -/
def innerWidth : Nat := width - 6

/-- The hint shown under a farm whose directory is unusable. -/
def pathHint : Text := Text.ofString "Folder doesn't exist or user is lacking write permissions"

/-- What the size cell shows when the size is empty. -/
def sizePlaceholder : Text := Text.ofString "4T, 2.5TB, 500GiB, etc."

/-- What the path cell shows when there is no path: the usual mount point of a farm. -/
def pathPlaceholder : Text := Text.ofString "/media/subspace-farm"

/-- The longest path shown whole. -/
def maxPathWidth : Int := 60

/-- A text as the terminal keeps it: without bell, backspace, vertical tab, form feed and
carriage return. -/
def terminalText (t : Text) : Text := t.filter (!Markup.isStripped ·)

/-- The columns of a farm's grid: the right-aligned label, the value and the badge, two cells
apart. -/
def columns : List Layout.Column := [⟨.right, 2⟩, ⟨.left, 2⟩, ⟨.left, 0⟩]

/-- The badge of a field. -/
def badge (i : Icon) : Text := Text.ofString i.badge.1

/-- The lines of one farm at a display index. -/
def entryLines (index : Nat) (e : Entry) : List Text :=
  let heading := Layout.textLines (Text.ofString ("Farm " ++ toString (index + 1))) innerWidth
  let pathCell := match e.path.value with
    | some p => terminalText (Text.truncatePath p.toText maxPathWidth)
    | none => pathPlaceholder
  let sizeCell := if e.size.value.isEmpty then sizePlaceholder else terminalText e.size.value
  let rows := [[Text.ofString "Path:", pathCell, badge e.path.icon],
    [Text.ofString "Size:", sizeCell, badge e.size.icon]]
  let hint := if e.showPathError then Layout.textLines pathHint innerWidth else []
  heading ++ Layout.grid columns rows innerWidth ++ hint

/-- The lines of the panel for farms at their display indices. -/
def lines (entries : List (Nat × Entry)) : List Text :=
  let content := match entries with
    | [] => Lines.wrap (Text.ofString "No farms configured") innerWidth .center .fold false
    | first :: rest =>
      entryLines first.1 first.2 ++ rest.flatMap fun (k, e) => [[]] ++ entryLines k e
  Layout.panel (Text.ofString "Farms") content width

end Panel

end FarmSetup
