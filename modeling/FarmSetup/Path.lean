import FarmSetup.Text.Point
/-!
Paths in their written normal form. A path is an anchor (none, `/`, or exactly two slashes,
which POSIX leaves to the implementation) and a list of components; reading a text drops empty
components and `.` components, so repeated and trailing slashes vanish. `..` is kept, since
only the file system can say what it names. The empty path is written `.`.
-/

namespace FarmSetup

/-- The anchor of a path. -/
inductive Anchor where
  | relative
  | root
  | doubleRoot
deriving DecidableEq, Repr

/-- A path: its anchor and its components, none of them empty or `.`. -/
structure Path where
  anchor : Anchor
  parts : List Text
deriving DecidableEq

namespace Path

/-- The slash point. -/
def slash : Point := Point.ofChar '/'

/-- The components of a text between slashes, empty pieces included. -/
def pieces (t : Text) : List Text :=
  (t.foldr (fun p (acc : List Text) =>
    if p = slash then [] :: acc
    else match acc with
      | cur :: rest => (p :: cur) :: rest
      | [] => [[p]]) [[]])

/-- Whether a component is kept: neither empty nor a single dot. -/
def keeps (c : Text) : Bool := !(c.isEmpty || c = [Point.ofChar '.'])

/-- The path a text names. Exactly two leading slashes are kept as such; three or more are one. -/
def ofText (t : Text) : Path :=
  let anchor :=
    match t with
    | a :: b :: c :: _ => if a = slash ∧ b = slash ∧ c ≠ slash then Anchor.doubleRoot
        else if a = slash then .root else .relative
    | [a, b] => if a = slash ∧ b = slash then .doubleRoot else if a = slash then .root else .relative
    | [a] => if a = slash then .root else .relative
    | [] => .relative
  ⟨anchor, (pieces t).filter keeps⟩

/-- The written form: the anchor, then the components joined by slashes, or `.` when both are
empty. -/
def toText (p : Path) : Text :=
  let body := Text.join [slash] p.parts
  match p.anchor with
  | .relative => if p.parts.isEmpty then [Point.ofChar '.'] else body
  | .root => slash :: body
  | .doubleRoot => slash :: slash :: body

/-- Whether the path starts at a root. -/
def isAbsolute (p : Path) : Bool := p.anchor != .relative

/-- The path `q` read from the directory `p`: `q` itself when it is anchored. -/
def join (p q : Path) : Path := if q.isAbsolute then q else ⟨p.anchor, p.parts ++ q.parts⟩

/-- The path without its last component; a path without components is its own parent. -/
def parent (p : Path) : Path := ⟨p.anchor, p.parts.dropLast⟩

/-- The last component, if any. -/
def name? (p : Path) : Option Text := p.parts.getLast?

example : (ofText (Text.ofString "a//b/")).toText = Text.ofString "a/b" := by decide +kernel
example : (ofText (Text.ofString "//a")).toText = Text.ofString "//a" := by decide +kernel
example : (ofText (Text.ofString "///a//")).toText = Text.ofString "/a" := by decide +kernel
example : (ofText (Text.ofString "./")).toText = Text.ofString "." := by decide +kernel

end Path

end FarmSetup
