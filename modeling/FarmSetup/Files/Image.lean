import FarmSetup.Files.Machine
/-!
Images of a real file system. A program that runs on the real system first looks at the
locations it will need and records what it saw in a machine; after the run, the locations whose
nodes were added or changed are what it has to write back.
-/

namespace FarmSetup

/-- What a look at one location found. -/
inductive Sight where
  | dir
  | file (bytes : List Nat)
  | link (target : Text)
deriving DecidableEq

namespace Machine

/-- A machine that knows nothing but its working and home directories. -/
def blank (cwd home : List Text) : Machine := ⟨⟨[]⟩, cwd, home⟩

/-- The machine with what was seen at a location recorded. -/
def record (m : Machine) (loc : List Text) (s : Sight) : Machine :=
  let n : Node := match s with
    | .dir => .dir
    | .file b => .file b
    | .link t => .link t
  { m with tree := m.tree.put loc n }

/-- The locations of `after` whose node is new or differs from the one in `before`. -/
def changes (before after : Machine) : List (List Text × Node) :=
  after.tree.entries.filter fun (loc, n) => before.tree.node? loc != some n

/-- The absolute components of a path text, from the working directory when relative, with
`..` taken lexically. -/
def absoluteParts (m : Machine) (t : Text) : List Text :=
  let p := Path.ofText t
  normalize (if p.isAbsolute then p.parts else m.cwd ++ p.parts)

end Machine

end FarmSetup
