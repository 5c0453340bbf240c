import FarmSetup.Path
/-!
A file system as a tree of named entries: directories, regular files with their bytes, and
symbolic links with their target text. A location is the list of names from the root. Looking a
path up walks it name by name from the root or from the working directory: `..` steps to the
parent of the directory reached so far, a link met on the way is replaced by its target, and
the walk gives up after forty links or at a name longer than 255 bytes.
-/

namespace FarmSetup

/-- What a name in a directory holds. -/
inductive Node where
  | dir
  | file (bytes : List Nat)
  | link (target : Text)
deriving DecidableEq, Repr

/-- Why a file system call fails, by the error number the system reports. -/
inductive Errno where
  | noEntry
  | alreadyExists
  | notDir
  | isDir
  | nameTooLong
  | loop
deriving DecidableEq, Repr

namespace Errno

/-- The error number. -/
def number : Errno → Nat
  | noEntry => 2
  | alreadyExists => 17
  | notDir => 20
  | isDir => 21
  | nameTooLong => 36
  | loop => 40

/-- The system's words for the error. -/
def words : Errno → String
  | noEntry => "No such file or directory"
  | alreadyExists => "File exists"
  | notDir => "Not a directory"
  | isDir => "Is a directory"
  | nameTooLong => "File name too long"
  | loop => "Too many levels of symbolic links"

/-- The class of error the program reports when the failure is not caught. -/
def className : Errno → String
  | noEntry => "FileNotFoundError"
  | alreadyExists => "FileExistsError"
  | notDir => "NotADirectoryError"
  | isDir => "IsADirectoryError"
  | nameTooLong => "OSError"
  | loop => "OSError"

end Errno

/-- A failed call: the error and the path text it was made with. -/
structure OsError where
  errno : Errno
  path : Text
deriving DecidableEq

/-- A file system: the node at each location below the root. The root is a directory. -/
structure Tree where
  entries : List (List Text × Node)
deriving DecidableEq

/-- Where a walk ends: at an entry, or at a name that a directory does not hold. -/
inductive Stop where
  | found (loc : List Text) (node : Node)
  | absent (parent : List Text) (name : Text)
deriving DecidableEq

/-- A point from U+DC80 to U+DCFF stands in a file name for the one byte it lies above U+DC00:
this is how names whose bytes are no UTF-8 are carried as text. -/
def Point.isByteEscape (p : Point) : Bool := 0xDC80 ≤ p.code && p.code ≤ 0xDCFF

/-- The number of bytes a name takes at the system's side: one for a byte escape, the UTF-8
length for any other point. -/
def Text.nameSize (t : Text) : Nat :=
  t.foldl (fun n p => n + if p.isByteEscape then 1 else p.utf8Size) 0

namespace Tree

/-- The most links one walk follows. -/
def linkLimit : Nat := 40

/-- The longest name, in bytes. -/
def nameLimit : Nat := 255

/-- The node at a location; the root is a directory. -/
def node? (t : Tree) (loc : List Text) : Option Node :=
  if loc.isEmpty then some .dir else (t.entries.find? (·.1 == loc)).map Prod.snd

/-- The components a link target or path text walks through, `..` kept. -/
def steps (target : Text) : List Text := (Path.ofText target).parts

/-- Walks the components `pending` from the directory `cur`. The last component's link is
followed when `follow` holds. `links` counts the links followed so far. -/
def walk (t : Tree) (follow : Bool) (links : Nat) (cur : List Text) (pending : List Text) :
    Except Errno Stop :=
  match pending with
  | [] => .ok (.found cur .dir)
  | c :: rest =>
    if c = Text.ofString ".." then walk t follow links cur.dropLast rest
    else if Text.nameSize c > nameLimit then .error .nameTooLong
    else
      let loc := cur ++ [c]
      match t.node? loc with
      | none => if rest.isEmpty then .ok (.absent cur c) else .error .noEntry
      | some .dir => if rest.isEmpty then .ok (.found loc .dir) else walk t follow links loc rest
      | some (.file b) => if rest.isEmpty then .ok (.found loc (.file b)) else .error .notDir
      | some (.link target) =>
        if rest.isEmpty ∧ !follow then .ok (.found loc (.link target))
        else if links ≥ linkLimit then .error .loop
        else
          let start := if (Path.ofText target).isAbsolute then [] else cur
          walk t follow (links + 1) start (steps target ++ rest)
termination_by (linkLimit - links, pending.length)
decreasing_by
  all_goals first
    | (apply Prod.Lex.right; simp)
    | (apply Prod.Lex.left; omega)

/-- The components of a path text read from a working directory. -/
def startOf (cwd : List Text) (p : Text) : List Text := if (Path.ofText p).isAbsolute then [] else cwd

/-- Looks a path text up from a working directory. -/
def lookup (t : Tree) (cwd : List Text) (p : Text) (follow : Bool) : Except Errno Stop :=
  if Text.nameSize p ≥ 4096 then .error .nameTooLong
  else t.walk follow 0 (startOf cwd p) (steps p)

/-- The tree with a node placed at a location, replacing what was there. -/
def put (t : Tree) (loc : List Text) (n : Node) : Tree :=
  ⟨(t.entries.filter (·.1 != loc)) ++ [(loc, n)]⟩

/-- The kind of what a path names, following links: a directory, or a file with its bytes. -/
def stat (t : Tree) (cwd : List Text) (p : Text) : Except Errno Node :=
  match t.lookup cwd p true with
  | .ok (.found _ n) => .ok n
  | .ok (.absent _ _) => .error .noEntry
  | .error e => .error e

/-- Makes one directory; its parent must exist and the name must be free. -/
def mkdir (t : Tree) (cwd : List Text) (p : Text) : Except Errno Tree :=
  match t.lookup cwd p false with
  | .ok (.absent parent name) => .ok (t.put (parent ++ [name]) .dir)
  | .ok (.found _ _) => .error .alreadyExists
  | .error e => .error e

/-- Writes a file, creating it (through a dangling link too) or replacing its bytes. -/
def writeFile (t : Tree) (cwd : List Text) (p : Text) (bytes : List Nat) : Except Errno Tree :=
  match t.lookup cwd p true with
  | .ok (.absent parent name) => .ok (t.put (parent ++ [name]) (.file bytes))
  | .ok (.found loc (.file _)) => .ok (t.put loc (.file bytes))
  | .ok (.found _ _) => .error .isDir
  | .error e => .error e

/-- Makes a symbolic link with a target text; the name must be free. -/
def symlink (t : Tree) (cwd : List Text) (p : Text) (target : Text) : Except Errno Tree :=
  match t.lookup cwd p false with
  | .ok (.absent parent name) => .ok (t.put (parent ++ [name]) (.link target))
  | .ok (.found _ _) => .error .alreadyExists
  | .error e => .error e

/-- The bytes of a regular file. -/
def bytesAt (t : Tree) (cwd : List Text) (p : Text) : Except Errno (List Nat) :=
  match t.stat cwd p with
  | .ok (.file b) => .ok b
  | .ok _ => .error .isDir
  | .error e => .error e

end Tree

end FarmSetup
