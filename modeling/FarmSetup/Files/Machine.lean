import FarmSetup.Files.Tree
import FarmSetup.Json.Literal
/-!
Questions a program asks its file system, with the answers it gets back: whether a path is a
directory, whether it exists, whether a directory takes new files, and where a path leads once
every link on it is followed; and making a directory with its missing parents. A path text that cannot be handed to the system (a surrogate that
stands for no byte, or a NUL point) is refused before any call. The probe of a directory counts the errors that say
"no such directory" as a plain no and reports any other error in its answer.
-/

namespace FarmSetup

/-- Why a path text cannot be handed to the system at all. -/
inductive TextFault where
  /-- Surrogates that stand for no byte, from the first of them (with its code) to the end of
  the run of surrogates it stands in. -/
  | surrogates (start stop : Nat) (code : Nat)
  /-- A NUL point, which ends a name at the system's side. -/
  | nul
deriving DecidableEq, Repr

namespace TextFault

/-- The class of error the program reports. -/
def className : TextFault → String
  | surrogates .. => "UnicodeEncodeError"
  | nul => "ValueError"

/-- The message the program reports. -/
def message : TextFault → Text
  | surrogates i j c =>
    if j = i + 1 then
      Text.ofString ("'utf-8' codec can't encode character '\\u" ++ Literal.hexPadded 4 c ++
        "' in position " ++ toString i ++ ": surrogates not allowed")
    else
      Text.ofString ("'utf-8' codec can't encode characters in position " ++ toString i ++ "-" ++
        toString (j - 1) ++ ": surrogates not allowed")
  | nul => Text.ofString "embedded null byte"

end TextFault

/-- The fault of a path text, if it has one; a surrogate that stands for no byte is found
before a NUL. -/
def TextFault.of? (t : Text) : Option TextFault :=
  match (t.zipIdx.find? fun (p, _) => p.isSurrogate && !p.isByteEscape) with
  | some (p, i) => some (.surrogates i (i + ((t.drop i).takeWhile Point.isSurrogate).length) p.code)
  | none => if t.contains (Point.ofNat 0) then some .nul else none

namespace OsError

/-- The message of a failed call: the number, the words and the quoted path. -/
def message (e : OsError) : Text :=
  Text.ofString ("[Errno " ++ toString e.errno.number ++ "] " ++ e.errno.words ++ ": ") ++
    Literal.quoteText e.path

end OsError

/-- A machine: its file system, working directory and home directory. -/
structure Machine where
  tree : Tree
  cwd : List Text
  home : List Text
deriving DecidableEq

namespace Machine

/-- Whether a missing, non-directory or looping path: the errors a yes-or-no question hides. -/
def hides (e : Errno) : Bool := e == .noEntry || e == .notDir || e == .loop

/-- Whether the path names a directory, links followed. -/
def isDir (m : Machine) (p : Text) : Except OsError Bool :=
  if (TextFault.of? p).isSome then .ok false else
  match m.tree.stat m.cwd p with
  | .ok .dir => .ok true
  | .ok _ => .ok false
  | .error e => if hides e then .ok false else .error ⟨e, p⟩

/-- Whether the path names a directory, with any error counting as no. -/
def isDirectory (m : Machine) (p : Text) : Bool :=
  match m.isDir p with
  | .ok b => b
  | .error _ => false

/-- Whether the path names anything, links followed. -/
def exists? (m : Machine) (p : Text) : Except OsError Bool :=
  if (TextFault.of? p).isSome then .ok false else
  match m.tree.stat m.cwd p with
  | .ok _ => .ok true
  | .error e => if hides e then .ok false else .error ⟨e, p⟩

/-- The answer of a writability probe: whether the directory takes new files, and the note of
an unexpected error, if one came up. Every existing directory takes files on this machine. -/
def probe (m : Machine) (p : Path) : Bool × Option Text :=
  match m.isDir p.toText with
  | .ok b => (b, none)
  | .error e =>
    (false, some (Text.ofString "Directory " ++ p.toText ++ Text.ofString " is not writable: " ++
      e.message))

/-- Makes a directory and its missing parents; a directory already there is fine. -/
def makeDirs (m : Machine) (p : Path) : Except OsError Machine :=
  match h : p.parts with
  | [] => .ok m
  | _ :: _ =>
    match m.tree.mkdir m.cwd p.toText with
    | .ok t => .ok { m with tree := t }
    | .error .noEntry =>
      match m.makeDirs p.parent with
      | .error e => .error e
      | .ok m' =>
        match m'.tree.mkdir m'.cwd p.toText with
        | .ok t => .ok { m' with tree := t }
        | .error .noEntry => .error ⟨.noEntry, p.toText⟩
        | .error e => if m'.isDirectory p.toText then .ok m' else .error ⟨e, p.toText⟩
    | .error e => if m.isDirectory p.toText then .ok m else .error ⟨e, p.toText⟩
termination_by p.parts.length
decreasing_by simp [Path.parent, h]

/-- Makes a directory and its missing parents, keeping the machine as it is on failure. -/
def makeDirsLenient (m : Machine) (p : Path) : Machine :=
  match m.makeDirs p with
  | .ok m' => m'
  | .error _ => m

/-- A path in written form from its anchor flag and components. -/
def written (absolute : Bool) (parts : List Text) : Text :=
  (Path.mk (if absolute then .root else .relative) parts).toText

/-- A link location met while resolving: still open, or resolved to a path. -/
abbrev Seen := List ((Bool × List Text) × Option (Bool × List Text))

/-- Why resolving a path fails. -/
inductive ResolveError where
  | loop (path : Text)
  | fault (f : TextFault)
deriving DecidableEq

/-- Resolves the components `rest` after the partial result `(absolute, path)`, following links
as a non-strict resolution does: a missing entry ends no resolution, and a link met again
while still open stops it with what is left appended. Returns the path and whether it was
resolved to the end. -/
def joinReal (m : Machine) (fuel : Nat) (absolute : Bool) (path : List Text) (rest : List Text)
    (seen : Seen) : Except TextFault ((Bool × List Text) × Bool × Seen) :=
  match fuel with
  | 0 => .ok ((absolute, path ++ rest), false, seen)
  | fuel + 1 =>
    match rest with
    | [] => .ok ((absolute, path), true, seen)
    | name :: rest =>
      if name = Text.ofString ".." then
        match path.getLast? with
        | some last =>
          if last = Text.ofString ".." then
            joinReal m fuel absolute (path ++ [name]) rest seen
          else joinReal m fuel absolute path.dropLast rest seen
        | none =>
          if absolute then joinReal m fuel absolute path rest seen
          else joinReal m fuel absolute [name] rest seen
      else
        let newpath := path ++ [name]
        let text := written absolute newpath
        match TextFault.of? text with
        | some f => .error f
        | none =>
          let target? : Option Text :=
            match m.tree.lookup m.cwd text false with
            | .ok (.found _ (.link t)) => some t
            | _ => none
          match target? with
          | none => joinReal m fuel absolute newpath rest seen
          | some target =>
            match seen.find? (·.1 == (absolute, newpath)) with
            | some (_, some (a, p)) => joinReal m fuel a p rest seen
            | some (_, none) => .ok ((absolute, newpath ++ rest), false, seen)
            | none =>
              let seen := ((absolute, newpath), none) :: seen
              let (a, start) := if (Path.ofText target).isAbsolute then (true, []) else (absolute, path)
              match joinReal m fuel a start (Tree.steps target) seen with
              | .error f => .error f
              | .ok ((a', p'), ok, seen) =>
                if !ok then .ok ((a', p' ++ rest), false, seen)
                else
                  let seen := seen.map fun e =>
                    if e.1 == (absolute, newpath) then ((absolute, newpath), some (a', p')) else e
                  joinReal m fuel a' p' rest seen

/-- Lexical normal form of absolute components: `..` removes the name before it, and at the
root it is dropped. -/
def normalize (parts : List Text) : List Text :=
  parts.foldl (fun acc c => if c = Text.ofString ".." then acc.dropLast else acc ++ [c]) []

/-- Where a path leads: an absolute path with every link on it followed and no `..` left. A
dangling link leads to its target. A path that loops fails with its resolved text. -/
def resolve (m : Machine) (p : Path) : Except ResolveError Path :=
  let absolute := p.isAbsolute
  match joinReal m 200 absolute [] p.parts [] with
  | .error f => .error (.fault f)
  | .ok ((a, parts), _, _) =>
    let full := if a then parts else m.cwd ++ parts
    let result : Path := ⟨.root, normalize full⟩
    match m.tree.stat m.cwd result.toText with
    | .error .loop => .error (.loop result.toText)
    | _ => .ok result

/-- The path with a leading `~` replaced by the home directory; none when the first
component names another user's home, which this machine cannot tell. -/
def expandUser (m : Machine) (p : Path) : Option Path :=
  match p.anchor, p.parts with
  | .relative, first :: rest =>
    if first.head? = some (Point.ofChar '~') then
      if first = Text.ofString "~" ∨ first = Text.ofString "~root" then
        some ⟨.root, m.home ++ rest⟩
      else none
    else some p
  | _, _ => some p

end Machine

end FarmSetup
