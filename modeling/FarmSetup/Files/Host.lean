import FarmSetup.Files.Machine
import FarmSetup.Text.Utf8
/-!
The machine the tools run on: a small Linux root with the usual top-level directories, a home
directory for the administrator, and a scratch directory under the temporary directory that
serves as the working directory. A layout for the scratch directory is made of directories
(each with its parents), regular files and symbolic links, made in that order.
-/

namespace FarmSetup

namespace Machine

/-- The scratch directory, the working directory of the tools. -/
def scratch : List Text := [Text.ofString "tmp", Text.ofString "fcsb"]

/-- The top-level directories of the root. -/
def topLevel : List String :=
  ["bin", "boot", "dev", "etc", "home", "lib", "media", "mnt", "opt", "proc", "root", "run",
   "sbin", "srv", "sys", "tmp", "usr", "var"]

/-- The machine before any layout: the root's directories and an empty scratch directory. -/
def base : Machine :=
  { tree := ⟨(topLevel.map fun d => ([Text.ofString d], Node.dir)) ++ [(scratch, .dir)]⟩
    cwd := scratch
    home := [Text.ofString "root"] }

/-- Writes a file, keeping the machine as it is on failure. -/
def writeLenient (m : Machine) (p : Path) (bytes : List Nat) : Machine :=
  match m.tree.writeFile m.cwd p.toText bytes with
  | .ok t => { m with tree := t }
  | .error _ => m

/-- The bytes each regular file of a layout holds. -/
def fileBytes : List Nat := [100, 97, 116, 97]

/-- A layout of the scratch directory. -/
structure Layout where
  dirs : List Text
  files : List Text
  links : List (Text × Text)

/-- The machine with a layout made in its scratch directory; a step that fails is skipped. -/
def prepare (m : Machine) (l : Layout) : Machine :=
  let m := l.dirs.foldl (fun m d => (m.makeDirsLenient (Path.ofText d))) m
  let m := l.files.foldl (fun m f =>
    let m := m.makeDirsLenient (Path.ofText f).parent
    match m.tree.writeFile m.cwd f fileBytes with
    | .ok t => { m with tree := t }
    | .error _ => m) m
  l.links.foldl (fun m (name, target) =>
    match m.tree.symlink m.cwd name target with
    | .ok t => { m with tree := t }
    | .error _ => m) m

/-- The JSON files under the scratch directory with their text, by path relative to it: every
entry whose name ends in `.json` and that is a regular file or a link leading to one. Links to
directories are not entered, so a file is listed under the real directories that hold it. -/
def jsonFiles (m : Machine) : List (Text × Text) :=
  m.tree.entries.filterMap fun (loc, _) =>
    if scratch.isPrefixOf loc ∧ loc.length > scratch.length ∧
        ((loc.getLast?.map fun n => Text.ofString ".json" |>.isSuffixOf n).getD false) then
      let rel := Text.join [Path.slash] (loc.drop scratch.length)
      match m.tree.bytesAt [] (Machine.written true loc) with
      | .ok bytes => some (rel, (Utf8.decode bytes).toOption.getD [])
      | .error _ => none
    else none

end Machine

end FarmSetup
