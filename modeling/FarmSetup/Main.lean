import FarmSetup.Command.Run
import FarmSetup.Files.Image
/-!
The command line of `farm-config`. The run itself is pure: this layer looks at the locations on
the real file system that the run will consult (the working and home directories, each path on
the command line, the configuration file and the farms it lists), records them in a machine,
runs the program on it, writes back the directories and files the run made or changed, and
prints what it printed. A failure the program does not handle is printed with its class and
ends with status 1.
-/

namespace FarmSetup

namespace CommandLine

/-- The written form of absolute components. -/
def pathString (loc : List Text) : String := "/" ++ String.intercalate "/" (loc.map Text.toLeanString)

/-- What is at a location, its parent already resolved to `parentReal`: a link when resolving
the location leads elsewhere, else a directory or a file; none when nothing resolves. -/
def look (loc : List Text) (parentReal : String) : IO (Option Sight) := do
  let path := pathString loc
  match ← (IO.FS.realPath path).toBaseIO with
  | .error _ => pure none
  | .ok real =>
    let real := toString real
    let name := (loc.getLast?.map Text.toLeanString).getD ""
    let plain := if parentReal == "/" then "/" ++ name else parentReal ++ "/" ++ name
    if real != plain then pure (some (.link (Text.ofString real)))
    else match ← (IO.FS.realPath (path ++ "/.")).toBaseIO with
      | .ok _ => pure (some .dir)
      | .error _ => pure (some (.file []))

/-- Records every location on the way to a path, and the targets of the links met. -/
def observe (m : Machine) (parts : List Text) : Nat → IO Machine
  | 0 => pure m
  | fuel + 1 => do
    let mut m := m
    let mut real := "/"
    for k in List.range parts.length do
      let loc := parts.take (k + 1)
      match ← look loc real with
      | none => return m
      | some (.link target) =>
        m := m.record loc (.link target)
        m ← observe m (Path.ofText target).parts fuel
        real := Text.toLeanString target
      | some s =>
        m := m.record loc s
        real := pathString loc
    pure m

/-- Records the bytes of the file a path leads to, if it leads to one. -/
def readInto (m : Machine) (t : Text) : IO Machine := do
  match m.resolve (Path.ofText t) with
  | .ok p =>
    match m.tree.node? p.parts with
    | some (.file _) =>
      match ← (IO.FS.readBinFile (pathString p.parts)).toBaseIO with
      | .ok bytes => pure (m.record p.parts (.file (bytes.toList.map (·.toNat))))
      | .error _ => pure m
    | _ => pure m
  | .error _ => pure m

/-- Writes back what the run added or changed. -/
def writeBack (before after : Machine) : IO Unit := do
  for (loc, n) in Machine.changes before after do
    match n with
    | .dir => discard (IO.FS.createDirAll (pathString loc)).toBaseIO
    | .file bytes =>
      discard (IO.FS.writeBinFile (pathString loc) ⟨(bytes.map (·.toUInt8)).toArray⟩).toBaseIO
    | .link _ => pure ()

/-- Runs the program on the real file system. -/
def run (args : List String) : IO UInt32 := do
  let cwd := Text.ofString (toString (← IO.currentDir))
  let home := Text.ofString ((← IO.getEnv "HOME").getD "/root")
  let argv := args.map Text.ofString
  let m := Machine.blank (Path.ofText cwd).parts (Path.ofText home).parts
  let depth := 8
  let mut m ← observe m m.cwd depth
  m ← observe m m.home depth
  for a in argv do
    m ← observe m (m.absoluteParts a) depth
  match Arguments.read argv with
  | .ok inv =>
    let config := match inv.config with
      | .value t => t
      | .empty => Text.ofString "farms.json"
    let logFile := match inv.logFile with
      | .value t => t
      | .empty => config
    m ← observe m (m.absoluteParts config) depth
    m ← observe m (m.absoluteParts logFile) depth
    m ← readInto m config
    match m.resolve (Path.ofText config) with
    | .ok p =>
      match Config.load m p with
      | .ok c =>
        for farm in c.farms do
          match farm.path with
          | some fp => m ← observe m (m.absoluteParts fp.toText) depth
          | none => pure ()
      | .error _ => pure ()
    | .error _ => pure ()
  | .error _ => pure ()
  match Run.main m argv with
  | .ok r =>
    IO.print (Text.toLeanString r.output)
    IO.eprint (Text.toLeanString r.errors)
    writeBack m r.machine
    pure r.status.toUInt32
  | .error e =>
    IO.eprintln (e.className ++ ": " ++ Text.toLeanString e.message)
    pure 1

end CommandLine

end FarmSetup

/-- The entry point of `farm-config`. -/
def main (args : List String) : IO UInt32 := FarmSetup.CommandLine.run args
