import FarmSetup.Command.Arguments
import FarmSetup.Command.Panel
import FarmSetup.Config.Store
import FarmSetup.Schedule
/-!
One run of the program on a machine: read the command line, make the log directory and open
the log file, resolve the configuration path, load the farm list (a missing file is an empty
list for `add` and an error otherwise), then check, add or remove, saving the list after a
change. Messages are console markup printed eighty cells wide; the farm panel is printed for
`check`, and for `add` when the new farm is invalid, in which case nothing is saved. A failure
the program does not handle ends the run with its class and message instead of a status.
-/

namespace FarmSetup

/-- A failure that ends a run without an exit status: its class and message. -/
structure Escape where
  className : String
  message : Text

namespace Escape

/-- The escape of a failed system call. -/
def ofOs (e : OsError) : Escape := ⟨e.errno.className, e.message⟩

/-- The escape of a path that cannot be resolved. -/
def ofResolve : Machine.ResolveError → Escape
  | .loop p => ⟨"RuntimeError", Text.ofString "Symlink loop from " ++ Literal.quoteText p⟩
  | .fault f => ⟨f.className, f.message⟩

/-- The escape of asking an empty list for something only a path or a text has. -/
def noAttribute (name : String) : Escape :=
  ⟨"AttributeError", Text.ofString ("'list' object has no attribute '" ++ name ++ "'")⟩

/-- The escape of comparing a number with an empty list. -/
def unordered : Escape :=
  ⟨"TypeError", Text.ofString "'<=' not supported between instances of 'int' and 'list'"⟩

/-- The value an argument handed over, or the escape of using its empty list as asked. -/
def given {α : Type} (g : Arguments.Given α) (e : Escape) : Except Escape α :=
  match g with
  | .value a => .ok a
  | .empty => .error e

/-- The escape of a home directory that cannot be found. -/
def noHome : Escape := ⟨"RuntimeError", Text.ofString "Could not determine home directory."⟩

end Escape

/-- What a run leaves: the exit status, the output and error streams, and the machine. -/
structure Exit where
  status : Nat
  output : Text
  errors : Text
  machine : Machine

namespace Run

/-- The output so far with markup printed after it, one line per wrapped line. -/
def say (out : Text) (markup : Text) : Except Escape Text :=
  match Markup.render markup with
  | .ok t => .ok (out ++ ((Layout.textLines t Panel.width).flatMap fun l => l ++ [Lines.lineFeed]))
  | .error e => .error ⟨e.className, e.message⟩

/-- The output so far with the lines of a block after it. -/
def emit (out : Text) (lines : List Text) : Text :=
  out ++ lines.flatMap fun l => l ++ [Lines.lineFeed]

/-- The absolute form of a path, written as given and made absolute from the working
directory, with `..` taken lexically. -/
def absolute (m : Machine) (p : Path) : Path :=
  ⟨.root, Machine.normalize (if p.isAbsolute then p.parts else m.cwd ++ p.parts)⟩

/-- Makes the log file's directory and opens the log file for appending, creating it. -/
def openLog (m : Machine) (logFile : Text) : Except Escape Machine := do
  let p := Path.ofText logFile
  let m ← (m.makeDirs p.parent).mapError Escape.ofOs
  let file := (absolute m p).toText
  match m.tree.stat m.cwd file with
  | .ok .dir => throw (Escape.ofOs ⟨.isDir, file⟩)
  | .ok _ => pure m
  | .error .noEntry =>
    match m.tree.writeFile m.cwd file [] with
    | .ok t => pure { m with tree := t }
    | .error e => throw (Escape.ofOs ⟨e, file⟩)
  | .error e => throw (Escape.ofOs ⟨e, file⟩)

/-- A path from the command line, with the home directory put in and every link followed. -/
def locate (m : Machine) (t : Text) : Except Escape Path :=
  match m.expandUser (Path.ofText t) with
  | none => .error Escape.noHome
  | some p => (m.resolve p).mapError Escape.ofResolve

/-- The roster of a farm list, each farm validated and the updates routed. -/
def rosterOf (m : Machine) (c : Config) : Roster :=
  let r := (Roster.create m 0).ofFarms c.farms
  (Roster.finish r (r.startRoute none)).1

/-- The entries of a roster at their display indices. -/
def shown (r : Roster) : List (Nat × Entry) := r.entries.map fun e => (r.indexOf e.id, e)

/-- Saves the farms of a roster, reporting a failure to write as a message. -/
def saveFarms (m : Machine) (path : Path) (r : Roster) (out : Text) (done : Text) :
    Except Escape (Nat × Text × Machine) :=
  match m.save path ⟨r.farms⟩ with
  | .error (.parent e) => .error (Escape.ofOs e)
  | .error e => do
    let out ← say out (Text.ofString "[red]Error: " ++ e.message path.toText ++ Text.ofString "[/red]")
    pure (1, out, m)
  | .ok m => do
    let out ← say out done
    pure (0, out, m)

/-- Validates every farm and prints the panel and a verdict. -/
def check (m : Machine) (c : Config) : Except Escape (Nat × Text × Machine) := do
  let r := rosterOf m c
  let out := emit [] (Panel.lines (shown r))
  if r.isValid then
    let out ← say out (Text.ofString "[green]✓ All farms are valid[/green]")
    pure (0, out, m)
  else
    let invalid := (r.entries.filter fun e => !e.isValid).length
    let out ← if invalid ≠ 0 then
        say out (Text.ofString ("[red]" ++ toString invalid ++ " of " ++ toString r.order.length ++
          " farm(s) invalid[/red]"))
      else say out (Text.ofString "[dim]Add a farm with: farm-config add PATH SIZE[/dim]")
    pure (1, out, m)

/-- Validates a new farm and appends it when it is valid. -/
def add (m : Machine) (configPath : Path) (c : Config) (path size : Arguments.Given Text) :
    Except Escape (Nat × Text × Machine) := do
  let r := rosterOf m c
  let path ← Escape.given path (Escape.noAttribute "expanduser")
  let p ← locate m path
  let size ← Escape.given size (Escape.noAttribute "strip")
  let (r, outcome) := Roster.finish r (r.startAdd ⟨some p, size⟩)
  let added := match outcome with
    | some (.joined id) => (r.held? id).map fun e => (r.indexOf id, e)
    | _ => none
  match added with
  | none => pure (1, [], m)
  | some (index, e) =>
    if !e.isValid then
      let out := emit [] (Panel.lines [(index, e)])
      let out ← if !e.size.valid then
          say out (Text.ofString "[red]Size must be a byte quantity of at least 2 GB[/red]")
        else pure out
      let out ← say out (Text.ofString "[yellow]Farm not added - no changes made[/yellow]")
      pure (1, out, m)
    else
      saveFarms m configPath r []
        (Text.ofString ("[green]✓ Added farm " ++ toString (index + 1) ++ "[/green]"))

/-- Removes the farm with a number counted from one. -/
def remove (m : Machine) (configPath : Path) (c : Config) (index : Arguments.Given Int) :
    Except Escape (Nat × Text × Machine) := do
  let r := rosterOf m c
  let index ← Escape.given index Escape.unordered
  let count := r.order.length
  if ¬(1 ≤ index ∧ index ≤ count) then
    let out ← say [] (Text.ofString ("[red]Error: No farm number " ++ toString index ++ " (have " ++
      toString count ++ ")[/red]"))
    pure (1, out, m)
  else
    let r := match r.identityAt (index - 1) with
      | .ok id => match r.entry id with
        | .ok e => (Roster.finish (r.apply (e.request .delete)) ((r.apply (e.request .delete)).startRoute none)).1
        | .error _ => r
      | .error _ => r
    saveFarms m configPath r [] (Text.ofString ("[green]✓ Removed farm " ++ toString index ++ "[/green]"))

/-- Runs the program on a machine with its command line. -/
def main (m : Machine) (args : List Text) : Except Escape Exit := do
  match Arguments.read args with
  | .error stop => pure ⟨stop.status, stop.output, stop.errors, m⟩
  | .ok inv =>
    let m ← openLog m (← Escape.given inv.logFile (Escape.noAttribute "parent"))
    let configPath ← locate m (← Escape.given inv.config (Escape.noAttribute "expanduser"))
    let present ← (m.exists? configPath.toText).mapError Escape.ofOs
    let config? ← if present then
        -- the command line reads the file one call deeper than a direct load
        match Config.loadWithin (Config.nestingRoom - 1) m configPath with
        | .ok c => pure (Sum.inl c)
        | .error e =>
          if e.isConfigError then do
            let out ← say [] (Text.ofString "[red]Error loading config: " ++ e.message configPath.toText ++
              Text.ofString "[/red]")
            pure (Sum.inr out)
          else throw ⟨e.className, e.message configPath.toText⟩
      else match inv.command with
        | .add .. => pure (Sum.inl ⟨[]⟩)
        | _ => do
          let out ← say [] (Text.ofString "[red]Error: Config file not found: " ++ configPath.toText ++
            Text.ofString "[/red]")
          let out ← say out (Text.ofString "Create one with: farm-config add PATH SIZE")
          pure (Sum.inr out)
    match config? with
    | .inr out => pure ⟨1, out, [], m⟩
    | .inl c =>
      let (status, out, m) ← match inv.command with
        | .check => check m c
        | .add path size => add m configPath c path size
        | .remove index => remove m configPath c index
      pure ⟨status, out, [], m⟩

end Run

end FarmSetup
