import FarmSetup.Farm
import FarmSetup.Files.Machine
import FarmSetup.Json.Read
import FarmSetup.Json.Write
import FarmSetup.Text.Utf8
/-!
Loading and saving the farm list file. Loading reads the bytes, decodes them as UTF-8 with
universal line ends, reads one JSON object and the farms in it. A file that cannot be opened,
or text that is no JSON, is a failure to read; JSON of the wrong shape is an invalid
configuration; bytes that are no UTF-8 and integers that are too long fail on their own terms.
Saving first makes the missing parent directories, then writes the JSON form with an indent of
two and ASCII escapes.
-/

namespace FarmSetup

/-- Why the farm list could not be loaded. -/
inductive LoadError where
  /-- The file could not be opened. -/
  | unreadable (e : OsError)
  /-- The text is no JSON document. -/
  | undecodable (message : Text)
  /-- The document is not an object. -/
  | notObject
  /-- The object does not describe farms. -/
  | invalid (e : FormError)
  /-- The bytes are no UTF-8. -/
  | badBytes (message : Text)
  /-- An integer in the document has too many digits. -/
  | tooLong (message : Text)
  /-- Arrays or objects in the document nest past the reader's limit. -/
  | tooDeep (message : Text)
deriving DecidableEq

/-- Why the farm list could not be saved. -/
inductive SaveError where
  /-- A parent directory could not be made. -/
  | parent (e : OsError)
  /-- The file could not be written. -/
  | unwritable (e : OsError)
deriving DecidableEq

namespace LoadError

/-- The class of error the program reports. -/
def className : LoadError → String
  | badBytes _ => "UnicodeDecodeError"
  | tooLong _ => "ValueError"
  | tooDeep _ => "RecursionError"
  | _ => "ConfigError"

/-- The message the program reports for a load of the file at `path`. -/
def message (path : Text) : LoadError → Text
  | unreadable e => Text.ofString "Failed to read " ++ path ++ Text.ofString ": " ++ e.message
  | undecodable m => Text.ofString "Failed to read " ++ path ++ Text.ofString ": " ++ m
  | notObject => Text.ofString "Invalid config in " ++ path ++ Text.ofString ": expected an object"
  | invalid e => Text.ofString "Invalid config in " ++ path ++ Text.ofString ": " ++ e.message
  | badBytes m => m
  | tooLong m => m
  | tooDeep m => m

/-- Whether the failure is one the program reports as a configuration error. -/
def isConfigError (e : LoadError) : Bool := e.className == "ConfigError"

end LoadError

namespace SaveError

/-- The class of error the program reports. -/
def className : SaveError → String
  | parent e => e.errno.className
  | unwritable _ => "ConfigError"

/-- The message the program reports for a save to `path`. -/
def message (path : Text) : SaveError → Text
  | parent e => e.message
  | unwritable e => Text.ofString "Failed to write " ++ path ++ Text.ofString ": " ++ e.message

end SaveError

namespace Config

/-- How many arrays and objects may nest in a farm list file read by a direct load: the
reader's recursion budget left at that call. -/
def nestingRoom : Nat := 990

/-- Reads a farm list from the text of its file, in which at most `room` containers nest. -/
def ofText (room : Nat) (text : Text) : Except LoadError Config :=
  match Json.parseWithin room text with
  | .error (.decode e) => .error (.undecodable (e.message text))
  | .error f@(.tooDeep _) => .error (.tooDeep (f.message text))
  | .error f => .error (.tooLong (f.message text))
  | .ok (.obj ms) => (ofJson (.obj ms)).mapError LoadError.invalid
  | .ok _ => .error .notObject

/-- Loads the farm list from the file at a path, reading it with nesting room `room`. -/
def loadWithin (room : Nat) (m : Machine) (p : Path) : Except LoadError Config :=
  match m.tree.bytesAt m.cwd p.toText with
  | .error e => .error (.unreadable ⟨e, p.toText⟩)
  | .ok bytes =>
    match Utf8.decode bytes with
    | .error e => .error (.badBytes (e.message bytes))
    | .ok text => ofText room (Text.unifyLineEnds text)

/-- Loads the farm list from the file at a path. -/
def load (m : Machine) (p : Path) : Except LoadError Config := loadWithin nestingRoom m p

/-- The text a saved farm list file holds. -/
def fileText (c : Config) : Text := Text.ofString (Json.indented 2 0 c.toJson)

end Config

namespace Machine

/-- Saves a farm list to the file at a path. -/
def save (m : Machine) (p : Path) (c : Config) : Except SaveError Machine :=
  match m.makeDirs p.parent with
  | .error e => .error (.parent e)
  | .ok m =>
    match m.tree.writeFile m.cwd p.toText (Utf8.encode c.fileText) with
    | .ok t => .ok { m with tree := t }
    | .error e => .error (.unwritable ⟨e, p.toText⟩)

end Machine

end FarmSetup
