import FarmSetup.Path
import FarmSetup.Json.Literal
/-!
Farms and the stored farm list. A farm is an optional directory and a size text; in the stored
form an absent directory is the empty text. Reading a stored value takes the display form of
each member, so a number or a list given as a path or a size becomes its text. Reading fails
with the cause that subscripting or a member lookup on the wrong kind of value reports.
-/

namespace FarmSetup

/-- A farm: where its plots go, and how large it may grow, as the user wrote it. -/
structure Farm where
  path : Option Path
  size : Text
deriving DecidableEq

/-- The stored farm list. -/
structure Config where
  farms : List Farm
deriving DecidableEq

/-- Why a stored value is no farm or no farm list. -/
inductive FormError where
  /-- A member the farm needs is missing. -/
  | missingKey (key : String)
  /-- A value of this kind cannot be looked into by key. -/
  | notSubscriptable (kind : String)
  /-- A list was looked into by a text key. -/
  | listIndex
  /-- A text was looked into by a text key. -/
  | textIndex
  /-- A value of this kind has no members to ask for. -/
  | noMembers (kind : String)
  /-- The farms member is no list. -/
  | farmsNotList (kind : String)
deriving DecidableEq, Repr

namespace FormError

/-- The class of error the program reports. -/
def className : FormError → String
  | missingKey _ => "KeyError"
  | noMembers _ => "AttributeError"
  | _ => "TypeError"

/-- The message the program reports. -/
def message : FormError → Text
  | missingKey k => Text.ofString ("'" ++ k ++ "'")
  | notSubscriptable k => Text.ofString ("'" ++ k ++ "' object is not subscriptable")
  | listIndex => Text.ofString "list indices must be integers or slices, not str"
  | textIndex => Text.ofString "string indices must be integers, not 'str'"
  | noMembers k => Text.ofString ("'" ++ k ++ "' object has no attribute 'get'")
  | farmsNotList k => Text.ofString ("farms must be a list, got " ++ k)

end FormError

namespace Farm

/-- The farm with no directory and an empty size, as a new entry starts. -/
def empty : Farm := ⟨none, []⟩

/-- Looks a key up in a stored value, as subscripting does. -/
def lookup (j : Json) (key : String) : Except FormError Json :=
  match j with
  | .obj ms => match Json.member? ms (Text.ofString key) with
    | some v => .ok v
    | none => .error (.missingKey key)
  | .arr _ => .error .listIndex
  | .str _ => .error .textIndex
  | other => .error (.notSubscriptable other.kindName)

/-- The directory of a stored path text: none for the empty text. -/
def pathOfText (t : Text) : Option Path := if t.isEmpty then none else some (Path.ofText t)

/-- Reads a stored farm: the path first, then the size. -/
def ofJson (j : Json) : Except FormError Farm := do
  let p ← lookup j "path"
  let s ← lookup j "size"
  return ⟨pathOfText p.display, s.display⟩

/-- The stored form of a farm. -/
def toJson (f : Farm) : Json :=
  .obj [(Text.ofString "path", .str ((f.path.map Path.toText).getD [])),
        (Text.ofString "size", .str f.size)]

end Farm

namespace Config

/-- Reads a stored farm list: a missing farms member means no farms. -/
def ofJson (j : Json) : Except FormError Config :=
  match j with
  | .obj ms =>
    match (Json.member? ms (Text.ofString "farms")).getD (.arr []) with
    | .arr items => (items.mapM Farm.ofJson).map Config.mk
    | other => .error (.farmsNotList other.kindName)
  | other => .error (.noMembers other.kindName)

/-- The stored form of a farm list. -/
def toJson (c : Config) : Json :=
  .obj [(Text.ofString "farms", .arr (c.farms.map Farm.toJson))]

end Config

end FarmSetup
