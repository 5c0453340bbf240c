import FarmSetup.Number.Binary64
import FarmSetup.Text.Point
/-!
JSON values as the configuration file and the log lines hold them. Integers are unbounded and
apart from binary64 numbers; an object keeps its members in the order they were first written,
one member per key, and a later write of a key replaces the value in place.
-/

namespace FarmSetup

/-- A JSON value. -/
inductive Json where
  | null
  | bool (b : Bool)
  | int (n : Int)
  | float (x : Binary64)
  | str (s : Text)
  | arr (items : List Json)
  | obj (members : List (Text × Json))
deriving Inhabited

namespace Json

/-- The members with `key` set to `v`: replaced in place when present, else appended. -/
def setMember (members : List (Text × Json)) (key : Text) (v : Json) : List (Text × Json) :=
  if members.any (·.1 == key) then members.map fun kv => if kv.1 == key then (key, v) else kv
  else members ++ [(key, v)]

/-- The value of a member of an object. -/
def member? (members : List (Text × Json)) (key : Text) : Option Json :=
  (members.find? (·.1 == key)).map Prod.snd

/-- The value stored under a key, if the value is an object that has it. -/
def get? (j : Json) (key : Text) : Option Json :=
  match j with
  | obj ms => member? ms key
  | _ => none

/-- The name of the kind of a value, as the error texts of the configuration reader use it. -/
def kindName : Json → String
  | null => "NoneType"
  | bool _ => "bool"
  | int _ => "int"
  | float _ => "float"
  | str _ => "str"
  | arr _ => "list"
  | obj _ => "dict"

end Json

end FarmSetup
