import FarmSetup.Clock
import FarmSetup.Text.Percent
import FarmSetup.Json.Write
/-!
Log records written as one JSON line each. The line's members are, in order: the timestamp,
the level's name, the logger, the rendered message, then the farm when the record's context
names an identity (the identity leaves the context), and last the context, opened by the
function and line of the call and followed by the record's own context, whose members may
replace those two.

A record's context is built like a dictionary from a mapping or from a sequence of pairs; keys
are texts, numbers, truth values or nothing, and numbers equal in value are one key (so `1`,
`1.0` and `true` coincide, as do two infinities of one sign). A key keeps the place it first
had, and its last value.
-/

namespace FarmSetup

/-- A log record as the line writer sees it. -/
structure LogRecord where
  logger : Json
  level : Json
  msg : Json
  args : List Json
  lineNo : Json
  function : Json
  created : Json
  context : Option Json

/-- Why a record cannot be written. -/
inductive LogError where
  | clock (e : ClockError)
  | percent (e : Percent.Error)
  /-- The context is not iterable. -/
  | notIterable (kind : String)
  /-- An item of the context is no pair. -/
  | notSequence (index : Nat)
  /-- An item of the context has the wrong length. -/
  | badLength (index : Nat) (length : Nat)
  /-- A key of the context cannot be hashed. -/
  | unhashable (kind : String)
deriving DecidableEq

namespace LogError

/-- The class of error reported. -/
def className : LogError → String
  | clock e => e.className
  | percent e => e.className
  | badLength .. => "ValueError"
  | _ => "TypeError"

/-- The message reported. -/
def message : LogError → Text
  | clock e => e.message
  | percent e => e.message
  | notIterable k => Text.ofString ("'" ++ k ++ "' object is not iterable")
  | notSequence i => Text.ofString ("cannot convert dictionary update sequence element #" ++
      toString i ++ " to a sequence")
  | badLength i n => Text.ofString ("dictionary update sequence element #" ++ toString i ++
      " has length " ++ toString n ++ "; 2 is required")
  | unhashable k => Text.ofString ("unhashable type: '" ++ k ++ "'")

end LogError

namespace LogLine

/-- The exact value of a number as a signed fraction, for comparing keys. -/
def ratio? : Json → Option (Bool × Nat × Nat)
  | .int n => some (n < 0, n.natAbs, 1)
  | .bool b => some (false, if b then 1 else 0, 1)
  | .float (.finite neg m e) => let (p, q) := Binary64.ratio m e; some (neg && p != 0, p, q)
  | _ => none

/-- Whether two keys are the same key. -/
def sameKey (a b : Json) : Bool :=
  match a, b with
  | .str s, .str t => s == t
  | .null, .null => true
  | .float (.infinite p), .float (.infinite q) => p == q
  | _, _ =>
    match ratio? a, ratio? b with
    | some (na, pa, qa), some (nb, pb, qb) => na == nb && pa * qb == pb * qa
    | _, _ => false

/-- Sets a key in a dictionary: in place when present, at the end otherwise. -/
def setKey (d : List (Json × Json)) (k v : Json) : List (Json × Json) :=
  if d.any (fun (k', _) => sameKey k' k) then d.map fun (k', v') => if sameKey k' k then (k', v) else (k', v')
  else d ++ [(k, v)]

/-- Whether a key can be hashed. -/
def hashable : Json → Bool
  | .arr _ | .obj _ => false
  | _ => true

/-- The items one iteration over a value gives. -/
def items? : Json → Option (List Json)
  | .arr xs => some xs
  | .str t => some (t.map fun p => .str [p])
  | .obj ms => some (ms.map fun (k, _) => .str k)
  | _ => none

/-- The dictionary built from a record's context. -/
def dictOf : Json → Except LogError (List (Json × Json))
  | .obj ms => .ok (ms.map fun (k, v) => (.str k, v))
  | j =>
    match items? j with
    | none => .error (.notIterable j.kindName)
    | some xs =>
      xs.zipIdx.foldlM (fun d (x, i) =>
        match items? x with
        | none => .error (.notSequence i)
        | some [k, v] => if hashable k then .ok (setKey d k v) else .error (.unhashable k.kindName)
        | some ys => .error (.badLength i ys.length)) []

/-- The name of a level given by number. -/
def levelName? (n : Int) : Option String :=
  if n = 50 then some "CRITICAL" else if n = 40 then some "ERROR" else if n = 30 then some "WARNING"
  else if n = 20 then some "INFO" else if n = 10 then some "DEBUG" else if n = 0 then some "NOTSET"
  else none

/-- The number of a level given by name. -/
def levelNumber? (t : Text) : Option Int :=
  let names : List (String × Int) := [("CRITICAL", 50), ("FATAL", 50), ("ERROR", 40),
    ("WARN", 30), ("WARNING", 30), ("INFO", 20), ("DEBUG", 10), ("NOTSET", 0)]
  (names.find? fun (s, _) => Text.ofString s = t).map Prod.snd

/-- The whole number a numeric value equals, if it equals one: truth values count as `0` and
`1`, and a float counts when it has no fraction. -/
def wholeValue? (j : Json) : Option Int :=
  match ratio? j with
  | some (neg, p, q) =>
    if q ≠ 0 ∧ p % q = 0 then
      let n : Int := ((p / q : Nat) : Int)
      some (if neg then -n else n)
    else none
  | none => none

/-- The written name of a record's level: a known name by its name, a value equal to a known
number by that number's name, any other level as `Level` and its display form. The level is
looked up by value, so a list or an object, which cannot be looked up, is an error. -/
def levelText (level : Json) : Except LogError Text :=
  let unknown (j : Json) := Text.ofString "Level " ++ j.display
  match level with
  | .str t => match levelNumber? t with
    | some n => .ok (Text.ofString ((levelName? n).getD ""))
    | none => .ok (Text.ofString "Level " ++ unknown level)
  | .arr _ | .obj _ => .error (.unhashable level.kindName)
  | j => match (wholeValue? j).bind levelName? with
    | some s => .ok (Text.ofString s)
    | none => .ok (unknown j)

/-- The record's message: its display form, formatted with the arguments when there are any;
a single non-empty mapping argument is taken as the mapping. -/
def messageOf (r : LogRecord) : Except LogError Text :=
  let text := r.msg.display
  match r.args with
  | [] => .ok text
  | [.obj (m :: ms)] => (Percent.format text (.mapping (m :: ms))).mapError .percent
  | xs => (Percent.format text (.items xs)).mapError .percent

/-- The text of a key in the written line. -/
def keyText : Json → Text
  | .str t => t
  | .float x => Text.ofString (Binary64.write FloatStyle.json x)
  | .bool true => Text.ofString "true"
  | .bool false => Text.ofString "false"
  | .null => Text.ofString "null"
  | .int n => Text.ofInt n
  | _ => []

/-- The members of the written line. -/
def members (r : LogRecord) : Except LogError (List (Text × Json)) := do
  let level ← levelText r.level
  let ctx ← match r.context with
    | some c => dictOf c
    | none => .ok []
  let stamp ← (Clock.isoUtc r.created).mapError .clock
  let event ← messageOf r
  let identity := Json.str (Text.ofString "identity")
  let farm := (ctx.find? fun (k, _) => sameKey k identity).map Prod.snd
  let ctx := ctx.filter fun (k, _) => !sameKey k identity
  let merged := ctx.foldl (fun d (k, v) => setKey d k v)
    [(.str (Text.ofString "function"), r.function), (.str (Text.ofString "line"), r.lineNo)]
  let head := [(Text.ofString "timestamp", Json.str stamp), (Text.ofString "level", .str level),
    (Text.ofString "logger", r.logger), (Text.ofString "event", .str event)]
  let farmPart := match farm with
    | some v => [(Text.ofString "farm", v)]
    | none => []
  return head ++ farmPart ++ [(Text.ofString "context", .obj (merged.map fun (k, v) => (keyText k, v)))]

end LogLine

/-- The JSON line of a log record. -/
def LogRecord.line (r : LogRecord) : Except LogError Text :=
  (LogLine.members r).map fun ms => Text.ofString (Json.line (.obj ms))

end FarmSetup
