import FarmSetup.ByteSize
import FarmSetup.Json.Literal
import FarmSetup.Text.Blank
import FarmSetup.Text.Digit
/-!
The command line. The program takes the options `-h`/`--help`, `--config FILE`, `--debug` and
`--log-file FILE`, then a sub-command: `check`, `add PATH SIZE` or `remove INDEX`, each with its
own `-h`. Reading follows the usual rules of such command lines:

* an argument that starts with a dash is an option when it names one, a unique prefix of a long
  one, or an option with its value after `=`; `-h` may carry more short options after it;
* a dash followed by a number, or an argument with a space, is a plain argument;
* everything after the first `--` is a plain argument;
* the sub-command takes every argument after its name, options included;
* an option that needs a value and does not get one, a value of the wrong kind, a missing
  argument, an unknown sub-command or an argument nobody takes stops the program with the
  usage and a message on the error stream and exit status 2; `-h` prints the help and stops
  with status 0.
-/

namespace FarmSetup

namespace Arguments

/-- What an argument does. -/
inductive Kind where
  /-- Prints the help and stops. -/
  | help
  /-- An option that takes no value and sets its flag. -/
  | flag
  /-- An option that takes one value. -/
  | value
  /-- A plain argument taken as text. -/
  | word
  /-- A plain argument read as an integer. -/
  | number
  /-- The name of a sub-command, followed by all arguments for it. -/
  | commands
deriving DecidableEq

/-- An argument of a parser: the name it is reported by, its option strings (none for a plain
argument) and what it does. -/
structure Argument where
  name : String
  strings : List String
  kind : Kind

/-- A parser: its program name, usage, help and arguments in the order they were declared. -/
structure Parser where
  prog : String
  usage : String
  help : String
  arguments : List Argument

/-- A value read for an argument. -/
inductive Value where
  | text (t : Text)
  | int (n : Int)
  | flag
  /-- The empty list an argument holds when the only string it took was a `--`, which
  reading drops before converting. -/
  | nothing
deriving DecidableEq

/-- The values read, by argument name. -/
abbrev Values := List (String × Value)

/-- Why reading stopped before the end: the help was asked for, or an error, reported with the
parser that found it. -/
inductive Stop where
  | help (p : Parser)
  | error (p : Parser) (message : Text)

namespace Stop

/-- The exit status. -/
def status : Stop → Nat
  | help _ => 0
  | error .. => 2

/-- What goes to the output stream. -/
def output : Stop → Text
  | help p => Text.ofString p.help
  | error .. => []

/-- What goes to the error stream. -/
def errors : Stop → Text
  | help _ => []
  | error p m => Text.ofString (p.usage ++ p.prog ++ ": error: ") ++ m ++ Text.ofString "\n"

end Stop

/-- The integer a text spells the way a program reads a whole number: blanks around, a sign,
decimal digits of any script, single underscores between digits, at most 4300 digits. -/
def readInt (t : Text) : Option Int :=
  let t := Text.trim t
  let (negative, body) := match t with
    | p :: rest =>
      if p == Point.ofChar '-' then (true, rest)
      else if p == Point.ofChar '+' then (false, rest) else (false, t)
    | [] => (false, t)
  let groups := body.splitOn (Point.ofChar '_')
  if groups.any List.isEmpty then none else
  let digits := groups.flatten
  if !digits.all Point.isDigit ∨ digits.length > Quantity.digitLimit then none else
  let n : Nat := digits.foldl (fun n p => 10 * n + p.digitValue?.getD 0) 0
  some (if negative then -(n : Int) else n)

/-- Whether a text looks like a negative number: a dash, then digits, or digits with a point and
at least one digit after it; a final line feed is allowed. -/
def isNegativeNumber (t : Text) : Bool :=
  let body := if t.getLast? == some (Point.ofChar '\n') then t.dropLast else t
  match body with
  | p :: rest =>
    p == Point.ofChar '-' &&
      (match rest.splitOn (Point.ofChar '.') with
       | [whole] => !whole.isEmpty && whole.all Point.isDigit
       | [whole, frac] => whole.all Point.isDigit && !frac.isEmpty && frac.all Point.isDigit
       | _ => false)
  | [] => false

/-- How one argument string reads for a parser. -/
inductive Reading where
  /-- A plain argument. -/
  | plain
  /-- The first `--`. -/
  | dashes
  /-- An option, known or not, as written, with the value attached to it. -/
  | option (arg : Option Argument) (written : Text) (attached : Option Text)

/-- The letter of a reading in the pattern that plain arguments are matched against. -/
def Reading.letter : Reading → Char
  | plain => 'A'
  | dashes => '-'
  | option .. => 'O'

/-- The option strings of a parser with their arguments, in declaration order. -/
def Parser.optionStrings (p : Parser) : List (String × Argument) :=
  p.arguments.flatMap fun a => a.strings.map fun s => (s, a)

/-- The argument an option string names exactly. -/
def Parser.option? (p : Parser) (s : Text) : Option Argument :=
  (p.optionStrings.find? fun (o, _) => Text.ofString o == s).map Prod.snd

/-- The options an argument may abbreviate: for a long option, every option string the part
before `=` starts; for a short one, the option of its first two points, with the rest attached,
and every option string it starts. -/
def Parser.candidates (p : Parser) (s : Text) : List (Argument × Text × Option Text) :=
  let dash := Point.ofChar '-'
  match s with
  | _ :: second :: _ =>
    if second == dash then
      let eq := Point.ofChar '='
      let before := s.takeWhile (· != eq)
      let attached := if s.contains eq then some (s.drop (before.length + 1)) else none
      p.optionStrings.filterMap fun (o, a) =>
        if Text.startsWith (Text.ofString o) before then some (a, Text.ofString o, attached)
        else none
    else
      p.optionStrings.filterMap fun (o, a) =>
        if Text.ofString o == s.take 2 then some (a, Text.ofString o, some (s.drop 2))
        else if Text.startsWith (Text.ofString o) s then some (a, Text.ofString o, none)
        else none
  | _ => []

/-- How an argument string reads, or the error of an ambiguous abbreviation. -/
def Parser.read (p : Parser) (s : Text) : Except Stop Reading :=
  let dash := Point.ofChar '-'
  let eq := Point.ofChar '='
  if s.head? != some dash then .ok .plain
  else match p.option? s with
  | some a => .ok (.option (some a) s none)
  | none =>
    if s.length = 1 then .ok .plain else
    let before := s.takeWhile (· != eq)
    match (if s.contains eq then p.option? before else none) with
    | some a => .ok (.option (some a) before (some (s.drop (before.length + 1))))
    | none =>
      match p.candidates s with
      | [(a, o, attached)] => .ok (.option (some a) o attached)
      | _ :: _ :: _ =>
        let names := Text.join (Text.ofString ", ") ((p.candidates s).map fun (_, o, _) => o)
        .error (.error p (Text.ofString "ambiguous option: " ++ s ++ Text.ofString " could match " ++ names))
      | [] =>
        if isNegativeNumber s then .ok .plain
        else if s.contains Point.space then .ok .plain
        else .ok (.option none s none)

/-- The readings of the argument strings; everything after the first `--` is plain. -/
def Parser.readAll (p : Parser) : List Text → Except Stop (List Reading)
  | [] => .ok []
  | s :: rest =>
    if s == Text.ofString "--" then .ok (.dashes :: rest.map fun _ => .plain)
    else match p.read s with
      | .error e => .error e
      | .ok r => (p.readAll rest).map (r :: ·)

/-- The lengths of the groups when plain arguments, in order, take from the start of a pattern:
each takes dashes, one plain argument and the dashes after it; the sub-command takes the rest.
Longer groups are tried first. -/
def matchGroups : List Argument → List Char → Option (List Nat)
  | [], _ => some []
  | a :: more, s =>
    let lead := (s.takeWhile (· == '-')).length
    match s.drop lead with
    | 'A' :: rest =>
      let longest := if a.kind == .commands then rest.length else (rest.takeWhile (· == '-')).length
      (List.range (longest + 1)).reverse.findSome? fun t =>
        (matchGroups more (rest.drop t)).map fun ns => (lead + 1 + t) :: ns
    | _ => none

/-- The groups of the most plain arguments, taken in order, that match the start of a
pattern. -/
def matchPartial (args : List Argument) (pattern : List Char) : List Nat :=
  ((List.range args.length).reverse.findSome? fun k => matchGroups (args.take (k + 1)) pattern).getD []

/-- An error about an argument. -/
def argumentError (p : Parser) (a : Argument) (message : Text) : Stop :=
  .error p (Text.ofString ("argument " ++ a.name ++ ": ") ++ message)

/-- The state of reading: the values so far, the names of the arguments seen, the plain
arguments still to come, the strings nobody took, and those a sub-command left. -/
structure State where
  values : Values
  seen : List String
  waiting : List Argument
  extras : List Text
  leftover : List Text

/-- Records a value. -/
def State.set (st : State) (name : String) (v : Value) : State :=
  { st with values := (name, v) :: st.values.filter (·.1 != name), seen := name :: st.seen }

/-- What a parser does with a sub-command and its arguments. -/
abbrev Dispatch := Text → List Text → Except Stop (Values × List Text)

/-- The strings an argument took, without the first `--`. -/
def dropMarker (strings : List Text) : List Text :=
  match strings.findIdx? (· == Text.ofString "--") with
  | some k => strings.eraseIdx k
  | none => strings

/-- Takes the values of a plain argument. -/
def takePlain (p : Parser) (dispatch : Dispatch) (choices : List String) (st : State) (a : Argument)
    (strings : List Text) : Except Stop State :=
  match a.kind with
  | .commands =>
    match strings with
    | [] => .ok st
    | name :: rest =>
      if !choices.any (fun c => Text.ofString c == name) then
        let listed := Text.join (Text.ofString ", ") (choices.map fun c => Literal.quoteText (Text.ofString c))
        .error (argumentError p a (Text.ofString "invalid choice: " ++ Literal.quoteText name ++
          Text.ofString " (choose from " ++ listed ++ Text.ofString ")"))
      else
        match dispatch name rest with
        | .error e => .error e
        | .ok (vs, left) =>
          let st := st.set a.name (.text name)
          .ok { (vs.foldr (fun (k, v) st => st.set k v) st) with leftover := st.leftover ++ left }
  | _ =>
    match dropMarker strings with
    | [] => .ok (st.set a.name .nothing)
    | s :: _ =>
      if a.kind == .number then
        match readInt s with
        | some n => .ok (st.set a.name (.int n))
        | none => .error (argumentError p a (Text.ofString "invalid int value: " ++ Literal.quoteText s))
      else .ok (st.set a.name (.text s))

/-- Takes as many plain arguments as match from `start`; returns where it stopped. -/
def consumePlain (p : Parser) (dispatch : Dispatch) (choices : List String) (args : List Text)
    (pattern : List Char) (st : State) (start : Nat) : Except Stop (State × Nat) :=
  let counts := matchPartial st.waiting (pattern.drop start)
  let st0 := { st with waiting := st.waiting.drop counts.length }
  (st.waiting.zip counts).foldlM (fun (acc : State × Nat) (a, n) =>
    let (st, i) := acc
    (takePlain p dispatch choices st a ((args.drop i).take n)).map fun st => (st, i + n))
    (st0, start)

/-- Applies an option that was taken, with its value if it takes one. -/
def applyOption (p : Parser) (st : State) (av : Argument × Option Text) : Except Stop State :=
  match av.1.kind, av.2 with
  | .help, _ => .error (.help p)
  | .flag, _ => .ok (st.set av.1.name .flag)
  | _, some value =>
    match dropMarker [value] with
    | [] => .ok (st.set av.1.name .nothing)
    | _ => .ok (st.set av.1.name (.text value))
  | _, none => .ok st

/-- Takes the option at `start` with its value; returns where it stopped. Short options run
together after `-h` are taken one by one; a point after them that names no short option is an
error about the option before it, which reports the rest of the run. -/
def consumeOption (p : Parser) (args : List Text) (readings : List Reading) (pattern : List Char)
    (st : State) (start : Nat) : Except Stop (State × Nat) :=
  match readings.getD start .plain with
  | .option none written _ => .ok ({ st with extras := st.extras ++ [written] }, start + 1)
  | .option (some a) written attached =>
    let takes (a : Argument) : Bool := a.kind == .value
    let rec loop (fuel : Nat) (a : Argument) (written : Text) (attached : Option Text)
        (done : List (Argument × Option Text)) (st : State) :
        Except Stop (List (Argument × Option Text) × State × Nat) :=
      match fuel with
      | 0 => .ok (done, st, start + 1)
      | fuel + 1 =>
        match attached with
        | some value =>
          let second := written.getD 1 Point.space
          if !takes a ∧ second != Point.ofChar '-' ∧ !value.isEmpty then
            let done := done ++ [(a, none)]
            let next := Point.ofChar '-' :: value.take 1
            match p.option? next with
            | some b =>
              let rest := value.drop 1
              loop fuel b next (if rest.isEmpty then none else some rest) done st
            | none =>
              .error (argumentError p a (Text.ofString "ignored explicit argument " ++ Literal.quoteText value))
          else if takes a then .ok (done ++ [(a, some value)], st, start + 1)
          else .error (argumentError p a (Text.ofString "ignored explicit argument " ++ Literal.quoteText value))
        | none =>
          if takes a then
            if pattern.getD (start + 1) ' ' == 'A' then
              .ok (done ++ [(a, args[start + 1]?)], st, start + 2)
            else .error (argumentError p a (Text.ofString "expected one argument"))
          else .ok (done ++ [(a, none)], st, start + 1)
    match loop (written.length + (attached.map List.length).getD 0 + 2) a written attached [] st with
    | .error e => .error e
    | .ok (done, st, stop) =>
      (done.foldlM (applyOption p) st).map fun st => (st, stop)
  | _ => .ok (st, start + 1)

/-- Reads the arguments for a parser: options and plain arguments in turn, then the plain
arguments after the last option, then checks that every required argument came. Returns the
values and the strings nobody took. -/
def Parser.parse (p : Parser) (dispatch : Dispatch) (choices : List String) (args : List Text) :
    Except Stop (Values × List Text) := do
  let readings ← p.readAll args
  let pattern := readings.map Reading.letter
  let optionAt := (List.range readings.length).filter fun i =>
    match readings.getD i .plain with | .option .. => true | _ => false
  let st0 : State := ⟨[], [], p.arguments.filter (·.strings.isEmpty), [], []⟩
  let rec loop (fuel : Nat) (st : State) (start : Nat) : Except Stop (State × Nat) :=
    match fuel with
    | 0 => .ok (st, start)
    | fuel + 1 =>
      match optionAt.find? (· ≥ start) with
      | none => .ok (st, start)
      | some next => do
        let (st, start, moved) ← if start ≠ next then do
            let (st', stop) ← consumePlain p dispatch choices args pattern st start
            pure (st', stop, decide (stop > start))
          else pure (st, start, false)
        if moved then loop fuel st start
        else
          let st := if start < next then
              { st with extras := st.extras ++ (args.drop start).take (next - start) } else st
          let (st, stop) ← consumeOption p args readings pattern st next
          loop fuel st stop
  let (st, start) ← loop (args.length + 1) st0 0
  let (st, stop) ← consumePlain p dispatch choices args pattern st start
  let st := { st with extras := st.extras ++ args.drop stop }
  let missing := p.arguments.filter fun a =>
    a.strings.isEmpty && a.kind != .commands && !st.seen.contains a.name
  if !missing.isEmpty then
    throw (.error p (Text.ofString ("the following arguments are required: " ++
      String.intercalate ", " (missing.map (·.name)))))
  pure (st.values.reverse, st.extras ++ st.leftover)

/-- The help option every parser has. -/
def helpArgument : Argument := ⟨"-h/--help", ["-h", "--help"], .help⟩

/-- The parser of `check`. -/
def checkParser : Parser :=
  ⟨"farm-config check", "usage: farm-config check [-h]\n",
   "usage: farm-config check [-h]\n\noptions:\n  -h, --help  show this help message and exit\n",
   [helpArgument]⟩

/-- The parser of `add`. -/
def addParser : Parser :=
  ⟨"farm-config add", "usage: farm-config add [-h] path size\n",
   "usage: farm-config add [-h] path size\n\npositional arguments:\n  path        Farm directory\n" ++
   "  size        Farm size, e.g. '2 TB'\n\noptions:\n  -h, --help  show this help message and exit\n",
   [helpArgument, ⟨"path", [], .word⟩, ⟨"size", [], .word⟩]⟩

/-- The parser of `remove`. -/
def removeParser : Parser :=
  ⟨"farm-config remove", "usage: farm-config remove [-h] index\n",
   "usage: farm-config remove [-h] index\n\npositional arguments:\n  index       1-based farm number\n" ++
   "\noptions:\n  -h, --help  show this help message and exit\n",
   [helpArgument, ⟨"index", [], .number⟩]⟩

/-- The sub-commands with their parsers. -/
def commands : List (String × Parser) := [("check", checkParser), ("add", addParser), ("remove", removeParser)]

/-- The usage of the program. -/
def mainUsage : String :=
  "usage: farm-config [-h] [--config CONFIG] [--debug] [--log-file LOG_FILE]\n" ++
  "                   \x7bcheck,add,remove\x7d ...\n"

/-- The parser of the program. -/
def mainParser : Parser :=
  ⟨"farm-config", mainUsage,
   mainUsage ++ "\nValidate and edit the farm list of a farmer configuration\n\n" ++
   "positional arguments:\n  \x7bcheck,add,remove\x7d\n" ++
   "    check              Validate all farms (default)\n" ++
   "    add                Validate and append a farm\n" ++
   "    remove             Remove a farm\n\noptions:\n" ++
   "  -h, --help           show this help message and exit\n" ++
   "  --config CONFIG      Path to farms.json (default: ./farms.json)\n" ++
   "  --debug              Enable debug logging\n" ++
   "  --log-file LOG_FILE  Where to write the JSON log\n",
   [helpArgument, ⟨"--config", ["--config"], .value⟩, ⟨"--debug", ["--debug"], .flag⟩,
    ⟨"--log-file", ["--log-file"], .value⟩, ⟨"command", [], .commands⟩]⟩

/-- Runs the parser of a sub-command on its arguments. -/
def dispatchCommand : Dispatch := fun name rest =>
  match commands.find? (fun (c, _) => Text.ofString c == name) with
  | some (_, sub) => sub.parse (fun _ _ => .ok ([], [])) [] rest
  | none => .ok ([], rest)

/-- What an argument hands to the program: a value, or the empty list of an argument whose
only string was a `--`. -/
inductive Given (α : Type) where
  | value (a : α)
  | empty
deriving DecidableEq

/-- What the command line asks for. -/
inductive Command where
  | check
  | add (path : Given Text) (size : Given Text)
  | remove (index : Given Int)

/-- A read command line: the configuration file, the debug flag, the log file and the
command. -/
structure Invocation where
  config : Given Text
  debug : Bool
  logFile : Given Text
  command : Command

/-- The text value of an argument, or a default. -/
def textOf (vs : Values) (name : String) (default : Text) : Given Text :=
  match vs.lookup name with
  | some (.text t) => .value t
  | some .nothing => .empty
  | _ => .value default

/-- Reads the command line. -/
def read (args : List Text) : Except Stop Invocation := do
  let (vs, extras) ← mainParser.parse dispatchCommand (commands.map Prod.fst) args
  if !extras.isEmpty then
    throw (.error mainParser (Text.ofString "unrecognized arguments: " ++ Text.join [Point.space] extras))
  let command := match vs.lookup "command" with
    | some (.text name) =>
      if name == Text.ofString "add" then Command.add (textOf vs "path" []) (textOf vs "size" [])
      else if name == Text.ofString "remove" then
        match vs.lookup "index" with
        | some (.int n) => .remove (.value n)
        | some .nothing => .remove .empty
        | _ => .remove (.value 0)
      else .check
    | _ => .check
  pure ⟨textOf vs "--config" (Text.ofString "farms.json"), vs.lookup "--debug" == some .flag,
    textOf vs "--log-file" (Text.ofString "/root/.cache/farm-config/farm-config.log"), command⟩

end Arguments

end FarmSetup
