import FarmSetup.Console.TagLiteral.Grammar
import FarmSetup.Console.TagLiteral.Formatted
import FarmSetup.Json.Literal
/-!
Reading a text as a literal: scanning, the plain parse, the stricter parse when the plain one
fails, the choice of the error to report, and the evaluation of the expression as a literal.

The error reported when parsing fails is chosen in this order. An error of the scanner reached
while parsing stands. An error a rule raises stands when scanning the furthest token read past
the end of the text; otherwise the rest of the text is scanned, and an error the scanner
raises there replaces it, as does, for a stop that raises none, the report that the innermost
bracket still open was never closed when the failing line lies below that bracket's line. With
no error raised at all, an unexpected indentation at the furthest token of the plain parse is
reported as such, and otherwise `invalid syntax`, which the rest of the text replaces in the
same way whether or not its end was reached.

The expression of each field of a formatted string is read the same way on its own, in
parentheses, from `starExpressions`; its parser's messages, but not its scanner's, are marked
as those of a formatted string. The first error inside a formatted string is raised where the
string is joined with its neighbours.

A literal is a constant, a tuple, set or dictionary of literals, an empty `set()`, a number
with a sign, or a real number plus or minus an imaginary one. Set members and dictionary keys
are hashed as they are added, so the first one that is a set or a dictionary, or a tuple
holding one, stops the evaluation.
-/

namespace FarmSetup

namespace TagLiteral

/-- What a literal is, as far as hashing needs: a scalar, a number of a kind, a tuple, a set or
a dictionary. -/
inductive Value where
  | scalar
  | number (kind : NumberKind)
  | tuple (items : List Value)
  | set
  | dict

mutual

/-- The kind of the first part of a value that cannot be hashed, if there is one. -/
def Value.unhashable? : Value → Option String
  | .set => some "set"
  | .dict => some "dict"
  | .tuple xs => firstUnhashable xs
  | _ => none

/-- The kind of the first unhashable part among values. -/
def firstUnhashable : List Value → Option String
  | [] => none
  | v :: vs => match v.unhashable? with
    | some k => some k
    | none => firstUnhashable vs

end

/-- The error of an expression that is no literal. -/
def malformed (n : Node) : Text :=
  Text.ofString ("malformed node or string on line 1: <ast." ++ n.kind ++ " object>")

/-- A plain number. -/
def plainNumber (n : Node) : Except Text NumberKind :=
  match n with
  | .constant (.number k) => .ok k
  | _ => .error (malformed n)

/-- A number with an optional sign. -/
def signedNumber (n : Node) : Except Text NumberKind :=
  match n with
  | .unary op x => if op == "+" || op == "-" then plainNumber x else .error (malformed n)
  | _ => plainNumber n

/-- The error of a set member or dictionary key that cannot be hashed. -/
def unhashable (k : String) : Text := Text.ofString ("unhashable type: '" ++ k ++ "'")

mutual

/-- Evaluates an expression as a literal. -/
def evaluate : Node → Except Text Value
  | .constant (.number k) => .ok (.number k)
  | .constant _ => .ok .scalar
  | .tuple xs => (evaluateAll xs).map .tuple
  | .set xs => do evaluateMembers xs; pure .set
  | .dict es => do evaluateEntries es; pure .dict
  | .call (.name n) true =>
    if n == Text.ofString "set" then .ok .set else .error (malformed (.call (.name n) true))
  | .binary op l r =>
    if op == "+" || op == "-" then do
      let left ← signedNumber l
      let right ← plainNumber r
      if left != .imaginary && right == .imaginary then pure (.number .imaginary)
      else throw (malformed (.binary op l r))
    else (signedNumber (.binary op l r)).map .number
  | n => (signedNumber n).map .number

/-- Evaluates the items of a tuple in order. -/
def evaluateAll : List Node → Except Text (List Value)
  | [] => .ok []
  | x :: xs => do
    let v ← evaluate x
    let vs ← evaluateAll xs
    pure (v :: vs)

/-- Evaluates the members of a set in order, each hashed as it is added. -/
def evaluateMembers : List Node → Except Text Unit
  | [] => .ok ()
  | x :: xs => do
    let v ← evaluate x
    match v.unhashable? with
    | some k => throw (unhashable k)
    | none => evaluateMembers xs

/-- Evaluates the entries of a dictionary in order: each key, its value, then the key's hash. -/
def evaluateEntries : List (Option Node × Node) → Except Text Unit
  | [] => .ok ()
  | (k, v) :: es => do
    let kv ← match k with
      | some k => evaluate k
      | none => throw (Text.ofString "malformed node or string: None")
    let _ ← evaluate v
    match kv.unhashable? with
    | some kind => throw (unhashable kind)
    | none => evaluateEntries es

end

/-- Why a text is no literal: an error of parsing with its message, or another error with its
text. -/
inductive Failure where
  | unparsed (msg : Text)
  | other (msg : Text)

/-- The error of surrogates, which the text's encoding cannot carry: the first run of them. -/
def surrogateFault (t : Text) : Option Text :=
  match t.zipIdx.find? (fun (p, _) => p.isSurrogate) with
  | some (p, i) =>
    let stop := i + ((t.drop i).takeWhile Point.isSurrogate).length
    if stop = i + 1 then
      some (Text.ofString ("'utf-8' codec can't encode character '\\u" ++ Literal.hexPadded 4 p.code ++
        "' in position " ++ toString i ++ ": surrogates not allowed"))
    else
      some (Text.ofString ("'utf-8' codec can't encode characters in position " ++ toString i ++ "-" ++
        toString (stop - 1) ++ ": surrogates not allowed"))
  | none => none

/-- The line of the token at an index, or of the last token when the index is past them. -/
def lineAt (src : Source) (i : Nat) : Nat :=
  match src.lexemes[i]? with
  | some l => l.line
  | none => (src.lexemes.back?.map Lexeme.line).getD 1

/-- The error that stands after a parsing error `msg` whose furthest token is on line
`errorLine`, once the rest of the text is scanned: a later error the scanner raises replaces
it, and a stop that raises none replaces it by a bracket left open above the failing line.
Messages of the parser are put in words by `said`; the scanner's stand as they are. -/
def afterScanning (said : Text → Text) (src : Source) (errorLine : Nat) (msg : Text) : Text :=
  match src.fault with
  | some f =>
    if f.raised then f.msg
    else
      match f.bracket with
      | some (b, line) => if errorLine > line then said (neverClosed b) else said msg
      | none => said msg
  | none => said msg

/-- The error that stands after a rule raised `msg` with the token at `far` the furthest looked
at: the rest of the text is only scanned, as `afterScanning` says, when scanning that token did
not already read past the end of the text. -/
def afterRaise (said : Text → Text) (src : Source) (far : Nat) (msg : Text) : Text :=
  if (src.lexemes[far]?).all Lexeme.atEnd then said msg
  else afterScanning said src (lineAt src far) msg

/-- The message of a failed parse from `start`, once the stricter pass has run. -/
def parseError (start : Start) (said : Text → Text) (src : Source) (first : Cursor) : Text :=
  match parse start src true with
  | .error (.raised msg true) _ => msg
  | .error (.raised msg false) second => afterRaise said src (max first.far second.far) msg
  | .error .stuck second =>
    match (src.lexemes[first.far]?).map Lexeme.token with
    | some .indent => said (Text.ofString "unexpected indent")
    | some .dedent => said (Text.ofString "unexpected unindent")
    | _ => afterScanning said src (lineAt src (max first.far second.far)) (Text.ofString "invalid syntax")
  | .ok _ second =>
    afterScanning said src (lineAt src (max first.far second.far)) (Text.ofString "invalid syntax")

/-- Parses a source from `start`: the expression, or the message of the syntax error. -/
def parseSource (start : Start) (said : Text → Text) (src : Source) : Except Text Node :=
  match parse start src false with
  | .ok node _ => .ok node
  | .error (.raised msg true) _ => .error msg
  | .error (.raised msg false) first => .error (afterRaise said src first.far msg)
  | .error .stuck first => .error (parseError start said src first)

/-- A source with the first error inside each of its formatted strings, `compile` giving the
error of a field's expression. -/
def annotate (compile : Text → Option Text) (src : Source) : Source :=
  { src with formattedFaults := src.lexemes.toList.zipIdx.filterMap fun (l, i) =>
      match l.token with
      | .string false true raw body => (Formatted.fault compile raw body).map (i, ·)
      | _ => none }

/-- The error of the expression of a field of a formatted string: it is read in parentheses on
a line of its own, and the parser's messages are marked as those of a formatted string.
Formatted strings inside it are checked in turn, `fuel` bounding how deep they nest. -/
def fieldError : Nat → Text → Option Text
  | 0, _ => none
  | fuel + 1, e =>
    let src := annotate (fieldError fuel) (tokenize ((Point.ofChar '(' :: e) ++ Text.ofString ")\n"))
    match parseSource .field (fun m => Text.ofString "f-string: " ++ m) src with
    | .ok _ => none
    | .error m => some m

/-- Reads a text as a literal, after the spaces and tabs that lead it. A text the encoding
cannot carry fails first, then one holding a null point, and then one that does not parse. -/
def read (text : Text) : Except Failure Unit :=
  let t := text.dropWhile fun p => is p ' ' || is p '\t'
  match surrogateFault t with
  | some e => .error (.other e)
  | none =>
  if t.any (·.code == 0) then
    .error (.unparsed (Text.ofString "source code string cannot contain null bytes"))
  else
    match parseSource .whole id (annotate (fieldError (t.length + 1)) (tokenize t)) with
    | .ok node => ((evaluate node).map fun _ => ()).mapError .other
    | .error m => .error (.unparsed m)

end TagLiteral

end FarmSetup
