import FarmSetup.Console.TagLiteral.Scan
import FarmSetup.Console.TagLiteral.Escapes
import Std.Data.HashMap
/-!
The expression grammar of literal expressions, parsed from tokens by ordered choice with
memoized rules.

A text is parsed twice at most. The plain pass accepts the expressions of the grammar. When it
fails, a stricter pass runs the same rules with error rules enabled, which raise precise
messages where a plain parse only fails: two expressions side by side inside brackets, a
conditional without `else`, an old statement name followed by an expression, `=` where `==` or
`:=` was meant, starred or double starred expressions where they cannot stand, comprehensions
and calls of the wrong shape. The error rules of dictionary displays belong to an alternative
of their own and run in both passes. Results of memoized rules are shared between the modes of
one pass, as a rule computed once is not computed again.
-/

namespace FarmSetup

namespace TagLiteral

/-- The words reserved by the grammar. -/
def keywords : List String :=
  ["False", "None", "True", "and", "as", "assert", "async", "await", "break", "class", "continue",
   "def", "del", "elif", "else", "except", "finally", "for", "from", "global", "if", "import", "in",
   "is", "lambda", "nonlocal", "not", "or", "pass", "raise", "return", "try", "while", "with", "yield"]

/-- Whether a token is the given keyword. -/
def Token.isKeyword (t : Token) (w : String) : Bool := t == .name (Text.ofString w)

/-- Whether a token is the given operator. -/
def Token.isOp (t : Token) (w : String) : Bool := t == .op w

/-- Whether a token is a name that is no keyword. -/
def Token.isPlainName : Token → Bool
  | .name n => !keywords.any (fun k => Text.ofString k == n)
  | _ => false

/-- Whether a token is a string. -/
def Token.isString : Token → Bool
  | .string .. => true
  | _ => false

/-- Whether a token counts as a word that is a keyword only in some places: a name that begins
`_`, `case` or `match`, compared over the name's own length. -/
def Token.isSoftKeyword : Token → Bool
  | .name n =>
    !n.isEmpty && (n.isPrefixOf (Text.ofString "_") || n.isPrefixOf (Text.ofString "case") ||
      n.isPrefixOf (Text.ofString "match"))
  | _ => false

/-- The kind of a constant. -/
inductive Constant where
  | number (kind : NumberKind)
  | text
  | bytes
  | boolean (b : Bool)
  | nothing
  | ellipsis
deriving DecidableEq

/-- An expression, as far as reading literals needs: constants, names, displays, calls, unary
and binary operations, starred expressions, comparisons, and every other kind of expression
by the name of its kind. -/
inductive Node where
  | constant (c : Constant)
  | name (id : Text)
  | tuple (items : List Node)
  | set (items : List Node)
  /-- A dictionary display; an unpacked mapping has no key. -/
  | dict (entries : List (Option Node × Node))
  /-- A call, and whether it has no arguments. -/
  | call (callee : Node) (bare : Bool)
  | unary (op : String) (operand : Node)
  | binary (op : String) (left right : Node)
  | starred (value : Node)
  /-- A comparison, whether its first operator is `in`, and its left operand. -/
  | compare (membership : Bool) (left : Node)
  | other (kind : String)

/-- The name of the class of an expression. -/
def Node.kind : Node → String
  | .constant _ => "Constant"
  | .name _ => "Name"
  | .tuple _ => "Tuple"
  | .set _ => "Set"
  | .dict _ => "Dict"
  | .call .. => "Call"
  | .unary .. => "UnaryOp"
  | .binary .. => "BinOp"
  | .starred _ => "Starred"
  | .compare .. => "Compare"
  | .other k => k

/-- How error messages name an expression. -/
def Node.description : Node → String
  | .constant (.boolean true) => "True"
  | .constant (.boolean false) => "False"
  | .constant .nothing => "None"
  | .constant .ellipsis => "ellipsis"
  | .constant _ => "literal"
  | .name _ => "name"
  | .tuple _ => "tuple"
  | .set _ => "set display"
  | .dict _ => "dict literal"
  | .call .. => "function call"
  | .unary .. => "expression"
  | .binary .. => "expression"
  | .starred _ => "starred"
  | .compare .. => "comparison"
  | .other k =>
    if k == "Attribute" then "attribute"
    else if k == "Lambda" then "lambda"
    else if k == "BoolOp" || k == "UnaryOp" then "expression"
    else if k == "GeneratorExp" then "generator expression"
    else if k == "Yield" then "yield expression"
    else if k == "Await" then "await expression"
    else if k == "SetComp" then "set comprehension"
    else if k == "DictComp" then "dict comprehension"
    else if k == "JoinedStr" then "f-string expression"
    else if k == "IfExp" then "conditional expression"
    else if k == "NamedExpr" then "named expression"
    else "expression"

/-- The expression a target of a `for` clause cannot be, if it has one: names and attributes
are targets, tuples and starred targets are looked into, and the left side of a membership
test stands for the target it was parsed from. -/
def Node.invalidTarget : Node → Option Node
  | .name _ => none
  | .other k => if k == "Attribute" then none else some (.other k)
  | .tuple items => firstInvalid items
  | .starred v => v.invalidTarget
  | .compare membership left => if membership then left.invalidTarget else none
  | n => some n
where
  /-- The first invalid target among the items of a tuple. -/
  firstInvalid : List Node → Option Node
    | [] => none
    | x :: xs => match x.invalidTarget with
      | some t => some t
      | none => firstInvalid xs

/-- The shape of the arguments of a call: how many are passed by position, starred ones
included, and whether a mapping is unpacked among the keywords. -/
structure Arguments where
  positional : Nat
  unpacked : Bool

/-- A memoized result: an expression or arguments with the position after them, or a failure. -/
inductive Memo where
  | node (n : Node) (stop : Nat)
  | arguments (a : Arguments) (stop : Nat)
  | failed

/-- The state of parsing: the position, the furthest token looked at, and the results of
memoized rules by rule and position. -/
structure Cursor where
  pos : Nat
  far : Nat
  memo : Std.HashMap (Nat × Nat) Memo

/-- Why parsing stopped: no rule matched, or an error was raised. A final error is one the
scanner raised where parsing reached it, and stands as it is. -/
inductive Halt where
  | stuck
  | raised (msg : Text) (final : Bool)

/-- Parsing over tokens. -/
abbrev Parse := EStateM Halt Cursor

/-- The token `k` places ahead; looking at the place where scanning stopped raises its error. -/
def peekAt (src : Source) (k : Nat) : Parse Token := fun s =>
  let i := s.pos + k
  let s := { s with far := max s.far i }
  match src.lexemes[i]? with
  | some l => .ok l.token s
  | none =>
    match src.fault with
    | some f => .error (.raised f.msg true) s
    | none => .ok .finish s

/-- The token at the position. -/
def peek (src : Source) : Parse Token := peekAt src 0

/-- Moves past a token. -/
def advance : Parse Unit := modify fun s => { s with pos := s.pos + 1 }

/-- Moves back to a position, keeping what was learned. -/
def restore (pos : Nat) : Parse Unit := modify fun s => { s with pos := pos }

/-- Moves past the given operator, or fails. -/
def expectOp (src : Source) (w : String) : Parse Unit := do
  if (← peek src).isOp w then advance else throw .stuck

/-- Moves past the given keyword, or fails. -/
def expectKeyword (src : Source) (w : String) : Parse Unit := do
  if (← peek src).isKeyword w then advance else throw .stuck

/-- Runs a parser; when no rule matches, goes back to where it started. -/
def attempt {α : Type} (p : Parse α) : Parse (Option α) := fun s =>
  match p s with
  | .ok a s' => .ok (some a) s'
  | .error .stuck s' => .ok none { s' with pos := s.pos }
  | .error e s' => .error e s'

/-- The bracket depth after the token before the position. -/
def depthBefore (src : Source) : Parse Nat := fun s =>
  .ok (((src.lexemes[s.pos - 1]?).map Lexeme.depth).getD 0) s

/-- Raises an error of a rule. -/
def raise {α : Type} (msg : String) : Parse α := throw (.raised (Text.ofString msg) false)

/-- Runs a rule whose results are memoized by rule and position. -/
def memoNode (rule : Nat) (p : Parse Node) : Parse Node := fun s =>
  match s.memo.get? (rule, s.pos) with
  | some (.node n stop) => .ok n { s with pos := stop }
  | some .failed => .error .stuck s
  | _ =>
    let start := s.pos
    match p s with
    | .ok n s' => .ok n { s' with memo := s'.memo.insert (rule, start) (.node n s'.pos) }
    | .error .stuck s' => .error .stuck { s' with memo := s'.memo.insert (rule, start) .failed }
    | .error e s' => .error e s'

/-- Runs a rule for call arguments whose results are memoized by position. -/
def memoArguments (rule : Nat) (p : Parse Arguments) : Parse Arguments := fun s =>
  match s.memo.get? (rule, s.pos) with
  | some (.arguments a stop) => .ok a { s with pos := stop }
  | some .failed => .error .stuck s
  | _ =>
    let start := s.pos
    match p s with
    | .ok a s' => .ok a { s' with memo := s'.memo.insert (rule, start) (.arguments a s'.pos) }
    | .error .stuck s' => .error .stuck { s' with memo := s'.memo.insert (rule, start) .failed }
    | .error e s' => .error e s'

/-- Runs an error rule that either raises or fails, at most once at a position. -/
def memoCheck (rule : Nat) (p : Parse Unit) : Parse Unit := fun s =>
  match s.memo.get? (rule, s.pos) with
  | some _ => .ok () s
  | none =>
    let start := s.pos
    match p s with
    | .ok _ s' => .ok () { s' with pos := start, memo := s'.memo.insert (rule, start) .failed }
    | .error .stuck s' => .ok () { s' with pos := start, memo := s'.memo.insert (rule, start) .failed }
    | .error e s' => .error e s'

/-- Whether the token is a name and the next one the given operator; the next token is looked
at only after a name. -/
def nameThen (src : Source) (t : Token) (w : String) : Parse Bool :=
  if t.isPlainName then do
    let u ← peekAt src 1
    pure (u.isOp w)
  else pure false

/-- Runs a parser as often as it succeeds, at most `bound` times: how often it did. -/
def repeatedly {α : Type} (p : Parse α) : Nat → Parse Nat
  | 0 => pure 0
  | bound + 1 => do
    match ← attempt p with
    | some _ => (· + 1) <$> repeatedly p bound
    | none => pure 0

/-- The name of a lambda parameter. -/
def lambdaName (src : Source) : Parse Unit := do
  if (← peek src).isPlainName then advance else throw .stuck

/-- What ends a lambda parameter: a comma, or the colon ahead, which stays. -/
def lambdaParamEnd (src : Source) : Parse Unit := do
  let t ← peek src
  if t.isOp "," then advance else if t.isOp ":" then pure () else throw .stuck

/-- A lambda parameter without a default, then a comma or the colon ahead. -/
def lambdaParamNoDefault (src : Source) : Parse Unit := do
  lambdaName src
  lambdaParamEnd src

/-- Positional-only lambda parameters without defaults: one or more, then `/`. -/
def lambdaSlashNoDefault (src : Source) : Nat → Parse Unit
  | 0 => throw .stuck
  | bound + 1 => do
    let n ← repeatedly (lambdaParamNoDefault src) bound
    if n = 0 then throw .stuck
    expectOp src "/"
    lambdaParamEnd src

/-- Whether an expression is a name of a statement of older versions of the language. -/
def isLegacy : Node → Bool
  | .name n => n == Text.ofString "print" || n == Text.ofString "exec"
  | _ => false

/-- The text of a name. -/
def nameText : Token → String
  | .name n => String.ofList (n.map Point.toChar)
  | _ => ""

/-- The operators of comparison that are one token. -/
def comparisons : List String := ["==", "!=", "<=", "<", ">=", ">"]

/-- The binary operators by level, from `|` at 0 to products at 5. -/
def levelOps : Nat → List String
  | 0 => ["|"]
  | 1 => ["^"]
  | 2 => ["&"]
  | 3 => ["<<", ">>"]
  | 4 => ["+", "-"]
  | _ => ["*", "/", "//", "%", "@"]

mutual

/-- Expressions separated by commas; more than one, or a trailing comma, make a tuple. -/
def expressions (src : Source) (checks : Bool) : Nat → Parse Node
  | 0 => throw .stuck
  | fuel + 1 => do
    let first ← expression src checks fuel
    if (← peek src).isOp "," then
      let rest ← commaTail src checks fuel
      pure (.tuple (first :: rest))
    else pure first

/-- At a comma: the expressions that follow, each after a comma. -/
def commaTail (src : Source) (checks : Bool) : Nat → Parse (List Node)
  | 0 => throw .stuck
  | fuel + 1 => do
    advance
    match ← attempt (expression src checks fuel) with
    | some e =>
      if (← peek src).isOp "," then
        let more ← commaTail src checks fuel
        pure (e :: more)
      else pure [e]
    | none => pure []

/-- An expression: a conditional, a disjunction or a lambda. The stricter pass first runs the
error rules of expressions. -/
def expression (src : Source) (checks : Bool) : Nat → Parse Node
  | 0 => throw .stuck
  | fuel + 1 => memoNode 0 do
    if checks then
      invalidExpression src fuel
      invalidLegacy src fuel
    plainExpression src checks fuel

/-- An expression without the error rules at its own level. -/
def plainExpression (src : Source) (checks : Bool) : Nat → Parse Node
  | 0 => throw .stuck
  | fuel + 1 => do
    if (← peek src).isKeyword "lambda" then lambdef src checks fuel
    else
      let a ← disjunction src checks fuel
      match ← attempt (conditionalTail src checks fuel) with
      | some _ => pure (.other "IfExp")
      | none => pure a

/-- The rest of a conditional expression after its value: `if`, condition, `else`, value. -/
def conditionalTail (src : Source) (checks : Bool) : Nat → Parse Unit
  | 0 => throw .stuck
  | fuel + 1 => do
    expectKeyword src "if"
    let _ ← disjunction src checks fuel
    expectKeyword src "else"
    let _ ← expression src checks fuel

/-- The error rules of an expression: two expressions side by side inside brackets miss a comma,
and a conditional needs its `else`. -/
def invalidExpression (src : Source) : Nat → Parse Unit
  | 0 => pure ()
  | fuel + 1 => do
    let start := (← get).pos
    let t0 ← peek src
    let skip ← if t0.isPlainName then do
        let t1 ← peekAt src 1
        pure (t1.isString || t0.isSoftKeyword)
      else pure false
    let first ← if skip then pure none else attempt (do
        let a ← disjunction src true fuel
        let _ ← plainExpression src false fuel
        pure a)
    match first with
    | some a =>
      if !isLegacy a && (← depthBefore src) > 0 then raise "invalid syntax. Perhaps you forgot a comma?"
      restore start
    | none =>
      restore start
      match ← attempt (do
          let _ ← disjunction src true fuel
          expectKeyword src "if"
          let _ ← disjunction src true fuel
          let t ← peek src
          if t.isKeyword "else" || t.isOp ":" then throw .stuck) with
      | some _ => raise "expected 'else' after 'if' expression"
      | none => restore start

/-- The error rule of an old statement name followed by an expression. -/
def invalidLegacy (src : Source) : Nat → Parse Unit
  | 0 => pure ()
  | fuel + 1 => do
    let start := (← get).pos
    let t ← peek src
    if t.isPlainName then
      advance
      if !(← peek src).isOp "(" then
        match ← attempt (starExpressions src true fuel) with
        | some _ =>
          match t with
          | .name n =>
            if isLegacy (.name (nameForm n)) then
              let w := String.ofList ((nameForm n).map Point.toChar)
              raise ("Missing parentheses in call to '" ++ w ++ "'. Did you mean " ++ w ++ "(...)?")
          | _ => pure ()
        | none => pure ()
      restore start

/-- Expressions that may be starred, separated by commas. -/
def starExpressions (src : Source) (checks : Bool) : Nat → Parse Node
  | 0 => throw .stuck
  | fuel + 1 => do
    let a ← starExpression src checks fuel
    if (← peek src).isOp "," then
      let rest ← starTail src checks fuel
      pure (.tuple (a :: rest))
    else pure a

/-- At a comma: the starred expressions that follow, each after a comma. -/
def starTail (src : Source) (checks : Bool) : Nat → Parse (List Node)
  | 0 => throw .stuck
  | fuel + 1 => do
    advance
    match ← attempt (starExpression src checks fuel) with
    | some e =>
      if (← peek src).isOp "," then
        let more ← starTail src checks fuel
        pure (e :: more)
      else pure [e]
    | none => pure []

/-- An expression, or a starred operand. -/
def starExpression (src : Source) (checks : Bool) : Nat → Parse Node
  | 0 => throw .stuck
  | fuel + 1 => memoNode 1 do
    if (← peek src).isOp "*" then
      advance
      let v ← bitOr src checks fuel
      pure (.starred v)
    else expression src checks fuel

/-- A lambda: parameters, a colon and the body; the stricter pass first runs the error rules
of its parameters. -/
def lambdef (src : Source) (checks : Bool) : Nat → Parse Node
  | 0 => throw .stuck
  | fuel + 1 => do
    advance
    if checks then invalidLambdaParameters src fuel
    let _ ← attempt (lambdaParameters src checks fuel)
    expectOp src ":"
    let _ ← expression src checks fuel
    pure (.other "Lambda")

/-- The parameters of a lambda, in one of five shapes: positional-only ones without defaults
then the rest, positional-only ones ending in defaults then the rest, plain ones without and
then with defaults, plain ones with defaults, or only the starred part. -/
def lambdaParameters (src : Source) (checks : Bool) : Nat → Parse Unit
  | 0 => throw .stuck
  | fuel + 1 => do
    let bound := src.lexemes.size + 1
    let rest (withDefaults : Bool) : Parse Unit := do
      if withDefaults then
        let _ ← repeatedly (lambdaParamWithDefault src checks fuel) bound
      let _ ← attempt (lambdaStarEtc src checks fuel)
    match ← attempt (do
        lambdaSlashNoDefault src bound
        let _ ← repeatedly (lambdaParamNoDefault src) bound
        rest true) with
    | some _ => pure ()
    | none =>
    match ← attempt (do lambdaSlashWithDefault src checks fuel; rest true) with
    | some _ => pure ()
    | none =>
    match ← attempt (do
        let n ← repeatedly (lambdaParamNoDefault src) bound
        if n = 0 then throw .stuck
        rest true) with
    | some _ => pure ()
    | none =>
    match ← attempt (do
        let n ← repeatedly (lambdaParamWithDefault src checks fuel) bound
        if n = 0 then throw .stuck
        rest false) with
    | some _ => pure ()
    | none => lambdaStarEtc src checks fuel

/-- A parameter's default, `=` and an expression; the stricter pass raises the error of an `=`
right before a comma or a closing parenthesis. -/
def defaultValue (src : Source) (checks : Bool) : Nat → Parse Unit
  | 0 => throw .stuck
  | fuel + 1 => do
    match ← attempt (do expectOp src "="; let _ ← expression src checks fuel) with
    | some _ => pure ()
    | none =>
      if checks then
        let start := (← get).pos
        expectOp src "="
        let t ← peek src
        if t.isOp ")" || t.isOp "," then raise "expected default value expression"
        restore start
      throw .stuck

/-- A lambda parameter with its default, then a comma or the colon ahead. -/
def lambdaParamWithDefault (src : Source) (checks : Bool) : Nat → Parse Unit
  | 0 => throw .stuck
  | fuel + 1 => do
    lambdaName src
    defaultValue src checks fuel
    lambdaParamEnd src

/-- A lambda parameter with or without a default, then a comma or the colon ahead. -/
def lambdaParamMaybeDefault (src : Source) (checks : Bool) : Nat → Parse Unit
  | 0 => throw .stuck
  | fuel + 1 => do
    lambdaName src
    let _ ← attempt (defaultValue src checks fuel)
    lambdaParamEnd src

/-- Positional-only lambda parameters ending in defaults: some without, some with, then `/`. -/
def lambdaSlashWithDefault (src : Source) (checks : Bool) : Nat → Parse Unit
  | 0 => throw .stuck
  | fuel + 1 => do
    let bound := src.lexemes.size + 1
    let _ ← repeatedly (lambdaParamNoDefault src) bound
    let n ← repeatedly (lambdaParamWithDefault src checks fuel) bound
    if n = 0 then throw .stuck
    expectOp src "/"
    lambdaParamEnd src

/-- The starred part of lambda parameters: `*` with a name or alone before a comma, the
parameters after it, and the keyword parameter; or the keyword parameter alone. The stricter
pass first runs its error rules. -/
def lambdaStarEtc (src : Source) (checks : Bool) : Nat → Parse Unit
  | 0 => throw .stuck
  | fuel + 1 => do
    if checks then invalidLambdaStarEtc src fuel
    let bound := src.lexemes.size + 1
    match ← attempt (do
        expectOp src "*"
        lambdaParamNoDefault src
        let _ ← repeatedly (lambdaParamMaybeDefault src checks fuel) bound
        let _ ← attempt (lambdaKwds src checks fuel)) with
    | some _ => pure ()
    | none =>
    match ← attempt (do
        expectOp src "*"
        expectOp src ","
        let n ← repeatedly (lambdaParamMaybeDefault src checks fuel) bound
        if n = 0 then throw .stuck
        let _ ← attempt (lambdaKwds src checks fuel)) with
    | some _ => pure ()
    | none => lambdaKwds src checks fuel

/-- The keyword parameter of a lambda, `**` and a name; the stricter pass first runs its error
rules. -/
def lambdaKwds (src : Source) (checks : Bool) : Nat → Parse Unit
  | 0 => throw .stuck
  | fuel + 1 => do
    if checks then invalidLambdaKwds src fuel
    expectOp src "**"
    lambdaParamNoDefault src

/-- The errors of lambda parameters as a whole: a parameter without a default after ones with
defaults, parameters in parentheses, `/` first, `/` twice, `/` after `*`, and `/` right
before `*`. -/
def invalidLambdaParameters (src : Source) : Nat → Parse Unit
  | 0 => pure ()
  | fuel + 1 => do
    let start := (← get).pos
    let bound := src.lexemes.size + 1
    let slashPart : Parse Unit := do
      match ← attempt (lambdaSlashNoDefault src bound) with
      | some _ => pure ()
      | none => lambdaSlashWithDefault src true fuel
    match ← attempt (do
        let _ ← repeatedly (lambdaParamNoDefault src) bound
        match ← attempt (lambdaSlashWithDefault src true fuel) with
        | some _ => pure ()
        | none =>
          let n ← repeatedly (lambdaParamWithDefault src true fuel) bound
          if n = 0 then throw .stuck
        lambdaParamNoDefault src) with
    | some _ => raise "non-default argument follows default argument"
    | none => restore start
    match ← attempt (do
        let _ ← repeatedly (lambdaParamNoDefault src) bound
        expectOp src "("
        lambdaName src
        let _ ← repeatedly (do expectOp src ","; lambdaName src) bound
        if (← peek src).isOp "," then advance
        expectOp src ")") with
    | some _ => raise "Lambda expression parameters cannot be parenthesized"
    | none => restore start
    match ← attempt (do expectOp src "/"; expectOp src ",") with
    | some _ => raise "at least one argument must precede /"
    | none => restore start
    match ← attempt (do
        slashPart
        let _ ← repeatedly (lambdaParamMaybeDefault src true fuel) bound
        expectOp src "/") with
    | some _ => raise "/ may appear only once"
    | none => restore start
    match ← attempt (do
        let _ ← attempt slashPart
        let _ ← repeatedly (lambdaParamMaybeDefault src true fuel) bound
        expectOp src "*"
        if (← peek src).isOp "," then advance else lambdaParamNoDefault src
        let _ ← repeatedly (lambdaParamMaybeDefault src true fuel) bound
        expectOp src "/") with
    | some _ => raise "/ must be ahead of *"
    | none => restore start
    match ← attempt (do
        let n ← repeatedly (lambdaParamMaybeDefault src true fuel) bound
        if n = 0 then throw .stuck
        expectOp src "/"
        expectOp src "*") with
    | some _ => raise "expected comma between / and *"
    | none => restore start

/-- The errors of the starred part of lambda parameters: a bare `*` with nothing named after
it, a default for the starred parameter, and a second `*`. -/
def invalidLambdaStarEtc (src : Source) : Nat → Parse Unit
  | 0 => pure ()
  | fuel + 1 => do
    let start := (← get).pos
    let bound := src.lexemes.size + 1
    match ← attempt (do
        expectOp src "*"
        if (← peek src).isOp ":" then advance
        else
          expectOp src ","
          let t ← peek src
          if t.isOp ":" || t.isOp "**" then advance else throw .stuck) with
    | some _ => raise "named arguments must follow bare *"
    | none => restore start
    match ← attempt (do expectOp src "*"; lambdaName src; expectOp src "=") with
    | some _ => raise "var-positional argument cannot have default value"
    | none => restore start
    match ← attempt (do
        expectOp src "*"
        if (← peek src).isOp "," then advance else lambdaParamNoDefault src
        let _ ← repeatedly (lambdaParamMaybeDefault src true fuel) bound
        expectOp src "*"
        if (← peek src).isOp "," then advance else lambdaParamNoDefault src) with
    | some _ => raise "* argument may appear only once"
    | none => restore start

/-- The errors of the keyword parameter of a lambda: a default for it, and parameters after
it. -/
def invalidLambdaKwds (src : Source) : Nat → Parse Unit
  | 0 => pure ()
  | _ + 1 => do
    let start := (← get).pos
    match ← attempt (do expectOp src "**"; lambdaName src; expectOp src "=") with
    | some _ => raise "var-keyword argument cannot have default value"
    | none => restore start
    match ← attempt (do
        expectOp src "**"
        lambdaName src
        expectOp src ","
        let t ← peek src
        if t.isPlainName || t.isOp "*" || t.isOp "**" || t.isOp "/" then advance
        else throw .stuck) with
    | some _ => raise "arguments cannot follow var-keyword argument"
    | none => restore start

/-- Disjunctions: conjunctions joined by `or`. -/
def disjunction (src : Source) (checks : Bool) : Nat → Parse Node
  | 0 => throw .stuck
  | fuel + 1 => memoNode 2 do
    let a ← conjunction src checks fuel
    orTail src checks fuel a

/-- Further `or` operands. -/
def orTail (src : Source) (checks : Bool) : Nat → Node → Parse Node
  | 0, a => pure a
  | fuel + 1, a => do
    if (← peek src).isKeyword "or" then
      match ← attempt (do advance; conjunction src checks fuel) with
      | some _ => orTail src checks fuel (.other "BoolOp")
      | none => pure a
    else pure a

/-- Conjunctions: inversions joined by `and`. -/
def conjunction (src : Source) (checks : Bool) : Nat → Parse Node
  | 0 => throw .stuck
  | fuel + 1 => memoNode 3 do
    let a ← inversion src checks fuel
    andTail src checks fuel a

/-- Further `and` operands. -/
def andTail (src : Source) (checks : Bool) : Nat → Node → Parse Node
  | 0, a => pure a
  | fuel + 1, a => do
    if (← peek src).isKeyword "and" then
      match ← attempt (do advance; inversion src checks fuel) with
      | some _ => andTail src checks fuel (.other "BoolOp")
      | none => pure a
    else pure a

/-- `not` before a comparison. -/
def inversion (src : Source) (checks : Bool) : Nat → Parse Node
  | 0 => throw .stuck
  | fuel + 1 => memoNode 4 do
    if (← peek src).isKeyword "not" then
      match ← attempt (do advance; inversion src checks fuel) with
      | some _ => pure (.other "UnaryOp")
      | none => comparison src checks fuel
    else comparison src checks fuel

/-- A chain of comparisons. -/
def comparison (src : Source) (checks : Bool) : Nat → Parse Node
  | 0 => throw .stuck
  | fuel + 1 => do
    let a ← bitOr src checks fuel
    match ← attempt (compareStep src checks fuel) with
    | some membership =>
      compareTail src checks fuel
      pure (.compare membership a)
    | none => pure a

/-- One comparison operator and its operand; true when the operator is `in`. -/
def compareStep (src : Source) (checks : Bool) : Nat → Parse Bool
  | 0 => throw .stuck
  | fuel + 1 => do
    let t ← peek src
    if comparisons.any t.isOp || t.isKeyword "in" then advance
    else if t.isKeyword "not" then
      advance
      expectKeyword src "in"
    else if t.isKeyword "is" then
      advance
      if (← peek src).isKeyword "not" then advance
    else throw .stuck
    let _ ← bitOr src checks fuel
    pure (t.isKeyword "in")

/-- Further comparisons. -/
def compareTail (src : Source) (checks : Bool) : Nat → Parse Unit
  | 0 => pure ()
  | fuel + 1 => do
    match ← attempt (compareStep src checks fuel) with
    | some _ => compareTail src checks fuel
    | none => pure ()

/-- Operands joined by `|`. -/
def bitOr (src : Source) (checks : Bool) : Nat → Parse Node
  | 0 => throw .stuck
  | fuel + 1 => memoNode 5 do
    let a ← bitXor src checks fuel
    binaryTail src checks fuel 0 a

/-- Operands joined by `^`. -/
def bitXor (src : Source) (checks : Bool) : Nat → Parse Node
  | 0 => throw .stuck
  | fuel + 1 => memoNode 6 do
    let a ← bitAnd src checks fuel
    binaryTail src checks fuel 1 a

/-- Operands joined by `&`. -/
def bitAnd (src : Source) (checks : Bool) : Nat → Parse Node
  | 0 => throw .stuck
  | fuel + 1 => memoNode 7 do
    let a ← shift src checks fuel
    binaryTail src checks fuel 2 a

/-- Operands joined by shifts. -/
def shift (src : Source) (checks : Bool) : Nat → Parse Node
  | 0 => throw .stuck
  | fuel + 1 => memoNode 8 do
    let a ← sum src checks fuel
    binaryTail src checks fuel 3 a

/-- Operands joined by `+` and `-`. -/
def sum (src : Source) (checks : Bool) : Nat → Parse Node
  | 0 => throw .stuck
  | fuel + 1 => memoNode 9 do
    let a ← term src checks fuel
    binaryTail src checks fuel 4 a

/-- Operands joined by products, quotients and remainders. -/
def term (src : Source) (checks : Bool) : Nat → Parse Node
  | 0 => throw .stuck
  | fuel + 1 => memoNode 10 do
    let a ← factor src checks fuel
    binaryTail src checks fuel 5 a

/-- The right operand of a binary operator of a level. -/
def operand (src : Source) (checks : Bool) : Nat → Nat → Parse Node
  | 0, _ => throw .stuck
  | fuel + 1, level =>
    if level = 0 then bitXor src checks fuel
    else if level = 1 then bitAnd src checks fuel
    else if level = 2 then shift src checks fuel
    else if level = 3 then sum src checks fuel
    else if level = 4 then term src checks fuel
    else factor src checks fuel

/-- Further operands of a binary operator of a level. -/
def binaryTail (src : Source) (checks : Bool) : Nat → Nat → Node → Parse Node
  | 0, _, a => pure a
  | fuel + 1, level, a => do
    let t ← peek src
    match (levelOps level).find? t.isOp with
    | some o =>
      match ← attempt (do advance; operand src checks fuel level) with
      | some b => binaryTail src checks fuel level (.binary o a b)
      | none => pure a
    | none => pure a

/-- A signed or inverted factor, or a power. -/
def factor (src : Source) (checks : Bool) : Nat → Parse Node
  | 0 => throw .stuck
  | fuel + 1 => memoNode 11 do
    let t ← peek src
    let sign := if t.isOp "+" then some "+" else if t.isOp "-" then some "-"
      else if t.isOp "~" then some "~" else none
    match sign with
    | some o =>
      match ← attempt (do advance; factor src checks fuel) with
      | some x => pure (.unary o x)
      | none => power src checks fuel
    | none => power src checks fuel

/-- A primary, raised to a factor when `**` follows. -/
def power (src : Source) (checks : Bool) : Nat → Parse Node
  | 0 => throw .stuck
  | fuel + 1 => do
    let a ← awaitPrimary src checks fuel
    if (← peek src).isOp "**" then
      match ← attempt (do advance; factor src checks fuel) with
      | some b => pure (.binary "**" a b)
      | none => pure a
    else pure a

/-- A primary, awaited or not. -/
def awaitPrimary (src : Source) (checks : Bool) : Nat → Parse Node
  | 0 => throw .stuck
  | fuel + 1 => memoNode 12 do
    if (← peek src).isKeyword "await" then
      match ← attempt (do advance; primary src checks fuel) with
      | some _ => pure (.other "Await")
      | none => primary src checks fuel
    else primary src checks fuel

/-- An atom followed by attributes and calls. -/
def primary (src : Source) (checks : Bool) : Nat → Parse Node
  | 0 => throw .stuck
  | fuel + 1 => memoNode 13 do
    let a ← atom src checks fuel
    trailers src checks fuel a

/-- Attributes and calls after a primary. -/
def trailers (src : Source) (checks : Bool) : Nat → Node → Parse Node
  | 0, a => pure a
  | fuel + 1, a => do
    let t ← peek src
    if t.isOp "." then
      match ← attempt (do
          advance
          if (← peek src).isPlainName then advance else throw .stuck) with
      | some _ => trailers src checks fuel (.other "Attribute")
      | none => pure a
    else if t.isOp "(" then
      match ← attempt (generator src checks fuel) with
      | some _ => trailers src checks fuel (.call a false)
      | none =>
        match ← attempt (callArguments src checks fuel) with
        | some bare => trailers src checks fuel (.call a bare)
        | none => pure a
    else
      -- the stricter pass reads a bracket after a primary as a comprehension too
      if checks then invalidComprehension src fuel
      pure a

/-- The arguments of a call in parentheses; true when there are none. -/
def callArguments (src : Source) (checks : Bool) : Nat → Parse Bool
  | 0 => throw .stuck
  | fuel + 1 => do
    advance
    match ← attempt (arguments src checks fuel) with
    | some _ =>
      expectOp src ")"
      pure false
    | none =>
      expectOp src ")"
      pure true

/-- Arguments followed by an optional comma and the closing parenthesis; the stricter pass
raises the errors of arguments of the wrong shape. -/
def arguments (src : Source) (checks : Bool) : Nat → Parse Arguments
  | 0 => throw .stuck
  | fuel + 1 => memoArguments 14 do
    match ← attempt (do
        let a ← args src checks fuel
        if (← peek src).isOp "," then advance
        if !(← peek src).isOp ")" then throw .stuck
        pure a) with
    | some a => pure a
    | none =>
      if checks then invalidArguments src fuel
      throw .stuck

/-- Positional arguments, then keyword arguments after a comma; or keyword arguments alone. -/
def args (src : Source) (checks : Bool) : Nat → Parse Arguments
  | 0 => throw .stuck
  | fuel + 1 => do
    match ← attempt (positionalArguments src checks fuel) with
    | some n =>
      match ← attempt (do expectOp src ","; keywordArguments src checks fuel) with
      | some k => pure ⟨n + k.positional, k.unpacked⟩
      | none => pure ⟨n, false⟩
    | none => keywordArguments src checks fuel

/-- Positional arguments separated by commas: how many. -/
def positionalArguments (src : Source) (checks : Bool) : Nat → Parse Nat
  | 0 => throw .stuck
  | fuel + 1 => do
    positionalArgument src checks fuel
    if (← peek src).isOp "," then
      match ← attempt (do advance; positionalArguments src checks fuel) with
      | some n => pure (n + 1)
      | none => pure 1
    else pure 1

/-- A starred expression, `*` and an expression; a `*` with no expression after it is an error
in both passes. -/
def starredExpression (src : Source) (checks : Bool) : Nat → Parse Node
  | 0 => throw .stuck
  | fuel + 1 => do
    expectOp src "*"
    match ← attempt (expression src checks fuel) with
    | some e => pure (.starred e)
    | none => raise "Invalid star expression"

/-- A positional argument: starred, or a named expression not followed by `=`. -/
def positionalArgument (src : Source) (checks : Bool) : Nat → Parse Unit
  | 0 => throw .stuck
  | fuel + 1 => do
    if (← peek src).isOp "*" then
      let _ ← starredExpression src checks fuel
    else
      let _ ← assignmentOrExpression src checks fuel
      if (← peek src).isOp "=" then throw .stuck

/-- Keyword arguments: those that may be starred, then after a comma those that may unpack a
mapping; or either kind alone. -/
def keywordArguments (src : Source) (checks : Bool) : Nat → Parse Arguments
  | 0 => throw .stuck
  | fuel + 1 => do
    match ← attempt (do
        let a ← keywordsOrStarred src checks fuel
        expectOp src ","
        let b ← keywordsOrUnpacked src checks fuel
        pure (Arguments.mk (a.positional + b.positional) (a.unpacked || b.unpacked))) with
    | some r => pure r
    | none =>
      match ← attempt (keywordsOrStarred src checks fuel) with
      | some r => pure r
      | none => keywordsOrUnpacked src checks fuel

/-- Keyword arguments or starred ones, separated by commas. -/
def keywordsOrStarred (src : Source) (checks : Bool) : Nat → Parse Arguments
  | 0 => throw .stuck
  | fuel + 1 => do
    let a ← keywordOrStarred src checks fuel
    if (← peek src).isOp "," then
      match ← attempt (do advance; keywordsOrStarred src checks fuel) with
      | some b => pure ⟨a.positional + b.positional, a.unpacked || b.unpacked⟩
      | none => pure a
    else pure a

/-- Keyword arguments or unpacked mappings, separated by commas. -/
def keywordsOrUnpacked (src : Source) (checks : Bool) : Nat → Parse Arguments
  | 0 => throw .stuck
  | fuel + 1 => do
    let a ← keywordOrUnpacked src checks fuel
    if (← peek src).isOp "," then
      match ← attempt (do advance; keywordsOrUnpacked src checks fuel) with
      | some b => pure ⟨a.positional + b.positional, a.unpacked || b.unpacked⟩
      | none => pure a
    else pure a

/-- A keyword argument or a starred argument. -/
def keywordOrStarred (src : Source) (checks : Bool) : Nat → Parse Arguments
  | 0 => throw .stuck
  | fuel + 1 => do
    if checks then invalidKeyword src fuel
    let t ← peek src
    if ← nameThen src t "=" then
      advance
      advance
      let _ ← expression src checks fuel
      pure ⟨0, false⟩
    else if t.isOp "*" then
      let _ ← starredExpression src checks fuel
      pure ⟨1, false⟩
    else throw .stuck

/-- A keyword argument or an unpacked mapping. -/
def keywordOrUnpacked (src : Source) (checks : Bool) : Nat → Parse Arguments
  | 0 => throw .stuck
  | fuel + 1 => do
    if checks then invalidKeyword src fuel
    let t ← peek src
    if ← nameThen src t "=" then
      advance
      advance
      let _ ← expression src checks fuel
      pure ⟨0, false⟩
    else if t.isOp "**" then
      advance
      let _ ← expression src checks fuel
      pure ⟨0, true⟩
    else throw .stuck

/-- The errors of a keyword argument: a constant before `=`, a keyword argument followed by a
`for` clause, and an expression before `=`. -/
def invalidKeyword (src : Source) : Nat → Parse Unit
  | 0 => pure ()
  | fuel + 1 => do
    let start := (← get).pos
    let t ← peek src
    let constant := t.isKeyword "True" || t.isKeyword "False" || t.isKeyword "None"
    if constant then
      if (← peekAt src 1).isOp "=" then raise ("cannot assign to " ++ nameText t)
    let nameEquals ← nameThen src t "="
    if nameEquals then
      match ← attempt (do
          advance
          advance
          let _ ← expression src true fuel
          forIfClauses src true fuel) with
      | some _ => raise "invalid syntax. Maybe you meant '==' or ':=' instead of '='?"
      | none => restore start
    else
      match ← attempt (do
          let _ ← expression src true fuel
          expectOp src "=") with
      | some _ => raise "expression cannot contain assignment, perhaps you meant \"==\"?"
      | none => restore start

/-- The errors of arguments of the wrong shape: starred arguments after keyword arguments,
a generator without its own parentheses beside other arguments, `=` before a `for` clause, and
a positional argument after keyword arguments. -/
def invalidArguments (src : Source) : Nat → Parse Unit
  | 0 => pure ()
  | fuel + 1 => do
    let start := (← get).pos
    let genexp := "Generator expression must be parenthesized"
    match ← attempt (do
        match ← attempt (do
            let _ ← positionalArguments src true fuel
            expectOp src ","
            let _ ← keywordArguments src true fuel) with
        | some _ => pure ()
        | none => let _ ← keywordArguments src true fuel
        expectOp src ","
        let bound := src.lexemes.size + 1
        let starredAlone : Parse Unit := do
          let _ ← starredExpression src true fuel
          if (← peek src).isOp "=" then throw .stuck
        starredAlone
        let _ ← repeatedly (do expectOp src ","; starredAlone) bound) with
    | some _ => raise "iterable argument unpacking follows keyword argument unpacking"
    | none => restore start
    match ← attempt (do
        let _ ← expression src true fuel
        forIfClauses src true fuel
        expectOp src ",") with
    | some _ =>
      match ← attempt (args src true fuel) with
      | some _ => pure ()
      | none =>
        let _ ← attempt (do
          let _ ← expression src true fuel
          forIfClauses src true fuel)
      raise genexp
    | none => pure ()
    let t ← peek src
    if ← nameThen src t "=" then
      match ← attempt (do
          advance
          advance
          let _ ← expression src true fuel
          forIfClauses src true fuel) with
      | some _ => raise "invalid syntax. Maybe you meant '==' or ':=' instead of '='?"
      | none => restore start
    match ← attempt (do
        let a ← args src true fuel
        forIfClauses src true fuel
        pure a) with
    | some a =>
      if a.positional > 1 then raise genexp
      restore start
    | none =>
      match ← attempt (do
          let _ ← args src true fuel
          expectOp src ","
          let _ ← expression src true fuel
          forIfClauses src true fuel) with
      | some _ => raise genexp
      | none => pure ()
      match ← attempt (do
          let a ← args src true fuel
          expectOp src ","
          let _ ← args src true fuel
          pure a) with
      | some a =>
        raise (if a.unpacked then "positional argument follows keyword argument unpacking"
          else "positional argument follows keyword argument")
      | none => restore start

/-- A named expression `name := value`, or an expression not followed by `:=`; the stricter
pass first runs the error rules of named expressions. -/
def namedExpression (src : Source) (checks : Bool) : Nat → Parse Node
  | 0 => throw .stuck
  | fuel + 1 => do
    let t ← peek src
    let walrus ← nameThen src t ":="
    match ← (if walrus then attempt (do
        advance
        advance
        let _ ← expression src checks fuel
        pure (Node.other "NamedExpr")) else pure none) with
    | some n => pure n
    | none =>
      if checks then invalidNamedExpression src fuel
      let e ← expression src checks fuel
      if (← peek src).isOp ":=" then throw .stuck
      pure e

/-- A named expression without the error rules of named expressions. -/
def assignmentOrExpression (src : Source) (checks : Bool) : Nat → Parse Node
  | 0 => throw .stuck
  | fuel + 1 => do
    let t ← peek src
    let walrus ← nameThen src t ":="
    match ← (if walrus then attempt (do
        advance
        advance
        let _ ← expression src checks fuel
        pure (Node.other "NamedExpr")) else pure none) with
    | some n => pure n
    | none =>
      let e ← expression src checks fuel
      if (← peek src).isOp ":=" then throw .stuck
      pure e

/-- The errors of a named expression: `:=` after something that is no name, and `=` where `==`
or `:=` was meant. -/
def invalidNamedExpression (src : Source) : Nat → Parse Unit
  | 0 => pure ()
  | fuel + 1 => memoCheck 15 do
    let start := (← get).pos
    match ← attempt (do
        let a ← expression src true fuel
        expectOp src ":="
        let _ ← expression src true fuel
        pure a) with
    | some a => raise ("cannot use assignment expressions with " ++ a.description)
    | none => pure ()
    let t ← peek src
    let nameEquals ← nameThen src t "="
    if nameEquals then
      match ← attempt (do
          advance
          advance
          let _ ← bitOr src true fuel
          let u ← peek src
          if u.isOp "=" || u.isOp ":=" then throw .stuck) with
      | some _ => raise "invalid syntax. Maybe you meant '==' or ':=' instead of '='?"
      | none => restore start
    let excluded ← if t.isKeyword "True" || t.isKeyword "None" || t.isKeyword "False" then pure true
      else if t.isOp "(" then do
        let tuple ← attempt (tupleDisplay src true fuel)
        restore start
        if tuple.isSome then pure true
        else
          let gen ← attempt (generator src true fuel)
          restore start
          pure gen.isSome
      else pure false
    if !excluded then
      match ← attempt (do
          let a ← bitOr src true fuel
          expectOp src "="
          let _ ← bitOr src true fuel
          let u ← peek src
          if u.isOp "=" || u.isOp ":=" then throw .stuck
          pure a) with
      | some a => raise ("cannot assign to " ++ a.description ++ " here. Maybe you meant '==' instead of '='?")
      | none => restore start

/-- A starred operand or a named expression. -/
def starNamedExpression (src : Source) (checks : Bool) : Nat → Parse Node
  | 0 => throw .stuck
  | fuel + 1 => do
    if (← peek src).isOp "*" then
      advance
      let v ← bitOr src checks fuel
      pure (.starred v)
    else namedExpression src checks fuel

/-- Starred operands or named expressions separated by commas, with an optional trailing
comma. -/
def starNamedExpressions (src : Source) (checks : Bool) : Nat → Parse (List Node)
  | 0 => throw .stuck
  | fuel + 1 => do
    let a ← starNamedExpression src checks fuel
    if (← peek src).isOp "," then
      let start := (← get).pos
      advance
      match ← attempt (starNamedExpressions src checks fuel) with
      | some rest => pure (a :: rest)
      | none =>
        restore (start + 1)
        pure [a]
    else pure [a]

/-- An atom: a name, constant, strings, number, or a parenthesized or braced display. -/
def atom (src : Source) (checks : Bool) : Nat → Parse Node
  | 0 => throw .stuck
  | fuel + 1 => do
    let t ← peek src
    match t with
    | .name n =>
      if t.isKeyword "True" then
        advance
        pure (.constant (.boolean true))
      else if t.isKeyword "False" then
        advance
        pure (.constant (.boolean false))
      else if t.isKeyword "None" then
        advance
        pure (.constant .nothing)
      else if t.isPlainName then
        advance
        pure (.name (nameForm n))
      else throw .stuck
    | .number k =>
      advance
      pure (.constant (.number k))
    | .string .. => strings src fuel []
    | .op o =>
      if o == "..." then
        advance
        pure (.constant .ellipsis)
      else if o == "(" then parenthesized src checks fuel
      else if o == "\x7b" then braced src checks fuel
      else throw .stuck
    | _ => throw .stuck

/-- Adjacent strings, gathered in reverse with the places of their tokens, then joined into one:
bytes only of ASCII points and with valid escapes, bytes only with bytes, and formatted strings
only without an error inside. -/
def strings (src : Source) : Nat → List (Token × Nat) → Parse Node
  | 0, _ => throw .stuck
  | fuel + 1, gathered => do
    let t ← peek src
    if t.isString then
      let place := (← get).pos
      advance
      strings src fuel ((t, place) :: gathered)
    else
      let parts := gathered.reverse
      let mut bytesSoFar : Option Bool := none
      let mut formattedSoFar := false
      for (part, place) in parts do
        match part with
        | .string bytes formatted raw body =>
          if bytes && body.any (·.code ≥ 0x80) then raise "bytes can only contain ASCII literal characters"
          if !formatted && !raw && body.any (is · '\\') then
            match (if bytes then bytesEscapeError body else textEscapeError body) with
            | some e => throw (.raised e false)
            | none => pure ()
          if bytesSoFar.any (· != bytes) then raise "cannot mix bytes and nonbytes literals"
          bytesSoFar := some bytes
          if formatted then
            match src.formattedFaults.lookup place with
            | some e => throw (.raised e false)
            | none => pure ()
          formattedSoFar := formattedSoFar || formatted
        | _ => pure ()
      if formattedSoFar then pure (.other "JoinedStr")
      else if bytesSoFar == some true then pure (.constant .bytes)
      else pure (.constant .text)

/-- A parenthesized display: a tuple, a group or a generator. -/
def parenthesized (src : Source) (checks : Bool) : Nat → Parse Node
  | 0 => throw .stuck
  | fuel + 1 => do
    match ← attempt (tupleDisplay src checks fuel) with
    | some n => pure n
    | none =>
      match ← attempt (group src checks fuel) with
      | some n => pure n
      | none => generator src checks fuel

/-- A tuple in parentheses: empty, or an item with a comma and more items. -/
def tupleDisplay (src : Source) (checks : Bool) : Nat → Parse Node
  | 0 => throw .stuck
  | fuel + 1 => do
    advance
    if (← peek src).isOp ")" then
      advance
      pure (.tuple [])
    else
      let a ← starNamedExpression src checks fuel
      expectOp src ","
      let rest := (← attempt (starNamedExpressions src checks fuel)).getD []
      expectOp src ")"
      pure (.tuple (a :: rest))

/-- An expression in parentheses; the stricter pass raises the errors of starred expressions
standing alone in parentheses. -/
def group (src : Source) (checks : Bool) : Nat → Parse Node
  | 0 => throw .stuck
  | fuel + 1 => do
    let start := (← get).pos
    match ← attempt (do
        advance
        let e ← if (← peek src).isKeyword "yield" then do
            advance
            if (← peek src).isKeyword "from" then
              advance
              let _ ← expression src checks fuel
            else
              let _ ← attempt (starExpressions src checks fuel)
            pure (Node.other "Yield")
          else namedExpression src checks fuel
        expectOp src ")"
        pure e) with
    | some e => pure e
    | none =>
      if checks then
        restore (start + 1)
        let t ← peek src
        if t.isOp "*" then
          match ← attempt (do let _ ← starredExpression src true fuel; expectOp src ")") with
          | some _ => raise "cannot use starred expression here"
          | none => pure ()
        else if t.isOp "**" then
          match ← attempt (do advance; let _ ← expression src true fuel; expectOp src ")") with
          | some _ => raise "cannot use double starred expression here"
          | none => pure ()
      throw .stuck

/-- A generator expression in parentheses; the stricter pass raises the error of a starred
element. -/
def generator (src : Source) (checks : Bool) : Nat → Parse Node
  | 0 => throw .stuck
  | fuel + 1 => do
    let start := (← get).pos
    match ← attempt (do
        advance
        let _ ← assignmentOrExpression src checks fuel
        forIfClauses src checks fuel
        expectOp src ")") with
    | some _ => pure (.other "GeneratorExp")
    | none =>
      if checks then
        restore start
        invalidComprehension src fuel
      throw .stuck

/-- The errors of a comprehension's element after an opening bracket: a starred element, and,
in braces or square brackets, a tuple without parentheses. -/
def invalidComprehension (src : Source) : Nat → Parse Unit
  | 0 => pure ()
  | fuel + 1 => do
    let start := (← get).pos
    let opening ← peek src
    let braced := opening.isOp "\x7b" || opening.isOp "["
    if !(braced || opening.isOp "(") then return
    advance
    match ← attempt (do
        let _ ← starredExpression src true fuel
        forIfClauses src true fuel) with
    | some _ => raise "iterable unpacking cannot be used in comprehension"
    | none => pure ()
    if braced then
      let target := "did you forget parentheses around the comprehension target?"
      match ← attempt (do
          let _ ← starNamedExpression src true fuel
          expectOp src ","
          let _ ← starNamedExpressions src true fuel
          forIfClauses src true fuel) with
      | some _ => raise target
      | none => pure ()
      match ← attempt (do
          let _ ← starNamedExpression src true fuel
          expectOp src ","
          forIfClauses src true fuel) with
      | some _ => raise target
      | none => pure ()
    restore start

/-- A braced display: a dictionary, a set, or a comprehension of either. -/
def braced (src : Source) (checks : Bool) : Nat → Parse Node
  | 0 => throw .stuck
  | fuel + 1 => do
    match ← attempt (dictDisplay src checks fuel) with
    | some n => pure n
    | none =>
      match ← attempt (setDisplay src checks fuel) with
      | some n => pure n
      | none =>
        match ← attempt (dictComprehension src checks fuel) with
        | some n => pure n
        | none => setComprehension src checks fuel

/-- A dictionary display; when its entries do not parse, the errors of malformed entries are
raised, in both passes. -/
def dictDisplay (src : Source) (checks : Bool) : Nat → Parse Node
  | 0 => throw .stuck
  | fuel + 1 => do
    let start := (← get).pos
    match ← attempt (do
        advance
        let es := (← attempt (entries src checks fuel)).getD []
        expectOp src "\x7d"
        pure es) with
    | some es => pure (.dict es)
    | none =>
      restore (start + 1)
      invalidEntries src checks fuel
      throw .stuck

/-- Entries separated by commas, with an optional trailing comma. -/
def entries (src : Source) (checks : Bool) : Nat → Parse (List (Option Node × Node))
  | 0 => throw .stuck
  | fuel + 1 => do
    let es ← entryList src checks fuel
    if (← peek src).isOp "," then advance
    pure es

/-- Entries separated by commas, without a trailing comma. -/
def entryList (src : Source) (checks : Bool) : Nat → Parse (List (Option Node × Node))
  | 0 => throw .stuck
  | fuel + 1 => do
    let a ← entry src checks fuel
    if (← peek src).isOp "," then
      match ← attempt (do advance; entryList src checks fuel) with
      | some rest => pure (a :: rest)
      | none => pure [a]
    else pure [a]

/-- An entry: an unpacked mapping, or a key and a value. -/
def entry (src : Source) (checks : Bool) : Nat → Parse (Option Node × Node)
  | 0 => throw .stuck
  | fuel + 1 => do
    if (← peek src).isOp "**" then
      advance
      let m ← bitOr src checks fuel
      pure (none, m)
    else
      let k ← expression src checks fuel
      expectOp src ":"
      let v ← expression src checks fuel
      pure (some k, v)

/-- The errors of malformed entries: after well-formed entries and a comma, an entry without
its colon, with a starred value or with no value; or a first key with a starred value or no
value. -/
def invalidEntries (src : Source) (checks : Bool) : Nat → Parse Unit
  | 0 => pure ()
  | fuel + 1 => do
    let start := (← get).pos
    match ← attempt (do
        let _ ← entryList src checks fuel
        expectOp src ",") with
    | some _ => invalidEntry src checks fuel true
    | none => pure ()
    restore start
    invalidEntry src checks fuel false
    restore start

/-- The errors of one malformed entry: a key without a colon (only after other entries), a
starred value, or no value after the colon. -/
def invalidEntry (src : Source) (checks : Bool) : Nat → Bool → Parse Unit
  | 0, _ => pure ()
  | fuel + 1, afterOthers => do
    let start := (← get).pos
    if afterOthers then
      match ← attempt (expression src checks fuel) with
      | some _ =>
        if !(← peek src).isOp ":" then raise "':' expected after dictionary key"
      | none => pure ()
      restore start
    match ← attempt (do
        let _ ← expression src checks fuel
        expectOp src ":") with
    | some _ =>
      let t ← peek src
      if t.isOp "*" then
        match ← attempt (do advance; bitOr src checks fuel) with
        | some _ => raise "cannot use a starred expression in a dictionary value"
        | none => pure ()
      else if t.isOp "\x7d" || t.isOp "," then
        raise "expression expected after dictionary key and ':'"
    | none => pure ()
    restore start

/-- A set display. -/
def setDisplay (src : Source) (checks : Bool) : Nat → Parse Node
  | 0 => throw .stuck
  | fuel + 1 => do
    advance
    let items ← starNamedExpressions src checks fuel
    expectOp src "\x7d"
    pure (.set items)

/-- A dictionary comprehension; the stricter pass raises the error of an unpacked mapping as
its element. -/
def dictComprehension (src : Source) (checks : Bool) : Nat → Parse Node
  | 0 => throw .stuck
  | fuel + 1 => do
    let start := (← get).pos
    match ← attempt (do
        advance
        let _ ← expression src checks fuel
        expectOp src ":"
        let _ ← expression src checks fuel
        forIfClauses src checks fuel
        expectOp src "\x7d") with
    | some _ => pure (.other "DictComp")
    | none =>
      if checks then
        restore (start + 1)
        match ← attempt (do
            expectOp src "**"
            let _ ← bitOr src true fuel
            forIfClauses src true fuel
            expectOp src "\x7d") with
        | some _ => raise "dict unpacking cannot be used in dict comprehension"
        | none => pure ()
      throw .stuck

/-- A set comprehension; the stricter pass raises the errors of its element. -/
def setComprehension (src : Source) (checks : Bool) : Nat → Parse Node
  | 0 => throw .stuck
  | fuel + 1 => do
    let start := (← get).pos
    match ← attempt (do
        advance
        let _ ← namedExpression src checks fuel
        forIfClauses src checks fuel
        expectOp src "\x7d") with
    | some _ => pure (.other "SetComp")
    | none =>
      if checks then
        restore start
        invalidComprehension src fuel
      throw .stuck

/-- One or more `for` clauses, each with its conditions. -/
def forIfClauses (src : Source) (checks : Bool) : Nat → Parse Unit
  | 0 => throw .stuck
  | fuel + 1 => do
    forIfClause src checks fuel
    let t ← peek src
    if t.isKeyword "for" || t.isKeyword "async" then
      let _ ← attempt (forIfClauses src checks fuel)

/-- A `for` clause: targets, `in`, the iterable and conditions; the stricter pass raises the
error of a target that cannot be assigned. -/
def forIfClause (src : Source) (checks : Bool) : Nat → Parse Unit
  | 0 => throw .stuck
  | fuel + 1 => do
    let start := (← get).pos
    match ← attempt (do
        if (← peek src).isKeyword "async" then advance
        expectKeyword src "for"
        targets src checks fuel
        expectKeyword src "in") with
    | some _ =>
      let _ ← disjunction src checks fuel
      conditions src checks fuel
    | none =>
      if checks then
        restore start
        match ← attempt (do
            if (← peek src).isKeyword "async" then advance
            expectKeyword src "for"
            starExpressions src true fuel) with
        | some e =>
          match e.invalidTarget with
          | some bad => raise ("cannot assign to " ++ bad.description)
          | none => pure ()
        | none => pure ()
      throw .stuck

/-- The `if` conditions of a `for` clause. -/
def conditions (src : Source) (checks : Bool) : Nat → Parse Unit
  | 0 => pure ()
  | fuel + 1 => do
    if (← peek src).isKeyword "if" then
      match ← attempt (do advance; disjunction src checks fuel) with
      | some _ => conditions src checks fuel
      | none => pure ()

/-- Assignment targets separated by commas, with an optional trailing comma. -/
def targets (src : Source) (checks : Bool) : Nat → Parse Unit
  | 0 => throw .stuck
  | fuel + 1 => do
    target src checks fuel
    if (← peek src).isOp "," then
      let start := (← get).pos
      advance
      match ← attempt (targets src checks fuel) with
      | some _ => pure ()
      | none => restore (start + 1)

/-- One target: a primary ending in an attribute, a name, or targets in parentheses, possibly
starred. -/
def target (src : Source) (checks : Bool) : Nat → Parse Unit
  | 0 => throw .stuck
  | fuel + 1 => do
    if (← peek src).isOp "*" then advance
    match ← attempt (do
        let p ← primary src checks fuel
        match p with
        | .other k => if k == "Attribute" then pure () else throw .stuck
        | _ => throw .stuck) with
    | some _ => pure ()
    | none =>
      let t ← peek src
      if t.isPlainName then advance
      else if t.isOp "(" then
        advance
        if (← peek src).isOp ")" then advance
        else
          targets src checks fuel
          expectOp src ")"
      else throw .stuck

end

/-- Line ends at the end of the input. -/
def lineEnds (src : Source) : Nat → Parse Unit
  | 0 => pure ()
  | n + 1 => do
    if (← peek src) == .newline then
      advance
      lineEnds src n

/-- A whole input: expressions, then line ends, then the end. -/
def input (src : Source) (checks : Bool) (fuel : Nat) : Parse Node := do
  let e ← expressions src checks fuel
  lineEnds src (src.lexemes.size + 1)
  if (← peek src) == .finish then pure e else throw .stuck

/-- Where a parse starts: at a whole input, or at the expression of a field of a formatted
string, which may be followed by anything. -/
inductive Start where
  | whole
  | field

/-- Parses the tokens from a start, in the plain or the stricter pass. -/
def parse (start : Start) (src : Source) (checks : Bool) : EStateM.Result Halt Cursor Node :=
  let fuel := 64 * (src.lexemes.size + 4)
  match start with
  | .whole => input src checks fuel ⟨0, 0, {}⟩
  | .field => starExpressions src checks fuel ⟨0, 0, {}⟩

end TagLiteral

end FarmSetup
