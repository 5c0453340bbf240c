import FarmSetup.Console.TagLiteral.Names
import FarmSetup.Text.Printable
/-!
Scanning a literal expression into tokens. Each token records the bracket depth after it and
the line it starts on; scanning stops at the first error, which records the innermost bracket
open at that point.

Numbers follow the rules of decimal, hexadecimal, octal and binary literals with single
underscores between digits, and a number may not run into a name, except into a keyword that
may follow a number. Strings take an optional prefix of the letters `b`, `r`, `u` and `f` in the
valid combinations, one or three quotes, and a body in which a backslash takes the next point.
At depth zero a line starts with its indentation, which opens or closes indented blocks; blank
lines and comments are skipped, and a backslash at a line end joins two lines.
-/

namespace FarmSetup

namespace TagLiteral

/-- The kind of a number. -/
inductive NumberKind where
  | integer
  | real
  | imaginary
deriving DecidableEq

/-- A token of an expression. -/
inductive Token where
  | name (t : Text)
  | number (kind : NumberKind)
  /-- A string: bytes or text, formatted or not, raw or not, and its body. -/
  | string (bytes formatted raw : Bool) (body : Text)
  | op (s : String)
  | newline
  | indent
  | dedent
  | finish
deriving DecidableEq

/-- Whether scanning a token looks at the point after it: every token but a line end, a string
and an operator of three points does. -/
def Token.looksPast : Token → Bool
  | .string .. => false
  | .newline => false
  | .op o => o.length < 3
  | _ => true

/-- A token with the bracket depth after it, the line it starts on, and whether scanning it
read past the end of the text. -/
structure Lexeme where
  token : Token
  depth : Nat
  line : Nat
  atEnd : Bool

/-- Why scanning stopped: the message, whether the scanner itself raised it (so that it also
stands when the rest of the text is scanned after a parsing error), and the innermost bracket
open there with the line it was opened on. -/
structure Fault where
  msg : Text
  raised : Bool
  bracket : Option (Point × Nat)

/-- The rest after digits and single underscores between digits at the head; an underscore not
followed by a digit is an error. -/
def digitTail : Text → Except Text Text
  | [] => .ok []
  | p :: rest =>
    if isDigit p then digitTail rest
    else if is p '_' then
      match rest with
      | q :: _ => if isDigit q then digitTail rest else .error (Text.ofString "invalid decimal literal")
      | [] => .error (Text.ofString "invalid decimal literal")
    else .ok (p :: rest)

/-- Checks what follows a number: a keyword that may follow one, standing as a whole word, is
accepted, and any other point that may be part of a name, any point past ASCII among them,
makes the number malformed. -/
def endOfNumber (kind : String) : Text → Except Text Unit
  | [] => .ok ()
  | p :: rest =>
    let follows (w : String) :=
      (Text.ofString w).isPrefixOf rest && !((rest.drop w.length).head?.any mayName)
    let keyword :=
      (is p 'a' && follows "nd") || (is p 'e' && follows "lse") || (is p 'f' && follows "or") ||
      (is p 'i' && rest.head?.any (fun q => is q 'f' || is q 'n' || is q 's')) ||
      (is p 'o' && follows "r") || (is p 'n' && follows "ot")
    if keyword then .ok ()
    else if mayName p then .error (Text.ofString ("invalid " ++ kind ++ " literal"))
    else .ok ()

/-- The end of a decimal number: an imaginary mark, or the check of what follows. -/
def imaginaryOrEnd (real : Bool) : Text → Except Text (NumberKind × Text)
  | j :: rest =>
    if is j 'j' || is j 'J' then do endOfNumber "imaginary" rest; pure (.imaginary, rest)
    else do endOfNumber "decimal" (j :: rest); pure (if real then .real else .integer, j :: rest)
  | [] => .ok (if real then .real else .integer, [])

/-- The exponent of a decimal number, if one follows, then its end. -/
def exponentPart (real : Bool) (s : Text) : Except Text (NumberKind × Text) :=
  let plain : Except Text (NumberKind × Text) := do
    endOfNumber "decimal" s
    pure (if real then .real else .integer, s)
  match s with
  | e :: rest =>
    if is e 'e' || is e 'E' then
      match rest with
      | q :: more =>
        if is q '+' || is q '-' then
          match more with
          | d :: _ =>
            if isDigit d then do imaginaryOrEnd true (← digitTail more)
            else .error (Text.ofString "invalid decimal literal")
          | [] => .error (Text.ofString "invalid decimal literal")
        else if isDigit q then do imaginaryOrEnd true (← digitTail rest)
        else plain
      | [] => plain
    else imaginaryOrEnd real s
  | [] => imaginaryOrEnd real s

/-- The fraction of a decimal number after its point, then its exponent and end. -/
def fractionPart (s : Text) : Except Text (NumberKind × Text) :=
  match s with
  | d :: _ => if isDigit d then do exponentPart true (← digitTail s) else exponentPart true s
  | [] => exponentPart true s

/-- Whether a point is a digit of a radix. -/
def inRadix (base : Nat) (p : Point) : Bool :=
  if base = 16 then
    isDigit p || ('a'.toNat ≤ p.code && p.code ≤ 'f'.toNat) || ('A'.toNat ≤ p.code && p.code ≤ 'F'.toNat)
  else isDigit p && p.code - '0'.toNat < base

/-- The error of a digit outside a radix. -/
def badDigit (kind : String) (p : Point) : Text :=
  Text.ofString "invalid digit '" ++ [p] ++ Text.ofString ("' in " ++ kind ++ " literal")

/-- Reads groups of digits of a radix, each group after an optional underscore. -/
def radixGroups (base : Nat) (kind : String) : Nat → Text → Except Text Text
  | 0, s => .ok s
  | fuel + 1, s =>
    let s := match s with
      | p :: rest => if is p '_' then rest else p :: rest
      | [] => []
    match s with
    | p :: _ =>
      if inRadix base p then
        let rest := s.dropWhile (inRadix base)
        match rest with
        | q :: _ => if is q '_' then radixGroups base kind fuel rest else .ok rest
        | [] => .ok rest
      else if base ≠ 16 ∧ isDigit p then .error (badDigit kind p)
      else .error (Text.ofString ("invalid " ++ kind ++ " literal"))
    | [] => .error (Text.ofString ("invalid " ++ kind ++ " literal"))

/-- A number in a radix after its `0x`, `0o` or `0b`. -/
def radixNumber (base : Nat) (kind : String) (s : Text) : Except Text (NumberKind × Text) := do
  let rest ← radixGroups base kind (s.length + 1) s
  match rest with
  | p :: _ => if base ≠ 16 ∧ isDigit p then throw (badDigit kind p) else pure ()
  | [] => pure ()
  endOfNumber kind rest
  pure (.integer, rest)

/-- Skips zeros and underscores between digits after a leading zero. -/
def skipZeros : Nat → Text → Except Text Text
  | 0, s => .ok s
  | fuel + 1, s =>
    match s with
    | p :: rest =>
      if is p '_' then
        match rest with
        | q :: more =>
          if !isDigit q then .error (Text.ofString "invalid decimal literal")
          else if is q '0' then skipZeros fuel more
          else .ok rest
        | [] => .error (Text.ofString "invalid decimal literal")
      else if is p '0' then skipZeros fuel rest
      else .ok s
    | [] => .ok s

/-- What follows the digits of a decimal number that started with a zero. -/
def afterZeros (nonzero : Bool) (r : Text) : Except Text (NumberKind × Text) :=
  let leading := Text.ofString ("leading zeros in decimal integer literals are not permitted; " ++
    "use an 0o prefix for octal integers")
  match r with
  | p :: rest =>
    if is p '.' then fractionPart rest
    else if is p 'e' || is p 'E' then exponentPart false r
    else if is p 'j' || is p 'J' then imaginaryOrEnd false r
    else if nonzero then .error leading
    else do endOfNumber "decimal" r; pure (.integer, r)
  | [] => if nonzero then .error leading else .ok (.integer, [])

/-- A number at the head of the text: its kind and the rest, or the error of a malformed one. -/
def number (s : Text) : Except Text (NumberKind × Text) :=
  match s with
  | p :: rest =>
    if is p '.' then fractionPart rest
    else if is p '0' then
      match rest with
      | x :: more =>
        if is x 'x' || is x 'X' then radixNumber 16 "hexadecimal" more
        else if is x 'o' || is x 'O' then radixNumber 8 "octal" more
        else if is x 'b' || is x 'B' then radixNumber 2 "binary" more
        else do
          let r ← skipZeros (rest.length + 1) rest
          match r with
          | d :: _ => if isDigit d then afterZeros true (← digitTail r) else afterZeros false r
          | [] => afterZeros false []
      | [] => .ok (.integer, [])
    else do
      let r ← digitTail s
      match r with
      | q :: more => if is q '.' then fractionPart more else exponentPart false r
      | [] => exponentPart false []
  | [] => .ok (.integer, [])

/-- The string prefix at the head of a run of name points, when its letters are a valid
combination and a quote follows them: whether bytes, whether formatted, whether raw, and the
rest from the quote. -/
def stringPrefix (s : Text) : Option (Bool × Bool × Bool × Text) :=
  let rec go : Nat → Text → Bool → Bool → Bool → Bool → Option (Bool × Bool × Bool × Text)
    | 0, _, _, _, _, _ => none
    | _, [], _, _, _, _ => none
    | fuel + 1, p :: rest, b, r, u, f =>
      let next : Option (Bool × Bool × Bool × Bool) :=
        if !(b || u || f) && (is p 'b' || is p 'B') then some (true, r, u, f)
        else if !(b || u || r || f) && (is p 'u' || is p 'U') then some (b, r, true, f)
        else if !(r || u) && (is p 'r' || is p 'R') then some (b, true, u, f)
        else if !(f || b || u) && (is p 'f' || is p 'F') then some (b, r, u, true)
        else none
      match next with
      | none => none
      | some (b, r, u, f) =>
        match rest with
        | q :: _ => if is q '\'' || is q '"' then some (b, f, r, rest) else go fuel rest b r u f
        | [] => none
  go 4 s false false false false

/-- The body of a string after its opening quotes, gathered in reverse in `acc`: the body, the
rest after the closing quotes and the line reached. A line end ends a one-quote string
unfinished; a backslash takes the point after it into the body. -/
def stringBody (quote : Point) (triple : Bool) (line : Nat) (acc : Text) :
    Text → Except Text (Text × Text × Nat)
  | [] =>
    .error (Text.ofString ((if triple then "unterminated triple-quoted string literal"
      else "unterminated string literal") ++ " (detected at line " ++ toString line ++ ")"))
  | p :: rest =>
    if is p '\n' && !triple then
      .error (Text.ofString ("unterminated string literal (detected at line " ++ toString line ++ ")"))
    else if p == quote && !triple then .ok (acc.reverse, rest, line)
    else if p == quote then
      match rest with
      | q1 :: q2 :: more =>
        if q1 == quote && q2 == quote then .ok (acc.reverse, more, line)
        else stringBody quote triple line (p :: acc) rest
      | _ => stringBody quote triple line (p :: acc) rest
    else if is p '\\' then
      match rest with
      | q :: more => stringBody quote triple (if is q '\n' then line + 1 else line) (q :: p :: acc) more
      | [] => stringBody quote triple line (p :: acc) []
    else stringBody quote triple (if is p '\n' then line + 1 else line) (p :: acc) rest

/-- A string starting at its quote: the token, whether it is an empty string of single quotes
(whose end is only known from the point after it), the rest and the line reached. -/
def stringToken (bytes formatted raw : Bool) (s : Text) (line : Nat) :
    Except Text (Token × Bool × Text × Nat) :=
  match s with
  | q :: rest =>
    let (triple, body) := match rest with
      | a :: b :: more => if a == q && b == q then (true, more) else (false, rest)
      | _ => (false, rest)
    let empty := match rest with
      | a :: more => if a == q && !triple then some more else none
      | [] => none
    match empty with
    | some more => .ok (.string bytes formatted raw [], true, more, line)
    | none => do
      let (content, after, line) ← stringBody q triple line [] body
      pure (.string bytes formatted raw content, false, after, line)
  | [] => .error (Text.ofString "unterminated string literal (detected at line 1)")

/-- The error of a run of name points that is no name: the first point that cannot stand where
it stands. -/
def badName (run : Text) : Option Text :=
  if run.all (·.code < 0x80) then none
  else
    let bad := run.zipIdx.find? fun (p, i) => if i = 0 then !startsName p else !continuesName p
    bad.map fun (p, _) =>
      if p.isPrintable then
        Text.ofString "invalid character '" ++ [p] ++ Text.ofString ("' (U+" ++ hexUpper p.code ++ ")")
      else Text.ofString ("invalid non-printable character U+" ++ hexUpper p.code)

/-- The operators of three points. -/
def ops3 : List String := ["**=", "...", "//=", "<<=", ">>="]

/-- The operators of two points. -/
def ops2 : List String :=
  ["!=", "%=", "&=", "**", "*=", "+=", "-=", "->", "//", "/=", ":=", "<<", "<=", "<>", "==", ">=",
   ">>", "@=", "^=", "|="]

/-- The state of scanning: the text left, the line, the open brackets with their lines, the
indentation of the open blocks (innermost first), whether a line has just begun at depth zero,
and the tokens so far. -/
structure Scan where
  rest : Text
  line : Nat
  opened : List (Point × Nat)
  indents : List Nat
  lineStart : Bool
  lexemes : Array Lexeme

/-- The state with a token added, at the current depth, starting on the given line; `looked`
tells whether scanning it looked at the point after it, which is past the end when no text
is left. -/
def Scan.pushLooking (st : Scan) (t : Token) (line : Nat) (looked : Bool) : Scan :=
  { st with lexemes := st.lexemes.push ⟨t, st.opened.length, line, looked && st.rest.isEmpty⟩ }

/-- The state with a token added, at the current depth, starting on the given line. -/
def Scan.push (st : Scan) (t : Token) (line : Nat) : Scan := st.pushLooking t line t.looksPast

/-- The state with a token added on the current line. -/
def Scan.emit (st : Scan) (t : Token) : Scan := st.push t st.line

/-- Stops with an error the scanner raises. -/
def Scan.fail (st : Scan) (msg : Text) : Array Lexeme × Option Fault :=
  (st.lexemes, some ⟨msg, true, st.opened.head?⟩)

/-- Stops with an error the parser reports on reaching it. -/
def Scan.stop (st : Scan) (msg : Text) : Array Lexeme × Option Fault :=
  (st.lexemes, some ⟨msg, false, st.opened.head?⟩)

/-- The closing bracket of an opening one. -/
def closerOf (p : Point) : Point :=
  if is p '(' then Point.ofChar ')' else if is p '[' then Point.ofChar ']' else Point.ofChar '}'

/-- The message of a bracket never closed. -/
def neverClosed (b : Point) : Text := Text.ofString "'" ++ [b] ++ Text.ofString "' was never closed"

/-- Whether a point is a blank between tokens. -/
def isBlankish (p : Point) : Bool := is p ' ' || is p '\t' || p.code == 12

/-- What the indentation at the head of a line comes to: its column, the lines it ran over and
the text after it; or the error of a backslash before something other than a line end, or
before the line end that ends the text. -/
inductive Indentation where
  | column (col lines : Nat) (rest : Text)
  | strayBackslash
  | endAfterBackslash

/-- The indentation at the head of the text, from column `col`: a tab moves to the next
multiple of eight and a form feed back to the start. A backslash ending a line carries the
indentation on to the next line, and the column of the first such backslash past the start,
`held` when not zero, is the line's column. -/
def indentation : Nat → Nat → Nat → Text → Indentation
  | col, held, lines, p :: rest =>
    if is p ' ' then indentation (col + 1) held lines rest
    else if is p '\t' then indentation ((col / 8 + 1) * 8) held lines rest
    else if p.code == 12 then indentation 0 held lines rest
    else if is p '\\' then
      match rest with
      | q :: more =>
        if !is q '\n' then .strayBackslash
        else if more.isEmpty then .endAfterBackslash
        else indentation col (if held = 0 then col else held) (lines + 1) more
      | [] => .strayBackslash
    else .column (if held = 0 then col else held) lines (p :: rest)
  | col, held, lines, [] => .column (if held = 0 then col else held) lines []

/-- The state after the indentation at the start of a line: blank lines are skipped, a deeper
line opens a block and a shallower one closes blocks down to its own column. A line of blanks
that ends the text is no blank line. -/
def Scan.startLine (st : Scan) : Except (Array Lexeme × Option Fault) Scan :=
  match indentation 0 0 0 st.rest with
  | .strayBackslash =>
    .error (st.stop (Text.ofString "unexpected character after line continuation character"))
  | .endAfterBackslash => .error (st.stop (Text.ofString "unexpected EOF while parsing"))
  | .column col lines after =>
    let blank := match after with
      | [] => false
      | p :: _ => is p '\n' || is p '#'
    let st := { st with rest := after, line := st.line + lines, lineStart := false }
    if blank then .ok st
    else
      let top := st.indents.head?.getD 0
      if col == top then .ok st
      else if col > top then .ok ({ st with indents := col :: st.indents }.emit .indent)
      else
        let closed := st.indents.takeWhile (· > col)
        let kept := st.indents.drop closed.length
        if kept.head?.getD 0 != col then
          .error (st.stop (Text.ofString "unindent does not match any outer indentation level"))
        else .ok (closed.foldl (fun s _ => s.emit .dedent) { st with indents := kept })

/-- Scans the tokens of the text left; stops at the end or at the first error. -/
def scan : Nat → Scan → Array Lexeme × Option Fault
  | 0, st => (st.lexemes, none)
  | fuel + 1, st =>
    if st.lineStart then
      match st.startLine with
      | .ok st => scan fuel st
      | .error out => out
    else
    match st.rest with
    | [] =>
      match st.opened with
      | (b, _) :: _ => st.stop (neverClosed b)
      | [] => ((st.emit .finish).lexemes, none)
    | p :: rest =>
      if isBlankish p then scan fuel { st with rest := rest }
      else if is p '#' then scan fuel { st with rest := rest.dropWhile (!is · '\n') }
      else if is p '\n' then
        let st := { st with rest := rest, line := st.line + 1 }
        if !st.opened.isEmpty then scan fuel st
        else
          let last := st.lexemes.back?.map Lexeme.token
          if last.isNone || last == some .newline then scan fuel { st with lineStart := true }
          else scan fuel ({ st with lineStart := true }.push .newline (st.line - 1))
      else if is p '\\' then
        match rest with
        | q :: more =>
          if is q '\n' then
            if more.isEmpty then
              if st.opened.isEmpty then st.stop (Text.ofString "unexpected EOF while parsing")
              else st.stop (neverClosed (st.opened.head?.map Prod.fst |>.getD p))
            else scan fuel { st with rest := more, line := st.line + 1 }
          else st.stop (Text.ofString "unexpected character after line continuation character")
        | [] => st.stop (Text.ofString "unexpected character after line continuation character")
      else if isDigit p || (is p '.' && rest.head?.any isDigit) then
        match number (p :: rest) with
        | .ok (kind, after) => scan fuel ({ st with rest := after }.emit (.number kind))
        | .error e => st.fail e
      else if is p '\'' || is p '"' then
        match stringToken false false false (p :: rest) st.line with
        | .ok (t, looked, after, line) =>
          scan fuel ({ st with rest := after, line := line }.pushLooking t st.line looked)
        | .error e => st.fail e
      else if mayName p then
        match stringPrefix (p :: rest) with
        | some (bytes, formatted, raw, fromQuote) =>
          match stringToken bytes formatted raw fromQuote st.line with
          | .ok (t, looked, after, line) =>
            scan fuel ({ st with rest := after, line := line }.pushLooking t st.line looked)
          | .error e => st.fail e
        | none =>
          let run := (p :: rest).takeWhile mayName
          match badName run with
          | some e => st.fail e
          | none => scan fuel ({ st with rest := (p :: rest).drop run.length }.emit (.name run))
      else if is p '(' || is p '[' || is p '{' then
        if st.opened.length ≥ 200 then st.fail (Text.ofString "too many nested parentheses")
        else
          let st := { st with rest := rest, opened := (p, st.line) :: st.opened }
          scan fuel (st.emit (.op (String.singleton p.toChar)))
      else if is p ')' || is p ']' || is p '}' then
        match st.opened with
        | [] => st.fail (Text.ofString "unmatched '" ++ [p] ++ Text.ofString "'")
        | (b, bline) :: outer =>
          if closerOf b != p then
            let tail := if bline = st.line then "" else " on line " ++ toString bline
            st.fail (Text.ofString "closing parenthesis '" ++ [p] ++
              Text.ofString "' does not match opening parenthesis '" ++ [b] ++ Text.ofString ("'" ++ tail))
          else scan fuel ({ st with rest := rest, opened := outer }.emit (.op (String.singleton p.toChar)))
      else
        let three := (p :: rest).take 3
        let two := (p :: rest).take 2
        match ops3.find? (fun o => Text.ofString o == three) with
        | some o => scan fuel ({ st with rest := rest.drop 2 }.emit (.op o))
        | none =>
          match ops2.find? (fun o => Text.ofString o == two) with
          | some o => scan fuel ({ st with rest := rest.drop 1 }.emit (.op o))
          | none => scan fuel ({ st with rest := rest }.emit (.op (String.singleton p.toChar)))

/-- Line ends written as carriage return and line feed, or carriage return alone, read as one
line feed. -/
def unifyLines : Text → Text
  | [] => []
  | p :: rest =>
    if p.code == 13 then
      match rest with
      | q :: more => if is q '\n' then q :: unifyLines more else Point.ofChar '\n' :: unifyLines (q :: more)
      | [] => [Point.ofChar '\n']
    else p :: unifyLines rest

/-- The tokens of an expression, the error scanning stopped at, if it stopped at one, and the
errors found inside formatted strings, by the index of their token. -/
structure Source where
  lexemes : Array Lexeme
  fault : Option Fault
  formattedFaults : List (Nat × Text)

/-- Scans a text. -/
def tokenize (t : Text) : Source :=
  let t := unifyLines t
  let (lexemes, fault) := scan (2 * t.length + 2) ⟨t, 1, [], [0], true, #[]⟩
  ⟨lexemes, fault, []⟩

end TagLiteral

end FarmSetup
