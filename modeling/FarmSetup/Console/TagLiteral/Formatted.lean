import FarmSetup.Console.TagLiteral.Escapes
/-!
Formatted strings. The body of a formatted string is literal text with replacement fields in
braces. Outside fields a doubled brace stands for one brace and a single closing brace is an
error; a backslash takes the point after it along, and a `\N{...}` escape is passed over whole.
A field holds an expression, then optionally `=` with blanks after it, a conversion `!s`, `!r`
or `!a`, and a format spec after `:`, which is again literal text with fields, one level deep at
most. The end of a field's expression is found by a scan that passes over quoted text and
matches brackets; the expression may hold neither a backslash nor `#`. An expression of blanks
only is refused, and any other is checked by the caller's `compile`, which gives its error.
Each literal part is decoded as it is reached, so the first error in reading order stands.
-/

namespace FarmSetup

namespace TagLiteral

namespace Formatted

/-- An error of the structure of a formatted string. -/
def fail {α : Type} (msg : String) : Except Text α := .error (Text.ofString ("f-string: " ++ msg))

/-- Whether the point at index `i` of the body is `c`; past the end there is none. -/
def pointIs (s : Array Point) (i : Nat) (c : Char) : Bool := (s[i]?).any (is · c)

/-- The points of the body from index `a` below index `b`. -/
def slice (s : Array Point) (a b : Nat) : Text := (s.extract a b).toList

/-- The index after the first `}` at or after index `i`, or the end of the body. -/
def afterClose (s : Array Point) : Nat → Nat → Nat
  | 0, i => i
  | fuel + 1, i =>
    match s[i]? with
    | none => i
    | some p => if is p '}' then i + 1 else afterClose s fuel (i + 1)

/-- Scans literal text from index `i` at nesting `level`: the index where it ends, and the index
to go on from when it ends after the first of a doubled brace. A brace that ends the text
stands at the index returned. -/
def literalEnd (s : Array Point) (raw : Bool) (level : Nat) : Nat → Nat → Except Text (Nat × Option Nat)
  | 0, i => .ok (i, none)
  | fuel + 1, i =>
    match s[i]? with
    | none => .ok (i, none)
    | some p =>
      let escaped := !raw && is p '\\' && i + 1 < s.size
      if escaped && pointIs s (i + 1) 'N' then
        if i + 2 < s.size then
          if pointIs s (i + 2) '{' then literalEnd s raw level fuel (afterClose s s.size (i + 3))
          else literalEnd s raw level fuel (i + 3)
        else literalEnd s raw level fuel (i + 2)
      else
        let j := if escaped then i + 2 else i + 1
        let ch := if escaped then s[i + 1]?.getD p else p
        if is ch '{' || is ch '}' then
          if level = 0 && pointIs s j (if is ch '{' then '{' else '}') then .ok (j, some (j + 1))
          else if level = 0 && is ch '}' then fail "single '\x7d' is not allowed"
          else .ok (j - 1, none)
        else literalEnd s raw level fuel j

/-- The error of decoding a literal part, if it is not raw. -/
def decodeLiteral (raw : Bool) (part : Text) : Except Text Unit :=
  if raw then .ok ()
  else match textEscapeError part with
    | some e => .error e
    | none => .ok ()

/-- Whether a point and the one after it make a two-point comparison. -/
def comparesWith (ch : Point) (next : Option Point) : Bool :=
  (is ch '!' || is ch '=' || is ch '<' || is ch '>') && next.any (is · '=')

/-- The opening bracket a closing one matches. -/
def opening (ch : Point) : Char := if is ch ')' then '(' else if is ch ']' then '[' else '{'

/-- Scans a field's expression from index `i`, inside the quote `quote` (triple or not) and
the open brackets `stack`, innermost first: the index of the point that ends it, one of
`!`, `:`, `}` and `=` outside brackets. -/
def expressionEnd (s : Array Point) :
    Nat → Nat → Option (Point × Bool) → List Point → Except Text Nat
  | 0, i, _, _ => .ok i
  | fuel + 1, i, quote, stack =>
    match s[i]? with
    | none =>
      if quote.isSome then fail "unterminated string"
      else match stack with
        | o :: _ => fail ("unmatched '" ++ String.singleton o.toChar ++ "'")
        | [] => fail "expecting '\x7d'"
    | some ch =>
      let tripled := i + 2 < s.size && s[i + 1]? == some ch && s[i + 2]? == some ch
      if is ch '\\' then .error (Text.ofString "f-string expression part cannot include a backslash")
      else match quote with
        | some (q, triple) =>
          if ch == q then
            if triple then
              if tripled then expressionEnd s fuel (i + 3) none stack
              else expressionEnd s fuel (i + 1) quote stack
            else expressionEnd s fuel (i + 1) none stack
          else expressionEnd s fuel (i + 1) quote stack
        | none =>
          if is ch '\'' || is ch '"' then
            if tripled then expressionEnd s fuel (i + 3) (some (ch, true)) stack
            else expressionEnd s fuel (i + 1) (some (ch, false)) stack
          else if is ch '[' || is ch '{' || is ch '(' then
            if stack.length ≥ 200 then fail "too many nested parenthesis"
            else expressionEnd s fuel (i + 1) quote (ch :: stack)
          else if is ch '#' then .error (Text.ofString "f-string expression part cannot include '#'")
          else if stack.isEmpty && (is ch '!' || is ch ':' || is ch '}' || is ch '=' ||
              is ch '>' || is ch '<') then
            if i + 1 < s.size && comparesWith ch s[i + 1]? then expressionEnd s fuel (i + 2) quote stack
            else if is ch '>' || is ch '<' then expressionEnd s fuel (i + 1) quote stack
            else .ok i
          else if is ch ']' || is ch '}' || is ch ')' then
            match stack with
            | [] => fail ("unmatched '" ++ String.singleton ch.toChar ++ "'")
            | o :: rest =>
              if is o (opening ch) then expressionEnd s fuel (i + 1) quote rest
              else fail ("closing parenthesis '" ++ String.singleton ch.toChar ++
                "' does not match opening parenthesis '" ++ String.singleton o.toChar ++ "'")
          else expressionEnd s fuel (i + 1) quote stack

/-- Whether a point is a blank that the expression reader passes over. -/
def isFieldBlank (p : Point) : Bool := is p ' ' || is p '\t' || is p '\n' || p.code == 12

/-- Whether a point is white space as the conversion after `=` skips it. -/
def isSpace (p : Point) : Bool := isFieldBlank p || p.code == 11 || p.code == 13

/-- The index of the first point at or after `i` that is no white space. -/
def skipSpace (s : Array Point) : Nat → Nat → Nat
  | 0, i => i
  | fuel + 1, i => if (s[i]?).any isSpace then skipSpace s fuel (i + 1) else i

/-- Checks an expression's text: blanks only are refused, by what follows them; any other
text goes to `compile`. -/
def checkExpression (compile : Text → Option Text) (text : Text) (after : Option Point) :
    Except Text Unit :=
  if text.all isFieldBlank then
    match after with
    | some c =>
      if is c '!' || is c ':' || is c '=' then
        fail ("expression required before '" ++ String.singleton c.toChar ++ "'")
      else fail "empty expression not allowed"
    | none => fail "empty expression not allowed"
  else match compile text with
    | some e => .error e
    | none => .ok ()

mutual

/-- Reads literal text and fields from index `i` at nesting `level`, up to the end of the body
or, in a format spec, the `}` that closes it; gives the index it stopped at. -/
def parts (compile : Text → Option Text) (s : Array Point) (raw : Bool) (level : Nat) :
    Nat → Nat → Except Text Nat
  | 0, i => .ok i
  | fuel + 1, i => do
    let (stop, resume) ← literalEnd s raw level (s.size + 1) i
    decodeLiteral raw (slice s i stop)
    match resume with
    | some j => parts compile s raw level fuel j
    | none =>
      if stop ≥ s.size || pointIs s stop '}' then
        if level ≠ 0 && !pointIs s stop '}' then fail "expecting '\x7d'" else .ok stop
      else
        let j ← field compile s raw level fuel stop
        parts compile s raw level fuel j

/-- Reads the field whose `{` stands at index `i`: its expression, then `=`, a conversion and
a format spec, each if present, and the closing `}`; gives the index after it. -/
def field (compile : Text → Option Text) (s : Array Point) (raw : Bool) (level : Nat) :
    Nat → Nat → Except Text Nat
  | 0, i => .ok i
  | fuel + 1, i => do
    if level ≥ 2 then fail "expressions nested too deeply"
    let stop ← expressionEnd s (s.size + 1) (i + 1) none []
    checkExpression compile (slice s (i + 1) stop) s[stop]?
    let j ←
      if pointIs s stop '=' then
        let j := skipSpace s (s.size + 1) (stop + 1)
        if j ≥ s.size then fail "expecting '\x7d'" else pure j
      else pure stop
    let j ←
      if pointIs s j '!' then
        if j + 1 ≥ s.size then fail "expecting '\x7d'"
        else if (s[j + 1]?).any (fun c => is c 's' || is c 'r' || is c 'a') then pure (j + 2)
        else fail "invalid conversion character: expected 's', 'r', or 'a'"
      else pure j
    let j ←
      if pointIs s j ':' then
        if j + 1 ≥ s.size then fail "expecting '\x7d'"
        else parts compile s raw (level + 1) fuel (j + 1)
      else pure j
    if pointIs s j '}' then pure (j + 1) else fail "expecting '\x7d'"

end

/-- The first error of a formatted string's body, raw or not, with `compile` giving the error
of a field's expression. -/
def fault (compile : Text → Option Text) (raw : Bool) (body : Text) : Option Text :=
  let s := body.toArray
  match parts compile s raw 0 (2 * s.size + 4) 0 with
  | .ok _ => none
  | .error e => some e

example : fault (fun _ => none) false (Text.ofString "a\x7bb!r:>\x7bc\x7d\x7dd\x7b\x7b") = none := by decide +kernel
example : fault (fun _ => none) false (Text.ofString "\x7bx\x7d\x7d") =
    some (Text.ofString "f-string: single '\x7d' is not allowed") := by decide +kernel

end Formatted

end TagLiteral

end FarmSetup
