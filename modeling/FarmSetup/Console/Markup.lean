import FarmSetup.Console.Emoji
import FarmSetup.Console.Style
import FarmSetup.Console.TagLiteral.Read
/-!
Console markup. A tag is `[` with a lower-case letter, `#`, `/` or `@` after it and text up to
the first `]` with no `[` before it; backslashes right before the `[` escape it in pairs, an odd
one leaving the tag as text. An opening tag pushes its normalized style name; a closing tag
`[/name]` closes the latest open tag of the same normalized name, and `[/]` the latest of any.
A closing tag with nothing to close is an error that names the tag and its position in the
markup. When a tag whose name starts with `@` and that has parameters is closed, the
parameters, or the part in parentheses after a dotted name, must read as a literal; an error
names them and the reader's message. What is printed is the text between the tags, with
`\[` read as `[`, emoji codes replaced and the terminal controls bell, backspace, vertical
tab, form feed and carriage return removed.
-/

namespace FarmSetup

/-- Why markup could not be rendered. -/
inductive MarkupError where
  /-- A closing tag, written as it stands, closes no open tag of its name. -/
  | unmatched (tag : Text) (position : Nat)
  /-- A `[/]` at a position found no open tag. -/
  | nothingToClose (position : Nat)
  /-- A colour component in a style name is no number. -/
  | badNumber
  /-- The text read from a tag's parameters is no valid expression. -/
  | unreadable (read parameters message : Text)
  /-- A tag's parameters parse but are no literal. -/
  | notLiteral (parameters message : Text)
deriving DecidableEq

namespace MarkupError

/-- The class of error the program reports. -/
def className : MarkupError → String
  | badNumber => "ValueError"
  | _ => "MarkupError"

/-- The message the program reports. -/
def message : MarkupError → Text
  | unmatched tag n => Text.ofString "closing tag '" ++ tag ++
      Text.ofString ("' at position " ++ toString n ++ " doesn't match any open tag")
  | nothingToClose n =>
      Text.ofString ("closing tag '[/]' at position " ++ toString n ++ " has nothing to close")
  | badNumber => Text.ofString "invalid literal for int() with base 10: ''"
  | unreadable read parameters m => Text.ofString "error parsing " ++ Literal.quoteText read ++
      Text.ofString " in " ++ Literal.quoteText parameters ++ Text.ofString "; " ++ m
  | notLiteral parameters m =>
      Text.ofString "error parsing " ++ Literal.quoteText parameters ++ Text.ofString "; " ++ m

end MarkupError

namespace Markup

/-- A piece of markup: text to print, or a tag with its name and parameters, each with the
position it starts at. -/
inductive Piece where
  | plain (t : Text)
  | tag (position : Nat) (name : Text) (parameters : Option Text)

/-- Whether a point may follow the `[` of a tag. -/
def opensTag (p : Point) : Bool :=
  ('a'.toNat ≤ p.code ∧ p.code ≤ 'z'.toNat) || p == Point.ofChar '#' || p == Point.ofChar '/' ||
    p == Point.ofChar '@'

/-- The text of a tag at the head of `s`, after its `[`: the points up to the first `]`, if no
`[` comes before it. -/
def tagBody : Text → Option Text
  | [] => none
  | p :: rest =>
    if p == Point.ofChar ']' then some []
    else if p == Point.ofChar '[' then none
    else (tagBody rest).map (p :: ·)

/-- The tag that starts at the head of `s`: the number of backslashes before its `[` and its
text, if one starts there. -/
def tagAt (s : Text) : Option (Nat × Text) :=
  let escapes := (s.takeWhile (· == Point.ofChar '\\')).length
  match s.drop escapes with
  | b :: c :: rest =>
    if b == Point.ofChar '[' && opensTag c then (tagBody rest).map fun body => (escapes, c :: body)
    else none
  | _ => none

/-- The pieces of a tag found at `position` with `escapes` backslashes before it: pairs of
backslashes print as one each, and an odd one prints the tag as text. -/
def tagPieces (position escapes : Nat) (body : Text) : List Piece :=
  let backslashes := escapes / 2
  let slashes := if backslashes = 0 then [] else [Piece.plain (List.replicate backslashes (Point.ofChar '\\'))]
  if escapes % 2 = 1 then
    slashes ++ [.plain ((Point.ofChar '[' :: body) ++ [Point.ofChar ']'])]
  else
    let eq := Point.ofChar '='
    let name := body.takeWhile (· != eq)
    let parameters := if body.contains eq then some (body.drop (name.length + 1)) else none
    slashes ++ [.tag (position + 2 * backslashes) name parameters]

/-- Splits markup into pieces, scanning from `position` with `held` text not yet emitted. -/
def pieces (s : Text) (position : Nat) (held : Text) : List Piece :=
  match s with
  | [] => if held.isEmpty then [] else [.plain held.reverse]
  | p :: rest =>
    match tagAt (p :: rest) with
    | some (escapes, body) =>
      let width := escapes + body.length + 2
      (if held.isEmpty then [] else [Piece.plain held.reverse]) ++
        tagPieces position escapes body ++ pieces ((p :: rest).drop width) (position + width) []
    | none => pieces rest (position + 1) (p :: held)
termination_by s.length
decreasing_by all_goals simp only [List.length_cons, List.length_drop]; omega

/-- The text with every backslash right before a `[` dropped. -/
def unescape : Text → Text
  | [] => []
  | [p] => [p]
  | p :: q :: rest =>
    if p == Point.ofChar '\\' && q == Point.ofChar '[' then q :: unescape rest
    else p :: unescape (q :: rest)

/-- The points the terminal text leaves out. -/
def isStripped (p : Point) : Bool := [7, 8, 11, 12, 13].contains p.code

/-- Checks the parameters of a closed tag: those of a tag named with `@` must read as a
literal. -/
def checkClosed (key : Text) (parameters : Option Text) : Except MarkupError Unit :=
  match key, parameters with
  | first :: _, some ps@(_ :: _) =>
    if first == Point.ofChar '@' then
      let read := TagLiteral.readAs ps
      match TagLiteral.read read with
      | .ok () => .ok ()
      | .error (.unparsed m) => .error (.unreadable read ps m)
      | .error (.other m) => .error (.notLiteral ps m)
    else .ok ()
  | _, _ => .ok ()

/-- Renders pieces with the stack of open tags, newest first, each with its parameters. -/
def renderPieces : List Piece → List (Text × Option Text) → Except MarkupError Text
  | [], _ => .ok []
  | .plain t :: rest, stack =>
    (renderPieces rest stack).map fun after => Emoji.replace (unescape t) ++ after
  | .tag position name parameters :: rest, stack =>
    match name with
    | slash :: closing =>
      if slash == Point.ofChar '/' then
        let wanted := Text.trim closing
        if wanted.isEmpty then
          match stack with
          | [] => .error (.nothingToClose position)
          | (key, ps) :: stack => do
            checkClosed key ps
            renderPieces rest stack
        else
          match Style.normalize wanted with
          | .error _ => .error .badNumber
          | .ok key =>
            match stack.findIdx? (·.1 == key) with
            | some k => do
              match stack[k]? with
              | some (key, ps) => checkClosed key ps
              | none => pure ()
              renderPieces rest (stack.eraseIdx k)
            | none =>
              let written := match parameters with
                | some ps => (Point.ofChar '[' :: name) ++ [Point.ofChar '='] ++ ps ++ [Point.ofChar ']']
                | none => (Point.ofChar '[' :: name) ++ [Point.ofChar ']']
              .error (.unmatched written position)
      else
        match Style.normalize name with
        | .error _ => .error .badNumber
        | .ok key => renderPieces rest ((key, parameters) :: stack)
    | [] => renderPieces rest stack

/-- The printed text of markup. -/
def render (markup : Text) : Except MarkupError Text :=
  let printed :=
    if markup.contains (Point.ofChar '[') then renderPieces (pieces markup 0 []) []
    else .ok (Emoji.replace markup)
  printed.map fun t => t.filter (!isStripped ·)

example : (render (Text.ofString "[red]a \\[b] c[/red]")).toOption =
    some (Text.ofString "a [b] c") := by decide +kernel
example : (match render (Text.ofString "[red]x[/bad]") with | .error e => some e | .ok _ => none) =
    some (.unmatched (Text.ofString "[/bad]") 6) := by decide +kernel

end Markup

end FarmSetup
