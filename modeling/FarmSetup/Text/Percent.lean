import FarmSetup.Json.Literal
import FarmSetup.Number.Fixed
/-!
Percent formatting of a message with arguments, as log records are rendered. A `%` starts a
conversion: an optional `(key)` taken from a mapping, flags among `-+ #0`, a width and a
precision (each a number or `*`), an ignored length letter, and one of `s r a c d i u o x X
e E f F g G`; `%%` is a percent sign. Arguments are a sequence consumed in order, or a single
mapping. Too few arguments, arguments left over, and an argument of the wrong kind are errors,
each with its own text.
-/

namespace FarmSetup

namespace Percent

/-- The two sizes of a conversion. The width is held in a signed 64-bit word and the
precision in a signed 32-bit integer, so each has its own largest value. -/
inductive Size where
  | width
  | precision
deriving DecidableEq

namespace Size

/-- The word's name in the error text. -/
def word : Size → String
  | width => "width"
  | precision => "precision"

/-- The largest value the size holds. -/
def limit : Size → Nat
  | width => Nat.pow 2 63 - 1
  | precision => Nat.pow 2 31 - 1

/-- The name of the machine type an argument for the size is converted to. -/
def machineType : Size → String
  | width => "C ssize_t"
  | precision => "C int"

end Size

/-- Why a message cannot be formatted. -/
inductive Error where
  | notEnough
  | notAll
  | incomplete
  | incompleteKey
  | needsMapping
  | unsupported (code : Nat) (index : Nat)
  | needsReal (conv : Char) (kind : String)
  | needsInteger (conv : Char) (kind : String)
  | needsChar
  | charRange
  | starWantsInt
  | mustBeReal (kind : String)
  | missingKey (key : Text)
  | infinite
  | notANumber
  | tooLargeForFloat
  /-- Written digits of a size pass its largest value. -/
  | sizeTooBig (size : Size)
  /-- A `*` argument for a size lies outside the size's machine type. -/
  | starOverflow (size : Size)
  /-- An integer conversion's precision leaves no room for the sign and prefix. -/
  | precisionTooLarge
  /-- The padding to a width is more text than memory can hold. -/
  | noRoom
deriving DecidableEq

namespace Error

/-- The class of error reported. -/
def className : Error → String
  | incomplete | incompleteKey | unsupported .. | notANumber | sizeTooBig _ => "ValueError"
  | charRange | infinite | tooLargeForFloat | starOverflow _ | precisionTooLarge => "OverflowError"
  | missingKey _ => "KeyError"
  | noRoom => "MemoryError"
  | _ => "TypeError"

/-- The message reported. -/
def message : Error → Text
  | notEnough => Text.ofString "not enough arguments for format string"
  | notAll => Text.ofString "not all arguments converted during string formatting"
  | incomplete => Text.ofString "incomplete format"
  | incompleteKey => Text.ofString "incomplete format key"
  | needsMapping => Text.ofString "format requires a mapping"
  | unsupported c i =>
    let shown := if 31 ≤ c ∧ c ≤ 126 then Char.ofNat c else '?'
    Text.ofString ("unsupported format character '" ++ String.singleton shown ++ "' (0x" ++
      String.ofList (Nat.toDigits 16 c) ++ ") at index " ++ toString i)
  | needsReal c k => Text.ofString ("%" ++ String.singleton c ++
      " format: a real number is required, not " ++ k)
  | needsInteger c k => Text.ofString ("%" ++ String.singleton c ++
      " format: an integer is required, not " ++ k)
  | needsChar => Text.ofString "%c requires int or char"
  | charRange => Text.ofString "%c arg not in range(0x110000)"
  | starWantsInt => Text.ofString "* wants int"
  | mustBeReal k => Text.ofString ("must be real number, not " ++ k)
  | missingKey k => Literal.quoteText k
  | infinite => Text.ofString "cannot convert float infinity to integer"
  | notANumber => Text.ofString "cannot convert float NaN to integer"
  | tooLargeForFloat => Text.ofString "int too large to convert to float"
  | sizeTooBig z => Text.ofString (z.word ++ " too big")
  | starOverflow z => Text.ofString ("Python int too large to convert to " ++ z.machineType)
  | precisionTooLarge => Text.ofString "precision too large"
  | noRoom => []

end Error

/-- The widest text that padding may build: a wider one does not fit in memory. -/
def roomLimit : Nat := Nat.pow 2 32

/-- The arguments of a message: a sequence, or one mapping. -/
inductive Args where
  | items (xs : List Json)
  | mapping (members : List (Text × Json))

/-- Where the next argument comes from: the items left, or one value not yet taken. -/
inductive Supply where
  | items (xs : List Json)
  | single (v : Option Json)

/-- Takes the next argument. -/
def Supply.next : Supply → Except Error (Json × Supply)
  | .items (x :: xs) => .ok (x, .items xs)
  | .items [] => .error .notEnough
  | .single (some v) => .ok (v, .single none)
  | .single none => .error .notEnough

/-- The flags and sizes of one conversion. -/
structure Spec where
  left : Bool := false
  plus : Bool := false
  space : Bool := false
  alternate : Bool := false
  zero : Bool := false
  width : Nat := 0
  precision : Option Nat := none

/-- The ASCII form of a literal: every point past ASCII escaped. -/
def asciiOnly (t : Text) : Text :=
  t.flatMap fun p =>
    if p.code < 128 then [p]
    else if p.code ≤ 0xFF then Text.ofString ("\\x" ++ Literal.hexPadded 2 p.code)
    else if p.code ≤ 0xFFFF then Text.ofString ("\\u" ++ Literal.hexPadded 4 p.code)
    else Text.ofString ("\\U" ++ Literal.hexPadded 8 p.code)

/-- Pads a text with blanks to the width, on the right when left-justified. -/
def pad (spec : Spec) (t : Text) : Text :=
  let fill := List.replicate (spec.width - t.length) (Point.ofChar ' ')
  if spec.left then t ++ fill else fill ++ t

/-- Puts sign, prefix and digits together, padding to the width with zeros after the sign and
prefix when asked, else with blanks. -/
def assemble (spec : Spec) (neg : Bool) (pre : String) (body : String) : Text :=
  let sign := if neg then "-" else if spec.plus then "+" else if spec.space then " " else ""
  let len := sign.length + pre.length + body.length
  if spec.zero && !spec.left && len < spec.width then
    Text.ofString (sign ++ pre ++ String.ofList (List.replicate (spec.width - len) '0') ++ body)
  else pad spec (Text.ofString (sign ++ pre ++ body))

/-- An argument as an integer, for `d`, `i` and `u`: numbers are truncated. -/
def asInteger (conv : Char) : Json → Except Error Int
  | .int n => .ok n
  | .bool b => .ok (if b then 1 else 0)
  | .float x => match x with
    | .nan => .error .notANumber
    | .infinite _ => .error .infinite
    | x => .ok ((Binary64.truncate? x).getD 0)
  | j => .error (.needsReal conv j.kindName)

/-- An argument as an exact integer, for `o`, `x` and `X`. -/
def asExact (conv : Char) : Json → Except Error Int
  | .int n => .ok n
  | .bool b => .ok (if b then 1 else 0)
  | j => .error (.needsInteger conv j.kindName)

/-- An argument as a binary64 number, for the floating conversions. -/
def asFloat : Json → Except Error Binary64
  | .float x => .ok x
  | .int n => match Binary64.ofInt n with
    | .infinite _ => .error .tooLargeForFloat
    | x => .ok x
  | .bool b => .ok (Binary64.ofInt (if b then 1 else 0))
  | j => .error (.mustBeReal j.kindName)

/-- Digits of a natural number in a base, lower-case. -/
def digitsIn (base n : Nat) : String := String.ofList (Nat.toDigits base n)

/-- An integer conversion. -/
def integer (spec : Spec) (conv : Char) (n : Int) : Text :=
  let base := if conv = 'o' then 8 else if conv = 'x' ∨ conv = 'X' then 16 else 10
  let ds := digitsIn base n.natAbs
  let ds := if conv = 'X' then ds.toUpper else ds
  let ds := match spec.precision with
    | some p => String.ofList (List.replicate (p - ds.length) '0') ++ ds
    | none => ds
  let pre := if spec.alternate then
      (if conv = 'o' then "0o" else if conv = 'x' then "0x" else if conv = 'X' then "0X" else "")
    else ""
  assemble spec (n < 0) pre ds

/-- A floating conversion. -/
def floating (spec : Spec) (conv : Char) (x : Binary64) : Text :=
  let upper := conv = 'E' ∨ conv = 'F' ∨ conv = 'G'
  let places := spec.precision.getD 6
  match x with
  | .nan => assemble spec false "" (if upper then "NAN" else "nan")
  | .infinite neg => assemble spec neg "" (if upper then "INF" else "inf")
  | .finite neg m e =>
    let body :=
      if conv = 'f' ∨ conv = 'F' then Binary64.fixedDigits m e places spec.alternate
      else if conv = 'e' ∨ conv = 'E' then Binary64.expDigits m e places spec.alternate upper
      else Binary64.generalDigits m e places spec.alternate upper
    assemble spec neg "" body

/-- One conversion of an argument. -/
def convert (spec : Spec) (conv : Char) (v : Json) : Except Error Text :=
  let cut (t : Text) := match spec.precision with
    | some p => t.take p
    | none => t
  if conv = 's' then .ok (pad spec (cut v.display))
  else if conv = 'r' then .ok (pad spec (cut v.literal))
  else if conv = 'a' then .ok (pad spec (cut (asciiOnly v.literal)))
  else if conv = 'c' then
    match v with
    | .int n => if 0 ≤ n ∧ n < 0x110000 then .ok (pad spec [Point.ofNat n.toNat]) else .error .charRange
    | .bool b => .ok (pad spec [Point.ofNat (if b then 1 else 0)])
    | .str [p] => .ok (pad spec [p])
    | _ => .error .needsChar
  else if conv = 'd' ∨ conv = 'i' ∨ conv = 'u' then do
    let n ← asInteger conv v
    if spec.precision.any (· > Size.precision.limit - 3) then .error .precisionTooLarge
    else .ok (integer spec 'd' n)
  else if conv = 'o' ∨ conv = 'x' ∨ conv = 'X' then do
    let n ← asExact conv v
    if spec.precision.any (· > Size.precision.limit - 3) then .error .precisionTooLarge
    else .ok (integer spec conv n)
  else (asFloat v).map (floating spec conv)

/-- The conversion letters. -/
def conversions : List Char := ['s', 'r', 'a', 'c', 'd', 'i', 'u', 'o', 'x', 'X', 'e', 'E', 'f', 'F', 'g', 'G']

/-- The index of the closing parenthesis of a key starting at `i` (after the opening one),
counting nested pairs. -/
def keyEnd (s : Array Point) (i depth : Nat) (fuel : Nat) : Option Nat :=
  match fuel with
  | 0 => none
  | fuel + 1 =>
    match s[i]? with
    | none => none
    | some p =>
      if p.code = 41 then (if depth = 0 then some i else keyEnd s (i + 1) (depth - 1) fuel)
      else if p.code = 40 then keyEnd s (i + 1) (depth + 1) fuel
      else keyEnd s (i + 1) depth fuel

/-- Reads the digits of a size from index `i`; a digit that would take the value past the
size's largest value is an error. -/
def readNumber (size : Size) (s : Array Point) (i : Nat) (acc : Nat) (fuel : Nat) :
    Except Error (Nat × Nat) :=
  match fuel with
  | 0 => .ok (acc, i)
  | fuel + 1 =>
    match s[i]? with
    | some p =>
      if 48 ≤ p.code ∧ p.code ≤ 57 then
        let d := p.code - 48
        if acc > (size.limit - d) / 10 then .error (.sizeTooBig size)
        else readNumber size s (i + 1) (acc * 10 + d) fuel
      else .ok (acc, i)
    | none => .ok (acc, i)

/-- Reads flags from index `i`. -/
def readFlags (s : Array Point) (i : Nat) (spec : Spec) (fuel : Nat) : Spec × Nat :=
  match fuel with
  | 0 => (spec, i)
  | fuel + 1 =>
    match (s[i]?).map (·.code) with
    | some 45 => readFlags s (i + 1) { spec with left := true } fuel
    | some 43 => readFlags s (i + 1) { spec with plus := true } fuel
    | some 32 => readFlags s (i + 1) { spec with space := true } fuel
    | some 35 => readFlags s (i + 1) { spec with alternate := true } fuel
    | some 48 => readFlags s (i + 1) { spec with zero := true } fuel
    | _ => (spec, i)

/-- Reads a width or precision, a number or `*` taking an integer argument that must fit the
size's machine type. -/
def readSize (size : Size) (s : Array Point) (i : Nat) (supply : Supply) :
    Except Error (Option Int × Nat × Supply) :=
  match (s[i]?).map (·.code) with
  | some 42 => do
    let (v, supply) ← supply.next
    let n ← match v with
      | .int n => .ok n
      | .bool b => .ok (if b then 1 else 0)
      | _ => .error .starWantsInt
    if n > (size.limit : Int) ∨ n < -((size.limit : Int) + 1) then .error (.starOverflow size)
    else .ok (some n, i + 1, supply)
  | some c => if 48 ≤ c ∧ c ≤ 57 then do
      let (n, j) ← readNumber size s i 0 s.size
      .ok (some n, j, supply)
    else .ok (none, i, supply)
  | none => .ok (none, i, supply)

/-- Formats from index `i` on, after the text already written. -/
def run (s : Array Point) (mapping : Option (List (Text × Json))) :
    Nat → Nat → Supply → Array Point → Except Error (Text × Supply)
  | 0, _, supply, out => .ok (out.toList, supply)
  | fuel + 1, i, supply, out =>
    match s[i]? with
    | none => .ok (out.toList, supply)
    | some p =>
      if p.code != 37 then run s mapping fuel (i + 1) supply (out.push p) else
      if (s[i + 1]?).map (·.code) = some 37 then run s mapping fuel (i + 2) supply (out.push p) else
      -- a conversion
      let keyed : Except Error (Nat × Supply) :=
        if (s[i + 1]?).map (·.code) = some 40 then
          match mapping with
          | none => .error .needsMapping
          | some ms =>
            match keyEnd s (i + 2) 0 s.size with
            | none => .error .incompleteKey
            | some j =>
              let key := ((s.extract (i + 2) j).toList)
              match Json.member? ms key with
              | some v => .ok (j + 1, .single (some v))
              | none => .error (.missingKey key)
        else .ok (i + 1, supply)
      match keyed with
      | .error e => .error e
      | .ok (j, supply) =>
        let (spec, j) := readFlags s j {} s.size
        match readSize .width s j supply with
        | .error e => .error e
        | .ok (width, j, supply) =>
          let spec := match width with
            | some w =>
              -- a negative width left-justifies; the least word has no negation and pads nothing
              if w < 0 then
                { spec with left := true, width := if w.natAbs > Size.width.limit then 0 else w.natAbs }
              else { spec with width := w.toNat }
            | none => spec
          let prec : Except Error (Option Int × Nat × Supply) :=
            if (s[j]?).map (·.code) = some 46 then
              match readSize .precision s (j + 1) supply with
              | .ok (none, k, supply) => .ok (some 0, k, supply)
              | r => r
            else .ok (none, j, supply)
          match prec with
          | .error e => .error e
          | .ok (precision, j, supply) =>
            let spec := { spec with precision := precision.map fun q => q.toNat }
            let j := match (s[j]?).map (·.code) with
              | some 104 | some 108 | some 76 => j + 1
              | _ => j
            match s[j]? with
            | none => .error .incomplete
            | some c =>
              let conv := c.toChar
              match supply.next with
              | .error e => .error e
              | .ok (v, supply) =>
                if !conversions.contains conv then .error (.unsupported c.code j) else
                if spec.width > roomLimit then
                  (convert { spec with width := 0 } conv v).bind fun _ => .error .noRoom
                else
                match convert spec conv v with
                | .error e => .error e
                | .ok t => run s mapping fuel (j + 1) supply (out ++ t.toArray)

/-- Formats a message with its arguments. -/
def format (msg : Text) (args : Args) : Except Error Text :=
  let s := msg.toArray
  match args with
  | .items xs => do
    let (t, rest) ← run s none (s.size + 1) 0 (.items xs) #[]
    match rest with
    | .items (_ :: _) => .error .notAll
    | _ => .ok t
  | .mapping ms => do
    let (t, _) ← run s (some ms) (s.size + 1) 0 (.single (some (.obj ms))) #[]
    .ok t

end Percent

end FarmSetup
