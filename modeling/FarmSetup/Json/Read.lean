import FarmSetup.Json.Value
/-!
Reading JSON text. Beside standard JSON the reader takes `NaN`, `Infinity` and `-Infinity`,
keeps lone surrogate escapes as points of their own and joins an escaped pair into one point.
A member written twice keeps its first place and its last value. A failure names its cause and
the index of the point where it was found; an integer of more than 4300 digits is refused on
its own grounds, and so is an array or object that nests past a limit the caller sets.
-/

namespace FarmSetup

namespace Json

/-- Why a text is no JSON document. -/
inductive ReadError where
  | expectingValue
  | expectingName
  | expectingColon
  | expectingComma
  | unterminated
  | control
  | badEscape
  | badUnicodeEscape
  | extraData
  | byteOrderMark
deriving DecidableEq, Repr

/-- A decoding failure at an index of the document. -/
structure DecodeError where
  cause : ReadError
  pos : Nat
deriving DecidableEq, Repr

/-- A failure of reading: a decoding failure, an integer with too many digits, or an array
(`true`) or object (`false`) that nests past the limit. -/
inductive ReadFailure where
  | decode (err : DecodeError)
  | digitLimit (digits : Nat)
  | tooDeep (array : Bool)
deriving DecidableEq, Repr

/-- Integers with more digits than this are refused. -/
def intDigitLimit : Nat := 4300

namespace ReadError

/-- The words of a decoding failure. -/
def words : ReadError → String
  | expectingValue => "Expecting value"
  | expectingName => "Expecting property name enclosed in double quotes"
  | expectingColon => "Expecting ':' delimiter"
  | expectingComma => "Expecting ',' delimiter"
  | unterminated => "Unterminated string starting at"
  | control => "Invalid control character at"
  | badEscape => "Invalid \\escape"
  | badUnicodeEscape => "Invalid \\uXXXX escape"
  | extraData => "Extra data"
  | byteOrderMark => "Unexpected UTF-8 BOM (decode using utf-8-sig)"

end ReadError

/-- The message of a decoding failure in a document: the cause, then the line and column
(both from one) and the index of the point. -/
def DecodeError.message (doc : Text) (e : DecodeError) : Text :=
  let before := doc.take e.pos
  let line := before.count (Point.ofChar '\n') + 1
  let lastBreak := (before.reverse.takeWhile (· ≠ Point.ofChar '\n')).length
  let column := lastBreak + 1
  Text.ofString (e.cause.words ++ ": line " ++ toString line ++ " column " ++ toString column ++
    " (char " ++ toString e.pos ++ ")")

/-- The message of a read failure in a document. -/
def ReadFailure.message (doc : Text) : ReadFailure → Text
  | decode e => e.message doc
  | digitLimit n => Text.ofString ("Exceeds the limit (4300 digits) for integer string " ++
      "conversion: value has " ++ toString n ++ " digits; use sys.set_int_max_str_digits() " ++
      "to increase the limit")
  | tooDeep array => Text.ofString ("maximum recursion depth exceeded while decoding a JSON " ++
      (if array then "array" else "object") ++ " from a unicode string")

/-- The outcome of a scan: a value and the index after it, or a failure. -/
abbrev Scan (α : Type) := Except ReadFailure α

/-- Fails with a decoding failure at an index. -/
def fail {α : Type} (cause : ReadError) (pos : Nat) : Scan α := .error (.decode ⟨cause, pos⟩)

/-- The code of the point at an index, or `0x110000` past the end. -/
def codeAt (s : Array Point) (i : Nat) : Nat := (s[i]?.map (·.code)).getD 0x110000

/-- White space between JSON tokens: space, tab, line feed and carriage return. -/
def isSpace (c : Nat) : Bool := c == 32 || c == 9 || c == 10 || c == 13

/-- Whether the code is an ASCII digit. -/
def isDigitCode (c : Nat) : Bool := 48 ≤ c && c ≤ 57

/-- The index of the first point from `i` on that is no white space. -/
def skipSpace (s : Array Point) (i : Nat) : Nat :=
  if h : i < s.size then if isSpace s[i].code then skipSpace s (i + 1) else i else i
termination_by s.size - i

/-- The index of the first point from `i` on that is no ASCII digit. -/
def skipDigits (s : Array Point) (i : Nat) : Nat :=
  if h : i < s.size then if isDigitCode s[i].code then skipDigits s (i + 1) else i else i
termination_by s.size - i

/-- Whether the points from `i` on spell the word. -/
def spells (s : Array Point) (i : Nat) (w : String) : Bool :=
  i + w.length ≤ s.size && (w.toList.zipIdx.all fun (c, k) => codeAt s (i + k) == c.toNat)

/-- The value of a hexadecimal digit. -/
def hexValue (c : Nat) : Option Nat :=
  if 48 ≤ c ∧ c ≤ 57 then some (c - 48)
  else if 97 ≤ c ∧ c ≤ 102 then some (c - 87)
  else if 65 ≤ c ∧ c ≤ 70 then some (c - 55)
  else none

/-- The number of four hexadecimal digits from `i` on. -/
def hex4 (s : Array Point) (i : Nat) : Option Nat := do
  let a ← hexValue (codeAt s i)
  let b ← hexValue (codeAt s (i + 1))
  let c ← hexValue (codeAt s (i + 2))
  let d ← hexValue (codeAt s (i + 3))
  pure (((a * 16 + b) * 16 + c) * 16 + d)

/-- The point of a one-letter escape. -/
def simpleEscape (c : Nat) : Option Nat :=
  if c == 34 then some 34 else if c == 92 then some 92 else if c == 47 then some 47
  else if c == 98 then some 8 else if c == 102 then some 12 else if c == 110 then some 10
  else if c == 114 then some 13 else if c == 116 then some 9 else none

/-- Reads the rest of a string whose opening quote stands at `q`, from index `i` on. -/
def scanStringFrom (s : Array Point) (q : Nat) (i : Nat) (acc : Array Point) :
    Scan (Text × Nat) :=
  if h : i < s.size then
    let c := s[i].code
    if c == 34 then .ok (acc.toList, i + 1)
    else if c == 92 then
      let n := i + 1
      if n < s.size then
        let e := codeAt s n
        if e != 117 then
          match simpleEscape e with
          | some p => scanStringFrom s q (n + 1) (acc.push (Point.ofNat p))
          | none => fail .badEscape i
        else
          let stop := n + 5
          if stop ≥ s.size then fail .badUnicodeEscape n else
          match hex4 s (n + 1) with
          | none => fail .badUnicodeEscape n
          | some c1 =>
            if 0xD800 ≤ c1 ∧ c1 ≤ 0xDBFF ∧ stop + 6 < s.size ∧ codeAt s stop = 92 ∧
                codeAt s (stop + 1) = 117 then
              match hex4 s (stop + 2) with
              | none => fail .badUnicodeEscape (stop + 1)
              | some c2 =>
                if 0xDC00 ≤ c2 ∧ c2 ≤ 0xDFFF then
                  let joined := 0x10000 + (c1 - 0xD800) * 0x400 + (c2 - 0xDC00)
                  scanStringFrom s q (stop + 6) (acc.push (Point.ofNat joined))
                else scanStringFrom s q stop (acc.push (Point.ofNat c1))
            else scanStringFrom s q stop (acc.push (Point.ofNat c1))
      else fail .unterminated q
    else if c ≤ 0x1F then fail .control i
    else scanStringFrom s q (i + 1) (acc.push s[i])
  else fail .unterminated q
termination_by s.size - i

/-- The value of a run of ASCII digits. -/
def digitsFrom (s : Array Point) (i j : Nat) : Nat :=
  ((List.range (j - i)).map fun k => codeAt s (i + k) - 48).foldl (fun a d => 10 * a + d) 0

/-- Reads a number starting at `start`; none when no number starts there. -/
def scanNumber (s : Array Point) (start : Nat) : Option (Scan (Json × Nat)) :=
  let neg := codeAt s start == 45
  let i := if neg then start + 1 else start
  if i ≥ s.size then none else
  let c := codeAt s i
  let intEnd? : Option Nat :=
    if 49 ≤ c ∧ c ≤ 57 then some (skipDigits s (i + 1))
    else if c == 48 then some (i + 1) else none
  match intEnd? with
  | none => none
  | some intEnd =>
    let (fracEnd, hasFrac) :=
      if intEnd + 1 < s.size ∧ codeAt s intEnd = 46 ∧ isDigitCode (codeAt s (intEnd + 1)) then
        (skipDigits s (intEnd + 2), true)
      else (intEnd, false)
    let expPart : Option (Nat × Nat × Nat) :=
      if fracEnd + 1 < s.size ∧ (codeAt s fracEnd = 101 ∨ codeAt s fracEnd = 69) then
        let j := fracEnd + 1
        let signed := j + 1 < s.size ∧ (codeAt s j = 45 ∨ codeAt s j = 43)
        let digitsStart := if signed then j + 1 else j
        let stop := skipDigits s digitsStart
        if isDigitCode (codeAt s (stop - 1)) ∧ digitsStart < stop then
          some (digitsStart, stop, stop) else none
      else none
    match expPart, hasFrac with
    | none, false =>
      let count := intEnd - i
      if count > intDigitLimit then some (.error (.digitLimit count)) else
      let n : Int := digitsFrom s i intEnd
      some (.ok (.int (if neg then -n else n), intEnd))
    | _, _ =>
      let fracLen := if hasFrac then fracEnd - intEnd - 1 else 0
      let mant := digitsFrom s i intEnd * Nat.pow 10 fracLen + digitsFrom s (intEnd + 1) fracEnd
      let (exp10, stop) : Int × Nat :=
        match expPart with
        | some (a, b, stop) =>
          let e : Int := digitsFrom s a b
          (if codeAt s (a - 1) = 45 then -e else e, stop)
        | none => (0, fracEnd)
      some (.ok (.float (Binary64.ofDecimal neg mant (exp10 - fracLen)), stop))

mutual

/-- Reads one value at index `i`, inside which at most `room` more containers may nest. -/
def scanValue (s : Array Point) (room : Nat) (i : Nat) : Nat → Scan (Json × Nat)
  | 0 => fail .expectingValue i
  | fuel + 1 =>
    if i ≥ s.size then fail .expectingValue i else
    let c := codeAt s i
    if c == 34 then (scanStringFrom s i (i + 1) #[]).map fun (t, j) => (.str t, j)
    else if c == 123 then
      if room = 0 then .error (.tooDeep false) else scanObject s (room - 1) (i + 1) fuel
    else if c == 91 then
      if room = 0 then .error (.tooDeep true) else scanArray s (room - 1) (i + 1) fuel
    else if c == 110 ∧ spells s i "null" then .ok (.null, i + 4)
    else if c == 116 ∧ spells s i "true" then .ok (.bool true, i + 4)
    else if c == 102 ∧ spells s i "false" then .ok (.bool false, i + 5)
    else if c == 78 ∧ spells s i "NaN" then .ok (.float .nan, i + 3)
    else if c == 73 ∧ spells s i "Infinity" then .ok (.float (.infinite false), i + 8)
    else if c == 45 ∧ spells s i "-Infinity" then .ok (.float (.infinite true), i + 9)
    else (scanNumber s i).getD (fail .expectingValue i)
termination_by structural fuel => fuel

/-- Reads an array whose opening bracket stands before index `i`. -/
def scanArray (s : Array Point) (room : Nat) (i : Nat) : Nat → Scan (Json × Nat)
  | 0 => fail .expectingValue i
  | fuel + 1 =>
    let i := skipSpace s i
    if codeAt s i == 93 then .ok (.arr [], i + 1) else scanItems s room i #[] fuel
termination_by structural fuel => fuel

/-- Reads the items of an array from index `i`, after those already read. -/
def scanItems (s : Array Point) (room : Nat) (i : Nat) (acc : Array Json) :
    Nat → Scan (Json × Nat)
  | 0 => fail .expectingValue i
  | fuel + 1 => do
    let (v, j) ← scanValue s room i fuel
    let j := skipSpace s j
    let acc := acc.push v
    if codeAt s j == 93 then return (.arr acc.toList, j + 1)
    if codeAt s j != 44 then fail .expectingComma j
    else scanItems s room (skipSpace s (j + 1)) acc fuel
termination_by structural fuel => fuel

/-- Reads an object whose opening brace stands before index `i`. -/
def scanObject (s : Array Point) (room : Nat) (i : Nat) : Nat → Scan (Json × Nat)
  | 0 => fail .expectingValue i
  | fuel + 1 =>
    let i := skipSpace s i
    if codeAt s i == 125 then .ok (.obj [], i + 1) else scanMembers s room i [] fuel
termination_by structural fuel => fuel

/-- Reads the members of an object from index `i`, after those already read. -/
def scanMembers (s : Array Point) (room : Nat) (i : Nat) (acc : List (Text × Json)) :
    Nat → Scan (Json × Nat)
  | 0 => fail .expectingValue i
  | fuel + 1 => do
    if codeAt s i != 34 then fail .expectingName i else
    let (k, j) ← scanStringFrom s i (i + 1) #[]
    let j := skipSpace s j
    if codeAt s j != 58 then fail .expectingColon j else
    let (v, j) ← scanValue s room (skipSpace s (j + 1)) fuel
    let acc := setMember acc k v
    let j := skipSpace s j
    if codeAt s j == 125 then return (.obj acc, j + 1)
    if codeAt s j != 44 then fail .expectingComma j
    else scanMembers s room (skipSpace s (j + 1)) acc fuel
termination_by structural fuel => fuel

end

/-- Reads a whole JSON document, one value with white space around it allowed, in which at most
`room` arrays and objects nest. Each point starts at most three steps of the scan, which the
fuel allows. -/
def parseWithin (room : Nat) (doc : Text) : Scan Json :=
  let s := doc.toArray
  if codeAt s 0 == 0xFEFF then fail .byteOrderMark 0 else do
  let (v, j) ← scanValue s room (skipSpace s 0) (3 * s.size + 3)
  let k := skipSpace s j
  if k ≠ s.size then fail .extraData k else return v

/-- Reads a whole JSON document with no limit on nesting. -/
def parse (doc : Text) : Scan Json := parseWithin (doc.length + 1) doc

end Json

end FarmSetup
