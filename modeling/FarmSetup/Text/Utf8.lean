import FarmSetup.Text.Point
/-!
UTF-8. Encoding writes each point in one to four bytes (a surrogate in three, as the
generalized form does). Decoding is strict: it stops at the first maximal ill-formed piece and
reports its start, its length, and why it fails: a byte that cannot start a sequence, a byte
that cannot continue the one begun (overlong forms, surrogates and points past the last plane
fail at their second byte), or the end of the data inside a sequence.
-/

namespace FarmSetup

namespace Utf8

/-- The bytes of one point. -/
def encodePoint (p : Point) : List Nat :=
  let c := p.code
  if c < 0x80 then [c]
  else if c < 0x800 then [0xC0 + c / 64, 0x80 + c % 64]
  else if c < 0x10000 then [0xE0 + c / 4096, 0x80 + c / 64 % 64, 0x80 + c % 64]
  else [0xF0 + c / 262144, 0x80 + c / 4096 % 64, 0x80 + c / 64 % 64, 0x80 + c % 64]

/-- The bytes of a text. -/
def encode (t : Text) : List Nat := t.flatMap encodePoint

/-- Why decoding stops. -/
inductive Reason where
  | invalidStart
  | invalidContinuation
  | unexpectedEnd
deriving DecidableEq, Repr

/-- A decoding failure: the index of the first byte of the piece, its length, and why. -/
structure DecodeError where
  start : Nat
  length : Nat
  reason : Reason
deriving DecidableEq, Repr

/-- Whether a byte continues a sequence. -/
def isCont (b : Nat) : Bool := 0x80 ≤ b && b ≤ 0xBF

/-- The least and greatest second byte after a lead byte. -/
def secondRange (lead : Nat) : Nat × Nat :=
  if lead = 0xE0 then (0xA0, 0xBF) else if lead = 0xED then (0x80, 0x9F)
  else if lead = 0xF0 then (0x90, 0xBF) else if lead = 0xF4 then (0x80, 0x8F)
  else (0x80, 0xBF)

/-- Decodes bytes from the index `pos` on, after the points already decoded. -/
def decodeFrom (bs : List Nat) (pos : Nat) (acc : Array Point) : Except DecodeError Text :=
  match bs with
  | [] => .ok acc.toList
  | b :: rest =>
    if b < 0x80 then decodeFrom rest (pos + 1) (acc.push (Point.ofNat b))
    else if b < 0xC2 ∨ b > 0xF4 then .error ⟨pos, 1, .invalidStart⟩
    else
      let need := if b < 0xE0 then 1 else if b < 0xF0 then 2 else 3
      let (lo, hi) := secondRange b
      let conts := rest.take need
      -- the number of leading bytes that continue the sequence properly
      let good := match conts with
        | [] => 0
        | c :: more =>
          if lo ≤ c ∧ c ≤ hi then 1 + (more.takeWhile isCont).length else 0
      if good < conts.length then .error ⟨pos, good + 1, .invalidContinuation⟩
      else if conts.length < need then .error ⟨pos, bs.length, .unexpectedEnd⟩
      else
        let payload := conts.foldl (fun a c => a * 64 + (c - 0x80))
          (if need = 1 then b - 0xC0 else if need = 2 then b - 0xE0 else b - 0xF0)
        decodeFrom (rest.drop need) (pos + need + 1) (acc.push (Point.ofNat payload))
termination_by bs.length
decreasing_by all_goals (simp only [List.length_cons, List.length_drop]; omega)

/-- Decodes a whole byte sequence. -/
def decode (bs : List Nat) : Except DecodeError Text := decodeFrom bs 0 #[]

/-- Two lower-case hexadecimal digits of a byte. -/
def hexByte (b : Nat) : String :=
  let digit (d : Nat) : Char := if d < 10 then Char.ofNat (48 + d) else Char.ofNat (87 + d)
  String.ofList [digit (b / 16 % 16), digit (b % 16)]

/-- The message of a decoding failure over the given bytes. -/
def DecodeError.message (bs : List Nat) (e : DecodeError) : Text :=
  let why := match e.reason with
    | .invalidStart => "invalid start byte"
    | .invalidContinuation => "invalid continuation byte"
    | .unexpectedEnd => "unexpected end of data"
  Text.ofString <|
    if e.length = 1 then
      "'utf-8' codec can't decode byte 0x" ++ hexByte (bs.getD e.start 0) ++ " in position " ++
        toString e.start ++ ": " ++ why
    else
      "'utf-8' codec can't decode bytes in position " ++ toString e.start ++ "-" ++
        toString (e.start + e.length - 1) ++ ": " ++ why

end Utf8

namespace Text

/-- Universal line ends: a carriage return and line feed pair, or a lone carriage return,
becomes one line feed. -/
def unifyLineEnds : Text → Text
  | [] => []
  | [p] => if p.code = 13 then [Point.ofNat 10] else [p]
  | p :: q :: rest =>
    if p.code = 13 then
      if q.code = 10 then Point.ofNat 10 :: unifyLineEnds rest
      else Point.ofNat 10 :: unifyLineEnds (q :: rest)
    else p :: unifyLineEnds (q :: rest)

end Text

end FarmSetup
