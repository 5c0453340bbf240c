import FarmSetup.Console.TagLiteral.Names
import FarmSetup.Text.CharacterName
/-!
The escapes of string literals. A text string's body is decoded after each point past ASCII is
rewritten as a ten-point `\U` escape, and a backslash before such a point or at the end as
the six-point escape `\u005c`, so the positions an error names count the rewritten body. A
bytes body is decoded as it stands.

The errors are those of escapes that stop short: `\x`, `\u` and `\U` need two, four and eight
hexadecimal digits, `\U` may not pass U+10FFFF, and `\N` needs the braced name of a character.
Any other backslash is kept as it stands.
-/

namespace FarmSetup

namespace TagLiteral

/-- The eight lower-case hexadecimal digits of a number. -/
def hexEight (n : Nat) : Text :=
  let ds := Nat.toDigits 16 n
  Text.ofString (String.ofList (List.replicate (8 - ds.length) '0' ++ ds))

/-- The body of a text string as its escapes are decoded from: points past ASCII become `\U`
escapes, and a backslash before one of them or at the end becomes `\u005c`. -/
def rewriteBody : Text → Text
  | [] => []
  | p :: rest =>
    if is p '\\' then
      match rest with
      | [] => Text.ofString "\\u005c"
      | q :: more =>
        if q.code ≥ 0x80 then Text.ofString "\\u005c" ++ rewriteBody (q :: more)
        else p :: q :: rewriteBody more
    else if p.code ≥ 0x80 then Text.ofString "\\U" ++ hexEight p.code ++ rewriteBody rest
    else p :: rewriteBody rest

/-- Whether a point is a hexadecimal digit. -/
def isHex (p : Point) : Bool :=
  isDigit p || ('a'.toNat ≤ p.code && p.code ≤ 'f'.toNat) || ('A'.toNat ≤ p.code && p.code ≤ 'F'.toNat)

/-- The value of a hexadecimal digit. -/
def hexValue (p : Point) : Nat :=
  if isDigit p then p.code - '0'.toNat
  else if p.code ≥ 'a'.toNat then p.code - 'a'.toNat + 10
  else p.code - 'A'.toNat + 10

/-- The number of hexadecimal digits at the head of the text, up to `count`, and their value. -/
def hexRun : Nat → Text → Nat × Nat
  | 0, _ => (0, 0)
  | _, [] => (0, 0)
  | count + 1, p :: rest =>
    if isHex p then
      let (n, v) := hexRun count rest
      (n + 1, hexValue p * Nat.pow 16 n + v)
    else (0, 0)

/-- The first decoding error of a rewritten text body at offset `i`: where the failing escape
starts, where the decoder stopped, and why. -/
def textEscapeFault : Nat → Nat → Text → Option (Nat × Nat × String)
  | 0, _, _ => none
  | _, _, [] => none
  | fuel + 1, i, p :: rest =>
    if !is p '\\' then textEscapeFault fuel (i + 1) rest
    else
      match rest with
      | [] => some (i, i + 1, "\\ at end of string")
      | c :: more =>
        let hex (count : Nat) (what : String) : Option (Nat × Nat × String) :=
          let (n, v) := hexRun count more
          if n < count then some (i, i + 2 + n, "truncated \\" ++ what ++ " escape")
          else if count = 8 ∧ v > 0x10FFFF then some (i, i + 10, "illegal Unicode character")
          else textEscapeFault fuel (i + 2 + count) (more.drop count)
        if is c 'x' then hex 2 "xXX"
        else if is c 'u' then hex 4 "uXXXX"
        else if is c 'U' then hex 8 "UXXXXXXXX"
        else if is c 'N' then
          match more with
          | [] => some (i, i + 2, "malformed \\N character escape")
          | b :: names =>
            if !is b '{' then some (i, i + 2, "malformed \\N character escape")
            else
              let name := names.takeWhile (!is · '}')
              if name.length = names.length then
                some (i, i + 3 + name.length, "malformed \\N character escape")
              else if name.isEmpty then some (i, i + 3, "malformed \\N character escape")
              else if !CharacterName.isName name then
                some (i, i + 4 + name.length, "unknown Unicode character name")
              else textEscapeFault fuel (i + 4 + name.length) (names.drop (name.length + 1))
        else textEscapeFault fuel (i + 2) more

/-- The error of decoding the escapes of a text string's body, if it has one. -/
def textEscapeError (body : Text) : Option Text :=
  let rewritten := rewriteBody body
  (textEscapeFault (rewritten.length + 1) 0 rewritten).map fun (start, stop, why) =>
    Text.ofString ("(unicode error) 'unicodeescape' codec can't decode bytes in position " ++
      toString start ++ "-" ++ toString (stop - 1) ++ ": " ++ why)

/-- The position of the first `\x` escape of a bytes body at offset `i` without two
hexadecimal digits. -/
def bytesEscapeFault : Nat → Nat → Text → Option Nat
  | 0, _, _ => none
  | _, _, [] => none
  | fuel + 1, i, p :: rest =>
    if !is p '\\' then bytesEscapeFault fuel (i + 1) rest
    else
      match rest with
      | [] => none
      | c :: more =>
        if is c 'x' then
          match more with
          | a :: b :: after =>
            if isHex a && isHex b then bytesEscapeFault fuel (i + 4) after else some i
          | _ => some i
        else bytesEscapeFault fuel (i + 2) more

/-- The error of decoding the escapes of a bytes string's body, if it has one. -/
def bytesEscapeError (body : Text) : Option Text :=
  (bytesEscapeFault (body.length + 1) 0 body).map fun i =>
    Text.ofString ("(value error) invalid \\x escape at position " ++ toString i)

end TagLiteral

end FarmSetup
