import FarmSetup.Json.Value
/-!
Calendar time in UTC from a count of seconds since 1970. A fractional count is split into whole
seconds and a fraction, the fraction is scaled to microseconds in binary64 and rounded to the
nearest, a half to the even neighbour; a negative fraction borrows a second. Days are counted
in the proleptic Gregorian calendar. Years outside 1 to 9999 have no written form, and counts
beyond the system's range fail; a fractional count of exactly 2^63 seconds passes the range
check, which is made in binary64, and wraps to -2^63.
-/

namespace FarmSetup

/-- Why a count of seconds has no calendar time. -/
inductive ClockError where
  /-- The count is not a number. -/
  | notANumber
  /-- The count is beyond what the system's time type holds. -/
  | outOfRange
  /-- The year does not fit the system's broken-down time. -/
  | tooLarge
  /-- The year is outside 1 to 9999. -/
  | badYear (year : Int)
  /-- The count is no number at all. -/
  | notNumeric (kind : String)
deriving DecidableEq

namespace ClockError

/-- The class of error reported. -/
def className : ClockError → String
  | notANumber | badYear _ => "ValueError"
  | outOfRange => "OverflowError"
  | tooLarge => "OSError"
  | notNumeric _ => "TypeError"

/-- The message reported. -/
def message : ClockError → Text
  | notANumber => Text.ofString "Invalid value NaN (not a number)"
  | outOfRange => Text.ofString "timestamp out of range for platform time_t"
  | tooLarge => Text.ofString "[Errno 75] Value too large for defined data type"
  | badYear y => Text.ofString ("year " ++ toString y ++ " is out of range")
  | notNumeric k => Text.ofString ("'" ++ k ++ "' object cannot be interpreted as an integer")

end ClockError

namespace Clock

/-- The bound of the system's time type: counts must lie in `[-2^63, 2^63)`. -/
def timeBound : Int := Nat.pow 2 63

/-- Whole seconds and microseconds of a count. -/
def split : Json → Except ClockError (Int × Nat)
  | .int n => if -timeBound ≤ n ∧ n < timeBound then .ok (n, 0) else .error .outOfRange
  | .bool b => .ok (if b then 1 else 0, 0)
  | .float .nan => .error .notANumber
  | .float (.infinite _) => .error .outOfRange
  | .float x =>
    let (frac, whole) := x.splitWhole
    let us := ((frac.mul (Binary64.ofInt 1000000)).roundHalfEven?).getD 0
    let secs := (whole.truncate?).getD 0
    let (secs, us) :=
      if us ≥ 1000000 then (secs + 1, us - 1000000)
      else if us < 0 then (secs - 1, us + 1000000) else (secs, us)
    -- the range check compares in binary64, where the largest count rounds up to 2^63; that
    -- count passes and wraps to the least one
    if secs = timeBound then .ok (-timeBound, us.toNat)
    else if -timeBound ≤ secs ∧ secs < timeBound then .ok (secs, us.toNat) else .error .outOfRange
  | j => .error (.notNumeric j.kindName)

/-- A year as the system's 32-bit integer holds it: values from `2^31` on wrap to negative. -/
def wrapInt32 (n : Int) : Int :=
  let m : Int := ((Nat.pow 2 32 : Nat) : Int)
  let r := Int.emod n m
  if r ≥ ((Nat.pow 2 31 : Nat) : Int) then r - m else r

/-- The civil date of a day count since 1970-01-01: year, month, day. -/
def civil (days : Int) : Int × Nat × Nat :=
  let z := days + 719468
  let era := Int.fdiv z 146097
  let doe := z - era * 146097
  let yoe := (doe - doe / 1460 + doe / 36524 - doe / 146096) / 365
  let y := yoe + era * 400
  let doy := doe - (365 * yoe + yoe / 4 - yoe / 100)
  let mp := (5 * doy + 2) / 153
  let d := doy - (153 * mp + 2) / 5 + 1
  let m := if mp < 10 then mp + 3 else mp - 9
  ((if m ≤ 2 then y + 1 else y), m.toNat, d.toNat)

/-- Two digits, zero-padded. -/
def two (n : Nat) : String := if n < 10 then "0" ++ toString n else toString n

/-- Digits padded with zeros to a width. -/
def padded (width n : Nat) : String :=
  let s := toString n
  String.ofList (List.replicate (width - s.length) '0') ++ s

/-- The ISO 8601 form of a count in UTC: date, time, microseconds when not zero, and the
offset `+00:00`. -/
def isoUtc (count : Json) : Except ClockError Text := do
  let (secs, us) ← split count
  let days := Int.fdiv secs 86400
  let rest := (Int.fmod secs 86400).toNat
  let (year, month, day) := civil days
  if year - 1900 ≥ ((Nat.pow 2 31 : Nat) : Int) ∨ year - 1900 < -((Nat.pow 2 31 : Nat) : Int) then throw .tooLarge
  if year < 1 ∨ year > 9999 then throw (.badYear (wrapInt32 year))
  let time := two (rest / 3600) ++ ":" ++ two (rest / 60 % 60) ++ ":" ++ two (rest % 60)
  let micro := if us = 0 then "" else "." ++ padded 6 us
  return Text.ofString (padded 4 year.toNat ++ "-" ++ two month ++ "-" ++ two day ++ "T" ++ time ++
    micro ++ "+00:00")

example : (isoUtc (.int 1700000000)).toOption = some (Text.ofString "2023-11-14T22:13:20+00:00") := by
  decide +kernel

end Clock

end FarmSetup
