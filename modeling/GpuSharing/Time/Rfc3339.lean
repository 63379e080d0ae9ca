import GpuSharing.Text.Blank
import GpuSharing.Decimal.Reader
import GpuSharing.Time.Calendar
import GpuSharing.Time.Timestamp

/-!
# Times as text

Times are written in UTC with the fewest of 0, 3, 6 or 9 fraction digits that lose
nothing. Reading allows any offset, and blanks between the parts.
-/

set_option autoImplicit false

namespace GpuSharing.Timestamp

def padded (width : Nat) (value : Nat) : String :=
  let digits := toString value
  String.ofList (List.replicate (width - digits.length) '0') ++ digits

/-- Years from 0 to 9999 have four digits, all others a sign and at least four digits. -/
def yearText (year : Int) : String :=
  if 0 ≤ year ∧ year ≤ 9999 then padded 4 year.toNat
  else (if year < 0 then "-" else "+") ++ padded 4 year.natAbs

def fractionText (nanos : Nat) : String :=
  if nanos = 0 then ""
  else if nanos % 1000000 = 0 then "." ++ padded 3 (nanos / 1000000)
  else if nanos % 1000 = 0 then "." ++ padded 6 (nanos / 1000)
  else "." ++ padded 9 nanos

def dateText (time : Timestamp) : String :=
  let date := Date.ofDays (time.seconds / secondsPerDay)
  yearText date.year ++ "-" ++ padded 2 date.month ++ "-" ++ padded 2 date.day

/-- The time of day. In a leap second the seconds read 60. -/
def clockText (time : Timestamp) : String :=
  let ofDay := (time.seconds % secondsPerDay).toNat
  let leap := nanosPerSecond ≤ time.nanos
  let second := ofDay % 60 + (if leap then 1 else 0)
  let nanos := if leap then time.nanos - nanosPerSecond else time.nanos
  padded 2 (ofDay / 3600) ++ ":" ++ padded 2 (ofDay / 60 % 60) ++ ":" ++
    padded 2 second ++ fractionText nanos

/-- The form in which times are stored and reported. -/
def toRfc3339 (time : Timestamp) : String :=
  time.dateText ++ "T" ++ time.clockText ++ "Z"

/-- The form in which messages name a time. -/
def display (time : Timestamp) : String :=
  time.dateText ++ " " ++ time.clockText ++ " UTC"

/-- Up to `limit` digits, at least one of them, and the text after them. -/
def digits? (limit : Nat) (chars : List Char) : Option (Nat × List Char) :=
  let digits := (chars.take limit).takeWhile Char.isDigit
  if digits.isEmpty then none
  else some (Decimal.digitsValue digits, chars.drop digits.length)

/-- A number after optional blanks. -/
def field? (limit : Nat) (chars : List Char) : Option (Nat × List Char) :=
  digits? limit (Text.trimStartChars chars)

/-- A separator after optional blanks. -/
def mark? (mark : Char) (chars : List Char) : Option (List Char) :=
  match Text.trimStartChars chars with
  | c :: rest => if c = mark then some rest else none
  | [] => none

/-- A year: four digits, or a sign and any number of digits. -/
def year? (chars : List Char) : Option (Int × List Char) :=
  match Text.trimStartChars chars with
  | '-' :: rest => (digits? rest.length rest).map fun (year, rest) => (-(year : Int), rest)
  | '+' :: rest => (digits? rest.length rest).map fun (year, rest) => ((year : Int), rest)
  | rest => (digits? 4 rest).map fun (year, rest) => ((year : Int), rest)

/-- A fraction of a second in nanoseconds; digits after the ninth are dropped. -/
def fraction? (chars : List Char) : Option (Nat × List Char) :=
  match chars with
  | '.' :: rest =>
      let digits := rest.takeWhile Char.isDigit
      if digits.isEmpty then none
      else
        let kept := digits.take 9
        some (Decimal.digitsValue kept * Nat.pow 10 (9 - kept.length), rest.dropWhile Char.isDigit)
  | _ => some (0, chars)

def isOffsetGap (c : Char) : Bool := c = ':' || Text.isBlank c

/-- The offset from UTC in seconds: `Z`, `UTC`, or a sign with hours and minutes. -/
def offset? (chars : List Char) : Option (Int × List Char) :=
  let named := String.ofList ((chars.take 3).map Char.toUpper) = "UTC"
  if named then some (0, chars.drop 3)
  else match chars with
    | [] => none
    | sign :: rest =>
        if sign = 'Z' ∨ sign = 'z' then some (0, rest)
        else if sign = '+' ∨ sign = '-' ∨ sign = '−' then
          match rest with
          | h1 :: h2 :: rest =>
              if h1.isDigit && h2.isDigit then
                match rest.dropWhile isOffsetGap with
                | m1 :: m2 :: rest =>
                    if m1.isDigit && m2.isDigit && Decimal.digitValue m1 < 6 then
                      let seconds : Int :=
                        Decimal.digitsValue [h1, h2] * 3600 + Decimal.digitsValue [m1, m2] * 60
                      some (if sign = '+' then seconds else -seconds, rest)
                    else none
                | _ => none
              else none
          | _ => none
        else none

/-- Puts a date, a time of day and an offset together. A second of 60 is a leap
second; offsets stay below one day. -/
def ofParts? (date : Date) (hour minute second nanos : Nat) (offset : Int) : Option Timestamp :=
  if date.isValid && hour < 24 && minute < 60 && second ≤ 60 && offset.natAbs < secondsPerDay then
    let leap := second = 60
    let ofDay : Int := hour * 3600 + minute * 60 + (if leap then 59 else second)
    let seconds := date.toDays * secondsPerDay + ofDay - offset
    let localSeconds := seconds + offset
    if earliest.seconds ≤ seconds ∧ seconds ≤ latest.seconds ∧
        earliest.seconds ≤ localSeconds ∧ localSeconds ≤ latest.seconds then
      some ⟨seconds, if leap then nanos + nanosPerSecond else nanos⟩
    else none
  else none

/-- Reads a date, `T` or a blank space, a time of day and an offset. -/
def ofRfc3339? (text : String) : Option Timestamp := do
  let (year, rest) ← year? text.toList
  let (month, rest) ← field? 2 (← mark? '-' rest)
  let (day, rest) ← field? 2 (← mark? '-' rest)
  let rest ← match rest with
    | c :: rest => if c = 'T' ∨ c = 't' ∨ c = ' ' then some rest else none
    | [] => none
  let (hour, rest) ← field? 2 rest
  let (minute, rest) ← field? 2 (← mark? ':' rest)
  let (second, rest) ← field? 2 (← mark? ':' rest)
  let (nanos, rest) ← fraction? rest
  let (offset, rest) ← offset? (Text.trimStartChars rest)
  guard (Text.trimStartChars rest).isEmpty
  ofParts? ⟨year, month, day⟩ hour minute second nanos offset

end GpuSharing.Timestamp
