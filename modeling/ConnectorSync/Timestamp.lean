import ConnectorSync.Text.Blank
import ConnectorSync.Text.Numeral

/-!
# Timestamps

Points in time as seconds since 1970 in UTC, with a fraction of up to two seconds so that a leap
second keeps its own instant. `Timestamp.parse?` reads the RFC 3339 notation with an offset, blanks
allowed between its parts; `Timestamp.render` writes it in UTC with no more than the needed groups
of three fraction digits.
-/

namespace ConnectorSync

open Text

structure Timestamp where
  /-- Whole seconds since the start of 1970 in UTC. -/
  seconds : Int
  /-- Nanoseconds beyond them; a second or more inside a leap second. -/
  nanos : Nat
  deriving DecidableEq, Repr, Inhabited

namespace Timestamp

/-- Earlier than or equal to: by seconds, then by fraction. -/
def le (a b : Timestamp) : Bool :=
  a.seconds < b.seconds || (a.seconds = b.seconds && a.nanos ≤ b.nanos)

/-! ### The calendar -/

/-- Days from the first day of 1970 to a day of the proleptic Gregorian calendar. The year is taken
to start in March, so that a leap day is its last day. -/
def daysFromCivil (year : Int) (month day : Nat) : Int :=
  let y := if month ≤ 2 then year - 1 else year
  let era := Int.fdiv y 400
  let yearOfEra := (y - era * 400).toNat
  let shifted := if 2 < month then month - 3 else month + 9
  let dayOfYear := (153 * shifted + 2) / 5 + day - 1
  let dayOfEra := yearOfEra * 365 + yearOfEra / 4 - yearOfEra / 100 + dayOfYear
  era * 146097 + dayOfEra - 719468

/-- The year, month and day of a day counted from the first day of 1970. -/
def civilFromDays (days : Int) : Int × Nat × Nat :=
  let z := days + 719468
  let era := Int.fdiv z 146097
  let dayOfEra := (z - era * 146097).toNat
  let yearOfEra := (dayOfEra - dayOfEra / 1460 + dayOfEra / 36524 - dayOfEra / 146096) / 365
  let dayOfYear := dayOfEra - (365 * yearOfEra + yearOfEra / 4 - yearOfEra / 100)
  let shifted := (5 * dayOfYear + 2) / 153
  let day := dayOfYear - (153 * shifted + 2) / 5 + 1
  let month := if shifted < 10 then shifted + 3 else shifted - 9
  let year := (yearOfEra : Int) + era * 400
  (if month ≤ 2 then year + 1 else year, month, day)

def isLeapYear (year : Int) : Bool :=
  year % 4 = 0 && (year % 100 ≠ 0 || year % 400 = 0)

def daysInMonth (year : Int) (month : Nat) : Nat :=
  if month = 2 then if isLeapYear year then 29 else 28
  else if month = 4 ∨ month = 6 ∨ month = 9 ∨ month = 11 then 30 else 31

def yearRange : Int × Int := (-262143, 262142)

def isDay (year : Int) (month day : Nat) : Bool :=
  yearRange.1 ≤ year && year ≤ yearRange.2 && 1 ≤ month && month ≤ 12 && 1 ≤ day &&
    day ≤ daysInMonth year month

/-! ### Reading -/

/-- Between one and `width` digits, after blanks. -/
def readNumber (width : Nat) (cs : List Char) : Option (Nat × List Char) :=
  let cs := trimStart cs
  let digits := (cs.take width).takeWhile isDigit
  if digits.isEmpty then none else some (ofDigits digits, cs.drop digits.length)

/-- A year: up to four digits, or a sign and any number of digits. -/
def readYear (cs : List Char) : Option (Int × List Char) :=
  let signed (sign : Int) (cs : List Char) :=
    let digits := cs.takeWhile isDigit
    if digits.isEmpty then none else some (sign * ofDigits digits, cs.drop digits.length)
  match trimStart cs with
  | '-' :: rest => signed (-1) rest
  | '+' :: rest => signed 1 rest
  | rest => (readNumber 4 rest).map fun (n, rest) => ((n : Int), rest)

def readMark (mark : Char) (cs : List Char) : Option (List Char) :=
  match trimStart cs with
  | c :: rest => if c = mark then some rest else none
  | [] => none

/-- Nanoseconds written after a point, if there is one. Digits past the ninth are dropped. -/
def readFraction (cs : List Char) : Option (Nat × List Char) :=
  match cs with
  | '.' :: rest =>
    let digits := (rest.take 9).takeWhile isDigit
    if digits.isEmpty then none
    else some (ofDigits digits * Nat.pow 10 (9 - digits.length), (rest.drop digits.length).dropWhile isDigit)
  | _ => some (0, cs)

def readTwoDigits (cs : List Char) : Option (Nat × List Char) :=
  match cs with
  | a :: b :: rest => if isDigit a && isDigit b then some (ofDigits [a, b], rest) else none
  | _ => none

/-- An offset from UTC in seconds: `Z`, `UTC`, or a sign with hours and minutes. -/
def readOffset (cs : List Char) : Option (Int × List Char) :=
  match trimStart cs with
  | 'Z' :: rest => some (0, rest)
  | 'z' :: rest => some (0, rest)
  | c :: rest =>
    if ((c :: rest).take 3).map Char.toUpper = ['U', 'T', 'C'] then some (0, rest.drop 2)
    else
      let sign? : Option Int :=
        if c = '+' then some 1 else if c = '-' ∨ c = '\u2212' then some (-1) else none
      sign?.bind fun sign =>
      (readTwoDigits rest).bind fun (hours, rest) =>
      (readTwoDigits (rest.dropWhile fun c => c = ':' || isBlank c)).bind fun (minutes, rest) =>
      if minutes < 60 ∧ hours < 24 then
        some (sign * (hours * 3600 + minutes * 60 : Nat), rest)
      else none
  | [] => none

/-- The timestamp of a day and time of day at an offset from UTC. The sixtieth second of a minute is
a leap second. -/
def ofCivil? (year : Int) (month day hour minute second nanos : Nat) (offset : Int) :
    Option Timestamp :=
  if isDay year month day ∧ hour < 24 ∧ minute < 60 ∧ second ≤ 60 then
    let leap := if second = 60 then 1000000000 else 0
    let clock := hour * 3600 + minute * 60 + Nat.min second 59
    let seconds := daysFromCivil year month day * 86400 + clock - offset
    let (year, _, _) := civilFromDays (Int.fdiv seconds 86400)
    if yearRange.1 ≤ year ∧ year ≤ yearRange.2 then some ⟨seconds, nanos + leap⟩ else none
  else none

def parse? (s : String) : Option Timestamp := do
  let (year, cs) ← readYear s.toList
  let (month, cs) ← readNumber 2 (← readMark '-' cs)
  let (day, cs) ← readNumber 2 (← readMark '-' cs)
  let cs ← match cs with
    | c :: cs => if c = 'T' ∨ c = 't' ∨ c = ' ' then some cs else none
    | [] => none
  let (hour, cs) ← readNumber 2 cs
  let (minute, cs) ← readNumber 2 (← readMark ':' cs)
  let (second, cs) ← readNumber 2 (← readMark ':' cs)
  let (nanos, cs) ← readFraction cs
  let (offset, cs) ← readOffset cs
  if (trimStart cs).isEmpty then ofCivil? year month day hour minute second nanos offset else none

/-! ### Writing -/

/-- The year of a date: four digits, or a sign and at least four. -/
def renderYear (year : Int) : String :=
  if 0 ≤ year ∧ year ≤ 9999 then paddedDecimal 4 year.natAbs
  else (if year < 0 then "-" else "+") ++ paddedDecimal 4 year.natAbs

/-- The fraction of a second, in groups of three digits, without groups of zeros at the end. -/
def renderFraction (nanos : Nat) : String :=
  if nanos = 0 then ""
  else if nanos % 1000000 = 0 then "." ++ paddedDecimal 3 (nanos / 1000000)
  else if nanos % 1000 = 0 then "." ++ paddedDecimal 6 (nanos / 1000)
  else "." ++ paddedDecimal 9 nanos

def render (t : Timestamp) : String :=
  let (year, month, day) := civilFromDays (Int.fdiv t.seconds 86400)
  let clock := (Int.fmod t.seconds 86400).toNat
  let two := paddedDecimal 2
  renderYear year ++ "-" ++ two month ++ "-" ++ two day ++ "T" ++ two (clock / 3600) ++ ":" ++
    two (clock / 60 % 60) ++ ":" ++ two (clock % 60 + t.nanos / 1000000000) ++
    renderFraction (t.nanos % 1000000000) ++ "Z"

end Timestamp

end ConnectorSync
