import AthenaModels.Number.Numeral
import AthenaModels.Text.Basic

/-! Moments of time, and their texts in the manner of RFC 3339. -/

namespace AthenaModels

structure Date where
  year : Int
  month : Nat
  day : Nat
deriving DecidableEq, Repr

namespace Date

def hasYear (year : Int) : Bool := decide (-262143 ≤ year ∧ year ≤ 262142)

def isLeapYear (year : Int) : Bool :=
  year % 4 == 0 && (year % 100 != 0 || year % 400 == 0)

def monthLength (year : Int) : Nat → Nat
  | 2 => if isLeapYear year then 29 else 28
  | 4 | 6 | 9 | 11 => 30
  | _ => 31

def isValid (date : Date) : Bool :=
  1 ≤ date.month && date.month ≤ 12 && 1 ≤ date.day &&
    date.day ≤ monthLength date.year date.month

/-- Days since 1970-01-01. Years are counted from March here, so that a leap day is the last. -/
def toDays (date : Date) : Int :=
  let year := if date.month ≤ 2 then date.year - 1 else date.year
  let month : Int := if date.month ≤ 2 then date.month + 9 else date.month - 3
  let dayOfYear := (153 * month + 2) / 5 + date.day - 1
  365 * year + year / 4 - year / 100 + year / 400 + dayOfYear - 719468

def ofDays (days : Int) : Date :=
  let days := days + 719468
  let era := days / 146097
  let dayOfEra := days % 146097
  let yearOfEra := (dayOfEra - dayOfEra / 1460 + dayOfEra / 36524 - dayOfEra / 146096) / 365
  let dayOfYear := dayOfEra - (365 * yearOfEra + yearOfEra / 4 - yearOfEra / 100)
  let month := (5 * dayOfYear + 2) / 153
  let day := dayOfYear - (153 * month + 2) / 5 + 1
  let year := era * 400 + yearOfEra
  if month < 10 then ⟨year, (month + 3).toNat, day.toNat⟩
  else ⟨year + 1, (month - 9).toNat, day.toNat⟩

end Date

/-- Seconds since 1970 and nanoseconds after them. A leap second is the second before it with a
billion nanoseconds or more. -/
structure Timestamp where
  seconds : Int
  nanos : Nat
deriving DecidableEq, Repr

namespace Timestamp

def skipBlanks (text : List Char) : List Char := text.dropWhile Text.isBlank

def number? (width : Nat) (text : List Char) : Option (Nat × List Char) := do
  let digits := (text.takeWhile Char.isDigit).take width
  some (← Numeral.natural? 10 digits, text.drop digits.length)

def field? (low high : Nat) (text : List Char) : Option (Nat × List Char) := do
  let (value, rest) ← number? 2 (skipBlanks text)
  if low ≤ value ∧ value ≤ high then some (value, rest) else none

/-- A year of up to four digits, or of any number of digits after a sign. -/
def year? (text : List Char) : Option (Int × List Char) :=
  match skipBlanks text with
  | '-' :: rest => (number? rest.length rest).map fun (year, rest) => (-(year : Int), rest)
  | '+' :: rest => (number? rest.length rest).map fun (year, rest) => ((year : Int), rest)
  | rest => (number? 4 rest).map fun (year, rest) => ((year : Int), rest)

def mark? (mark : Char) (text : List Char) : Option (List Char) :=
  match skipBlanks text with
  | c :: rest => if c = mark then some rest else none
  | [] => none

def date? (text : List Char) : Option (Date × List Char) := do
  let (year, rest) ← year? text
  let (month, rest) ← field? 1 12 (← mark? '-' rest)
  let (day, rest) ← field? 1 31 (← mark? '-' rest)
  let date : Date := ⟨year, month, day⟩
  if date.isValid && Date.hasYear year then some (date, rest) else none

/-- Nanoseconds of a fraction; digits after the ninth do not count. -/
def fraction? : List Char → Option (Nat × List Char)
  | '.' :: rest => do
      let digits := (rest.takeWhile Char.isDigit).take 9
      let value ← Numeral.natural? 10 digits
      some (value * Nat.pow 10 (9 - digits.length), rest.dropWhile Char.isDigit)
  | rest => some (0, rest)

def time? (text : List Char) : Option (Nat × Nat × List Char) := do
  let (hour, rest) ← field? 0 23 text
  let (minute, rest) ← field? 0 59 (← mark? ':' rest)
  let (second, rest) ← field? 0 60 (← mark? ':' rest)
  let (nanos, rest) ← fraction? rest
  let leap := if second = 60 then 1 else 0
  some (hour * 3600 + minute * 60 + second - leap, nanos + leap * Nat.pow 10 9, rest)

def separator? : List Char → Option (List Char)
  | c :: rest => if c == 't' || c == 'T' || c == ' ' then some rest else none
  | [] => none

def twoDigits? : List Char → Option (Nat × List Char)
  | a :: b :: rest => do some (← Numeral.natural? 10 [a, b], rest)
  | _ => none

def offset? (text : List Char) : Option (Int × List Char) := do
  if (text.take 3).map Char.toUpper == "UTC".toList then some (0, text.drop 3)
  else
    match text with
    | [] => none
    | c :: rest =>
        if c == 'z' || c == 'Z' then some (0, rest)
        else if c == '+' || c == '-' || c == '\u2212' then
          let (hours, rest) ← twoDigits? rest
          let (minutes, rest) ← twoDigits? (rest.dropWhile fun c => c == ':' || Text.isBlank c)
          let seconds := hours * 3600 + minutes * 60
          if minutes < 60 && seconds < 86400 then
            some (if c == '+' then (seconds : Int) else -(seconds : Int), rest)
          else none
        else none

def isInRange (t : Timestamp) : Bool :=
  Date.hasYear (Date.ofDays (t.seconds / 86400)).year

/-- A moment as it is read: blanks may go before each number and mark, and at the end. -/
def ofText? (text : String) : Option Timestamp := do
  let (date, rest) ← date? text.toList
  let (seconds, nanos, rest) ← time? (← separator? rest)
  let (offset, rest) ← offset? (skipBlanks rest)
  let moment : Timestamp := ⟨date.toDays * 86400 + seconds - offset, nanos⟩
  if (skipBlanks rest).isEmpty && moment.isInRange then some moment else none

def symbol? (symbol : Char) : List Char → Option (List Char)
  | c :: rest => if c = symbol then some rest else none
  | [] => none

/-- Any one ASCII character may part the date from the time. -/
def parting? : List Char → Option (List Char)
  | c :: rest => if c.toNat < 128 then some rest else none
  | [] => none

/-- A leap second ends the last day of a month. -/
def isSecond (date : Date) (hour minute second : Nat) : Bool :=
  second < 60 ||
    (second == 60 && minute == 59 && hour == 23 &&
      date.day == Date.monthLength date.year date.month)

/-- Universal time in full: every digit of every field, and no blanks. -/
def universal? (text : List Char) : Option (Date × Nat × Nat × Nat) := do
  let (century, rest) ← twoDigits? text
  let (year, rest) ← twoDigits? rest
  let (month, rest) ← twoDigits? (← symbol? '-' rest)
  let (day, rest) ← twoDigits? (← symbol? '-' rest)
  let (hour, rest) ← twoDigits? (← parting? rest)
  let (minute, rest) ← twoDigits? (← symbol? ':' rest)
  let (second, rest) ← twoDigits? (← symbol? ':' rest)
  let (_, rest) ← fraction? rest
  let date : Date := ⟨(century * 100 + year : Nat), month, day⟩
  if rest = ['Z'] then some (date, hour, minute, second) else none

def isUniversal (text : String) : Bool :=
  match universal? text.toList with
  | some (date, hour, minute, second) =>
      date.isValid && hour < 24 && minute < 60 && isSecond date hour minute second
  | none => false

def yearText (year : Int) : String :=
  if 0 ≤ year ∧ year ≤ 9999 then Numeral.padded 4 year.toNat
  else (if year < 0 then "-" else "+") ++ Numeral.padded 4 year.natAbs

def fractionText (nanos : Nat) : String :=
  if nanos = 0 then ""
  else if nanos % Nat.pow 10 6 = 0 then "." ++ Numeral.padded 3 (nanos / Nat.pow 10 6)
  else if nanos % Nat.pow 10 3 = 0 then "." ++ Numeral.padded 6 (nanos / Nat.pow 10 3)
  else "." ++ Numeral.padded 9 nanos

def toText (t : Timestamp) : String :=
  let date := Date.ofDays (t.seconds / 86400)
  let second := (t.seconds % 86400).toNat
  let leap := t.nanos / Nat.pow 10 9
  yearText date.year ++ "-" ++ Numeral.padded 2 date.month ++ "-" ++ Numeral.padded 2 date.day ++
    "T" ++ Numeral.padded 2 (second / 3600) ++ ":" ++ Numeral.padded 2 (second / 60 % 60) ++ ":" ++
    Numeral.padded 2 (second % 60 + leap) ++ fractionText (t.nanos % Nat.pow 10 9) ++ "Z"

end Timestamp
end AthenaModels
