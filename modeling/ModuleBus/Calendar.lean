import ModuleBus.Text.Basic

set_option autoImplicit false

/-! # Dates and times of day

A point of civil time is a day of the Gregorian calendar, counted from 1970-01-01, with a second
of that day and nanoseconds. A leap second is the last second of a minute with a billion
nanoseconds or more. `DateTime.ofText?` reads the written form `2026-06-01T12:00:00`. -/

namespace ModuleBus

/-- A point of civil time. -/
structure DateTime where
  /-- Days since 1970-01-01. -/
  day : Int
  /-- Second of the day. -/
  second : Nat
  /-- Nanoseconds, a billion or more during a leap second. -/
  nano : Nat
deriving DecidableEq, Inhabited

namespace DateTime

/-! ## The Gregorian calendar

Years are counted from March, so that the leap day is the last day of a year; 400 years have
146097 days. -/

/-- A year with a 29th of February. -/
def isLeapYear (year : Int) : Bool :=
  year % 4 == 0 && (year % 100 != 0 || year % 400 == 0)

/-- Days of a month. -/
def daysInMonth (year : Int) (month : Nat) : Nat :=
  if month = 2 then (if isLeapYear year then 29 else 28)
  else if month = 4 ∨ month = 6 ∨ month = 9 ∨ month = 11 then 30
  else 31

/-- The day number of a date. -/
def dayNumber (year : Int) (month day : Nat) : Int :=
  let y := if month ≤ 2 then year - 1 else year
  let era := y / 400
  let yearOfEra := y % 400
  let monthFromMarch := (month + 9) % 12
  let dayOfYear := (153 * monthFromMarch + 2) / 5 + day - 1
  era * 146097 + yearOfEra * 365 + yearOfEra / 4 - yearOfEra / 100 + dayOfYear - 719468

/-- The year, month and day of a day number. -/
def date (number : Int) : Int × Nat × Nat :=
  let z := number + 719468
  let era := z / 146097
  let dayOfEra := (z % 146097).toNat
  let yearOfEra := (dayOfEra - dayOfEra / 1460 + dayOfEra / 36524 - dayOfEra / 146096) / 365
  let dayOfYear := dayOfEra - (365 * yearOfEra + yearOfEra / 4 - yearOfEra / 100)
  let monthFromMarch := (5 * dayOfYear + 2) / 153
  let day := dayOfYear - (153 * monthFromMarch + 2) / 5 + 1
  let month := if monthFromMarch < 10 then monthFromMarch + 3 else monthFromMarch - 9
  let year := (yearOfEra : Int) + era * 400
  (if month ≤ 2 then year + 1 else year, month, day)

/-- The years that dates may have. -/
def inYears (year : Int) : Bool := -262143 ≤ year && year ≤ 262142

/-- The time with the given fields, when they name one; there is no leap second. -/
def ofFields? (year : Int) (month day hour minute second : Nat) : Option DateTime :=
  if inYears year ∧ 1 ≤ month ∧ month ≤ 12 ∧ 1 ≤ day ∧ day ≤ daysInMonth year month
      ∧ hour < 24 ∧ minute < 60 ∧ second < 60 then
    some ⟨dayNumber year month day, hour * 3600 + minute * 60 + second, 0⟩
  else none

/-- The year of a time. -/
def year (t : DateTime) : Int := (date t.day).1

/-- The month of a time, from 1. -/
def month (t : DateTime) : Nat := (date t.day).2.1

/-- The day of the month of a time, from 1. -/
def dayOfMonth (t : DateTime) : Nat := (date t.day).2.2

/-- The hour of a time. -/
def hour (t : DateTime) : Nat := t.second / 3600

/-- The minute of a time. -/
def minute (t : DateTime) : Nat := t.second / 60 % 60

/-- The second of the minute of a time; a leap second shows as the second it extends. -/
def secondOfMinute (t : DateTime) : Nat := t.second % 60

/-! ## Later times -/

/-- The time `ms` milliseconds later. Within a leap second only the nanoseconds move; leaving it
uses up the second that it extends. -/
def addMillis (t : DateTime) (ms : Nat) : DateTime :=
  let seconds := ms / 1000
  let nanos := ms % 1000 * 1000000
  if t.nano ≥ 1000000000 ∧ seconds = 0 ∧ t.nano + nanos < 2000000000 then
    { t with nano := t.nano + nanos }
  else
    let nano := (if t.nano ≥ 1000000000 then t.nano - 1000000000 else t.nano) + nanos
    let second := t.second + seconds + nano / 1000000000
    ⟨t.day + (second / 86400 : Nat), second % 86400, nano % 1000000000⟩

/-! ## Written times -/

/-- A number of at most `width` digits at the start of a text. -/
def number? (width : Nat) (cs : List Char) : Option (Nat × List Char) :=
  let digits := (cs.take width).takeWhile Char.isDigit
  if digits.isEmpty then none
  else some (digits.foldl (fun n c => n * 10 + (c.toNat - 48)) 0, cs.drop digits.length)

/-- A year: with a sign of any length, without one of at most four digits. -/
def yearNumber? (cs : List Char) : Option (Int × List Char) :=
  match trimStart isBlank cs with
  | '-' :: rest => (number? rest.length rest).map fun (n, rest) => (-(n : Int), rest)
  | '+' :: rest => (number? rest.length rest).map fun (n, rest) => ((n : Int), rest)
  | rest => (number? 4 rest).map fun (n, rest) => ((n : Int), rest)

/-- The mark `c`, with blanks before it. -/
def mark? (c : Char) (cs : List Char) : Option (List Char) :=
  match trimStart isBlank cs with
  | d :: rest => if d = c then some rest else none
  | [] => none

/-- The mark `c`, then a number of at most two digits; blanks may stand before both. -/
def field? (c : Char) (cs : List Char) : Option (Nat × List Char) := do
  number? 2 (trimStart isBlank (← mark? c cs))

/-- The nanoseconds of a decimal fraction of a second, cut after nine digits. -/
def fraction? (cs : List Char) : Option (Nat × List Char) :=
  match cs with
  | '.' :: rest => do
    let (n, after) ← number? 9 rest
    let width := rest.length - after.length
    pure (n * Nat.pow 10 (9 - width), after.dropWhile Char.isDigit)
  | _ => some (0, cs)

/-- The time that a text writes: date and time of day with `T` between them. Second 60 is the
leap second of its minute. -/
def ofText? (s : String) : Option DateTime := do
  let (year, rest) ← yearNumber? s.toList
  let (month, rest) ← field? '-' rest
  let (day, rest) ← field? '-' rest
  let (hour, rest) ← field? 'T' rest
  let (minute, rest) ← field? ':' rest
  let (second, rest) ← field? ':' rest
  let (nano, rest) ← fraction? rest
  if (trimStart isBlank rest).isEmpty ∧ second ≤ 60 then
    let t ← ofFields? year month day hour minute (min second 59)
    pure { t with nano := nano + (if second = 60 then 1000000000 else 0) }
  else none

/-- A number with zeros in front up to `width` digits. -/
def digits (width n : Nat) : String :=
  let ds := Nat.toDigits 10 n
  String.ofList (List.replicate (width - ds.length) '0' ++ ds)

/-- The year as it is written: four digits, and a sign where that is not enough. -/
def yearText (year : Int) : String :=
  if 0 ≤ year ∧ year ≤ 9999 then digits 4 year.toNat
  else if year < 0 then "-" ++ digits 4 year.natAbs
  else "+" ++ digits 4 year.natAbs

/-- The written form of a time, to the second. -/
def text (t : DateTime) : String :=
  yearText t.year ++ "-" ++ digits 2 t.month ++ "-" ++ digits 2 t.dayOfMonth ++ "T"
    ++ digits 2 t.hour ++ ":" ++ digits 2 t.minute ++ ":" ++ digits 2 t.secondOfMinute

example : (ofText? "2024-02-29T23:59:60").map (fun t => (t.addMillis 1000).text)
    = some "2024-03-01T00:00:00" := by decide +kernel

end DateTime

end ModuleBus
