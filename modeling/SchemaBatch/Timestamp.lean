import SchemaBatch.Text

/-!
# `Timestamp` — instants, their reading and their printing

An instant is a day, a second of that day and a nanosecond of that second, all in universal time. A
leap second prolongs the second before it.

Contents: `Timestamp`; the calendar (`dayNumber`, `civil`); `Timestamp.parse?`, which reads the
format of RFC 3339 and tolerates blanks between its parts, short numbers and a sign on the year;
`Timestamp.print`, which writes universal time with the fewest of 0, 3, 6 or 9 fraction digits that
are exact.
-/

namespace SchemaBatch

/-- An instant in universal time. -/
structure Timestamp where
  /-- Days since 1 January 1970. -/
  day : Int
  /-- Seconds since the start of the day, below 86400. -/
  second : Nat
  /-- Nanoseconds since the start of the second; from 10⁹ on they lie in a leap second. -/
  nano : Nat
  deriving DecidableEq, Repr

/-! ## Calendar -/

/-- A date of the proleptic Gregorian calendar. -/
structure CivilDate where
  year : Int
  month : Nat
  day : Nat
  deriving DecidableEq, Repr

namespace CivilDate

/-- Whether a year has a 29 February. -/
def isLeap (year : Int) : Bool := year % 4 == 0 && (year % 100 != 0 || year % 400 == 0)

/-- The number of days of a month. -/
def monthLength (year : Int) (month : Nat) : Nat :=
  if month == 2 then (if isLeap year then 29 else 28)
  else if month == 4 || month == 6 || month == 9 || month == 11 then 30
  else 31

/-- The years that timestamps may lie in. -/
def inRange (year : Int) : Bool := -262143 ≤ year && year ≤ 262142

/-- Whether the date exists and lies in the range of timestamps. -/
def isValid (d : CivilDate) : Bool :=
  inRange d.year && 1 ≤ d.month && d.month ≤ 12 && 1 ≤ d.day && d.day ≤ monthLength d.year d.month

/-- The days from 1 January 1970 to the date. Years are counted from March, so that a leap day is
the last day of its year. -/
def dayNumber (d : CivilDate) : Int :=
  let year := if d.month ≤ 2 then d.year - 1 else d.year
  let era := year / 400
  let yearOfEra := year % 400
  let dayOfYear : Int := (153 * ((d.month + 9) % 12) + 2) / 5 + d.day - 1
  era * 146097 + (yearOfEra * 365 + yearOfEra / 4 - yearOfEra / 100 + dayOfYear) - 719468

/-- The date a number of days after 1 January 1970. -/
def ofDayNumber (n : Int) : CivilDate :=
  let shifted := n + 719468
  let era := shifted / 146097
  let dayOfEra := shifted % 146097
  let yearOfEra := (dayOfEra - dayOfEra / 1460 + dayOfEra / 36524 - dayOfEra / 146096) / 365
  let dayOfYear := (dayOfEra - (365 * yearOfEra + yearOfEra / 4 - yearOfEra / 100)).toNat
  let marchMonth := (5 * dayOfYear + 2) / 153
  let month := if marchMonth < 10 then marchMonth + 3 else marchMonth - 9
  let year := yearOfEra + era * 400
  ⟨if month ≤ 2 then year + 1 else year, month, dayOfYear - (153 * marchMonth + 2) / 5 + 1⟩

end CivilDate

namespace Timestamp

/-- The instant a number of milliseconds after the start of 1970. -/
def ofMillis (n : Nat) : Timestamp :=
  ⟨(n / 86400000 : Nat), n % 86400000 / 1000, n % 1000 * 1000000⟩

/-! ## Reading -/

/-- The number of a nonempty run of at most `limit` digits, and the text after it. -/
def number? (limit : Nat) (s : Text) : Option (Nat × Text) :=
  match (s.take limit).takeWhile Char.isDigit with
  | [] => none
  | digits => some (Text.toNat digits, s.drop digits.length)

/-- A number that blanks may precede and that must lie between two bounds. -/
def field? (low high : Nat) (s : Text) : Option (Nat × Text) := do
  let (n, rest) ← number? 2 (Text.trimStart s)
  if low ≤ n && n ≤ high then some (n, rest) else none

/-- A year: up to four digits, or a sign and any number of digits. -/
def year? (s : Text) : Option (Int × Text) :=
  match Text.trimStart s with
  | '-' :: rest => (number? rest.length rest).map fun (n, rest) => (-(n : Int), rest)
  | '+' :: rest => (number? rest.length rest).map fun (n, rest) => ((n : Int), rest)
  | s => (number? 4 s).map fun (n, rest) => ((n : Int), rest)

/-- The text after a mark that blanks may precede. -/
def mark? (mark : Char) (s : Text) : Option Text :=
  match Text.trimStart s with
  | c :: rest => if c == mark then some rest else none
  | [] => none

/-- A date with its hyphens. -/
def date? (s : Text) : Option (CivilDate × Text) := do
  let (year, s) ← year? s
  let (month, s) ← field? 1 12 (← mark? '-' s)
  let (day, s) ← field? 1 31 (← mark? '-' s)
  let date : CivilDate := ⟨year, month, day⟩
  if date.isValid then some (date, s) else none

/-- The nanoseconds of a fraction, if a point follows. Digits beyond the ninth are skipped. -/
def fraction? : Text → Option (Nat × Text)
  | '.' :: rest =>
    match rest.takeWhile Char.isDigit with
    | [] => none
    | digits =>
      let kept := digits.take 9
      some (Text.toNat kept * Nat.pow 10 (9 - kept.length), rest.dropWhile Char.isDigit)
  | s => some (0, s)

/-- A time of day with its colons: the second of the day and the nanosecond. Second 60 is a leap
second. -/
def time? (s : Text) : Option ((Nat × Nat) × Text) := do
  let (hour, s) ← field? 0 23 s
  let (minute, s) ← field? 0 59 (← mark? ':' s)
  let (second, s) ← field? 0 60 (← mark? ':' s)
  let (nano, s) ← fraction? s
  let start := (hour * 60 + minute) * 60
  if second == 60 then some ((start + 59, nano + 1000000000), s)
  else some ((start + second, nano), s)

/-- Two digits, which must be below a bound. -/
def twoDigits? (bound : Nat) : Text → Option (Nat × Text)
  | a :: b :: rest =>
    let n := Text.toNat [a, b]
    if a.isDigit && b.isDigit && n < bound then some (n, rest) else none
  | _ => none

/-- The hours and minutes of an offset, which colons and blanks may part, in seconds. -/
def offsetSize? (s : Text) : Option (Int × Text) := do
  let (hours, s) ← twoDigits? 100 s
  let (minutes, s) ← twoDigits? 60 (s.dropWhile fun c => c == ':' || isBlank c)
  some (((hours * 60 + minutes) * 60 : Nat), s)

/-- The seconds by which local time is ahead of universal time. -/
def offset? (s : Text) : Option (Int × Text) :=
  match Text.trimStart s with
  | u :: t :: c :: rest =>
    if Text.sameLetters [u, t, c] ['U', 'T', 'C'] then some (0, rest)
    else signed (u :: t :: c :: rest)
  | s => signed s
where
  /-- An offset that is not written as a zone name. -/
  signed : Text → Option (Int × Text)
    | 'Z' :: rest | 'z' :: rest => some (0, rest)
    | '+' :: rest => offsetSize? rest
    | '-' :: rest | '\u2212' :: rest => (offsetSize? rest).map fun (n, rest) => (-n, rest)
    | _ => none

/-- The instant of a local date and time. -/
def ofLocal (date : CivilDate) (second nano : Nat) (offset : Int) : Timestamp :=
  let total := date.dayNumber * 86400 + second - offset
  ⟨total / 86400, (total % 86400).toNat, nano⟩

/-- The instant that a text denotes. -/
def parse? (s : Text) : Option Timestamp := do
  let (date, s) ← date? s
  let s ← match s with
    | 'T' :: s | 't' :: s | ' ' :: s => some s
    | _ => none
  let ((second, nano), s) ← time? s
  let (offset, s) ← offset? s
  let instant := ofLocal date second nano offset
  if offset.natAbs < 86400 && (Text.trimStart s).isEmpty &&
      CivilDate.inRange (CivilDate.ofDayNumber instant.day).year
  then some instant else none

/-! ## Printing -/

/-- A year: four digits, with a sign outside the years 0 to 9999. -/
def printYear (year : Int) : Text :=
  if 0 ≤ year && year ≤ 9999 then Text.padded 4 year.toNat
  else (if year < 0 then '-' else '+') ::
    (if year.natAbs < 10000 then Text.padded 4 year.natAbs else Text.numeral year.natAbs)

/-- The fraction of a second in nanoseconds, left out when it is zero. -/
def printFraction (nano : Nat) : Text :=
  if nano = 0 then []
  else if nano % 1000000 = 0 then '.' :: Text.padded 3 (nano / 1000000)
  else if nano % 1000 = 0 then '.' :: Text.padded 6 (nano / 1000)
  else '.' :: Text.padded 9 nano

/-- The instant in universal time. -/
def print (t : Timestamp) : Text :=
  let date := CivilDate.ofDayNumber t.day
  let leap := t.nano / 1000000000
  printYear date.year ++ '-' :: Text.padded 2 date.month ++ '-' :: Text.padded 2 date.day ++
    'T' :: Text.padded 2 (t.second / 3600) ++ ':' :: Text.padded 2 (t.second / 60 % 60) ++
    ':' :: Text.padded 2 (t.second % 60 + leap) ++ printFraction (t.nano % 1000000000) ++ ['Z']

end Timestamp
end SchemaBatch
