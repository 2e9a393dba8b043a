import TagNesting.Text.Decimal

/-!
# TOML Dates and Times

Dates and times of day in the one form in which they are handed on: `T` between the two,
the seconds always there, a fraction of them only if it is not zero and then with nine
digits at most, and `Z` for the offset of zero that is written so.

A date is one of the calendar, leap years included. A minute may have a leap second.

## Main definitions

* `takeNumber`: A number of so many digits.
* `calendarDate?`: A date at the beginning of a text.
* `dayTime?`: A time of day at the beginning of a text.
* `timeOffset?`: The offset that a text is.
* `dateText?`: The date or time that a text is.
-/

namespace TagNesting.Toml

/-- A number of exactly so many digits at the beginning of a text, and what follows. -/
def takeNumber (count : Nat) (cs : List Char) : Option (Nat × List Char) :=
  let digits := cs.take count
  if digits.length = count && digits.all isDigit then
    some (numeralValue 10 digits, cs.drop count)
  else none

/-- What follows a character, if the text begins with it. -/
def behind? (mark : Char) : List Char → Option (List Char)
  | [] => none
  | c :: rest => if c = mark then some rest else none

/-- A number with leading zeros, so that it has at least two digits. -/
def twoDigits (n : Nat) : List Char :=
  if n < 10 then '0' :: decimal n else decimal n

/-- The number of days of a month. -/
def daysOfMonth (year month : Nat) : Nat :=
  if month = 2 then
    if year % 4 = 0 && (year % 100 != 0 || year % 400 = 0) then 29 else 28
  else if month = 4 || month = 6 || month = 9 || month = 11 then 30
  else 31

/-- A date at the beginning of a text, as it is written, and what follows. -/
def calendarDate? (cs : List Char) : Option (List Char × List Char) := do
  let (year, behindYear) ← takeNumber 4 cs
  let (month, behindMonth) ← takeNumber 2 (← behind? '-' behindYear)
  let (day, rest) ← takeNumber 2 (← behind? '-' behindMonth)
  guard (1 ≤ month && month ≤ 12 && 1 ≤ day && day ≤ daysOfMonth year month)
  some (cs.take 10, rest)

/-- The fraction of a second that digits behind the point make, without the point if there is
    none left. -/
def fractionText (digits : List Char) : List Char :=
  let kept := ((digits.take 9).reverse.dropWhile (· == '0')).reverse
  if kept.isEmpty then [] else '.' :: kept

/-- A time of day at the beginning of a text, in its one form, and what follows. -/
def dayTime? (cs : List Char) : Option (List Char × List Char) := do
  let (hour, behindHour) ← takeNumber 2 cs
  let (minute, behindMinute) ← takeNumber 2 (← behind? ':' behindHour)
  guard (hour ≤ 23 && minute ≤ 59)
  let head := twoDigits hour ++ ':' :: twoDigits minute
  match behindMinute with
  | ':' :: behind =>
      let (second, rest) ← takeNumber 2 behind
      guard (second ≤ 60)
      let text := head ++ ':' :: twoDigits second
      match rest with
      | '.' :: rest' =>
          let digits := rest'.takeWhile isDigit
          guard !digits.isEmpty
          some (text ++ fractionText digits, rest'.dropWhile isDigit)
      | _ => some (text, rest)
  | _ => some (head ++ [':', '0', '0'], behindMinute)

/-- The offset that a text is, in its one form. -/
def timeOffset? (cs : List Char) : Option (List Char) :=
  match cs with
  | [] => some []
  | ['Z'] => some ['Z']
  | ['z'] => some ['Z']
  | sign :: rest => do
      guard (sign == '+' || sign == '-')
      let (hour, behindHour) ← takeNumber 2 rest
      let (minute, behindMinute) ← takeNumber 2 (← behind? ':' behindHour)
      guard (hour ≤ 23 && minute ≤ 59 && behindMinute.isEmpty)
      let shown := if hour = 0 && minute = 0 then '+' else sign
      some (shown :: twoDigits hour ++ ':' :: twoDigits minute)

/-- The date, the time of day, or both, that a text is, in its one form. Only a date with a
    time can have an offset. -/
def dateText? (cs : List Char) : Option (List Char) :=
  match calendarDate? cs with
  | some (date, []) => some date
  | some (date, separator :: rest) => do
      guard (separator == 'T' || separator == 't' || separator == ' ')
      let (time, behind) ← dayTime? rest
      let offset ← timeOffset? behind
      some (date ++ 'T' :: time ++ offset)
  | none =>
      match dayTime? cs with
      | some (time, []) => some time
      | _ => none

end TagNesting.Toml
