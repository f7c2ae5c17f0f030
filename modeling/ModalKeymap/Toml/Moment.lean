import ModalKeymap.Toml.Reading
import ModalKeymap.Value

/-!
# Dates and times in TOML

A date, a time of day, or both with an optional offset from universal time.
A date has to exist in the calendar.
-/

namespace ModalKeymap.Toml

/-- The number written by exactly so many decimal digits, and the rest. -/
def fixedDigits? (width : Nat) (text : List Char) :
    Option (Nat × List Char) :=
  let digits := text.take width
  if digits.length = width && digits.all Char.isDigit then
    some (digits.foldl (fun number digit =>
      10 * number + (digit.toNat - '0'.toNat)) 0, text.drop width)
  else
    none

/-- Whether a year has a leap day. -/
def isLeapYear (year : Nat) : Bool :=
  year % 4 = 0 && (year % 100 ≠ 0 || year % 400 = 0)

/-- The number of days of a month. -/
def daysOfMonth (year month : Nat) : Nat :=
  if month = 2 then
    if isLeapYear year then 29 else 28
  else if month = 4 || month = 6 || month = 9 || month = 11 then
    30
  else
    31

/-- A date as it is written, whether it exists or not, and the rest. -/
def date? (text : List Char) :
    Option ((Nat × Nat × Nat) × List Char) := do
  let (year, text) ← fixedDigits? 4 text
  let (month, text) ← fixedDigits? 2 (← after? ['-'] text)
  let (day, text) ← fixedDigits? 2 (← after? ['-'] text)
  if 1 ≤ month && month ≤ 12 && 1 ≤ day && day ≤ 31 then
    return ((year, month, day), text)
  else
    none

/-- Whether a date exists; the calendar starts with the year 1. -/
def exists? (date : Nat × Nat × Nat) : Bool :=
  1 ≤ date.1 && date.2.2 ≤ daysOfMonth date.1 date.2.1

/-- The fraction of a second, which may be missing. -/
def skipFraction (text : List Char) : List Char :=
  match text with
  | '.' :: digit :: rest =>
      if digit.isDigit then rest.dropWhile Char.isDigit else text
  | _ => text

/-- What follows an hour and a minute. -/
def afterMinute? (text : List Char) : Option (List Char) := do
  let (hour, text) ← fixedDigits? 2 text
  let (minute, text) ← fixedDigits? 2 (← after? [':'] text)
  if hour < 24 && minute < 60 then some text else none

/-- What follows a time of day. -/
def afterTime? (text : List Char) : Option (List Char) := do
  let text ← afterMinute? text
  let (second, text) ← fixedDigits? 2 (← after? [':'] text)
  if second < 60 then some (skipFraction text) else none

/-- What follows an offset from universal time, which may be missing. -/
def skipOffset (text : List Char) : List Char :=
  match text with
  | 'Z' :: rest => rest
  | 'z' :: rest => rest
  | '+' :: rest => (afterMinute? rest).getD text
  | '-' :: rest => (afterMinute? rest).getD text
  | _ => text

/-- What follows the time behind a date, if there is one. -/
def afterTimeOfDate? (text : List Char) : Option (List Char) :=
  match text with
  | 'T' :: rest => (afterTime? rest).map skipOffset
  | 't' :: rest => (afterTime? rest).map skipOffset
  | ' ' :: rest => (afterTime? rest).map skipOffset
  | _ => none

/-- The value written by the part of a text in front of its rest. -/
def momentUpTo (form : Moment) (text rest : List Char) :
    Value × List Char :=
  (.moment form (String.ofList (text.take (text.length - rest.length))), rest)

/-- A date or a time, if one stands in front of a text. -/
def moment? (text : List Char) : Option (Except ReadFault (Front Value)) :=
  match date? text with
  | some (date, afterDate) =>
      if exists? date then
        match afterTimeOfDate? afterDate with
        | some rest => some (.ok (momentUpTo .dateTime text rest))
        | none => some (.ok (momentUpTo .date text afterDate))
      else
        some malformed
  | none =>
      (afterTime? text).map fun rest => .ok (momentUpTo .time text rest)

end ModalKeymap.Toml
