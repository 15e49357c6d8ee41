/-
Module: AccessTrace.Toml.Datetime
Purpose: Dates and times, as the texts that stand for them.
Main exports:
  Toml.datetime, Toml.datetime?
-/
import AccessTrace.Text.Numeral
import AccessTrace.Toml.Text

namespace AccessTrace.Toml

open Reader AccessTrace.Text

/-!
A date, a time, or both.  Nothing is done with them beyond checking that they
exist, so each is read as its usual text: a `T` between date and time, at most
nine places of a second and none that are zero at the end, and the distance
from universal time as `Z` or as hours and minutes.
-/

/-- A number of exactly so many digits. -/
def fixedDigits : Nat → Reader (List Char)
  | 0 => return []
  | count + 1 => do
    let c ← next
    if c.isDigit then return c :: (← fixedDigits count) else refuse

/-- The value of decimal digits. -/
def digitsValue (digits : List Char) : Nat :=
  Nat.ofDigitChars 10 digits 0

/-- Two digits whose number is not above a limit. -/
def twoDigits (limit : Nat) : Reader (List Char) := do
  let digits ← fixedDigits 2
  if digitsValue digits ≤ limit then return digits else refuse

/-- How many days a month has. -/
def daysIn (year month : Nat) : Nat :=
  if month = 2 then
    if year % 4 = 0 && (year % 100 != 0 || year % 400 = 0) then 29 else 28
  else if month = 4 || month = 6 || month = 9 || month = 11 then 30
  else 31

/-- A date. -/
def date : Reader (List Char) := do
  let year ← fixedDigits 4
  expect '-'
  let month ← twoDigits 12
  expect '-'
  let day ← twoDigits (daysIn (digitsValue year) (digitsValue month))
  if digitsValue month = 0 || digitsValue day = 0 then refuse
  else return year ++ '-' :: month ++ '-' :: day

/-- The places of a second, behind a point.  Nine of them count. -/
def secondPlaces : Reader (List Char) := do
  expect '.'
  let digits ← takeWhile1 Char.isDigit
  match ((digits.take 9).reverse.dropWhile (· = '0')).reverse with
  | [] => return []
  | places => return '.' :: places

/-- A time of the day. -/
def time : Reader (List Char) := do
  let hour ← twoDigits 23
  expect ':'
  let minute ← twoDigits 59
  expect ':'
  let second ← twoDigits 60
  let places ← attempt secondPlaces
  return hour ++ ':' :: minute ++ ':' :: second ++ places.getD []

/-- The distance from universal time.  A distance of nothing is positive. -/
def offset : Reader (List Char) := do
  let mark ← next
  if mark = 'Z' || mark = 'z' then return ['Z']
  else if mark = '+' || mark = '-' then
    let hour ← twoDigits 23
    expect ':'
    let minute ← twoDigits 59
    let isZero := (hour ++ minute).all (· = '0')
    return (if isZero then '+' else mark) :: hour ++ ':' :: minute
  else refuse

/-- The time behind a date, with perhaps its offset. -/
def timeAfterDate : Reader (List Char) := do
  let mark ← next
  if mark = 'T' || mark = 't' || mark = ' ' then
    let time ← time
    return 'T' :: time ++ (← attempt offset).getD []
  else refuse

/-- A date, a time, or both, as text. -/
def datetime : Reader String :=
  (do
    let date ← date
    return String.ofList (date ++ (← attempt timeAfterDate).getD []))
  <|> (return String.ofList (← time))

/-- The date or the time that a string stands for as a whole, as text. -/
def datetime? (text : String) : Option String :=
  match datetime text.toList with
  | some (value, []) => some value
  | _ => none

end AccessTrace.Toml
