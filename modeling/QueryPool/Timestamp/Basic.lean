namespace QueryPool

namespace Timestamp

def isLeapYear (year : Int) : Bool := year % 4 = 0 && (year % 100 ≠ 0 || year % 400 = 0)

def daysIn (year : Int) : Nat → Nat
  | 2 => if isLeapYear year then 29 else 28
  | 4 | 6 | 9 | 11 => 30
  | _ => 31

/-- The days of the Gregorian calendar that a timestamp can name. -/
def isDate (year : Int) (month day : Nat) : Bool :=
  -262143 ≤ year && year ≤ 262142 && 1 ≤ month && month ≤ 12 && 1 ≤ day && day ≤ daysIn year month

/-- A second with a second billion of nanoseconds is followed by a leap second. It need not be the
last of its minute. -/
def isTime (hour minute second nanos : Nat) : Bool :=
  hour < 24 && minute < 60 && second < 60 && nanos < 2_000_000_000

end Timestamp

/-- A date and a time of day without a time zone. -/
structure Timestamp where
  year : Int
  month : Nat
  day : Nat
  hour : Nat
  minute : Nat
  second : Nat
  nanos : Nat
  date : Timestamp.isDate year month day = true
  time : Timestamp.isTime hour minute second nanos = true
  deriving DecidableEq

def Timestamp.of? (year : Int) (month day hour minute second nanos : Nat) : Option Timestamp :=
  if hd : isDate year month day = true then
    if ht : isTime hour minute second nanos = true then
      some ⟨year, month, day, hour, minute, second, nanos, hd, ht⟩
    else none
  else none

end QueryPool
