import HarvestTestbed.Toml.Reader

/-!
# Dates and times

A date, a time of day, or both, the latter with an optional distance from universal time.  Only
days and times that exist are accepted; a leap second counts as existing in every minute.
-/

namespace HarvestTestbed.Toml

def isLeapYear (year : Nat) : Bool :=
  year % 4 == 0 && (year % 100 != 0 || year % 400 == 0)

/-- The number of days in a month; none if there is no such month. -/
def daysInMonth (year month : Nat) : Nat :=
  if month = 0 ∨ 12 < month then 0
  else if month = 2 then (if isLeapYear year then 29 else 28)
  else if month = 4 ∨ month = 6 ∨ month = 9 ∨ month = 11 then 30
  else 31

namespace Reader

def fixedNumber (count : Nat) : Reader Nat :=
  ofDigits 10 <$> exactly count isDecimalDigit

def date : Reader Unit := do
  let year ← fixedNumber 4
  mark '-'
  let month ← fixedNumber 2
  mark '-'
  let day ← fixedNumber 2
  if day = 0 ∨ daysInMonth year month < day then failure

def clockTime : Reader Unit := do
  let _ ← satisfying (fixedNumber 2) (· ≤ 23)
  mark ':'
  let _ ← satisfying (fixedNumber 2) (· ≤ 59)

def secondFraction : Reader Unit := do
  mark '.'
  let _ ← run1 isDecimalDigit

def timeOfDay : Reader Unit := do
  clockTime
  mark ':'
  let _ ← satisfying (fixedNumber 2) (· ≤ 60)
  let _ ← option secondFraction

/-- The distance from universal time. -/
def offset : Reader Unit :=
  (do let _ ← char fun c => c == 'Z' || c == 'z') <|>
    (do let _ ← char fun c => c == '+' || c == '-'
        clockTime)

/-- What may follow a date: a time of day with an optional offset. -/
def timeAfterDate : Reader Unit := do
  let _ ← char fun c => c == 'T' || c == 't' || c == ' '
  timeOfDay
  let _ ← option offset

def time : Reader Unit :=
  (do date
      let _ ← option timeAfterDate) <|> timeOfDay

end Reader

end HarvestTestbed.Toml
