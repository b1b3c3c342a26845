/-
# Instants

`Date.parse` and `toISOString` on the one format the remediation code writes and, in its strict
checks, accepts: `YYYY-MM-DDTHH:mm:ss.sssZ` for the years 0 to 9999, in the proleptic Gregorian
calendar.  `parseIso` reads nothing else.
-/
import Archon.Ecma.Text

namespace Ecma

namespace Instant

/-! ## 1. The calendar -/

/-- Days before a year. -/
def daysBeforeYear (year : Nat) : Nat :=
  if year = 0 then 0
  else 365 * year + (year - 1) / 4 + 1 - (year - 1) / 100 + (year - 1) / 400

/-- Is 29 February a day of the year? -/
def isLeap (year : Nat) : Bool := year % 4 == 0 && (year % 100 != 0 || year % 400 == 0)

/-- The lengths of the months. -/
def monthLengths (year : Nat) : List Nat :=
  [31, if isLeap year then 29 else 28, 31, 30, 31, 30, 31, 31, 30, 31, 30, 31]

/-- The length of a month, counted from 1. -/
def monthLength (year month : Nat) : Nat := (monthLengths year).getD (month - 1) 0

/-- Days before a month of a year. -/
def daysBeforeMonth (year month : Nat) : Nat := ((monthLengths year).take (month - 1)).sum

/-- Days from 1970-01-01 to a date. -/
def daysSinceEpoch (year month day : Nat) : Int :=
  (daysBeforeYear year + daysBeforeMonth year month + (day - 1) : Nat) - (daysBeforeYear 1970 : Nat)

/-! ## 2. Reading -/

/-- The value of some digits, if they are digits. -/
def readNat (t : Text) : Option Nat :=
  if t.all isDigit then some (digitsValue (t.map digitValue)) else none

/-- `Date.parse(t)`, for a text of this format. -/
def parseIso (t : Text) : Option Int := do
  let year ← readNat (slice t 0 4)
  let month ← readNat (slice t 5 7)
  let day ← readNat (slice t 8 10)
  let hour ← readNat (slice t 11 13)
  let minute ← readNat (slice t 14 16)
  let second ← readNat (slice t 17 19)
  let millisecond ← readNat (slice t 20 23)
  if t.length = 24 ∧ slice t 4 5 = js "-" ∧ slice t 7 8 = js "-" ∧ slice t 10 11 = js "T" ∧
      slice t 13 14 = js ":" ∧ slice t 16 17 = js ":" ∧ slice t 19 20 = js "." ∧
      slice t 23 24 = js "Z" ∧ 1 ≤ month ∧ month ≤ 12 ∧ 1 ≤ day ∧ day ≤ monthLength year month ∧
      hour < 24 ∧ minute < 60 ∧ second < 60 then
    some ((((daysSinceEpoch year month day * 24 + hour) * 60 + minute) * 60 + second) * 1000
      + millisecond)
  else none

/-! ## 3. Printing -/

/-- A number with leading zeros, `width` digits wide. -/
def pad (width n : Nat) : Text :=
  (List.range width).map fun i => digitUnit (n / 10 ^ (width - 1 - i) % 10)

/-- The year of a day counted from the beginning of year 0. -/
def yearOf (day : Nat) : Nat :=
  let guess := day / 366
  guess + ((List.range 24).filter fun i => daysBeforeYear (guess + i + 1) ≤ day).length

/-- The month of a day counted from the beginning of its year. -/
def monthOf (year day : Nat) : Nat :=
  ((List.range 12).filter fun i => daysBeforeMonth year (i + 1) ≤ day).length

/-- `new Date(ms).toISOString()`, for the years of this format. -/
def isoText (ms : Int) : Text :=
  let total := (ms + 86400000 * (daysBeforeYear 1970 : Nat)).toNat
  let day := total / 86400000
  let rest := total % 86400000
  let year := yearOf day
  let inYear := day - daysBeforeYear year
  let month := monthOf year inYear
  pad 4 year ++ js "-" ++ pad 2 month ++ js "-" ++ pad 2 (inYear - daysBeforeMonth year month + 1) ++
    js "T" ++ pad 2 (rest / 3600000) ++ js ":" ++ pad 2 (rest / 60000 % 60) ++ js ":" ++
    pad 2 (rest / 1000 % 60) ++ js "." ++ pad 3 (rest % 1000) ++ js "Z"

example : parseIso (js "2026-07-14T10:00:00.000Z") = some 1784023200000 := by decide

end Instant

end Ecma
