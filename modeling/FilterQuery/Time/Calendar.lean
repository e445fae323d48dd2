/-!
# The calendar

Days of the proleptic Gregorian calendar, counted from 1970-01-01.
-/

namespace FilterQuery

structure Date where
  year : Int
  month : Nat
  day : Nat
deriving DecidableEq, Repr

namespace Date

def isLeap (year : Int) : Bool :=
  year % 4 == 0 && (year % 100 != 0 || year % 400 == 0)

def daysIn (year : Int) (month : Nat) : Nat :=
  match month with
  | 2 => if isLeap year then 29 else 28
  | 4 | 6 | 9 | 11 => 30
  | _ => 31

/-- The days from 1970-01-01 to a date. -/
def toDays (d : Date) : Int :=
  -- years start in March, so that the leap day is the last of its year, in cycles of 400 years
  let y := if d.month ≤ 2 then d.year - 1 else d.year
  let cycle := Int.fdiv y 400
  let yoc := y - cycle * 400
  let m : Int := if d.month > 2 then (d.month : Int) - 3 else (d.month : Int) + 9
  let doy := (153 * m + 2) / 5 + (d.day : Int) - 1
  let doc := yoc * 365 + yoc / 4 - yoc / 100 + doy
  cycle * 146097 + doc - 719468

/-- The date that many days after 1970-01-01. -/
def ofDays (days : Int) : Date :=
  let z := days + 719468
  let cycle := Int.fdiv z 146097
  let doc := z - cycle * 146097
  let yoc := (doc - doc / 1460 + doc / 36524 - doc / 146096) / 365
  let doy := doc - (365 * yoc + yoc / 4 - yoc / 100)
  let mp := (5 * doy + 2) / 153
  let day := (doy - (153 * mp + 2) / 5 + 1).toNat
  let month := (if mp < 10 then mp + 3 else mp - 9).toNat
  let year := yoc + cycle * 400 + (if month ≤ 2 then 1 else 0)
  ⟨year, month, day⟩

end Date

end FilterQuery
