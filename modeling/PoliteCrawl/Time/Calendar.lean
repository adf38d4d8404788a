set_option autoImplicit false

namespace PoliteCrawl.Time

structure Date where
  year : Int
  month : Nat
  day : Nat
deriving DecidableEq, Repr

def isLeapYear (year : Int) : Bool :=
  year.emod 4 == 0 && (year.emod 100 != 0 || year.emod 400 == 0)

def daysInMonth (year : Int) (month : Nat) : Nat :=
  match month with
  | 2 => if isLeapYear year then 29 else 28
  | 4 => 30
  | 6 => 30
  | 9 => 30
  | 11 => 30
  | _ => 31

namespace Date

def isValid (date : Date) : Bool :=
  1 ≤ date.month && date.month ≤ 12 && 1 ≤ date.day &&
    date.day ≤ daysInMonth date.year date.month

def daysBeforeMonth (fromMarch : Int) : Int :=
  (153 * fromMarch + 2).fdiv 5

-- The day's number. The year is taken to start in March, so that a leap day ends it.
def dayNumber (date : Date) : Int :=
  let year := if date.month ≤ 2 then date.year - 1 else date.year
  let fromMarch : Int := if date.month ≤ 2 then date.month + 9 else date.month - 3
  let era := year.fdiv 400
  let yearOfEra := year - era * 400
  let dayOfYear := daysBeforeMonth fromMarch + date.day - 1
  let dayOfEra := yearOfEra * 365 + yearOfEra.fdiv 4 - yearOfEra.fdiv 100 + dayOfYear
  era * 146097 + dayOfEra - 719468

def ofDayNumber (number : Int) : Date :=
  let shifted := number + 719468
  let era := shifted.fdiv 146097
  let dayOfEra := shifted - era * 146097
  let yearOfEra :=
    (dayOfEra - dayOfEra.fdiv 1460 + dayOfEra.fdiv 36524 - dayOfEra.fdiv 146096).fdiv 365
  let dayOfYear := dayOfEra - (365 * yearOfEra + yearOfEra.fdiv 4 - yearOfEra.fdiv 100)
  let fromMarch := (5 * dayOfYear + 2).fdiv 153
  let month := (if fromMarch < 10 then fromMarch + 3 else fromMarch - 9).toNat
  let year := yearOfEra + era * 400
  { year := if month ≤ 2 then year + 1 else year
    month
    day := (dayOfYear - daysBeforeMonth fromMarch + 1).toNat }

def weekday (date : Date) : Nat :=
  ((date.dayNumber + 3).emod 7).toNat

end Date

end PoliteCrawl.Time
