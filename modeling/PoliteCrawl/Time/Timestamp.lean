import PoliteCrawl.Time.Calendar
import PoliteCrawl.Time.Span

set_option autoImplicit false

namespace PoliteCrawl.Time

-- Seconds since 1970, and nanoseconds into that second. A leap second counts as the second before
-- it, drawn out to two thousand million nanoseconds.
structure Timestamp where
  seconds : Int
  nanos : Nat
deriving DecidableEq, Repr

namespace Timestamp

def secondsPerDay : Int := 86400

def leastYear : Int := -262143

def greatestYear : Int := 262142

def date (stamp : Timestamp) : Date :=
  Date.ofDayNumber (stamp.seconds.fdiv secondsPerDay)

def secondOfDay (stamp : Timestamp) : Nat :=
  (stamp.seconds.emod secondsPerDay).toNat

def isInRange (stamp : Timestamp) : Bool :=
  leastYear ≤ stamp.date.year && stamp.date.year ≤ greatestYear

def ofParts? (seconds : Int) (nanos : Nat) : Option Timestamp :=
  let stamp : Timestamp := { seconds, nanos }
  if !stamp.isInRange then none
  else if nanos < nanosPerSecond then some stamp
  else if nanos < 2 * nanosPerSecond && seconds.emod 60 == 59 then some stamp
  else none

def add (stamp : Timestamp) (span : Span) : Timestamp :=
  let nanos := stamp.nanos + span
  { seconds := stamp.seconds + (nanos / nanosPerSecond : Nat), nanos := nanos % nanosPerSecond }

def padded (width : Nat) (value : Nat) : String :=
  let digits := Nat.toDigits 10 value
  String.ofList (List.replicate (width - digits.length) '0' ++ digits)

-- Years of more than four digits, and those before year 0, carry a sign.
def yearText (year : Int) : String :=
  if 0 ≤ year && year ≤ 9999 then padded 4 year.toNat
  else (if year < 0 then "-" else "+") ++ padded 4 year.natAbs

-- Three, six or nine digits, whichever are the fewest that lose nothing.
def fractionText (nanos : Nat) : String :=
  if nanos = 0 then ""
  else if nanos % 1000000 = 0 then "." ++ padded 3 (nanos / 1000000)
  else if nanos % 1000 = 0 then "." ++ padded 6 (nanos / 1000)
  else "." ++ padded 9 nanos

def dateText (date : Date) : String :=
  yearText date.year ++ "-" ++ padded 2 date.month ++ "-" ++ padded 2 date.day

def timeText (secondOfDay nanos : Nat) : String :=
  let leap := if nanos ≥ nanosPerSecond then 1 else 0
  padded 2 (secondOfDay / 3600) ++ ":" ++ padded 2 (secondOfDay / 60 % 60) ++ ":" ++
    padded 2 (secondOfDay % 60 + leap) ++ fractionText (nanos % nanosPerSecond)

def localText (stamp : Timestamp) : String :=
  dateText stamp.date ++ "T" ++ timeText stamp.secondOfDay stamp.nanos

def offsetText (stamp : Timestamp) : String :=
  stamp.localText ++ "+00:00"

def zuluText (stamp : Timestamp) : String :=
  stamp.localText ++ "Z"

end Timestamp

def epoch : Timestamp := { seconds := 0, nanos := 0 }

end PoliteCrawl.Time
