/-!
# Dates and times

An instant counts the time since the start of 1970 in universal time. Days are turned into dates
of the Gregorian calendar, extended to all years, by cutting the days since 1 March of year 0
into eras of 400 years.
-/
namespace LabRegistry

/-- An instant in universal time; `nanos` from one billion on are within a leap second. -/
structure Instant where
  seconds : Int
  nanos : Nat
deriving DecidableEq, Inhabited

structure Date where
  year : Int
  month : Nat
  day : Nat
deriving DecidableEq, Repr

namespace Date

/-- The date of the day that lies `days` after 1 January 1970. -/
def ofDays (days : Int) : Date :=
  let shifted := days + 719468
  let era := shifted.fdiv 146097
  let dayOfEra := (shifted - era * 146097).toNat
  let yearOfEra := (dayOfEra - dayOfEra / 1460 + dayOfEra / 36524 - dayOfEra / 146096) / 365
  let dayOfYear := dayOfEra - (365 * yearOfEra + yearOfEra / 4 - yearOfEra / 100)
  let monthFromMarch := (5 * dayOfYear + 2) / 153
  let day := dayOfYear - (153 * monthFromMarch + 2) / 5 + 1
  let month := if monthFromMarch < 10 then monthFromMarch + 3 else monthFromMarch - 9
  let year : Int := yearOfEra + era * 400
  ⟨if month ≤ 2 then year + 1 else year, month, day⟩

end Date

namespace Instant

/-- The instant one microsecond later, the finest step that timestamps show. -/
def next (t : Instant) : Instant :=
  if t.nanos + 1000 < 1000000000 then ⟨t.seconds, t.nanos + 1000⟩
  else ⟨t.seconds + 1, t.nanos + 1000 - 1000000000⟩

def padded (width n : Nat) : String :=
  let digits := Nat.toDigits 10 n
  String.ofList (List.replicate (width - digits.length) '0' ++ digits)

/-- Four digits for the years 0 to 9999, and a sign before all others. -/
def yearText (year : Int) : String :=
  if year < 0 then "-" ++ padded 4 year.natAbs
  else if year > 9999 then "+" ++ padded 4 year.natAbs
  else padded 4 year.natAbs

def dateText (t : Instant) : String :=
  let date := Date.ofDays (t.seconds.fdiv 86400)
  yearText date.year ++ "-" ++ padded 2 date.month ++ "-" ++ padded 2 date.day

/-- The time of day; a leap second is the second 60 of its minute. -/
def timeText (t : Instant) : String :=
  let second := (t.seconds.fmod 86400).toNat
  padded 2 (second / 3600) ++ ":" ++ padded 2 (second / 60 % 60) ++ ":" ++
    padded 2 (second % 60 + t.nanos / 1000000000)

/-- The text of an instant in snapshots, cut to microseconds. -/
def timestamp (t : Instant) : String :=
  t.dateText ++ " " ++ t.timeText ++ "." ++ padded 6 (t.nanos % 1000000000 / 1000)

/-- The fraction with as many groups of three digits as it needs. -/
def fractionText (nanos : Nat) : String :=
  if nanos = 0 then ""
  else if nanos % 1000000 = 0 then "." ++ padded 3 (nanos / 1000000)
  else if nanos % 1000 = 0 then "." ++ padded 6 (nanos / 1000)
  else "." ++ padded 9 nanos

/-- The text of an instant with its offset from universal time, which is zero. -/
def internetText (t : Instant) : String :=
  t.dateText ++ "T" ++ t.timeText ++ fractionText (t.nanos % 1000000000) ++ "+00:00"

end Instant
end LabRegistry
