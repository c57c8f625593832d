import DeployTrigger.Text.Numeral
import DeployTrigger.Time.Calendar
import DeployTrigger.Time.Instant

/-!
Instants as RFC 3339 text in universal time. The fraction has no digits, or three, six or nine,
whichever is the first to hold it. Years have four digits; outside of 0 to 9999 they have a sign.
-/
namespace DeployTrigger.Rfc3339

def year (y : Int) : String :=
  if 0 ≤ y ∧ y ≤ 9999 then paddedDecimal 4 y.toNat
  else (if y < 0 then "-" else "+") ++ paddedDecimal 4 y.natAbs

def date (d : Calendar.Date) : String :=
  year d.year ++ "-" ++ paddedDecimal 2 d.month ++ "-" ++ paddedDecimal 2 d.day

/-- Hours, minutes and seconds of a day; `leap` is 1 in a leap second. -/
def timeOfDay (second leap : Nat) : String :=
  paddedDecimal 2 (second / 3600) ++ ":" ++ paddedDecimal 2 (second / 60 % 60) ++ ":" ++
    paddedDecimal 2 (second % 60 + leap)

def fraction (nanos : Nat) : String :=
  if nanos = 0 then ""
  else if nanos % 1000000 = 0 then "." ++ paddedDecimal 3 (nanos / 1000000)
  else if nanos % 1000 = 0 then "." ++ paddedDecimal 6 (nanos / 1000)
  else "." ++ paddedDecimal 9 nanos

def print (t : Instant) : String :=
  date (.ofDays (t.secs / 86400)) ++ "T" ++
    timeOfDay (t.secs % 86400).toNat (t.nanos / 1000000000) ++
    fraction (t.nanos % 1000000000) ++ "+00:00"

end DeployTrigger.Rfc3339
