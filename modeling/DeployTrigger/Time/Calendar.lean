/-!
Proleptic Gregorian calendar. Days are counted from 1 January 1970. Inside a cycle of 400 years the
year starts in March, so the leap day is the last one and months follow each other in a pattern
of 153 days per five months.
-/
namespace DeployTrigger.Calendar

structure Date where
  year : Int
  month : Nat
  day : Nat
  deriving DecidableEq, Repr

/-- Days from 1 March of year 0 to 1 January 1970. -/
def epochShift : Int := 719468

def daysPerCycle : Int := 146097

def isLeap (year : Int) : Bool := year % 4 = 0 && (year % 100 ≠ 0 || year % 400 = 0)

def daysInMonth (year : Int) (month : Nat) : Nat :=
  if month = 2 then (if isLeap year then 29 else 28)
  else if month = 4 || month = 6 || month = 9 || month = 11 then 30
  else 31

/-- Whether the calendar has this date. -/
def Date.isValid (d : Date) : Bool :=
  1 ≤ d.month && d.month ≤ 12 && 1 ≤ d.day && d.day ≤ daysInMonth d.year d.month

/-- The date of a day number. -/
def Date.ofDays (days : Int) : Date :=
  let shifted := days + epochShift
  let cycle := shifted / daysPerCycle
  let inCycle := shifted % daysPerCycle
  let yearInCycle := (inCycle - inCycle / 1460 + inCycle / 36524 - inCycle / 146096) / 365
  let inYear := inCycle - (365 * yearInCycle + yearInCycle / 4 - yearInCycle / 100)
  let fromMarch := (5 * inYear + 2) / 153
  let day := inYear - (153 * fromMarch + 2) / 5 + 1
  let month := if fromMarch < 10 then fromMarch + 3 else fromMarch - 9
  ⟨yearInCycle + cycle * 400 + (if month ≤ 2 then 1 else 0), month.toNat, day.toNat⟩

/-- The day number of a date. -/
def Date.toDays (d : Date) : Int :=
  let year := if d.month ≤ 2 then d.year - 1 else d.year
  let cycle := year / 400
  let yearInCycle := year % 400
  let fromMarch : Int := if 2 < d.month then d.month - 3 else d.month + 9
  let inYear := (153 * fromMarch + 2) / 5 + d.day - 1
  let inCycle := yearInCycle * 365 + yearInCycle / 4 - yearInCycle / 100 + inYear
  cycle * daysPerCycle + inCycle - epochShift

end DeployTrigger.Calendar
