import DeployTrigger.Text.CharSet.Blank
import DeployTrigger.Time.Duration

/-!
Durations as a sum of numbers with units, such as `1m 30s`. A year is 365.25 days and a month a
twelfth of it. A reader refuses numbers that leave 64 bits on the way and fractions that do not
come out even.
-/
namespace DeployTrigger.Duration

inductive TimeUnit where
  | nano | micro | milli | second | minute | hour | day | week | month | year
  deriving DecidableEq, Repr

namespace TimeUnit

/-- Names under which a unit is read. -/
def names : TimeUnit → List String
  | nano => ["nanos", "nsec", "ns"]
  | micro => ["usec", "us", "µs"]
  | milli => ["millis", "msec", "ms"]
  | second => ["seconds", "second", "secs", "sec", "s"]
  | minute => ["minutes", "minute", "min", "mins", "m"]
  | hour => ["hours", "hour", "hr", "hrs", "h"]
  | day => ["days", "day", "d"]
  | week => ["weeks", "week", "wk", "wks", "w"]
  | month => ["months", "month", "M"]
  | year => ["years", "year", "yr", "yrs", "y"]

def all : List TimeUnit :=
  [nano, micro, milli, second, minute, hour, day, week, month, year]

def ofName? (s : String) : Option TimeUnit := all.find? (·.names.contains s)

/-- Whether a unit is counted in seconds; a smaller one is counted in nanoseconds. -/
def inSeconds : TimeUnit → Bool
  | nano | micro | milli => false
  | _ => true

/-- Seconds, or nanoseconds of a small unit. -/
def scale : TimeUnit → Nat
  | nano => 1
  | micro => 1000
  | milli => 1000000
  | second => 1
  | minute => 60
  | hour => 3600
  | day => 86400
  | week => 604800
  | month => 2630016
  | year => 31557600

/-- Seconds or nanoseconds that a fraction of the unit is counted in, and how many there are.
Fractions of a nanosecond do not exist. -/
def fractionScale? : TimeUnit → Option (Bool × Nat)
  | nano => none
  | second => some (false, 1000000000)
  | minute => some (false, 60000000000)
  | u => some (u.inSeconds, u.scale)

end TimeUnit

/-- Why a text has no duration. With `overrun` the sum is exactly one second more than the seconds
can hold, which comes to light too late for a refusal. -/
inductive ReadError where
  | refused
  | overrun
  deriving DecidableEq, Repr

/-- A number, if it fits 64 bits. -/
def word (n : Nat) : Except ReadError Nat := if n < UInt64.size then .ok n else .error .refused

/-- The duration of `secs` seconds and `nanos` nanoseconds, where one whole second among the
nanoseconds is still to be carried. -/
def settle (secs nanos : Nat) : Except ReadError Duration :=
  if nanos = 1000000000 then
    if secs + 1 < UInt64.size then .ok (ofSeconds (UInt64.ofNat (secs + 1))) else .error .overrun
  else .ok ⟨UInt64.ofNat secs, nanos % 1000000000, Nat.mod_lt _ (Nat.zero_lt_succ _)⟩

/-- Adds seconds and nanoseconds. Nanoseconds above one second are carried before the seconds are
checked, exactly one second only afterwards. -/
def add (d : Duration) (secs nanos : Nat) : Except ReadError Duration := do
  let nanos ← word (d.nanos + nanos)
  let secs ← word (if 1000000000 < nanos then secs + nanos / 1000000000 else secs)
  let secs ← word (d.secs.toNat + secs)
  settle secs nanos

/-- Adds `n` units of which each counts `scale` seconds, or nanoseconds. -/
def addScaled (d : Duration) (inSeconds : Bool) (n : Nat) : Except ReadError Duration := do
  let n ← word n
  if inSeconds then d.add n 0 else d.add 0 n

/-- A number with a unit: the whole part, and the digits after the point as a fraction. -/
structure Term where
  whole : Nat
  fraction : Option (Nat × Nat)
  unit : String
  deriving DecidableEq, Repr

/-- Adds a term: first its whole part, then its fraction, which has to come out even. -/
def addTerm (d : Duration) (t : Term) : Except ReadError Duration := do
  match TimeUnit.ofName? t.unit with
  | none => throw .refused
  | some u =>
    let d ← d.addScaled u.inSeconds (t.whole * u.scale)
    match t.fraction with
    | none => pure d
    | some (numerator, denominator) =>
      match u.fractionScale? with
      | none => throw .refused
      | some (inSeconds, scale) =>
        let n ← word (numerator * scale)
        if n % denominator = 0 then d.addScaled inSeconds (n / denominator) else throw .refused

/-- Where a reader stands: before a number, in its whole part, in its fraction or in its unit. The
letters of a unit are held last one first. -/
inductive Place where
  | seek
  | whole (n : Nat)
  | fraction (n numerator denominator : Nat)
  | unit (n : Nat) (fraction : Option (Nat × Nat)) (letters : List Char)
  deriving DecidableEq, Repr

def isBlank (c : Char) : Bool := CharSet.blank.contains c

def isLetter (c : Char) : Bool := c.isAlpha || c = 'µ'

/-- One character further: the new place, and the term that ended here. -/
def Place.step (c : Char) : Place → Option (Place × Option Term)
  | seek =>
    if c.isDigit then some (whole (digitValue c), none)
    else if isBlank c then some (seek, none)
    else none
  | whole n =>
    if c.isDigit then
      if n * 10 + digitValue c < UInt64.size then some (whole (n * 10 + digitValue c), none) else none
    else if isBlank c then some (whole n, none)
    else if isLetter c then some (unit n none [c], none)
    else if c = '.' then some (fraction n 0 1, none)
    else none
  | fraction n numerator denominator =>
    if c.isDigit then
      if numerator * 10 + digitValue c < UInt64.size && denominator * 10 < UInt64.size then
        some (fraction n (numerator * 10 + digitValue c) (denominator * 10), none)
      else none
    else if isBlank c then some (fraction n numerator denominator, none)
    else if isLetter c && denominator ≠ 1 then
      some (unit n (some (numerator, denominator)) [c], none)
    else none
  | unit n part letters =>
    let term : Term := ⟨n, part, String.ofList letters.reverse⟩
    if c.isDigit then some (whole (digitValue c), some term)
    else if isBlank c then some (seek, some term)
    else if isLetter c then some (unit n part (c :: letters), none)
    else none

/-- The terms of a text, last one first, and whether the text is a sequence of terms to its end;
`out` holds the terms found so far. -/
def termsFrom (place : Place) (out : List Term) : List Char → List Term × Bool
  | [] =>
    match place with
    | .seek => (out, true)
    | .unit n part letters => (⟨n, part, String.ofList letters.reverse⟩ :: out, true)
    | _ => (out, false)
  | c :: rest =>
    match place.step c with
    | none => (out, false)
    | some (next, none) => termsFrom next out rest
    | some (next, some t) => termsFrom next (t :: out) rest

/-- The sum of the terms of a text. A lone zero needs no unit. -/
def ofUnits (s : String) : Except ReadError Duration := do
  if s = "0" then return zero
  let (terms, complete) := termsFrom .seek [] s.toList
  let d ← terms.reverse.foldlM addTerm zero
  if complete && !terms.isEmpty then pure d else throw .refused

/-- A number with a short unit, left out when the number is zero. -/
def item (unit : String) (n : Nat) : Option String :=
  if n = 0 then none else some (decimal n ++ unit)

/-- A number with a spelled-out unit in singular or plural, left out when the number is zero. -/
def pluralItem (unit : String) (n : Nat) : Option String :=
  if n = 0 then none else some (decimal n ++ unit ++ if n = 1 then "" else "s")

/-- A duration as the sum of its units from years down to nanoseconds. -/
def inUnits (d : Duration) : String :=
  let secs := d.secs.toNat
  let inYear := secs % 31557600
  let inMonth := inYear % 2630016
  let inDay := inMonth % 86400
  let items := [
    pluralItem "year" (secs / 31557600),
    pluralItem "month" (inYear / 2630016),
    pluralItem "day" (inMonth / 86400),
    item "h" (inDay / 3600),
    item "m" (inDay % 3600 / 60),
    item "s" (inDay % 60),
    item "ms" (d.nanos / 1000000),
    item "us" (d.nanos / 1000 % 1000),
    item "ns" (d.nanos % 1000)].filterMap id
  if items.isEmpty then "0s" else " ".intercalate items

end DeployTrigger.Duration
