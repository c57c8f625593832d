import DeployTrigger.Text.CharSet.Blank
import DeployTrigger.Text.Numeral
import DeployTrigger.Time.Calendar
import DeployTrigger.Time.Instant

/-!
A tolerant reader of instants: RFC 3339 with a free number of year digits behind a sign, with one
digit where two are usual, with white space between the parts, and with `UTC` in place of an
offset. The fields are checked in reading order, the date and the offset at the end.
-/
namespace DeployTrigger.Rfc3339

inductive ReadError where
  | outOfRange
  | impossible
  | invalid
  | tooShort
  | tooLong
  deriving DecidableEq, Repr

def ReadError.message : ReadError → String
  | .outOfRange => "input is out of range"
  | .impossible => "no possible date and time matching input"
  | .invalid => "input contains invalid characters"
  | .tooShort => "premature end of input"
  | .tooLong => "trailing input"

/-- Takes a value from the front of a text. -/
abbrev Reader := StateT (List Char) (Except ReadError)

def isBlank (c : Char) : Bool := CharSet.blank.contains c

def skipBlanks : Reader Unit := modify (·.dropWhile isBlank)

/-- The next character is `c`. -/
def literal (c : Char) : Reader Unit := do
  match ← get with
  | [] => throw .tooShort
  | d :: rest => if d = c then set rest else throw .invalid

/-- A number of at least one digit and of at most `width`, below 2⁶³. -/
def number (width : Option Nat) : Reader Nat := do
  match ← get with
  | [] => throw .tooShort
  | cs =>
    let digits := match width with
      | some w => (cs.take w).takeWhile Char.isDigit
      | none => cs.takeWhile Char.isDigit
    if digits.isEmpty then throw .invalid
    if UInt64.size / 2 ≤ digitsFrom 0 digits then throw .outOfRange
    set (cs.drop digits.length)
    pure (digitsFrom 0 digits)

/-- A number of two digits in a range, after white space. -/
def field (low high : Nat) : Reader Nat := do
  skipBlanks
  let n ← number (some 2)
  if low ≤ n && n ≤ high then pure n else throw .outOfRange

/-- A year: four digits, or a sign and any number of digits. Years have 32 bits here. -/
def yearField : Reader Int := do
  skipBlanks
  let y : Int ← match ← get with
    | '-' :: rest => do
      set rest
      let n ← number none
      pure (-(n : Int))
    | '+' :: rest => do
      set rest
      let n ← number none
      pure (n : Int)
    | _ => do
      let n ← number (some 4)
      pure (n : Int)
  if -2147483648 ≤ y && y ≤ 2147483647 then pure y else throw .outOfRange

def separator (c : Char) : Reader Unit := do
  skipBlanks
  literal c

/-- Nanoseconds of a fraction; digits after the ninth are dropped. -/
def fractionField : Reader Nat := do
  match ← get with
  | '.' :: rest =>
    set rest
    let before := rest
    let n ← number (some 9)
    let used := before.length - (← get).length
    modify (·.dropWhile Char.isDigit)
    pure (n * Nat.pow 10 (9 - used))
  | _ => pure 0

/-- The next two characters, where a character of several bytes is as good as two. -/
def pair : List Char → Except ReadError (Char × Char)
  | a :: b :: _ => .ok (a, b)
  | [a] => if a.utf8Size < 2 then .error .tooShort else .error .invalid
  | [] => .error .tooShort

/-- Hours of an offset: two digits. -/
def offsetHours : Reader Nat := do
  let (a, b) ← (pair (← get) : Except ReadError _)
  if Char.isDigit a && Char.isDigit b then
    modify (·.drop 2)
    pure (digitValue a * 10 + digitValue b)
  else throw .invalid

/-- Minutes of an offset: two digits below 60. -/
def offsetMinutes : Reader Nat := do
  let (a, b) ← (pair (← get) : Except ReadError _)
  if Char.isDigit a && Char.isDigit b then
    if '5' < a then throw .outOfRange
    modify (·.drop 2)
    pure (digitValue a * 10 + digitValue b)
  else throw .invalid

/-- Seconds east of universal time. -/
def numericOffset : Reader Int := do
  let sign : Int ← match ← get with
    | '+' :: rest => do set rest; pure 1
    | '-' :: rest => do set rest; pure (-1)
    | '−' :: rest => do set rest; pure (-1)
    | [] => throw .tooShort
    | _ => throw .invalid
  let hours ← offsetHours
  modify (·.dropWhile fun c => c = ':' || isBlank c)
  let minutes ← offsetMinutes
  pure (sign * (hours * 3600 + minutes * 60 : Nat))

def offsetField : Reader Int := do
  match ← get with
  | u :: t :: c :: rest =>
    if [u, t, c].map Char.toUpper = ['U', 'T', 'C'] then set rest; pure 0
    else if u = 'Z' || u = 'z' then set (t :: c :: rest); pure 0
    else numericOffset
  | u :: rest => if u = 'Z' || u = 'z' then set rest; pure 0 else numericOffset
  | [] => numericOffset

/-- The fields of an instant as they stand in the text. -/
structure Fields where
  date : Calendar.Date
  hour : Nat
  minute : Nat
  second : Nat
  nanos : Nat
  offset : Int
  deriving DecidableEq, Repr

def fields : Reader Fields := do
  let year ← yearField
  separator '-'
  let month ← field 1 12
  separator '-'
  let day ← field 1 31
  match ← get with
  | [] => throw .tooShort
  | c :: rest => if c = 't' || c = 'T' || c = ' ' then set rest else throw .invalid
  let hour ← field 0 23
  separator ':'
  let minute ← field 0 59
  separator ':'
  let second ← field 0 60
  let nanos ← fractionField
  skipBlanks
  let offset ← offsetField
  pure ⟨⟨year, month, day⟩, hour, minute, second, nanos, offset⟩

/-- The instant of some fields. Second 60 is the leap second after second 59. -/
def Fields.toInstant (f : Fields) : Except ReadError Instant :=
  if !f.date.isValid || f.date.year < -262143 || 262142 < f.date.year then .error .outOfRange
  else if 86400 ≤ f.offset.natAbs then .error .outOfRange
  else
    let second := min f.second 59
    let nanos := if f.second = 60 then f.nanos + 1000000000 else f.nanos
    let secs := f.date.toDays * 86400 + (f.hour * 3600 + f.minute * 60 + second : Nat) - f.offset
    match Instant.ofSeconds? secs nanos with
    | some t => .ok t
    | none => .error .impossible

def read (s : String) : Except ReadError Instant := do
  let (f, rest) ← fields.run s.toList
  if !(rest.dropWhile isBlank).isEmpty then throw .tooLong
  f.toInstant

end DeployTrigger.Rfc3339
