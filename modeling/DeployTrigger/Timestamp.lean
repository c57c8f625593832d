import DeployTrigger.Time.Rfc3339

/-!
Milliseconds from 1 January 1970, as they are handed to a deployment entrypoint. A timestamp comes
from a clock reading; a reading whose milliseconds are negative has none.
-/
namespace DeployTrigger

structure Timestamp where
  millis : UInt64
  deriving DecidableEq, Repr

/-- A clock reading that has no timestamp, in milliseconds. -/
structure ClockBeforeEpoch where
  millis : Int
  deriving DecidableEq, Repr

/-- The reading with the name of what is wrong with it. -/
def ClockBeforeEpoch.labelled (e : ClockBeforeEpoch) : String :=
  "ClockBeforeEpoch(" ++ signedDecimal e.millis ++ ")"

def ClockBeforeEpoch.message (e : ClockBeforeEpoch) : String :=
  "Clock reading " ++ signedDecimal e.millis ++ "ms is before the Unix epoch"

namespace Timestamp

def ofInstant (t : Instant) : Except ClockBeforeEpoch Timestamp :=
  if 0 ≤ t.millis then .ok ⟨UInt64.ofNat t.millis.toNat⟩ else .error ⟨t.millis⟩

/-- The instant of a timestamp, if the calendar reaches it. -/
def toInstant? (t : Timestamp) : Option Instant := Instant.ofMillis? t.millis.toNat

def shown (t : Timestamp) : String := decimal t.millis.toNat

/-- The number and, if there is one, the calendar date. -/
def labelled (t : Timestamp) : String :=
  match t.toInstant? with
  | some i => "Timestamp(" ++ t.shown ++ ", " ++ Rfc3339.print i ++ ")"
  | none => "Timestamp(" ++ t.shown ++ ")"

instance : LE Timestamp := ⟨fun s t => s.millis ≤ t.millis⟩

instance (s t : Timestamp) : Decidable (s ≤ t) := inferInstanceAs (Decidable (s.millis ≤ t.millis))

/-- Earlier timestamps first. -/
def sort (ts : List Timestamp) : List Timestamp := ts.mergeSort (fun s t => decide (s ≤ t))

end Timestamp
end DeployTrigger
