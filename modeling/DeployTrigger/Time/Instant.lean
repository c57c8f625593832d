/-!
Instants of the calendar: seconds from 1 January 1970 and nanoseconds. In the last second of a
minute the nanoseconds may pass one second; that is how a leap second is told.
-/
namespace DeployTrigger

/-- The calendar reaches from the first second of the year -262143 to the last one of 262142. -/
structure Instant where
  secs : Int
  nanos : Nat
  lower : -8334601228800 ≤ secs
  upper : secs ≤ 8210266876799
  subsecond : nanos < 1000000000 ∨ (nanos < 2000000000 ∧ secs % 60 = 59)
  deriving DecidableEq, Repr

namespace Instant

def ofSeconds? (secs : Int) (nanos : Nat) : Option Instant :=
  if h : (-8334601228800 ≤ secs ∧ secs ≤ 8210266876799) ∧
      (nanos < 1000000000 ∨ (nanos < 2000000000 ∧ secs % 60 = 59)) then
    some ⟨secs, nanos, h.1.1, h.1.2, h.2⟩
  else none

def ofMillis? (millis : Int) : Option Instant :=
  ofSeconds? (millis / 1000) ((millis % 1000).toNat * 1000000)

/-- Milliseconds from the epoch, rounded down; a leap second runs on into the next second. -/
def millis (t : Instant) : Int := t.secs * 1000 + (t.nanos / 1000000 : Nat)

/-- The calendar's own order: by seconds, then by nanoseconds. -/
def Before (s t : Instant) : Prop := s.secs < t.secs ∨ (s.secs = t.secs ∧ s.nanos < t.nanos)

instance (s t : Instant) : Decidable (s.Before t) := by unfold Before; infer_instance

def epoch : Instant := ⟨0, 0, by decide, by decide, by decide⟩

end Instant
end DeployTrigger
