import DeployTrigger.Supply
import DeployTrigger.Time.Instant

/-! Clocks, as the readings they are going to give and the number of readings they gave. -/
namespace DeployTrigger

structure Clock where
  readings : Supply Instant
  reads : Nat
  deriving DecidableEq, Repr

namespace Clock

def ofReadings (readings : Supply Instant) : Clock := ⟨readings, 0⟩

/-- A clock that stands still. -/
def fixed (t : Instant) : Clock := ofReadings (.always t)

/-- One reading, and the clock after it. -/
def read (c : Clock) : Instant × Clock := (c.readings.next.1, ⟨c.readings.next.2, c.reads + 1⟩)

end Clock
end DeployTrigger
