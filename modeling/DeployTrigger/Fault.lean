/-! Failures that are reported as an error, and breakdowns that end the program on the spot. -/
namespace DeployTrigger

inductive Fault (ε : Type) where
  | error (e : ε)
  /-- The program breaks down; nothing more is known of the failure. -/
  | breakdown
  deriving DecidableEq, Repr

namespace Fault

def map {ε φ : Type} (f : ε → φ) : Fault ε → Fault φ
  | error e => error (f e)
  | breakdown => breakdown

end Fault
end DeployTrigger
