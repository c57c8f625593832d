import DeployTrigger.Attempt
import DeployTrigger.Supply
import DeployTrigger.Timestamp

/-!
Deployers: given a timestamp, they deploy a contract and resolve with its address. A deployer may
have a state of its own, which each call hands on.
-/
namespace DeployTrigger

structure Deployer (σ : Type) where
  deploy : Timestamp → σ → Log.Logged Attempt × σ

/-- Outcomes to come, and the timestamps that were asked for. -/
structure Script where
  outcomes : Supply Attempt
  calls : List Timestamp
  deriving Repr

/-- A deployer that follows a script. -/
def Script.deployer : Deployer Script where
  deploy t s :=
    let (attempt, outcomes) := s.outcomes.next
    (pure attempt, ⟨outcomes, s.calls ++ [t]⟩)

end DeployTrigger
