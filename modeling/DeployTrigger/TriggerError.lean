import DeployTrigger.DeployError
import DeployTrigger.Timestamp

/-! Why a run of the trigger ends without a reported address. -/
namespace DeployTrigger

inductive TriggerError where
  | clock (error : ClockBeforeEpoch)
  | deploy (error : DeployError)
  /-- The report stream failed. -/
  | report (error : IoError)
  deriving DecidableEq, Repr

def TriggerError.message : TriggerError → String
  | clock e => e.message
  | deploy e => "Deployment failed: " ++ e.message
  | report e => "Failed to write report: " ++ e.message

end DeployTrigger
