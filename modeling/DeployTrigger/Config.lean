import DeployTrigger.Limits
import DeployTrigger.Time.Duration

/-! Settings of a deployment run. Every setting has a default. -/
namespace DeployTrigger

structure Config where
  /-- Name of the exported deployment entrypoint. -/
  entrypoint : String := "deploy_contract"
  /-- How long to wait for the entrypoint; for ever if absent. -/
  timeout : Option Duration := none
  limits : Limits := {}
  deriving DecidableEq, Repr

end DeployTrigger
